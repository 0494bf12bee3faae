import LiveRoom.Proofs.Command.Effects
import LiveRoom.Proofs.Text.Numeral

/-!
# Choosing an input by its number

Three commands ask for one of the configured inputs by its number.  An answer is accepted
for what it spells and not for how: with blanks around it, with a plus sign, with zeros in
front, it chooses the input that has this number, counted from one
(`Command.input_chosen_by_number`).  Anything else is quoted back and nothing is sent: no
number at all, zero, and every number beyond the last input, no matter how many digits it
has.  A number that does not fit into a word is among these, since there are fewer inputs
than that.
-/

namespace LiveRoom

/-- **An input is found** exactly by a number from one to the count of inputs, and it is the
one in that place. -/
theorem Config.input?_eq_dite (config : Config) (number : Nat) :
    config.input? number =
      if h : 1 ≤ number ∧ number - 1 < config.inputs.length then
        some (config.inputs.get ⟨number - 1, h.2⟩)
      else none := by
  cases number with
  | zero => rfl
  | succ index =>
    rw [input?]
    by_cases hindex : index < config.inputs.length
    · simp [hindex]
    · simp [hindex]

theorem Config.input?_eq_some_iff {config : Config} {number : Nat} {url : String} :
    config.input? number = some url ↔
      1 ≤ number ∧ number ≤ config.inputs.length ∧ config.inputs[number - 1]? = some url := by
  rw [Command.input?_eq_some_iff]
  constructor
  · rintro ⟨index, rfl, h⟩
    obtain ⟨hindex, -⟩ := List.getElem?_eq_some_iff.mp h
    exact ⟨Nat.succ_pos index, hindex, h⟩
  · rintro ⟨hone, -, h⟩
    exact ⟨number - 1, (Nat.sub_add_cancel hone).symm, h⟩

namespace Command

variable {σ τ : Type} {command : Command} {verb : String} {config : Config}

/-- What an answer stands for, among the inputs. -/
theorem chosen_iff (hsize : config.inputs.length < Text.wordSize) {text url : String} :
    (∃ number, Text.numeral? (Text.trimmed text).toList = some number ∧
        config.input? number = some url) ↔
      ∃ number, Text.Chooses text.toList number ∧ 1 ≤ number ∧
        number ≤ config.inputs.length ∧ config.inputs[number - 1]? = some url := by
  have htrimmed : (Text.trimmed text).toList = Text.trim text.toList := String.toList_ofList
  simp only [htrimmed, Text.numeral?_eq_some_iff, Text.chooses_iff, Config.input?_eq_some_iff]
  constructor
  · rintro ⟨number, ⟨hspells, -⟩, hurl⟩
    exact ⟨number, hspells, hurl⟩
  · rintro ⟨number, hspells, hone, hcount, hurl⟩
    -- The number of an input fits into a word, since the count of inputs does.
    exact ⟨number, ⟨hspells, Nat.lt_of_le_of_lt hcount hsize⟩, hone, hcount, hurl⟩

section Asking
variable (hasks : (command, verb) ∈ inputVerbs) {source : LineSource σ} (link : Link τ) {s : σ}
  (t : τ) {text : String} (read : (source.next s).1 = .line text)
include hasks read

/-- **An answer that chooses an input** has it sent. -/
theorem posts_of_chosen {url : String}
    (h : ∃ number, Text.numeral? (Text.trimmed text).toList = some number ∧
      config.input? number = some url) :
    (command.run config source link s t).trace.posts =
      [(command.path, some (Payload.input ⟨url⟩).body)] := by
  obtain ⟨number, hnumber, hurl⟩ := h
  have hanswer : (source.next s).1.answer = .ok (Text.trimmed text) := by
    rw [read]
    rfl
  have hoffer : (do
      let number ← Text.numeral? (Text.trimmed text).toList
      let url ← config.input? number
      return Payload.input ⟨url⟩) = some (.input ⟨url⟩) := by
    simp [hnumber, hurl]
  rw [run_of_accepts source link s t (plan_of_mem_inputVerbs config hasks) hanswer hoffer,
    Performance.after, Trace.posts_append, posts_delivered]
  rfl

/-- **Any other answer** is declined. -/
theorem run_of_not_chosen
    (h : ¬ ∃ url number, Text.numeral? (Text.trimmed text).toList = some number ∧
      config.input? number = some url) :
    ∃ prompt, command.run config source link s t =
      ⟨[.prompt prompt], .error (.rejected (.notOffered (Text.trimmed text))),
        (source.next s).2, t⟩ := by
  have hanswer : (source.next s).1.answer = .ok (Text.trimmed text) := by
    rw [read]
    rfl
  refine ⟨_, run_of_declines source link s t (plan_of_mem_inputVerbs config hasks) hanswer ?_⟩
  refine Option.bind_eq_none_iff.mpr fun number hnumber => ?_
  exact Option.bind_eq_none_iff.mpr fun url hurl => absurd ⟨url, number, hnumber, hurl⟩ h

/-- **An input is chosen by its number**, whatever way the number is written.

* An input is sent exactly if the answer, within blanks, is at most one plus sign and then
  digits, and their value is the number of the input.
* Every other answer is quoted back without the blanks around it.  Nothing is sent, and the
  link is left alone.
* Whatever the number is, an input is looked for only in a place that there is. -/
theorem input_chosen_by_number (hsize : config.inputs.length < Text.wordSize) :
    let ran := command.run config source link s t
    (∀ url, (∃ body, ran.trace.posts = [(command.path, some body)] ∧
        Json.decode? body = some (.object [("inputUrl", .string url)])) ↔
      ∃ number, Text.Chooses text.toList number ∧ 1 ≤ number ∧
        number ≤ config.inputs.length ∧ config.inputs[number - 1]? = some url) ∧
    ((∀ number, Text.Chooses text.toList number → ¬ (1 ≤ number ∧ number ≤ config.inputs.length)) →
      ran.trace.posts = [] ∧ ran.link = t ∧ ∃ why : Rejection,
        ran.result = .error (.rejected why) ∧
        why.message =
          "not a valid choice " ++ Text.quoted (Text.trimmed text) ++ ", nothing sent") ∧
    ∀ number, config.input? number =
      if h : 1 ≤ number ∧ number - 1 < config.inputs.length then
        some (config.inputs.get ⟨number - 1, h.2⟩)
      else none := by
  intro ran
  refine ⟨fun url => ?_, fun hnone => ?_, config.input?_eq_dite⟩
  · rw [← chosen_iff hsize]
    constructor
    · rintro ⟨body, hposts, hbody⟩
      -- Something was sent, so some input was chosen; its locator is read back from the body.
      by_cases hchosen : ∃ url number, Text.numeral? (Text.trimmed text).toList = some number ∧
          config.input? number = some url
      · obtain ⟨chosen, hchosen⟩ := hchosen
        have hsent := (posts_of_chosen hasks link t read hchosen).symm.trans hposts
        obtain rfl : (Payload.input ⟨chosen⟩).body = body := by
          simpa using hsent
        have hmembers := (Payload.decode?_body (.input ⟨chosen⟩)).symm.trans hbody
        obtain rfl : chosen = url := by
          simpa [Payload.members] using hmembers
        exact hchosen
      · obtain ⟨prompt, hrun⟩ := run_of_not_chosen hasks link t read hchosen
        simp only [ran, hrun] at hposts
        cases hposts
    · intro hchosen
      exact ⟨_, posts_of_chosen hasks link t read hchosen, Payload.decode?_body (.input ⟨url⟩)⟩
  · have hchosen : ¬ ∃ url number, Text.numeral? (Text.trimmed text).toList = some number ∧
        config.input? number = some url := by
      rintro ⟨url, h⟩
      obtain ⟨number, hnumber, hone, hcount, -⟩ := (chosen_iff hsize).mp h
      exact hnone number hnumber ⟨hone, hcount⟩
    obtain ⟨prompt, hrun⟩ := run_of_not_chosen hasks link t read hchosen
    simp only [ran, hrun]
    exact ⟨rfl, trivial, _, rfl, rfl⟩

end Asking

/-- Zeros in front, more of them than a word has digits, do not hide the third input from
the command that queries it. -/
theorem input_chosen_by_number_behind_zeros :
    let answer := "\u3000+" ++ String.ofList (List.replicate 40 '0') ++ "3\u00A0"
    let link := Link.canned fun path => .ok ⟨path, 200, "ok"⟩
    let ran := queryInput.run Config.default .script link [.line answer] []
    (queryInput, "query") ∈ inputVerbs ∧ (LineSource.script.next [.line answer]).1 = .line answer ∧
      Config.default.inputs.length < Text.wordSize ∧
      ∃ body, ran.trace.posts = [(queryInput.path, some body)] ∧
        Json.decode? body = some (.object [("inputUrl", .string "nba_ad.mp4")]) := by
  intro answer link ran
  have hasks : (queryInput, "query") ∈ inputVerbs := by decide
  have hread : (LineSource.script.next [.line answer]).1 = .line answer := rfl
  have hsize : Config.default.inputs.length < Text.wordSize := by decide
  have hanswer : Text.Chooses answer.toList 3 :=
    ⟨['\u3000'], '+' :: (List.replicate 40 '0' ++ ['3']), ['\u00A0'], by decide,
      List.all_eq_true.mp (by decide), List.all_eq_true.mp (by decide), ['+'],
      List.replicate 40 '0' ++ ['3'], rfl, .inr rfl, by decide, List.all_eq_true.mp (by decide),
      by decide⟩
  obtain ⟨hsent, -⟩ := input_chosen_by_number hasks link [] hread hsize
  exact ⟨hasks, hread, hsize, (hsent "nba_ad.mp4").mpr ⟨3, hanswer, by decide, by decide, rfl⟩⟩

end Command

end LiveRoom
