import LiveRoom.Proofs.Terminal

/-!
# Questions over an output that fills up

An output with room for so many bytes keeps the first of the bytes that it is given and no
others (`Stream.Output.given`), however they are cut into writes.  Where a prompt does not fit,
it is cut at any byte, inside a character too.

To ask over such an output is to read as over one without a bound, as long as the prompts fit.
Where one does not, the question fails and the stream is left as it was
(`Terminal.ask_given`), and so it goes with all questions behind it.
-/

namespace LiveRoom

namespace Stream.Output

/-- **An output with so much room**, after it has been given some bytes. -/
def given (room : Nat) (bytes : List UInt8) : Output :=
  ⟨some (room - bytes.length), bytes.take room⟩

/-- At first it has been given nothing. -/
theorem empty_eq (room : Nat) : empty (some room) = given room [] := by
  rw [empty, given, List.take_nil]
  rfl

variable {room : Nat} {bytes : List UInt8}

/-- Writing is giving, and it succeeds as long as there is room. -/
theorem write_given (more : List UInt8) :
    (given room bytes).write more =
      (decide (more.length ≤ room - bytes.length), given room (bytes ++ more)) := by
  have hfits : (more.take (room - bytes.length)).length = more.length ↔
      more.length ≤ room - bytes.length := by
    rw [List.length_take]
    omega
  simp only [write, fitting, given, hfits, Option.map_some, List.take_append, List.length_append,
    Nat.sub_sub]

/-- An output that is full takes nothing more. -/
theorem given_append (h : room ≤ bytes.length) (more : List UInt8) :
    given room (bytes ++ more) = given room bytes := by
  simp only [given, List.length_append, List.take_append_of_le_length h, Output.mk.injEq,
    Option.some.injEq, and_true]
  omega

end Stream.Output

namespace Terminal

open Stream.Output (given)

/-! ## One question -/

/-- What is written to ask some questions. -/
def promptBytes (prompts : List String) : List UInt8 :=
  prompts.flatMap fun prompt => Utf8.encode (promptText prompt).toList

theorem promptBytes_append (first second : List String) :
    promptBytes (first ++ second) = promptBytes first ++ promptBytes second :=
  List.flatMap_append

theorem promptBytes_singleton (prompt : String) :
    promptBytes [prompt] = Utf8.encode prompt.toList ++ Utf8.encode [':', ' '] := by
  have hprompt : (promptText prompt).toList = prompt.toList ++ [':', ' '] :=
    String.toList_append
  rw [promptBytes, List.flatMap_singleton, hprompt, Utf8.encode_append]

/-- **A question over an output with room for so many bytes** is read if its whole prompt fits
behind what was written before; otherwise it fails, and the stream is left alone. -/
theorem ask_given (prompt : String) (input : Stream.Input) (room : Nat) (bytes : List UInt8) :
    ask prompt input (given room bytes) =
      let read := if (bytes ++ promptBytes [prompt]).length ≤ room then readLine input
        else (.failed notWritten, input)
      (read.1, read.2, given room (bytes ++ promptBytes [prompt])) := by
  have hlength : (Utf8.encode [':', ' ']).length = 2 := by decide
  simp only [ask, Stream.Output.write_given, promptBytes_singleton, List.length_append, hlength,
    ← List.append_assoc]
  -- The text of the prompt may be cut, then the colon behind it, or neither.
  by_cases hprompt : (Utf8.encode prompt.toList).length ≤ room - bytes.length
  · by_cases hcolon : 2 ≤ room - (bytes.length + (Utf8.encode prompt.toList).length)
    · have hfits : bytes.length + (Utf8.encode prompt.toList).length + 2 ≤ room := by omega
      simp [hprompt, hcolon, hfits]
    · have hfits : ¬ bytes.length + (Utf8.encode prompt.toList).length + 2 ≤ room := by omega
      simp [hprompt, hcolon, hfits]
  · have hfull : given room (bytes ++ Utf8.encode prompt.toList ++ Utf8.encode [':', ' ']) =
        given room (bytes ++ Utf8.encode prompt.toList) := by
      refine Stream.Output.given_append ?_ _
      rw [List.length_append]
      omega
    have hfits : ¬ bytes.length + (Utf8.encode prompt.toList).length + 2 ≤ room := by omega
    simp only [hprompt, hfits, hfull, decide_false, Bool.not_false, if_true, if_false]

/-- A read never fails for want of room. -/
theorem readLine_ne_notWritten (input : Stream.Input) :
    (readLine input).1 ≠ .failed notWritten := by
  rw [readLine, readingOf]
  split
  · exact Input.noConfusion
  · split
    · rw [ne_eq, Input.failed.injEq]
      decide
    · exact Input.noConfusion

/-! ## Many questions -/

theorem askAll_append (first second : List String) (input : Stream.Input)
    (output : Stream.Output) :
    askAll (first ++ second) input output =
      let earlier := askAll first input output
      let later := askAll second earlier.2.1 earlier.2.2
      (earlier.1 ++ later.1, later.2) := by
  induction first generalizing input output with
  | nil => rfl
  | cons prompt first ih =>
    simp only [List.cons_append, askAll, ih]

theorem length_askAll (prompts : List String) (input : Stream.Input) (output : Stream.Output) :
    (askAll prompts input output).1.length = prompts.length := by
  induction prompts generalizing input output with
  | nil => rfl
  | cons prompt prompts ih => rw [askAll, List.length_cons, ih, List.length_cons]

/-- What comes back for a question does not depend on those behind it. -/
theorem getElem?_askAll (earlier later : List String) (prompt : String) (input : Stream.Input)
    (output : Stream.Output) :
    let before := (askAll earlier input output).2
    (askAll (earlier ++ prompt :: later) input output).1[earlier.length]? =
      some (ask prompt before.1 before.2).1 := by
  rw [askAll_append, ← length_askAll earlier input output]
  dsimp only
  rw [List.getElem?_append_right (Nat.le_refl _), Nat.sub_self]
  rfl

/-- Over an output without a bound, it is what is read there. -/
theorem getElem?_askAll_unbounded (earlier later : List String) (prompt : String)
    (input : Stream.Input) {output : Stream.Output} (h : output.room = none) :
    (askAll (earlier ++ prompt :: later) input output).1[earlier.length]? =
      some (readLine (askAll earlier input output).2.1).1 := by
  obtain ⟨-, -, hstill⟩ := askAll_eq input h earlier
  rw [getElem?_askAll, hstill, ask_of_unbounded rfl]

/-- **All that was written** is what fits of the prompts. -/
theorem output_askAll_given (prompts : List String) (input : Stream.Input) (room : Nat)
    (bytes : List UInt8) :
    (askAll prompts input (given room bytes)).2.2 = given room (bytes ++ promptBytes prompts) := by
  induction prompts generalizing input bytes with
  | nil => exact congrArg (given room) (List.append_nil bytes).symm
  | cons prompt prompts ih =>
    rw [askAll, ask_given]
    dsimp only
    rw [ih, List.append_assoc, ← promptBytes_append, List.singleton_append]

/-- **As long as the prompts fit**, the stream is read as over an output without a bound. -/
theorem input_askAll_given {prompts : List String} {room : Nat} {bytes : List UInt8}
    {unbounded : Stream.Output} (hunbounded : unbounded.room = none) (input : Stream.Input)
    (h : (bytes ++ promptBytes prompts).length ≤ room) :
    (askAll prompts input (given room bytes)).2.1 = (askAll prompts input unbounded).2.1 := by
  induction prompts generalizing input bytes unbounded with
  | nil => rfl
  | cons prompt prompts ih =>
    rw [← List.singleton_append, promptBytes_append, ← List.append_assoc] at h
    have hfirst : (bytes ++ promptBytes [prompt]).length ≤ room := by
      rw [List.length_append] at h
      omega
    rw [askAll, askAll_cons hunbounded, ask_given, if_pos hfirst]
    exact ih rfl _ h

/-! ## Prompts without room -/

/-- **A question behind others** is read if the prompts up to its own fit. -/
theorem ask_after (earlier : List String) (prompt : String) (input : Stream.Input) (room : Nat) :
    let before := (askAll earlier input (.empty (some room))).2
    let call := ask prompt before.1 before.2
    (call.1, call.2.1) = if (promptBytes (earlier ++ [prompt])).length ≤ room
      then readLine before.1 else (.failed notWritten, before.1) := by
  intro before call
  have houtput : before.2 = given room (promptBytes earlier) := by
    show (askAll earlier input _).2.2 = _
    rw [Stream.Output.empty_eq]
    exact output_askAll_given earlier input room []
  have hcall := ask_given prompt before.1 room (promptBytes earlier)
  rw [← houtput, ← promptBytes_append] at hcall
  rw [show call = _ from hcall]

/-- **A prompt that does not fit reads nothing.**

Whatever is asked, and of whatever stream: a question is read exactly if the bytes of all
prompts up to its own fit into the output, and then what comes back is the same as over an output
without a bound.  Every other question fails and leaves the stream as it was.  What is written in
all are the first bytes of the prompts, as many as there is room for. -/
theorem unwritten_prompt_reads_nothing (input : Stream.Input) (prompts : List String)
    (room : Nat) :
    let asked := askAll prompts input (.empty (some room))
    let unbounded := askAll prompts input (.empty none)
    let needed (prompts : List String) : List UInt8 :=
      prompts.flatMap fun prompt => Utf8.encode (prompt ++ ": ").toList
    (∀ earlier prompt later, prompts = earlier ++ prompt :: later →
      let before := (askAll earlier input (.empty (some room))).2
      let call := ask prompt before.1 before.2
      asked.1[earlier.length]? = some call.1 ∧
      (askAll (earlier ++ [prompt]) input (.empty (some room))).2 = call.2 ∧
      ((needed (earlier ++ [prompt])).length ≤ room →
        (call.1, call.2.1) = readLine before.1 ∧ call.1 ≠ .failed "failed to write whole buffer" ∧
          asked.1[earlier.length]? = unbounded.1[earlier.length]?) ∧
      (room < (needed (earlier ++ [prompt])).length →
        call.1 = .failed "failed to write whole buffer" ∧ call.2.1 = before.1)) ∧
    asked.1.length = prompts.length ∧ asked.2.2.written = (needed prompts).take room := by
  intro asked unbounded needed
  refine ⟨?_, length_askAll prompts input _, ?_⟩
  · rintro earlier prompt later rfl before call
    have hasked : asked.1[earlier.length]? = some call.1 :=
      getElem?_askAll earlier later prompt input _
    have hcall : (call.1, call.2.1) = _ := ask_after earlier prompt input room
    refine ⟨hasked, ?_, fun hfits => ?_, fun hroom => ?_⟩
    · rw [askAll_append]
      rfl
    · replace hcall := hcall.trans (if_pos hfits)
      have hearlier : ([] ++ promptBytes earlier).length ≤ room := by
        rw [show needed (earlier ++ [prompt]) = promptBytes earlier ++ promptBytes [prompt] from
          promptBytes_append earlier [prompt], List.length_append] at hfits
        exact Nat.le_trans (Nat.le_add_right _ _) hfits
      have hbefore : before.1 = (askAll earlier input (.empty none)).2.1 := by
        show (askAll earlier input _).2.1 = _
        rw [Stream.Output.empty_eq]
        exact input_askAll_given rfl input hearlier
      have hread : call.1 = (readLine before.1).1 := congrArg Prod.fst hcall
      refine ⟨hcall, ?_, ?_⟩
      · rw [hread]
        exact readLine_ne_notWritten before.1
      · rw [hasked, hread, hbefore]
        exact (getElem?_askAll_unbounded earlier later prompt input rfl).symm
    · exact Prod.mk.inj (hcall.trans (if_neg (Nat.not_le.mpr hroom)))
  · have hempty : Stream.Output.empty (some room) = given room [] := Stream.Output.empty_eq room
    show (askAll prompts input _).2.2.written = _
    rw [hempty, output_askAll_given]
    rfl

/-- Two questions over an output that has room for the first and for half a character of the
second. -/
theorem unwritten_prompt_reads_nothing_behind_half_character :
    let input : Stream.Input := .ofBytes [0x31, 0x0A, 0x32, 0x0A] 1 (by decide)
    let asked := askAll ["a", "é"] input (.empty (some 4))
    let before := (askAll ["a"] input (.empty (some 4))).2
    ["a", "é"] = ["a"] ++ "é" :: [] ∧
      (Utf8.encode "a: ".toList).length ≤ 4 ∧ 4 < (Utf8.encode "a: é: ".toList).length ∧
      asked.1[0]? = (askAll ["a", "é"] input (.empty none)).1[0]? ∧
      asked.1[1]? = some (.failed "failed to write whole buffer") ∧ asked.2.1 = before.1 ∧
      asked.2.2.written = [0x61, 0x3A, 0x20, 0xC3] := by
  intro input asked before
  obtain ⟨hcalls, -, hwritten⟩ := unwritten_prompt_reads_nothing input ["a", "é"] 4
  obtain ⟨-, -, hfits, -⟩ := hcalls [] "a" ["é"] rfl
  obtain ⟨hsecond, hleft, -, hroom⟩ := hcalls ["a"] "é" [] rfl
  obtain ⟨-, -, hfirst⟩ := hfits (by decide)
  obtain ⟨hfailed, hstill⟩ := hroom (by decide)
  refine ⟨rfl, by decide, by decide, hfirst, ?_, ?_, hwritten.trans (by decide)⟩
  · rw [← hfailed]
    exact hsecond
  · exact (congrArg Prod.fst hleft).trans hstill

end Terminal

end LiveRoom
