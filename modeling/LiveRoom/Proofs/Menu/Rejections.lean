import LiveRoom.Proofs.Menu.Rounds
import LiveRoom.Proofs.Text.Quoted

/-!
# What is told about rejected input

Two kinds of lines repeat what somebody typed: that it is no choice of the menu, and that it is
not among the answers that a question offers.  Both are one yellow text, and nothing in it is a
control character, whatever was typed (`Menu.exists_piece_of_rejected`).  So what is typed can
neither end the line nor leave the terminal coloured.

Both also tell what was typed, up to the blanks around it (`Menu.answer_eq_of_rejected`): it
stands quoted between fixed words, and quoted text is read back.

A session rejects what was typed in its rounds (`Round.Rejects`), so both hold of all lines that
any two sessions print about rejected input.
-/

namespace LiveRoom.Menu

/-! ## The lines -/

/-- The words in front of what was rejected, and those behind it. -/
def rejectionWords : List (String × String) :=
  [("unknown choice ", ", pick a number from the menu"), ("not a valid choice ", ", nothing sent")]

theorem mem_rejectionTexts_iff {line answer : String} :
    line ∈ rejectionTexts answer ↔ ∃ words ∈ rejectionWords,
      line = Text.yellow (words.1 ++ Text.quoted answer ++ words.2) ++ "\n" := by
  have htexts : rejectionTexts answer = rejectionWords.map fun words =>
      Text.yellow (words.1 ++ Text.quoted answer ++ words.2) ++ "\n" := rfl
  rw [htexts, List.mem_map]
  simp only [eq_comm]

/-- **A line about rejected input** is one yellow text without control characters. -/
theorem exists_piece_of_rejected {line answer : String} (h : line ∈ rejectionTexts answer) :
    ∃ piece : String, line = Text.colorStart 11 ++ piece ++ Text.colorEnd ++ "\n" ∧
      ∀ c ∈ piece.toList, Text.isControl c = false := by
  obtain ⟨words, hwords, rfl⟩ := mem_rejectionTexts_iff.mp h
  refine ⟨words.1 ++ Text.quoted answer ++ words.2, rfl, fun c hc => ?_⟩
  have hfixed : ∀ c ∈ words.1.toList ++ words.2.toList, Text.isControl c = false := by
    have hall : rejectionWords.all (fun words =>
        (words.1.toList ++ words.2.toList).all fun c => !Text.isControl c) := by decide
    simpa using List.all_eq_true.mp (List.all_eq_true.mp hall words hwords)
  rw [String.toList_append, String.toList_append, List.mem_append, List.mem_append] at hc
  rcases hc with (hc | hc) | hc
  · exact hfixed c (List.mem_append_left _ hc)
  · rw [Text.quoted, String.toList_ofList] at hc
    exact Text.isControl_of_mem_quote c hc
  · exact hfixed c (List.mem_append_right _ hc)

theorem quoted_append_inj {lead first second tail tail' : String}
    (h : lead ++ Text.quoted first ++ tail = lead ++ Text.quoted second ++ tail') :
    first = second := by
  have hlist := congrArg String.toList h
  simp only [String.toList_append, List.append_assoc, Text.quoted, String.toList_ofList] at hlist
  exact String.toList_inj.mp (Text.quote_append_inj (List.append_cancel_left hlist)).1

/-- The two kinds of lines begin with different letters. -/
theorem words_eq_of_append_eq {words words' : String × String} (h : words ∈ rejectionWords)
    (h' : words' ∈ rejectionWords) {rest rest' : String}
    (heq : words.1 ++ rest = words'.1 ++ rest') : words = words' := by
  have hhead : words.1.toList.head? = words'.1.toList.head? := by
    have hlist := congrArg (fun text => text.toList.head?) heq
    simp only [String.toList_append, List.head?_append] at hlist
    have hsome : ∀ words ∈ rejectionWords, words.1.toList.head?.isSome := by decide
    rwa [Option.or_of_isSome (hsome words h), Option.or_of_isSome (hsome words' h')] at hlist
  have hall : ∀ words ∈ rejectionWords, ∀ words' ∈ rejectionWords,
      words.1.toList.head? = words'.1.toList.head? → words = words' := by decide
  exact hall words h words' h' hhead

/-- **A line about rejected input** tells what was rejected. -/
theorem answer_eq_of_rejected {line first second : String} (h : line ∈ rejectionTexts first)
    (h' : line ∈ rejectionTexts second) : first = second := by
  obtain ⟨words, hwords, hline⟩ := mem_rejectionTexts_iff.mp h
  obtain ⟨words', hwords', hline'⟩ := mem_rejectionTexts_iff.mp h'
  have hpiece : words.1 ++ Text.quoted first ++ words.2 =
      words'.1 ++ Text.quoted second ++ words'.2 := by
    have hlist := congrArg String.toList (hline.symm.trans hline')
    simp only [Text.yellow, String.toList_append, List.append_assoc] at hlist
    have hmiddle := List.append_cancel_left hlist
    simp only [← List.append_assoc] at hmiddle
    have hpieces := List.append_cancel_right (List.append_cancel_right hmiddle)
    rw [← String.toList_inj, String.toList_append, String.toList_append, String.toList_append,
      String.toList_append]
    exact hpieces
  obtain rfl : words = words' := by
    rw [String.append_assoc, String.append_assoc] at hpiece
    exact words_eq_of_append_eq hwords hwords' hpiece
  exact quoted_append_inj hpiece

/-! ## All lines of a session -/

variable {σ σ' τ τ' : Type}

/-- **A session unfolds** into lawful rounds and a last read: they are what it shows and what it
reads, in order. -/
structure Unfolds (source : LineSource σ) (s : σ) (ran : Performance σ τ Ending)
    (rounds : List Round) (last : Input) : Prop where
  trace : ran.trace.withoutLog = rounds.flatMap Round.events ++ (opening ++ closing last)
  reads : source.Gives s (rounds.flatMap Round.inputs ++ [last]) ran.source
  lawful : ∀ round ∈ rounds, round.Lawful
  ends : Ends last ran.result

/-- **A line that is no choice** at the beginning of a script is rejected in the first round. -/
theorem Unfolds.exists_rejects {text : String} {script : Script}
    {ran : Performance Script τ Ending} {rounds : List Round} {last : Input}
    (h : Unfolds .script (.line text :: script) ran rounds last) (filled : Text.trimmed text ≠ "")
    (unknown : ∀ command : Command, command.token ≠ Text.trimmed text) :
    ∃ round ∈ rounds, round.Rejects question (Text.trimmed text) := by
  have hreads := h.reads.script_eq.1
  cases rounds with
  | nil =>
    -- A line that is filled does not end a session.
    obtain rfl : last = .line text := (List.cons.inj hreads).1
    have hends := h.ends
    generalize ran.result = ending at hends
    cases hends with
    | blank _ blank => exact absurd blank filled
  | cons first others =>
    obtain ⟨line, asked, posted, told⟩ := first
    obtain rfl : line = text := Input.line.inj (List.cons.inj hreads).1
    exact ⟨_, List.mem_cons_self, .unknown unknown⟩

/-- **What is told about rejected input is safe and faithful.**  In any two sessions, over any
inputs and any links, a round that rejects what was typed says so in one yellow text without
control characters, and if two such rounds print the same, they reject the same. -/
theorem rejections_are_safe_and_faithful (config config' : Config) (source : LineSource σ)
    (source' : LineSource σ') (link : Link τ) (link' : Link τ') (s : σ) (s' : σ') (t : τ)
    (t' : τ') :
    ∃ (rounds rounds' : List Round) (last last' : Input),
      Unfolds source s (run config source link s t) rounds last ∧
      Unfolds source' s' (run config' source' link' s' t') rounds' last' ∧
      (∀ round ∈ rounds ++ rounds', ∀ prompt answer, round.Rejects prompt answer →
        round.told ∈ rejectionTexts answer ∧
          ∃ piece : String, round.told = Text.colorStart 11 ++ piece ++ Text.colorEnd ++ "\n" ∧
            ∀ c ∈ piece.toList, Text.isControl c = false) ∧
      ∀ round ∈ rounds, ∀ round' ∈ rounds', ∀ prompt prompt' answer answer',
        round.Rejects prompt answer → round'.Rejects prompt' answer' →
          round.told = round'.told → answer = answer' := by
  obtain ⟨rounds, last, htrace, htold, hgives, hends, -⟩ :=
    exists_rounds_telling config source link s t
  obtain ⟨rounds', last', htrace', htold', hgives', hends', -⟩ :=
    exists_rounds_telling config' source' link' s' t'
  have hsaid : ∀ round ∈ rounds ++ rounds', ∀ prompt answer, round.Rejects prompt answer →
      round.told ∈ rejectionTexts answer := by
    intro round hround
    rcases List.mem_append.mp hround with hround | hround
    · exact (htold round hround).2
    · exact (htold' round hround).2
  refine ⟨rounds, rounds', last, last',
    ⟨htrace, hgives, fun round hround => (htold round hround).1, hends⟩,
    ⟨htrace', hgives', fun round hround => (htold' round hround).1, hends'⟩, ?_, ?_⟩
  · intro round hround prompt answer hrejects
    have hline := hsaid round hround prompt answer hrejects
    exact ⟨hline, exists_piece_of_rejected hline⟩
  · intro round hround round' hround' prompt prompt' answer answer' hrejects hrejects' heq
    have hline := hsaid round (List.mem_append_left _ hround) prompt answer hrejects
    rw [heq] at hline
    exact answer_eq_of_rejected hline
      (hsaid round' (List.mem_append_right _ hround') prompt' answer' hrejects')

/-- One session in which somebody types the character that begins a colour, and one in which they
type the letters that it is told by. -/
theorem rejections_are_safe_and_faithful_of_escapes :
    let link := Link.canned fun path => .ok ⟨path, 200, "ok"⟩
    let typed : Script := [.line "\x1b[31m"]
    let spelled : Script := [.line "\\u\x7b1b\x7d[31m"]
    ∃ (rounds rounds' : List Round) (last last' : Input),
      Unfolds .script typed (run Config.default .script link typed []) rounds last ∧
      Unfolds .script spelled (run Config.default .script link spelled []) rounds' last' ∧
      ∃ round ∈ rounds, ∃ round' ∈ rounds', round.told ≠ round'.told ∧
        ∃ piece : String, round.told = Text.colorStart 11 ++ piece ++ Text.colorEnd ++ "\n" ∧
          ∀ c ∈ piece.toList, Text.isControl c = false := by
  intro link typed spelled
  obtain ⟨rounds, rounds', last, last', hfirst, hsecond, hsafe, hfaithful⟩ :=
    rejections_are_safe_and_faithful Config.default Config.default .script .script link link
      typed spelled [] []
  have hcolour : Text.trimmed "\x1b[31m" = "\x1b[31m" := by decide
  have hletters : Text.trimmed "\\u\x7b1b\x7d[31m" = "\\u\x7b1b\x7d[31m" := by decide
  obtain ⟨round, hround, hrejects⟩ := hfirst.exists_rejects (by rw [hcolour]; decide)
    (by rw [hcolour]; intro command; cases command <;> decide)
  obtain ⟨round', hround', hrejects'⟩ := hsecond.exists_rejects (by rw [hletters]; decide)
    (by rw [hletters]; intro command; cases command <;> decide)
  rw [hcolour] at hrejects
  rw [hletters] at hrejects'
  refine ⟨rounds, rounds', last, last', hfirst, hsecond, round, hround, round', hround', ?_, ?_⟩
  · intro hsame
    have htexts := hfaithful round hround round' hround' _ _ _ _ hrejects hrejects' hsame
    exact absurd htexts (by decide)
  · exact (hsafe round (List.mem_append_left _ hround) _ _ hrejects).2

end LiveRoom.Menu
