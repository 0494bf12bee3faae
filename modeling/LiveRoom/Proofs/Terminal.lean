import LiveRoom.Proofs.Stream.Lines
import LiveRoom.Proofs.Text.Blank
import LiveRoom.Proofs.Text.Utf8

/-!
# One question after another

A stream that is asked for one line after another gives its lines in order, and then the
news that input has ended, as often as it is asked (`Terminal.askAll_eq`).  What a line says
is known from its bytes alone (`Terminal.Says`): its text without the carriage returns and
line feeds at its end, or the complaint that it is no text.  Such a line is behind the
stream like any other.

A text is found again line by line whichever of the two endings its lines have, and also if
they are mixed (`Terminal.cutsInto_written`).
-/

namespace LiveRoom.Terminal

open Stream.Input (isLineFeed)

/-! ## What a line says -/

/-- **What a line says**, told from its bytes.  Its ending is all carriage returns and line
feeds behind the last other character, however many there are. -/
inductive Says (piece : List UInt8) : Input → Prop where
  | line {text ending : List Char} (bytes : piece = Utf8.encode (text ++ ending))
      (ends : ∀ c ∈ ending, c = '\r' ∨ c = '\n')
      (kept : ∀ c ∈ text.getLast?, c ≠ '\r' ∧ c ≠ '\n') : Says piece (.line (String.ofList text))
  | garbled (bytes : ∀ text, piece ≠ Utf8.encode text) :
      Says piece (.failed "stream did not contain valid UTF-8")

theorem isLineEnd_eq_true_iff {c : Char} : isLineEnd c = true ↔ c = '\r' ∨ c = '\n' := by
  simp [isLineEnd]

theorem isLineEnd_eq_false_iff {c : Char} : isLineEnd c = false ↔ c ≠ '\r' ∧ c ≠ '\n' := by
  simp [isLineEnd]

theorem says_iff {piece : List UInt8} {input : Input} : Says piece input ↔ input = item piece := by
  constructor
  · rintro (⟨rfl, ends, kept⟩ | bytes)
    · have hdropped := Text.dropWhileEnd_append
        (fun c hc => isLineEnd_eq_false_iff.mpr (kept c hc))
        (fun c hc => isLineEnd_eq_true_iff.mpr (ends c hc))
      simp only [item, Utf8.decode?_encode, hdropped]
    · have hdecode : Utf8.decode? piece = none := by
        rw [Option.eq_none_iff_forall_ne_some]
        intro text htext
        exact bytes text (Utf8.decode?_eq_some_iff.mp htext)
      rw [item, hdecode]
      rfl
  · rintro rfl
    cases hdecode : Utf8.decode? piece with
    | none =>
      rw [item, hdecode]
      refine .garbled fun text htext => ?_
      rw [Utf8.decode?_eq_some_iff.mpr htext] at hdecode
      cases hdecode
    | some text =>
      obtain ⟨ending, htext, hending⟩ := Text.exists_append_dropWhileEnd isLineEnd text
      rw [item, hdecode]
      refine @Says.line piece _ ending ?_ (fun c hc => isLineEnd_eq_true_iff.mp (hending c hc)) ?_
      · rw [← htext]
        exact Utf8.decode?_eq_some_iff.mp hdecode
      · exact fun c hc => isLineEnd_eq_false_iff.mp (Text.kept_of_mem_getLast?_dropWhileEnd c hc)

/-! ## One question -/

section Questions
variable {input : Stream.Input} {output : Stream.Output}

/-- An output without a bound takes a prompt, and then a line is read. -/
theorem ask_of_unbounded (h : output.room = none) (prompt : String) :
    ask prompt input output =
      ((readLine input).1, (readLine input).2,
        ⟨none, output.written ++ Utf8.encode (promptText prompt).toList⟩) := by
  have hprompt : (promptText prompt).toList = prompt.toList ++ [':', ' '] :=
    String.toList_append
  simp [ask, Stream.Output.write, Stream.Output.fitting, h, hprompt, Utf8.encode_append]

/-! ## Many questions -/

theorem askAll_cons (h : output.room = none) (prompt : String) (prompts : List String) :
    askAll (prompt :: prompts) input output =
      let others := askAll prompts (readLine input).2
        ⟨none, output.written ++ Utf8.encode (promptText prompt).toList⟩
      ((readLine input).1 :: others.1, others.2) := by
  rw [askAll, ask_of_unbounded h]

/-- What comes back where the next line of a stream is asked for: what the line says, if
there is one. -/
def answered (piece : Option (List UInt8)) : Input := (piece.map item).getD .ended

/-- **Asking for lines**: each question gets the next line, and the lines behind those asked
for are left. -/
theorem askAll_eq (input : Stream.Input) (h : output.room = none) (prompts : List String) :
    let pieces := Text.cutAfter isLineFeed input.unread
    let asked := askAll prompts input output
    asked.1 = (List.range prompts.length).map (fun i => answered pieces[i]?) ∧
      Text.cutAfter isLineFeed asked.2.1.unread = pieces.drop prompts.length ∧
      asked.2.2 = ⟨none, output.written ++
        prompts.flatMap fun prompt => Utf8.encode (promptText prompt).toList⟩ := by
  induction prompts generalizing input output with
  | nil => simp [askAll, ← h]
  | cons prompt prompts ih =>
    intro pieces asked
    obtain ⟨hline, hleft⟩ := readLine_eq input
    have hroom : Stream.Output.room
        ⟨none, output.written ++ Utf8.encode (promptText prompt).toList⟩ = none := rfl
    obtain ⟨hinputs, hunread, houtput⟩ := ih (readLine input).2 hroom
    have hasked : asked = _ := askAll_cons h prompt prompts
    dsimp only at hasked
    rw [hleft] at hinputs hunread
    refine ⟨?_, ?_, ?_⟩
    · have hfirst : (readLine input).1 = answered pieces[0]? := by
        rw [hline, answered, ← List.head?_eq_getElem?]
      rw [hasked, hfirst, hinputs, List.length_cons, List.range_succ_eq_map, List.map_cons,
        List.map_map]
      simp only [List.getElem?_tail, Function.comp_def, Nat.succ_eq_add_one, pieces]
    · rw [hasked, hunread, List.length_cons, List.drop_tail]
    · rw [hasked, houtput, List.flatMap_cons, List.append_assoc]

end Questions

/-! ## Lines as they are written -/

/-- **A line as a text is written**: it has no line feed in it and no carriage return at its
end, and either of the two endings. -/
structure WrittenLine where
  text : List Char
  ending : List Char
  feedless : '\n' ∉ text
  kept : '\r' ∉ text.getLast?
  ends : ending = ['\n'] ∨ ending = ['\r', '\n']

namespace WrittenLine

/-- A line with its ending. -/
def chars (line : WrittenLine) : List Char := line.text ++ line.ending

/-- Whichever ending a line has, its line feed comes last and is the only one. -/
theorem exists_front (line : WrittenLine) :
    ∃ front, line.chars = front ++ ['\n'] ∧ '\n' ∉ front := by
  rcases line.ends with hending | hending
  · exact ⟨line.text, by rw [chars, hending], line.feedless⟩
  · refine ⟨line.text ++ ['\r'], ?_, ?_⟩
    · rw [chars, hending, List.append_assoc]
      rfl
    · simp [line.feedless]

theorem item_chars (line : WrittenLine) :
    item (Utf8.encode line.chars) = .line (String.ofList line.text) := by
  refine (says_iff.mp (.line rfl ?_ ?_)).symm
  · intro c hc
    rcases line.ends with hending | hending <;> rw [hending] at hc <;> simp at hc
    · exact .inr hc
    · exact hc
  · intro c hc
    have hmem : c ∈ line.text := List.mem_of_mem_getLast? hc
    exact ⟨fun heq => line.kept (heq ▸ hc), fun heq => line.feedless (heq ▸ hmem)⟩

end WrittenLine

/-- **The lines of a text are cut where they end**, in its encoding as well: no other character
has the byte of a line feed in it. -/
theorem cutsInto_written (lines : List WrittenLine) :
    Text.CutsInto isLineFeed (Utf8.encode (lines.flatMap WrittenLine.chars))
      (lines.map fun line => Utf8.encode line.chars) := by
  induction lines with
  | nil => exact .nothing
  | cons line lines ih =>
    obtain ⟨front, hfront, hfeed⟩ := line.exists_front
    have hline : Utf8.encode line.chars = Utf8.encode front ++ [0x0A] := by
      rw [hfront, Utf8.encode_append]
      rfl
    have hinner : ∀ byte ∈ Utf8.encode front, isLineFeed byte = false := by
      intro byte hbyte
      have hne : byte ≠ 0x0A := by
        rintro rfl
        exact hfeed ((Utf8.mem_encode_iff (c := '\n') (by decide)).mp hbyte)
      exact beq_false_of_ne hne
    rw [List.flatMap_cons, Utf8.encode_append, List.map_cons, hline, List.append_assoc]
    exact .ended hinner rfl ih

/-! ## Reading line by line -/

/-- **A stream is read line by line**, whatever the size of its buffer is.

Each question gets what the next line says, and where no line is left the news that input has
ended.  Behind the questions the bytes of the other lines are left, and all that was written are
the prompts.  So a text that is written line by line is read as it was written. -/
theorem reads_line_by_line (bytes : List UInt8) (capacity : Nat) (hcapacity : 0 < capacity)
    (prompts : List String) :
    let asked := askAll prompts (.ofBytes bytes capacity hcapacity) (.empty none)
    (∃ pieces, Text.CutsInto isLineFeed bytes pieces ∧ asked.1.length = prompts.length ∧
      (∀ i < prompts.length, ∃ input, asked.1[i]? = some input ∧
        (∀ piece, pieces[i]? = some piece → Says piece input) ∧
        (pieces[i]? = none → input = .ended)) ∧
      asked.2.1.unread = (pieces.drop prompts.length).flatten ∧
      asked.2.2.written = prompts.flatMap fun prompt => Utf8.encode (prompt ++ ": ").toList) ∧
    ∀ lines : List WrittenLine, bytes = Utf8.encode (lines.flatMap WrittenLine.chars) →
      ∀ i < prompts.length, asked.1[i]? =
        some (match lines[i]? with
          | some line => .line (String.ofList line.text)
          | none => .ended) := by
  intro asked
  have hroom : (Stream.Output.empty none).room = none := rfl
  obtain ⟨hinputs, hunread, houtput⟩ :=
    askAll_eq (.ofBytes bytes capacity hcapacity) hroom prompts
  have hpieces : Text.cutAfter isLineFeed (Stream.Input.ofBytes bytes capacity hcapacity).unread =
      Text.cutAfter isLineFeed bytes := rfl
  have hinput : ∀ i < prompts.length,
      asked.1[i]? = some (answered (Text.cutAfter isLineFeed bytes)[i]?) := by
    intro i hi
    show (askAll _ _ _).1[i]? = _
    rw [hinputs, List.getElem?_map, List.getElem?_range hi, hpieces]
    rfl
  refine ⟨⟨_, Text.cutsInto_cutAfter isLineFeed bytes, ?_, ?_, ?_, ?_⟩, ?_⟩
  · rw [show asked.1 = _ from hinputs, List.length_map, List.length_range]
  · intro i hi
    refine ⟨_, hinput i hi, fun piece hpiece => ?_, fun hnone => ?_⟩
    · rw [hpiece]
      exact says_iff.mpr rfl
    · rw [hnone]
      rfl
  · rw [← hpieces, ← hunread, Text.flatten_cutAfter]
  · rw [show asked.2.2 = _ from houtput]
    rfl
  · rintro lines rfl i hi
    rw [hinput i hi, ← (cutsInto_written lines).eq_cutAfter, List.getElem?_map]
    cases lines[i]? with
    | some line => exact congrArg some line.item_chars
    | none => rfl

/-- Two lines with different endings, the second of them empty, over a buffer that is smaller
than a line. -/
theorem reads_line_by_line_over_small_buffer :
    let asked := askAll ["first", "second", "third"]
      (.ofBytes [0x31, 0x0D, 0x0A, 0x0A] 2 (by decide)) (.empty none)
    0 < 2 ∧ asked.1[0]? = some (.line "1") ∧ asked.1[1]? = some (.line "") ∧
      asked.1[2]? = some .ended := by
  intro asked
  let one : WrittenLine :=
    ⟨['1'], ['\r', '\n'], by decide, by decide, .inr rfl⟩
  let empty : WrittenLine := ⟨[], ['\n'], by decide, by decide, .inl rfl⟩
  obtain ⟨-, hlines⟩ := reads_line_by_line [0x31, 0x0D, 0x0A, 0x0A] 2 (by decide)
    ["first", "second", "third"]
  have hread := hlines [one, empty] (by decide)
  exact ⟨by decide, hread 0 (by decide), hread 1 (by decide), hread 2 (by decide)⟩

end LiveRoom.Terminal
