import LiveRoom.Proofs.Dialogue
import LiveRoom.Terminal
import Mathlib.Data.List.TakeWhile

/-!
# The lines of a stream

Bytes that arrive in portions make up the same lines as if they had been there from the
start.  `Text.cutAfter` cuts a list behind every end of a line; each call of
`Stream.Input.takeLine` takes the first of the pieces that are not read yet and leaves
the others (`Stream.Input.cutAfter_unread`), however large the buffer is and whatever
happens to be in it.

So a stream answers as a script does that has one item for each of its lines
(`Terminal.script`, `Terminal.simulates_script`).  A stream that is read line by line always
stands in front of a line (`Stream.Input.AtLine`), and there the script is cut where the
bytes are (`Terminal.exists_script_append`).
-/

namespace LiveRoom

namespace Text

variable {α : Type} {isEnd : α → Bool} {list : List α}

/-! ## Cutting behind the ends -/

/-- **A list cut behind every end.**  An end belongs to the piece that it closes, and the
last piece may lack one. -/
def cutAfter (isEnd : α → Bool) : List α → List (List α)
  | [] => []
  | a :: list =>
    if isEnd a then [a] :: cutAfter isEnd list
    else
      match cutAfter isEnd list with
      | [] => [[a]]
      | piece :: pieces => (a :: piece) :: pieces

theorem flatten_cutAfter (isEnd : α → Bool) (list : List α) :
    (cutAfter isEnd list).flatten = list := by
  induction list with
  | nil => rfl
  | cons a list ih =>
    unfold cutAfter
    split
    · rw [List.flatten_cons, ih]
      rfl
    -- The element joins the piece behind it, unless nothing is behind it.
    · cases hcut : cutAfter isEnd list with
      | nil =>
        rw [hcut] at ih
        obtain rfl : list = [] := ih.symm
        rfl
      | cons piece pieces =>
        rw [hcut] at ih
        exact congrArg (a :: ·) ih

theorem ne_nil_of_mem_cutAfter {piece : List α} (h : piece ∈ cutAfter isEnd list) :
    piece ≠ [] := by
  induction list generalizing piece with
  | nil => cases h
  | cons a list ih =>
    unfold cutAfter at h
    split at h
    · rcases List.mem_cons.mp h with rfl | h
      · exact List.cons_ne_nil _ _
      · exact ih h
    · cases hcut : cutAfter isEnd list with
      | nil =>
        rw [hcut] at h
        obtain rfl := List.mem_singleton.mp h
        exact List.cons_ne_nil _ _
      | cons first pieces =>
        rw [hcut] at h ih
        rcases List.mem_cons.mp h with rfl | h
        · exact List.cons_ne_nil _ _
        · exact ih (List.mem_cons_of_mem _ h)

/-- **The first piece** reaches behind the first end, and the other pieces are those of
what follows. -/
theorem cutAfter_eq_cons (h : list ≠ []) :
    cutAfter isEnd list =
      (list.takeWhile (fun a => !isEnd a) ++ (list.dropWhile fun a => !isEnd a).take 1) ::
        cutAfter isEnd ((list.dropWhile fun a => !isEnd a).drop 1) := by
  induction list with
  | nil => exact absurd rfl h
  | cons a list ih =>
    rw [cutAfter]
    cases hend : isEnd a with
    | true => simp [hend]
    | false =>
      cases list with
      | nil => simp [cutAfter, hend]
      | cons b list =>
        rw [ih (List.cons_ne_nil _ _)]
        simp [hend]

/-- **Cutting a list that continues another one**: if the first is empty or ends with an end,
its pieces come first. -/
theorem cutAfter_append {first : List α} (second : List α) (h : ∀ a ∈ first.getLast?, isEnd a) :
    cutAfter isEnd (first ++ second) = cutAfter isEnd first ++ cutAfter isEnd second := by
  induction first with
  | nil => rfl
  | cons a first ih =>
    cases hfirst : first with
    | nil =>
      subst hfirst
      have hend : isEnd a := h a rfl
      simp [cutAfter, hend]
    | cons b others =>
      have hrest := ih fun c hc => h c (by rw [hfirst] at hc ⊢; exact hc)
      rw [← hfirst, List.cons_append, cutAfter, hrest, cutAfter]
      cases hend : isEnd a with
      | true => rfl
      | false =>
        -- There is a piece for the element to join, since something follows it.
        have hne : cutAfter isEnd first ≠ [] := by
          intro hnil
          have hflat := flatten_cutAfter isEnd first
          rw [hnil, hfirst] at hflat
          cases hflat
        obtain ⟨piece, pieces, hpieces⟩ := List.exists_cons_of_ne_nil hne
        simp [hpieces]

/-- **What it is to be cut behind every end**: each piece reaches just behind the first end
that is left, and where none is left, what there is makes the last piece. -/
inductive CutsInto (isEnd : α → Bool) : List α → List (List α) → Prop where
  | nothing : CutsInto isEnd [] []
  | last {piece : List α} (ne_nil : piece ≠ []) (inner : ∀ a ∈ piece, isEnd a = false) :
      CutsInto isEnd piece [piece]
  | ended {front list : List α} {ending : α} {pieces : List (List α)}
      (inner : ∀ a ∈ front, isEnd a = false) (closes : isEnd ending = true)
      (others : CutsInto isEnd list pieces) :
      CutsInto isEnd (front ++ ending :: list) ((front ++ [ending]) :: pieces)

theorem cutsInto_cutAfter (isEnd : α → Bool) (list : List α) :
    CutsInto isEnd list (cutAfter isEnd list) := by
  induction list with
  | nil => exact .nothing
  | cons a list ih =>
    unfold cutAfter
    cases hend : isEnd a with
    | true => exact .ended (List.forall_mem_nil _) hend ih
    | false =>
      generalize cutAfter isEnd list = pieces at ih
      cases ih with
      | nothing => exact .last (List.cons_ne_nil _ _) (by simpa using hend)
      | last ne_nil inner =>
        exact .last (List.cons_ne_nil _ _) (List.forall_mem_cons.mpr ⟨hend, inner⟩)
      | ended inner closes others =>
        exact .ended (List.forall_mem_cons.mpr ⟨hend, inner⟩) closes others

/-- A list can be cut behind every end in one way only. -/
theorem CutsInto.eq_cutAfter {pieces : List (List α)} (h : CutsInto isEnd list pieces) :
    pieces = cutAfter isEnd list := by
  induction h with
  | nothing => rfl
  | @last piece ne_nil inner =>
    have hall : ∀ a ∈ piece, (!isEnd a) = true := fun a ha => by rw [inner a ha]; rfl
    rw [cutAfter_eq_cons ne_nil, List.takeWhile_eq_self_iff.mpr hall,
      List.dropWhile_eq_nil_iff.mpr hall]
    simp [cutAfter]
  | @ended front list ending pieces inner closes others ih =>
    have hall : ∀ a ∈ front, (!isEnd a) = true := fun a ha => by rw [inner a ha]; rfl
    rw [cutAfter_eq_cons (by simp), List.takeWhile_append_of_pos hall,
      List.dropWhile_append_of_pos hall, List.takeWhile_cons_of_neg (by simp [closes]),
      List.dropWhile_cons_of_neg (by simp [closes]), List.append_nil, ih]
    rfl

end Text

/-! ## Taking lines from a stream -/

namespace Stream.Input

def isLineFeed (byte : UInt8) : Bool := byte == 0x0A

theorem unread_eq_nil_of_fill {stream : Input} (h : stream.fill.buffer = []) :
    stream.unread = [] := by
  unfold fill at h
  split at h
  · rename_i hbuffer
    rcases List.take_eq_nil_iff.mp h with hcapacity | hsource
    · exact absurd hcapacity (Nat.ne_of_gt stream.capacity_pos)
    · rw [unread, hbuffer, hsource]
      rfl
  · rename_i hbuffer
    exact absurd h hbuffer

/-- **What is left behind a line** is what follows the first line feed. -/
theorem unread_takeLine (stream : Input) :
    stream.takeLine.2.unread = (stream.unread.dropWhile isInner).drop 1 := by
  fun_induction takeLine stream with
  | case1 stream filled ending others h =>
    have hunread : filled.unread = stream.unread := unread_fill stream
    have hne : (filled.buffer.dropWhile isInner).isEmpty = false := by rw [h]; rfl
    rw [← hunread]
    simp only [unread]
    rw [List.dropWhile_append, hne, h]
    rfl
  | case2 stream filled h hempty =>
    have hunread : filled.unread = stream.unread := unread_fill stream
    rw [hunread, unread_eq_nil_of_fill hempty]
    rfl
  | case3 stream filled h hne hlt others ih =>
    have hunread : filled.unread = stream.unread := unread_fill stream
    rw [ih, ← hunread]
    simp only [unread, flush, List.nil_append]
    rw [List.dropWhile_append, h]
    rfl

/-- **A line** reaches behind the first line feed. -/
theorem takeLine_eq (stream : Input) :
    stream.takeLine.1 =
      stream.unread.takeWhile isInner ++ (stream.unread.dropWhile isInner).take 1 := by
  -- The line and what is left behind it are all that was unread, so the one follows from the other.
  have hwhole : stream.takeLine.1 ++ stream.takeLine.2.unread =
      (stream.unread.takeWhile isInner ++ (stream.unread.dropWhile isInner).take 1) ++
        stream.takeLine.2.unread := by
    rw [append_unread_takeLine, unread_takeLine, List.append_assoc, List.take_append_drop,
      List.takeWhile_append_dropWhile]
  exact List.append_cancel_right hwhole

/-- The bytes of a line and what is left behind it are the first piece of what was
unread, and the others. -/
theorem cutAfter_unread {stream : Input} (h : stream.unread ≠ []) :
    Text.cutAfter isLineFeed stream.unread =
      stream.takeLine.1 :: Text.cutAfter isLineFeed stream.takeLine.2.unread := by
  rw [takeLine_eq, unread_takeLine]
  exact Text.cutAfter_eq_cons h

theorem takeLine_of_unread_eq_nil {stream : Input} (h : stream.unread = []) :
    stream.takeLine.1 = [] ∧ stream.takeLine.2.unread = [] := by
  rw [takeLine_eq, unread_takeLine, h]
  exact ⟨rfl, rfl⟩

/-- Behind a line there is more only if a line feed ends it. -/
theorem getLast?_takeLine {stream : Input} (h : stream.takeLine.2.unread ≠ []) :
    ∀ byte ∈ stream.takeLine.1.getLast?, isLineFeed byte := by
  intro byte hbyte
  rw [unread_takeLine] at h
  rw [takeLine_eq] at hbyte
  cases hdrop : stream.unread.dropWhile isInner with
  | nil =>
    rw [hdrop] at h
    exact absurd rfl h
  | cons ending others =>
    have hfeed : ¬ isInner ending := by
      have hhead := List.head?_dropWhile_not isInner stream.unread
      rw [hdrop] at hhead
      simpa using hhead
    rw [hdrop, List.take_succ_cons, List.take_zero, List.getLast?_append] at hbyte
    obtain rfl : ending = byte := Option.some.inj hbyte
    simpa [isInner, isLineFeed] using hfeed

/-- **A stream in front of a line**: some bytes have been read, and unless everything has
been, they end with a line feed. -/
def AtLine (bytes : List UInt8) (stream : Input) : Prop :=
  ∃ before : List UInt8, bytes = before ++ stream.unread ∧
    (stream.unread ≠ [] → ∀ byte ∈ before.getLast?, isLineFeed byte)

theorem AtLine.takeLine {bytes : List UInt8} {stream : Input} (h : stream.AtLine bytes) :
    stream.takeLine.2.AtLine bytes := by
  obtain ⟨before, hbytes, hbefore⟩ := h
  have hwhole := stream.append_unread_takeLine
  refine ⟨before ++ stream.takeLine.1, ?_, fun hleft byte hbyte => ?_⟩
  · rw [List.append_assoc, hwhole, hbytes]
  · rw [List.getLast?_append] at hbyte
    cases hline : stream.takeLine.1.getLast? with
    | some last =>
      rw [hline] at hbyte
      exact getLast?_takeLine hleft byte (hline.trans hbyte)
    | none =>
      -- An empty line leaves what there was.
      rw [hline] at hbyte
      rw [List.getLast?_eq_none_iff.mp hline, List.nil_append] at hwhole
      exact hbefore (hwhole ▸ hleft) byte hbyte

end Stream.Input

/-! ## Streams and scripts -/

namespace Terminal

/-- What a piece of a stream says: a line without the carriage returns and line feeds at
its end, if it is UTF-8. -/
def item (piece : List UInt8) : Input :=
  match Utf8.decode? piece with
  | some text => .line (String.ofList (Text.dropWhileEnd isLineEnd text))
  | none => .failed notUtf8

/-- **The script of a stream**: one item for each of its lines. -/
def script (bytes : List UInt8) : Script :=
  (Text.cutAfter Stream.Input.isLineFeed bytes).map item

theorem readingOf_eq_item {piece : List UInt8} (h : piece ≠ []) :
    readingOf piece = item piece := by
  rw [readingOf, if_neg h, item]
  cases Utf8.decode? piece <;> rfl

/-- **A line is what the first piece says**, if there is one, and the other pieces are left. -/
theorem readLine_eq (stream : Stream.Input) :
    let pieces := Text.cutAfter Stream.Input.isLineFeed stream.unread
    (readLine stream).1 = (pieces.head?.map item).getD .ended ∧
      Text.cutAfter Stream.Input.isLineFeed (readLine stream).2.unread = pieces.tail := by
  intro pieces
  by_cases hunread : stream.unread = []
  · obtain ⟨hline, hrest⟩ := Stream.Input.takeLine_of_unread_eq_nil hunread
    have hpieces : pieces = [] := congrArg (Text.cutAfter _) hunread
    rw [hpieces, readLine, hline, hrest]
    exact ⟨rfl, rfl⟩
  · have hpieces : pieces = stream.takeLine.1 :: _ := Stream.Input.cutAfter_unread hunread
    have hne : stream.takeLine.1 ≠ [] :=
      Text.ne_nil_of_mem_cutAfter
        (show stream.takeLine.1 ∈ pieces from hpieces ▸ List.mem_cons_self)
    rw [hpieces, readLine, readingOf_eq_item hne]
    exact ⟨rfl, rfl⟩

/-- **A stream answers as its script does.** -/
theorem simulates_script :
    lines.Simulates LineSource.script fun stream rest => rest = script stream.unread := by
  -- At the end of the stream both answer with the end of input, however often they are asked.
  have hnext : ∀ stream : Stream.Input,
      Script.next (script stream.unread) =
        ((readLine stream).1, script (readLine stream).2.unread) := by
    intro stream
    obtain ⟨hline, hrest⟩ := readLine_eq stream
    rw [script, script, hline, hrest]
    cases Text.cutAfter Stream.Input.isLineFeed stream.unread <;> rfl
  constructor
  · rintro stream _ rfl
    exact congrArg Prod.fst (hnext stream).symm
  · rintro stream _ rfl
    exact congrArg Prod.snd (hnext stream)

/-- **In front of a line the script is cut** where the stream is. -/
theorem exists_script_append {bytes : List UInt8} {stream : Stream.Input}
    (h : stream.AtLine bytes) (hleft : stream.unread ≠ []) :
    ∃ before : List UInt8, bytes = before ++ stream.unread ∧
      script bytes = script before ++ script stream.unread := by
  obtain ⟨before, hbytes, hbefore⟩ := h
  refine ⟨before, hbytes, ?_⟩
  rw [hbytes, script, Text.cutAfter_append _ (hbefore hleft), List.map_append]
  rfl

end Terminal

end LiveRoom
