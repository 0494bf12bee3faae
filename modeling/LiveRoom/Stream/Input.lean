/-!
# A buffered stream of bytes

Bytes arrive from a source in portions no larger than a buffer.  `Input.takeLine`
takes one line from such a stream: it goes through the buffer until it meets a
line feed, and fills the buffer again whenever it is used up.  At the end of the
source the line is what is left, which may be nothing.

The size of the buffer shows nowhere.  What is not read yet is `unread`, and a
line together with what is unread after it is what was unread before
(`append_unread_takeLine`).
-/

namespace LiveRoom.Stream

/-- **A stream of bytes behind a buffer.** -/
structure Input where
  /-- How many bytes the buffer holds. -/
  capacity : Nat
  capacity_pos : 0 < capacity
  /-- The bytes in the buffer. -/
  buffer : List UInt8
  /-- The bytes that have not reached the buffer yet. -/
  source : List UInt8

namespace Input

/-- A stream of which nothing has been read. -/
def ofBytes (bytes : List UInt8) (capacity : Nat) (capacity_pos : 0 < capacity) : Input :=
  ⟨capacity, capacity_pos, [], bytes⟩

/-- The bytes still to be read. -/
def unread (stream : Input) : List UInt8 := stream.buffer ++ stream.source

/-- Fills an empty buffer from the source. -/
def fill (stream : Input) : Input :=
  if stream.buffer = [] then
    { stream with
      buffer := stream.source.take stream.capacity
      source := stream.source.drop stream.capacity }
  else stream

/-- The stream after its whole buffer. -/
def flush (stream : Input) : Input := { stream with buffer := [] }

@[simp]
theorem unread_fill (stream : Input) : stream.fill.unread = stream.unread := by
  unfold fill unread
  split
  · rename_i h
    simp [h]
  · rfl

theorem length_unread_flush_lt {stream : Input} (h : stream.buffer ≠ []) :
    stream.flush.unread.length < stream.unread.length := by
  have := List.length_pos_iff.2 h
  simp only [unread, flush, List.nil_append, List.length_append]
  omega

/-- A byte that ends no line. -/
def isInner (byte : UInt8) : Bool := byte != 0x0A

/-- **Takes one line** with the line feed that ends it, or what is left of the stream
where no line feed comes. -/
def takeLine (stream : Input) : List UInt8 × Input :=
  let filled := stream.fill
  match filled.buffer.dropWhile isInner with
  | ending :: others =>
    (filled.buffer.takeWhile isInner ++ [ending], { filled with buffer := others })
  | [] =>
    if h : filled.buffer = [] then ([], filled)
    else
      have : filled.flush.unread.length < stream.unread.length := by
        have := length_unread_flush_lt h
        rwa [unread_fill] at this
      let others := takeLine filled.flush
      (filled.buffer ++ others.1, others.2)
termination_by stream.unread.length

/-- **Nothing is lost**: a line and what is unread after it make up what was unread
before. -/
theorem append_unread_takeLine (stream : Input) :
    stream.takeLine.1 ++ stream.takeLine.2.unread = stream.unread := by
  fun_induction takeLine stream with
  | case1 stream filled ending others h =>
    have : filled.unread = stream.unread := unread_fill stream
    rw [← this]
    simp only [unread, List.append_assoc, List.singleton_append]
    rw [← List.cons_append, ← h, ← List.append_assoc, List.takeWhile_append_dropWhile]
  | case2 stream filled h hempty =>
    rw [List.nil_append]
    exact unread_fill stream
  | case3 stream filled h hne hlt others ih =>
    have : filled.unread = stream.unread := unread_fill stream
    rw [← this]
    rw [List.append_assoc, ih]
    rfl

end Input

end LiveRoom.Stream
