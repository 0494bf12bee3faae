/-!
# An output that may be full

An output takes bytes until its room is used up, if its room is bounded at all.
Writing puts down what still fits; it fails when that is not everything, and what
was put down stays.
-/

namespace LiveRoom.Stream

/-- **An output** with the bytes written to it; `room` is how many more it takes, or
`none` where there is no bound. -/
structure Output where
  room : Option Nat
  written : List UInt8

namespace Output

/-- An output that takes so many bytes. -/
def empty (room : Option Nat) : Output := ⟨room, []⟩

/-- The part of some bytes that still fits. -/
def fitting (output : Output) (bytes : List UInt8) : List UInt8 :=
  match output.room with
  | none => bytes
  | some room => bytes.take room

/-- **Writes bytes** as far as they fit, and tells whether all of them did. -/
def write (output : Output) (bytes : List UInt8) : Bool × Output :=
  let fitting := output.fitting bytes
  (fitting.length = bytes.length,
    { room := output.room.map (· - bytes.length), written := output.written ++ fitting })

end Output

end LiveRoom.Stream
