/-!
# Where the answers come from

The program asks for one line after another.  Each time it gets a line, the news
that input has ended, or a failure.  A `LineSource` is anything that can be asked
like this: a script given in advance (`LineSource.script`), or a stream of bytes.

A source holds only finitely many lines.  `left` bounds how many are still to
come, and every line lowers it, so a program that stops at the first thing that is
no line always stops.
-/

namespace LiveRoom

/-- **What comes back when a line is asked for.** -/
inductive Input where
  | line (text : String)
  | ended
  | failed (reason : String)
  deriving DecidableEq, Repr

/-- **A source of lines** with states of type `σ`. -/
structure LineSource (σ : Type) where
  next : σ → Input × σ
  /-- A bound on the lines still to come. -/
  left : σ → Nat
  left_next_le : ∀ state, left (next state).2 ≤ left state
  left_next_lt : ∀ {state text}, (next state).1 = .line text →
    left (next state).2 < left state

/-- A script: what to answer, in order.  When it runs out, input has ended. -/
abbrev Script := List Input

def Script.next : Script → Input × Script
  | [] => (.ended, [])
  | input :: script => (input, script)

/-- **The source that reads from a script.** -/
def LineSource.script : LineSource Script where
  next := Script.next
  left := List.length
  left_next_le := by
    intro script
    cases script <;> simp [Script.next]
  left_next_lt := by
    intro script text h
    cases script with
    | nil => simp [Script.next] at h
    | cons input script => simp [Script.next]

end LiveRoom
