import LiveRoom.LineSource
import LiveRoom.Link
import LiveRoom.Trace

/-!
# Dialogues

What the program does next may depend on a line that the user typed or on what the
service answered.  A `Dialogue` is a plan for this: it prints, notes, asks and posts,
and at each answer it goes on as that answer demands.  Every dialogue is finite.

A dialogue is carried out in two ways.  `Dialogue.run` uses a source of lines and a
link with their states, and tells the trace of what happened.  `Dialogue.perform`
uses actions of any kind, such as those of a real terminal.
-/

namespace LiveRoom

/-- **A plan for a conversation** with the user and the service, up to a result. -/
inductive Dialogue (α : Type) where
  | done (result : α)
  | print (text : String) (next : Dialogue α)
  | note (entry : Log.Entry) (next : Dialogue α)
  | ask (prompt : String) (next : Input → Dialogue α)
  | post (path : String) (body : Option String)
      (next : Except LinkError Response → Dialogue α)

/-- **A dialogue that was carried out**: what happened, its result, and the states of
source and link afterwards. -/
structure Performance (σ τ α : Type) where
  trace : Trace
  result : α
  source : σ
  link : τ

/-- **The actions** that carrying out a dialogue takes. -/
structure Actor (m : Type → Type) where
  print : String → m Unit
  note : Log.Entry → m Unit
  ask : String → m Input
  post : String → Option String → m Delivery

/-- What happened before, in front of a performance. -/
def Performance.after {σ τ α : Type} (trace : Trace) (others : Performance σ τ α) :
    Performance σ τ α :=
  { others with trace := trace ++ others.trace }

namespace Dialogue

variable {σ τ α β : Type}

/-- A dialogue, and then the one that its result demands. -/
def bind : Dialogue α → (α → Dialogue β) → Dialogue β
  | done result, next => next result
  | print text others, next => print text (others.bind next)
  | note entry others, next => note entry (others.bind next)
  | ask prompt others, next => ask prompt fun input => (others input).bind next
  | post path body others, next => post path body fun result => (others result).bind next

/-- **Carries out a dialogue** with the states of a source and a link. -/
def run (source : LineSource σ) (link : Link τ) : Dialogue α → σ → τ → Performance σ τ α
  | done result, s, t => ⟨[], result, s, t⟩
  | print text next, s, t => (next.run source link s t).after [.print text]
  | note entry next, s, t => (next.run source link s t).after [.log entry]
  | ask prompt next, s, t =>
    let read := source.next s
    ((next read.1).run source link read.2 t).after [.prompt prompt]
  | post path body next, s, t =>
    let delivered := link.post path body t
    ((next delivered.1.result).run source link s delivered.2).after
      (.post path body :: delivered.1.log.map .log)

/-- **Carries out a dialogue** with actions. -/
def perform {m : Type → Type} [Monad m] (actor : Actor m) : Dialogue α → m α
  | done result => pure result
  | print text next => do
    actor.print text
    next.perform actor
  | note entry next => do
    actor.note entry
    next.perform actor
  | ask prompt next => do
    let input ← actor.ask prompt
    (next input).perform actor
  | post path body next => do
    let delivered ← actor.post path body
    delivered.log.forM actor.note
    (next delivered.result).perform actor

/-- A dialogue after another one starts where that one ended. -/
theorem run_bind (source : LineSource σ) (link : Link τ) (dialogue : Dialogue α)
    (next : α → Dialogue β) (s : σ) (t : τ) :
    (dialogue.bind next).run source link s t =
      let first := dialogue.run source link s t
      ((next first.result).run source link first.source first.link).after first.trace := by
  induction dialogue generalizing s t with
  | done result => rfl
  | print text others ih => simp [bind, run, Performance.after, ih]
  | note entry others ih => simp [bind, run, Performance.after, ih]
  | ask prompt others ih => simp [bind, run, Performance.after, ih]
  | post path body others ih => simp [bind, run, Performance.after, ih]

theorem left_run_le (source : LineSource σ) (link : Link τ) (dialogue : Dialogue α)
    (s : σ) (t : τ) : source.left (dialogue.run source link s t).source ≤ source.left s := by
  induction dialogue generalizing s t with
  | done result => exact Nat.le_refl _
  | print text others ih => exact ih s t
  | note entry others ih => exact ih s t
  | ask prompt others ih => exact Nat.le_trans (ih _ _ t) (source.left_next_le s)
  | post path body others ih => exact ih _ s _

end Dialogue

end LiveRoom
