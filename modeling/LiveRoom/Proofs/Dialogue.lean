import LiveRoom.Dialogue

/-!
# Dialogues over different sources and links

What a dialogue does depends on its source of lines only through the lines, and on
its link only through the answers.

Two sources whose answers are alike, and stay so however often they are asked, are
related by a **simulation** (`LineSource.Simulates`).  A dialogue cannot tell such
sources apart: `Dialogue.run_simulates`.  A stream of bytes and the script of its
lines are one instance.

A link moves only when a request is handed over.  So its state after a dialogue is
what the requests of the trace, one after another, make of the state before
(`Dialogue.link_run`), whatever else the dialogue did.
-/

namespace LiveRoom

variable {σ ρ τ α : Type}

/-! ## Reading -/

/-- **Reading from a source**, again and again: the inputs that come, in order, and
the state that is left. -/
inductive LineSource.Gives (source : LineSource σ) : σ → List Input → σ → Prop where
  | nil (s : σ) : source.Gives s [] s
  | cons {s s' : σ} {inputs : List Input} (others : source.Gives (source.next s).2 inputs s') :
      source.Gives s ((source.next s).1 :: inputs) s'

namespace LineSource.Gives

variable {source : LineSource σ} {s s' s'' : σ} {first second : List Input}

theorem one (source : LineSource σ) (s : σ) :
    source.Gives s [(source.next s).1] (source.next s).2 := .cons (.nil _)

theorem append (h : source.Gives s first s') (h' : source.Gives s' second s'') :
    source.Gives s (first ++ second) s'' := by
  induction h with
  | nil => exact h'
  | cons _ ih => exact .cons (ih h')

end LineSource.Gives

/-- **Reading from a script** gives its items, and the end of input once they have run
out; the items that were not reached are left. -/
theorem LineSource.Gives.script_eq {script rest : Script} {inputs : List Input}
    (h : LineSource.script.Gives script inputs rest) :
    inputs = script.take inputs.length ++
        List.replicate (inputs.length - script.length) Input.ended ∧
      rest = script.drop inputs.length := by
  induction h with
  | nil script => exact ⟨by simp, rfl⟩
  | @cons script rest inputs _ ih =>
    obtain ⟨hinputs, hrest⟩ := ih
    cases script with
    | nil =>
      refine ⟨congrArg (Input.ended :: ·) ?_, by simp [hrest, LineSource.script, Script.next]⟩
      simpa [LineSource.script, Script.next] using hinputs
    | cons input script =>
      refine ⟨?_, hrest⟩
      rw [List.length_cons, List.length_cons, Nat.add_sub_add_right, List.take_succ_cons]
      exact congrArg (input :: ·) hinputs

/-! ## Sources that cannot be told apart -/

/-- **A simulation between sources**: related states give the same input, and are
related again afterwards. -/
structure LineSource.Simulates (source : LineSource σ) (other : LineSource ρ)
    (R : σ → ρ → Prop) : Prop where
  same : ∀ {s r}, R s r → (source.next s).1 = (other.next r).1
  step : ∀ {s r}, R s r → R (source.next s).2 (other.next r).2

/-- Performances that differ at most in the states of their sources, and in these as a
relation allows. -/
structure Performance.Matches (R : σ → ρ → Prop) (first : Performance σ τ α)
    (second : Performance ρ τ α) : Prop where
  trace : first.trace = second.trace
  result : first.result = second.result
  source : R first.source second.source
  link : first.link = second.link

theorem Performance.Matches.after {R : σ → ρ → Prop} {first : Performance σ τ α}
    {second : Performance ρ τ α} (h : first.Matches R second) (trace : Trace) :
    (first.after trace).Matches R (second.after trace) :=
  ⟨congrArg (trace ++ ·) h.trace, h.result, h.source, h.link⟩

namespace Dialogue

/-- **A dialogue cannot tell apart sources** that a simulation relates. -/
theorem run_simulates {source : LineSource σ} {other : LineSource ρ} {R : σ → ρ → Prop}
    (hsim : source.Simulates other R) (link : Link τ) (dialogue : Dialogue α) {s : σ} {r : ρ}
    (h : R s r) (t : τ) :
    (dialogue.run source link s t).Matches R (dialogue.run other link r t) := by
  induction dialogue generalizing s r t with
  | done result => exact ⟨rfl, rfl, h, rfl⟩
  | print text next ih => exact (ih h t).after _
  | note entry next ih => exact (ih h t).after _
  | ask prompt next ih =>
    simp only [run, hsim.same h]
    exact (ih _ (hsim.step h) t).after _
  | post path body next ih => exact (ih _ h _).after _

end Dialogue

/-! ## How a link moves -/

/-- **The state of a link after some requests**, handed over one after another. -/
def Link.afterPosts (link : Link τ) (t : τ) (posts : List (String × Option String)) : τ :=
  posts.foldl (fun t post => (link.post post.1 post.2 t).2) t

theorem Link.afterPosts_append (link : Link τ) (t : τ)
    (first second : List (String × Option String)) :
    link.afterPosts t (first ++ second) = link.afterPosts (link.afterPosts t first) second :=
  List.foldl_append

/-- **A link moves by the requests alone.** -/
theorem Dialogue.link_run (source : LineSource σ) (link : Link τ) (dialogue : Dialogue α)
    (s : σ) (t : τ) :
    (dialogue.run source link s t).link =
      link.afterPosts t (dialogue.run source link s t).trace.posts := by
  induction dialogue generalizing s t with
  | done result => rfl
  | print text next ih => exact ih s t
  | note entry next ih => exact ih s t
  | ask prompt next ih => exact ih _ _ t
  | post path body next ih =>
    have hposts : ((post path body next).run source link s t).trace.posts =
        (path, body) :: ((next (link.post path body t).1.result).run source link s
          (link.post path body t).2).trace.posts := by
      show Trace.posts (.post path body :: List.map .log _ ++ _) = _
      rw [List.cons_append, Trace.posts_cons_post, Trace.posts_append, Trace.posts_map_log]
      rfl
    rw [hposts]
    exact ih _ s _

end LiveRoom
