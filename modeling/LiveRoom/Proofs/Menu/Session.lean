import LiveRoom.Proofs.Menu.Turn

/-!
# Whole sessions

What holds of every dialogue holds of a session, which is a chain of dialogues.  A
session cannot tell apart sources that a simulation relates (`Menu.run_matches`), and its
link moves by the requests alone (`Menu.link_run`).

Both go by induction on the turns: the session ends with a turn, or what is left of it is
a session of its own.
-/

namespace LiveRoom.Menu

variable {σ ρ τ : Type}

/-- **A session over two sources** that a simulation relates: it does the same. -/
theorem run_matches {source : LineSource σ} {other : LineSource ρ} {R : σ → ρ → Prop}
    (hsim : source.Simulates other R) (config : Config) (link : Link τ) {s : σ} {r : ρ}
    (h : R s r) (t : τ) :
    (run config source link s t).Matches R (run config other link r t) := by
  induction s, t using run_induction config source link generalizing r with
  | last s t ending hlast =>
    have hround : (round config source link s t).Matches R (round config other link r t) :=
      Dialogue.run_simulates hsim link (turn config) h t
    rw [run_of_some hlast, run_of_some (hround.result.symm.trans hlast)]
    exact ⟨hround.trace, rfl, hround.source, hround.link⟩
  | more s t hmore ih =>
    have hround : (round config source link s t).Matches R (round config other link r t) :=
      Dialogue.run_simulates hsim link (turn config) h t
    rw [run_of_none hmore, run_of_none (hround.result.symm.trans hmore)]
    dsimp only
    rw [← hround.trace, ← hround.link]
    exact (ih hround.source).after _

/-- **The link of a session moves by the requests alone.** -/
theorem link_run (config : Config) (source : LineSource σ) (link : Link τ) (s : σ) (t : τ) :
    (run config source link s t).link =
      link.afterPosts t (run config source link s t).trace.posts := by
  induction s, t using run_induction config source link with
  | last s t ending hlast =>
    rw [run_of_some hlast]
    exact Dialogue.link_run source link (turn config) s t
  | more s t hmore ih =>
    have hround : (round config source link s t).link =
        link.afterPosts t (round config source link s t).trace.posts :=
      Dialogue.link_run source link (turn config) s t
    rw [run_of_none hmore]
    simp only [Performance.after, Trace.posts_append, Link.afterPosts_append]
    rw [ih, ← hround]

end LiveRoom.Menu
