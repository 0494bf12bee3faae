import LiveRoom.Proofs.Menu.Turn

/-!
# Sessions with and without a recorded log

The log is written while a session goes on: between what is printed, around the requests,
and by the link while it delivers one.  Whoever records it decides about each entry when it
is written.  A `recorder` is an actor that does this.  It keeps a `Recording`, into which it
writes whatever happens, but only some of the log, and `Menu.record` is the session that it
carries out, one turn after the other.

Two recorders that keep different parts of the log have different recordings.  Where one has
an entry between two pieces of printed text, the other has the pieces side by side.  Apart
from this nothing differs: the recording is that part of the trace of the session
(`Menu.record_eq_run`), so it is the same for both without the log and with adjacent text put
together (`Trace.joined_withoutLog_joined`).
-/

namespace LiveRoom

/-! ## Parts of a trace -/

namespace Trace

/-- **The trace as it is recorded** when only some of the log is. -/
def recordedBy (records : Log.Entry → Bool) (trace : Trace) : Trace :=
  trace.filter fun
    | .log entry => records entry
    | _ => true

variable (records : Log.Entry → Bool)

@[simp]
theorem recordedBy_append (first second : Trace) :
    recordedBy records (first ++ second) = recordedBy records first ++ recordedBy records second :=
  List.filter_append ..

theorem recordedBy_cons (event : Event) (trace : Trace) :
    recordedBy records (event :: trace) = recordedBy records [event] ++ recordedBy records trace :=
  recordedBy_append records [event] trace

theorem recordedBy_true (trace : Trace) : recordedBy (fun _ => true) trace = trace := by
  refine List.filter_eq_self.mpr ?_
  rintro (_ | _ | _ | _) - <;> rfl

theorem recordedBy_false (trace : Trace) :
    recordedBy (fun _ => false) trace = withoutLog trace := by
  refine List.filter_congr ?_
  rintro (_ | _ | _ | _) - <;> rfl

/-- Without the log it does not matter how much of it was recorded. -/
theorem withoutLog_recordedBy (trace : Trace) :
    withoutLog (recordedBy records trace) = withoutLog trace := by
  rw [withoutLog, recordedBy, List.filter_filter]
  refine List.filter_congr ?_
  rintro (_ | _ | _ | _) - <;> simp [isLog]

/-! ## Adjacent text -/

/-- Text that is put in front of a trace joins what follows it, now or later. -/
theorem attach_print_attach_print (first second : String) (trace : Trace) :
    attach (.print first) (attach (.print second) trace) =
      attach (.print (first ++ second)) trace := by
  cases trace with
  | nil => rfl
  | cons event trace =>
    cases event with
    | print third =>
      show [Event.print (first ++ (second ++ third))] ++ trace = _
      rw [← String.append_assoc]
      rfl
    | _ => rfl

/-- An event that is no log entry stays, and joins what is left behind it. -/
theorem joined_withoutLog_cons (event : Event) (trace : Trace) :
    joined (withoutLog (event :: trace)) =
      if isLog event then joined (withoutLog trace)
      else attach event (joined (withoutLog trace)) := by
  cases event <;> rfl

/-- Text that has been joined is not parted when the log is taken out. -/
theorem joined_withoutLog_attach (event : Event) (trace : Trace) :
    joined (withoutLog (attach event trace)) = joined (withoutLog (event :: trace)) := by
  cases event with
  | print first =>
    cases trace with
    | nil => rfl
    | cons other trace =>
      cases other with
      | print second => exact (attach_print_attach_print first second _).symm
      | _ => rfl
  | _ => rfl

/-- **Joining adjacent text before the log is taken out does not matter**, if it is joined
again afterwards. -/
theorem joined_withoutLog_joined (trace : Trace) :
    joined (withoutLog (joined trace)) = joined (withoutLog trace) := by
  induction trace with
  | nil => rfl
  | cons event trace ih =>
    show joined (withoutLog (attach event (joined trace))) = _
    rw [joined_withoutLog_attach, joined_withoutLog_cons, joined_withoutLog_cons, ih]

end Trace

/-! ## Recorders -/

variable {σ τ α : Type}

/-- **What was recorded** of a session so far, and the states of its source and its link. -/
structure Recording (σ τ : Type) where
  trace : Trace
  source : σ
  link : τ

namespace Recording

/-- One more event. -/
def wrote (recording : Recording σ τ) (event : Event) : Recording σ τ :=
  { recording with trace := recording.trace ++ [event] }

/-- A log entry, which is recorded or not. -/
def noted (records : Log.Entry → Bool) (recording : Recording σ τ) (entry : Log.Entry) :
    Recording σ τ :=
  if records entry then recording.wrote (.log entry) else recording

/-- A performance, with that part of its log which is recorded. -/
def added (records : Log.Entry → Bool) (recording : Recording σ τ)
    (performance : Performance σ τ α) : Recording σ τ :=
  ⟨recording.trace ++ performance.trace.recordedBy records, performance.source,
    performance.link⟩

theorem noted_eq (records : Log.Entry → Bool) (recording : Recording σ τ) (entry : Log.Entry) :
    recording.noted records entry =
      { recording with
        trace := recording.trace ++ Trace.recordedBy records [.log entry] } := by
  unfold noted wrote Trace.recordedBy
  by_cases hrecords : records entry <;> simp [hrecords]

theorem added_after (records : Log.Entry → Bool) (recording : Recording σ τ) (trace : Trace)
    (performance : Performance σ τ α) :
    recording.added records (performance.after trace) =
      added records { recording with trace := recording.trace ++ trace.recordedBy records }
        performance := by
  simp only [added, Performance.after, Trace.recordedBy_append, List.append_assoc]

end Recording

/-- **The actor that records** what it does, and of the log those entries that it is told
to. -/
def recorder (records : Log.Entry → Bool) (source : LineSource σ) (link : Link τ) :
    Actor (StateM (Recording σ τ)) where
  print text := modify fun recording => recording.wrote (.print text)
  note entry := modify fun recording => recording.noted records entry
  ask prompt := modifyGet fun recording =>
    let read := source.next recording.source
    (read.1, { recording.wrote (.prompt prompt) with source := read.2 })
  post path body := modifyGet fun recording =>
    let delivered := link.post path body recording.link
    (delivered.1, { recording.wrote (.post path body) with link := delivered.2 })

section Perform
variable (records : Log.Entry → Bool) (source : LineSource σ) (link : Link τ)

/-- The log of a delivery is recorded entry by entry. -/
theorem forM_note_recorder (log : List Log.Entry) (recording : Recording σ τ) :
    (log.forM (recorder records source link).note).run recording =
      ((), { recording with
        trace := recording.trace ++ Trace.recordedBy records (log.map .log) }) := by
  induction log generalizing recording with
  | nil =>
    show ((), recording) = _
    rw [List.map_nil, Trace.recordedBy, List.filter_nil, List.append_nil]
  | cons entry log ih =>
    show (log.forM (recorder records source link).note).run (recording.noted records entry) = _
    rw [ih, Recording.noted_eq, List.map_cons,
      Trace.recordedBy_cons records (.log entry) (log.map .log), ← List.append_assoc]

/-- **A dialogue that is carried out by a recorder** has the result that it has anyway, and
its recording is that part of its trace. -/
theorem Dialogue.perform_recorder (dialogue : Dialogue α) (recording : Recording σ τ) :
    (dialogue.perform (recorder records source link)).run recording =
      let ran := dialogue.run source link recording.source recording.link
      (ran.result, recording.added records ran) := by
  induction dialogue generalizing recording with
  | done result =>
    show (result, recording) = (result, Recording.added records recording ⟨[], _, _, _⟩)
    rw [Recording.added, Trace.recordedBy, List.filter_nil, List.append_nil]
  | print text next ih =>
    show (next.perform (recorder records source link)).run (recording.wrote (.print text)) = _
    simp only [ih, run, Recording.added_after]
    rfl
  | note entry next ih =>
    show (next.perform (recorder records source link)).run (recording.noted records entry) = _
    simp only [ih, run, Recording.added_after, Recording.noted_eq]
    rfl
  | ask prompt next ih =>
    show ((next (source.next recording.source).1).perform (recorder records source link)).run
      { recording.wrote (.prompt prompt) with source := (source.next recording.source).2 } = _
    simp only [ih, run, Recording.added_after]
    rfl
  | post path body next ih =>
    let delivered := link.post path body recording.link
    let sent := { recording.wrote (.post path body) with link := delivered.2 }
    show (do
        delivered.1.log.forM (recorder records source link).note
        (next delivered.1.result).perform (recorder records source link)).run sent = _
    rw [StateT.run_bind, forM_note_recorder]
    show ((next delivered.1.result).perform (recorder records source link)).run _ = _
    simp only [ih, run, Recording.added_after]
    rw [Trace.recordedBy_cons records (.post path body), ← List.append_assoc]
    rfl

end Perform

/-! ## Sessions -/

namespace Menu

variable (records : Log.Entry → Bool) (config : Config) (source : LineSource σ) (link : Link τ)

/-- One turn that is carried out by a recorder. -/
def recordTurn (recording : Recording σ τ) : Option Ending × Recording σ τ :=
  ((turn config).perform (recorder records source link)).run recording

theorem recordTurn_eq (recording : Recording σ τ) :
    recordTurn records config source link recording =
      let ran := round config source link recording.source recording.link
      (ran.result, recording.added records ran) :=
  Dialogue.perform_recorder records source link (turn config) recording

/-- A turn after which the menu comes back has used up a line, also for a recorder. -/
theorem left_recordTurn_lt {recording : Recording σ τ}
    (h : (recordTurn records config source link recording).1 = none) :
    source.left (recordTurn records config source link recording).2.source <
      source.left recording.source := by
  rw [recordTurn_eq] at h ⊢
  exact left_round_lt h

/-- **The session of a recorder**: turns until one ends it. -/
def record (recording : Recording σ τ) : Ending × Recording σ τ :=
  let turned := recordTurn records config source link recording
  match h : turned.1 with
  | some ending => (ending, turned.2)
  | none =>
    have := left_recordTurn_lt records config source link h
    record turned.2
termination_by source.left recording.source

theorem record_eq (recording : Recording σ τ) :
    record records config source link recording =
      let turned := recordTurn records config source link recording
      turned.1.elim (record records config source link turned.2) fun ending =>
        (ending, turned.2) := by
  rw [record]
  dsimp only
  split
  · rename_i hending
    rw [hending]
    rfl
  · rename_i hnone
    show record records config source link _ = _
    rw [hnone]
    rfl

/-- **What a recorder records is part of the trace**, whichever part of the log it is; the
session ends as it does anyway, and leaves the same. -/
theorem record_eq_run (recording : Recording σ τ) :
    record records config source link recording =
      let ran := run config source link recording.source recording.link
      (ran.result, recording.added records ran) := by
  obtain ⟨trace, s, t⟩ := recording
  induction s, t using run_induction config source link generalizing trace with
  | last s t ending hlast =>
    rw [record_eq, recordTurn_eq, run_of_some hlast]
    dsimp only
    rw [hlast]
    rfl
  | more s t hmore ih =>
    rw [record_eq, recordTurn_eq, run_of_none hmore]
    dsimp only
    rw [hmore]
    rw [Recording.added_after]
    exact ih _

section Start
variable (s : σ) (t : τ)

theorem record_all : record (fun _ => true) config source link ⟨[], s, t⟩ =
    let ran := run config source link s t
    (ran.result, ⟨ran.trace, ran.source, ran.link⟩) := by
  rw [record_eq_run]
  simp only [Recording.added, Trace.recordedBy_true, List.nil_append]

theorem record_silent : record (fun _ => false) config source link ⟨[], s, t⟩ =
    let ran := run config source link s t
    (ran.result, ⟨ran.trace.withoutLog, ran.source, ran.link⟩) := by
  rw [record_eq_run]
  simp only [Recording.added, Trace.recordedBy_false, List.nil_append]

/-- **The log does not matter.**  However much of it is recorded, the session ends as it does
when nothing is, and leaves the same.  Without the log, the text that it parted joins again. -/
theorem record_eq_silent :
    let recorded := record records config source link ⟨[], s, t⟩
    let silent := record (fun _ => false) config source link ⟨[], s, t⟩
    recorded.1 = silent.1 ∧ recorded.2.source = silent.2.source ∧
      recorded.2.link = silent.2.link ∧
      recorded.2.trace.joined.withoutLog.joined = silent.2.trace.joined := by
  intro recorded silent
  have hrecorded : recorded = _ := record_eq_run records config source link ⟨[], s, t⟩
  have hsilent : silent = _ := record_silent config source link s t
  rw [hrecorded, hsilent]
  refine ⟨rfl, rfl, rfl, ?_⟩
  rw [Trace.joined_withoutLog_joined]
  simp only [Recording.added, List.nil_append, Trace.withoutLog_recordedBy]

end Start

end Menu

end LiveRoom
