import LiveRoom.Proofs.Command.Effects
import LiveRoom.Proofs.Config.Schema
import LiveRoom.Proofs.Payload.Schema
import LiveRoom.Proofs.Payload.Strict

/-!
# Everything that is written can be read

What goes over the wire, in either direction, and what a configuration file holds are
records made of strings, integers, truth values, lists and other records.  Each of their
formats follows a relation, so every value comes back from its text
(`wire_formats_round_trip`): whatever its strings are made of, however long its lists are,
and whichever way it is written.

Writing cannot fail.  So a command that posts nothing has been refused or could not read
the answer to its question.
-/

namespace LiveRoom

open Json

/-! ## The formats -/

theorem OutputStream.exists_follows : ∃ means, OutputStream.format.Follows means :=
  ⟨_, OutputStream.format_follows⟩

theorem CreateRoom.exists_follows : ∃ means, CreateRoom.format.Follows means :=
  ⟨_, CreateRoom.format_follows⟩

theorem InputStream.exists_follows : ∃ means, InputStream.format.Follows means :=
  ⟨_, InputStream.format_follows⟩

theorem OutputSetting.exists_follows : ∃ means, OutputSetting.format.Follows means :=
  ⟨_, OutputSetting.format_follows⟩

theorem Muting.exists_follows : ∃ means, Muting.format.Follows means :=
  ⟨_, Muting.format_follows⟩

theorem Layout.exists_follows : ∃ means, Layout.format.Follows means :=
  ⟨_, Layout.format_follows⟩

theorem LayoutUpdate.exists_follows : ∃ means, LayoutUpdate.format.Follows means :=
  ⟨_, LayoutUpdate.format_follows⟩

theorem LayoutChange.exists_follows : ∃ means, LayoutChange.format.Follows means :=
  ⟨_, LayoutChange.format_follows⟩

theorem BackgroundChange.exists_follows : ∃ means, BackgroundChange.format.Follows means :=
  ⟨_, BackgroundChange.format_follows⟩

/-- **Round trips.**  Everything that is sent, received or configured comes back from its
text, pretty or compact, and different values have different texts.  Writing a payload never
stands in the way of a command: one that posts nothing was refused, or could not read the
answer to its question. -/
theorem wire_formats_round_trip :
    (CreateRoom.format.RoundTrips ∧ OutputStream.format.RoundTrips ∧
      InputStream.format.RoundTrips ∧ OutputSetting.format.RoundTrips ∧
      Muting.format.RoundTrips ∧ LayoutChange.format.RoundTrips ∧
      LayoutUpdate.format.RoundTrips ∧ Layout.format.RoundTrips ∧
      BackgroundChange.format.RoundTrips ∧ ServiceReply.format.RoundTrips ∧
      OutputPreset.format.RoundTrips ∧ OutputPresets.format.RoundTrips ∧
      Config.format.RoundTrips) ∧
    ∀ {σ τ : Type} (command : Command) (config : Config) (source : LineSource σ)
      (link : Link τ) (s : σ) (t : τ),
      let ran := command.run config source link s t
      ran.trace.posts = [] → (∃ why, ran.result = .error (.rejected why)) ∨
        ∃ reason, ran.result = .error (.unreadable reason) := by
  have hroundTrips : ∀ {α : Type} {format : Format α}, (∃ means, format.Follows means) →
      format.RoundTrips := by
    rintro α format ⟨means, hfollows⟩
    exact hfollows.roundTrips
  refine ⟨⟨?_, ?_, ?_, ?_, ?_, ?_, ?_, ?_, ?_, ?_, ?_, ?_, ?_⟩, ?_⟩
  · exact hroundTrips CreateRoom.exists_follows
  · exact hroundTrips OutputStream.exists_follows
  · exact hroundTrips InputStream.exists_follows
  · exact hroundTrips OutputSetting.exists_follows
  · exact hroundTrips Muting.exists_follows
  · exact hroundTrips LayoutChange.exists_follows
  · exact hroundTrips LayoutUpdate.exists_follows
  · exact hroundTrips Layout.exists_follows
  · exact hroundTrips BackgroundChange.exists_follows
  · exact ServiceReply.format_follows.roundTrips
  · exact OutputPreset.format_follows.roundTrips
  · exact OutputPresets.format_follows.roundTrips
  · exact Config.format_follows.roundTrips
  · intro σ τ command config source link s t ran h
    exact (command.posts_eq_nil_iff config source link s t).mp h

end LiveRoom
