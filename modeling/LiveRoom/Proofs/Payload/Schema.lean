import LiveRoom.Payload
import LiveRoom.Proofs.Json.Records

/-!
# Which bodies are replies

The service may answer with any text.  It holds a reply exactly if it is a JSON value that
describes one (`ServiceReply.ofBody?_eq_some_iff`): an object or a list in which each of the
three fields is given once or not at all.

A field that is given must have a value of its own kind.  A `null` is none, and neither is a
code with a point or an exponent, or one that does not fit 32 bits: such a body holds no
reply, rather than one with the default in that place.  Members that are not asked for may
hold anything that is a JSON value.
-/

namespace LiveRoom

open Json

/-- **A term describes a reply**, none of whose fields need be given. -/
structure ServiceReply.Describes (term : Term) (reply : ServiceReply) : Prop where
  record : term.IsRecord 3
  code : Given IsInt32 (some 0) (term.given "code" 0) reply.code
  msg : Given IsText (some "") (term.given "msg" 1) reply.msg
  synchronous : Given IsFlag (some false) (term.given "bSyncResp" 2) reply.synchronous

theorem ServiceReply.format_follows : ServiceReply.format.Follows ServiceReply.Describes := by
  unfold ServiceReply.format
  refine (Format.record_follows (.cons _ Format.int32_follows (by decide) <|
    .cons _ Format.text_follows (by decide) <|
    .cons _ Format.flag_follows (by decide) .nil) fun _ => rfl).congr ?_
  intro term reply
  constructor
  · rintro ⟨⟨code, msg, synchronous, ⟨⟩⟩, ⟨hshape, hcode, hmsg, hsynchronous, -⟩, rfl⟩
    exact ⟨hshape, hcode, hmsg, hsynchronous⟩
  · rintro ⟨hshape, hcode, hmsg, hsynchronous⟩
    exact ⟨(reply.code, reply.msg, reply.synchronous, ()),
      ⟨hshape, hcode, hmsg, hsynchronous, trivial⟩, rfl⟩

/-- **A body holds a reply** exactly if it is a JSON value that describes it, with nothing but
blanks around; any other body holds none. -/
theorem ServiceReply.ofBody?_eq_some_iff (body : String) (reply : ServiceReply) :
    ServiceReply.ofBody? body = some reply ↔
      ∃ term, Document body.toList term ∧ ServiceReply.Describes term reply := by
  rw [← ServiceReply.format_follows.parse_eq_ok_iff, ServiceReply.ofBody?]
  cases ServiceReply.format.parse body with
  | error fault => exact ⟨nofun, nofun⟩
  | ok found => exact ⟨fun h => congrArg Except.ok (Option.some.inj h),
      fun h => congrArg some (Except.ok.inj h)⟩

end LiveRoom
