import DeviceSync.Message.Basic
import DeviceSync.Wire.Decode
import DeviceSync.Wire.Encode

/-!
# Messages on the wire

The shape of every message, envelope, frame and stored task, with the passage between the message and
the value of the shape. `Encoded.encode` and `Encoded.decode` are the two directions; the passage loses
nothing in either direction. `WireError` is what can be wrong with a message that arrives.
-/

namespace DeviceSync

open Wire

def Wire.DecodeError.toText : Wire.DecodeError → String
  | .malformed => "not the encoding of such a value"
  | .invalidIdentity s => Identity.refusal s

/-- Why a message or a part of it is refused. -/
inductive WireError
  | decoding (cause : Wire.DecodeError)
  | unknownTag (tag : UInt8)
  | invalidIdentity (text : String)
  | invalidData (text : String)
deriving DecidableEq

def WireError.toText : WireError → String
  | .decoding cause => "deserialization failed: " ++ cause.toText
  | .unknownTag tag => "invalid message type: " ++ Text.tag tag
  | .invalidIdentity s => Identity.refusal s
  | .invalidData s => "invalid data: " ++ s

/-- A type whose values travel in a given shape. -/
class Encoded (α : Type) where
  shape : Shape
  toValue : α → shape.Value
  ofValue : shape.Value → α

namespace Encoded

def encode {α : Type} [Encoded α] (a : α) : Bytes := (shape α).write (toValue a)

/-- The value that octets encode; octets after it are ignored. -/
def decode (α : Type) [Encoded α] (bs : Bytes) : Except DecodeError α :=
  match (shape α).decode bs with
  | .ok v => .ok (ofValue v)
  | .error e => .error e

end Encoded

/-- The number of octets of a flags field, and of a tag, is one. -/
abbrev Wire.octetShape : Shape := .number .octet

instance : Encoded Conversation where
  shape := .choice <|
    .fields "Contact" (.field "identity" .identity .empty) <|
    .fields "Group" (.field "creator" .identity (.field "group_id" (.block 8) .empty)) .empty
  toValue
    | .contact i => .inl (i, ())
    | .group c g => .inr (.inl (c, g.block, ()))
  ofValue
    | .inl (i, ()) => .contact i
    | .inr (.inl (c, g, ())) => .group c ⟨g⟩

instance : Encoded DeleteMessage where
  shape := .record <|
    .field "conversation" (Encoded.shape Conversation) <|
    .field "target_message_id" (.block 8) <|
    .field "flags" octetShape .empty
  toValue m := (Encoded.toValue m.conversation, m.target.block, m.flags.bits, ())
  ofValue | (c, t, f, ()) => ⟨Encoded.ofValue c, ⟨t⟩, ⟨f⟩⟩

instance : Encoded DeliveryReceipt where
  shape := .record <|
    .field "conversation" (Encoded.shape Conversation) <|
    .field "receipt_type" octetShape <|
    .field "message_ids" (.list (.block 8)) <|
    .field "flags" octetShape .empty
  toValue m :=
    (Encoded.toValue m.conversation, m.receiptType, m.messageIds.map (·.block), m.flags.bits, ())
  ofValue | (c, t, ids, f, ()) => ⟨Encoded.ofValue c, t, ids.map MessageId.mk, ⟨f⟩⟩

instance : Encoded PollChoice where
  shape := .record <| .field "id" (.number .word) <| .field "text" .text .empty
  toValue c := (c.id, c.text, ())
  ofValue | (i, t, ()) => ⟨i, t⟩

instance : Encoded PollSetup where
  shape := .record <|
    .field "conversation" (Encoded.shape Conversation) <|
    .field "poll_id" (.number .long) <|
    .field "description" .text <|
    .field "choices" (.list (Encoded.shape PollChoice)) <|
    .field "multiple_choice" .flag <|
    .field "flags" octetShape .empty
  toValue m :=
    (Encoded.toValue m.conversation, m.pollId, m.description, m.choices.map Encoded.toValue,
      m.multipleChoice, m.flags.bits, ())
  ofValue
    | (c, p, d, cs, b, f, ()) => ⟨Encoded.ofValue c, p, d, cs.map Encoded.ofValue, b, ⟨f⟩⟩

instance : Encoded PollVote where
  shape := .record <|
    .field "conversation" (Encoded.shape Conversation) <|
    .field "poll_creator" .identity <|
    .field "poll_id" (.number .long) <|
    .field "choice_ids" (.list (.number .word)) <|
    .field "flags" octetShape .empty
  toValue m :=
    (Encoded.toValue m.conversation, m.pollCreator, m.pollId, m.choiceIds, m.flags.bits, ())
  ofValue | (c, i, p, cs, f, ()) => ⟨Encoded.ofValue c, i, p, cs, ⟨f⟩⟩

instance : Encoded CallAction where
  shape := .choice <|
    .bare "Accept" <| .fields "Reject" (.field "reason" octetShape .empty) .empty
  toValue
    | .accept => .inl ()
    | .reject r => .inr (.inl (r, ()))
  ofValue
    | .inl () => .accept
    | .inr (.inl (r, ())) => .reject r

instance : Encoded CallAnswer where
  shape := .record <|
    .field "call_id" (.number .word) <|
    .field "action" (Encoded.shape CallAction) <|
    .field "flags" octetShape .empty
  toValue m := (m.callId, Encoded.toValue m.action, m.flags.bits, ())
  ofValue | (c, a, f, ()) => ⟨c, Encoded.ofValue a, ⟨f⟩⟩

instance : Encoded Envelope where
  shape := .record <|
    .field "message_id" (.block 8) <|
    .field "sender_identity" .identity <|
    .field "created_at" (.number .long) <|
    .field "msg_type" octetShape <|
    .field "nonces" (.list (.block 24)) <|
    .field "payload" (.list octetShape) .empty
  toValue e :=
    (e.messageId.block, e.sender, e.createdAt, e.tag, e.nonces.map (·.block), e.payload, ())
  ofValue | (m, s, a, t, ns, p, ()) => ⟨⟨m⟩, s, a, t, ns.map Nonce.mk, p⟩

instance : Encoded Frame where
  shape := .choice <|
    .fields "ReflectedAck" (.field "message_id" (.block 8) .empty) <|
    .fields "Message"
      (.field "recipient" .identity <|
        .field "msg_type" octetShape <|
        .field "message_id" (.block 8) <|
        .field "payload" (.list octetShape) .empty)
      .empty
  toValue
    | .acknowledge m => .inl (m.block, ())
    | .message r t m p => .inr (.inl (r, t, m.block, p, ()))
  ofValue
    | .inl (m, ()) => .acknowledge ⟨m⟩
    | .inr (.inl (r, t, m, p, ())) => .message r t ⟨m⟩ p

instance : Encoded TaskData where
  shape := .choice <|
    .fields "Reflected" (.field "envelope" (Encoded.shape Envelope) .empty) .empty
  toValue | .reflected e => .inl (Encoded.toValue e, ())
  ofValue | .inl (e, ()) => .reflected (Encoded.ofValue e)

def Envelope.seal (type : MessageType) (id : MessageId) (sender : Identity) (time : UInt64)
    (nonces : List Nonce) (payload : Bytes) : Envelope :=
  ⟨id, sender, time, type.tag, nonces, payload⟩

/-- An envelope for a message, with a single nonce. -/
def Envelope.ofMessage {α : Type} [Encoded α] (type : MessageType) (id : MessageId) (sender : Identity)
    (time : UInt64) (nonce : Nonce) (message : α) : Envelope :=
  .seal type id sender time [nonce] (Encoded.encode message)

end DeviceSync
