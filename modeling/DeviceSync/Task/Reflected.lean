import DeviceSync.Message.Wire
import DeviceSync.Task.Workspace

/-!
# Reflected messages

A message that another device of the same identity reflected is processed in six steps:

1. its tag decides how it is handled, unknown tags being passed over;
2. its payload is decoded, and must belong to a conversation of the right kind;
3. its nonces are recorded if it is protected; a nonce that was recorded before ends it here;
4. its effect is applied;
5. its conversation moves up if the message asks for it;
6. it is acknowledged, so that it is not delivered again.

When step 4 or 5 fails the nonces of step 3 are released, so that a later delivery is not taken for a
replay. Messages that other devices reflect are this identity's own: the local identity is the author
of the reaction, poll or vote.
-/

namespace DeviceSync

/-- The content of a reflected message. -/
inductive Payload
  | delete (message : DeleteMessage)
  | receipt (message : DeliveryReceipt)
  | pollSetup (message : PollSetup)
  | pollVote (message : PollVote)
deriving DecidableEq

namespace Payload

/-- The content that octets encode for the given handling. -/
def decode (kind : ReflectedKind) (bs : Bytes) : Except WireError Payload :=
  let read (α : Type) [Encoded α] (wrap : α → Payload) : Except WireError Payload :=
    match Encoded.decode α bs with
    | .ok m => .ok (wrap m)
    | .error cause => .error (.decoding cause)
  match kind with
  | .delete => read DeleteMessage delete
  | .deliveryReceipt => read DeliveryReceipt receipt
  | .pollSetup => read PollSetup pollSetup
  | .pollVote => read PollVote pollVote

/-- The handling that the content belongs to. -/
def kind : Payload → ReflectedKind
  | delete _ => .delete
  | receipt _ => .deliveryReceipt
  | pollSetup _ => .pollSetup
  | pollVote _ => .pollVote

/-- The conversation of the message. -/
def conversation : Payload → Conversation
  | delete m => m.conversation
  | receipt m => m.conversation
  | pollSetup m => m.conversation
  | pollVote m => m.conversation

/-- The flags of the message. -/
def flags : Payload → Flags
  | delete m => m.flags
  | receipt m => m.flags
  | pollSetup m => m.flags
  | pollVote m => m.flags

/-- Whether the nonces of the message are recorded. -/
def protects (p : Payload) : Bool := p.flags.protects

/-- Whether the conversation moves up; a receipt never moves it. -/
def bumps : Payload → Bool
  | receipt _ => false
  | p => p.flags.bumps

/-- Whom the effect is attributed to; a deletion has no author. -/
def author? (me : Identity) : Payload → Option Identity
  | delete _ => none
  | _ => some me

end Payload

namespace Envelope

/-- A short description of the task of processing an envelope. -/
def describe (e : Envelope) : String :=
  "reflected " ++ Text.tag e.tag ++ " message " ++ e.messageId.toHex

/-- Removes the content of a message, if it is known and still has content. -/
def applyDelete (m : DeleteMessage) : Work (Except TaskError Unit) := do
  match ← Work.findMessage m.conversation m.target with
  | some stored => if stored.deleted then return .ok () else Work.deleteContents stored
  | none => return .ok ()

/-- Reacts to the messages that are known, in order, until a call fails. -/
def applyReactions (c : Conversation) (state : MessageState) (me : Identity) (time : UInt64) :
    List MessageId → Work (Except TaskError Unit)
  | [] => return .ok ()
  | target :: targets => do
    match ← Work.findMessage c target with
    | some stored =>
      match ← Work.react ⟨stored.messageId, state, me, time⟩ with
      | .ok () => applyReactions c state me time targets
      | .error e => return .error e
    | none => applyReactions c state me time targets

def pollOf (e : Envelope) (me : Identity) (m : PollSetup) : Poll :=
  ⟨m.conversation, me, m.pollId, m.description, m.choices, m.multipleChoice, e.createdAt⟩

def voteOf (me : Identity) (m : PollVote) : Vote :=
  ⟨m.conversation, m.pollCreator, m.pollId, me, m.choiceIds⟩

/-- The effect of a message by itself. A receipt that is no reaction is passed over. -/
def applyEffect (e : Envelope) (me : Identity) : Payload → Work (Except TaskError Outcome)
  | .delete m => do return (← applyDelete m).map fun () => .completed
  | .receipt m =>
    match reactionOf m.receiptType with
    | .error cause => return .ok (.skipped (.unsupportedReceipt cause))
    | .ok state => do
      return (← applyReactions m.conversation state me e.createdAt m.messageIds).map fun () => .completed
  | .pollSetup m => do return (← Work.createPoll (e.pollOf me m)).map fun () => .completed
  | .pollVote m => do return (← Work.vote (voteOf me m)).map fun () => .completed

/-- The effect of a message, and after it the move of its conversation. -/
def apply (e : Envelope) (me : Identity) (p : Payload) : Work (Except TaskError Outcome) := do
  match ← e.applyEffect me p with
  | .error err => return .error err
  | .ok outcome =>
    if p.bumps then
      return (← Work.bump p.conversation e.createdAt).map fun () => outcome
    else return .ok outcome

/-- Applies a message, and releases its nonces if that fails. -/
def applyOrRelease (e : Envelope) (me : Identity) (p : Payload) : Work (Except TaskError Outcome) := do
  match ← e.apply me p with
  | .ok outcome => return .ok outcome
  | .error err =>
    if p.protects then
      match ← Work.releaseNonces me e.nonces with
      | .ok () => return .error err
      | .error storeErr => return .error storeErr
    else return .error err

/-- Processes an envelope up to its acknowledgement. -/
def process (e : Envelope) (me : Identity) (kind : ReflectedKind) (scope : Scope) :
    Work (Except TaskError Outcome) :=
  match Payload.decode kind e.payload with
  | .error cause => return .ok (.skipped (.decode cause.toText))
  | .ok p =>
    if p.conversation.scope ≠ scope then
      return .ok (.skipped (.decode "conversation scope does not match message type"))
    else if !p.protects then e.applyOrRelease me p
    else if e.nonces.isEmpty then return .ok (.skipped .missingNonces)
    else do
      match ← Work.recordNonces me e.nonces with
      | .error err => return .error err
      | .ok false => return .ok .duplicate
      | .ok true => e.applyOrRelease me p

/-- The frame that acknowledges an envelope. -/
def acknowledgement (e : Envelope) : Bytes := Encoded.encode (Frame.acknowledge e.messageId)

/-- What the tag leads to: processing, or passing over. -/
def handle (e : Envelope) (me : Identity) : Work (Except TaskError Outcome) :=
  match dispatch e.tag with
  | .skip reason => return .ok (.skipped (.dispatch reason))
  | .handle kind scope => e.process me kind scope

def attempt (e : Envelope) (me : Identity) : Work (Except TaskError Outcome) := do
  match ← e.handle me with
  | .error err => return .error err
  | .ok outcome => return (← Work.send e.acknowledgement).map fun () => outcome

end Envelope

end DeviceSync
