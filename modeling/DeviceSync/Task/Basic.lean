import DeviceSync.Task.Reflected

/-!
# Tasks

A task processes a reflected message, or answers a call. A reflected message is kept in the task store
until it is done and may be tried again. The answer to a call means something only while the call rings:
it is never stored and never tried again.
-/

namespace DeviceSync

/-- What the queue carries out. -/
inductive Task
  | reflected (envelope : Envelope)
  | answerCall (caller : Identity) (answer : CallAnswer)
deriving DecidableEq

/-- The message that carries the answer to a caller. -/
def CallAnswer.frame (answer : CallAnswer) (caller : Identity) (id : MessageId) : Frame :=
  .message caller MessageType.callAnswer.tag id (Encoded.encode answer)

/-- Names the message of the answer to the call, so that the call waits for it, and sends it. -/
def CallAnswer.attempt (answer : CallAnswer) (caller : Identity) : Work (Except TaskError Outcome) := do
  let id ← Work.registerMessage answer.callId
  return (← Work.send (Encoded.encode (answer.frame caller id))).map fun () => .completed

namespace Task

def ofData : TaskData → Task
  | .reflected e => reflected e

/-- The form in which a task is stored, if it is. -/
def data? : Task → Option TaskData
  | reflected e => some (.reflected e)
  | answerCall _ _ => none

/-- Whether the task may be carried out more than once. -/
def isIdempotent : Task → Bool
  | reflected _ => true
  | answerCall _ _ => false

def describe : Task → String
  | reflected e => e.describe
  | answerCall caller answer =>
    (match answer.action with
      | .accept => "accept"
      | .reject _ => "reject") ++
    " call " ++ toString answer.callId.toNat ++ " from " ++ caller.text

/-- One attempt at the task, on behalf of the given identity. -/
def attempt (me : Identity) : Task → Work (Except TaskError Outcome)
  | reflected e => e.attempt me
  | answerCall caller answer => answer.attempt caller

end Task

end DeviceSync
