import DeviceSync.Group.Basic
import DeviceSync.Linking.Session
import DeviceSync.Procedure

/-!
# Running a linking attempt

A rendezvous path to the new device is established, the operator compares the codes, and the new device is
provisioned. Each call is one moment; the three that may take long are establishing the path, waiting for
the operator, and provisioning.
-/

namespace DeviceSync

/-- A call that a linking attempt makes. -/
inductive LinkingCall
  /-- Establishes the path to the new device. -/
  | establishPath
  | announcePath (path : PathHash)
  | startWait
  /-- Waits until the signal is resolved. -/
  | finishWait
  /-- Hands the new device what it needs. -/
  | provision
  /-- Ends the attempt; the answer tells why it cannot be completed, if it cannot. -/
  | complete
  | fail (cause : LinkingError)

abbrev LinkingCall.Answer : LinkingCall → Type
  | establishPath => Except LinkingError PathHash
  | announcePath _ | fail _ => Unit
  | startWait | finishWait => Confirmation
  | provision => Except LinkingError LinkedDevice
  | complete => Except LinkingError Unit

/-- What the other side of a linking attempt does. -/
structure Provisioner where
  path : Except LinkingError PathHash
  device : Except LinkingError LinkedDevice

/-- What a call does to the session, if it need not wait. -/
def LinkingCall.effect? (p : Provisioner) :
    (c : LinkingCall) → LinkingSession → Option (c.Answer × LinkingSession)
  | establishPath, s => some (p.path, s)
  | announcePath path, s => some ((), s.establish path)
  | startWait, s => some s.startWait
  | finishWait, s => s.signal.map fun value => (value, s.finishWait)
  | provision, s => some (p.device, s)
  | complete, s =>
    let (completed, s) := s.complete
    some (if completed then .ok () else .error s.cause, s)
  | fail cause, s => some ((), s.fail cause)

abbrev LinkingWork (α : Type) : Type := Procedure LinkingCall LinkingCall.Answer α

namespace LinkingWork

/-- Waits until the operator confirms or declines. -/
def await : LinkingWork Confirmation :=
  .ask .startWait fun
    | .error e => .done (.error e)
    | .ok () => .ask .finishWait .done

def failWith {α : Type} (e : LinkingError) : LinkingWork (Except LinkingError α) :=
  .ask (.fail e) fun () => .done (.error e)

def provision : LinkingWork (Except LinkingError LinkedDevice) :=
  .ask .provision fun
    | .error e => failWith e
    | .ok device => .ask .complete fun completed => .done (completed.map fun () => device)

/-- The whole attempt. -/
def run : LinkingWork (Except LinkingError LinkedDevice) :=
  .ask .establishPath fun
    | .error e => failWith e
    | .ok path => .ask (.announcePath path) fun () =>
      await.bind fun
        | .error e => .done (.error e)
        | .ok () => provision

end LinkingWork

end DeviceSync
