import DeviceSync.Group.Registry
import DeviceSync.Linking.Run

/-!
# Operations on the group

Joining and leaving the group, removing the other devices and reading their list exclude each other: one
that comes while another is under way is refused. Linking a device waits for its turn, after the new
device is provisioned.

Forward security is off while this device takes part in the group, for it does not work across devices.
-/

namespace DeviceSync

/-- A call that an operation makes. -/
inductive GroupCall
  /-- Takes the lock if it is free. -/
  | tryLock
  /-- Stands in line for the lock. -/
  | joinLine
  /-- Waits for its turn and takes the lock. -/
  | lock
  | unlock
  | isActive
  | publish (state : GroupState)
  /-- Publishes the state as it is. -/
  | republish
  /-- Publishes the state with one more device, if it is not among them. -/
  | publishDevice (device : LinkedDevice)
  | register (label : String)
  | fetch
  | dropOthers
  | deregister
  | setForwardSecurity (enabled : Bool)
  | linking (call : LinkingCall)

abbrev GroupCall.Answer : GroupCall → Type
  | tryLock | isActive => Bool
  | joinLine | lock | unlock | publish _ | republish | publishDevice _ => Unit
  | register _ | dropOthers | deregister | setForwardSecurity _ => Except ServiceError Unit
  | fetch => Except ServiceError (List LinkedDevice)
  | linking call => call.Answer

abbrev GroupWork (α : Type) : Type := Procedure GroupCall GroupCall.Answer α

namespace GroupWork

variable {α : Type}

/-- Does work while holding the lock; refused where the lock is not free. -/
def exclusively (work : GroupWork (Except GroupError α)) : GroupWork (Except GroupError α) :=
  .ask .tryLock fun
    | false => .done (.error .inProgress)
    | true => work.bind fun result => .ask .unlock fun () => .done result

/-- Publishes the state as it is, with a result. -/
def unchanged (result : Except GroupError α) : GroupWork (Except GroupError α) :=
  .ask .republish fun () => .done result

def publishing (state : GroupState) (result : Except GroupError α) : GroupWork (Except GroupError α) :=
  .ask (.publish state) fun () => .done result

/-- A failed attempt to join: whatever was done is undone, as far as that succeeds. -/
def rollBack (e : ServiceError) : GroupWork (Except GroupError Unit) :=
  .ask .deregister fun _ => .ask (.setForwardSecurity true) fun _ =>
    publishing {} (.error (.service e))

/-- Joins the group under a label, if this device does not take part yet. -/
def activate (label : String) : GroupWork (Except GroupError Unit) :=
  exclusively <| .ask .isActive fun
    | true => unchanged (.ok ())
    | false => .ask (.setForwardSecurity false) fun
      | .error e => rollBack e
      | .ok () => .ask (.register label) fun
        | .error e => rollBack e
        | .ok () => .ask .fetch fun
          | .error e => rollBack e
          | .ok devices => publishing ⟨true, devices⟩ (.ok ())

/-- A failed attempt to leave: this device still takes part, and the list is read again, as far as that
succeeds. -/
def stay (e : ServiceError) : GroupWork (Except GroupError Unit) :=
  .ask .fetch fun
    | .ok devices => publishing ⟨true, devices⟩ (.error (.service e))
    | .error _ => unchanged (.error (.service e))

/-- Removes the other devices and leaves the group, if this device takes part. -/
def deactivate : GroupWork (Except GroupError Unit) :=
  exclusively <| .ask .isActive fun
    | false => unchanged (.ok ())
    | true => .ask .dropOthers fun
      | .error e => stay e
      | .ok () => .ask .deregister fun
        | .error e => stay e
        | .ok () => .ask (.setForwardSecurity true) fun
          | .error e => stay e
          | .ok () => publishing {} (.ok ())

/-- Reads the list of the other devices; it is empty while this device does not take part. -/
def refresh : GroupWork (Except GroupError (List LinkedDevice)) :=
  .ask .isActive fun
    | false => unchanged (.ok [])
    | true => .ask .fetch fun
      | .ok devices => publishing ⟨true, devices⟩ (.ok devices)
      | .error e => unchanged (.error (.service e))

def load : GroupWork (Except GroupError (List LinkedDevice)) := exclusively refresh

/-- Removes the other devices while this device stays. -/
def purge : GroupWork (Except GroupError Unit) :=
  exclusively <| .ask .isActive fun
    | false => unchanged (.error .notActive)
    | true => .ask .dropOthers fun
      | .error e => unchanged (.error (.service e))
      | .ok () => refresh.bind fun result => .done (result.map fun _ => ())

/-- A linking procedure as a procedure on the group. -/
def ofLinking (work : LinkingWork α) : GroupWork α := work.embed .linking fun _ answer => answer

/-- Reads the list after a device was linked; where that fails, the new device is added to the list that
was read before. -/
def listDevice (device : LinkedDevice) : GroupWork Unit :=
  .ask .joinLine fun () => .ask .lock fun () => refresh.bind fun
    | .ok _ => .ask .unlock .done
    | .error _ => .ask (.publishDevice device) fun () => .ask .unlock .done

/-- Links a new device to the group. -/
def link : GroupWork (Except GroupError LinkedDevice) :=
  .ask .isActive fun
    | false =>
      .ask (.linking (.fail (.cancelled GroupError.notActive.toText))) fun () =>
        .done (.error .notActive)
    | true => (ofLinking LinkingWork.run).bind fun
      | .error e => .done (.error (.linking e))
      | .ok device => (listDevice device).bind fun () => .done (.ok device)

end GroupWork

end DeviceSync
