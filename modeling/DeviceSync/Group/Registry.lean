import DeviceSync.Group.Basic

/-!
# The registry of a group

The registry keeps the group: under which label this device takes part, the other devices, and whether
messages have forward security. A call to it can be made to fail, once; it then does nothing.
-/

namespace DeviceSync

/-- The calls to the registry. -/
inductive RegistryCall
  | register
  | fetch
  | drop
  | deregister
  | forwardSecurity
deriving DecidableEq

/-- The registry of a group. -/
structure Registry where
  /-- The label of this device, while it takes part. -/
  label : Option String := none
  /-- The other devices, by rising names. -/
  devices : List LinkedDevice := []
  forwardSecurity : Option Bool := none
  /-- The calls that are about to fail. -/
  faults : List (RegistryCall × ServiceError) := []

namespace Registry

/-- Puts a device in its place among devices with rising names, instead of the one of its name. -/
def insert (d : LinkedDevice) : List LinkedDevice → List LinkedDevice
  | [] => [d]
  | e :: es =>
    if d.id < e.id then d :: e :: es
    else if d.id = e.id then d :: es
    else e :: insert d es

def addDevice (r : Registry) (d : LinkedDevice) : Registry := { r with devices := insert d r.devices }

def failNext (r : Registry) (call : RegistryCall) (e : ServiceError) : Registry :=
  { r with faults := (call, e) :: r.faults.filter (·.1 != call) }

/-- Does the work of a call, unless the call fails. -/
def attempt {α : Type} (r : Registry) (call : RegistryCall) (work : Registry → α × Registry) :
    Except ServiceError α × Registry :=
  match r.faults.find? (·.1 == call) with
  | some (_, e) => (.error e, { r with faults := r.faults.filter (·.1 != call) })
  | none =>
    let (a, r) := work r
    (.ok a, r)

def register (r : Registry) (label : String) : Except ServiceError Unit × Registry :=
  r.attempt .register fun r => ((), { r with label := some label })

def fetch (r : Registry) : Except ServiceError (List LinkedDevice) × Registry :=
  r.attempt .fetch fun r => (r.devices, r)

def dropOthers (r : Registry) : Except ServiceError Unit × Registry :=
  r.attempt .drop fun r => ((), { r with devices := [] })

def deregister (r : Registry) : Except ServiceError Unit × Registry :=
  r.attempt .deregister fun r => ((), { r with label := none })

def setForwardSecurity (r : Registry) (enabled : Bool) : Except ServiceError Unit × Registry :=
  r.attempt .forwardSecurity fun r => ((), { r with forwardSecurity := some enabled })

end Registry

end DeviceSync
