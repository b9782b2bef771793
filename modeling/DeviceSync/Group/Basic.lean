import DeviceSync.Linking.State
import DeviceSync.Service.Basic

/-!
# The device group

The devices of an identity form a group. What the application is shown of it is a `GroupState`: whether
this device takes part, and the other devices.
-/

namespace DeviceSync

/-- Another device of the same identity. -/
structure LinkedDevice where
  id : UInt64
  label : String
  platform : String
  lastActive : Option UInt64 := none
deriving DecidableEq

/-- What the application is shown of the group. -/
structure GroupState where
  active : Bool := false
  devices : List LinkedDevice := []
deriving DecidableEq

/-- Why an operation on the group failed. -/
inductive GroupError
  /-- Another operation is under way. -/
  | inProgress
  /-- This device does not take part in the group. -/
  | notActive
  | service (cause : ServiceError)
  | linking (cause : LinkingError)
deriving DecidableEq

def GroupError.toText : GroupError → String
  | inProgress => "another multi-device operation is in progress"
  | notActive => "multi-device is not active"
  | service cause => "backend error: " ++ cause.toText
  | linking cause => "linking failed: " ++ cause.toText

end DeviceSync
