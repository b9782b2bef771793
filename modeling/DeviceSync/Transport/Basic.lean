/-!
# Connection faults and close reasons
-/

namespace DeviceSync

/-- Why a transport call failed. -/
inductive TransportError
  | notConnected
  | connectionClosed
  | sendFailed (text : String)
  | receiveFailed (text : String)
  | timeout
deriving DecidableEq

def TransportError.toText : TransportError → String
  | .notConnected => "not connected"
  | .connectionClosed => "connection closed"
  | .sendFailed text => "send failed: " ++ text
  | .receiveFailed text => "receive failed: " ++ text
  | .timeout => "transport timeout"

/-- Why a connection ended. -/
structure CloseReason where
  code : UInt16
  reason : String
deriving DecidableEq

namespace CloseReason

/-- The connection was closed as intended. -/
def normal : CloseReason := ⟨1000, "normal closure"⟩

/-- The connection was lost, for the given reason. -/
def abnormal (text : String) : CloseReason := ⟨1006, text⟩

/-- This device was dropped from the group. -/
def isDeviceDropped (r : CloseReason) : Bool := r.code == 4115

def toText (r : CloseReason) : String := r.reason ++ " (" ++ toString r.code.toNat ++ ")"

end CloseReason

end DeviceSync
