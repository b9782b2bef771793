import DeviceSync.Message.Basic

/-!
# Dispatch

The type tag alone decides how a reflected message is handled and what kind of conversation it must
belong to. Unknown tags are passed over, since newer devices of the same identity may reflect types
that this device has never heard of.
-/

namespace DeviceSync

/-- How a reflected message is handled. -/
inductive ReflectedKind
  | delete
  | deliveryReceipt
  | pollSetup
  | pollVote
deriving DecidableEq, Repr

/-- Why the tag alone is reason to pass over a reflected message. -/
inductive SkipReason
  | unknownTag (tag : UInt8)
  | notReflected (type : MessageType)
deriving DecidableEq

/-- What a tag leads to. -/
inductive Dispatch
  | handle (kind : ReflectedKind) (scope : Scope)
  | skip (reason : SkipReason)
deriving DecidableEq

/-- The handling of a known type; call answers are signals between two devices and are not reflected. -/
def MessageType.dispatch : MessageType → Dispatch
  | .deleteMessage => .handle .delete .contact
  | .groupDeleteMessage => .handle .delete .group
  | .deliveryReceipt => .handle .deliveryReceipt .contact
  | .groupDeliveryReceipt => .handle .deliveryReceipt .group
  | .pollSetup => .handle .pollSetup .contact
  | .groupPollSetup => .handle .pollSetup .group
  | .pollVote => .handle .pollVote .contact
  | .groupPollVote => .handle .pollVote .group
  | .callAnswer => .skip (.notReflected .callAnswer)

/-- What a tag leads to. -/
def dispatch (tag : UInt8) : Dispatch :=
  match MessageType.ofTag? tag with
  | some t => t.dispatch
  | none => .skip (.unknownTag tag)

def SkipReason.toText : SkipReason → String
  | .unknownTag tag => "unknown message type " ++ Text.tag tag
  | .notReflected t => t.name ++ " is never reflected"

end DeviceSync
