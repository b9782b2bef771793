import DeviceSync.Message.Basic

/-!
# Reactions

A receipt says that messages were delivered, read, acknowledged or declined. Only the last two are
reactions, and only a reaction is taken over from another device of the same identity.
-/

namespace DeviceSync

/-- What one identity let known about a message. -/
inductive MessageState
  | delivered
  | read
  | acknowledged
  | declined
deriving DecidableEq, Repr

namespace MessageState

/-- The state that a receipt code stands for. -/
def ofReceiptType? (code : UInt8) : Option MessageState :=
  if code = 1 then some delivered
  else if code = 2 then some read
  else if code = 3 then some acknowledged
  else if code = 4 then some declined
  else none

/-- Whether the state is a reaction of the user and not a mere delivery status. -/
def isReaction : MessageState → Bool
  | acknowledged | declined => true
  | delivered | read => false

/-- The name of the state, as messages about it give it. -/
def name : MessageState → String
  | delivered => "Delivered"
  | read => "Read"
  | acknowledged => "UserAck"
  | declined => "UserDecline"

end MessageState

/-- Why a receipt code gives no reaction. -/
inductive UnsupportedReceipt
  | unknown (code : UInt8)
  | notReaction (state : MessageState)
deriving DecidableEq

def UnsupportedReceipt.toText : UnsupportedReceipt → String
  | .unknown code => "unknown receipt type " ++ Text.tag code
  | .notReaction state => "receipt type " ++ state.name ++ " is not a reaction"

/-- The reaction that a receipt code stands for. -/
def reactionOf (code : UInt8) : Except UnsupportedReceipt MessageState :=
  match MessageState.ofReceiptType? code with
  | none => .error (.unknown code)
  | some state => if state.isReaction then .ok state else .error (.notReaction state)

end DeviceSync
