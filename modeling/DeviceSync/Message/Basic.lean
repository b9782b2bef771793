import DeviceSync.Identifier
import DeviceSync.Identity

/-!
# Messages

The messages that devices of one identity exchange about conversations: deletions, receipts, polls and
votes, and the answer to a call. Each carries flags that say how it is to be treated, so that a newer
device can decide this for an older one.
-/

namespace DeviceSync

/-- The conversation that a message belongs to. -/
inductive Conversation
  /-- The conversation with one contact. -/
  | contact (identity : Identity)
  /-- A group, named by its creator and by a name that is unique for the creator. -/
  | group (creator : Identity) (groupId : GroupId)
deriving DecidableEq

/-- Whether a conversation is with a contact or in a group. -/
inductive Scope
  | contact
  | group
deriving DecidableEq, Repr

namespace Conversation

def scope : Conversation → Scope
  | contact _ => .contact
  | group _ _ => .group

def toText : Conversation → String
  | contact i => "contact:" ++ i.text
  | group c g => "group:" ++ c.text ++ "/" ++ g.toHex

instance : ToString Conversation := ⟨toText⟩

end Conversation

/-- How a message is to be treated. -/
structure Flags where
  bits : UInt8
deriving DecidableEq

namespace Flags

/-- The nonces of the message are recorded, and a message with a recorded nonce is refused. -/
def protects (f : Flags) : Bool := f.bits &&& 1 != 0

/-- The message moves its conversation to the top of the list. -/
def bumps (f : Flags) : Bool := f.bits &&& 2 != 0

/-- No special treatment. -/
def plain : Flags := ⟨0⟩

/-- Protected against replay. -/
def guarded : Flags := ⟨1⟩

/-- Protected against replay, and moving the conversation up. -/
def guardedBump : Flags := ⟨3⟩

end Flags

/-- Removes the content of an earlier message. -/
structure DeleteMessage where
  conversation : Conversation
  target : MessageId
  flags : Flags := .guarded
deriving DecidableEq

/-- Says what became of one or more messages. -/
structure DeliveryReceipt where
  conversation : Conversation
  receiptType : UInt8
  messageIds : List MessageId
  flags : Flags := .guarded
deriving DecidableEq

/-- One answer of a poll. -/
structure PollChoice where
  id : UInt32
  text : String
deriving DecidableEq

/-- Opens a poll; its creator is the sender. -/
structure PollSetup where
  conversation : Conversation
  pollId : UInt64
  description : String
  choices : List PollChoice
  multipleChoice : Bool := false
  flags : Flags := .guardedBump
deriving DecidableEq

/-- Votes in a poll; the voter is the sender. -/
structure PollVote where
  conversation : Conversation
  pollCreator : Identity
  pollId : UInt64
  choiceIds : List UInt32
  flags : Flags := .guarded
deriving DecidableEq

/-- How a call was answered. -/
inductive CallAction
  | accept
  | reject (reason : UInt8)
deriving DecidableEq

/-- Answers a call. Answers are made while the call rings and are never reflected. -/
structure CallAnswer where
  callId : UInt32
  action : CallAction
  flags : Flags := .plain
deriving DecidableEq

/-- The type of a message, which its tag on the wire stands for. -/
inductive MessageType
  | pollSetup
  | pollVote
  | groupPollSetup
  | groupPollVote
  | callAnswer
  | deliveryReceipt
  | groupDeliveryReceipt
  | deleteMessage
  | groupDeleteMessage
deriving DecidableEq, Repr

namespace MessageType

def all : List MessageType :=
  [pollSetup, pollVote, groupPollSetup, groupPollVote, callAnswer, deliveryReceipt,
    groupDeliveryReceipt, deleteMessage, groupDeleteMessage]

def tag : MessageType → UInt8
  | pollSetup => 0x15
  | pollVote => 0x16
  | groupPollSetup => 0x45
  | groupPollVote => 0x46
  | callAnswer => 0x61
  | deliveryReceipt => 0x80
  | groupDeliveryReceipt => 0x81
  | deleteMessage => 0x93
  | groupDeleteMessage => 0x94

def ofTag? (b : UInt8) : Option MessageType := all.find? (·.tag == b)

/-- The name of a type, as messages about it give it. -/
def name : MessageType → String
  | pollSetup => "PollSetup"
  | pollVote => "PollVote"
  | groupPollSetup => "GroupPollSetup"
  | groupPollVote => "GroupPollVote"
  | callAnswer => "VoipCallAnswer"
  | deliveryReceipt => "DeliveryReceipt"
  | groupDeliveryReceipt => "GroupDeliveryReceipt"
  | deleteMessage => "DeleteMessage"
  | groupDeleteMessage => "GroupDeleteMessage"

end MessageType

/-- A message that another device reflected to this one, or is about to. The payload is the encoding of
a message of the tagged type, and is looked into only when the envelope is processed. -/
structure Envelope where
  messageId : MessageId
  sender : Identity
  /-- Milliseconds since 1970. -/
  createdAt : UInt64
  tag : UInt8
  nonces : List Nonce
  payload : Bytes
deriving DecidableEq

/-- The type of an enveloped message, if the tag is known. -/
def Envelope.messageType? (e : Envelope) : Option MessageType := MessageType.ofTag? e.tag

/-- What this device sends. -/
inductive Frame
  /-- A reflected message was processed and need not be delivered again. -/
  | acknowledge (messageId : MessageId)
  /-- A message to another identity. -/
  | message (recipient : Identity) (tag : UInt8) (messageId : MessageId) (payload : Bytes)
deriving DecidableEq

/-- A task in the form in which it outlives the process. -/
inductive TaskData
  | reflected (envelope : Envelope)
deriving DecidableEq

end DeviceSync
