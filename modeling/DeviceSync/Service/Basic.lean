import DeviceSync.Message.Reaction

/-!
# Services

What the tasks change: messages and the reactions to them, polls and votes, the order of conversations
and the messages that a call needs. `Services` keeps all of it in memory, together with a record of what
was done, in order.

A service call fails because the thing it concerns does not exist, because the service cannot be
reached for now, or for good. A call that changes something first takes the next entry of
`interference`: a fault there is the call's answer and nothing else happens, an empty entry lets the
call through.
-/

namespace DeviceSync

/-- Why a service call failed. -/
inductive ServiceError
  | notFound (what : String)
  /-- The call may succeed later. -/
  | unavailable (text : String)
  | failed (text : String)
deriving DecidableEq

def ServiceError.toText : ServiceError → String
  | .notFound what => "not found: " ++ what
  | .unavailable text => "temporarily unavailable: " ++ text
  | .failed text => "service failure: " ++ text

/-- A message that is known here. -/
structure StoredMessage where
  conversation : Conversation
  messageId : MessageId
  deleted : Bool := false
deriving DecidableEq

/-- A reaction to a message. -/
structure Reaction where
  messageId : MessageId
  state : MessageState
  reactor : Identity
  time : UInt64
deriving DecidableEq

/-- A poll. -/
structure Poll where
  conversation : Conversation
  creator : Identity
  pollId : UInt64
  description : String
  choices : List PollChoice
  multipleChoice : Bool
  createdAt : UInt64
deriving DecidableEq

/-- A vote in a poll. -/
structure Vote where
  conversation : Conversation
  pollCreator : Identity
  pollId : UInt64
  voter : Identity
  choiceIds : List UInt32
deriving DecidableEq

/-- Whose vote it is in which poll; there is one vote for each ballot. -/
structure Ballot where
  pollCreator : Identity
  pollId : UInt64
  voter : Identity
deriving DecidableEq

def Vote.ballot (v : Vote) : Ballot := ⟨v.pollCreator, v.pollId, v.voter⟩

/-- The state that tasks change, and the record of the changes. -/
structure Services where
  messages : List StoredMessage := []
  /-- Messages whose content was removed, in order. -/
  deleted : List MessageId := []
  reactions : List Reaction := []
  polls : List Poll := []
  votes : List (Ballot × List UInt32) := []
  /-- How many votes were handed in. -/
  voteCalls : Nat := 0
  bumps : List (Conversation × UInt64) := []
  /-- Messages that a call needs, in order. -/
  required : List (UInt32 × MessageId) := []
  interference : List (Option ServiceError) := []
deriving DecidableEq

namespace Services

/-- Whether this is the message with the given name in the given conversation. -/
def isMessage (c : Conversation) (id : MessageId) (m : StoredMessage) : Bool :=
  m.conversation == c && m.messageId == id

/-- The message with the given name in a conversation. -/
def message? (s : Services) (c : Conversation) (id : MessageId) : Option StoredMessage :=
  s.messages.find? (isMessage c id)

/-- Makes a message known, with its content. -/
def insertMessage (s : Services) (c : Conversation) (id : MessageId) : Services :=
  { s with messages := s.messages.filter (!isMessage c id ·) ++ [⟨c, id, false⟩] }

/-- The votes in a poll, in the order of the voters. -/
def votesOf (s : Services) (creator : Identity) (pollId : UInt64) : List (Identity × List UInt32) :=
  let votes := s.votes.filterMap fun (b, choices) =>
    if b.pollCreator = creator ∧ b.pollId = pollId then some (b.voter, choices) else none
  votes.mergeSort fun a b => decide (a.1.text ≤ b.1.text)

/-- A changing call: takes the next entry of the interference, and works if there is none or it is
empty. -/
def interfered (s : Services) (work : Services → Except ServiceError Unit × Services) :
    Except ServiceError Unit × Services :=
  match s.interference with
  | some e :: rest => (.error e, { s with interference := rest })
  | none :: rest => work { s with interference := rest }
  | [] => work s

def deleteContents (s : Services) (m : StoredMessage) : Except ServiceError Unit × Services :=
  s.interfered fun s =>
    if s.messages.any (isMessage m.conversation m.messageId) then
      (.ok (), { s with
        messages := s.messages.map fun known =>
          if isMessage m.conversation m.messageId known then { known with deleted := true } else known
        deleted := s.deleted ++ [m.messageId] })
    else (.error (.notFound m.messageId.toHex), s)

/-- Records a reaction, unless the same identity reacted to the message in the same way before. -/
def react (s : Services) (r : Reaction) : Except ServiceError Unit × Services :=
  s.interfered fun s =>
    if s.reactions.any fun known =>
        known.messageId == r.messageId && known.state == r.state && known.reactor == r.reactor then
      (.ok (), s)
    else (.ok (), { s with reactions := s.reactions ++ [r] })

/-- Opens a poll, in place of an earlier one with the same creator and name. -/
def createPoll (s : Services) (p : Poll) : Except ServiceError Unit × Services :=
  s.interfered fun s =>
    (.ok (), { s with
      polls := s.polls.filter (fun q => !(q.creator == p.creator && q.pollId == p.pollId)) ++ [p] })

/-- Records a vote, in place of an earlier one on the same ballot. -/
def vote (s : Services) (v : Vote) : Except ServiceError Unit × Services :=
  s.interfered fun s =>
    (.ok (), { s with
      votes := s.votes.filter (fun known => known.1 != v.ballot) ++ [(v.ballot, v.choiceIds)]
      voteCalls := s.voteCalls + 1 })

def bump (s : Services) (c : Conversation) (time : UInt64) : Except ServiceError Unit × Services :=
  s.interfered fun s => (.ok (), { s with bumps := s.bumps ++ [(c, time)] })

/-- Remembers a message that a call needs. -/
def require (s : Services) (callId : UInt32) (id : MessageId) : Services :=
  { s with required := s.required ++ [(callId, id)] }

/-- Lets the next changing call fail, or go through, after those already decided. -/
def interfere (s : Services) (entry : Option ServiceError) : Services :=
  { s with interference := s.interference ++ [entry] }

end Services

end DeviceSync
