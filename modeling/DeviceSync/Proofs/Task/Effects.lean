import DeviceSync.Task.Reflected

/-!
# What messages leave behind

`Effects` is the part of the services that messages are about: not how often a call was made, nor
which calls are about to fail.

1. `Services.Works`: a changing call does its work, unless interference comes before it. This is
   shown once for each call.
2. `Effects.settle` and `Effects.complete` say what a message is to leave behind.
3. `Effects.Resembles`: the same but for how often a conversation moved up.
-/

namespace DeviceSync

/-! ## 1. Effects -/

/-- What the services hold for the messages. -/
@[ext] structure Effects where
  messages : List StoredMessage
  deleted : List MessageId
  reactions : List Reaction
  polls : List Poll
  votes : List (Ballot × List UInt32)
  bumps : List (Conversation × UInt64)
deriving DecidableEq

/-- The effects that are in the services. -/
def Services.effects (s : Services) : Effects :=
  ⟨s.messages, s.deleted, s.reactions, s.polls, s.votes, s.bumps⟩

namespace Effects

/-- The message with the given name in a conversation. -/
def message? (x : Effects) (c : Conversation) (id : MessageId) : Option StoredMessage :=
  x.messages.find? (Services.isMessage c id)

/-- Removes the content of a message. -/
def deleteContents (m : StoredMessage) (x : Effects) : Effects :=
  { x with
    messages := x.messages.map fun known =>
      if Services.isMessage m.conversation m.messageId known then { known with deleted := true }
      else known
    deleted := x.deleted ++ [m.messageId] }

/-- Whether the identity reacted to the message in this way. -/
def hasReaction (x : Effects) (r : Reaction) : Bool :=
  x.reactions.any fun known =>
    known.messageId == r.messageId && known.state == r.state && known.reactor == r.reactor

/-- Adds a reaction that is not there yet. -/
def react (r : Reaction) (x : Effects) : Effects :=
  if x.hasReaction r then x else { x with reactions := x.reactions ++ [r] }

/-- Opens a poll in place of an earlier one. -/
def createPoll (p : Poll) (x : Effects) : Effects :=
  { x with
    polls := x.polls.filter (fun q => !(q.creator == p.creator && q.pollId == p.pollId)) ++ [p] }

/-- Casts a vote in place of an earlier one. -/
def vote (v : Vote) (x : Effects) : Effects :=
  { x with votes := x.votes.filter (fun known => known.1 != v.ballot) ++ [(v.ballot, v.choiceIds)] }

/-- Moves a conversation up. -/
def bump (c : Conversation) (time : UInt64) (x : Effects) : Effects :=
  { x with bumps := x.bumps ++ [(c, time)] }

end Effects

namespace Services

variable {s : Services}

/-- The call can be interfered with, and does `done` otherwise. -/
def Works (call : Services → Except ServiceError Unit × Services) (done : Effects → Effects)
    (s : Services) : Prop :=
  ∃ work, call = (·.interfered work) ∧ ∀ rest, ∃ s',
    work { s with interference := rest } = (.ok (), s') ∧
      s'.effects = done s.effects ∧ s'.interference = rest

/-- Interference is all that can happen to a call, and it is used up by it. -/
theorem Works.cases {call : Services → Except ServiceError Unit × Services} {done : Effects → Effects}
    (works : Works call done s) :
    (∃ err s', some err ∈ s.interference ∧ call s = (.error err, s') ∧ s'.effects = s.effects ∧
      s'.interference ⊆ s.interference) ∨
    ∃ s', call s = (.ok (), s') ∧ s'.effects = done s.effects ∧ s'.interference ⊆ s.interference := by
  obtain ⟨work, rfl, hwork⟩ := works
  cases hinterference : s.interference with
  | nil =>
    obtain ⟨s', hrun, heffects, hrest⟩ := hwork s.interference
    refine .inr ⟨s', ?_, heffects, by rw [hrest, hinterference]; exact List.Subset.refl _⟩
    simp only [interfered, hinterference]
    exact hrun
  | cons entry rest =>
    cases entry with
    | none =>
      obtain ⟨s', hrun, heffects, hrest⟩ := hwork rest
      refine .inr ⟨s', ?_, heffects, by rw [hrest]; exact List.subset_cons_self _ _⟩
      simp only [interfered, hinterference]
      exact hrun
    | some err =>
      refine .inl ⟨err, { s with interference := rest }, List.mem_cons_self, ?_, rfl,
        List.subset_cons_self _ _⟩
      simp only [interfered, hinterference]

theorem deleteContents_works {m : StoredMessage}
    (known : s.messages.any (isMessage m.conversation m.messageId) = true) :
    Works (·.deleteContents m) (Effects.deleteContents m) s :=
  ⟨_, rfl, fun _ => ⟨_, if_pos known, rfl, rfl⟩⟩

theorem react_works (r : Reaction) : Works (·.react r) (Effects.react r) s := by
  refine ⟨_, rfl, fun rest => ?_⟩
  by_cases hreacted : s.effects.hasReaction r = true
  · exact ⟨_, if_pos hreacted, (if_pos hreacted).symm, rfl⟩
  · exact ⟨_, if_neg hreacted, (if_neg hreacted).symm, rfl⟩

theorem createPoll_works (p : Poll) : Works (·.createPoll p) (Effects.createPoll p) s :=
  ⟨_, rfl, fun _ => ⟨_, rfl, rfl, rfl⟩⟩

theorem vote_works (v : Vote) : Works (·.vote v) (Effects.vote v) s :=
  ⟨_, rfl, fun _ => ⟨_, rfl, rfl, rfl⟩⟩

theorem bump_works (c : Conversation) (time : UInt64) :
    Works (·.bump c time) (Effects.bump c time) s :=
  ⟨_, rfl, fun _ => ⟨_, rfl, rfl, rfl⟩⟩

end Services

/-! ## 2. What a message is to leave behind -/

namespace Effects

/-- Removes the content of a message that is known and still has content. -/
def delete (m : DeleteMessage) (x : Effects) : Effects :=
  match x.message? m.conversation m.target with
  | some stored => if stored.deleted then x else x.deleteContents stored
  | none => x

/-- Reacts to a message, if it is known. -/
def reactTo (c : Conversation) (state : MessageState) (me : Identity) (time : UInt64) (x : Effects)
    (target : MessageId) : Effects :=
  match x.message? c target with
  | some stored => x.react ⟨stored.messageId, state, me, time⟩
  | none => x

/-- Reacts to the messages that are known, in order. -/
def reactAll (c : Conversation) (state : MessageState) (me : Identity) (time : UInt64)
    (targets : List MessageId) (x : Effects) : Effects :=
  targets.foldl (reactTo c state me time) x

/-- What a message leaves behind, the place of its conversation apart. -/
def settle (e : Envelope) (me : Identity) : Payload → Effects → Effects
  | .delete m => delete m
  | .receipt m =>
    match reactionOf m.receiptType with
    | .error _ => id
    | .ok state => reactAll m.conversation state me e.createdAt m.messageIds
  | .pollSetup m => createPoll (e.pollOf me m)
  | .pollVote m => vote (Envelope.voteOf me m)

/-- What a message leaves behind. -/
def complete (e : Envelope) (me : Identity) (p : Payload) (x : Effects) : Effects :=
  if p.bumps then (settle e me p x).bump p.conversation e.createdAt else settle e me p x

variable {x : Effects} {c : Conversation} {state : MessageState} {me : Identity} {time : UInt64}
variable {t : MessageId}

theorem message?_deleteContents (x : Effects) (m : StoredMessage) (c : Conversation) (id : MessageId) :
    (x.deleteContents m).message? c id = (x.message? c id).map fun known =>
      if Services.isMessage m.conversation m.messageId known then { known with deleted := true }
      else known := by
  rw [message?, deleteContents, List.find?_map]
  congr 2
  funext known
  show Services.isMessage c id (if _ then _ else _) = _
  split <;> rfl

theorem isMessage_self (stored : StoredMessage) :
    Services.isMessage stored.conversation stored.messageId stored = true := by
  simp [Services.isMessage]

theorem delete_of_unknown {m : DeleteMessage} (h : x.message? m.conversation m.target = none) :
    x.delete m = x := by
  simp only [delete, h]

theorem delete_of_known {m : DeleteMessage} {stored : StoredMessage}
    (h : x.message? m.conversation m.target = some stored) :
    x.delete m = if stored.deleted then x else x.deleteContents stored := by
  simp only [delete, h]

theorem react_of_has {r : Reaction} (h : x.hasReaction r = true) : x.react r = x := if_pos h

theorem hasReaction_react (x : Effects) (r : Reaction) : (x.react r).hasReaction r = true := by
  by_cases h : x.hasReaction r = true
  · rw [react_of_has h]
    exact h
  · rw [react, if_neg h, hasReaction, List.any_append]
    simp

theorem hasReaction_react_of_has {r r' : Reaction} (h : x.hasReaction r = true) :
    (x.react r').hasReaction r = true := by
  by_cases h' : x.hasReaction r' = true
  · rw [react_of_has h']
    exact h
  · rw [react, if_neg h', hasReaction, List.any_append]
    exact Bool.or_eq_true_iff.mpr (.inl h)

theorem message?_react (x : Effects) (r : Reaction) (c : Conversation) (id : MessageId) :
    (x.react r).message? c id = x.message? c id := by
  unfold react
  split <;> rfl

theorem reactTo_of_unknown (h : x.message? c t = none) : x.reactTo c state me time t = x := by
  simp only [reactTo, h]

theorem reactTo_of_known {stored : StoredMessage} (h : x.message? c t = some stored) :
    x.reactTo c state me time t = x.react ⟨stored.messageId, state, me, time⟩ := by
  simp only [reactTo, h]

theorem createPoll_createPoll (p : Poll) (x : Effects) :
    (x.createPoll p).createPoll p = x.createPoll p := by
  simp [createPoll]

theorem vote_vote (v : Vote) (x : Effects) : (x.vote v).vote v = x.vote v := by
  simp [vote]

theorem settle_unsupported {e : Envelope} {m : DeliveryReceipt} {cause : UnsupportedReceipt}
    (h : reactionOf m.receiptType = .error cause) : settle e me (.receipt m) = id := by
  simp only [settle, h]

theorem settle_reaction {e : Envelope} {m : DeliveryReceipt}
    (h : reactionOf m.receiptType = .ok state) :
    settle e me (.receipt m) = reactAll m.conversation state me e.createdAt m.messageIds := by
  simp only [settle, h]

theorem complete_of_bumps {e : Envelope} {p : Payload} (h : p.bumps = true) :
    complete e me p x = (settle e me p x).bump p.conversation e.createdAt := if_pos h

theorem complete_of_still {e : Envelope} {p : Payload} (h : p.bumps = false) :
    complete e me p x = settle e me p x := if_neg (by rw [h]; exact Bool.false_ne_true)

theorem complete_congr {e : Envelope} {p : Payload} {y : Effects}
    (h : settle e me p x = settle e me p y) : complete e me p x = complete e me p y := by
  rw [complete, h, complete]

/-! ## 3. Moving a conversation up again -/

/-- The same, but for the order and the number of moves of one conversation at one time. -/
structure Resembles (x y : Effects) : Prop where
  messages : x.messages = y.messages
  deleted : x.deleted = y.deleted
  reactions : x.reactions = y.reactions
  polls : x.polls = y.polls
  votes : x.votes = y.votes
  bumps : ∀ b, b ∈ x.bumps ↔ b ∈ y.bumps

theorem Resembles.refl (x : Effects) : x.Resembles x := ⟨rfl, rfl, rfl, rfl, rfl, fun _ => Iff.rfl⟩

theorem Resembles.symm {x y : Effects} (h : x.Resembles y) : y.Resembles x :=
  ⟨h.messages.symm, h.deleted.symm, h.reactions.symm, h.polls.symm, h.votes.symm,
    fun b => (h.bumps b).symm⟩

theorem Resembles.trans {x y z : Effects} (hxy : x.Resembles y) (hyz : y.Resembles z) :
    x.Resembles z :=
  ⟨hxy.messages.trans hyz.messages, hxy.deleted.trans hyz.deleted,
    hxy.reactions.trans hyz.reactions, hxy.polls.trans hyz.polls, hxy.votes.trans hyz.votes,
    fun b => (hxy.bumps b).trans (hyz.bumps b)⟩

theorem bump_bump_resembles (x : Effects) (c : Conversation) (time : UInt64) :
    ((x.bump c time).bump c time).Resembles (x.bump c time) :=
  ⟨rfl, rfl, rfl, rfl, rfl, fun b => by simp [bump]⟩

end Effects

end DeviceSync
