import DeviceSync.Proofs.Task.Attempt
import DeviceSync.Proofs.Task.Effects

/-!
# What a receipt adds

A receipt names its targets in a list, in which a target may be repeated, may be unknown, and may have
been reacted to before. The reactions that are there when a target's turn comes are the old ones and
those that the receipt has added so far.

1. `Effects.reactions_reactAll`: in the end, the targets that are known and were not reacted to
   before have one reaction each, in the order in which they come first.
2. `run_applyReactions`: where no call is about to fail, all targets have their turn.
3. `receipt_reacts_to_known_targets`.
-/

namespace DeviceSync

/-! ## 1. The list of reactions -/

/-- What is left out of a list can be left out before or after its repetitions are. -/
theorem filter_eraseDups {α : Type} [BEq α] [LawfulBEq α] (p : α → Bool) (l : List α) :
    l.eraseDups.filter p = (l.filter p).eraseDups := by
  cases l with
  | nil => rfl
  | cons a l =>
    have hshorter := filter_eraseDups p (l.filter fun b => !b == a)
    rw [List.eraseDups_cons]
    by_cases ha : p a = true
    · rw [List.filter_cons_of_pos ha, List.filter_cons_of_pos ha, List.eraseDups_cons, hshorter,
        List.filter_filter, List.filter_filter]
      simp only [Bool.and_comm]
    · rw [List.filter_cons_of_neg ha, List.filter_cons_of_neg ha, hshorter, List.filter_filter]
      refine congrArg List.eraseDups (List.filter_congr fun b _ => ?_)
      by_cases hb : b = a
      · simp [hb, ha]
      · simp [hb]
termination_by l.length
decreasing_by exact Nat.lt_succ_of_le (List.length_filter_le _ _)

namespace Effects

variable {x : Effects} {c : Conversation} {state : MessageState} {me : Identity} {time : UInt64}
variable {target : MessageId} {targets : List MessageId}

/-- The targets that are known and have no such reaction, in the order in which they come first. -/
def unanswered (x : Effects) (c : Conversation) (state : MessageState) (me : Identity)
    (time : UInt64) (targets : List MessageId) : List MessageId :=
  targets.eraseDups.filter fun target =>
    (x.message? c target).isSome && !x.hasReaction ⟨target, state, me, time⟩

theorem unanswered_cons_of_answered
    (h : ((x.message? c target).isSome && !x.hasReaction ⟨target, state, me, time⟩) = false) :
    x.unanswered c state me time (target :: targets) = x.unanswered c state me time targets := by
  unfold unanswered
  rw [filter_eraseDups, filter_eraseDups, List.filter_cons_of_neg (by simp [h])]

/-- A target that is reacted to now is not answered again. -/
theorem unanswered_cons (known : (x.message? c target).isSome = true)
    (new : x.hasReaction ⟨target, state, me, time⟩ = false) :
    x.unanswered c state me time (target :: targets) =
      target :: (x.react ⟨target, state, me, time⟩).unanswered c state me time targets := by
  unfold unanswered
  rw [List.eraseDups_cons, List.filter_cons_of_pos (by simp [known, new]), filter_eraseDups,
    filter_eraseDups, List.filter_filter]
  refine congrArg (fun l => target :: List.eraseDups l) (List.filter_congr fun t _ => ?_)
  have hreact : (x.react ⟨target, state, me, time⟩).hasReaction ⟨t, state, me, time⟩ =
      (x.hasReaction ⟨t, state, me, time⟩ || target == t) := by
    rw [react, if_neg (by rw [new]; exact Bool.false_ne_true), hasReaction, List.any_append]
    simp [hasReaction]
  rw [message?_react, hreact, Bool.not_or, Bool.and_assoc, BEq.comm (a := target)]

/-- A message that is found has the name under which it was sought. -/
theorem messageId_of_message? {stored : StoredMessage} (h : x.message? c target = some stored) :
    stored.messageId = target := by
  have hfound := List.find?_some h
  rw [Services.isMessage, Bool.and_eq_true] at hfound
  exact eq_of_beq hfound.2

/-- Reacting to all targets adds one reaction for each unanswered one. -/
theorem reactions_reactAll : (x.reactAll c state me time targets).reactions =
    x.reactions ++ (x.unanswered c state me time targets).map fun target =>
      ⟨target, state, me, time⟩ := by
  induction targets generalizing x with
  | nil => exact (List.append_nil _).symm
  | cons target targets ih =>
    show ((x.reactTo c state me time target).reactAll c state me time targets).reactions = _
    rw [ih]
    cases hfind : x.message? c target with
    | none => rw [reactTo_of_unknown hfind, unanswered_cons_of_answered (by rw [hfind]; rfl)]
    | some stored =>
      have hknown : (x.message? c target).isSome = true := by rw [hfind]; rfl
      rw [reactTo_of_known hfind, messageId_of_message? hfind]
      cases hreacted : x.hasReaction ⟨target, state, me, time⟩ with
      | true =>
        rw [react_of_has hreacted, unanswered_cons_of_answered (by rw [hreacted, hknown]; rfl)]
      | false =>
        have hreact : (x.react ⟨target, state, me, time⟩).reactions =
            x.reactions ++ [⟨target, state, me, time⟩] := by
          rw [react, if_neg (by rw [hreacted]; exact Bool.false_ne_true)]
        rw [unanswered_cons hknown hreacted, hreact, List.append_assoc]
        rfl

end Effects

/-! ## 2. All targets have their turn -/

namespace Services

variable {s : Services} {c : Conversation} {state : MessageState} {me : Identity} {time : UInt64}
variable {target : MessageId} {targets : List MessageId}

/-- No call is about to fail. -/
def Unhindered (s : Services) : Prop := ∀ err, some err ∉ s.interference

/-- A reaction was recorded, and an entry of the interference was used up. -/
def reacted (s : Services) (r : Reaction) : Services :=
  { s with reactions := (s.effects.react r).reactions, interference := s.interference.tail }

theorem react_of_unhindered (unhindered : s.Unhindered) (r : Reaction) :
    s.react r = (.ok (), s.reacted r) := by
  have hreact : s.react r = s.interfered fun s =>
      (.ok (), { s with reactions := (s.effects.react r).reactions }) := by
    unfold react
    refine congrArg _ (funext fun s => ?_)
    by_cases hreacted : s.effects.hasReaction r = true
    · rw [Effects.react_of_has hreacted]
      exact if_pos hreacted
    · rw [Effects.react, if_neg hreacted]
      exact if_neg hreacted
  rw [hreact, interfered, reacted]
  cases hinterference : s.interference with
  | nil => simp
  | cons entry rest =>
    cases entry with
    | none => rfl
    | some err => exact absurd (hinterference ▸ List.mem_cons_self) (unhindered err)

theorem effects_reacted (s : Services) (r : Reaction) : (s.reacted r).effects = s.effects.react r := by
  rw [effects, reacted]
  by_cases hreacted : s.effects.hasReaction r = true
  · rw [Effects.react_of_has hreacted]
    rfl
  · rw [Effects.react, if_neg hreacted]
    rfl

theorem Unhindered.reacted (unhindered : s.Unhindered) (r : Reaction) : (s.reacted r).Unhindered :=
  fun err herr => unhindered err (List.mem_of_mem_tail herr)

/-- All targets had their turn. Each reaction used up an entry of the interference. -/
def reactedToAll (s : Services) (c : Conversation) (state : MessageState) (me : Identity)
    (time : UInt64) (targets : List MessageId) : Services :=
  { s with
    reactions := (s.effects.reactAll c state me time targets).reactions
    interference := s.interference.drop (targets.countP fun target => (s.message? c target).isSome) }

theorem reactedToAll_of_unknown (h : s.message? c target = none) :
    s.reactedToAll c state me time (target :: targets) = s.reactedToAll c state me time targets := by
  have heffects : s.effects.reactAll c state me time (target :: targets) =
      s.effects.reactAll c state me time targets :=
    congrArg (Effects.reactAll c state me time targets) (Effects.reactTo_of_unknown h)
  rw [reactedToAll, reactedToAll, heffects, List.countP_cons_of_neg (by simp [h])]

theorem reactedToAll_of_known {stored : StoredMessage} (h : s.message? c target = some stored) :
    s.reactedToAll c state me time (target :: targets) =
      (s.reacted ⟨stored.messageId, state, me, time⟩).reactedToAll c state me time targets := by
  have heffects : s.effects.reactAll c state me time (target :: targets) =
      (s.reacted ⟨stored.messageId, state, me, time⟩).effects.reactAll c state me time targets := by
    rw [effects_reacted]
    exact congrArg (Effects.reactAll c state me time targets) (Effects.reactTo_of_known h)
  rw [reactedToAll, reactedToAll, heffects, List.countP_cons_of_pos (by simp [h])]
  simp only [reacted, List.drop_tail, message?]

end Services

theorem Envelope.run_applyReactions (c : Conversation) (state : MessageState) (me : Identity)
    (time : UInt64) (targets : List MessageId) {w : Workspace} (unhindered : w.services.Unhindered) :
    (applyReactions c state me time targets).run w =
      (.ok (), { w with services := w.services.reactedToAll c state me time targets }) := by
  induction targets generalizing w with
  | nil => rfl
  | cons target targets ih =>
    have hfound : Call.effect (.findMessage c target) w = (w.services.message? c target, w) := rfl
    rw [applyReactions_cons, Work.run_ask, hfound]
    cases hfind : w.services.message? c target with
    | none =>
      rw [Services.reactedToAll_of_unknown hfind]
      exact ih unhindered
    | some stored =>
      have hreacted : Call.effect (.react ⟨stored.messageId, state, me, time⟩) w =
          (.ok (), { w with services := w.services.reacted ⟨stored.messageId, state, me, time⟩ }) := by
        rw [Call.effect, Workspace.onServices, Services.react_of_unhindered unhindered]
      rw [Services.reactedToAll_of_known hfind]
      show Work.run (.ask (.react ⟨stored.messageId, state, me, time⟩) _) w = _
      rw [Work.run_ask, hreacted]
      exact ih (unhindered.reacted _)

/-! ## 3. Receipts -/

/-- Where no call of the services is about to fail, a receipt that is a reaction is completed, whatever
its flags are. The targets that are known in its conversation, and to which this identity has not
reacted in this way before, get one reaction each, in the order in which they come first; nothing else
changes. -/
theorem receipt_reacts_to_known_targets (e : Envelope) (me : Identity) {m : DeliveryReceipt}
    {state : MessageState} {w : Workspace} (reaction : reactionOf m.receiptType = .ok state)
    (unhindered : w.services.Unhindered) :
    (e.apply me (.receipt m)).run w =
      (.ok .completed, { w with services := { w.services with
        reactions := w.services.reactions ++
          (w.services.effects.unanswered m.conversation state me e.createdAt m.messageIds).map
            fun target => ⟨target, state, me, e.createdAt⟩
        interference := w.services.interference.drop
          (m.messageIds.countP fun target => (w.services.message? m.conversation target).isSome) } }) := by
  have heffect : e.applyEffect me (.receipt m) =
      Envelope.completed (Envelope.applyReactions m.conversation state me e.createdAt m.messageIds) := by
    rw [Envelope.applyEffect_receipt, reaction]
  rw [Envelope.apply_eq, Work.run_bind, heffect, Envelope.completed, Work.run_bind,
    Envelope.run_applyReactions _ _ _ _ _ unhindered, Services.reactedToAll, Effects.reactions_reactAll]
  rfl

namespace Sample

/-- A reaction of the owner to the message with this name. -/
def thumbsUp (name : UInt64) : Reaction := ⟨.ofUInt64 name, .acknowledged, owner, 0⟩

/-- A receipt with these targets, which asks for a move of its conversation. -/
def acknowledging (targets : List UInt64) : DeliveryReceipt :=
  ⟨.contact owner, 3, targets.map .ofUInt64, .guardedBump⟩

/-- Three messages of a conversation, with a reaction to the second one. The next call is let
through. -/
def threeMessages : Workspace :=
  { fresh with
    services := {
      messages := [1, 2, 3].map fun name => ⟨.contact owner, .ofUInt64 name, false⟩
      reactions := [thumbsUp 2]
      interference := [none] } }

end Sample

open Sample in
/-- A target that is repeated, one that was reacted to before, and one that is unknown. -/
theorem repeated_target_has_one_reaction :
    ((voteEnvelope 9 []).apply owner (.receipt (acknowledging [3, 2, 3, 4, 1]))).run threeMessages =
      (.ok .completed, { threeMessages with
        services.reactions := [thumbsUp 2, thumbsUp 3, thumbsUp 1]
        services.interference := [] }) :=
  receipt_reacts_to_known_targets _ owner rfl (by simp [Services.Unhindered, threeMessages])

end DeviceSync
