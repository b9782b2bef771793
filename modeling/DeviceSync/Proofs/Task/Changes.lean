import DeviceSync.Proofs.Task.Effects
import Mathlib.Data.List.Infix

/-!
# The changing calls of a message

A message may make several changing calls, and a fault may come before any of them. What is there then
is what a beginning of the calls brought about (`Effects.Part`).

1. `Call.change`: what a call changes. `Effects.after` is what some calls lead to.
2. `Envelope.settling`, `Envelope.changes`: the changing calls of a message that nothing disturbs. All
   of them complete it (`Effects.complete_eq_after`).
3. `Effects.settling_again`: a message that was left at a beginning of its calls and is tried again comes
   to a beginning of the same calls, and not to an earlier one. So settling twice is settling once
   (`settle_settle`), and a message that is left half done twice is left half done (`Part.trans`).
4. Completing a message again only moves its conversation up once more (`complete_complete`), and
   trying to changes nothing (`part_of_complete`).
-/

namespace DeviceSync

/-! ## 1. What calls change -/

/-- What a call changes if it works. -/
def Call.change : Call → Effects → Effects
  | .deleteContents m => Effects.deleteContents m
  | .react r => Effects.react r
  | .createPoll p => Effects.createPoll p
  | .vote v => Effects.vote v
  | .bump c time => Effects.bump c time
  | .recordNonces _ _ | .releaseNonces _ _ | .findMessage _ _ | .drawMessageId | .require _ _ | .pause
  | .deliver _ => id

namespace Effects

/-- What some calls lead to, one after the other. -/
def after (x : Effects) (calls : List Call) : Effects := calls.foldl (fun x c => c.change x) x

@[simp] theorem after_nil (x : Effects) : x.after [] = x := rfl

@[simp] theorem after_cons (x : Effects) (c : Call) (calls : List Call) :
    x.after (c :: calls) = (c.change x).after calls := rfl

@[simp] theorem after_append (x : Effects) (first second : List Call) :
    x.after (first ++ second) = (x.after first).after second := List.foldl_append

end Effects

/-! ## 2. The calls of a message -/

namespace Envelope

/-- The changing calls of a message by itself, where these effects are there. -/
def settling (e : Envelope) (me : Identity) (x : Effects) : Payload → List Call
  | .delete m =>
    match x.message? m.conversation m.target with
    | some stored => if stored.deleted then [] else [.deleteContents stored]
    | none => []
  | .receipt m =>
    match reactionOf m.receiptType with
    | .error _ => []
    | .ok state => m.messageIds.filterMap fun target =>
        (x.message? m.conversation target).map fun stored =>
          .react ⟨stored.messageId, state, me, e.createdAt⟩
  | .pollSetup m => [.createPoll (e.pollOf me m)]
  | .pollVote m => [.vote (voteOf me m)]

/-- All changing calls of a message: its conversation moves up last. -/
def changes (e : Envelope) (me : Identity) (p : Payload) (x : Effects) : List Call :=
  e.settling me x p ++ if p.bumps then [.bump p.conversation e.createdAt] else []

end Envelope

namespace Effects

variable {e : Envelope} {me : Identity} {p : Payload} {x y : Effects} {first second : List Call}

theorem settling_of_known {m : DeleteMessage} {stored : StoredMessage}
    (h : x.message? m.conversation m.target = some stored) :
    e.settling me x (.delete m) = if stored.deleted then [] else [.deleteContents stored] := by
  simp only [Envelope.settling, h]

theorem settling_of_unknown {m : DeleteMessage} (h : x.message? m.conversation m.target = none) :
    e.settling me x (.delete m) = [] := by
  simp only [Envelope.settling, h]

theorem settling_unsupported {m : DeliveryReceipt} {cause : UnsupportedReceipt}
    (h : reactionOf m.receiptType = .error cause) : e.settling me x (.receipt m) = [] := by
  simp only [Envelope.settling, h]

/-- The calls with which a receipt records its reactions. -/
def reacting (c : Conversation) (state : MessageState) (me : Identity) (time : UInt64)
    (targets : List MessageId) (x : Effects) : List Call :=
  targets.filterMap fun target =>
    (x.message? c target).map fun stored => .react ⟨stored.messageId, state, me, time⟩

theorem settling_reaction {m : DeliveryReceipt} {state : MessageState}
    (h : reactionOf m.receiptType = .ok state) : e.settling me x (.receipt m) =
      reacting m.conversation state me e.createdAt m.messageIds x := by
  simp only [Envelope.settling, h, reacting]

variable {c : Conversation} {state : MessageState} {time : UInt64} {target : MessageId}
variable {targets : List MessageId}

theorem reacting_of_unknown (h : x.message? c target = none) :
    reacting c state me time (target :: targets) x = reacting c state me time targets x := by
  simp only [reacting, List.filterMap_cons, h, Option.map_none]

theorem reacting_of_known {stored : StoredMessage} (h : x.message? c target = some stored) :
    reacting c state me time (target :: targets) x =
      .react ⟨stored.messageId, state, me, time⟩ :: reacting c state me time targets x := by
  simp only [reacting, List.filterMap_cons, h, Option.map_some]

theorem mem_reacting {call : Call} (h : call ∈ reacting c state me time targets x) :
    ∃ r, call = .react r := by
  obtain ⟨target, -, hcall⟩ := List.mem_filterMap.mp h
  obtain ⟨stored, -, rfl⟩ := Option.map_eq_some_iff.mp hcall
  exact ⟨_, rfl⟩

/-- Reactions change no message, so that the calls stay the same. -/
theorem reacting_react (r : Reaction) :
    reacting c state me time targets (x.react r) = reacting c state me time targets x := by
  simp only [reacting, message?_react]

theorem reactAll_eq_after : x.reactAll c state me time targets =
    x.after (reacting c state me time targets x) := by
  induction targets generalizing x with
  | nil => rfl
  | cons target targets ih =>
    show (x.reactTo c state me time target).reactAll c state me time targets = _
    cases hfind : x.message? c target with
    | none =>
      rw [reactTo_of_unknown hfind, ih, reacting_of_unknown hfind]
    | some stored =>
      rw [reactTo_of_known hfind, ih, reacting_react, reacting_of_known hfind]
      rfl

theorem settle_eq_after (e : Envelope) (me : Identity) (p : Payload) (x : Effects) :
    settle e me p x = x.after (e.settling me x p) := by
  cases p with
  | delete m =>
    show x.delete m = _
    cases hfind : x.message? m.conversation m.target with
    | none =>
      rw [delete_of_unknown hfind, settling_of_unknown hfind]
      rfl
    | some stored =>
      rw [delete_of_known hfind, settling_of_known hfind]
      split
      · rfl
      · rfl
  | receipt m =>
    cases hreaction : reactionOf m.receiptType with
    | error cause =>
      rw [settle_unsupported hreaction, settling_unsupported hreaction]
      rfl
    | ok state =>
      rw [settle_reaction hreaction, settling_reaction hreaction]
      exact reactAll_eq_after
  | pollSetup m => rfl
  | pollVote m => rfl

/-- A message that makes all its changing calls is completed. -/
theorem complete_eq_after (e : Envelope) (me : Identity) (p : Payload) (x : Effects) :
    complete e me p x = x.after (e.changes me p x) := by
  rw [Envelope.changes, after_append, ← settle_eq_after]
  cases hbumps : p.bumps with
  | false => exact complete_of_still hbumps
  | true => exact complete_of_bumps hbumps

/-- A fault came before one of the calls. -/
def Part (calls : List Call) (x y : Effects) : Prop :=
  ∃ made, made <+: calls ∧ made ≠ calls ∧ y = x.after made

theorem part_start {call : Call} (calls : List Call) (x : Effects) : Part (call :: calls) x x :=
  ⟨[], List.nil_prefix, nofun, rfl⟩

theorem Part.cons {call : Call} {calls : List Call} (h : Part calls (call.change x) y) :
    Part (call :: calls) x y := by
  obtain ⟨made, hmade, hnot, rfl⟩ := h
  exact ⟨call :: made, List.cons_prefix_cons.mpr ⟨rfl, hmade⟩, fun hall => hnot (List.cons.inj hall).2, rfl⟩

theorem Part.append {calls : List Call} (h : Part calls x y) (later : List Call) :
    Part (calls ++ later) x y := by
  obtain ⟨made, hmade, hnot, rfl⟩ := h
  refine ⟨made, hmade.trans (List.prefix_append _ _), fun hall => ?_, rfl⟩
  rw [hall] at hmade
  exact hnot (hall.trans (hmade.eq_of_length_le (by simp)))

theorem part_last (calls : List Call) (call : Call) (x : Effects) :
    Part (calls ++ [call]) x (x.after calls) :=
  ⟨calls, List.prefix_append _ _, by simp, rfl⟩

/-- Where a message is settled, only the move of its conversation can be missing. -/
theorem part_changes_iff : Part (e.changes me p x) x y ↔
    ∃ made, made <+: e.settling me x p ∧ (made = e.settling me x p → p.bumps = true) ∧
      y = x.after made := by
  unfold Part Envelope.changes
  cases hbumps : p.bumps with
  | false => simp only [Bool.false_eq_true, if_false, List.append_nil, imp_false, ne_eq]
  | true =>
    simp only [if_true, List.prefix_concat_iff, implies_true, true_and]
    refine exists_congr fun made => ⟨?_, ?_⟩
    · rintro ⟨hall | hmade, hnot, rfl⟩
      · exact absurd hall hnot
      · exact ⟨hmade, rfl⟩
    · rintro ⟨hmade, rfl⟩
      refine ⟨.inr hmade, fun hall => ?_, rfl⟩
      have hlength := hmade.length_le
      rw [hall, List.length_append] at hlength
      exact absurd hlength (by simp)

/-! ## 3. Calls that are made again -/

/-- Reactions that are there already are not recorded again. -/
theorem after_reacted {calls : List Call}
    (h : ∀ call ∈ calls, ∃ r, call = .react r ∧ x.hasReaction r = true) : x.after calls = x := by
  induction calls with
  | nil => rfl
  | cons call calls ih =>
    obtain ⟨r, rfl, hr⟩ := h call List.mem_cons_self
    show (x.react r).after calls = x
    rw [react_of_has hr]
    exact ih fun call hcall => h call (List.mem_cons_of_mem _ hcall)

theorem hasReaction_after {calls : List Call} {r : Reaction}
    (reacts : ∀ call ∈ calls, ∃ r, call = .react r)
    (h : x.hasReaction r = true ∨ .react r ∈ calls) : (x.after calls).hasReaction r = true := by
  induction calls generalizing x with
  | nil => exact h.resolve_right List.not_mem_nil
  | cons call calls ih =>
    obtain ⟨r', rfl⟩ := reacts call List.mem_cons_self
    refine ih (fun call hcall => reacts call (List.mem_cons_of_mem _ hcall)) ?_
    rcases h with hhas | hmem
    · exact .inl (hasReaction_react_of_has hhas)
    · rcases List.mem_cons.mp hmem with hsame | hlater
      · cases hsame
        exact .inl (hasReaction_react x r)
      · exact .inr hlater

/-- A message that was left after a beginning of its calls has the same calls to make, and those that
were made change nothing when they are made again. -/
structure Steady (e : Envelope) (me : Identity) (p : Payload) (x : Effects) (first : List Call) :
    Prop where
  same : e.settling me (x.after first) p = e.settling me x p
  again : ∀ calls, calls <+: first → (x.after first).after calls = x.after first

theorem steady_of_single {call : Call} (single : ∀ y, e.settling me y p = [call])
    (idempotent : call.change (call.change x) = call.change x) (h : first <+: e.settling me x p) :
    Steady e me p x first := by
  refine ⟨(single _).trans (single _).symm, fun calls hcalls => ?_⟩
  rw [single] at h
  rcases List.prefix_cons_iff.mp h with rfl | ⟨rest, rfl, hrest⟩
  · rw [List.prefix_nil.mp hcalls]
    rfl
  · rw [List.prefix_nil.mp hrest] at hcalls ⊢
    rcases List.prefix_cons_iff.mp hcalls with rfl | ⟨rest', rfl, hrest'⟩
    · rfl
    · rw [List.prefix_nil.mp hrest']
      exact idempotent

theorem message?_after_reacts {calls : List Call} (reacts : ∀ call ∈ calls, ∃ r, call = .react r)
    (c : Conversation) (id : MessageId) : (x.after calls).message? c id = x.message? c id := by
  induction calls generalizing x with
  | nil => rfl
  | cons call calls ih =>
    obtain ⟨r, rfl⟩ := reacts call List.mem_cons_self
    rw [after_cons, ih fun call hcall => reacts call (List.mem_cons_of_mem _ hcall)]
    exact message?_react x r c id

theorem steady_receipt (m : DeliveryReceipt) (h : first <+: e.settling me x (.receipt m)) :
    Steady e me (.receipt m) x first := by
  cases hreaction : reactionOf m.receiptType with
  | error cause =>
    rw [settling_unsupported hreaction] at h
    obtain rfl := List.prefix_nil.mp h
    refine ⟨rfl, fun calls hcalls => ?_⟩
    rw [List.prefix_nil.mp hcalls]
    rfl
  | ok state =>
    rw [settling_reaction hreaction] at h
    have reacts : ∀ call ∈ first, ∃ r, call = .react r := fun call hcall => mem_reacting (h.subset hcall)
    refine ⟨?_, fun calls hcalls => ?_⟩
    · rw [settling_reaction hreaction, settling_reaction hreaction]
      simp only [reacting, message?_after_reacts reacts]
    · refine after_reacted fun call hcall => ?_
      obtain ⟨r, rfl⟩ := reacts call (hcalls.subset hcall)
      exact ⟨r, rfl, hasReaction_after reacts (.inr (hcalls.subset hcall))⟩

/-- Where a message was left after the calls `first` and is then left again after the calls `second`,
it is left after a beginning of its first calls that is not shorter. This is all of them if one of the
two was all there was to do, and only then. -/
def Rejoins (e : Envelope) (me : Identity) (p : Payload) (x : Effects) (first second : List Call) :
    Prop :=
  ∃ both, first <+: both ∧ both <+: e.settling me x p ∧
    (x.after first).after second = x.after both ∧
    (both = e.settling me x p ↔
      first = e.settling me x p ∨ second = e.settling me (x.after first) p)

theorem rejoins_of_nil (h : second <+: e.settling me x p) : Rejoins e me p x [] second := by
  refine ⟨second, List.nil_prefix, h, rfl, .inr, ?_⟩
  rintro (hnone | hsame)
  · rw [← hnone] at h ⊢
    exact List.prefix_nil.mp h
  · exact hsame

theorem Steady.rejoins (steady : Steady e me p x first) (hfirst : first <+: e.settling me x p)
    (hsecond : second <+: e.settling me (x.after first) p) : Rejoins e me p x first second := by
  unfold Rejoins
  rw [steady.same] at hsecond ⊢
  -- Both are beginnings of the same calls, so that one of them is a beginning of the other.
  rcases List.prefix_or_prefix_of_prefix hfirst hsecond with hlonger | hshorter
  · refine ⟨second, hlonger, hsecond, ?_, .inr, ?_⟩
    · obtain ⟨rest, rfl⟩ := hlonger
      rw [after_append, steady.again first List.prefix_rfl, after_append]
    · rintro (hall | hall)
      · rw [← hall] at hsecond ⊢
        exact hsecond.eq_of_length (hlonger.length_le.antisymm' hsecond.length_le)
      · exact hall
  · refine ⟨first, List.prefix_rfl, hfirst, steady.again second hshorter, .inl, ?_⟩
    rintro (hall | hall)
    · exact hall
    · rw [← hall] at hfirst ⊢
      exact hfirst.eq_of_length (hshorter.length_le.antisymm' hfirst.length_le)

/-- Once its content is removed, nothing is left to do for a message. -/
theorem settling_deleted {m : DeleteMessage} {stored : StoredMessage}
    (h : x.message? m.conversation m.target = some stored) :
    e.settling me (x.deleteContents stored) (.delete m) = [] := by
  have hagain := message?_deleteContents x stored m.conversation m.target
  rw [h, Option.map_some, if_pos (isMessage_self stored)] at hagain
  exact (settling_of_known hagain).trans (if_pos rfl)

theorem settling_again (e : Envelope) (me : Identity) (p : Payload) (x : Effects)
    (hfirst : first <+: e.settling me x p) (hsecond : second <+: e.settling me (x.after first) p) :
    Rejoins e me p x first second := by
  cases p with
  | delete m =>
    cases hfind : x.message? m.conversation m.target with
    | none =>
      rw [settling_of_unknown hfind] at hfirst
      obtain rfl := List.prefix_nil.mp hfirst
      exact rejoins_of_nil hsecond
    | some stored =>
      rw [settling_of_known hfind] at hfirst
      by_cases hdeleted : stored.deleted = true
      · rw [if_pos hdeleted] at hfirst
        obtain rfl := List.prefix_nil.mp hfirst
        exact rejoins_of_nil hsecond
      have hcalls : e.settling me x (.delete m) = [.deleteContents stored] :=
        (settling_of_known hfind).trans (if_neg hdeleted)
      rw [if_neg hdeleted] at hfirst
      rcases List.prefix_cons_iff.mp hfirst with rfl | ⟨rest, rfl, hrest⟩
      · exact rejoins_of_nil hsecond
      -- A deletion is not steady: once the content is removed, the message has no calls left.
      · obtain rfl := List.prefix_nil.mp hrest
        have hnone : e.settling me (x.after [.deleteContents stored]) (.delete m) = [] :=
          settling_deleted hfind
        rw [hnone] at hsecond
        obtain rfl := List.prefix_nil.mp hsecond
        refine ⟨[.deleteContents stored], List.prefix_rfl, hcalls ▸ List.prefix_rfl, rfl, ?_⟩
        exact ⟨.inl, fun _ => hcalls.symm⟩
  | receipt m => exact (steady_receipt m hfirst).rejoins hfirst hsecond
  | pollSetup m =>
    have idempotent := createPoll_createPoll (e.pollOf me m) x
    have steady : Steady e me (.pollSetup m) x first := steady_of_single (fun _ => rfl) idempotent hfirst
    exact steady.rejoins hfirst hsecond
  | pollVote m =>
    have idempotent := vote_vote (Envelope.voteOf me m) x
    have steady : Steady e me (.pollVote m) x first := steady_of_single (fun _ => rfl) idempotent hfirst
    exact steady.rejoins hfirst hsecond

/-- A message that was left half done is settled later as if it had not been tried. -/
theorem Part.settle_eq (h : Part (e.changes me p x) x y) : settle e me p y = settle e me p x := by
  obtain ⟨made, hmade, -, rfl⟩ := part_changes_iff.mp h
  obtain ⟨both, -, -, hboth, hall⟩ := settling_again e me p x hmade List.prefix_rfl
  rw [settle_eq_after, settle_eq_after, hboth, hall.mpr (.inr rfl)]

theorem Part.complete_eq (h : Part (e.changes me p x) x y) : complete e me p y = complete e me p x :=
  complete_congr h.settle_eq

theorem Part.trans {z : Effects} (first : Part (e.changes me p x) x y)
    (second : Part (e.changes me p y) y z) : Part (e.changes me p x) x z := by
  obtain ⟨made, hmade, hbumps, rfl⟩ := part_changes_iff.mp first
  obtain ⟨made', hmade', hbumps', rfl⟩ := part_changes_iff.mp second
  obtain ⟨both, -, hboth, hafter, hall⟩ := settling_again e me p x hmade hmade'
  exact part_changes_iff.mpr ⟨both, hboth, fun h => (hall.mp h).elim hbumps hbumps', hafter⟩

/-- Where a message is settled, a beginning of its calls changes nothing. -/
theorem after_settle {calls : List Call} (h : calls <+: e.settling me (settle e me p x) p) :
    (settle e me p x).after calls = settle e me p x := by
  rw [settle_eq_after] at h ⊢
  obtain ⟨both, hfirst, hboth, hafter, -⟩ := settling_again e me p x List.prefix_rfl h
  rw [hafter, hboth.eq_of_length (hboth.length_le.antisymm hfirst.length_le)]

/-- Settling a message twice is settling it once. -/
theorem settle_settle (e : Envelope) (me : Identity) (p : Payload) (x : Effects) :
    settle e me p (settle e me p x) = settle e me p x :=
  (settle_eq_after e me p _).trans (after_settle List.prefix_rfl)

/-! ## 4. Messages that were completed -/

theorem settling_still {call : Call} (h : call ∈ e.settling me x p) (c : Conversation)
    (time : UInt64) (y : Effects) : call.change (y.bump c time) = (call.change y).bump c time := by
  cases p with
  | delete m =>
    rw [Envelope.settling] at h
    split at h
    · split at h
      · exact absurd h List.not_mem_nil
      · rw [List.mem_singleton.mp h]
        rfl
    · exact absurd h List.not_mem_nil
  | receipt m =>
    cases hreaction : reactionOf m.receiptType with
    | error cause =>
      rw [settling_unsupported hreaction] at h
      exact absurd h List.not_mem_nil
    | ok state =>
      rw [settling_reaction hreaction] at h
      obtain ⟨r, rfl⟩ := mem_reacting h
      show (y.bump c time).react r = (y.react r).bump c time
      unfold react
      rw [show (y.bump c time).hasReaction = y.hasReaction from rfl]
      split
      · rfl
      · rfl
  | pollSetup m =>
    rw [List.mem_singleton.mp h]
    rfl
  | pollVote m =>
    rw [List.mem_singleton.mp h]
    rfl

/-- What a message does by itself has nothing to do with the places of conversations. -/
theorem after_bump {calls : List Call} (h : calls <+: e.settling me y p) (x : Effects)
    (c : Conversation) (time : UInt64) : (x.bump c time).after calls = (x.after calls).bump c time := by
  have hcalls : ∀ call ∈ calls, call ∈ e.settling me y p := h.subset
  clear h
  induction calls generalizing x with
  | nil => rfl
  | cons call calls ih =>
    rw [after_cons, settling_still (hcalls call List.mem_cons_self), after_cons]
    exact ih _ fun call' hcall' => hcalls call' (List.mem_cons_of_mem _ hcall')

theorem settling_bump (e : Envelope) (me : Identity) (p : Payload) (x : Effects) (c : Conversation)
    (time : UInt64) : e.settling me (x.bump c time) p = e.settling me x p := by
  cases p <;> rfl

/-- A message that was completed can be left half done as often as one likes. -/
theorem part_of_complete (h : Part (e.changes me p (complete e me p x)) (complete e me p x) y) :
    y = complete e me p x := by
  obtain ⟨made, hmade, -, rfl⟩ := part_changes_iff.mp h
  cases hbumps : p.bumps with
  | false =>
    rw [complete_of_still hbumps] at hmade ⊢
    exact after_settle hmade
  | true =>
    rw [complete_of_bumps hbumps] at hmade ⊢
    rw [settling_bump] at hmade
    rw [after_bump hmade, after_settle hmade]

/-- Completing a message twice only moves its conversation up once more. -/
theorem complete_complete (e : Envelope) (me : Identity) (p : Payload) (x : Effects) :
    (complete e me p (complete e me p x)).Resembles (complete e me p x) := by
  cases hbumps : p.bumps with
  | false =>
    rw [complete_of_still hbumps, complete_of_still hbumps, settle_settle]
    exact .refl _
  | true =>
    have hsettle : settle e me p ((settle e me p x).bump p.conversation e.createdAt) =
        (settle e me p x).bump p.conversation e.createdAt := by
      rw [settle_eq_after, settling_bump, after_bump List.prefix_rfl, after_settle List.prefix_rfl]
    rw [complete_of_bumps hbumps, complete_of_bumps hbumps, hsettle]
    exact bump_bump_resembles _ _ _

end Effects

end DeviceSync
