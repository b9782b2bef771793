import DeviceSync.Proofs.Queue.Acknowledgement
import DeviceSync.Proofs.Queue.Retries
import Mathlib.Logic.Function.Iterate

/-!
# What a message that was passed over leaves behind

A message is passed over for a reason of its own, and then nothing of it is applied. Or a service does
not find something, and the queue passes over the message although some of its changing calls may have
been made, in this attempt or in an earlier one.

1. `Envelope.Standing`: what attempts at a message lead to, however often it is tried: nothing, a
   beginning of its changing calls, or its completion, once or more often. Only an unprotected message
   is completed and then tried again.
2. `Envelope.Abandoned`: what is left of a message whose service did not find something.
3. `skipped_message_leaves`: a message that is passed over changed nothing, or it is abandoned.
-/

namespace DeviceSync

open Procedure TaskQueue ExecutionLemmas Footprint

/-- What others may do while a task is carried out: they lay down any faults in the services, on the
connection and for the task store. -/
structure Workspace.Disturbed (w w' : Workspace) : Prop where
  identity : w'.identity = w.identity
  footprint : w'.footprint = w.footprint
  works : w.NoncesWork → w'.NoncesWork

/-! ## 1. Attempts at a message -/

namespace Envelope

/-- What attempts at a message lead to. -/
inductive Standing (e : Envelope) (me : Identity) (p : Payload) (x : Effects) : Effects → Prop
  | untouched : Standing e me p x x
  | halfDone {y : Effects} : x.Part (e.changes me p x) y → Standing e me p x y
  | completed (times : Nat) : Standing e me p x ((Effects.complete e me p)^[times + 1] x)

/-- What is left of a message whose service did not find something: a fault came before one of its
changing calls, or it is not protected and was completed before. -/
inductive Abandoned (e : Envelope) (me : Identity) (p : Payload) (x : Effects) : Effects → Prop
  | halfDone {y : Effects} : x.Part (e.changes me p x) y → Abandoned e me p x y
  | completed (times : Nat) : p.protects = false →
      Abandoned e me p x ((Effects.complete e me p)^[times + 1] x)

end Envelope

namespace SkipLemmas

variable {e : Envelope} {me : Identity} {p : Payload} {x y z x₀ : Effects}

theorem standing_complete (standing : e.Standing me p x y) :
    e.Standing me p x (Effects.complete e me p y) := by
  cases standing with
  | untouched => exact .completed 0
  | halfDone hpart =>
    rw [hpart.complete_eq]
    exact .completed 0
  | completed times =>
    rw [← Function.iterate_succ_apply' (Effects.complete e me p)]
    exact .completed (times + 1)

/-- An attempt that fails leaves behind what the attempts before it led to, or more of the calls. -/
theorem standing_part (standing : e.Standing me p x y) (part : y.Part (e.changes me p y) z) :
    x.Part (e.changes me p x) z ∨ ∃ times, z = (Effects.complete e me p)^[times + 1] x := by
  cases standing with
  | untouched => exact .inl part
  | halfDone hpart => exact .inl (hpart.trans part)
  -- The message is there already, and calls that are made again change nothing.
  | completed times =>
    rw [Function.iterate_succ_apply'] at part
    refine .inr ⟨times, ?_⟩
    rw [Function.iterate_succ_apply']
    exact Effects.part_of_complete part

/-! ## 2. Messages that are passed over -/

/-- A message is passed over only if it has no changing calls at all. -/
def Passes (e : Envelope) (p : Payload) (handled : Except TaskError Outcome) : Prop :=
  ∀ cause, handled = .ok (.skipped cause) →
    (∀ what, cause ≠ .notFound what) ∧ ∀ me x, e.changes me p x = []

theorem completed_passes (work : Work (Except TaskError Unit)) :
    (Envelope.completed work).Always (Passes e p) := by
  refine always_bind (always_trivial work) fun answer _ => ?_
  cases answer with
  | error err => exact nofun
  | ok _ => exact nofun

theorem apply_passes (e : Envelope) (me : Identity) (p : Payload) :
    (e.apply me p).Always (Passes e p) := by
  refine Envelope.apply_always (fun _ => nofun) ?_
  cases p with
  | delete m => exact completed_passes (Envelope.applyDelete m)
  | receipt m =>
    rw [Envelope.applyEffect_receipt]
    cases hreaction : reactionOf m.receiptType with
    | ok state => exact completed_passes _
    | error cause =>
      intro cause' heq
      obtain rfl := Outcome.skipped.inj (Except.ok.inj heq)
      refine ⟨nofun, fun me x => ?_⟩
      rw [Envelope.changes, Effects.settling_unsupported hreaction]
      rfl
  | pollSetup m => exact completed_passes (Work.createPoll _)
  | pollVote m => exact completed_passes (Work.vote _)

/-- A message without changing calls leaves nothing behind. -/
theorem standing_of_none (none : ∀ x, e.changes me p x = []) (standing : e.Standing me p x y) :
    y = x := by
  have hcomplete : Effects.complete e me p = id := by
    funext x
    rw [Effects.complete_eq_after, none]
    rfl
  cases standing with
  | untouched => rfl
  | halfDone hpart =>
    obtain ⟨made, hmade, hnot, -⟩ := hpart
    rw [none] at hmade hnot
    exact absurd (List.prefix_nil.mp hmade) hnot
  | completed times => rw [hcomplete, Function.iterate_id, id]

/-- What a message has changed when it is passed over. -/
def Settled (e : Envelope) (me : Identity) (x : Effects) (result : TaskResult) (y : Effects) : Prop :=
  ∀ cause, result = .ok (.skipped cause) →
    (∀ what, cause ≠ .notFound what) ∧ y = x ∨
    ∃ what p, cause = .notFound what ∧ e.Carries p ∧ e.Abandoned me p x y

theorem settled_of_outcome {outcome : Outcome} (passes : Passes e p (.ok outcome))
    (standing : e.Standing me p x y) : Settled e me x (.ok outcome) y := by
  rintro cause heq
  obtain ⟨hcause, hnone⟩ := passes cause heq
  exact .inl ⟨hcause, standing_of_none (hnone me) standing⟩

theorem settled_of_fault (carries : e.Carries p) (abandoned : e.Abandoned me p x y)
    (err : ServiceError) : Settled e me x (report (.error (.ofService err))) y := by
  rintro cause heq
  cases err with
  | notFound what =>
    obtain rfl := Outcome.skipped.inj (Except.ok.inj heq)
    exact .inr ⟨what, p, rfl, carries, abandoned⟩
  | unavailable text | failed text => exact nomatch heq

/-- Whatever fails, handling that starts `Ready` ends `Ready`, and with a result that is settled. -/
def Handles (e : Envelope) (me : Identity) (x : Effects) (Ready : Footprint → Prop) : Prop :=
  ∀ f, Ready f → (e.handle me).Ensures (Call.Admits fun _ => True)
    (fun handled f' => Settled e me x (report handled) f'.effects ∧ Ready f') f

theorem handles_skip {cause : SkipCause} (hcause : ∀ what, cause ≠ .notFound what)
    (skip : e.handle me = .done (.ok (.skipped cause))) : Handles e me x fun f => f.effects = x := by
  intro f hready
  rw [skip]
  refine ⟨fun cause' heq => ?_, hready⟩
  obtain rfl := Outcome.skipped.inj (Except.ok.inj heq)
  exact .inl ⟨hcause, hready⟩

theorem handles_plain (carries : e.Carries p) (unprotected : p.protects = false)
    (plain : e.handle me = e.apply me p) : Handles e me x fun f => e.Standing me p x f.effects := by
  intro f standing
  rw [plain]
  refine ((e.apply_ensures me p f).and_always (apply_passes e me p)).imp fun handled f' h => ?_
  obtain ⟨passes, hperformed⟩ := h
  cases hperformed with
  | success outcome =>
    have hstanding := standing_complete standing
    exact ⟨settled_of_outcome passes hstanding, hstanding⟩
  | @failure err y _ hpart =>
    rcases standing_part standing hpart with hpart | ⟨times, rfl⟩
    · exact ⟨settled_of_fault carries (.halfDone hpart) err, .halfDone hpart⟩
    · exact ⟨settled_of_fault carries (.completed times unprotected) err, .completed times⟩

/-- Either a nonce of the message is recorded, and it will never be applied again, or it was not
completed so far. -/
def GuardedReady (e : Envelope) (me : Identity) (p : Payload) (x : Effects) (f : Footprint) : Prop :=
  (∃ n ∈ e.nonces, f.nonces.contains me n = true) ∨
  (∀ n ∈ e.nonces, f.nonces.contains me n = false) ∧
    (f.effects = x ∨ x.Part (e.changes me p x) f.effects)

theorem handles_guarded (guarded : e.Guarded p) : Handles e me x (GuardedReady e me p x) := by
  rintro f (known | ⟨fresh, hbegun⟩)
  · refine (Envelope.handle_ensures_of_known guarded known).imp fun handled f' h => ?_
    obtain ⟨rfl, rfl⟩ := h
    exact ⟨nofun, .inl known⟩
  obtain ⟨kind, htag, hdecode⟩ := guarded.decodes
  have carries : e.Carries p := ⟨kind, _, htag, hdecode⟩
  have standing : e.Standing me p x f.effects := by
    rcases hbegun with hsame | hpart
    · rw [hsame]
      exact .untouched
    · exact .halfDone hpart
  have passes : (e.handle me).Always (Passes e p) :=
    Envelope.handle_always guarded (fun _ => nofun) nofun (apply_passes e me p)
  refine ((Envelope.handle_ensures_of_fresh guarded fresh).and_always passes).imp fun handled f' h => ?_
  obtain ⟨passes, hperformed⟩ := h
  cases hperformed with
  | success outcome =>
    obtain ⟨n, hn⟩ := List.exists_mem_of_ne_nil e.nonces guarded.nonces
    exact ⟨settled_of_outcome passes (standing_complete standing),
      .inl ⟨n, hn, NonceStore.contains_extend_hashes hn⟩⟩
  -- Its nonces are released, so that the next attempt starts where this one ended.
  | @failure err y _ hpart =>
    have hleft : x.Part (e.changes me p x) y := by
      rcases hbegun with hsame | hearlier
      · rw [hsame] at hpart
        exact hpart
      · exact hearlier.trans hpart
    exact ⟨settled_of_fault carries (.halfDone hleft) err, .inr ⟨fresh, .inr hleft⟩⟩

/-- Every message is handled so. -/
theorem exists_handles (e : Envelope) (me : Identity) (f : Footprint) :
    ∃ Ready, Handles e me f.effects Ready ∧ Ready f := by
  rcases e.handle_cases me with ⟨cause, hcause, hskip⟩ | ⟨p, carries, unprotected, hplain⟩ |
    ⟨p, guarded⟩
  · exact ⟨_, handles_skip hcause hskip, rfl⟩
  · exact ⟨_, handles_plain carries unprotected hplain, .untouched⟩
  · refine ⟨_, handles_guarded guarded, ?_⟩
    rcases f.nonces.known_or_fresh me e.nonces with known | fresh
    · exact .inl known
    · exact .inr ⟨fresh, .inl rfl⟩

/-! ## 3. Executions -/

/-- An acknowledgement that is not sent changes nothing. -/
theorem Handles.attempt {Ready : Footprint → Prop} (handles : Handles e me x Ready) (f : Footprint)
    (ready : Ready f) : (e.attempt me).Ensures (Call.Admits fun _ => True)
      (Attempted Ready fun result f' => Settled e me x result f'.effects) f := by
  refine (Envelope.attempt_ensures (handles f ready)).imp fun attempted f' h => ?_
  obtain ⟨handled, ⟨hsettled, hready⟩, hfinished⟩ := h
  cases hfinished with
  | same => exact ⟨hsettled, fun _ _ => hready⟩
  | unsent outcome text => exact ⟨nofun, fun _ _ => hready⟩

theorem settled_of_execution {s : Submission} {c : Completion} {w w' : Workspace}
    (task : s.task = .reflected e) (works : w.NoncesWork)
    (execution : Execution Workspace.Disturbed s w c w') :
    Settled e w.identity w.services.effects c.result w'.services.effects := by
  obtain ⟨Ready, hhandles, hready⟩ := exists_handles e w.identity w.footprint
  obtain ⟨hsettled, -⟩ := execution.over (Watch.footprint (fun _ => True) w.identity) Ready
    (fun result f => Settled e w.identity w.services.effects result f.effects)
    (fun v hgood hready => by
      rw [task, hgood.1]
      exact hhandles.attempt v.footprint hready)
    (fun v v' disturbed hgood =>
      ⟨disturbed.footprint, disturbed.identity.trans hgood.1, disturbed.works hgood.2.works,
        fun _ _ => trivial⟩)
    ⟨rfl, works, fun _ _ => trivial⟩ hready
  exact hsettled

/-- With a single changing call there is no beginning but nothing. -/
theorem part_of_single {calls : List Call} (single : calls.length ≤ 1) (part : x.Part calls y) :
    y = x := by
  obtain ⟨made, hmade, hnot, rfl⟩ := part
  have hshorter : made.length ≠ calls.length := fun heq => hnot (hmade.eq_of_length heq)
  obtain rfl : made = [] := List.length_eq_zero_iff.mp (by have := hmade.length_le; omega)
  rfl

end SkipLemmas

open SkipLemmas

/-- A reflected message is passed over, after any number of attempts, whatever the services and the
connection did. Either it has a reason of its own, and the effects are as they were before it was
tried; or a service did not find something, and the message is abandoned where it was. A protected
message that makes one changing call at most leaves nothing behind in either case. -/
theorem skipped_message_leaves {e : Envelope} {s : Submission} {c : Completion} {w w' : Workspace}
    {cause : SkipCause} (task : s.task = .reflected e) (works : w.NoncesWork)
    (execution : Execution Workspace.Disturbed s w c w')
    (skipped : c.result = .ok (.skipped cause)) :
    ((∀ what, cause ≠ .notFound what) ∧ w'.services.effects = w.services.effects ∨
      ∃ what p, cause = .notFound what ∧ e.Carries p ∧
        e.Abandoned w.identity p w.services.effects w'.services.effects) ∧
    ∀ p, e.Carries p → p.protects = true →
      (e.changes w.identity p w.services.effects).length ≤ 1 →
      w'.services.effects = w.services.effects := by
  have hsettled := settled_of_execution task works execution cause skipped
  refine ⟨hsettled, fun p carries protects single => ?_⟩
  rcases hsettled with ⟨-, hsame⟩ | ⟨what, q, -, hq, hleft⟩
  · exact hsame
  obtain rfl := hq.unique carries
  generalize w'.services.effects = y at hleft
  cases hleft with
  | halfDone hpart => exact part_of_single single hpart
  | completed times unprotected =>
    rw [protects] at unprotected
    exact nomatch unprotected

namespace Sample

theorem voteEnvelope_carries (name : UInt64) (nonces : List Nonce) :
    (voteEnvelope name nonces).Carries (.pollVote vote) :=
  ⟨.pollVote, .contact, rfl, rfl⟩

/-- A poll without choices, which moves its conversation up. -/
def emptyPoll : PollSetup := ⟨.contact owner, 1, "", [], false, .guardedBump⟩

def openPoll : Submission :=
  ⟨⟨taskName, .reflected ⟨.ofUInt64 1, owner, 0, MessageType.pollSetup.tag, [nonce 0],
    Encoded.encode emptyPoll⟩, false⟩, 0⟩

/-- A workspace in which the service does not find the conversation that is to move up. -/
def conversationMissing : Workspace :=
  { fresh with services := { interference := [none, some (.notFound "conversation")] } }

end Sample

open Sample

/-- A vote is passed over because the service does not find the poll, and leaves nothing behind. -/
theorem missing_poll_leaves_nothing : ∃ c w',
    Execution Workspace.Disturbed castVote pollMissing c w' ∧
    c.result = .ok (.skipped (.notFound "poll")) ∧
    w'.services.effects = pollMissing.services.effects := by
  have hexecution : Execution Workspace.Disturbed castVote pollMissing _ _ := execution_of_attempt rfl
  have works : pollMissing.NoncesWork := fresh_works
  have task : castVote.task = .reflected (voteEnvelope 1 [nonce 0]) := rfl
  obtain ⟨-, hsingle⟩ := skipped_message_leaves task works hexecution rfl
  exact ⟨_, _, hexecution, rfl, hsingle _ (voteEnvelope_carries 1 _) rfl (Nat.le_refl 1)⟩

/-- A poll is passed over because the service does not find the conversation that is to move up, and
the poll is there. -/
theorem skipped_poll_is_open : ∃ c w',
    Execution Workspace.Disturbed openPoll conversationMissing c w' ∧
    c.result = .ok (.skipped (.notFound "conversation")) ∧
    conversationMissing.services.polls = [] ∧ w'.services.polls.length = 1 ∧
    w'.services.effects ≠ conversationMissing.services.effects := by
  refine ⟨_, _, execution_of_attempt rfl, rfl, rfl, rfl, fun hsame => ?_⟩
  have hpolls := congrArg (fun x : Effects => x.polls.length) hsame
  exact nomatch hpolls

end DeviceSync
