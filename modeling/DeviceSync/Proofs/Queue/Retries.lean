import DeviceSync.Proofs.Queue.Crash
import DeviceSync.Proofs.Queue.Execution

/-!
# Retries

An attempt may stop half way, some reactions recorded, a poll opened and its conversation not moved up,
and is then made again from the start, any number of times. Where only faults come up that may pass,
nothing of this is to be seen in the end.

1. `Converges`: attempts that start `Ready` end `Over`, or `Ready` again. It is enough to look at
   handling (`converges_of_handle`), as sending the acknowledgement changes nothing.
2. The invariant, for each way in which a message can be handled: a message that is passed over or was
   recorded before changes nothing; completing an unprotected one leads to the same over and over, but
   for how often its conversation moved up; a guarded one was not completed yet and completing it leads
   where it led at first, or it was completed once and will not be again.
3. `execution_hides_transient_faults` compares an execution with one attempt that nothing disturbs.
-/

namespace DeviceSync

open Procedure TaskQueue ExecutionLemmas CrashLemmas Footprint

/-- The fault may pass. -/
def ServiceError.IsTransient : ServiceError → Prop
  | .unavailable _ => True
  | .notFound _ | .failed _ => False

/-- What others may do while a task is carried out: they lay down faults that may pass, and any faults
on the connection and for the task store. -/
structure Workspace.Hampered (w w' : Workspace) : Prop where
  identity : w'.identity = w.identity
  footprint : w'.footprint = w.footprint
  within : w.Within ServiceError.IsTransient → w'.Within ServiceError.IsTransient

/-- The tag of the message is handled, and its payload asks for protection against replay. -/
def Envelope.IsProtected (e : Envelope) : Prop := ∃ p, e.Carries p ∧ p.protects = true

/-- What a message looks at, as long as services fail in certain ways only. -/
def TaskQueue.Watch.footprint (may : ServiceError → Prop) (me : Identity) : Watch Footprint where
  view := Workspace.footprint
  good w := w.identity = me ∧ w.Within may
  allows := Call.Admits may
  calls c w good :=
    have hadmits := c.admits_effect good.2
    ⟨hadmits.1, (c.identity_effect w).trans good.1, hadmits.2⟩
  tasks w w' same good := by
    obtain ⟨_, _, _, _, rfl⟩ := same
    exact ⟨rfl, good.1, good.2.works, good.2.services⟩

namespace RetryLemmas

variable {e : Envelope} {p : Payload} {me : Identity} {x x' x₀ goal : Footprint}
variable {kept : Effects → Prop} {Ready Over : Footprint → Prop}

/-! ## 1. Attempts one after another -/

/-- An attempt succeeds, or fails in a way that may pass. -/
inductive Outcomes (Ready Over : Footprint → Prop) : Except TaskError Outcome → Footprint → Prop
  | settled (outcome : Outcome) {x : Footprint} : Over x → Outcomes Ready Over (.ok outcome) x
  | again (text : String) {x : Footprint} :
      Ready x → Outcomes Ready Over (.error (.transient text)) x

/-- Whatever faults come up that may pass, an attempt that starts `Ready` ends `Over`, or `Ready` for
another attempt. -/
def Converges (e : Envelope) (me : Identity) (Ready Over : Footprint → Prop) : Prop :=
  ∀ x, Ready x →
    (e.attempt me).Ensures (Call.Admits ServiceError.IsTransient) (Outcomes Ready Over) x

theorem transient_of_service {err : ServiceError} (h : err.IsTransient) :
    ∃ text, TaskError.ofService err = .transient text := by
  cases err with
  | unavailable text => exact ⟨text, rfl⟩
  | notFound what => exact h.elim
  | failed text => exact h.elim

/-- Handling decides, as an outcome whose acknowledgement fails is `Ready` for another attempt. -/
theorem converges_of_handle (again : ∀ x, Over x → Ready x)
    (handling : ∀ x, Ready x →
      (e.handle me).Ensures (Call.Admits ServiceError.IsTransient) (Outcomes Ready Over) x) :
    Converges e me Ready Over := by
  intro x hready
  refine (Envelope.attempt_ensures (handling x hready)).imp fun attempted x' h => ?_
  obtain ⟨handled, houtcomes, hfinished⟩ := h
  cases hfinished with
  | same => exact houtcomes
  | unsent outcome text =>
    cases houtcomes with
    | settled _ hover => exact .again text (again x' hover)

theorem outcomes_of_performed {result : Except TaskError Outcome}
    (h : Performed ServiceError.IsTransient x goal kept result x') (hgoal : Over goal)
    (hready : ∀ y, kept y → Ready { x with effects := y }) : Outcomes Ready Over result x' := by
  cases h with
  | success outcome => exact .settled outcome hgoal
  | failure hmay hkept =>
    obtain ⟨text, htext⟩ := transient_of_service hmay
    rw [htext]
    exact .again text (hready _ hkept)

/-! ## 2. The invariants -/

/-- Handling that never changes anything. -/
theorem converges_of_still (x₀ : Footprint)
    (handling : (e.handle me).Ensures (Call.Admits ServiceError.IsTransient)
      (fun handled x' => (∃ outcome, handled = .ok outcome) ∧ x' = x₀) x₀) :
    Converges e me (· = x₀) (· = x₀) := by
  refine converges_of_handle (fun _ h => h) ?_
  rintro x rfl
  refine handling.imp fun handled x' h => ?_
  obtain ⟨⟨outcome, rfl⟩, rfl⟩ := h
  exact .settled outcome rfl

/-- Completing the message leads to these effects, but for moves of conversations. -/
def LeadsTo (e : Envelope) (me : Identity) (p : Payload) (x₀ x : Footprint) : Prop :=
  x.nonces = x₀.nonces ∧
    (Effects.complete e me p x.effects).Resembles (Effects.complete e me p x₀.effects)

/-- The message was completed, and that led to these effects, but for moves of conversations. -/
def Completed (e : Envelope) (me : Identity) (p : Payload) (x₀ x : Footprint) : Prop :=
  ∃ y, LeadsTo e me p x₀ y ∧ x = { y with effects := Effects.complete e me p y.effects }

theorem Completed.leadsTo (h : Completed e me p x₀ x) : LeadsTo e me p x₀ x := by
  obtain ⟨y, ⟨hnonces, heffects⟩, rfl⟩ := h
  exact ⟨hnonces, (Effects.complete_complete e me p y.effects).trans heffects⟩

theorem converges_of_plain (plain : e.handle me = e.apply me p) (x₀ : Footprint) :
    Converges e me (LeadsTo e me p x₀) (Completed e me p x₀) := by
  refine converges_of_handle (fun _ h => h.leadsTo) fun x hready => ?_
  rw [plain]
  refine (e.apply_ensures me p x).imp fun handled x' hperformed => ?_
  refine outcomes_of_performed hperformed ⟨x, hready, rfl⟩ fun y hpart => ⟨hready.1, ?_⟩
  rw [hpart.complete_eq]
  exact hready.2

/-- Where the nonces of a guarded message are fresh, completing it leads here. -/
def guardedGoal (e : Envelope) (me : Identity) (p : Payload) (x : Footprint) : Footprint :=
  ⟨x.nonces.extend (Nonce.hashes me e.nonces), Effects.complete e me p x.effects⟩

/-- The message was not completed, and it is as if it was never tried; or it was completed. -/
def Once (e : Envelope) (me : Identity) (p : Payload) (x₀ x : Footprint) : Prop :=
  x.nonces = x₀.nonces ∧ guardedGoal e me p x = guardedGoal e me p x₀ ∨ x = guardedGoal e me p x₀

theorem converges_of_fresh (guarded : e.Guarded p)
    (fresh : ∀ n ∈ e.nonces, x₀.nonces.contains me n = false) :
    Converges e me (Once e me p x₀) (· = guardedGoal e me p x₀) := by
  refine converges_of_handle (fun _ h => .inr h) fun x hready => ?_
  rcases hready with ⟨hnonces, hgoal⟩ | rfl
  · have hfresh : ∀ n ∈ e.nonces, x.nonces.contains me n = false := hnonces ▸ fresh
    refine (Envelope.handle_ensures_of_fresh guarded hfresh).imp fun handled x' hperformed => ?_
    refine outcomes_of_performed hperformed hgoal fun y hpart => .inl ⟨hnonces, ?_⟩
    rw [← hgoal, guardedGoal, guardedGoal, hpart.complete_eq]
  -- It was completed: its nonces are recorded, and any later attempt finds them.
  · obtain ⟨n, hn⟩ := List.exists_mem_of_ne_nil e.nonces guarded.nonces
    have hknown : ∃ n ∈ e.nonces, (guardedGoal e me p x₀).nonces.contains me n = true :=
      ⟨n, hn, NonceStore.contains_extend_hashes hn⟩
    refine (Envelope.handle_ensures_of_known guarded hknown).imp fun handled x' h => ?_
    obtain ⟨rfl, rfl⟩ := h
    exact .settled .duplicate rfl

/-- The same nonces and, but for moves of conversations, the same effects; a protected message leaves
no difference at all. -/
structure Agree (e : Envelope) (x y : Footprint) : Prop where
  nonces : x.nonces = y.nonces
  effects : x.effects.Resembles y.effects
  bumps : e.IsProtected → x.effects = y.effects

theorem agree_refl (e : Envelope) (x : Footprint) : Agree e x x := ⟨rfl, .refl _, fun _ => rfl⟩

theorem agree_of_completed {y : Footprint} (carries : e.Carries p) (unprotected : p.protects = false)
    (hx : Completed e me p x₀ x) (hy : Completed e me p x₀ y) : Agree e x y := by
  obtain ⟨u, ⟨hnonces, heffects⟩, rfl⟩ := hx
  obtain ⟨v, ⟨hnonces', heffects'⟩, rfl⟩ := hy
  refine ⟨hnonces.trans hnonces'.symm, heffects.trans heffects'.symm, fun hprotected => ?_⟩
  obtain ⟨q, hq, hprotects⟩ := hprotected
  rw [hq.unique carries, unprotected] at hprotects
  exact absurd hprotects Bool.false_ne_true

/-- Attempts converge, whatever they start from. -/
theorem exists_converging (e : Envelope) (me : Identity) (x₀ : Footprint) :
    ∃ Ready Over, Converges e me Ready Over ∧ Ready x₀ ∧ ∀ x y, Over x → Over y → Agree e x y := by
  have hsame : ∀ goal x y : Footprint, x = goal → y = goal → Agree e x y := by
    rintro goal _ _ rfl rfl
    exact agree_refl e _
  rcases e.handle_cases me with ⟨cause, -, hskip⟩ | ⟨p, carries, unprotected, hplain⟩ | ⟨p, guarded⟩
  · refine ⟨_, _, converges_of_still x₀ ?_, rfl, hsame x₀⟩
    rw [hskip]
    exact ⟨⟨_, rfl⟩, rfl⟩
  · refine ⟨_, _, converges_of_plain hplain x₀, ⟨rfl, .refl _⟩, fun x y hx hy => ?_⟩
    exact agree_of_completed carries unprotected hx hy
  · rcases x₀.nonces.known_or_fresh me e.nonces with known | fresh
    · refine ⟨_, _, converges_of_still x₀ ?_, rfl, hsame x₀⟩
      refine (Envelope.handle_ensures_of_known guarded known).imp fun handled x' h => ?_
      exact ⟨⟨_, h.1⟩, h.2⟩
    · exact ⟨_, _, converges_of_fresh guarded fresh, .inl ⟨rfl, rfl⟩, hsame _⟩

theorem Converges.execution {s : Submission} {c : Completion} {w w' : Workspace} {outcome : Outcome}
    (converges : Converges e w.identity Ready Over) (task : s.task = .reflected e)
    (within : w.Within ServiceError.IsTransient) (ready : Ready w.footprint)
    (execution : Execution Workspace.Hampered s w c w') (success : c.result = .ok outcome) :
    Over w'.footprint := by
  obtain ⟨hover, -⟩ := execution.over (Watch.footprint ServiceError.IsTransient w.identity) Ready
    (fun result x => ∀ outcome, result = .ok outcome → Over x)
    (fun v hgood hready => by
      rw [task, hgood.1]
      refine (converges v.footprint hready).imp fun attempted x h => ?_
      cases h with
      | settled outcome hover => exact ⟨fun _ _ => hover, nofun⟩
      | again text hagain => exact ⟨nofun, fun _ _ => hagain⟩)
    (fun v v' hampered hgood =>
      ⟨hampered.footprint, hampered.identity.trans hgood.1, hampered.within hgood.2⟩)
    ⟨rfl, within⟩ ready
  exact hover outcome success

end RetryLemmas

open RetryLemmas

/-- A reflected message is tried until it succeeds, and only faults come up that may pass: services
that are not available, and sends that fail. Then its execution ends with the same nonces, messages,
deletions, reactions, polls and votes as a single attempt that nothing disturbs, and with the same
moves of conversations, but for how often they are made; a protected message leaves no difference at
all. -/
theorem execution_hides_transient_faults {e : Envelope} {s : Submission} {c : Completion}
    {w w' : Workspace} {outcome : Outcome} (task : s.task = .reflected e)
    (within : w.Within ServiceError.IsTransient) (execution : Execution Workspace.Hampered s w c w')
    (success : c.result = .ok outcome) :
    ∃ outcome' v, (e.attempt w.identity).run w.calm = (.ok outcome', v) ∧
      w'.nonces = v.nonces ∧ w'.services.effects.Resembles v.services.effects ∧
      (e.IsProtected → w'.services.effects = v.services.effects) := by
  obtain ⟨Ready, Over, hconverges, hready, hagree⟩ := exists_converging e w.identity w.footprint
  have hover := hconverges.execution task within hready execution success
  have hcalm : w.calm.Calm := w.restart_calm.calm
  obtain ⟨outcome', v, hrun⟩ := attempt_calm_succeeds e hcalm
  have hwithin : w.calm.Within ServiceError.IsTransient :=
    ⟨hcalm.noncesWork, fun err h => ((within_of_calm hcalm).services err h).elim⟩
  have hundisturbed := Work.run_of_ensures (hconverges w.calm.footprint hready) hwithin
  have hsame : (e.attempt w.identity).run w.calm = (.ok outcome', v) := hrun
  rw [hsame] at hundisturbed
  cases hundisturbed with
  | settled _ hover' =>
    obtain ⟨hnonces, heffects, hbumps⟩ := hagree _ _ hover hover'
    exact ⟨outcome', v, hsame, hnonces, heffects, hbumps⟩

namespace Sample

/-- An unprotected vote that moves its conversation up. -/
def movingVote : Envelope :=
  ⟨.ofUInt64 1, owner, 0, MessageType.pollVote.tag, [],
    Encoded.encode { vote with flags := ⟨2⟩ }⟩

def movingVoteTask : Submission := ⟨⟨taskName, .reflected movingVote, false⟩, 0⟩

/-- The first move of a conversation comes to nothing, and so does the first acknowledgement. -/
def unsteady : Workspace :=
  { fresh with
    services := { interference := [none, some (.unavailable "database")] }
    connection := { failingSends := 1 } }

theorem unsteady_within : unsteady.Within ServiceError.IsTransient where
  works := fresh_works
  services err h := by
    simp only [unsteady, List.mem_cons, Option.some.injEq, List.not_mem_nil, or_false] at h
    rcases h with h | rfl
    · exact nomatch h
    · trivial

end Sample

open Sample

/-- The vote is cast in three attempts and its conversation moves up twice; otherwise it is as if it had
been cast in one. -/
theorem unsteady_vote_is_cast : ∃ c w',
    Execution Workspace.Hampered movingVoteTask unsteady c w' ∧ c.result = .ok .completed ∧
    w'.services.effects.bumps.length = 2 ∧
    ∃ outcome v, (movingVote.attempt owner).run unsteady.calm = (.ok outcome, v) ∧
      v.services.effects.bumps.length = 1 ∧
      w'.services.effects.Resembles v.services.effects := by
  let q₀ : TaskQueue := { TaskQueue.start 1 {} with worker := .holding movingVoteTask }
  have hsteady : q₀.policy.Steady := TaskSettings.policy_steady {}
  have hstart : Run (Occurrence Workspace.Hampered) q₀ unsteady _ unsteady :=
    .step .start (.event (.move (.of_worker rfl (.start rfl))))
  have hfirst := hstart.through rfl rfl
  have hsecond := ((hfirst.step (.event (.move (.rest_of_steady hsteady rfl rfl)))).step
    (.event (.move (.of_worker rfl .retry)))).through rfl rfl
  have hthird := ((hsecond.step (.event (.move (.rest_of_steady hsteady rfl rfl)))).step
    (.event (.move (.of_worker rfl .retry)))).through rfl rfl
  have hexecution := hthird.execution 0 rfl rfl rfl rfl
  obtain ⟨outcome, v, hrun, -, hresembles, -⟩ :=
    execution_hides_transient_faults rfl unsteady_within hexecution rfl
  refine ⟨_, _, hexecution, rfl, rfl, outcome, v, hrun, ?_, hresembles⟩
  have hv : v = ((movingVote.attempt owner).run unsteady.calm).2 := (congrArg Prod.snd hrun).symm
  rw [hv]
  rfl

end DeviceSync
