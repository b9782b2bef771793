import DeviceSync.Proofs.Task.Attempt
import DeviceSync.Proofs.Task.Changes

/-!
# What an attempt does to nonces and effects

`Footprint` is the part of a workspace that messages are about. `Call.Admits` says how a call may be
answered, and what it does to this part, where the store of nonces works and the services fail in
certain ways only. Between two calls others may act, as long as they leave the footprint alone; so
what is ensured here (`Procedure.Ensures`) holds however faults come up.

1. `Call.admits_effect`: calls are answered as `Admits` says.
2. `apply_ensures`: applying a message makes all its changing calls, or ends with a fault of the
   services that came before one of them (`Footprint.Makes`).
3. `handle_ensures_of_known`, `handle_ensures_of_fresh`: a guarded message does nothing, or its nonces
   are recorded and it is completed, or it fails and no nonce is recorded.
4. `attempt_ensures`: after handling, only sending the acknowledgement can still fail.
-/

namespace DeviceSync

open Procedure

/-! ## 1. Footprints -/

/-- What messages are about. -/
structure Footprint where
  nonces : NonceStore
  effects : Effects

def Workspace.footprint (w : Workspace) : Footprint := ⟨w.nonces, w.services.effects⟩

/-- The store of nonces works, and the services are about to fail in these ways only. -/
structure Workspace.Within (may : ServiceError → Prop) (w : Workspace) : Prop where
  works : w.NoncesWork
  services : ∀ err, some err ∈ w.services.interference → may err

/-- A changing call ends with a fault and changes nothing, or `done` is done. -/
inductive Footprint.Changes (may : ServiceError → Prop) (done : Effects → Effects) (x : Footprint) :
    Except ServiceError Unit → Footprint → Prop
  | fails {err : ServiceError} : may err → Changes may done x (.error err) x
  | works : Changes may done x (.ok ()) { x with effects := done x.effects }

/-- How a call may be answered, and what it then leaves behind. -/
def Call.Admits (may : ServiceError → Prop) : (c : Call) → Footprint → c.Answer → Footprint → Prop
  | .recordNonces scope ns, x, answer, x' =>
    answer = .ok (x.nonces.insertAll scope ns).1 ∧
      x' = { x with nonces := (x.nonces.insertAll scope ns).2 }
  | .releaseNonces scope ns, x, answer, x' =>
    answer = .ok () ∧ x' = { x with nonces := x.nonces.removeAll scope ns }
  | .findMessage c id, x, answer, x' => answer = x.effects.message? c id ∧ x' = x
  | .deleteContents m, x, answer, x' =>
    x.effects.messages.any (Services.isMessage m.conversation m.messageId) = true →
      x.Changes may (Effects.deleteContents m) answer x'
  | .react r, x, answer, x' => x.Changes may (Effects.react r) answer x'
  | .createPoll p, x, answer, x' => x.Changes may (Effects.createPoll p) answer x'
  | .vote v, x, answer, x' => x.Changes may (Effects.vote v) answer x'
  | .bump c time, x, answer, x' => x.Changes may (Effects.bump c time) answer x'
  | .drawMessageId, x, _, x' | .require _ _, x, _, x' | .pause, x, _, x' | .deliver _, x, _, x' => x' = x

variable {may : ServiceError → Prop} {w : Workspace} {x x' : Footprint}

/-- A call of the services that works, seen on the footprint. -/
theorem Workspace.changes_of_works {call : Services → Except ServiceError Unit × Services}
    {done : Effects → Effects} (works : Services.Works call done w.services)
    (within : w.Within may) :
    w.footprint.Changes may done (w.onServices call).1 (w.onServices call).2.footprint ∧
      (w.onServices call).2.Within may := by
  rcases works.cases with ⟨err, s', hmem, hcall, heffects, hsubset⟩ | ⟨s', hcall, heffects, hsubset⟩
  · rw [onServices, hcall]
    refine ⟨?_, within.works, fun err' h => within.services err' (hsubset h)⟩
    rw [show footprint { w with services := s' } = w.footprint from congrArg (Footprint.mk _) heffects]
    exact .fails (within.services err hmem)
  · rw [onServices, hcall]
    refine ⟨?_, within.works, fun err' h => within.services err' (hsubset h)⟩
    rw [show footprint { w with services := s' } = { w.footprint with effects := done w.services.effects }
      from congrArg (Footprint.mk _) heffects]
    exact .works

/-- Removing the content of a message uses up interference at most, whether or not it is known. -/
theorem Services.interference_deleteContents (s : Services) (m : StoredMessage) :
    (s.deleteContents m).2.interference ⊆ s.interference := by
  by_cases hknown : s.messages.any (isMessage m.conversation m.messageId) = true
  · rcases (deleteContents_works hknown).cases with
        ⟨err, s', -, hcall, -, hsubset⟩ | ⟨s', hcall, -, hsubset⟩
    · rw [hcall]
      exact hsubset
    · rw [hcall]
      exact hsubset
  · cases hinterference : s.interference with
    | nil =>
      simp only [deleteContents, interfered, hinterference]
      rw [if_neg hknown, hinterference]
      exact List.Subset.refl _
    | cons entry rest =>
      cases entry with
      | none =>
        simp only [deleteContents, interfered, hinterference]
        rw [if_neg hknown]
        exact List.subset_cons_self _ _
      | some err =>
        simp only [deleteContents, interfered, hinterference]
        exact List.subset_cons_self _ _

/-- Calls are answered as is admitted. -/
theorem Call.admits_effect (c : Call) (within : w.Within may) :
    c.Admits may w.footprint (c.effect w).1 (c.effect w).2.footprint ∧ (c.effect w).2.Within may := by
  cases c with
  | recordNonces scope ns =>
    rw [Call.effect, Workspace.recordNonces_of_work within.works]
    exact ⟨⟨rfl, rfl⟩, within.works, within.services⟩
  | releaseNonces scope ns =>
    rw [Call.effect, Workspace.releaseNonces_of_work within.works]
    exact ⟨⟨rfl, rfl⟩, within.works, within.services⟩
  | findMessage => exact ⟨⟨rfl, rfl⟩, within⟩
  | deleteContents m =>
    refine ⟨fun hknown => ?_, within.works, fun err herr => ?_⟩
    · exact (Workspace.changes_of_works (Services.deleteContents_works hknown) within).1
    · exact within.services err (w.services.interference_deleteContents m herr)
  | react r => exact Workspace.changes_of_works (Services.react_works r) within
  | createPoll p => exact Workspace.changes_of_works (Services.createPoll_works p) within
  | vote v => exact Workspace.changes_of_works (Services.vote_works v) within
  | bump c time => exact Workspace.changes_of_works (Services.bump_works c time) within
  | drawMessageId | require | pause | deliver => exact ⟨rfl, within.works, within.services⟩

/-! ## 2. Applying a message -/

/-- Success leads to `goal`. A fault of the services may come in its place, and then nothing but the
effects has changed, and they are `kept`. -/
inductive Footprint.Performed {α : Type} (may : ServiceError → Prop) (x goal : Footprint)
    (kept : Effects → Prop) : Except TaskError α → Footprint → Prop
  | success (a : α) : Performed may x goal kept (.ok a) goal
  | failure {err : ServiceError} {y : Effects} :
      may err → kept y → Performed may x goal kept (.error (.ofService err)) { x with effects := y }

open Footprint

variable {kept : Effects → Prop} {goal : Footprint} {calls : List Call}

/-- Success comes with all these changing calls. A fault comes before one of them. -/
def Footprint.Makes {α : Type} (may : ServiceError → Prop) (calls : List Call) (x : Footprint) :
    Except TaskError α → Footprint → Prop :=
  Performed may x { x with effects := x.effects.after calls } (x.effects.Part calls)

theorem Footprint.makes_none {α : Type} (a : α) (x : Footprint) :
    Makes may [] x (.ok a : Except TaskError α) x :=
  .success a

/-- A single changing call. -/
theorem Footprint.Changes.makes {call : Call} {answer : Except ServiceError Unit}
    (h : x.Changes may call.change answer x') :
    Makes may [call] x (answer.mapError .ofService) x' := by
  cases h with
  | fails hmay => exact .failure hmay (Effects.part_start [] x.effects)
  | works => exact .success ()

/-- One call more, which worked, in front. -/
theorem Footprint.Makes.cons {α : Type} {call : Call} {result : Except TaskError α}
    (h : Makes may calls { x with effects := call.change x.effects } result x') :
    Makes may (call :: calls) x result x' := by
  cases h with
  | success a => exact .success a
  | failure hmay hpart => exact .failure hmay hpart.cons

namespace Envelope

variable {e : Envelope} {p : Payload} {me : Identity}

theorem completed_ensures {work : Work (Except TaskError Unit)}
    (h : work.Ensures (Call.Admits may) (Makes may calls x) x) :
    (completed work).Ensures (Call.Admits may) (Makes may calls x) x := by
  refine ensures_bind.mpr (h.imp fun result x' hmakes => ?_)
  cases hmakes with
  | success _ => exact .success Outcome.completed
  | failure hmay hpart => exact .failure hmay hpart

theorem applyDelete_ensures (e : Envelope) (me : Identity) (m : DeleteMessage) (x : Footprint) :
    (applyDelete m).Ensures (Call.Admits may)
      (Makes may (e.settling me x.effects (.delete m)) x) x := by
  rw [applyDelete_eq]
  rintro found x₁ ⟨rfl, rfl⟩
  cases hfind : x₁.effects.message? m.conversation m.target with
  | none =>
    rw [Effects.settling_of_unknown hfind]
    exact makes_none () x₁
  | some stored =>
    rw [Effects.settling_of_known hfind]
    show Ensures _ _ (if stored.deleted then .done (.ok ()) else Work.deleteContents stored) x₁
    by_cases hdeleted : stored.deleted = true
    · rw [if_pos hdeleted, if_pos hdeleted]
      exact makes_none () x₁
    · rw [if_neg hdeleted, if_neg hdeleted]
      intro answer x' hadmits
      have hknown : x₁.effects.messages.any
          (Services.isMessage stored.conversation stored.messageId) = true :=
        List.any_eq_true.mpr ⟨stored, List.mem_of_find?_eq_some hfind, Effects.isMessage_self stored⟩
      exact Changes.makes (hadmits hknown)

theorem applyReactions_ensures (c : Conversation) (state : MessageState) (me : Identity)
    (time : UInt64) (targets : List MessageId) (x : Footprint) :
    (applyReactions c state me time targets).Ensures (Call.Admits may)
      (Makes may (Effects.reacting c state me time targets x.effects) x) x := by
  induction targets generalizing x with
  | nil => exact makes_none () x
  | cons target targets ih =>
    rw [applyReactions_cons]
    rintro found x₁ ⟨rfl, rfl⟩
    cases hfind : x₁.effects.message? c target with
    | none =>
      rw [Effects.reacting_of_unknown hfind]
      exact ih x₁
    | some stored =>
      rw [Effects.reacting_of_known hfind]
      intro answer x' hadmits
      cases hadmits with
      | fails hmay => exact .failure hmay (Effects.part_start _ _)
      | works =>
        refine (ih _).imp fun result x' hmakes => ?_
        rw [Effects.reacting_react] at hmakes
        exact hmakes.cons

theorem applyEffect_ensures (e : Envelope) (me : Identity) (p : Payload) (x : Footprint) :
    (e.applyEffect me p).Ensures (Call.Admits may)
      (Makes may (e.settling me x.effects p) x) x := by
  cases p with
  | delete m => exact completed_ensures (applyDelete_ensures e me m x)
  | receipt m =>
    rw [applyEffect_receipt]
    cases hreaction : reactionOf m.receiptType with
    | error cause =>
      rw [Effects.settling_unsupported hreaction]
      exact makes_none _ x
    | ok state =>
      rw [Effects.settling_reaction hreaction]
      exact completed_ensures (applyReactions_ensures _ _ _ _ _ x)
  | pollSetup m => exact completed_ensures fun answer x' hadmits => Changes.makes hadmits
  | pollVote m => exact completed_ensures fun answer x' hadmits => Changes.makes hadmits

/-- Applying a message completes it, or leaves it half done. -/
theorem apply_ensures (e : Envelope) (me : Identity) (p : Payload) (x : Footprint) :
    (e.apply me p).Ensures (Call.Admits may)
      (Performed may x { x with effects := Effects.complete e me p x.effects }
        (x.effects.Part (e.changes me p x.effects))) x := by
  rw [apply_eq, ensures_bind, Effects.complete_eq_after, Envelope.changes]
  refine (e.applyEffect_ensures me p x).imp fun result x' hmakes => ?_
  cases hmakes with
  | failure hmay hpart => exact .failure hmay (hpart.append _)
  | success outcome =>
    show Ensures _ _ (if p.bumps then _ else _) _
    cases hbumps : p.bumps with
    | false =>
      simp only [Bool.false_eq_true, if_false, List.append_nil]
      exact .success outcome
    | true =>
      simp only [if_true, Effects.after_append]
      intro answer x' hadmits
      cases hadmits with
      -- The effect is there and the conversation did not move up.
      | fails hmay => exact .failure hmay (Effects.part_last _ _ _)
      | works => exact .success outcome

/-! ## 3. Guarded messages -/

theorem handle_ensures_of_known (guarded : e.Guarded p)
    (known : ∃ n ∈ e.nonces, x.nonces.contains me n = true) :
    (e.handle me).Ensures (Call.Admits may)
      (fun handled x' => handled = .ok .duplicate ∧ x' = x) x := by
  rw [handle_guarded guarded]
  rintro answer x' ⟨rfl, rfl⟩
  rw [NonceStore.insertAll_of_known known]
  exact ⟨rfl, rfl⟩

/-- The nonces are recorded and the message is completed, or no nonce is recorded in the end. -/
theorem handle_ensures_of_fresh (guarded : e.Guarded p)
    (fresh : ∀ n ∈ e.nonces, x.nonces.contains me n = false) :
    (e.handle me).Ensures (Call.Admits may)
      (Performed may x
        ⟨x.nonces.extend (Nonce.hashes me e.nonces), Effects.complete e me p x.effects⟩
        (x.effects.Part (e.changes me p x.effects))) x := by
  rw [handle_guarded guarded]
  rintro answer x' ⟨rfl, rfl⟩
  rw [NonceStore.insertAll_of_fresh fresh]
  show (e.applyOrRelease me p).Ensures _ _ _
  rw [applyOrRelease_eq, ensures_bind]
  refine (e.apply_ensures me p _).imp fun applied x' hperformed => ?_
  cases hperformed with
  | success outcome => exact .success outcome
  | failure hmay hkept =>
    simp only [guarded.protects, if_true]
    rintro released x'' ⟨rfl, rfl⟩
    rw [NonceStore.removeAll_extend fresh]
    exact .failure hmay hkept

/-! ## 4. Attempts -/

/-- What an attempt ends with, after handling: sending the acknowledgement of an outcome may fail. -/
inductive Finished : Except TaskError Outcome → Except TaskError Outcome → Prop
  | same (handled : Except TaskError Outcome) : Finished handled handled
  | unsent (outcome : Outcome) (text : String) : Finished (.ok outcome) (.error (.transient text))

theorem attempt_ensures {post : Except TaskError Outcome → Footprint → Prop}
    (h : (e.handle me).Ensures (Call.Admits may) post x) :
    (e.attempt me).Ensures (Call.Admits may)
      (fun attempted x' => ∃ handled, post handled x' ∧ Finished handled attempted) x := by
  rw [attempt_eq, ensures_bind]
  refine h.imp fun handled x' hpost => ?_
  cases handled with
  | error err => exact ⟨_, hpost, .same _⟩
  | ok outcome =>
    rintro delay x₁ rfl answer x₂ rfl
    cases answer with
    | ok _ => exact ⟨_, hpost, .same _⟩
    | error fault => exact ⟨_, hpost, .unsent outcome _⟩

end Envelope

/-! ## 5. Runs -/

/-- What is ensured of any answers holds where a procedure is carried out in one go. -/
theorem Work.run_of_ensures {α : Type} {p : Work α} {post : α → Footprint → Prop}
    (h : p.Ensures (Call.Admits may) post w.footprint) (within : w.Within may) :
    post (p.run w).1 (p.run w).2.footprint :=
  (h.run (fun c _ hwithin => c.admits_effect hwithin) within).1

/-- Where services do not fail, there is nothing but success. -/
theorem Footprint.Performed.succeeds {α : Type} {result : Except TaskError α}
    (h : Performed (fun _ => False) x goal kept result x') :
    (∃ a, result = .ok a) ∧ x' = goal := by
  cases h with
  | success a => exact ⟨⟨a, rfl⟩, rfl⟩
  | failure hmay _ => exact hmay.elim

theorem Footprint.Performed.kept_of_error {α : Type} {err : TaskError}
    (h : Performed may x goal kept (.error err : Except TaskError α) x') : kept x'.effects := by
  cases h with
  | failure _ hkept => exact hkept

end DeviceSync
