import DeviceSync.Proofs.Procedure
import DeviceSync.Proofs.Store.Nonces
import DeviceSync.Task.Reflected

/-!
# The course of an attempt

An attempt at a reflected message handles it and then acknowledges it. This module says once what
handling can be, so that no later proof opens `process` again:

1. which part of the workspace a call may change (`Call.beside_services`, `Call.beside_connection`);
2. `handle_cases`: a message is passed over, or the payload that it `Carries` is applied without
   protection, or it is `Guarded`; whatever it is, handling never sends (`handle_only`);
3. `handle_guarded_of_known`, `handle_guarded_of_fresh`: a guarded message with a nonce that was
   recorded before ends as a duplicate and changes nothing, any other one is applied behind its
   recorded nonces;
4. `attempt_throughout`: an invariant of an attempt is one of its handling that survives a send.
-/

namespace DeviceSync

open Procedure

/-! ## 1. Calls and the parts of a workspace -/

/-- A call to the services. -/
def Call.IsService : Call → Prop
  | .findMessage _ _ | .deleteContents _ | .react _ | .createPoll _ | .vote _ | .bump _ _ => True
  | _ => False

/-- A call to the connection. -/
def Call.IsSend : Call → Prop
  | .pause | .deliver _ => True
  | _ => False

/-- The workspace without its services. -/
def Workspace.besideServices (w : Workspace) : Workspace := { w with services := {} }

/-- The workspace without its connection. -/
def Workspace.besideConnection (w : Workspace) : Workspace := { w with connection := {} }

/-- No call to the nonce store is about to fail. -/
def Workspace.NoncesWork (w : Workspace) : Prop :=
  w.faults.insertAll = none ∧ w.faults.removeAll = none

/-- A call to the services leaves the rest of the workspace alone. -/
theorem Call.beside_services (c : Call) (h : c.IsService) (w : Workspace) :
    (c.effect w).2.besideServices = w.besideServices := by
  cases c with
  | findMessage | deleteContents | react | createPoll | vote | bump => rfl
  | recordNonces | releaseNonces | drawMessageId | require | pause | deliver => exact h.elim

/-- A call to the connection leaves the rest of the workspace alone. -/
theorem Call.beside_connection (c : Call) (h : c.IsSend) (w : Workspace) :
    (c.effect w).2.besideConnection = w.besideConnection := by
  cases c with
  | pause | deliver => rfl
  | recordNonces | releaseNonces | findMessage | deleteContents | react | createPoll | vote | bump
  | drawMessageId | require => exact h.elim

/-- Any other call leaves the connection alone. -/
theorem Call.connection_effect (c : Call) (h : ¬ c.IsSend) (w : Workspace) :
    (c.effect w).2.connection = w.connection := by
  cases c with
  | recordNonces scope ns =>
    show (w.recordNonces scope ns).2.connection = w.connection
    unfold Workspace.recordNonces
    split <;> rfl
  | releaseNonces scope ns =>
    show (w.releaseNonces scope ns).2.connection = w.connection
    unfold Workspace.releaseNonces
    split <;> rfl
  | findMessage | deleteContents | react | createPoll | vote | bump | drawMessageId | require => rfl
  | pause | deliver => exact absurd trivial h

theorem Workspace.recordNonces_of_work {w : Workspace} (works : w.NoncesWork) (scope : Identity)
    (ns : List Nonce) : w.recordNonces scope ns =
      (.ok (w.nonces.insertAll scope ns).1, { w with nonces := (w.nonces.insertAll scope ns).2 }) := by
  rw [recordNonces, works.1]

theorem Workspace.releaseNonces_of_work {w : Workspace} (works : w.NoncesWork) (scope : Identity)
    (ns : List Nonce) :
    w.releaseNonces scope ns = (.ok (), { w with nonces := w.nonces.removeAll scope ns }) := by
  rw [releaseNonces, works.2]

/-- A store call fails only where a fault was laid down, and no call lays one down. -/
theorem Call.noncesWork_effect (c : Call) {w : Workspace} (works : w.NoncesWork) :
    (c.effect w).2.NoncesWork := by
  cases c with
  | recordNonces scope ns =>
    rw [Call.effect, Workspace.recordNonces_of_work works]
    exact works
  | releaseNonces scope ns =>
    rw [Call.effect, Workspace.releaseNonces_of_work works]
    exact works
  | findMessage | deleteContents | react | createPoll | vote | bump | drawMessageId | require | pause
  | deliver => exact works

theorem Call.identity_effect (c : Call) (w : Workspace) : (c.effect w).2.identity = w.identity := by
  cases c with
  | recordNonces scope ns =>
    show (w.recordNonces scope ns).2.identity = w.identity
    unfold Workspace.recordNonces
    split <;> rfl
  | releaseNonces scope ns =>
    show (w.releaseNonces scope ns).2.identity = w.identity
    unfold Workspace.releaseNonces
    split <;> rfl
  | findMessage | deleteContents | react | createPoll | vote | bump | drawMessageId | require | pause
  | deliver => rfl

/-- The workspace with other pending tasks, and with other faults laid down in the task store. -/
def Workspace.withTasks (w : Workspace) (tasks : TaskStore) (save remove load : Option StoreError) :
    Workspace :=
  { w with tasks, faults := { w.faults with save, remove, load } }

/-- The workspaces differ in the task store at most. -/
def Workspace.SameButTasks (w w' : Workspace) : Prop :=
  ∃ tasks save remove load, w' = w.withTasks tasks save remove load

theorem Workspace.saveTask_sameButTasks (w : Workspace) (id : TaskId) (data : TaskData) :
    w.SameButTasks (w.saveTask id data).2 := by
  unfold saveTask
  split
  · exact ⟨w.tasks, none, w.faults.remove, w.faults.load, rfl⟩
  · exact ⟨w.tasks.save id data, w.faults.save, w.faults.remove, w.faults.load, rfl⟩

theorem Workspace.removeTask_sameButTasks (w : Workspace) (id : TaskId) :
    w.SameButTasks (w.removeTask id).2 := by
  unfold removeTask
  split
  · exact ⟨w.tasks, w.faults.save, none, w.faults.load, rfl⟩
  · exact ⟨w.tasks.remove id, w.faults.save, w.faults.remove, w.faults.load, rfl⟩

theorem Workspace.SameButTasks.refl (w : Workspace) : w.SameButTasks w :=
  ⟨w.tasks, w.faults.save, w.faults.remove, w.faults.load, rfl⟩

theorem Workspace.loadTasks_sameButTasks (w : Workspace) : w.SameButTasks w.loadTasks.2 := by
  unfold loadTasks
  split
  · exact ⟨w.tasks, w.faults.save, w.faults.remove, none, rfl⟩
  · exact .refl w

/-- Tasks neither see nor change the task store. -/
theorem Call.effect_withTasks (tasks : TaskStore) (save remove load : Option StoreError) (c : Call)
    (w : Workspace) : c.effect (w.withTasks tasks save remove load) =
      ((c.effect w).1, (c.effect w).2.withTasks tasks save remove load) := by
  cases c with
  | recordNonces scope ns =>
    obtain ⟨_, _, _, ⟨insert, _, _, _, _⟩, _, _, _⟩ := w
    cases insert with
    | none => rfl
    | some cause => rfl
  | releaseNonces scope ns =>
    obtain ⟨_, _, _, ⟨_, remove, _, _, _⟩, _, _, _⟩ := w
    cases remove with
    | none => rfl
    | some cause => rfl
  | findMessage | deleteContents | react | createPoll | vote | bump | drawMessageId | require | pause
  | deliver => rfl

namespace Work

variable {α β : Type}

@[simp] theorem run_done (a : α) (w : Workspace) : Work.run (.done a) w = (a, w) := rfl

@[simp] theorem run_ask (c : Call) (next : c.Answer → Work α) (w : Workspace) :
    Work.run (.ask c next) w = (next (c.effect w).1).run (c.effect w).2 := rfl

@[simp] theorem run_bind (p : Work α) (f : α → Work β) (w : Workspace) :
    Work.run (Procedure.bind p f) w = (f (p.run w).1).run (p.run w).2 :=
  Procedure.run_bind Call.effect p f w

theorem run_of_throughout {P : Workspace → Prop} {p : Work α} {w : Workspace}
    (h : Throughout Call.effect P p w) : P (p.run w).2 :=
  h.run

theorem throughout_bind {P : Workspace → Prop} {p : Work α} {f : α → Work β} {w : Workspace}
    (hp : Throughout Call.effect P p w)
    (hf : Throughout Call.effect P (f (p.run w).1) (p.run w).2) :
    Throughout Call.effect P (Procedure.bind p f) w :=
  Procedure.throughout_bind hp hf

/-- A nonce store that works goes on working, whatever is done. -/
theorem throughout_noncesWork (p : Work α) {w : Workspace} (works : w.NoncesWork) :
    Throughout Call.effect Workspace.NoncesWork p w :=
  throughout_of_calls (fun c _ => c.noncesWork_effect) p works

/-- No call changes the local identity. -/
theorem throughout_identity (p : Work α) (w : Workspace) :
    Throughout Call.effect (fun v => v.identity = w.identity) p w :=
  throughout_of_calls (fun c _ hv => (c.identity_effect _).trans hv) p rfl

theorem throughout_sameButTasks {P : Workspace → Prop} {p : Work α} {w w' : Workspace}
    (same : w.SameButTasks w') (blind : ∀ v v' : Workspace, v.SameButTasks v' → P v → P v')
    (h : Throughout Call.effect P p w) : Throughout Call.effect P p w' := by
  obtain ⟨tasks, save, remove, load, rfl⟩ := same
  refine Throughout.transport (Call.effect_withTasks tasks save remove load) ?_
  exact h.imp fun v hv => blind v _ ⟨tasks, save, remove, load, rfl⟩ hv

/-- A send as a whole. -/
theorem run_send (frame : Bytes) (w : Workspace) : (Work.send frame).run w =
    ((w.connection.send frame).1.mapError .ofTransport,
      { w with connection := (w.connection.send frame).2 }) := rfl

end Work

/-! ## 2. The calls of handling -/

namespace Envelope

theorem applyDelete_eq (m : DeleteMessage) :
    applyDelete m = .ask (.findMessage m.conversation m.target) fun
      | some stored => if stored.deleted then .done (.ok ()) else Work.deleteContents stored
      | none => .done (.ok ()) :=
  congrArg (Procedure.ask _) <| funext fun found => by cases found <;> rfl

theorem applyReactions_cons (c : Conversation) (state : MessageState) (me : Identity) (time : UInt64)
    (target : MessageId) (targets : List MessageId) :
    applyReactions c state me time (target :: targets) = .ask (.findMessage c target) fun
      | some stored => (Work.react ⟨stored.messageId, state, me, time⟩).bind fun
        | .ok () => applyReactions c state me time targets
        | .error err => .done (.error err)
      | none => applyReactions c state me time targets :=
  congrArg (Procedure.ask _) <| funext fun found => by cases found <;> rfl

/-- What an effect that is not passed over ends with. -/
def completed (work : Work (Except TaskError Unit)) : Work (Except TaskError Outcome) :=
  work.bind fun answer => .done (answer.map fun () => .completed)

theorem applyEffect_receipt (e : Envelope) (me : Identity) (m : DeliveryReceipt) :
    e.applyEffect me (.receipt m) =
      match reactionOf m.receiptType with
      | .error cause => .done (.ok (.skipped (.unsupportedReceipt cause)))
      | .ok state => completed (applyReactions m.conversation state me e.createdAt m.messageIds) := rfl

theorem apply_eq (e : Envelope) (me : Identity) (p : Payload) :
    e.apply me p = (e.applyEffect me p).bind fun
      | .error err => .done (.error err)
      | .ok outcome =>
        if p.bumps then
          (Work.bump p.conversation e.createdAt).bind fun answer => .done (answer.map fun () => outcome)
        else .done (.ok outcome) := rfl

theorem applyDelete_only (m : DeleteMessage) : (applyDelete m).Only Call.IsService := by
  rw [applyDelete_eq]
  refine ⟨trivial, fun found => ?_⟩
  cases found with
  | none => trivial
  | some stored =>
    show Only Call.IsService (if stored.deleted then .done (.ok ()) else Work.deleteContents stored)
    split
    · trivial
    · exact ⟨trivial, fun _ => trivial⟩

theorem applyReactions_only (c : Conversation) (state : MessageState) (me : Identity) (time : UInt64)
    (targets : List MessageId) :
    (applyReactions c state me time targets).Only Call.IsService := by
  induction targets with
  | nil => trivial
  | cons target targets ih =>
    rw [applyReactions_cons]
    refine ⟨trivial, fun found => ?_⟩
    cases found with
    | none => exact ih
    | some stored =>
      refine ⟨trivial, fun answer => ?_⟩
      cases answer with
      | error e => trivial
      | ok _ => exact ih

theorem applyEffect_only (e : Envelope) (me : Identity) (p : Payload) :
    (e.applyEffect me p).Only Call.IsService := by
  cases p with
  | delete m => exact only_bind (applyDelete_only m) fun _ => trivial
  | receipt m =>
    rw [applyEffect_receipt]
    cases reactionOf m.receiptType with
    | error cause => trivial
    | ok state => exact only_bind (applyReactions_only _ _ _ _ _) fun _ => trivial
  | pollSetup m => exact ⟨trivial, fun _ => trivial⟩
  | pollVote m => exact ⟨trivial, fun _ => trivial⟩

/-- Applying a message makes calls to the services only. -/
theorem apply_only (e : Envelope) (me : Identity) (p : Payload) :
    (e.apply me p).Only Call.IsService := by
  rw [apply_eq]
  refine only_bind (e.applyEffect_only me p) fun outcome => ?_
  cases outcome with
  | error err => trivial
  | ok outcome =>
    show Only Call.IsService (if p.bumps then _ else _)
    split
    · exact ⟨trivial, fun _ => trivial⟩
    · trivial

/-! ## 3. What handling can be -/

/-- A message that is protected against replay: its tag is handled, its payload is `p` and belongs
to a conversation of the right kind, the flags of `p` ask for protection, and there is a nonce. -/
structure Guarded (e : Envelope) (p : Payload) : Prop where
  decodes : ∃ kind, dispatch e.tag = .handle kind p.conversation.scope ∧
    Payload.decode kind e.payload = .ok p
  protects : p.protects = true
  nonces : e.nonces ≠ []

theorem applyOrRelease_eq (e : Envelope) (me : Identity) (p : Payload) :
    e.applyOrRelease me p = (e.apply me p).bind fun
      | .ok outcome => .done (.ok outcome)
      | .error err =>
        if p.protects then
          (Work.releaseNonces me e.nonces).bind fun
            | .ok () => .done (.error err)
            | .error storeErr => .done (.error storeErr)
        else .done (.error err) := rfl

theorem applyOrRelease_unprotected (e : Envelope) (me : Identity) {p : Payload}
    (h : p.protects = false) : e.applyOrRelease me p = e.apply me p := by
  have hid : (fun r : Except TaskError Outcome => (match r with
      | .ok outcome => .done (.ok outcome)
      | .error err =>
        if p.protects then
          (Work.releaseNonces me e.nonces).bind fun
            | .ok () => .done (.error err)
            | .error storeErr => .done (.error storeErr)
        else .done (.error err) : Work (Except TaskError Outcome))) = .done := by
    funext r
    cases r with
    | ok outcome => rfl
    | error err => simp only [h, Bool.false_eq_true, if_false]
  rw [applyOrRelease_eq, hid, bind_done]

theorem handle_guarded {e : Envelope} {p : Payload} (h : e.Guarded p) (me : Identity) :
    e.handle me = (Work.recordNonces me e.nonces).bind fun
      | .error err => .done (.error err)
      | .ok false => .done (.ok .duplicate)
      | .ok true => e.applyOrRelease me p := by
  obtain ⟨kind, htag, hdecode⟩ := h.decodes
  have hnonces : e.nonces.isEmpty = false := by simpa using h.nonces
  simp only [handle, htag, process, hdecode, ne_eq, not_true_eq_false, if_false, h.protects,
    Bool.not_true, Bool.false_eq_true, hnonces]
  rfl

/-- The tag of the message is handled, and its payload is `p`. -/
def Carries (e : Envelope) (p : Payload) : Prop :=
  ∃ kind scope, dispatch e.tag = .handle kind scope ∧ Payload.decode kind e.payload = .ok p

theorem Carries.unique {e : Envelope} {p q : Payload} (hp : e.Carries p) (hq : e.Carries q) : p = q := by
  obtain ⟨kind, scope, htag, hdecode⟩ := hp
  obtain ⟨kind', scope', htag', hdecode'⟩ := hq
  rw [htag] at htag'
  cases htag'
  rw [hdecode] at hdecode'
  exact Except.ok.inj hdecode'

/-- A message is passed over for a reason of its own, or it is applied without protection, or it is
guarded. -/
theorem handle_cases (e : Envelope) (me : Identity) :
    (∃ cause, (∀ what, cause ≠ .notFound what) ∧ e.handle me = .done (.ok (.skipped cause))) ∨
    (∃ p, e.Carries p ∧ p.protects = false ∧ e.handle me = e.apply me p) ∨
    ∃ p, e.Guarded p := by
  rw [handle]
  cases htag : dispatch e.tag with
  | skip reason => exact .inl ⟨.dispatch reason, nofun, rfl⟩
  | handle kind scope =>
    simp only [process]
    cases hdecode : Payload.decode kind e.payload with
    | error cause => exact .inl ⟨.decode cause.toText, nofun, rfl⟩
    | ok p =>
      simp only
      by_cases hscope : p.conversation.scope = scope
      · cases hprotects : p.protects with
        | false =>
          refine .inr (.inl ⟨p, ⟨kind, scope, htag, hdecode⟩, hprotects, ?_⟩)
          simp only [hscope, ne_eq, not_true_eq_false, if_false, Bool.not_false, if_true]
          exact applyOrRelease_unprotected e me hprotects
        | true =>
          by_cases hnonces : e.nonces = []
          · refine .inl ⟨.missingNonces, nofun, ?_⟩
            simp [hscope, hnonces]
          · exact .inr (.inr ⟨p, ⟨kind, hscope ▸ htag, hdecode⟩, hprotects, hnonces⟩)
      · refine .inl ⟨.decode "conversation scope does not match message type", by simp, ?_⟩
        simp [hscope]

/-- Handling a message sends nothing. -/
theorem handle_only (e : Envelope) (me : Identity) : (e.handle me).Only fun c => ¬ c.IsSend := by
  have happly : ∀ p, (e.apply me p).Only fun c => ¬ c.IsSend := by
    intro p
    refine (e.apply_only me p).imp fun c hc hsend => ?_
    cases c with
    | pause | deliver => exact hc
    | recordNonces | releaseNonces | findMessage | deleteContents | react | createPoll | vote | bump
    | drawMessageId | require => exact hsend
  rcases e.handle_cases me with ⟨cause, -, hskip⟩ | ⟨p, -, -, hplain⟩ | ⟨p, hguarded⟩
  · rw [hskip]
    trivial
  · rw [hplain]
    exact happly p
  · rw [handle_guarded hguarded]
    refine ⟨id, fun answer => ?_⟩
    cases answer with
    | error err => trivial
    | ok isNew =>
      cases isNew with
      | false => trivial
      | true =>
        show (e.applyOrRelease me p).Only _
        rw [applyOrRelease_eq]
        refine only_bind (happly p) fun applied => ?_
        cases applied with
        | ok outcome => trivial
        | error err =>
          simp only [hguarded.protects, if_true]
          refine ⟨id, fun released => ?_⟩
          cases released with
          | ok _ => trivial
          | error cause => trivial

theorem handle_connection (e : Envelope) (me : Identity) (w : Workspace) :
    ((e.handle me).run w).2.connection = w.connection :=
  Work.run_of_throughout ((e.handle_only me).frame Call.connection_effect w)

end Envelope

/-! ## 4. Guarded messages -/

/-- The workspace in which the nonces of a message are recorded. -/
def Workspace.recorded (w : Workspace) (scope : Identity) (ns : List Nonce) : Workspace :=
  { w with nonces := w.nonces.extend (Nonce.hashes scope ns) }

theorem Workspace.recordNonces_of_fresh {w : Workspace} {scope : Identity} {ns : List Nonce}
    (works : w.NoncesWork) (fresh : ∀ n ∈ ns, w.nonces.contains scope n = false) :
    w.recordNonces scope ns = (.ok true, w.recorded scope ns) := by
  rw [recordNonces_of_work works, NonceStore.insertAll_of_fresh fresh]
  rfl

/-- Wherever an effect has led to, releasing the nonces gives back the nonce store from before. -/
theorem Workspace.releaseNonces_recorded {w v : Workspace} {scope : Identity} {ns : List Nonce}
    (works : w.NoncesWork) (fresh : ∀ n ∈ ns, w.nonces.contains scope n = false)
    (beside : v.besideServices = (w.recorded scope ns).besideServices) :
    Call.effect (.releaseNonces scope ns) v = (.ok (), { v with nonces := w.nonces }) := by
  have hfaults : v.faults = w.faults := congrArg (·.faults) beside
  have hnonces : v.nonces = w.nonces.extend (Nonce.hashes scope ns) := congrArg (·.nonces) beside
  have hv : v.NoncesWork := by rw [NoncesWork, hfaults]; exact works
  show v.releaseNonces scope ns = _
  rw [releaseNonces_of_work hv, hnonces, NonceStore.removeAll_extend fresh]

namespace Envelope

variable {e : Envelope} {p : Payload} {me : Identity} {w : Workspace}

/-- A guarded message with a nonce that was recorded before changes nothing at all. -/
theorem handle_guarded_of_known (h : e.Guarded p) (works : w.NoncesWork)
    (known : ∃ n ∈ e.nonces, w.nonces.contains me n = true) :
    (e.handle me).run w = (.ok .duplicate, w) ∧ Throughout Call.effect (· = w) (e.handle me) w := by
  have hrecord : Call.effect (.recordNonces me e.nonces) w = (.ok false, w) := by
    show w.recordNonces me e.nonces = _
    rw [Workspace.recordNonces_of_work works, NonceStore.insertAll_of_known known]
  rw [handle_guarded h, Work.recordNonces, ask_bind, Work.run_ask, throughout_ask, hrecord]
  exact ⟨rfl, rfl, throughout_done.mpr rfl⟩

/-- Any other guarded message is applied behind its recorded nonces. -/
theorem handle_guarded_of_fresh (h : e.Guarded p) (works : w.NoncesWork)
    (fresh : ∀ n ∈ e.nonces, w.nonces.contains me n = false) :
    (e.handle me).run w = (e.applyOrRelease me p).run (w.recorded me e.nonces) ∧
    ∀ P : Workspace → Prop, P w →
      Throughout Call.effect P (e.applyOrRelease me p) (w.recorded me e.nonces) →
      Throughout Call.effect P (e.handle me) w := by
  have hrecord : Call.effect (.recordNonces me e.nonces) w = (.ok true, w.recorded me e.nonces) :=
    Workspace.recordNonces_of_fresh works fresh
  rw [handle_guarded h, Work.recordNonces, ask_bind, Work.run_ask, hrecord]
  refine ⟨rfl, fun P hw hrest => ?_⟩
  rw [throughout_ask, hrecord]
  exact ⟨hw, hrest⟩

/-- Applying a message changes the services and nothing beside them. -/
theorem apply_beside (e : Envelope) (me : Identity) (p : Payload) (w : Workspace) :
    Throughout Call.effect (fun v => v.besideServices = w.besideServices) (e.apply me p) w :=
  (e.apply_only me p).frame Call.beside_services w

/-- A failed effect gives back the nonce store from before the nonces were recorded. -/
theorem applyOrRelease_recorded (protects : p.protects = true) (works : w.NoncesWork)
    (fresh : ∀ n ∈ e.nonces, w.nonces.contains me n = false) :
    (e.applyOrRelease me p).run (w.recorded me e.nonces) =
      match (e.apply me p).run (w.recorded me e.nonces) with
      | (.ok outcome, v) => (.ok outcome, v)
      | (.error err, v) => (.error err, { v with nonces := w.nonces }) := by
  have hbeside := Work.run_of_throughout (e.apply_beside me p (w.recorded me e.nonces))
  rw [applyOrRelease_eq, Work.run_bind]
  generalize (e.apply me p).run (w.recorded me e.nonces) = r at hbeside ⊢
  obtain ⟨result, v⟩ := r
  cases result with
  | ok outcome => rfl
  | error err =>
    have hrelease := Workspace.releaseNonces_recorded works fresh hbeside
    simp only [protects, if_true, Work.releaseNonces, ask_bind, Work.run_ask, hrelease]
    rfl

/-- What holds while a message is applied, and after its nonces are released again, holds
throughout. -/
theorem applyOrRelease_throughout (protects : p.protects = true) (works : w.NoncesWork)
    (fresh : ∀ n ∈ e.nonces, w.nonces.contains me n = false) {P : Workspace → Prop}
    (applying : Throughout Call.effect P (e.apply me p) (w.recorded me e.nonces))
    (releasing : ∀ err v, (e.apply me p).run (w.recorded me e.nonces) = (.error err, v) →
      P { v with nonces := w.nonces }) :
    Throughout Call.effect P (e.applyOrRelease me p) (w.recorded me e.nonces) := by
  rw [applyOrRelease_eq]
  refine Work.throughout_bind applying ?_
  have hbeside := Work.run_of_throughout (e.apply_beside me p (w.recorded me e.nonces))
  have hlast := Work.run_of_throughout applying
  generalize (e.apply me p).run (w.recorded me e.nonces) = r at hbeside hlast releasing ⊢
  obtain ⟨result, v⟩ := r
  cases result with
  | ok outcome => exact throughout_done.mpr hlast
  | error err =>
    have hrelease := Workspace.releaseNonces_recorded works fresh hbeside
    simp only [protects, if_true, Work.releaseNonces, ask_bind, throughout_ask, hrelease]
    exact ⟨hlast, throughout_done.mpr (releasing err v rfl)⟩

/-! ## 5. Attempts -/

/-- After handling, an outcome is acknowledged; a fault is not. -/
def finish (e : Envelope) : Except TaskError Outcome → Work (Except TaskError Outcome)
  | .error err => .done (.error err)
  | .ok outcome => (Work.send e.acknowledgement).bind fun sent => .done (sent.map fun () => outcome)

theorem attempt_eq (e : Envelope) (me : Identity) : e.attempt me = (e.handle me).bind e.finish :=
  congrArg (Procedure.bind _) <| funext fun result => by cases result <;> rfl

theorem finish_only (e : Envelope) (result : Except TaskError Outcome) :
    (e.finish result).Only Call.IsSend := by
  cases result with
  | error err => trivial
  | ok outcome => exact ⟨trivial, fun _ => ⟨trivial, fun _ => trivial⟩⟩

/-- The end of an attempt changes the connection and nothing beside it. -/
theorem finish_beside (e : Envelope) (result : Except TaskError Outcome) (w : Workspace) :
    Throughout Call.effect (fun v => v.besideConnection = w.besideConnection) (e.finish result) w :=
  (e.finish_only result).frame Call.beside_connection w

/-- What holds while a message is handled and has nothing to do with the connection holds throughout
the attempt. -/
theorem attempt_throughout {P : Workspace → Prop}
    (sends : ∀ v v' : Workspace, v'.besideConnection = v.besideConnection → P v → P v')
    (handling : Throughout Call.effect P (e.handle me) w) :
    Throughout Call.effect P (e.attempt me) w := by
  rw [attempt_eq]
  refine Work.throughout_bind handling ?_
  exact (e.finish_beside _ _).imp fun v hv => sends _ v hv (Work.run_of_throughout handling)

end Envelope

/-! ## 6. A guarded message -/

namespace Sample

def owner : Identity := ⟨"ALICE001", by decide⟩

/-- A guarded vote of the owner, in a poll of its own. -/
def vote : PollVote := ⟨.contact owner, owner, 1, [2], .guarded⟩

/-- A nonce of equal octets. -/
def nonce (b : UInt8) : Nonce := ⟨List.replicate 24 b, rfl⟩

/-- The vote under a name and with nonces. -/
def voteEnvelope (name : UInt64) (nonces : List Nonce) : Envelope :=
  ⟨.ofUInt64 name, owner, 0, MessageType.pollVote.tag, nonces, Encoded.encode vote⟩

/-- A workspace in which nothing happened so far. -/
def fresh : Workspace := { identity := owner }

theorem fresh_works : fresh.NoncesWork := ⟨rfl, rfl⟩

theorem voteEnvelope_guarded (name : UInt64) {nonces : List Nonce} (h : nonces ≠ []) :
    (voteEnvelope name nonces).Guarded (.pollVote vote) where
  decodes := ⟨.pollVote, rfl, rfl⟩
  protects := rfl
  nonces := h

end Sample

end DeviceSync
