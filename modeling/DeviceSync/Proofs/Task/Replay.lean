import DeviceSync.Proofs.Task.Attempt

/-!
# Protection against replay

Attempts at reflected messages follow one another on one workspace. Between them anything may happen
that does not concern the nonces: a service is about to fail, a send is about to fail, a message
becomes known.

The invariant is that a recorded nonce stays recorded (`attempt_keeps_known`): an attempt releases
nonces only where it recorded them itself, and it recorded them only if the store knew none of them.
From it follows `applied_message_stays_applied`: once a guarded message took effect, its nonces are
there at every later moment, and whatever shares a nonce with it is a duplicate.
-/

namespace DeviceSync

open Procedure

/-- `Later me w v`: attempts on behalf of `me` lead from `w` to `v`, and between them anything may
have happened beside the nonces. -/
inductive Later (me : Identity) (w : Workspace) : Workspace → Prop
  | now : Later me w w
  | attempt {v : Workspace} (f : Envelope) : Later me w v → Later me w ((f.attempt me).run v).2
  /-- Services and connection may be any others, with any faults laid down in them. -/
  | meanwhile {v v' : Workspace} : Later me w v → v'.nonces = v.nonces → v'.NoncesWork →
      Later me w v'

/-- An attempt at the guarded message in this workspace records its nonces, and applying it
succeeds. -/
structure Envelope.Applies (e : Envelope) (me : Identity) (p : Payload) (w : Workspace) : Prop where
  guarded : e.Guarded p
  recorded : (w.recordNonces me e.nonces).1 = .ok true
  applied : ∃ outcome, ((e.apply me p).run (w.recordNonces me e.nonces).2).1 = .ok outcome

namespace ReplayLemmas

variable {e f : Envelope} {p q : Payload} {me scope : Identity} {n : Nonce} {w v : Workspace}

/-- A step of a run: no moment of an attempt lacks a nonce that was recorded before it. -/
theorem attempt_keeps_known (works : w.NoncesWork) (known : w.nonces.contains scope n = true) :
    Throughout Call.effect (fun v => v.nonces.contains scope n = true) (f.attempt me) w := by
  refine Envelope.attempt_throughout (fun v v' hv hknown => ?_) ?_
  · rw [show v'.nonces = v.nonces from congrArg (·.nonces) hv]
    exact hknown
  have happly : ∀ (q : Payload) (w' : Workspace), w'.nonces.contains scope n = true →
      Throughout Call.effect (fun v => v.nonces.contains scope n = true) (f.apply me q) w' := by
    intro q w' hw'
    refine (f.apply_beside me q w').imp fun v hv => ?_
    rw [show v.nonces = w'.nonces from congrArg (·.nonces) hv]
    exact hw'
  rcases f.handle_cases me with ⟨cause, -, hskip⟩ | ⟨q, -, -, hplain⟩ | ⟨q, hq⟩
  · rw [hskip]
    exact throughout_done.mpr known
  · rw [hplain]
    exact happly q w known
  · rcases w.nonces.known_or_fresh me f.nonces with hknown | fresh
    · refine (Envelope.handle_guarded_of_known hq works hknown).2.imp fun v hv => ?_
      rw [hv]
      exact known
    -- What is released at the end was recorded by this attempt, and the rest of the store is as
    -- it was.
    · refine (Envelope.handle_guarded_of_fresh hq works fresh).2 _ known ?_
      refine Envelope.applyOrRelease_throughout hq.protects works fresh ?_ fun _ _ _ => known
      exact happly q _ (NonceStore.contains_extend known)

/-- The run: what was recorded stays recorded, and the store goes on working. -/
theorem later_keeps_known (later : Later me w v) (works : w.NoncesWork)
    (known : w.nonces.contains scope n = true) : v.NoncesWork ∧ v.nonces.contains scope n = true := by
  induction later with
  | now => exact ⟨works, known⟩
  | attempt f _ ih =>
    exact ⟨Work.run_of_throughout (Work.throughout_noncesWork _ ih.1),
      Work.run_of_throughout (attempt_keeps_known ih.1 ih.2)⟩
  | meanwhile _ hnonces hworks ih => exact ⟨hworks, hnonces ▸ ih.2⟩

/-- A message that takes effect has no nonce that was recorded before. -/
theorem fresh_of_applies (works : w.NoncesWork) (applies : e.Applies me p w) :
    ∀ n ∈ e.nonces, w.nonces.contains me n = false := by
  have hinsert : (w.nonces.insertAll me e.nonces).1 = true := by
    have hrecorded := applies.recorded
    rw [Workspace.recordNonces_of_work works] at hrecorded
    exact Except.ok.inj hrecorded
  rcases w.nonces.known_or_fresh me e.nonces with hknown | fresh
  · rw [NonceStore.insertAll_of_known hknown] at hinsert
    exact absurd hinsert Bool.false_ne_true
  · exact fresh

/-- The end of an attempt leaves the nonces alone. -/
theorem nonces_of_attempt (e : Envelope) (me : Identity) (w : Workspace) :
    ((e.attempt me).run w).2.nonces = ((e.handle me).run w).2.nonces := by
  have hfinish := Work.run_of_throughout
    (e.finish_beside ((e.handle me).run w).1 ((e.handle me).run w).2)
  rw [Envelope.attempt_eq, Work.run_bind]
  exact congrArg (·.nonces) hfinish

/-- After a message took effect, its nonces are recorded on top of the others. -/
theorem nonces_of_applies (works : w.NoncesWork) (applies : e.Applies me p w) :
    ((e.handle me).run w).2.nonces = w.nonces.extend (Nonce.hashes me e.nonces) := by
  have fresh := fresh_of_applies works applies
  obtain ⟨outcome, happly⟩ := applies.applied
  rw [Workspace.recordNonces_of_fresh works fresh] at happly
  have hbeside := Work.run_of_throughout (e.apply_beside me p (w.recorded me e.nonces))
  rw [(Envelope.handle_guarded_of_fresh applies.guarded works fresh).1,
    Envelope.applyOrRelease_recorded applies.guarded.protects works fresh]
  generalize (e.apply me p).run (w.recorded me e.nonces) = r at happly hbeside ⊢
  obtain ⟨result, v⟩ := r
  obtain rfl : result = .ok outcome := happly
  exact congrArg (·.nonces) hbeside

theorem known_of_applies (works : w.NoncesWork) (applies : e.Applies me p w) (hn : n ∈ e.nonces) :
    ((e.attempt me).run w).2.nonces.contains me n = true := by
  rw [nonces_of_attempt, nonces_of_applies works applies]
  exact NonceStore.contains_extend_hashes hn

/-- An attempt at a guarded message with a known nonce is its acknowledgement and nothing else. -/
theorem attempt_of_known (hf : f.Guarded q) (works : w.NoncesWork)
    (known : ∃ n ∈ f.nonces, w.nonces.contains me n = true) :
    Throughout Call.effect (fun v => v.services = w.services) (f.attempt me) w ∧
    ((f.attempt me).run w).1 =
      ((w.connection.send f.acknowledgement).1.mapError .ofTransport).map fun () => .duplicate := by
  obtain ⟨hrun, hsame⟩ := Envelope.handle_guarded_of_known hf works known
  constructor
  · refine Envelope.attempt_throughout (fun v v' hv hservices => ?_) (hsame.imp fun v hv => hv ▸ rfl)
    rw [show v'.services = v.services from congrArg (·.services) hv]
    exact hservices
  · rw [Envelope.attempt_eq, Work.run_bind, hrun]
    rfl

end ReplayLemmas

open ReplayLemmas

/-- Once a guarded message took effect, it stays so. However attempts at any messages follow, and
whatever fails in them beside the nonce store:

* at no moment of a later attempt is one of its nonces missing;
* a later attempt at a guarded message that shares a nonce with it changes no service at any moment,
  and ends as a duplicate or, if the acknowledgement could not be sent, with that fault. -/
theorem applied_message_stays_applied {e : Envelope} {me : Identity} {p : Payload} {w v : Workspace}
    (works : w.NoncesWork) (applies : e.Applies me p w)
    (later : Later me ((e.attempt me).run w).2 v) (f : Envelope) :
    Throughout Call.effect (fun v' => ∀ n ∈ e.nonces, v'.nonces.contains me n = true)
      (f.attempt me) v ∧
    ∀ q, f.Guarded q → (∃ n ∈ f.nonces, n ∈ e.nonces) →
      Throughout Call.effect (fun v' => v'.services = v.services) (f.attempt me) v ∧
      (((f.attempt me).run v).1 = .ok .duplicate ∨
        ∃ fault, (v.connection.send f.acknowledgement).1 = .error fault ∧
          ((f.attempt me).run v).1 = .error (.ofTransport fault)) := by
  have hafter : ((e.attempt me).run w).2.NoncesWork :=
    Work.run_of_throughout (Work.throughout_noncesWork _ works)
  have hknown : ∀ n ∈ e.nonces, v.NoncesWork ∧ v.nonces.contains me n = true := fun n hn =>
    later_keeps_known later hafter (known_of_applies works applies hn)
  constructor
  · intro v' hv' n hn
    obtain ⟨hworks, hcontains⟩ := hknown n hn
    exact attempt_keeps_known hworks hcontains v' hv'
  · intro q hq hshared
    obtain ⟨n, hf, he⟩ := hshared
    obtain ⟨hworks, hcontains⟩ := hknown n he
    have hrecorded : ∃ n ∈ f.nonces, v.nonces.contains me n = true := ⟨n, hf, hcontains⟩
    obtain ⟨hservices, hresult⟩ := attempt_of_known hq hworks hrecorded
    refine ⟨hservices, ?_⟩
    rw [hresult]
    cases (v.connection.send f.acknowledgement).1 with
    | ok _ => exact .inl rfl
    | error fault => exact .inr ⟨fault, rfl, rfl⟩

theorem Sample.voteEnvelope_applies (name : UInt64) :
    (voteEnvelope name [nonce 0]).Applies owner (.pollVote vote) fresh where
  guarded := voteEnvelope_guarded name (List.cons_ne_nil _ _)
  recorded := rfl
  applied := ⟨.completed, rfl⟩

open Sample in
/-- A vote was cast; another message comes with its nonce, and the service is about to fail. -/
theorem cast_vote_stays_cast :
    let w : Workspace := ((voteEnvelope 1 [nonce 0]).attempt owner).run fresh |>.2
    let v : Workspace := { w with services := w.services.interfere (some (.failed "disk")) }
    let f := voteEnvelope 2 [nonce 1, nonce 0]
    Throughout Call.effect (fun v' => v'.services = v.services) (f.attempt owner) v ∧
      ((f.attempt owner).run v).1 = .ok .duplicate := by
  intro w v f
  have hlater : Later owner w v :=
    .meanwhile .now rfl (Work.run_of_throughout (Work.throughout_noncesWork _ fresh_works))
  have hshared : ∃ n ∈ f.nonces, n ∈ (voteEnvelope 1 [nonce 0]).nonces :=
    ⟨nonce 0, List.mem_cons_of_mem _ (List.mem_singleton.mpr rfl), List.mem_singleton.mpr rfl⟩
  obtain ⟨-, hreplay⟩ :=
    applied_message_stays_applied fresh_works (voteEnvelope_applies 1) hlater f
  obtain ⟨hservices, hduplicate | ⟨fault, hfault, -⟩⟩ :=
    hreplay _ (voteEnvelope_guarded 2 (List.cons_ne_nil _ _)) hshared
  · exact ⟨hservices, hduplicate⟩
  · have hsent : (v.connection.send f.acknowledgement).1 = .ok () := rfl
    rw [hsent] at hfault
    exact nomatch hfault

end DeviceSync
