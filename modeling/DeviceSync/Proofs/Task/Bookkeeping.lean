import DeviceSync.Proofs.Store.NonceCalls
import DeviceSync.Proofs.Task.Replay

/-!
# The nonces of one attempt

Nonces are recorded before the effect, and are released again where the effect fails. So an attempt
leaves the store in one of two states: with the nonces of the message in it, or as it was.

1. `Envelope.TakesEffect`: when the nonces stay. It is `Envelope.Applies` in terms of what the store
   holds (`Envelope.takesEffect_iff_applies`).
2. `nonces_of_handle`: in every other case handling ends with the store from before. A message that is
   not guarded never asks the store, one with a known nonce is refused as a whole, and what is released
   is what was recorded just before.
3. `attempt_keeps_exact_books`: the nonces and the frames after an attempt, whatever the services and
   the connection did.
-/

namespace DeviceSync

open Procedure

/-! ## 1. When nonces stay -/

/-- The message is guarded, none of its nonces was recorded before, and applying it succeeds. -/
structure Envelope.TakesEffect (e : Envelope) (me : Identity) (p : Payload) (w : Workspace) : Prop where
  guarded : e.Guarded p
  fresh : ∀ n ∈ e.nonces, w.nonces.contains me n = false
  applied : ∃ outcome, ((e.apply me p).run (w.recorded me e.nonces)).1 = .ok outcome

variable {e : Envelope} {p : Payload} {me : Identity} {w w' : Workspace}

theorem Envelope.takesEffect_iff_applies (works : w.NoncesWork) :
    e.TakesEffect me p w ↔ e.Applies me p w := by
  constructor
  · rintro ⟨guarded, fresh, applied⟩
    have hrecord := Workspace.recordNonces_of_fresh works fresh
    refine ⟨guarded, congrArg Prod.fst hrecord, ?_⟩
    rwa [hrecord]
  · intro applies
    have fresh := ReplayLemmas.fresh_of_applies works applies
    have applied := applies.applied
    rw [Workspace.recordNonces_of_fresh works fresh] at applied
    exact ⟨applies.guarded, fresh, applied⟩

/-! ## 2. When they do not -/

namespace BookkeepingLemmas

/-- Applying a message leaves the nonces alone. -/
theorem nonces_of_apply (e : Envelope) (me : Identity) (p : Payload) (w : Workspace) :
    ((e.apply me p).run w).2.nonces = w.nonces := by
  have hbeside := Work.run_of_throughout (e.apply_beside me p w)
  exact congrArg (·.nonces) hbeside

/-- A message that takes no effect leaves the nonces as they were. -/
theorem nonces_of_handle (works : w.NoncesWork) (without : ∀ p, ¬ e.TakesEffect me p w) :
    ((e.handle me).run w).2.nonces = w.nonces := by
  rcases e.handle_cases me with ⟨cause, -, hskip⟩ | ⟨p, -, -, hplain⟩ | ⟨p, guarded⟩
  · rw [hskip]
    rfl
  · rw [hplain]
    exact nonces_of_apply e me p w
  rcases w.nonces.known_or_fresh me e.nonces with known | fresh
  · rw [(Envelope.handle_guarded_of_known guarded works known).1]
  -- Its nonces are recorded, and stay only if it is applied, which is excluded here.
  · rw [(Envelope.handle_guarded_of_fresh guarded works fresh).1,
      Envelope.applyOrRelease_recorded guarded.protects works fresh]
    cases happly : (e.apply me p).run (w.recorded me e.nonces) with
    | mk applied v =>
      cases applied with
      | error err => rfl
      | ok outcome => exact absurd ⟨guarded, fresh, outcome, congrArg Prod.fst happly⟩ (without p)

/-! ## 3. Frames -/

theorem sent_of_send (c : Connection) (frame : Bytes) :
    (c.send frame).2.sent = c.sent ++ if (c.send frame).1.isOk then [frame] else [] := by
  have hdelay : c.nextDelay.2.sent = c.sent := by
    unfold Connection.nextDelay
    split <;> rfl
  rw [Connection.send, ← hdelay, Connection.deliver]
  split
  · exact (List.append_nil _).symm
  · split
    · exact (List.append_nil _).symm
    · rfl

/-- A frame arrives where an attempt succeeds, and only there. -/
theorem sent_of_attempt (e : Envelope) (me : Identity) (w : Workspace) :
    ((e.attempt me).run w).2.connection.sent =
      w.connection.sent ++ if ((e.attempt me).run w).1.isOk then [e.acknowledgement] else [] := by
  rw [Envelope.attempt_eq, Work.run_bind, ← e.handle_connection me w]
  generalize (e.handle me).run w = r
  obtain ⟨handled, v⟩ := r
  cases handled with
  | error err => exact (List.append_nil _).symm
  | ok outcome =>
    have hsent := sent_of_send v.connection e.acknowledgement
    simp only [Envelope.finish, Work.run_bind, Work.run_send, Work.run_done]
    rw [hsent]
    cases (v.connection.send e.acknowledgement).1 with
    | error fault => rfl
    | ok _ => rfl

end BookkeepingLemmas

open BookkeepingLemmas

/-- The store of nonces works, and the services and the connection fail as they like. Where a message
takes effect, an attempt adds its nonces to those that are recorded, also if the acknowledgement is
then not sent; in every other case it leaves the store as it was. A frame arrives, the acknowledgement
of the message, exactly if the attempt succeeds. -/
theorem attempt_keeps_exact_books {result : Except TaskError Outcome} (works : w.NoncesWork)
    (run : (e.attempt me).run w = (result, w')) :
    (∀ p, e.TakesEffect me p w →
      w'.nonces.hashes.toFinset = w.nonces.hashes.toFinset ∪ NonceCall.batch me e.nonces) ∧
    ((∀ p, ¬ e.TakesEffect me p w) → w'.nonces = w.nonces) ∧
    w'.connection.sent = w.connection.sent ++ if result.isOk then [e.acknowledgement] else [] := by
  have hnonces := ReplayLemmas.nonces_of_attempt e me w
  have hsent := sent_of_attempt e me w
  rw [run] at hnonces hsent
  refine ⟨fun p takes => ?_, fun without => hnonces.trans (nonces_of_handle works without), hsent⟩
  have applies := (Envelope.takesEffect_iff_applies works).mp takes
  rw [hnonces, ReplayLemmas.nonces_of_applies works applies, NonceStore.hashes_extend,
    List.toFinset_append, Nonce.toFinset_hashes]

namespace Sample

/-- A workspace in which the acknowledgement fails. -/
def failingSend : Workspace := { fresh with connection := { failingSends := 1 } }

theorem voteEnvelope_takesEffect :
    (voteEnvelope 1 [nonce 0]).TakesEffect owner (.pollVote vote) failingSend where
  guarded := voteEnvelope_guarded 1 (List.cons_ne_nil _ _)
  fresh _ _ := rfl
  applied := ⟨.completed, rfl⟩

end Sample

open Sample in
/-- The vote is cast and its nonce is recorded, although no acknowledgement was sent. -/
theorem cast_vote_keeps_nonce : ∃ text w',
    ((voteEnvelope 1 [nonce 0]).attempt owner).run failingSend = (.error (.transient text), w') ∧
    w'.nonces.hashes.toFinset = NonceCall.batch owner [nonce 0] ∧ w'.connection.sent = [] := by
  have works : failingSend.NoncesWork := fresh_works
  have hrun : ((voteEnvelope 1 [nonce 0]).attempt owner).run failingSend = (_, _) := rfl
  obtain ⟨hrecorded, -, hsent⟩ := attempt_keeps_exact_books works hrun
  refine ⟨_, _, hrun, ?_, hsent⟩
  rw [hrecorded _ voteEnvelope_takesEffect]
  exact Finset.empty_union _

end DeviceSync
