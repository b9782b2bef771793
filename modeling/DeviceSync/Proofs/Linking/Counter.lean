import DeviceSync.Proofs.Linking.Operators
import Mathlib.Algebra.Group.Int.Defs
import Mathlib.Algebra.Group.Nat.Defs

/-!
# The count of the operators

Handles and waits take from one count and give back to it. What is taken and given is read off the
history of a session, event by event, and the count agrees with it at every moment.

1. `SessionEvent.clones`, `drops`, `takes`, `leaves`: what an event does to the handles and to the wait.
   Over a run, handles and waits are in balance (`Run.handles_balance`, `Run.waits_balance`).
2. `SessionEvent.tally`: the count as a machine word, which wraps around. A word that starts at one stays
   the count of the session (`Run.tally`).
3. `Step.dropped`: what the drop of a handle does to the attempt.
4. `operator_count_is_exact` puts this together.
-/

namespace DeviceSync

namespace SessionEvent

def clones : SessionEvent → Bool
  | act .clone _ => true
  | _ => false

def drops : SessionEvent → Bool
  | act .drop _ => true
  | _ => false

/-- A handle starts to wait. -/
def takes : SessionEvent → Bool
  | enterWait told => told.isOk
  | _ => false

/-- The handle that waits is told the signal, or it gives up. -/
def leaves : SessionEvent → Bool
  | leaveWait _ | abandonWait => true
  | _ => false

/-- The count of the operators after an event, as a machine word. -/
def tally (n : UInt64) : SessionEvent → UInt64
  | act .clone _ | leaveWait _ | abandonWait => n + 1
  | act .drop _ | enterWait (.ok ()) => n - 1
  | _ => n

end SessionEvent

namespace SharedSession

variable {u u' : SharedSession} {e : SessionEvent} {log : List SessionEvent}

/-! ## 1. Handles and waits -/

theorem Step.handles_balance (step : Step u e u') :
    u'.handles + e.drops.toNat = u.handles + e.clones.toNat := by
  rcases step.handles_cases with ⟨rfl, -, hmore⟩ | ⟨rfl, -, hfewer⟩ | ⟨hclone, hdrop, hsame⟩
  · exact hmore
  · exact hfewer
  · cases step with
    | act a =>
      cases a with
      | clone => exact absurd rfl hclone
      | drop => exact absurd rfl hdrop
      | establish | confirm | decline | fail | cancel => rfl
    | complete | enterWait | leaveWait | abandonWait => rfl

theorem Step.waits_balance (h : u.Counted) (step : Step u e u') :
    u'.waiting.toNat + e.leaves.toNat = u.waiting.toNat + e.takes.toNat := by
  cases step with
  | act | complete => rfl
  | enterWait =>
    show (u.waiting || u.session.startWait.1.isOk).toNat + 0 =
      u.waiting.toNat + u.session.startWait.1.isOk.toNat
    cases hawaited : u.session.awaited with
    | true =>
      rw [u.session.startWait_of_awaited hawaited]
      show (u.waiting || false).toNat = u.waiting.toNat
      rw [Bool.or_false]
    | false =>
      rw [h.unawaited hawaited, Bool.false_or, Nat.add_comm]
      rfl
  | leaveWait waits | abandonWait waits =>
    rw [waits]
    rfl

theorem countP_cons_eq_toNat (p : SessionEvent → Bool) (e : SessionEvent) (log : List SessionEvent) :
    (e :: log).countP p = log.countP p + (p e).toNat := by
  rw [List.countP_cons]
  cases p e with
  | false => rfl
  | true => rfl

/-- The handles are the first one and those that were cloned, without those that were dropped. -/
theorem Run.handles_balance (run : Run u log u') :
    u'.handles + log.countP SessionEvent.drops = u.handles + log.countP SessionEvent.clones := by
  induction run with
  | done u => rfl
  | step step _ ih =>
    have hstep := step.handles_balance
    rw [countP_cons_eq_toNat, countP_cons_eq_toNat]
    omega

/-- A handle waits if it started to and has not left. -/
theorem Run.waits_balance (h : u.Counted) (run : Run u log u') :
    u'.waiting.toNat + log.countP SessionEvent.leaves =
      u.waiting.toNat + log.countP SessionEvent.takes := by
  induction run with
  | done u => rfl
  | step step _ ih =>
    have hstep := step.waits_balance h
    have hrest := ih (step.counted h)
    rw [countP_cons_eq_toNat, countP_cons_eq_toNat]
    omega

theorem Step.began_of_takes (step : Step u e u') (takes : e.takes = true) :
    u.session.awaited = false ∧ u'.session.awaited = true := by
  cases step with
  | act | complete | leaveWait | abandonWait => exact nomatch takes
  | enterWait =>
    cases hawaited : u.session.awaited with
    | true =>
      rw [u.session.startWait_of_awaited hawaited] at takes
      exact nomatch takes
    | false =>
      rw [u.session.startWait_of_unawaited hawaited]
      exact ⟨rfl, rfl⟩

/-- The wait begins once, whatever comes of it. -/
theorem Run.takes_le_one (run : Run u log u') :
    log.countP SessionEvent.takes + u.session.awaited.toNat ≤ 1 := by
  induction run with
  | done u =>
    rw [List.countP_nil, Nat.zero_add]
    exact u.session.awaited.toNat_le
  | @step u v u' e log step rest ih =>
    rw [countP_cons_eq_toNat]
    cases htakes : e.takes with
    | true =>
      obtain ⟨hunawaited, hawaited⟩ := step.began_of_takes htakes
      rw [hawaited] at ih
      rw [hunawaited]
      exact ih
    | false =>
      have hkept : u.session.awaited.toNat ≤ v.session.awaited.toNat := by
        cases hawaited : u.session.awaited with
        | true => exact Nat.le_of_eq (congrArg Bool.toNat (step.wait_began hawaited).1.symm)
        | false => exact Nat.zero_le _
      exact Nat.le_trans (Nat.add_le_add_left hkept _) ih

theorem Counted.operators_nonneg (h : u.Counted) : 0 ≤ u.session.operators := by
  have hpresent := h.present
  rw [h.operators]
  omega

/-- The count is lowered only where there is something to take. -/
theorem Step.operators_pos (h : u.Counted) (step : Step u e u')
    (lowers : e.drops = true ∨ e.takes = true) : 0 < u.session.operators := by
  cases step with
  | act a held guarded =>
    cases a with
    | drop =>
      have hguarded := guarded rfl
      rw [h.operators]
      omega
    | clone | establish | confirm | decline | fail | cancel => exact nomatch lowers
  | enterWait held =>
    have hunawaited := (Step.enterWait held).began_of_takes (lowers.resolve_left nofun)
    rw [h.operators_of_unawaited hunawaited.1]
    exact Int.natCast_pos.mpr held
  | complete | leaveWait | abandonWait => exact nomatch lowers

/-! ## 2. The count as a word -/

theorem ofInt_succ (n : Int) : UInt64.ofInt (n + 1) = UInt64.ofInt n + 1 := UInt64.ofInt_add n 1

theorem ofInt_pred (n : Int) : UInt64.ofInt (n - 1) = UInt64.ofInt n - 1 := by
  rw [Int.sub_eq_add_neg, UInt64.ofInt_add, UInt64.ofInt_neg, UInt64.ofInt_one, ← UInt64.sub_eq_add_neg]

theorem toNat_ofInt {n : Int} (nonneg : 0 ≤ n) (small : n < 2 ^ 64) : ((UInt64.ofInt n).toNat : Int) = n := by
  obtain ⟨k, rfl⟩ := Int.eq_ofNat_of_zero_le nonneg
  have hmod : (k : Int) % 2 ^ 64 = k := Int.emod_eq_of_lt nonneg small
  have hk : k < UInt64.size := by exact_mod_cast small
  rw [UInt64.ofInt, hmod, Int.toNat_natCast, UInt64.toNat_ofNat_of_lt' hk]

/-- Each event changes the word as it changes the count of the session. -/
theorem Step.tally (step : Step u e u') :
    SessionEvent.tally (UInt64.ofInt u.session.operators) e = UInt64.ofInt u'.session.operators := by
  cases step with
  | act a =>
    have hcases := a.holders_cases u.session
    cases a with
    | clone => exact (ofInt_succ _).symm
    | drop =>
      show UInt64.ofInt u.session.operators - 1 = UInt64.ofInt u.session.drop.operators
      rw [u.session.drop_holders.2, ofInt_pred]
    | establish | confirm | decline | fail | cancel =>
      obtain ⟨-, hsame⟩ := (hcases.resolve_left nofun).resolve_left nofun
      exact congrArg UInt64.ofInt hsame.operators.symm
  | complete => exact congrArg UInt64.ofInt (u.session.apply_sameHolders _).operators.symm
  | enterWait =>
    cases hawaited : u.session.awaited with
    | true =>
      rw [u.session.startWait_of_awaited hawaited]
      rfl
    | false =>
      rw [u.session.startWait_of_unawaited hawaited]
      exact (ofInt_pred _).symm
  | leaveWait => exact (ofInt_succ _).symm
  | abandonWait =>
    have hsame := u.session.fail_sameHolders (.cancelled "confirmation await cancelled")
    show UInt64.ofInt u.session.operators + 1 = UInt64.ofInt ((u.session.fail _).operators + 1)
    rw [hsame.operators, ofInt_succ]

theorem Run.tally (run : Run u log u') :
    log.foldl SessionEvent.tally (UInt64.ofInt u.session.operators) = UInt64.ofInt u'.session.operators := by
  induction run with
  | done u => rfl
  | step step _ ih =>
    rw [List.foldl_cons, step.tally]
    exact ih

/-! ## 3. What drops do -/

/-- A drop lowers the count by one. Only if that leaves no operator, and the signal is unresolved, the
attempt is cancelled; otherwise nothing happens to it. -/
theorem Step.dropped {told : Bool} (h : u.session.Consistent) (step : Step u (.act .drop told) u') :
    u'.session.operators = u.session.operators - 1 ∧
    ((u.session.operators = 1 ∧ u.session.signal = none ∧
        u'.session.RejectedWith (.cancelled "session dropped")) ∨
      (¬ (u.session.operators = 1 ∧ u.session.signal = none) ∧ u.session.Same u'.session)) := by
  generalize hevent : SessionEvent.act .drop told = e at step
  cases step with
  | act a =>
    obtain ⟨rfl, -⟩ := SessionEvent.act.inj hevent
    refine ⟨u.session.drop_holders.2, ?_⟩
    rcases u.session.drop_cases h with ⟨hundecided, hlast, hrejected⟩ | ⟨hother, hsame⟩
    · exact .inl ⟨hlast, hundecided, hrejected⟩
    · refine .inr ⟨fun hdeserted => ?_, hsame⟩
      exact hother.elim (absurd hdeserted.2) (absurd hdeserted.1)
  | complete | enterWait | leaveWait | abandonWait => exact nomatch hevent

end SharedSession

open SharedSession

/-! ## 4. The whole history -/

/-- A session is new, and anything is done on its handles. The count of the operators is the number of
the handles that were created and not dropped, less one while one of them waits. It is never lowered
from zero, so that a word which wraps around shows the same count. One wait at most ever begins. A drop
cancels the attempt exactly if it lowers the count from one to zero while the signal is unresolved, and
otherwise leaves state and signal as they are. -/
theorem operator_count_is_exact {log : List SessionEvent} {u : SharedSession} (run : Run {} log u) :
    u.session.operators = (u.handles : Int) - u.waiting.toNat ∧
    u.handles + log.countP SessionEvent.drops = 1 + log.countP SessionEvent.clones ∧
    u.waiting.toNat + log.countP SessionEvent.leaves = log.countP SessionEvent.takes ∧
    log.countP SessionEvent.takes ≤ 1 ∧
    0 ≤ u.session.operators ∧
    (u.handles < 2 ^ 64 → ((log.foldl SessionEvent.tally 1).toNat : Int) = u.session.operators) ∧
    ∀ e u', Step u e u' →
      (e.drops = true ∨ e.takes = true → 0 < u.session.operators) ∧
      ∀ told, e = .act .drop told →
        u'.session.operators = u.session.operators - 1 ∧
        ((u.session.operators = 1 ∧ u.session.signal = none ∧
            u'.session.RejectedWith (.cancelled "session dropped")) ∨
          (¬ (u.session.operators = 1 ∧ u.session.signal = none) ∧ u.session.Same u'.session)) := by
  have hnew : LinkingSession.Consistent {} := .connecting
  have hcounted := run.counted .fresh
  have hhandles : u.handles + log.countP SessionEvent.drops = 1 + log.countP SessionEvent.clones :=
    run.handles_balance
  have hwaits := run.waits_balance .fresh
  rw [show (SharedSession.waiting {}).toNat = 0 from rfl, Nat.zero_add] at hwaits
  refine ⟨hcounted.operators, hhandles, hwaits, run.takes_le_one, hcounted.operators_nonneg,
    fun hsmall => ?_, fun e u' step => ⟨step.operators_pos hcounted, ?_⟩⟩
  · have htally : log.foldl SessionEvent.tally 1 = UInt64.ofInt u.session.operators := run.tally
    rw [htally]
    refine toNat_ofInt hcounted.operators_nonneg ?_
    rw [hcounted.operators]
    omega
  · rintro told rfl
    exact step.dropped (run.consistent hnew)

/-- A task waits, and two screens hold the session. The first of them leaves, and nothing happens; the
second one leaves, and the attempt is cancelled. -/
theorem last_screen_cancels : ∃ log u u', Run {} log u ∧ log.countP SessionEvent.drops = 1 ∧
    u.handles = 2 ∧ u.session.operators = 1 ∧ u.session.signal = none ∧
    (log.foldl SessionEvent.tally 1).toNat = 1 ∧ Step u (.act .drop true) u' ∧
    u'.session.operators = 0 ∧ u'.session.RejectedWith (.cancelled "session dropped") := by
  have hscreens : Run {} _ _ :=
    .step (.act .clone Nat.one_pos nofun) <| .step (.act .clone Nat.two_pos nofun) <|
      .step (.enterWait (Nat.succ_pos 2)) <|
      .step (.act .drop (Nat.succ_pos 2) fun _ => Nat.le_succ 2) <| .done _
  obtain ⟨hoperators, -, -, -, -, -, hnext⟩ := operator_count_is_exact hscreens
  have hdrop := hnext _ _ (.act .drop Nat.two_pos fun _ => Nat.one_lt_two)
  obtain ⟨hlowered, hcancelled | ⟨hother, -⟩⟩ := hdrop.2 true rfl
  · exact ⟨_, _, _, hscreens, rfl, rfl, hoperators, rfl, rfl,
      .act .drop Nat.two_pos fun _ => Nat.one_lt_two, hlowered, hcancelled.2.2⟩
  · exact absurd ⟨rfl, rfl⟩ hother

end DeviceSync
