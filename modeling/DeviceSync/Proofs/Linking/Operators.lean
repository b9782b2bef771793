import DeviceSync.Proofs.Linking.Handles

/-!
# A handle that waits, and the others

The handle that waits for the signal is not an operator's. The others may confirm, decline, let the
attempt fail, or leave: when the last of them is dropped, the session is cancelled for the one who
waits. It is cancelled by that drop and not by the lack of others: a handle that is left alone before
it starts to wait has nobody to release it.

1. `SharedSession.Counted`: the operators are the handles that do not wait. Every step keeps this.
2. `SignalChange`: how a step may change the signal, said once for all events.
3. The signal before a handle waits (`Run.unresolved_before`), and while it does
   (`Run.unresolved_meanwhile`).
4. `waiter_without_operators` tells exactly when a handle that waits alone is released.
-/

namespace DeviceSync

/-- The event settles an attempt that nothing has settled: the operator's decision was taken, or the
attempt was made to fail. -/
def SessionEvent.settles : SessionEvent → Bool
  | act .confirm told | act .decline told => told
  | act (.fail _) _ | act (.cancel _) _ | abandonWait => true
  | _ => false

/-- Only cloning and dropping are acts that change anything for those who hold the session. -/
theorem SessionAct.holders_cases (a : SessionAct) (s : LinkingSession) :
    a = .clone ∨ a = .drop ∨ (a.handles = id ∧ s.SameHolders (a.perform s).2) := by
  cases a with
  | clone => exact .inl rfl
  | drop => exact .inr (.inl rfl)
  | establish path => exact .inr (.inr ⟨rfl, s.apply_sameHolders _⟩)
  | confirm => exact .inr (.inr ⟨rfl, s.apply_sameHolders _⟩)
  | decline => exact .inr (.inr ⟨rfl, s.decline_sameHolders⟩)
  | fail cause => exact .inr (.inr ⟨rfl, s.fail_sameHolders cause⟩)
  | cancel reason => exact .inr (.inr ⟨rfl, s.fail_sameHolders _⟩)

namespace SharedSession

/-! ## 1. Counting -/

/-- The operators are the handles that do not wait, and who waits holds a handle. -/
structure Counted (u : SharedSession) : Prop where
  operators : u.session.operators = (u.handles : Int) - u.waiting.toNat
  present : u.waiting.toNat ≤ u.handles
  awaited : u.waiting = true → u.session.awaited = true

variable {u v u' : SharedSession} {e : SessionEvent} {log before after : List SessionEvent}

theorem Counted.fresh : Counted {} := ⟨rfl, Nat.zero_le 1, nofun⟩

theorem Counted.unawaited (h : u.Counted) (unawaited : u.session.awaited = false) :
    u.waiting = false :=
  Bool.eq_false_iff.mpr fun hwaits => nomatch unawaited.symm.trans (h.awaited hwaits)

theorem Counted.operators_of_unawaited (h : u.Counted) (unawaited : u.session.awaited = false) :
    u.session.operators = u.handles := by
  rw [h.operators, h.unawaited unawaited]
  exact Int.sub_zero _

theorem Counted.operators_of_waiting (h : u.Counted) (waits : u.waiting = true) :
    u.session.operators = u.handles - 1 := by
  rw [h.operators, waits]
  rfl

/-- Nothing is different for those who hold the session. -/
theorem Counted.same {s : LinkingSession} (h : u.Counted) (same : u.session.SameHolders s) :
    Counted { u with session := s } :=
  ⟨same.operators.trans h.operators, h.present, fun hwaits => same.awaited.trans (h.awaited hwaits)⟩

theorem Step.counted (h : u.Counted) (step : Step u e u') : u'.Counted := by
  cases step with
  | act a held guarded =>
    rcases a.holders_cases u.session with rfl | rfl | ⟨hhandles, hsame⟩
    · refine ⟨?_, Nat.le_succ_of_le h.present, h.awaited⟩
      show u.session.operators + 1 = ((u.handles + 1 : Nat) : Int) - u.waiting.toNat
      rw [h.operators]
      omega
    · obtain ⟨hawaited, hoperators⟩ := u.session.drop_holders
      have hguarded := guarded rfl
      refine ⟨?_, Nat.le_sub_one_of_lt hguarded, fun hwaits => hawaited.trans (h.awaited hwaits)⟩
      show u.session.drop.operators = ((u.handles - 1 : Nat) : Int) - u.waiting.toNat
      rw [hoperators, h.operators]
      omega
    · rw [hhandles]
      exact h.same hsame
  | complete => exact h.same (u.session.apply_sameHolders _)
  | enterWait held =>
    cases hawaited : u.session.awaited with
    | true =>
      rw [u.session.startWait_of_awaited hawaited]
      show Counted { u with session := u.session, waiting := u.waiting || false }
      rw [Bool.or_false]
      exact h
    | false =>
      rw [u.session.startWait_of_unawaited hawaited]
      refine ⟨?_, ?_, fun _ => rfl⟩
      · show u.session.operators - 1 = (u.handles : Int) - (u.waiting || true).toNat
        rw [h.operators_of_unawaited hawaited, Bool.or_true]
        rfl
      · show (u.waiting || true).toNat ≤ u.handles
        rw [Bool.or_true]
        exact held
  | leaveWait waits =>
    refine ⟨?_, Nat.zero_le _, nofun⟩
    show u.session.operators + 1 = (u.handles : Int) - 0
    rw [h.operators_of_waiting waits]
    omega
  | abandonWait waits =>
    have hsame := u.session.fail_sameHolders (.cancelled "confirmation await cancelled")
    refine ⟨?_, Nat.zero_le _, nofun⟩
    show (u.session.fail _).operators + 1 = (u.handles : Int) - 0
    rw [hsame.operators, h.operators_of_waiting waits]
    omega

theorem Run.counted (h : u.Counted) (run : Run u log u') : u'.Counted := by
  induction run with
  | done u => exact h
  | step step _ ih => exact ih (step.counted h)

/-- The handles after a step. -/
theorem Step.handles_cases (step : Step u e u') :
    (e = .act .clone true ∧ 0 < u.handles ∧ u'.handles = u.handles + 1) ∨
    (e = .act .drop true ∧ u.waiting.toNat < u.handles ∧ u'.handles + 1 = u.handles) ∨
    (e ≠ .act .clone true ∧ e ≠ .act .drop true ∧ u'.handles = u.handles) := by
  cases step with
  | act a held guarded =>
    cases a with
    | clone => exact .inl ⟨rfl, held, rfl⟩
    | drop => exact .inr (.inl ⟨rfl, guarded rfl, Nat.sub_add_cancel held⟩)
    | establish | confirm | decline | fail | cancel => exact .inr (.inr ⟨nofun, nofun, rfl⟩)
  | complete | enterWait | leaveWait | abandonWait => exact .inr (.inr ⟨nofun, nofun, rfl⟩)

/-- Without handles nothing is done any more. -/
theorem Run.deserted (run : Run u log u') (deserted : u.handles = 0) (unwaiting : u.waiting = false) :
    u' = u := by
  cases run with
  | done => rfl
  | step step =>
    cases step with
    | act _ held | complete held | enterWait held => exact absurd deserted (Nat.ne_of_gt held)
    | leaveWait waits | abandonWait waits => exact nomatch unwaiting.symm.trans waits

/-! ### The one wait -/

/-- Once the wait has begun, it does not begin again. -/
theorem Step.wait_began (step : Step u e u') (began : u.session.awaited = true) :
    u'.session.awaited = true ∧ (u'.waiting = true → u.waiting = true) := by
  cases step with
  | act a =>
    refine ⟨?_, id⟩
    rcases a.holders_cases u.session with rfl | rfl | ⟨-, hsame⟩
    · exact began
    · exact u.session.drop_holders.1.trans began
    · exact hsame.awaited.trans began
  | complete => exact ⟨(u.session.apply_sameHolders _).awaited.trans began, id⟩
  | enterWait =>
    rw [u.session.startWait_of_awaited began]
    refine ⟨began, fun hwaits => ?_⟩
    rwa [show (Except.error _ : Confirmation).isOk = false from rfl, Bool.or_false] at hwaits
  | leaveWait => exact ⟨began, nofun⟩
  | abandonWait => exact ⟨(u.session.fail_sameHolders _).awaited.trans began, nofun⟩

theorem Run.wait_began (run : Run u log u') (began : u.session.awaited = true) :
    u'.session.awaited = true ∧ (u'.waiting = true → u.waiting = true) := by
  induction run with
  | done u => exact ⟨began, id⟩
  | step step _ ih =>
    obtain ⟨hbegan, hwaits⟩ := step.wait_began began
    exact ⟨(ih hbegan).1, fun h => hwaits ((ih hbegan).2 h)⟩

/-- A step that lets a handle wait is the beginning of the wait. -/
theorem Step.begins (step : Step u e u') (before : u.waiting = false)
    (after : u'.waiting = true) : e = .enterWait (.ok ()) ∧ u.session.awaited = false := by
  have hunawaited : u.session.awaited = false :=
    Bool.eq_false_iff.mpr fun hawaited =>
      nomatch before.symm.trans ((step.wait_began hawaited).2 after)
  refine ⟨?_, hunawaited⟩
  cases step with
  | act | complete => exact nomatch before.symm.trans after
  | enterWait => rw [u.session.startWait_of_unawaited hunawaited]
  | leaveWait | abandonWait => exact nomatch after

/-- Whoever waits started to, at one moment of what happened. -/
theorem Run.began (h : u.Counted) (run : Run u log u') (before : u.waiting = false)
    (after : u'.waiting = true) :
    ∃ early late v v', log = early ++ .enterWait (.ok ()) :: late ∧ v.session.awaited = false ∧
      Run u early v ∧ Step v (.enterWait (.ok ())) v' ∧ v'.waiting = true ∧ Run v' late u' := by
  induction run with
  | done u => exact nomatch before.symm.trans after
  | @step u w u' e log step rest ih =>
    cases hw : w.waiting with
    | true =>
      obtain ⟨rfl, hunawaited⟩ := step.begins before hw
      exact ⟨[], log, u, w, rfl, hunawaited, .done u, step, hw, rest⟩
    | false =>
      obtain ⟨early, late, v, v', rfl, hunawaited, hearly, hbegins, hwaits, hlate⟩ :=
        ih (step.counted h) hw after
      exact ⟨e :: early, late, v, v', rfl, hunawaited, .step step hearly, hbegins, hwaits, hlate⟩

/-! ## 2. The signal, step by step -/

/-- How an event may change the signal. -/
inductive SignalChange (u : SharedSession) (e : SessionEvent) (u' : SharedSession) : Prop
  | settled : e.settles = true → u'.session.signal ≠ none → SignalChange u e u'
  /-- The last operator left. -/
  | deserted : e = .act .drop true → u.session.signal = none → u.session.operators = 1 →
      u'.session.signal = some (.error (.cancelled "session dropped")) → SignalChange u e u'
  | kept : e.settles = false →
      (e = .act .drop true → u.session.signal = none → u.session.operators ≠ 1) →
      u'.session.signal = u.session.signal → SignalChange u e u'

theorem signal_of_fail {s : LinkingSession} (h : s.Consistent) (cause : LinkingError) :
    (s.fail cause).signal ≠ none := by
  rcases s.fail_cases h cause with ⟨-, hrejected⟩ | ⟨-, -, hsignal⟩ | ⟨hterminal, hsame⟩
  · rw [hrejected.signal]; exact nofun
  · rw [hsignal]; exact nofun
  · rw [hsame.signal]; exact h.signal_of_terminal hterminal

theorem Step.change (h : u.session.Consistent) (step : Step u e u') : SignalChange u e u' := by
  cases step with
  | act a =>
    cases a with
    | clone => exact .kept rfl nofun rfl
    | drop =>
      rcases u.session.drop_cases h with ⟨hundecided, hlast, hrejected⟩ | ⟨hother, hsame⟩
      · exact .deserted rfl hundecided hlast hrejected.signal
      · exact .kept rfl (fun _ hundecided => hother.resolve_left (absurd hundecided)) hsame.signal
    | establish path =>
      refine .kept rfl nofun ?_
      rcases u.session.establish_cases h path with ⟨hconnecting, -, hsignal⟩ | ⟨-, hsame⟩
      · exact hsignal.trans (h.signal_eq_none_iff.mpr (.inl hconnecting)).symm
      · exact hsame.signal
    | confirm =>
      rcases u.session.confirm_cases h with ⟨-, -, htold, -, hsignal⟩ | ⟨htold, hsame⟩
      · refine .settled htold ?_
        show u.session.confirm.2.signal ≠ none
        rw [hsignal]
        exact nofun
      · exact .kept htold nofun hsame.signal
    | decline =>
      rcases u.session.decline_cases h with ⟨path, -, htold, hrejected⟩ | ⟨htold, hsame⟩
      · refine .settled htold ?_
        show u.session.decline.2.signal ≠ none
        rw [hrejected.signal]
        exact nofun
      · exact .kept htold nofun hsame.signal
    | fail cause => exact .settled rfl (signal_of_fail h cause)
    | cancel reason => exact .settled rfl (signal_of_fail h _)
  | complete =>
    refine .kept rfl nofun ?_
    rcases u.session.complete_cases h with ⟨hconfirmed, -, -, hsignal⟩ | ⟨-, -, hsame⟩
    · exact hsignal.trans (h.signal_of_confirmed hconfirmed).symm
    · exact hsame.signal
  | enterWait => exact .kept rfl nofun u.session.startWait_same.signal
  | leaveWait => exact .kept rfl nofun rfl
  | abandonWait => exact .settled rfl (signal_of_fail h _)

/-- The signal is unresolved after a step if it was, if the event settles nothing, and if it is not
the last operator who leaves. -/
theorem Step.unresolved_iff (h : u.session.Consistent) (step : Step u e u') :
    u'.session.signal = none ↔ u.session.signal = none ∧ e.settles = false ∧
      (e = .act .drop true → u.session.operators ≠ 1) := by
  constructor
  · intro hafter
    cases step.change h with
    | settled hsettles hresolved => exact absurd hafter hresolved
    | deserted _ _ _ hresolved => exact nomatch hresolved.symm.trans hafter
    | kept hquiet hother hsame =>
      have hbefore := hsame.symm.trans hafter
      exact ⟨hbefore, hquiet, fun hdrop => hother hdrop hbefore⟩
  · rintro ⟨hbefore, hquiet, hother⟩
    cases step.change h with
    | settled hsettles => exact nomatch hquiet.symm.trans hsettles
    | deserted hdrop _ hlast => exact absurd hlast (hother hdrop)
    | kept _ _ hsame => exact hsame.trans hbefore

/-! ## 3. The signal, run by run -/

/-- Before a handle waits, only what settles the attempt resolves the signal: with the last handle
the session would be gone. -/
theorem Run.unresolved_before (consistent : u.session.Consistent) (counted : u.Counted)
    (run : Run u before v) (unawaited : v.session.awaited = false) (held : 0 < v.handles) :
    v.session.signal = none ↔ u.session.signal = none ∧ ∀ e ∈ before, e.settles = false := by
  induction run with
  | done u => simp
  | @step u w v e before step rest ih =>
    have hunawaited {w' : SharedSession} {log : List SessionEvent} (run : Run w' log v) :
        w'.session.awaited = false :=
      Bool.eq_false_iff.mpr fun hawaited => nomatch unawaited.symm.trans (run.wait_began hawaited).1
    have hother : e = .act .drop true → u.session.operators ≠ 1 := by
      rintro rfl hlast
      have hnobody : w.handles = 0 := by
        have hone := counted.operators_of_unawaited (hunawaited (.step step rest))
        rcases step.handles_cases with ⟨hclone, -⟩ | ⟨-, -, hfewer⟩ | ⟨-, hdrop, -⟩
        · exact nomatch hclone
        · omega
        · exact absurd rfl hdrop
      have hgone := rest.deserted hnobody ((step.counted counted).unawaited (hunawaited rest))
      exact absurd held (by rw [hgone, hnobody]; exact Nat.lt_irrefl 0)
    rw [ih ((step.turn consistent).consistent consistent) (step.counted counted) unawaited held,
      step.unresolved_iff consistent, List.forall_mem_cons, and_assoc, and_assoc]
    exact and_congr_right fun _ => and_congr_right fun _ => and_iff_right hother

/-- While a handle waits, and until it is the only one, the signal stays unresolved if there was no
other one from the beginning and nobody settles the attempt. -/
theorem Run.unresolved_meanwhile (consistent : u.session.Consistent) (counted : u.Counted)
    (run : Run u after u') (began : u.session.awaited = true) (waits : u'.waiting = true)
    (alone : u'.handles = 1) :
    u'.session.signal = none ↔ u.session.signal = none ∧ u.handles = 1 ∧
      .act .clone true ∉ after ∧ ∀ e ∈ after, e.settles = false := by
  induction run with
  | done u => simp [alone]
  | @step u w u' e after step rest ih =>
    have hwaits : u.waiting = true := (Run.step step rest).wait_began began |>.2 waits
    have hoperators := counted.operators_of_waiting hwaits
    rw [ih ((step.turn consistent).consistent consistent) (step.counted counted)
      (step.wait_began began).1 waits alone, step.unresolved_iff consistent, List.forall_mem_cons,
      List.mem_cons, not_or]
    rcases step.handles_cases with
        ⟨rfl, hheld, hmore⟩ | ⟨rfl, hguarded, hfewer⟩ | ⟨hclone, hdrop, hsame⟩
    · -- Another handle comes, so it has to go again, and somebody is the last.
      constructor
      · rintro ⟨-, hone, -⟩
        omega
      · rintro ⟨-, -, ⟨hclone, -⟩, -⟩
        exact absurd rfl hclone
    · rw [hwaits] at hguarded
      constructor
      · rintro ⟨⟨-, -, hother⟩, hone, -⟩
        exact absurd (by omega) (hother rfl)
      · rintro ⟨-, hone, -⟩
        exact absurd hguarded (by rw [hone]; exact Nat.lt_irrefl 1)
    · rw [hsame]
      constructor
      · rintro ⟨⟨hnone, hquiet, -⟩, hone, hclones, hrest⟩
        exact ⟨hnone, hone, ⟨Ne.symm hclone, hclones⟩, hquiet, hrest⟩
      · rintro ⟨hnone, hone, ⟨-, hclones⟩, hquiet, hrest⟩
        exact ⟨⟨hnone, hquiet, fun h => absurd h hdrop⟩, hone, hclones, hrest⟩

theorem Run.signal_kept (consistent : u.session.Consistent) (run : Run u log u')
    {value : Confirmation} (resolved : u.session.signal = some value) :
    u'.session.signal = some value := by
  induction run with
  | done u => exact resolved
  | step step _ ih =>
    have hturn := step.turn consistent
    exact ih (hturn.consistent consistent) (hturn.signal_kept consistent resolved)

/-- If nothing settles the attempt, only the last operator's leaving resolves the signal. -/
theorem Run.dropped (consistent : u.session.Consistent) (run : Run u log u')
    (unresolved : u.session.signal = none) (quiet : ∀ e ∈ log, e.settles = false) {value : Confirmation}
    (resolved : u'.session.signal = some value) : value = .error (.cancelled "session dropped") := by
  induction run with
  | done u => exact nomatch unresolved.symm.trans resolved
  | @step u w u' e log step rest ih =>
    obtain ⟨hquiet, hrest⟩ := List.forall_mem_cons.mp quiet
    have hconsistent := (step.turn consistent).consistent consistent
    cases step.change consistent with
    | settled hsettles => exact nomatch hquiet.symm.trans hsettles
    | deserted _ _ _ hdropped =>
      have hkept : u'.session.signal = some (.error (.cancelled "session dropped")) :=
        rest.signal_kept hconsistent hdropped
      exact Option.some.inj (resolved.symm.trans hkept)
    | kept _ _ hsame => exact ih hconsistent (hsame.trans unresolved) hrest resolved

end SharedSession

open SharedSession

/-! ## 4. Who waits alone -/

/-- A session is new, anything is done on its handles, and now a handle waits and is the only one.
It started to wait at one moment. The signal is unresolved exactly if the handle was the only one
at that moment and has been since, and nothing settled the attempt, be it before or after. Where it
is resolved, the wait comes to its end; without a decision, a failure or a cancellation it tells that
the session was dropped. -/
theorem waiter_without_operators {log : List SessionEvent} {u : SharedSession} (run : Run {} log u)
    (waits : u.waiting = true) (alone : u.handles = 1) :
    ∃ before after v v', log = before ++ .enterWait (.ok ()) :: after ∧
      Run {} before v ∧ Step v (.enterWait (.ok ())) v' ∧ Run v' after u ∧
      (u.session.signal = none ↔
        v.handles = 1 ∧ .act .clone true ∉ after ∧ ∀ e ∈ log, e.settles = false) ∧
      (∀ value, u.session.signal = some value → ∃ u', Step u (.leaveWait value) u') ∧
      ((∀ e ∈ log, e.settles = false) → ∀ value, u.session.signal = some value →
        value = .error (.cancelled "session dropped")) := by
  have hnew : LinkingSession.Consistent {} := .connecting
  obtain ⟨before, after, v, v', rfl, hunawaited, hbefore, hbegins, hwaits, hafter⟩ :=
    run.began .fresh rfl waits
  refine ⟨before, after, v, v', rfl, hbefore, hbegins, hafter, ?_,
    fun value hvalue => ⟨_, .leaveWait waits hvalue⟩,
    fun hquiet value => run.dropped hnew rfl hquiet⟩
  have hconsistent := hbefore.consistent hnew
  have hcounted := hbefore.counted .fresh
  have hcounted' := hbegins.counted hcounted
  have hhandles : v'.handles = v.handles := by
    rcases hbegins.handles_cases with ⟨hclone, -⟩ | ⟨hdrop, -⟩ | ⟨-, -, hsame⟩
    · exact nomatch hclone
    · exact nomatch hdrop
    · exact hsame
  have hheld : 0 < v.handles := by
    have hpresent := hcounted'.present
    rw [hwaits, hhandles] at hpresent
    exact hpresent
  rw [hafter.unresolved_meanwhile ((hbegins.turn hconsistent).consistent hconsistent) hcounted'
      (hcounted'.awaited hwaits) waits alone,
    hbegins.unresolved_iff hconsistent, hbefore.unresolved_before hnew .fresh hunawaited hheld,
    hhandles, List.forall_mem_append, List.forall_mem_cons]
  constructor
  · rintro ⟨⟨⟨-, hbefore⟩, -⟩, hone, hclones, hlate⟩
    exact ⟨hone, hclones, hbefore, rfl, hlate⟩
  · rintro ⟨hone, hclones, hbefore, -, hlate⟩
    exact ⟨⟨⟨rfl, hbefore⟩, rfl, nofun⟩, hone, hclones, hlate⟩

/-- A task waits on one handle. The screen drops the other one, and the task is told. -/
theorem task_is_released_by_screen : ∃ log u u', Run {} log u ∧ u.waiting = true ∧ u.handles = 1 ∧
    Step u (.leaveWait (.error (.cancelled "session dropped"))) u' := by
  have hdropped : Run {} _ _ :=
    .step (.act .clone Nat.one_pos nofun) <| .step (.enterWait Nat.two_pos) <|
      .step (.act .drop Nat.two_pos fun _ => Nat.one_lt_two) <| .done _
  obtain ⟨_, _, _, _, -, -, -, -, -, hreleased, -⟩ := waiter_without_operators hdropped rfl rfl
  obtain ⟨u', hleaves⟩ := hreleased _ rfl
  exact ⟨_, _, u', hdropped, rfl, rfl, hleaves⟩

/-- The screen drops its handle before the task waits on the other one. No other handle is left,
and no value for the signal will come. -/
theorem task_waits_after_screen_left : ∃ log u, Run {} log u ∧ .act .clone true ∈ log ∧
    u.waiting = true ∧ u.handles = 1 ∧ u.session.signal = none :=
  ⟨_, _, .step (.act .clone Nat.one_pos nofun) <|
    .step (.act .drop Nat.two_pos fun _ => Nat.two_pos) <| .step (.enterWait Nat.one_pos) <| .done _,
    List.mem_cons_self, rfl, rfl, rfl⟩

end DeviceSync
