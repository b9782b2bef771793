import DeviceSync.Linking.Session

/-!
# What a linking session can be

`Agree` lists which signals go with which states, and a session is `Consistent` if its own do. Each
operation of a session has one lemma here that says what it makes of a consistent session, as far as
state and signal are concerned; `Same` says that it leaves both alone. That every operation keeps a
session consistent follows from these.
-/

namespace DeviceSync

/-- The signals that go with a state. The signal is resolved as soon as the attempt is decided,
and keeps its value when the attempt fails later. -/
inductive LinkingState.Agree : LinkingState → Option Confirmation → Prop
  | connecting : Agree .connecting none
  | connected (path : PathHash) : Agree (.connected path path.shortCode) none
  | confirmed : Agree .confirmed (some (.ok ()))
  | completed : Agree .completed (some (.ok ()))
  /-- It failed after the operator had confirmed. -/
  | broken (cause : LinkingError) : Agree (.failed (some cause)) (some (.ok ()))
  | rejected (cause : LinkingError) : Agree (.failed (some cause)) (some (.error cause))

namespace LinkingState.Agree

variable {state : LinkingState} {signal : Option Confirmation}

/-- The signal is unresolved as long as the operator has not decided. -/
theorem signal_eq_none_iff (h : state.Agree signal) :
    signal = none ↔ state = .connecting ∨ ∃ path, state = .connected path path.shortCode := by
  cases h with
  | connecting => exact ⟨fun _ => .inl rfl, fun _ => rfl⟩
  | connected path => exact ⟨fun _ => .inr ⟨path, rfl⟩, fun _ => rfl⟩
  | confirmed | completed | broken | rejected => simp

theorem undecided_iff (h : state.Agree signal) :
    signal = none ↔ state = .connecting ∨ ∃ path code, state = .connected path code := by
  cases h with
  | connecting => exact ⟨fun _ => .inl rfl, fun _ => rfl⟩
  | connected path => exact ⟨fun _ => .inr ⟨path, path.shortCode, rfl⟩, fun _ => rfl⟩
  | confirmed | completed | broken | rejected => simp

theorem signal_of_completed (h : state.Agree signal) (completed : state = .completed) :
    signal = some (.ok ()) := by
  cases h with
  | completed => rfl
  | connecting | connected | confirmed | broken | rejected => exact nomatch completed

theorem signal_of_confirmed (h : state.Agree signal) (confirmed : state = .confirmed) :
    signal = some (.ok ()) := by
  cases h with
  | confirmed => rfl
  | connecting | connected | completed | broken | rejected => exact nomatch confirmed

theorem signal_of_terminal (h : state.Agree signal) (ended : state.isTerminal = true) :
    signal ≠ none := by
  cases h with
  | connecting | connected | confirmed => exact nomatch ended
  | completed | broken | rejected => exact nofun

theorem failed_of_terminal (h : state.Agree signal) (ended : state.isTerminal = true)
    (incomplete : state ≠ .completed) : ∃ cause, state = .failed (some cause) := by
  cases h with
  | connecting | connected | confirmed => exact nomatch ended
  | completed => exact absurd rfl incomplete
  | broken cause => exact ⟨cause, rfl⟩
  | rejected cause => exact ⟨cause, rfl⟩

theorem failed_of_rejected {cause : LinkingError} (h : state.Agree signal)
    (rejected : signal = some (.error cause)) : state = .failed (some cause) := by
  cases h with
  | connecting | connected | confirmed | completed | broken => exact nomatch rejected
  | rejected cause' =>
    obtain rfl := Except.error.inj (Option.some.inj rejected)
    rfl

/-- An attempt that the operator confirmed is under way, or over. -/
theorem cases_of_confirmation (h : state.Agree signal) (confirmation : signal = some (.ok ())) :
    state = .confirmed ∨ state.isTerminal = true := by
  cases h with
  | connecting | connected | rejected => exact nomatch confirmation
  | confirmed => exact .inl rfl
  | completed | broken => exact .inr rfl

end LinkingState.Agree

namespace LinkingSession

/-- State and signal agree. -/
def Consistent (s : LinkingSession) : Prop := s.state.Agree s.signal

/-- State and signal are the same. -/
structure Same (s s' : LinkingSession) : Prop where
  state : s'.state = s.state
  signal : s'.signal = s.signal

/-- The attempt ended before the operator decided, or by the operator's decision. -/
structure RejectedWith (s' : LinkingSession) (cause : LinkingError) : Prop where
  state : s'.state = .failed (some cause)
  signal : s'.signal = some (.error cause)

theorem Same.consistent {s s' : LinkingSession} (same : s.Same s') (h : s.Consistent) :
    s'.Consistent := by
  rw [Consistent, same.state, same.signal]
  exact h

theorem RejectedWith.consistent {s' : LinkingSession} {cause : LinkingError}
    (h : s'.RejectedWith cause) : s'.Consistent := by
  rw [Consistent, h.state, h.signal]
  exact .rejected cause

variable {s : LinkingSession}

theorem establish_cases (h : s.Consistent) (path : PathHash) :
    (s.state = .connecting ∧ (s.establish path).state = .connected path path.shortCode ∧
      (s.establish path).signal = none) ∨
    (s.state ≠ .connecting ∧ s.Same (s.establish path)) := by
  obtain ⟨state, signal, _, _, _⟩ := s
  cases h with
  | connecting => exact .inl ⟨rfl, rfl, rfl⟩
  | connected | confirmed | completed | broken | rejected =>
    refine .inr ⟨nofun, ?_⟩
    simp only [establish, apply, LinkingState.step, if_true]
    exact ⟨rfl, rfl⟩

theorem confirm_cases (h : s.Consistent) :
    (∃ path, s.state = .connected path path.shortCode ∧ s.confirm.1 = true ∧
      s.confirm.2.state = .confirmed ∧ s.confirm.2.signal = some (.ok ())) ∨
    (s.confirm.1 = false ∧ s.Same s.confirm.2) := by
  obtain ⟨state, signal, _, _, _⟩ := s
  cases h with
  | connected path => exact .inl ⟨path, rfl, rfl, rfl, rfl⟩
  | connecting | confirmed | completed | broken | rejected =>
    refine .inr ?_
    simp only [confirm, apply, LinkingState.step, if_true]
    exact ⟨rfl, rfl, rfl⟩

theorem decline_cases (h : s.Consistent) :
    (∃ path, s.state = .connected path path.shortCode ∧ s.decline.1 = true ∧
      s.decline.2.RejectedWith (.declined path.toHex)) ∨
    (s.decline.1 = false ∧ s.Same s.decline.2) := by
  obtain ⟨state, signal, _, _, _⟩ := s
  cases h with
  | connected path => exact .inl ⟨path, rfl, rfl, rfl, rfl⟩
  | connecting | confirmed | completed | broken | rejected =>
    refine .inr ?_
    simp only [decline, apply, LinkingState.step, if_true]
    exact ⟨rfl, rfl, rfl⟩

theorem fail_undecided (h : s.Consistent) (undecided : s.signal = none) (cause : LinkingError) :
    (s.fail cause).RejectedWith cause := by
  obtain ⟨state, signal, _, _, _⟩ := s
  cases h with
  | connecting => exact ⟨rfl, rfl⟩
  | connected path => exact ⟨rfl, rfl⟩
  | confirmed | completed | broken | rejected => exact nomatch undecided

theorem fail_cases (h : s.Consistent) (cause : LinkingError) :
    (s.signal = none ∧ (s.fail cause).RejectedWith cause) ∨
    (s.state = .confirmed ∧ (s.fail cause).state = .failed (some cause) ∧
      (s.fail cause).signal = some (.ok ())) ∨
    (s.state.isTerminal = true ∧ s.Same (s.fail cause)) := by
  by_cases undecided : s.signal = none
  · exact .inl ⟨undecided, fail_undecided h undecided cause⟩
  obtain ⟨state, signal, _, _, _⟩ := s
  cases h with
  | connecting | connected => exact absurd rfl undecided
  | confirmed => exact .inr (.inl ⟨rfl, rfl, rfl⟩)
  | completed | broken | rejected =>
    refine .inr (.inr ⟨rfl, ?_⟩)
    simp only [fail, apply, LinkingState.step, if_true]
    exact ⟨rfl, rfl⟩

theorem complete_cases (h : s.Consistent) :
    (s.state = .confirmed ∧ s.complete.1 = true ∧ s.complete.2.state = .completed ∧
      s.complete.2.signal = some (.ok ())) ∨
    (s.state ≠ .confirmed ∧ s.complete.1 = decide (s.state = .completed) ∧
      s.Same s.complete.2) := by
  obtain ⟨state, signal, _, _, _⟩ := s
  cases h with
  | confirmed => exact .inl ⟨rfl, rfl, rfl, rfl⟩
  | connecting | connected | completed | broken | rejected =>
    refine .inr ⟨nofun, ?_⟩
    simp only [complete, apply, LinkingState.step, if_true]
    exact ⟨rfl, rfl, rfl⟩

theorem clone_same (s : LinkingSession) : s.Same s.clone := ⟨rfl, rfl⟩

theorem drop_cases (h : s.Consistent) :
    (s.signal = none ∧ s.operators = 1 ∧ s.drop.RejectedWith (.cancelled "session dropped")) ∨
    ((s.signal ≠ none ∨ s.operators ≠ 1) ∧ s.Same s.drop) := by
  by_cases hlast : s.operators = 1 ∧ s.signal = none
  · have hdrop : s.drop = { s with operators := s.operators - 1 }.cancel "session dropped" := by
      rw [drop]
      exact if_pos hlast
    have hbefore : { s with operators := s.operators - 1 }.Consistent := h
    rw [hdrop]
    exact .inl ⟨hlast.2, hlast.1, fail_undecided hbefore hlast.2 _⟩
  · have hdrop : s.drop = { s with operators := s.operators - 1 } := by
      rw [drop]
      exact if_neg hlast
    rw [hdrop]
    refine .inr ⟨?_, rfl, rfl⟩
    by_cases hnone : s.signal = none
    · exact .inr fun hone => hlast ⟨hone, hnone⟩
    · exact .inl hnone

theorem startWait_same (s : LinkingSession) : s.Same s.startWait.2 := by
  unfold startWait
  split
  · exact ⟨rfl, rfl⟩
  · exact ⟨rfl, rfl⟩

theorem startWait_of_awaited (s : LinkingSession) (awaited : s.awaited = true) :
    s.startWait = (.error (.cancelled "confirmation already awaited"), s) := if_pos awaited

theorem startWait_of_unawaited (s : LinkingSession) (unawaited : s.awaited = false) :
    s.startWait = (.ok (), { s with awaited := true, operators := s.operators - 1 }) := by
  rw [startWait, unawaited]
  rfl

theorem finishWait_same (s : LinkingSession) : s.Same s.finishWait := ⟨rfl, rfl⟩

/-! Only waiting, cloning and dropping a handle change anything for those who hold the session. -/

/-- Nothing is different for the handles: how many do not wait, and whether one waits or did. -/
structure SameHolders (s s' : LinkingSession) : Prop where
  awaited : s'.awaited = s.awaited
  operators : s'.operators = s.operators

theorem SameHolders.trans {s₁ s₂ s₃ : LinkingSession} (first : s₁.SameHolders s₂)
    (second : s₂.SameHolders s₃) : s₁.SameHolders s₃ :=
  ⟨second.awaited.trans first.awaited, second.operators.trans first.operators⟩

theorem resolve_sameHolders (s : LinkingSession) (value : Confirmation) :
    s.SameHolders (s.resolve value).2 := by
  unfold resolve
  split
  · exact ⟨rfl, rfl⟩
  · exact ⟨rfl, rfl⟩

theorem perform_sameHolders (s : LinkingSession) (resolved : Option Confirmation)
    (action : LinkingAction) : s.SameHolders (s.perform resolved action).2 := by
  cases action with
  | showCode => exact ⟨rfl, rfl⟩
  | resolve => exact s.resolve_sameHolders (.ok ())
  | reject e => exact s.resolve_sameHolders (.error e)

theorem foldl_perform_sameHolders (actions : List LinkingAction)
    (r : Option Confirmation × LinkingSession) :
    r.2.SameHolders (actions.foldl (fun r action => r.2.perform r.1 action) r).2 := by
  induction actions generalizing r with
  | nil => exact ⟨rfl, rfl⟩
  | cons action actions ih => exact (r.2.perform_sameHolders r.1 action).trans (ih _)

theorem apply_sameHolders (s : LinkingSession) (event : LinkingEvent) :
    s.SameHolders (s.apply event).2 := by
  unfold apply
  obtain ⟨next, actions⟩ := s.state.step event
  refine SameHolders.trans ?_ (foldl_perform_sameHolders actions _)
  dsimp only
  split
  · exact ⟨rfl, rfl⟩
  · exact ⟨rfl, rfl⟩

theorem fail_sameHolders (s : LinkingSession) (cause : LinkingError) :
    s.SameHolders (s.fail cause) :=
  (s.apply_sameHolders _).trans (resolve_sameHolders _ _)

theorem decline_sameHolders (s : LinkingSession) : s.SameHolders s.decline.2 := by
  have happly := s.apply_sameHolders .declined
  unfold decline
  split
  · rename_i heq
    rw [heq] at happly
    exact happly
  · rename_i heq
    rw [heq] at happly
    exact happly.trans (apply_sameHolders _ _)
  · rename_i heq
    rw [heq] at happly
    exact happly

theorem drop_holders (s : LinkingSession) :
    s.drop.awaited = s.awaited ∧ s.drop.operators = s.operators - 1 := by
  unfold drop
  dsimp only
  split
  · have hfail := fail_sameHolders { s with operators := s.operators - 1 } (.cancelled "session dropped")
    exact ⟨hfail.awaited, hfail.operators⟩
  · exact ⟨rfl, rfl⟩

end LinkingSession

end DeviceSync
