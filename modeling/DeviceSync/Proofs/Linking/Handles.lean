import DeviceSync.Proofs.Linking.Trace

/-!
# A session and those who hold it

A session is shared by handles. On any of them any operation may be called, and each call is one
moment. One handle may wait for the signal; between its entering the wait and its leaving it, or
giving it up, the others go on.

1. `SharedSession`, `SharedSession.Step`: a session with its handles, and all that can be done on them.
2. Each step is a turn of the session (`SharedSession.Step.turn`), so that what turns keep is kept by
   runs: consistency, the value of the signal, the state of an attempt that is over.
3. A run is told of one decision at most (`SharedSession.Run.decisions_le_one`), and the signal tells
   of a confirmation only after one (`SharedSession.Run.confirmed`).
4. `signal_is_resolved_once` puts this together.
-/

namespace DeviceSync

open TraceLemmas

/-! ## 1. Handles -/

/-- A session with its handles. -/
structure SharedSession where
  session : LinkingSession := {}
  /-- Handles that were created and not dropped. -/
  handles : Nat := 1
  /-- Whether one of them waits for the signal. -/
  waiting : Bool := false

/-- Something that is done on a handle, and what the one who does it is told. -/
inductive SessionEvent
  | act (a : SessionAct) (told : Bool)
  | complete (told : Bool)
  /-- A handle asks to wait for the signal. -/
  | enterWait (told : Confirmation)
  /-- The handle that waits is told the signal. -/
  | leaveWait (told : Confirmation)
  /-- The handle that waits gives up. -/
  | abandonWait

namespace SessionEvent

/-- A call of the operator that decided the attempt. -/
def decides : SessionEvent → Bool
  | act .confirm true | act .decline true => true
  | _ => false

/-- What happens to the session. -/
def happening : SessionEvent → Happening
  | act a told => .act a told
  | complete _ => .call .complete
  | enterWait _ => .call .startWait
  | leaveWait _ => .call .finishWait
  | abandonWait => .act (.cancel "confirmation await cancelled") true

end SessionEvent

/-- How many handles there are after an act. -/
def SessionAct.handles : SessionAct → Nat → Nat
  | clone, n => n + 1
  | drop, n => n - 1
  | _, n => n

namespace SharedSession

/-- Something is done on a handle. A handle that waits is not dropped meanwhile. -/
inductive Step (u : SharedSession) : SessionEvent → SharedSession → Prop
  | act (a : SessionAct) :
      0 < u.handles → (a = .drop → u.waiting.toNat < u.handles) →
      Step u (.act a (a.perform u.session).1)
        { u with session := (a.perform u.session).2, handles := a.handles u.handles }
  | complete :
      0 < u.handles →
      Step u (.complete u.session.complete.1) { u with session := u.session.complete.2 }
  | enterWait :
      0 < u.handles →
      Step u (.enterWait u.session.startWait.1)
        { u with
          session := u.session.startWait.2
          waiting := u.waiting || u.session.startWait.1.isOk }
  | leaveWait {value : Confirmation} :
      u.waiting = true → u.session.signal = some value →
      Step u (.leaveWait value) { u with session := u.session.finishWait, waiting := false }
  | abandonWait :
      u.waiting = true →
      Step u .abandonWait { u with session := u.session.abandonWait, waiting := false }

/-- One step after the other. -/
inductive Run : SharedSession → List SessionEvent → SharedSession → Prop
  | done (u : SharedSession) : Run u [] u
  | step {u v u' : SharedSession} {e : SessionEvent} {log : List SessionEvent} :
      Step u e v → Run v log u' → Run u (e :: log) u'

/-! ## 2. What runs keep -/

variable {u u' : SharedSession} {e : SessionEvent} {log : List SessionEvent}

/-- Giving up the wait is a cancellation, after which the handle counts again. -/
theorem turn_of_abandonWait {s : LinkingSession} (h : s.Consistent) :
    Turn SessionEvent.abandonWait.happening s s.abandonWait := by
  have hquiet : ¬ SessionEvent.abandonWait.happening.Decides := not_decides_of_cause rfl
  rcases s.fail_cases h (.cancelled "confirmation await cancelled") with
      ⟨hundecided, hrejected⟩ | ⟨hconfirmed, hstate, hsignal⟩ | ⟨hterminal, hsame⟩
  · exact .rejected _ (fun hconfirm => hquiet (.inl hconfirm)) hundecided
      ⟨hrejected.state, hrejected.signal⟩
  · exact .broken _ rfl hconfirmed hstate hsignal
  · exact .kept ⟨hsame.state, hsame.signal⟩ hquiet (fun _ => hterminal) (absurd rfl)

theorem Step.turn (h : u.session.Consistent) (step : Step u e u') :
    Turn e.happening u.session u'.session := by
  cases step with
  | act a => exact turn_of_act h a
  | complete => exact turn_of_complete h
  | enterWait =>
    exact .kept u.session.startWait_same (by simp [Happening.Decides, SessionEvent.happening])
      (absurd rfl) (absurd rfl)
  | leaveWait =>
    exact .kept u.session.finishWait_same (by simp [Happening.Decides, SessionEvent.happening])
      (absurd rfl) (absurd rfl)
  | abandonWait => exact turn_of_abandonWait h

theorem Run.consistent (h : u.session.Consistent) (run : Run u log u') : u'.session.Consistent := by
  induction run with
  | done u => exact h
  | step step _ ih => exact ih ((step.turn h).consistent h)

/-- An attempt that is over stays as it is. -/
theorem Run.state_kept (h : u.session.Consistent) (ended : u.session.state.isTerminal = true)
    (run : Run u log u') : u'.session.state = u.session.state := by
  induction run with
  | done u => rfl
  | step step _ ih =>
    have hstate := (step.turn h).state_kept h ended
    exact (ih ((step.turn h).consistent h) (hstate ▸ ended)).trans hstate

theorem Run.split {before after : List SessionEvent} (run : Run u (before ++ after) u') :
    ∃ v, Run u before v ∧ Run v after u' := by
  induction before generalizing u with
  | nil => exact ⟨u, .done u, run⟩
  | cons e before ih =>
    cases run with
    | step step rest =>
      obtain ⟨v, hbefore, hafter⟩ := ih rest
      exact ⟨v, .step step hbefore, hafter⟩

/-! ## 3. Decisions -/

theorem decides_happening (h : e.decides = true) : e.happening.Decides := by
  unfold SessionEvent.decides at h
  split at h
  · exact .inl rfl
  · exact .inr rfl
  · exact nomatch h

/-- Once the signal is resolved, no call of the operator decides any more. -/
theorem Run.decisions_eq_zero (h : u.session.Consistent) (resolved : u.session.signal ≠ none)
    (run : Run u log u') : log.countP SessionEvent.decides = 0 := by
  induction run with
  | done u => rfl
  | @step u v u' e log step _ ih =>
    have hturn := step.turn h
    obtain ⟨value, hvalue⟩ := Option.ne_none_iff_exists'.mp resolved
    have hrest := ih (hturn.consistent h) (by rw [hturn.signal_kept h hvalue]; exact nofun)
    have hquiet : ¬ e.decides = true :=
      fun hdecides => not_decides_of_turn h resolved hturn (decides_happening hdecides)
    rw [List.countP_cons_of_neg hquiet, hrest]

/-- A decision resolves the signal. -/
theorem resolved_of_decides {s s' : LinkingSession} {m : Happening} (turn : Turn m s s')
    (decides : m.Decides) : s'.signal ≠ none := by
  cases turn with
  | kept _ hquiet => exact absurd decides hquiet
  | connected path hpath => exact absurd decides (not_decides_of_path hpath)
  | confirmed path _ _ _ hsignal => rw [hsignal]; exact nofun
  | rejected cause _ _ hrejected => rw [hrejected.signal]; exact nofun
  | broken cause _ _ _ hsignal => rw [hsignal]; exact nofun
  | completed _ _ _ hsignal => rw [hsignal]; exact nofun

theorem Run.decisions_le_one (h : u.session.Consistent) (run : Run u log u') :
    log.countP SessionEvent.decides ≤ 1 := by
  induction run with
  | done u => exact Nat.zero_le 1
  | @step u v u' e log step rest ih =>
    have hturn := step.turn h
    by_cases hdecides : e.decides = true
    · have hresolved := resolved_of_decides hturn (decides_happening hdecides)
      have hnone := rest.decisions_eq_zero (hturn.consistent h) hresolved
      exact Nat.le_of_eq (by rw [List.countP_cons_of_pos hdecides, hnone])
    · rw [List.countP_cons_of_neg hdecides]
      exact ih (hturn.consistent h)

/-- The signal comes to tell of a confirmation by one. -/
theorem confirm_of_turn {s s' : LinkingSession} {m : Happening} (h : s.Consistent) (turn : Turn m s s')
    (before : s.signal ≠ some (.ok ())) (after : s'.signal = some (.ok ())) :
    m = .act .confirm true := by
  cases turn with
  | kept same => exact absurd (same.signal.symm.trans after) before
  | connected path _ _ _ hsignal => exact nomatch hsignal.symm.trans after
  | confirmed path hconfirm => exact hconfirm
  | rejected cause _ _ hrejected => exact nomatch hrejected.signal.symm.trans after
  | broken cause _ hconfirmed => exact absurd (h.signal_of_confirmed hconfirmed) before
  | completed _ hconfirmed => exact absurd (h.signal_of_confirmed hconfirmed) before

theorem Run.confirmed (h : u.session.Consistent) (before : u.session.signal ≠ some (.ok ()))
    (run : Run u log u') (after : u'.session.signal = some (.ok ())) : .act .confirm true ∈ log := by
  induction run with
  | done u => exact absurd after before
  | @step u v u' e log step _ ih =>
    have hturn := step.turn h
    by_cases hv : v.session.signal = some (.ok ())
    · have hconfirm := confirm_of_turn h hturn before hv
      cases step with
      | act a =>
        obtain ⟨ha, htold⟩ := Happening.act.inj hconfirm
        rw [htold, ha]
        exact List.mem_cons_self
      | complete | enterWait | leaveWait | abandonWait => exact nomatch hconfirm
    · exact List.mem_cons_of_mem e (ih (hturn.consistent h) hv after)

/-- Declining makes an attempt that is connected fail for good. -/
theorem Run.declined (h : u.session.Consistent) (run : Run u (.act .decline true :: log) u') :
    ∃ path, u.session.state = .connected path path.shortCode ∧
      u'.session.state = .failed (some (.declined path.toHex)) := by
  generalize hlog : SessionEvent.act .decline true :: log = log' at run
  cases run with
  | done => exact nomatch hlog
  | @step _ v _ e _ step rest =>
    obtain ⟨rfl, rfl⟩ := List.cons.inj hlog
    have hconsistent := (step.turn h).consistent h
    generalize hevent : SessionEvent.act .decline true = e at step
    cases step with
    | act a =>
      obtain ⟨rfl, htold⟩ := SessionEvent.act.inj hevent
      rcases u.session.decline_cases h with ⟨path, hconnected, -, hrejected⟩ | ⟨hnot, -⟩
      · have hended : u.session.decline.2.state.isTerminal = true := by rw [hrejected.state]; rfl
        exact ⟨path, hconnected, (rest.state_kept hconsistent hended).trans hrejected.state⟩
      · exact nomatch htold.trans hnot
    | complete | enterWait | leaveWait | abandonWait => exact nomatch hevent

end SharedSession

open SharedSession

/-- A session is new, and anything is done on its handles. Whenever nothing is going on, the signal is
unresolved as long as the attempt is connecting or connected, and agrees with the state once it is
resolved. One call of the operator decides at most; only after a confirmation an attempt is completed,
and a declined one has failed with the path that was declined. What is over does not change. -/
theorem signal_is_resolved_once {log : List SessionEvent} {u : SharedSession} (run : Run {} log u) :
    (u.session.signal = none ↔
      u.session.state = .connecting ∨ ∃ path code, u.session.state = .connected path code) ∧
    (u.session.signal = some (.ok ()) →
      u.session.state = .confirmed ∨ u.session.state = .completed ∨
        ∃ cause, u.session.state = .failed cause) ∧
    (∀ cause, u.session.signal = some (.error cause) → u.session.state = .failed (some cause)) ∧
    log.countP SessionEvent.decides ≤ 1 ∧
    (u.session.state = .completed → .act .confirm true ∈ log) ∧
    (∀ before after, log = before ++ .act .decline true :: after →
      ∃ v path, Run {} before v ∧ v.session.state = .connected path path.shortCode ∧
        u.session.state = .failed (some (.declined path.toHex))) ∧
    ∀ before after v, Run {} before v → Run v after u → v.session.state.isTerminal = true →
      u.session.state = v.session.state := by
  have hnew : (LinkingSession.Consistent {}) := .connecting
  have hconsistent := run.consistent hnew
  refine ⟨hconsistent.undecided_iff, ?_, fun cause => hconsistent.failed_of_rejected,
    run.decisions_le_one hnew, fun hcompleted => ?_, ?_, ?_⟩
  · intro hsignal
    by_cases hcompleted : u.session.state = .completed
    · exact .inr (.inl hcompleted)
    · refine (hconsistent.cases_of_confirmation hsignal).imp id fun hended => .inr ?_
      obtain ⟨cause, hfailed⟩ := hconsistent.failed_of_terminal hended hcompleted
      exact ⟨some cause, hfailed⟩
  · exact run.confirmed hnew (Option.some_ne_none _).symm (hconsistent.signal_of_completed hcompleted)
  · rintro before after rfl
    obtain ⟨v, hbefore, hafter⟩ := run.split
    obtain ⟨path, hconnected, hfailed⟩ := hafter.declined (hbefore.consistent hnew)
    exact ⟨v, path, hbefore, hconnected, hfailed⟩
  · intro before after v hbefore hafter hended
    exact hafter.state_kept (hbefore.consistent hnew) hended

/-- The path that the handles of a sample session see. -/
def Sample.sharedPath : PathHash := ⟨⟨List.replicate 32 0x42, rfl⟩⟩

/-- One handle waits while the operator confirms on another one. The attempt is completed, and a
cancellation that comes too late changes nothing. -/
theorem late_cancellation_changes_nothing : ∃ log u, Run {} log u ∧
    u.session.state = .completed ∧ .act .confirm true ∈ log ∧
    log.countP SessionEvent.decides ≤ 1 := by
  have hconfirmed : Run {} _ _ :=
    .step (.act .clone Nat.one_pos nofun) <| .step (.act (.establish Sample.sharedPath) Nat.two_pos nofun) <|
      .step (.enterWait Nat.two_pos) <| .step (.act .confirm Nat.two_pos nofun) <|
      .step (.leaveWait rfl rfl) <| .step (.complete Nat.two_pos) <|
      .step (.act (.cancel "too late") Nat.two_pos nofun) <| .done _
  obtain ⟨-, -, -, hdecisions, hcompleted, -⟩ := signal_is_resolved_once hconfirmed
  exact ⟨_, _, hconfirmed, rfl, hcompleted rfl, hdecisions⟩

end DeviceSync
