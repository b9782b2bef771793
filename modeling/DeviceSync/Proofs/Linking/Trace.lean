import DeviceSync.Linking.Run
import DeviceSync.Proofs.Linking.Session

/-!
# Traces of a linking run

While a run goes from call to call, others act on its session through their own handles, at any
moment and in any order. A trace lists what happened, in order; between two calls of the run
anything may stand.

1. `LinkingStep`, `LinkingTrace`: acts of others and calls of the run.
2. `Turn`: what a single step makes of the session, said once for all acts and calls.
3. `carryOut?`: the rest of a run, if nobody else acts any more. It never hangs once the signal is
   resolved (`carryOut_of_decided`).
-/

namespace DeviceSync

/-! ## 1. Traces -/

/-- What others do with a session. -/
inductive SessionAct
  | clone
  | drop
  | establish (path : PathHash)
  | confirm
  | decline
  | fail (cause : LinkingError)
  | cancel (reason : String)

/-- Does it. The truth is what the operator's call tells; calls that tell nothing count as true. -/
def SessionAct.perform : SessionAct → LinkingSession → Bool × LinkingSession
  | clone, s => (true, s.clone)
  | drop, s => (true, s.drop)
  | establish path, s => (true, s.establish path)
  | confirm, s => s.confirm
  | decline, s => s.decline
  | fail cause, s => (true, s.fail cause)
  | cancel reason, s => (true, s.cancel reason)

/-- Others act, and are told something, or the run makes a call. -/
inductive Happening
  | act (a : SessionAct) (told : Bool)
  | call (c : LinkingCall)

namespace Happening

/-- The operator's decision was taken. -/
def Decides (m : Happening) : Prop := m = .act .confirm true ∨ m = .act .decline true

/-- The path that is announced as established. -/
def path? : Happening → Option PathHash
  | .act (.establish path) _ => some path
  | .call (.announcePath path) => some path
  | _ => none

/-- The cause with which the attempt is made to fail, a cancellation included. -/
def cause? : Happening → Option LinkingError
  | .act (.fail cause) _ => some cause
  | .act (.cancel reason) _ => some (.cancelled reason)
  | .call (.fail cause) => some cause
  | _ => none

end Happening

abbrev LinkingResult : Type := Except LinkingError LinkedDevice

variable {p : Provisioner}

/-- One thing happens to the session and to what remains of the run. -/
inductive LinkingStep (p : Provisioner) : LinkingSession → LinkingWork LinkingResult → Happening →
    LinkingSession → LinkingWork LinkingResult → Prop
  | act {s : LinkingSession} {w : LinkingWork LinkingResult} (a : SessionAct) :
      LinkingStep p s w (.act a (a.perform s).1) (a.perform s).2 w
  | call {s s' : LinkingSession} {c : LinkingCall} {next : c.Answer → LinkingWork LinkingResult}
      {answer : c.Answer} : c.effect? p s = some (answer, s') →
      LinkingStep p s (.ask c next) (.call c) s' (next answer)

/-- What happened from one moment to another. -/
inductive LinkingTrace (p : Provisioner) (s : LinkingSession) (w : LinkingWork LinkingResult) :
    List Happening → LinkingSession → LinkingWork LinkingResult → Prop
  | start : LinkingTrace p s w [] s w
  | step {t : List Happening} {m : Happening} {s₁ s₂ : LinkingSession}
      {w₁ w₂ : LinkingWork LinkingResult} :
      LinkingTrace p s w t s₁ w₁ → LinkingStep p s₁ w₁ m s₂ w₂ → LinkingTrace p s w (t ++ [m]) s₂ w₂

theorem LinkingTrace.append {t t' : List Happening} {s s₁ s₂ : LinkingSession}
    {w w₁ w₂ : LinkingWork LinkingResult} (first : LinkingTrace p s w t s₁ w₁)
    (rest : LinkingTrace p s₁ w₁ t' s₂ w₂) : LinkingTrace p s w (t ++ t') s₂ w₂ := by
  induction rest with
  | start => rw [List.append_nil]; exact first
  | step _ hstep ih => rw [← List.append_assoc]; exact .step ih hstep

theorem LinkingTrace.head {t : List Happening} {m : Happening} {s s₁ s₂ : LinkingSession}
    {w w₁ w₂ : LinkingWork LinkingResult} (first : LinkingStep p s w m s₁ w₁)
    (rest : LinkingTrace p s₁ w₁ t s₂ w₂) : LinkingTrace p s w (m :: t) s₂ w₂ :=
  (LinkingTrace.step .start first).append rest

/-! ## 2. What a step makes of the session -/

/-- What a step makes of a session, as far as state and signal are concerned. -/
inductive Turn (m : Happening) (s s' : LinkingSession) : Prop
  | kept : s.Same s' → ¬ m.Decides → (m.cause? ≠ none → s.state.isTerminal = true) →
      (m.path? ≠ none → s.state ≠ .connecting) → Turn m s s'
  | connected (path : PathHash) : m.path? = some path → s.state = .connecting →
      s'.state = .connected path path.shortCode → s'.signal = none → Turn m s s'
  | confirmed (path : PathHash) : m = .act .confirm true →
      s.state = .connected path path.shortCode → s'.state = .confirmed →
      s'.signal = some (.ok ()) → Turn m s s'
  | rejected (cause : LinkingError) : m ≠ .act .confirm true → s.signal = none →
      s'.RejectedWith cause → Turn m s s'
  /-- The attempt fails after the operator had confirmed. -/
  | broken (cause : LinkingError) : m.cause? = some cause → s.state = .confirmed →
      s'.state = .failed (some cause) → s'.signal = some (.ok ()) → Turn m s s'
  | completed : m = .call .complete → s.state = .confirmed → s'.state = .completed →
      s'.signal = some (.ok ()) → Turn m s s'

namespace TraceLemmas

variable {s s' : LinkingSession} {w w' : LinkingWork LinkingResult} {m : Happening}

theorem turn_of_establish (h : s.Consistent) {path : PathHash} (announces : m.path? = some path)
    (quiet : ¬ m.Decides) (harmless : m.cause? = none) : Turn m s (s.establish path) := by
  rcases s.establish_cases h path with ⟨hconnecting, hstate, hsignal⟩ | ⟨hstate, hsame⟩
  · exact .connected path announces hconnecting hstate hsignal
  · exact .kept hsame quiet (absurd harmless) fun _ => hstate

theorem turn_of_fail (h : s.Consistent) {cause : LinkingError} (fails : m.cause? = some cause)
    (quiet : ¬ m.Decides) (silent : m.path? = none) : Turn m s (s.fail cause) := by
  rcases s.fail_cases h cause with
      ⟨hundecided, hrejected⟩ | ⟨hconfirmed, hstate, hsignal⟩ | ⟨hterminal, hsame⟩
  · exact .rejected cause (fun hconfirm => quiet (.inl hconfirm)) hundecided hrejected
  · exact .broken cause fails hconfirmed hstate hsignal
  · exact .kept hsame quiet (fun _ => hterminal) (absurd silent)

theorem turn_of_act (h : s.Consistent) (a : SessionAct) :
    Turn (.act a (a.perform s).1) s (a.perform s).2 := by
  cases a with
  | clone => exact .kept s.clone_same (by simp [Happening.Decides]) (absurd rfl) (absurd rfl)
  | drop =>
    rcases s.drop_cases h with ⟨hundecided, -, hrejected⟩ | ⟨-, hsame⟩
    · exact .rejected _ (by simp) hundecided hrejected
    · exact .kept hsame (by simp [Happening.Decides]) (absurd rfl) (absurd rfl)
  | establish path => exact turn_of_establish h rfl (by simp [Happening.Decides]) rfl
  | confirm =>
    rcases s.confirm_cases h with ⟨path, hconnected, htold, hstate, hsignal⟩ | ⟨htold, hsame⟩
    · exact .confirmed path (congrArg (Happening.act _) htold) hconnected hstate hsignal
    · refine .kept hsame ?_ (absurd rfl) (absurd rfl)
      show ¬ (Happening.act .confirm s.confirm.1).Decides
      rw [htold]
      simp [Happening.Decides]
  | decline =>
    rcases s.decline_cases h with ⟨path, hconnected, -, hrejected⟩ | ⟨htold, hsame⟩
    · exact .rejected _ (by simp) (h.signal_eq_none_iff.mpr (.inr ⟨path, hconnected⟩)) hrejected
    · refine .kept hsame ?_ (absurd rfl) (absurd rfl)
      show ¬ (Happening.act .decline s.decline.1).Decides
      rw [htold]
      simp [Happening.Decides]
  | fail cause => exact turn_of_fail h rfl (by simp [Happening.Decides]) rfl
  | cancel reason => exact turn_of_fail h rfl (by simp [Happening.Decides]) rfl

theorem turn_of_complete (h : s.Consistent) : Turn (.call .complete) s s.complete.2 := by
  rcases s.complete_cases h with ⟨hconfirmed, -, hstate, hsignal⟩ | ⟨-, -, hsame⟩
  · exact .completed rfl hconfirmed hstate hsignal
  · exact .kept hsame (by simp [Happening.Decides]) (absurd rfl) (absurd rfl)

theorem turn_of_call (h : s.Consistent) {c : LinkingCall} {answer : c.Answer}
    (effect : c.effect? p s = some (answer, s')) : Turn (.call c) s s' := by
  have quiet : ¬ (Happening.call c).Decides := by simp [Happening.Decides]
  cases c with
  | establishPath | provision =>
    obtain rfl := (Prod.mk.inj (Option.some.inj effect)).2
    exact .kept ⟨rfl, rfl⟩ quiet (absurd rfl) (absurd rfl)
  | announcePath path =>
    obtain rfl := (Prod.mk.inj (Option.some.inj effect)).2
    exact turn_of_establish h rfl quiet rfl
  | startWait =>
    obtain rfl := congrArg Prod.snd (Option.some.inj effect)
    exact .kept s.startWait_same quiet (absurd rfl) (absurd rfl)
  | finishWait =>
    obtain ⟨value, -, hvalue⟩ := Option.map_eq_some_iff.mp effect
    obtain rfl := (Prod.mk.inj hvalue).2
    exact .kept s.finishWait_same quiet (absurd rfl) (absurd rfl)
  | complete =>
    obtain rfl := (Prod.mk.inj (Option.some.inj effect)).2
    exact turn_of_complete h
  | fail cause =>
    obtain rfl := (Prod.mk.inj (Option.some.inj effect)).2
    exact turn_of_fail h rfl quiet rfl

/-- Every step is one of the turns. -/
theorem turn_of_step (h : s.Consistent) (step : LinkingStep p s w m s' w') : Turn m s s' := by
  cases step with
  | act a => exact turn_of_act h a
  | call effect => exact turn_of_call h effect

theorem not_decides_of_path {path : PathHash} (h : m.path? = some path) : ¬ m.Decides := by
  rintro (rfl | rfl)
  · exact nomatch h
  · exact nomatch h

theorem not_decides_of_cause {cause : LinkingError} (h : m.cause? = some cause) : ¬ m.Decides := by
  rintro (rfl | rfl)
  · exact nomatch h
  · exact nomatch h

/-- No decision is taken when the signal is resolved. -/
theorem not_decides_of_turn (h : s.Consistent) (decided : s.signal ≠ none) (turn : Turn m s s') :
    ¬ m.Decides := by
  cases turn with
  | kept _ hquiet => exact hquiet
  | connected path hpath => exact not_decides_of_path hpath
  | confirmed path _ hconnected =>
    exact absurd (h.signal_eq_none_iff.mpr (.inr ⟨path, hconnected⟩)) decided
  | rejected cause _ hundecided => exact absurd hundecided decided
  | broken cause hcause => exact not_decides_of_cause hcause
  | completed hcomplete =>
    rw [hcomplete]
    rintro (hm | hm)
    · exact nomatch hm
    · exact nomatch hm

end TraceLemmas

open TraceLemmas

section

variable {s s' : LinkingSession} {m : Happening}

theorem Turn.consistent (turn : Turn m s s') (h : s.Consistent) : s'.Consistent := by
  cases turn with
  | kept same => exact same.consistent h
  | connected path _ _ hstate hsignal =>
    rw [LinkingSession.Consistent, hstate, hsignal]
    exact .connected path
  | confirmed path _ _ hstate hsignal =>
    rw [LinkingSession.Consistent, hstate, hsignal]
    exact .confirmed
  | rejected cause _ _ hrejected => exact hrejected.consistent
  | broken cause _ _ hstate hsignal =>
    rw [LinkingSession.Consistent, hstate, hsignal]
    exact .broken cause
  | completed _ _ hstate hsignal =>
    rw [LinkingSession.Consistent, hstate, hsignal]
    exact .completed

/-- The signal is resolved once. -/
theorem Turn.signal_kept (turn : Turn m s s') (h : s.Consistent) {value : Confirmation}
    (resolved : s.signal = some value) : s'.signal = some value := by
  have hdecided : s.signal ≠ none := by rw [resolved]; exact nofun
  cases turn with
  | kept same => rw [same.signal, resolved]
  | connected path _ hconnecting =>
    exact absurd (h.signal_eq_none_iff.mpr (.inl hconnecting)) hdecided
  | confirmed path _ hconnected =>
    exact absurd (h.signal_eq_none_iff.mpr (.inr ⟨path, hconnected⟩)) hdecided
  | rejected cause _ hundecided => exact absurd hundecided hdecided
  | broken cause _ hconfirmed _ hsignal =>
    rw [hsignal, ← resolved, h.signal_of_confirmed hconfirmed]
  | completed _ hconfirmed _ hsignal => rw [hsignal, ← resolved, h.signal_of_confirmed hconfirmed]

/-- An attempt that is over stays as it is. -/
theorem Turn.state_kept (turn : Turn m s s') (h : s.Consistent) (ended : s.state.isTerminal = true) :
    s'.state = s.state := by
  cases turn with
  | kept same => exact same.state
  | rejected cause _ hundecided => exact absurd hundecided (h.signal_of_terminal ended)
  | connected path _ hstate | confirmed path _ hstate | broken cause _ hstate | completed _ hstate =>
    rw [hstate] at ended
    exact nomatch ended

end

/-! ## 3. The rest of a run -/

namespace LinkingWork

/-- Carries out the rest of a run while nobody else acts; nothing comes of it if a call waits
forever. -/
def carryOut? {α : Type} (p : Provisioner) :
    LinkingWork α → LinkingSession → Option (α × LinkingSession)
  | .done a, s => some (a, s)
  | .ask c next, s =>
    match c.effect? p s with
    | some (answer, s) => carryOut? p (next answer) s
    | none => none

/-- Only the wait for the signal can hang. -/
theorem effect?_of_decided {s : LinkingSession} (decided : s.signal ≠ none) (c : LinkingCall) :
    ∃ answer s', c.effect? p s = some (answer, s') := by
  cases c with
  | finishWait =>
    obtain ⟨value, hvalue⟩ := Option.ne_none_iff_exists'.mp decided
    exact ⟨value, s.finishWait, by rw [LinkingCall.effect?, hvalue]; rfl⟩
  | establishPath | announcePath | startWait | provision | complete | fail => exact ⟨_, _, rfl⟩

/-- Once the signal is resolved, the rest of a run comes to its end by itself. -/
theorem carryOut_of_decided (w : LinkingWork LinkingResult) {s : LinkingSession} (h : s.Consistent)
    (decided : s.signal ≠ none) :
    ∃ r s' t, carryOut? p w s = some (r, s') ∧ LinkingTrace p s w t s' (.done r) := by
  -- By induction on the run: each call is answered and keeps the signal resolved.
  induction w generalizing s with
  | done r => exact ⟨r, s, [], rfl, .start⟩
  | ask c next ih =>
    obtain ⟨answer, s₁, heffect⟩ := effect?_of_decided (p := p) decided c
    have hturn := turn_of_call h heffect
    obtain ⟨value, hvalue⟩ := Option.ne_none_iff_exists'.mp decided
    have hdecided : s₁.signal ≠ none := by rw [hturn.signal_kept h hvalue]; exact nofun
    obtain ⟨r, s', t, hrest, htrace⟩ := ih answer (hturn.consistent h) hdecided
    refine ⟨r, s', .call c :: t, ?_, .head (.call heffect) htrace⟩
    rw [carryOut?, heffect]
    exact hrest

end LinkingWork

end DeviceSync
