import DeviceSync.Proofs.Linking.Trace

/-!
# When a device is provisioned

A run shares its session with others, who confirm, decline, fail, cancel, clone and drop it
between any two calls of the run. What the run may rely on is what no turn of the session takes
away.

1. `RunPoint`: at which call a run stands, and what its session is like there.
2. `History`: what the trace so far tells about the session, in particular whether the operator
   confirmed, which path, and whether the attempt is still alive. Both hold at every moment of
   every trace (`sound_of_trace`).
3. `Doomed`: how a run goes on whose attempt failed during the exchange.
4. `no_provisioning_without_operator`: what a run needs of the operator, and what it returns.
-/

namespace DeviceSync

open TraceLemmas

/-! ## 1. Where a run stands -/

namespace LinkingWork

/-! What remains of a run after each of its calls. -/

def afterComplete (device : LinkedDevice) (completed : Except LinkingError Unit) :
    LinkingWork LinkingResult :=
  .done (completed.map fun () => device)

def afterExchange : Except LinkingError LinkedDevice → LinkingWork LinkingResult
  | .error e => .ask (.fail e) fun () => .done (.error e)
  | .ok device => .ask .complete (afterComplete device)

def afterWait : Confirmation → LinkingWork LinkingResult
  | .error e => .done (.error e)
  | .ok () => .ask .provision afterExchange

def afterEntry : Confirmation → LinkingWork LinkingResult
  | .error e => .done (.error e)
  | .ok () => .ask .finishWait afterWait

def afterAnnounce : Unit → LinkingWork LinkingResult := fun () => .ask .startWait afterEntry

def afterPath : Except LinkingError PathHash → LinkingWork LinkingResult
  | .error e => .ask (.fail e) fun () => .done (.error e)
  | .ok path => .ask (.announcePath path) afterAnnounce

theorem provision_eq : provision = .ask .provision afterExchange :=
  congrArg (Procedure.ask _) <| funext fun device => by cases device <;> rfl

/-- The run, cut at its calls. -/
theorem run_eq : run = .ask .establishPath afterPath := by
  refine congrArg (Procedure.ask _) <| funext fun path => ?_
  cases path with
  | error e => rfl
  | ok path =>
    refine congrArg (Procedure.ask _) <| funext fun _ => ?_
    refine congrArg (Procedure.ask _) <| funext fun entry => ?_
    cases entry with
    | error e => rfl
    | ok _ =>
      refine congrArg (Procedure.ask _) <| funext fun value => ?_
      cases value with
      | error e => rfl
      | ok _ => exact provision_eq

end LinkingWork

open LinkingWork

/-- Where a run stands, and what its session is like there. -/
inductive RunPoint (p : Provisioner) (s : LinkingSession) : LinkingWork LinkingResult → Prop
  | establishing : s.awaited = false → s.state ≠ .completed →
      RunPoint p s (.ask .establishPath afterPath)
  | failing (e : LinkingError) : s.state ≠ .completed →
      RunPoint p s (.ask (.fail e) fun () => .done (.error e))
  | announcing (path : PathHash) : p.path = .ok path → s.awaited = false → s.state ≠ .completed →
      RunPoint p s (.ask (.announcePath path) afterAnnounce)
  | entering (path : PathHash) : p.path = .ok path → s.awaited = false → s.state ≠ .completed →
      RunPoint p s (.ask .startWait afterEntry)
  | waiting (path : PathHash) : p.path = .ok path → s.state ≠ .completed →
      RunPoint p s (.ask .finishWait afterWait)
  | provisioning (path : PathHash) : p.path = .ok path → s.signal = some (.ok ()) →
      s.state ≠ .completed → RunPoint p s (.ask .provision afterExchange)
  | completing (device : LinkedDevice) : p.device = .ok device → s.signal = some (.ok ()) →
      s.state ≠ .completed → RunPoint p s (.ask .complete (afterComplete device))
  | succeeded (device : LinkedDevice) : s.state = .completed → RunPoint p s (.done (.ok device))
  | failed (e cause : LinkingError) : s.state = .failed (some cause) →
      RunPoint p s (.done (.error e))

namespace ProvisioningLemmas

variable {p : Provisioner} {s s' : LinkingSession} {w w' : LinkingWork LinkingResult}
variable {m : Happening}

theorem not_completed_of_turn (turn : Turn m s s') (only : m ≠ .call .complete)
    (incomplete : s.state ≠ .completed) : s'.state ≠ .completed := by
  cases turn with
  | kept same => rw [same.state]; exact incomplete
  | connected path _ _ hstate => rw [hstate]; exact nofun
  | confirmed path _ _ hstate => rw [hstate]; exact nofun
  | rejected cause _ _ hrejected => rw [hrejected.state]; exact nofun
  | broken cause _ _ hstate => rw [hstate]; exact nofun
  | completed hcomplete => exact absurd hcomplete only

theorem act_awaited (a : SessionAct) (s : LinkingSession) :
    (a.perform s).2.awaited = s.awaited := by
  cases a with
  | clone => rfl
  | drop => exact s.drop_holders.1
  | establish | confirm => exact (s.apply_sameHolders _).awaited
  | decline => exact s.decline_sameHolders.awaited
  | fail | cancel => exact (s.fail_sameHolders _).awaited

/-- What others do does not move the run, and does not take away what it relies on. -/
theorem runPoint_act (h : s.Consistent) (point : RunPoint p s w) (a : SessionAct) :
    RunPoint p (a.perform s).2 w := by
  have hturn := turn_of_act h a
  have hincomplete := not_completed_of_turn hturn nofun
  cases point with
  | establishing hawaited hstate =>
    exact .establishing ((act_awaited a s).trans hawaited) (hincomplete hstate)
  | failing e hstate => exact .failing e (hincomplete hstate)
  | announcing path hpath hawaited hstate =>
    exact .announcing path hpath ((act_awaited a s).trans hawaited) (hincomplete hstate)
  | entering path hpath hawaited hstate =>
    exact .entering path hpath ((act_awaited a s).trans hawaited) (hincomplete hstate)
  | waiting path hpath hstate => exact .waiting path hpath (hincomplete hstate)
  | provisioning path hpath hsignal hstate =>
    exact .provisioning path hpath (hturn.signal_kept h hsignal) (hincomplete hstate)
  | completing device hdevice hsignal hstate =>
    exact .completing device hdevice (hturn.signal_kept h hsignal) (hincomplete hstate)
  | succeeded device hstate =>
    exact .succeeded device ((hturn.state_kept h (by rw [hstate]; rfl)).trans hstate)
  | failed e cause hstate =>
    exact .failed e cause ((hturn.state_kept h (by rw [hstate]; rfl)).trans hstate)

/-- A failure leaves a failed attempt, unless it was completed before. -/
theorem failed_of_fail (h : s.Consistent) (incomplete : s.state ≠ .completed) (e : LinkingError) :
    ∃ cause, (s.fail e).state = .failed (some cause) := by
  rcases s.fail_cases h e with ⟨-, hrejected⟩ | ⟨-, hstate, -⟩ | ⟨hterminal, hsame⟩
  · exact ⟨e, hrejected.state⟩
  · exact ⟨e, hstate⟩
  · rw [hsame.state]
    exact h.failed_of_terminal hterminal incomplete

theorem completed_of_effect {answer : Except LinkingError Unit}
    (effect : LinkingCall.complete.effect? p s = some (answer, s')) :
    answer = (if s.complete.1 then .ok () else .error s.complete.2.cause) ∧ s' = s.complete.2 := by
  have heffect : (answer, s') =
      (if s.complete.1 then .ok () else .error s.complete.2.cause, s.complete.2) :=
    (Option.some.inj effect).symm
  exact Prod.mk.inj heffect

/-- A run completes its attempt, or finds that it has failed. -/
theorem runPoint_complete (h : s.Consistent) (device : LinkedDevice)
    (signal : s.signal = some (.ok ())) (incomplete : s.state ≠ .completed) :
    RunPoint p s.complete.2
      (afterComplete device (if s.complete.1 then .ok () else .error s.complete.2.cause)) := by
  rcases s.complete_cases h with ⟨-, hcompleted, hafter, -⟩ | ⟨hunconfirmed, hcompleted, hsame⟩
  · rw [hcompleted]
    exact .succeeded device hafter
  · have hover : s.state.isTerminal = true :=
      (h.cases_of_confirmation signal).resolve_left hunconfirmed
    obtain ⟨cause, hcause⟩ := h.failed_of_terminal hover incomplete
    rw [hcompleted, decide_eq_false incomplete]
    exact .failed _ cause (hsame.state.trans hcause)

/-- A call of the run leads on to where the run stands next. -/
theorem runPoint_call (h : s.Consistent) {c : LinkingCall}
    {next : c.Answer → LinkingWork LinkingResult} {answer : c.Answer}
    (point : RunPoint p s (.ask c next)) (effect : c.effect? p s = some (answer, s')) :
    RunPoint p s' (next answer) := by
  have hturn := turn_of_call h effect
  cases point with
  | establishing hawaited hstate =>
    obtain ⟨rfl, rfl⟩ := Prod.mk.inj (Option.some.inj effect)
    cases hpath : p.path with
    | error e => exact .failing e hstate
    | ok path => exact .announcing path hpath hawaited hstate
  | failing e hstate =>
    obtain ⟨-, rfl⟩ := Prod.mk.inj (Option.some.inj effect)
    obtain ⟨cause, hfailed⟩ := failed_of_fail h hstate e
    exact .failed e cause hfailed
  | announcing path hpath hawaited hstate =>
    obtain ⟨-, rfl⟩ := Prod.mk.inj (Option.some.inj effect)
    exact .entering path hpath ((s.apply_sameHolders _).awaited.trans hawaited)
      (not_completed_of_turn hturn nofun hstate)
  | entering path hpath hawaited hstate =>
    -- Nobody has waited on this session before, so the wait is not refused.
    have hentry := (Option.some.inj effect).symm.trans (s.startWait_of_unawaited hawaited)
    obtain ⟨rfl, rfl⟩ := Prod.mk.inj hentry
    exact .waiting path hpath hstate
  | waiting path hpath hstate =>
    obtain ⟨value, hsignal, hvalue⟩ := Option.map_eq_some_iff.mp effect
    obtain ⟨rfl, rfl⟩ := Prod.mk.inj hvalue
    cases value with
    | error e => exact .failed e e (h.failed_of_rejected hsignal)
    | ok _ => exact .provisioning path hpath hsignal hstate
  | provisioning path hpath hsignal hstate =>
    obtain ⟨rfl, rfl⟩ := Prod.mk.inj (Option.some.inj effect)
    cases hdevice : p.device with
    | error e => exact .failing e hstate
    | ok device => exact .completing device hdevice hsignal hstate
  | completing device hdevice hsignal hstate =>
    obtain ⟨rfl, rfl⟩ := completed_of_effect effect
    exact runPoint_complete h device hsignal hstate

end ProvisioningLemmas

/-! ## 2. What a trace tells -/

/-- In this trace the operator confirmed `path`, after `before` and before `after`. -/
structure ConfirmedAt (p : Provisioner) (t before after : List Happening) (path : PathHash) :
    Prop where
  split : t = before ++ .act .confirm true :: after
  moment : ∃ s w, LinkingTrace p {} LinkingWork.run before s w ∧
    s.state = .connected path path.shortCode

/-- What a trace tells after the operator confirmed. -/
structure Consented (p : Provisioner) (t : List Happening) (s : LinkingSession)
    (before after : List Happening) (path : PathHash) : Prop
    extends ConfirmedAt p t before after path where
  only : ∀ m ∈ before ++ after, ¬ m.Decides
  signal : s.signal = some (.ok ())
  alive : s.state ≠ .completed → (s.state = .confirmed ↔ ∀ m ∈ after, m.cause? = none)

/-- What the trace up to now tells about the session. -/
inductive History (p : Provisioner) (t : List Happening) (s : LinkingSession) : Prop
  | undecided : s.signal = none → (∀ m ∈ t, ¬ m.Decides) →
      (s.state = .connecting → t.findSome? Happening.path? = none) →
      (∀ path, s.state = .connected path path.shortCode →
        t.findSome? Happening.path? = some path) → History p t s
  | consented (before after : List Happening) (path : PathHash) :
      Consented p t s before after path → History p t s
  | rejected (cause : LinkingError) : s.signal = some (.error cause) → .act .confirm true ∉ t →
      History p t s

namespace ProvisioningLemmas

variable {p : Provisioner} {s s' : LinkingSession} {w w' : LinkingWork LinkingResult}
variable {m : Happening} {t : List Happening}

theorem not_mem_concat {m' : Happening} (ht : m' ∉ t) (hm : m ≠ m') : m' ∉ t ++ [m] :=
  List.not_mem_append ht fun hmem => hm (List.mem_singleton.mp hmem).symm

theorem forall_mem_concat {P : Happening → Prop} (ht : ∀ m' ∈ t, P m') (hm : P m) :
    ∀ m' ∈ t ++ [m], P m' :=
  List.forall_mem_append.mpr ⟨ht, List.forall_mem_singleton.mpr hm⟩

theorem consented_step {before after : List Happening} {path : PathHash} (h : s.Consistent)
    (consented : Consented p t s before after path) (turn : Turn m s s') :
    Consented p (t ++ [m]) s' before (after ++ [m]) path := by
  have hdecided : s.signal ≠ none := by rw [consented.signal]; exact nofun
  have hquiet := not_decides_of_turn h hdecided turn
  refine ⟨⟨?_, consented.moment⟩, ?_, turn.signal_kept h consented.signal, ?_⟩
  · rw [consented.split, List.append_assoc]
    rfl
  · rw [← List.append_assoc]
    exact forall_mem_concat consented.only hquiet
  · intro hincomplete
    cases turn with
    | kept same _ hfails =>
      rw [same.state] at hincomplete ⊢
      rw [consented.alive hincomplete]
      -- A failure without consequences finds an attempt that is over, and this one is alive.
      refine ⟨fun hafter => forall_mem_concat hafter ?_, fun hafter m' hm' => ?_⟩
      · cases hcause : m.cause? with
        | none => rfl
        | some cause =>
          have hterminal := hfails (by rw [hcause]; exact nofun)
          rw [(consented.alive hincomplete).mpr hafter] at hterminal
          exact nomatch hterminal
      · exact hafter m' (List.mem_append_left _ hm')
    | connected _ _ hconnecting =>
      exact absurd (h.signal_eq_none_iff.mpr (.inl hconnecting)) hdecided
    | confirmed path _ hconnected =>
      exact absurd (h.signal_eq_none_iff.mpr (.inr ⟨path, hconnected⟩)) hdecided
    | rejected cause _ hundecided => exact absurd hundecided hdecided
    | broken cause hcause _ hstate =>
      rw [hstate]
      refine ⟨nofun, fun hafter => ?_⟩
      have hnone := hafter m (List.mem_append_right _ (List.mem_singleton.mpr rfl))
      exact nomatch hcause.symm.trans hnone
    | completed _ _ hstate => exact absurd hstate hincomplete

/-- A decision that is still to be taken: nothing, the path, the confirmation or the rejection. -/
theorem history_of_undecided (h : s.Consistent) (trace : LinkingTrace p {} LinkingWork.run t s w)
    (undecided : s.signal = none) (quiet : ∀ m ∈ t, ¬ m.Decides)
    (connecting : s.state = .connecting → t.findSome? Happening.path? = none)
    (connected : ∀ path, s.state = .connected path path.shortCode →
      t.findSome? Happening.path? = some path) (turn : Turn m s s') : History p (t ++ [m]) s' := by
  have hnot : ∀ m', m'.Decides → m' ∉ t := fun m' hm' hmem => quiet m' hmem hm'
  cases turn with
  | kept same hquiet _ hpath =>
    refine .undecided (same.signal.trans undecided) (forall_mem_concat quiet hquiet) ?_ ?_
    · intro hstate
      rw [same.state] at hstate
      have hnone : m.path? = none := by
        cases hm : m.path? with
        | none => rfl
        | some path => exact absurd hstate (hpath (by rw [hm]; exact nofun))
      rw [List.findSome?_append, connecting hstate, List.findSome?_singleton, hnone]
      rfl
    · intro path hstate
      rw [same.state] at hstate
      rw [List.findSome?_append, connected path hstate]
      rfl
  | connected path hpath hconnecting hstate hsignal =>
    refine .undecided hsignal (forall_mem_concat quiet (not_decides_of_path hpath)) ?_ ?_
    · rw [hstate]
      exact nofun
    · intro path' hstate'
      obtain ⟨rfl, -⟩ := LinkingState.connected.inj (hstate.symm.trans hstate')
      rw [List.findSome?_append, connecting hconnecting, List.findSome?_singleton, hpath]
      rfl
  | confirmed path hm hconnected hstate hsignal =>
    subst hm
    refine .consented t [] path ⟨⟨rfl, s, w, trace, hconnected⟩, ?_, hsignal,
      fun _ => ⟨fun _ => nofun, fun _ => hstate⟩⟩
    rw [List.append_nil]
    exact quiet
  | rejected cause hm _ hrejected =>
    exact .rejected cause hrejected.signal (not_mem_concat (hnot _ (.inl rfl)) hm)
  | broken _ _ hconfirmed | completed _ hconfirmed =>
    exact nomatch undecided.symm.trans (h.signal_of_confirmed hconfirmed)

/-- One more step of a trace. -/
theorem history_step (h : s.Consistent) (trace : LinkingTrace p {} LinkingWork.run t s w)
    (history : History p t s) (turn : Turn m s s') : History p (t ++ [m]) s' := by
  cases history with
  | undecided hsignal hquiet hconnecting hconnected =>
    exact history_of_undecided h trace hsignal hquiet hconnecting hconnected turn
  | consented before after path hconsented =>
    exact .consented before (after ++ [m]) path (consented_step h hconsented turn)
  | rejected cause hsignal hno =>
    have hdecided : s.signal ≠ none := by rw [hsignal]; exact nofun
    refine .rejected cause (turn.signal_kept h hsignal) (not_mem_concat hno fun hm => ?_)
    exact not_decides_of_turn h hdecided turn (.inl hm)

end ProvisioningLemmas

/-- What holds at every moment of a trace of a run on a fresh session. -/
structure Sound (p : Provisioner) (t : List Happening) (s : LinkingSession)
    (w : LinkingWork LinkingResult) : Prop where
  consistent : s.Consistent
  point : RunPoint p s w
  history : History p t s
  provisioned : .call .provision ∈ t → s.signal = some (.ok ())

namespace ProvisioningLemmas

variable {p : Provisioner} {s s' : LinkingSession} {w w' : LinkingWork LinkingResult}
variable {m : Happening} {t : List Happening}

theorem sound_step (trace : LinkingTrace p {} LinkingWork.run t s w) (sound : Sound p t s w)
    (step : LinkingStep p s w m s' w') : Sound p (t ++ [m]) s' w' := by
  have hturn := turn_of_step sound.consistent step
  refine ⟨hturn.consistent sound.consistent, ?_,
    history_step sound.consistent trace sound.history hturn, fun hmem => ?_⟩
  · cases step with
    | act a => exact runPoint_act sound.consistent sound.point a
    | call effect => exact runPoint_call sound.consistent sound.point effect
  · rcases List.mem_append.mp hmem with hmem | hmem
    · exact hturn.signal_kept sound.consistent (sound.provisioned hmem)
    · obtain rfl := List.mem_singleton.mp hmem
      cases step with
      | call effect =>
        cases sound.point with
        | provisioning path _ hsignal => exact hturn.signal_kept sound.consistent hsignal

theorem sound_of_trace (trace : LinkingTrace p {} LinkingWork.run t s w) : Sound p t s w := by
  -- By induction on the trace: a turn keeps the session consistent, the run is where it was unless
  -- the step is its own, and the history grows by what happened.
  induction trace with
  | start =>
    refine ⟨.connecting, ?_, .undecided rfl nofun (fun _ => rfl) nofun, nofun⟩
    rw [LinkingWork.run_eq]
    exact .establishing rfl nofun
  | step trace hstep ih => exact sound_step trace ih hstep

end ProvisioningLemmas

/-! ## 3. A failure during the exchange -/

/-- What may remain of a run whose attempt failed with `cause` during the exchange, if the exchange
succeeds. -/
inductive Doomed (device : LinkedDevice) (cause : LinkingError) : LinkingWork LinkingResult → Prop
  | exchanging : Doomed device cause (.ask .provision afterExchange)
  | completing : Doomed device cause (.ask .complete (afterComplete device))
  | returned : Doomed device cause (.done (.error cause))

namespace ProvisioningLemmas

variable {p : Provisioner} {s s' : LinkingSession} {w w' : LinkingWork LinkingResult}
variable {m : Happening} {t : List Happening}

theorem complete_of_failed (h : s.Consistent) {cause : LinkingError}
    (failed : s.state = .failed (some cause)) :
    s.complete.1 = false ∧ s.complete.2.cause = cause ∧ s.Same s.complete.2 := by
  rcases s.complete_cases h with ⟨hconfirmed, -⟩ | ⟨-, hcompleted, hsame⟩
  · exact nomatch failed.symm.trans hconfirmed
  · refine ⟨?_, ?_, hsame⟩
    · rw [hcompleted, failed]
      rfl
    · rw [LinkingSession.cause, hsame.state, failed]

theorem doomed_step {device : LinkedDevice} {cause : LinkingError} (given : p.device = .ok device)
    (h : s.Consistent) (failed : s.state = .failed (some cause)) (doomed : Doomed device cause w)
    (step : LinkingStep p s w m s' w') : Doomed device cause w' := by
  cases step with
  | act a => exact doomed
  | @call _ c next answer effect =>
    cases doomed with
    | exchanging =>
      obtain ⟨rfl, rfl⟩ := Prod.mk.inj (Option.some.inj effect)
      rw [given]
      exact .completing
    | completing =>
      obtain ⟨rfl, rfl⟩ := completed_of_effect effect
      obtain ⟨hcompleted, hcause, -⟩ := complete_of_failed h failed
      rw [hcompleted, hcause]
      exact .returned

/-- Whatever happens after it, a run that is doomed returns the cause. -/
theorem doomed_of_trace {device : LinkedDevice} {cause : LinkingError}
    (given : p.device = .ok device) (h : s.Consistent) (failed : s.state = .failed (some cause))
    (doomed : Doomed device cause w) (trace : LinkingTrace p s w t s' w') :
    s'.Consistent ∧ s'.state = .failed (some cause) ∧ Doomed device cause w' := by
  induction trace with
  | start => exact ⟨h, failed, doomed⟩
  | step _ hstep ih =>
    obtain ⟨hconsistent, hfailed, hdoomed⟩ := ih
    have hturn := turn_of_step hconsistent hstep
    refine ⟨hturn.consistent hconsistent, ?_, doomed_step given hconsistent hfailed hdoomed hstep⟩
    exact (hturn.state_kept hconsistent (by rw [hfailed]; rfl)).trans hfailed

/-- A run that is doomed returns the cause. -/
theorem carryOut_of_doomed {device : LinkedDevice} {cause : LinkingError}
    (given : p.device = .ok device) (h : s.Consistent) (failed : s.state = .failed (some cause))
    (doomed : Doomed device cause w) :
    ∃ s', carryOut? p w s = some (.error cause, s') := by
  have hover : s.state.isTerminal = true := by rw [failed]; rfl
  obtain ⟨r, s', t, hrest, htrace⟩ := carryOut_of_decided (p := p) w h (h.signal_of_terminal hover)
  obtain ⟨-, -, hdoomed⟩ := doomed_of_trace given h failed doomed htrace
  cases hdoomed with
  | returned => exact ⟨s', hrest⟩

end ProvisioningLemmas

/-! ## 4. What a run needs of the operator -/

/-- The exchange with the new device is under way: it was called, and did not return yet. -/
def LinkingWork.Exchanging (w : LinkingWork LinkingResult) : Prop :=
  ∃ next, w = .ask .provision next

namespace ProvisioningLemmas

variable {p : Provisioner} {s s' : LinkingSession} {w w' : LinkingWork LinkingResult}
variable {t : List Happening}

/-- Whoever exchanges was told that the operator confirmed. -/
theorem signal_of_exchanging (point : RunPoint p s w) (exchanging : w.Exchanging) :
    w = .ask .provision afterExchange ∧ s.signal = some (.ok ()) ∧ s.state ≠ .completed ∧
      ∃ path, p.path = .ok path := by
  obtain ⟨next, rfl⟩ := exchanging
  cases point with
  | provisioning path hpath hsignal hstate => exact ⟨rfl, hsignal, hstate, path, hpath⟩

theorem consented_of_signal (sound : Sound p t s w) (signal : s.signal = some (.ok ())) :
    ∃ before after path, Consented p t s before after path := by
  cases sound.history with
  | undecided hnone => exact nomatch hnone.symm.trans signal
  | consented before after path hconsented => exact ⟨before, after, path, hconsented⟩
  | rejected cause hrejected => exact nomatch hrejected.symm.trans signal

theorem signal_of_declined (sound : Sound p t s w) (declined : .act .decline true ∈ t) :
    ∃ cause, s.signal = some (.error cause) := by
  cases sound.history with
  | undecided _ hquiet => exact absurd (.inr rfl) (hquiet _ declined)
  | consented before after path hconsented =>
    rw [hconsented.split] at declined
    rcases List.mem_append.mp declined with hbefore | hafter
    · exact absurd (.inr rfl) (hconsented.only _ (List.mem_append_left _ hbefore))
    · rcases List.mem_cons.mp hafter with hconfirm | hafter
      · exact nomatch hconfirm
      · exact absurd (.inr rfl) (hconsented.only _ (List.mem_append_right _ hafter))
  | rejected cause hrejected => exact ⟨cause, hrejected⟩

theorem mem_of_exchange (sound : Sound p t s w) (exchange : w.Exchanging ∨ .call .provision ∈ t) :
    .act .confirm true ∈ t := by
  have hsignal : s.signal = some (.ok ()) := by
    rcases exchange with hexchanging | hprovisioned
    · exact (signal_of_exchanging sound.point hexchanging).2.1
    · exact sound.provisioned hprovisioned
  obtain ⟨before, after, path, hconsented⟩ := consented_of_signal sound hsignal
  rw [hconsented.split]
  exact List.mem_append_right _ List.mem_cons_self

/-- The rest of a run on a declined attempt. -/
theorem carryOut_of_declined (trace : LinkingTrace p {} LinkingWork.run t s w)
    (declined : .act .decline true ∈ t) : ∃ e s', carryOut? p w s = some (.error e, s') := by
  have hsound := sound_of_trace trace
  obtain ⟨cause, hsignal⟩ := signal_of_declined hsound declined
  have hdecided : s.signal ≠ none := by rw [hsignal]; exact nofun
  obtain ⟨r, s', t', hrest, htrace⟩ := carryOut_of_decided (p := p) w hsound.consistent hdecided
  -- The result is read off the invariant at the end of the longer trace.
  have hend := sound_of_trace (trace.append htrace)
  obtain ⟨cause', hsignal'⟩ := signal_of_declined hend (List.mem_append_left _ declined)
  have hfailed := hend.consistent.failed_of_rejected hsignal'
  cases r with
  | error e => exact ⟨e, s', hrest⟩
  | ok device =>
    cases hend.point with
    | succeeded _ hcompleted => exact nomatch hcompleted.symm.trans hfailed

theorem state_of_returned (sound : Sound p t s w) :
    (∀ device, w = .done (.ok device) → s.state = .completed) ∧
    (∀ e, w = .done (.error e) → ∃ cause, s.state = .failed (some cause)) := by
  refine ⟨?_, ?_⟩
  · rintro device rfl
    cases sound.point with
    | succeeded _ hcompleted => exact hcompleted
  · rintro e rfl
    cases sound.point with
    | failed _ cause hfailed => exact ⟨cause, hfailed⟩

/-- Others make the attempt fail during the exchange. -/
theorem failed_during_exchange (sound : Sound p t s w) (exchanging : w.Exchanging) {a : SessionAct}
    {told : Bool} {cause : LinkingError} (fails : (Happening.act a told).cause? = some cause) :
    ∃ recorded, (a.perform s).2.state = .failed (some recorded) ∧
      (s.state = .confirmed → recorded = cause) := by
  have hperform : (a.perform s).2 = s.fail cause := by
    cases a with
    | fail => cases fails; rfl
    | cancel => cases fails; rfl
    | clone | drop | establish | confirm | decline => exact nomatch fails
  obtain ⟨-, hsignal, hstate, -⟩ := signal_of_exchanging sound.point exchanging
  rw [hperform]
  rcases s.fail_cases sound.consistent cause with ⟨hnone, -⟩ | ⟨-, hfailed, -⟩ | ⟨hover, hsame⟩
  · exact nomatch hnone.symm.trans hsignal
  · exact ⟨cause, hfailed, fun _ => rfl⟩
  · obtain ⟨recorded, hrecorded⟩ := sound.consistent.failed_of_terminal hover hstate
    refine ⟨recorded, hsame.state.trans hrecorded, fun hconfirmed => ?_⟩
    exact nomatch hrecorded.symm.trans hconfirmed

/-- A run returns what was recorded when its attempt failed during a successful exchange. -/
theorem returns_recorded (sound : Sound p t s w) (exchanging : w.Exchanging) {device : LinkedDevice}
    (given : p.device = .ok device) (a : SessionAct) {recorded : LinkingError}
    (failed : (a.perform s).2.state = .failed (some recorded)) {t' : List Happening}
    (rest : LinkingTrace p (a.perform s).2 w t' s' w') :
    ∃ s'', carryOut? p w' s' = some (.error recorded, s'') := by
  have hconsistent := (turn_of_act sound.consistent a).consistent sound.consistent
  obtain ⟨rfl, -⟩ := signal_of_exchanging sound.point exchanging
  obtain ⟨hc, hfailed, hdoomed⟩ := doomed_of_trace given hconsistent failed .exchanging rest
  exact carryOut_of_doomed given hc hfailed hdoomed

end ProvisioningLemmas

open ProvisioningLemmas

namespace Sample

/-- The path hash of equal octets. -/
def rendezvous (b : UInt8) : PathHash := ⟨List.replicate 32 b, rfl⟩

def laptop : LinkedDevice := ⟨7, "Laptop", "Linux", none⟩

/-- The other side of a linking attempt that comes to its end. -/
def provisioner : Provisioner := ⟨.ok (rendezvous 1), .ok laptop⟩

/-- The operator confirmed while a run waits. -/
def confirmed : LinkingSession :=
  { state := .confirmed, signal := some (.ok ()), awaited := true, announcements := 2 }

/-- What happens until the operator confirms: the session is shared, a path is established, and
the run begins to wait. -/
def confirming : List Happening :=
  [.act .clone true, .call .establishPath, .call (.announcePath (rendezvous 1)), .call .startWait,
    .act .confirm true]

theorem confirming_trace :
    LinkingTrace provisioner {} LinkingWork.run confirming confirmed (.ask .finishWait afterWait) :=
  .head (.act .clone) <| .head (.call rfl) <| .head (.call rfl) <| .head (.call rfl) <|
    .head (.act .confirm) .start

/-- The run goes on to the exchange. -/
theorem exchanging_trace :
    LinkingTrace provisioner {} LinkingWork.run (confirming ++ [.call .finishWait])
      confirmed.finishWait (.ask .provision afterExchange) :=
  confirming_trace.append <| .head (.call rfl) .start

end Sample

/-- No provisioning without the operator, whatever others do with the session while a run goes on.

The exchange is under way, or over, only after the operator confirmed. Once the operator declined
there is none, and the run returns an error. A run that returned a device left the attempt
completed, and one that returned an error left it failed. If others make the attempt fail during
an exchange that succeeds, the run returns the cause that is on record, which is theirs unless the
attempt had failed before. -/
theorem no_provisioning_without_operator {p : Provisioner} {t : List Happening} {s : LinkingSession}
    {w : LinkingWork LinkingResult} (trace : LinkingTrace p {} LinkingWork.run t s w) :
    (w.Exchanging ∨ .call .provision ∈ t → .act .confirm true ∈ t) ∧
    (.act .decline true ∈ t →
      ¬ w.Exchanging ∧ .call .provision ∉ t ∧ ∃ e s', carryOut? p w s = some (.error e, s')) ∧
    (∀ device, w = .done (.ok device) → s.state = .completed) ∧
    (∀ e, w = .done (.error e) → ∃ cause, s.state = .failed (some cause)) ∧
    (∀ device a cause, w.Exchanging → p.device = .ok device →
      (Happening.act a (a.perform s).1).cause? = some cause →
      ∃ recorded, (a.perform s).2.state = .failed (some recorded) ∧
        (s.state = .confirmed → recorded = cause) ∧
        ∀ t' s' w', LinkingTrace p (a.perform s).2 w t' s' w' →
          ∃ s'', carryOut? p w' s' = some (.error recorded, s'')) := by
  have hsound := sound_of_trace trace
  obtain ⟨hok, herror⟩ := state_of_returned hsound
  refine ⟨mem_of_exchange hsound, fun hdeclined => ?_, hok, herror, ?_⟩
  · obtain ⟨cause, hsignal⟩ := signal_of_declined hsound hdeclined
    refine ⟨fun hexchanging => ?_, fun hprovisioned => ?_, carryOut_of_declined trace hdeclined⟩
    · exact nomatch (signal_of_exchanging hsound.point hexchanging).2.1.symm.trans hsignal
    · exact nomatch (hsound.provisioned hprovisioned).symm.trans hsignal
  · intro device a cause hexchanging hgiven hfails
    obtain ⟨recorded, hfailed, hcause⟩ := failed_during_exchange hsound hexchanging hfails
    refine ⟨recorded, hfailed, hcause, fun t' s' w' hrest => ?_⟩
    exact returns_recorded hsound hexchanging hgiven a hfailed hrest

/-- The operator had confirmed when the sample run provisioned the laptop; closed during the
exchange, it returns the cancellation. -/
theorem closed_during_exchange :
    .act .confirm true ∈ Sample.confirming ++ [.call .finishWait] ∧
    ∃ s, carryOut? Sample.provisioner (.ask .provision afterExchange)
      (Sample.confirmed.finishWait.cancel "closed") = some (.error (.cancelled "closed"), s) := by
  obtain ⟨hconfirm, -, -, -, hfails⟩ := no_provisioning_without_operator Sample.exchanging_trace
  refine ⟨hconfirm (.inl ⟨afterExchange, rfl⟩), ?_⟩
  obtain ⟨recorded, -, hrecorded, hreturns⟩ :=
    hfails Sample.laptop (.cancel "closed") (.cancelled "closed") ⟨afterExchange, rfl⟩ rfl rfl
  obtain rfl := hrecorded rfl
  exact hreturns [] _ _ .start

end DeviceSync
