import DeviceSync.Proofs.Queue.Backlog
import DeviceSync.Proofs.Session.Pumping
import DeviceSync.Replay.Basic

/-!
# Replays, step by step

A replay logs in, subscribes to the completions, starts a pump for the envelopes and looks whether the
queue is halted. If it is not, it collects completions up to the last one or to a failure. The worker is
at work from the login on, and nothing keeps it in step with the collecting.

1. `Replaying`: a replay, with all that may happen between two of its own steps.
2. `step_session`, `session_step`, `collect_cases`: what its steps do.
3. `Replaying.of_replay`: what `Database.replay` carries out is one of these replays.
-/

namespace DeviceSync

/-! ## 1. Replays -/

/-- How far a replay has come. -/
inductive Replay.Stage
  | loggingIn
  | subscribed
  | pumping
  | collecting

/-- The subscriber is so far behind that completions are missed. -/
def Subscription.misses (s : Subscription) (q : TaskQueue) : Bool :=
  s.position < q.published.length - feedSize

/-- A replay under way. `lost` tells that completions are lost to it: the queue was halted when it
looked, and it collects nothing, or it fell behind and missed some. -/
inductive Replaying (w : Workspace) (capacity : Nat) (policy : RetryPolicy) (last : Nat) :
    Replay.Stage → (lost : Bool) → Replay → Prop
  | login :
      Replaying w capacity policy last .loggingIn false
        { schedule := { workspace := w, sessions := [{ queue := Backlog.opening capacity policy }] }
          subscription := ⟨0⟩
          last }
  /-- The services become any others, time passes, and names are drawn. -/
  | meanwhile {stage : Replay.Stage} {lost : Bool} {r : Replay} (services : Services) (now drawn : Nat) :
      Replaying w capacity policy last stage lost r →
      Replaying w capacity policy last stage lost
        { r with
          schedule := { r.schedule with
            now, drawn, workspace := { r.schedule.workspace with services } } }
  | session {stage : Replay.Stage} {lost : Bool} {r r' : Replay} (step : SessionStep) :
      Replaying w capacity policy last stage lost r → r.step (.session step) = some r' →
      Replaying w capacity policy last stage lost r'
  | subscribe {lost : Bool} {r : Replay} {s : Session} {count : Nat} :
      Replaying w capacity policy last .loggingIn lost r → r.schedule.current? = some s →
      s.queue.reply? 0 = some (.resumed count) →
      Replaying w capacity policy last .subscribed lost
        { r with subscription := .toQueue s.queue }
  | startPump {lost : Bool} {r : Replay} :
      Replaying w capacity policy last .subscribed lost r →
      Replaying w capacity policy last .pumping lost
        { r with schedule := r.schedule.onCurrent Session.startPump }
  | look {lost : Bool} {r : Replay} {s : Session} :
      Replaying w capacity policy last .pumping lost r → r.schedule.current? = some s →
      Replaying w capacity policy last .collecting s.queue.status.isHalted
        { r with collecting := !s.queue.status.isHalted }
  | collect {lost : Bool} {r r' : Replay} {s : Session} :
      Replaying w capacity policy last .collecting lost r → r.schedule.current? = some s →
      r.step .collect = some r' →
      Replaying w capacity policy last .collecting (lost || r.subscription.misses s.queue) r'

theorem Schedule.current?_of_alone {t : Schedule} {s : Session} (alone : t.sessions = [s]) :
    t.current? = some s := by
  rw [Schedule.current?, alone]
  rfl

theorem Schedule.onCurrent_of_alone {t : Schedule} {s : Session} (alone : t.sessions = [s])
    (f : Session → Session) : t.onCurrent f = { t with sessions := [f s] } := by
  rw [Schedule.onCurrent, alone]
  rfl

/-- `Replay.start` makes these three moments one. -/
theorem Replaying.start {w : Workspace} {capacity last count : Nat} {policy : RetryPolicy} {lost : Bool}
    {t : Schedule} {s : Session}
    (replaying : Replaying w capacity policy last .loggingIn lost
      { schedule := t, subscription := ⟨0⟩, last })
    (sessions : t.sessions = [s]) (returned : s.queue.reply? 0 = some (.resumed count)) :
    Replaying w capacity policy last .collecting s.queue.status.isHalted (Replay.start t s last) := by
  have hsubscribed := replaying.subscribe (Schedule.current?_of_alone sessions) returned
  refine Replaying.look (s := s.startPump) hsubscribed.startPump ?_
  exact Schedule.current?_of_alone (congrArg Schedule.sessions (Schedule.onCurrent_of_alone sessions _))

/-! ## 2. Steps -/

namespace ReplayingLemmas

variable {capacity last : Nat} {policy : RetryPolicy} {stage : Replay.Stage} {r r' : Replay}
variable {s s' : Session} {t t' : Schedule} {w₀ w w' : Workspace}

/-- A step of the session is a step of the replay. -/
theorem step_session (sessions : r.schedule.sessions = [s]) {step : SessionStep}
    (possible : s.step r.schedule.workspace r.schedule.now step = some (s', w')) :
    r.step (.session step) =
      some { r with schedule := { r.schedule with sessions := [s'], workspace := w' } } := by
  simp [Replay.step, Schedule.current?_of_alone sessions, Schedule.onCurrent_of_alone sessions, possible]

theorem session_step (sessions : r.schedule.sessions = [s]) {step : SessionStep}
    (h : r.step (.session step) = some r') : ∃ s' w',
    Session.Next (s, r.schedule.workspace) (s', w') ∧
      r' = { r with schedule := { r.schedule with sessions := [s'], workspace := w' } } := by
  simp only [Replay.step, Schedule.current?_of_alone sessions, Schedule.onCurrent_of_alone sessions,
    Option.bind_eq_bind, Option.bind_some, Option.bind_eq_some_iff, Prod.exists] at h
  obtain ⟨s', w', hnext, hr⟩ := h
  exact ⟨s', w', ⟨_, _, hnext⟩, (Option.some.inj hr).symm⟩

/-- Whoever collects gets the next completion, or is told that some were missed. -/
theorem collect_cases (current : r.schedule.current? = some s) (step : r.step .collect = some r') :
    r.collecting = true ∧
    ((r.subscription.misses s.queue = true ∧ r' = { r with collecting := false }) ∨
      (r.subscription.misses s.queue = false ∧ ∃ c,
        s.queue.published[r.subscription.position]? = some c ∧
        r' = { r with
          subscription := ⟨r.subscription.position + 1⟩
          collected := r.collected ++ [c]
          collecting := c.sequence < r.last && c.result.isOk })) := by
  have hstep : r.collect? = some r' := step
  rw [Replay.collect?] at hstep
  cases hcollecting : r.collecting with
  | false => simp [hcollecting] at hstep
  | true =>
    refine ⟨rfl, ?_⟩
    simp only [hcollecting, current, Subscription.next?] at hstep
    by_cases hmisses : r.subscription.position < s.queue.published.length - feedSize
    · refine .inl ⟨decide_eq_true hmisses, ?_⟩
      simp [hmisses] at hstep
      exact hstep.symm
    · refine .inr ⟨decide_eq_false hmisses, ?_⟩
      cases hc : s.queue.published[r.subscription.position]? with
      | none => simp [hmisses, hc] at hstep
      | some c =>
        simp [hmisses, hc] at hstep
        exact ⟨c, rfl, hstep.symm⟩

/-! ## 3. The replay that is carried out -/

/-- The replay has come to this state, and it holds the only session. -/
def CarriedOut (w : Workspace) (capacity : Nat) (policy : RetryPolicy) (last : Nat)
    (stage : Replay.Stage) (r : Replay) : Prop :=
  (∃ lost, Replaying w capacity policy last stage lost r) ∧
    ∃ s, r.schedule.sessions = [s] ∧ s.held = true

theorem held_of_step {now : Nat} {step : SessionStep} (h : s.step w now step = some (s', w')) :
    s'.held = s.held := by
  cases step with
  | queue step =>
    obtain ⟨_, -, hs⟩ := Option.map_eq_some_iff.mp h
    exact (congrArg (·.1.held) hs).symm
  | pump i =>
    rw [Session.step] at h
    split at h
    · cases h
    · obtain ⟨_, -, hs⟩ := Option.map_eq_some_iff.mp h
      exact (congrArg (·.1.held) hs).symm

theorem CarriedOut.step
    (carriedOut : CarriedOut w₀ capacity policy last stage { r with schedule := t })
    (step : t.step? = some t') :
    CarriedOut w₀ capacity policy last stage { r with schedule := t' } := by
  obtain ⟨⟨lost, hreplaying⟩, s, hsessions, hheld⟩ := carriedOut
  have hsessions : t.sessions = [s] := hsessions
  rw [Schedule.step?, hsessions, Schedule.stepFrom] at step
  split at step
  · next s' w' htaken =>
    obtain ⟨step', -, hstep⟩ := List.exists_of_findSome?_eq_some htaken
    have hheld' := (held_of_step hstep).trans hheld
    have hkept : s'.stopIfAbandoned = s' := by simp [Session.stopIfAbandoned, hheld']
    obtain rfl := Option.some.inj step
    rw [hsessions, List.set_cons_zero, hkept]
    have hreplaying' := hreplaying.session step' (step_session hsessions hstep)
    exact ⟨⟨lost, hreplaying'.meanwhile w'.services t.now (t.drawn + 1)⟩, s', rfl, hheld'⟩
  · cases step

theorem CarriedOut.clock
    (carriedOut : CarriedOut w₀ capacity policy last stage { r with schedule := t }) (now : Nat) :
    CarriedOut w₀ capacity policy last stage { r with schedule := { t with now } } := by
  obtain ⟨⟨lost, hreplaying⟩, hsessions⟩ := carriedOut
  exact ⟨⟨lost, hreplaying.meanwhile t.workspace.services now t.drawn⟩, hsessions⟩

theorem CarriedOut.runUntil (stop : Schedule → Bool) (limit fuel : Nat)
    (carriedOut : CarriedOut w₀ capacity policy last stage { r with schedule := t }) :
    CarriedOut w₀ capacity policy last stage
      { r with schedule := Schedule.runUntil stop limit fuel t } := by
  induction fuel generalizing t with
  | zero => exact carriedOut
  | succ fuel ih =>
    rw [Schedule.runUntil]
    split
    · exact carriedOut
    · split
      · next hstep => exact ih (carriedOut.step hstep)
      · split
        · split
          · exact ih (carriedOut.clock _)
          · exact carriedOut.clock _
        · exact carriedOut.clock _

theorem CarriedOut.collect
    (carriedOut : CarriedOut w₀ capacity policy last .collecting r) (collect : r.collect? = some r') :
    CarriedOut w₀ capacity policy last .collecting r' := by
  obtain ⟨⟨lost, hreplaying⟩, s, hsessions, hheld⟩ := carriedOut
  have hcurrent := Schedule.current?_of_alone hsessions
  obtain ⟨-, ⟨-, rfl⟩ | ⟨-, c, -, rfl⟩⟩ := collect_cases hcurrent collect
  · exact ⟨⟨_, hreplaying.collect hcurrent collect⟩, s, hsessions, hheld⟩
  · exact ⟨⟨_, hreplaying.collect hcurrent collect⟩, s, hsessions, hheld⟩

theorem CarriedOut.run (fuel : Nat) (carriedOut : CarriedOut w₀ capacity policy last .collecting r) :
    CarriedOut w₀ capacity policy last .collecting (Replay.run fuel r) := by
  induction fuel generalizing r with
  | zero => exact carriedOut
  | succ fuel ih =>
    rw [Replay.run]
    split
    · exact carriedOut
    · split
      · next hcollect => exact ih (carriedOut.collect hcollect)
      · split
        · next hstep => exact ih (carriedOut.step hstep)
        · split
          · exact ih (carriedOut.clock _)
          · exact carriedOut

/-- A call that is answered has its answer before the day is over. -/
theorem runUntil_of_call {request : Request} {reply : Reply} (alone : t.sessions = [s])
    (called : t.call request = (some reply, t')) :
    (∃ stop limit, t' = Schedule.runUntil stop limit Schedule.fuel
      { t with sessions := [{ s with queue := (s.queue.join request).2 }] }) ∧
    t'.current?.bind (·.queue.reply? (s.queue.join request).1) = some reply := by
  simp only [Schedule.call, Schedule.current?_of_alone alone,
    Schedule.onCurrent_of_alone alone] at called
  split at called
  · next hreply =>
    obtain ⟨hsome, rfl⟩ := Prod.mk.inj called
    exact ⟨⟨_, _, rfl⟩, hreply.trans hsome⟩
  · cases called

/-- A login that returned is the first part of a replay. -/
theorem carriedOut_of_login (last : Nat) {count : Nat}
    (login : ({ workspace := w } : Schedule).login capacity policy = (some (.resumed count), t)) :
    CarriedOut w capacity policy last .loggingIn { schedule := t, subscription := ⟨0⟩, last } ∧
      t.current?.bind (·.queue.reply? 0) = some (.resumed count) := by
  have hnobody : ({ workspace := w } : Schedule).onCurrent Session.release = { workspace := w } := rfl
  simp only [Schedule.login, hnobody, List.nil_append] at login
  rcases hcall : Schedule.call { workspace := w, sessions := [Session.start capacity policy] }
      .resumeStored with ⟨reply, ended⟩
  rw [show ({ Session.start capacity policy with wake := 0 } : Session) =
    Session.start capacity policy from rfl, hcall] at login
  cases reply with
  | none => cases login
  | some reply =>
    obtain ⟨⟨stop, limit, hended⟩, hreply⟩ := runUntil_of_call rfl hcall
    cases reply with
    | queued | refused => cases login
    | resumed number =>
      obtain ⟨hsome, rfl⟩ := Prod.mk.inj login
      have hopening : CarriedOut w capacity policy last .loggingIn
          { schedule := { workspace := w, sessions := [{ queue := Backlog.opening capacity policy }] }
            subscription := ⟨0⟩
            last } := ⟨⟨_, .login⟩, _, rfl, rfl⟩
      refine ⟨?_, hreply.trans hsome⟩
      rw [hended]
      exact CarriedOut.runUntil (r := { schedule := ended, subscription := ⟨0⟩, last }) stop limit
        Schedule.fuel hopening

theorem CarriedOut.start {count : Nat}
    (carriedOut : CarriedOut w₀ capacity policy last .loggingIn
      { schedule := t, subscription := ⟨0⟩, last })
    (returned : t.current?.bind (·.queue.reply? 0) = some (.resumed count)) :
    ∃ s, t.current? = some s ∧
      CarriedOut w₀ capacity policy last .collecting (Replay.start t s last) := by
  obtain ⟨⟨lost, hreplaying⟩, s, hsessions, hheld⟩ := carriedOut
  have hsessions : t.sessions = [s] := hsessions
  have hcurrent := Schedule.current?_of_alone hsessions
  rw [hcurrent, Option.bind_some] at returned
  refine ⟨s, hcurrent, ⟨_, hreplaying.start hsessions returned⟩, s.startPump, ?_, hheld⟩
  exact congrArg Schedule.sessions (Schedule.onCurrent_of_alone hsessions _)

end ReplayingLemmas

open ReplayingLemmas in
/-- A replay that reports what it collected is one of these replays. -/
theorem Replaying.of_replay {config : Config} {me : Identity} {d d' : Database}
    {envelopes : List Envelope} {pending : List (TaskId × TaskData)} {completions : List Completion}
    (load : d.tasks.load = .ok pending)
    (replayed : d.replay config me envelopes = (.ok completions, d')) : ∃ lost r,
    Replaying (Replay.workspace me d envelopes) config.tasks.queueCapacity.toNat config.tasks.policy
      (pending.length + envelopes.length - 1) .collecting lost r ∧
    r.collected = completions ∧ Replay.databaseOf d r.finish.workspace = d' := by
  rw [Database.replay] at replayed
  split at replayed
  · cases replayed
  simp only [load] at replayed
  rcases hlogin : Schedule.login { workspace := Replay.workspace me d envelopes }
      config.tasks.queueCapacity.toNat config.tasks.policy with ⟨reply, t⟩
  rw [hlogin] at replayed
  cases reply with
  | none => cases replayed
  | some reply =>
    cases reply with
    | queued => cases replayed
    | refused e => cases replayed
    | resumed count =>
      obtain ⟨hloggedIn, hreturned⟩ :=
        carriedOut_of_login (pending.length + envelopes.length - 1) hlogin
      obtain ⟨s, hcurrent, hstarted⟩ := hloggedIn.start hreturned
      simp only [hcurrent] at replayed
      obtain ⟨⟨lost, hreplaying⟩, -⟩ := hstarted.run Schedule.fuel
      obtain ⟨hcompletions, hleft⟩ := Prod.mk.inj replayed
      exact ⟨lost, _, hreplaying, Except.ok.inj hcompletions, hleft⟩

end DeviceSync
