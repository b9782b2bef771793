import Mathlib.Logic.Function.Basic
import DeviceSync.Group.Schedule
import DeviceSync.Proofs.Procedure

/-!
# Operations side by side

Any number of clients ask for operations on the group, and the operations take turns, each call being
one moment. What the registry, the linking sessions and the other side of a linking attempt answer is
not known: the `Surroundings` say what they may.

1. `GroupRequest`: the operations, and what kinds of calls they make.
2. `GroupRun`: what happened from the start, call by call.
3. `Answered`: what a call leaves of the lock and of the state that is shown.
4. `GroupRun.leads`: the calls of one operation, in the order in which it made them.
5. `GroupSchedule.answered_of_advance`: the calls in a schedule are calls of a run.
-/

namespace DeviceSync

/-! ## 1. Requests and calls -/

/-- What a client asks for. -/
inductive GroupRequest
  | activate (label : String)
  | deactivate
  | purge
  | load
  | link

def GroupRequest.work : GroupRequest → GroupWork OperationResult
  | activate label => .done <$> GroupWork.activate label
  | deactivate => .done <$> GroupWork.deactivate
  | purge => .done <$> GroupWork.purge
  | load => .listed <$> GroupWork.load
  | link => .linked <$> GroupWork.link

/-- The operation was refused, for another one was under way. -/
def OperationResult.isRefusal : OperationResult → Bool
  | .done (.error .inProgress) | .listed (.error .inProgress) | .linked (.error .inProgress) => true
  | _ => false

namespace GroupCall

/-- A call to the registry, forward security included. -/
def asksRegistry : GroupCall → Bool
  | register _ | fetch | dropOthers | deregister | setForwardSecurity _ => true
  | _ => false

/-- A call to the registry, to the session, or to the other side of a linking attempt. -/
def isForeign : GroupCall → Bool
  | linking _ => true
  | c => c.asksRegistry

/-- A call that publishes a state. -/
def publishes : GroupCall → Bool
  | publish _ | republish | publishDevice _ => true
  | _ => false

/-- A call that only the operation with the lock may make. -/
def touches (c : GroupCall) : Bool := c.asksRegistry || c.publishes

/-- The state that is shown after a call, by the state before. -/
def shows (s : GroupState) : GroupCall → GroupState
  | publish s' => s'
  | publishDevice d => { s with devices := if d ∈ s.devices then s.devices else s.devices ++ [d] }
  | _ => s

theorem shows_of_unpublished {c : GroupCall} (h : c.publishes = false) (s : GroupState) :
    c.shows s = s := by
  cases c with
  | publish | republish | publishDevice => exact nomatch h
  | tryLock | lock | unlock | joinLine | isActive | register | fetch | dropOthers | deregister
  | setForwardSecurity | linking => rfl

/-- The lock is given to the operation that makes the call. -/
def takesLock : (c : GroupCall) → c.Answer → Bool
  | tryLock, true | lock, _ => true
  | _, _ => false

/-- Who holds the lock after a call of an operation. -/
def holderAfter (operation : Nat) (holder : Option Nat) : (c : GroupCall) → c.Answer → Option Nat
  | tryLock, true | lock, _ => some operation
  | unlock, _ => none
  | _, _ => holder

end GroupCall

/-! ## 2. Runs -/

/-- Those outside: how they may answer a call, and what else they do to the registry. -/
structure Surroundings where
  answers : (c : GroupCall) → Registry → c.Answer → Registry → Prop
  changes : Registry → Registry → Prop

/-- The registry of the library, in which others put devices, and which they make fail. Linking goes on
as it may with any session and any other side. -/
def Surroundings.registry : Surroundings where
  answers c r answer r' := ∃ session?,
    (c.effect? 0 { registry := r } session?).map (fun (answer, g, _) => (answer, g.registry)) =
      some (answer, r')
  changes r r' := (∃ d, r' = r.addDevice d) ∨ ∃ call e, r' = r.failNext call e

/-- A call is answered; what it leaves of the group. -/
inductive Surroundings.Answered (env : Surroundings) (operation : Nat) (g : DeviceGroup) :
    (c : GroupCall) → c.Answer → DeviceGroup → Prop
  | here {c : GroupCall} {answer : c.Answer} {g' : DeviceGroup} :
      c.isForeign = false → c.effect? operation g none = some (answer, g', none) →
      Answered env operation g c answer g'
  | abroad {c : GroupCall} {answer : c.Answer} {registry : Registry} :
      c.isForeign = true → env.answers c g.registry answer registry →
      Answered env operation g c answer { g with registry }

/-- The group, and what remains of each operation. -/
structure GroupScene where
  group : DeviceGroup := {}
  works : Nat → GroupWork OperationResult

/-- An operation made a call, which was answered. -/
structure GroupEvent where
  operation : Nat
  call : GroupCall
  answer : call.Answer
  /-- The state that is shown after the call. -/
  shown : GroupState

/-- What happened up to now. All operations are there from the start; one that has not made a call
has not begun. -/
inductive GroupRun (env : Surroundings) (requests : Nat → GroupRequest) :
    List GroupEvent → GroupScene → Prop
  | start : GroupRun env requests [] { works := fun n => (requests n).work }
  | call {log : List GroupEvent} {w : GroupScene} {n : Nat} {c : GroupCall}
      {next : c.Answer → GroupWork OperationResult} {answer : c.Answer} {g : DeviceGroup} :
      GroupRun env requests log w → w.works n = .ask c next → env.Answered n w.group c answer g →
      GroupRun env requests (log ++ [⟨n, c, answer, g.state⟩])
        ⟨g, Function.update w.works n (next answer)⟩
  | change {log : List GroupEvent} {w : GroupScene} {registry : Registry} :
      GroupRun env requests log w → env.changes w.group.registry registry →
      GroupRun env requests log { w with group.registry := registry }

/-- No operation is under way. -/
def GroupScene.Idle (requests : Nat → GroupRequest) (w : GroupScene) : Prop :=
  ∀ n, w.works n = (requests n).work ∨ ∃ result, w.works n = .done result

/-! ## 3. What a call leaves -/

namespace Surroundings.Answered

variable {env : Surroundings} {n : Nat} {g g' : DeviceGroup} {c : GroupCall} {answer : c.Answer}

/-- What the calls that are answered here leave of the lock, the state that is shown and the registry. -/
theorem near (hnear : c.isForeign = false) (heffect : c.effect? n g none = some (answer, g', none)) :
    g'.state = c.shows g.state ∧ g'.holder = c.holderAfter n g.holder answer ∧
      (c.takesLock answer = true → g.holder = none) ∧ g'.registry = g.registry := by
  cases c with
  | tryLock =>
    simp only [GroupCall.effect?] at heffect
    split at heffect
    · rename_i hfree
      simp only [Bool.and_eq_true, Option.isNone_iff_eq_none] at hfree
      obtain ⟨rfl, rfl, -⟩ := by simpa using heffect
      exact ⟨rfl, rfl, fun _ => hfree.1, rfl⟩
    · obtain ⟨rfl, rfl, -⟩ := by simpa using heffect
      exact ⟨rfl, rfl, nofun, rfl⟩
  | lock =>
    simp only [GroupCall.effect?] at heffect
    split at heffect
    · rename_i hfree
      simp only [Bool.and_eq_true, Option.isNone_iff_eq_none] at hfree
      obtain ⟨rfl, rfl, -⟩ := by simpa using heffect
      exact ⟨rfl, rfl, fun _ => hfree.1, rfl⟩
    · exact nomatch heffect
  | joinLine | unlock | isActive | publish | republish | publishDevice =>
    obtain ⟨rfl, rfl, -⟩ := by simpa [GroupCall.effect?] using heffect
    exact ⟨rfl, rfl, nofun, rfl⟩
  | register | fetch | dropOthers | deregister | setForwardSecurity | linking => exact nomatch hnear

/-- The calls that are answered elsewhere leave both alone. -/
theorem foreign (hforeign : c.isForeign = true) (s : GroupState) (holder : Option Nat)
    (answer : c.Answer) :
    c.shows s = s ∧ c.holderAfter n holder answer = holder ∧ c.takesLock answer = false := by
  cases c with
  | register | fetch | dropOthers | deregister | setForwardSecurity | linking => exact ⟨rfl, rfl, rfl⟩
  | tryLock | lock | unlock | joinLine | isActive | publish | republish | publishDevice =>
    exact nomatch hforeign

theorem state (h : env.Answered n g c answer g') : g'.state = c.shows g.state := by
  cases h with
  | here hnear heffect => exact (near hnear heffect).1
  | abroad hforeign => exact (foreign (n := n) hforeign _ none answer).1.symm

theorem holder (h : env.Answered n g c answer g') :
    g'.holder = c.holderAfter n g.holder answer := by
  cases h with
  | here hnear heffect => exact (near hnear heffect).2.1
  | abroad hforeign => exact (foreign hforeign g.state _ answer).2.1.symm

/-- The lock is given to an operation only if nobody holds it. -/
theorem free_of_takesLock (h : env.Answered n g c answer g') (takes : c.takesLock answer = true) :
    g.holder = none := by
  cases h with
  | here hnear heffect => exact (near hnear heffect).2.2.1 takes
  | abroad hforeign =>
    exact nomatch takes.symm.trans (foreign (n := n) hforeign g.state none answer).2.2

theorem isActive {active : Bool} (h : env.Answered n g .isActive active g') :
    active = g.state.active := by
  cases h with
  | here _ heffect => exact (Prod.mk.inj (Option.some.inj heffect)).1.symm
  | abroad hforeign => exact nomatch hforeign

end Surroundings.Answered

/-! ## 4. The calls of one operation -/

/-- The calls that an operation made, each with its answer. -/
def callsOf (n : Nat) (log : List GroupEvent) : List ((c : GroupCall) × c.Answer) :=
  log.filterMap fun e => if e.operation = n then some ⟨e.call, e.answer⟩ else none

theorem callsOf_snoc (n : Nat) (log : List GroupEvent) (e : GroupEvent) :
    callsOf n (log ++ [e]) =
      if e.operation = n then callsOf n log ++ [⟨e.call, e.answer⟩] else callsOf n log := by
  unfold callsOf
  by_cases h : e.operation = n <;> simp [h]

theorem exists_of_mem_callsOf {n : Nat} {log : List GroupEvent} {made : (c : GroupCall) × c.Answer}
    (h : made ∈ callsOf n log) : ∃ e ∈ log, e.operation = n ∧ made = ⟨e.call, e.answer⟩ := by
  obtain ⟨e, he, hmade⟩ := List.mem_filterMap.mp h
  split at hmade
  · rename_i hn
    exact ⟨e, he, hn, (Option.some.inj hmade).symm⟩
  · exact nomatch hmade

/-- The first call of an operation in the log. -/
theorem exists_of_callsOf_eq_cons {n : Nat} {log : List GroupEvent} {c : GroupCall}
    {answer : c.Answer} {calls : List ((c : GroupCall) × c.Answer)}
    (h : callsOf n log = ⟨c, answer⟩ :: calls) :
    ∃ earlier s later, log = earlier ++ ⟨n, c, answer, s⟩ :: later ∧
      ∀ e ∈ earlier, e.operation ≠ n := by
  obtain ⟨earlier, e, later, rfl, hearlier, hfirst, -⟩ := List.filterMap_eq_cons_iff.mp h
  obtain ⟨m, c', answer', s⟩ := e
  obtain ⟨rfl, hcall⟩ : m = n ∧ (⟨c', answer'⟩ : (c : GroupCall) × c.Answer) = ⟨c, answer⟩ := by
    simpa using hfirst
  obtain ⟨rfl, hanswer⟩ := Sigma.mk.inj hcall
  obtain rfl := eq_of_heq hanswer
  exact ⟨earlier, s, later, rfl, fun e he hm => by simpa [hm] using hearlier e he⟩

/-- The calls of an operation lead from what was asked for to what remains of it. -/
theorem GroupRun.leads {env : Surroundings} {requests : Nat → GroupRequest} {log : List GroupEvent}
    {w : GroupScene} (run : GroupRun env requests log w) (n : Nat) :
    (requests n).work.Leads (callsOf n log) (w.works n) := by
  induction run with
  | start => exact .here _
  | @call log w m c next answer g _ hwork _ ih =>
    rw [callsOf_snoc]
    by_cases hm : m = n
    · subst hm
      rw [hwork] at ih
      simpa using ih.snoc answer
    · simpa [hm, Function.update_of_ne (Ne.symm hm)] using ih
  | change _ _ ih => exact ih

/-! ## 5. The schedule -/

/-- What a call of an operation does is among what those outside may do. -/
theorem Surroundings.answered_of_effect {n : Nat} {g g' : DeviceGroup} {c : GroupCall}
    {answer : c.Answer} {session? : Option (LinkingSession × Provisioner)}
    {left? : Option LinkingSession} (h : c.effect? n g session? = some (answer, g', left?)) :
    Surroundings.registry.Answered n g c answer g' := by
  cases c with
  | tryLock | lock =>
    refine .here rfl ?_
    simp only [GroupCall.effect?] at h ⊢
    split at h <;> simp_all
  | unlock | joinLine | isActive | publish | republish | publishDevice =>
    obtain ⟨rfl, rfl, -⟩ := by simpa [GroupCall.effect?] using h
    exact .here rfl rfl
  | register | fetch | dropOthers | deregister | setForwardSecurity =>
    obtain ⟨rfl, rfl, -⟩ := by simpa [GroupCall.effect?, GroupCall.effect?.onGroup] using h
    exact .abroad rfl ⟨none, rfl⟩
  | linking c =>
    cases session? with
    | none => exact nomatch h
    | some session =>
      obtain ⟨⟨_, s⟩, hcall, heq⟩ := Option.map_eq_some_iff.mp h
      obtain ⟨rfl, rfl, -⟩ := by simpa using heq
      refine .abroad rfl ⟨some session, ?_⟩
      simp [GroupCall.effect?, hcall]

/-- A call in the schedule is a call of a run: it is answered as those outside may, and the operation goes
on with the answer. -/
theorem GroupSchedule.answered_of_advance {t t' : GroupSchedule} {o : Operation} {c : GroupCall}
    {next : c.Answer → GroupWork OperationResult} (hwork : o.work = .ask c next)
    (h : t.advance? o = some t') :
    ∃ answer, Surroundings.registry.Answered o.number t.group c answer t'.group ∧
      ∀ p ∈ t'.operations, p.number = o.number → p.work = next answer := by
  unfold advance? at h
  rw [hwork] at h
  simp only at h
  split at h
  · exact nomatch h
  · cases heffect : c.effect? o.number t.group (t.session? o) with
    | none => simp [heffect] at h
    | some result =>
      obtain ⟨answer, g, left?⟩ := result
      rw [heffect] at h
      have hanswered := Surroundings.answered_of_effect heffect
      obtain ⟨seat, hgroup, hoperations⟩ : ∃ seat, t'.group = g ∧ t'.operations =
          (t.replace { o with work := next answer, seat }).operations := by
        obtain rfl := Option.some.inj h
        split <;> exact ⟨_, rfl, rfl⟩
      refine ⟨answer, hgroup ▸ hanswered, fun p hp hnumber => ?_⟩
      rw [hoperations] at hp
      obtain ⟨p', -, rfl⟩ := List.mem_map.mp hp
      split at hnumber
      · rename_i hsame
        simp [hsame]
      · rename_i hother
        exact absurd hnumber hother

end DeviceSync
