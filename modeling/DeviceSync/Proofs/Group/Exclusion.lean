import Mathlib.Data.List.Induction
import DeviceSync.Proofs.Group.Rules

/-!
# Operations exclude each other

Every operation keeps to the rules by itself. Here they run side by side: the lock goes from one to the
other, and nobody but its holder touches the group, so what the holder knows of the group stays true
until the holder itself changes it.

1. `Lawful`: what the log tells of each call, by what happened before it.
2. `Orderly`: how each operation stands to the lock, and what `fits` whenever nobody holds it. It is
   kept by every call (`Orderly.call`), hence by every run (`orderly_of_run`): what every settled
   operation keeps is true whenever the lock is free. `Orderly.ended` is what remains of an operation
   that has ended.
3. `operations_exclude_each_other`.
-/

namespace DeviceSync

/-! ## 1. The log -/

/-- Who holds the lock after what happened. -/
def lockHolder (log : List GroupEvent) : Option Nat :=
  log.foldl (fun holder e => e.call.holderAfter e.operation holder e.answer) none

theorem lockHolder_snoc (log : List GroupEvent) (e : GroupEvent) :
    lockHolder (log ++ [e]) = e.call.holderAfter e.operation (lockHolder log) e.answer := by
  simp [lockHolder]

theorem GroupCall.holderAfter_cases (n : Nat) (holder : Option Nat) (c : GroupCall)
    (answer : c.Answer) :
    (c.takesLock answer = true ∧ c ≠ .unlock ∧ c.touches = false ∧
      c.holderAfter n holder answer = some n) ∨
    (c.takesLock answer = false ∧ c = .unlock ∧ c.holderAfter n holder answer = none) ∨
    (c.takesLock answer = false ∧ c ≠ .unlock ∧ c.holderAfter n holder answer = holder) := by
  cases c with
  | tryLock =>
    cases answer with
    | true => exact .inl ⟨rfl, nofun, rfl, rfl⟩
    | false => exact .inr (.inr ⟨rfl, nofun, rfl⟩)
  | lock => exact .inl ⟨rfl, nofun, rfl, rfl⟩
  | unlock => exact .inr (.inl ⟨rfl, rfl, rfl⟩)
  | joinLine | isActive | publish | republish | publishDevice | register | fetch | dropOthers
  | deregister | setForwardSecurity | linking => exact .inr (.inr ⟨rfl, nofun, rfl⟩)

/-- What is true of a call that was made after these. -/
structure Lawful (requests : Nat → GroupRequest) (earlier : List GroupEvent) (e : GroupEvent) :
    Prop where
  touches : e.call.touches = true → lockHolder earlier = some e.operation
  unlocks : e.call = .unlock → lockHolder earlier = some e.operation
  takes : e.call.takesLock e.answer = true → lockHolder earlier = none
  shown : e.shown = e.call.shows (ledgerOf requests earlier).shown
  turn : GroupTurn (ledgerOf requests earlier).shown (requests e.operation) e.shown
  looks : ∀ n active s, e = ⟨n, .isActive, active, s⟩ → s.active = active

variable {env : Surroundings} {requests : Nat → GroupRequest} {log : List GroupEvent}
variable {w : GroupScene} {e : GroupEvent}

theorem Lawful.shown_snoc (lawful : Lawful requests log e) :
    (ledgerOf requests (log ++ [e])).shown = e.shown := by
  rw [ledgerOf_snoc, Ledger.note_shown, lawful.shown]

/-! ## 2. Side by side -/

/-- What is true of an operation that stands so to the lock. -/
def Stands (requests : Nat → GroupRequest) (fits : Ledger → Prop) (log : List GroupEvent) (n : Nat) :
    Standing → Prop
  | .outside => lockHolder log ≠ some n ∧ ∀ e ∈ log, e.operation = n → e.call.touches = false
  | .inside before now => lockHolder log = some n ∧ now = ledgerOf requests log ∧ fits before
  | .gone _ after => lockHolder log ≠ some n ∧ ∃ earlier s later,
      log = earlier ++ ⟨n, .unlock, (), s⟩ :: later ∧ after = ledgerOf requests earlier ∧
        ∀ e ∈ later, e.operation ≠ n

/-- The lock, the group and every operation are as the log tells. -/
structure Orderly (requests : Nat → GroupRequest) (fits : Ledger → Prop) (log : List GroupEvent)
    (w : GroupScene) : Prop where
  holder : w.group.holder = lockHolder log
  shown : w.group.state = (ledgerOf requests log).shown
  free : lockHolder log = none → fits (ledgerOf requests log)
  lawful : ∀ earlier e later, log = earlier ++ e :: later → Lawful requests earlier e
  standing : ∀ n, ∃ standing, Stands requests fits log n standing ∧
    Complies (requests n) (Ends (requests n)) (w.works n) standing

namespace ExclusionLemmas

variable {fits : Ledger → Prop} {n : Nat} {c : GroupCall} {answer : c.Answer} {g : DeviceGroup}
variable {standing : Standing}

/-- Only the holder of the lock is permitted to touch the group. -/
theorem holder_of_permits (stands : Stands requests fits log n standing)
    (permitted : permits (requests n) c standing) (h : c.touches = true ∨ c = .unlock) :
    lockHolder log = some n := by
  cases standing with
  | outside =>
    rcases h with htouches | hunlock
    · exact nomatch htouches.symm.trans permitted.1
    · exact absurd hunlock permitted.2
  | inside before now => exact stands.1
  | gone before after => exact nomatch permitted

theorem lawful_call (orderly : Orderly requests fits log w)
    (stands : Stands requests fits log n standing) (permitted : permits (requests n) c standing)
    (answered : env.Answered n w.group c answer g) :
    Lawful requests log ⟨n, c, answer, g.state⟩ where
  touches h := holder_of_permits stands permitted (.inl h)
  unlocks h := holder_of_permits stands permitted (.inr h)
  takes h := orderly.holder.symm.trans (answered.free_of_takesLock h)
  shown := by rw [← orderly.shown, answered.state]
  turn := by
    rw [answered.state, orderly.shown]
    cases standing with
    | outside =>
      have hunpublished : c.publishes = false := (Bool.or_eq_false_iff.mp permitted.1).2
      rw [GroupCall.shows_of_unpublished hunpublished]
      exact .kept _
    | inside before now =>
      obtain ⟨-, rfl, -⟩ := stands
      exact permitted.2.1
    | gone before after => exact nomatch permitted
  looks := by
    rintro m active s heq
    obtain ⟨rfl, rfl, hanswer, rfl⟩ := GroupEvent.mk.inj heq
    obtain rfl := eq_of_heq hanswer
    exact (congrArg GroupState.active answered.state).trans answered.isActive.symm

/-- The operation that makes the call goes on as the rules say. -/
theorem admits_call (orderly : Orderly requests fits log w)
    (stands : Stands requests fits log n standing) (permitted : permits (requests n) c standing)
    (answered : env.Answered n w.group c answer g) :
    ∃ standing', Admits (requests n) c standing answer standing' ∧
      Stands requests fits (log ++ [⟨n, c, answer, g.state⟩]) n standing' := by
  have hlawful := lawful_call orderly stands permitted answered
  have hholder := lockHolder_snoc log ⟨n, c, answer, g.state⟩
  have hledger := ledgerOf_snoc requests log ⟨n, c, answer, g.state⟩
  cases standing with
  | gone before after => exact nomatch permitted
  | outside =>
    rw [Ledger.note_of_untouched _ _ _ permitted.1] at hledger
    rcases c.holderAfter_cases n (lockHolder log) answer with
        ⟨htakes, -, -, hafter⟩ | ⟨-, hunlock, -⟩ | ⟨htakes, -, hafter⟩
    · have hfits := orderly.free (hlawful.takes htakes)
      refine ⟨.inside (ledgerOf requests log) (ledgerOf requests log), ?_,
        hholder.trans hafter, hledger.symm, hfits⟩
      cases c with
      | tryLock =>
        cases answer with
        | true => exact .admitted
        | false => exact nomatch htakes
      | lock => exact .called
      | _ => exact nomatch htakes
    · exact absurd hunlock permitted.2
    · refine ⟨.outside, .apart htakes, ?_, ?_⟩
      · rw [hholder, hafter]
        exact stands.1
      · exact List.forall_mem_append.mpr ⟨stands.2, List.forall_mem_singleton.mpr fun _ => permitted.1⟩
  | inside before now =>
    obtain ⟨hheld, rfl, hfits⟩ := stands
    obtain ⟨htouches | rfl | rfl, -, hsettles⟩ := permitted
    · rcases c.holderAfter_cases n (lockHolder log) answer with
          ⟨-, -, huntouched, -⟩ | ⟨-, rfl, -⟩ | ⟨-, -, hafter⟩
      · exact nomatch htouches.symm.trans huntouched
      · exact nomatch htouches
      · exact ⟨_, .worked htouches, (hholder.trans hafter).trans hheld, hledger.symm, hfits⟩
    · obtain rfl := (answered.isActive).trans (congrArg GroupState.active orderly.shown)
      exact ⟨_, .looked, hholder.trans hheld, hledger.symm, hfits⟩
    · refine ⟨_, .left, ?_, log, g.state, [], rfl, rfl, nofun⟩
      rw [hholder]
      exact nofun

/-- The call of another one does not change how an operation stands to the lock. -/
theorem stands_beside (stands : Stands requests fits log n standing) (lawful : Lawful requests log e)
    (other : e.operation ≠ n) : Stands requests fits (log ++ [e]) n standing := by
  have hkept : lockHolder log ≠ some n → lockHolder (log ++ [e]) ≠ some n := by
    intro hnot
    rw [lockHolder_snoc]
    rcases e.call.holderAfter_cases e.operation (lockHolder log) e.answer with
        ⟨-, -, -, hafter⟩ | ⟨-, -, hafter⟩ | ⟨-, -, hafter⟩
    · rw [hafter]
      exact fun h => other (Option.some.inj h)
    · rw [hafter]
      exact nofun
    · rw [hafter]
      exact hnot
  cases standing with
  | outside =>
    exact ⟨hkept stands.1, List.forall_mem_append.mpr
      ⟨stands.2, List.forall_mem_singleton.mpr fun h => absurd h other⟩⟩
  | inside before now =>
    obtain ⟨hheld, rfl, hfits⟩ := stands
    have hnot : ¬ lockHolder log = some e.operation :=
      fun h => other (Option.some.inj (h.symm.trans hheld))
    refine ⟨?_, ?_, hfits⟩
    · rw [lockHolder_snoc]
      rcases e.call.holderAfter_cases e.operation (lockHolder log) e.answer with
          ⟨htakes, -⟩ | ⟨-, hunlock, -⟩ | ⟨-, -, hafter⟩
      · exact nomatch hheld.symm.trans (lawful.takes htakes)
      · exact absurd (lawful.unlocks hunlock) hnot
      · exact hafter.trans hheld
    · rw [ledgerOf_snoc, Ledger.note_of_untouched]
      exact Bool.eq_false_iff.mpr fun h => hnot (lawful.touches h)
  | gone before after =>
    obtain ⟨hnot, earlier, s, later, rfl, hafter, hquiet⟩ := stands
    refine ⟨hkept hnot, earlier, s, later ++ [e], by simp, hafter, ?_⟩
    exact List.forall_mem_append.mpr ⟨hquiet, List.forall_mem_singleton.mpr other⟩

/-- What fits when an operation takes the lock fits again when it gives the lock back. -/
theorem fits_of_free (keeps : ∀ n l r l', fits l → Settles l (requests n) r l' → fits l')
    (orderly : Orderly requests fits log w) (stands : Stands requests fits log n standing)
    (permitted : permits (requests n) c standing) (answered : env.Answered n w.group c answer g)
    (free : lockHolder (log ++ [⟨n, c, answer, g.state⟩]) = none) :
    fits (ledgerOf requests (log ++ [⟨n, c, answer, g.state⟩])) := by
  have hlawful := lawful_call orderly stands permitted answered
  rw [lockHolder_snoc] at free
  rw [ledgerOf_snoc]
  rcases c.holderAfter_cases n (lockHolder log) answer with
      ⟨-, -, -, hafter⟩ | ⟨-, rfl, -⟩ | ⟨-, -, hafter⟩
  · exact nomatch hafter.symm.trans free
  · cases standing with
    | outside => exact absurd rfl permitted.2
    | inside before now =>
      obtain ⟨-, rfl, hfits⟩ := stands
      obtain ⟨r, hsettles⟩ := permitted.2.2 rfl
      exact keeps n before r _ hfits hsettles
    | gone before after => exact nomatch permitted
  · have hfree : lockHolder log = none := hafter.symm.trans free
    rw [Ledger.note_of_untouched]
    · exact orderly.free hfree
    · exact Bool.eq_false_iff.mpr fun h => nomatch hfree.symm.trans (hlawful.touches h)

end ExclusionLemmas

open ExclusionLemmas

theorem Orderly.call {fits : Ledger → Prop} {n : Nat} {c : GroupCall}
    {next : c.Answer → GroupWork OperationResult} {answer : c.Answer} {g : DeviceGroup}
    (keeps : ∀ n l r l', fits l → Settles l (requests n) r l' → fits l')
    (orderly : Orderly requests fits log w) (hwork : w.works n = .ask c next)
    (answered : env.Answered n w.group c answer g) :
    Orderly requests fits (log ++ [⟨n, c, answer, g.state⟩])
      ⟨g, Function.update w.works n (next answer)⟩ := by
  obtain ⟨standing, hstands, hcomplies⟩ := orderly.standing n
  rw [hwork] at hcomplies
  obtain ⟨hpermits, hnext⟩ := hcomplies
  have hlawful := lawful_call orderly hstands hpermits answered
  refine ⟨?_, ?_, fits_of_free keeps orderly hstands hpermits answered, ?_, ?_⟩
  · rw [lockHolder_snoc, ← orderly.holder]
    exact answered.holder
  · exact hlawful.shown_snoc.symm
  · intro earlier e later hsplit
    rcases List.eq_nil_or_concat later with rfl | ⟨later, last, rfl⟩
    · obtain ⟨rfl, he⟩ := List.append_inj' hsplit rfl
      rw [← List.singleton_inj.mp he]
      exact hlawful
    · rw [List.concat_eq_append, ← List.cons_append, ← List.append_assoc] at hsplit
      exact orderly.lawful earlier e later (List.append_inj' hsplit rfl).1
  · intro m
    by_cases hm : m = n
    · subst hm
      obtain ⟨standing', hadmits, hstands'⟩ := admits_call orderly hstands hpermits answered
      refine ⟨standing', hstands', ?_⟩
      show Complies _ _ (Function.update w.works m (next answer) m) standing'
      rw [Function.update_self]
      exact hnext answer standing' hadmits
    · obtain ⟨standing', hstands', hcomplies'⟩ := orderly.standing m
      refine ⟨standing', stands_beside hstands' hlawful (Ne.symm hm), ?_⟩
      show Complies _ _ (Function.update w.works n (next answer) m) standing'
      rw [Function.update_of_ne hm]
      exact hcomplies'

/-- What every settled operation keeps is true whenever the lock is free. -/
theorem orderly_of_run {fits : Ledger → Prop} (start : fits {})
    (keeps : ∀ n l r l', fits l → Settles l (requests n) r l' → fits l')
    (run : GroupRun env requests log w) : Orderly requests fits log w := by
  induction run with
  | start =>
    refine ⟨rfl, rfl, fun _ => start, ?_, fun n => ⟨.outside, ⟨nofun, nofun⟩, (requests n).complies⟩⟩
    intro earlier e later hsplit
    simp at hsplit
  | call _ hwork answered ih => exact ih.call keeps hwork answered
  | change _ _ ih => exact ⟨ih.holder, ih.shown, ih.free, ih.lawful, ih.standing⟩

theorem GroupRun.orderly (run : GroupRun env requests log w) :
    Orderly requests (fun _ => True) log w :=
  orderly_of_run trivial (fun _ _ _ _ _ _ => trivial) run

/-- An operation that has ended was refused, or could not link, and did not touch the group; or it has
given back the lock, and is settled. -/
theorem Orderly.ended {fits : Ledger → Prop} {n : Nat} {r : OperationResult}
    (orderly : Orderly requests fits log w) (ended : w.works n = .done r) :
    ((r.isRefusal = true ∨ ∃ e, r = .linked (.error e)) ∧
      ∀ e ∈ log, e.operation = n → e.call.touches = false) ∨
    ∃ before earlier later,
      log = earlier ++ ⟨n, .unlock, (), (ledgerOf requests earlier).shown⟩ :: later ∧
      (∀ e ∈ later, e.operation ≠ n) ∧
      Settles before (requests n) r (ledgerOf requests earlier) := by
  obtain ⟨standing, hstands, hcomplies⟩ := orderly.standing n
  rw [ended] at hcomplies
  cases standing with
  | outside => exact .inl ⟨hcomplies, hstands.2⟩
  | inside before now => exact False.elim hcomplies
  | gone before after =>
    obtain ⟨-, earlier, s, later, hsplit, rfl, hquiet⟩ := hstands
    obtain rfl : s = (ledgerOf requests earlier).shown := (orderly.lawful earlier _ later hsplit).shown
    exact .inr ⟨before, earlier, later, hsplit, hquiet, hcomplies⟩

/-! ## 3. Exclusion -/

/-- A state without this device has no other devices either. -/
theorem GroupTurn.no_devices {s s' : GroupState} {q : GroupRequest} (turn : GroupTurn s q s')
    (h : s.active = false → s.devices = []) : s'.active = false → s'.devices = [] := by
  cases turn with
  | kept => exact h
  | failsToJoin | leaves => exact fun _ => rfl
  | joins | lists => exact nofun
  | adds d hactive => exact fun hinactive => nomatch hactive.symm.trans hinactive

theorem Orderly.no_devices {fits : Ledger → Prop} (orderly : Orderly requests fits log w)
    {earlier later : List GroupEvent} (split : log = earlier ++ later) :
    (ledgerOf requests earlier).shown.active = false →
      (ledgerOf requests earlier).shown.devices = [] := by
  induction earlier using List.reverseRecOn generalizing later with
  | nil => exact fun _ => rfl
  | append_singleton earlier e ih =>
    rw [List.append_assoc] at split
    have hlawful := orderly.lawful earlier e later split
    rw [hlawful.shown_snoc]
    exact hlawful.turn.no_devices (ih split)

/-- The lock stays with an operation until the operation gives it back. -/
theorem Orderly.holder_meanwhile {fits : Ledger → Prop} (orderly : Orderly requests fits log w)
    {earlier meanwhile later : List GroupEvent} {taken : GroupEvent}
    (split : log = earlier ++ taken :: (meanwhile ++ later))
    (takes : taken.call.takesLock taken.answer = true)
    (kept : ∀ e ∈ meanwhile, e.call = .unlock → e.operation ≠ taken.operation) :
    lockHolder (earlier ++ taken :: meanwhile) = some taken.operation := by
  induction meanwhile using List.reverseRecOn generalizing later with
  | nil =>
    rw [lockHolder_snoc]
    rcases taken.call.holderAfter_cases taken.operation (lockHolder earlier) taken.answer with
        ⟨-, -, -, hafter⟩ | ⟨hnot, -⟩ | ⟨hnot, -⟩
    · exact hafter
    · exact nomatch takes.symm.trans hnot
    · exact nomatch takes.symm.trans hnot
  | append_singleton meanwhile e ih =>
    rw [List.append_assoc] at split
    have hheld := ih split fun e' he' => kept e' (List.mem_append_left _ he')
    have hlawful : Lawful requests (earlier ++ taken :: meanwhile) e :=
      orderly.lawful _ e later (by simp [split])
    rw [← List.cons_append, ← List.append_assoc, lockHolder_snoc]
    rcases e.call.holderAfter_cases e.operation (lockHolder (earlier ++ taken :: meanwhile))
        e.answer with ⟨htakes, -⟩ | ⟨-, hunlock, -⟩ | ⟨-, -, hafter⟩
    · exact nomatch hheld.symm.trans (hlawful.takes htakes)
    · have hsame := hheld.symm.trans (hlawful.unlocks hunlock)
      have hmem : e ∈ meanwhile ++ [e] := List.mem_append_right _ List.mem_cons_self
      exact absurd (Option.some.inj hsame).symm (kept e hmem hunlock)
    · exact hafter.trans hheld

/-- Operations run side by side, and those outside answer as they like. A state without this device is
published without other devices. Between the moment when an operation takes the lock and the moment when
it gives it back, nobody else calls the registry or publishes a state. An operation that is refused has
done neither. -/
theorem operations_exclude_each_other (run : GroupRun env requests log w) :
    (∀ e ∈ log, e.call.publishes = true → e.shown.active = false → e.shown.devices = []) ∧
    (∀ earlier taken meanwhile e later,
      log = earlier ++ taken :: (meanwhile ++ e :: later) →
      taken.call.takesLock taken.answer = true →
      (∀ e' ∈ meanwhile, e'.call = .unlock → e'.operation ≠ taken.operation) →
      e.call.asksRegistry = true ∨ e.call.publishes = true → e.operation = taken.operation) ∧
    ∀ n r, w.works n = .done r → r.isRefusal = true →
      ∀ e ∈ log, e.operation = n → e.call.asksRegistry = false ∧ e.call.publishes = false := by
  have horderly := run.orderly
  refine ⟨?_, ?_, ?_⟩
  · intro e he _ hinactive
    obtain ⟨earlier, later, hsplit⟩ := List.append_of_mem he
    have hshown := (horderly.lawful earlier e later hsplit).shown_snoc
    rw [← hshown] at hinactive ⊢
    exact horderly.no_devices (by rw [hsplit, List.append_assoc]; rfl) hinactive
  · intro earlier taken meanwhile e later hsplit htakes hkept htouches
    have hheld := horderly.holder_meanwhile hsplit htakes hkept
    have hlawful : Lawful requests (earlier ++ taken :: meanwhile) e :=
      horderly.lawful _ e later (by simp [hsplit])
    have hholds := hlawful.touches (by simpa [GroupCall.touches] using htouches)
    exact Option.some.inj (hholds.symm.trans hheld)
  · intro n r hdone hrefusal e he hn
    rcases horderly.ended hdone with ⟨-, hquiet⟩ | ⟨_, _, _, -, -, hsettles⟩
    · simpa [GroupCall.touches] using hquiet e he hn
    · exact absurd (hsettles.not_refusal.symm.trans hrefusal) Bool.false_ne_true

namespace Sample

/-- The first client joins, all others want to leave. -/
def joinAndLeave : Nat → GroupRequest
  | 0 => .activate "Phone"
  | _ => .deactivate

end Sample

open Sample in
/-- The second client comes while forward security is turned off for the first one. -/
theorem refused_client_touches_nothing : ∃ log w, GroupRun .registry joinAndLeave log w ∧
    (log.map fun e => e.operation) = [0, 0, 0, 1, 0, 0, 0, 0] ∧
    w.works 1 = .done (.done (.error .inProgress)) ∧ w.group.state.active = true ∧
    (∀ e ∈ log, e.operation = 1 → e.call.asksRegistry = false ∧ e.call.publishes = false) ∧
    ∀ e ∈ log, e.call.publishes = true → e.shown.active = false → e.shown.devices = [] := by
  have hstart : GroupRun .registry joinAndLeave [] _ := .start
  have hrun := hstart
    |>.call (n := 0) rfl (.here rfl rfl)
    |>.call (n := 0) rfl (.here rfl rfl)
    |>.call (n := 0) rfl (.abroad rfl ⟨none, rfl⟩)
    |>.call (n := 1) rfl (.here rfl rfl)
    |>.call (n := 0) rfl (.abroad rfl ⟨none, rfl⟩)
    |>.call (n := 0) rfl (.abroad rfl ⟨none, rfl⟩)
    |>.call (n := 0) rfl (.here rfl rfl)
    |>.call (n := 0) rfl (.here rfl rfl)
  obtain ⟨hinactive, -, hrefused⟩ := operations_exclude_each_other hrun
  exact ⟨_, _, hrun, rfl, rfl, rfl, hrefused 1 _ rfl rfl, hinactive⟩

end DeviceSync
