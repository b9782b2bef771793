import DeviceSync.Proofs.Group.ForwardSecurity

/-!
# The state that is shown and the registry

What is shown of the group is put together from what the registry answered, and the registry goes on
changing. Over the registry of the library, the ledger tells how far the two agree: a failed attempt to
leave may have deregistered this device, and a list that was removed may not have been read again.

1. `Ledger.Tells`: what the ledger tells about the registry is true (`tells_of_run`).
2. `Ledger.Shows`: what is shown, by what the ledger tells.
3. `published_state_agrees_with_registry`.
-/

namespace DeviceSync

variable {requests : Nat → GroupRequest} {log : List GroupEvent} {w : GroupScene}

/-! ## 1. What the ledger tells -/

/-- A device that is put in its place takes the place of none but its namesake. -/
theorem Registry.mem_insert_ids (d : LinkedDevice) {devices : List LinkedDevice} {id : UInt64}
    (h : id ∈ devices.map (·.id)) : id ∈ (insert d devices).map (·.id) := by
  induction devices with
  | nil => exact nomatch h
  | cons e es ih =>
    unfold insert
    split
    · exact List.mem_cons_of_mem _ h
    · split
      · rename_i hsame
        rw [List.map_cons, ← hsame] at h
        exact h
      · rcases List.mem_cons.mp h with rfl | hlater
        · exact List.mem_cons_self
        · exact List.mem_cons_of_mem _ (ih hlater)

namespace Ledger

/-- What the ledger tells about the registry is true. -/
structure Tells (l : Ledger) (r : Registry) : Prop where
  registered : l.registered = r.label.isSome
  forwardSecurity : l.forwardSecurity = r.forwardSecurity
  listed : l.unread = false → ∀ d ∈ l.fetched, d.id ∈ r.devices.map (·.id)

variable {l : Ledger} {n : Nat} {q : GroupRequest} {g g' : DeviceGroup} {c : GroupCall}
variable {answer : c.Answer}

/-- A call to the registry fails and does nothing, or it does its work: so it leaves the ledger true if
what is noted down of either is true. -/
theorem Tells.of_attempt {α : Type} {r r' : Registry} {call : RegistryCall}
    {work : Registry → α × Registry} {answer : Except ServiceError α}
    (note : Except ServiceError α → Ledger) (answers : r.attempt call work = (answer, r'))
    (fails : ∀ e, (note (.error e)).Tells r) (works : (note (.ok (work r).1)).Tells (work r).2) :
    (note answer).Tells r' := by
  unfold Registry.attempt at answers
  split at answers
  · obtain ⟨rfl, rfl⟩ := Prod.mk.inj answers
    exact ⟨(fails _).registered, (fails _).forwardSecurity, (fails _).listed⟩
  · obtain ⟨rfl, rfl⟩ := Prod.mk.inj answers
    exact works

/-- After every call the ledger still tells the truth. -/
theorem Tells.call (tells : l.Tells g.registry)
    (answered : Surroundings.registry.Answered n g c answer g') :
    (l.note q c answer).Tells g'.registry := by
  cases answered with
  | here hnear heffect =>
    rw [(Surroundings.Answered.near hnear heffect).2.2.2]
    cases c with
    | tryLock | joinLine | lock | unlock | isActive | republish => exact tells
    | publish | publishDevice => exact ⟨tells.registered, tells.forwardSecurity, tells.listed⟩
    | register | fetch | dropOthers | deregister | setForwardSecurity | linking => exact nomatch hnear
  | @abroad registry hforeign hanswers =>
    obtain ⟨session?, heffect⟩ := hanswers
    cases c with
    | register label =>
      have hanswer : g.registry.register label = (answer, registry) := Option.some.inj heffect
      refine .of_attempt (l.note q (.register label)) hanswer (fun _ => tells) ?_
      exact ⟨rfl, tells.forwardSecurity, tells.listed⟩
    | fetch =>
      have hanswer : g.registry.fetch = (answer, registry) := Option.some.inj heffect
      refine .of_attempt (l.note q .fetch) hanswer (fun _ => tells) ?_
      exact ⟨tells.registered, tells.forwardSecurity, fun _ d hd => List.mem_map_of_mem hd⟩
    | dropOthers =>
      have hanswer : g.registry.dropOthers = (answer, registry) := Option.some.inj heffect
      refine .of_attempt (l.note q .dropOthers) hanswer (fun _ => tells) ?_
      exact ⟨tells.registered, tells.forwardSecurity, nofun⟩
    | deregister =>
      have hanswer : g.registry.deregister = (answer, registry) := Option.some.inj heffect
      refine .of_attempt (l.note q .deregister) hanswer (fun _ => tells) ?_
      exact ⟨rfl, tells.forwardSecurity, tells.listed⟩
    | setForwardSecurity enabled =>
      have hanswer : g.registry.setForwardSecurity enabled = (answer, registry) :=
        Option.some.inj heffect
      refine .of_attempt (l.note q (.setForwardSecurity enabled)) hanswer (fun e => ?_)
        ⟨tells.registered, rfl, tells.listed⟩
      -- Only that it cannot be turned on is noted down.
      cases enabled with
      | false => exact tells
      | true => cases q <;> exact ⟨tells.registered, tells.forwardSecurity, tells.listed⟩
    | linking c =>
      cases session? with
      | none => exact nomatch heffect
      | some session =>
        -- The session is all that the call changes.
        obtain ⟨_, hcall, hpair⟩ := Option.map_eq_some_iff.mp heffect
        obtain ⟨_, _, rfl⟩ := Option.map_eq_some_iff.mp hcall
        obtain ⟨-, rfl⟩ := Prod.mk.inj hpair
        exact tells
    | tryLock | lock | unlock | joinLine | isActive | publish | republish | publishDevice =>
      exact nomatch hforeign

/-- What others do to the registry leaves it true as well. -/
theorem Tells.change {r r' : Registry} (tells : l.Tells r)
    (changes : Surroundings.registry.changes r r') : l.Tells r' := by
  rcases changes with ⟨d, rfl⟩ | ⟨call, e, rfl⟩
  · refine ⟨tells.registered, tells.forwardSecurity, fun hread d' hd' => ?_⟩
    exact Registry.mem_insert_ids d (tells.listed hread d' hd')
  · exact ⟨tells.registered, tells.forwardSecurity, tells.listed⟩

theorem tells_of_run (run : GroupRun .registry requests log w) :
    (ledgerOf requests log).Tells w.group.registry := by
  induction run with
  | start => exact ⟨rfl, rfl, nofun⟩
  | call _ _ answered ih =>
    rw [ledgerOf_snoc]
    exact ih.call answered
  | change _ changes ih => exact ih.change changes

/-! ## 2. What is shown -/

/-- While this device takes part, the list that was read last is shown, and this device is registered
unless it was stranded. -/
def Shows (l : Ledger) : Prop :=
  l.shown.active = true →
    l.shown.devices = l.fetched ∧ (l.registered = true ↔ l.stranded = false)

end Ledger

theorem Settles.shows {l l' : Ledger} {q : GroupRequest} {r : OperationResult} (nolink : q ≠ .link)
    (fits : l.Shows) (settles : Settles l q r l') : l'.Shows := by
  intro hactive'
  cases settles with
  | unchanged => exact fits hactive'
  | joins => exact ⟨rfl, by simp⟩
  | failsToJoin _ hshown => exact nomatch (hshown ▸ hactive' : ({} : GroupState).active = true)
  | leaves => exact nomatch hactive'
  | failsToLeave hactive _ _ _ hplace hlist =>
    obtain ⟨hdevices, hregistered⟩ := fits hactive
    constructor
    · rcases hlist with hread | ⟨hshown, hfetched⟩
      · exact hread
      · rw [hshown, hfetched]
        exact hdevices
    · rcases hplace with ⟨hplace, hstranded⟩ | ⟨hplace, hstranded⟩
      · rw [hplace, hstranded]
        exact hregistered
      · simp [hplace, hstranded]
  | lists _ _ _ hactive => exact ⟨rfl, (fits hactive).2⟩
  | removes hactive => exact fits hactive
  | adds => exact absurd rfl nolink

/-! ## 3. Agreement -/

namespace Sample

theorem joinAndLeave_nolink (n : Nat) : joinAndLeave n ≠ .link := by
  cases n <;> exact nofun

theorem idle_joinAndLeave {joined left : OperationResult} (h₀ : w.works 0 = .done joined)
    (h₁ : w.works 1 = .done left) (hrest : ∀ n, w.works (n + 2) = (joinAndLeave (n + 2)).work) :
    w.Idle joinAndLeave := by
  intro n
  match n with
  | 0 => exact .inr ⟨joined, h₀⟩
  | 1 => exact .inr ⟨left, h₁⟩
  | n + 2 => exact .inl (hrest n)

end Sample

/-- Operations other than linking run side by side over the registry of the library, in which others put
devices, and which they make fail. While no operation is under way and this device takes part, it is
registered, unless since it registered an attempt to leave has deregistered it and could not turn forward
security on; and all devices that are shown are in the registry, if the list was read since the other
devices were removed last. -/
theorem published_state_agrees_with_registry (nolink : ∀ n, requests n ≠ .link)
    (run : GroupRun .registry requests log w) (idle : w.Idle requests)
    (active : w.group.state.active = true) :
    (w.group.registry.label.isSome = true ↔ (ledgerOf requests log).stranded = false) ∧
    ((ledgerOf requests log).unread = false →
      ∀ d ∈ w.group.state.devices, d.id ∈ w.group.registry.devices.map (·.id)) := by
  have horderly : Orderly requests Ledger.Shows log w :=
    orderly_of_run nofun (fun n _ _ _ fits settles => settles.shows (nolink n) fits) run
  have htells := Ledger.tells_of_run run
  have hfree := horderly.holder.symm.trans (horderly.free_of_idle idle)
  rw [horderly.shown] at active ⊢
  obtain ⟨hdevices, hregistered⟩ := horderly.free hfree active
  constructor
  · rw [← htells.registered]
    exact hregistered
  · rw [hdevices]
    exact htells.listed

open Sample in
/-- The other devices cannot be removed when this device leaves: it stays registered, and the list shows
what is in the registry. -/
theorem failed_leave_shows_registry : ∃ log w, GroupRun .registry joinAndLeave log w ∧
    w.works 1 = .done (.done (.error (.service (.unavailable "offline")))) ∧
    w.group.state = ⟨true, [⟨2, "Laptop", "Linux", none⟩]⟩ ∧
    w.group.registry.label.isSome = true ∧
    ∀ d ∈ w.group.state.devices, d.id ∈ w.group.registry.devices.map (·.id) := by
  have hstart : GroupRun .registry joinAndLeave [] _ := .start
  have hjoined := hstart.change (.inl ⟨⟨2, "Laptop", "Linux", none⟩, rfl⟩)
    |>.call (n := 0) rfl (.here rfl rfl)
    |>.call (n := 0) rfl (.here rfl rfl)
    |>.call (n := 0) rfl (.abroad rfl ⟨none, rfl⟩)
    |>.call (n := 0) rfl (.abroad rfl ⟨none, rfl⟩)
    |>.call (n := 0) rfl (.abroad rfl ⟨none, rfl⟩)
    |>.call (n := 0) rfl (.here rfl rfl)
    |>.call (n := 0) rfl (.here rfl rfl)
  have hstayed := hjoined.change (.inr ⟨.drop, .unavailable "offline", rfl⟩)
    |>.call (n := 1) rfl (.here rfl rfl)
    |>.call (n := 1) rfl (.here rfl rfl)
    |>.call (n := 1) rfl (.abroad rfl ⟨none, rfl⟩)
    |>.call (n := 1) rfl (.abroad rfl ⟨none, rfl⟩)
    |>.call (n := 1) rfl (.here rfl rfl)
    |>.call (n := 1) rfl (.here rfl rfl)
  obtain ⟨hregistered, hlisted⟩ :=
    published_state_agrees_with_registry joinAndLeave_nolink hstayed
      (idle_joinAndLeave rfl rfl fun _ => rfl) rfl
  exact ⟨_, _, hstayed, rfl, rfl, hregistered.mpr rfl, hlisted rfl⟩

open Sample in
/-- Forward security cannot be turned on when this device leaves, and the list cannot be read after it:
this device is shown as a part of the group, and with it a device, while the registry holds neither. -/
theorem stranded_device_is_shown_active : ∃ log w,
    (∀ n, joinAndLeave n ≠ .link) ∧ GroupRun .registry joinAndLeave log w ∧ w.Idle joinAndLeave ∧
    w.group.state.active = true ∧ w.group.registry.label.isSome = false ∧
    ∃ d ∈ w.group.state.devices, d.id ∉ w.group.registry.devices.map (·.id) := by
  have hstart : GroupRun .registry joinAndLeave [] _ := .start
  have hjoined := hstart.change (.inl ⟨⟨2, "Laptop", "Linux", none⟩, rfl⟩)
    |>.call (n := 0) rfl (.here rfl rfl)
    |>.call (n := 0) rfl (.here rfl rfl)
    |>.call (n := 0) rfl (.abroad rfl ⟨none, rfl⟩)
    |>.call (n := 0) rfl (.abroad rfl ⟨none, rfl⟩)
    |>.call (n := 0) rfl (.abroad rfl ⟨none, rfl⟩)
    |>.call (n := 0) rfl (.here rfl rfl)
    |>.call (n := 0) rfl (.here rfl rfl)
  have hfaults := hjoined.change (.inr ⟨.forwardSecurity, .unavailable "offline", rfl⟩)
    |>.change (.inr ⟨.fetch, .unavailable "offline", rfl⟩)
  have hstranded := hfaults
    |>.call (n := 1) rfl (.here rfl rfl)
    |>.call (n := 1) rfl (.here rfl rfl)
    |>.call (n := 1) rfl (.abroad rfl ⟨none, rfl⟩)
    |>.call (n := 1) rfl (.abroad rfl ⟨none, rfl⟩)
    |>.call (n := 1) rfl (.abroad rfl ⟨none, rfl⟩)
    |>.call (n := 1) rfl (.abroad rfl ⟨none, rfl⟩)
    |>.call (n := 1) rfl (.here rfl rfl)
    |>.call (n := 1) rfl (.here rfl rfl)
  exact ⟨_, _, joinAndLeave_nolink, hstranded, idle_joinAndLeave rfl rfl fun _ => rfl, rfl, rfl, _,
    List.mem_cons_self, List.not_mem_nil⟩

end DeviceSync
