import Mathlib.Data.List.Nodup
import DeviceSync.Proofs.Group.LinkedActive

/-!
# The devices that are listed

A list of devices is shown as the registry answered it, or it is the list from before, with a device
added that was linked. The one place that adds a device looks whether the very same device is listed, and
not whether its id is.

1. `Relays`: the lists that an operation shows as a whole come from the registry (`GroupRequest.relays`,
   `GroupRun.relayed`).
2. `distinct_publishDevice`: when a list with one more device has each id once.
3. `listed_devices_distinct_iff`: when all lists that are shown have each id once.
4. `relinked_device_is_listed_twice`: a device was set up anew and linked again, while the registry could
   not be read.
-/

namespace DeviceSync

variable {env : Surroundings} {requests : Nat → GroupRequest} {log : List GroupEvent}
variable {w : GroupScene} {kind : List LinkedDevice → Prop}

/-! ## 1. Lists from the registry -/

/-- The list that a call publishes as a whole. -/
def GroupCall.publishes? : GroupCall → Option (List LinkedDevice)
  | publish s => some s.devices
  | _ => none

/-- The list that the registry answered a call with. -/
def GroupCall.reads? : (c : GroupCall) → c.Answer → Option (List LinkedDevice)
  | fetch, .ok devices => some devices
  | _, _ => none

def GroupEvent.fetched? (e : GroupEvent) : Option (List LinkedDevice) := e.call.reads? e.answer

/-- If the registry answers with lists of this kind only, the lists that are published as a whole are of
this kind too. -/
abbrev Relays {α : Type} (kind : List LinkedDevice → Prop) (work : GroupWork α) : Prop :=
  work.Obeys (fun c (_ : Unit) => ∀ devices ∈ c.publishes?, kind devices)
    (fun c _ answer _ => ∀ devices ∈ c.reads? answer, kind devices) (fun _ _ => True) ()

namespace ListLemmas

open GroupWork

variable {α β : Type} {work : GroupWork α}

/-- A call that publishes no list as a whole. -/
theorem relays_ask {c : GroupCall} {next : c.Answer → GroupWork α} (silent : c.publishes? = none)
    (h : ∀ answer, Relays kind (next answer)) : Relays kind (.ask c next) :=
  ⟨fun _ hpublishes => (nomatch silent.symm.trans hpublishes), fun answer _ _ => h answer⟩

theorem relays_fetch {next : Except ServiceError (List LinkedDevice) → GroupWork α}
    (read : ∀ devices, kind devices → Relays kind (next (.ok devices)))
    (failed : ∀ e, Relays kind (next (.error e))) : Relays kind (.ask .fetch next) := by
  refine ⟨nofun, fun answer _ hread => ?_⟩
  cases answer with
  | ok devices => exact read devices (hread devices rfl)
  | error e => exact failed e

theorem relays_bind {f : α → GroupWork β} (hwork : Relays kind work) (hf : ∀ a, Relays kind (f a)) :
    Relays kind (work.bind f) :=
  Procedure.obeys_bind.mpr (hwork.imp fun a _ _ => hf a)

theorem relays_publishing {state : GroupState} {result : Except GroupError α}
    (h : kind state.devices) : Relays kind (publishing state result) :=
  ⟨fun _ hdevices => Option.some.inj hdevices ▸ h, fun _ _ _ => trivial⟩

theorem relays_unchanged {result : Except GroupError α} : Relays kind (unchanged result) :=
  relays_ask rfl fun () => trivial

theorem relays_exclusively {work : GroupWork (Except GroupError α)} (h : Relays kind work) :
    Relays kind (exclusively work) := by
  refine relays_ask rfl fun free => ?_
  cases free with
  | false => trivial
  | true => exact relays_bind h fun _ => relays_ask rfl fun () => trivial

theorem relays_rollBack (empty : kind []) (e : ServiceError) : Relays kind (rollBack e) :=
  relays_ask rfl fun _ => relays_ask rfl fun _ => relays_publishing empty

theorem relays_activate (empty : kind []) (label : String) : Relays kind (activate label) := by
  refine relays_exclusively (relays_ask rfl fun active => ?_)
  cases active with
  | true => exact relays_unchanged
  | false =>
    refine relays_ask rfl fun turnedOff => ?_
    cases turnedOff with
    | error e => exact relays_rollBack empty e
    | ok =>
      refine relays_ask rfl fun registered => ?_
      cases registered with
      | error e => exact relays_rollBack empty e
      | ok =>
        refine relays_fetch ?_ ?_
        · exact fun _ hdevices => relays_publishing hdevices
        · exact relays_rollBack empty

theorem relays_stay (e : ServiceError) : Relays kind (stay e) :=
  relays_fetch (fun _ hdevices => relays_publishing hdevices) fun _ => relays_unchanged

theorem relays_deactivate (empty : kind []) : Relays kind deactivate := by
  refine relays_exclusively (relays_ask rfl fun active => ?_)
  cases active with
  | false => exact relays_unchanged
  | true =>
    refine relays_ask rfl fun removed => ?_
    cases removed with
    | error e => exact relays_stay e
    | ok =>
      refine relays_ask rfl fun left => ?_
      cases left with
      | error e => exact relays_stay e
      | ok =>
        refine relays_ask rfl fun turnedOn => ?_
        cases turnedOn with
        | error e => exact relays_stay e
        | ok => exact relays_publishing empty

theorem relays_refresh : Relays kind refresh := by
  refine relays_ask rfl fun active => ?_
  cases active with
  | false => exact relays_unchanged
  | true =>
    exact relays_fetch (fun _ hdevices => relays_publishing hdevices) fun _ => relays_unchanged

theorem relays_purge : Relays kind purge := by
  refine relays_exclusively (relays_ask rfl fun active => ?_)
  cases active with
  | false => exact relays_unchanged
  | true =>
    refine relays_ask rfl fun removed => ?_
    cases removed with
    | error e => exact relays_unchanged
    | ok => exact relays_bind relays_refresh fun _ => trivial

theorem relays_ofLinking (work : LinkingWork α) : Relays kind (ofLinking work) := by
  induction work with
  | done a => trivial
  | ask c next ih => exact relays_ask rfl ih

/-- The new device is not part of a list that is published as a whole. -/
theorem relays_listDevice (d : LinkedDevice) : Relays kind (listDevice d) := by
  refine relays_ask rfl fun () => relays_ask rfl fun () => relays_bind relays_refresh fun listed => ?_
  cases listed with
  | ok => exact relays_ask rfl fun () => trivial
  | error => exact relays_ask rfl fun () => relays_ask rfl fun () => trivial

theorem relays_link : Relays kind link := by
  refine relays_ask rfl fun active => ?_
  cases active with
  | false => exact relays_ask rfl fun _ => trivial
  | true =>
    refine relays_bind (relays_ofLinking _) fun linked => ?_
    cases linked with
    | error e => trivial
    | ok d => exact relays_bind (relays_listDevice d) fun () => trivial

end ListLemmas

open ListLemmas

/-- Every operation shows the lists as they were read, or the empty one. -/
theorem GroupRequest.relays (empty : kind []) (q : GroupRequest) : Relays kind q.work := by
  cases q with
  | activate label => exact relays_bind (relays_activate empty label) fun _ => trivial
  | deactivate => exact relays_bind (relays_deactivate empty) fun _ => trivial
  | purge => exact relays_bind relays_purge fun _ => trivial
  | load => exact relays_bind (relays_exclusively relays_refresh) fun _ => trivial
  | link => exact relays_bind relays_link fun _ => trivial

/-- A list that is published as a whole is of every kind that the empty list is of, and all lists that
were read. -/
theorem GroupRun.relayed (run : GroupRun env requests log w) (empty : kind [])
    (read : ∀ devices ∈ log.filterMap GroupEvent.fetched?, kind devices) :
    (∀ e ∈ log, ∀ devices ∈ e.call.publishes?, kind devices) ∧ ∀ n, Relays kind (w.works n) := by
  induction run with
  | start => exact ⟨nofun, fun n => (requests n).relays empty⟩
  | @call log w n c next answer g _ hwork _ ih =>
    rw [List.filterMap_append] at read
    obtain ⟨hlog, hworks⟩ := ih fun devices h => read devices (List.mem_append_left _ h)
    obtain ⟨hpublishes, hnext⟩ := hwork ▸ hworks n
    refine ⟨?_, fun m => ?_⟩
    · exact List.forall_mem_append.mpr ⟨hlog, List.forall_mem_singleton.mpr hpublishes⟩
    · show Relays kind (Function.update w.works n (next answer) m)
      by_cases hm : m = n
      · subst hm
        rw [Function.update_self]
        refine hnext answer () fun devices hread => read devices (List.mem_append_right _ ?_)
        exact List.mem_filterMap.mpr ⟨_, List.mem_cons_self, hread⟩
      · rw [Function.update_of_ne hm]
        exact hworks m
  | change _ _ ih => exact ih read

/-! ## 2. Distinct ids -/

/-- Each id is listed once. -/
def Distinct (devices : List LinkedDevice) : Prop := (devices.map (·.id)).Nodup

instance (devices : List LinkedDevice) : Decidable (Distinct devices) :=
  inferInstanceAs (Decidable (List.Nodup _))

/-- A device is added where another one is listed under its id. -/
def Clashes (s : GroupState) (c : GroupCall) : Prop :=
  ∃ d, c = .publishDevice d ∧ ∃ listed ∈ s.devices, listed.id = d.id ∧ listed ≠ d

/-- A device that is added leaves the ids distinct exactly if its id is not that of another device. -/
theorem distinct_publishDevice {s : GroupState} (d : LinkedDevice) (distinct : Distinct s.devices) :
    Distinct ((GroupCall.publishDevice d).shows s).devices ↔ ¬ Clashes s (.publishDevice d) := by
  have hclashes : Clashes s (.publishDevice d) ↔ ∃ listed ∈ s.devices, listed.id = d.id ∧ listed ≠ d := by
    constructor
    · rintro ⟨_, ⟨⟩, hlisted⟩
      exact hlisted
    · exact fun hlisted => ⟨d, rfl, hlisted⟩
  rw [hclashes]
  by_cases hmem : d ∈ s.devices
  · simp only [GroupCall.shows, if_pos hmem, distinct, true_iff]
    rintro ⟨listed, hlisted, hid, hother⟩
    exact hother (List.inj_on_of_nodup_map distinct hlisted hmem hid)
  · simp only [GroupCall.shows, if_neg hmem, Distinct, List.map_append, List.map_singleton]
    rw [← List.concat_eq_append, List.nodup_concat, List.mem_map]
    constructor
    · rintro ⟨hnew, -⟩ ⟨listed, hlisted, hid, -⟩
      exact hnew ⟨listed, hlisted, hid⟩
    · intro hfree
      refine ⟨?_, distinct⟩
      rintro ⟨listed, hlisted, hid⟩
      exact hfree ⟨listed, hlisted, hid, fun heq => hmem (heq ▸ hlisted)⟩

/-- What a call shows has distinct ids if what was shown has, and the list is not made to clash. -/
theorem distinct_shows {s : GroupState} {c : GroupCall} (distinct : Distinct s.devices)
    (whole : ∀ devices ∈ c.publishes?, Distinct devices) (free : ¬ Clashes s c) :
    Distinct (c.shows s).devices := by
  cases c with
  | publish s' => exact whole _ rfl
  | publishDevice d => exact (distinct_publishDevice d distinct).mpr free
  | republish | tryLock | joinLine | lock | unlock | isActive | register | fetch | dropOthers
  | deregister | setForwardSecurity | linking => exact distinct

/-! ## 3. The lists that are shown -/

/-- What the empty state has, and each event of the log keeps, the state has that is shown at any
moment. -/
theorem Orderly.shown_induction {fits : Ledger → Prop} {P : GroupState → Prop}
    (orderly : Orderly requests fits log w) (start : P {})
    (keep : ∀ earlier e later, log = earlier ++ e :: later → P (ledgerOf requests earlier).shown →
      P (e.call.shows (ledgerOf requests earlier).shown))
    {earlier later : List GroupEvent} (split : log = earlier ++ later) :
    P (ledgerOf requests earlier).shown := by
  induction earlier using List.reverseRecOn generalizing later with
  | nil => exact start
  | append_singleton earlier e ih =>
    rw [List.append_assoc] at split
    have hlawful := orderly.lawful earlier e later split
    rw [hlawful.shown_snoc, hlawful.shown]
    exact keep earlier e later split (ih split)

/-- If all lists that are published have distinct ids, so has the list that is shown at any moment. -/
theorem Orderly.distinct_of_published {fits : Ledger → Prop} (orderly : Orderly requests fits log w)
    (published : ∀ e ∈ log, e.call.publishes = true → Distinct e.shown.devices)
    {earlier later : List GroupEvent} (split : log = earlier ++ later) :
    Distinct (ledgerOf requests earlier).shown.devices := by
  refine orderly.shown_induction (P := fun s => Distinct s.devices) List.nodup_nil ?_ split
  intro earlier e later hsplit hdistinct
  cases hpublishes : e.call.publishes with
  | true =>
    rw [← (orderly.lawful earlier e later hsplit).shown]
    exact published e (by simp [hsplit]) hpublishes
  | false => rwa [GroupCall.shows_of_unpublished hpublishes]

/-- If no device is added where another one is listed under its id, the list that is shown at any moment
has distinct ids. -/
theorem Orderly.distinct_of_free {fits : Ledger → Prop} (orderly : Orderly requests fits log w)
    (whole : ∀ e ∈ log, ∀ devices ∈ e.call.publishes?, Distinct devices)
    (free : ∀ earlier e later, log = earlier ++ e :: later →
      ¬ Clashes (ledgerOf requests earlier).shown e.call)
    {earlier later : List GroupEvent} (split : log = earlier ++ later) :
    Distinct (ledgerOf requests earlier).shown.devices := by
  refine orderly.shown_induction (P := fun s => Distinct s.devices) List.nodup_nil ?_ split
  intro earlier e later hsplit hdistinct
  exact distinct_shows hdistinct (whole e (by simp [hsplit])) (free earlier e later hsplit)

/-- Operations run side by side, calls fail, and any device may come out of a linking attempt. If each
list that the registry answers has distinct ids, then the published ones have exactly if no device is
added where another one is listed under its id. -/
theorem listed_devices_distinct_iff (run : GroupRun env requests log w)
    (honest : ∀ devices ∈ log.filterMap GroupEvent.fetched?, Distinct devices) :
    (∀ e ∈ log, e.call.publishes = true → Distinct e.shown.devices) ↔
      ∀ earlier e later, log = earlier ++ e :: later →
        ¬ Clashes (ledgerOf requests earlier).shown e.call := by
  have horderly := run.orderly
  constructor
  · rintro hpublished earlier e later hsplit ⟨d, hcall, hlisted⟩
    have hbefore := horderly.distinct_of_published hpublished hsplit
    have hafter : Distinct (e.call.shows (ledgerOf requests earlier).shown).devices := by
      rw [← (horderly.lawful earlier e later hsplit).shown]
      exact hpublished e (by simp [hsplit]) (by rw [hcall]; rfl)
    rw [hcall] at hafter
    exact (distinct_publishDevice d hbefore).mp hafter ⟨d, rfl, hlisted⟩
  · intro hfree e he _
    obtain ⟨earlier, later, hsplit⟩ := List.append_of_mem he
    have hempty : Distinct [] := List.nodup_nil
    have hshown : log = (earlier ++ [e]) ++ later := by rw [hsplit, List.append_assoc]; rfl
    rw [← (horderly.lawful earlier e later hsplit).shown_snoc]
    exact horderly.distinct_of_free (run.relayed hempty honest).1 hfree hshown

namespace Sample

/-- The first client joins, all others link. -/
def joinAndLink : Nat → GroupRequest
  | 0 => .activate "Phone"
  | _ => .link

def tablet : LinkedDevice := ⟨8, "Tablet", "Android", none⟩

end Sample

open Sample in
/-- While the registry could not be read, a laptop is added to a list with a tablet. -/
theorem laptop_listed_beside_tablet : ∃ log w, GroupRun .registry joinAndLink log w ∧
    w.works 1 = .done (.linked (.ok laptop)) ∧ w.group.state.devices = [tablet, laptop] ∧
    (∀ devices ∈ log.filterMap GroupEvent.fetched?, Distinct devices) ∧
    (∀ e ∈ log, e.call.publishes = true → Distinct e.shown.devices) ∧
    ∀ earlier e later, log = earlier ++ e :: later →
      ¬ Clashes (ledgerOf joinAndLink earlier).shown e.call := by
  have hstart : GroupRun .registry joinAndLink [] _ := .start
  have hjoined := hstart.change (.inl ⟨tablet, rfl⟩)
    |>.call (n := 0) rfl (.here rfl rfl)
    |>.call (n := 0) rfl (.here rfl rfl)
    |>.call (n := 0) rfl (.abroad rfl ⟨none, rfl⟩)
    |>.call (n := 0) rfl (.abroad rfl ⟨none, rfl⟩)
    |>.call (n := 0) rfl (.abroad rfl ⟨none, rfl⟩)
    |>.call (n := 0) rfl (.here rfl rfl)
    |>.call (n := 0) rfl (.here rfl rfl)
  have hprovisioned := hjoined
    |>.call (n := 1) rfl (.here rfl rfl)
    |>.call (n := 1) rfl (.abroad rfl ⟨some ({}, provisioner), rfl⟩)
    |>.call (n := 1) rfl (.abroad rfl ⟨some ({}, provisioner), rfl⟩)
    |>.call (n := 1) rfl (.abroad rfl ⟨some ({}, provisioner), rfl⟩)
    |>.call (n := 1) rfl (.abroad rfl ⟨some (confirmed, provisioner), rfl⟩)
    |>.call (n := 1) rfl (.abroad rfl ⟨some (confirmed, provisioner), rfl⟩)
    |>.call (n := 1) rfl (.abroad rfl ⟨some (confirmed, provisioner), rfl⟩)
  have hlinked := hprovisioned.change (.inr ⟨.fetch, .unavailable "offline", rfl⟩)
    |>.call (n := 1) rfl (.here rfl rfl)
    |>.call (n := 1) rfl (.here rfl rfl)
    |>.call (n := 1) rfl (.here rfl rfl)
    |>.call (n := 1) rfl (.abroad rfl ⟨none, rfl⟩)
    |>.call (n := 1) rfl (.here rfl rfl)
    |>.call (n := 1) rfl (.here rfl rfl)
    |>.call (n := 1) rfl (.here rfl rfl)
  exact ⟨_, _, hlinked, rfl, rfl, by decide +kernel, by decide +kernel,
    (listed_devices_distinct_iff hlinked (by decide +kernel)).mp (by decide +kernel)⟩

/-! ## 4. Listed twice -/

namespace Sample

def desktop : LinkedDevice := { laptop with label := "Desktop" }

/-- The laptop is listed. It is set up anew as a desktop, and linked while the registry cannot be read. -/
def relinkingLaptop : List DeskAct :=
  [.addDevice laptop, .activate "Phone", .openSession "screen", .withHandle "screen" (.clone "task"),
    .failNext .fetch (.unavailable "offline"),
    .withHandle "task" (.link ⟨.ok (rendezvous 1), .ok desktop⟩), .withHandle "screen" .confirm]

end Sample

open Sample in
/-- The registry lists one device, and the published list has two of its id. -/
theorem relinked_device_is_listed_twice :
    let desk := relinkingLaptop.foldl (fun (desk : LinkingDesk) act => (desk.act act).2) {}
    desk.schedule.group.registry.devices = [laptop] ∧
    desk.schedule.group.state.devices = [laptop, desktop] ∧
    ¬ Distinct desk.schedule.group.state.devices :=
  ⟨by decide +kernel, by decide +kernel, by decide +kernel⟩

end DeviceSync
