import DeviceSync.Group.Desk
import DeviceSync.Proofs.Group.Exclusion
import DeviceSync.Proofs.Linking.Provisioning

/-!
# Linking and activity

An attempt to link a device looks once whether this device takes part in the group, at its start, and then
waits for the operator without the lock. At its end it takes the lock and reads the list, but it does not
mind if the list is empty because this device has left in the meantime.

1. `Rejoined`: whoever left has joined again (`active_iff_rejoined`).
2. `linked_group_is_active_iff`: when a device is linked into a group that is active.
3. `device_linked_to_inactive_group`: this device left while the operator compared the codes.
-/

namespace DeviceSync

variable {env : Surroundings} {requests : Nat → GroupRequest} {log : List GroupEvent}
variable {w : GroupScene} {e : GroupEvent}

/-! ## 1. Leaving and joining -/

namespace GroupEvent

/-- This device is shown as having left. -/
def Leaves (requests : Nat → GroupRequest) (e : GroupEvent) : Prop :=
  requests e.operation = .deactivate ∧ e.call.publishes = true ∧ e.shown.active = false

/-- This device is shown as having joined. -/
def Joins (requests : Nat → GroupRequest) (e : GroupEvent) : Prop :=
  (∃ label, requests e.operation = .activate label) ∧ e.call.publishes = true ∧
    e.shown.active = true

end GroupEvent

/-- Whenever this device left, it joined again later. -/
def Rejoined (requests : Nat → GroupRequest) (events : List GroupEvent) : Prop :=
  ∀ earlier e later, events = earlier ++ e :: later → e.Leaves requests →
    ∃ e' ∈ later, e'.Joins requests

theorem rejoined_snoc {events : List GroupEvent} :
    Rejoined requests (events ++ [e]) ↔
      ¬ e.Leaves requests ∧ (e.Joins requests ∨ Rejoined requests events) := by
  constructor
  · intro h
    refine ⟨fun hleaves => ?_, or_iff_not_imp_left.mpr fun hjoins => ?_⟩
    · obtain ⟨_, hmem, -⟩ := h events e [] rfl hleaves
      exact nomatch hmem
    · rintro earlier e' later rfl hleaves
      obtain ⟨e'', hmem, hjoins'⟩ := h earlier e' (later ++ [e]) (by simp) hleaves
      rcases List.mem_append.mp hmem with hlater | hlast
      · exact ⟨e'', hlater, hjoins'⟩
      · exact absurd (List.mem_singleton.mp hlast ▸ hjoins') hjoins
  · rintro ⟨hstays, h⟩ earlier e' later hsplit hleaves
    rcases List.eq_nil_or_concat later with rfl | ⟨later, last, rfl⟩
    · obtain ⟨-, hlast⟩ := List.append_inj' hsplit rfl
      exact absurd (List.singleton_inj.mp hlast ▸ hleaves) hstays
    · rw [List.concat_eq_append, ← List.cons_append, ← List.append_assoc] at hsplit
      obtain ⟨hevents, hlast⟩ := List.append_inj' hsplit rfl
      rcases h with hjoins | hrejoined
      · exact ⟨e, by simp [List.singleton_inj.mp hlast], hjoins⟩
      · obtain ⟨e'', hmem, hjoins⟩ := hrejoined earlier e' later hevents hleaves
        exact ⟨e'', by simp [hmem], hjoins⟩

/-- Only joining and leaving change whether this device takes part. -/
theorem Lawful.active_cases (lawful : Lawful requests log e) :
    e.Leaves requests ∨ e.Joins requests ∨
      e.shown.active = (ledgerOf requests log).shown.active := by
  cases hpublishes : e.call.publishes with
  | false =>
    rw [lawful.shown, GroupCall.shows_of_unpublished hpublishes]
    exact .inr (.inr rfl)
  | true =>
    have hturn := lawful.turn
    generalize hrequest : requests e.operation = q at hturn
    generalize hshown : e.shown = s at hturn
    cases hturn with
    | kept => exact .inr (.inr rfl)
    | joins label =>
      exact .inr (.inl ⟨⟨label, hrequest⟩, hpublishes, congrArg GroupState.active hshown⟩)
    | failsToJoin _ hinactive => exact .inr (.inr hinactive.symm)
    | leaves => exact .inl ⟨hrequest, hpublishes, congrArg GroupState.active hshown⟩
    | lists _ _ hactive => exact .inr (.inr hactive.symm)
    | adds => exact .inr (.inr rfl)

/-- From a moment when this device takes part, it takes part later on exactly if it has joined again
whenever it left. -/
theorem Orderly.active_iff_rejoined {fits : Ledger → Prop} (orderly : Orderly requests fits log w)
    {earlier meanwhile later : List GroupEvent} (split : log = earlier ++ (meanwhile ++ later))
    (active : (ledgerOf requests earlier).shown.active = true) :
    (ledgerOf requests (earlier ++ meanwhile)).shown.active = true ↔ Rejoined requests meanwhile := by
  induction meanwhile using List.reverseRecOn generalizing later with
  | nil =>
    rw [List.append_nil]
    exact iff_of_true active fun _ _ _ h => by simp at h
  | append_singleton meanwhile e ih =>
    rw [List.append_assoc] at split
    have hlawful : Lawful requests (earlier ++ meanwhile) e :=
      orderly.lawful _ e later (by simp [split])
    rw [rejoined_snoc, ← ih split, ← List.append_assoc, hlawful.shown_snoc]
    rcases hlawful.active_cases with hleaves | hjoins | hkept
    · exact iff_of_false (by simp [hleaves.2.2]) fun h => h.1 hleaves
    · have hstays : ¬ e.Leaves requests := fun hleaves =>
        nomatch hjoins.2.2.symm.trans hleaves.2.2
      exact iff_of_true hjoins.2.2 ⟨hstays, .inl hjoins⟩
    · rw [← hkept]
      constructor
      · intro hactive
        refine ⟨fun hleaves => ?_, .inr hactive⟩
        exact nomatch hactive.symm.trans hleaves.2.2
      · rintro ⟨-, hjoins | hactive⟩
        · exact hjoins.2.2
        · exact hactive

/-! ## 2. The end of linking -/

/-- Of two places in a list, the second comes after the first if it is not before it. -/
theorem split_in_order {α : Type} {before rest earlier after : List α} {a b : α}
    (h : before ++ a :: rest = earlier ++ b :: after) (absent : b ∉ before) (other : b ≠ a) :
    ∃ meanwhile, earlier = before ++ a :: meanwhile ∧ rest = meanwhile ++ b :: after := by
  rcases List.append_eq_append_iff.mp h with ⟨between, rfl, hbetween⟩ | ⟨between, rfl, hbetween⟩
  · cases between with
    | nil => exact absurd (List.cons.inj hbetween).1.symm other
    | cons _ meanwhile =>
      obtain ⟨rfl, hrest⟩ := List.cons.inj hbetween
      exact ⟨meanwhile, rfl, hrest⟩
  · cases between with
    | nil => exact absurd (List.cons.inj hbetween).1 other
    | cons _ _ =>
      obtain ⟨rfl, -⟩ := List.cons.inj hbetween
      exact absurd (List.mem_append_right _ List.mem_cons_self) absent

/-- The last of a list comes after every other place in it. -/
theorem split_at_end {α : Type} {l before after : List α} {last b : α}
    (h : l ++ [last] = before ++ b :: after) : after = [] ∧ last = b ∨ last ∈ after := by
  rcases List.eq_nil_or_concat after with rfl | ⟨after, last', rfl⟩
  · obtain ⟨-, hlast⟩ := List.append_inj' h rfl
    exact .inl ⟨rfl, List.singleton_inj.mp hlast⟩
  · rw [List.concat_eq_append, ← List.cons_append, ← List.append_assoc] at h
    obtain ⟨-, hlast⟩ := List.append_inj' h rfl
    exact .inr (by simp [List.singleton_inj.mp hlast])

/-- An attempt to link that comes to its end has found this device taking part at its start. -/
theorem callsOf_linked {n : Nat} {d : LinkedDevice} (run : GroupRun env requests log w)
    (links : requests n = .link) (linked : w.works n = .done (.linked (.ok d))) :
    ∃ calls, callsOf n log = ⟨.isActive, true⟩ :: calls := by
  have hleads := run.leads n
  rw [links, linked] at hleads
  obtain ⟨active, calls, hcalls, hlater⟩ := hleads.of_ask
  cases active with
  | true => exact ⟨calls, hcalls⟩
  | false =>
    obtain ⟨_, _, -, hend⟩ := hlater.of_ask
    exact nomatch hend

/-- Operations run side by side, and those outside answer as they like. When a device has been linked, this
device took part in the group at the start; at the end it takes part exactly if it has joined again
whenever it left in between. -/
theorem linked_group_is_active_iff {n : Nat} {d : LinkedDevice} (run : GroupRun env requests log w)
    (links : requests n = .link) (linked : w.works n = .done (.linked (.ok d))) :
    ∃ before s meanwhile s' after,
      log = before ++ ⟨n, .isActive, true, s⟩ :: (meanwhile ++ ⟨n, .unlock, (), s'⟩ :: after) ∧
      (∀ e ∈ before ++ after, e.operation ≠ n) ∧ s.active = true ∧
      (s'.active = true ↔ Rejoined requests meanwhile) := by
  have horderly := run.orderly
  obtain ⟨calls, hcalls⟩ := callsOf_linked run links linked
  obtain ⟨before, s, rest, hfirst, hbefore⟩ := exists_of_callsOf_eq_cons hcalls
  rcases horderly.ended linked with
      ⟨hrefusal | ⟨_, hfailed⟩, -⟩ | ⟨_, earlier, after, hlast, hafter, -⟩
  · exact nomatch hrefusal
  · exact nomatch hfailed
  · obtain ⟨meanwhile, rfl, rfl⟩ := split_in_order (hfirst.symm.trans hlast)
      (fun hmem => hbefore _ hmem rfl) nofun
    have hlooks := horderly.lawful before _ _ hfirst
    have hactive := hlooks.looks n true s rfl
    refine ⟨before, s, meanwhile, _, after, hfirst, ?_, hactive, ?_⟩
    · exact List.forall_mem_append.mpr ⟨hbefore, hafter⟩
    · have hstart : (ledgerOf requests (before ++ [⟨n, .isActive, true, s⟩])).shown.active = true := by
        rw [hlooks.shown_snoc]
        exact hactive
      rw [List.append_cons before]
      exact horderly.active_iff_rejoined (hfirst.trans (List.append_cons before _ _)) hstart

namespace Sample

/-- While a device is linked, this device leaves and joins again. -/
def relinking : Nat → GroupRequest
  | 1 => .link
  | 2 => .deactivate
  | _ => .activate "Phone"

end Sample

open Sample in
/-- This device leaves while the operator compares the codes, and joins again before they are confirmed. -/
theorem laptop_linked_after_rejoining : ∃ log w, GroupRun .registry relinking log w ∧
    w.works 1 = .done (.linked (.ok laptop)) ∧ w.group.state.active = true ∧
    ∃ before s meanwhile s',
      log = before ++ ⟨1, .isActive, true, s⟩ :: (meanwhile ++ [⟨1, .unlock, (), s'⟩]) ∧
      Rejoined relinking meanwhile := by
  have hstart : GroupRun .registry relinking [] _ := .start
  have hjoined := hstart
    |>.call (n := 0) rfl (.here rfl rfl)
    |>.call (n := 0) rfl (.here rfl rfl)
    |>.call (n := 0) rfl (.abroad rfl ⟨none, rfl⟩)
    |>.call (n := 0) rfl (.abroad rfl ⟨none, rfl⟩)
    |>.call (n := 0) rfl (.abroad rfl ⟨none, rfl⟩)
    |>.call (n := 0) rfl (.here rfl rfl)
    |>.call (n := 0) rfl (.here rfl rfl)
  have hwaiting := hjoined
    |>.call (n := 1) rfl (.here rfl rfl)
    |>.call (n := 1) rfl (.abroad rfl ⟨some ({}, provisioner), rfl⟩)
    |>.call (n := 1) rfl (.abroad rfl ⟨some ({}, provisioner), rfl⟩)
    |>.call (n := 1) rfl (.abroad rfl ⟨some ({}, provisioner), rfl⟩)
  have hleft := hwaiting
    |>.call (n := 2) rfl (.here rfl rfl)
    |>.call (n := 2) rfl (.here rfl rfl)
    |>.call (n := 2) rfl (.abroad rfl ⟨none, rfl⟩)
    |>.call (n := 2) rfl (.abroad rfl ⟨none, rfl⟩)
    |>.call (n := 2) rfl (.abroad rfl ⟨none, rfl⟩)
    |>.call (n := 2) rfl (.here rfl rfl)
    |>.call (n := 2) rfl (.here rfl rfl)
  have hrejoined := hleft
    |>.call (n := 3) rfl (.here rfl rfl)
    |>.call (n := 3) rfl (.here rfl rfl)
    |>.call (n := 3) rfl (.abroad rfl ⟨none, rfl⟩)
    |>.call (n := 3) rfl (.abroad rfl ⟨none, rfl⟩)
    |>.call (n := 3) rfl (.abroad rfl ⟨none, rfl⟩)
    |>.call (n := 3) rfl (.here rfl rfl)
    |>.call (n := 3) rfl (.here rfl rfl)
  have hlinked := hrejoined
    |>.call (n := 1) rfl (.abroad rfl ⟨some (confirmed, provisioner), rfl⟩)
    |>.call (n := 1) rfl (.abroad rfl ⟨some (confirmed, provisioner), rfl⟩)
    |>.call (n := 1) rfl (.abroad rfl ⟨some (confirmed, provisioner), rfl⟩)
    |>.call (n := 1) rfl (.here rfl rfl)
    |>.call (n := 1) rfl (.here rfl rfl)
    |>.call (n := 1) rfl (.here rfl rfl)
    |>.call (n := 1) rfl (.abroad rfl ⟨none, rfl⟩)
    |>.call (n := 1) rfl (.here rfl rfl)
    |>.call (n := 1) rfl (.here rfl rfl)
  obtain ⟨before, s, meanwhile, s', after, hsplit, hothers, -, hiff⟩ :=
    linked_group_is_active_iff (n := 1) hlinked rfl rfl
  rcases split_at_end (hsplit.trans (List.append_assoc before (_ :: meanwhile) _).symm) with
      ⟨rfl, hlast⟩ | hlater
  · have hactive : s'.active = true := congrArg (fun e => e.shown.active) hlast.symm
    exact ⟨_, _, hlinked, rfl, rfl, before, s, meanwhile, s', hsplit, hiff.mp hactive⟩
  · exact absurd rfl (hothers _ (List.mem_append_right _ hlater))

/-! ## 3. Linked to an inactive group -/

namespace Sample

/-- An attempt to link waits for the operator, who confirms after this device has left. -/
def leaving : List DeskAct :=
  [.activate "Phone", .openSession "screen", .withHandle "screen" (.clone "task"),
    .withHandle "task" (.link provisioner), .deactivate, .withHandle "screen" .confirm]

end Sample

open Sample in
/-- The attempt returns the new device, while this device does not take part in the group. -/
theorem device_linked_to_inactive_group :
    let desk := leaving.foldl (fun (desk : LinkingDesk) act => (desk.act act).2) {}
    desk.schedule.finished =
      [(0, .done (.ok ())), (4, .done (.ok ())), (3, .linked (.ok laptop))] ∧
    desk.schedule.group.state.active = false :=
  ⟨rfl, by decide +kernel⟩

end DeviceSync
