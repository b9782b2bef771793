import DeviceSync.Proofs.Group.Exclusion

/-!
# Forward security follows activity

Forward security is off exactly while this device takes part. Joining turns it off first, leaving turns
it on last, and each of the two can fail at every call; what a failed attempt has come to is said by
`Settles`, so the equivalence has only to be kept from one settled operation to the next.

1. What a failed attempt to join leaves: forward security is on again, unless that very call failed.
2. An operation that has not begun, or that has ended, does not hold the lock.
3. `forward_security_follows_activity`.
-/

namespace DeviceSync

variable {env : Surroundings} {requests : Nat → GroupRequest} {log : List GroupEvent}
variable {w : GroupScene}

/-! ## 1. Failed attempts -/

/-- Forward security could not be turned on. -/
def GroupCall.failsToTurnOn : (c : GroupCall) → c.Answer → Bool
  | .setForwardSecurity true, .error _ => true
  | _, _ => false

/-- Forward security is off exactly while this device takes part, unless it could not be turned on
again. -/
def Ledger.FollowsActivity (l : Ledger) : Prop :=
  l.unrestored = false → (l.forwardSecurity = some false ↔ l.shown.active = true)

theorem Settles.followsActivity {l l' : Ledger} {q : GroupRequest} {r : OperationResult}
    (fits : l.FollowsActivity) (settles : Settles l q r l') : l'.FollowsActivity := by
  intro hrestored
  cases settles with
  | unchanged => exact fits hrestored
  | joins => simp
  | failsToJoin _ hshown _ hback =>
    rcases hback with hon | hunrestored
    · simp [hon, hshown]
    · exact nomatch hrestored.symm.trans hunrestored
  | leaves => simp
  | failsToLeave hactive hactive' hunset hkept =>
    have hbefore := fits (hkept.symm.trans hrestored)
    rw [hunset, hactive', hbefore, hactive]
  | lists _ _ _ hactive | removes hactive | adds hactive =>
    have hbefore := fits hrestored
    rw [hactive] at hbefore
    exact hbefore.trans (by simp [GroupCall.shows, hactive])

theorem Settles.shown_of_failed_activate {l l' : Ledger} {label : String} {e : GroupError}
    (settles : Settles l (.activate label) (.done (.error e)) l') : l'.shown = {} := by
  generalize hresult : OperationResult.done (.error e) = r at settles
  cases settles with
  | unchanged _ hnot | lists _ _ hnot => exact absurd hresult.symm (hnot label e rfl)
  | joins => exact nomatch hresult
  | failsToJoin _ hempty => exact hempty

/-- The ledger holds no failure to turn forward security on again where there was none. -/
theorem ledger_restored
    (restores : ∀ e ∈ log, ∀ label, requests e.operation = .activate label →
      e.call.failsToTurnOn e.answer = false) :
    (ledgerOf requests log).unrestored = false := by
  induction log using List.reverseRecOn with
  | nil => rfl
  | append_singleton log e ih =>
    have hlog := ih fun e he => restores e (List.mem_append_left _ he)
    have hlast := restores e (List.mem_append_right _ List.mem_cons_self)
    obtain ⟨n, c, answer, s⟩ := e
    rw [ledgerOf_snoc]
    cases c with
    | setForwardSecurity enabled =>
      cases answer with
      | ok => exact hlog
      | error =>
        cases enabled with
        | false => exact hlog
        | true =>
          cases hq : requests n with
          | activate label => exact nomatch hlast label hq
          | deactivate | purge | load | link => simpa [hq, Ledger.note] using hlog
    | register | fetch | dropOthers | deregister => cases answer <;> exact hlog
    | tryLock | lock | unlock | joinLine | isActive | publish | republish | publishDevice
    | linking => exact hlog

/-- An attempt to join that fails for any other reason than another operation tries to deregister this
device. -/
theorem activate_deregisters (label : String) :
    (GroupRequest.activate label).work.Meets (· = .deregister)
      fun r => ∀ e, r = .done (.error e) → e = .inProgress := by
  refine .inr fun taken => ?_
  cases taken with
  | false => exact fun e h => (Except.error.inj (OperationResult.done.inj h)).symm
  | true =>
    refine .inr fun active => ?_
    cases active with
    | true => exact .inr fun () => .inr fun () => nofun
    | false =>
      refine .inr fun turnedOff => ?_
      cases turnedOff with
      | error => exact .inl rfl
      | ok =>
        refine .inr fun registered => ?_
        cases registered with
        | error => exact .inl rfl
        | ok =>
          refine .inr fun fetched => ?_
          cases fetched with
          | error => exact .inl rfl
          | ok => exact .inr fun () => .inr fun () => nofun

/-! ## 2. The free lock -/

/-- No operation begins while it holds the lock. -/
theorem GroupRequest.not_inside (q : GroupRequest) (before now : Ledger) :
    ¬ Complies q (Ends q) q.work (.inside before now) := by
  intro hcomplies
  cases q with
  | activate | deactivate | purge | load =>
    obtain ⟨⟨htouches | hlooks | hunlocks, -⟩, -⟩ := hcomplies
    · exact nomatch htouches
    · exact nomatch hlooks
    · exact nomatch hunlocks
  | link =>
    -- The first call is allowed inside, the call after it is not.
    have hsecond := hcomplies.2 now.shown.active _ .looked
    cases hactive : now.shown.active with
    | false =>
      rw [hactive] at hsecond
      obtain ⟨⟨htouches | hlooks | hunlocks, -⟩, -⟩ := hsecond
      · exact nomatch htouches
      · exact nomatch hlooks
      · exact nomatch hunlocks
    | true =>
      rw [hactive] at hsecond
      obtain ⟨⟨htouches | hlooks | hunlocks, -⟩, -⟩ := hsecond
      · exact nomatch htouches
      · exact nomatch hlooks
      · exact nomatch hunlocks

theorem Orderly.free_of_idle {fits : Ledger → Prop} (orderly : Orderly requests fits log w)
    (idle : w.Idle requests) : w.group.holder = none := by
  rw [orderly.holder]
  cases hholder : lockHolder log with
  | none => rfl
  | some n =>
    obtain ⟨standing, hstands, hcomplies⟩ := orderly.standing n
    cases standing with
    | outside | gone => exact absurd hholder hstands.1
    | inside before now =>
      rcases idle n with hnew | ⟨r, hdone⟩
      · rw [hnew] at hcomplies
        exact absurd hcomplies ((requests n).not_inside before now)
      · rw [hdone] at hcomplies
        exact nomatch hcomplies

/-! ## 3. The equivalence -/

/-- Operations run side by side, and those outside answer as they like, except that a failed attempt to
join can turn forward security on again. While no operation is under way nobody holds the lock, and while
nobody holds it, forward security was turned off last exactly if this device takes part. An attempt to
join that fails, and not because another operation was under way, has tried to deregister this device, and
gives back the lock while it is out of the group and no devices are shown. -/
theorem forward_security_follows_activity (run : GroupRun env requests log w)
    (restores : ∀ e ∈ log, ∀ label, requests e.operation = .activate label →
      e.call.failsToTurnOn e.answer = false) :
    (w.Idle requests → w.group.holder = none) ∧
    (w.group.holder = none →
      ((ledgerOf requests log).forwardSecurity = some false ↔ w.group.state.active = true)) ∧
    ∀ n label e, requests n = .activate label → w.works n = .done (.done (.error e)) →
      e ≠ .inProgress → ∃ earlier later, log = earlier ++ ⟨n, .unlock, (), {}⟩ :: later ∧
        (∀ e ∈ later, e.operation ≠ n) ∧ ∃ e ∈ earlier, e.operation = n ∧ e.call = .deregister := by
  have horderly : Orderly requests Ledger.FollowsActivity log w :=
    orderly_of_run (by simp [Ledger.FollowsActivity])
      (fun _ _ _ _ fits settles => settles.followsActivity fits) run
  refine ⟨horderly.free_of_idle, ?_, ?_⟩
  · intro hfree
    rw [horderly.shown]
    exact horderly.free (horderly.holder.symm.trans hfree) (ledger_restored restores)
  · intro n label e hrequest hdone hother
    rcases horderly.ended hdone with
        ⟨hrefusal | ⟨_, hlinked⟩, -⟩ | ⟨_, earlier, later, hsplit, hquiet, hsettles⟩
    · cases e with
      | inProgress => exact absurd rfl hother
      | notActive | service | linking => exact nomatch hrefusal
    · exact nomatch hlinked
    · rw [hrequest] at hsettles
      rw [hsettles.shown_of_failed_activate] at hsplit
      refine ⟨earlier, later, hsplit, hquiet, ?_⟩
      have hleads := run.leads n
      rw [hdone, hrequest] at hleads
      obtain ⟨made, hmade, hcall⟩ :=
        hleads.meets (activate_deregisters label) fun h => hother (h e rfl)
      obtain ⟨e', he', hoperation, rfl⟩ := exists_of_mem_callsOf hmade
      rw [hsplit] at he'
      rcases List.mem_append.mp he' with hearlier | hlater
      · exact ⟨e', hearlier, hoperation, hcall⟩
      · rcases List.mem_cons.mp hlater with rfl | hlater
        · exact nomatch hcall
        · exact absurd hoperation (hquiet e' hlater)

/-- The list cannot be read when the first client joins, so all is undone; the second client joins after
it. -/
theorem second_client_joins : ∃ log w,
    GroupRun .registry (fun _ => .activate "Phone") log w ∧
    w.works 0 = .done (.done (.error (.service (.unavailable "offline")))) ∧
    (∃ earlier later, log = earlier ++ ⟨0, .unlock, (), {}⟩ :: later ∧
      (∀ e ∈ later, e.operation ≠ 0) ∧ ∃ e ∈ earlier, e.operation = 0 ∧ e.call = .deregister) ∧
    w.works 1 = .done (.done (.ok ())) ∧ w.group.state.active = true ∧
    (ledgerOf (fun _ => .activate "Phone") log).forwardSecurity = some false := by
  have hstart : GroupRun .registry (fun _ => .activate "Phone") [] _ := .start
  have hfault := hstart.change (.inr ⟨.fetch, .unavailable "offline", rfl⟩)
  have hfailed := hfault
    |>.call (n := 0) rfl (.here rfl rfl)
    |>.call (n := 0) rfl (.here rfl rfl)
    |>.call (n := 0) rfl (.abroad rfl ⟨none, rfl⟩)
    |>.call (n := 0) rfl (.abroad rfl ⟨none, rfl⟩)
    |>.call (n := 0) rfl (.abroad rfl ⟨none, rfl⟩)
    |>.call (n := 0) rfl (.abroad rfl ⟨none, rfl⟩)
    |>.call (n := 0) rfl (.abroad rfl ⟨none, rfl⟩)
    |>.call (n := 0) rfl (.here rfl rfl)
    |>.call (n := 0) rfl (.here rfl rfl)
  have hjoined := hfailed
    |>.call (n := 1) rfl (.here rfl rfl)
    |>.call (n := 1) rfl (.here rfl rfl)
    |>.call (n := 1) rfl (.abroad rfl ⟨none, rfl⟩)
    |>.call (n := 1) rfl (.abroad rfl ⟨none, rfl⟩)
    |>.call (n := 1) rfl (.abroad rfl ⟨none, rfl⟩)
    |>.call (n := 1) rfl (.here rfl rfl)
    |>.call (n := 1) rfl (.here rfl rfl)
  obtain ⟨-, hfollows, hfailure⟩ := forward_security_follows_activity hjoined <| by
    intro e he _ _
    simpa using (List.all_eq_true (p := fun e => !e.call.failsToTurnOn e.answer)).mp rfl e he
  exact ⟨_, _, hjoined, rfl, hfailure 0 "Phone" _ rfl rfl nofun, rfl, rfl, (hfollows rfl).mpr rfl⟩

end DeviceSync
