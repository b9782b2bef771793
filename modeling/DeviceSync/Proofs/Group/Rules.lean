import DeviceSync.Proofs.Group.Interleaving

/-!
# What an operation may do

An operation works on the group while it holds the lock, and only then. What it does there can be said
without the others, for they wait outside.

1. `Ledger`: what the answers so far tell about the group.
2. `GroupTurn` and `Settles`: what an operation may publish, and what it may have made of the group
   when it gives back the lock.
3. `permits` and `Admits`: the rules for a single call, by how the operation stands to the lock.
4. `complies`: every operation keeps to these rules, whatever it is answered.
-/

namespace DeviceSync

/-! ## 1. The ledger -/

/-- What the answers to the operations tell. -/
structure Ledger where
  /-- The state that is shown. -/
  shown : GroupState := {}
  /-- Forward security as it was set last. -/
  forwardSecurity : Option Bool := none
  /-- An attempt to join failed and could not turn forward security on again. -/
  unrestored : Bool := false
  /-- The devices that were read last. -/
  fetched : List LinkedDevice := []
  /-- The other devices were removed, and have not been read since. -/
  unread : Bool := false
  /-- This device is registered. -/
  registered : Bool := false
  /-- Since this device registered, it tried to leave and could not turn forward security on. -/
  stranded : Bool := false

namespace Ledger

/-- The ledger after a call. -/
def note (request : GroupRequest) (l : Ledger) : (c : GroupCall) → c.Answer → Ledger
  | .publish s, _ => { l with shown := s }
  | .publishDevice d, _ => { l with shown := GroupCall.shows l.shown (.publishDevice d) }
  | .register _, .ok () => { l with registered := true, stranded := false }
  | .fetch, .ok devices => { l with fetched := devices, unread := false }
  | .dropOthers, .ok () => { l with unread := true }
  | .deregister, .ok () => { l with registered := false }
  | .setForwardSecurity enabled, .ok () => { l with forwardSecurity := some enabled }
  | .setForwardSecurity true, .error _ =>
    match request with
    | .activate _ => { l with unrestored := true }
    | _ => { l with stranded := true }
  | _, _ => l

end Ledger

/-- The ledger after what happened. -/
def ledgerOf (requests : Nat → GroupRequest) (log : List GroupEvent) : Ledger :=
  log.foldl (fun l e => l.note (requests e.operation) e.call e.answer) {}

theorem ledgerOf_snoc (requests : Nat → GroupRequest) (log : List GroupEvent) (e : GroupEvent) :
    ledgerOf requests (log ++ [e]) =
      (ledgerOf requests log).note (requests e.operation) e.call e.answer := by
  simp [ledgerOf]

theorem Ledger.note_shown (q : GroupRequest) (l : Ledger) (c : GroupCall) (answer : c.Answer) :
    (l.note q c answer).shown = c.shows l.shown := by
  cases c with
  | register | fetch | dropOthers | deregister => cases answer <;> rfl
  | setForwardSecurity enabled => cases answer <;> cases enabled <;> cases q <;> rfl
  | tryLock | lock | unlock | joinLine | isActive | publish | republish | publishDevice | linking => rfl

/-- Calls that do not touch the group leave the ledger alone. -/
theorem Ledger.note_of_untouched (q : GroupRequest) (l : Ledger) {c : GroupCall} (answer : c.Answer)
    (h : c.touches = false) : l.note q c answer = l := by
  cases c with
  | tryLock | lock | unlock | joinLine | isActive | linking => rfl
  | register | fetch | dropOthers | deregister | setForwardSecurity => exact nomatch h
  | publish | republish | publishDevice => exact nomatch h

/-! ## 2. What an operation may come to -/

/-- The state that an operation may publish, by the state that is shown. -/
inductive GroupTurn (s : GroupState) : GroupRequest → GroupState → Prop
  | kept (q : GroupRequest) : GroupTurn s q s
  | joins (label : String) (devices : List LinkedDevice) :
      s.active = false → GroupTurn s (.activate label) ⟨true, devices⟩
  | failsToJoin (label : String) : s.active = false → GroupTurn s (.activate label) {}
  | leaves : s.active = true → GroupTurn s .deactivate {}
  | lists (q : GroupRequest) (devices : List LinkedDevice) :
      s.active = true → GroupTurn s q ⟨true, devices⟩
  | adds (d : LinkedDevice) :
      s.active = true → GroupTurn s .link (GroupCall.shows s (.publishDevice d))

/-- What an operation may have come to when it gives back the lock, with the ledger then, by the
ledger when it took the lock. -/
inductive Settles (l : Ledger) : GroupRequest → OperationResult → Ledger → Prop
  | unchanged {q : GroupRequest} {r : OperationResult} :
      r.isRefusal = false → (∀ label e, q = .activate label → r ≠ .done (.error e)) →
      Settles l q r l
  | joins {label : String} (devices : List LinkedDevice) :
      l.shown.active = false →
      Settles l (.activate label) (.done (.ok ()))
        { l with
          shown := ⟨true, devices⟩, forwardSecurity := some false
          fetched := devices, unread := false, registered := true, stranded := false }
  | failsToJoin {label : String} {e : ServiceError} {l' : Ledger} :
      l.shown.active = false → l'.shown = {} → (l.unrestored = true → l'.unrestored = true) →
      (l'.forwardSecurity = some true ∨ l'.unrestored = true) →
      Settles l (.activate label) (.done (.error (.service e))) l'
  | leaves :
      l.shown.active = true →
      Settles l .deactivate (.done (.ok ()))
        { l with shown := {}, forwardSecurity := some true, unread := true, registered := false }
  /-- An attempt to leave failed, perhaps after this device was deregistered, and perhaps without the
  list being read again. -/
  | failsToLeave {e : ServiceError} {l' : Ledger} :
      l.shown.active = true → l'.shown.active = true →
      l'.forwardSecurity = l.forwardSecurity → l'.unrestored = l.unrestored →
      (l'.registered = l.registered ∧ l'.stranded = l.stranded ∨
        l'.registered = false ∧ l'.stranded = true) →
      (l'.shown.devices = l'.fetched ∨ l'.shown = l.shown ∧ l'.fetched = l.fetched) →
      Settles l .deactivate (.done (.error (.service e))) l'
  | lists {q : GroupRequest} {r : OperationResult} (devices : List LinkedDevice) :
      r.isRefusal = false → (∀ label e, q = .activate label → r ≠ .done (.error e)) →
      l.shown.active = true →
      Settles l q r { l with shown := ⟨true, devices⟩, fetched := devices, unread := false }
  /-- The other devices were removed, and the list could not be read again. -/
  | removes {e : ServiceError} :
      l.shown.active = true →
      Settles l .purge (.done (.error (.service e))) { l with unread := true }
  | adds {d : LinkedDevice} :
      l.shown.active = true →
      Settles l .link (.linked (.ok d)) { l with shown := GroupCall.shows l.shown (.publishDevice d) }

theorem Settles.not_refusal {l l' : Ledger} {q : GroupRequest} {r : OperationResult}
    (h : Settles l q r l') : r.isRefusal = false := by
  cases h with
  | unchanged hr | lists _ hr => exact hr
  | joins | failsToJoin | leaves | failsToLeave | removes | adds => rfl

/-! ## 3. The rules -/

/-- How an operation stands to the lock. -/
inductive Standing
  | outside
  /-- It holds the lock; the ledger when it took the lock, and the ledger now. -/
  | inside (before now : Ledger)
  /-- It has given back the lock; the ledger when it took it, and when it gave it back. -/
  | gone (before after : Ledger)

/-- Whether an operation may make a call. -/
def permits (q : GroupRequest) (c : GroupCall) : Standing → Prop
  | .outside => c.touches = false ∧ c ≠ .unlock
  | .inside before now =>
    (c.touches = true ∨ c = .isActive ∨ c = .unlock) ∧ GroupTurn now.shown q (c.shows now.shown) ∧
      (c = .unlock → ∃ r, Settles before q r now)
  | .gone _ _ => False

/-- How a call may be answered, and how the operation stands to the lock then. -/
inductive Admits (q : GroupRequest) : (c : GroupCall) → Standing → c.Answer → Standing → Prop
  | refused : Admits q .tryLock .outside false .outside
  | admitted {l : Ledger} : Admits q .tryLock .outside true (.inside l l)
  | called {l : Ledger} : Admits q .lock .outside () (.inside l l)
  | apart {c : GroupCall} {answer : c.Answer} :
      c.takesLock answer = false → Admits q c .outside answer .outside
  | looked {before now : Ledger} :
      Admits q .isActive (.inside before now) now.shown.active (.inside before now)
  | worked {c : GroupCall} {answer : c.Answer} {before now : Ledger} :
      c.touches = true →
      Admits q c (.inside before now) answer (.inside before (now.note q c answer))
  | left {before now : Ledger} : Admits q .unlock (.inside before now) () (.gone before now)

/-- What an operation may end with, by how it stands to the lock. -/
def Ends (q : GroupRequest) (r : OperationResult) : Standing → Prop
  | .outside => r.isRefusal = true ∨ ∃ e, r = .linked (.error e)
  | .inside _ _ => False
  | .gone before after => Settles before q r after

/-- Work inside the lock returns something that settles the operation. -/
def Returns {α : Type} (q : GroupRequest) (result : α → OperationResult) (a : α) : Standing → Prop
  | .inside before now => Settles before q (result a) now
  | _ => False

/-- What remains of an operation keeps to the rules. -/
abbrev Complies {α : Type} (q : GroupRequest) (post : α → Standing → Prop) (work : GroupWork α)
    (standing : Standing) : Prop :=
  Procedure.Obeys (permits q) (Admits q) post work standing

/-! ## 4. The operations keep to the rules -/

namespace RuleLemmas

open GroupWork

variable {α : Type} {q : GroupRequest} {post : α → Standing → Prop} {before now : Ledger}

theorem complies_look {next : Bool → GroupWork α}
    (h : Complies q post (next now.shown.active) (.inside before now)) :
    Complies q post (.ask .isActive next) (.inside before now) := by
  refine ⟨⟨.inr (.inl rfl), .kept q, nofun⟩, ?_⟩
  intro answer standing hadmits
  cases hadmits with
  | looked => exact h
  | worked htouches => exact nomatch htouches

theorem complies_work {c : GroupCall} {next : c.Answer → GroupWork α} (touches : c.touches = true)
    (turn : GroupTurn now.shown q (c.shows now.shown))
    (h : ∀ answer, Complies q post (next answer) (.inside before (now.note q c answer))) :
    Complies q post (.ask c next) (.inside before now) := by
  refine ⟨⟨.inl touches, turn, ?_⟩, ?_⟩
  · rintro rfl
    exact nomatch touches
  · intro answer standing hadmits
    cases hadmits with
    | looked | left => exact nomatch touches
    | worked => exact h answer

/-- A call to the registry shows nothing. -/
theorem complies_ask {c : GroupCall} {next : c.Answer → GroupWork α} (asks : c.asksRegistry = true)
    (h : ∀ answer, Complies q post (next answer) (.inside before (now.note q c answer))) :
    Complies q post (.ask c next) (.inside before now) := by
  have htouches : c.touches = true := by simp [GroupCall.touches, asks]
  have hshows : c.shows now.shown = now.shown := by cases c <;> first | rfl | cases asks
  refine complies_work htouches ?_ h
  rw [hshows]
  exact .kept q

theorem complies_unchanged {post : Except GroupError α → Standing → Prop}
    {result : Except GroupError α} (h : post result (.inside before now)) :
    Complies q post (unchanged result) (.inside before now) :=
  complies_work rfl (.kept q) fun () => h

theorem complies_publishing {post : Except GroupError α → Standing → Prop} {state : GroupState}
    {result : Except GroupError α} (turn : GroupTurn now.shown q state)
    (h : post result (.inside before { now with shown := state })) :
    Complies q post (publishing state result) (.inside before now) :=
  complies_work rfl turn fun () => h

theorem complies_unlock {next : Unit → GroupWork α} {r : OperationResult}
    (settles : Settles before q r now) (h : Complies q post (next ()) (.gone before now)) :
    Complies q post (.ask .unlock next) (.inside before now) := by
  refine ⟨⟨.inr (.inr rfl), .kept q, fun _ => ⟨r, settles⟩⟩, ?_⟩
  intro answer standing hadmits
  cases hadmits with
  | left => exact h
  | worked htouches => exact nomatch htouches

/-- Work that is done while holding the lock. -/
theorem complies_exclusively {work : GroupWork (Except GroupError α)}
    {result : Except GroupError α → OperationResult}
    (refusal : (result (.error .inProgress)).isRefusal = true)
    (h : ∀ l, Complies q (Returns q result) work (.inside l l)) :
    Complies q (Ends q) (result <$> exclusively work) .outside := by
  refine ⟨⟨rfl, nofun⟩, ?_⟩
  intro answer standing hadmits
  cases hadmits with
  | refused => exact .inl refusal
  | apart htakes =>
    cases answer with
    | false => exact .inl refusal
    | true => exact nomatch htakes
  | @admitted l =>
    refine Procedure.obeys_bind.mpr (Procedure.obeys_bind.mpr ((h l).imp ?_))
    intro r standing hreturns
    cases standing with
    | outside | gone => exact nomatch hreturns
    | inside before now => exact complies_unlock hreturns hreturns

/-- A failed attempt to join: the others are shown nothing of the group, and forward security is on
again if that could be done. -/
theorem complies_rollBack {label : String} (e : ServiceError) (inactive : before.shown.active = false)
    (untouched : now.shown = before.shown) (kept : now.unrestored = before.unrestored) :
    Complies (.activate label) (Returns (.activate label) .done) (rollBack e)
      (.inside before now) := by
  refine complies_ask rfl fun left => complies_ask rfl fun restored => ?_
  refine complies_publishing (.failsToJoin label ?_) ?_
  · rw [Ledger.note_shown, Ledger.note_shown]
    exact (congrArg GroupState.active untouched).trans inactive
  · refine .failsToJoin inactive rfl ?_ ?_
    · intro hbefore
      rw [← kept] at hbefore
      cases left <;> cases restored <;> first | exact hbefore | rfl
    · cases restored with
      | ok => exact .inl rfl
      | error => exact .inr rfl

theorem complies_activate (label : String) :
    Complies (.activate label) (Ends (.activate label)) (GroupRequest.activate label).work .outside := by
  refine complies_exclusively rfl fun l => complies_look ?_
  cases hactive : l.shown.active with
  | true => exact complies_unchanged (.unchanged rfl fun _ _ _ => nofun)
  | false =>
    refine complies_ask rfl fun turnedOff => ?_
    cases turnedOff with
    | error e => exact complies_rollBack e hactive rfl rfl
    | ok =>
      refine complies_ask rfl fun registered => ?_
      cases registered with
      | error e => exact complies_rollBack e hactive rfl rfl
      | ok =>
        refine complies_ask rfl fun fetched => ?_
        cases fetched with
        | error e => exact complies_rollBack e hactive rfl rfl
        | ok devices => exact complies_publishing (.joins label devices hactive) (.joins devices hactive)

/-- A failed attempt to leave: this device still takes part. -/
theorem complies_stay (e : ServiceError) (active : before.shown.active = true)
    (untouched : now.shown = before.shown) (unset : now.forwardSecurity = before.forwardSecurity)
    (kept : now.unrestored = before.unrestored) (unfetched : now.fetched = before.fetched)
    (place : now.registered = before.registered ∧ now.stranded = before.stranded ∨
      now.registered = false ∧ now.stranded = true) :
    Complies .deactivate (Returns .deactivate .done) (stay e) (.inside before now) := by
  refine complies_ask rfl fun fetched => ?_
  cases fetched with
  | ok devices =>
    refine complies_publishing (.lists _ devices ?_) ?_
    · exact (congrArg GroupState.active untouched).trans active
    · exact .failsToLeave active rfl unset kept place (.inl rfl)
  | error _ =>
    refine complies_unchanged (.failsToLeave active ?_ unset kept place (.inr ⟨untouched, unfetched⟩))
    exact (congrArg GroupState.active untouched).trans active

theorem complies_deactivate :
    Complies .deactivate (Ends .deactivate) GroupRequest.deactivate.work .outside := by
  refine complies_exclusively rfl fun l => complies_look ?_
  cases hactive : l.shown.active with
  | false => exact complies_unchanged (.unchanged rfl fun _ _ _ => nofun)
  | true =>
    refine complies_ask rfl fun removed => ?_
    cases removed with
    | error e => exact complies_stay e hactive rfl rfl rfl rfl (.inl ⟨rfl, rfl⟩)
    | ok =>
      refine complies_ask rfl fun left => ?_
      cases left with
      | error e => exact complies_stay e hactive rfl rfl rfl rfl (.inl ⟨rfl, rfl⟩)
      | ok =>
        refine complies_ask rfl fun turnedOn => ?_
        cases turnedOn with
        | error e => exact complies_stay e hactive rfl rfl rfl rfl (.inr ⟨rfl, rfl⟩)
        | ok => exact complies_publishing (.leaves hactive) (.leaves hactive)

/-- Reading the list again comes to nothing where this device does not take part, or where the list
cannot be read. -/
theorem complies_refresh {post : Except GroupError (List LinkedDevice) → Standing → Prop}
    (out : now.shown.active = false → post (.ok []) (.inside before now))
    (failed : ∀ e, now.shown.active = true → post (.error (.service e)) (.inside before now))
    (listed : ∀ devices, now.shown.active = true → post (.ok devices)
      (.inside before { now with shown := ⟨true, devices⟩, fetched := devices, unread := false })) :
    Complies q post refresh (.inside before now) := by
  refine complies_look ?_
  cases hactive : now.shown.active with
  | false => exact complies_unchanged (out hactive)
  | true =>
    refine complies_ask rfl fun fetched => ?_
    cases fetched with
    | ok devices => exact complies_publishing (.lists q devices hactive) (listed devices hactive)
    | error e => exact complies_unchanged (failed e hactive)

theorem complies_load : Complies .load (Ends .load) GroupRequest.load.work .outside := by
  refine complies_exclusively rfl fun l => complies_refresh ?_ ?_ ?_
  · exact fun _ => .unchanged rfl nofun
  · exact fun e _ => .unchanged rfl nofun
  · exact fun devices hactive => .lists devices rfl nofun hactive

theorem complies_purge : Complies .purge (Ends .purge) GroupRequest.purge.work .outside := by
  refine complies_exclusively rfl fun l => complies_look ?_
  cases hactive : l.shown.active with
  | false => exact complies_unchanged (.unchanged rfl nofun)
  | true =>
    refine complies_ask rfl fun removed => ?_
    cases removed with
    | error e => exact complies_unchanged (.unchanged rfl nofun)
    | ok =>
      refine Procedure.obeys_bind.mpr (complies_refresh ?_ ?_ ?_)
      · exact fun hinactive => nomatch hactive.symm.trans hinactive
      · exact fun e _ => .removes hactive
      · exact fun devices _ => .lists devices rfl nofun hactive

/-- The linking attempt is made outside the lock. -/
theorem complies_ofLinking (work : LinkingWork α) :
    Complies q (fun _ standing => standing = .outside) (ofLinking work) .outside := by
  have honly : (ofLinking work).Only fun c => ∃ c', c = .linking c' :=
    Procedure.only_embed (fun c => ⟨c, rfl⟩) work
  refine honly.obeys ?_
  rintro _ ⟨c, rfl⟩
  refine ⟨⟨rfl, nofun⟩, ?_⟩
  intro answer standing hadmits
  cases hadmits with
  | apart => rfl

theorem complies_listDevice (d : LinkedDevice) :
    Complies .link (fun _ standing => Ends .link (.linked (.ok d)) standing) (listDevice d)
      .outside := by
  refine ⟨⟨rfl, nofun⟩, ?_⟩
  intro _ standing hadmits
  cases hadmits with
  | apart =>
    refine ⟨⟨rfl, nofun⟩, ?_⟩
    intro _ standing hadmits
    cases hadmits with
    | apart htakes => exact nomatch htakes
    | @called l =>
      refine Procedure.obeys_bind.mpr (complies_refresh ?_ ?_ ?_)
      · exact fun _ => complies_unlock (r := .linked (.ok d)) (.unchanged rfl nofun)
          (.unchanged rfl nofun)
      · intro e hactive
        refine complies_work rfl (.adds d hactive) fun _ => ?_
        exact complies_unlock (r := .linked (.ok d)) (.adds hactive) (.adds hactive)
      · intro devices hactive
        exact complies_unlock (r := .linked (.ok d)) (.lists devices rfl nofun hactive)
          (.lists devices rfl nofun hactive)

theorem complies_link : Complies .link (Ends .link) GroupRequest.link.work .outside := by
  refine ⟨⟨rfl, nofun⟩, ?_⟩
  intro active standing hadmits
  cases hadmits with
  | apart =>
    cases active with
    | false =>
      refine ⟨⟨rfl, nofun⟩, ?_⟩
      intro answer standing hadmits
      cases hadmits with
      | apart => exact .inr ⟨.notActive, rfl⟩
    | true =>
      refine Procedure.obeys_bind.mpr (Procedure.obeys_bind.mpr ((complies_ofLinking _).imp ?_))
      rintro outcome _ rfl
      cases outcome with
      | error e => exact .inr ⟨.linking e, rfl⟩
      | ok d => exact Procedure.obeys_bind.mpr (complies_listDevice d)

end RuleLemmas

open RuleLemmas

/-- Every operation keeps to the rules. -/
theorem GroupRequest.complies (q : GroupRequest) : Complies q (Ends q) q.work .outside := by
  cases q with
  | activate label => exact complies_activate label
  | deactivate => exact complies_deactivate
  | purge => exact complies_purge
  | load => exact complies_load
  | link => exact complies_link

end DeviceSync
