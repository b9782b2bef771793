import DeviceSync.Proofs.Linking.Provisioning
import Mathlib.Data.List.Basic

/-!
# Over which path a device is provisioned

A run goes on to the exchange as soon as the signal tells that the operator confirmed. It looks
neither at the state of the session, which may have failed since, nor at the path that was
confirmed, which may be another one than its own.

1. `Consented.eq_of_confirmedAt`: the operator confirms once, and one path.
2. `exchange_over_confirmed_path_iff`: when the confirmation still counts at the exchange, and
   counts for the path of the run.
3. `exchange_without_consent`: a trace where the attempt has failed, and one where the path is
   another.
-/

namespace DeviceSync

open LinkingWork ProvisioningLemmas

variable {p : Provisioner} {t before after : List Happening} {s : LinkingSession}
variable {w : LinkingWork LinkingResult} {path : PathHash}

/-! ## 1. The confirmed path -/

/-- The path that is shown is the first that was announced. -/
theorem first_of_connected (trace : LinkingTrace p {} LinkingWork.run t s w)
    (connected : s.state = .connected path path.shortCode) :
    t.findSome? Happening.path? = some path := by
  have hsound := sound_of_trace trace
  have hundecided : s.signal = none :=
    hsound.consistent.signal_eq_none_iff.mpr (.inr ⟨path, connected⟩)
  cases hsound.history with
  | undecided _ _ _ hconnected => exact hconnected path connected
  | consented before after path' hconsented => exact nomatch hundecided.symm.trans hconsented.signal
  | rejected cause hrejected => exact nomatch hundecided.symm.trans hrejected

theorem ConfirmedAt.first (confirmed : ConfirmedAt p t before after path) :
    before.findSome? Happening.path? = some path := by
  obtain ⟨s, w, htrace, hconnected⟩ := confirmed.moment
  exact first_of_connected htrace hconnected

/-- The operator confirms once, and one path. -/
theorem Consented.eq_of_confirmedAt {before' after' : List Happening} {path' : PathHash}
    (consented : Consented p t s before after path)
    (confirmed : ConfirmedAt p t before' after' path') :
    before' = before ∧ after' = after ∧ path' = path := by
  -- A list is split in one way only at something that occurs in it once.
  have hsplit := consented.split.symm.trans confirmed.split
  have hnot : ∀ l : List Happening, (∀ m ∈ l, m ∈ before ++ after) → .act .confirm true ∉ l :=
    fun l hl hmem => consented.only _ (hl _ hmem) (.inl rfl)
  have hbefore := hnot before fun _ => List.mem_append_left _
  have hafter := hnot after fun _ => List.mem_append_right _
  obtain ⟨rfl, -, rfl⟩ := (List.append_cons_inj_of_notMem hbefore hafter).mp hsplit
  exact ⟨rfl, rfl, Option.some.inj (confirmed.first.symm.trans consented.first)⟩

/-! ## 2. The exchange -/

/-- At the moment a run calls the exchange, the operator has confirmed a path. The attempt is
still alive then, and the path is the run's own, exactly if nobody made the attempt fail since the
confirmation and the first path that was announced was the run's own. -/
theorem exchange_over_confirmed_path_iff {c : LinkingCall}
    (trace : LinkingTrace p {} LinkingWork.run (t ++ [.call c]) s w) (exchanging : w.Exchanging) :
    ∃ own, p.path = .ok own ∧
      (∃ before after path, ConfirmedAt p (t ++ [.call c]) before after path) ∧
      ∀ before after path, ConfirmedAt p (t ++ [.call c]) before after path →
        (s.state = .confirmed ∧ path = own ↔
          (∀ m ∈ after, m.cause? = none) ∧ before.findSome? Happening.path? = some own) := by
  have hsound := sound_of_trace trace
  obtain ⟨-, hsignal, hstate, own, hown⟩ := signal_of_exchanging hsound.point exchanging
  obtain ⟨before, after, path, hconsented⟩ := consented_of_signal hsound hsignal
  refine ⟨own, hown, ⟨before, after, path, hconsented.toConfirmedAt⟩, ?_⟩
  intro before' after' path' hconfirmed
  obtain ⟨rfl, rfl, rfl⟩ := hconsented.eq_of_confirmedAt hconfirmed
  rw [hconsented.alive hstate, hconfirmed.first, Option.some.injEq]

/-- The sample run calls the exchange while the attempt is alive, over the path that was
confirmed. -/
theorem laptop_linked_over_confirmed_path :
    ConfirmedAt Sample.provisioner (Sample.confirming ++ [.call .finishWait])
      (Sample.confirming.take 4) [.call .finishWait] (Sample.rendezvous 1) ∧
    Sample.confirmed.finishWait.state = .confirmed := by
  have hconfirmed : ConfirmedAt Sample.provisioner (Sample.confirming ++ [.call .finishWait])
      (Sample.confirming.take 4) [.call .finishWait] (Sample.rendezvous 1) :=
    ⟨rfl, _, _, .head (.act .clone) <| .head (.call rfl) <| .head (.call rfl) <|
      .head (.call rfl) .start, rfl⟩
  obtain ⟨own, hown, -, hiff⟩ :=
    exchange_over_confirmed_path_iff Sample.exchanging_trace ⟨afterExchange, rfl⟩
  obtain rfl := Except.ok.inj hown
  obtain ⟨hstate, -⟩ := (hiff _ _ _ hconfirmed).mpr ⟨by simp [Happening.cause?], rfl⟩
  exact ⟨hconfirmed, hstate⟩

namespace Sample

/-- The session is shared, and another path is established on it. -/
def intruding : List Happening := [.act .clone true, .act (.establish (rendezvous 2)) true]

def intruded : LinkingSession := (LinkingSession.clone {}).establish (rendezvous 2)

theorem intruding_trace :
    LinkingTrace provisioner {} LinkingWork.run intruding intruded LinkingWork.run :=
  .head (.act .clone) <| .head (.act (.establish (rendezvous 2))) .start

/-- What the run does up to the exchange. -/
def announcing : List Happening :=
  [.call .establishPath, .call (.announcePath (rendezvous 1)), .call .startWait, .call .finishWait]

end Sample

/-- A run calls the exchange although the attempt was cancelled after the confirmation, and it
does so over its own path although the operator confirmed another one. -/
theorem exchange_without_consent :
    (∃ s w, w.Exchanging ∧ s.state = .failed (some (.cancelled "closed")) ∧
      LinkingTrace Sample.provisioner {} LinkingWork.run
        (Sample.confirming ++ [.act (.cancel "closed") true, .call .finishWait]) s w) ∧
    (∃ s w, w.Exchanging ∧ Sample.provisioner.path = .ok (Sample.rendezvous 1) ∧
      LinkingTrace Sample.provisioner {} LinkingWork.run
        (Sample.intruding ++ .act .confirm true :: Sample.announcing) s w ∧
      ConfirmedAt Sample.provisioner (Sample.intruding ++ .act .confirm true :: Sample.announcing)
        Sample.intruding Sample.announcing (Sample.rendezvous 2)) := by
  refine ⟨?_, ?_⟩
  · refine ⟨(Sample.confirmed.cancel "closed").finishWait, .ask .provision afterExchange,
      ⟨_, rfl⟩, rfl, ?_⟩
    exact Sample.confirming_trace.append <| .head (.act (.cancel "closed")) <|
      .head (.call rfl) .start
  · refine ⟨{ Sample.confirmed with operators := 2 }, .ask .provision afterExchange,
      ⟨_, rfl⟩, rfl, ?_, rfl, Sample.intruded, LinkingWork.run, Sample.intruding_trace, rfl⟩
    exact Sample.intruding_trace.append <| .head (.act .confirm) <| .head (.call rfl) <|
      .head (.call rfl) <| .head (.call rfl) <| .head (.call rfl) .start

end DeviceSync
