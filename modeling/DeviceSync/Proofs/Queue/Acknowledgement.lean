import DeviceSync.Proofs.Queue.Execution

/-!
# Acknowledgements

The acknowledgement of a reflected message is the last call of an attempt, and the only frame that an
attempt sends. Handling never sends (`Envelope.handle_only`), so that an attempt either ends with the
acknowledgement or sends nothing (`Envelope.attempt_sends`).

Not every success ends so: a thing that a service does not find ends the attempt as a fault, before
the acknowledgement, and only the queue makes it a success (`report`). `acknowledgements` are the
frames that a result goes with, and `execution_sends_acknowledgements` says that they are sent, once,
however often the task was tried.
-/

namespace DeviceSync

open Procedure

namespace Envelope

/-- The frames that are sent for a message with this result: none for a message that failed or whose
service did not find something, and one for any other. -/
def acknowledgements (e : Envelope) : TaskResult → List Bytes
  | .error _ | .ok (.skipped (.notFound _)) => []
  | .ok _ => [e.acknowledgement]

theorem acknowledgements_of_ok (e : Envelope) {outcome : Outcome}
    (h : ∀ what, outcome ≠ .skipped (.notFound what)) :
    e.acknowledgements (.ok outcome) = [e.acknowledgement] := by
  unfold acknowledgements
  split
  · rename_i heq
    exact nomatch heq
  · rename_i what heq
    exact absurd (Except.ok.inj heq) (h what)
  · rfl

/-- A fault goes without an acknowledgement, also where the queue makes a success of it. -/
theorem acknowledgements_report_error (e : Envelope) (err : TaskError) :
    e.acknowledgements (TaskQueue.report (.error err)) = [] := by
  cases err with
  | notFound what => rfl
  | transient text => rfl
  | protocol text => rfl
  | store text => rfl

/-! ## What handling results in -/

/-- The result does not say that something was not found; handling ends with a fault then. -/
def Decided (handled : Except TaskError Outcome) : Prop :=
  ∀ what, handled ≠ .ok (.skipped (.notFound what))

theorem completed_decided (work : Work (Except TaskError Unit)) : (completed work).Always Decided := by
  refine always_bind (always_trivial work) fun answer _ => ?_
  cases answer with
  | error err => exact nofun
  | ok _ => exact nofun

theorem applyEffect_decided (e : Envelope) (me : Identity) (p : Payload) :
    (e.applyEffect me p).Always Decided := by
  cases p with
  | delete m => exact completed_decided (applyDelete m)
  | receipt m =>
    rw [applyEffect_receipt]
    cases reactionOf m.receiptType with
    | error cause => exact nofun
    | ok state => exact completed_decided _
  | pollSetup m => exact completed_decided (Work.createPoll _)
  | pollVote m => exact completed_decided (Work.vote _)

/-- The move of a conversation leaves the outcome of the effect as it is. -/
theorem apply_always {kind : Except TaskError Outcome → Prop} {e : Envelope} {me : Identity}
    {p : Payload} (fault : ∀ err, kind (.error err)) (effect : (e.applyEffect me p).Always kind) :
    (e.apply me p).Always kind := by
  rw [apply_eq]
  refine always_bind effect fun applied happlied => ?_
  cases applied with
  | error err => exact fault err
  | ok outcome =>
    show Always kind (if p.bumps then _ else _)
    split
    · refine always_bind (always_trivial _) fun answer _ => ?_
      cases answer with
      | error err => exact fault err
      | ok _ => exact happlied
    · exact happlied

/-- Handling a guarded message ends with a fault, as a duplicate, or as applying it ends. -/
theorem handle_always {kind : Except TaskError Outcome → Prop} {e : Envelope} {me : Identity}
    {p : Payload} (guarded : e.Guarded p) (fault : ∀ err, kind (.error err))
    (duplicate : kind (.ok .duplicate)) (apply : (e.apply me p).Always kind) :
    (e.handle me).Always kind := by
  rw [handle_guarded guarded]
  intro answer
  cases answer with
  | error err => exact fault _
  | ok isNew =>
    cases isNew with
    | false => exact duplicate
    | true =>
      show (e.applyOrRelease me p).Always kind
      rw [applyOrRelease_eq]
      refine always_bind apply fun applied happlied => ?_
      cases applied with
      | ok outcome => exact happlied
      | error err =>
        simp only [guarded.protects, if_true]
        intro released
        cases released with
        | ok _ => exact fault _
        | error cause => exact fault _

theorem apply_decided (e : Envelope) (me : Identity) (p : Payload) :
    (e.apply me p).Always Decided :=
  apply_always (fun _ => nofun) (e.applyEffect_decided me p)

theorem handle_decided (e : Envelope) (me : Identity) : (e.handle me).Always Decided := by
  rcases e.handle_cases me with ⟨cause, hcause, hskip⟩ | ⟨p, -, -, hplain⟩ | ⟨p, guarded⟩
  · rw [hskip]
    intro what heq
    exact hcause what (Outcome.skipped.inj (Except.ok.inj heq))
  · rw [hplain]
    exact e.apply_decided me p
  · exact handle_always guarded (fun _ => nofun) nofun (e.apply_decided me p)

end Envelope

/-! ## What an attempt sends -/

/-- What a call does to the frames that arrived. -/
def Call.Sends : (c : Call) → List Bytes → c.Answer → List Bytes → Prop
  | .deliver frame, sent, answer, sent' =>
    match answer with
    | .ok () => sent' = sent ++ [frame]
    | .error _ => sent' = sent
  | _, sent, _, sent' => sent' = sent

theorem Connection.sends_deliver (c : Connection) (frame : Bytes) :
    Call.Sends (.deliver frame) c.sent (c.deliver frame).1 (c.deliver frame).2.sent := by
  rw [deliver]
  split
  · rfl
  · split
    · rfl
    · rfl

theorem Connection.sent_nextDelay (c : Connection) : c.nextDelay.2.sent = c.sent := by
  unfold nextDelay
  split
  · rfl
  · rfl

theorem Call.sends_effect (c : Call) (w : Workspace) :
    c.Sends w.connection.sent (c.effect w).1 (c.effect w).2.connection.sent := by
  cases c with
  | deliver frame => exact w.connection.sends_deliver frame
  | pause => exact w.connection.sent_nextDelay
  | recordNonces | releaseNonces | findMessage | deleteContents | react | createPoll | vote | bump
  | drawMessageId | require => exact congrArg Connection.sent (Call.connection_effect _ id w)

namespace TaskQueue

/-- The frames that arrived. -/
def Watch.sent : Watch (List Bytes) where
  view w := w.connection.sent
  good _ := True
  allows := Call.Sends
  calls c w _ := ⟨c.sends_effect w, trivial⟩
  tasks w w' same _ := by
    obtain ⟨_, _, _, _, rfl⟩ := same
    exact ⟨rfl, trivial⟩

end TaskQueue

open TaskQueue ExecutionLemmas

/-- An attempt sends the acknowledgement as the last thing it does, and only if it succeeds. -/
theorem Envelope.attempt_sends (e : Envelope) (me : Identity) (sent : List Bytes) :
    (e.attempt me).Ensures Call.Sends
      (Attempted (· = sent) fun result sent' => sent' = sent ++ e.acknowledgements result) sent := by
  rw [attempt_eq, ensures_bind]
  have hsilent : (e.handle me).Ensures Call.Sends (fun _ sent' => sent' = sent) sent := by
    refine (e.handle_only me).ensures fun c hc answer sent' hsends => ?_
    cases c with
    | deliver frame => exact absurd trivial hc
    | recordNonces | releaseNonces | findMessage | deleteContents | react | createPoll | vote | bump
    | drawMessageId | require | pause => exact hsends
  refine (hsilent.and_always (e.handle_decided me)).imp fun handled sent' h => ?_
  obtain ⟨hdecided, rfl⟩ := h
  cases handled with
  | error err =>
    refine ⟨?_, fun _ _ => rfl⟩
    show sent' = sent' ++ e.acknowledgements (report (.error err))
    rw [acknowledgements_report_error, List.append_nil]
  | ok outcome =>
    intro delay sent₁ hpause answer sent₂ hdeliver
    obtain rfl : sent₁ = sent' := hpause
    cases answer with
    | ok _ =>
      refine ⟨?_, nofun⟩
      have hacknowledged := e.acknowledgements_of_ok fun what heq => hdecided what (congrArg _ heq)
      show sent₂ = sent₁ ++ e.acknowledgements (.ok outcome)
      rw [hacknowledged]
      exact hdeliver
    | error fault =>
      refine ⟨?_, fun _ _ => hdeliver⟩
      show sent₂ = sent₁ ++ []
      rw [List.append_nil]
      exact hdeliver

/-- However a reflected message is tried, and whatever fails meanwhile: when its result is told,
exactly the acknowledgements that go with this result were sent for it. -/
theorem execution_sends_acknowledgements {e : Envelope} {s : Submission} {c : Completion}
    {w w' : Workspace} (task : s.task = .reflected e)
    (execution : Execution (fun v v' => v'.connection.sent = v.connection.sent) s w c w') :
    w'.connection.sent = w.connection.sent ++ e.acknowledgements c.result := by
  obtain ⟨hsent, -⟩ := execution.over Watch.sent (· = w.connection.sent)
    (fun result sent => sent = w.connection.sent ++ e.acknowledgements result)
    (fun v _ hready => by
      rw [task, hready]
      exact e.attempt_sends v.identity w.connection.sent)
    (fun _ _ hsame _ => ⟨hsame, trivial⟩) trivial rfl
  exact hsent

namespace Sample

/-- The vote, taken from the queue. -/
def castVote : Submission := ⟨⟨taskName, .reflected (voteEnvelope 1 [nonce 0]), false⟩, 0⟩

/-- A workspace in which the service does not find the poll. -/
def pollMissing : Workspace := { fresh with services := { interference := [some (.notFound "poll")] } }

end Sample

open Sample

/-- A vote that is cast is acknowledged. -/
theorem vote_is_acknowledged : ∃ c w',
    Execution (fun v v' => v'.connection.sent = v.connection.sent) castVote fresh c w' ∧
    c.result = .ok .completed ∧
    w'.connection.sent = [(voteEnvelope 1 [nonce 0]).acknowledgement] := by
  have hexecution : Execution (fun v v' => v'.connection.sent = v.connection.sent) castVote fresh _ _ :=
    execution_of_attempt rfl
  exact ⟨_, _, hexecution, rfl, execution_sends_acknowledgements rfl hexecution⟩

/-- A vote in a poll that the service does not find counts as a success and is not acknowledged. -/
theorem missing_poll_is_not_acknowledged : ∃ c w',
    Execution (fun v v' => v'.connection.sent = v.connection.sent) castVote pollMissing c w' ∧
    c.result = .ok (.skipped (.notFound "poll")) ∧ w'.connection.sent = [] :=
  ⟨_, _, execution_of_attempt rfl, rfl, rfl⟩

end DeviceSync
