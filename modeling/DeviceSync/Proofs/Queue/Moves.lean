import DeviceSync.Queue.Step

/-!
# What a step of the queue can be

The callers in line and the worker move independently of each other. `CallerMove` lists what the
first caller in line can come to, by the line that the queue has, and `WorkerMove` what the worker
can come to, by the state that it is in; a `Move` is one of either. It is the step function as a
relation (`move_of_step`, `step_of_move`): a proof about all steps is a proof by cases on a move,
and a step is shown to be possible by naming the move.

A `Run` is made of moves, or of moves and of what callers do meanwhile (`Event`).
-/

namespace DeviceSync

namespace TaskQueue

/-- The first caller in this line comes to something. -/
inductive CallerMove (q : TaskQueue) (w : Workspace) : List Caller → TaskQueue → Workspace → Prop
  | refuse {ticket : Nat} {request : Request} {others : List Caller} :
      q.status = .stopped →
      CallerMove q w (⟨ticket, .outside request⟩ :: others) (q.dismiss ticket (.refused .stopped)) w
  | takeIn {ticket : Nat} {task : Task} {others : List Caller} (id : TaskId) :
      q.status ≠ .stopped → task.data? = none →
      CallerMove q w (⟨ticket, .outside (.submit task)⟩ :: others)
        (q.letIn ticket [⟨id, task, false⟩] none) w
  | save {ticket : Nat} {task : Task} {others : List Caller} {data : TaskData} {w' : Workspace}
      (id : TaskId) :
      q.status ≠ .stopped → task.data? = some data → w.saveTask id data = (.ok (), w') →
      CallerMove q w (⟨ticket, .outside (.submit task)⟩ :: others)
        (q.letIn ticket [⟨id, task, true⟩] none) w'
  | failToSave {ticket : Nat} {task : Task} {others : List Caller} {data : TaskData} {w' : Workspace}
      {cause : StoreError} (id : TaskId) :
      q.status ≠ .stopped → task.data? = some data → w.saveTask id data = (.error cause, w') →
      CallerMove q w (⟨ticket, .outside (.submit task)⟩ :: others)
        (q.dismiss ticket (.refused (.store cause))) w'
  | load {ticket : Nat} {others : List Caller} {tasks : List (TaskId × TaskData)} {w' : Workspace} :
      q.status ≠ .stopped → w.loadTasks = (.ok tasks, w') → tasks ≠ [] →
      CallerMove q w (⟨ticket, .outside .resumeStored⟩ :: others)
        (q.letIn ticket (tasks.map fun t => ⟨t.1, .ofData t.2, true⟩) (some tasks.length)) w'
  | loadNothing {ticket : Nat} {others : List Caller} {w' : Workspace} :
      q.status ≠ .stopped → w.loadTasks = (.ok [], w') →
      CallerMove q w (⟨ticket, .outside .resumeStored⟩ :: others) (q.dismiss ticket (.resumed 0)) w'
  | failToLoad {ticket : Nat} {others : List Caller} {w' : Workspace} {cause : StoreError} :
      q.status ≠ .stopped → w.loadTasks = (.error cause, w') →
      CallerMove q w (⟨ticket, .outside .resumeStored⟩ :: others)
        (q.dismiss ticket (.refused (.store cause))) w'
  | turnAway {ticket : Nat} {e : Entry} {left : List Entry} {resumed : Option Nat}
      {others : List Caller} :
      q.worker.hasEnded = true →
      CallerMove q w (⟨ticket, .inside (e :: left) resumed⟩ :: others)
        (q.dismiss ticket (.refused .stopped)) w
  | place {ticket : Nat} {e e' : Entry} {left : List Entry} {resumed : Option Nat}
      {others : List Caller} :
      q.worker.hasEnded = false → q.waiting.length < q.capacity →
      CallerMove q w (⟨ticket, .inside (e :: e' :: left) resumed⟩ :: others)
        ((q.enqueue e).letIn ticket (e' :: left) resumed) w
  | placeLast {ticket : Nat} {e : Entry} {resumed : Option Nat} {others : List Caller} :
      q.worker.hasEnded = false → q.waiting.length < q.capacity →
      CallerMove q w (⟨ticket, .inside [e] resumed⟩ :: others)
        ((q.enqueue e).dismiss ticket (resumed.elim (.queued q.next) .resumed)) w

/-- The worker in this state comes to something. -/
inductive WorkerMove (q : TaskQueue) (w : Workspace) : Worker → TaskQueue → Workspace → Prop
  | take {s : Submission} {waiting : List Submission} :
      q.waiting = s :: waiting → q.status ≠ .stopped →
      WorkerMove q w .idle { q with worker := .holding s, waiting := waiting } w
  | start {s : Submission} :
      q.status = .running →
      WorkerMove q w (.holding s) { q with worker := .working s 0 (s.task.attempt w.identity) } w
  | call {s : Submission} {failures : Nat} {c : Call}
      {next : c.Answer → Work (Except TaskError Outcome)} :
      WorkerMove q w (.working s failures (.ask c next))
        { q with worker := .working s failures (next (c.effect w).1) } (c.effect w).2
  | conclude {s : Submission} {failures : Nat} {attempted : Except TaskError Outcome}
      {result : TaskResult} (draw : UInt64) :
      judge q.policy s.task.isIdempotent failures draw attempted = .final result →
      WorkerMove q w (.working s failures (.done attempted)) (q.conclude s result) w
  | rest {s : Submission} {failures : Nat} {attempted : Except TaskError Outcome} {delay : Duration}
      (draw : UInt64) :
      judge q.policy s.task.isIdempotent failures draw attempted = .again delay →
      WorkerMove q w (.working s failures (.done attempted))
        { q with worker := .resting s (failures + 1) } w
  | breakdown {s : Submission} {failures : Nat} {attempted : Except TaskError Outcome}
      (draw : UInt64) :
      judge q.policy s.task.isIdempotent failures draw attempted = .breakdown →
      WorkerMove q w (.working s failures (.done attempted)) (q.endWorker [s.sequence]) w
  | retry {s : Submission} {failures : Nat} :
      WorkerMove q w (.resting s failures)
        { q with worker := .working s failures (s.task.attempt w.identity) } w
  | settle {s : Submission} {result : TaskResult} :
      WorkerMove q w (.settling s result) { q with worker := .publishing s result }
        (if s.stored then (w.removeTask s.id).2 else w)
  | publish {s : Submission} {result : TaskResult} :
      WorkerMove q w (.publishing s result)
        { q with
          worker := .idle
          published := q.published ++ [⟨s.id, s.sequence, s.task.describe, result⟩] } w
  | finish :
      q.status = .stopped → WorkerMove q w .idle (q.endWorker []) w
  | finishHolding {s : Submission} :
      q.status = .stopped → WorkerMove q w (.holding s) (q.endWorker [s.sequence]) w

/-- A step leads from one queue and workspace to another. -/
inductive Move (q : TaskQueue) (w : Workspace) (q' : TaskQueue) (w' : Workspace) : Prop
  | caller : CallerMove q w q.line q' w' → Move q w q' w'
  | worker : WorkerMove q w q.worker q' w' → Move q w q' w'

variable {q q' : TaskQueue} {w w' : Workspace}

theorem Move.of_line {line : List Caller} (hline : q.line = line) (h : CallerMove q w line q' w') :
    Move q w q' w' :=
  .caller (hline ▸ h)

theorem Move.of_worker {worker : Worker} (hworker : q.worker = worker)
    (h : WorkerMove q w worker q' w') : Move q w q' w' :=
  .worker (hworker ▸ h)

theorem move_of_enter {id : TaskId} (h : q.enter w id = some (q', w')) : Move q w q' w' := by
  unfold enter at h
  split at h
  · rename_i ticket request others hline
    split at h
    · rename_i hstopped
      cases h
      exact .of_line hline (.refuse hstopped)
    · rename_i hstatus
      split at h
      · rename_i task
        split at h
        · rename_i hdata
          cases h
          exact .of_line hline (.takeIn id hstatus hdata)
        · rename_i data hdata
          split at h
          · rename_i v hsave
            cases h
            exact .of_line hline (.save id hstatus hdata hsave)
          · rename_i cause v hsave
            cases h
            exact .of_line hline (.failToSave id hstatus hdata hsave)
      · split at h
        · rename_i cause v hload
          cases h
          exact .of_line hline (.failToLoad hstatus hload)
        · rename_i v hload
          cases h
          exact .of_line hline (.loadNothing hstatus hload)
        · rename_i tasks v hne hload
          cases h
          rw [List.length_map]
          exact .of_line hline (.load hstatus hload hne)
  · exact nomatch h

theorem move_of_place (h : q.place = some q') : Move q w q' w := by
  unfold place at h
  split at h
  · rename_i ticket e left resumed others hline
    split at h
    · rename_i hended
      cases h
      exact .of_line hline (.turnAway hended)
    · rename_i hended
      have hgoing : q.worker.hasEnded = false := Bool.eq_false_iff.mpr hended
      split at h
      · rename_i hroom
        dsimp only at h
        split at h
        · cases h
          exact .of_line hline (.placeLast hgoing hroom)
        · cases h
          exact .of_line hline (.placeLast hgoing hroom)
        · rename_i hleft hnone hsome
          cases left with
          | nil =>
            cases resumed with
            | none => exact absurd rfl (hnone rfl)
            | some count => exact absurd rfl (hsome count rfl)
          | cons e' left =>
            cases h
            exact .of_line hline (.place hgoing hroom)
      · exact nomatch h
  · exact nomatch h

theorem move_of_work {draw : UInt64} {r : StepResult} (h : q.work w draw = some r) :
    Move q w r.queue r.workspace := by
  unfold work at h
  split at h
  · rename_i s failures next hworker
    cases h
    exact .of_worker hworker .call
  · rename_i s failures c next hpause hworker
    cases h
    exact .of_worker hworker .call
  · rename_i s failures attempted hworker
    split at h
    · rename_i result hjudge
      cases h
      exact .of_worker hworker (.conclude draw hjudge)
    · rename_i delay hjudge
      cases h
      exact .of_worker hworker (.rest draw hjudge)
    · rename_i hjudge
      cases h
      exact .of_worker hworker (.breakdown draw hjudge)
  · exact nomatch h

theorem move_of_finish (h : q.finish = some q') : Move q w q' w := by
  unfold finish at h
  split at h
  · rename_i hstopped
    split at h
    · rename_i hworker
      cases h
      exact .of_worker hworker (.finish hstopped)
    · rename_i s hworker
      cases h
      exact .of_worker hworker (.finishHolding hstopped)
    · exact nomatch h
  · exact nomatch h

/-- Every step is a move. -/
theorem move_of_step {step : QueueStep} {r : StepResult} (h : q.step w step = some r) :
    Move q w r.queue r.workspace := by
  cases step with
  | enter id =>
    obtain ⟨x, hx, rfl⟩ := Option.map_eq_some_iff.mp h
    exact move_of_enter hx
  | place =>
    obtain ⟨x, hx, rfl⟩ := Option.map_eq_some_iff.mp h
    exact move_of_place hx
  | take =>
    obtain ⟨x, hx, rfl⟩ := Option.map_eq_some_iff.mp h
    unfold TaskQueue.take at hx
    split at hx
    · rename_i s waiting hworker hwaiting
      split at hx
      · exact nomatch hx
      · rename_i hstatus
        cases hx
        exact .of_worker hworker (.take hwaiting hstatus)
    · exact nomatch hx
  | start =>
    obtain ⟨x, hx, rfl⟩ := Option.map_eq_some_iff.mp h
    unfold begin at hx
    split at hx
    · rename_i s hworker
      split at hx
      · rename_i hrunning
        cases hx
        exact .of_worker hworker (.start hrunning)
      · exact nomatch hx
    · exact nomatch hx
  | work draw => exact move_of_work h
  | retry =>
    obtain ⟨x, hx, rfl⟩ := Option.map_eq_some_iff.mp h
    unfold retry at hx
    split at hx
    · rename_i s failures hworker
      cases hx
      exact .of_worker hworker .retry
    · exact nomatch hx
  | settle =>
    obtain ⟨x, hx, rfl⟩ := Option.map_eq_some_iff.mp h
    unfold settle at hx
    split at hx
    · rename_i s result hworker
      cases hx
      exact .of_worker hworker .settle
    · exact nomatch hx
  | publish =>
    obtain ⟨x, hx, rfl⟩ := Option.map_eq_some_iff.mp h
    unfold publish at hx
    split at hx
    · rename_i s result hworker
      cases hx
      exact .of_worker hworker .publish
    · exact nomatch hx
  | finish =>
    obtain ⟨x, hx, rfl⟩ := Option.map_eq_some_iff.mp h
    exact move_of_finish hx

theorem step_of_callerMove {line : List Caller} (hline : q.line = line)
    (h : CallerMove q w line q' w') : ∃ step, q.step w step = some ⟨q', w', .zero⟩ := by
  -- The name that `enter` gives matters only where a task is stored.
  have anyId : TaskId := ⟨List.replicate 16 0, rfl⟩
  cases h with
  | refuse hstopped => exact ⟨.enter anyId, by simp [step, enter, hline, hstopped]⟩
  | takeIn id hstatus hdata => exact ⟨.enter id, by simp [step, enter, hline, hstatus, hdata]⟩
  | save id hstatus hdata hsave =>
    exact ⟨.enter id, by simp [step, enter, hline, hstatus, hdata, hsave]⟩
  | failToSave id hstatus hdata hsave =>
    exact ⟨.enter id, by simp [step, enter, hline, hstatus, hdata, hsave]⟩
  | load hstatus hload hne =>
    obtain ⟨t, ts, rfl⟩ := List.exists_cons_of_ne_nil hne
    exact ⟨.enter anyId, by simp [step, enter, hline, hstatus, hload]⟩
  | loadNothing hstatus hload =>
    exact ⟨.enter anyId, by simp [step, enter, hline, hstatus, hload]⟩
  | failToLoad hstatus hload =>
    exact ⟨.enter anyId, by simp [step, enter, hline, hstatus, hload]⟩
  | turnAway hended => exact ⟨.place, by simp [step, TaskQueue.place, hline, hended]⟩
  | place hgoing hroom => exact ⟨.place, by simp [step, TaskQueue.place, hline, hgoing, hroom]⟩
  | @placeLast _ _ resumed _ hgoing hroom =>
    refine ⟨.place, ?_⟩
    cases resumed with
    | none => simp [step, TaskQueue.place, hline, hgoing, hroom]
    | some count => simp [step, TaskQueue.place, hline, hgoing, hroom]

theorem step_of_workerMove {worker : Worker} (hworker : q.worker = worker)
    (h : WorkerMove q w worker q' w') : ∃ step delay, q.step w step = some ⟨q', w', delay⟩ := by
  cases h with
  | take hwaiting hstatus =>
    exact ⟨.take, .zero, by simp [step, TaskQueue.take, hworker, hwaiting, hstatus]⟩
  | start hrunning => exact ⟨.start, .zero, by simp [step, begin, hworker, hrunning]⟩
  | @call s failures c next =>
    cases c with
    | pause => exact ⟨.work 0, (Call.effect .pause w).1, by simp only [step, work, hworker]⟩
    | recordNonces | releaseNonces | findMessage | deleteContents | react | createPoll | vote | bump
    | drawMessageId | require | deliver =>
      exact ⟨.work 0, .zero, by simp only [step, work, hworker]⟩
  | conclude draw hjudge => exact ⟨.work draw, .zero, by simp [step, work, hworker, hjudge]⟩
  | @rest _ _ _ delay draw hjudge => exact ⟨.work draw, delay, by simp [step, work, hworker, hjudge]⟩
  | breakdown draw hjudge => exact ⟨.work draw, .zero, by simp [step, work, hworker, hjudge]⟩
  | retry => exact ⟨.retry, .zero, by simp [step, TaskQueue.retry, hworker]⟩
  | settle => exact ⟨.settle, .zero, by simp [step, TaskQueue.settle, hworker]⟩
  | publish => exact ⟨.publish, .zero, by simp [step, TaskQueue.publish, hworker]⟩
  | finish hstopped =>
    exact ⟨.finish, .zero, by simp [step, TaskQueue.finish, hstopped, hworker]⟩
  | finishHolding hstopped =>
    exact ⟨.finish, .zero, by simp [step, TaskQueue.finish, hstopped, hworker]⟩

/-- Every move is a step. -/
theorem step_of_move (h : Move q w q' w') :
    ∃ step delay, q.step w step = some ⟨q', w', delay⟩ := by
  cases h with
  | caller h =>
    obtain ⟨step, hstep⟩ := step_of_callerMove rfl h
    exact ⟨step, .zero, hstep⟩
  | worker h => exact step_of_workerMove rfl h

/-! ## What a change of the status leaves alone -/

theorem halt_beside (q : TaskQueue) (reason : String) :
    (q.halt reason).worker = q.worker ∧ (q.halt reason).published = q.published := by
  unfold halt
  split
  · exact ⟨rfl, rfl⟩
  · exact ⟨rfl, rfl⟩

theorem conclude_published (q : TaskQueue) (s : Submission) (result : TaskResult) :
    (q.conclude s result).published = q.published := by
  cases result with
  | ok outcome => rfl
  | error err => exact (q.halt_beside err.toText).2

/-- A result that is certain changes the status at most, and never stops the queue. -/
theorem conclude_eq (q : TaskQueue) (s : Submission) (result : TaskResult) :
    ∃ status announcements,
      q.conclude s result = { q with status, announcements, worker := .settling s result } ∧
      (status = q.status ∨ q.status = .running ∧ status ≠ .stopped ∧ ∃ err, result = .error err) := by
  cases result with
  | ok outcome => exact ⟨_, _, rfl, .inl rfl⟩
  | error err =>
    by_cases hrunning : q.status = .running
    · refine ⟨.halted err.toText, q.announcements + 1, ?_, .inr ⟨hrunning, nofun, err, rfl⟩⟩
      simp only [conclude, halt, if_pos hrunning, announce]
    · refine ⟨q.status, q.announcements, ?_, .inl rfl⟩
      simp only [conclude, halt, if_neg hrunning]

theorem resume_beside (q : TaskQueue) :
    q.resume.2.worker = q.worker ∧ q.resume.2.published = q.published := by
  unfold resume
  split
  · exact ⟨rfl, rfl⟩
  · exact ⟨rfl, rfl⟩

theorem resume_callers (q : TaskQueue) :
    q.resume.2.line = q.line ∧ q.resume.2.replies = q.replies := by
  unfold resume
  split
  · exact ⟨rfl, rfl⟩
  · exact ⟨rfl, rfl⟩

/-! ## Runs -/

/-- What happens to a queue while nobody joins the line: it moves, a caller gives up, someone
resumes or stops it. -/
inductive Event (q : TaskQueue) (w : Workspace) : TaskQueue → Workspace → Prop
  | move {q' : TaskQueue} {w' : Workspace} : Move q w q' w' → Event q w q' w'
  | withdraw (ticket : Nat) : Event q w (q.withdraw ticket) w
  | resume : Event q w q.resume.2 w
  | stop : Event q w q.stop w

/-- One step of a relation after the other. -/
inductive Run (R : TaskQueue → Workspace → TaskQueue → Workspace → Prop) (q : TaskQueue)
    (w : Workspace) : TaskQueue → Workspace → Prop
  | start : Run R q w q w
  | step {q₁ q₂ : TaskQueue} {w₁ w₂ : Workspace} :
      Run R q w q₁ w₁ → R q₁ w₁ q₂ w₂ → Run R q w q₂ w₂

theorem Run.head {R : TaskQueue → Workspace → TaskQueue → Workspace → Prop} {q₁ q₂ : TaskQueue}
    {w₁ w₂ : Workspace} (first : R q w q₁ w₁) (rest : Run R q₁ w₁ q₂ w₂) : Run R q w q₂ w₂ := by
  induction rest with
  | start => exact .step .start first
  | step _ hstep ih => exact .step ih hstep

/-- Nothing can move any more. -/
def AtRest (q : TaskQueue) (w : Workspace) : Prop := ∀ q' w', ¬ Move q w q' w'

end TaskQueue

end DeviceSync
