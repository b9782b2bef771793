import DeviceSync.Queue.Basic

/-!
# Steps of the task queue

Everything that the queue does by itself, cut into steps that nothing interrupts. Any step that is
possible may come next; between two steps, callers come and go, and other work may happen.

A step returns nothing when it is not possible now. A step of the worker also says how long it takes: a
frame is on its way, or a delay passes before the next attempt.
-/

namespace DeviceSync

/-- A step of the queue. -/
inductive QueueStep
  /-- The first caller in line is let in; a new task is given this name. -/
  | enter (id : TaskId)
  /-- The caller who is in places an entry. -/
  | place
  /-- The worker takes the next task. -/
  | take
  /-- The worker starts on the task that it holds, for the queue is running. -/
  | start
  /-- The worker goes on with its attempt; `draw` is the random part of a delay. -/
  | work (draw : UInt64)
  /-- The worker starts the next attempt. -/
  | retry
  /-- The worker removes the finished task from the store. -/
  | settle
  /-- The worker tells the result. -/
  | publish
  /-- The worker ends, for the queue is stopped. -/
  | finish

/-- The state of the queue and of the workspace after a step, and the time that passes before the
worker's next one. -/
structure StepResult where
  queue : TaskQueue
  workspace : Workspace
  delay : Duration := .zero

namespace TaskQueue

/-- The first caller leaves the line with a reply. -/
def dismiss (q : TaskQueue) (ticket : Nat) (reply : Reply) : TaskQueue :=
  { q with line := q.line.tail, replies := q.replies ++ [(ticket, reply)] }

/-- The first caller is in, with entries to place. -/
def letIn (q : TaskQueue) (ticket : Nat) (left : List Entry) (resumed : Option Nat) : TaskQueue :=
  { q with line := ⟨ticket, .inside left resumed⟩ :: q.line.tail }

/-- Lets the first caller in: refuses it when the queue is stopped, stores a new task, reads the stored
ones. -/
def enter (q : TaskQueue) (w : Workspace) (id : TaskId) : Option (TaskQueue × Workspace) :=
  match q.line with
  | ⟨ticket, .outside request⟩ :: _ =>
    if q.status = .stopped then some (q.dismiss ticket (.refused .stopped), w)
    else
      match request with
      | .submit task =>
        match task.data? with
        | none => some (q.letIn ticket [⟨id, task, false⟩] none, w)
        | some data =>
          match w.saveTask id data with
          | (.ok (), w) => some (q.letIn ticket [⟨id, task, true⟩] none, w)
          | (.error e, w) => some (q.dismiss ticket (.refused (.store e)), w)
      | .resumeStored =>
        match w.loadTasks with
        | (.error e, w) => some (q.dismiss ticket (.refused (.store e)), w)
        | (.ok [], w) => some (q.dismiss ticket (.resumed 0), w)
        | (.ok tasks, w) =>
          let entries := tasks.map fun (id, data) => Entry.mk id (.ofData data) true
          some (q.letIn ticket entries (some entries.length), w)
  | _ => none

/-- Puts an entry at the end of the queue. -/
def enqueue (q : TaskQueue) (e : Entry) : TaskQueue :=
  { q with waiting := q.waiting ++ [⟨e, q.next⟩], next := q.next + 1 }

/-- The caller who is in places its next entry where there is a free place, and leaves after the last
one. Once the worker has ended, nothing can be placed. -/
def place (q : TaskQueue) : Option TaskQueue :=
  match q.line with
  | ⟨ticket, .inside (e :: left) resumed⟩ :: _ =>
    if q.worker.hasEnded then some (q.dismiss ticket (.refused .stopped))
    else if q.waiting.length < q.capacity then
      let sequence := q.next
      let q := q.enqueue e
      match left, resumed with
      | [], none => some (q.dismiss ticket (.queued sequence))
      | [], some count => some (q.dismiss ticket (.resumed count))
      | left, _ => some (q.letIn ticket left resumed)
    else none
  | _ => none

/-- The worker takes the next task, also while the queue is halted. -/
def take (q : TaskQueue) : Option TaskQueue :=
  match q.worker, q.waiting with
  | .idle, s :: waiting =>
    if q.status = .stopped then none else some { q with worker := .holding s, waiting }
  | _, _ => none

/-- The worker starts on the task that it holds. -/
def begin (q : TaskQueue) (me : Identity) : Option TaskQueue :=
  match q.worker with
  | .holding s =>
    if q.status = .running then some { q with worker := .working s 0 (s.task.attempt me) } else none
  | _ => none

/-- What an attempt leads to, after `failures` earlier ones failed: the end of the task, another
attempt after a delay, or the end of the worker, since the delay would be longer than any duration. -/
inductive Verdict
  | final (result : TaskResult)
  | again (delay : Duration)
  | breakdown

/-- A missing thing is no fault of the task, and the task is passed over. A fault that may pass is
answered by another attempt, as far as the policy allows. -/
def judge (policy : RetryPolicy) (idempotent : Bool) (failures : Nat) (draw : UInt64) :
    Except TaskError Outcome → Verdict
  | .ok outcome => .final (.ok outcome)
  | .error (.notFound what) => .final (.ok (.skipped (.notFound what)))
  | .error (.transient text) =>
    let failures := failures + 1
    if policy.shouldRetry idempotent failures then
      match policy.backoff? failures draw with
      | some delay => .again delay
      | none => .breakdown
    else .final (.error (.transient text))
  | .error e => .final (.error e)

/-- The worker is certain of a result; a failed task halts the queue. -/
def conclude (q : TaskQueue) (s : Submission) (result : TaskResult) : TaskQueue :=
  let q := match result with
    | .ok _ => q
    | .error e => q.halt e.toText
  { q with worker := .settling s result }

/-- The worker ends. The task that it has in hand and the tasks that wait are dropped, though not from
the store, and the status stays as it is. -/
def endWorker (q : TaskQueue) (inHand : List Nat) : TaskQueue :=
  { q with
    worker := .ended, waiting := []
    dropped := q.dropped ++ inHand ++ q.waiting.map (·.sequence) }

/-- The worker makes the next call of its attempt, or judges the attempt. -/
def work (q : TaskQueue) (w : Workspace) (draw : UInt64) : Option StepResult :=
  match q.worker with
  | .working s failures (.ask .pause next) =>
    let (delay, w) := Call.effect .pause w
    some ⟨{ q with worker := .working s failures (next delay) }, w, delay⟩
  | .working s failures (.ask c next) =>
    let (answer, w) := c.effect w
    some ⟨{ q with worker := .working s failures (next answer) }, w, .zero⟩
  | .working s failures (.done result) =>
    match judge q.policy s.task.isIdempotent failures draw result with
    | .final result => some ⟨q.conclude s result, w, .zero⟩
    | .again delay => some ⟨{ q with worker := .resting s (failures + 1) }, w, delay⟩
    | .breakdown => some ⟨q.endWorker [s.sequence], w, .zero⟩
  | _ => none

def retry (q : TaskQueue) (me : Identity) : Option TaskQueue :=
  match q.worker with
  | .resting s failures => some { q with worker := .working s failures (s.task.attempt me) }
  | _ => none

/-- The worker removes a finished task from the store; that this may fail is of no consequence here. -/
def settle (q : TaskQueue) (w : Workspace) : Option (TaskQueue × Workspace) :=
  match q.worker with
  | .settling s result =>
    let q := { q with worker := .publishing s result }
    some (q, if s.stored then (w.removeTask s.id).2 else w)
  | _ => none

/-- The worker tells the result and is free again. -/
def publish (q : TaskQueue) : Option TaskQueue :=
  match q.worker with
  | .publishing s result =>
    some { q with
      worker := .idle
      published := q.published ++ [⟨s.id, s.sequence, s.task.describe, result⟩] }
  | _ => none

/-- The worker ends when the queue is stopped and no task is under way. -/
def finish (q : TaskQueue) : Option TaskQueue :=
  if q.status = .stopped then
    match q.worker with
    | .idle => some (q.endWorker [])
    | .holding s => some (q.endWorker [s.sequence])
    | _ => none
  else none

def step (q : TaskQueue) (w : Workspace) : QueueStep → Option StepResult
  | .enter id => (q.enter w id).map fun (q, w) => ⟨q, w, .zero⟩
  | .place => q.place.map fun q => ⟨q, w, .zero⟩
  | .take => q.take.map fun q => ⟨q, w, .zero⟩
  | .start => (q.begin w.identity).map fun q => ⟨q, w, .zero⟩
  | .work draw => q.work w draw
  | .retry => (q.retry w.identity).map fun q => ⟨q, w, .zero⟩
  | .settle => (q.settle w).map fun (q, w) => ⟨q, w, .zero⟩
  | .publish => q.publish.map fun q => ⟨q, w, .zero⟩
  | .finish => q.finish.map fun q => ⟨q, w, .zero⟩

end TaskQueue

end DeviceSync
