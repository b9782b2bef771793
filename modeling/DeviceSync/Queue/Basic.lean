import DeviceSync.Retry
import DeviceSync.Task.Basic

/-!
# The task queue

Tasks are carried out one at a time, in the order in which they entered a bounded queue. Callers who want
to put tasks into the queue stand in line: only the first one in line is let in, stores its task, waits
for a free place and leaves. A worker takes the tasks out again. A fault that will not pass by itself
halts the queue until someone resumes it.

This module holds the state and what can be done to it from outside; `Queue/Step` holds the steps that
the queue takes by itself.
-/

namespace DeviceSync

/-- Why a call to the queue was refused. -/
inductive QueueError
  | stopped
  /-- The task could not be stored, or the stored tasks not read. -/
  | store (cause : StoreError)
deriving DecidableEq

def QueueError.toText : QueueError → String
  | .stopped => "task manager stopped"
  | .store cause => "failed to persist task: " ++ cause.toText

/-- Whether tasks are carried out. -/
inductive QueueStatus
  | running
  /-- A task failed; nothing is carried out until the queue is resumed. -/
  | halted (reason : String)
  | stopped
deriving DecidableEq

namespace QueueStatus

/-- Whether the queue waits to be resumed. -/
def isHalted : QueueStatus → Bool
  | halted _ => true
  | _ => false

end QueueStatus

/-- A task with its name; `stored` says that the task store holds it until it is done. -/
structure Entry where
  id : TaskId
  task : Task
  stored : Bool
deriving DecidableEq

/-- An entry of the queue, with its number in the order of entry. -/
structure Submission extends Entry where
  sequence : Nat
deriving DecidableEq

/-- The news that a task is done. -/
structure Completion where
  id : TaskId
  sequence : Nat
  description : String
  result : TaskResult

/-- What a caller asks for. -/
inductive Request
  /-- Put a new task into the queue. -/
  | submit (task : Task)
  /-- Put all stored tasks into the queue. -/
  | resumeStored
deriving DecidableEq

/-- What a caller is told. -/
inductive Reply
  | queued (sequence : Nat)
  | resumed (count : Nat)
  | refused (error : QueueError)
deriving DecidableEq

/-- How far a caller in line has come. -/
inductive CallerStage
  | outside (request : Request)
  /-- Let in, with entries still to be placed; `resumed` counts all entries of a resumption. -/
  | inside (left : List Entry) (resumed : Option Nat)
deriving DecidableEq

/-- A caller in line, known by a ticket. -/
structure Caller where
  ticket : Nat
  stage : CallerStage
deriving DecidableEq

/-- What the worker is doing. -/
inductive Worker
  | idle
  /-- It took a task and waits until the queue is not halted. -/
  | holding (s : Submission)
  /-- In an attempt at a task, after `failures` failed ones. -/
  | working (s : Submission) (failures : Nat) (rest : Work (Except TaskError Outcome))
  /-- Between two attempts. -/
  | resting (s : Submission) (failures : Nat)
  /-- The result is certain, and the task is still stored. -/
  | settling (s : Submission) (result : TaskResult)
  /-- The result is still to be told. -/
  | publishing (s : Submission) (result : TaskResult)
  | ended

/-- The submission that the worker has in hand. -/
def Worker.submission? : Worker → Option Submission
  | .holding s | .working s _ _ | .resting s _ | .settling s _ | .publishing s _ => some s
  | .idle | .ended => none

/-- Whether the worker has stopped for good. -/
def Worker.hasEnded : Worker → Bool
  | .ended => true
  | _ => false

/-- The state of the queue. -/
structure TaskQueue where
  /-- How many tasks can wait, at least one. -/
  capacity : Nat
  policy : RetryPolicy
  status : QueueStatus := .running
  /-- How often the status was announced. -/
  announcements : Nat := 0
  /-- The number of the next task to enter. -/
  next : Nat := 0
  nextTicket : Nat := 0
  line : List Caller := []
  waiting : List Submission := []
  worker : Worker := .idle
  /-- What was told, in order. -/
  published : List Completion := []
  /-- Numbers of tasks that were dropped when the worker ended. -/
  dropped : List Nat := []
  /-- Replies to callers who left the line. -/
  replies : List (Nat × Reply) := []

namespace TaskQueue

def start (capacity : Nat) (policy : RetryPolicy) : TaskQueue := { capacity := max capacity 1, policy }

/-- A caller joins the line and gets a ticket. -/
def join (q : TaskQueue) (request : Request) : Nat × TaskQueue :=
  (q.nextTicket, { q with
    nextTicket := q.nextTicket + 1
    line := q.line ++ [⟨q.nextTicket, .outside request⟩] })

/-- A caller gives up and leaves the line. -/
def withdraw (q : TaskQueue) (ticket : Nat) : TaskQueue :=
  { q with line := q.line.filter (·.ticket != ticket) }

/-- The reply to a caller, once the caller has left the line. -/
def reply? (q : TaskQueue) (ticket : Nat) : Option Reply :=
  (q.replies.find? (·.1 == ticket)).map (·.2)

/-- Announces a status. -/
def announce (q : TaskQueue) (status : QueueStatus) : TaskQueue :=
  { q with status, announcements := q.announcements + 1 }

/-- Goes on after a halt; false if the queue was not halted. -/
def resume (q : TaskQueue) : Bool × TaskQueue :=
  if q.status.isHalted then (true, q.announce .running) else (false, q)

/-- Ends the work after the task at hand. -/
def stop (q : TaskQueue) : TaskQueue := q.announce .stopped

/-- Halts the queue for a reason, if it is running. -/
def halt (q : TaskQueue) (reason : String) : TaskQueue :=
  if q.status = .running then q.announce (.halted reason) else q

/-- How the task with a given number ended: with its result, or dropped. -/
def outcome? (q : TaskQueue) (sequence : Nat) : Option (Except QueueError TaskResult) :=
  match q.published.find? (·.sequence == sequence) with
  | some c => some (.ok c.result)
  | none => if q.dropped.contains sequence then some (.error .stopped) else none

end TaskQueue

end DeviceSync
