import DeviceSync.Proofs.Queue.Chronicle
import Mathlib.Order.RelClasses

/-!
# Tasks one after the other

A plain loop takes one task after the other and tries each until its result is certain. A queue that
is not disturbed comes to the same, one move of its worker after the other.

1. `Task.carryOutAll`: the loop. `Task.conclude` is its inner loop, the attempts at one task.
2. `Workspace.bare`: the part of a workspace that tasks see. The loop cannot tell a workspace from its
   bare part (`carryOutAll_bare`).
3. `TaskQueue.foreseen`: what is told in the end if the loop takes over now, of the attempt under way
   and of all tasks that wait or come; `TaskQueue.labels` lists what they are told under. No move of
   a worker that works on changes either (`WorkerMove.foreseen`, `WorkerMove.labels`).
4. `Worker.Advance`: a worker does not go on with one task forever (`Worker.advance_wellFounded`), and
   from task to task it comes nearer to the end (`Worker.Nearer`).
-/

namespace DeviceSync

open Procedure

/-! ## 1. The loop -/

/-- How often a task may be tried again. -/
def RetryPolicy.retries (p : RetryPolicy) (t : Task) : Nat := if t.isIdempotent then p.maxRetries else 0

namespace Task

/-- What an attempt comes to: it is made again after a fault that may pass, as long as there are retries
left. -/
def conclude (t : Task) : (retries : Nat) → Except TaskError Outcome × Workspace → TaskResult × Workspace
  | 0, (attempted, w) => (TaskQueue.report attempted, w)
  | retries + 1, (attempted, w) =>
    match attempted with
    | .error (.transient _) => t.conclude retries ((t.attempt w.identity).run w)
    | attempted => (TaskQueue.report attempted, w)

/-- Tries a task until its result is certain. -/
def carryOut (t : Task) (policy : RetryPolicy) (w : Workspace) : TaskResult × Workspace :=
  t.conclude (policy.retries t) ((t.attempt w.identity).run w)

/-- Takes one task after the other. -/
def carryOutAll (policy : RetryPolicy) : List Task → Workspace → List TaskResult × Workspace
  | [], w => ([], w)
  | t :: ts, w =>
    let (result, w) := t.carryOut policy w
    let (results, w) := carryOutAll policy ts w
    (result :: results, w)

end Task

namespace OneByOneLemmas

variable {policy : RetryPolicy} {t : Task} {failures : Nat} {draw : UInt64}
variable {attempted : Except TaskError Outcome} {result : TaskResult} {delay : Duration}

theorem shouldRetry_iff : policy.shouldRetry t.isIdempotent (failures + 1) = true ↔
    failures + 1 ≤ policy.retries t := by
  rw [RetryPolicy.shouldRetry, RetryPolicy.retries]
  cases t.isIdempotent <;> simp

/-- Where the queue takes a result for certain, so does the loop. -/
theorem conclude_of_judge_final
    (h : TaskQueue.judge policy t.isIdempotent failures draw attempted = .final result)
    (w : Workspace) : t.conclude (policy.retries t - failures) (attempted, w) = (result, w) := by
  obtain rfl := TaskQueue.report_of_judge_final h
  cases hleft : policy.retries t - failures with
  | zero => rfl
  | succ left =>
    have hmay : policy.shouldRetry t.isIdempotent (failures + 1) = true :=
      shouldRetry_iff.mpr (by omega)
    cases attempted with
    | ok outcome => rfl
    | error err =>
      cases err with
      | notFound | protocol | store => rfl
      | transient text =>
        exact Bool.noConfusion (hmay.symm.trans (TaskQueue.shouldRetry_of_judge_final h))

/-- Where the queue tries again, so does the loop. -/
theorem conclude_of_judge_again
    (h : TaskQueue.judge policy t.isIdempotent failures draw attempted = .again delay)
    (w : Workspace) : failures + 1 ≤ policy.retries t ∧
      t.conclude (policy.retries t - failures) (attempted, w) =
        t.conclude (policy.retries t - (failures + 1)) ((t.attempt w.identity).run w) := by
  have hmay : failures + 1 ≤ policy.retries t :=
    shouldRetry_iff.mp (TaskQueue.shouldRetry_of_judge_again h)
  obtain ⟨text, rfl⟩ := TaskQueue.transient_of_judge_again h
  refine ⟨hmay, ?_⟩
  rw [show policy.retries t - failures = policy.retries t - (failures + 1) + 1 by omega]
  rfl

end OneByOneLemmas

/-! ## 2. What tasks see -/

/-- What tasks do not see of a workspace: the tasks that are stored, and what comes in. -/
structure Backstage where
  tasks : TaskStore := .memory {}
  save : Option StoreError := none
  remove : Option StoreError := none
  load : Option StoreError := none
  inbox : List Bytes := []
  failingReceive : Option String := none
  closeReason : Option CloseReason := none

namespace Workspace

def backstage (w : Workspace) : Backstage where
  tasks := w.tasks
  save := w.faults.save
  remove := w.faults.remove
  load := w.faults.load
  inbox := w.connection.inbox
  failingReceive := w.connection.failingReceive
  closeReason := w.connection.closeReason

def withBackstage (w : Workspace) (b : Backstage) : Workspace :=
  { w with
    tasks := b.tasks
    faults := { w.faults with save := b.save, remove := b.remove, load := b.load }
    connection := { w.connection with
      inbox := b.inbox, failingReceive := b.failingReceive, closeReason := b.closeReason } }

/-- The part of a workspace that tasks see. -/
def bare (w : Workspace) : Workspace := w.withBackstage {}

theorem SameButTasks.bare {w w' : Workspace} (same : w.SameButTasks w') : w'.bare = w.bare := by
  obtain ⟨_, _, _, _, rfl⟩ := same
  rfl

theorem SameButTasks.connection {w w' : Workspace} (same : w.SameButTasks w') :
    w'.connection = w.connection := by
  obtain ⟨_, _, _, _, rfl⟩ := same
  rfl

end Workspace

theorem Call.effect_withBackstage (b : Backstage) (c : Call) (w : Workspace) :
    c.effect (w.withBackstage b) = ((c.effect w).1, (c.effect w).2.withBackstage b) := by
  obtain ⟨_, _, _, ⟨insert, remove, _, _, _⟩, _, ⟨disconnected, _, _, delays, failing, _, _, _⟩, _⟩ := w
  cases c with
  | recordNonces scope ns =>
    cases insert with
    | none => rfl
    | some cause => rfl
  | releaseNonces scope ns =>
    cases remove with
    | none => rfl
    | some cause => rfl
  | pause =>
    cases delays with
    | nil => rfl
    | cons d rest => rfl
  | deliver frame =>
    cases disconnected with
    | true => rfl
    | false =>
      cases failing with
      | zero => rfl
      | succ n => rfl
  | findMessage | deleteContents | react | createPoll | vote | bump | drawMessageId | require => rfl

/-- Tasks leave alone what they do not see. -/
theorem Call.backstage_effect (c : Call) (w : Workspace) :
    (c.effect w).2.backstage = w.backstage :=
  congrArg (fun x : c.Answer × Workspace => x.2.backstage) (c.effect_withBackstage w.backstage w)

namespace Task

end Task

/-! ## 3. What a queue comes to -/

/-- What the loop makes of the task at hand. -/
def Worker.foreseen (policy : RetryPolicy) (w : Workspace) : Worker → List TaskResult × Workspace
  | .idle | .ended => ([], w)
  | .holding s => (s.task.carryOut policy w).map ([·]) id
  | .working s failures rest =>
    (s.task.conclude (policy.retries s.task - failures) (rest.run w)).map ([·]) id
  | .resting s failures =>
    (s.task.conclude (policy.retries s.task - failures)
      ((s.task.attempt w.identity).run w)).map ([·]) id
  | .settling _ result | .publishing _ result => ([result], w)

namespace TaskQueue

/-- All results that are told in the end, and what tasks then see, if the loop takes over now; `coming`
are the tasks that have no place in the queue yet. -/
def foreseen (q : TaskQueue) (coming : List Task) (w : Workspace) : List TaskResult × Workspace :=
  let now := q.worker.foreseen q.policy w.bare
  let later := Task.carryOutAll q.policy (q.waiting.map (·.task) ++ coming) now.2
  (q.published.map (·.result) ++ (now.1 ++ later.1), later.2)

/-- The numbers and descriptions of all tasks, those that are done first. -/
def labels (q : TaskQueue) (coming : List Task) : List (Nat × String) :=
  q.published.map (·.label.2) ++
    ((q.worker.submission?.toList ++ q.waiting).map (·.label.2) ++
      (coming.zipIdx q.next).map fun t => (t.2, t.1.describe))

variable {q q' : TaskQueue} {w w' : Workspace} {worker : Worker}

/-- Getting a place does not change under which number a task is told of. -/
theorem labels_enqueue (q : TaskQueue) (e : Entry) (coming : List Task) :
    (q.enqueue e).labels coming = q.labels (e.task :: coming) := by
  simp [labels, enqueue, List.zipIdx_cons, Submission.label]

/-- Whatever a worker does that has not ended by that, the loop would have come to the same. -/
theorem WorkerMove.foreseen (hworker : q.worker = worker) (move : WorkerMove q w worker q' w')
    (works : q'.worker.hasEnded = false) (coming : List Task) :
    q'.foreseen coming w' = q.foreseen coming w := by
  unfold TaskQueue.foreseen
  rw [hworker]
  cases move with
  | take hwaiting _ =>
    rw [hwaiting]
    rfl
  | start _ | retry => rfl
  | @call s failures c next =>
    have hcall : c.effect w.bare = _ := c.effect_withBackstage {} w
    simp only [Worker.foreseen, Work.run_ask, hcall]
    rfl
  | @conclude s _ _ result draw hjudge =>
    obtain ⟨_, _, hconclude, -⟩ := q.conclude_eq s result
    simp only [hconclude, Worker.foreseen, Work.run_done,
      OneByOneLemmas.conclude_of_judge_final hjudge]
    rfl
  | rest draw hjudge =>
    simp only [Worker.foreseen, Work.run_done,
      (OneByOneLemmas.conclude_of_judge_again hjudge _).2]
  | @settle s result =>
    have hbare : (if s.stored then (w.removeTask s.id).2 else w).bare = w.bare := by
      split
      · exact (w.removeTask_sameButTasks s.id).bare
      · rfl
    simp only [Worker.foreseen, hbare]
  | publish =>
    simp only [Worker.foreseen, List.map_append, List.append_assoc]
    rfl
  | breakdown | finish | finishHolding => exact Bool.noConfusion works

theorem WorkerMove.labels (hworker : q.worker = worker) (move : WorkerMove q w worker q' w')
    (works : q'.worker.hasEnded = false) (coming : List Task) :
    q'.labels coming = q.labels coming := by
  unfold TaskQueue.labels
  rw [hworker]
  cases move with
  | take hwaiting _ =>
    rw [hwaiting]
    rfl
  | start | call | rest | retry | settle => rfl
  | @conclude s _ _ result draw _ =>
    obtain ⟨_, _, hconclude, -⟩ := q.conclude_eq s result
    rw [hconclude]
    rfl
  | publish =>
    simp only [Worker.submission?, List.map_append, List.append_assoc]
    rfl
  | breakdown | finish | finishHolding => exact Bool.noConfusion works

end TaskQueue

/-! ## 4. One task comes to an end -/

/-- The worker goes on with the task at hand. -/
inductive Worker.Advance (policy : RetryPolicy) : Worker → Worker → Prop
  | start (s : Submission) (me : Identity) :
      Advance policy (.holding s) (.working s 0 (s.task.attempt me))
  | call (s : Submission) (failures : Nat) {c : Call} (next : c.Answer → Work (Except TaskError Outcome))
      (answer : c.Answer) :
      Advance policy (.working s failures (.ask c next)) (.working s failures (next answer))
  | rest (s : Submission) (failures : Nat) (attempted : Except TaskError Outcome) :
      failures + 1 ≤ policy.retries s.task →
      Advance policy (.working s failures (.done attempted)) (.resting s (failures + 1))
  | retry (s : Submission) (failures : Nat) (me : Identity) :
      Advance policy (.resting s failures) (.working s failures (s.task.attempt me))
  | conclude (s : Submission) (failures : Nat) (attempted : Except TaskError Outcome)
      (result : TaskResult) :
      Advance policy (.working s failures (.done attempted)) (.settling s result)
  | settle (s : Submission) (result : TaskResult) :
      Advance policy (.settling s result) (.publishing s result)

namespace OneByOneLemmas

/-- The worker cannot go on forever from here. -/
def Ends (policy : RetryPolicy) (worker : Worker) : Prop :=
  Acc (fun b a => Worker.Advance policy a b) worker

variable {policy : RetryPolicy}

theorem ends_publishing (s : Submission) (result : TaskResult) : Ends policy (.publishing s result) :=
  ⟨_, fun _ advance => nomatch advance⟩

theorem ends_settling (s : Submission) (result : TaskResult) : Ends policy (.settling s result) := by
  refine ⟨_, fun _ advance => ?_⟩
  cases advance with
  | settle => exact ends_publishing s result

/-- An attempt makes finitely many calls, whatever they are answered. -/
theorem ends_working {s : Submission} {failures : Nat}
    (again : failures + 1 ≤ policy.retries s.task → Ends policy (.resting s (failures + 1)))
    (rest : Work (Except TaskError Outcome)) : Ends policy (.working s failures rest) := by
  induction rest with
  | done attempted =>
    refine ⟨_, fun _ advance => ?_⟩
    cases advance with
    | rest _ _ _ hmay => exact again hmay
    | conclude _ _ _ result => exact ends_settling s result
  | ask c next ih =>
    refine ⟨_, fun _ advance => ?_⟩
    cases advance with
    | call _ _ _ answer => exact ih answer

/-- Each rest leaves one retry less. -/
theorem ends_resting (s : Submission) (left : Nat) :
    ∀ failures, policy.retries s.task - failures = left → Ends policy (.resting s failures) := by
  induction left with
  | zero =>
    intro failures hleft
    refine ⟨_, fun _ advance => ?_⟩
    cases advance with
    | retry => exact ends_working (fun hmay => by omega) _
  | succ left ih =>
    intro failures hleft
    refine ⟨_, fun _ advance => ?_⟩
    cases advance with
    | retry => exact ends_working (fun _ => ih (failures + 1) (by omega)) _

end OneByOneLemmas

open OneByOneLemmas in
theorem Worker.advance_wellFounded (policy : RetryPolicy) :
    WellFounded fun b a => Worker.Advance policy a b := by
  refine ⟨fun worker => ?_⟩
  cases worker with
  | idle | ended => exact ⟨_, fun _ advance => nomatch advance⟩
  | holding s =>
    refine ⟨_, fun _ advance => ?_⟩
    cases advance with
    | start => exact ends_working (fun _ => ends_resting s _ _ rfl) _
  | working s failures rest => exact ends_working (fun _ => ends_resting s _ _ rfl) rest
  | resting s failures => exact ends_resting s _ failures rfl
  | settling s result => exact ends_settling s result
  | publishing s result => exact ends_publishing s result

/-- There are fewer steps left, or the worker went on with a task. -/
def Worker.Nearer (policy : RetryPolicy) : Nat × Worker → Nat × Worker → Prop :=
  Prod.Lex (· < ·) fun b a => Worker.Advance policy a b

theorem Worker.nearer_wellFounded (policy : RetryPolicy) : WellFounded (Worker.Nearer policy) :=
  WellFounded.prod_lex Nat.lt_wfRel.wf (Worker.advance_wellFounded policy)

theorem Worker.Advance.submission?_eq {policy : RetryPolicy} {worker worker' : Worker}
    (advance : Advance policy worker worker') : worker'.submission? = worker.submission? := by
  cases advance <;> rfl

namespace TaskQueue

variable {q q' : TaskQueue} {w w' : Workspace} {worker : Worker}

/-- Apart from taking a task and telling a result, a worker that does not end goes on with its task. -/
theorem WorkerMove.advances (move : WorkerMove q w worker q' w') (works : q'.worker.hasEnded = false) :
    (worker = .idle ∧ ∃ s, q'.worker = .holding s ∧ q.waiting = s :: q'.waiting) ∨
    ((∃ s result, worker = .publishing s result) ∧ q'.worker = .idle ∧ q'.waiting = q.waiting) ∨
    (Worker.Advance q.policy worker q'.worker ∧ q'.waiting = q.waiting) := by
  cases move with
  | take hwaiting _ => exact .inl ⟨rfl, _, rfl, hwaiting⟩
  | start | call | retry | settle => exact .inr (.inr ⟨by constructor, rfl⟩)
  | @conclude s failures attempted result draw _ =>
    obtain ⟨_, _, hconclude, -⟩ := q.conclude_eq s result
    rw [hconclude]
    exact .inr (.inr ⟨.conclude s failures attempted result, rfl⟩)
  | rest draw hjudge =>
    obtain ⟨hmay, -⟩ := OneByOneLemmas.conclude_of_judge_again hjudge w
    exact .inr (.inr ⟨.rest _ _ _ hmay, rfl⟩)
  | publish => exact .inr (.inl ⟨⟨_, _, rfl⟩, rfl, rfl⟩)
  | breakdown | finish | finishHolding => exact Bool.noConfusion works

/-- A worker that does not end comes nearer to the end of its tasks: two steps are counted for a task
that waits, and one for the task at hand. -/
theorem WorkerMove.nearer (move : WorkerMove q w q.worker q' w') (works : q'.worker.hasEnded = false)
    (n : Nat) :
    Worker.Nearer q.policy
      (n + 2 * q'.waiting.length + q'.worker.submission?.toList.length, q'.worker)
      (n + 2 * q.waiting.length + q.worker.submission?.toList.length, q.worker) := by
  rcases move.advances works with ⟨hidle, s, hholding, hwaiting⟩ |
    ⟨⟨s, result, hworker⟩, hidle, hwaiting⟩ | ⟨hadvance, hwaiting⟩
  · refine .left _ _ ?_
    simp [hidle, hholding, hwaiting, Worker.submission?]
    omega
  · refine .left _ _ ?_
    simp [hworker, hidle, hwaiting, Worker.submission?]
  · rw [hadvance.submission?_eq, hwaiting]
    exact .right _ hadvance

theorem WorkerMove.works (move : WorkerMove q w worker q' w') : worker.hasEnded = false := by
  cases move <;> rfl

/-- The worker does not stop the queue. -/
theorem WorkerMove.going (going : q.status ≠ .stopped) (move : WorkerMove q w worker q' w') :
    q'.status ≠ .stopped := by
  cases move with
  | take | start | call | rest | breakdown | retry | settle | publish | finish | finishHolding =>
    exact going
  | @conclude s _ _ result _ _ =>
    obtain ⟨status, _, hconclude, hstatus⟩ := q.conclude_eq s result
    rw [hconclude]
    rcases hstatus with rfl | ⟨-, hstatus, -⟩
    · exact going
    · exact hstatus

/-- Before the queue is stopped, the worker ends at a delay that is no duration, if at all, with a task
in hand. -/
theorem WorkerMove.breakdown_of_hasEnded (going : q.status ≠ .stopped)
    (move : WorkerMove q w worker q' w') (ended : q'.worker.hasEnded = true) :
    ∃ s failures attempted draw, worker = .working s failures (.done attempted) ∧
      q' = q.endWorker [s.sequence] ∧ w' = w ∧ q.policy.backoff? (failures + 1) draw = none := by
  cases move with
  | take | start | call | rest | retry | settle | publish => exact Bool.noConfusion ended
  | @conclude s _ _ result _ _ =>
    obtain ⟨_, _, hconclude, -⟩ := q.conclude_eq s result
    rw [hconclude] at ended
    exact Bool.noConfusion ended
  | breakdown draw hjudge =>
    obtain ⟨-, -, hnone⟩ := judge_eq_breakdown_iff.mp hjudge
    exact ⟨_, _, _, draw, rfl, rfl, rfl, hnone⟩
  | finish hstopped | finishHolding hstopped => exact absurd hstopped going

theorem WorkerMove.unsteady_of_hasEnded (going : q.status ≠ .stopped)
    (move : WorkerMove q w worker q' w') (ended : q'.worker.hasEnded = true) : ¬ q.policy.Steady := by
  obtain ⟨_, _, _, _, -, -, -, hnone⟩ := move.breakdown_of_hasEnded going ended
  exact fun steady => steady _ _ hnone

/-- A worker that ends drops what it has in hand and what waits. -/
theorem WorkerMove.fewer_of_hasEnded (going : q.status ≠ .stopped)
    (move : WorkerMove q w q.worker q' w') (ended : q'.worker.hasEnded = true) (n : Nat) :
    n + 2 * q'.waiting.length + q'.worker.submission?.toList.length <
      n + 2 * q.waiting.length + q.worker.submission?.toList.length := by
  obtain ⟨s, _, _, _, hworker, rfl, -⟩ := move.breakdown_of_hasEnded going ended
  rw [hworker]
  show n + 2 * 0 + 0 < n + 2 * q.waiting.length + 1
  omega

/-- A worker that cannot move has nothing to do, holds a task until the queue is resumed, or has
ended. -/
theorem worker_of_atRest (going : q.status ≠ .stopped) (rest : AtRest q w) :
    q.worker = .idle ∧ q.waiting = [] ∨ (∃ s, q.worker = .holding s ∧ q.status ≠ .running) ∨
      q.worker = .ended := by
  cases hworker : q.worker with
  | idle =>
    cases hwaiting : q.waiting with
    | nil => exact .inl ⟨rfl, rfl⟩
    | cons s waiting => exact absurd (.of_worker hworker (.take hwaiting going)) (rest _ _)
  | holding s =>
    exact .inr (.inl ⟨s, rfl, fun hrunning => rest _ _ (.of_worker hworker (.start hrunning))⟩)
  | working s failures attempt =>
    cases attempt with
    | ask c next => exact absurd (.of_worker hworker .call) (rest _ _)
    | done attempted =>
      cases hjudge : judge q.policy s.task.isIdempotent failures 0 attempted with
      | final result => exact absurd (.of_worker hworker (.conclude 0 hjudge)) (rest _ _)
      | again delay => exact absurd (.of_worker hworker (.rest 0 hjudge)) (rest _ _)
      | breakdown => exact absurd (.of_worker hworker (.breakdown 0 hjudge)) (rest _ _)
  | resting s failures => exact absurd (.of_worker hworker .retry) (rest _ _)
  | settling s result => exact absurd (.of_worker hworker .settle) (rest _ _)
  | publishing s result => exact absurd (.of_worker hworker .publish) (rest _ _)
  | ended => exact .inr (.inr rfl)

end TaskQueue

end DeviceSync
