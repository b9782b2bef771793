import DeviceSync.Proofs.Queue.Moves
import DeviceSync.Proofs.Retry.Backoff
import DeviceSync.Proofs.Task.Attempt

/-!
# One task, from the gate to its result

Attempts are made until one of them is final, and everything that one task does to the workspace
happens between the moment at which the worker holds it and the moment at which its result is told.
Callers come and go meanwhile, the queue may be halted, resumed or stopped, and others work on the
same workspace.

1. `Occurrence`: a step of the queue and its surroundings; `Execution` is a run of them from the gate
   to the result.
2. `report`: the result that a final attempt is told as; `judge_eq_breakdown_iff`: when there is none.
3. `Execution.over`: what is ensured of each single attempt holds of the execution. It is seen through
   a `Watch`, which says what part of the workspace matters and what the calls do to it.
-/

namespace DeviceSync

namespace TaskQueue

/-! ## 1. Executions -/

/-- What happens to a queue and its workspace; `others` says what others do to the workspace. -/
inductive Occurrence (others : Workspace → Workspace → Prop) (q : TaskQueue) (w : Workspace) :
    TaskQueue → Workspace → Prop
  | event {q' : TaskQueue} {w' : Workspace} : Event q w q' w' → Occurrence others q w q' w'
  | join (request : Request) : Occurrence others q w (q.join request).2 w
  | meanwhile {w' : Workspace} : others w w' → Occurrence others q w q w'

/-- The worker holds `s` in the workspace `w`, and the next result that is told is `c`, in the
workspace `w'`. -/
inductive Execution (others : Workspace → Workspace → Prop) (s : Submission) (w : Workspace)
    (c : Completion) (w' : Workspace) : Prop
  | intro {q₀ q q' : TaskQueue} :
      q₀.worker = .holding s → Run (Occurrence others) q₀ w q w' → q.published = q₀.published →
      Move q w' q' w' → q'.published = q.published ++ [c] → Execution others s w c w'

/-! ## 2. Results of attempts -/

/-- The result that is told of an attempt, if no other attempt follows. -/
def report : Except TaskError Outcome → TaskResult
  | .error (.notFound what) => .ok (.skipped (.notFound what))
  | attempted => attempted

theorem report_of_judge_final {policy : RetryPolicy} {idempotent : Bool} {failures : Nat}
    {draw : UInt64} {attempted : Except TaskError Outcome} {result : TaskResult}
    (h : judge policy idempotent failures draw attempted = .final result) :
    result = report attempted := by
  cases attempted with
  | ok outcome => exact (Verdict.final.inj h).symm
  | error err =>
    cases err with
    | notFound what => exact (Verdict.final.inj h).symm
    | transient text =>
      rw [judge] at h
      split at h
      · split at h
        · exact nomatch h
        · exact nomatch h
      · exact (Verdict.final.inj h).symm
    | protocol text => exact (Verdict.final.inj h).symm
    | store text => exact (Verdict.final.inj h).symm

theorem transient_of_judge_again {policy : RetryPolicy} {idempotent : Bool} {failures : Nat}
    {draw : UInt64} {attempted : Except TaskError Outcome} {delay : Duration}
    (h : judge policy idempotent failures draw attempted = .again delay) :
    ∃ text, attempted = .error (.transient text) := by
  cases attempted with
  | ok outcome => exact nomatch h
  | error err =>
    cases err with
    | transient text => exact ⟨text, rfl⟩
    | notFound what => exact nomatch h
    | protocol text => exact nomatch h
    | store text => exact nomatch h

/-- Another attempt is made if the policy allows it and its delay is a duration; if it is none, the
worker ends. -/
theorem judge_transient (policy : RetryPolicy) (idempotent : Bool) (failures : Nat) (draw : UInt64)
    (text : String) : judge policy idempotent failures draw (.error (.transient text)) =
      if policy.shouldRetry idempotent (failures + 1) then
        (policy.backoff? (failures + 1) draw).elim .breakdown .again
      else .final (.error (.transient text)) := by
  rw [judge]
  cases policy.backoff? (failures + 1) draw <;> rfl

theorem shouldRetry_of_judge_again {policy : RetryPolicy} {idempotent : Bool} {failures : Nat}
    {draw : UInt64} {attempted : Except TaskError Outcome} {delay : Duration}
    (h : judge policy idempotent failures draw attempted = .again delay) :
    policy.shouldRetry idempotent (failures + 1) = true := by
  obtain ⟨text, rfl⟩ := transient_of_judge_again h
  rw [judge_transient] at h
  split at h
  · assumption
  · cases h

/-- A fault that may pass is final only where no other attempt is allowed. -/
theorem shouldRetry_of_judge_final {policy : RetryPolicy} {idempotent : Bool} {failures : Nat}
    {draw : UInt64} {text : String} {result : TaskResult}
    (h : judge policy idempotent failures draw (.error (.transient text)) = .final result) :
    policy.shouldRetry idempotent (failures + 1) = false := by
  rw [judge_transient] at h
  split at h
  · generalize policy.backoff? (failures + 1) draw = delay? at h
    cases delay? with
    | none => cases h
    | some delay => cases h
  · rename_i hnot
    exact Bool.eq_false_iff.mpr hnot

/-- A worker ends with a task in hand where a fault may pass and another attempt may be made, but only
after a delay that is no duration. -/
theorem judge_eq_breakdown_iff {policy : RetryPolicy} {idempotent : Bool} {failures : Nat}
    {draw : UInt64} {attempted : Except TaskError Outcome} :
    judge policy idempotent failures draw attempted = .breakdown ↔
      (∃ text, attempted = .error (.transient text)) ∧
        policy.shouldRetry idempotent (failures + 1) = true ∧
        policy.backoff? (failures + 1) draw = none := by
  cases attempted with
  | ok outcome => exact iff_of_false nofun (by rintro ⟨⟨_, h⟩, -⟩; cases h)
  | error err =>
    cases err with
    | notFound | protocol | store => exact iff_of_false nofun (by rintro ⟨⟨_, h⟩, -⟩; cases h)
    | transient text =>
      rw [judge_transient]
      cases policy.shouldRetry idempotent (failures + 1) <;>
        cases policy.backoff? (failures + 1) draw <;> simp

/-- With a steady policy the worker rests before it makes another attempt. -/
theorem Move.rest_of_steady {q : TaskQueue} {w : Workspace} {s : Submission} {failures : Nat}
    {text : String} (steady : q.policy.Steady)
    (hworker : q.worker = .working s failures (.done (.error (.transient text))))
    (again : q.policy.shouldRetry s.task.isIdempotent (failures + 1) = true) :
    Move q w { q with worker := .resting s (failures + 1) } w := by
  obtain ⟨delay, hdelay⟩ := Option.ne_none_iff_exists'.mp (steady (failures + 1) 0)
  have hjudge : judge q.policy s.task.isIdempotent failures 0 (.error (.transient text)) =
      .again delay := by
    rw [judge_transient, if_pos again, hdelay]
    rfl
  exact .of_worker hworker (.rest 0 hjudge)

/-! ## 3. What one attempt ensures -/

/-- What is watched of a workspace: a part of it, and what a call may do to this part as long as the
workspace is good. The task store is not part of it. -/
structure Watch (σ : Type) where
  view : Workspace → σ
  good : Workspace → Prop
  allows : (c : Call) → σ → c.Answer → σ → Prop
  calls : ∀ c w, good w →
    allows c (view w) (c.effect w).1 (view (c.effect w).2) ∧ good (c.effect w).2
  tasks : ∀ w w', w.SameButTasks w' → good w → view w' = view w ∧ good w'

variable {q q' : TaskQueue} {w w' : Workspace} {others : Workspace → Workspace → Prop}

/-- A caller touches the task store at most, and neither the worker nor what was told. -/
theorem CallerMove.beside {line : List Caller} (move : CallerMove q w line q' w') :
    w.SameButTasks w' ∧ q'.worker = q.worker ∧ q'.published = q.published := by
  cases move with
  | refuse | takeIn | turnAway | place | placeLast => exact ⟨.refl w, rfl, rfl⟩
  | @save _ _ _ data _ id _ _ hsave | @failToSave _ _ _ data _ _ id _ _ hsave =>
    have hsame := w.saveTask_sameButTasks id data
    rw [hsave] at hsame
    exact ⟨hsame, rfl, rfl⟩
  | load _ hload _ | loadNothing _ hload | failToLoad _ hload =>
    have hsame := w.loadTasks_sameButTasks
    rw [hload] at hsame
    exact ⟨hsame, rfl, rfl⟩

/-- The worker leaves the line alone, and what callers were told, and puts nothing into the queue. -/
theorem WorkerMove.beside {worker : Worker} (move : WorkerMove q w worker q' w') :
    q'.line = q.line ∧ q'.replies = q.replies ∧ q'.nextTicket = q.nextTicket ∧
      q'.waiting <:+ q.waiting := by
  cases move with
  | take hwaiting _ => exact ⟨rfl, rfl, rfl, hwaiting ▸ List.suffix_cons _ _⟩
  | start | call | rest | retry | settle | publish => exact ⟨rfl, rfl, rfl, List.suffix_rfl⟩
  | @conclude s _ _ result _ _ =>
    obtain ⟨_, _, hconclude, -⟩ := q.conclude_eq s result
    rw [hconclude]
    exact ⟨rfl, rfl, rfl, List.suffix_rfl⟩
  | breakdown | finish | finishHolding => exact ⟨rfl, rfl, rfl, List.nil_suffix⟩

theorem WorkerMove.settings {worker : Worker} (move : WorkerMove q w worker q' w') :
    q'.capacity = q.capacity ∧ q'.policy = q.policy ∧ q'.next = q.next := by
  cases move with
  | @conclude s _ _ result _ _ =>
    obtain ⟨_, _, hconclude, -⟩ := q.conclude_eq s result
    rw [hconclude]
    exact ⟨rfl, rfl, rfl⟩
  | take | start | call | rest | breakdown | retry | settle | publish | finish | finishHolding =>
    exact ⟨rfl, rfl, rfl⟩

theorem WorkerMove.published_prefix {worker : Worker} (move : WorkerMove q w worker q' w') :
    q.published <+: q'.published := by
  cases move with
  | take | start | call | rest | breakdown | retry | settle | finish | finishHolding =>
    exact List.prefix_rfl
  | @conclude s _ _ result draw _ => exact q.conclude_published s result ▸ List.prefix_rfl
  | publish => exact List.prefix_append _ _

/-- A stopped queue stays stopped. -/
theorem Move.stopped (move : Move q w q' w') (stopped : q.status = .stopped) :
    q'.status = .stopped := by
  cases move with
  | caller move =>
    generalize q.line = line at move
    cases move <;> exact stopped
  | worker move =>
    generalize q.worker = worker at move
    cases move with
    | take | start | call | rest | breakdown | retry | settle | publish | finish | finishHolding =>
      exact stopped
    | @conclude s _ _ result _ _ =>
      obtain ⟨status, _, hconclude, rfl | ⟨hrunning, -⟩⟩ := q.conclude_eq s result
      · rw [hconclude]
        exact stopped
      · exact nomatch stopped.symm.trans hrunning

/-- What was told stays told. -/
theorem Occurrence.published_prefix (occurrence : Occurrence others q w q' w') :
    q.published <+: q'.published := by
  cases occurrence with
  | event event =>
    cases event with
    | move move =>
      cases move with
      | caller move => exact move.beside.2.2 ▸ List.prefix_rfl
      | worker move => exact move.published_prefix
    | withdraw | stop => exact List.prefix_rfl
    | resume => exact q.resume_beside.2 ▸ List.prefix_rfl
  | join | meanwhile => exact List.prefix_rfl

namespace ExecutionLemmas

variable {σ : Type} {k : Watch σ} {Ready : σ → Prop} {Over : TaskResult → σ → Prop} {s : Submission}

/-- An attempt ends ready for another one if there may be one, and over if there is none. -/
def Attempted (Ready : σ → Prop) (Over : TaskResult → σ → Prop) (attempted : Except TaskError Outcome)
    (x : σ) : Prop :=
  Over (report attempted) x ∧ ∀ text, attempted = .error (.transient text) → Ready x

/-- How far the worker has come with `s`. -/
inductive Stage (k : Watch σ) (Ready : σ → Prop) (Over : TaskResult → σ → Prop) (s : Submission) :
    Worker → σ → Prop
  | holding {x : σ} : Ready x → Stage k Ready Over s (.holding s) x
  | working {x : σ} {failures : Nat} {rest : Work (Except TaskError Outcome)} :
      rest.Ensures k.allows (Attempted Ready Over) x →
      Stage k Ready Over s (.working s failures rest) x
  | resting {x : σ} {failures : Nat} : Ready x → Stage k Ready Over s (.resting s failures) x
  | settling {x : σ} {result : TaskResult} :
      Over result x → Stage k Ready Over s (.settling s result) x
  | publishing {x : σ} {result : TaskResult} :
      Over result x → Stage k Ready Over s (.publishing s result) x
  | ended {x : σ} : Stage k Ready Over s .ended x

/-- A move of the worker leads on, or it tells the result. -/
theorem Stage.workerMove {worker : Worker} (stage : Stage k Ready Over s worker (k.view w))
    (attempt : ∀ w, k.good w → Ready (k.view w) →
      (s.task.attempt w.identity).Ensures k.allows (Attempted Ready Over) (k.view w))
    (good : k.good w) (move : WorkerMove q w worker q' w') :
    k.good w' ∧
    (q'.published = q.published ∧ Stage k Ready Over s q'.worker (k.view w') ∨
      ∃ result, Over result (k.view w') ∧
        q'.published = q.published ++ [⟨s.id, s.sequence, s.task.describe, result⟩]) := by
  cases stage with
  | holding hready =>
    cases move with
    | start _ => exact ⟨good, .inl ⟨rfl, .working (attempt w good hready)⟩⟩
    | finishHolding _ => exact ⟨good, .inl ⟨rfl, .ended⟩⟩
  | working hrest =>
    cases move with
    | @call _ _ c next =>
      obtain ⟨hallows, hgood⟩ := k.calls c w good
      exact ⟨hgood, .inl ⟨rfl, .working (hrest _ _ hallows)⟩⟩
    | @conclude _ _ attempted result draw hjudge =>
      obtain rfl := report_of_judge_final hjudge
      exact ⟨good, .inl ⟨q.conclude_published s _, .settling hrest.1⟩⟩
    | rest draw hjudge =>
      obtain ⟨text, rfl⟩ := transient_of_judge_again hjudge
      exact ⟨good, .inl ⟨rfl, .resting (hrest.2 text rfl)⟩⟩
    | breakdown _ _ => exact ⟨good, .inl ⟨rfl, .ended⟩⟩
  | resting hready =>
    cases move with
    | retry => exact ⟨good, .inl ⟨rfl, .working (attempt w good hready)⟩⟩
  | @settling _ result hover =>
    cases move with
    | settle =>
      split
      · obtain ⟨hview, hgood⟩ := k.tasks _ _ (w.removeTask_sameButTasks s.id) good
        refine ⟨hgood, .inl ⟨rfl, .publishing ?_⟩⟩
        rw [hview]
        exact hover
      · exact ⟨good, .inl ⟨rfl, .publishing hover⟩⟩
  | publishing hover =>
    cases move with
    | publish => exact ⟨good, .inr ⟨_, hover, rfl⟩⟩
  | ended => exact nomatch move

/-- What happens leads on, or something was told. -/
theorem Stage.occurrence (stage : Stage k Ready Over s q.worker (k.view w))
    (attempt : ∀ w, k.good w → Ready (k.view w) →
      (s.task.attempt w.identity).Ensures k.allows (Attempted Ready Over) (k.view w))
    (mayAct : ∀ w w', others w w' → k.good w → k.view w' = k.view w ∧ k.good w')
    (good : k.good w) (occurrence : Occurrence others q w q' w') :
    (k.good w' ∧ q'.published = q.published ∧ Stage k Ready Over s q'.worker (k.view w')) ∨
      q.published.length < q'.published.length := by
  cases occurrence with
  | event event =>
    cases event with
    | move move =>
      cases move with
      | caller move =>
        obtain ⟨hsame, hworker, hpublished⟩ := move.beside
        obtain ⟨hview, hgood⟩ := k.tasks w w' hsame good
        rw [hworker, hview]
        exact .inl ⟨hgood, hpublished, stage⟩
      | worker move =>
        obtain ⟨hgood, hon | ⟨result, -, hpublished⟩⟩ := stage.workerMove attempt good move
        · exact .inl ⟨hgood, hon⟩
        · right
          rw [hpublished, List.length_append]
          exact Nat.lt_succ_self _
    | withdraw ticket => exact .inl ⟨good, rfl, stage⟩
    | resume =>
      obtain ⟨hworker, hpublished⟩ := q.resume_beside
      rw [hworker]
      exact .inl ⟨good, hpublished, stage⟩
    | stop => exact .inl ⟨good, rfl, stage⟩
  | join request => exact .inl ⟨good, rfl, stage⟩
  | meanwhile hothers =>
    obtain ⟨hview, hgood⟩ := mayAct w w' hothers good
    rw [hview]
    exact .inl ⟨hgood, rfl, stage⟩

/-- As long as nothing was told, the worker is at some stage of `s`. -/
theorem Stage.of_run {q₀ : TaskQueue} {w₀ : Workspace}
    (stage : Stage k Ready Over s q₀.worker (k.view w₀))
    (attempt : ∀ w, k.good w → Ready (k.view w) →
      (s.task.attempt w.identity).Ensures k.allows (Attempted Ready Over) (k.view w))
    (mayAct : ∀ w w', others w w' → k.good w → k.view w' = k.view w ∧ k.good w')
    (good : k.good w₀) (run : Run (Occurrence others) q₀ w₀ q w) :
    (k.good w ∧ q.published = q₀.published ∧ Stage k Ready Over s q.worker (k.view w)) ∨
      q₀.published.length < q.published.length := by
  induction run with
  | start => exact .inl ⟨good, rfl, stage⟩
  | step _ hoccurrence ih =>
    rcases ih with ⟨hgood, hpublished, hstage⟩ | hlonger
    · have hnext := hstage.occurrence attempt mayAct hgood hoccurrence
      rw [hpublished] at hnext
      exact hnext
    · exact .inr (Nat.lt_of_lt_of_le hlonger hoccurrence.published_prefix.length_le)

end ExecutionLemmas

open ExecutionLemmas

/-- Every attempt at a task that starts `Ready` ends `Over`, with the result that it would be reported
with, and `Ready` again if another attempt may follow. Then the execution of the task ends `Over`,
with the result that is told. -/
theorem Execution.over {σ : Type} (k : Watch σ) (Ready : σ → Prop) (Over : TaskResult → σ → Prop)
    {s : Submission} {c : Completion} (execution : Execution others s w c w')
    (attempt : ∀ w, k.good w → Ready (k.view w) →
      (s.task.attempt w.identity).Ensures k.allows (Attempted Ready Over) (k.view w))
    (mayAct : ∀ w w', others w w' → k.good w → k.view w' = k.view w ∧ k.good w')
    (good : k.good w) (ready : Ready (k.view w)) :
    Over c.result (k.view w') ∧ c.id = s.id ∧ c.sequence = s.sequence := by
  obtain ⟨hworker, hrun, hpublished, hmove, hlast⟩ := execution
  have hstart : Stage k Ready Over s (Worker.holding s) (k.view w) := .holding ready
  rw [← hworker] at hstart
  rcases hstart.of_run attempt mayAct good hrun with ⟨hgood, -, hstage⟩ | hlonger
  · cases hmove with
    | caller hmove =>
      rw [hmove.beside.2.2] at hlast
      exact absurd hlast (by simp)
    | worker hmove =>
      obtain ⟨-, ⟨hsame, -⟩ | ⟨result, hover, htold⟩⟩ := hstage.workerMove attempt hgood hmove
      · rw [hsame] at hlast
        exact absurd hlast (by simp)
      · rw [htold] at hlast
        obtain rfl := List.head_eq_of_cons_eq (List.append_cancel_left hlast)
        exact ⟨hover, rfl, rfl⟩
  · rw [hpublished] at hlonger
    exact absurd hlonger (Nat.lt_irrefl _)

/-! ## 4. Undisturbed executions -/

/-- The worker makes the calls of an attempt, one move for each. -/
theorem Run.through {q₀ : TaskQueue} {w₀ v : Workspace} {s : Submission} {failures : Nat}
    {rest : Work (Except TaskError Outcome)} {attempted : Except TaskError Outcome}
    (run : Run (Occurrence others) q₀ w₀ q w) (hworker : q.worker = .working s failures rest)
    (hrest : rest.run w = (attempted, v)) :
    Run (Occurrence others) q₀ w₀ { q with worker := .working s failures (.done attempted) } v := by
  induction rest generalizing q w with
  | done result =>
    obtain ⟨rfl, rfl⟩ := Prod.mk.inj hrest
    rw [← hworker]
    exact run
  | ask c next ih =>
    have hcalled := run.step (.event (.move (.of_worker hworker .call)))
    have hdone := ih _ hcalled rfl hrest
    exact hdone

/-- The worker is done with its attempts, and goes on to tell the result. -/
theorem Run.execution {q₀ : TaskQueue} {w₀ : Workspace} {s : Submission} {failures : Nat}
    {attempted : Except TaskError Outcome} {result : TaskResult}
    (run : Run (Occurrence others) q₀ w₀ q w) (draw : UInt64) (hstart : q₀.worker = .holding s)
    (hpublished : q.published = q₀.published)
    (hworker : q.worker = .working s failures (.done attempted))
    (hjudge : judge q.policy s.task.isIdempotent failures draw attempted = .final result) :
    Execution others s w₀ ⟨s.id, s.sequence, s.task.describe, result⟩
      (if s.stored then (w.removeTask s.id).2 else w) := by
  have hconclude := run.step (.event (.move (.of_worker hworker (.conclude draw hjudge))))
  have hsettle := hconclude.step (.event (.move (.of_worker rfl .settle)))
  refine .intro hstart hsettle ?_ (.of_worker rfl .publish) rfl
  exact (q.conclude_published s result).trans hpublished

/-- A task that is tried once and by itself. -/
theorem execution_of_attempt {s : Submission} {v : Workspace} {attempted : Except TaskError Outcome}
    (hrun : (s.task.attempt w.identity).run w = (attempted, v)) :
    Execution others s w ⟨s.id, s.sequence, s.task.describe, report attempted⟩
      (if s.stored then (v.removeTask s.id).2 else v) := by
  have hjudge : judge .never s.task.isIdempotent 0 0 attempted = .final (report attempted) := by
    cases attempted with
    | ok outcome => rfl
    | error err =>
      cases err with
      | notFound what => rfl
      | transient text => simp [judge, RetryPolicy.shouldRetry, RetryPolicy.never, report]
      | protocol text => rfl
      | store text => rfl
  let q₀ : TaskQueue := { TaskQueue.start 1 .never with worker := .holding s }
  have hstart : Run (Occurrence others) q₀ w _ w :=
    .step .start (.event (.move (.of_worker rfl (.start rfl))))
  exact (hstart.through rfl hrun).execution 0 rfl rfl rfl hjudge

end TaskQueue

/-- The name of a task. -/
def Sample.taskName : TaskId := ⟨List.replicate 16 1, rfl⟩

end DeviceSync
