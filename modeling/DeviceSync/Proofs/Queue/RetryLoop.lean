import Mathlib.Data.Nat.Find
import DeviceSync.Proofs.Queue.OneByOne
import DeviceSync.Proofs.Queue.Retries

/-!
# How often a task is tried

A worker tries a task until the result of an attempt is certain. Its moves are few, but anything may
happen between them: callers come and go, the queue is halted, resumed or stopped, others work on the
same workspace.

1. `Trial`: a run from the first attempt on, with the results of the attempts that ended so far.
2. `Tried`: what these results are by the state of the worker. All but the last one are faults that may
   pass, there are as many of them as the worker counts, and no more than the policy allows. Where the
   delay before a retry overflows, the worker may end in between (`BreaksOff`). `Tried.occurrence` is the
   step, `Trial.tried` the run.
3. `Course`: an infinite run in which the worker is not held up for ever. In such a run the attempts come
   to an end (`Course.leaves_attempts`), as the worker only advances.
4. `retries_are_exact`: both together, for any results of the attempts. `late_vote_is_given_up`: a task
   that has no result because of a delay that overflows.
-/

namespace DeviceSync

open TaskQueue

/-- The fault of an attempt may pass. -/
def TaskQueue.MayPass (attempted : Except TaskError Outcome) : Prop :=
  ∃ text, attempted = .error (.transient text)

theorem TaskQueue.CallerMove.policy {q q' : TaskQueue} {w w' : Workspace} {line : List Caller}
    (move : CallerMove q w line q' w') : q'.policy = q.policy := by
  cases move <;> rfl

theorem TaskQueue.resume_policy (q : TaskQueue) : q.resume.2.policy = q.policy := by
  unfold resume
  split <;> rfl

/-! ## 1. Trials -/

/-- The results of attempts that ended between two states of a worker: one if the worker judged an
attempt, and rests after it, is certain of the result or ends. -/
def Worker.judged : Worker → Worker → List (Except TaskError Outcome)
  | .working _ _ (.done attempted), .resting _ _ => [attempted]
  | .working _ _ (.done attempted), .settling _ _ => [attempted]
  | .working _ _ (.done attempted), .ended => [attempted]
  | _, _ => []

/-- From a queue in a workspace, things happen, and attempts with these results end meanwhile. -/
inductive Trial (others : Workspace → Workspace → Prop) (q₀ : TaskQueue) (w₀ : Workspace) :
    List (Except TaskError Outcome) → TaskQueue → Workspace → Prop
  | start : Trial others q₀ w₀ [] q₀ w₀
  | step {results : List (Except TaskError Outcome)} {q q' : TaskQueue} {w w' : Workspace} :
      Trial others q₀ w₀ results q w → Occurrence others q w q' w' →
      Trial others q₀ w₀ (results ++ q.worker.judged q'.worker) q' w'

/-! ## 2. What is known of the attempts -/

/-- The worker may end after so many failed attempts at a task: it may try again, but the longest delay
before that is longer than any duration. -/
structure BreaksOff (policy : RetryPolicy) (t : Task) (failures : Nat) : Prop where
  idempotent : t.isIdempotent = true
  allowed : failures ≤ policy.maxRetries
  overflows : policy.Overflows failures

/-- What the results of the attempts are, by the state of the worker: all but the last one may pass, and
the last one is certain unless the worker ended. -/
inductive Tried (policy : RetryPolicy) (s : Submission) : List (Except TaskError Outcome) → Worker → Prop
  | working {results : List (Except TaskError Outcome)} (rest : Work (Except TaskError Outcome)) :
      (∀ r ∈ results, MayPass r) → results.length ≤ policy.retries s.task →
      Tried policy s results (.working s results.length rest)
  | resting {results : List (Except TaskError Outcome)} :
      (∀ r ∈ results, MayPass r) → results.length ≤ policy.retries s.task →
      Tried policy s results (.resting s results.length)
  | settling {results : List (Except TaskError Outcome)} {last : Except TaskError Outcome} :
      (∀ r ∈ results, MayPass r) → results.length ≤ policy.retries s.task →
      (MayPass last → results.length = policy.retries s.task) →
      Tried policy s (results ++ [last]) (.settling s (report last))
  | publishing {results : List (Except TaskError Outcome)} {result : TaskResult} :
      Tried policy s results (.publishing s result)
  | ended {results : List (Except TaskError Outcome)} :
      results ≠ [] → (∀ r ∈ results, MayPass r) → BreaksOff policy s.task results.length →
      Tried policy s results .ended

variable {policy : RetryPolicy} {s : Submission} {results : List (Except TaskError Outcome)}
variable {q q' q₀ : TaskQueue} {w w' w₀ : Workspace} {worker : Worker}
variable {others : Workspace → Workspace → Prop}

namespace RetryLoopLemmas

theorem judged_self (worker : Worker) : worker.judged worker = [] := by
  cases worker with
  | working s failures rest => cases rest <;> rfl
  | idle | holding | resting | settling | publishing | ended => rfl

/-- An attempt whose fault may pass is the last one only where no retry is left. -/
theorem length_of_judge_final {draw : UInt64} {last : Except TaskError Outcome} {result : TaskResult}
    (few : results.length ≤ policy.retries s.task)
    (hjudge : judge policy s.task.isIdempotent results.length draw last = .final result)
    (passing : MayPass last) : results.length = policy.retries s.task := by
  obtain ⟨text, rfl⟩ := passing
  have hmore : ¬ results.length + 1 ≤ policy.retries s.task := fun h =>
    absurd (OneByOneLemmas.shouldRetry_iff.mpr h) (Bool.eq_false_iff.mp (shouldRetry_of_judge_final hjudge))
  omega

/-- The attempt may be the worker's last one exactly if the longest delay after it overflows. -/
theorem breaksOff_iff {failures : Nat} {t : Task} (text : String) :
    (∃ draw, judge policy t.isIdempotent failures draw (.error (.transient text)) = .breakdown) ↔
      BreaksOff policy t (failures + 1) := by
  simp only [judge_eq_breakdown_iff]
  constructor
  · rintro ⟨draw, -, hretry, hnone⟩
    obtain ⟨hidempotent, hallowed⟩ := Bool.and_eq_true_iff.mp hretry
    have overflows := RetryPolicy.exists_backoff?_eq_none_iff.mp ⟨draw, hnone⟩
    exact ⟨hidempotent, of_decide_eq_true hallowed, overflows⟩
  · rintro ⟨hidempotent, hallowed, overflows⟩
    obtain ⟨draw, hnone⟩ := RetryPolicy.exists_backoff?_eq_none_iff.mpr overflows
    have hretry := Bool.and_eq_true_iff.mpr ⟨hidempotent, decide_eq_true hallowed⟩
    exact ⟨draw, ⟨text, rfl⟩, hretry, hnone⟩

theorem mayPass_append {last : Except TaskError Outcome} (passing : ∀ r ∈ results, MayPass r)
    (h : MayPass last) : ∀ r ∈ results ++ [last], MayPass r := by
  intro r hr
  rcases List.mem_append.mp hr with hr | hr
  · exact passing r hr
  · rw [List.mem_singleton.mp hr]
    exact h

/-- Only the worker itself changes what it is doing, and nobody changes the policy. -/
theorem worker_of_occurrence (occurrence : Occurrence others q w q' w') :
    q'.policy = q.policy ∧
      (WorkerMove q w q.worker q' w' ∨ q'.worker = q.worker ∧ q'.published = q.published) := by
  cases occurrence with
  | event event =>
    cases event with
    | move move =>
      cases move with
      | caller move => exact ⟨move.policy, .inr move.beside.2⟩
      | worker move => exact ⟨move.settings.2.1, .inl move⟩
    | resume => exact ⟨q.resume_policy, .inr q.resume_beside⟩
    | withdraw | stop => exact ⟨rfl, .inr ⟨rfl, rfl⟩⟩
  | join | meanwhile => exact ⟨rfl, .inr ⟨rfl, rfl⟩⟩

end RetryLoopLemmas

open RetryLoopLemmas

/-- A move of the worker leads on, or it tells the result. -/
theorem Tried.workerMove (tried : Tried q.policy s results worker)
    (move : WorkerMove q w worker q' w') :
    Tried q.policy s (results ++ worker.judged q'.worker) q'.worker ∨
      q.published.length < q'.published.length := by
  cases tried with
  | working rest passing few =>
    cases move with
    | @call _ _ c next =>
      left
      show Tried _ _ (results ++ []) _
      rw [List.append_nil]
      exact .working _ passing few
    | @conclude _ _ last result draw hjudge =>
      left
      obtain ⟨_, _, hconclude, -⟩ := q.conclude_eq s result
      rw [hconclude]
      have hlast := length_of_judge_final few hjudge
      obtain rfl := report_of_judge_final hjudge
      exact .settling passing few hlast
    | @rest _ _ last delay draw hjudge =>
      left
      obtain ⟨text, rfl⟩ := transient_of_judge_again hjudge
      obtain ⟨hmay, -⟩ := OneByOneLemmas.conclude_of_judge_again hjudge w
      have hresting : Tried q.policy s _ (.resting s _) :=
        .resting (mayPass_append passing ⟨text, rfl⟩) (by simpa using hmay)
      rw [List.length_append] at hresting
      exact hresting
    | breakdown draw hjudge =>
      left
      obtain ⟨⟨text, rfl⟩, -⟩ := judge_eq_breakdown_iff.mp hjudge
      have hsome : results ++ [.error (.transient text)] ≠ [] :=
        List.append_ne_nil_of_right_ne_nil results (List.cons_ne_nil _ _)
      refine .ended hsome (mayPass_append passing ⟨text, rfl⟩) ?_
      rw [List.length_append]
      exact (breaksOff_iff text).mp ⟨draw, hjudge⟩
  | resting passing few =>
    cases move with
    | retry =>
      left
      show Tried _ _ (results ++ []) _
      rw [List.append_nil]
      exact .working _ passing few
  | settling passing few hlast =>
    cases move with
    | settle => exact .inl .publishing
  | publishing =>
    cases move with
    | publish =>
      right
      rw [List.length_append]
      exact Nat.lt_succ_self _
  | ended => exact nomatch move

/-- The step. -/
theorem Tried.occurrence (tried : Tried q.policy s results q.worker)
    (occurrence : Occurrence others q w q' w') :
    Tried q'.policy s (results ++ q.worker.judged q'.worker) q'.worker ∨
      q.published.length < q'.published.length := by
  obtain ⟨hpolicy, hmove | ⟨hworker, -⟩⟩ := worker_of_occurrence occurrence
  · rw [hpolicy]
    exact tried.workerMove hmove
  · left
    rw [hpolicy, hworker, judged_self, List.append_nil]
    exact tried

/-- The worker makes the calls of an attempt, and no attempt ends meanwhile. -/
theorem Trial.through {v : Workspace} {failures : Nat} {rest : Work (Except TaskError Outcome)}
    {attempted : Except TaskError Outcome} (trial : Trial others q₀ w₀ results q w)
    (hworker : q.worker = .working s failures rest) (hrest : rest.run w = (attempted, v)) :
    Trial others q₀ w₀ results { q with worker := .working s failures (.done attempted) } v := by
  induction rest generalizing q w with
  | done result =>
    obtain ⟨rfl, rfl⟩ := Prod.mk.inj hrest
    rw [← hworker]
    exact trial
  | ask c next ih =>
    have hcalled := trial.step (.event (.move (.of_worker hworker .call)))
    rw [hworker, show (Worker.working s failures (.ask c next)).judged _ = [] from rfl,
      List.append_nil] at hcalled
    have hdone := ih _ hcalled rfl hrest
    exact hdone

theorem Trial.published_prefix (trial : Trial others q₀ w₀ results q w) :
    q₀.published <+: q.published := by
  induction trial with
  | start => exact List.prefix_rfl
  | step _ hoccurrence ih => exact ih.trans hoccurrence.published_prefix

/-- The run: as long as nothing was told, the attempts are known. -/
theorem Trial.tried (trial : Trial others q₀ w₀ results q w)
    (start : Tried q₀.policy s [] q₀.worker) (untold : q.published = q₀.published) :
    Tried q.policy s results q.worker := by
  -- Once a result was told, the worker may be at another task, and nothing is said of it.
  suffices h : Tried q.policy s results q.worker ∨ q₀.published.length < q.published.length by
    refine h.resolve_right fun hlonger => ?_
    rw [untold] at hlonger
    exact absurd hlonger (Nat.lt_irrefl _)
  clear untold
  induction trial with
  | start => exact .inl start
  | step htrial hoccurrence ih =>
    rcases ih with htried | hlonger
    · refine (htried.occurrence hoccurrence).imp_right fun hgrown => ?_
      exact Nat.lt_of_le_of_lt htrial.published_prefix.length_le hgrown
    · exact .inr (Nat.lt_of_lt_of_le hlonger hoccurrence.published_prefix.length_le)

theorem Trial.policy_eq (trial : Trial others q₀ w₀ results q w) : q.policy = q₀.policy := by
  induction trial with
  | start => rfl
  | step _ hoccurrence ih => exact (worker_of_occurrence hoccurrence).1.trans ih

/-- How many attempts a task is given and what its result is, if `attempted 0`, `attempted 1` and so on
are the results of the attempts. -/
structure ComesTo (policy : RetryPolicy) (t : Task) (attempted : Nat → Except TaskError Outcome)
    (attempts : Nat) (result : TaskResult) : Prop where
  /-- The first result that is not a fault that may pass is the last one. -/
  decided : t.isIdempotent = true → ∀ k ≤ policy.maxRetries, (∀ i < k, MayPass (attempted i)) →
    ¬ MayPass (attempted k) → attempts = k + 1 ∧ result = report (attempted k)
  /-- If there are only such faults, the retries are used up. -/
  exhausted : t.isIdempotent = true → (∀ i ≤ policy.maxRetries, MayPass (attempted i)) →
    attempts = policy.maxRetries + 1 ∧ result = attempted policy.maxRetries
  once : t.isIdempotent = false → attempts = 1 ∧ result = report (attempted 0)

theorem Tried.comesTo {s' : Submission} {result : TaskResult} {attempted : Nat → Except TaskError Outcome}
    (tried : Tried policy s results (.settling s' result))
    (follow : ∀ i (h : i < results.length), results[i] = attempted i) :
    ComesTo policy s.task attempted results.length result := by
  cases tried with
  | @settling failed last passing few hlast =>
    have hfailed : ∀ i < failed.length, MayPass (attempted i) := by
      intro i hi
      have hsame := follow i (by rw [List.length_append]; omega)
      rw [← hsame, List.getElem_append_left hi]
      exact passing _ (List.getElem_mem hi)
    have hend : last = attempted failed.length := by
      rw [← follow failed.length (by simp), List.getElem_concat_length rfl]
    have hlength : (failed ++ [last]).length = failed.length + 1 := by simp
    rw [hlength]
    refine ⟨fun idempotent k hk hbefore hnot => ?_, fun idempotent hall => ?_, fun once => ?_⟩
    · rw [RetryPolicy.retries, if_pos idempotent] at few hlast
      -- It did not end before, as retries were left, nor later, as this fault does not pass.
      obtain rfl : failed.length = k := by
        rcases Nat.lt_trichotomy failed.length k with hless | hsame | hmore
        · have := hlast (hend ▸ hbefore _ hless)
          omega
        · exact hsame
        · exact absurd (hfailed k hmore) hnot
      exact ⟨rfl, congrArg report hend⟩
    · rw [RetryPolicy.retries, if_pos idempotent] at few hlast
      have hpassing := hall _ few
      rw [← hend] at hpassing
      rw [← hlast hpassing, ← hend]
      obtain ⟨text, rfl⟩ := hpassing
      exact ⟨rfl, rfl⟩
    · rw [RetryPolicy.retries, if_neg (by rw [once]; exact Bool.false_ne_true)] at few
      rw [Nat.le_zero.mp few] at hend ⊢
      exact ⟨rfl, congrArg report hend⟩

/-! ## 3. The attempts come to an end -/

/-- A run without end, in which the worker moves again and again if it can. -/
structure Course (others : Workspace → Workspace → Prop) (q : Nat → TaskQueue) (w : Nat → Workspace) :
    Prop where
  step : ∀ n, Occurrence others (q n) (w n) (q (n + 1)) (w (n + 1))
  fair : ∀ n, (∀ m, n ≤ m → ∃ q' w', WorkerMove (q m) (w m) (q m).worker q' w') →
    ∃ m, n ≤ m ∧ WorkerMove (q m) (w m) (q m).worker (q (m + 1)) (w (m + 1))

/-- The worker is in an attempt at the task, or between two of them. -/
inductive Worker.Tries (s : Submission) : Worker → Prop
  | working (failures : Nat) (rest : Work (Except TaskError Outcome)) : Tries s (.working s failures rest)
  | resting (failures : Nat) : Tries s (.resting s failures)

theorem Worker.Tries.mayMove (tries : q.worker.Tries s) (w : Workspace) :
    ∃ q' w', WorkerMove q w q.worker q' w' := by
  generalize q.worker = worker at tries
  cases tries with
  | working failures rest =>
    cases rest with
    | ask c next => exact ⟨_, _, .call⟩
    | done attempted =>
      cases hjudge : judge q.policy s.task.isIdempotent failures 0 attempted with
      | final result => exact ⟨_, _, .conclude 0 hjudge⟩
      | again delay => exact ⟨_, _, .rest 0 hjudge⟩
      | breakdown => exact ⟨_, _, .breakdown 0 hjudge⟩
  | resting failures => exact ⟨_, _, .retry⟩

/-- The worker makes no more attempts at the task: it is certain of the result, or it has ended. -/
inductive Worker.LeftOff (s : Submission) : Worker → Prop
  | settling (result : TaskResult) : LeftOff s (.settling s result)
  | ended : LeftOff s .ended

theorem Worker.Tries.advance (tries : worker.Tries s) (move : WorkerMove q w worker q' w') :
    q'.published = q.published ∧
      (Worker.Advance q.policy worker q'.worker ∧ q'.worker.Tries s ∨ q'.worker.LeftOff s) := by
  cases tries with
  | working failures rest =>
    cases move with
    | call => exact ⟨rfl, .inl ⟨.call _ _ _ _, .working _ _⟩⟩
    | @conclude _ _ attempted result draw hjudge =>
      have hpublished := q.conclude_published s result
      obtain ⟨_, _, hconclude, -⟩ := q.conclude_eq s result
      rw [hconclude] at hpublished ⊢
      exact ⟨hpublished, .inr (.settling result)⟩
    | rest draw hjudge =>
      obtain ⟨hmay, -⟩ := OneByOneLemmas.conclude_of_judge_again hjudge w
      exact ⟨rfl, .inl ⟨.rest _ _ _ hmay, .resting _⟩⟩
    | breakdown => exact ⟨rfl, .inr .ended⟩
  | resting failures =>
    cases move with
    | retry => exact ⟨rfl, .inl ⟨.retry _ _ _, .working _ _⟩⟩

namespace Course

/-- From any queue in any workspace there is such a run: the worker moves whenever it can. -/
theorem exists_from (others : Workspace → Workspace → Prop) (q₀ : TaskQueue) (w₀ : Workspace) :
    ∃ q w, Course others q w ∧ q 0 = q₀ ∧ w 0 = w₀ := by
  have hnext : ∀ now : TaskQueue × Workspace, ∃ later : TaskQueue × Workspace,
      Occurrence others now.1 now.2 later.1 later.2 ∧
        ((∃ q' w', WorkerMove now.1 now.2 now.1.worker q' w') →
          WorkerMove now.1 now.2 now.1.worker later.1 later.2) := by
    rintro ⟨q, w⟩
    by_cases hmove : ∃ q' w', WorkerMove q w q.worker q' w'
    · obtain ⟨q', w', hmove⟩ := hmove
      exact ⟨(q', w'), .event (.move (.worker hmove)), fun _ => hmove⟩
    -- The worker waits, so a caller comes.
    · exact ⟨((q.join .resumeStored).2, w), .join .resumeStored, fun h => absurd h hmove⟩
  choose next hoccurs hmoves using hnext
  have hsucc (n : Nat) : Nat.iterate next (n + 1) (q₀, w₀) = next (Nat.iterate next n (q₀, w₀)) :=
    Function.iterate_succ_apply' next n (q₀, w₀)
  refine ⟨fun n => (Nat.iterate next n (q₀, w₀)).1, fun n => (Nat.iterate next n (q₀, w₀)).2,
    ⟨fun n => ?_, fun n able => ⟨n, Nat.le_refl n, ?_⟩⟩, rfl, rfl⟩
  · rw [hsucc]
    exact hoccurs _
  · rw [hsucc]
    exact hmoves _ (able n (Nat.le_refl n))

variable {qs : Nat → TaskQueue} {ws : Nat → Workspace} {n : Nat}

theorem trial (course : Course others qs ws) (n : Nat) :
    ∃ results, Trial others (qs 0) (ws 0) results (qs n) (ws n) := by
  induction n with
  | zero => exact ⟨[], .start⟩
  | succ n ih =>
    obtain ⟨results, htrial⟩ := ih
    exact ⟨_, htrial.step (course.step n)⟩

/-- As long as the worker does not move, nothing happens to its task. -/
theorem still (course : Course others qs ws) {m : Nat} (hnm : n ≤ m)
    (none : ∀ i, n ≤ i → i < m →
      ¬ WorkerMove (qs i) (ws i) (qs i).worker (qs (i + 1)) (ws (i + 1))) :
    (qs m).worker = (qs n).worker ∧ (qs m).published = (qs n).published ∧
      (qs m).policy = (qs n).policy := by
  induction hnm with
  | refl => exact ⟨rfl, rfl, rfl⟩
  | @step m hnm ih =>
    obtain ⟨hworker, hpublished, hpolicy⟩ := ih fun i hi him => none i hi (Nat.lt_succ_of_lt him)
    obtain ⟨hpolicy', hmove | ⟨hworker', hpublished'⟩⟩ := worker_of_occurrence (course.step m)
    · exact absurd hmove (none m hnm (Nat.lt_succ_self m))
    · exact ⟨hworker'.trans hworker, hpublished'.trans hpublished, hpolicy'.trans hpolicy⟩

/-- A worker that tries a task goes on with it. -/
theorem moves (course : Course others qs ws) (tries : (qs n).worker.Tries s) :
    ∃ m, (qs m).worker = (qs n).worker ∧ (qs m).published = (qs n).published ∧
      (qs m).policy = (qs n).policy ∧
      WorkerMove (qs m) (ws m) (qs m).worker (qs (m + 1)) (ws (m + 1)) := by
  classical
  have hmoves : ∃ m, n ≤ m ∧ WorkerMove (qs m) (ws m) (qs m).worker (qs (m + 1)) (ws (m + 1)) := by
    by_contra hnone
    refine hnone (course.fair n fun m hnm => ?_)
    have hstill := course.still hnm fun i hi _ hmove => hnone ⟨i, hi, hmove⟩
    rw [← hstill.1] at tries
    exact tries.mayMove (ws m)
  obtain ⟨hnm, hmove⟩ := Nat.find_spec hmoves
  obtain ⟨hworker, hpublished, hpolicy⟩ := course.still hnm fun i hi him hmove =>
    Nat.find_min hmoves him ⟨hi, hmove⟩
  exact ⟨Nat.find hmoves, hworker, hpublished, hpolicy, hmove⟩

/-- A worker that tries a task comes to its result, or it ends. -/
theorem leaves_attempts (course : Course others qs ws) (tries : (qs n).worker.Tries s) :
    ∃ m, (qs m).worker.LeftOff s ∧ (qs m).published = (qs n).published := by
  generalize hpolicy : (qs n).policy = policy
  generalize hworker : (qs n).worker = worker at tries
  -- By induction on the way that is left to the worker; each of its moves leads on.
  induction worker using (Worker.advance_wellFounded policy).induction generalizing n with
  | _ worker ih =>
    subst hworker
    obtain ⟨m, hworker, hpublished, hpolicy', hmove⟩ := course.moves tries
    rw [hworker] at hmove
    obtain ⟨hsame, ⟨hadvance, hagain⟩ | hleft⟩ := tries.advance hmove
    · rw [hpolicy', hpolicy] at hadvance
      have hkept := (worker_of_occurrence (course.step m)).1.trans (hpolicy'.trans hpolicy)
      obtain ⟨m', hleft, hpublished'⟩ := ih _ hadvance hkept rfl hagain
      exact ⟨m', hleft, hpublished'.trans (hsame.trans hpublished)⟩
    · exact ⟨m + 1, hleft, hsame.trans hpublished⟩

end Course

/-! ## 4. The loop as a whole -/

/-- The worker ends right after an attempt only where it may break off. -/
theorem exists_move_to_ended_iff {failures : Nat} {text : String}
    (hworker : q.worker = .working s failures (.done (.error (.transient text)))) :
    (∃ q' w', WorkerMove q w q.worker q' w' ∧ q'.worker = .ended) ↔
      BreaksOff q.policy s.task (failures + 1) := by
  rw [← breaksOff_iff text, hworker]
  constructor
  · rintro ⟨q', w', move, hended⟩
    cases move with
    | @conclude _ _ _ result draw hjudge =>
      obtain ⟨_, _, hconclude, -⟩ := q.conclude_eq s result
      rw [hconclude] at hended
      exact nomatch hended
    | rest draw hjudge => exact nomatch hended
    | breakdown draw hjudge => exact ⟨draw, hjudge⟩
  · rintro ⟨draw, hjudge⟩
    exact ⟨_, _, .breakdown draw hjudge, rfl⟩

/-- A worker has begun its first attempt at a task, and fewer than `2 ^ 32 - 1` retries are allowed. As
long as it tells no result, its count of failures is the number of attempts that failed, and there is
room for one more in 32 bits; and when the result is certain, the number of attempts and the result are
what the results of the attempts come to. If the worker is not held up for ever, the result is certain
at some time, or the worker ends without one. After a fault that may pass it may end exactly if another
attempt is allowed and the longest delay before that overflows. -/
theorem retries_are_exact {others : Workspace → Workspace → Prop} {q₀ : TaskQueue} {w₀ : Workspace}
    {s : Submission} (begun : q₀.worker = .working s 0 (s.task.attempt w₀.identity))
    (few : q₀.policy.maxRetries < UInt32.size - 1) :
    (∀ results q w, Trial others q₀ w₀ results q w → q.published = q₀.published →
      (∀ s' failures rest, q.worker = .working s' failures rest →
        failures = results.length ∧ failures + 1 < UInt32.size) ∧
      (∀ s' failures text, q.worker = .working s' failures (.done (.error (.transient text))) →
        ((∃ q' w', WorkerMove q w q.worker q' w' ∧ q'.worker = .ended) ↔
          BreaksOff q₀.policy s.task (failures + 1))) ∧
      (∀ s' result attempted, q.worker = .settling s' result →
        (∀ i (h : i < results.length), results[i] = attempted i) →
        ComesTo q₀.policy s.task attempted results.length result) ∧
      (q.worker = .ended → results ≠ [] ∧ (∀ r ∈ results, MayPass r) ∧
        BreaksOff q₀.policy s.task results.length)) ∧
    ∀ q w, Course others q w → q 0 = q₀ → w 0 = w₀ →
      ∃ n results, Trial others q₀ w₀ results (q n) (w n) ∧ (q n).published = q₀.published ∧
        ((∃ result, (q n).worker = .settling s result) ∨ (q n).worker = .ended) := by
  have start : Tried q₀.policy s [] q₀.worker := by
    rw [begun]
    exact .working _ (fun _ h => absurd h List.not_mem_nil) (Nat.zero_le _)
  have hretries : q₀.policy.retries s.task ≤ q₀.policy.maxRetries := by
    rw [RetryPolicy.retries]
    split
    · exact Nat.le_refl _
    · exact Nat.zero_le _
  refine ⟨fun results q w trial untold => ?_, fun q w course hq hw => ?_⟩
  · have tried := trial.tried start untold
    rw [trial.policy_eq] at tried
    refine ⟨fun s' failures rest hworker => ?_, fun s' failures text hworker => ?_,
      fun s' result attempted hworker follow => ?_, fun hworker => ?_⟩
    · rw [hworker] at tried
      cases tried with
      | working _ _ hfew => exact ⟨rfl, by omega⟩
    · rw [hworker] at tried
      rw [exists_move_to_ended_iff hworker, trial.policy_eq]
      cases tried with
      | working => exact Iff.rfl
    · rw [hworker] at tried
      exact tried.comesTo follow
    · rw [hworker] at tried
      cases tried with
      | ended some passing breaksOff => exact ⟨some, passing, breaksOff⟩
  · subst hq hw
    have tries : (q 0).worker.Tries s := by
      rw [begun]
      exact .working _ _
    obtain ⟨n, hleft, hpublished⟩ := course.leaves_attempts tries
    obtain ⟨results, htrial⟩ := course.trial n
    refine ⟨n, results, htrial, hpublished, ?_⟩
    generalize (q n).worker = worker at hleft
    cases hleft with
    | settling result => exact .inl ⟨result, rfl⟩
    | ended => exact .inr rfl

open Sample

/-- The first two attempts at the vote fail in a way that may pass, and the third one is the last. -/
theorem unsteady_vote_is_tried_thrice : ∃ q₀ results q w,
    Trial Workspace.Hampered q₀ unsteady results q w ∧ results.length = 3 ∧
      q.worker = .settling movingVoteTask (.ok .completed) ∧
      ComesTo q₀.policy movingVoteTask.task (fun i => results.getD i (.ok .completed)) 3
        (.ok .completed) := by
  let q₀ : TaskQueue := { TaskQueue.start 1 {} with
    worker := .working movingVoteTask 0 (movingVoteTask.task.attempt unsteady.identity) }
  have hsteady : q₀.policy.Steady := TaskSettings.policy_steady {}
  have hstart : Trial Workspace.Hampered q₀ unsteady [] q₀ unsteady := .start
  have hfirst := hstart.through rfl rfl
  have hsecond := ((hfirst.step (.event (.move (.rest_of_steady hsteady rfl rfl)))).step
    (.event (.move (.of_worker rfl .retry)))).through rfl rfl
  have hthird := ((hsecond.step (.event (.move (.rest_of_steady hsteady rfl rfl)))).step
    (.event (.move (.of_worker rfl .retry)))).through rfl rfl
  have hend := hthird.step (.event (.move (.of_worker rfl (.conclude 0 rfl))))
  refine ⟨q₀, _, _, _, hend, rfl, rfl, ?_⟩
  exact ((retries_are_exact rfl (by decide)).1 _ _ _ hend rfl).2.2.1 _ _ _ rfl fun _ _ =>
    List.getElem_eq_getD _

namespace Sample

/-- Three retries, as late as can be. -/
def latest : RetryPolicy :=
  ⟨3, .saturate (UInt64.size * nanosPerSecond), .saturate (UInt64.size * nanosPerSecond)⟩

/-- Only the first move of a conversation comes to nothing. -/
def briefly : Workspace :=
  { fresh with services := { interference := [none, some (.unavailable "database")] } }

end Sample

/-- The first attempt at the vote fails in a way that may pass, three retries are allowed, and the next
attempt would succeed. But the delay before it is longer than any duration: the worker ends, though the
queue is running, and the vote has had one attempt and has no result. -/
theorem late_vote_is_given_up : ∃ q₀ results q w,
    q₀.worker = .working movingVoteTask 0 (movingVoteTask.task.attempt briefly.identity) ∧
    q₀.policy = latest ∧ movingVoteTask.task.isIdempotent = true ∧
    Trial Workspace.Hampered q₀ briefly results q w ∧
      results.length = 1 ∧ (∀ r ∈ results, MayPass r) ∧
      ((movingVoteTask.task.attempt w.identity).run w).1 = .ok .completed ∧
      q.worker = .ended ∧ q.status = .running ∧ q.published = [] ∧
      (∀ q' w', ¬ WorkerMove q w q.worker q' w') ∧
      ∀ result, ¬ ComesTo q₀.policy movingVoteTask.task
        (fun i => results.getD i (.ok .completed)) results.length result := by
  let q₀ : TaskQueue := { TaskQueue.start 1 latest with
    worker := .working movingVoteTask 0 (movingVoteTask.task.attempt briefly.identity) }
  have hstart : Trial Workspace.Hampered q₀ briefly [] q₀ briefly := .start
  have hfirst := hstart.through rfl rfl
  have hbreaksOff : BreaksOff latest movingVoteTask.task 1 := ⟨rfl, by decide, by decide⟩
  obtain ⟨draw, hjudge⟩ := (breaksOff_iff "database").mpr hbreaksOff
  have hend := hfirst.step (.event (.move (.of_worker rfl (.breakdown draw hjudge))))
  refine ⟨q₀, _, _, _, rfl, rfl, rfl, hend, rfl, ?_, rfl, rfl, rfl, rfl, fun _ _ => nofun,
    fun result comesTo => ?_⟩
  · intro r hr
    exact ⟨_, List.mem_singleton.mp hr⟩
  · refine absurd (comesTo.decided rfl 1 (by decide) (fun i hi => ?_) nofun).1 (by decide)
    obtain rfl := Nat.lt_one_iff.mp hi
    exact ⟨_, rfl⟩

end DeviceSync
