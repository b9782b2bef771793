import DeviceSync.Proofs.Queue.Execution
import Mathlib.Data.List.Induction

/-!
# The order of tasks

A chronicle lists what is noticed about a queue, in order: submissions that enter, tasks that start,
statuses that are announced, results that are told, replies to callers. It is read off the states of
the queue (`noted`), and between two steps the workspace may become any other, so that a task may
result in anything.

1. `Incident`, `noted`, `Chronicle`, and `Sequential`, which is what the order of tasks is meant to be.
2. `Lawful`: what must have happened before an incident, and what follows from that for any log.
3. `Agrees`: the invariant that ties a log to the state of the queue. Each kind of incident keeps it
   (`Agrees.enter`, `Agrees.start`, `Agrees.announce`, `Agrees.publish`, `Agrees.reply`).
4. Whatever happens is one of these incidents, two of them, or none (`Agrees.occurrence`), so that every
   chronicle is sequential (`chronicle_sequential`).
-/

namespace DeviceSync

namespace TaskQueue

/-! ## 1. Chronicles -/

/-- Something that is noticed about a queue. -/
inductive Incident
  | entered (s : Submission)
  | started (s : Submission)
  | turned (status : QueueStatus)
  | published (c : Completion)
  | replied (ticket : Nat) (reply : Reply)

/-- A task starts when the worker that held it goes to work. -/
def begun : Worker → Worker → List Incident
  | .holding s, .working _ _ _ => [.started s]
  | _, _ => []

/-- What is noticed when the queue becomes another one. -/
def noted (q q' : TaskQueue) : List Incident :=
  (q'.waiting.drop q.waiting.length).map .entered ++ begun q.worker q'.worker ++
  (if q'.announcements = q.announcements then [] else [.turned q'.status]) ++
  (q'.published.drop q.published.length).map .published ++
  (q'.replies.drop q.replies.length).map fun reply => .replied reply.1 reply.2

/-- What was noticed from the start of a queue up to this state. -/
inductive Chronicle (capacity : Nat) (policy : RetryPolicy) :
    List Incident → TaskQueue → Workspace → Prop
  | start (w : Workspace) : Chronicle capacity policy [] (.start capacity policy) w
  | step {log : List Incident} {q q' : TaskQueue} {w w' : Workspace} :
      Chronicle capacity policy log q w → Occurrence (fun _ _ => True) q w q' w' →
      Chronicle capacity policy (log ++ noted q q') q' w'

namespace Incident

@[simp] def entered? : Incident → Option Submission
  | entered s => some s
  | _ => none

@[simp] def started? : Incident → Option Submission
  | started s => some s
  | _ => none

@[simp] def published? : Incident → Option Completion
  | published c => some c
  | _ => none

@[simp] def turned? : Incident → Option QueueStatus
  | turned status => some status
  | _ => none

end Incident

def enteredIn (log : List Incident) : List Submission := log.filterMap Incident.entered?

def startedIn (log : List Incident) : List Submission := log.filterMap Incident.started?

def publishedIn (log : List Incident) : List Completion := log.filterMap Incident.published?

/-- The status that was announced last. -/
def statusAfter (log : List Incident) : QueueStatus :=
  ((log.filterMap Incident.turned?).getLast?).getD .running

end TaskQueue

/-- By what the result of a task is told. -/
def Submission.label (s : Submission) : TaskId × Nat × String := (s.id, s.sequence, s.task.describe)

def Completion.label (c : Completion) : TaskId × Nat × String := (c.id, c.sequence, c.description)

namespace TaskQueue

/-- The queue stopped running, and nothing was started since. -/
def LeftRunning (log : List Incident) : Prop :=
  ∃ before status since, log = before ++ .turned status :: since ∧ status ≠ .running ∧
    ∀ s, .started s ∉ since

/-- The order of tasks. -/
structure Sequential (log : List Incident) : Prop where
  /-- Submissions have the numbers 0, 1, 2 and so on, in the order in which they enter. -/
  entered : (enteredIn log).map (·.sequence) = List.range (enteredIn log).length
  /-- A caller who is told a number has just put in the submission with this number. -/
  replied : ∀ before ticket n after, log = before ++ .replied ticket (.queued n) :: after →
    ∃ earlier s, before = earlier ++ [.entered s] ∧ s.sequence = n
  /-- Tasks start in the order in which they entered, none is passed by and none starts twice. -/
  started : startedIn log <+: enteredIn log
  /-- Results are told in the order in which the tasks started. -/
  published : (publishedIn log).map Completion.label <+: (startedIn log).map Submission.label
  /-- No task starts before the result of the last one is told. -/
  alone : (startedIn log).length ≤ (publishedIn log).length + 1
  /-- The tasks whose results are told have the numbers 0, 1, 2 and so on. -/
  numbered : (publishedIn log).map (·.sequence) = List.range (publishedIn log).length
  /-- Tasks start while the queue is running. -/
  running : ∀ before s after, log = before ++ .started s :: after → statusAfter before = .running
  /-- Before a fault is told the queue stops running, and no other task starts before it is resumed. -/
  failed : ∀ before c err after, log = before ++ .published c :: after → c.result = .error err →
    ∃ earlier status since, before = earlier ++ .turned status :: since ∧ status ≠ .running ∧
      (∀ s, .started s ∉ since) ∧
      ∀ later s rest, after = later ++ .started s :: rest → .turned .running ∈ since ++ later
  /-- The queue is running again only after it was halted. -/
  resumed : ∀ before after, log = before ++ .turned .running :: after →
    (statusAfter before).isHalted = true
  /-- Once the queue is stopped, its status does not change and no task starts. -/
  stopped : ∀ before after, log = before ++ .turned .stopped :: after →
    (∀ status, .turned status ∈ after → status = .stopped) ∧ ∀ s, .started s ∉ after

namespace ChronicleLemmas

variable {log before after : List Incident} {i : Incident} {q q' : TaskQueue} {w w' : Workspace}

/-! ## 2. Lawful chronicles -/

@[simp] theorem enteredIn_snoc (log : List Incident) (i : Incident) :
    enteredIn (log ++ [i]) = enteredIn log ++ i.entered?.toList := by
  cases i <;> simp [enteredIn]

@[simp] theorem startedIn_snoc (log : List Incident) (i : Incident) :
    startedIn (log ++ [i]) = startedIn log ++ i.started?.toList := by
  cases i <;> simp [startedIn]

@[simp] theorem publishedIn_snoc (log : List Incident) (i : Incident) :
    publishedIn (log ++ [i]) = publishedIn log ++ i.published?.toList := by
  cases i <;> simp [publishedIn]

@[simp] theorem statusAfter_snoc (log : List Incident) (i : Incident) :
    statusAfter (log ++ [i]) = i.turned?.getD (statusAfter log) := by
  cases i <;> simp [statusAfter]

/-- A stopped queue stays stopped, and only a halted one is resumed. -/
structure MayTurn (status status' : QueueStatus) : Prop where
  stopped : status = .stopped → status' = .stopped
  resumed : status' = .running → status.isHalted = true

/-- What must have happened before an incident. -/
def Follows (past : List Incident) : Incident → Prop
  | .started _ => statusAfter past = .running
  | .turned status => MayTurn (statusAfter past) status
  | .published c => ∀ err, c.result = .error err → LeftRunning past
  | .replied _ (.queued n) => ∃ earlier s, past = earlier ++ [.entered s] ∧ s.sequence = n
  | _ => True

/-- Every incident follows what was before it. -/
def Lawful (log : List Incident) : Prop :=
  ∀ past i later, log = past ++ i :: later → Follows past i

theorem Lawful.snoc (lawful : Lawful log) (follows : Follows log i) : Lawful (log ++ [i]) := by
  intro past j later hsplit
  rcases List.eq_nil_or_concat later with rfl | ⟨later, k, rfl⟩
  · obtain ⟨rfl, hlast⟩ := List.append_inj' hsplit rfl
    obtain rfl := List.singleton_inj.mp hlast
    exact follows
  · rw [List.concat_eq_append, ← List.cons_append, ← List.append_assoc] at hsplit
    obtain ⟨hlog, -⟩ := List.append_inj' hsplit rfl
    exact lawful past j later hlog

theorem Lawful.of_append {later : List Incident} (lawful : Lawful (log ++ later)) : Lawful log := by
  intro past i rest hsplit
  refine lawful past i (rest ++ later) ?_
  rw [hsplit, List.append_assoc, List.cons_append]

theorem LeftRunning.snoc (left : LeftRunning log) (h : ∀ s, i ≠ .started s) :
    LeftRunning (log ++ [i]) := by
  obtain ⟨before, status, since, rfl, hstatus, hsince⟩ := left
  refine ⟨before, status, since ++ [i], by simp, hstatus, fun s hs => ?_⟩
  rcases List.mem_append.mp hs with hs | hs
  · exact hsince s hs
  · exact h s (List.mem_singleton.mp hs).symm

theorem leftRunning_of_turned {status : QueueStatus} (h : status ≠ .running) (log : List Incident) :
    LeftRunning (log ++ [.turned status]) :=
  ⟨log, status, [], rfl, h, fun _ => List.not_mem_nil⟩

/-- A status was there before, or it was announced. -/
theorem turned_of_statusAfter {since : List Incident} {status : QueueStatus}
    (h : statusAfter (before ++ since) = status) :
    statusAfter before = status ∨ .turned status ∈ since := by
  induction since using List.reverseRecOn with
  | nil => exact .inl (by rwa [List.append_nil] at h)
  | append_singleton since i ih =>
    rw [← List.append_assoc, statusAfter_snoc] at h
    cases i with
    | turned status' =>
      obtain rfl : status' = status := h
      exact .inr (List.mem_append_right _ (List.mem_singleton.mpr rfl))
    | entered | started | published | replied => exact (ih h).imp id (List.mem_append_left _)

/-- After a stop the queue stays stopped. -/
theorem Lawful.stopped_after (lawful : Lawful (before ++ .turned .stopped :: after)) :
    statusAfter (before ++ .turned .stopped :: after) = .stopped := by
  induction after using List.reverseRecOn with
  | nil => exact statusAfter_snoc before (.turned .stopped)
  | append_singleton after i ih =>
    have hsplit : before ++ .turned .stopped :: (after ++ [i]) =
        before ++ .turned .stopped :: after ++ [i] := by simp
    rw [hsplit] at lawful ⊢
    have hstopped := ih lawful.of_append
    rw [statusAfter_snoc]
    cases i with
    | turned status => exact (lawful _ _ [] rfl).stopped hstopped
    | entered | started | published | replied => exact hstopped

theorem Lawful.stopped (lawful : Lawful log) (hsplit : log = before ++ .turned .stopped :: after) :
    (∀ status, .turned status ∈ after → status = .stopped) ∧ ∀ s, .started s ∉ after := by
  -- Up to any later incident the queue stays stopped.
  have hlater : ∀ past i later, after = past ++ i :: later →
      Follows (before ++ .turned .stopped :: past) i ∧
        statusAfter (before ++ .turned .stopped :: past) = .stopped := by
    rintro past i later rfl
    have hlog : log = before ++ .turned .stopped :: past ++ i :: later := by simp [hsplit]
    refine ⟨lawful _ i later hlog, Lawful.stopped_after ?_⟩
    rw [hlog] at lawful
    exact lawful.of_append
  constructor
  · intro status hmem
    obtain ⟨past, later, hafter⟩ := List.append_of_mem hmem
    obtain ⟨hfollows, hstopped⟩ := hlater past _ later hafter
    exact hfollows.stopped hstopped
  · intro s hmem
    obtain ⟨past, later, hafter⟩ := List.append_of_mem hmem
    obtain ⟨hrunning, hstopped⟩ := hlater past _ later hafter
    exact nomatch hrunning.symm.trans hstopped

/-- After a fault was told, nothing starts before the queue is resumed. -/
theorem Lawful.failed (lawful : Lawful log) {c : Completion} {err : TaskError}
    (hsplit : log = before ++ .published c :: after) (herr : c.result = .error err) :
    ∃ earlier status since, before = earlier ++ .turned status :: since ∧ status ≠ .running ∧
      (∀ s, .started s ∉ since) ∧
      ∀ later s rest, after = later ++ .started s :: rest → .turned .running ∈ since ++ later := by
  obtain ⟨earlier, status, since, rfl, hstatus, hsince⟩ := lawful before _ after hsplit err herr
  refine ⟨earlier, status, since, rfl, hstatus, hsince, ?_⟩
  rintro later s rest rfl
  have hrunning : statusAfter (earlier ++ [.turned status] ++ (since ++ .published c :: later)) =
      .running := lawful _ (.started s) rest (by simp [hsplit])
  rcases turned_of_statusAfter hrunning with hbefore | hresumed
  · rw [statusAfter_snoc] at hbefore
    exact absurd hbefore hstatus
  · simpa using hresumed

theorem alone_of_told {worker : List Submission}
    (told : (startedIn log).map Submission.label =
      (publishedIn log).map Completion.label ++ worker.map Submission.label)
    (single : worker.length ≤ 1) : (startedIn log).length ≤ (publishedIn log).length + 1 := by
  have hlength := congrArg List.length told
  simp only [List.length_map, List.length_append] at hlength
  omega

/-- A prefix of what started has the first numbers. -/
theorem numbered_of_prefix
    (entered : (enteredIn log).map (·.sequence) = List.range (enteredIn log).length)
    (started : startedIn log <+: enteredIn log)
    (published : (publishedIn log).map Completion.label <+: (startedIn log).map Submission.label) :
    (publishedIn log).map (·.sequence) = List.range (publishedIn log).length := by
  have hnumbers : (publishedIn log).map (·.sequence) <+: (startedIn log).map (·.sequence) := by
    simpa [Function.comp_def, Completion.label, Submission.label] using published.map (·.2.1)
  have hrange := hnumbers.trans (started.map _)
  rw [entered] at hrange
  have hle : (publishedIn log).length ≤ (enteredIn log).length := by
    simpa using hrange.length_le
  rw [List.prefix_iff_eq_take.mp hrange, List.length_map, List.take_range, Nat.min_eq_left hle]

/-! ## 3. The invariant -/

/-- A task that the worker holds and did not start. -/
def held : Worker → List Submission
  | .holding s => [s]
  | _ => []

/-- A task that was started and whose result was not told. -/
def underway : Worker → List Submission
  | .working s _ _ | .resting s _ | .settling s _ | .publishing s _ => [s]
  | _ => []

theorem underway_of_hasEnded {worker : Worker} (ended : worker.hasEnded = true) :
    underway worker = [] := by
  cases worker with
  | ended => rfl
  | idle | holding | working | resting | settling | publishing => cases ended

/-- The results of the tasks that were started were told, but for one task at most: the one that is
under way, or the one at which the worker ended. -/
def Told (log : List Incident) (worker : Worker) : Prop :=
  ∃ untold : List Submission, untold.length ≤ 1 ∧
    (startedIn log).map Submission.label =
      (publishedIn log).map Completion.label ++ untold.map Submission.label ∧
    (worker.hasEnded = false → untold = underway worker)

/-- The task that is under way has failed. -/
def hasFailed : Worker → Prop
  | .settling _ result | .publishing _ result => ∃ err, result = .error err
  | _ => False

/-- The chronicle leads to this state of the queue. -/
structure Agrees (log : List Incident) (q : TaskQueue) : Prop where
  lawful : Lawful log
  status : statusAfter log = q.status
  results : publishedIn log = q.published
  numbers : (enteredIn log).map (·.sequence) = List.range q.next
  started : startedIn log <+: enteredIn log
  waiting : q.worker.hasEnded = false → enteredIn log = startedIn log ++ (held q.worker ++ q.waiting)
  told : Told log q.worker
  failed : hasFailed q.worker → LeftRunning log
  interrupted : underway q.worker ≠ [] → q.status ≠ .running → LeftRunning log

/-- What callers and the worker do among themselves. -/
theorem Agrees.same (h : Agrees log q) (status : q'.status = q.status)
    (published : q'.published = q.published) (next : q'.next = q.next)
    (ended : q'.worker.hasEnded = false →
      q.worker.hasEnded = false ∧ held q'.worker ++ q'.waiting = held q.worker ++ q.waiting)
    (sameTask : q'.worker.hasEnded = true ∨ underway q'.worker = underway q.worker)
    (failed : hasFailed q'.worker → hasFailed q.worker ∨ LeftRunning log) : Agrees log q' where
  lawful := h.lawful
  status := h.status.trans status.symm
  results := h.results.trans published.symm
  numbers := next ▸ h.numbers
  started := h.started
  waiting hended := by
    obtain ⟨hbefore, hwaiting⟩ := ended hended
    rw [hwaiting]
    exact h.waiting hbefore
  told := by
    obtain ⟨untold, hsingle, htold, huntold⟩ := h.told
    refine ⟨untold, hsingle, htold, fun hgoing => ?_⟩
    rcases sameTask with hended | hsame
    · exact absurd (hgoing.symm.trans hended) Bool.false_ne_true
    · rw [hsame]
      exact huntold (ended hgoing).1
  failed hfailed := (failed hfailed).elim h.failed id
  interrupted htask hstatus := by
    rcases sameTask with hended | hsame
    · exact absurd (underway_of_hasEnded hended) htask
    · exact h.interrupted (hsame ▸ htask) (status ▸ hstatus)

/-- A caller is told something. -/
theorem Agrees.reply (h : Agrees log q) {ticket : Nat} {reply : Reply}
    (follows : Follows log (.replied ticket reply)) : Agrees (log ++ [.replied ticket reply]) q where
  lawful := h.lawful.snoc follows
  status := by simpa using h.status
  results := by simpa using h.results
  numbers := by simpa using h.numbers
  started := by simpa using h.started
  waiting := by simpa using h.waiting
  told := by simpa [Told] using h.told
  failed hfailed := LeftRunning.snoc (h.failed hfailed) fun _ => nofun
  interrupted htask hstatus := LeftRunning.snoc (h.interrupted htask hstatus) fun _ => nofun

/-- A submission enters. -/
theorem Agrees.enter (h : Agrees log q) (e : Entry) (going : q.worker.hasEnded = false) :
    Agrees (log ++ [.entered ⟨e, q.next⟩]) (q.enqueue e) where
  lawful := h.lawful.snoc trivial
  status := by simpa [enqueue] using h.status
  results := by simpa [enqueue] using h.results
  numbers := by simp [h.numbers, enqueue, List.range_succ]
  started := by
    rw [enteredIn_snoc, startedIn_snoc]
    simpa using h.started.trans (List.prefix_append _ _)
  waiting _ := by simp [h.waiting going, enqueue]
  told := by simpa [Told, enqueue] using h.told
  failed hfailed := LeftRunning.snoc (h.failed hfailed) fun _ => nofun
  interrupted htask hstatus := LeftRunning.snoc (h.interrupted htask hstatus) fun _ => nofun

/-- The worker starts on the task that it holds. -/
theorem Agrees.start (h : Agrees log q) {s : Submission} {rest : Work (Except TaskError Outcome)}
    (holds : q.worker = .holding s) (running : q.status = .running) :
    Agrees (log ++ [.started s]) { q with worker := .working s 0 rest } := by
  have hgoing : q.worker.hasEnded = false := by rw [holds]; rfl
  have hwaiting := h.waiting hgoing
  obtain ⟨untold, -, htold, huntold⟩ := h.told
  obtain rfl : untold = [] := (huntold hgoing).trans (by rw [holds]; rfl)
  rw [holds] at hwaiting
  exact {
    lawful := h.lawful.snoc (h.status.trans running)
    status := by simpa using h.status
    results := by simpa using h.results
    numbers := by simpa using h.numbers
    started := by simp [hwaiting, held]
    waiting := fun _ => by simp [hwaiting, held]
    told := ⟨[s], Nat.le_refl 1, by simp [htold], fun _ => rfl⟩
    failed := nofun
    interrupted := fun _ hstatus => absurd running hstatus }

/-- A status is announced. -/
theorem Agrees.announce (h : Agrees log q) {status : QueueStatus} (allowed : MayTurn q.status status) :
    Agrees (log ++ [.turned status]) (q.announce status) where
  lawful := by
    rw [← h.status] at allowed
    exact h.lawful.snoc allowed
  status := by simp [TaskQueue.announce]
  results := by simpa [TaskQueue.announce] using h.results
  numbers := by simpa [TaskQueue.announce] using h.numbers
  started := by simpa using h.started
  waiting := by simpa [TaskQueue.announce] using h.waiting
  told := by simpa [Told, TaskQueue.announce] using h.told
  failed hfailed := LeftRunning.snoc (h.failed hfailed) fun _ => nofun
  interrupted _ hstatus := leftRunning_of_turned hstatus log

/-- The worker tells the result of the task that it has done. -/
theorem Agrees.publish (h : Agrees log q) {s : Submission} {result : TaskResult}
    (tells : q.worker = .publishing s result) :
    Agrees (log ++ [.published ⟨s.id, s.sequence, s.task.describe, result⟩])
      { q with
        worker := .idle
        published := q.published ++ [⟨s.id, s.sequence, s.task.describe, result⟩] } := by
  have hgoing : q.worker.hasEnded = false := by rw [tells]; rfl
  have hwaiting := h.waiting hgoing
  obtain ⟨untold, -, htold, huntold⟩ := h.told
  obtain rfl : untold = [s] := (huntold hgoing).trans (by rw [tells]; rfl)
  have hfailed := h.failed
  rw [tells] at hwaiting hfailed
  exact {
    lawful := h.lawful.snoc fun err herr => hfailed ⟨err, herr⟩
    status := by simpa using h.status
    results := by simpa using h.results
    numbers := by simpa using h.numbers
    started := by simpa using h.started
    waiting := fun _ => by simpa [held] using hwaiting
    told := by
      refine ⟨[], Nat.zero_le 1, ?_, fun _ => rfl⟩
      simpa [Submission.label, Completion.label] using htold
    failed := nofun
    interrupted := fun htask => absurd rfl htask }

/-! ## 4. What can happen -/

@[simp] theorem begun_self (worker : Worker) : begun worker worker = [] := by
  cases worker <;> rfl

/-- Only the line, the tickets and the workspace change. -/
theorem Agrees.elsewhere (h : Agrees log q) (line : List Caller) (nextTicket : Nat) :
    Agrees (log ++ noted q { q with line, nextTicket }) { q with line, nextTicket } := by
  have hnothing : noted q { q with line, nextTicket } = [] := by simp [noted]
  rw [hnothing, List.append_nil]
  exact h.same rfl rfl rfl (fun hended => ⟨hended, rfl⟩) (.inr rfl) .inl

/-- The first caller leaves with a reply that gives no number. -/
theorem Agrees.dismiss (h : Agrees log q) {ticket : Nat} {reply : Reply}
    (noNumber : ∀ n, reply ≠ .queued n) :
    Agrees (log ++ noted q (q.dismiss ticket reply)) (q.dismiss ticket reply) := by
  have hnoted : noted q (q.dismiss ticket reply) = [.replied ticket reply] := by
    simp [noted, TaskQueue.dismiss]
  rw [hnoted]
  have hfollows : Follows log (.replied ticket reply) := by
    cases reply with
    | queued n => exact absurd rfl (noNumber n)
    | resumed | refused => trivial
  exact (h.reply hfollows).same rfl rfl rfl (fun hended => ⟨hended, rfl⟩) (.inr rfl) .inl

/-- The last entry is placed, and the caller is told so. -/
theorem Agrees.placeLast (h : Agrees log q) {ticket : Nat} (e : Entry) (resumed : Option Nat)
    (going : q.worker.hasEnded = false) :
    Agrees (log ++ noted q ((q.enqueue e).dismiss ticket (resumed.elim (.queued q.next) .resumed)))
      ((q.enqueue e).dismiss ticket (resumed.elim (.queued q.next) .resumed)) := by
  have hnoted : noted q ((q.enqueue e).dismiss ticket (resumed.elim (.queued q.next) .resumed)) =
      [.entered ⟨e, q.next⟩] ++ [.replied ticket (resumed.elim (.queued q.next) .resumed)] := by
    simp [noted, TaskQueue.dismiss, enqueue]
  rw [hnoted, ← List.append_assoc]
  have hfollows : Follows (log ++ [.entered ⟨e, q.next⟩])
      (.replied ticket (resumed.elim (.queued q.next) .resumed)) := by
    cases resumed with
    | none => exact ⟨log, ⟨e, q.next⟩, rfl, rfl⟩
    | some count => trivial
  exact ((h.enter e going).reply hfollows).same rfl rfl rfl (fun hended => ⟨hended, rfl⟩) (.inr rfl) .inl

theorem Agrees.caller {line : List Caller} (h : Agrees log q) (move : CallerMove q w line q' w') :
    Agrees (log ++ noted q q') q' := by
  cases move with
  | refuse | failToSave | loadNothing | failToLoad | turnAway => exact h.dismiss fun _ => nofun
  | takeIn | save | load => exact h.elsewhere _ _
  | @place ticket e e' left resumed others going room =>
    have hnoted : noted q ((q.enqueue e).letIn ticket (e' :: left) resumed) =
        [.entered ⟨e, q.next⟩] := by
      simp [noted, letIn, enqueue]
    rw [hnoted]
    exact (h.enter e going).same rfl rfl rfl (fun hended => ⟨hended, rfl⟩) (.inr rfl) .inl
  | @placeLast _ e resumed _ going room => exact h.placeLast e resumed going

/-- The worker goes on with what it has in hand. -/
theorem Agrees.goOn {before worker : Worker} (h : Agrees log q) (hworker : q.worker = before)
    (hheld : held worker = held before) (hunderway : underway worker = underway before)
    (hgoing : before.hasEnded = false) (hfailed : hasFailed worker → hasFailed before ∨ LeftRunning log)
    (hbegun : begun before worker = []) :
    Agrees (log ++ noted q { q with worker }) { q with worker } := by
  subst hworker
  have hnothing : noted q { q with worker } = [] := by simp [noted, hbegun]
  rw [hnothing, List.append_nil]
  exact h.same rfl rfl rfl (fun _ => ⟨hgoing, by rw [hheld]⟩) (.inr hunderway) hfailed

/-- A failed task halts the queue, unless it is halted or stopped already. -/
theorem Agrees.conclude (h : Agrees log q) {s : Submission} {failures : Nat}
    {attempted : Except TaskError Outcome} (hworker : q.worker = .working s failures (.done attempted))
    (result : TaskResult) : Agrees (log ++ noted q (q.conclude s result)) (q.conclude s result) := by
  cases result with
  | ok outcome => exact h.goOn hworker rfl rfl rfl nofun rfl
  | error err =>
    by_cases hrunning : q.status = .running
    · have hconclude : q.conclude s (.error err) =
          { q.announce (.halted err.toText) with worker := .settling s (.error err) } := by
        rw [TaskQueue.conclude, halt, if_pos hrunning]
      have hnoted : noted q (q.conclude s (.error err)) = [.turned (.halted err.toText)] := by
        rw [hconclude]
        simp [noted, TaskQueue.announce, hworker, begun]
      rw [hnoted, hconclude]
      have hleft : LeftRunning (log ++ [.turned (.halted err.toText)]) :=
        leftRunning_of_turned QueueStatus.noConfusion log
      have hannounced : Agrees _ (q.announce (.halted err.toText)) :=
        h.announce ⟨fun hstopped => QueueStatus.noConfusion (hrunning.symm.trans hstopped),
          QueueStatus.noConfusion⟩
      have hbefore : (q.announce (.halted err.toText)).worker = .working s failures (.done attempted) :=
        hworker
      refine hannounced.same rfl rfl rfl (fun _ => ?_) ?_ fun _ => .inr hleft
      · rw [hbefore]
        exact ⟨rfl, rfl⟩
      · rw [hbefore]
        exact .inr rfl
    · have hconclude : q.conclude s (.error err) =
          { q with worker := .settling s (.error err) } := by
        rw [TaskQueue.conclude, halt, if_neg hrunning]
      rw [hconclude]
      refine h.goOn hworker rfl rfl rfl (fun _ => .inr (h.interrupted ?_ hrunning)) rfl
      rw [hworker]
      exact List.cons_ne_nil _ _

/-- The worker ends; what it has in hand or what waits is dropped. -/
theorem Agrees.endWorker (h : Agrees log q) (inHand : List Nat) :
    Agrees (log ++ noted q (q.endWorker inHand)) (q.endWorker inHand) := by
  have hbegun : begun q.worker .ended = [] := by
    cases q.worker <;> rfl
  have hnothing : noted q (q.endWorker inHand) = [] := by
    simp [noted, TaskQueue.endWorker, hbegun]
  rw [hnothing, List.append_nil]
  exact h.same rfl rfl rfl nofun (.inl rfl) nofun

theorem Agrees.workerMove {worker : Worker} (h : Agrees log q) (hworker : q.worker = worker)
    (move : WorkerMove q w worker q' w') : Agrees (log ++ noted q q') q' := by
  cases move with
  | @take s waiting hwaiting hstatus =>
    have hnothing : noted q { q with worker := .holding s, waiting := waiting } = [] := by
      simp [noted, hworker, hwaiting, begun]
    rw [hnothing, List.append_nil]
    refine h.same rfl rfl rfl (fun _ => ?_) (.inr (by rw [hworker]; rfl)) nofun
    rw [hworker, hwaiting]
    exact ⟨rfl, rfl⟩
  | @start s hrunning =>
    have hnoted : noted q { q with worker := .working s 0 (s.task.attempt w.identity) } =
        [.started s] := by
      simp [noted, hworker, begun]
    rw [hnoted]
    exact h.start hworker hrunning
  | call | rest | retry => exact h.goOn hworker rfl rfl rfl nofun rfl
  | conclude draw hjudge => exact h.conclude hworker _
  | @settle s result => exact h.goOn hworker rfl rfl rfl .inl rfl
  | @publish s result =>
    have hnoted : noted q { q with
        worker := .idle
        published := q.published ++ [⟨s.id, s.sequence, s.task.describe, result⟩] } =
        [.published ⟨s.id, s.sequence, s.task.describe, result⟩] := by
      simp [noted, hworker, begun]
    rw [hnoted]
    exact h.publish hworker
  | breakdown | finish | finishHolding => exact h.endWorker _

/-- A step: whatever happens, the chronicle goes on to agree with the queue. -/
theorem Agrees.occurrence {others : Workspace → Workspace → Prop} (h : Agrees log q)
    (occurrence : Occurrence others q w q' w') : Agrees (log ++ noted q q') q' := by
  have hannounce : ∀ status, MayTurn q.status status →
      Agrees (log ++ noted q (q.announce status)) (q.announce status) := by
    intro status hallowed
    have hnoted : noted q (q.announce status) = [.turned status] := by
      simp [noted, TaskQueue.announce]
    rw [hnoted]
    exact h.announce hallowed
  cases occurrence with
  | event event =>
    cases event with
    | move move =>
      cases move with
      | caller move => exact h.caller move
      | worker move => exact h.workerMove rfl move
    | withdraw ticket => exact h.elsewhere _ _
    | resume =>
      unfold resume
      split
      · rename_i hhalted
        refine hannounce .running ⟨fun hstopped => ?_, fun _ => hhalted⟩
        rw [hstopped] at hhalted
        exact absurd hhalted Bool.false_ne_true
      · exact h.elsewhere q.line q.nextTicket
    | stop => exact hannounce .stopped ⟨fun _ => rfl, QueueStatus.noConfusion⟩
  | join request => exact h.elsewhere _ _
  | meanwhile _ => exact h.elsewhere q.line q.nextTicket

/-- A run. -/
theorem agrees_of_chronicle {capacity : Nat} {policy : RetryPolicy}
    (chronicle : Chronicle capacity policy log q w) : Agrees log q := by
  induction chronicle with
  | start w =>
    refine ⟨?_, rfl, rfl, rfl, List.prefix_rfl, fun _ => rfl, ⟨[], Nat.zero_le 1, rfl, fun _ => rfl⟩,
      nofun, fun htask => absurd rfl htask⟩
    intro past i later hlog
    exact absurd hlog.symm (by simp)
  | step _ hoccurrence ih => exact ih.occurrence hoccurrence

end ChronicleLemmas

open ChronicleLemmas

/-- Tasks are carried out one after another, in the order in which they entered the queue, whatever
callers do and however the tasks end. The status and the results are those of the queue. -/
theorem chronicle_sequential {log : List Incident} {q : TaskQueue} {w : Workspace} {capacity : Nat}
    {policy : RetryPolicy} (chronicle : Chronicle capacity policy log q w) :
    Sequential log ∧ q.status = statusAfter log ∧ q.published = publishedIn log := by
  have h := agrees_of_chronicle chronicle
  have hcount : (enteredIn log).length = q.next := by simpa using congrArg List.length h.numbers
  obtain ⟨untold, hsingle, htold, -⟩ := h.told
  have hpublished : (publishedIn log).map Completion.label <+: (startedIn log).map Submission.label :=
    ⟨_, htold.symm⟩
  refine ⟨?_, h.status.symm, h.results.symm⟩
  exact {
    entered := by rw [hcount, h.numbers]
    replied := fun before ticket n after hsplit => h.lawful before _ after hsplit
    started := h.started
    published := hpublished
    alone := alone_of_told htold hsingle
    numbered := numbered_of_prefix (hcount ▸ h.numbers) h.started hpublished
    running := fun before s after hsplit => h.lawful before _ after hsplit
    failed := fun before c err after hsplit herr => h.lawful.failed hsplit herr
    resumed := fun before after hsplit => (h.lawful before _ after hsplit).resumed rfl
    stopped := fun before after hsplit => h.lawful.stopped hsplit }

end TaskQueue

open TaskQueue

namespace Sample

/-- The answer to a call of the owner. -/
def pickUp (call : UInt32) : Task := .answerCall owner ⟨call, .accept, .plain⟩

/-- A workspace whose next send fails. -/
def muted : Workspace := { fresh with connection := { failingSends := 1 } }

end Sample

open Sample

/-- Two calls are answered. The first answer cannot be sent, which halts the queue; the second one is
taken at once and is started when the queue is resumed. -/
theorem failed_answer_halts_the_queue : ∃ log q w,
    Chronicle 2 .never log q w ∧ Sequential log ∧ q.status = .running ∧
    (publishedIn log).map (·.result) = [.error (.ofTransport (.sendFailed "injected failure"))] ∧
    startedIn log = [⟨⟨taskName, pickUp 1, false⟩, 0⟩, ⟨⟨taskName, pickUp 2, false⟩, 1⟩] := by
  have hstart : Chronicle 2 .never [] (.start 2 .never) muted := .start muted
  have hfirst := ((hstart.step (.join (.submit (pickUp 1)))).step
    (.event (.move (.of_line rfl (.takeIn taskName nofun rfl))))).step
    (.event (.move (.of_line rfl (.placeLast rfl Nat.two_pos))))
  have hsecond := ((hfirst.step (.join (.submit (pickUp 2)))).step
    (.event (.move (.of_line rfl (.takeIn taskName nofun rfl))))).step
    (.event (.move (.of_line rfl (.placeLast rfl Nat.one_lt_two))))
  have hstarted := (hsecond.step (.event (.move (.of_worker rfl (.take rfl nofun))))).step
    (.event (.move (.of_worker rfl (.start rfl))))
  -- The answer is named and on its way, but does not arrive.
  have hcalled := (((hstarted.step (.event (.move (.of_worker rfl .call)))).step
    (.event (.move (.of_worker rfl .call)))).step (.event (.move (.of_worker rfl .call)))).step
    (.event (.move (.of_worker rfl .call)))
  have hhalted := ((hcalled.step (.event (.move (.of_worker rfl (.conclude 0 rfl))))).step
    (.event (.move (.of_worker rfl .settle)))).step (.event (.move (.of_worker rfl .publish)))
  have hresumed := ((hhalted.step (.event (.move (.of_worker rfl (.take rfl nofun))))).step
    (.event .resume)).step (.event (.move (.of_worker rfl (.start rfl))))
  obtain ⟨hsequential, -, -⟩ := chronicle_sequential hresumed
  exact ⟨_, _, _, hresumed, hsequential, rfl, rfl, rfl⟩

end DeviceSync
