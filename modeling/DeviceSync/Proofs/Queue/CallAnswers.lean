import Mathlib.Data.List.Count
import Mathlib.Data.List.Flatten
import DeviceSync.Proofs.Message.RoundTrip
import DeviceSync.Proofs.Queue.Acknowledgement
import DeviceSync.Proofs.Queue.Logins

/-!
# Answers to calls

A reflected message may be handled again; the answer to a call may not, for the caller would hear it
twice. The same queue, the same retries and the same logins serve both, and queues of several logins may
be at work in one process.

1. `Lives`: what happens to the queues, over any number of logins and deaths of the process. What is put
   down to a task (`Deed`) is read off the workspace before and after each move.
2. `Answering`: how far the attempt to answer a call is, by what was done for it.
3. `TaskQueue.ahead`: the tasks in a queue that may still send something. An answer is lost or sent when
   it leaves this list, and no answer comes in but by being submitted (`count_submitted_deeds`).
4. `Accounted`: each answer is in one place at most, and was sent only if it is in none.
5. `call_answer_is_sent_once`.
-/

namespace DeviceSync

open Procedure TaskQueue LoginLemmas

/-! ## 1. Lives -/

/-- Something that is put down to a task. -/
inductive Deed
  | submitted (e : Entry)
  | registered (e : Entry) (callId : UInt32) (id : MessageId)
  | sent (e : Entry) (frame : Bytes)
deriving DecidableEq

namespace Deed

/-- A frame that arrived is put down to the task. -/
def sends (e : Entry) : Deed → Bool
  | sent e' _ => e' == e
  | _ => false

/-- What was done for a task when a workspace becomes another one: the names of messages that were
registered for a call, and the frames that arrived. -/
def between (e : Entry) (w w' : Workspace) : List Deed :=
  (w'.services.required.drop w.services.required.length).map (fun r => registered e r.1 r.2) ++
  (w'.connection.sent.drop w.connection.sent.length).map (sent e)

end Deed

/-- What is put down to the tasks of a queue when it moves: what is let in, and what is done for the task
that the worker has in hand. -/
def TaskQueue.deeds (q : TaskQueue) (w : Workspace) (q' : TaskQueue) (w' : Workspace) : List Deed :=
  (q.admitted q').map .submitted ++
  q.worker.submission?.toList.flatMap fun s => Deed.between s.toEntry w w'

/-- No task that was submitted has this name, and nothing is stored under it. -/
def Unused (log : List Deed) (w : Workspace) (id : TaskId) : Prop :=
  (∀ e, .submitted e ∈ log → e.id ≠ id) ∧ ¬ w.tasks.Names id

/-- What happened up to now, with the queues that are alive. New tasks get unused names; any call may
fail. -/
inductive Lives : List Deed → List TaskQueue → Workspace → Prop
  | start (w : Workspace) : Lives [] [] w
  | login {log : List Deed} {queues : List TaskQueue} {w : Workspace} (capacity : Nat)
      (policy : RetryPolicy) :
      Lives log queues w → Lives log (queues ++ [.start capacity policy]) w
  | move {log : List Deed} {q q' : TaskQueue} {w w' : Workspace} (before after : List TaskQueue) :
      Lives log (before ++ q :: after) w → Move q w q' w' →
      (∀ e ∈ q.admitted q', Unused log w e.id) →
      Lives (log ++ q.deeds w q' w') (before ++ q' :: after) w'
  /-- Somebody brings a task, asks for the stored ones, gives up, resumes a queue or stops it. -/
  | called {log : List Deed} {q q' : TaskQueue} {w : Workspace} (before after : List TaskQueue) :
      Lives log (before ++ q :: after) w → Called q q' → Lives log (before ++ q' :: after) w
  /-- Others act on the workspace, but not on the task store. -/
  | meanwhile {log : List Deed} {queues : List TaskQueue} {w w' : Workspace} :
      Lives log queues w → w'.tasks = w.tasks → Lives log queues w'
  /-- The process dies. -/
  | crash {log : List Deed} {queues : List TaskQueue} {w : Workspace} :
      Lives log queues w → Lives log [] w

/-! ## 2. The attempt to answer a call -/

namespace CallAnswer

/-- The end of the attempt: the answer arrives or not. -/
def arrive (answer : CallAnswer) (caller : Identity) (id : MessageId) :
    Work (Except TaskError Outcome) :=
  .ask (.deliver (Encoded.encode (answer.frame caller id))) fun arrived =>
    .done ((arrived.mapError .ofTransport).map fun () => .completed)

/-- The attempt once the message has a name. -/
def register (answer : CallAnswer) (caller : Identity) (id : MessageId) :
    Work (Except TaskError Outcome) :=
  .ask (.require answer.callId id) fun () => .ask .pause fun _ => answer.arrive caller id

/-- The answer to a call is short. -/
theorem length_encode_lt (answer : CallAnswer) : (Encoded.encode answer).length < UInt32.size := by
  obtain ⟨callId, action, flags⟩ := answer
  have hcall := Wire.Head.length_writeWhole_le callId.toNat
  have hflags := Wire.Head.length_writeWhole_le flags.bits.toNat
  show (Wire.Head.writeList 3 ++ (Wire.Head.writeWhole callId.toNat ++
    (_ ++ (Wire.Head.writeWhole flags.bits.toNat ++ [])))).length < UInt32.size
  cases action with
  | accept =>
    have haccept : (Wire.Head.writeList 3).length = 1 ∧ (Wire.writeText "Accept").length = 7 := by decide
    show (_ ++ (_ ++ (Wire.writeText "Accept" ++ _))).length < _
    simp only [List.length_append, haccept, List.length_nil, UInt32.size]
    omega
  | reject reason =>
    have hreason := Wire.Head.length_writeWhole_le reason.toNat
    have hreject : (Wire.Head.writeList 3).length = 1 ∧
        (Wire.tableOfOne :: Wire.writeText "Reject" ++ Wire.Head.writeList 1).length = 9 := by decide
    show (_ ++ (_ ++ ((Wire.tableOfOne :: Wire.writeText "Reject" ++ Wire.Head.writeList 1 ++
      (Wire.Head.writeWhole reason.toNat ++ [])) ++ _))).length < _
    simp only [List.length_append, hreject, List.length_nil, UInt32.size]
    omega

/-- The message with the answer is decoded from the frame. -/
theorem decode_frame (answer : CallAnswer) (caller : Identity) (id : MessageId) :
    Encoded.decode Frame (Encoded.encode (answer.frame caller id)) =
      .ok (.message caller 0x61 id (Encoded.encode answer)) := by
  have hfits : Encoded.Fits (answer.frame caller id) :=
    ⟨trivial, trivial, trivial, ⟨answer.length_encode_lt, fun _ _ => trivial⟩, trivial⟩
  have hdecode := Encoded.decode_encode hfits []
  rwa [List.append_nil] at hdecode

end CallAnswer

namespace AnswerLemmas

variable {log : List Deed} {q q' : TaskQueue} {w w' : Workspace} {e : Entry}
variable {caller : Identity} {answer : CallAnswer} {rest : Work (Except TaskError Outcome)}

/-- The attempt to answer a call is as far as what was done for it. -/
inductive Answering (log : List Deed) (e : Entry) (caller : Identity) (answer : CallAnswer) :
    Work (Except TaskError Outcome) → Prop
  | fresh : Answering log e caller answer (.ask .drawMessageId (answer.register caller))
  | named (id : MessageId) : Answering log e caller answer
      (.ask (.require answer.callId id) fun () => .ask .pause fun _ => answer.arrive caller id)
  | registered {id : MessageId} : .registered e answer.callId id ∈ log →
      Answering log e caller answer (.ask .pause fun _ => answer.arrive caller id)
  | departing {id : MessageId} : .registered e answer.callId id ∈ log →
      Answering log e caller answer (answer.arrive caller id)
  | ended (result : Except TaskError Outcome) : Answering log e caller answer (.done result)

theorem Answering.mono (answering : Answering log e caller answer rest) (new : List Deed) :
    Answering (log ++ new) e caller answer rest := by
  cases answering with
  | fresh => exact .fresh
  | named id => exact .named id
  | registered h => exact .registered (List.mem_append_left _ h)
  | departing h => exact .departing (List.mem_append_left _ h)
  | ended result => exact .ended result

theorem between_eq_nil (services : w'.services = w.services)
    (connection : w'.connection.sent = w.connection.sent) : Deed.between e w w' = [] := by
  simp [Deed.between, services, connection]

/-- What one call of the attempt leads to: it goes on without sending, or it ends, and the frame that
arrived, if one did, has a message that was registered. -/
theorem Answering.call {c : Call} {next : c.Answer → Work (Except TaskError Outcome)}
    (answering : Answering log e caller answer (.ask c next)) (w : Workspace) :
    Answering (log ++ Deed.between e w (c.effect w).2) e caller answer (next (c.effect w).1) ∧
    ((Deed.between e w (c.effect w).2).countP (Deed.sends e) = 0 ∨
      (∃ result, next (c.effect w).1 = .done result) ∧ ∃ id,
        Deed.between e w (c.effect w).2 = [.sent e (Encoded.encode (answer.frame caller id))] ∧
        .registered e answer.callId id ∈ log) := by
  cases answering with
  | fresh =>
    have hnothing : Deed.between e w (Call.drawMessageId.effect w).2 = [] := between_eq_nil rfl rfl
    rw [hnothing]
    exact ⟨.named _, .inl rfl⟩
  | named id =>
    have hregistered : Deed.between e w ((Call.require answer.callId id).effect w).2 =
        [.registered e answer.callId id] := by
      simp [Deed.between, Call.effect, Services.require]
    rw [hregistered]
    exact ⟨.registered (List.mem_append_right _ List.mem_cons_self), .inl rfl⟩
  | registered h =>
    have hnothing : Deed.between e w (Call.pause.effect w).2 = [] :=
      between_eq_nil rfl w.connection.sent_nextDelay
    rw [hnothing]
    exact ⟨.departing (List.mem_append_left _ h), .inl rfl⟩
  | @departing id h =>
    refine ⟨.ended _, ?_⟩
    generalize hframe : Encoded.encode (answer.frame caller id) = frame
    have hbetween : Deed.between e w ((Call.deliver frame).effect w).2 =
        ((w.connection.deliver frame).2.sent.drop w.connection.sent.length).map (.sent e) := by
      simp [Deed.between, Call.effect, Workspace.onConnection]
    have hsends := w.connection.sends_deliver frame
    rw [hbetween]
    cases harrived : (w.connection.deliver frame).1 with
    | ok _ =>
      rw [harrived] at hsends
      refine .inr ⟨⟨_, rfl⟩, id, ?_, h⟩
      rw [hsends, List.drop_left, hframe]
      rfl
    | error _ =>
      rw [harrived] at hsends
      refine .inl ?_
      rw [hsends, List.drop_length]
      rfl

/-! ## 3. What may still be sent -/

end AnswerLemmas

/-- The task that the worker has in hand, as long as its attempt may still send something. A task that
rests is not counted: no answer to a call does. -/
def Worker.ahead : Worker → List Entry
  | .holding s | .working s _ (.ask _ _) => [s.toEntry]
  | _ => []

/-- The tasks in a queue that may still send something. -/
def TaskQueue.ahead (q : TaskQueue) : List Entry :=
  q.worker.ahead ++ q.waiting.map (·.toEntry) ++ q.line.flatMap Caller.left

namespace AnswerLemmas

variable {log : List Deed} {q q' : TaskQueue} {w w' : Workspace} {e : Entry}
variable {caller : Identity} {answer : CallAnswer}

/-- The attempt that a worker makes is as far as what was done for its task, and the worker rests only
for a task that may be tried again. -/
def InHand (log : List Deed) : Worker → Prop
  | .working s _ rest => ∀ caller answer, s.task = .answerCall caller answer →
      Answering log s.toEntry caller answer rest
  | .resting s _ => s.task.isIdempotent = true
  | _ => True

theorem InHand.mono {worker : Worker} (inHand : InHand log worker) (new : List Deed) :
    InHand (log ++ new) worker := by
  cases worker with
  | working => exact fun caller answer htask => (inHand caller answer htask).mono new
  | resting => exact inHand
  | idle | holding | settling | publishing | ended => trivial

theorem inHand_attempt (s : Submission) (failures : Nat) (me : Identity) :
    InHand log (.working s failures (s.task.attempt me)) := by
  intro caller answer htask
  rw [htask]
  exact .fresh

theorem between_of_sameButTasks (same : w.SameButTasks w') : Deed.between e w w' = [] := by
  obtain ⟨_, _, _, _, rfl⟩ := same
  exact between_eq_nil rfl rfl

/-- A caller only lets tasks in. -/
theorem deeds_of_caller {line : List Caller} (move : CallerMove q w line q' w') :
    q.deeds w q' w' = (q.admitted q').map .submitted := by
  unfold TaskQueue.deeds
  cases q.worker.submission? with
  | none => exact List.append_nil _
  | some s => simp [between_of_sameButTasks move.beside.1]

/-- A worker lets nothing in. -/
theorem deeds_of_worker {worker : Worker} (move : WorkerMove q w worker q' w') :
    q.deeds w q' w' =
      q.worker.submission?.toList.flatMap fun s => Deed.between s.toEntry w w' := by
  rw [TaskQueue.deeds, admitted_eq_nil move.beside.1]
  rfl

theorem count_ahead_dismiss {c : Caller} {others : List Caller} (hline : q.line = c :: others)
    (ticket : Nat) (reply : Reply) (e : Entry) :
    (q.dismiss ticket reply).ahead.count e + c.left.count e = q.ahead.count e := by
  simp only [TaskQueue.ahead, TaskQueue.dismiss, hline, List.tail_cons, List.flatMap_cons,
    List.count_append]
  omega

theorem count_ahead_letIn {c : Caller} {others : List Caller} (hline : q.line = c :: others)
    (ticket : Nat) (left : List Entry) (resumed : Option Nat) (e : Entry) :
    (q.letIn ticket left resumed).ahead.count e + c.left.count e = q.ahead.count e + left.count e := by
  simp only [TaskQueue.ahead, TaskQueue.letIn, hline, List.tail_cons, List.flatMap_cons,
    List.count_append, Caller.left]
  omega

theorem count_ahead_enqueue (q : TaskQueue) (e e' : Entry) :
    (q.enqueue e').ahead.count e = q.ahead.count e + [e'].count e := by
  simp only [TaskQueue.ahead, TaskQueue.enqueue, List.map_append, List.map_singleton, List.count_append]
  omega

theorem count_ahead_le (worker : q'.worker.ahead.count e ≤ q.worker.ahead.count e)
    (waiting : q'.waiting = q.waiting)
    (line : (q'.line.flatMap Caller.left).count e ≤ (q.line.flatMap Caller.left).count e) :
    q'.ahead.count e ≤ q.ahead.count e := by
  simp only [TaskQueue.ahead, waiting, List.count_append]
  omega

theorem count_ahead_working (s : Submission) (failures : Nat) (rest : Work (Except TaskError Outcome))
    (e : Entry) : (Worker.working s failures rest).ahead.count e ≤ [s.toEntry].count e := by
  cases rest with
  | done result => exact Nat.zero_le _
  | ask c next => exact Nat.le_refl _

/-- What a move comes to for tasks that are not tried again: at most one new task is let in. Such a task
may be sent later only if it was let in now or might have been sent before, and has not been sent now. -/
structure Advance (log : List Deed) (q : TaskQueue) (w : Workspace) (q' : TaskQueue) (w' : Workspace) :
    Prop where
  alone : q.admitted q' = [] ∨ ∃ e, q.admitted q' = [e]
  count : ∀ e : Entry, e.task.isIdempotent = false →
    (q.deeds w q' w').countP (Deed.sends e) + q'.ahead.count e ≤
      q.ahead.count e + (q.admitted q').count e
  sent : ∀ (e : Entry) frame caller answer, .sent e frame ∈ q.deeds w q' w' →
    e.task = .answerCall caller answer →
    ∃ id, frame = Encoded.encode (answer.frame caller id) ∧ .registered e answer.callId id ∈ log
  names : ∀ id, w'.tasks.Names id →
    w.tasks.Names id ∨ ∃ e ∈ q.admitted q', e.id = id ∧ e.task.isIdempotent = true
  inHand : InHand (log ++ q.deeds w q' w') q'.worker
  behind : ∀ c ∈ q'.line.tail, c.left = []

/-- Only one task is let in. -/
theorem Advance.unique (advance : Advance log q w q' w') {e' : Entry} (h : e ∈ q.admitted q')
    (h' : e' ∈ q.admitted q') : e = e' := by
  rcases advance.alone with hnone | ⟨_, hone⟩
  · rw [hnone] at h
    exact absurd h List.not_mem_nil
  · rw [hone] at h h'
    exact (List.mem_singleton.mp h).trans (List.mem_singleton.mp h').symm

theorem Advance.count_admitted_le (advance : Advance log q w q' w') (e : Entry) :
    (q.admitted q').count e ≤ 1 := by
  refine List.count_le_length.trans ?_
  rcases advance.alone with hnone | ⟨_, hone⟩
  · rw [hnone]
    exact Nat.zero_le 1
  · rw [hone]
    exact Nat.le_refl 1

/-- What a caller's move comes to is seen from the line and the store. -/
theorem advance_of_line {line : List Caller} (inHand : InHand log q.worker)
    (behind : ∀ c ∈ q'.line.tail, c.left = []) (move : CallerMove q w line q' w')
    (alone : q.admitted q' = [] ∨ ∃ e, q.admitted q' = [e])
    (count : ∀ e : Entry, e.task.isIdempotent = false →
      q'.ahead.count e ≤ q.ahead.count e + (q.admitted q').count e)
    (names : ∀ id, w'.tasks.Names id →
      w.tasks.Names id ∨ ∃ e ∈ q.admitted q', e.id = id ∧ e.task.isIdempotent = true) :
    Advance log q w q' w' where
  alone := alone
  count e once := by
    have hsilent : (q.deeds w q' w').countP (Deed.sends e) = 0 := by
      rw [deeds_of_caller move, List.countP_map]
      exact List.countP_eq_zero.mpr fun _ _ => Bool.false_ne_true
    rw [hsilent, Nat.zero_add]
    exact count e once
  sent e frame caller answer hsent := by
    rw [deeds_of_caller move] at hsent
    obtain ⟨_, -, hsubmitted⟩ := List.mem_map.mp hsent
    exact nomatch hsubmitted
  names := names
  inHand := by
    rw [move.beside.2.1]
    exact inHand.mono _
  behind := behind

/-- Nothing is let in and nothing stored. -/
theorem advance_of_none {line : List Caller} (inHand : InHand log q.worker)
    (behind : ∀ c ∈ q'.line.tail, c.left = []) (move : CallerMove q w line q' w')
    (none : q.admitted q' = []) (tasks : w'.tasks = w.tasks)
    (count : ∀ e : Entry, e.task.isIdempotent = false → q'.ahead.count e ≤ q.ahead.count e) :
    Advance log q w q' w' := by
  refine advance_of_line inHand behind move (.inl none) ?_ ?_
  · intro e once
    rw [none]
    exact count e once
  · intro id hnames
    rw [tasks] at hnames
    exact .inl hnames

theorem admitted_letIn {ticket : Nat} {task : Task} {others : List Caller} {left : List Entry}
    (hline : q.line = ⟨ticket, .outside (.submit task)⟩ :: others) :
    q.admitted (q.letIn ticket left none) = left := by
  simp [TaskQueue.admitted, TaskQueue.letIn, Caller.left, hline]

/-- A new task is let in, and is stored now if it can be stored. -/
theorem advance_of_letIn {line : List Caller} {ticket : Nat} {task : Task} {others : List Caller}
    {e : Entry} (inHand : InHand log q.worker) (behind : ∀ c ∈ q.line.tail, c.left = [])
    (hline : q.line = ⟨ticket, .outside (.submit task)⟩ :: others)
    (move : CallerMove q w line (q.letIn ticket [e] none) w')
    (names : ∀ id, w'.tasks.Names id → w.tasks.Names id ∨ e.id = id ∧ e.task.isIdempotent = true) :
    Advance log q w (q.letIn ticket [e] none) w' := by
  have hadmitted : q.admitted (q.letIn ticket [e] none) = [e] := admitted_letIn hline
  refine advance_of_line inHand behind move (.inr ⟨e, hadmitted⟩) ?_ ?_
  · intro e' _
    rw [hadmitted]
    exact Nat.le.intro (count_ahead_letIn hline ticket [e] none e')
  · intro id hnames
    rw [hadmitted]
    exact (names id hnames).imp_right fun h => ⟨e, List.mem_singleton_self e, h⟩

theorem loadTasks_tasks (w : Workspace) : w.loadTasks.2.tasks = w.tasks := by
  unfold Workspace.loadTasks
  split <;> rfl

theorem saveTask_tasks (w : Workspace) (id : TaskId) (data : TaskData) :
    (w.saveTask id data).2.tasks =
      if (w.saveTask id data).1.isOk then w.tasks.save id data else w.tasks := by
  unfold Workspace.saveTask
  split <;> rfl

theorem advance_of_caller {line : List Caller} (hline : q.line = line) (inHand : InHand log q.worker)
    (behind : ∀ c ∈ q.line.tail, c.left = []) (move : CallerMove q w line q' w') :
    Advance log q w q' w' := by
  have hbehind := behind_of_caller hline move behind
  have hmove := move
  cases move with
  | refuse | turnAway =>
    exact advance_of_none inHand hbehind hmove (admitted_dismiss behind) rfl fun e _ =>
      Nat.le.intro (count_ahead_dismiss hline _ _ e)
  | @failToSave _ _ _ data _ _ id _ _ hsave =>
    have htasks := saveTask_tasks w id data
    rw [hsave] at htasks
    exact advance_of_none inHand hbehind hmove (admitted_dismiss behind) htasks fun e _ =>
      Nat.le.intro (count_ahead_dismiss hline _ _ e)
  | loadNothing _ hload | failToLoad _ hload =>
    have htasks := loadTasks_tasks w
    rw [hload] at htasks
    exact advance_of_none inHand hbehind hmove (admitted_dismiss behind) htasks fun e _ =>
      Nat.le.intro (count_ahead_dismiss hline _ _ e)
  | takeIn id _ _ => exact advance_of_letIn inHand behind hline hmove fun _ h => .inl h
  | @save ticket task _ data _ id _ hdata hsave =>
    have htasks := saveTask_tasks w id data
    rw [hsave] at htasks
    refine advance_of_letIn inHand behind hline hmove fun id' hnames => ?_
    rw [htasks] at hnames
    refine hnames.of_save.imp_right fun hsame => ⟨hsame.symm, ?_⟩
    cases task with
    | reflected e => rfl
    | answerCall => exact nomatch hdata
  | @load ticket _ tasks _ _ hload _ =>
    have htasks := loadTasks_tasks w
    rw [hload] at htasks
    refine advance_of_none inHand hbehind hmove
      (admitted_eq_nil_of_line hline resumeStored_ne_submit) htasks fun e once => ?_
    have hcount := count_ahead_letIn hline ticket (tasks.map fun t => ⟨t.1, .ofData t.2, true⟩)
      (some tasks.length) e
    have hforeign : (tasks.map fun t => (⟨t.1, .ofData t.2, true⟩ : Entry)).count e = 0 := by
      refine List.count_eq_zero.mpr fun hmem => ?_
      obtain ⟨⟨_, _⟩, -, rfl⟩ := List.mem_map.mp hmem
      exact nomatch once
    omega
  | @place ticket e e' left resumed _ _ _ =>
    refine advance_of_none inHand hbehind hmove (admitted_eq_nil_of_line hline (inside_ne_submit _ _)) rfl
      fun a _ => ?_
    have hcount := count_ahead_letIn (q := q.enqueue e) hline ticket (e' :: left) resumed a
    have hfirst : (e :: e' :: left).count a = [e].count a + (e' :: left).count a := by
      rw [← List.count_append]
      rfl
    simp only [count_ahead_enqueue, Caller.left, hfirst] at hcount
    omega
  | @placeLast ticket e resumed _ _ _ =>
    refine advance_of_none inHand hbehind hmove (admitted_eq_nil_of_line hline (inside_ne_submit _ _)) rfl
      fun a _ => ?_
    have hcount := count_ahead_dismiss (q := q.enqueue e) hline ticket
      (resumed.elim (.queued q.next) .resumed) a
    simp only [count_ahead_enqueue, Caller.left] at hcount
    omega

/-- A worker does nothing for its task, and sends nothing. -/
theorem advance_of_quiet {worker : Worker} (behind : ∀ c ∈ q.line.tail, c.left = [])
    (move : WorkerMove q w worker q' w') (quiet : w.SameButTasks w')
    (count : ∀ e : Entry, e.task.isIdempotent = false → q'.ahead.count e ≤ q.ahead.count e)
    (names : ∀ id, w'.tasks.Names id → w.tasks.Names id) (inHand : InHand log q'.worker) :
    Advance log q w q' w' := by
  have hline := move.beside.1
  have hadmitted : q.admitted q' = [] := admitted_eq_nil hline
  have hdeeds : q.deeds w q' w' = [] := by
    rw [deeds_of_worker move]
    cases q.worker.submission? with
    | none => rfl
    | some s => simp [between_of_sameButTasks quiet]
  refine {
    alone := .inl hadmitted, count := fun e once => ?_, sent := fun e frame caller answer hsent => ?_,
    names := fun id hnames => .inl (names id hnames), inHand := ?_, behind := hline ▸ behind }
  · rw [hadmitted, hdeeds, List.countP_nil, Nat.zero_add]
    exact count e once
  · rw [hdeeds] at hsent
    exact absurd hsent List.not_mem_nil
  · rw [hdeeds, List.append_nil]
    exact inHand

/-- A worker is through with its task, or lets it rest. -/
theorem advance_of_through {worker : Worker} (behind : ∀ c ∈ q.line.tail, c.left = [])
    (move : WorkerMove q w worker q' w') (quiet : w.SameButTasks w') (through : q'.worker.ahead = [])
    (waiting : q'.waiting = q.waiting) (names : ∀ id, w'.tasks.Names id → w.tasks.Names id)
    (inHand : InHand log q'.worker) : Advance log q w q' w' := by
  refine advance_of_quiet behind move quiet (fun e _ => ?_) names inHand
  refine count_ahead_le ?_ waiting (by rw [move.beside.1])
  rw [through]
  exact Nat.zero_le _

/-- A frame is put down to the task for which the worker made a call. -/
theorem entry_of_sent {e' : Entry} {frame : Bytes} (sent : .sent e' frame ∈ Deed.between e w w') :
    e' = e := by
  rcases List.mem_append.mp sent with hregistered | hsent
  · obtain ⟨_, -, hother⟩ := List.mem_map.mp hregistered
    exact nomatch hother
  · obtain ⟨_, -, hsame⟩ := List.mem_map.mp hsent
    exact (Deed.sent.inj hsame).1.symm

theorem countP_between_of_ne {e' : Entry} (other : e ≠ e') :
    (Deed.between e w w').countP (Deed.sends e') = 0 := by
  refine List.countP_eq_zero.mpr fun deed hdeed hsends => ?_
  cases deed with
  | submitted | registered => exact Bool.false_ne_true hsends
  | sent e'' frame =>
    have hsame := entry_of_sent hdeed
    exact other (hsame.symm.trans (eq_of_beq hsends))

/-- A call that sends the answer ends the attempt. -/
theorem count_call {s : Submission} {failures : Nat} {c : Call}
    {next : c.Answer → Work (Except TaskError Outcome)}
    (inHand : InHand log (.working s failures (.ask c next))) (once : e.task.isIdempotent = false) :
    (Deed.between s.toEntry w (c.effect w).2).countP (Deed.sends e) +
        (Worker.working s failures (next (c.effect w).1)).ahead.count e ≤ [s.toEntry].count e := by
  have hnext := count_ahead_working s failures (next (c.effect w).1) e
  by_cases hsame : s.toEntry = e
  · subst hsame
    cases htask : s.task with
    | reflected =>
      exact absurd (once.symm.trans (congrArg Task.isIdempotent htask)) Bool.false_ne_true
    | answerCall caller answer =>
      rcases ((inHand caller answer htask).call w).2 with hsilent | ⟨⟨result, hover⟩, id, hsent, -⟩
      · rwa [hsilent, Nat.zero_add]
      · rw [hsent, hover]
        simp [Worker.ahead, Deed.sends]
  · rwa [countP_between_of_ne hsame, Nat.zero_add]

/-- A worker makes a call for its task. -/
theorem advance_of_call {s : Submission} {failures : Nat} {c : Call}
    {next : c.Answer → Work (Except TaskError Outcome)}
    (hworker : q.worker = .working s failures (.ask c next)) (inHand : InHand log q.worker)
    (behind : ∀ c ∈ q.line.tail, c.left = []) :
    Advance log q w { q with worker := .working s failures (next (c.effect w).1) } (c.effect w).2 := by
  have hadmitted : q.admitted { q with worker := .working s failures (next (c.effect w).1) } = [] :=
    admitted_eq_nil rfl
  have hdeeds : q.deeds w { q with worker := .working s failures (next (c.effect w).1) } (c.effect w).2 =
      Deed.between s.toEntry w (c.effect w).2 := by
    simp [TaskQueue.deeds, hadmitted, hworker, Worker.submission?]
  rw [hworker] at inHand
  refine {
    alone := .inl hadmitted, count := fun e once => ?_,
    sent := fun e frame caller answer hsent htask => ?_, names := fun id hnames => ?_,
    inHand := ?_, behind := behind }
  · have hcall := count_call (w := w) inHand once
    simp only [hdeeds, hadmitted, TaskQueue.ahead, hworker, List.count_append, List.count_nil,
      Nat.add_zero] at hcall ⊢
    simp only [Worker.ahead] at hcall ⊢
    omega
  · rw [hdeeds] at hsent
    obtain rfl := entry_of_sent hsent
    rcases ((inHand caller answer htask).call w).2 with hsilent | ⟨-, id, hframe, hregistered⟩
    · exact absurd (BEq.rfl : (s.toEntry == s.toEntry) = true) (List.countP_eq_zero.mp hsilent _ hsent)
    · rw [hframe] at hsent
      exact ⟨id, (Deed.sent.inj (List.mem_singleton.mp hsent)).2, hregistered⟩
  · rw [(sameStore_effect c w).tasks] at hnames
    exact .inl hnames
  · rw [hdeeds]
    exact fun caller answer htask => ((inHand caller answer htask).call w).1

/-- A task that is tried again may be. -/
theorem idempotent_of_judge_again {policy : RetryPolicy} {idempotent : Bool} {failures : Nat}
    {draw : UInt64} {attempted : Except TaskError Outcome} {delay : Duration}
    (h : judge policy idempotent failures draw attempted = .again delay) : idempotent = true := by
  exact (Bool.and_eq_true_iff.mp (shouldRetry_of_judge_again h)).1

theorem removeTask_names (w : Workspace) (id : TaskId) {id' : TaskId}
    (names : (w.removeTask id).2.tasks.Names id') : w.tasks.Names id' := by
  unfold Workspace.removeTask at names
  split at names
  · exact names
  · exact names.of_remove

theorem advance_of_worker {worker : Worker} (hworker : q.worker = worker) (inHand : InHand log q.worker)
    (behind : ∀ c ∈ q.line.tail, c.left = []) (move : WorkerMove q w worker q' w') :
    Advance log q w q' w' := by
  have hmove := move
  cases move with
  | take hwaiting _ =>
    refine advance_of_quiet behind hmove (.refl w) (fun e _ => ?_) (fun _ h => h) trivial
    simp only [TaskQueue.ahead, hworker, hwaiting, Worker.ahead, List.map_cons, List.nil_append]
    exact Nat.le_refl _
  | @start s _ =>
    refine advance_of_quiet behind hmove (.refl w) (fun e _ => ?_) (fun _ h => h)
      (inHand_attempt s 0 w.identity)
    have hcount := count_ahead_working s 0 (s.task.attempt w.identity) e
    exact count_ahead_le (by rw [hworker]; exact hcount) rfl (Nat.le_refl _)
  | call => exact advance_of_call hworker inHand behind
  | @conclude s _ _ result draw _ =>
    obtain ⟨_, _, hconclude, -⟩ := q.conclude_eq s result
    rw [hconclude] at hmove ⊢
    exact advance_of_through behind hmove (.refl w) rfl rfl (fun _ h => h) trivial
  | rest draw hjudge =>
    exact advance_of_through behind hmove (.refl w) rfl rfl (fun _ h => h)
      (idempotent_of_judge_again hjudge)
  | @retry s failures =>
    refine advance_of_quiet behind hmove (.refl w) (fun e once => ?_) (fun _ h => h)
      (inHand_attempt s failures w.identity)
    have hidempotent : s.task.isIdempotent = true := by
      rw [hworker] at inHand
      exact inHand
    have hother : [s.toEntry].count e = 0 := by
      refine List.count_eq_zero.mpr fun hmem => ?_
      rw [List.mem_singleton.mp hmem] at once
      exact Bool.false_ne_true (once.symm.trans hidempotent)
    have hcount := count_ahead_working s failures (s.task.attempt w.identity) e
    exact count_ahead_le ((hcount.trans_eq hother).trans (Nat.zero_le _)) rfl (Nat.le_refl _)
  | @settle s result =>
    refine advance_of_through behind hmove ?_ rfl rfl (fun id h => ?_) trivial
    · split
      · exact w.removeTask_sameButTasks s.id
      · exact .refl w
    · split at h
      · exact removeTask_names w s.id h
      · exact h
  | publish => exact advance_of_through behind hmove (.refl w) rfl rfl (fun _ h => h) trivial
  | breakdown | finish | finishHolding =>
    refine advance_of_quiet behind hmove (.refl w) (fun e _ => ?_) (fun _ h => h) trivial
    simp only [endWorker, TaskQueue.ahead, Worker.ahead, List.count_append, List.map_nil,
      List.count_nil]
    omega

theorem Advance.of_move (inHand : InHand log q.worker) (behind : ∀ c ∈ q.line.tail, c.left = [])
    (move : Move q w q' w') : Advance log q w q' w' := by
  cases move with
  | caller move => exact advance_of_caller rfl inHand behind move
  | worker move => exact advance_of_worker rfl inHand behind move

/-- Nobody sends anything by coming or going. -/
theorem count_ahead_called (called : Called q q') (e : Entry) : q'.ahead.count e ≤ q.ahead.count e := by
  cases called with
  | join request =>
    refine count_ahead_le (Nat.le_refl _) rfl ?_
    simp [TaskQueue.join, Caller.left]
  | withdraw ticket =>
    exact count_ahead_le (Nat.le_refl _) rfl ((List.filter_sublist.flatMap Caller.left).count_le e)
  | resume =>
    unfold TaskQueue.resume
    split
    · exact Nat.le_refl _
    · exact Nat.le_refl _
  | stop => exact Nat.le_refl _

theorem worker_called (called : Called q q') : q'.worker = q.worker := by
  cases called with
  | join | withdraw | stop => rfl
  | resume => exact (q.resume_beside).1

/-! ## 4. Where an answer is -/

theorem submitted_not_mem_between (e e' : Entry) (w w' : Workspace) :
    .submitted e ∉ Deed.between e' w w' := by
  simp only [Deed.between, List.mem_append, List.mem_map]
  rintro (⟨_, -, h⟩ | ⟨_, -, h⟩)
  · exact nomatch h
  · exact nomatch h

theorem submitted_mem_deeds : .submitted e ∈ q.deeds w q' w' ↔ e ∈ q.admitted q' := by
  simp [TaskQueue.deeds, submitted_not_mem_between]

theorem count_submitted_deeds : (q.deeds w q' w').count (.submitted e) = (q.admitted q').count e := by
  have hsubmitted : ((q.admitted q').map Deed.submitted).count (.submitted e) = (q.admitted q').count e :=
    List.count_map_of_injective _ _ (fun _ _ => Deed.submitted.inj) e
  rw [TaskQueue.deeds, List.count_append, hsubmitted, Nat.add_eq_left, List.count_eq_zero]
  simp [submitted_not_mem_between]

/-- An answer that was submitted is in one place at most, and in none once it was sent. What was sent had
been registered, and nothing is stored under the name of an answer. -/
structure Accounted (log : List Deed) (queues : List TaskQueue) (w : Workspace) : Prop where
  once : ∀ e, log.count (.submitted e) ≤ 1
  places : ∀ e : Entry, e.task.isIdempotent = false →
    log.countP (Deed.sends e) + (queues.flatMap TaskQueue.ahead).count e ≤ log.count (.submitted e)
  sent : ∀ before (e : Entry) frame after caller answer, log = before ++ .sent e frame :: after →
    e.task = .answerCall caller answer →
    ∃ id, frame = Encoded.encode (answer.frame caller id) ∧ .registered e answer.callId id ∈ before
  unstored : ∀ e : Entry, .submitted e ∈ log → e.task.isIdempotent = false → ¬ w.tasks.Names e.id
  inHand : ∀ q ∈ queues, InHand log q.worker
  behind : ∀ q ∈ queues, ∀ c ∈ q.line.tail, c.left = []

/-- Of a log that has grown, a place is among what is new, or it was there before. -/
theorem split_of_grown {new earlier later : List Deed} {d : Deed}
    (h : log ++ new = earlier ++ d :: later) :
    (d ∈ new ∧ log <+: earlier) ∨ ∃ rest, log = earlier ++ d :: rest := by
  rcases List.append_eq_append_iff.mp h with ⟨between, rfl, hnew⟩ | ⟨between, hlog, hnew⟩
  · exact .inl ⟨by simp [hnew], List.prefix_append log between⟩
  · cases between with
    | nil =>
      rw [List.nil_append] at hnew
      rw [List.append_nil] at hlog
      exact .inl ⟨hnew ▸ List.mem_cons_self, hlog ▸ List.prefix_refl log⟩
    | cons first between =>
      obtain ⟨rfl, -⟩ := List.cons.inj hnew
      exact .inr ⟨between, hlog⟩

variable {queues before after : List TaskQueue}

/-- One queue becomes another one. -/
theorem forall_mem_replace {P : TaskQueue → Prop} (h : ∀ o ∈ before ++ q :: after, P o) (new : P q') :
    ∀ o ∈ before ++ q' :: after, P o := by
  rw [List.forall_mem_append, List.forall_mem_cons] at h ⊢
  exact ⟨h.1, new, h.2.2⟩

theorem Accounted.move (accounted : Accounted log (before ++ q :: after) w) (move : Move q w q' w')
    (unused : ∀ e ∈ q.admitted q', Unused log w e.id) :
    Accounted (log ++ q.deeds w q' w') (before ++ q' :: after) w' := by
  have hmem : q ∈ before ++ q :: after := List.mem_append_right _ List.mem_cons_self
  have hadvance : Advance log q w q' w' :=
    .of_move (accounted.inHand q hmem) (accounted.behind q hmem) move
  have hnew : ∀ e ∈ q.admitted q', .submitted e ∉ log := fun e he hlog => (unused e he).1 e hlog rfl
  refine {
    once := fun e => ?_, places := fun e once => ?_,
    sent := fun earlier e frame later caller answer hsplit htask => ?_,
    unstored := fun e he once hnames => ?_, inHand := ?_, behind := ?_ }
  · rw [List.count_append, count_submitted_deeds]
    by_cases he : e ∈ q.admitted q'
    · rw [List.count_eq_zero.mpr (hnew e he), Nat.zero_add]
      exact hadvance.count_admitted_le e
    · rw [List.count_eq_zero.mpr he]
      exact accounted.once e
  · have hcount := hadvance.count e once
    have hplaces := accounted.places e once
    rw [List.countP_append, List.count_append, count_submitted_deeds]
    simp only [List.flatMap_append, List.flatMap_cons, List.count_append] at hplaces ⊢
    omega
  · rcases split_of_grown hsplit with ⟨hsent, hprefix⟩ | ⟨rest, hlog⟩
    · obtain ⟨id, hframe, hregistered⟩ := hadvance.sent e frame caller answer hsent htask
      exact ⟨id, hframe, hprefix.subset hregistered⟩
    · exact accounted.sent earlier e frame rest caller answer hlog htask
  · rcases hadvance.names e.id hnames with hbefore | ⟨e', he', hid, hidempotent⟩
    · rcases List.mem_append.mp he with hlog | hdeeds
      · exact accounted.unstored e hlog once hbefore
      · exact (unused e (submitted_mem_deeds.mp hdeeds)).2 hbefore
    · rcases List.mem_append.mp he with hlog | hdeeds
      · exact (unused e' he').1 e hlog hid.symm
      · have hsame := hadvance.unique (submitted_mem_deeds.mp hdeeds) he'
        exact Bool.false_ne_true (once.symm.trans (hsame ▸ hidempotent))
  · exact forall_mem_replace (fun o ho => (accounted.inHand o ho).mono _) hadvance.inHand
  · exact forall_mem_replace accounted.behind hadvance.behind

theorem Accounted.called (accounted : Accounted log (before ++ q :: after) w) (called : Called q q') :
    Accounted log (before ++ q' :: after) w := by
  have hmem : q ∈ before ++ q :: after := List.mem_append_right _ List.mem_cons_self
  refine { accounted with places := fun e once => ?_, inHand := ?_, behind := ?_ }
  · have hcount := count_ahead_called called e
    have hplaces := accounted.places e once
    simp only [List.flatMap_append, List.flatMap_cons, List.count_append] at hplaces ⊢
    omega
  · refine forall_mem_replace accounted.inHand ?_
    rw [worker_called called]
    exact accounted.inHand q hmem
  · exact forall_mem_replace accounted.behind (behind_of_called called (accounted.behind q hmem))

theorem accounted_of_lives (lives : Lives log queues w) : Accounted log queues w := by
  induction lives with
  | start w => exact ⟨by simp, by simp, by simp, nofun, List.forall_mem_nil _, List.forall_mem_nil _⟩
  | @login log queues w capacity policy _ ih =>
    refine { ih with places := fun e once => ?_, inHand := ?_, behind := ?_ }
    · have hplaces := ih.places e once
      simpa [TaskQueue.ahead, Worker.ahead, TaskQueue.start] using hplaces
    · exact List.forall_mem_append.mpr ⟨ih.inHand, List.forall_mem_singleton.mpr trivial⟩
    · exact List.forall_mem_append.mpr ⟨ih.behind, List.forall_mem_singleton.mpr nofun⟩
  | move before after _ move unused ih => exact ih.move move unused
  | called before after _ called ih => exact ih.called called
  | meanwhile _ same ih => exact { ih with unstored := same ▸ ih.unstored }
  | @crash log queues w _ ih =>
    refine { ih with
      places := fun e once => ?_, inHand := List.forall_mem_nil _, behind := List.forall_mem_nil _ }
    exact (Nat.add_le_add_left (Nat.zero_le _) _).trans (ih.places e once)

end AnswerLemmas

/-! ## 5. Sent once -/

open AnswerLemmas

/-- Over any number of logins and deaths of the process, whatever fails meanwhile: the answer to a call is
sent at most once; what is sent is the message to the caller, under a name that was registered for the call
before; and nothing is ever stored under the name of the answer. -/
theorem call_answer_is_sent_once {log : List Deed} {queues : List TaskQueue} {w : Workspace} {e : Entry}
    {caller : Identity} {answer : CallAnswer} (lives : Lives log queues w)
    (answers : e.task = .answerCall caller answer) :
    log.countP (Deed.sends e) ≤ 1 ∧
    (∀ before frame after, log = before ++ .sent e frame :: after →
      ∃ id, Encoded.decode Frame frame = .ok (.message caller 0x61 id (Encoded.encode answer)) ∧
        .registered e answer.callId id ∈ before) ∧
    (.submitted e ∈ log → ¬ w.tasks.Names e.id) := by
  have haccounted := accounted_of_lives lives
  have honce : e.task.isIdempotent = false := by rw [answers]; rfl
  refine ⟨?_, fun before frame after hsplit => ?_, fun he => haccounted.unstored e he honce⟩
  · have hplaces := haccounted.places e honce
    have hsubmitted := haccounted.once e
    omega
  · obtain ⟨id, rfl, hregistered⟩ := haccounted.sent before e frame after caller answer hsplit answers
    exact ⟨id, answer.decode_frame caller id, hregistered⟩

namespace Sample

/-- The answer to the first call, as an entry of the queue. -/
def pickingUp : Entry := ⟨taskName, pickUp 1, false⟩

theorem unused_in_fresh (id : TaskId) : Unused [] fresh id := ⟨nofun, nofun⟩

end Sample

open Sample

/-- A call is answered, the process dies before the result is told, and the next login finds nothing to
do. -/
theorem answer_is_not_sent_again : ∃ log queues w id, Lives log queues w ∧
    log = [.submitted pickingUp, .registered pickingUp 1 id,
      .sent pickingUp (Encoded.encode (Frame.message owner 0x61 id (Encoded.encode
        (CallAnswer.mk 1 .accept .plain))))] ∧
    log.countP (Deed.sends pickingUp) ≤ 1 ∧ ¬ w.tasks.Names taskName ∧ w.connection.sent.length = 1 := by
  have hlogin : Lives [] [.start 1 .never] fresh := (Lives.start fresh).login 1 .never
  have hplaced := ((hlogin.called [] [] (.join (.submit (pickUp 1)))).move [] []
    (.of_line rfl (.takeIn taskName nofun rfl)) fun e _ => unused_in_fresh e.id).move [] []
    (.of_line rfl (.placeLast rfl Nat.one_pos)) nofun
  have hstarted := (hplaced.move [] [] (.of_worker rfl (.take rfl nofun)) nofun).move [] []
    (.of_worker rfl (.start rfl)) nofun
  have hsent := (((hstarted.move [] [] (.of_worker rfl .call) nofun).move [] []
    (.of_worker rfl .call) nofun).move [] [] (.of_worker rfl .call) nofun).move [] []
    (.of_worker rfl .call) nofun
  have hagain := (hsent.crash.login 1 .never).called [] [] (.join .resumeStored)
  have hidle := hagain.move [] [] (.of_line rfl (.loadNothing nofun rfl)) nofun
  have hanswers : pickingUp.task = .answerCall owner ⟨1, .accept, .plain⟩ := rfl
  obtain ⟨honce, -, hunstored⟩ := call_answer_is_sent_once hidle hanswers
  exact ⟨_, _, _, _, hidle, rfl, honce, hunstored List.mem_cons_self, rfl⟩

end DeviceSync
