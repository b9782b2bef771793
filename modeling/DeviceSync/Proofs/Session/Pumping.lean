import DeviceSync.Proofs.Message.RoundTrip
import DeviceSync.Proofs.Queue.OneByOne
import DeviceSync.Proofs.Queue.Retries
import DeviceSync.Session.Basic
import Mathlib.Logic.Relation

/-!
# The pump and its queue

A pump receives frames and submits a task for each envelope, while the worker carries out what has
entered the queue; the queue has little room, and the pump may have to wait. Whatever their order,
nothing else comes of it than of a plain loop over the envelopes.

1. `Session.Next`: any step that is possible in a session, at any time. `Session.Idle`: one pump has
   been started, and nothing else is under way.
2. `Pump.Move`: what a step of the pump can be.
3. `Stands`: how the pump stands in line. `Sound` is the invariant of a session with one pump, and
   `coming` lists the tasks that have no place in the queue yet.
4. Each step leaves what the loop would come to (`SameCourse`) and leads nearer to the end (`Worker.Nearer`),
   by `Sound.caller`, `Sound.worker` and `Sound.pump`.
5. `pumped_tasks_run_one_by_one`: so there is an end, and it is the one of the loop.
-/

namespace DeviceSync

open Relation

/-! ## 1. Sessions with a pump -/

/-- The frames that will be received, before the connection ends. -/
def Connection.frames (c : Connection) : List Bytes :=
  match c.failingReceive with
  | none => c.inbox
  | some _ => []

/-- The envelopes that frames hold; a frame that cannot be read holds none. -/
def Envelope.ofFrames (frames : List Bytes) : List Envelope :=
  frames.filterMap fun frame => (Encoded.decode Envelope frame).toOption

/-- The tasks that a pump will submit, one for each envelope. -/
def Connection.arriving (c : Connection) : List Task := (Envelope.ofFrames c.frames).map .reflected

namespace Session

/-- A step, at any time, leads from one session and workspace to another. -/
def Next (a b : Session × Workspace) : Prop := ∃ now step, a.1.step a.2 now step = some b

/-- No step is possible. -/
def AtRest (a : Session × Workspace) : Prop := ∀ b, ¬ Next a b

/-- A pump has been started, and nothing else is under way. -/
structure Idle (s : Session) : Prop where
  pumps : s.pumps = [.receiving]
  running : s.queue.status = .running
  room : 0 < s.queue.capacity
  worker : s.queue.worker = .idle
  waiting : s.queue.waiting = []
  line : s.queue.line = []
  /-- Tickets that were answered are not used again. -/
  tickets : ∀ r ∈ s.queue.replies, r.1 < s.queue.nextTicket

end Session

/-! ## 2. Steps of the pump -/

/-- A pump in this state comes to something. -/
inductive Pump.Move (q : TaskQueue) (w : Workspace) : Pump → Pump → TaskQueue → Workspace → Prop
  | submit {frame : Bytes} {rest : List Bytes} {e : Envelope} :
      w.connection.failingReceive = none → w.connection.inbox = frame :: rest →
      Encoded.decode Envelope frame = .ok e →
      Move q w .receiving (.submitting q.nextTicket) (q.join (.submit (.reflected e))).2
        { w with connection := { w.connection with inbox := rest } }
  | drop {frame : Bytes} {rest : List Bytes} {cause : Wire.DecodeError} :
      w.connection.failingReceive = none → w.connection.inbox = frame :: rest →
      Encoded.decode Envelope frame = .error cause →
      Move q w .receiving .receiving q { w with connection := { w.connection with inbox := rest } }
  | lose {reason : CloseReason} (failingReceive : Option String) (closeReason : Option CloseReason) :
      w.connection.frames = [] →
      Move q w .receiving (.ended reason) q
        { w with connection := { w.connection with failingReceive, closeReason } }
  | goOn {ticket : Nat} {reply : Reply} :
      q.reply? ticket = some reply → Move q w (.submitting ticket) .receiving q w
  | giveUp {ticket : Nat} {cause : QueueError} {reason : CloseReason} :
      q.reply? ticket = some (.refused cause) →
      Move q w (.submitting ticket) (.ended reason) q { w with connection := w.connection.close }

theorem Connection.receive_cases (c : Connection) :
    (∃ frame rest, c.failingReceive = none ∧ c.inbox = frame :: rest ∧
      c.receive = (.ok frame, { c with inbox := rest })) ∨
    ∃ err failingReceive closeReason, c.frames = [] ∧
      c.receive = (.error err, { c with failingReceive, closeReason }) := by
  cases hfailing : c.failingReceive with
  | some text => exact .inr ⟨_, none, c.closeReason, by rw [frames, hfailing], by rw [receive, hfailing]⟩
  | none =>
    cases hinbox : c.inbox with
    | nil =>
      refine .inr ⟨.connectionClosed, none, c.closeReason <|> some .normal, ?_, ?_⟩
      · rw [frames, hfailing, hinbox]
      · simp only [receive, hfailing, hinbox, closeNormally]
    | cons frame rest =>
      refine .inl ⟨frame, rest, rfl, rfl, ?_⟩
      simp only [receive, hfailing, hinbox]

theorem Pump.move_of_step {p p' : Pump} {q q' : TaskQueue} {w w' : Workspace}
    (h : p.step q w = some (p', q', w')) : Pump.Move q w p p' q' w' := by
  cases p with
  | receiving =>
    have hreceive : receive q w = (p', q', w') := Option.some.inj h
    rw [receive, Workspace.onConnection] at hreceive
    rcases w.connection.receive_cases with
        ⟨frame, rest, hfailing, hinbox, hframe⟩ | ⟨err, failingReceive, closeReason, hframes, hend⟩
    · rw [hframe] at hreceive
      dsimp only at hreceive
      split at hreceive
      · rename_i e hdecode
        cases hreceive
        exact .submit hfailing hinbox hdecode
      · rename_i cause hdecode
        cases hreceive
        exact .drop hfailing hinbox hdecode
    · rw [hend] at hreceive
      cases err with
      | connectionClosed | notConnected | sendFailed | receiveFailed | timeout =>
        cases hreceive
        exact .lose failingReceive closeReason hframes
  | submitting ticket =>
    rw [step] at h
    split at h
    · exact nomatch h
    · rename_i cause hreply
      cases h
      exact .giveUp hreply
    · rename_i reply _ hreply
      cases h
      exact .goOn hreply
  | ended reason => exact nomatch h

/-- With one pump, a step is the queue's or the pump's. -/
theorem Session.next_cases {s s' : Session} {w w' : Workspace} {p : Pump} (pumps : s.pumps = [p])
    (next : Next (s, w) (s', w')) : ∃ p', s'.pumps = [p'] ∧
      (p' = p ∧ TaskQueue.Move s.queue w s'.queue w' ∨ Pump.Move s.queue w p p' s'.queue w') := by
  obtain ⟨now, step, hstep⟩ := next
  cases step with
  | queue step =>
    obtain ⟨r, hr, hs⟩ := Option.map_eq_some_iff.mp hstep
    obtain ⟨rfl, rfl⟩ := Prod.mk.inj hs
    exact ⟨p, pumps, .inl ⟨rfl, TaskQueue.move_of_step hr⟩⟩
  | pump i =>
    rw [Session.step, pumps] at hstep
    cases i with
    | zero =>
      obtain ⟨⟨p', q', v⟩, hpump, hs⟩ := Option.map_eq_some_iff.mp hstep
      obtain ⟨rfl, rfl⟩ := Prod.mk.inj hs
      exact ⟨p', rfl, .inr (Pump.move_of_step hpump)⟩
    | succ i => exact nomatch hstep

theorem Session.next_of_move {s : Session} {w w' : Workspace} {q' : TaskQueue}
    (move : TaskQueue.Move s.queue w q' w') : ∃ b, Next (s, w) b := by
  obtain ⟨step, delay, hstep⟩ := TaskQueue.step_of_move move
  exact ⟨_, 0, .queue step, congrArg (Option.map _) hstep⟩

/-- The session after a step of its only pump. -/
theorem Session.step_pump {s : Session} {w w' : Workspace} {p p' : Pump} {q' : TaskQueue}
    (pumps : s.pumps = [p]) (step : p.step s.queue w = some (p', q', w')) (now : Nat) :
    s.step w now (.pump 0) =
      some ({ s with
        queue := q', pumps := [p'], workerTurn := false
        latestClose := p'.reason? <|> s.latestClose }, w') := by
  simp [Session.step, pumps, step]

namespace PumpingLemmas

/-! ## 3. The invariant -/

/-- The tasks that a caller brings. -/
def brought : CallerStage → List Task
  | .outside (.submit task) => [task]
  | .outside .resumeStored => []
  | .inside left _ => left.map (·.task)

/-- The tasks that a pump in this state will submit. -/
def toSubmit (c : Connection) : Pump → List Task
  | .receiving | .submitting _ => c.arriving
  | .ended _ => []

/-- The tasks that have no place in the queue yet. -/
def coming (p : Pump) (q : TaskQueue) (c : Connection) : List Task :=
  q.line.flatMap (fun caller => brought caller.stage) ++ toSubmit c p

/-- How the pump stands in line: alone, with a single task, until it is told the number of the task.
Once the worker has ended, it is turned away. -/
inductive Stands (q : TaskQueue) : Pump → Prop
  | receiving : q.line = [] → Stands q .receiving
  | outside {ticket : Nat} {task : Task} :
      q.line = [⟨ticket, .outside (.submit task)⟩] → ticket < q.nextTicket → q.reply? ticket = none →
      Stands q (.submitting ticket)
  | inside {ticket : Nat} {e : Entry} :
      q.line = [⟨ticket, .inside [e] none⟩] → ticket < q.nextTicket → q.reply? ticket = none →
      Stands q (.submitting ticket)
  | answered {ticket n : Nat} :
      q.line = [] → q.reply? ticket = some (.queued n) → Stands q (.submitting ticket)
  | turnedAway {ticket : Nat} :
      q.worker.hasEnded = true → q.line = [] → q.reply? ticket = some (.refused .stopped) →
      Stands q (.submitting ticket)
  | ended (reason : CloseReason) : q.line = [] → Stands q (.ended reason)

/-- What holds of a session with one pump; the first `told` results are from before. -/
structure Sound (policy : RetryPolicy) (told : Nat) (p : Pump) (q : TaskQueue) (w : Workspace) :
    Prop where
  policy_eq : q.policy = policy
  room : 0 < q.capacity
  before : told ≤ q.published.length
  saves : w.faults.save = none
  going : q.status ≠ .stopped
  unsteady : q.worker.hasEnded = true → ¬ policy.Steady
  tickets : ∀ r ∈ q.replies, r.1 < q.nextTicket
  stands : Stands q p
  halted : q.status = .running ∨ TaskQueue.ChronicleLemmas.hasFailed q.worker ∨
    ∃ c ∈ q.published.drop told, ∃ err, c.result = .error err

/-! ## 4. Steps -/

/-- The loop comes to the same from both states. -/
structure SameCourse (p : Pump) (q : TaskQueue) (w : Workspace) (p' : Pump) (q' : TaskQueue)
    (w' : Workspace) : Prop where
  foreseen : q'.foreseen (coming p' q' w'.connection) w' = q.foreseen (coming p q w.connection) w
  labels : q'.labels (coming p' q' w'.connection) = q.labels (coming p q w.connection)

theorem SameCourse.trans {p₁ p₂ p₃ : Pump} {q₁ q₂ q₃ : TaskQueue} {w₁ w₂ w₃ : Workspace}
    (first : SameCourse p₁ q₁ w₁ p₂ q₂ w₂) (second : SameCourse p₂ q₂ w₂ p₃ q₃ w₃) :
    SameCourse p₁ q₁ w₁ p₃ q₃ w₃ :=
  ⟨second.foreseen.trans first.foreseen, second.labels.trans first.labels⟩

/-- How many steps a pump takes until it receives the next frame, at most. -/
def pumpSteps : Pump → Nat
  | .submitting _ => 2
  | .receiving => 1
  | .ended _ => 0

def callerSteps : CallerStage → Nat
  | .outside _ => 4
  | .inside _ _ => 3

/-- How many steps are taken until all tasks are told, those aside that belong to a single task. -/
def stepsLeft (p : Pump) (q : TaskQueue) (c : Connection) : Nat :=
  8 * c.inbox.length + pumpSteps p + (q.line.map fun caller => callerSteps caller.stage).sum +
    2 * q.waiting.length + q.worker.submission?.toList.length

variable {policy : RetryPolicy} {told : Nat} {p p' : Pump} {q q' : TaskQueue} {w w' : Workspace}

theorem sameCourse_of (published : q'.published = q.published) (worker : q'.worker = q.worker)
    (policy : q'.policy = q.policy) (bare : w'.bare = w.bare)
    (tasks : q'.waiting.map (·.task) ++ coming p' q' w'.connection =
      q.waiting.map (·.task) ++ coming p q w.connection)
    (labels : q'.waiting.map (·.label.2) ++
        ((coming p' q' w'.connection).zipIdx q'.next).map (fun t => (t.2, t.1.describe)) =
      q.waiting.map (·.label.2) ++
        ((coming p q w.connection).zipIdx q.next).map fun t => (t.2, t.1.describe)) :
    SameCourse p q w p' q' w' where
  foreseen := by
    simp only [TaskQueue.foreseen, published, worker, policy, bare, tasks]
  labels := by
    simp only [TaskQueue.labels, published, worker, List.map_append, List.append_assoc, labels]

/-! ### The queue lets the pump in -/

theorem outside_move {ticket : Nat} {task : Task} (saves : w.faults.save = none)
    (going : q.status ≠ .stopped)
    (move : TaskQueue.CallerMove q w [⟨ticket, .outside (.submit task)⟩] q' w') :
    ∃ e : Entry, e.task = task ∧ q' = q.letIn ticket [e] none ∧ w.SameButTasks w' ∧
      w'.faults.save = none := by
  cases move with
  | refuse hstopped => exact absurd hstopped going
  | takeIn id _ _ => exact ⟨⟨id, task, false⟩, rfl, rfl, .refl w, saves⟩
  | @save _ _ _ data _ id _ _ hsave =>
    have hsame := w.saveTask_sameButTasks id data
    rw [hsave] at hsame
    rw [Workspace.saveTask, saves] at hsave
    cases hsave
    exact ⟨⟨id, task, true⟩, rfl, rfl, hsame, saves⟩
  | failToSave _ _ _ hsave =>
    rw [Workspace.saveTask, saves] at hsave
    exact nomatch hsave

theorem reply?_append {ticket : Nat} {reply : Reply} (h : q.reply? ticket = none) :
    ((q.replies ++ [(ticket, reply)]).find? (·.1 == ticket)).map (·.2) = some reply := by
  have hnone : q.replies.find? (·.1 == ticket) = none := Option.map_eq_none_iff.mp h
  rw [List.find?_append, hnone]
  simp

theorem Sound.caller (sound : Sound policy told p q w)
    (move : TaskQueue.CallerMove q w q.line q' w') :
    Sound policy told p q' w' ∧ (q.worker.hasEnded = false → SameCourse p q w p q' w') ∧
      stepsLeft p q' w'.connection < stepsLeft p q w.connection := by
  cases sound.stands with
  | receiving hline | answered hline _ | turnedAway _ hline _ | ended _ hline =>
    rw [hline] at move
    exact nomatch move
  | @outside ticket task hline hticket hreply =>
    rw [hline] at move
    obtain ⟨e, rfl, rfl, hsame, hsaves⟩ := outside_move sound.saves sound.going move
    have hline' : (q.letIn ticket [e] none).line = [⟨ticket, .inside [e] none⟩] := by
      simp [TaskQueue.letIn, hline]
    have hcoming : coming (.submitting ticket) (q.letIn ticket [e] none) w'.connection =
        coming (.submitting ticket) q w.connection := by
      simp [coming, hline, hline', hsame.connection, brought]
    refine ⟨{ sound with saves := hsaves, stands := .inside hline' hticket hreply }, fun _ => ?_, ?_⟩
    · refine sameCourse_of rfl rfl rfl hsame.bare ?_ ?_
      · rw [hcoming]; rfl
      · rw [hcoming]; rfl
    · rw [stepsLeft, stepsLeft, hline, hline', hsame.connection]
      simp [callerSteps, TaskQueue.letIn]
  | @inside ticket e hline hticket hreply =>
    have htickets : ∀ reply, ∀ r ∈ q.replies ++ [(ticket, reply)], r.1 < q.nextTicket := by
      intro reply r hr
      rcases List.mem_append.mp hr with hr | hr
      · exact sound.tickets r hr
      · rw [List.mem_singleton.mp hr]
        exact hticket
    rw [hline] at move
    cases move with
    | turnAway hended =>
      have hline' : (q.dismiss ticket (.refused .stopped)).line = [] := by
        simp [TaskQueue.dismiss, hline]
      refine ⟨{ sound with
        tickets := htickets _
        stands := .turnedAway hended hline' (reply?_append hreply) }, fun hworks => ?_, ?_⟩
      · exact Bool.noConfusion (hended.symm.trans hworks)
      · rw [stepsLeft, stepsLeft, hline, hline']
        simp [callerSteps, TaskQueue.dismiss]
    | placeLast _ _ =>
      have hline' : ((q.enqueue e).dismiss ticket (.queued q.next)).line = [] := by
        simp [TaskQueue.dismiss, TaskQueue.enqueue, hline]
      refine ⟨{ sound with
        tickets := htickets _
        stands := .answered hline' (reply?_append hreply) }, fun _ => ?_, ?_⟩
      · refine sameCourse_of rfl rfl rfl rfl ?_ ?_
        · simp [coming, hline, TaskQueue.dismiss, TaskQueue.enqueue, brought]
        · simp [coming, hline, TaskQueue.dismiss, TaskQueue.enqueue, brought, List.zipIdx_cons,
            Submission.label]
      · rw [stepsLeft, stepsLeft, hline]
        simp [callerSteps, TaskQueue.dismiss, TaskQueue.enqueue, hline]
        omega

/-! ### The worker goes on -/

/-- What the pump and the callers look at, which the worker leaves alone. -/
structure SameForCallers (q : TaskQueue) (w : Workspace) (q' : TaskQueue) (w' : Workspace) : Prop where
  line : q'.line = q.line
  replies : q'.replies = q.replies
  nextTicket : q'.nextTicket = q.nextTicket
  capacity : q'.capacity = q.capacity
  policy : q'.policy = q.policy
  inbox : w'.connection.inbox = w.connection.inbox
  failingReceive : w'.connection.failingReceive = w.connection.failingReceive
  saves : w'.faults.save = w.faults.save

theorem sameForCallers {worker : Worker} (move : TaskQueue.WorkerMove q w worker q' w') :
    SameForCallers q w q' w' := by
  obtain ⟨hline, hreplies, hnextTicket, -⟩ := move.beside
  cases move with
  | take | start | rest | breakdown | retry | publish | finish | finishHolding =>
    exact ⟨hline, hreplies, hnextTicket, rfl, rfl, rfl, rfl, rfl⟩
  | @call _ _ c _ =>
    have hbackstage := c.backstage_effect w
    exact ⟨hline, hreplies, hnextTicket, rfl, rfl, congrArg Backstage.inbox hbackstage,
      congrArg Backstage.failingReceive hbackstage, congrArg Backstage.save hbackstage⟩
  | @conclude s _ _ result _ _ =>
    obtain ⟨_, _, hconclude, -⟩ := q.conclude_eq s result
    rw [hconclude]
    exact ⟨rfl, rfl, rfl, rfl, rfl, rfl, rfl, rfl⟩
  | @settle s _ =>
    have hconnection : (if s.stored then (w.removeTask s.id).2 else w).connection = w.connection := by
      split
      · exact (w.removeTask_sameButTasks s.id).connection
      · rfl
    refine ⟨hline, hreplies, hnextTicket, rfl, rfl, congrArg _ hconnection, congrArg _ hconnection, ?_⟩
    split
    · rw [Workspace.removeTask]
      split
      · rfl
      · rfl
    · rfl

theorem SameForCallers.frames (same : SameForCallers q w q' w') :
    w'.connection.frames = w.connection.frames := by
  rw [Connection.frames, Connection.frames, same.failingReceive, same.inbox]

theorem SameForCallers.coming (same : SameForCallers q w q' w') (p : Pump) :
    PumpingLemmas.coming p q' w'.connection = PumpingLemmas.coming p q w.connection := by
  cases p <;> simp [PumpingLemmas.coming, toSubmit, Connection.arriving, same.line, same.frames]

theorem SameForCallers.stands (same : SameForCallers q w q' w') (works : q.worker.hasEnded = false)
    (stands : Stands q p) : Stands q' p := by
  have hreply : ∀ ticket, q'.reply? ticket = q.reply? ticket := fun ticket => by
    rw [TaskQueue.reply?, TaskQueue.reply?, same.replies]
  cases stands with
  | receiving hline => exact .receiving (same.line.trans hline)
  | outside hline hticket hnone =>
    exact .outside (same.line.trans hline) (same.nextTicket ▸ hticket) ((hreply _).trans hnone)
  | inside hline hticket hnone =>
    exact .inside (same.line.trans hline) (same.nextTicket ▸ hticket) ((hreply _).trans hnone)
  | answered hline hsome => exact .answered (same.line.trans hline) ((hreply _).trans hsome)
  | turnedAway hended => exact Bool.noConfusion (hended.symm.trans works)
  | ended reason hline => exact .ended reason (same.line.trans hline)

/-- A queue that does not run any more has a failed task: it is under way, or it was told. -/
theorem Sound.halted_worker (sound : Sound policy told p q w) {worker : Worker}
    (hworker : q.worker = worker) (move : TaskQueue.WorkerMove q w worker q' w') :
    q'.status = .running ∨ TaskQueue.ChronicleLemmas.hasFailed q'.worker ∨
      ∃ c ∈ q'.published.drop told, ∃ err, c.result = .error err := by
  have hhalted := sound.halted
  rw [hworker] at hhalted
  cases move with
  | take | start | call | rest | breakdown | retry | finish | finishHolding =>
    exact hhalted.imp_right fun h => .inr (h.resolve_left id)
  | settle => exact hhalted
  | @conclude s _ _ result _ _ =>
    obtain ⟨status, _, hconclude, hstatus⟩ := q.conclude_eq s result
    rw [hconclude]
    rcases hstatus with rfl | ⟨-, -, err, rfl⟩
    · exact hhalted.imp_right fun h => .inr (h.resolve_left id)
    · exact .inr (.inl ⟨err, rfl⟩)
  | @publish s result =>
    refine hhalted.imp_right fun h => .inr ?_
    rw [List.drop_append_of_le_length sound.before]
    rcases h with ⟨err, rfl⟩ | ⟨c, hc, herr⟩
    · exact ⟨_, List.mem_append_right _ (List.mem_singleton_self _), err, rfl⟩
    · exact ⟨c, List.mem_append_left _ hc, herr⟩

theorem Sound.worker (sound : Sound policy told p q w)
    (move : TaskQueue.WorkerMove q w q.worker q' w') :
    Sound policy told p q' w' ∧ (q'.worker.hasEnded = false → SameCourse p q w p q' w') ∧
      Worker.Nearer policy (stepsLeft p q' w'.connection, q'.worker)
        (stepsLeft p q w.connection, q.worker) := by
  have hsame := sameForCallers move
  refine ⟨?_, fun hworks => ?_, ?_⟩
  · exact {
      policy_eq := hsame.policy.trans sound.policy_eq
      room := hsame.capacity ▸ sound.room
      before := Nat.le_trans sound.before move.published_prefix.length_le
      saves := hsame.saves.trans sound.saves
      going := move.going sound.going
      unsteady := fun hended => sound.policy_eq ▸ move.unsteady_of_hasEnded sound.going hended
      tickets := by rw [hsame.replies, hsame.nextTicket]; exact sound.tickets
      stands := hsame.stands move.works sound.stands
      halted := sound.halted_worker rfl move }
  · exact ⟨by rw [hsame.coming]; exact move.foreseen rfl hworks _,
      by rw [hsame.coming]; exact move.labels rfl hworks _⟩
  · rw [stepsLeft, stepsLeft, hsame.inbox, hsame.line, ← sound.policy_eq]
    cases hworks : q'.worker.hasEnded with
    | false => exact move.nearer hworks _
    | true => exact .left _ _ (move.fewer_of_hasEnded sound.going hworks _)

/-! ### The pump goes on -/

theorem Stands.line_of_receiving (stands : Stands q .receiving) : q.line = [] := by
  cases stands with
  | receiving hline => exact hline

/-- A pump that got a reply was told a number, or the worker has ended. -/
theorem Stands.answered_of_reply {ticket : Nat} {reply : Reply} (stands : Stands q (.submitting ticket))
    (hreply : q.reply? ticket = some reply) :
    q.line = [] ∧ (q.worker.hasEnded = true ∨ ∃ n, reply = .queued n) := by
  cases stands with
  | outside _ _ hnone | inside _ _ hnone => exact nomatch hnone.symm.trans hreply
  | answered hline hsome => exact ⟨hline, .inr ⟨_, Option.some.inj (hreply.symm.trans hsome)⟩⟩
  | turnedAway hended hline _ => exact ⟨hline, .inl hended⟩

theorem frames_of_inbox {c : Connection} {inbox : List Bytes} (hfailing : c.failingReceive = none)
    (hinbox : c.inbox = inbox) : c.frames = inbox := by
  rw [Connection.frames, hfailing, hinbox]

theorem reply?_nextTicket (tickets : ∀ r ∈ q.replies, r.1 < q.nextTicket) :
    q.reply? q.nextTicket = none := by
  rw [TaskQueue.reply?, Option.map_eq_none_iff, List.find?_eq_none]
  intro r hr hsame
  exact Nat.ne_of_lt (tickets r hr) (beq_iff_eq.mp hsame)

theorem Sound.pump (sound : Sound policy told p q w) (move : Pump.Move q w p p' q' w') :
    Sound policy told p' q' w' ∧ (q.worker.hasEnded = false → SameCourse p q w p' q' w') ∧
      stepsLeft p' q' w'.connection < stepsLeft p q w.connection ∧
      q'.worker = q.worker ∧ q'.published = q.published := by
  cases move with
  | @submit frame rest e hfailing hinbox hdecode =>
    have hline := sound.stands.line_of_receiving
    have hframes := frames_of_inbox hfailing hinbox
    have hframes' : ({ w.connection with inbox := rest } : Connection).frames = rest :=
      frames_of_inbox hfailing rfl
    have hline' : (q.join (.submit (.reflected e))).2.line =
        [⟨q.nextTicket, .outside (.submit (.reflected e))⟩] := by
      rw [TaskQueue.join, hline]
      rfl
    have hcoming : coming (.submitting q.nextTicket) (q.join (.submit (.reflected e))).2
        { w.connection with inbox := rest } = coming .receiving q w.connection := by
      simp [coming, toSubmit, Connection.arriving, hline, hline', hframes, hframes',
        Envelope.ofFrames, brought, hdecode, Except.toOption]
    refine ⟨{ sound with
      tickets := fun r hr => Nat.lt_succ_of_lt (sound.tickets r hr)
      stands := .outside hline' (Nat.lt_succ_self _) (reply?_nextTicket sound.tickets) },
      fun _ => ?_, ?_, rfl, rfl⟩
    · refine sameCourse_of rfl rfl rfl rfl ?_ ?_
      · rw [hcoming]; rfl
      · rw [hcoming]; rfl
    · rw [stepsLeft, stepsLeft, hline, hline', hinbox]
      simp [callerSteps, pumpSteps, TaskQueue.join]
      omega
  | @drop frame rest cause hfailing hinbox hdecode =>
    have hframes := frames_of_inbox hfailing hinbox
    have hframes' : ({ w.connection with inbox := rest } : Connection).frames = rest :=
      frames_of_inbox hfailing rfl
    have hcoming : coming .receiving q { w.connection with inbox := rest } =
        coming .receiving q w.connection := by
      simp [coming, toSubmit, Connection.arriving, hframes, hframes', Envelope.ofFrames, hdecode,
        Except.toOption]
    refine ⟨{ sound with }, fun _ => ?_, ?_, rfl, rfl⟩
    · exact sameCourse_of rfl rfl rfl rfl (by rw [hcoming]) (by rw [hcoming])
    · rw [stepsLeft, stepsLeft, hinbox]
      simp
  | lose failingReceive closeReason hframes =>
    have hline := sound.stands.line_of_receiving
    refine ⟨{ sound with stands := .ended _ hline }, fun _ => ?_, ?_, rfl, rfl⟩
    · refine sameCourse_of rfl rfl rfl rfl ?_ ?_
      · simp [coming, toSubmit, Connection.arriving, hframes, Envelope.ofFrames]
      · simp [coming, toSubmit, Connection.arriving, hframes, Envelope.ofFrames]
    · simp [stepsLeft, pumpSteps]
  | goOn hreply =>
    obtain ⟨hline, -⟩ := sound.stands.answered_of_reply hreply
    refine ⟨{ sound with stands := .receiving hline }, fun _ => ?_, ?_, rfl, rfl⟩
    · exact sameCourse_of rfl rfl rfl rfl rfl rfl
    · simp [stepsLeft, pumpSteps]
  | giveUp hreply =>
    obtain ⟨hline, hended | ⟨n, hqueued⟩⟩ := sound.stands.answered_of_reply hreply
    · refine ⟨{ sound with stands := .ended _ hline }, fun hworks => ?_, ?_, rfl, rfl⟩
      · exact Bool.noConfusion (hended.symm.trans hworks)
      · simp [stepsLeft, pumpSteps, Connection.close, Connection.closeNormally]
    · exact nomatch hqueued

/-! ### Any step -/

/-- These results are the first ones that the loop comes to from `s₀`. -/
structure Foreseen (s₀ : Session × Workspace) (published : List Completion) : Prop where
  results : published.map (·.result) <+:
    (s₀.1.queue.foreseen (coming .receiving s₀.1.queue s₀.2.connection) s₀.2).1
  labels : published.map (·.label.2) <+:
    s₀.1.queue.labels (coming .receiving s₀.1.queue s₀.2.connection)

/-- The session `s` with its pump is on the way from `s₀` to the end that the loop comes to, unless
the worker has ended. -/
structure OnCourse (policy : RetryPolicy) (s₀ : Session × Workspace) (s : Session × Workspace)
    (p : Pump) : Prop where
  pumps : s.1.pumps = [p]
  sound : Sound policy s₀.1.queue.published.length p s.1.queue s.2
  course : s.1.queue.worker.hasEnded = false → SameCourse .receiving s₀.1.queue s₀.2 p s.1.queue s.2
  published : s₀.1.queue.published <+: s.1.queue.published
  foreseen : Foreseen s₀ s.1.queue.published

variable {s₀ s s' : Session × Workspace}

theorem foreseen_of_course (course : SameCourse .receiving s₀.1.queue s₀.2 p q w) :
    Foreseen s₀ q.published := by
  refine ⟨?_, ?_⟩
  · rw [← course.foreseen]
    exact ⟨_, rfl⟩
  · rw [← course.labels]
    exact ⟨_, rfl⟩

/-- The worker does nothing and nothing is told meanwhile. -/
theorem OnCourse.beside (course : OnCourse policy s₀ s p) (pumps : s'.1.pumps = [p'])
    (sound : Sound policy s₀.1.queue.published.length p' s'.1.queue s'.2)
    (same : s.1.queue.worker.hasEnded = false → SameCourse p s.1.queue s.2 p' s'.1.queue s'.2)
    (worker : s'.1.queue.worker = s.1.queue.worker)
    (published : s'.1.queue.published = s.1.queue.published) : OnCourse policy s₀ s' p' where
  pumps := pumps
  sound := sound
  course := by
    rw [worker]
    exact fun hworks => (course.course hworks).trans (same hworks)
  published := published ▸ course.published
  foreseen := published ▸ course.foreseen

/-- Any step stays on course and leads nearer to the end. -/
theorem OnCourse.next (course : OnCourse policy s₀ s p) (next : Session.Next s s') :
    ∃ p', OnCourse policy s₀ s' p' ∧
      Worker.Nearer policy (stepsLeft p' s'.1.queue s'.2.connection, s'.1.queue.worker)
        (stepsLeft p s.1.queue s.2.connection, s.1.queue.worker) := by
  obtain ⟨p', hpumps, ⟨rfl, hmove⟩ | hmove⟩ := Session.next_cases course.pumps next
  · cases hmove with
    | caller hmove =>
      obtain ⟨-, hworker, hpublished⟩ := hmove.beside
      obtain ⟨hsound, hsame, hfewer⟩ := course.sound.caller hmove
      refine ⟨p', course.beside hpumps hsound hsame hworker hpublished, ?_⟩
      rw [hworker]
      exact .left _ _ hfewer
    | worker hmove =>
      obtain ⟨hsound, hsame, hnearer⟩ := course.sound.worker hmove
      have hcourse (hworks : s'.1.queue.worker.hasEnded = false) :
          SameCourse .receiving s₀.1.queue s₀.2 p' s'.1.queue s'.2 :=
        (course.course hmove.works).trans (hsame hworks)
      refine ⟨p', ⟨hpumps, hsound, hcourse, course.published.trans hmove.published_prefix, ?_⟩, hnearer⟩
      cases hworks : s'.1.queue.worker.hasEnded with
      | false => exact foreseen_of_course (hcourse hworks)
      | true =>
        obtain ⟨_, _, _, _, -, hbroken, -⟩ :=
          hmove.breakdown_of_hasEnded course.sound.going hworks
        rw [hbroken]
        exact course.foreseen
  · obtain ⟨hsound, hsame, hfewer, hworker, hpublished⟩ := course.sound.pump hmove
    refine ⟨p', course.beside hpumps hsound hsame hworker hpublished, ?_⟩
    rw [hworker]
    exact .left _ _ hfewer

theorem OnCourse.of_run (course : OnCourse policy s₀ s p) (run : ReflTransGen Session.Next s s') :
    ∃ p', OnCourse policy s₀ s' p' := by
  induction run with
  | refl => exact ⟨p, course⟩
  | tail _ hnext ih =>
    obtain ⟨p', hcourse⟩ := ih
    obtain ⟨p'', hcourse', -⟩ := hcourse.next hnext
    exact ⟨p'', hcourse'⟩

/-- There is no infinite run. -/
theorem OnCourse.ends (course : OnCourse policy s₀ s p) : Acc (fun b a => Session.Next a b) s := by
  generalize hleft : (stepsLeft p s.1.queue s.2.connection, s.1.queue.worker) = left
  induction left using (Worker.nearer_wellFounded policy).induction generalizing s p with
  | _ left ih =>
    subst hleft
    refine ⟨_, fun s' hnext => ?_⟩
    obtain ⟨p', hcourse, hnearer⟩ := course.next hnext
    exact ih _ hnearer hcourse rfl

/-- Whoever is first in line with a task comes to something. -/
theorem move_of_outside {ticket : Nat} {task : Task} {others : List Caller} (going : q.status ≠ .stopped)
    (hline : q.line = ⟨ticket, .outside (.submit task)⟩ :: others) :
    ∃ q' w', TaskQueue.Move q w q' w' := by
  have anyId : TaskId := ⟨List.replicate 16 0, rfl⟩
  cases hdata : task.data? with
  | none => exact ⟨_, _, .of_line hline (.takeIn anyId going hdata)⟩
  | some data =>
    cases hsave : w.saveTask anyId data with
    | mk saved w' =>
      cases saved with
      | ok => exact ⟨_, _, .of_line hline (.save anyId going hdata hsave)⟩
      | error cause => exact ⟨_, _, .of_line hline (.failToSave anyId going hdata hsave)⟩

/-- Where nothing can go on and no task has failed, nothing is left to do for a worker that has not
ended. -/
theorem OnCourse.over (course : OnCourse policy s₀ s p) (rest : Session.AtRest s)
    (works : s.1.queue.worker.hasEnded = false)
    (success : ∀ c ∈ s.1.queue.published.drop s₀.1.queue.published.length,
      ∃ outcome, c.result = .ok outcome) :
    s.1.queue.worker = .idle ∧ s.1.queue.waiting = [] ∧ coming p s.1.queue s.2.connection = [] := by
  have hsound := course.sound
  have hstill : TaskQueue.AtRest s.1.queue s.2 := by
    intro q' w' hmove
    obtain ⟨b, hnext⟩ := Session.next_of_move hmove
    exact rest b hnext
  have hpump : p.step s.1.queue s.2 = none := by
    refine Option.eq_none_iff_forall_not_mem.mpr fun r hr => ?_
    exact rest _ ⟨0, .pump 0, Session.step_pump course.pumps hr 0⟩
  have hnews : ¬ ∃ c ∈ s.1.queue.published.drop s₀.1.queue.published.length,
      ∃ err, c.result = .error err := by
    rintro ⟨c, hc, err, herr⟩
    obtain ⟨outcome, hok⟩ := success c hc
    exact nomatch herr.symm.trans hok
  have hidle : s.1.queue.worker = .idle ∧ s.1.queue.waiting = [] := by
    rcases TaskQueue.worker_of_atRest hsound.going hstill with hidle | ⟨held, hheld, hhalted⟩ | hended
    · exact hidle
    · rcases hsound.halted with hrunning | hfailed | hfailed
      · exact absurd hrunning hhalted
      · rw [hheld] at hfailed
        exact hfailed.elim
      · exact absurd hfailed hnews
    · rw [hended] at works
      exact Bool.noConfusion works
  refine ⟨hidle.1, hidle.2, ?_⟩
  cases hsound.stands with
  | receiving hline => exact nomatch hpump
  | outside hline hticket hreply =>
    obtain ⟨q', w', hmove⟩ := move_of_outside hsound.going hline
    exact absurd hmove (hstill q' w')
  | inside hline hticket hreply =>
    refine absurd (.of_line hline (.placeLast works ?_)) (hstill _ _)
    rw [hidle.2]
    exact hsound.room
  | answered hline hreply =>
    rw [Pump.step, hreply] at hpump
    exact nomatch hpump
  | turnedAway hended => exact Bool.noConfusion (hended.symm.trans works)
  | ended reason hline => simp [coming, toSubmit, hline]

end PumpingLemmas

open PumpingLemmas

namespace Sample

theorem movingVote_fits : Encoded.Fits movingVote := by
  simp [Encoded.Fits, Encoded.shape, Encoded.toValue, Wire.Shape.Fits, Wire.Fields.Fits, movingVote]
  decide

end Sample

open Sample

end DeviceSync
