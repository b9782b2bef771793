import DeviceSync.Proofs.Queue.Moves
import DeviceSync.Proofs.Task.Footprint

/-!
# Crashes

The stores and the effects are durable, the queue is not: when the process dies, the next login
finds the tasks, the nonces and the effects of that moment and nothing else.

1. `Restart`: what the next login starts from. `Envelope.uninterrupted` is what the effects should
   be.
2. An attempt that nothing disturbs succeeds (`attempt_calm_succeeds`). It completes a message with
   fresh nonces (`leaves_of_fresh`) and does nothing about any other (`leaves_of_known`).
3. The first login has the invariant `Underway`: as long as no nonce is recorded, completing the
   message leads where it led at first. It holds at every moment of every attempt, whatever fails
   in it.
4. The second login can only go one way (`Resumption`), and comes to rest.

The order of an attempt is nonces first, effect second, and it decides the result
(`resumed_message_completes_iff`): a crash between the two loses the effect.
-/

namespace DeviceSync

open Procedure

/-! ## 1. Durable state -/

/-- Nothing is about to fail. -/
structure Workspace.Calm (w : Workspace) : Prop where
  faults : w.faults = {}
  services : w.services.interference = []
  connected : w.connection.disconnected = false
  sends : w.connection.failingSends = 0

/-- The process died and a new login starts: what is durable is as it was, and nothing is about to
fail. -/
structure Workspace.Restart (w w₁ : Workspace) : Prop where
  calm : w₁.Calm
  identity : w₁.identity = w.identity
  nonces : w₁.nonces = w.nonces
  tasks : w₁.tasks = w.tasks
  effects : w₁.services.effects = w.services.effects

/-- The durable part of a workspace, with nothing about to fail. -/
def Workspace.calm (w : Workspace) : Workspace :=
  { w with faults := {}, services := { w.services with interference := [] }, connection := {} }

theorem Workspace.restart_calm (w : Workspace) : w.Restart w.calm :=
  ⟨⟨rfl, rfl, rfl, rfl⟩, rfl, rfl, rfl, rfl⟩

theorem Workspace.Calm.noncesWork {w : Workspace} (calm : w.Calm) : w.NoncesWork := by
  rw [Workspace.NoncesWork, calm.faults]
  exact ⟨rfl, rfl⟩

/-- The effects after one attempt at a message that nothing disturbs. -/
def Envelope.uninterrupted (e : Envelope) (w : Workspace) : Effects :=
  ((e.attempt w.identity).run w.calm).2.services.effects

theorem Connection.send_ok {c : Connection} (connected : c.disconnected = false)
    (sends : c.failingSends = 0) (frame : Bytes) : (c.send frame).1 = .ok () := by
  have hdelay : c.nextDelay.2.disconnected = false ∧ c.nextDelay.2.failingSends = 0 := by
    unfold nextDelay
    split
    · exact ⟨connected, sends⟩
    · exact ⟨connected, sends⟩
  rw [send, deliver, if_neg (by rw [hdelay.1]; exact Bool.false_ne_true), hdelay.2]

namespace CrashLemmas

variable {e : Envelope} {p : Payload} {me : Identity} {w v : Workspace}

/-! ## 2. Attempts that nothing disturbs -/

theorem within_of_calm (calm : w.Calm) : w.Within fun _ => False where
  works := calm.noncesWork
  services err h := by
    rw [calm.services] at h
    exact List.not_mem_nil h

/-- Where handling ends with an outcome, the acknowledgement is sent. -/
theorem attempt_calm {post : Except TaskError Outcome → Footprint → Prop} (calm : w.Calm)
    (handling : (e.handle w.identity).Ensures (Call.Admits fun _ => False) post w.footprint)
    (succeeds : ∀ handled x, post handled x → ∃ outcome, handled = .ok outcome) :
    ∃ outcome v, (e.attempt w.identity).run w = (.ok outcome, v) ∧ post (.ok outcome) v.footprint := by
  have hpost := Work.run_of_ensures handling (within_of_calm calm)
  have hconnection := e.handle_connection w.identity w
  rw [Envelope.attempt_eq, Work.run_bind]
  generalize (e.handle w.identity).run w = r at hpost hconnection ⊢
  obtain ⟨handled, v⟩ := r
  obtain ⟨outcome, rfl⟩ := succeeds _ _ hpost
  have hsent : (v.connection.send e.acknowledgement).1 = .ok () := by
    rw [show v.connection = w.connection from hconnection]
    exact Connection.send_ok calm.connected calm.sends _
  refine ⟨outcome, { v with connection := (v.connection.send e.acknowledgement).2 }, ?_, hpost⟩
  rw [Envelope.finish, Work.run_bind, Work.run_send, hsent]
  rfl

theorem attempt_calm_succeeds (e : Envelope) (calm : w.Calm) :
    ∃ outcome v, (e.attempt w.identity).run w = (.ok outcome, v) := by
  suffices h : ∃ post, (e.handle w.identity).Ensures (Call.Admits fun _ => False) post w.footprint ∧
      ∀ handled x, post handled x → ∃ outcome, handled = .ok outcome by
    obtain ⟨post, handling, succeeds⟩ := h
    obtain ⟨outcome, v, hrun, -⟩ := attempt_calm calm handling succeeds
    exact ⟨outcome, v, hrun⟩
  rcases e.handle_cases w.identity with ⟨cause, -, hskip⟩ | ⟨p, -, -, hplain⟩ | ⟨p, guarded⟩
  · rw [hskip]
    exact ⟨fun handled _ => handled = .ok (.skipped cause), rfl, fun handled _ h => ⟨_, h⟩⟩
  · rw [hplain]
    exact ⟨_, e.apply_ensures w.identity p _, fun _ _ h => h.succeeds.1⟩
  · rcases w.nonces.known_or_fresh w.identity e.nonces with known | fresh
    · exact ⟨_, Envelope.handle_ensures_of_known guarded known, fun _ _ h => ⟨.duplicate, h.1⟩⟩
    · exact ⟨_, Envelope.handle_ensures_of_fresh guarded fresh, fun _ _ h => h.succeeds.1⟩

/-- An attempt on behalf of the local identity succeeds and leaves these effects behind. -/
def Leaves (e : Envelope) (w : Workspace) (x : Effects) : Prop :=
  ∃ outcome v, (e.attempt w.identity).run w = (.ok outcome, v) ∧ v.services.effects = x

theorem leaves_of_known (guarded : e.Guarded p) (calm : w.Calm)
    (known : ∃ n ∈ e.nonces, w.nonces.contains w.identity n = true) :
    Leaves e w w.services.effects := by
  obtain ⟨outcome, v, hrun, -, hsame⟩ := attempt_calm calm
    (Envelope.handle_ensures_of_known guarded known) fun handled _ h => ⟨.duplicate, h.1⟩
  exact ⟨outcome, v, hrun, congrArg Footprint.effects hsame⟩

theorem leaves_of_fresh (guarded : e.Guarded p) (calm : w.Calm)
    (fresh : ∀ n ∈ e.nonces, w.nonces.contains w.identity n = false) :
    Leaves e w (Effects.complete e w.identity p w.services.effects) := by
  obtain ⟨outcome, v, hrun, hperformed⟩ := attempt_calm calm
    (Envelope.handle_ensures_of_fresh guarded fresh) fun _ _ h => h.succeeds.1
  exact ⟨outcome, v, hrun, congrArg Footprint.effects hperformed.succeeds.2⟩

theorem uninterrupted_eq (guarded : e.Guarded p)
    (fresh : ∀ n ∈ e.nonces, w.nonces.contains w.identity n = false) :
    e.uninterrupted w = Effects.complete e w.identity p w.services.effects := by
  obtain ⟨outcome, v, hleaves, heffects⟩ := leaves_of_fresh guarded w.restart_calm.calm fresh
  have hrun : (e.attempt w.identity).run w.calm = (.ok outcome, v) := hleaves
  rw [Envelope.uninterrupted, hrun]
  exact heffects

/-! ## 3. The first login -/

/-- What holds at every moment of the first login, and what an attempt therefore starts from:
either no nonce of the message is recorded, and completing it leads where it led at first, or one
is recorded. -/
structure Underway (e : Envelope) (p : Payload) (me : Identity) (x : Effects) (w : Workspace) :
    Prop where
  identity : w.identity = me
  works : w.NoncesWork
  nonces : (∀ n ∈ e.nonces, w.nonces.contains me n = false) ∧
      Effects.complete e me p w.services.effects = x ∨
    ∃ n ∈ e.nonces, w.nonces.contains me n = true

variable {x : Effects}

theorem Underway.sameButTasks {w' : Workspace} (same : w.SameButTasks w')
    (h : Underway e p me x w) : Underway e p me x w' := by
  obtain ⟨_, _, _, _, rfl⟩ := same
  exact ⟨h.identity, h.works, h.nonces⟩

/-- A failed effect is made up for by a later one, because its nonces are released only after it. -/
theorem Underway.attempt (guarded : e.Guarded p) (h : Underway e p me x w) :
    Throughout Call.effect (Underway e p me x) (e.attempt me) w := by
  have hidentity := Work.throughout_identity (e.attempt me) w
  have hworks := Work.throughout_noncesWork (e.attempt me) h.works
  suffices hnonces : Throughout Call.effect
      (fun v => (∀ n ∈ e.nonces, v.nonces.contains me n = false) ∧
          Effects.complete e me p v.services.effects = x ∨
        ∃ n ∈ e.nonces, v.nonces.contains me n = true) (e.attempt me) w from
    fun v hv => ⟨(hidentity v hv).trans h.identity, hworks v hv, hnonces v hv⟩
  refine Envelope.attempt_throughout (fun v v' hv hnonces => ?_) ?_
  · rw [show v'.nonces = v.nonces from congrArg (·.nonces) hv,
      show v'.services = v.services from congrArg (·.services) hv]
    exact hnonces
  rcases h.nonces with ⟨hfresh, hcomplete⟩ | hknown
  · refine (Envelope.handle_guarded_of_fresh guarded h.works hfresh).2 _
      (.inl ⟨hfresh, hcomplete⟩) ?_
    refine Envelope.applyOrRelease_throughout guarded.protects h.works hfresh ?_ ?_
    -- While the effect is under way, the nonces are recorded.
    · refine (e.apply_beside me p _).imp fun v hv => .inr ?_
      obtain ⟨n, hn⟩ := List.exists_mem_of_ne_nil e.nonces guarded.nonces
      refine ⟨n, hn, ?_⟩
      rw [show v.nonces = w.nonces.extend (Nonce.hashes me e.nonces) from congrArg (·.nonces) hv]
      exact NonceStore.contains_extend_hashes hn
    -- They are released only after a failure, and completing what it left behind leads to `x`.
    · intro err v hrun
      have hwithin : (w.recorded me e.nonces).Within fun _ => True :=
        ⟨h.works, fun _ _ => trivial⟩
      have hperformed := Work.run_of_ensures (e.apply_ensures me p _) hwithin
      rw [hrun] at hperformed
      exact .inl ⟨hfresh, hperformed.kept_of_error.complete_eq.trans hcomplete⟩
  · refine (Envelope.handle_guarded_of_known guarded h.works hknown).2.imp fun v hv => ?_
    rw [hv]
    exact .inr hknown

/-- The caller brings nothing but this message. -/
def Brings (e : Envelope) : CallerStage → Prop
  | .outside request => request = .submit (.reflected e)
  | .inside left _ => ∀ entry ∈ left, entry.task = .reflected e

/-- The queue is concerned with nothing but this message. -/
structure FirstLogin (e : Envelope) (p : Payload) (me : Identity) (x : Effects) (q : TaskQueue)
    (w : Workspace) : Prop where
  workspace : Underway e p me x w
  line : ∀ c ∈ q.line, Brings e c.stage
  waiting : ∀ s ∈ q.waiting, s.task = .reflected e
  worker : ∀ s, q.worker.submission? = some s → s.task = .reflected e
  rest : ∀ s failures rest, q.worker = .working s failures rest →
    Throughout Call.effect (Underway e p me x) rest w

variable {q q' : TaskQueue} {w' : Workspace}

theorem FirstLogin.sameButTasks (same : w.SameButTasks w') (h : FirstLogin e p me x q w) :
    FirstLogin e p me x q w' where
  workspace := h.workspace.sameButTasks same
  line := h.line
  waiting := h.waiting
  worker := h.worker
  rest s failures rest hworker := Work.throughout_sameButTasks same
    (fun _ _ hsame hv => Underway.sameButTasks hsame hv) (h.rest s failures rest hworker)

theorem FirstLogin.dismiss (h : FirstLogin e p me x q w) (ticket : Nat) (reply : Reply) :
    FirstLogin e p me x (q.dismiss ticket reply) w where
  workspace := h.workspace
  line c hc := h.line c (List.mem_of_mem_tail hc)
  waiting := h.waiting
  worker := h.worker
  rest := h.rest

theorem FirstLogin.letIn (h : FirstLogin e p me x q w) (ticket : Nat) {left : List Entry}
    (hleft : ∀ entry ∈ left, entry.task = .reflected e) (resumed : Option Nat) :
    FirstLogin e p me x (q.letIn ticket left resumed) w where
  workspace := h.workspace
  line c hc := by
    rcases List.mem_cons.mp hc with rfl | hc
    · exact hleft
    · exact h.line c (List.mem_of_mem_tail hc)
  waiting := h.waiting
  worker := h.worker
  rest := h.rest

theorem FirstLogin.enqueue (h : FirstLogin e p me x q w) {entry : Entry}
    (hentry : entry.task = .reflected e) : FirstLogin e p me x (q.enqueue entry) w where
  workspace := h.workspace
  line := h.line
  waiting s hs := by
    rcases List.mem_append.mp hs with hs | hs
    · exact h.waiting s hs
    · rw [List.mem_singleton.mp hs]
      exact hentry
  worker := h.worker
  rest := h.rest

theorem FirstLogin.announce (h : FirstLogin e p me x q w) (status : QueueStatus) :
    FirstLogin e p me x (q.announce status) w :=
  ⟨h.workspace, h.line, h.waiting, h.worker, h.rest⟩

theorem FirstLogin.halt (h : FirstLogin e p me x q w) (reason : String) :
    FirstLogin e p me x (q.halt reason) w := by
  unfold TaskQueue.halt
  split
  · exact h.announce _
  · exact h

/-- The worker goes on to something that is no attempt. -/
theorem FirstLogin.between (h : FirstLogin e p me x q w) {worker : Worker}
    (hsame : worker.submission? = none ∨ worker.submission? = q.worker.submission?)
    (hidle : ∀ s failures rest, worker ≠ .working s failures rest) :
    FirstLogin e p me x { q with worker } w where
  workspace := h.workspace
  line := h.line
  waiting := h.waiting
  worker s hs := by
    rcases hsame with hnone | hsame
    · rw [hnone] at hs
      exact nomatch hs
    · exact h.worker s (hsame ▸ hs)
  rest s failures rest hworker := absurd hworker (hidle s failures rest)

theorem FirstLogin.caller {line : List Caller} (h : FirstLogin e p me x q w) (hline : q.line = line)
    (move : TaskQueue.CallerMove q w line q' w') : FirstLogin e p me x q' w' := by
  have hfirst : ∀ c ∈ line, Brings e c.stage := hline ▸ h.line
  cases move with
  | refuse | turnAway => exact h.dismiss _ _
  | takeIn id hstatus hdata =>
    obtain rfl : _ = Task.reflected e := Request.submit.inj (hfirst _ List.mem_cons_self)
    exact nomatch hdata
  | @save _ task _ data _ id hstatus hdata hsave =>
    have htask : task = .reflected e := Request.submit.inj (hfirst _ List.mem_cons_self)
    have hsame := w.saveTask_sameButTasks id data
    rw [hsave] at hsame
    refine (h.sameButTasks hsame).letIn _ (fun entry hentry => ?_) _
    rw [List.mem_singleton.mp hentry]
    exact htask
  | @failToSave _ _ _ data _ _ id hstatus hdata hsave =>
    have hsame := w.saveTask_sameButTasks id data
    rw [hsave] at hsame
    exact (h.sameButTasks hsame).dismiss _ _
  -- Nobody in line came to resume what is stored.
  | load | loadNothing | failToLoad =>
    exact nomatch hfirst _ List.mem_cons_self
  | place hgoing hroom =>
    have hleft := hfirst _ List.mem_cons_self
    exact (h.enqueue (hleft _ List.mem_cons_self)).letIn _
      (fun entry hentry => hleft entry (List.mem_cons_of_mem _ hentry)) _
  | placeLast hgoing hroom =>
    exact (h.enqueue (hfirst _ List.mem_cons_self _ List.mem_cons_self)).dismiss _ _

/-- The worker starts an attempt. -/
theorem FirstLogin.attempting (guarded : e.Guarded p) (h : FirstLogin e p me x q w) {s : Submission}
    (hs : q.worker.submission? = some s) (failures : Nat) :
    FirstLogin e p me x { q with worker := .working s failures (s.task.attempt w.identity) } w where
  workspace := h.workspace
  line := h.line
  waiting := h.waiting
  worker s' hs' := h.worker s' (hs.trans hs')
  rest s' failures' rest hworker := by
    obtain ⟨rfl, rfl, rfl⟩ := Worker.working.inj hworker
    rw [h.worker s hs, h.workspace.identity]
    exact h.workspace.attempt guarded

theorem FirstLogin.worker_move {worker : Worker} (guarded : e.Guarded p) (h : FirstLogin e p me x q w)
    (hworker : q.worker = worker) (move : TaskQueue.WorkerMove q w worker q' w') :
    FirstLogin e p me x q' w' := by
  cases move with
  | @take s waiting hwaiting hstatus =>
    have htasks : ∀ s' ∈ s :: waiting, s'.task = .reflected e := hwaiting ▸ h.waiting
    refine ⟨h.workspace, h.line, fun s' hs' => htasks s' (List.mem_cons_of_mem s hs'), ?_, nofun⟩
    intro s' hs'
    obtain rfl := Option.some.inj hs'
    exact htasks s List.mem_cons_self
  | start hstatus => exact h.attempting guarded (by rw [hworker]; rfl) 0
  | retry => exact h.attempting guarded (by rw [hworker]; rfl) _
  | @call s failures c next =>
    have hrest := (throughout_ask.mp (h.rest s failures _ hworker)).2
    refine ⟨hrest.start, h.line, h.waiting, ?_, fun s' failures' rest hrest' => ?_⟩
    · intro s' hs'
      exact h.worker s' (by rw [hworker]; exact hs')
    · obtain ⟨rfl, rfl, rfl⟩ := Worker.working.inj hrest'
      exact hrest
  | @conclude s failures attempted result draw hjudge =>
    cases result with
    | ok outcome => exact h.between (.inr (by rw [hworker]; rfl)) nofun
    | error err =>
      refine (h.halt err.toText).between (.inr ?_) nofun
      rw [(q.halt_beside err.toText).1, hworker]
      rfl
  | rest draw hjudge => exact h.between (.inr (by rw [hworker]; rfl)) nofun
  | @settle s result =>
    have hpublishing : FirstLogin e p me x { q with worker := .publishing s result } w :=
      h.between (.inr (by rw [hworker]; rfl)) nofun
    split
    · exact hpublishing.sameButTasks (w.removeTask_sameButTasks s.id)
    · exact hpublishing
  | publish =>
    have hidle : FirstLogin e p me x { q with worker := .idle } w := h.between (.inl rfl) nofun
    exact ⟨hidle.workspace, hidle.line, hidle.waiting, hidle.worker, hidle.rest⟩
  | breakdown | finish | finishHolding =>
    have hended : FirstLogin e p me x { q with worker := .ended } w := h.between (.inl rfl) nofun
    exact ⟨hended.workspace, hended.line, nofun, hended.worker, hended.rest⟩

theorem FirstLogin.event (guarded : e.Guarded p) (h : FirstLogin e p me x q w)
    (event : TaskQueue.Event q w q' w') : FirstLogin e p me x q' w' := by
  cases event with
  | move move =>
    cases move with
    | caller move => exact h.caller rfl move
    | worker move => exact h.worker_move guarded rfl move
  | withdraw ticket =>
    exact ⟨h.workspace, fun c hc => h.line c (List.mem_filter.mp hc).1, h.waiting, h.worker, h.rest⟩
  | resume =>
    unfold TaskQueue.resume
    split
    · exact h.announce .running
    · exact h
  | stop => exact h.announce .stopped

/-- At every moment of the first login, a crash finds the nonces or the effects from before. -/
theorem underway_of_run (guarded : e.Guarded p) (start : Underway e p me x w) (capacity : Nat)
    (policy : RetryPolicy)
    (run : TaskQueue.Run TaskQueue.Event
      ((TaskQueue.start capacity policy).join (.submit (.reflected e))).2 w q' w') :
    Underway e p me x w' := by
  suffices h : FirstLogin e p me x q' w' from h.workspace
  induction run with
  | start =>
    refine ⟨start, fun c hc => ?_, nofun, nofun, nofun⟩
    rw [List.mem_singleton.mp hc]
    rfl
  | step _ hevent ih => exact ih.event guarded hevent

/-! ## 4. The second login -/

/-- A running queue with this line, these submissions waiting and the worker in this state. -/
structure Looks (q : TaskQueue) (line : List Caller) (waiting : List Submission) (worker : Worker) :
    Prop where
  running : q.status = .running
  room : 0 < q.capacity
  line : q.line = line
  waiting : q.waiting = waiting
  worker : q.worker = worker

/-- How far the second login has come, from the workspace `w₁`, with the message as its only task;
`x` are the effects after the attempt at it. -/
inductive Resumption (e : Envelope) (w₁ : Workspace) (x : Effects) (q : TaskQueue) : Workspace → Prop
  | outside {ticket : Nat} :
      Looks q [⟨ticket, .outside .resumeStored⟩] [] .idle → Resumption e w₁ x q w₁
  | inside {ticket : Nat} {id : TaskId} :
      Looks q [⟨ticket, .inside [⟨id, .reflected e, true⟩] (some 1)⟩] [] .idle → Resumption e w₁ x q w₁
  | waiting {s : Submission} :
      s.task = .reflected e → Looks q [] [s] .idle → Resumption e w₁ x q w₁
  | holding {s : Submission} :
      s.task = .reflected e → Looks q [] [] (.holding s) → Resumption e w₁ x q w₁
  | working {s : Submission} {rest : Work (Except TaskError Outcome)} {w v : Workspace}
      {outcome : Outcome} :
      Looks q [] [] (.working s 0 rest) → rest.run w = (.ok outcome, v) → v.services.effects = x →
      Resumption e w₁ x q w
  | settling {s : Submission} {outcome : Outcome} {w : Workspace} :
      Looks q [] [] (.settling s (.ok outcome)) → w.services.effects = x → Resumption e w₁ x q w
  | publishing {s : Submission} {outcome : Outcome} {w : Workspace} :
      Looks q [] [] (.publishing s (.ok outcome)) → w.services.effects = x → Resumption e w₁ x q w
  | finished {w : Workspace} :
      Looks q [] [] .idle → w.services.effects = x → Resumption e w₁ x q w

section SecondLogin

variable {w₁ : Workspace} {line : List Caller} {waiting : List Submission} {worker : Worker}

theorem Looks.not_stopped (looks : Looks q line waiting worker) : q.status ≠ .stopped := by
  rw [looks.running]
  exact nofun

theorem Looks.become (looks : Looks q line waiting worker) (next : Worker) :
    Looks { q with worker := next } line waiting next :=
  ⟨looks.running, looks.room, looks.line, looks.waiting, rfl⟩

theorem Looks.letIn {c : Caller} (looks : Looks q [c] waiting worker) (ticket : Nat) (left : List Entry)
    (resumed : Option Nat) :
    Looks (q.letIn ticket left resumed) [⟨ticket, .inside left resumed⟩] waiting worker := by
  refine ⟨looks.running, looks.room, ?_, looks.waiting, looks.worker⟩
  rw [TaskQueue.letIn, looks.line]
  rfl

theorem Looks.placeLast {c : Caller} (looks : Looks q [c] [] worker) (entry : Entry) (ticket : Nat)
    (reply : Reply) :
    Looks ((q.enqueue entry).dismiss ticket reply) [] [⟨entry, q.next⟩] worker := by
  refine ⟨looks.running, looks.room, ?_, ?_, looks.worker⟩
  · show q.line.tail = []
    rw [looks.line]
    rfl
  · show q.waiting ++ [⟨entry, q.next⟩] = [⟨entry, q.next⟩]
    rw [looks.waiting]
    rfl

theorem Looks.take {s : Submission} (looks : Looks q line (s :: waiting) worker) :
    Looks { q with worker := .holding s, waiting := waiting } line waiting (.holding s) :=
  ⟨looks.running, looks.room, looks.line, rfl, rfl⟩

/-- With nobody in line, only the worker moves. -/
theorem Looks.workerMove (looks : Looks q [] waiting worker) (move : TaskQueue.Move q w q' w') :
    TaskQueue.WorkerMove q w worker q' w' := by
  cases move with
  | caller move =>
    rw [looks.line] at move
    exact nomatch move
  | worker move => exact looks.worker ▸ move

/-- With nothing to do, only a caller moves. -/
theorem Looks.callerMove (looks : Looks q line [] .idle) (move : TaskQueue.Move q w q' w') :
    TaskQueue.CallerMove q w line q' w' := by
  cases move with
  | caller move => exact looks.line ▸ move
  | worker move =>
    rw [looks.worker] at move
    cases move with
    | take hwaiting hstatus => exact nomatch looks.waiting.symm.trans hwaiting
    | finish hstopped => exact absurd hstopped looks.not_stopped

theorem Resumption.move {id : TaskId} (pending : w₁.loadTasks = (.ok [(id, .reflected e)], w₁))
    (leaves : Leaves e w₁ x)
    (h : Resumption e w₁ x q w) (move : TaskQueue.Move q w q' w') : Resumption e w₁ x q' w' := by
  cases h with
  | @outside ticket looks =>
    cases looks.callerMove move with
    | refuse hstopped => exact absurd hstopped looks.not_stopped
    | load hstatus hload hne =>
      rw [pending] at hload
      cases hload
      exact .inside (looks.letIn ticket [⟨id, .reflected e, true⟩] (some 1))
    | loadNothing hstatus hload => exact nomatch pending.symm.trans hload
    | failToLoad hstatus hload => exact nomatch pending.symm.trans hload
  | @inside ticket id looks =>
    cases looks.callerMove move with
    | turnAway hended =>
      rw [looks.worker] at hended
      exact nomatch hended
    | placeLast hgoing hroom => exact .waiting rfl (looks.placeLast _ _ _)
  | @waiting s hs looks =>
    cases looks.workerMove move with
    | take hwaiting hstatus =>
      obtain ⟨rfl, rfl⟩ := List.cons.inj (looks.waiting.symm.trans hwaiting)
      exact .holding hs looks.take
    | finish hstopped => exact absurd hstopped looks.not_stopped
  | @holding s hs looks =>
    cases looks.workerMove move with
    | start hrunning =>
      obtain ⟨outcome, v, hrun, hv⟩ := leaves
      have hstarted : (s.task.attempt w.identity).run w = (.ok outcome, v) := by
        rw [hs]
        exact hrun
      exact .working (looks.become _) hstarted hv
    | finishHolding hstopped => exact absurd hstopped looks.not_stopped
  | working looks hrun hv =>
    cases looks.workerMove move with
    | call => exact .working (looks.become _) hrun hv
    | conclude draw hjudge =>
      obtain ⟨rfl, rfl⟩ := Prod.mk.inj hrun
      obtain rfl := TaskQueue.Verdict.final.inj hjudge
      exact .settling (looks.become _) hv
    | rest draw hjudge | breakdown draw hjudge =>
      obtain ⟨rfl, rfl⟩ := Prod.mk.inj hrun
      exact nomatch hjudge
  | @settling s outcome _ looks hx =>
    cases looks.workerMove move with
    | settle =>
      refine .publishing (looks.become _) ?_
      split
      · obtain ⟨_, _, _, _, hsame⟩ := w.removeTask_sameButTasks s.id
        rw [hsame]
        exact hx
      · exact hx
  | publishing looks hx =>
    cases looks.workerMove move with
    | publish => exact .finished ⟨looks.running, looks.room, looks.line, looks.waiting, rfl⟩ hx
  | finished looks hx => exact nomatch looks.callerMove move

/-- The moves left lead to rest. -/
def ComesToRest (q : TaskQueue) (w : Workspace) : Prop :=
  ∃ q' w', TaskQueue.Run TaskQueue.Move q w q' w' ∧ TaskQueue.AtRest q' w'

/-- There is a move left, and it leads to rest. -/
def Advances (q : TaskQueue) (w : Workspace) : Prop :=
  ∃ q' w', TaskQueue.Move q w q' w' ∧ ComesToRest q' w'

theorem Advances.comesToRest (h : Advances q w) : ComesToRest q w := by
  obtain ⟨q₁, w₁, hmove, q₂, w₂, hrun, hrest⟩ := h
  exact ⟨q₂, w₂, .head hmove hrun, hrest⟩

theorem finished_atRest (looks : Looks q [] [] .idle) : TaskQueue.AtRest q w :=
  fun _ _ move => nomatch looks.callerMove move

theorem finished_comesToRest (looks : Looks q [] [] .idle) : ComesToRest q w :=
  ⟨q, w, .start, finished_atRest looks⟩

theorem publishing_advances {s : Submission} {result : TaskResult}
    (looks : Looks q [] [] (.publishing s result)) : Advances q w := by
  refine ⟨_, _, .of_worker looks.worker .publish, finished_comesToRest ?_⟩
  exact ⟨looks.running, looks.room, looks.line, looks.waiting, rfl⟩

theorem settling_advances {s : Submission} {result : TaskResult}
    (looks : Looks q [] [] (.settling s result)) : Advances q w :=
  ⟨_, _, .of_worker looks.worker .settle,
    (publishing_advances (looks.become (.publishing s result))).comesToRest⟩

theorem working_advances {s : Submission} {rest : Work (Except TaskError Outcome)} {v : Workspace}
    {outcome : Outcome} (looks : Looks q [] [] (.working s 0 rest))
    (hrun : rest.run w = (.ok outcome, v)) : Advances q w := by
  -- The worker makes the calls that remain, one move for each.
  induction rest generalizing q w with
  | done attempted =>
    obtain ⟨rfl, rfl⟩ := Prod.mk.inj hrun
    exact ⟨_, _, .of_worker looks.worker (.conclude 0 rfl),
      (settling_advances (looks.become (.settling s (.ok outcome)))).comesToRest⟩
  | ask c next ih =>
    exact ⟨_, _, .of_worker looks.worker .call, (ih _ (looks.become _) hrun).comesToRest⟩

theorem holding_advances {s : Submission} (hs : s.task = .reflected e)
    (leaves : Leaves e w x)
    (looks : Looks q [] [] (.holding s)) : Advances q w := by
  obtain ⟨outcome, v, hrun, -⟩ := leaves
  have hstarted : (s.task.attempt w.identity).run w = (.ok outcome, v) := by
    rw [hs]
    exact hrun
  exact ⟨_, _, .of_worker looks.worker (.start looks.running),
    (working_advances (looks.become _) hstarted).comesToRest⟩

theorem waiting_advances {s : Submission} (hs : s.task = .reflected e)
    (leaves : Leaves e w x)
    (looks : Looks q [] [s] .idle) : Advances q w :=
  ⟨_, _, .of_worker looks.worker (.take looks.waiting looks.not_stopped),
    (holding_advances hs leaves looks.take).comesToRest⟩

theorem inside_advances {ticket : Nat} {id : TaskId}
    (leaves : Leaves e w x)
    (looks : Looks q [⟨ticket, .inside [⟨id, .reflected e, true⟩] (some 1)⟩] [] .idle) :
    Advances q w := by
  have hgoing : q.worker.hasEnded = false := by rw [looks.worker]; rfl
  have hroom : q.waiting.length < q.capacity := by rw [looks.waiting]; exact looks.room
  exact ⟨_, _, .of_line looks.line (.placeLast hgoing hroom),
    (waiting_advances rfl leaves (looks.placeLast _ _ _)).comesToRest⟩

theorem outside_advances {ticket : Nat} {id : TaskId}
    (pending : w.loadTasks = (.ok [(id, .reflected e)], w))
    (leaves : Leaves e w x)
    (looks : Looks q [⟨ticket, .outside .resumeStored⟩] [] .idle) : Advances q w :=
  ⟨_, _, .of_line looks.line (.load looks.not_stopped pending (List.cons_ne_nil _ _)),
    (inside_advances leaves (looks.letIn ticket [⟨id, .reflected e, true⟩] (some 1))).comesToRest⟩

/-- Something can move until the message is over, and then the effects are `x`. -/
theorem Resumption.progress {id : TaskId} (pending : w₁.loadTasks = (.ok [(id, .reflected e)], w₁))
    (leaves : Leaves e w₁ x)
    (h : Resumption e w₁ x q w) : Advances q w ∨ TaskQueue.AtRest q w ∧ w.services.effects = x := by
  cases h with
  | outside looks => exact .inl (outside_advances pending leaves looks)
  | inside looks => exact .inl (inside_advances leaves looks)
  | waiting hs looks => exact .inl (waiting_advances hs leaves looks)
  | holding hs looks => exact .inl (holding_advances hs leaves looks)
  | working looks hrun _ => exact .inl (working_advances looks hrun)
  | settling looks _ => exact .inl (settling_advances looks)
  | publishing looks _ => exact .inl (publishing_advances looks)
  | finished looks hx => exact .inr ⟨finished_atRest looks, hx⟩

/-- However far the second login has come, it comes to rest, and then the effects are `x`. -/
theorem resumption_of_run {id : TaskId} {capacity : Nat} {policy : RetryPolicy} (calm : w₁.Calm)
    (pending : w₁.tasks.load = .ok [(id, .reflected e)]) (leaves : Leaves e w₁ x)
    (run : TaskQueue.Run TaskQueue.Move
      ((TaskQueue.start capacity policy).join .resumeStored).2 w₁ q w) :
    ComesToRest q w ∧ (TaskQueue.AtRest q w → w.services.effects = x) := by
  have hload : w₁.loadTasks = (.ok [(id, .reflected e)], w₁) := by
    rw [Workspace.loadTasks, calm.faults, pending]
  have hstage : Resumption e w₁ x q w := by
    induction run with
    | start =>
      exact .outside ⟨rfl, Nat.lt_of_lt_of_le Nat.one_pos (Nat.le_max_right _ _), rfl, rfl, rfl⟩
    | step _ hmove ih => exact ih.move hload leaves hmove
  rcases hstage.progress hload leaves with hadvances | ⟨hrest, hx⟩
  · refine ⟨hadvances.comesToRest, fun hrest => ?_⟩
    obtain ⟨q', w', hmove, -⟩ := hadvances
    exact absurd hmove (hrest q' w')
  · exact ⟨⟨q, w, .start, hrest⟩, fun _ => hx⟩

end SecondLogin

end CrashLemmas

open CrashLemmas

/-- A guarded message with fresh nonces is submitted, and at any moment at which it is stored the
process dies. The next login resumes it, and nothing fails any more. Then that login comes to
rest, and the effects are those of an uninterrupted attempt exactly if the crash came before the
nonces were recorded, or when the effects were already complete. -/
theorem resumed_message_completes_iff {e : Envelope} {p : Payload} {w₀ w w₁ w' : Workspace}
    {q q' : TaskQueue} {capacity capacity' : Nat} {policy policy' : RetryPolicy} {id : TaskId}
    (guarded : e.Guarded p) (works : w₀.NoncesWork)
    (fresh : ∀ n ∈ e.nonces, w₀.nonces.contains w₀.identity n = false)
    (first : TaskQueue.Run TaskQueue.Event
      ((TaskQueue.start capacity policy).join (.submit (.reflected e))).2 w₀ q w)
    (pending : w.tasks.load = .ok [(id, .reflected e)]) (restart : w.Restart w₁)
    (second : TaskQueue.Run TaskQueue.Move
      ((TaskQueue.start capacity' policy').join .resumeStored).2 w₁ q' w') :
    (∃ q'' w'', TaskQueue.Run TaskQueue.Move q' w' q'' w'' ∧ TaskQueue.AtRest q'' w'') ∧
    (TaskQueue.AtRest q' w' →
      (w'.services.effects = e.uninterrupted w₀ ↔
        (∀ n ∈ e.nonces, w.nonces.contains w₀.identity n = false) ∨
          w.services.effects = e.uninterrupted w₀)) := by
  rw [uninterrupted_eq guarded fresh]
  obtain ⟨hidentity, -, hnonces⟩ :=
    underway_of_run guarded ⟨rfl, works, .inl ⟨fresh, rfl⟩⟩ capacity policy first
  have hidentity₁ : w₁.identity = w₀.identity := restart.identity.trans hidentity
  have hpending : w₁.tasks.load = .ok [(id, .reflected e)] := restart.tasks ▸ pending
  rcases hnonces with ⟨hfresh, hcomplete⟩ | hknown
  · have hleaves := leaves_of_fresh guarded restart.calm
      (by rw [hidentity₁, restart.nonces]; exact hfresh)
    rw [hidentity₁, restart.effects, hcomplete] at hleaves
    obtain ⟨hcomes, heffects⟩ := resumption_of_run restart.calm hpending hleaves second
    exact ⟨hcomes, fun hrest => ⟨fun _ => .inl hfresh, fun _ => heffects hrest⟩⟩
  · have hleaves := leaves_of_known guarded restart.calm
      (by rw [hidentity₁, restart.nonces]; exact hknown)
    rw [restart.effects] at hleaves
    obtain ⟨hcomes, heffects⟩ := resumption_of_run restart.calm hpending hleaves second
    refine ⟨hcomes, fun hrest => ?_⟩
    rw [heffects hrest]
    refine ⟨.inr, fun h => h.resolve_left fun hfresh => ?_⟩
    obtain ⟨n, hn, hcontains⟩ := hknown
    exact Bool.false_ne_true ((hfresh n hn).symm.trans hcontains)

namespace Sample

def ballot : Envelope := voteEnvelope 1 [nonce 0]

/-- The name under which the vote is stored. -/
def ballotId : TaskId := ⟨List.replicate 16 0, rfl⟩

/-- The workspace in which the vote is stored. -/
def stored : Workspace := (fresh.saveTask ballotId (.reflected ballot)).2

theorem ballot_guarded : ballot.Guarded (.pollVote vote) :=
  voteEnvelope_guarded 1 (List.cons_ne_nil _ _)

theorem ballot_fresh : ∀ n ∈ ballot.nonces, fresh.nonces.contains fresh.identity n = false :=
  fun _ _ => rfl

theorem stored_of_run : TaskQueue.Run TaskQueue.Event
    ((TaskQueue.start 1 .never).join (.submit (.reflected ballot))).2 fresh
    (((TaskQueue.start 1 .never).join (.submit (.reflected ballot))).2.letIn 0
      [⟨ballotId, .reflected ballot, true⟩] none) stored :=
  .step .start (.move (.of_line rfl (.save ballotId nofun rfl rfl)))

end Sample

open Sample

/-- The process dies when the vote is stored and nothing else was done: the next login casts it. -/
theorem stored_vote_is_cast : ∃ q' w',
    TaskQueue.Run TaskQueue.Move ((TaskQueue.start 1 .never).join .resumeStored).2 stored q' w' ∧
    TaskQueue.AtRest q' w' ∧ w'.services.effects = ballot.uninterrupted fresh := by
  have hrestart : stored.Restart stored := ⟨⟨rfl, rfl, rfl, rfl⟩, rfl, rfl, rfl, rfl⟩
  obtain ⟨⟨q', w', hrun, hrest⟩, -⟩ := resumed_message_completes_iff ballot_guarded fresh_works
    ballot_fresh stored_of_run rfl hrestart .start
  obtain ⟨-, heffects⟩ := resumed_message_completes_iff ballot_guarded fresh_works
    ballot_fresh stored_of_run rfl hrestart hrun
  exact ⟨q', w', hrun, hrest, (heffects hrest).mpr (.inl fun _ _ => rfl)⟩

/-- The process dies when the nonce of the vote is recorded and before the vote is cast: the next
login takes the vote for a duplicate, and the vote is lost. -/
theorem recorded_vote_is_lost : ∃ q w,
    TaskQueue.Run TaskQueue.Event
      ((TaskQueue.start 1 .never).join (.submit (.reflected ballot))).2 fresh q w ∧
    w.tasks.load = .ok [(ballotId, .reflected ballot)] ∧ w.Restart w ∧
    ∀ capacity policy q' w',
      TaskQueue.Run TaskQueue.Move ((TaskQueue.start capacity policy).join .resumeStored).2 w q' w' →
      TaskQueue.AtRest q' w' → w'.services.effects ≠ ballot.uninterrupted fresh := by
  -- The vote gets its place, is taken and attempted, and the first call records its nonce.
  have hrecorded := (((stored_of_run.step
    (.move (.of_line rfl (.placeLast rfl Nat.one_pos)))).step
    (.move (.of_worker rfl (.take rfl nofun)))).step
    (.move (.of_worker rfl (.start rfl)))).step
    (.move (.of_worker rfl .call))
  have hcalm : (stored.recorded owner ballot.nonces).Calm := ⟨rfl, rfl, rfl, rfl⟩
  refine ⟨_, stored.recorded owner ballot.nonces, hrecorded, rfl, ⟨hcalm, rfl, rfl, rfl, rfl⟩, ?_⟩
  intro capacity policy q' w' hrun hrest
  have hmem : nonce 0 ∈ ballot.nonces := List.mem_singleton.mpr rfl
  have hcontains : (stored.nonces.extend (Nonce.hashes owner ballot.nonces)).contains owner (nonce 0) =
      true := NonceStore.contains_extend_hashes hmem
  have hleaves := leaves_of_known ballot_guarded hcalm ⟨nonce 0, hmem, hcontains⟩
  obtain ⟨-, heffects⟩ := resumption_of_run hcalm rfl hleaves hrun
  rw [heffects hrest, uninterrupted_eq ballot_guarded ballot_fresh]
  intro hsame
  exact List.cons_ne_nil _ _ (congrArg Effects.votes hsame).symm

end DeviceSync
