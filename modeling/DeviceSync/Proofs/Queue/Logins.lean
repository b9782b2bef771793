import DeviceSync.Proofs.Queue.OneByOne
import DeviceSync.Proofs.Store.Tasks

/-!
# A succession of logins

The task store outlives the queue. A login puts what is stored into its queue, then takes new tasks,
stores each one before it has a place and removes it when it is done. The process may die at any moment,
or the queue is stopped while its worker and its callers still have something to do; then the next login
comes.

1. `Logins`: how logins succeed each other. `Record` is what is on record about all of them, and `Stay`
   what is known about the present one; both are read off the states of the queue.
2. `Kept`: the tasks that were ever stored, in this order, without those that were removed, are in the
   store. `Holds`: what a queue has in hand is known.
3. A worker keeps both (`Kept.worker`).
4. A caller keeps both (`Kept.caller`), and so does what callers do meanwhile (`Holds.called`).
-/

namespace DeviceSync

/-! ## 1. Logins -/

/-- No call to the task store is about to fail. -/
structure Workspace.TasksWork (w : Workspace) : Prop where
  save : w.faults.save = none
  remove : w.faults.remove = none
  load : w.faults.load = none

/-- The form in which an entry is stored, if its task can be stored. -/
def Entry.data? (e : Entry) : Option (TaskId × TaskData) := e.task.data?.map (e.id, ·)

/-- The entry for a task that was found in the store. -/
def Entry.ofStored (t : TaskId × TaskData) : Entry := ⟨t.1, .ofData t.2, true⟩

/-- What a caller still has to place. -/
def Caller.left (c : Caller) : List Entry :=
  match c.stage with
  | .inside left _ => left
  | .outside _ => []

/-- Whether a new task has a place in the queue. -/
def Reply.isQueued : Reply → Bool
  | .queued _ => true
  | _ => false

namespace TaskQueue

/-- The new tasks that are let in when the queue becomes another one. -/
def admitted (q q' : TaskQueue) : List Entry :=
  match q.line, q'.line with
  | ⟨_, .outside (.submit _)⟩ :: _, c :: _ => c.left
  | _, _ => []

/-- What gets a place. -/
def entered (q q' : TaskQueue) : List Entry := (q'.waiting.drop q.waiting.length).map (·.toEntry)

/-- The new tasks whose callers are told that they have a place. -/
def accepted (q q' : TaskQueue) : List Entry :=
  if (q'.replies.drop q.replies.length).any (·.2.isQueued) then q.entered q' else []

/-- The tasks whose result becomes certain. -/
def decided (q q' : TaskQueue) : List TaskId :=
  match q.worker, q'.worker with
  | .working s _ _, .settling _ _ => [s.id]
  | _, _ => []

/-- The tasks whose result is told. -/
def told (q q' : TaskQueue) : List TaskId := (q'.published.drop q.published.length).map (·.id)

/-- Whether the stored tasks are about to be read. -/
def looksUp (q : TaskQueue) : Bool :=
  match q.line with
  | ⟨_, .outside .resumeStored⟩ :: _ => true
  | _ => false

/-- What callers do: they join the line or give up, and someone resumes or stops the queue. -/
inductive Called (q : TaskQueue) : TaskQueue → Prop
  | join (request : Request) : Called q (q.join request).2
  | withdraw (ticket : Nat) : Called q (q.withdraw ticket)
  | resume : Called q q.resume.2
  | stop : Called q q.stop

end TaskQueue

/-- What is on record about a succession of logins. -/
structure Record where
  /-- The names of all tasks. -/
  named : List TaskId
  /-- The tasks that were stored, in the order in which their callers were let in. -/
  submitted : List (TaskId × TaskData)
  /-- The tasks that were accepted. -/
  accepted : List Entry
  /-- The tasks whose result was certain at some moment. -/
  decided : List TaskId := []
  /-- The tasks whose result was told. -/
  told : List TaskId := []

namespace Record

/-- The store holds these tasks before the first login. They count as accepted. -/
def ofStored (l : List (TaskId × TaskData)) : Record where
  named := l.map (·.1)
  submitted := l
  accepted := l.map Entry.ofStored

/-- What is put on record when a queue becomes another one. -/
def note (h : Record) (q q' : TaskQueue) : Record where
  named := h.named ++ (q.admitted q').map (·.id)
  submitted := h.submitted ++ (q.admitted q').filterMap Entry.data?
  accepted := h.accepted ++ q.accepted q'
  decided := h.decided ++ q.decided q'
  told := h.told ++ q.told q'

end Record

/-- A login and the time until the next one. -/
structure Stay where
  queue : TaskQueue
  /-- What it found in the store. -/
  found : List (TaskId × TaskData) := []
  /-- What got a place in its queue, in order. -/
  entered : List Entry := []

namespace Stay

/-- A login asks first for what is stored. -/
def start (capacity : Nat) (policy : RetryPolicy) : Stay where
  queue := ((TaskQueue.start capacity policy).join .resumeStored).2

/-- The queue becomes another one. -/
def proceed (l : Stay) (w : Workspace) (q' : TaskQueue) : Stay where
  queue := q'
  found := if l.queue.looksUp then w.pending else l.found
  entered := l.entered ++ l.queue.entered q'

end Stay

/-- How logins succeed each other; `earlier` are the stopped queues of earlier logins in the same
process. New tasks get new names, and the task store does not fail. -/
inductive Logins : Record → List TaskQueue → Stay → Workspace → Prop
  | first {stored : List (TaskId × TaskData)} {w : Workspace} (capacity : Nat) (policy : RetryPolicy) :
      w.tasks.Keeps stored → w.TasksWork →
      Logins (.ofStored stored) [] (.start capacity policy) w
  | move {h : Record} {earlier : List TaskQueue} {l : Stay} {q' : TaskQueue} {w w' : Workspace} :
      Logins h earlier l w → TaskQueue.Move l.queue w q' w' →
      (∀ e ∈ l.queue.admitted q', e.id ∉ h.named) →
      Logins (h.note l.queue q') earlier (l.proceed w q') w'
  | submit {h : Record} {earlier : List TaskQueue} {l : Stay} {w : Workspace} (task : Task) :
      Logins h earlier l w → (∀ data, task.data? = some data → w.tasks.Takes data) →
      Logins h earlier { l with queue := (l.queue.join (.submit task)).2 } w
  /-- A caller gives up, other than the one with the first ticket, who puts the stored tasks into the
  queue. -/
  | withdraw {h : Record} {earlier : List TaskQueue} {l : Stay} {w : Workspace} {ticket : Nat} :
      Logins h earlier l w → ticket ≠ 0 →
      Logins h earlier { l with queue := l.queue.withdraw ticket } w
  | resume {h : Record} {earlier : List TaskQueue} {l : Stay} {w : Workspace} :
      Logins h earlier l w → Logins h earlier { l with queue := l.queue.resume.2 } w
  | stop {h : Record} {earlier : List TaskQueue} {l : Stay} {w : Workspace} :
      Logins h earlier l w → Logins h earlier { l with queue := l.queue.stop } w
  /-- Others act on the workspace, but not on the task store. -/
  | meanwhile {h : Record} {earlier : List TaskQueue} {l : Stay} {w w' : Workspace} :
      Logins h earlier l w → w'.tasks = w.tasks → w'.TasksWork → Logins h earlier l w'
  /-- The queue of an earlier login goes on with what it has in hand. -/
  | linger {h : Record} {before after : List TaskQueue} {o o' : TaskQueue} {l : Stay}
      {w w' : Workspace} :
      Logins h (before ++ o :: after) l w → TaskQueue.Move o w o' w' →
      Logins (h.note o o') (before ++ o' :: after) l w'
  /-- Somebody still calls the queue of an earlier login. -/
  | late {h : Record} {before after : List TaskQueue} {o o' : TaskQueue} {l : Stay} {w : Workspace} :
      Logins h (before ++ o :: after) l w → TaskQueue.Called o o' →
      Logins h (before ++ o' :: after) l w
  /-- The queue is stopped, and the next login comes. -/
  | login {h : Record} {earlier : List TaskQueue} {l : Stay} {w : Workspace} (capacity : Nat)
      (policy : RetryPolicy) :
      Logins h earlier l w → Logins h (earlier ++ [l.queue.stop]) (.start capacity policy) w
  /-- The process dies, and the next one logs in. -/
  | crash {h : Record} {earlier : List TaskQueue} {l : Stay} {w : Workspace} (capacity : Nat)
      (policy : RetryPolicy) :
      Logins h earlier l w → Logins h [] (.start capacity policy) w

namespace LoginLemmas

/-! ## 2. What is kept -/

variable {takes : TaskData → Prop} {h h' : Record} {removed removed' : List TaskId}
variable {q q' : TaskQueue} {w w' : Workspace} {e : Entry}

/-- What was ever stored is in the store, unless it was removed. -/
structure Kept (takes : TaskData → Prop) (h : Record) (removed : List TaskId) (w : Workspace) :
    Prop where
  works : w.TasksWork
  kind : w.tasks.Takes = takes
  keeps : w.tasks.Keeps (h.submitted.filter (·.1 ∉ removed))
  named : ∀ t ∈ h.submitted, t.1 ∈ h.named
  accepted : ∀ e ∈ h.accepted, ∀ t, e.data? = some t → t ∈ h.submitted
  done : removed ⊆ h.decided
  decided : h.decided ⊆ h.named
  told : h.told ⊆ h.named
  gone : ∀ t ∈ h.submitted, t.1 ∈ h.told → t.1 ∈ removed

/-- An entry has a name. Its task was stored if that is possible, and no task was stored under its name
unless it is marked as stored. -/
structure Known (h : Record) (e : Entry) : Prop where
  named : e.id ∈ h.named
  submitted : ∀ t, e.data? = some t → t ∈ h.submitted
  unsaved : e.stored = false → ∀ t ∈ h.submitted, t.1 ≠ e.id

/-- What the worker has in hand is known. -/
def Handles (h : Record) (removed : List TaskId) : Worker → Prop
  | .idle | .ended => True
  | .holding s | .working s _ _ | .resting s _ => Known h s.toEntry
  | .settling s _ => Known h s.toEntry ∧ s.id ∈ h.decided
  | .publishing s _ => Known h s.toEntry ∧ ∀ t ∈ h.submitted, t.1 = s.id → s.id ∈ removed

/-- What a queue has in hand is known. -/
structure Holds (h : Record) (removed : List TaskId) (q : TaskQueue) : Prop where
  line : ∀ c ∈ q.line, ∀ e ∈ c.left, Known h e
  behind : ∀ c ∈ q.line.tail, c.left = []
  waiting : ∀ s ∈ q.waiting, Known h s.toEntry
  worker : Handles h removed q.worker

/-- More is on record and removed than before, and what was stored meanwhile has a new name. -/
structure Grows (h : Record) (removed : List TaskId) (h' : Record) (removed' : List TaskId) : Prop where
  named : h.named ⊆ h'.named
  decided : h.decided ⊆ h'.decided
  submitted : h.submitted ⊆ h'.submitted
  fresh : ∀ t ∈ h'.submitted, t ∈ h.submitted ∨ t.1 ∉ h.named
  removed : removed ⊆ removed'

theorem Kept.pending (kept : Kept takes h removed w) :
    w.pending = h.submitted.filter (·.1 ∉ removed) := by
  rw [Workspace.pending, kept.keeps.load]
  rfl

theorem Kept.mem_pending (kept : Kept takes h removed w) {t : TaskId × TaskData}
    (mem : t ∈ w.pending) : t ∈ h.submitted ∧ t.1 ∉ removed := by
  rw [kept.pending, List.mem_filter] at mem
  exact ⟨mem.1, of_decide_eq_true mem.2⟩

theorem Kept.loadTasks (kept : Kept takes h removed w) : w.loadTasks = (.ok w.pending, w) := by
  rw [Workspace.loadTasks, kept.works.load, kept.pending, kept.keeps.load]

theorem Known.grow (known : Known h e) (grows : Grows h removed h' removed') : Known h' e where
  named := grows.named known.named
  submitted t ht := grows.submitted (known.submitted t ht)
  unsaved hstored t ht hsame := by
    rcases grows.fresh t ht with ht | hfresh
    · exact known.unsaved hstored t ht hsame
    · exact hfresh (hsame ▸ known.named)

theorem Handles.grow {worker : Worker} (handles : Handles h removed worker)
    (grows : Grows h removed h' removed') : Handles h' removed' worker := by
  cases worker with
  | idle | ended => trivial
  | holding | working | resting => exact Known.grow handles grows
  | settling => exact ⟨handles.1.grow grows, grows.decided handles.2⟩
  | publishing =>
    refine ⟨handles.1.grow grows, fun t ht hsame => ?_⟩
    rcases grows.fresh t ht with ht | hfresh
    · exact grows.removed (handles.2 t ht hsame)
    · exact absurd (hsame ▸ handles.1.named) hfresh

theorem Holds.grow (holds : Holds h removed q) (grows : Grows h removed h' removed') :
    Holds h' removed' q where
  line c hc e he := (holds.line c hc e he).grow grows
  behind := holds.behind
  waiting s hs := (holds.waiting s hs).grow grows
  worker := holds.worker.grow grows

/-- What is put on record only grows, where new tasks get new names. -/
theorem grows_note (fresh : ∀ e ∈ q.admitted q', e.id ∉ h.named) (subset : removed ⊆ removed') :
    Grows h removed (h.note q q') removed' where
  named := List.subset_append_left _ _
  decided := List.subset_append_left _ _
  submitted := List.subset_append_left _ _
  fresh t ht := by
    refine (List.mem_append.mp ht).imp_right fun ht => ?_
    obtain ⟨e, he, hdata⟩ := List.mem_filterMap.mp ht
    obtain ⟨_, -, rfl⟩ := Option.map_eq_some_iff.mp hdata
    exact fresh e he
  removed := subset

/-! ## 3. Moves of a worker -/

theorem admitted_eq_nil (line : q'.line = q.line) : q.admitted q' = [] := by
  rw [TaskQueue.admitted, line]
  split
  · rename_i hfirst hsame
    obtain ⟨rfl, -⟩ := List.cons.inj (hfirst.symm.trans hsame)
    rfl
  · rfl

theorem accepted_eq_nil (replies : q'.replies = q.replies) : q.accepted q' = [] := by
  simp [TaskQueue.accepted, replies]

theorem told_eq_nil (published : q'.published = q.published) : q.told q' = [] := by
  simp [TaskQueue.told, published]

theorem entered_eq_nil (waiting : q'.waiting <:+ q.waiting) : q.entered q' = [] := by
  rw [TaskQueue.entered, List.drop_eq_nil_of_le waiting.length_le]
  rfl

/-- A worker decides and tells. -/
theorem note_worker {worker : Worker} (move : TaskQueue.WorkerMove q w worker q' w') (h : Record) :
    h.note q q' = { h with decided := h.decided ++ q.decided q', told := h.told ++ q.told q' } := by
  obtain ⟨hline, hreplies, -, -⟩ := move.beside
  rw [Record.note, admitted_eq_nil hline, accepted_eq_nil hreplies, List.map_nil, List.filterMap_nil,
    List.append_nil, List.append_nil, List.append_nil]

theorem removeTask_eq (works : w.TasksWork) (id : TaskId) :
    (w.removeTask id).2 = { w with tasks := w.tasks.remove id } := by
  rw [Workspace.removeTask, works.remove]

/-- The store and its faults are as before. -/
structure SameStore (w w' : Workspace) : Prop where
  tasks : w'.tasks = w.tasks
  works : w.TasksWork → w'.TasksWork

theorem sameStore_effect (c : Call) (w : Workspace) : SameStore w (c.effect w).2 := by
  have hbackstage := c.backstage_effect w
  refine ⟨congrArg Backstage.tasks hbackstage, fun works => ⟨?_, ?_, ?_⟩⟩
  · exact (congrArg Backstage.save hbackstage).trans works.save
  · exact (congrArg Backstage.remove hbackstage).trans works.remove
  · exact (congrArg Backstage.load hbackstage).trans works.load

theorem Kept.sameStore (kept : Kept takes h removed w) (same : SameStore w w') :
    Kept takes h removed w' :=
  { kept with
    works := same.works kept.works
    kind := same.tasks ▸ kept.kind
    keeps := same.tasks ▸ kept.keeps }

/-- A result becomes certain. -/
theorem Kept.certain {id : TaskId} (kept : Kept takes h removed w) (named : id ∈ h.named) :
    Kept takes { h with decided := h.decided ++ [id] } removed w :=
  { kept with
    done := List.subset_append_of_subset_left _ kept.done
    decided := List.append_subset.mpr
      ⟨kept.decided, List.cons_subset.mpr ⟨named, List.nil_subset _⟩⟩ }

/-- A task is removed when its result is certain. -/
theorem Kept.remove {id : TaskId} (kept : Kept takes h removed w) (decided : id ∈ h.decided) :
    Kept takes h (removed ++ [id]) (w.removeTask id).2 := by
  have hkeeps := kept.keeps.remove id
  rw [List.filter_filter] at hkeeps
  have hfilter : h.submitted.filter (·.1 ∉ removed ++ [id]) =
      h.submitted.filter fun t => t.1 != id && decide (t.1 ∉ removed) := by
    congr 1
    funext t
    by_cases hsame : t.1 = id <;> simp [hsame]
  rw [removeTask_eq kept.works]
  exact { kept with
    works := ⟨kept.works.save, kept.works.remove, kept.works.load⟩
    kind := TaskStore.takes_remove.trans kept.kind
    keeps := hfilter ▸ hkeeps
    done := List.append_subset.mpr
      ⟨kept.done, List.cons_subset.mpr ⟨decided, List.nil_subset _⟩⟩
    gone := fun t ht htold => List.mem_append_left _ (kept.gone t ht htold) }

/-- A result is told when the task is not in the store any more. -/
theorem Kept.tell {id : TaskId} (kept : Kept takes h removed w) (named : id ∈ h.named)
    (gone : ∀ t ∈ h.submitted, t.1 = id → id ∈ removed) :
    Kept takes { h with told := h.told ++ [id] } removed w :=
  { kept with
    told := List.append_subset.mpr ⟨kept.told, List.cons_subset.mpr ⟨named, List.nil_subset _⟩⟩
    gone := fun t ht htold => by
      rcases List.mem_append.mp htold with htold | hlast
      · exact kept.gone t ht htold
      · rw [List.mem_singleton.mp hlast]
        exact gone t ht (List.mem_singleton.mp hlast) }

/-- What a worker has in hand after a move is known. -/
theorem Kept.handled {worker : Worker} (kept : Kept takes h removed w)
    (handles : Handles h removed worker) (waiting : ∀ s ∈ q.waiting, Known h s.toEntry)
    (hworker : q.worker = worker) (move : TaskQueue.WorkerMove q w worker q' w') :
    ∃ removed', removed ⊆ removed' ∧ Kept takes (h.note q q') removed' w' ∧
      Handles (h.note q q') removed' q'.worker := by
  have hnote := note_worker move h
  generalize h.note q q' = h' at hnote ⊢
  cases move with
  | @take s _ hwaiting _ =>
    have hsame : h' = h := by simpa [TaskQueue.decided, TaskQueue.told, hworker] using hnote
    rw [hsame]
    exact ⟨removed, List.Subset.refl _, kept, waiting s (hwaiting ▸ List.mem_cons_self)⟩
  | start | rest | retry =>
    have hsame : h' = h := by simpa [TaskQueue.decided, TaskQueue.told, hworker] using hnote
    rw [hsame]
    exact ⟨removed, List.Subset.refl _, kept, handles⟩
  | @call _ _ c _ =>
    have hsame : h' = h := by simpa [TaskQueue.decided, TaskQueue.told, hworker] using hnote
    rw [hsame]
    exact ⟨removed, List.Subset.refl _, kept.sameStore (sameStore_effect c w), handles⟩
  | breakdown | finish | finishHolding =>
    have hsame : h' = h := by
      simpa [TaskQueue.decided, TaskQueue.told, TaskQueue.endWorker, hworker] using hnote
    rw [hsame]
    exact ⟨removed, List.Subset.refl _, kept, trivial⟩
  | @conclude s _ _ result _ _ =>
    obtain ⟨status, announcements, hconclude, -⟩ := q.conclude_eq s result
    rw [hconclude] at hnote ⊢
    have hcertain : h' = { h with decided := h.decided ++ [s.id] } := by
      simpa [TaskQueue.decided, TaskQueue.told, hworker] using hnote
    have hknown : Known h s.toEntry := handles
    rw [hcertain]
    exact ⟨removed, List.Subset.refl _, kept.certain hknown.named,
      ⟨⟨hknown.named, hknown.submitted, hknown.unsaved⟩,
        List.mem_append_right _ (List.mem_singleton_self _)⟩⟩
  | @settle s result =>
    have hsame : h' = h := by simpa [TaskQueue.decided, TaskQueue.told, hworker] using hnote
    obtain ⟨hknown, hdecided⟩ := handles
    rw [hsame]
    cases hstored : s.stored with
    | false =>
      exact ⟨removed, List.Subset.refl _, kept,
        ⟨hknown, fun t ht hid => absurd hid (hknown.unsaved hstored t ht)⟩⟩
    | true =>
      exact ⟨removed ++ [s.id], List.subset_append_left _ _, kept.remove hdecided,
        ⟨hknown, fun _ _ _ => List.mem_append_right _ (List.mem_singleton_self _)⟩⟩
  | @publish s result =>
    have htold : h' = { h with told := h.told ++ [s.id] } := by
      simpa [TaskQueue.decided, TaskQueue.told, hworker] using hnote
    obtain ⟨hknown, hgone⟩ := handles
    rw [htold]
    exact ⟨removed, List.Subset.refl _, kept.tell hknown.named hgone, trivial⟩

theorem Kept.worker (kept : Kept takes h removed w) (holds : Holds h removed q)
    (move : TaskQueue.WorkerMove q w q.worker q' w') :
    ∃ removed', removed ⊆ removed' ∧ Kept takes (h.note q q') removed' w' ∧
      Holds (h.note q q') removed' q' := by
  obtain ⟨removed', hsubset, hkept, hhandles⟩ :=
    kept.handled holds.worker holds.waiting rfl move
  obtain ⟨hline, -, -, hwaiting⟩ := move.beside
  have hgrown : Holds (h.note q q') removed' q := by
    refine holds.grow (grows_note ?_ hsubset)
    rw [admitted_eq_nil hline]
    exact List.forall_mem_nil _
  exact ⟨removed', hsubset, hkept, hline ▸ hgrown.line, hline ▸ hgrown.behind,
    fun s hs => hgrown.waiting s (hwaiting.subset hs), hhandles⟩

/-! ## 4. Callers -/

/-- A caller puts only names, stored tasks and accepted tasks on record. -/
theorem note_caller (h : Record) (worker : q'.worker = q.worker) (published : q'.published = q.published) :
    h.note q q' =
      { h with
        named := h.named ++ (q.admitted q').map (·.id)
        submitted := h.submitted ++ (q.admitted q').filterMap Entry.data?
        accepted := h.accepted ++ q.accepted q' } := by
  have hdecided : q.decided q' = [] := by
    rw [TaskQueue.decided, worker]
    split
    · rename_i hworking hsettling
      exact nomatch hworking.symm.trans hsettling
    · rfl
  rw [Record.note, hdecided, told_eq_nil published, List.append_nil, List.append_nil]

theorem admitted_dismiss {ticket : Nat} {reply : Reply} (behind : ∀ c ∈ q.line.tail, c.left = []) :
    q.admitted (q.dismiss ticket reply) = [] := by
  rw [TaskQueue.admitted]
  split
  · rename_i hline
    exact behind _ (List.mem_of_mem_head? (congrArg List.head? hline))
  · rfl

/-- A caller leaves without a place. -/
theorem note_dismiss {ticket : Nat} {reply : Reply} (h : Record) (queued : reply.isQueued = false)
    (behind : ∀ c ∈ q.line.tail, c.left = []) : h.note q (q.dismiss ticket reply) = h := by
  have haccepted : q.accepted (q.dismiss ticket reply) = [] := by
    simp [TaskQueue.accepted, TaskQueue.dismiss, queued]
  have hnote : h.note q (q.dismiss ticket reply) = _ := note_caller h rfl rfl
  rw [hnote, admitted_dismiss behind, haccepted, List.map_nil, List.filterMap_nil, List.append_nil,
    List.append_nil, List.append_nil]

/-- A caller with a new task is let in. -/
theorem note_letIn {ticket : Nat} {task : Task} {others : List Caller} {e : Entry} (h : Record)
    (line : q.line = ⟨ticket, .outside (.submit task)⟩ :: others) :
    h.note q (q.letIn ticket [e] none) =
      { h with named := h.named ++ [e.id], submitted := h.submitted ++ e.data?.toList } := by
  have hdata : [e].filterMap Entry.data? = e.data?.toList := by
    cases he : e.data? <;> simp [he]
  have hnote : h.note q (q.letIn ticket [e] none) = _ := note_caller h rfl rfl
  rw [hnote]
  simp [TaskQueue.admitted, TaskQueue.accepted, TaskQueue.letIn, Caller.left, line, hdata]

theorem resumeStored_ne_submit (task : Task) :
    CallerStage.outside .resumeStored ≠ .outside (.submit task) := nofun

theorem inside_ne_submit (left : List Entry) (resumed : Option Nat) (task : Task) :
    CallerStage.inside left resumed ≠ .outside (.submit task) := nofun

/-- Only a caller with a new task brings one in. -/
theorem admitted_eq_nil_of_line {c : Caller} {others : List Caller} (line : q.line = c :: others)
    (other : ∀ task, c.stage ≠ .outside (.submit task)) : q.admitted q' = [] := by
  rw [TaskQueue.admitted, line]
  split
  · rename_i hfirst _
    obtain ⟨rfl, -⟩ := List.cons.inj hfirst
    exact absurd rfl (other _)
  · rfl

/-- The first caller in line, who brings no new task in, has more to place. -/
theorem note_letIn_other {ticket : Nat} {c : Caller} {others : List Caller} {left : List Entry}
    {resumed : Option Nat} (h : Record) (line : q.line = c :: others)
    (other : ∀ task, c.stage ≠ .outside (.submit task)) (worker : q'.worker = q.worker)
    (published : q'.published = q.published) (replies : q'.replies = q.replies) :
    h.note q (q'.letIn ticket left resumed) = h := by
  have hnote : h.note q (q'.letIn ticket left resumed) = _ := note_caller h worker published
  have haccepted : q.accepted (q'.letIn ticket left resumed) = [] := accepted_eq_nil replies
  rw [hnote, haccepted, admitted_eq_nil_of_line line other, List.map_nil, List.filterMap_nil,
    List.append_nil, List.append_nil, List.append_nil]

/-- The last entry of a caller gets a place. -/
theorem note_placeLast {ticket : Nat} {e : Entry} {left : List Entry} {resumed : Option Nat}
    {others : List Caller} (reply : Reply) (h : Record)
    (line : q.line = ⟨ticket, .inside left resumed⟩ :: others) :
    h.note q ((q.enqueue e).dismiss ticket reply) =
      { h with accepted := h.accepted ++ if reply.isQueued then [e] else [] } := by
  have hnote : h.note q ((q.enqueue e).dismiss ticket reply) = _ := note_caller h rfl rfl
  rw [hnote, admitted_eq_nil_of_line line (inside_ne_submit _ _)]
  simp [TaskQueue.accepted, TaskQueue.entered, TaskQueue.enqueue, TaskQueue.dismiss]

/-- A new name is given. -/
theorem Kept.name (kept : Kept takes h removed w) (id : TaskId) :
    Kept takes { h with named := h.named ++ [id] } removed w :=
  { kept with
    named := fun t ht => List.mem_append_left _ (kept.named t ht)
    decided := List.subset_append_of_subset_left _ kept.decided
    told := List.subset_append_of_subset_left _ kept.told }

/-- A task is stored under a new name. -/
theorem Kept.save {id : TaskId} {data : TaskData} (kept : Kept takes h removed w)
    (fresh : id ∉ h.named) (taken : takes data) :
    Kept takes { h with named := h.named ++ [id], submitted := h.submitted ++ [(id, data)] } removed
      { w with tasks := w.tasks.save id data } := by
  have hunsaved : ∀ t ∈ h.submitted, t.1 ≠ id := fun t ht hsame => fresh (hsame ▸ kept.named t ht)
  have hundone : id ∉ removed := fun hremoved => fresh (kept.decided (kept.done hremoved))
  have huntold : id ∉ h.told := fun htold => fresh (kept.told htold)
  have htaken : w.tasks.Takes data := by rwa [← kept.kind] at taken
  have hkeeps := kept.keeps.save htaken fun t ht => hunsaved t (List.mem_of_mem_filter ht)
  have hfilter : (h.submitted ++ [(id, data)]).filter (·.1 ∉ removed) =
      h.submitted.filter (·.1 ∉ removed) ++ [(id, data)] := by
    simp [hundone]
  exact { kept.name id with
    works := ⟨kept.works.save, kept.works.remove, kept.works.load⟩
    kind := TaskStore.takes_save.trans kept.kind
    keeps := hfilter ▸ hkeeps
    named := fun t ht => by
      rcases List.mem_append.mp ht with ht | ht
      · exact List.mem_append_left _ (kept.named t ht)
      · rw [List.mem_singleton.mp ht]
        exact List.mem_append_right _ (List.mem_singleton_self _)
    accepted := fun e he t ht => List.mem_append_left _ (kept.accepted e he t ht)
    gone := fun t ht htold => by
      rcases List.mem_append.mp ht with ht | ht
      · exact kept.gone t ht htold
      · rw [List.mem_singleton.mp ht] at htold
        exact absurd htold huntold }

/-- A known entry is accepted. -/
theorem Kept.accept (kept : Kept takes h removed w) {entries : List Entry}
    (known : ∀ e ∈ entries, Known h e) :
    Kept takes { h with accepted := h.accepted ++ entries } removed w :=
  { kept with
    accepted := fun e he => by
      rcases List.mem_append.mp he with he | he
      · exact kept.accepted e he
      · exact (known e he).submitted }

theorem Holds.dismiss (holds : Holds h removed q) (ticket : Nat) (reply : Reply) :
    Holds h removed (q.dismiss ticket reply) :=
  { holds with
    line := fun c hc => holds.line c (List.mem_of_mem_tail hc)
    behind := fun c hc => holds.behind c (List.mem_of_mem_tail hc) }

theorem Holds.letIn (holds : Holds h removed q) {left : List Entry} (known : ∀ e ∈ left, Known h e)
    (ticket : Nat) (resumed : Option Nat) : Holds h removed (q.letIn ticket left resumed) :=
  { holds with
    line := fun c hc => by
      rcases List.mem_cons.mp hc with rfl | hc
      · exact known
      · exact holds.line c (List.mem_of_mem_tail hc) }

theorem Holds.enqueue (holds : Holds h removed q) (known : Known h e) :
    Holds h removed (q.enqueue e) :=
  { holds with
    waiting := fun s hs => by
      rcases List.mem_append.mp hs with hs | hs
      · exact holds.waiting s hs
      · rw [List.mem_singleton.mp hs]
        exact known }

/-- What is found in the store is known. -/
theorem Kept.known_ofStored (kept : Kept takes h removed w) {t : TaskId × TaskData}
    (mem : t ∈ h.submitted) : Known h (.ofStored t) where
  named := kept.named t mem
  submitted t' ht' := by
    obtain ⟨id, e⟩ := t
    cases ht'
    exact mem
  unsaved := nofun

/-- A new task that cannot be stored is known once it has a name. -/
theorem Kept.known_new {id : TaskId} {task : Task} (kept : Kept takes h removed w)
    (fresh : id ∉ h.named) (unstorable : task.data? = none) :
    Known { h with named := h.named ++ [id] } ⟨id, task, false⟩ where
  named := List.mem_append_right _ (List.mem_singleton_self _)
  submitted t ht := by
    rw [Entry.data?, unstorable] at ht
    cases ht
  unsaved _ t ht hsame := by
    obtain rfl : t.1 = id := hsame
    exact fresh (kept.named t ht)

/-- A new task that was just stored is known. -/
theorem known_saved {id : TaskId} {task : Task} {data : TaskData} (hdata : task.data? = some data) :
    Known { h with named := h.named ++ [id], submitted := h.submitted ++ [(id, data)] }
      ⟨id, task, true⟩ where
  named := List.mem_append_right _ (List.mem_singleton_self _)
  submitted t ht := by
    rw [Entry.data?, hdata] at ht
    cases ht
    exact List.mem_append_right _ (List.mem_singleton_self _)
  unsaved hstored := Bool.noConfusion hstored

theorem Kept.caller (kept : Kept takes h removed w) (holds : Holds h removed q)
    (fresh : ∀ e ∈ q.admitted q', e.id ∉ h.named)
    (taken : q.status ≠ .stopped → ∀ c ∈ q.line, ∀ task data, c.stage = .outside (.submit task) →
      task.data? = some data → takes data)
    (move : TaskQueue.CallerMove q w q.line q' w') :
    Kept takes (h.note q q') removed w' ∧ Holds (h.note q q') removed q' := by
  have hgrows : Grows h removed (h.note q q') removed := grows_note fresh (List.Subset.refl _)
  have hloaded := kept.loadTasks
  generalize hline : q.line = line at move
  cases move with
  | refuse | turnAway =>
    rw [note_dismiss h rfl holds.behind]
    exact ⟨kept, holds.dismiss _ _⟩
  | @takeIn ticket task _ id _ hdata =>
    have hnone : Entry.data? ⟨id, task, false⟩ = none := by rw [Entry.data?, hdata]; rfl
    have hid : id ∉ h.named := fresh ⟨id, task, false⟩
      (by simp [TaskQueue.admitted, TaskQueue.letIn, Caller.left, hline])
    have hheld := holds.grow hgrows
    rw [note_letIn h hline, hnone, Option.toList_none, List.append_nil] at hheld ⊢
    refine ⟨kept.name id, hheld.letIn (fun e he => ?_) ticket none⟩
    rw [List.mem_singleton.mp he]
    exact kept.known_new hid hdata
  | @save ticket task _ data _ id hstatus hdata hsave =>
    have hsome : Entry.data? ⟨id, task, true⟩ = some (id, data) := by rw [Entry.data?, hdata]; rfl
    have hid : id ∉ h.named := fresh ⟨id, task, true⟩
      (by simp [TaskQueue.admitted, TaskQueue.letIn, Caller.left, hline])
    have htaken : takes data := taken hstatus _ (hline ▸ List.mem_cons_self) task data rfl hdata
    rw [Workspace.saveTask, kept.works.save] at hsave
    cases hsave
    have hheld := holds.grow hgrows
    rw [note_letIn h hline, hsome, Option.toList_some] at hheld ⊢
    refine ⟨kept.save hid htaken, hheld.letIn (fun e he => ?_) ticket none⟩
    rw [List.mem_singleton.mp he]
    exact known_saved hdata
  | failToSave _ _ _ hsave =>
    rw [Workspace.saveTask, kept.works.save] at hsave
    cases hsave
  | load _ hload _ =>
    rw [hloaded] at hload
    cases hload
    rw [note_letIn_other h hline resumeStored_ne_submit rfl rfl rfl]
    refine ⟨kept, holds.letIn (fun e he => ?_) _ _⟩
    obtain ⟨t, ht, rfl⟩ := List.mem_map.mp he
    exact kept.known_ofStored (kept.mem_pending ht).1
  | loadNothing _ hload =>
    rw [hloaded] at hload
    obtain ⟨-, rfl⟩ := Prod.mk.inj hload
    rw [note_dismiss h rfl holds.behind]
    exact ⟨kept, holds.dismiss _ _⟩
  | failToLoad _ hload =>
    rw [hloaded] at hload
    cases hload
  | @place ticket e e' left resumed _ _ _ =>
    have hknown : ∀ e₁ ∈ e :: e' :: left, Known h e₁ :=
      holds.line ⟨ticket, .inside (e :: e' :: left) resumed⟩ (hline ▸ List.mem_cons_self)
    have hnote : h.note q ((q.enqueue e).letIn ticket (e' :: left) resumed) = h :=
      note_letIn_other h hline (inside_ne_submit _ _) rfl rfl rfl
    rw [hnote]
    exact ⟨kept, (holds.enqueue (hknown e List.mem_cons_self)).letIn
      (fun e₁ he₁ => hknown e₁ (List.mem_cons_of_mem e he₁)) ticket resumed⟩
  | @placeLast ticket e resumed _ _ _ =>
    have hknown : Known h e :=
      holds.line ⟨ticket, .inside [e] resumed⟩ (hline ▸ List.mem_cons_self) e List.mem_cons_self
    have hheld := (holds.enqueue hknown).grow hgrows
    rw [note_placeLast _ h hline] at hheld ⊢
    refine ⟨kept.accept fun e₁ he₁ => ?_, hheld.dismiss _ _⟩
    split at he₁
    · rw [List.mem_singleton.mp he₁]
      exact hknown
    · cases he₁

/-- Nobody but the first caller in line is let in, whoever moves on or gives up. -/
theorem behind_of_caller {line : List Caller} (hline : q.line = line)
    (move : TaskQueue.CallerMove q w line q' w') (behind : ∀ c ∈ q.line.tail, c.left = []) :
    ∀ c ∈ q'.line.tail, c.left = [] := by
  cases move with
  | refuse | failToSave | loadNothing | failToLoad | turnAway | placeLast =>
    exact fun c hc => behind c (List.mem_of_mem_tail hc)
  | takeIn | save | load | place => exact behind

theorem behind_of_called (called : TaskQueue.Called q q') (behind : ∀ c ∈ q.line.tail, c.left = []) :
    ∀ c ∈ q'.line.tail, c.left = [] := by
  intro c hc
  cases called with
  | join request =>
    cases hline : q.line with
    | nil =>
      rw [TaskQueue.join, hline] at hc
      exact nomatch hc
    | cons first others =>
      rw [TaskQueue.join, hline] at hc
      rcases List.mem_append.mp hc with hc | hc
      · exact behind c (hline ▸ hc)
      · rw [List.mem_singleton.mp hc]
        rfl
  | withdraw ticket =>
    cases hline : q.line with
    | nil =>
      rw [TaskQueue.withdraw, hline] at hc
      exact nomatch hc
    | cons first others =>
      refine behind c (hline ▸ ?_)
      rw [TaskQueue.withdraw, hline, List.filter_cons] at hc
      split at hc
      · exact List.mem_of_mem_filter hc
      · exact List.mem_of_mem_filter (List.mem_of_mem_tail hc)
  | resume =>
    rw [(q.resume_callers).1] at hc
    exact behind c hc
  | stop => exact behind c hc

/-- What callers do leaves what the queue has in hand. -/
theorem Holds.called (holds : Holds h removed q) (called : TaskQueue.Called q q') :
    Holds h removed q' := by
  have hbehind := behind_of_called called holds.behind
  cases called with
  | join request =>
    refine { holds with line := fun c hc => ?_, behind := hbehind }
    rcases List.mem_append.mp hc with hc | hc
    · exact holds.line c hc
    · rw [List.mem_singleton.mp hc]
      exact List.forall_mem_nil _
  | withdraw ticket =>
    exact { holds with
      line := fun c hc => holds.line c (List.mem_of_mem_filter hc), behind := hbehind }
  | resume =>
    rw [TaskQueue.resume]
    split
    · exact { holds with }
    · exact holds
  | stop => exact { holds with }

end LoginLemmas

end DeviceSync
