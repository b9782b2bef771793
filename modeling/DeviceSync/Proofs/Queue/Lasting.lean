import DeviceSync.Proofs.Queue.Logins

/-!
# Accepted tasks last

Over a succession of logins, the task store lists the accepted tasks whose result is not certain yet, in
the order in which their callers were let in, and none whose result was told. A login puts what it finds
into its queue before any new task.

1. `Front`: how far a login has come with what it found, and who is in line.
2. The moves of the callers keep it, stage by stage (`Front.caller`).
3. `Sound` is the invariant of a succession of logins (`sound_of_logins`).
4. `accepted_tasks_are_kept`.
-/

namespace DeviceSync

namespace LoginLemmas

/-! ## 1. How far a login has come -/

variable {takes : TaskData → Prop} {h h' : Record} {removed removed' : List TaskId}
variable {l l' : Stay} {q q' : TaskQueue} {w w' : Workspace} {e : Entry}

/-- A caller comes with a new task that the store can take. -/
def Submits (takes : TaskData → Prop) (c : Caller) : Prop :=
  ∃ task, c.stage = .outside (.submit task) ∧ ∀ data, task.data? = some data → takes data

/-- The login is done with what it found, and all of it has a place. -/
structure Opened (l : Stay) : Prop where
  entered : ∃ new, l.entered = l.found.map Entry.ofStored ++ new ∧
    ∀ e ∈ new, ∀ t ∈ l.found, t.1 ≠ e.id
  resumed : ∀ ticket n, (ticket, .resumed n) ∈ l.queue.replies → n = l.found.length

/-- How far a login has come with what it found, and who is in line. -/
inductive Front (takes : TaskData → Prop) (l : Stay) : Prop
  | opening {others : List Caller} :
      l.queue.line = ⟨0, .outside .resumeStored⟩ :: others → (∀ c ∈ others, Submits takes c) →
      l.entered = [] → l.queue.replies = [] → Front takes l
  | resuming {left : List Entry} {others : List Caller} :
      l.queue.line = ⟨0, .inside left (some l.found.length)⟩ :: others →
      (∀ c ∈ others, Submits takes c) →
      l.found.map Entry.ofStored = l.entered ++ left → l.queue.replies = [] → Front takes l
  | through : Opened l → (∀ c ∈ l.queue.line, Submits takes c) → Front takes l
  | placing {ticket : Nat} {e : Entry} {others : List Caller} :
      Opened l → l.queue.line = ⟨ticket, .inside [e] none⟩ :: others →
      (∀ c ∈ others, Submits takes c) → (∀ t ∈ l.found, t.1 ≠ e.id) → Front takes l
  | refused :
      l.queue.status = .stopped ∨ l.queue.worker.hasEnded = true →
      l.entered <+: l.found.map Entry.ofStored →
      (∀ r ∈ l.queue.replies, ∃ cause, r.2 = .refused cause) →
      (∀ c ∈ l.queue.line, Submits takes c) → Front takes l
  /-- The worker ended before the queue was stopped, and a caller comes in for nothing. -/
  | refusing {ticket : Nat} {e : Entry} {others : List Caller} :
      l.queue.worker.hasEnded = true → l.entered <+: l.found.map Entry.ofStored →
      (∀ r ∈ l.queue.replies, ∃ cause, r.2 = .refused cause) →
      l.queue.line = ⟨ticket, .inside [e] none⟩ :: others → (∀ c ∈ others, Submits takes c) →
      Front takes l

theorem looksUp_of_submits (line : ∀ c ∈ q.line, Submits takes c) : q.looksUp = false := by
  rw [TaskQueue.looksUp]
  split
  · rename_i hline
    obtain ⟨task, hstage, -⟩ := line _ (hline ▸ List.mem_cons_self)
    exact nomatch hstage
  · rfl

/-- Those who may still store a task come with one that the store can take. -/
theorem Front.taken (front : Front takes l) : ∀ c ∈ l.queue.line, ∀ task data,
    c.stage = .outside (.submit task) → task.data? = some data → takes data := by
  have hsubmits : ∀ c, Submits takes c → ∀ task data,
      c.stage = .outside (.submit task) → task.data? = some data → takes data := by
    rintro c ⟨task, hstage, htaken⟩ task' data hstage' hdata
    cases hstage.symm.trans hstage'
    exact htaken data hdata
  have hbehind : ∀ {first : Caller} {others : List Caller}, l.queue.line = first :: others →
      (∀ task, first.stage ≠ .outside (.submit task)) → (∀ c ∈ others, Submits takes c) →
      ∀ c ∈ l.queue.line, ∀ task data,
        c.stage = .outside (.submit task) → task.data? = some data → takes data := by
    intro first others hline hfirst hothers c hc
    rcases List.mem_cons.mp (hline ▸ hc) with rfl | hc
    · exact fun task _ hstage => absurd hstage (hfirst task)
    · exact hsubmits c (hothers c hc)
  cases front with
  | opening hline hothers _ _ => exact hbehind hline resumeStored_ne_submit hothers
  | resuming hline hothers _ _ | placing _ hline hothers _ | refusing _ _ _ hline hothers =>
    exact hbehind hline (inside_ne_submit _ _) hothers
  | through _ hline | refused _ _ _ hline => exact fun c hc => hsubmits c (hline c hc)

/-- The line, the replies and what was found are as before. -/
structure SameStay (l l' : Stay) : Prop where
  line : l'.queue.line = l.queue.line
  replies : l'.queue.replies = l.queue.replies
  stopped : l.queue.status = .stopped → l'.queue.status = .stopped
  ended : l.queue.worker.hasEnded = true → l'.queue.worker.hasEnded = true
  entered : l'.entered = l.entered
  found : l.queue.looksUp = false → l'.found = l.found

theorem Opened.same (opened : Opened l) (same : SameStay l l') (looked : l.queue.looksUp = false) :
    Opened l' where
  entered := by rw [same.entered, same.found looked]; exact opened.entered
  resumed := by rw [same.replies, same.found looked]; exact opened.resumed

theorem Front.same (front : Front takes l) (same : SameStay l l') : Front takes l' := by
  cases front with
  | opening hline hothers hentered hreplies =>
    exact .opening (same.line.trans hline) hothers (same.entered.trans hentered)
      (same.replies.trans hreplies)
  | resuming hline hothers hfound hreplies =>
    have hlooked : l.queue.looksUp = false := by rw [TaskQueue.looksUp, hline]
    rw [← same.line, ← same.found hlooked] at hline
    rw [← same.entered, ← same.found hlooked] at hfound
    exact .resuming hline hothers hfound (same.replies.trans hreplies)
  | through opened hline =>
    exact .through (opened.same same (looksUp_of_submits hline)) (same.line ▸ hline)
  | placing opened hline hothers hnew =>
    have hlooked : l.queue.looksUp = false := by rw [TaskQueue.looksUp, hline]
    rw [← same.found hlooked] at hnew
    exact .placing (opened.same same hlooked) (same.line.trans hline) hothers hnew
  | refused hstopped hentered hreplies hline =>
    rw [← same.entered, ← same.found (looksUp_of_submits hline)] at hentered
    exact .refused (hstopped.imp same.stopped same.ended) hentered (same.replies ▸ hreplies)
      (same.line ▸ hline)
  | refusing hended hentered hreplies hline hothers =>
    have hlooked : l.queue.looksUp = false := by rw [TaskQueue.looksUp, hline]
    rw [← same.entered, ← same.found hlooked] at hentered
    exact .refusing (same.ended hended) hentered (same.replies ▸ hreplies) (same.line.trans hline)
      hothers

theorem sameStay_of_workerMove (move : TaskQueue.WorkerMove l.queue w l.queue.worker q' w') :
    SameStay l (l.proceed w q') := by
  obtain ⟨hline, hreplies, -, hwaiting⟩ := move.beside
  refine ⟨hline, hreplies, (TaskQueue.Move.worker move).stopped,
    fun hended => Bool.noConfusion (hended.symm.trans move.works), ?_, fun hlooked => ?_⟩
  · rw [Stay.proceed, entered_eq_nil hwaiting, List.append_nil]
  · rw [Stay.proceed, hlooked, if_neg Bool.false_ne_true]

/-! ## 2. Moves of a caller -/

/-- A caller of a login that has looked into the store gets no place. -/
theorem Front.unplaced (looked : l.queue.looksUp = false) (waiting : q'.waiting = l.queue.waiting)
    (front : Front takes { l with queue := q' }) : Front takes (l.proceed w q') := by
  rwa [Stay.proceed, looked, if_neg Bool.false_ne_true, entered_eq_nil (waiting ▸ List.suffix_rfl),
    List.append_nil]

/-- A caller of a login that has looked into the store gets a place for an entry. -/
theorem Front.placed (looked : l.queue.looksUp = false)
    (waiting : q'.waiting = l.queue.waiting ++ [⟨e, l.queue.next⟩])
    (front : Front takes { l with queue := q', entered := l.entered ++ [e] }) :
    Front takes (l.proceed w q') := by
  have hentered : l.queue.entered q' = [e] := by simp [TaskQueue.entered, waiting]
  rwa [Stay.proceed, looked, if_neg Bool.false_ne_true, hentered]

/-- The login itself looks into the store. -/
theorem Front.lookedUp (looks : l.queue.looksUp = true) (waiting : q'.waiting = l.queue.waiting)
    (entered : l.entered = []) (front : Front takes ⟨q', w.pending, []⟩) :
    Front takes (l.proceed w q') := by
  rwa [Stay.proceed, looks, if_pos rfl, entered_eq_nil (waiting ▸ List.suffix_rfl), entered]

/-- The login is let in, or refused. -/
theorem front_of_opening {others : List Caller} (kept : Kept takes h removed w)
    (line : l.queue.line = ⟨0, .outside .resumeStored⟩ :: others) (rest : ∀ c ∈ others, Submits takes c)
    (entered : l.entered = []) (replies : l.queue.replies = [])
    (move : TaskQueue.CallerMove l.queue w (⟨0, .outside .resumeStored⟩ :: others) q' w') :
    Front takes (l.proceed w q') := by
  have hrest : ∀ c ∈ l.queue.line.tail, Submits takes c := line ▸ rest
  have hlooks : l.queue.looksUp = true := by rw [TaskQueue.looksUp, line]
  have hloaded := kept.loadTasks
  cases move with
  | refuse hstopped =>
    refine .lookedUp hlooks rfl entered (.refused (.inl hstopped) List.nil_prefix ?_ hrest)
    simp [TaskQueue.dismiss, replies]
  | load _ hload _ =>
    rw [hloaded] at hload
    cases hload
    exact .lookedUp hlooks rfl entered (.resuming rfl hrest rfl replies)
  | loadNothing _ hload =>
    rw [hloaded] at hload
    have hnone : w.pending = [] := Except.ok.inj (Prod.mk.inj hload).1
    refine .lookedUp hlooks rfl entered (.through ⟨⟨[], ?_, List.forall_mem_nil _⟩, fun ticket n hn => ?_⟩ hrest)
    · rw [hnone]
      rfl
    · have hzero : ticket = 0 ∧ n = 0 := by simpa [TaskQueue.dismiss, replies] using hn
      rw [hnone]
      exact hzero.2
  | failToLoad _ hload =>
    rw [hloaded] at hload
    cases hload

/-- The login places what it found, or learns that the worker has ended. -/
theorem front_of_resuming {left : List Entry} {others : List Caller}
    (line : l.queue.line = ⟨0, .inside left (some l.found.length)⟩ :: others)
    (rest : ∀ c ∈ others, Submits takes c) (found : l.found.map Entry.ofStored = l.entered ++ left)
    (replies : l.queue.replies = [])
    (move : TaskQueue.CallerMove l.queue w (⟨0, .inside left (some l.found.length)⟩ :: others) q' w') :
    Front takes (l.proceed w q') := by
  have hlooked : l.queue.looksUp = false := by rw [TaskQueue.looksUp, line]
  have hrest : ∀ c ∈ l.queue.line.tail, Submits takes c := line ▸ rest
  cases move with
  | turnAway hended =>
    refine .unplaced hlooked rfl (.refused (.inr hended) ⟨_, found.symm⟩ ?_ hrest)
    simp [TaskQueue.dismiss, replies]
  | @place _ e e' left _ _ _ _ =>
    have hleft : l.found.map Entry.ofStored = (l.entered ++ [e]) ++ e' :: left := by
      rw [found, List.append_assoc]
      rfl
    exact .placed hlooked rfl (.resuming rfl hrest hleft replies)
  | placeLast _ _ =>
    refine .placed hlooked rfl (.through ⟨⟨[], ?_, List.forall_mem_nil _⟩, fun ticket n hn => ?_⟩ hrest)
    · rw [List.append_nil]
      exact found.symm
    · have hreply : ticket = 0 ∧ n = l.found.length := by
        simpa [TaskQueue.dismiss, TaskQueue.enqueue, replies] using hn
      exact hreply.2

/-- The first caller in line comes with a new task. -/
theorem front_of_through (opened : Opened l) (submits : ∀ c ∈ l.queue.line, Submits takes c)
    (new : ∀ e ∈ l.queue.admitted q', ∀ t ∈ l.found, t.1 ≠ e.id) (kept : Kept takes h removed w)
    (move : TaskQueue.CallerMove l.queue w l.queue.line q' w') : Front takes (l.proceed w q') := by
  have hlooked : l.queue.looksUp = false := looksUp_of_submits submits
  have hrest : ∀ c ∈ l.queue.line.tail, Submits takes c := fun c hc =>
    submits c (List.mem_of_mem_tail hc)
  generalize hline : l.queue.line = line at move
  cases move with
  | refuse =>
    refine .unplaced hlooked rfl
      (.through ⟨opened.entered, fun ticket n hn => opened.resumed ticket n ?_⟩ hrest)
    simpa [TaskQueue.dismiss] using hn
  | @takeIn _ task _ id _ _ =>
    refine .unplaced hlooked rfl
      (.placing ⟨opened.entered, opened.resumed⟩ rfl hrest (new ⟨id, task, false⟩ ?_))
    simp [TaskQueue.admitted, TaskQueue.letIn, Caller.left, hline]
  | @save _ task _ _ _ id _ _ _ =>
    refine .unplaced hlooked rfl
      (.placing ⟨opened.entered, opened.resumed⟩ rfl hrest (new ⟨id, task, true⟩ ?_))
    simp [TaskQueue.admitted, TaskQueue.letIn, Caller.left, hline]
  | failToSave _ _ _ hsave =>
    rw [Workspace.saveTask, kept.works.save] at hsave
    cases hsave
  | load | loadNothing | failToLoad | turnAway | place | placeLast =>
    obtain ⟨task, hstage, -⟩ := submits _ (hline ▸ List.mem_cons_self)
    cases hstage

/-- The caller who is in gets a place, or learns that the worker has ended. -/
theorem front_of_placing {ticket : Nat} {others : List Caller} (opened : Opened l)
    (line : l.queue.line = ⟨ticket, .inside [e] none⟩ :: others) (rest : ∀ c ∈ others, Submits takes c)
    (new : ∀ t ∈ l.found, t.1 ≠ e.id)
    (move : TaskQueue.CallerMove l.queue w (⟨ticket, .inside [e] none⟩ :: others) q' w') :
    Front takes (l.proceed w q') := by
  have hlooked : l.queue.looksUp = false := by rw [TaskQueue.looksUp, line]
  have hrest : ∀ c ∈ l.queue.line.tail, Submits takes c := line ▸ rest
  cases move with
  | turnAway hended =>
    refine .unplaced hlooked rfl
      (.through ⟨opened.entered, fun ticket n hn => opened.resumed ticket n ?_⟩ hrest)
    simpa [TaskQueue.dismiss] using hn
  | placeLast _ _ =>
    obtain ⟨⟨others, hentered, hothers⟩, hresumed⟩ := opened
    refine .placed hlooked rfl (.through
      ⟨⟨others ++ [e], ?_, fun e' he' => ?_⟩, fun ticket n hn => hresumed ticket n ?_⟩ hrest)
    · rw [hentered, List.append_assoc]
    · rcases List.mem_append.mp he' with he' | he'
      · exact hothers e' he'
      · rw [List.mem_singleton.mp he']
        exact new
    · simpa [TaskQueue.dismiss, TaskQueue.enqueue] using hn

theorem refused_dismiss {ticket : Nat} {cause : QueueError}
    (replies : ∀ r ∈ q.replies, ∃ cause, r.2 = .refused cause) :
    ∀ r ∈ (q.dismiss ticket (.refused cause)).replies, ∃ cause, r.2 = .refused cause := by
  intro r hr
  rcases List.mem_append.mp hr with hr | hr
  · exact replies r hr
  · rw [List.mem_singleton.mp hr]
    exact ⟨_, rfl⟩

/-- Once the login was refused, everybody is, or comes in for nothing. -/
theorem front_of_refused (closed : l.queue.status = .stopped ∨ l.queue.worker.hasEnded = true)
    (entered : l.entered <+: l.found.map Entry.ofStored)
    (replies : ∀ r ∈ l.queue.replies, ∃ cause, r.2 = .refused cause)
    (submits : ∀ c ∈ l.queue.line, Submits takes c) (kept : Kept takes h removed w)
    (move : TaskQueue.CallerMove l.queue w l.queue.line q' w') : Front takes (l.proceed w q') := by
  have hlooked : l.queue.looksUp = false := looksUp_of_submits submits
  have hrest : ∀ c ∈ l.queue.line.tail, Submits takes c := fun c hc =>
    submits c (List.mem_of_mem_tail hc)
  generalize hline : l.queue.line = line at move
  cases move with
  | refuse => exact .unplaced hlooked rfl (.refused closed entered (refused_dismiss replies) hrest)
  | takeIn _ hstatus _ | save _ hstatus _ _ =>
    exact .unplaced hlooked rfl (.refusing (closed.resolve_left hstatus) entered replies rfl hrest)
  | failToSave _ _ _ hsave =>
    rw [Workspace.saveTask, kept.works.save] at hsave
    cases hsave
  | load | loadNothing | failToLoad | turnAway | place | placeLast =>
    obtain ⟨task, hstage, -⟩ := submits _ (hline ▸ List.mem_cons_self)
    cases hstage

/-- The caller who came in for nothing learns that the worker has ended. -/
theorem front_of_refusing {ticket : Nat} {others : List Caller}
    (ended : l.queue.worker.hasEnded = true) (entered : l.entered <+: l.found.map Entry.ofStored)
    (replies : ∀ r ∈ l.queue.replies, ∃ cause, r.2 = .refused cause)
    (line : l.queue.line = ⟨ticket, .inside [e] none⟩ :: others) (rest : ∀ c ∈ others, Submits takes c)
    (move : TaskQueue.CallerMove l.queue w (⟨ticket, .inside [e] none⟩ :: others) q' w') :
    Front takes (l.proceed w q') := by
  have hlooked : l.queue.looksUp = false := by rw [TaskQueue.looksUp, line]
  have hrest : ∀ c ∈ l.queue.line.tail, Submits takes c := line ▸ rest
  cases move with
  | turnAway _ =>
    exact .unplaced hlooked rfl (.refused (.inr ended) entered (refused_dismiss replies) hrest)
  | placeLast hworks _ => exact Bool.noConfusion (ended.symm.trans hworks)

theorem Front.caller (front : Front takes l) (kept : Kept takes h removed w)
    (new : ∀ e ∈ l.queue.admitted q', ∀ t ∈ l.found, t.1 ≠ e.id)
    (move : TaskQueue.CallerMove l.queue w l.queue.line q' w') : Front takes (l.proceed w q') := by
  cases front with
  | opening hline hothers hentered hreplies =>
    exact front_of_opening kept hline hothers hentered hreplies (hline ▸ move)
  | resuming hline hothers hfound hreplies =>
    exact front_of_resuming hline hothers hfound hreplies (hline ▸ move)
  | through opened hline => exact front_of_through opened hline new kept move
  | placing opened hline hothers hnew =>
    exact front_of_placing opened hline hothers hnew (hline ▸ move)
  | refused hstopped hentered hreplies hline =>
    exact front_of_refused hstopped hentered hreplies hline kept move
  | refusing hended hentered hreplies hline hothers =>
    exact front_of_refusing hended hentered hreplies hline hothers (hline ▸ move)

/-! ## 3. All logins -/

/-- A caller with a new task joins the line. -/
theorem Front.join (front : Front takes l) {task : Task}
    (taken : ∀ data, task.data? = some data → takes data) :
    Front takes { l with queue := (l.queue.join (.submit task)).2 } := by
  have hjoins : ∀ line : List Caller, (∀ c ∈ line, Submits takes c) →
      ∀ c ∈ line ++ [⟨l.queue.nextTicket, .outside (.submit task)⟩], Submits takes c := by
    intro line hline c hc
    rcases List.mem_append.mp hc with hc | hc
    · exact hline c hc
    · rw [List.mem_singleton.mp hc]
      exact ⟨task, rfl, taken⟩
  cases front with
  | opening hline hothers hentered hreplies =>
    exact .opening (congrArg (· ++ _) hline) (hjoins _ hothers) hentered hreplies
  | resuming hline hothers hfound hreplies =>
    exact .resuming (congrArg (· ++ _) hline) (hjoins _ hothers) hfound hreplies
  | through opened hline => exact .through ⟨opened.entered, opened.resumed⟩ (hjoins _ hline)
  | placing opened hline hothers hnew =>
    exact .placing ⟨opened.entered, opened.resumed⟩ (congrArg (· ++ _) hline) (hjoins _ hothers) hnew
  | refused hstopped hentered hreplies hline =>
    exact .refused hstopped hentered hreplies (hjoins _ hline)
  | refusing hended hentered hreplies hline hothers =>
    exact .refusing hended hentered hreplies (congrArg (· ++ _) hline) (hjoins _ hothers)

/-- A caller other than the login itself leaves. -/
theorem Front.withdraw {ticket : Nat} (front : Front takes l) (other : ticket ≠ 0) :
    Front takes { l with queue := l.queue.withdraw ticket } := by
  have hothers : ∀ line : List Caller, (∀ c ∈ line, Submits takes c) →
      ∀ c ∈ line.filter (·.ticket != ticket), Submits takes c := fun line hline c hc =>
    hline c (List.mem_of_mem_filter hc)
  have hstays : ∀ (c : Caller) (line : List Caller), c.ticket ≠ ticket → l.queue.line = c :: line →
      (l.queue.withdraw ticket).line = c :: line.filter (·.ticket != ticket) := by
    intro c line hother hline
    simp [TaskQueue.withdraw, hline, hother]
  have hleaves : ∀ {c : Caller} {line : List Caller}, c.ticket = ticket → l.queue.line = c :: line →
      (l.queue.withdraw ticket).line = line.filter (·.ticket != ticket) := by
    intro c line hsame hline
    simp [TaskQueue.withdraw, hline, hsame]
  cases front with
  | opening hline hrest hentered hreplies =>
    exact .opening (hstays _ _ other.symm hline) (hothers _ hrest) hentered hreplies
  | resuming hline hrest hfound hreplies =>
    exact .resuming (hstays _ _ other.symm hline) (hothers _ hrest) hfound hreplies
  | through opened hline => exact .through ⟨opened.entered, opened.resumed⟩ (hothers _ hline)
  | @placing first _ others opened hline hrest hnew =>
    by_cases hfirst : first = ticket
    · exact .through ⟨opened.entered, opened.resumed⟩ (hleaves hfirst hline ▸ hothers _ hrest)
    · exact .placing ⟨opened.entered, opened.resumed⟩ (hstays _ _ hfirst hline) (hothers _ hrest) hnew
  | refused hstopped hentered hreplies hline =>
    exact .refused hstopped hentered hreplies (hothers _ hline)
  | @refusing first _ others hended hentered hreplies hline hrest =>
    by_cases hfirst : first = ticket
    · exact .refused (.inr hended) hentered hreplies (hleaves hfirst hline ▸ hothers _ hrest)
    · exact .refusing hended hentered hreplies (hstays _ _ hfirst hline) (hothers _ hrest)

/-- The invariant of a succession of logins. -/
structure Sound (takes : TaskData → Prop) (h : Record) (removed : List TaskId)
    (earlier : List TaskQueue) (l : Stay) (w : Workspace) : Prop where
  kept : Kept takes h removed w
  found : ∀ t ∈ l.found, t.1 ∈ h.named
  holds : Holds h removed l.queue
  front : Front takes l
  earlier : ∀ o ∈ earlier, o.status = .stopped ∧ Holds h removed o

variable {before after earlier : List TaskQueue} {o o' : TaskQueue}

theorem Sound.move (sound : Sound takes h removed earlier l w)
    (move : TaskQueue.Move l.queue w q' w') (fresh : ∀ e ∈ l.queue.admitted q', e.id ∉ h.named) :
    ∃ removed', Sound takes (h.note l.queue q') removed' earlier (l.proceed w q') w' := by
  have hfound : ∀ t ∈ (l.proceed w q').found, t.1 ∈ (h.note l.queue q').named := by
    intro t ht
    refine List.mem_append_left _ ?_
    rw [Stay.proceed] at ht
    dsimp only at ht
    split at ht
    · exact sound.kept.named t (sound.kept.mem_pending ht).1
    · exact sound.found t ht
  have hearlier : ∀ {removed'}, removed ⊆ removed' →
      ∀ o ∈ earlier, o.status = .stopped ∧ Holds (h.note l.queue q') removed' o := fun hsubset o ho =>
    (sound.earlier o ho).imp_right (·.grow (grows_note fresh hsubset))
  cases move with
  | caller move =>
    obtain ⟨hkept, hholds⟩ := sound.kept.caller sound.holds fresh (fun _ => sound.front.taken) move
    have hnew : ∀ e ∈ l.queue.admitted q', ∀ t ∈ l.found, t.1 ≠ e.id := fun e he t ht hsame =>
      fresh e he (hsame ▸ sound.found t ht)
    exact ⟨removed, hkept, hfound, hholds, sound.front.caller sound.kept hnew move,
      hearlier (List.Subset.refl _)⟩
  | worker move =>
    obtain ⟨removed', hsubset, hkept, hholds⟩ := sound.kept.worker sound.holds move
    exact ⟨removed', hkept, hfound, hholds, sound.front.same (sameStay_of_workerMove move),
      hearlier hsubset⟩

/-- A stopped queue lets no new task in. -/
theorem admitted_of_stopped (stopped : q.status = .stopped) (behind : ∀ c ∈ q.line.tail, c.left = [])
    (move : TaskQueue.Move q w q' w') : q.admitted q' = [] := by
  cases move with
  | worker move => exact admitted_eq_nil move.beside.1
  | caller move =>
    generalize hline : q.line = line at move
    cases move with
    | refuse => exact admitted_dismiss behind
    | takeIn _ hstatus _ | save _ hstatus _ _ | failToSave _ hstatus _ _ | load hstatus _ _
    | loadNothing hstatus _ | failToLoad hstatus _ => exact absurd stopped hstatus
    | turnAway | place | placeLast => exact admitted_eq_nil_of_line hline (inside_ne_submit _ _)

theorem Sound.linger (sound : Sound takes h removed (before ++ o :: after) l w)
    (move : TaskQueue.Move o w o' w') :
    ∃ removed', Sound takes (h.note o o') removed' (before ++ o' :: after) l w' := by
  obtain ⟨hstopped, hheld⟩ := sound.earlier o (List.mem_append_right _ List.mem_cons_self)
  have hfresh : ∀ e ∈ o.admitted o', e.id ∉ h.named := by
    rw [admitted_of_stopped hstopped hheld.behind move]
    exact List.forall_mem_nil _
  have hmoved : ∃ removed', removed ⊆ removed' ∧ Kept takes (h.note o o') removed' w' ∧
      Holds (h.note o o') removed' o' := by
    cases move with
    | caller move => exact ⟨removed, List.Subset.refl _,
        sound.kept.caller hheld hfresh (absurd hstopped) move⟩
    | worker move => exact sound.kept.worker hheld move
  obtain ⟨removed', hsubset, hkept, hholds⟩ := hmoved
  have hgrows : Grows h removed (h.note o o') removed' := grows_note hfresh hsubset
  refine ⟨removed', hkept, fun t ht => hgrows.named (sound.found t ht), sound.holds.grow hgrows,
    sound.front, fun p hp => ?_⟩
  rcases List.mem_append.mp hp with hp | hp
  · exact (sound.earlier p (List.mem_append_left _ hp)).imp_right (·.grow hgrows)
  rcases List.mem_cons.mp hp with rfl | hp
  · exact ⟨move.stopped hstopped, hholds⟩
  · exact (sound.earlier p (List.mem_append_right _ (List.mem_cons_of_mem _ hp))).imp_right
      (·.grow hgrows)

theorem stopped_of_called (called : TaskQueue.Called q q') (stopped : q.status = .stopped) :
    q'.status = .stopped := by
  cases called with
  | join | withdraw => exact stopped
  | resume =>
    rw [TaskQueue.resume, stopped]
    exact stopped
  | stop => rfl

theorem Sound.late (sound : Sound takes h removed (before ++ o :: after) l w)
    (called : TaskQueue.Called o o') : Sound takes h removed (before ++ o' :: after) l w := by
  refine { sound with earlier := fun p hp => ?_ }
  rcases List.mem_append.mp hp with hp | hp
  · exact sound.earlier p (List.mem_append_left _ hp)
  rcases List.mem_cons.mp hp with rfl | hp
  · obtain ⟨hstopped, hholds⟩ := sound.earlier o (List.mem_append_right _ List.mem_cons_self)
    exact ⟨stopped_of_called called hstopped, hholds.called called⟩
  · exact sound.earlier p (List.mem_append_right _ (List.mem_cons_of_mem _ hp))

theorem Sound.called (sound : Sound takes h removed earlier l w)
    (called : TaskQueue.Called l.queue q') (front : Front takes { l with queue := q' }) :
    Sound takes h removed earlier { l with queue := q' } w :=
  ⟨sound.kept, sound.found, sound.holds.called called, front, sound.earlier⟩

/-- A new login begins with what is kept. -/
theorem Kept.start {capacity : Nat} {policy : RetryPolicy} (kept : Kept takes h removed w)
    (given : ∀ o ∈ earlier, o.status = .stopped ∧ Holds h removed o) :
    Sound takes h removed earlier (.start capacity policy) w where
  kept := kept
  found := nofun
  holds := {
    line := fun c hc => by
      rw [List.mem_singleton.mp hc]
      exact List.forall_mem_nil _
    behind := nofun
    waiting := nofun
    worker := trivial }
  front := .opening rfl nofun rfl rfl
  earlier := given

/-- A store that keeps its tasks, before the first login. -/
theorem kept_ofStored {stored : List (TaskId × TaskData)} (keeps : w.tasks.Keeps stored)
    (works : w.TasksWork) : Kept w.tasks.Takes (.ofStored stored) [] w where
  works := works
  kind := rfl
  keeps := by
    have hall : stored.filter (·.1 ∉ ([] : List TaskId)) = stored := List.filter_eq_self.mpr (by simp)
    rw [Record.ofStored, hall]
    exact keeps
  named _ ht := List.mem_map_of_mem ht
  accepted e he t ht := by
    obtain ⟨⟨id, data⟩, hmem, rfl⟩ := List.mem_map.mp he
    cases data
    cases ht
    exact hmem
  done := List.nil_subset _
  decided := List.nil_subset _
  told := List.nil_subset _
  gone := nofun

theorem sound_of_logins (logins : Logins h earlier l w) :
    ∃ removed, Sound w.tasks.Takes h removed earlier l w := by
  have hsame : ∀ {takes removed} {h : Record} {earlier} {l : Stay} {w : Workspace},
      Sound takes h removed earlier l w → Sound w.tasks.Takes h removed earlier l w :=
    fun sound => sound.kept.kind ▸ sound
  induction logins with
  | first capacity policy keeps works =>
    exact ⟨[], (kept_ofStored keeps works).start (List.forall_mem_nil _)⟩
  | move _ move fresh ih =>
    obtain ⟨removed, hsound⟩ := ih
    obtain ⟨removed', hsound'⟩ := hsound.move move fresh
    exact ⟨removed', hsame hsound'⟩
  | submit task _ taken ih =>
    obtain ⟨removed, hsound⟩ := ih
    exact ⟨removed, hsound.called (.join _) (hsound.front.join taken)⟩
  | withdraw _ other ih =>
    obtain ⟨removed, hsound⟩ := ih
    exact ⟨removed, hsound.called (.withdraw _) (hsound.front.withdraw other)⟩
  | @resume _ _ l _ _ ih =>
    obtain ⟨removed, hsound⟩ := ih
    obtain ⟨hline, hreplies⟩ := l.queue.resume_callers
    refine ⟨removed, hsound.called .resume (hsound.front.same ?_)⟩
    exact ⟨hline, hreplies, stopped_of_called .resume, l.queue.resume_beside.1 ▸ id, rfl,
      fun _ => rfl⟩
  | stop _ ih =>
    obtain ⟨removed, hsound⟩ := ih
    refine ⟨removed, hsound.called .stop (hsound.front.same ?_)⟩
    exact ⟨rfl, rfl, fun _ => rfl, id, rfl, fun _ => rfl⟩
  | meanwhile _ tasks works ih =>
    obtain ⟨removed, hsound⟩ := ih
    exact ⟨removed, hsame { hsound with kept := hsound.kept.sameStore ⟨tasks, fun _ => works⟩ }⟩
  | linger _ move ih =>
    obtain ⟨removed, hsound⟩ := ih
    obtain ⟨removed', hsound'⟩ := hsound.linger move
    exact ⟨removed', hsame hsound'⟩
  | late _ called ih =>
    obtain ⟨removed, hsound⟩ := ih
    exact ⟨removed, hsound.late called⟩
  | login capacity policy _ ih =>
    obtain ⟨removed, hsound⟩ := ih
    refine ⟨removed, hsound.kept.start fun o ho => ?_⟩
    rcases List.mem_append.mp ho with ho | ho
    · exact hsound.earlier o ho
    · rw [List.mem_singleton.mp ho]
      exact ⟨rfl, hsound.holds.called .stop⟩
  | crash capacity policy _ ih =>
    obtain ⟨removed, hsound⟩ := ih
    exact ⟨removed, hsound.kept.start (List.forall_mem_nil _)⟩

/-- What has a place is what was found, or the beginning of it, and then the new tasks. -/
theorem Front.order (front : Front takes l) :
    l.entered <+: l.found.map Entry.ofStored ∨
      ∃ new, l.entered = l.found.map Entry.ofStored ++ new ∧
        ∀ e ∈ new, ∀ t ∈ l.found, t.1 ≠ e.id := by
  cases front with
  | opening _ _ hentered _ =>
    rw [hentered]
    exact .inl List.nil_prefix
  | resuming _ _ hfound _ => exact .inl ⟨_, hfound.symm⟩
  | through opened _ | placing opened _ _ _ => exact .inr opened.entered
  | refused _ hentered _ _ | refusing _ hentered _ _ _ => exact .inl hentered

/-- Whoever is told of a place finds all that was found in the queue. -/
theorem Front.replied (front : Front takes l) :
    (∀ ticket n, (ticket, .resumed n) ∈ l.queue.replies →
      n = l.found.length ∧ l.found.map Entry.ofStored <+: l.entered) ∧
    ∀ ticket n, (ticket, .queued n) ∈ l.queue.replies →
      l.found.map Entry.ofStored <+: l.entered := by
  have hall : Opened l → l.found.map Entry.ofStored <+: l.entered := fun opened => by
    obtain ⟨new, hentered, -⟩ := opened.entered
    exact ⟨new, hentered.symm⟩
  cases front with
  | opening _ _ _ hreplies | resuming _ _ _ hreplies =>
    rw [hreplies]
    exact ⟨nofun, nofun⟩
  | through opened _ | placing opened _ _ _ =>
    exact ⟨fun ticket n hr => ⟨opened.resumed ticket n hr, hall opened⟩, fun _ _ _ => hall opened⟩
  | refused _ _ hreplies _ | refusing _ _ hreplies _ _ =>
    refine ⟨fun ticket n hr => ?_, fun ticket n hr => ?_⟩
    · exact nomatch hreplies _ hr
    · exact nomatch hreplies _ hr

end LoginLemmas

/-! ## 4. What lasts -/

open LoginLemmas

/-- Over any succession of logins, with a task store that does not fail: what can be stored of the accepted
tasks was stored, and the store lists those of them whose result is not certain yet, in the order in which
their callers were let in, and no task whose result was told. A login gives places to exactly what it found
listed, under the same names and in that order, before any new task. -/
theorem accepted_tasks_are_kept {h : Record} {earlier : List TaskQueue} {l : Stay} {w : Workspace}
    (logins : Logins h earlier l w) :
    w.tasks.load = .ok w.pending ∧
    (∀ e ∈ h.accepted, ∀ t, e.data? = some t → t ∈ h.submitted) ∧
    (h.submitted.filter (·.1 ∉ h.decided)).Sublist w.pending ∧
    (∀ t ∈ w.pending, t.1 ∉ h.told) ∧
    (l.entered <+: l.found.map Entry.ofStored ∨
      ∃ new, l.entered = l.found.map Entry.ofStored ++ new ∧
        ∀ e ∈ new, ∀ t ∈ l.found, t.1 ≠ e.id) ∧
    (∀ ticket n, (ticket, .resumed n) ∈ l.queue.replies →
      n = l.found.length ∧ l.found.map Entry.ofStored <+: l.entered) ∧
    ∀ ticket n, (ticket, .queued n) ∈ l.queue.replies →
      l.found.map Entry.ofStored <+: l.entered := by
  obtain ⟨removed, hsound⟩ := sound_of_logins logins
  have hkept := hsound.kept
  refine ⟨?_, hkept.accepted, ?_, fun t ht htold => ?_, hsound.front.order, hsound.front.replied⟩
  · rw [hkept.pending]
    exact hkept.keeps.load
  · rw [hkept.pending]
    refine List.monotone_filter_right h.submitted fun t ht => ?_
    simp only [decide_eq_true_eq] at ht ⊢
    exact fun hremoved => ht (hkept.done hremoved)
  · obtain ⟨hsubmitted, hleft⟩ := hkept.mem_pending ht
    exact hleft (hkept.gone t hsubmitted htold)

open Sample

/-- A vote is accepted, and the process dies. The next login finds the vote and gives it a place. -/
theorem accepted_vote_is_found_again : ∃ h l w,
    Logins h [] l w ∧ w.pending = [(taskName, .reflected (voteEnvelope 1 [nonce 0]))] ∧
    l.entered = [⟨taskName, .reflected (voteEnvelope 1 [nonce 0]), true⟩] := by
  have hfirst : Logins _ [] (.start 1 .never) fresh :=
    @Logins.first [] fresh 1 .never rfl ⟨rfl, rfl, rfl⟩
  have hsubmitted := (hfirst.move (.of_line rfl (.loadNothing nofun rfl)) nofun).submit
    (.reflected (voteEnvelope 1 [nonce 0])) fun _ _ => trivial
  have haccepted := (hsubmitted.move (.of_line rfl (.save taskName nofun rfl rfl))
    fun _ _ => List.not_mem_nil).move (.of_line rfl (.placeLast rfl Nat.one_pos)) nofun
  have hfound := (haccepted.crash 1 .never).move
    (.of_line rfl (.load nofun rfl (List.cons_ne_nil _ _))) nofun
  have hresumed := hfound.move (.of_line rfl (.placeLast rfl Nat.one_pos)) nofun
  obtain ⟨-, -, hkept, -, -, hreplied, -⟩ := accepted_tasks_are_kept hresumed
  obtain ⟨-, hentered⟩ := hreplied 0 1 (List.mem_singleton_self _)
  exact ⟨_, _, _, hresumed, (hkept.eq_of_length rfl).symm, (hentered.eq_of_length rfl).symm⟩

end DeviceSync
