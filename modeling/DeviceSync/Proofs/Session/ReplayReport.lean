import DeviceSync.Proofs.Session.Replays
import Mathlib.Data.List.Infix

/-!
# What a replay reports

The worker, the pump and whoever collects go on in any order, and the subscriber may come late or fall
behind. Still the collected completions are those that were told, one after the other, and they come to
the last one unless something is lost.

1. `Standing`: the session of a replay. The numbers and descriptions of all tasks, told or to come, are
   known from the beginning (`Standing.next`). If the worker ends (`Broken`), the rest of them stays
   untold.
2. `Report`: the collected completions. They are told one after the other, from the first one that was
   told after the subscription (`Report.collect`).
3. `Sane`: both together, along a whole replay (`sane_of_replaying`).
4. `report_is_complete_iff`: a report in which nothing failed is complete unless the queue was halted
   when it was looked at, or completions were missed.
-/

namespace DeviceSync

/-- Tasks with the numbers that they get, in order. -/
def numbered (tasks : List Task) : List (Nat × String) :=
  tasks.zipIdx.map fun t => (t.2, t.1.describe)

namespace ReplayReportLemmas

open PumpingLemmas ReplayingLemmas

/-! ## 1. The session -/

variable {capacity : Nat} {policy : RetryPolicy} {pending : List (TaskId × TaskData)} {all : List Task}
variable {q q' : TaskQueue} {w w' : Workspace} {s s' : Session} {r r' : Replay} {stage : Replay.Stage}

/-- The worker goes on, and all tasks are told of or to come. -/
structure Going (policy : RetryPolicy) (all : List Task) (p : Pump) (q : TaskQueue) (w : Workspace) :
    Prop where
  sound : PumpingLemmas.Sound policy 0 p q w
  works : q.worker.hasEnded = false
  labels : q.labels (coming p q w.connection) = numbered all

/-- The worker has ended, and nothing more is told. -/
structure Broken (all : List Task) (q : TaskQueue) : Prop where
  ended : q.worker.hasEnded = true
  told : q.published.map (fun c => (c.sequence, c.description)) <+: numbered all

/-- What holds of the queue, the pumps and the workspace of a replay that found `pending` in the store;
`all` are its tasks, those of the envelopes included. -/
inductive Standing (capacity : Nat) (policy : RetryPolicy) (pending : List (TaskId × TaskData))
    (all : List Task) : Replay.Stage → TaskQueue → List Pump → Workspace → Prop
  | opening {w : Workspace} :
      w.faults.load = none → w.tasks.load = .ok pending → w.faults.save = none →
      pending.map (.ofData ·.2) ++ w.connection.arriving = all →
      Standing capacity policy pending all .loggingIn (Backlog.opening capacity policy) [] w
  | placing {q : TaskQueue} {w : Workspace} :
      Backlog.Sound (max capacity 1) policy pending.length (.resumed pending.length) q →
      w.faults.save = none → q.labels (coming .receiving q w.connection) = numbered all →
      Standing capacity policy pending all .loggingIn q [] w
  | idle {q : TaskQueue} {w : Workspace} :
      Going policy all .receiving q w → Standing capacity policy pending all .subscribed q [] w
  | pumping {stage : Replay.Stage} {p : Pump} {q : TaskQueue} {w : Workspace} :
      (stage = .pumping ∨ stage = .collecting) → Going policy all p q w →
      Standing capacity policy pending all stage q [p] w
  | broken {stage : Replay.Stage} {q : TaskQueue} {pumps : List Pump} {w : Workspace} :
      Broken all q → Standing capacity policy pending all stage q pumps w

theorem next_of_no_pumps (pumps : s.pumps = []) (next : Session.Next (s, w) (s', w')) :
    s'.pumps = [] ∧ TaskQueue.Move s.queue w s'.queue w' := by
  obtain ⟨now, step, hstep⟩ := next
  cases step with
  | queue step =>
    obtain ⟨r, hr, hs⟩ := Option.map_eq_some_iff.mp hstep
    obtain ⟨rfl, rfl⟩ := Prod.mk.inj hs
    exact ⟨pumps, TaskQueue.move_of_step hr⟩
  | pump i =>
    rw [Session.step, pumps] at hstep
    cases hstep

/-- Only the worker changes what it does and what is told. -/
theorem beside_of_next (next : Session.Next (s, w) (s', w')) :
    (s'.queue.worker = s.queue.worker ∧ s'.queue.published = s.queue.published) ∨
      ∃ v, TaskQueue.WorkerMove s.queue w s.queue.worker s'.queue v := by
  obtain ⟨now, step, hstep⟩ := next
  cases step with
  | queue step =>
    obtain ⟨r, hr, hs⟩ := Option.map_eq_some_iff.mp hstep
    obtain ⟨rfl, rfl⟩ := Prod.mk.inj hs
    cases TaskQueue.move_of_step hr with
    | caller move => exact .inl move.beside.2
    | worker move => exact .inr ⟨_, move⟩
  | pump i =>
    rw [Session.step] at hstep
    split at hstep
    · cases hstep
    · obtain ⟨⟨p', q', v⟩, hpump, hs⟩ := Option.map_eq_some_iff.mp hstep
      obtain ⟨rfl, rfl⟩ := Prod.mk.inj hs
      have hmove := Pump.move_of_step hpump
      cases hmove with
      | submit | drop | lose | goOn | giveUp => exact .inl ⟨rfl, rfl⟩

/-- The login reads the store. -/
theorem placing_of_first (load : w.loadTasks = (.ok pending, w)) (saves : w.faults.save = none)
    (tasks : pending.map (.ofData ·.2) ++ w.connection.arriving = all)
    (move : TaskQueue.Move (Backlog.opening capacity policy) w q' w') :
    Standing capacity policy pending all .loggingIn q' [] w' := by
  have hsound := Backlog.sound_of_first (.of_move move)
  have hfound : Backlog.found w = pending := by rw [Backlog.found, load]; rfl
  have htold : Backlog.told w = .resumed pending.length := by rw [Backlog.told, load]
  rw [hfound, htold] at hsound
  cases move with
  | worker move =>
    -- No task has a place yet, so that only the login itself can go on.
    rw [show (Backlog.opening capacity policy).worker = .idle from rfl] at move
    cases move with
    | take hwaiting => cases hwaiting
    | finish hstopped => cases hstopped
  | caller move =>
    rw [show (Backlog.opening capacity policy).line = [⟨0, .outside .resumeStored⟩] from rfl] at move
    cases move with
    | refuse hstopped => cases hstopped
    | load _ hload hne =>
      obtain ⟨hread, rfl⟩ := Prod.mk.inj (load.symm.trans hload)
      obtain rfl := Except.ok.inj hread
      refine .placing hsound saves ?_
      rw [← tasks]
      simp [TaskQueue.labels, coming, brought, toSubmit, TaskQueue.letIn, Backlog.opening,
        TaskQueue.start, TaskQueue.join, Worker.submission?, numbered, Function.comp_def]
    | loadNothing _ hload =>
      obtain ⟨hread, rfl⟩ := Prod.mk.inj (load.symm.trans hload)
      obtain rfl := Except.ok.inj hread
      refine .placing hsound saves ?_
      rw [← tasks]
      simp [TaskQueue.labels, coming, brought, toSubmit, TaskQueue.dismiss, Backlog.opening,
        TaskQueue.start, TaskQueue.join, Worker.submission?, numbered]
    | failToLoad _ hload => cases load.symm.trans hload

/-- A worker that ends leaves its task untold. -/
theorem broken_of_move {tasks : List Task} (going : q.status ≠ .stopped)
    (labels : q.labels tasks = numbered all) (move : TaskQueue.WorkerMove q w q.worker q' w')
    (ended : q'.worker.hasEnded = true) : Broken all q' := by
  refine ⟨ended, ?_⟩
  obtain ⟨_, _, _, _, -, rfl, -⟩ := move.breakdown_of_hasEnded going ended
  exact ⟨_, labels⟩

/-- The login places its tasks, and the worker carries out those that have a place. -/
theorem placing_of_move
    (sound : Backlog.Sound (max capacity 1) policy pending.length (.resumed pending.length) q)
    (saves : w.faults.save = none)
    (labels : q.labels (coming .receiving q w.connection) = numbered all)
    (move : TaskQueue.Move q w q' w') : Standing capacity policy pending all .loggingIn q' [] w' := by
  cases move with
  | worker move =>
    cases hworks : q'.worker.hasEnded with
    | true => exact .broken (broken_of_move sound.accounted.going labels move hworks)
    | false =>
      have hsame := sameForCallers move
      refine .placing (sound.worker move hworks) (hsame.saves.trans saves) ?_
      rw [hsame.coming, move.labels rfl hworks, labels]
  | caller move =>
    have hsound := (sound.caller move).1
    cases sound.front with
    | returned hline =>
      rw [hline] at move
      cases move
    | placing hleft hline =>
      rw [coming, hline] at labels
      rw [hline] at move
      cases move with
      | turnAway hended => cases hended.symm.trans sound.accounted.works
      | place =>
        refine .placing hsound saves (.trans ?_ labels)
        rw [List.flatMap_singleton, brought, List.map_cons, List.cons_append, ← q.labels_enqueue]
        simp [coming, brought, hline, TaskQueue.letIn, TaskQueue.enqueue, TaskQueue.labels]
      | placeLast =>
        refine .placing hsound saves (.trans ?_ labels)
        rw [List.flatMap_singleton, brought, List.map_cons, List.cons_append, ← q.labels_enqueue]
        simp [coming, brought, hline, TaskQueue.dismiss, TaskQueue.enqueue, TaskQueue.labels]

/-- What the queue does by itself adds no task and takes none away, unless the worker ends. -/
theorem Going.move {p : Pump} (going : Going policy all p q w) (move : TaskQueue.Move q w q' w') :
    Going policy all p q' w' ∨ Broken all q' := by
  cases move with
  | caller move =>
    obtain ⟨hsound, hsame, -⟩ := going.sound.caller move
    exact .inl ⟨hsound, move.beside.2.1 ▸ going.works, (hsame going.works).labels.trans going.labels⟩
  | worker move =>
    obtain ⟨hsound, hsame, -⟩ := going.sound.worker move
    cases hworks : q'.worker.hasEnded with
    | true => exact .inr (broken_of_move going.sound.going going.labels move hworks)
    | false => exact .inl ⟨hsound, hworks, (hsame hworks).labels.trans going.labels⟩

/-- A worker that has ended does not come back. -/
theorem Broken.next (broken : Broken all s.queue) (next : Session.Next (s, w) (s', w')) :
    Broken all s'.queue := by
  obtain ⟨hworker, hpublished⟩ | ⟨v, hmove⟩ := beside_of_next next
  · exact ⟨hworker ▸ broken.ended, hpublished ▸ broken.told⟩
  · exact Bool.noConfusion (broken.ended.symm.trans hmove.works)

theorem Standing.next (standing : Standing capacity policy pending all stage s.queue s.pumps w)
    (next : Session.Next (s, w) (s', w')) :
    Standing capacity policy pending all stage s'.queue s'.pumps w' := by
  generalize hq : s.queue = q at standing
  generalize hpumps : s.pumps = pumps at standing
  cases standing with
  | opening unfailing load saves tasks =>
    obtain ⟨hpumps', move⟩ := next_of_no_pumps hpumps next
    rw [hq] at move
    rw [hpumps']
    have hload : w.loadTasks = (.ok pending, w) := by rw [Workspace.loadTasks, unfailing, load]
    exact placing_of_first hload saves tasks move
  | placing sound saves labels =>
    obtain ⟨hpumps', move⟩ := next_of_no_pumps hpumps next
    rw [hq] at move
    rw [hpumps']
    exact placing_of_move sound saves labels move
  | idle going =>
    obtain ⟨hpumps', move⟩ := next_of_no_pumps hpumps next
    rw [hq] at move
    rw [hpumps']
    exact (going.move move).elim .idle .broken
  | pumping hstage going =>
    obtain ⟨p', hpumps', ⟨rfl, move⟩ | move⟩ := Session.next_cases hpumps next
    · rw [hq] at move
      rw [hpumps']
      exact (going.move move).elim (.pumping hstage) .broken
    · rw [hq] at move
      obtain ⟨hsound, hsame, -, hworker, -⟩ := going.sound.pump move
      rw [hpumps']
      exact .pumping hstage
        ⟨hsound, hworker ▸ going.works, (hsame going.works).labels.trans going.labels⟩
  | broken hbroken =>
    subst hq
    exact .broken (hbroken.next next)

/-- The services are of no account. -/
theorem Standing.meanwhile {pumps : List Pump}
    (standing : Standing capacity policy pending all stage q pumps w) (services : Services) :
    Standing capacity policy pending all stage q pumps { w with services } := by
  cases standing with
  | opening unfailing load saves tasks => exact .opening unfailing load saves tasks
  | placing sound saves labels => exact .placing sound saves labels
  | idle going => exact .idle ⟨{ going.sound with }, going.works, going.labels⟩
  | pumping hstage going => exact .pumping hstage ⟨{ going.sound with }, going.works, going.labels⟩
  | broken hbroken => exact .broken hbroken

/-- A login that returned leaves the queue ready for a pump. -/
theorem sound_of_returned {count : Nat} {reply : Reply}
    (sound : Backlog.Sound (max capacity 1) policy count reply q) (saves : w.faults.save = none)
    (answered : q.replies ≠ []) : PumpingLemmas.Sound policy 0 .receiving q w := by
  obtain ⟨haccounted, hfront⟩ := sound
  cases hfront with
  | placing _ _ _ hreplies => exact absurd hreplies answered
  | returned hline _ hreplies =>
    exact {
      policy_eq := haccounted.policy_eq
      room := haccounted.capacity ▸ Nat.le_max_right capacity 1
      before := Nat.zero_le _
      saves := saves
      going := haccounted.going
      unsteady := fun hended => Bool.noConfusion (haccounted.works.symm.trans hended)
      tickets := by
        rw [hreplies]
        intro r hr
        rw [List.mem_singleton.mp hr]
        exact haccounted.issued
      stands := .receiving hline
      halted := by
        cases haccounted.fortune with
        | good hrunning => exact .inl hrunning
        | failing _ _ hfailed => exact .inr (.inl hfailed)
        | failed _ hpublished _ herr =>
          refine .inr (.inr ⟨_, ?_, _, herr⟩)
          rw [hpublished]
          exact List.mem_append_right _ (List.mem_singleton_self _) }

theorem Standing.subscribed {pumps : List Pump} {reply : Reply}
    (standing : Standing capacity policy pending all .loggingIn q pumps w)
    (answered : q.reply? 0 = some reply) :
    Standing capacity policy pending all .subscribed q pumps w := by
  cases standing with
  | opening => cases answered
  | placing sound saves labels =>
    refine .idle ⟨sound_of_returned sound saves ?_, sound.accounted.works, labels⟩
    intro hreplies
    rw [TaskQueue.reply?, hreplies] at answered
    cases answered
  | pumping hstage => rcases hstage with hstage | hstage <;> cases hstage
  | broken hbroken => exact .broken hbroken

theorem Standing.startPump {pumps : List Pump}
    (standing : Standing capacity policy pending all .subscribed q pumps w) :
    Standing capacity policy pending all .pumping q (pumps ++ [.receiving]) w := by
  cases standing with
  | idle going => exact .pumping (.inl rfl) going
  | pumping hstage => rcases hstage with hstage | hstage <;> cases hstage
  | broken hbroken => exact .broken hbroken

theorem Standing.collecting {pumps : List Pump}
    (standing : Standing capacity policy pending all .pumping q pumps w) :
    Standing capacity policy pending all .collecting q pumps w := by
  cases standing with
  | pumping _ going => exact .pumping (.inr rfl) going
  | broken hbroken => exact .broken hbroken

/-- Everything that is told has its number and its description from the beginning. -/
theorem Standing.published {pumps : List Pump}
    (standing : Standing capacity policy pending all .collecting q pumps w) :
    q.published.map (fun c => (c.sequence, c.description)) <+: numbered all := by
  cases standing with
  | pumping _ going => exact ⟨_, going.labels⟩
  | broken hbroken => exact hbroken.told

theorem getElem?_of_prefix {α : Type} {l m : List α} {i : Nat} {a : α} (h : l <+: m)
    (ha : l[i]? = some a) : m[i]? = some a := by
  obtain ⟨hi, rfl⟩ := List.getElem?_eq_some_iff.mp ha
  exact List.prefix_iff_getElem?.mp h i hi

/-- What is told as the `i`-th has the number `i`. -/
theorem sequence_of_told {told : List Completion} {c : Completion} {i : Nat}
    (known : told.map (fun c => (c.sequence, c.description)) <+: numbered all)
    (hc : told[i]? = some c) : c.sequence = i := by
  have hmapped : (told.map fun c => (c.sequence, c.description))[i]? =
      some (c.sequence, c.description) := by
    rw [List.getElem?_map, hc]
    rfl
  have hknown := getElem?_of_prefix known hmapped
  rw [numbered, List.getElem?_map, List.getElem?_zipIdx, Nat.zero_add] at hknown
  obtain ⟨t, ht, hlabel⟩ := Option.map_eq_some_iff.mp hknown
  obtain ⟨task, -, rfl⟩ := Option.map_eq_some_iff.mp ht
  exact (Prod.mk.inj hlabel).1.symm

/-! ## 2. The report -/

/-- What was collected of what was told, and whether more will be. -/
inductive Report (last : Nat) (told : List Completion) : Replay.Stage → Bool → Replay → Prop
  | before {stage : Replay.Stage} {r : Replay} :
      stage ≠ .collecting → r.collecting = true → r.collected = [] →
      r.subscription.position ≤ told.length → Report last told stage false r
  | going {r : Replay} {first : Nat} :
      r.collecting = true → r.subscription.position = first + r.collected.length →
      r.collected <+: told.drop first → (∀ c ∈ r.collected, c.sequence < last) →
      Report last told .collecting false r
  | lost {r : Replay} :
      r.collecting = false → (∀ c ∈ r.collected, c.sequence < last) →
      Report last told .collecting true r
  | told {r : Replay} {first : Nat} {before : List Completion} {c : Completion} :
      r.collecting = false → r.collected = before ++ [c] → r.collected <+: told.drop first →
      (c.sequence < last → c.result.isOk = false) → Report last told .collecting false r

variable {last : Nat} {told told' : List Completion} {lost : Bool}

theorem Report.mono (report : Report last told stage lost r) (grown : told <+: told') :
    Report last told' stage lost r := by
  cases report with
  | before hstage hcollecting hcollected hposition =>
    exact .before hstage hcollecting hcollected (Nat.le_trans hposition grown.length_le)
  | going hcollecting hposition hpart hlast =>
    exact .going hcollecting hposition (hpart.trans (grown.drop _)) hlast
  | lost hcollecting hlast => exact .lost hcollecting hlast
  | told hcollecting hcollected hpart hlast =>
    exact .told hcollecting hcollected (hpart.trans (grown.drop _)) hlast

theorem Report.reschedule (report : Report last told stage lost r) (schedule : Schedule) :
    Report last told stage lost { r with schedule } := by
  cases report with
  | before hstage hcollecting hcollected hposition =>
    exact .before hstage hcollecting hcollected hposition
  | going hcollecting hposition hpart hlast => exact .going hcollecting hposition hpart hlast
  | lost hcollecting hlast => exact .lost hcollecting hlast
  | told hcollecting hcollected hpart hlast => exact .told hcollecting hcollected hpart hlast

/-- Until the replay looks at the status, it collects nothing. -/
theorem Report.subscribe (report : Report last q.published .loggingIn lost r) :
    Report last q.published .subscribed lost { r with subscription := .toQueue q } := by
  cases report with
  | before _ hcollecting hcollected => exact .before nofun hcollecting hcollected (Nat.le_refl _)

theorem Report.startPump (report : Report last told .subscribed lost r) :
    Report last told .pumping lost r := by
  cases report with
  | before _ hcollecting hcollected hposition => exact .before nofun hcollecting hcollected hposition

theorem concat_prefix {α : Type} {l m : List α} {a : α} (h : l <+: m) (ha : m[l.length]? = some a) :
    l ++ [a] <+: m := by
  obtain ⟨hlength, rfl⟩ := List.getElem?_eq_some_iff.mp ha
  exact List.concat_get_prefix h hlength

/-- The replay takes what it can get. -/
theorem Report.collect (report : Report last s.queue.published .collecting lost r)
    (hlast : r.last = last) (current : r.schedule.current? = some s)
    (step : r.step .collect = some r') :
    Report last s.queue.published .collecting (lost || r.subscription.misses s.queue) r' := by
  obtain ⟨hcollecting, hcases⟩ := collect_cases current step
  cases report with
  | before hstage => exact absurd rfl hstage
  | lost hover | told hover => exact nomatch hover.symm.trans hcollecting
  | @going _ first _ hposition hpart hbefore =>
    rcases hcases with ⟨hmisses, rfl⟩ | ⟨hmisses, c, hc, rfl⟩
    · rw [hmisses]
      exact .lost rfl hbefore
    · rw [hmisses]
      have hgrown : r.collected ++ [c] <+: s.queue.published.drop first := by
        refine concat_prefix hpart ?_
        rw [List.getElem?_drop, ← hposition, hc]
      by_cases hmore : c.sequence < r.last ∧ c.result.isOk = true
      · refine .going (by simp [hmore]) ?_ hgrown ?_
        · simp [hposition, Nat.add_assoc]
        · intro c' hc'
          rcases List.mem_append.mp hc' with hc' | hc'
          · exact hbefore c' hc'
          · rw [List.mem_singleton.mp hc', ← hlast]
            exact hmore.1
      · refine .told ?_ rfl hgrown fun hless => ?_
        · simpa using fun hless => Bool.eq_false_iff.mpr fun hok => hmore ⟨hless, hok⟩
        · exact Bool.eq_false_iff.mpr fun hok => hmore ⟨hlast ▸ hless, hok⟩

theorem Report.look (report : Report last s.queue.published .pumping lost r) :
    Report last s.queue.published .collecting s.queue.status.isHalted
      { r with collecting := !s.queue.status.isHalted } := by
  cases report with
  | before _ _ hcollected hposition =>
    cases hhalted : s.queue.status.isHalted with
    | true => exact .lost rfl (by simp [hcollected])
    | false =>
      refine @Report.going _ _ _ r.subscription.position rfl ?_ ?_ ?_
      · simp [hcollected]
      · simp [hcollected]
      · simp [hcollected]

/-! ## 3. Any step -/

/-- What holds of a replay that found `pending` in the store, with `all` tasks and the last number. -/
structure Sane (capacity : Nat) (policy : RetryPolicy) (pending : List (TaskId × TaskData))
    (all : List Task) (last : Nat) (stage : Replay.Stage) (lost : Bool) (r : Replay) (s : Session) :
    Prop where
  session : r.schedule.sessions = [s]
  goal : r.last = last
  standing : Standing capacity policy pending all stage s.queue s.pumps r.schedule.workspace
  report : Report last s.queue.published stage lost r

theorem Sane.current (sane : Sane capacity policy pending all last stage lost r s) :
    r.schedule.current? = some s :=
  Schedule.current?_of_alone sane.session

theorem published_of_next (next : Session.Next (s, w) (s', w')) :
    s.queue.published <+: s'.queue.published := by
  obtain ⟨-, hpublished⟩ | ⟨_, hmove⟩ := beside_of_next next
  · exact hpublished ▸ List.prefix_rfl
  · exact hmove.published_prefix

theorem sane_of_replaying (unfailing : w.faults.load = none) (load : w.tasks.load = .ok pending)
    (saves : w.faults.save = none) (tasks : pending.map (.ofData ·.2) ++ w.connection.arriving = all)
    (replaying : Replaying w capacity policy last stage lost r) :
    ∃ s, Sane capacity policy pending all last stage lost r s := by
  induction replaying with
  | login =>
    exact ⟨_, rfl, rfl, .opening unfailing load saves tasks, .before nofun rfl rfl (Nat.zero_le _)⟩
  | meanwhile services now drawn _ ih =>
    obtain ⟨s, hsane⟩ := ih
    exact ⟨s, hsane.session, hsane.goal, hsane.standing.meanwhile services,
      hsane.report.reschedule _⟩
  | session step _ hstep ih =>
    obtain ⟨s, hsane⟩ := ih
    obtain ⟨s', w', hnext, rfl⟩ := session_step hsane.session hstep
    exact ⟨s', rfl, hsane.goal, hsane.standing.next hnext,
      (hsane.report.reschedule _).mono (published_of_next hnext)⟩
  | subscribe _ hcurrent hreply ih =>
    obtain ⟨s, hsane⟩ := ih
    obtain rfl := Option.some.inj (hsane.current.symm.trans hcurrent)
    exact ⟨s, hsane.session, hsane.goal, hsane.standing.subscribed hreply,
      hsane.report.subscribe⟩
  | @startPump _ r _ ih =>
    obtain ⟨s, hsane⟩ := ih
    rw [Schedule.onCurrent_of_alone hsane.session]
    exact ⟨s.startPump, rfl, hsane.goal, hsane.standing.startPump, hsane.report.startPump.reschedule _⟩
  | look _ hcurrent ih =>
    obtain ⟨s, hsane⟩ := ih
    obtain rfl := Option.some.inj (hsane.current.symm.trans hcurrent)
    exact ⟨s, hsane.session, hsane.goal, hsane.standing.collecting, hsane.report.look⟩
  | collect _ hcurrent hstep ih =>
    obtain ⟨s, hsane⟩ := ih
    obtain rfl := Option.some.inj (hsane.current.symm.trans hcurrent)
    have hreport := hsane.report.collect hsane.goal hcurrent hstep
    obtain ⟨-, ⟨-, rfl⟩ | ⟨-, c, -, rfl⟩⟩ := collect_cases hcurrent hstep
    · exact ⟨s, hsane.session, hsane.goal, hsane.standing, hreport⟩
    · exact ⟨s, hsane.session, hsane.goal, hsane.standing, hreport⟩

/-! ## 4. The end -/

theorem length_numbered (tasks : List Task) : (numbered tasks).length = tasks.length := by
  rw [numbered, List.length_map, List.length_zipIdx]

/-- What is collected in a row is numbered in a row. -/
theorem sequences_of_prefix {collected : List Completion} {first : Nat}
    (known : told.map (fun c => (c.sequence, c.description)) <+: numbered all)
    (h : collected <+: told.drop first) :
    collected.map (·.sequence) = List.range' first collected.length := by
  refine List.ext_getElem (by simp) fun i hi _ => ?_
  rw [List.length_map] at hi
  have htold := getElem?_of_prefix h (List.getElem?_eq_getElem hi)
  rw [List.getElem?_drop] at htold
  rw [List.getElem_map, sequence_of_told known htold, List.getElem_range', Nat.one_mul]

/-- A collection that came to its end by itself, and not by a failure, has come to the last task. -/
theorem Sane.complete (sane : Sane capacity policy pending all last .collecting false r s)
    (settled : r.collecting = false) (success : ∀ c ∈ r.collected, c.result.isOk = true)
    (fewer : all.length ≤ last + 1) :
    s.queue.published.map (fun c => (c.sequence, c.description)) = numbered all ∧
      s.queue.published.length = last + 1 ∧
      (∃ first, r.collected.map (·.sequence) = List.range' first r.collected.length) ∧
      r.collected.getLast?.map (·.sequence) = some last := by
  have hknown := sane.standing.published
  have hlength := hknown.length_le
  rw [List.length_map, length_numbered] at hlength
  cases sane.report with
  | before hstage => exact absurd rfl hstage
  | going hcollecting => exact nomatch settled.symm.trans hcollecting
  | @told _ first before c _ hcollected hpart hlast =>
    have hc : r.collected[before.length]? = some c := by
      rw [hcollected]
      exact List.getElem?_concat_length
    have htold := getElem?_of_prefix hpart hc
    rw [List.getElem?_drop] at htold
    have hsequence := sequence_of_told hknown htold
    have hplace := (List.getElem?_eq_some_iff.mp htold).1
    have hok := success c (List.mem_of_getElem? hc)
    -- The last completion is told at the place of its number, and no number comes after `last`.
    have hreached : ¬ c.sequence < last := fun hless => nomatch hok.symm.trans (hlast hless)
    have hall : s.queue.published.length = last + 1 := by omega
    refine ⟨hknown.eq_of_length ?_, hall, ⟨first, sequences_of_prefix hknown hpart⟩, ?_⟩
    · rw [List.length_map, length_numbered]
      omega
    · rw [hcollected, List.getLast?_concat]
      exact congrArg some (hsequence.trans (by omega))

/-- A collection that lost something has not come to the last task. -/
theorem Sane.incomplete (sane : Sane capacity policy pending all last .collecting true r s) :
    r.collected.getLast?.map (·.sequence) ≠ some last := by
  intro hlast
  obtain ⟨c, hc, hsequence⟩ := Option.map_eq_some_iff.mp hlast
  cases sane.report with
  | lost _ hbefore => exact Nat.ne_of_lt (hbefore c (List.mem_of_getLast? hc)) hsequence

end ReplayReportLemmas

open ReplayReportLemmas ReplayingLemmas

/-- Envelopes are replayed into a database with pending tasks, on services that behave in any way, and
the steps of the worker, of the pump and of whoever collects follow each other in any order. When the
collecting is over and no failure was collected, nothing was lost to it if and only if the report is
complete: all tasks were carried out, first the pending ones and then those of the envelopes, the
completions were told in a row, and the last one is that of the last envelope. -/
theorem report_is_complete_iff {me : Identity} {d : Database} {envelopes : List Envelope}
    {pending : List (TaskId × TaskData)} {capacity : Nat} {policy : RetryPolicy} {lost : Bool}
    {r : Replay} (load : d.tasks.load = .ok pending) (someEnvelope : envelopes ≠ [])
    (replaying : Replaying (Replay.workspace me d envelopes) capacity policy
      (pending.length + envelopes.length - 1) .collecting lost r)
    (settled : r.collecting = false) (success : ∀ c ∈ r.collected, c.result.isOk = true) :
    lost = false ↔
      (∃ s, r.schedule.current? = some s ∧
        s.queue.published.map (fun c => (c.sequence, c.description)) =
          numbered (pending.map (.ofData ·.2) ++
            (Replay.workspace me d envelopes).connection.arriving) ∧
        s.queue.published.length = pending.length + envelopes.length) ∧
      (∃ first, r.collected.map (·.sequence) = List.range' first r.collected.length) ∧
      r.collected.getLast?.map (·.sequence) = some (pending.length + envelopes.length - 1) := by
  have hload : (Replay.workspace me d envelopes).tasks.load = .ok pending := load
  obtain ⟨s, hsane⟩ := sane_of_replaying rfl hload rfl rfl replaying
  have hcount := List.length_pos_iff.mpr someEnvelope
  constructor
  · rintro rfl
    -- A frame that cannot be read back brings no task, so there may be fewer tasks than envelopes.
    have harriving :
        (Replay.workspace me d envelopes).connection.arriving.length ≤ envelopes.length := by
      rw [Connection.arriving, List.length_map]
      refine Nat.le_trans (List.length_filterMap_le _ _) ?_
      exact Nat.le_of_eq (List.length_map _)
    obtain ⟨hlabels, hlength, hrow, hlast⟩ := hsane.complete settled success (by
      rw [List.length_append, List.length_map]
      omega)
    exact ⟨⟨s, hsane.current, hlabels, hlength.trans (by omega)⟩, hrow, hlast⟩
  · rintro ⟨-, -, hlast⟩
    cases lost with
    | false => rfl
    | true => exact absurd hlast hsane.incomplete

namespace ReplayReportLemmas

/-- The queue, the pumps and the workspace of a replay. -/
structure Shows (r : Replay) (q : TaskQueue) (pumps : List Pump) (w : Workspace) : Prop where
  session : ∃ s, r.schedule.sessions = [s] ∧ s.queue = q ∧ s.pumps = pumps
  workspace : r.schedule.workspace = w

variable {w₀ : Workspace} {last : Nat} {lost : Bool} {p p' : Pump} {pumps : List Pump}

theorem replaying_step (replaying : Replaying w₀ capacity policy last stage lost r)
    (sessions : r.schedule.sessions = [s]) (step : SessionStep)
    (possible : s.step r.schedule.workspace r.schedule.now step = some (s', w')) :
    ∃ schedule, Replaying w₀ capacity policy last stage lost { r with schedule } ∧
      Shows { r with schedule } s'.queue s'.pumps w' := by
  exact ⟨_, .session step replaying (step_session sessions possible), ⟨s', rfl, rfl, rfl⟩, rfl⟩

theorem replaying_moves (replaying : Replaying w₀ capacity policy last stage lost r)
    (state : Shows r q pumps w) (run : TaskQueue.Run TaskQueue.Move q w q' w') :
    ∃ schedule, Replaying w₀ capacity policy last stage lost { r with schedule } ∧
      Shows { r with schedule } q' pumps w' := by
  induction run with
  | start => exact ⟨r.schedule, replaying, state⟩
  | step _ move ih =>
    obtain ⟨schedule, hreplaying, ⟨s, hsessions, rfl, rfl⟩, rfl⟩ := ih
    obtain ⟨step, delay, hstep⟩ := TaskQueue.step_of_move move
    exact replaying_step hreplaying hsessions (.queue step)
      (congrArg (Option.map _) hstep)

theorem replaying_pump (replaying : Replaying w₀ capacity policy last stage lost r)
    (state : Shows r q [p] w) (step : p.step q w = some (p', q', w')) :
    ∃ schedule, Replaying w₀ capacity policy last stage lost { r with schedule } ∧
      Shows { r with schedule } q' [p'] w' := by
  obtain ⟨⟨s, hsessions, rfl, hpumps⟩, rfl⟩ := state
  exact replaying_step replaying hsessions (.pump 0) (Session.step_pump hpumps step _)

theorem replaying_start {t : Schedule} {count : Nat}
    (replaying : Replaying w₀ capacity policy last .loggingIn lost
      { schedule := t, subscription := ⟨0⟩, last })
    (state : Shows { schedule := t, subscription := ⟨0⟩, last } q [] w)
    (returned : q.reply? 0 = some (.resumed count)) :
    ∃ schedule, Replaying w₀ capacity policy last .collecting q.status.isHalted
        { schedule, subscription := .toQueue q, last, collecting := !q.status.isHalted } ∧
      Shows { schedule, subscription := .toQueue q, last, collecting := !q.status.isHalted } q
        [.receiving] w := by
  obtain ⟨⟨s, hsessions, rfl, hpumps⟩, rfl⟩ := state
  have hsessions : t.sessions = [s] := hsessions
  have hstarted := replaying.start hsessions returned
  rw [Replay.start, Schedule.onCurrent_of_alone hsessions] at hstarted
  refine ⟨_, hstarted, ⟨s.startPump, rfl, rfl, ?_⟩, rfl⟩
  rw [Session.startPump, hpumps]
  rfl

theorem replaying_collect {c : Completion}
    (replaying : Replaying w₀ capacity policy last .collecting lost r) (state : Shows r q pumps w)
    (collecting : r.collecting = true) (near : q.published.length ≤ feedSize)
    (hc : q.published[r.subscription.position]? = some c) :
    Replaying w₀ capacity policy last .collecting lost
      { r with
        subscription := ⟨r.subscription.position + 1⟩
        collected := r.collected ++ [c]
        collecting := c.sequence < r.last && c.result.isOk } := by
  obtain ⟨⟨s, hsessions, rfl, -⟩, -⟩ := state
  have hcurrent := Schedule.current?_of_alone hsessions
  have hkept : s.queue.published.length - feedSize = 0 := Nat.sub_eq_zero_of_le near
  have hmisses : r.subscription.misses s.queue = false := by simp [Subscription.misses, hkept]
  have hstep : r.step .collect = some { r with
      subscription := ⟨r.subscription.position + 1⟩
      collected := r.collected ++ [c]
      collecting := c.sequence < r.last && c.result.isOk } := by
    simp [Replay.step, Replay.collect?, collecting, hcurrent, Subscription.next?, hkept, hc]
  have hcollected := replaying.collect hcurrent hstep
  rwa [hmisses, Bool.or_false] at hcollected

end ReplayReportLemmas

namespace Sample

/-- An envelope with a tag that nobody knows. -/
def unknownEnvelope : Envelope := ⟨.ofUInt64 1, owner, 0, 0, [], []⟩

/-- A database with a pending vote. -/
def pendingVote : Database := { tasks := ({} : TaskTable).save (pendingName 1) (.reflected movingVote) }

theorem pendingVote_load :
    pendingVote.tasks.load = .ok [(pendingName 1, .reflected movingVote)] := by
  have hfits : Encoded.Fits (TaskData.reflected movingVote) := by
    simp [Encoded.Fits, Encoded.shape, Encoded.toValue, Wire.Shape.Fits, Wire.Fields.Fits,
      Wire.Variants.Fits, movingVote]
    decide
  have hnew : (TaskStore.database {}).Keeps [] := ⟨.nil, .nil, by simp⟩
  exact TaskTable.Keeps.load (TaskTable.Keeps.save hnew hfits (by simp))

end Sample

open Sample

/-- The envelope is passed over, and the report says so. -/
theorem unknown_envelope_is_reported : ∃ r,
    Replaying (Replay.workspace owner {} [unknownEnvelope]) 1 .never 0 .collecting false r ∧
    r.collecting = false ∧ (∃ c, r.collected = [c] ∧ c.sequence = 0) ∧
    ∃ s, r.schedule.current? = some s ∧ s.queue.published.length = 1 := by
  have hload : ({} : Database).tasks.load = .ok [] := by
    rw [TaskTable.load, List.mergeSort_nil]
    rfl
  have hread : (Replay.workspace owner {} [unknownEnvelope]).loadTasks = (.ok [], _) :=
    congrArg (·, _) hload
  have hrunning : QueueStatus.running ≠ .stopped := by decide
  have hstart := @Replaying.login (Replay.workspace owner {} [unknownEnvelope]) 1 .never 0
  obtain ⟨_, hlogin, hstate⟩ := replaying_moves hstart ⟨⟨_, rfl, rfl, rfl⟩, rfl⟩ <|
    .step .start (.of_line rfl (.loadNothing hrunning hread))
  obtain ⟨_, hlooked, hstate⟩ := replaying_start hlogin hstate rfl
  obtain ⟨_, hreceived, hstate⟩ := replaying_pump hlooked hstate rfl
  obtain ⟨_, hplaced, hstate⟩ := replaying_moves hreceived hstate <|
    .step (.step .start (.of_line rfl (.save taskName hrunning rfl rfl)))
      (.of_line rfl (.placeLast rfl Nat.one_pos))
  obtain ⟨_, hstarted, hstate⟩ := replaying_moves hplaced hstate <|
    .step (.step .start (.of_worker rfl (.take rfl hrunning))) (.of_worker rfl (.start rfl))
  obtain ⟨_, hcalled, hstate⟩ := replaying_moves hstarted hstate <|
    .step (.step .start (.of_worker rfl .call)) (.of_worker rfl .call)
  obtain ⟨_, htold, hstate⟩ := replaying_moves hcalled hstate <|
    .step (.step (.step .start (.of_worker rfl (.conclude 0 rfl))) (.of_worker rfl .settle))
      (.of_worker rfl .publish)
  have hcollected := replaying_collect htold hstate rfl (by decide) rfl
  obtain ⟨⟨s, hcurrent, -, hlength⟩, -⟩ :=
    (report_is_complete_iff hload (List.cons_ne_nil _ _) hcollected rfl
      fun c hc => List.mem_singleton.mp hc ▸ rfl).mp rfl
  exact ⟨_, hcollected, rfl, ⟨_, rfl, rfl⟩, s, hcurrent, hlength⟩

/-- The pending vote fails before anyone looks. The report is empty, as if nothing had failed, and the
envelope was not carried out. -/
theorem failed_pending_vote_is_not_reported : ∃ r s,
    pendingVote.tasks.load = .ok [(pendingName 1, .reflected movingVote)] ∧
    Replaying (Replay.workspace owner pendingVote [unknownEnvelope]) 1 .never 1 .collecting true r ∧
    r.collecting = false ∧ r.collected = [] ∧
    r.schedule.current? = some s ∧ s.queue.published.length = 1 := by
  have hrunning : QueueStatus.running ≠ .stopped := by decide
  have hstart := Replaying.meanwhile { interference := [some (.failed "disk full")] } 0 0
    (@Replaying.login (Replay.workspace owner pendingVote [unknownEnvelope]) 1 .never 1)
  obtain ⟨_, hlogin, hstate⟩ := replaying_moves hstart ⟨⟨_, rfl, rfl, rfl⟩, rfl⟩ <|
    .step
      (.step .start
        (.of_line rfl (.load hrunning (congrArg (·, _) pendingVote_load) (List.cons_ne_nil _ _))))
      (.of_line rfl (.placeLast rfl Nat.one_pos))
  obtain ⟨_, hstarted, hstate⟩ := replaying_moves hlogin hstate <|
    .step (.step .start (.of_worker rfl (.take rfl hrunning))) (.of_worker rfl (.start rfl))
  obtain ⟨_, hfailed, hstate⟩ := replaying_moves hstarted hstate <|
    .step (.step .start (.of_worker rfl .call)) (.of_worker rfl (.conclude 0 rfl))
  obtain ⟨_, htold, hstate⟩ := replaying_moves hfailed hstate <|
    .step (.step .start (.of_worker rfl .settle)) (.of_worker rfl .publish)
  obtain ⟨_, hlooked, ⟨⟨s, hsessions, hq, -⟩, -⟩⟩ := replaying_start htold hstate rfl
  refine ⟨_, s, pendingVote_load, hlooked, rfl, rfl, Schedule.current?_of_alone hsessions, ?_⟩
  rw [hq]
  rfl

end DeviceSync
