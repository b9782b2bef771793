import DeviceSync.Proofs.Store.Tasks
import Mathlib.Data.List.Nodup

/-!
# Task stores list what was saved

A store in memory edits a list in its place, a store in a database has rows with growing numbers and
encoded data. Both list the tasks that were saved and not removed since, in the order in which they
were first saved, with the data that was saved last.

1. `TaskCall`, `TaskReply`: what a store is asked, and answers.
2. `TaskCall.latest`, `TaskCall.since`, `TaskCall.Lists`: the rule, read off the calls alone.
3. One list tells both stores what to answer (`TaskStore.Keeps.call`), and each call makes of it what
   the rule says (`TaskCall.Lists.call`).
4. `task_stores_list_saved_tasks`: so do all calls of a sequence.
-/

namespace DeviceSync

/-! ## 1. Calls -/

/-- A call to a task store. -/
inductive TaskCall
  | save (id : TaskId) (data : TaskData)
  | remove (id : TaskId)
  | load
deriving DecidableEq

/-- What a task store answers. -/
inductive TaskReply
  | saved
  | removed
  | loaded (tasks : Except StoreError (List (TaskId × TaskData)))
deriving DecidableEq

namespace TaskCall

/-- Asks a store. -/
def onStore (s : TaskStore) : TaskCall → TaskReply × TaskStore
  | save id data => (.saved, s.save id data)
  | remove id => (.removed, s.remove id)
  | load => (.loaded s.load, s)

/-- The answers to some calls, one after the other. -/
def replies : TaskStore → List TaskCall → List TaskReply
  | _, [] => []
  | s, c :: cs => (c.onStore s).1 :: replies (c.onStore s).2 cs

/-! ## 2. The rule -/

/-- The data that was saved last under a name, unless the task was removed since. The newest call comes
first. -/
def latest (id : TaskId) : List TaskCall → Option TaskData
  | [] => none
  | save id' data :: past => if id' = id then some data else latest id past
  | remove id' :: past => if id' = id then none else latest id past
  | load :: past => latest id past

/-- How many calls there were before a task was first saved since it was last removed. -/
def since (id : TaskId) : List TaskCall → Option Nat
  | [] => none
  | save id' _ :: past => if id' = id then some ((since id past).getD past.length) else since id past
  | remove id' :: past => if id' = id then none else since id past
  | load :: past => since id past

/-- After these calls, the newest of which comes first, these tasks are listed. -/
structure Lists (past : List TaskCall) (l : List (TaskId × TaskData)) : Prop where
  distinct : (l.map (·.1)).Nodup
  latest : ∀ id data, (id, data) ∈ l ↔ latest id past = some data
  ordered : l.Pairwise fun a b =>
    ∃ i j, since a.1 past = some i ∧ since b.1 past = some j ∧ i < j

/-- What a call makes of a list of tasks. -/
def onList (l : List (TaskId × TaskData)) : TaskCall → List (TaskId × TaskData)
  | save id data => (TaskList.save ⟨l⟩ id data).entries
  | remove id => (TaskList.remove ⟨l⟩ id).entries
  | load => l

end TaskCall

/-! ## 3. One call -/

theorem TaskList.save_of_mem {l : List (TaskId × TaskData)} {id : TaskId} (known : ∃ e ∈ l, e.1 = id)
    (data : TaskData) :
    (TaskList.save ⟨l⟩ id data).entries = l.map fun e => if e.1 = id then (e.1, data) else e := by
  have hknown : l.any (·.1 == id) = true := by simpa using known
  rw [TaskList.save, if_pos hknown]

theorem TaskList.save_of_not_mem {l : List (TaskId × TaskData)} {id : TaskId}
    (fresh : ∀ e ∈ l, e.1 ≠ id) (data : TaskData) :
    (TaskList.save ⟨l⟩ id data).entries = l ++ [(id, data)] := by
  have hfresh : l.any (·.1 == id) = false := by simpa using fresh
  rw [TaskList.save, hfresh, if_neg Bool.false_ne_true]

namespace TaskTable

variable {t : TaskTable} {l : List (TaskId × TaskData)} {id : TaskId} {data : TaskData}

/-- A task that is there already keeps its row. -/
theorem Keeps.replace (keeps : t.Keeps l) (fits : Encoded.Fits data) (known : ∃ e ∈ l, e.1 = id) :
    (t.save id data).Keeps (l.map fun e => if e.1 = id then (e.1, data) else e) := by
  have hknown : t.rows.any (·.idText == id.toText) = true := by
    have htexts : (t.rows.map (·.idText)).any (· == id.toText) = true := by
      simpa [idTexts keeps.rows, TaskId.toText_inj] using known
    rwa [List.any_map] at htexts
  rw [TaskTable.save, if_pos hknown]
  refine ⟨?_, ?_, ?_⟩
  · refine List.forall₂_map_left_iff.mpr (List.forall₂_map_right_iff.mpr (keeps.rows.imp ?_))
    intro row e hholds
    by_cases hid : e.1 = id
    · have htext : row.idText = e.1.toText := hholds.1
      rw [if_pos (by rw [htext, hid]), if_pos hid]
      exact holds_encode _ htext fits
    · rw [if_neg (by rw [hholds.1, TaskId.toText_inj]; exact hid), if_neg hid]
      exact hholds
  · refine List.pairwise_map.mpr (keeps.ordered.imp ?_)
    intro a b hlt
    split <;> split <;> exact hlt
  · intro row' hrow'
    obtain ⟨row, hrow, rfl⟩ := List.mem_map.mp hrow'
    split <;> exact keeps.numbered row hrow

end TaskTable

namespace TaskStore

variable {s s' : TaskStore} {l : List (TaskId × TaskData)}

/-- Saving makes of the store what it makes of the list, whether or not the task is there. -/
theorem Keeps.saveAny (keeps : s.Keeps l) {data : TaskData} (takes : s.Takes data) (id : TaskId) :
    (s.save id data).Keeps (TaskList.save ⟨l⟩ id data).entries := by
  by_cases hknown : ∃ e ∈ l, e.1 = id
  · cases s with
    | memory s =>
      obtain rfl : s.entries = l := keeps
      rfl
    | database t =>
      rw [TaskList.save_of_mem hknown]
      exact TaskTable.Keeps.replace keeps takes hknown
  · have hfresh : ∀ e ∈ l, e.1 ≠ id := fun e he hid => hknown ⟨e, he, hid⟩
    rw [TaskList.save_of_not_mem hfresh]
    exact keeps.save takes hfresh

/-- The store can take what a call brings. -/
def TakesCall (s : TaskStore) (c : TaskCall) : Prop := ∀ id data, c = .save id data → s.Takes data

/-- A call makes of the store what it makes of the list. -/
theorem Keeps.call (keeps : s.Keeps l) {c : TaskCall} (takes : s.TakesCall c) :
    (c.onStore s).2.Keeps (c.onList l) := by
  cases c with
  | save id data => exact keeps.saveAny (takes id data rfl) id
  | remove id => exact keeps.remove id
  | load => exact keeps

/-- Stores that keep the same list answer the same. -/
theorem Keeps.reply (keeps : s.Keeps l) (keeps' : s'.Keeps l) (c : TaskCall) :
    (c.onStore s).1 = (c.onStore s').1 := by
  cases c with
  | save | remove => rfl
  | load => exact congrArg TaskReply.loaded (keeps.load.trans keeps'.load.symm)

end TaskStore

namespace TaskCall

variable {past : List TaskCall} {l : List (TaskId × TaskData)} {id : TaskId} {data : TaskData}

theorem since_eq_none_iff : since id past = none ↔ latest id past = none := by
  induction past with
  | nil => exact ⟨fun _ => rfl, fun _ => rfl⟩
  | cons c past ih =>
    cases c with
    | save id' _ =>
      by_cases hid : id' = id
      · simp [since, latest, hid]
      · simpa [since, latest, hid] using ih
    | remove id' =>
      by_cases hid : id' = id
      · simp [since, latest, hid]
      · simpa [since, latest, hid] using ih
    | load => exact ih

theorem since_lt {i : Nat} (h : since id past = some i) : i < past.length := by
  induction past generalizing i with
  | nil => exact nomatch h
  | cons c past ih =>
    cases c with
    | save id' _ =>
      by_cases hid : id' = id
      · rw [since, if_pos hid] at h
        obtain rfl := Option.some.inj h
        cases hpast : since id past with
        | none => exact Nat.lt_succ_self _
        | some j => exact Nat.lt_succ_of_lt (ih hpast)
      · rw [since, if_neg hid] at h
        exact Nat.lt_succ_of_lt (ih h)
    | remove id' =>
      by_cases hid : id' = id
      · rw [since, if_pos hid] at h
        exact nomatch h
      · rw [since, if_neg hid] at h
        exact Nat.lt_succ_of_lt (ih h)
    | load => exact Nat.lt_succ_of_lt (ih h)

/-- A task that is listed was saved at some call. -/
theorem Lists.since_of_mem (lists : Lists past l) {e : TaskId × TaskData} (he : e ∈ l) :
    ∃ i, since e.1 past = some i := by
  refine Option.ne_none_iff_exists'.mp fun hnone => ?_
  have hlatest := (lists.latest e.1 e.2).mp he
  exact nomatch hlatest.symm.trans (since_eq_none_iff.mp hnone)

/-- A task that is not listed is pending since no call. -/
theorem Lists.since_of_fresh (lists : Lists past l) (fresh : ∀ e ∈ l, e.1 ≠ id) :
    since id past = none := by
  rw [since_eq_none_iff, Option.eq_none_iff_forall_ne_some]
  exact fun data hdata => fresh (id, data) ((lists.latest id data).mpr hdata) rfl

/-- Where the same tasks are listed under the same names, their order is the same. -/
theorem Lists.ordered_of_since (lists : Lists past l) {past' : List TaskCall}
    (same : ∀ e ∈ l, since e.1 past' = since e.1 past) :
    l.Pairwise fun a b => ∃ i j, since a.1 past' = some i ∧ since b.1 past' = some j ∧ i < j := by
  refine lists.ordered.imp_of_mem fun ha hb hab => ?_
  rwa [same _ ha, same _ hb]

theorem Lists.replace (lists : Lists past l) (known : ∃ e ∈ l, e.1 = id) :
    Lists (.save id data :: past) (l.map fun e => if e.1 = id then (e.1, data) else e) where
  distinct := by
    have hnames : (l.map fun e => if e.1 = id then (e.1, data) else e).map (·.1) = l.map (·.1) := by
      rw [List.map_map]
      refine List.map_congr_left fun e _ => ?_
      dsimp only [Function.comp_apply]
      split <;> rfl
    rw [hnames]
    exact lists.distinct
  latest id' data' := by
    obtain ⟨e, he, rfl⟩ := known
    by_cases hid : e.1 = id'
    · subst hid
      rw [TaskCall.latest, if_pos rfl, List.mem_map, Option.some_inj]
      constructor
      · rintro ⟨e', -, heq⟩
        split at heq
        · exact (Prod.mk.inj heq).2
        · rename_i hne
          exact absurd (congrArg Prod.fst heq) hne
      · rintro rfl
        exact ⟨e, he, if_pos rfl⟩
    · rw [TaskCall.latest, if_neg hid, ← lists.latest, List.mem_map]
      constructor
      · rintro ⟨e', he', heq⟩
        split at heq
        · rename_i hsame
          have hname : e'.1 = id' := congrArg Prod.fst heq
          exact absurd (hsame.symm.trans hname) hid
        · exact heq ▸ he'
      · exact fun h => ⟨_, h, if_neg (Ne.symm hid)⟩
  ordered := by
    have hsame : ∀ e ∈ l, since e.1 (.save id data :: past) = since e.1 past := by
      intro e he
      obtain ⟨i, hi⟩ := lists.since_of_mem he
      rw [since, hi]
      split <;> rfl
    refine List.pairwise_map.mpr ((lists.ordered_of_since hsame).imp fun {a b} hab => ?_)
    have hname : ∀ e : TaskId × TaskData, (if e.1 = id then (e.1, data) else e).1 = e.1 := by
      intro e
      split <;> rfl
    rwa [hname, hname]

theorem Lists.append (lists : Lists past l) (fresh : ∀ e ∈ l, e.1 ≠ id) :
    Lists (.save id data :: past) (l ++ [(id, data)]) where
  distinct := by
    rw [List.map_append, List.map_singleton]
    refine List.nodup_append'.mpr ⟨lists.distinct, List.nodup_singleton _, ?_⟩
    intro name hname hsame
    obtain ⟨e, he, rfl⟩ := List.mem_map.mp hname
    exact fresh e he (List.mem_singleton.mp hsame)
  latest id' data' := by
    rw [List.mem_append, lists.latest, List.mem_singleton, Prod.mk.injEq, TaskCall.latest]
    by_cases hid : id = id'
    · subst hid
      have hnone := since_eq_none_iff.mp (lists.since_of_fresh fresh)
      rw [hnone, if_pos rfl, Option.some_inj]
      simp [eq_comm]
    · rw [if_neg hid]
      simp [Ne.symm hid]
  ordered := by
    have hsame : ∀ e ∈ l, since e.1 (.save id data :: past) = since e.1 past := fun e he =>
      if_neg (Ne.symm (fresh e he))
    refine List.pairwise_append.mpr
      ⟨lists.ordered_of_since hsame, List.pairwise_singleton _ _, fun a ha b hb => ?_⟩
    obtain rfl := List.mem_singleton.mp hb
    obtain ⟨i, hi⟩ := lists.since_of_mem ha
    refine ⟨i, past.length, (hsame a ha).trans hi, ?_, since_lt hi⟩
    rw [since, if_pos rfl, lists.since_of_fresh fresh, Option.getD_none]

theorem Lists.remove (lists : Lists past l) (id : TaskId) :
    Lists (.remove id :: past) (l.filter (·.1 != id)) where
  distinct := lists.distinct.sublist (List.filter_sublist.map _)
  latest id' data := by
    rw [List.mem_filter, lists.latest, TaskCall.latest]
    by_cases hid : id = id'
    · simp [hid]
    · simp [hid, Ne.symm hid]
  ordered := by
    refine List.Pairwise.imp_of_mem (fun {a b} ha hb hab => ?_) (lists.ordered.filter _)
    have hother : ∀ e ∈ l.filter (·.1 != id), since e.1 (.remove id :: past) = since e.1 past := by
      intro e he
      rw [since, if_neg (Ne.symm (by simpa using (List.mem_filter.mp he).2))]
    rwa [hother a ha, hother b hb]

/-- A call makes of the list what the rule says. -/
theorem Lists.call (lists : Lists past l) (c : TaskCall) : Lists (c :: past) (c.onList l) := by
  cases c with
  | save id data =>
    by_cases hknown : ∃ e ∈ l, e.1 = id
    · rw [onList, TaskList.save_of_mem hknown]
      exact lists.replace hknown
    · have hfresh : ∀ e ∈ l, e.1 ≠ id := fun e he hid => hknown ⟨e, he, hid⟩
      rw [onList, TaskList.save_of_not_mem hfresh]
      exact lists.append hfresh
  | remove id => exact lists.remove id
  | load => exact ⟨lists.distinct, lists.latest, lists.ordered⟩

/-! ## 4. Sequences of calls -/

theorem takesCall_onStore {s : TaskStore} {c c' : TaskCall} (takes : s.TakesCall c') :
    (c.onStore s).2.TakesCall c' := by
  intro id data hsave
  have htakes : (c.onStore s).2.Takes = s.Takes := by
    cases c with
    | save => exact TaskStore.takes_save
    | remove => exact TaskStore.takes_remove
    | load => rfl
  exact (congrFun htakes data).mpr (takes id data hsave)

theorem replies_of_keeps {s s' : TaskStore} (keeps : s.Keeps l) (keeps' : s'.Keeps l)
    {calls : List TaskCall} (takes : ∀ c ∈ calls, s.TakesCall c) (takes' : ∀ c ∈ calls, s'.TakesCall c) :
    replies s calls = replies s' calls := by
  induction calls generalizing s s' l with
  | nil => rfl
  | cons c calls ih =>
    have hkeeps := keeps.call (takes c List.mem_cons_self)
    have hkeeps' := keeps'.call (takes' c List.mem_cons_self)
    refine congrArg₂ List.cons (keeps.reply keeps' c) (ih hkeeps hkeeps' ?_ ?_)
    · exact fun d hd => takesCall_onStore (takes d (List.mem_cons_of_mem c hd))
    · exact fun d hd => takesCall_onStore (takes' d (List.mem_cons_of_mem c hd))

theorem takesCall_memory (s : TaskList) (c : TaskCall) : (TaskStore.memory s).TakesCall c :=
  fun _ _ _ => trivial

/-- The answer to a load is a list that the rule allows. -/
theorem loaded_of_lists {s : TaskStore} (keeps : s.Keeps l) (lists : Lists past l)
    {before after : List TaskCall} (takes : ∀ c ∈ before, s.TakesCall c) :
    ∃ l', (replies s (before ++ .load :: after))[before.length]? = some (.loaded (.ok l')) ∧
      Lists (before.reverse ++ past) l' := by
  induction before generalizing s l past with
  | nil => exact ⟨l, congrArg (fun r => some (TaskReply.loaded r)) keeps.load, lists⟩
  | cons c before ih =>
    obtain ⟨l', hanswer, hlists⟩ := ih (keeps.call (takes c List.mem_cons_self)) (lists.call c)
      fun d hd => takesCall_onStore (takes d (List.mem_cons_of_mem c hd))
    refine ⟨l', hanswer, ?_⟩
    rw [List.reverse_cons, List.append_assoc]
    exact hlists

end TaskCall

/-- A task store in memory, new at first, answers every load with the tasks that were saved and not
removed since: in the order in which they were first saved, each with the data that was saved last. A
store in a database gives the same answers, and reads back whatever it stored; it stores no texts or
lists of `2 ^ 32` elements or more. -/
theorem task_stores_list_saved_tasks (calls : List TaskCall) :
    (∀ before after, calls = before ++ .load :: after →
      ∃ l, (TaskCall.replies (.memory {}) calls)[before.length]? = some (.loaded (.ok l)) ∧
        TaskCall.Lists before.reverse l) ∧
    ((∀ id data, .save id data ∈ calls → Encoded.Fits data) →
      TaskCall.replies (.database {}) calls = TaskCall.replies (.memory {}) calls) := by
  have hmemory : (TaskStore.memory {}).Keeps [] := rfl
  have hdatabase : (TaskStore.database {}).Keeps [] := ⟨.nil, .nil, nofun⟩
  refine ⟨?_, fun fits => ?_⟩
  · rintro before after rfl
    have hnew : TaskCall.Lists [] [] := ⟨List.nodup_nil, fun _ _ => by simp [TaskCall.latest], .nil⟩
    obtain ⟨l, hanswer, hlists⟩ := TaskCall.loaded_of_lists hmemory hnew
      fun c (_ : c ∈ before) => TaskCall.takesCall_memory {} c
    exact ⟨l, hanswer, by rwa [List.append_nil] at hlists⟩
  · refine TaskCall.replies_of_keeps hdatabase hmemory (fun c hc id data hsave => ?_)
      fun c _ => TaskCall.takesCall_memory {} c
    exact fits id data (hsave ▸ hc)

namespace Sample

theorem bareTask_fits (number : UInt64) : Encoded.Fits (bareTask number) := by
  simp [Encoded.Fits, Encoded.shape, Encoded.toValue, Wire.Shape.Fits, Wire.Fields.Fits,
    Wire.Variants.Fits, bareTask]

/-- Task 1 is saved twice before the first look, and removed and saved again before the second. -/
def taskCalls : List TaskCall :=
  [.save (pendingName 1) (bareTask 10), .save (pendingName 2) (bareTask 20),
    .save (pendingName 1) (bareTask 11), .load, .remove (pendingName 1),
    .save (pendingName 1) (bareTask 12), .load]

end Sample

open Sample in
/-- In a database, a task that is saved again keeps its place; removed before, it comes last. -/
theorem removed_task_is_saved_at_the_end :
    (∀ id data, .save id data ∈ taskCalls → Encoded.Fits data) ∧
    TaskCall.replies (.database {}) taskCalls =
      [.saved, .saved, .saved, .loaded (.ok [(pendingName 1, bareTask 11), (pendingName 2, bareTask 20)]),
        .removed, .saved,
        .loaded (.ok [(pendingName 2, bareTask 20), (pendingName 1, bareTask 12)])] := by
  have hfits : ∀ id data, .save id data ∈ taskCalls → Encoded.Fits data := by
    intro id data hsave
    have hbare : ∃ number, data = bareTask number := by
      simp only [taskCalls, List.mem_cons, TaskCall.save.injEq, reduceCtorEq, List.not_mem_nil, or_false,
        false_or] at hsave
      rcases hsave with ⟨-, h⟩ | ⟨-, h⟩ | ⟨-, h⟩ | ⟨-, h⟩ <;> exact ⟨_, h⟩
    obtain ⟨number, rfl⟩ := hbare
    exact bareTask_fits number
  exact ⟨hfits, ((task_stores_list_saved_tasks taskCalls).2 hfits).trans rfl⟩

end DeviceSync
