import DeviceSync.Proofs.Message.RoundTrip
import DeviceSync.Store.Tasks
import Mathlib.Data.List.Forall2

/-!
# What a task store keeps

A store in memory holds the tasks themselves, a store in a database holds rows from which they are read
back. Both keep a list of tasks, each with a name of its own.

1. `TaskId.ofText?_toText`: the text of a name reads back, so that different names have different texts.
2. `TaskStore.Keeps`: the store keeps these tasks, in this order.
3. `Keeps.load`, `Keeps.save`, `Keeps.remove`: such a store lists its tasks, adds a new one at the end
   and removes one where it stands.
4. `TaskStore.Names`: what has a record, whether or not the store can read it.
-/

namespace DeviceSync

/-! ## 1. Names as texts -/

namespace TaskId

theorem hexDigit_ne_hyphen : ∀ n : Nat, n < 16 → Bytes.hexDigit n ≠ '-'
  | 0, _ | 1, _ | 2, _ | 3, _ | 4, _ | 5, _ | 6, _ | 7, _ => by decide
  | 8, _ | 9, _ | 10, _ | 11, _ | 12, _ | 13, _ | 14, _ | 15, _ => by decide
  | _ + 16, h => absurd h (by omega)

theorem toHexDigits_ne_hyphen (bs : Bytes) : ∀ c ∈ Bytes.toHexDigits bs, c ≠ '-' := by
  induction bs with
  | nil => exact fun _ h => nomatch h
  | cons b bs ih =>
    have hb : b.toNat < 256 := b.toNat_lt
    intro c hc
    rcases List.mem_cons.mp hc with rfl | hc
    · exact hexDigit_ne_hyphen _ (by omega)
    rcases List.mem_cons.mp hc with rfl | hc
    · exact hexDigit_ne_hyphen _ (by omega)
    · exact ih c hc

theorem length_toHexDigits (bs : Bytes) : (Bytes.toHexDigits bs).length = 2 * bs.length := by
  induction bs with
  | nil => rfl
  | cons b bs ih =>
    simp only [Bytes.toHexDigits, List.length_cons, ih]
    omega

/-- The hyphens can be taken out again. -/
theorem unhyphenate?_hyphenate {digits : List Char} (plain : ∀ c ∈ digits, c ≠ '-')
    (length : digits.length = 32) : unhyphenate? (hyphenate digits) = some digits := by
  have hpart : ∀ part : List Char, part ⊆ digits → part.filter (· != '-') = part := fun part hsub =>
    List.filter_eq_self.mpr fun c hc => bne_iff_ne.mpr (plain c (hsub hc))
  have hgroup : ∀ n m, ((digits.drop n).take m).filter (· != '-') = (digits.drop n).take m :=
    fun n m => hpart _ fun _ hc => List.mem_of_mem_drop (List.mem_of_mem_take hc)
  have hfilter : (hyphenate digits).filter (· != '-') = digits := by
    have hfirst := hpart _ (List.take_subset 8 digits)
    have hlast := hpart _ (List.drop_subset 20 digits)
    have hjoin : ∀ n m, (digits.drop n).take m ++ digits.drop (n + m) = digits.drop n := fun n m => by
      rw [← List.drop_drop, List.take_append_drop]
    simp only [hyphenate, List.filter_append, List.append_assoc, List.cons_append, hfirst, hgroup, hlast,
      List.filter_cons_of_neg (p := (· != '-')) (a := '-') (by decide), hjoin, List.take_append_drop]
  rw [unhyphenate?, hfilter, if_pos ⟨rfl, length⟩]

theorem ofText?_toText (t : TaskId) : ofText? t.toText = some t := by
  have hdigits : unhyphenate? (hyphenate (Bytes.toHexDigits t.block.bytes)) =
      some (Bytes.toHexDigits t.block.bytes) := by
    refine unhyphenate?_hyphenate (toHexDigits_ne_hyphen _) ?_
    rw [length_toHexDigits, t.block.size_eq]
  rw [ofText?, toText, String.toList_ofList]
  simp only [hdigits, ofDigits?, Bytes.ofHexDigits_toHexDigits, Option.bind_eq_bind, Option.bind_some,
    Block.ofBytes?_bytes]
  rfl

theorem toText_inj {t t' : TaskId} : t.toText = t'.toText ↔ t = t' := by
  refine ⟨fun h => ?_, congrArg toText⟩
  have hsome := congrArg ofText? h
  rw [ofText?_toText, ofText?_toText] at hsome
  exact Option.some.inj hsome

end TaskId

/-! ## 2. What is kept -/

/-- The row holds this task. -/
def TaskRow.Holds (row : TaskRow) (t : TaskId × TaskData) : Prop :=
  row.idText = t.1.toText ∧ row.read = .ok t

/-- The table holds these tasks, in this order. -/
structure TaskTable.Keeps (t : TaskTable) (l : List (TaskId × TaskData)) : Prop where
  rows : List.Forall₂ TaskRow.Holds t.rows l
  ordered : t.rows.Pairwise fun a b => a.number < b.number
  numbered : ∀ row ∈ t.rows, row.number ≤ t.lastNumber

/-- The store keeps these tasks, in this order. -/
def TaskStore.Keeps (l : List (TaskId × TaskData)) : TaskStore → Prop
  | .memory s => s.entries = l
  | .database t => t.Keeps l

/-- The store can take a task: in a database, its encoding can be read back. -/
def TaskStore.Takes (data : TaskData) : TaskStore → Prop
  | .memory _ => True
  | .database _ => Encoded.Fits data

/-! ## 3. Calls -/

namespace TaskTable

variable {t : TaskTable} {l : List (TaskId × TaskData)} {id : TaskId} {data : TaskData}

theorem idTexts {rows : List TaskRow} (holds : List.Forall₂ TaskRow.Holds rows l) :
    rows.map (·.idText) = l.map (·.1.toText) := by
  induction holds with
  | nil => rfl
  | cons hrow _ ih => rw [List.map_cons, List.map_cons, hrow.1, ih]

theorem mapM_read {rows : List TaskRow} (holds : List.Forall₂ TaskRow.Holds rows l) :
    rows.mapM TaskRow.read = .ok l := by
  induction holds with
  | nil => rfl
  | cons hrow _ ih =>
    rw [List.mapM_cons, hrow.2, ih]
    rfl

theorem Keeps.load (keeps : t.Keeps l) : t.load = .ok l := by
  have hordered : t.rows.Pairwise fun a b => decide (a.number ≤ b.number) :=
    keeps.ordered.imp fun h => decide_eq_true (Nat.le_of_lt h)
  rw [TaskTable.load, List.mergeSort_of_pairwise hordered, mapM_read keeps.rows]

/-- A row reads back the data that was written into it. -/
theorem holds_encode (row : TaskRow) (idText : row.idText = id.toText) (fits : Encoded.Fits data) :
    TaskRow.Holds { row with data := Encoded.encode data } (id, data) := by
  have hdecode := Encoded.decode_encode fits []
  rw [List.append_nil] at hdecode
  refine ⟨idText, ?_⟩
  simp only [TaskRow.read, idText, TaskId.ofText?_toText, hdecode]

theorem Keeps.save (keeps : t.Keeps l) (fits : Encoded.Fits data) (fresh : ∀ e ∈ l, e.1 ≠ id) :
    (t.save id data).Keeps (l ++ [(id, data)]) := by
  have hfresh : t.rows.any (·.idText == id.toText) = false := by
    have htexts : (t.rows.map (·.idText)).any (· == id.toText) = false := by
      simpa [idTexts keeps.rows, TaskId.toText_inj] using fresh
    rwa [List.any_map] at htexts
  have hrow : TaskRow.Holds ⟨t.lastNumber + 1, id.toText, Encoded.encode data⟩ (id, data) :=
    holds_encode ⟨t.lastNumber + 1, id.toText, []⟩ rfl fits
  rw [TaskTable.save, hfresh, if_neg Bool.false_ne_true, append]
  refine ⟨List.rel_append keeps.rows (.cons hrow .nil), ?_, fun row hrow => ?_⟩
  · refine List.pairwise_append.mpr ⟨keeps.ordered, List.pairwise_singleton _ _, ?_⟩
    intro a ha b hb
    rw [List.mem_singleton.mp hb]
    exact Nat.lt_succ_of_le (keeps.numbered a ha)
  · rcases List.mem_append.mp hrow with hrow | hrow
    · exact Nat.le_succ_of_le (keeps.numbered row hrow)
    · rw [List.mem_singleton.mp hrow]

theorem Keeps.remove (keeps : t.Keeps l) (id : TaskId) :
    (t.remove id).Keeps (l.filter (·.1 != id)) where
  rows := by
    refine List.rel_filter (fun row e hholds => ?_) keeps.rows
    simp [hholds.1, TaskId.toText_inj]
  ordered := keeps.ordered.filter _
  numbered row hrow := keeps.numbered row (List.mem_of_mem_filter hrow)

end TaskTable

namespace TaskStore

variable {s : TaskStore} {l : List (TaskId × TaskData)} {id : TaskId} {data : TaskData}

theorem Keeps.load (keeps : s.Keeps l) : s.load = .ok l := by
  cases s with
  | memory s => exact congrArg Except.ok keeps
  | database t => exact TaskTable.Keeps.load keeps

/-- A new task is added at the end. -/
theorem Keeps.save (keeps : s.Keeps l) (takes : s.Takes data) (fresh : ∀ e ∈ l, e.1 ≠ id) :
    (s.save id data).Keeps (l ++ [(id, data)]) := by
  cases s with
  | memory s =>
    obtain rfl : s.entries = l := keeps
    have hfresh : s.entries.any (·.1 == id) = false := by
      simpa using fresh
    show (TaskList.save s id data).entries = _
    rw [TaskList.save, hfresh, if_neg Bool.false_ne_true]
  | database t => exact TaskTable.Keeps.save keeps takes fresh

theorem Keeps.remove (keeps : s.Keeps l) (id : TaskId) :
    (s.remove id).Keeps (l.filter (·.1 != id)) := by
  cases s with
  | memory s =>
    obtain rfl : s.entries = l := keeps
    rfl
  | database t => exact TaskTable.Keeps.remove keeps id

/-- What a store can take does not depend on what it keeps. -/
theorem takes_save : (s.save id data).Takes = s.Takes := by
  cases s <;> rfl

theorem takes_remove : (s.remove id).Takes = s.Takes := by
  cases s <;> rfl

end TaskStore

/-! ## 4. Names in a store -/

namespace TaskStore

variable {s : TaskStore} {id id' : TaskId} {data : TaskData}

/-- The store has a record under this name, in whatever form the name is written. -/
def Names (id : TaskId) : TaskStore → Prop
  | memory l => ∃ t ∈ l.entries, t.1 = id
  | database t => ∃ row ∈ t.rows, TaskId.ofText? row.idText = some id

theorem Names.of_save (names : (s.save id' data).Names id) : s.Names id ∨ id = id' := by
  cases s with
  | memory l =>
    obtain ⟨t, ht, rfl⟩ := names
    unfold TaskList.save at ht
    split at ht
    · obtain ⟨t, hkept, rfl⟩ := List.mem_map.mp ht
      refine .inl ⟨t, hkept, ?_⟩
      split <;> rfl
    · rcases List.mem_append.mp ht with ht | ht
      · exact .inl ⟨t, ht, rfl⟩
      · exact .inr (congrArg Prod.fst (List.mem_singleton.mp ht))
  | database t =>
    obtain ⟨row, hrow, hname⟩ := names
    unfold TaskTable.save at hrow
    split at hrow
    · obtain ⟨row, hkept, rfl⟩ := List.mem_map.mp hrow
      refine .inl ⟨row, hkept, ?_⟩
      split at hname <;> exact hname
    · rcases List.mem_append.mp hrow with hrow | hrow
      · exact .inl ⟨row, hrow, hname⟩
      · rw [List.mem_singleton.mp hrow, TaskId.ofText?_toText] at hname
        exact .inr (Option.some.inj hname).symm

theorem Names.of_remove (names : (s.remove id').Names id) : s.Names id := by
  cases s with
  | memory l =>
    obtain ⟨t, ht, hname⟩ := names
    exact ⟨t, List.mem_of_mem_filter ht, hname⟩
  | database t =>
    obtain ⟨row, hrow, hname⟩ := names
    exact ⟨row, List.mem_of_mem_filter hrow, hname⟩

end TaskStore

namespace Sample

/-- A name of equal octets. -/
def pendingName (b : UInt8) : TaskId := ⟨List.replicate 16 b, rfl⟩

/-- A task with nothing in it but the number of its message. -/
def bareTask (number : UInt64) : TaskData :=
  .reflected ⟨.ofUInt64 number, ⟨"CAROL001", by decide⟩, 0, 0, [], []⟩

end Sample

end DeviceSync
