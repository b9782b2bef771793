import DeviceSync.Store.Nonces

/-!
# What a nonce store remembers

A store is seen through `NonceStore.hashes`. Recording a batch either finds one of its hashes and
changes nothing (`insertAll_of_known`), or finds none and appends the distinct hashes
(`insertAll_of_fresh`); both stores do the same. Releasing the batch that was just recorded gives
the store back as it was (`removeAll_extend`), so it never removes what another message recorded.
-/

namespace DeviceSync

/-! ## Batches -/

theorem Nonce.mem_hashes {scope : Identity} {ns : List Nonce} {h : NonceHash} :
    h ∈ Nonce.hashes scope ns ↔ ∃ n ∈ ns, n.hash scope = h := by
  rw [Nonce.hashes, List.mem_eraseDups, List.mem_map]

/-- The list without repetitions has none. -/
theorem nodup_eraseDups {α : Type} [BEq α] [LawfulBEq α] (l : List α) : l.eraseDups.Nodup := by
  cases l with
  | nil => exact List.nodup_nil
  | cons a l =>
    rw [List.eraseDups_cons, List.nodup_cons, List.mem_eraseDups]
    refine ⟨by simp, nodup_eraseDups _⟩
termination_by l.length
decreasing_by exact Nat.lt_succ_of_le (List.length_filter_le _ _)

theorem Nonce.nodup_hashes (scope : Identity) (ns : List Nonce) : (Nonce.hashes scope ns).Nodup :=
  nodup_eraseDups _

/-- Erasing a batch from the end of a list that shares nothing with it. -/
theorem foldl_erase_append {α : Type} [BEq α] [LawfulBEq α] {kept batch : List α}
    (apart : ∀ a ∈ batch, a ∉ kept) : batch.foldl List.erase (kept ++ batch) = kept := by
  induction batch with
  | nil => exact List.append_nil kept
  | cons a batch ih =>
    rw [List.foldl_cons, List.erase_append_right _ (apart a List.mem_cons_self),
      List.erase_cons_head]
    exact ih fun b hb => apart b (List.mem_cons_of_mem _ hb)

/-! ## The table of a database -/

namespace NonceTable

/-- Row by row, a batch without repetitions goes in as a whole or not at all. -/
theorem insertRows_eq {batch : List NonceHash} (distinct : batch.Nodup) (t : NonceTable) :
    t.insertRows batch =
      if batch.any t.rows.contains then none else some ⟨t.rows ++ batch⟩ := by
  induction batch generalizing t with
  | nil => simp [insertRows]
  | cons h batch ih =>
    obtain ⟨hnot, hrest⟩ := List.nodup_cons.mp distinct
    have hsame : batch.any (t.rows ++ [h]).contains = batch.any t.rows.contains := by
      rw [Bool.eq_iff_iff, List.any_eq_true, List.any_eq_true]
      refine exists_congr fun a => and_congr_right fun ha => ?_
      have hne : a ≠ h := fun he => hnot (he ▸ ha)
      simp [hne]
    rw [insertRows, insertRow]
    by_cases hin : t.rows.contains h = true
    · simp only [hin, if_true, List.any_cons, Bool.true_or]
    · simp only [hin, Bool.false_eq_true, if_false, ih hrest, hsame, List.any_cons, Bool.false_or,
        List.append_assoc, List.singleton_append]

theorem insertAll_eq {batch : List NonceHash} (distinct : batch.Nodup) (t : NonceTable) :
    t.insertAll batch =
      if batch.any t.rows.contains then (false, t) else (true, ⟨t.rows ++ batch⟩) := by
  rw [insertAll, insertRows_eq distinct]
  by_cases hany : batch.any t.rows.contains = true
  · simp only [hany, if_true]
  · simp only [hany, Bool.false_eq_true, if_false]

/-- Removing row by row leaves the rows outside the batch. -/
theorem removeAll_eq (batch : List NonceHash) (t : NonceTable) :
    t.removeAll batch = ⟨t.rows.filter fun h => !batch.contains h⟩ := by
  unfold removeAll
  induction batch generalizing t with
  | nil => exact congrArg NonceTable.mk (List.filter_eq_self.mpr fun _ _ => rfl).symm
  | cons a batch ih =>
    rw [List.foldl_cons, ih, List.filter_filter]
    congr 1
    refine List.filter_congr fun h _ => ?_
    by_cases he : h = a <;> simp [he]

end NonceTable

/-! ## Both stores -/

namespace NonceStore

theorem contains_iff {s : NonceStore} {scope : Identity} {n : Nonce} :
    s.contains scope n = true ↔ n.hash scope ∈ s.hashes := by
  rw [contains, List.contains_iff_mem]

/-- The store with a batch at the end, whatever is in it. -/
def extend (s : NonceStore) (batch : List NonceHash) : NonceStore :=
  match s with
  | memory s => memory ⟨s.hashes ++ batch⟩
  | database t => database ⟨t.rows ++ batch⟩

@[simp] theorem hashes_extend (s : NonceStore) (batch : List NonceHash) :
    (s.extend batch).hashes = s.hashes ++ batch := by
  cases s <;> rfl

/-- The one rule of both stores: a batch is recorded if no hash of it is there. -/
theorem insertAll_eq (s : NonceStore) (scope : Identity) (ns : List Nonce) :
    s.insertAll scope ns =
      if (Nonce.hashes scope ns).any s.hashes.contains then (false, s)
      else (true, s.extend (Nonce.hashes scope ns)) := by
  cases s with
  | memory s =>
    simp only [insertAll, NonceSet.insertAll, hashes]
    by_cases hany : (Nonce.hashes scope ns).any s.hashes.contains = true
    · simp only [hany, if_true]
    · simp only [hany, Bool.false_eq_true, if_false, extend]
  | database t =>
    simp only [insertAll, NonceTable.insertAll_eq (Nonce.nodup_hashes scope ns), hashes]
    by_cases hany : (Nonce.hashes scope ns).any t.rows.contains = true
    · simp only [hany, if_true]
    · simp only [hany, Bool.false_eq_true, if_false, extend]

/-- A batch of which something is known is refused, and the store stays as it is. -/
theorem insertAll_of_known {s : NonceStore} {scope : Identity} {ns : List Nonce}
    (known : ∃ n ∈ ns, s.contains scope n = true) : s.insertAll scope ns = (false, s) := by
  obtain ⟨n, hn, hc⟩ := known
  rw [insertAll_eq, if_pos]
  exact List.any_eq_true.mpr
    ⟨n.hash scope, Nonce.mem_hashes.mpr ⟨n, hn, rfl⟩, List.contains_iff_mem.mpr (contains_iff.mp hc)⟩

/-- A batch of which nothing is known is recorded. -/
theorem insertAll_of_fresh {s : NonceStore} {scope : Identity} {ns : List Nonce}
    (fresh : ∀ n ∈ ns, s.contains scope n = false) :
    s.insertAll scope ns = (true, s.extend (Nonce.hashes scope ns)) := by
  rw [insertAll_eq, if_neg]
  intro hany
  obtain ⟨h, hmem, hin⟩ := List.any_eq_true.mp hany
  obtain ⟨n, hn, rfl⟩ := Nonce.mem_hashes.mp hmem
  exact absurd (contains_iff.mpr (List.contains_iff_mem.mp hin)) (by simp [fresh n hn])

/-- A batch is refused for a nonce that is known, and recorded otherwise. -/
theorem known_or_fresh (s : NonceStore) (scope : Identity) (ns : List Nonce) :
    (∃ n ∈ ns, s.contains scope n = true) ∨ ∀ n ∈ ns, s.contains scope n = false := by
  by_cases h : ∃ n ∈ ns, s.contains scope n = true
  · exact .inl h
  · exact .inr fun n hn => Bool.eq_false_iff.mpr fun hc => h ⟨n, hn, hc⟩

theorem contains_extend {s : NonceStore} {scope : Identity} {n : Nonce} {batch : List NonceHash}
    (h : s.contains scope n = true) : (s.extend batch).contains scope n = true := by
  rw [contains_iff] at h ⊢
  rw [hashes_extend]
  exact List.mem_append_left _ h

/-- Once recorded, every nonce of the batch is known. -/
theorem contains_extend_hashes {s : NonceStore} {scope : Identity} {ns : List Nonce} {n : Nonce}
    (hn : n ∈ ns) : (s.extend (Nonce.hashes scope ns)).contains scope n = true := by
  rw [contains_iff, hashes_extend]
  exact List.mem_append_right _ (Nonce.mem_hashes.mpr ⟨n, hn, rfl⟩)

/-- Releasing a batch that was fresh when it was recorded gives back the store from before. -/
theorem removeAll_extend {s : NonceStore} {scope : Identity} {ns : List Nonce}
    (fresh : ∀ n ∈ ns, s.contains scope n = false) :
    (s.extend (Nonce.hashes scope ns)).removeAll scope ns = s := by
  have apart : ∀ h ∈ Nonce.hashes scope ns, h ∉ s.hashes := by
    intro h hh hs
    obtain ⟨n, hn, rfl⟩ := Nonce.mem_hashes.mp hh
    exact absurd (contains_iff.mpr hs) (by simp [fresh n hn])
  cases s with
  | memory s =>
    have restored : (Nonce.hashes scope ns).foldl List.erase (s.hashes ++ Nonce.hashes scope ns) =
        s.hashes := foldl_erase_append apart
    exact congrArg (fun l => memory ⟨l⟩) restored
  | database t =>
    show database (NonceTable.removeAll ⟨t.rows ++ Nonce.hashes scope ns⟩ _) = _
    have hnone : (Nonce.hashes scope ns).filter
        (fun h => !(Nonce.hashes scope ns).contains h) = [] := by
      rw [List.filter_eq_nil_iff]
      intro h hh
      simp [hh]
    have hall : t.rows.filter (fun h => !(Nonce.hashes scope ns).contains h) = t.rows := by
      rw [List.filter_eq_self]
      intro h hh
      have : h ∉ Nonce.hashes scope ns := fun hb => apart h hb hh
      simp [this]
    rw [NonceTable.removeAll_eq, List.filter_append, hnone, hall, List.append_nil]

end NonceStore

end DeviceSync
