import DeviceSync.Proofs.Store.Nonces
import Mathlib.Data.Finset.Card
import Mathlib.Data.List.Nodup

/-!
# Nonce stores behave as sets

A store in memory looks at a whole batch before it adds any of it, a store in a database goes row by
row and takes the rows back. Neither is to be told from a set of hashes, by any sequence of calls.

1. `NonceCall`, `NonceReply`: what a store is asked, and answers. `NonceCall.onStore` asks a store,
   `NonceCall.onSet` is the rule: what a set of hashes answers, and which set it becomes.
2. `NonceStore.Holds`: a store holds a set, each hash once. Each call keeps this and is answered as
   the rule says (`NonceStore.Holds.call`).
3. `nonce_stores_answer_as_sets`: so do all calls of a sequence, for both stores.
-/

namespace DeviceSync

/-! ## 1. Calls -/

/-- A call to a nonce store. -/
inductive NonceCall
  | insertAll (scope : Identity) (nonces : List Nonce)
  | removeAll (scope : Identity) (nonces : List Nonce)
  | contains (scope : Identity) (nonce : Nonce)
  | count

/-- What a nonce store answers. -/
inductive NonceReply
  /-- Whether the batch was recorded. -/
  | inserted (recorded : Bool)
  | removed
  | contained (known : Bool)
  | counted (number : Nat)
deriving DecidableEq

namespace NonceCall

/-- Asks a store. -/
def onStore (s : NonceStore) : NonceCall → NonceReply × NonceStore
  | insertAll scope ns => (.inserted (s.insertAll scope ns).1, (s.insertAll scope ns).2)
  | removeAll scope ns => (.removed, s.removeAll scope ns)
  | contains scope n => (.contained (s.contains scope n), s)
  | count => (.counted s.count, s)

/-- The distinct hashes of some nonces. -/
def batch (scope : Identity) (ns : List Nonce) : Finset NonceHash := (ns.map (Nonce.hash scope)).toFinset

/-- Asks a set of hashes. A batch is recorded as a whole, if no hash of it is known. -/
def onSet (known : Finset NonceHash) : NonceCall → NonceReply × Finset NonceHash
  | insertAll scope ns =>
    if Disjoint (batch scope ns) known then (.inserted true, known ∪ batch scope ns)
    else (.inserted false, known)
  | removeAll scope ns => (.removed, known \ batch scope ns)
  | contains scope n => (.contained (decide (n.hash scope ∈ known)), known)
  | count => (.counted known.card, known)

/-- The answers to some calls, one after the other. -/
def replies {σ : Type} (ask : σ → NonceCall → NonceReply × σ) : σ → List NonceCall → List NonceReply
  | _, [] => []
  | s, c :: cs => (ask s c).1 :: replies ask (ask s c).2 cs

end NonceCall

/-! ## 2. One call -/

theorem Nonce.toFinset_hashes (scope : Identity) (ns : List Nonce) :
    (Nonce.hashes scope ns).toFinset = NonceCall.batch scope ns := by
  ext h
  rw [List.mem_toFinset, Nonce.mem_hashes, NonceCall.batch, List.mem_toFinset, List.mem_map]

namespace NonceStore

/-- The store holds these hashes, each once. -/
structure Holds (s : NonceStore) (known : Finset NonceHash) : Prop where
  distinct : s.hashes.Nodup
  same : s.hashes.toFinset = known

variable {s : NonceStore} {known : Finset NonceHash}

theorem Holds.mem_iff (holds : s.Holds known) {h : NonceHash} : h ∈ s.hashes ↔ h ∈ known := by
  rw [← holds.same, List.mem_toFinset]

/-- Releasing a batch leaves the hashes outside it, in either store. -/
theorem hashes_removeAll (distinct : s.hashes.Nodup) (scope : Identity) (ns : List Nonce) :
    (s.removeAll scope ns).hashes =
      s.hashes.filter fun h => !(Nonce.hashes scope ns).contains h := by
  cases s with
  | memory s =>
    have hdistinct : s.hashes.Nodup := distinct
    calc (Nonce.hashes scope ns).foldl List.erase s.hashes
        = s.hashes.diff (Nonce.hashes scope ns) := (List.diff_eq_foldl _ _).symm
      _ = s.hashes.filter (· ∉ Nonce.hashes scope ns) := hdistinct.sdiff_eq_filter
      _ = _ := by simp [hashes]
  | database t => exact congrArg NonceTable.rows (NonceTable.removeAll_eq _ t)

theorem Holds.insertAll_of_disjoint (holds : s.Holds known) {scope : Identity} {ns : List Nonce}
    (disjoint : Disjoint (NonceCall.batch scope ns) known) :
    (s.insertAll scope ns).1 = true ∧ (s.insertAll scope ns).2.Holds (known ∪ NonceCall.batch scope ns) := by
  have apart : ∀ h ∈ Nonce.hashes scope ns, h ∉ s.hashes := by
    intro h hbatch hin
    rw [← List.mem_toFinset, Nonce.toFinset_hashes] at hbatch
    exact Finset.disjoint_left.mp disjoint hbatch (holds.mem_iff.mp hin)
  have fresh : ∀ n ∈ ns, s.contains scope n = false := fun n hn =>
    Bool.eq_false_iff.mpr fun hc => apart _ (Nonce.mem_hashes.mpr ⟨n, hn, rfl⟩) (contains_iff.mp hc)
  rw [insertAll_of_fresh fresh]
  refine ⟨rfl, ?_, ?_⟩
  · rw [hashes_extend]
    exact List.nodup_append'.mpr
      ⟨holds.distinct, Nonce.nodup_hashes scope ns, fun _ hin hbatch => apart _ hbatch hin⟩
  · rw [hashes_extend, List.toFinset_append, holds.same, Nonce.toFinset_hashes]

theorem insertAll_of_not_disjoint (holds : s.Holds known) {scope : Identity} {ns : List Nonce}
    (shared : ¬ Disjoint (NonceCall.batch scope ns) known) : s.insertAll scope ns = (false, s) := by
  obtain ⟨h, hbatch, hknown⟩ := Finset.not_disjoint_iff.mp shared
  rw [← Nonce.toFinset_hashes, List.mem_toFinset] at hbatch
  obtain ⟨n, hn, rfl⟩ := Nonce.mem_hashes.mp hbatch
  exact insertAll_of_known ⟨n, hn, contains_iff.mpr (holds.mem_iff.mpr hknown)⟩

theorem Holds.removeAll (holds : s.Holds known) (scope : Identity) (ns : List Nonce) :
    (s.removeAll scope ns).Holds (known \ NonceCall.batch scope ns) := by
  have hleft := hashes_removeAll holds.distinct scope ns
  refine ⟨hleft ▸ holds.distinct.filter _, ?_⟩
  ext h
  have hbatch : h ∈ Nonce.hashes scope ns ↔ h ∈ NonceCall.batch scope ns := by
    rw [← Nonce.toFinset_hashes, List.mem_toFinset]
  rw [hleft, List.mem_toFinset, List.mem_filter, holds.mem_iff, Finset.mem_sdiff, ← hbatch]
  simp

/-- A store answers a call as its set does, and holds afterwards what the set has become. -/
theorem Holds.call (holds : s.Holds known) (c : NonceCall) :
    (c.onStore s).1 = (c.onSet known).1 ∧ (c.onStore s).2.Holds (c.onSet known).2 := by
  cases c with
  | insertAll scope ns =>
    by_cases hdisjoint : Disjoint (NonceCall.batch scope ns) known
    · obtain ⟨hrecorded, hholds⟩ := holds.insertAll_of_disjoint hdisjoint
      rw [NonceCall.onSet, if_pos hdisjoint, NonceCall.onStore, hrecorded]
      exact ⟨rfl, hholds⟩
    · rw [NonceCall.onSet, if_neg hdisjoint, NonceCall.onStore, insertAll_of_not_disjoint holds hdisjoint]
      exact ⟨rfl, holds⟩
  | removeAll scope ns => exact ⟨rfl, holds.removeAll scope ns⟩
  | contains scope n =>
    refine ⟨congrArg NonceReply.contained ?_, holds⟩
    rw [Bool.eq_iff_iff, contains_iff, holds.mem_iff, decide_eq_true_iff]
  | count =>
    refine ⟨congrArg NonceReply.counted ?_, holds⟩
    rw [← holds.same, List.toFinset_card_of_nodup holds.distinct]
    rfl

/-! ## 3. Sequences of calls -/

theorem Holds.replies (holds : s.Holds known) (calls : List NonceCall) :
    NonceCall.replies NonceCall.onStore s calls =
      NonceCall.replies NonceCall.onSet known calls := by
  induction calls generalizing s known with
  | nil => rfl
  | cons c calls ih =>
    obtain ⟨hreply, hholds⟩ := holds.call c
    exact congrArg₂ List.cons hreply (ih hholds)

end NonceStore

/-- Whatever is asked of them, a nonce store in memory and one in a database give the same answers:
those of one set of hashes. -/
theorem nonce_stores_answer_as_sets (calls : List NonceCall) :
    NonceCall.replies NonceCall.onStore (.memory {}) calls =
      NonceCall.replies NonceCall.onSet ∅ calls ∧
    NonceCall.replies NonceCall.onStore (.database {}) calls =
      NonceCall.replies NonceCall.onSet ∅ calls := by
  have hmemory : (NonceStore.memory {}).Holds ∅ := ⟨List.nodup_nil, rfl⟩
  have hdatabase : (NonceStore.database {}).Holds ∅ := ⟨List.nodup_nil, rfl⟩
  exact ⟨hmemory.replies calls, hdatabase.replies calls⟩

end DeviceSync
