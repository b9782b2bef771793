import DeviceSync.Proofs.Store.NonceCalls
import DeviceSync.Proofs.Wire.RoundTrip

/-!
# Identities do not see each other's nonces

All identities share one set of hashes. As every identity has eight octets, what is hashed for a nonce
tells the identity and the nonce (`Nonce.hashInput_inj`). So, unless two of the inputs that occur have
the same hash, a batch holds the hash of a nonce only if it is a batch of the same identity with this
nonce in it (`mem_batch_iff`).

1. `NonceCall.settles?`: what an answered call settles about a nonce. One call leaves a nonce known
   exactly if it settles this, or settles nothing and the nonce was known (`known_onSet`).
2. `known_after`: after a sequence of calls it is the last call that settles anything.
3. `answered_isUnder`: the calls of an identity are answered as if there were no others.
4. `nonces_are_isolated_by_identity`: both, for either store.
-/

namespace DeviceSync

/-- No two of these byte strings have the same hash. -/
def Sha256.NoCollision (inputs : List Bytes) : Prop :=
  ∀ a ∈ inputs, ∀ b ∈ inputs, digest a = digest b → a = b

/-- What is hashed tells the identity and the nonce. -/
theorem Nonce.hashInput_inj {s s' : Identity} {n n' : Nonce}
    (h : n.hashInput s = n'.hashInput s') : s = s' ∧ n = n' := by
  rw [hashInput, hashInput, List.append_assoc, List.append_assoc] at h
  have hlength : s.toBytes.length = s'.toBytes.length := by
    rw [Identity.toBytes, Identity.toBytes, Bytes.length_ofText, Bytes.length_ofText,
      s.utf8ByteSize_text, s'.utf8ByteSize_text]
  obtain ⟨hscope, hblock⟩ := List.append_inj (List.append_cancel_left h) hlength
  have hnonce : n.block = n'.block := Block.ext hblock
  exact ⟨Identity.ext (Bytes.ofText_inj hscope), by cases n; cases n'; exact congrArg Nonce.mk hnonce⟩

namespace NonceCall

/-- The identity for which a store is asked. -/
def scope? : NonceCall → Option Identity
  | insertAll scope _ | removeAll scope _ | contains scope _ => some scope
  | count => none

/-- The call is made for this identity. -/
def isUnder (s : Identity) (c : NonceCall) : Bool := decide (c.scope? = some s)

/-- What is hashed for a call. -/
def hashed : NonceCall → List Bytes
  | insertAll scope ns | removeAll scope ns => ns.map (Nonce.hashInput scope)
  | contains scope n => [n.hashInput scope]
  | count => []

/-- What an answered call settles about a nonce of an identity: that it is known from then on, that it
is not, or nothing. -/
def settles? (s : Identity) (n : Nonce) : NonceCall × NonceReply → Option Bool
  | (insertAll scope ns, .inserted true) => if scope = s ∧ n ∈ ns then some true else none
  | (removeAll scope ns, .removed) => if scope = s ∧ n ∈ ns then some false else none
  | _ => none

variable {σ : Type}

/-- Some calls, one after the other, with their answers. -/
def answered (ask : σ → NonceCall → NonceReply × σ) (store : σ) (calls : List NonceCall) :
    List (NonceCall × NonceReply) := calls.zip (replies ask store calls)

/-- What a store becomes by some calls. -/
def after (ask : σ → NonceCall → NonceReply × σ) (store : σ) (calls : List NonceCall) : σ :=
  calls.foldl (fun store c => (ask store c).2) store

end NonceCall

open NonceCall

namespace IsolationLemmas

variable {inputs : List Bytes} {s : Identity} {n : Nonce} {known known' : Finset NonceHash}

/-! ## 1. One call -/

/-- Only a batch of the identity that holds the nonce holds its hash. -/
theorem mem_batch_iff (distinct : Sha256.NoCollision inputs) (hn : n.hashInput s ∈ inputs)
    {scope : Identity} {ns : List Nonce} (hns : ∀ m ∈ ns, m.hashInput scope ∈ inputs) :
    n.hash s ∈ batch scope ns ↔ scope = s ∧ n ∈ ns := by
  rw [batch, List.mem_toFinset, List.mem_map]
  constructor
  · rintro ⟨m, hm, hhash⟩
    obtain ⟨hscope, rfl⟩ := Nonce.hashInput_inj (distinct _ (hns m hm) _ hn hhash)
    exact ⟨hscope, hm⟩
  · rintro ⟨rfl, hm⟩
    exact ⟨n, hm, rfl⟩

/-- A nonce is known after a call as the call settles it, or as before. -/
theorem known_onSet (distinct : Sha256.NoCollision inputs) (hn : n.hashInput s ∈ inputs)
    {c : NonceCall} (hc : ∀ i ∈ c.hashed, i ∈ inputs) (known : Finset NonceHash) :
    decide (n.hash s ∈ (c.onSet known).2) =
      (settles? s n (c, (c.onSet known).1)).getD (decide (n.hash s ∈ known)) := by
  rw [Bool.eq_iff_iff, decide_eq_true_iff]
  cases c with
  | insertAll scope ns =>
    have hbatch := mem_batch_iff distinct hn fun m hm => hc _ (List.mem_map_of_mem hm)
    by_cases hdisjoint : Disjoint (batch scope ns) known
    · rw [onSet, if_pos hdisjoint, Finset.mem_union, hbatch]
      by_cases hholds : scope = s ∧ n ∈ ns <;> simp [settles?, hholds]
    · rw [onSet, if_neg hdisjoint]
      simp [settles?]
  | removeAll scope ns =>
    have hbatch := mem_batch_iff distinct hn fun m hm => hc _ (List.mem_map_of_mem hm)
    rw [onSet, Finset.mem_sdiff, hbatch]
    by_cases hholds : scope = s ∧ n ∈ ns <;> simp [settles?, hholds]
  | contains scope m => simp [onSet, settles?]
  | count => simp [onSet, settles?]

theorem settles?_of_other {c : NonceCall} (other : c.isUnder s = false) (reply : NonceReply) :
    settles? s n (c, reply) = none := by
  cases c with
  | insertAll scope ns =>
    have hscope : scope ≠ s := by simpa [isUnder, scope?] using other
    cases reply with
    | inserted recorded => cases recorded <;> simp [settles?, hscope]
    | _ => rfl
  | removeAll scope ns =>
    have hscope : scope ≠ s := by simpa [isUnder, scope?] using other
    cases reply <;> simp [settles?, hscope]
  | _ => rfl

/-! ## 2. The last call that settles anything -/

/-- A nonce is known after some calls as the last call settles it that settles anything, or as before. -/
theorem known_after (distinct : Sha256.NoCollision inputs) (hn : n.hashInput s ∈ inputs)
    {calls : List NonceCall} (hcalls : ∀ c ∈ calls, ∀ i ∈ c.hashed, i ∈ inputs)
    (known : Finset NonceHash) : decide (n.hash s ∈ after onSet known calls) =
      ((answered onSet known calls).filterMap (settles? s n)).getLast?.getD
        (decide (n.hash s ∈ known)) := by
  induction calls generalizing known with
  | nil => rfl
  | cons c calls ih =>
    have hfirst := known_onSet distinct hn (hcalls c List.mem_cons_self) known
    have hlater := ih (fun c' hc' => hcalls c' (List.mem_cons_of_mem c hc')) (c.onSet known).2
    show decide (n.hash s ∈ after onSet (c.onSet known).2 calls) =
      (((c, (c.onSet known).1) :: answered onSet (c.onSet known).2 calls).filterMap
        (settles? s n)).getLast?.getD _
    rw [hlater, hfirst, List.filterMap_cons]
    cases settles? s n (c, (c.onSet known).1) with
    | none => rfl
    | some b => rw [List.getLast?_cons, Option.getD_some, Option.getD_some]

/-! ## 3. The calls of one identity -/

/-- The two sets tell the same about the nonces of an identity, as far as they occur. -/
def Agree (inputs : List Bytes) (s : Identity) (known known' : Finset NonceHash) : Prop :=
  ∀ n : Nonce, n.hashInput s ∈ inputs → (n.hash s ∈ known ↔ n.hash s ∈ known')

/-- A call of the identity has the same answer. -/
theorem Agree.reply (agree : Agree inputs s known known') {c : NonceCall} (own : c.isUnder s = true)
    (hc : ∀ i ∈ c.hashed, i ∈ inputs) : (c.onSet known).1 = (c.onSet known').1 := by
  have hown : c.scope? = some s := of_decide_eq_true own
  cases c with
  | insertAll scope ns =>
    cases hown
    have hsame : Disjoint (batch s ns) known ↔ Disjoint (batch s ns) known' := by
      rw [Finset.disjoint_left, Finset.disjoint_left]
      refine forall₂_congr fun h hbatch => not_congr ?_
      rw [batch, List.mem_toFinset, List.mem_map] at hbatch
      obtain ⟨m, hm, rfl⟩ := hbatch
      exact agree m (hc _ (List.mem_map_of_mem hm))
    by_cases hdisjoint : Disjoint (batch s ns) known
    · rw [onSet, onSet, if_pos hdisjoint, if_pos (hsame.mp hdisjoint)]
    · rw [onSet, onSet, if_neg hdisjoint, if_neg (mt hsame.mpr hdisjoint)]
  | removeAll scope ns => rfl
  | contains scope m =>
    cases hown
    exact congrArg NonceReply.contained (decide_eq_decide.mpr (agree m (hc _ (List.mem_singleton_self _))))
  | count => cases hown

/-- Afterwards the sets still tell the same. -/
theorem Agree.own (agree : Agree inputs s known known') (distinct : Sha256.NoCollision inputs)
    {c : NonceCall} (own : c.isUnder s = true) (hc : ∀ i ∈ c.hashed, i ∈ inputs) :
    Agree inputs s (c.onSet known).2 (c.onSet known').2 := by
  intro n hn
  rw [← decide_eq_decide, known_onSet distinct hn hc, known_onSet distinct hn hc,
    agree.reply own hc, decide_eq_decide.mpr (agree n hn)]

/-- So they do if only one of them hears of a call of another identity. -/
theorem Agree.other (agree : Agree inputs s known known') (distinct : Sha256.NoCollision inputs)
    {c : NonceCall} (other : c.isUnder s = false) (hc : ∀ i ∈ c.hashed, i ∈ inputs) :
    Agree inputs s (c.onSet known).2 known' := by
  intro n hn
  have hsame := known_onSet distinct hn hc known
  rw [settles?_of_other other, Option.getD_none] at hsame
  exact (decide_eq_decide.mp hsame).trans (agree n hn)

/-- The calls of an identity are answered as if there were no others, and leave its nonces as they
would then. -/
theorem answered_isUnder (distinct : Sha256.NoCollision inputs) {calls : List NonceCall}
    (hcalls : ∀ c ∈ calls, ∀ i ∈ c.hashed, i ∈ inputs) (agree : Agree inputs s known known') :
    (answered onSet known calls).filter (·.1.isUnder s) =
      answered onSet known' (calls.filter (isUnder s)) ∧
    Agree inputs s (after onSet known calls) (after onSet known' (calls.filter (isUnder s))) := by
  induction calls generalizing known known' with
  | nil => exact ⟨rfl, agree⟩
  | cons c calls ih =>
    have hc := hcalls c List.mem_cons_self
    have hrest : ∀ c' ∈ calls, ∀ i ∈ c'.hashed, i ∈ inputs :=
      fun c' hc' => hcalls c' (List.mem_cons_of_mem c hc')
    show ((c, (c.onSet known).1) :: answered onSet (c.onSet known).2 calls).filter _ = _ ∧
      Agree inputs s (after onSet (c.onSet known).2 calls) _
    cases hunder : c.isUnder s with
    | true =>
      obtain ⟨hanswers, hagree⟩ := ih hrest (agree.own distinct hunder hc)
      simp only [List.filter_cons, hunder, if_true]
      refine ⟨?_, hagree⟩
      rw [hanswers, agree.reply hunder hc]
      rfl
    | false =>
      -- The second set does not hear of this call.
      simp only [List.filter_cons, hunder, Bool.false_eq_true, if_false]
      exact ih hrest (agree.other distinct hunder hc)

/-! ## 4. Stores -/

theorem holds_of_empty {store : NonceStore} (empty : store.hashes = []) : store.Holds ∅ :=
  ⟨empty ▸ List.nodup_nil, by rw [empty]; rfl⟩

theorem holds_after {store : NonceStore} (holds : store.Holds known) (calls : List NonceCall) :
    (after onStore store calls).Holds (after onSet known calls) := by
  induction calls generalizing store known with
  | nil => exact holds
  | cons c calls ih => exact ih (holds.call c).2

theorem contains_iff_mem {store : NonceStore} (holds : store.Holds known) :
    store.contains s n = true ↔ n.hash s ∈ known :=
  NonceStore.contains_iff.trans holds.mem_iff

end IsolationLemmas

open IsolationLemmas

/-- Unless two of the inputs that occur have the same hash, a nonce is known for an identity exactly if
the last call of this identity about it that removed it or recorded it did record it. With all calls
of other identities left out, the calls of the identity have the same answers. What is hashed is never
the same for another identity or another nonce. -/
theorem nonces_are_isolated_by_identity (store : NonceStore) (empty : store.hashes = [])
    (calls : List NonceCall) (s : Identity) (n : Nonce)
    (distinct : Sha256.NoCollision (n.hashInput s :: calls.flatMap hashed)) :
    ((after onStore store calls).contains s n = true ↔
      ((answered onStore store calls).filterMap (settles? s n)).getLast? = some true) ∧
    (answered onStore store calls).filter (·.1.isUnder s) =
      answered onStore store (calls.filter (isUnder s)) ∧
    (after onStore store calls).contains s n =
      (after onStore store (calls.filter (isUnder s))).contains s n ∧
    Function.Injective (fun pair : Identity × Nonce => pair.2.hashInput pair.1) := by
  have holds := holds_of_empty empty
  have hn : n.hashInput s ∈ n.hashInput s :: calls.flatMap hashed := List.mem_cons_self
  have hcalls : ∀ c ∈ calls, ∀ i ∈ c.hashed, i ∈ n.hashInput s :: calls.flatMap hashed :=
    fun c hc i hi => List.mem_cons_of_mem _ (List.mem_flatMap.mpr ⟨c, hc, hi⟩)
  have hanswered : ∀ cs, answered onStore store cs = answered onSet ∅ cs :=
    fun cs => congrArg (List.zip cs) (holds.replies cs)
  obtain ⟨hanswers, hagree⟩ := answered_isUnder (s := s) distinct hcalls (fun _ _ => Iff.rfl)
  refine ⟨?_, ?_, ?_, fun _ _ h => Prod.ext_iff.mpr (Nonce.hashInput_inj h)⟩
  · have hlast := known_after distinct hn hcalls ∅
    refine (contains_iff_mem (holds_after holds calls)).trans (decide_eq_true_iff.symm.trans ?_)
    rw [hlast, hanswered]
    cases ((answered onSet ∅ calls).filterMap (settles? s n)).getLast? <;> simp
  · rw [hanswered, hanswered, hanswers]
  · rw [Bool.eq_iff_iff, contains_iff_mem (holds_after holds calls),
      contains_iff_mem (holds_after holds _)]
    exact hagree n hn

namespace Sample

def caller : Identity := ⟨"CALLER01", by decide⟩

def gateway : Identity := ⟨"*GATEWAY", by decide⟩

/-- A nonce that both identities use. -/
def shared : Nonce := ⟨⟨List.replicate 24 3, rfl⟩⟩

/-- Both record it, and the gateway forgets it after a second attempt. -/
def sharedCalls : List NonceCall :=
  [.insertAll caller [shared], .insertAll gateway [shared], .insertAll gateway [shared],
    .removeAll gateway [shared]]

theorem sharedCalls_distinct (s : Identity) (h : s = caller ∨ s = gateway) :
    Sha256.NoCollision (shared.hashInput s :: sharedCalls.flatMap NonceCall.hashed) := by
  rcases h with rfl | rfl <;>
  · rw [Sha256.NoCollision]
    decide +kernel

end Sample

open Sample

/-- The nonce stays known for the caller, and is no longer known for the gateway. -/
theorem shared_nonce_is_kept_apart :
    (after onStore (.memory {}) sharedCalls).contains caller shared = true ∧
    (after onStore (.memory {}) sharedCalls).contains gateway shared = false := by
  obtain ⟨hcaller, -⟩ := nonces_are_isolated_by_identity (.memory {}) rfl sharedCalls
    caller shared (sharedCalls_distinct caller (.inl rfl))
  obtain ⟨hgateway, -⟩ := nonces_are_isolated_by_identity (.memory {}) rfl sharedCalls
    gateway shared (sharedCalls_distinct gateway (.inr rfl))
  refine ⟨hcaller.mpr (by decide +kernel), Bool.eq_false_iff.mpr fun h => ?_⟩
  have hlast : ((answered onStore (.memory {}) sharedCalls).filterMap
      (settles? gateway shared)).getLast? = some false := by decide +kernel
  exact absurd (hlast.symm.trans (hgateway.mp h)) (by decide)

end DeviceSync
