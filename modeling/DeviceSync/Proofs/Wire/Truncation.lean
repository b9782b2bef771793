import DeviceSync.Proofs.Wire.RoundTrip

/-!
# Octets that are cut off

A strict prefix of an encoding is never taken for the encoding of another value, wherever the cut
falls: inside a head, a number, a text or a list.

1. `Reader.Incremental`: the answer of a reader stands when more octets arrive, unless the answer was
   that the octets are not well formed. Readers that are put together from such readers are such
   readers.
2. `Head.incremental_read`, `incremental_skip`: so are the readers of heads, and of values that are
   left out.
3. `Shape.incremental_read`, by recursion on the shape: so is the reader of every shape, in all forms
   that it accepts.
4. `Shape.decode_cut`: the whole encoding is read without a rest, so what was read of a prefix would
   have to be all of it.
-/

namespace DeviceSync

/-- The octets are the start of others, and not all of them. -/
def Bytes.IsCut (cut whole : Bytes) : Prop := cut <+: whole ∧ cut ≠ whole

namespace Wire

/-! ## 1. Readers whose answer stands -/

namespace Reader

variable {α β : Type}

/-- When more octets arrive, a value that was read stays the value that is read, and a text that was
refused as an identity stays refused. -/
structure Incremental (p : Reader α) : Prop where
  read : ∀ {bs a rest}, p bs = .ok (a, rest) → ∀ more, p (bs ++ more) = .ok (a, rest ++ more)
  refused : ∀ {bs text}, p bs = .error (.invalidIdentity text) →
    ∀ more, p (bs ++ more) = .error (.invalidIdentity text)

theorem incremental_pure (a : α) : (Reader.pure a).Incremental where
  read h _ := by cases h; rfl
  refused h _ := nomatch h

theorem incremental_fail (err : DecodeError) : (fail err : Reader α).Incremental where
  read h _ := nomatch h
  refused h _ := by cases h; rfl

theorem incremental_malformed : (malformed : Reader α).Incremental := incremental_fail .malformed

theorem Incremental.bind {p : Reader α} {f : α → Reader β} (hp : p.Incremental)
    (hf : ∀ a, (f a).Incremental) : (p >>= f).Incremental where
  read {bs b rest} h more := by
    change Reader.bind p f bs = _ at h
    show Reader.bind p f (bs ++ more) = _
    rw [Reader.bind] at h ⊢
    cases hfirst : p bs with
    | ok first =>
      rw [hfirst] at h
      rw [hp.read hfirst]
      exact (hf first.1).read h more
    | error err =>
      rw [hfirst] at h
      cases h
  refused {bs text} h more := by
    change Reader.bind p f bs = _ at h
    show Reader.bind p f (bs ++ more) = _
    rw [Reader.bind] at h ⊢
    cases hfirst : p bs with
    | ok first =>
      rw [hfirst] at h
      rw [hp.read hfirst]
      exact (hf first.1).refused h more
    | error err =>
      rw [hfirst] at h
      cases h
      rw [hp.refused hfirst]

theorem incremental_ofOption (o : Option α) : (ofOption o).Incremental := by
  cases o with
  | none => exact incremental_malformed
  | some a => exact incremental_pure a

theorem incremental_nested {levels : Nat} {inner : Nat → Reader α}
    (h : ∀ l, (inner l).Incremental) : (nested levels inner).Incremental := by
  cases levels with
  | zero => exact incremental_malformed
  | succ l => exact h l

theorem incremental_octet : octet.Incremental where
  read {bs a rest} h more := by
    cases bs with
    | nil => cases h
    | cons b bs => cases h; rfl
  refused {bs text} h more := by
    cases bs with
    | nil => cases h
    | cons b bs => cases h

/-- Taking octets is taking them one by one. -/
theorem octets_succ (n : Nat) : octets (n + 1) = do
    let b ← octet
    let bs ← octets n
    return b :: bs := by
  funext bs
  cases bs with
  | nil => rfl
  | cons b bs =>
    show octets (n + 1) (b :: bs) =
      Reader.bind (octets n) (fun taken => Reader.pure (b :: taken)) bs
    rw [octets, Reader.bind]
    cases octets n bs <;> rfl

theorem incremental_octets (n : Nat) : (octets n).Incremental := by
  induction n with
  | zero => exact ⟨fun h _ => by cases h; rfl, fun h _ => nomatch h⟩
  | succ n ih =>
    rw [octets_succ]
    exact incremental_octet.bind fun b => ih.bind fun bs => incremental_pure (b :: bs)

theorem incremental_times {p : Reader α} (hp : p.Incremental) (n : Nat) :
    (times p n).Incremental := by
  induction n with
  | zero => exact incremental_pure []
  | succ n ih => exact hp.bind fun a => ih.bind fun as => incremental_pure (a :: as)

theorem incremental_iterate {step : α → Reader α} (h : ∀ a, (step a).Incremental) (n : Nat) (a : α) :
    (iterate step n a).Incremental := by
  induction n generalizing a with
  | zero => exact incremental_pure a
  | succ n ih => exact (h a).bind ih

end Reader

open Reader

/-! ## 2. Heads, and values that are left out -/

theorem Head.incremental_read : Head.read.Incremental := by
  refine incremental_octet.bind fun b => ?_
  cases Marker.ofOctet b with
  | alone head => exact incremental_pure head
  | number width head =>
    exact (incremental_octets width).bind fun bs => incremental_pure (head (ofBigEndian bs))
  | reserved => exact incremental_malformed

namespace TruncationLemmas

theorem incremental_discard {α : Type} {p : Reader α} (hp : p.Incremental) :
    (skipWith.discard p).Incremental := hp.bind fun _ => incremental_pure ()

theorem incremental_skipWith {inner : Reader Unit} (hinner : inner.Incremental) (nestable : Bool) :
    (skipWith inner nestable).Incremental := by
  -- Where values may not nest, what nests is refused, whatever it holds.
  have hnested : ∀ {p : Reader Unit}, p.Incremental →
      (if nestable then p else malformed).Incremental := by
    intro p hp
    cases nestable with
    | false => exact incremental_malformed
    | true => exact hp
  refine Head.incremental_read.bind fun head => ?_
  cases head with
  | nil | flag | whole | signed | real => exact incremental_pure ()
  | text n | octets n => exact incremental_discard (incremental_octets n)
  | list n => exact hnested (incremental_discard (incremental_times hinner n))
  | table n => exact hnested (incremental_discard (incremental_times hinner (2 * n)))
  | extension n => exact hnested (incremental_discard (incremental_octets (n + 1)))

theorem incremental_skip (levels : Nat) : (skip levels).Incremental := by
  induction levels with
  | zero => exact incremental_skipWith incremental_malformed false
  | succ levels ih => exact incremental_skipWith ih true

/-! ## 3. Values of a shape -/

theorem incremental_number (w : Width) : (readNumber w).Incremental := by
  refine Head.incremental_read.bind fun head => ?_
  cases head.wholeValue? with
  | none => exact incremental_malformed
  | some n =>
    show (if n < w.bound then Reader.pure (w.wrap n) else malformed).Incremental
    split
    · exact incremental_pure _
    · exact incremental_malformed

theorem incremental_flag : readFlag.Incremental := by
  refine Head.incremental_read.bind fun head => ?_
  cases head with
  | flag b => exact incremental_pure b
  | _ => exact incremental_malformed

theorem incremental_text : readText.Incremental := by
  refine Head.incremental_read.bind fun head => ?_
  cases head with
  | text n | octets n => exact (incremental_octets n).bind fun bs => incremental_ofOption _
  | _ => exact incremental_malformed

theorem incremental_identity : readIdentity.Incremental := by
  refine incremental_text.bind fun s => ?_
  cases Identity.ofText? s with
  | some i => exact incremental_pure i
  | none => exact incremental_fail (.invalidIdentity s)

theorem incremental_block (levels size : Nat) : (readBlock levels size).Incremental := by
  refine Head.incremental_read.bind fun head => ?_
  cases head with
  | list n =>
    refine incremental_nested fun _ => ?_
    show (if n = size then _ else malformed).Incremental
    split
    · exact (incremental_times (incremental_number .octet) n).bind fun bs => incremental_ofOption _
    · exact incremental_malformed
  | octets n => exact (incremental_octets n).bind fun bs => incremental_ofOption _
  | _ => exact incremental_malformed

theorem incremental_keyFrom (head : Head) : (readKeyFrom head).Incremental := by
  cases head with
  | whole n => exact incremental_pure (Key.position n)
  | text n | octets n => exact (incremental_octets n).bind fun bs => incremental_pure (Key.name bs)
  | _ => exact incremental_malformed

theorem incremental_key : readKey.Incremental := Head.incremental_read.bind incremental_keyFrom

/-- A record, if its fields and its entries are read by such readers. -/
theorem incremental_record {fs : Fields} {readList : Nat → Nat → Reader fs.Values}
    {readEntry : Nat → Key → fs.Slots → Reader fs.Slots} (levels : Nat)
    (hlist : ∀ l n, (readList l n).Incremental)
    (hentry : ∀ l key slots, (readEntry l key slots).Incremental) :
    (readRecord fs readList readEntry levels).Incremental := by
  refine Head.incremental_read.bind fun head => ?_
  cases head with
  | list n => exact incremental_nested fun l => hlist l n
  | table n =>
    refine incremental_nested fun l => Incremental.bind ?_ fun slots => incremental_ofOption _
    exact incremental_iterate (fun slots => incremental_key.bind fun key => hentry l key slots) n _
  | octets n => exact (incremental_octets n).bind fun bs => incremental_ofOption _
  | _ => exact incremental_malformed

end TruncationLemmas

open TruncationLemmas

mutual
/-- The answer of the reader of a shape stands when more octets arrive. -/
theorem Shape.incremental_read : (s : Shape) → (levels : Nat) → (s.read levels).Incremental
  | .number w, _ => incremental_number w
  | .flag, _ => incremental_flag
  | .text, _ => incremental_text
  | .identity, _ => incremental_identity
  | .block n, levels => incremental_block levels n
  | .list s, levels => by
    rw [Shape.read]
    refine Head.incremental_read.bind fun head => ?_
    cases head with
    | list n => exact incremental_nested fun l => incremental_times (s.incremental_read l) n
    | octets n => exact (incremental_octets n).bind fun bs => incremental_ofOption _
    | _ => exact incremental_malformed
  | .record fs, levels => incremental_record levels fs.incremental_readList fs.incremental_readEntry
  | .choice vs, levels => by
    rw [Shape.read]
    refine Head.incremental_read.bind fun head => ?_
    cases head with
    | table n =>
      show (if n = 1 then _ else malformed).Incremental
      split
      · exact incremental_key.bind fun key => vs.incremental_readFields levels key
      · exact incremental_malformed
    | _ => exact (incremental_keyFrom _).bind vs.incremental_readBare

theorem Fields.incremental_readList : (fs : Fields) → (levels count : Nat) →
    (fs.readList levels count).Incremental
  | .empty, _, count => by
    rw [Fields.readList]
    split
    · exact incremental_pure ()
    · exact incremental_malformed
  | .field _ _ _, _, 0 => incremental_malformed
  | .field _ s fs, levels, count + 1 =>
    (s.incremental_read levels).bind fun v =>
      (fs.incremental_readList levels count).bind fun vs => incremental_pure (v, vs)

theorem Fields.incremental_readEntry : (fs : Fields) → (levels : Nat) → (key : Key) →
    (slots : fs.Slots) → (fs.readEntry levels key slots).Incremental
  | .empty, levels, _, () => incremental_skip levels
  | .field name s fs, levels, key, (slot, slots) => by
    show (if key.isFirst name then _ else _ : Reader (Fields.field name s fs).Slots).Incremental
    split
    · cases slot with
      | some _ => exact incremental_malformed
      | none => exact (s.incremental_read levels).bind fun v => incremental_pure (some v, slots)
    · exact (fs.incremental_readEntry levels key.next slots).bind fun slots =>
        incremental_pure (slot, slots)

theorem Variants.incremental_readFields : (vs : Variants) → (levels : Nat) → (key : Key) →
    (vs.readFields levels key).Incremental
  | .empty, _, _ => incremental_malformed
  | .bare name vs, levels, key => by
    rw [Variants.readFields]
    split
    · refine Head.incremental_read.bind fun head => ?_
      cases head with
      | nil => exact incremental_pure _
      | _ => exact incremental_malformed
    · exact (vs.incremental_readFields levels key.next).bind fun _ => incremental_pure _
  | .fields name fs vs, levels, key => by
    rw [Variants.readFields]
    split
    · exact (incremental_record levels fs.incremental_readList fs.incremental_readEntry).bind
        fun _ => incremental_pure _
    · exact (vs.incremental_readFields levels key.next).bind fun _ => incremental_pure _

theorem Variants.incremental_readBare : (vs : Variants) → (key : Key) →
    (vs.readBare key).Incremental
  | .empty, _ => incremental_malformed
  | .bare name vs, key => by
    rw [Variants.readBare]
    split
    · exact incremental_pure _
    · exact (vs.incremental_readBare key.next).bind fun _ => incremental_pure _
  | .fields name _ vs, key => by
    rw [Variants.readBare]
    split
    · exact incremental_malformed
    · exact (vs.incremental_readBare key.next).bind fun _ => incremental_pure _
end

/-! ## 4. Strict prefixes -/

/-- No strict prefix of the encoding of a value is the encoding of any value: it is not well formed. -/
theorem Shape.decode_cut {s : Shape} (legible : s.legible maxLevels = true) {v : s.Value}
    (fits : s.Fits v) {cut : Bytes} (h : cut.IsCut (s.write v)) :
    s.decode cut = .error .malformed := by
  obtain ⟨missing, hwhole⟩ := h.1
  have hread : s.read maxLevels (cut ++ missing) = .ok (v, []) := by
    have := s.reads_write legible v fits []
    rwa [List.append_nil, ← hwhole] at this
  have hsteady := s.incremental_read maxLevels
  rw [Shape.decode]
  cases hcut : s.read maxLevels cut with
  | ok answer =>
    -- A value that is read from the prefix leaves the missing octets over.
    have hrest := (hsteady.read hcut missing).symm.trans hread
    simp only [Except.ok.injEq, Prod.mk.injEq, List.append_eq_nil_iff] at hrest
    refine absurd ?_ h.2
    rw [← hwhole, hrest.2.2, List.append_nil]
  | error err =>
    cases err with
    | malformed => rfl
    | invalidIdentity text => cases (hsteady.refused hcut missing).symm.trans hread

end Wire

end DeviceSync
