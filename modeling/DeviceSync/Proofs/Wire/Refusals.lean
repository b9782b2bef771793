import DeviceSync.Proofs.Wire.RoundTrip

/-!
# Records of another kind

What was written as one record is not read as another one. The number of fields stands in front of
them, so that records of different sizes are told apart whatever is in them (`Shape.refuses_of_count`).
Where the sizes are the same, the first fields may differ: a number is no variant with fields
(`Shape.refuses_of_number`).

Whatever becomes of the fields after it, the first field of a record that is read is the one that was
written (`Shape.first_of_decode`). None of this asks how long the texts and lists in a record are.
-/

namespace DeviceSync.Wire

open Reader

/-! ## 1. Reading a written record -/

/-- A record is read from its fields, for what the head says of their number. -/
theorem Shape.read_record {fs fs' : Fields} {levels : Nat} (small : fs.count < UInt32.size)
    (v : fs.Values) : (Shape.record fs').read (levels + 1) ((Shape.record fs).write v) =
      fs'.readList levels fs.count (fs.write v) := by
  rw [Shape.read, Shape.write, readRecord]
  show Reader.bind Head.read _ _ = _
  rw [Reader.bind, Head.reads_writeList small]
  rfl

theorem Shape.decode_of_error {s : Shape} {bs : Bytes} {err : DecodeError}
    (h : s.read maxLevels bs = .error err) : s.decode bs = .error err := by
  rw [Shape.decode, h]

theorem Shape.read_of_decode {s : Shape} {bs : Bytes} {v : s.Value} (h : s.decode bs = .ok v) :
    ∃ rest, s.read maxLevels bs = .ok (v, rest) := by
  rw [Shape.decode] at h
  split at h
  · rename_i v' rest hread
    cases h
    exact ⟨rest, hread⟩
  · cases h

/-! ## 2. Records of different sizes -/

/-- The number of fields, for a record. -/
def Shape.fieldCount? : Shape → Option Nat
  | .record fs => some fs.count
  | _ => none

/-- As many values are read as there are fields, neither more nor less. -/
theorem Fields.readList_of_count : (fs : Fields) → (levels : Nat) → {count : Nat} → count ≠ fs.count →
    (bs : Bytes) → ∃ err, fs.readList levels count bs = .error err
  | .empty, _, count, h, _ => by
    have hsome : ¬ count = 0 := h
    rw [Fields.readList, if_neg hsome]
    exact ⟨_, rfl⟩
  | .field _ _ _, _, 0, _, _ => ⟨_, rfl⟩
  | .field _ s fs, levels, count + 1, h, bs => by
    show ∃ err, Reader.bind (s.read levels) _ bs = .error err
    rw [Reader.bind]
    cases s.read levels bs with
    | error err => exact ⟨err, rfl⟩
    | ok first =>
      obtain ⟨err, herr⟩ := fs.readList_of_count levels (fun hc => h (congrArg (· + 1) hc)) first.2
      refine ⟨err, ?_⟩
      show Reader.bind (fs.readList levels count) _ first.2 = .error err
      rw [Reader.bind, herr]

/-- A record is not read as one with another number of fields. -/
theorem Shape.refuses_of_count {s t : Shape} {m n : Nat} (hs : s.fieldCount? = some m)
    (ht : t.fieldCount? = some n) (differ : n ≠ m) (small : n < UInt32.size) (v : t.Value) :
    ∃ err, s.decode (t.write v) = .error err := by
  cases s with
  | record fs' =>
    cases t with
    | record fs =>
      cases hs
      cases ht
      obtain ⟨err, herr⟩ := fs'.readList_of_count (maxLevels - 1) differ (fs.write v)
      exact ⟨err, decode_of_error ((read_record small v).trans herr)⟩
    | number | flag | text | identity | block | list | choice => exact nomatch ht
  | number | flag | text | identity | block | list | choice => exact nomatch hs

/-! ## 3. Numbers and variants -/

/-- Whether all variants have fields. -/
def Variants.haveFields : Variants → Bool
  | .empty => true
  | .bare _ _ => false
  | .fields _ _ vs => vs.haveFields

/-- A variant with fields is not sent as its name alone. -/
theorem Variants.readBare_of_haveFields : (vs : Variants) → vs.haveFields = true → (key : Key) →
    (bs : Bytes) → ∃ err, vs.readBare key bs = .error err
  | .empty, _, _, _ => ⟨_, rfl⟩
  | .fields name _ vs, h, key, bs => by
    rw [Variants.readBare]
    split
    · exact ⟨_, rfl⟩
    · obtain ⟨err, herr⟩ := vs.readBare_of_haveFields h key.next bs
      refine ⟨err, ?_⟩
      show Reader.bind (vs.readBare key.next) _ bs = .error err
      rw [Reader.bind, herr]

/-- A record that starts with a number is not read as one that starts with a choice between variants
with fields. -/
theorem Shape.refuses_of_number {name name' : String} {width : Width} {vs : Variants}
    {fs fs' : Fields} (fields : vs.haveFields = true)
    (small : (Fields.field name (.number width) fs).count < UInt32.size)
    (v : (Shape.record (.field name (.number width) fs)).Value) : ∃ err,
    (Shape.record (.field name' (.choice vs) fs')).decode
      ((Shape.record (.field name (.number width) fs)).write v) = .error err := by
  obtain ⟨first, later⟩ := v
  have hlt : width.toNat first < UInt64.size :=
    Nat.lt_of_lt_of_le (width.toNat_lt first) (RoundTripLemmas.bound_le width)
  obtain ⟨err, herr⟩ := vs.readBare_of_haveFields fields (.position (width.toNat first)) (fs.write later)
  have hchoice : (Shape.choice vs).read (maxLevels - 1)
      (Head.writeWhole (width.toNat first) ++ fs.write later) = .error err := by
    rw [Shape.read]
    show Reader.bind Head.read _ _ = _
    rw [Reader.bind, Head.reads_writeWhole hlt]
    exact herr
  refine ⟨err, decode_of_error ((read_record small _).trans ?_)⟩
  show Reader.bind ((Shape.choice vs).read (maxLevels - 1)) _
    (Head.writeWhole (width.toNat first) ++ fs.write later) = .error err
  rw [Reader.bind, hchoice]

/-! ## 4. First fields -/

/-- A record that is read starts with the field that was written. -/
theorem Shape.first_of_decode {name : String} {s : Shape} {fs : Fields} {first : s.Value}
    {later : fs.Values} {v : (Shape.record (.field name s fs)).Value}
    (small : (Fields.field name s fs).count < UInt32.size)
    (legible : s.legible (maxLevels - 1) = true) (fits : s.Fits first)
    (h : (Shape.record (.field name s fs)).decode
      ((Shape.record (.field name s fs)).write (first, later)) = .ok v) : v.1 = first := by
  obtain ⟨rest, hread⟩ := read_of_decode h
  have hfields := (read_record small (first, later)).symm.trans hread
  have hnext : Reader.bind (s.read (maxLevels - 1)) (fun a =>
      Reader.bind (fs.readList (maxLevels - 1) fs.count) fun as => Reader.pure (a, as))
      (s.write first ++ fs.write later) = .ok (v, rest) := hfields
  rw [Reader.bind, s.reads_write legible first fits (fs.write later)] at hnext
  simp only [Reader.bind] at hnext
  split at hnext
  · cases hnext
    rfl
  · cases hnext

end DeviceSync.Wire
