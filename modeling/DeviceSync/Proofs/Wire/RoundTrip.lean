import DeviceSync.Proofs.Wire.Leniency
import DeviceSync.Wire.Encode

/-!
# Values read back

Whatever `Shape.write` writes for a value, `Shape.read` reads as this value, and it stops where the
value ends.

1. `Shape.Fits`: what is asked of a value. Its texts and lists must be shorter than `2 ^ 32`, for a
   longer length has no head.
2. `Shape.form_write`, by recursion on the shape together with its fields and variants: what is written
   for a value is one of its forms, a record in its list form, a choice under the name of the variant.
3. `Shape.reads_write`: so it is read as the value.
-/

namespace DeviceSync

theorem Bytes.length_ofText (s : String) : (ofText s).length = s.utf8ByteSize := by
  simp [ofText]

theorem Bytes.ofText_inj {s t : String} (h : ofText s = ofText t) : s = t := by
  have hs := toText?_ofText s
  rw [h, toText?_ofText] at hs
  exact (Option.some.inj hs).symm

theorem Identity.utf8ByteSize_text (i : Identity) : i.text.utf8ByteSize = 8 := by
  have := i.valid
  simp only [isValid, Bool.and_eq_true, beq_iff_eq] at this
  exact this.1

namespace Wire

/-! ## 1. Values that have an encoding -/

mutual
/-- All texts and lists in the value are shorter than `2 ^ 32`. -/
def Shape.Fits : (s : Shape) → s.Value → Prop
  | .text, v => v.utf8ByteSize < UInt32.size
  | .list s, v => v.length < UInt32.size ∧ ∀ a ∈ v, s.Fits a
  | .record fs, v => fs.Fits v
  | .choice vs, v => vs.Fits v
  | .number _, _ | .flag, _ | .identity, _ | .block _, _ => True

def Fields.Fits : (fs : Fields) → fs.Values → Prop
  | .empty, () => True
  | .field _ s fs, (v, vs) => s.Fits v ∧ fs.Fits vs

def Variants.Fits : (vs : Variants) → vs.Value → Prop
  | .empty, v => nomatch v
  | .bare _ _, .inl () => True
  | .bare _ vs, .inr v => vs.Fits v
  | .fields _ fs _, .inl v => fs.Fits v
  | .fields _ _ vs, .inr v => vs.Fits v
end

/-! ## 2. Writing a form -/

namespace RoundTripLemmas

theorem bound_le (w : Width) : w.bound ≤ UInt64.size := by
  cases w <;> decide

theorem isFirst_self (name : String) : (Key.name (Bytes.ofText name)).isFirst name = true := by
  simp [Key.isFirst]

/-- A later variant is not taken for an earlier one. -/
theorem isFirst_of_tellsApart {name other : String} {vs : Variants}
    (apart : vs.tellsApart name = true) (hother : other ∈ vs.names) :
    (Key.name (Bytes.ofText other)).isFirst name = false := by
  rw [Key.isFirst, beq_eq_false_iff_ne]
  intro hsame
  obtain rfl := Bytes.ofText_inj hsame
  simp [Variants.tellsApart, hother] at apart

theorem small_of_tellsApart {name : String} {vs : Variants} (apart : vs.tellsApart name = true) :
    name.utf8ByteSize < UInt32.size := by
  simp only [Variants.tellsApart, Bool.and_eq_true, decide_eq_true_eq] at apart
  exact apart.1

theorem form_writeNumber (w : Width) (v : w.Carrier) : w.Form v (Head.writeWhole (w.toNat v)) :=
  .inl (Head.form_writeWhole (Nat.lt_of_lt_of_le (w.toNat_lt v) (bound_le w)))

theorem form_writeText {s : String} (h : s.utf8ByteSize < UInt32.size) :
    TextForm s (writeText s) := by
  rw [← Bytes.length_ofText] at h
  exact ⟨_, .inl (Head.form_writeText h), rfl⟩

theorem form_writeOctets {n : Nat} (small : n < UInt32.size) (b : Block n) :
    BlockForm b (writeOctets b.bytes) := by
  have hsize : b.bytes.length = n := b.size_eq
  refine .inl ⟨Head.writeList b.bytes.length, b.bytes.map fun v => (v, Head.writeWhole v.toNat),
    ?_, ?_, ?_, ?_⟩
  · rw [List.length_map, hsize]
    exact Head.form_writeList small
  · intro item hitem
    obtain ⟨v, -, rfl⟩ := List.mem_map.mp hitem
    exact form_writeNumber .octet v
  · rw [List.map_map]
    exact List.map_id b.bytes
  · rw [writeOctets, List.flatMap_map]

theorem form_writeItems {α : Type} {form : Option α → Bytes → Prop} {write : α → Bytes}
    {as : List α} (short : as.length < UInt32.size) (h : ∀ a ∈ as, form (some a) (write a)) :
    ListForm form (some as) (Head.writeList as.length ++ as.flatMap write) := by
  refine ⟨Head.writeList as.length, as.map fun a => (some a, write a), ?_, ?_, ?_, ?_⟩
  · rw [List.length_map]
    exact Head.form_writeList short
  · intro item hitem
    obtain ⟨a, ha, rfl⟩ := List.mem_map.mp hitem
    exact h a ha
  · have hall : as.mapM some = some (as.map id) := List.mapM_pure
    rw [List.map_id] at hall
    rw [List.mapM_map]
    exact hall.symm
  · rw [List.flatMap_map]

theorem form_writeName {name : String} (small : name.utf8ByteSize < UInt32.size) :
    (Key.name (Bytes.ofText name)).Form (writeText name) := by
  rw [← Bytes.length_ofText] at small
  exact .text (Head.form_writeText small)

/-- What is written for a choice is a variant's name alone, or a table under it. -/
def FormUnderName (deep : Nat) (vs : Variants) (v : vs.Value) : Prop :=
  ∃ name ∈ vs.names, ∃ place, name.utf8ByteSize < UInt32.size ∧
    (Key.name (Bytes.ofText name)).place? vs.names = some place ∧
    (vs.write v = writeText name ∧ vs.bareAt? place = some v ∨
      ∃ content, vs.write v = tableOfOne :: writeText name ++ content ∧
        vs.Content deep place (some v) content)

/-- One variant more in front moves the place of the name by one. -/
theorem FormUnderName.later {deep : Nat} {name : String} {vs : Variants} {v : vs.Value}
    (vs' : Variants) (wrap : vs.Value → vs'.Value) (apart : vs.tellsApart name = true)
    (hnames : vs'.names = name :: vs.names) (hwrite : vs'.write (wrap v) = vs.write v)
    (hbare : ∀ i, vs'.bareAt? (i + 1) = (vs.bareAt? i).map wrap)
    (hcontent : ∀ i content, vs.Content deep i (some v) content →
      vs'.Content deep (i + 1) (some (wrap v)) content)
    (h : FormUnderName deep vs v) : FormUnderName deep vs' (wrap v) := by
  obtain ⟨other, hmem, place, hsmall, hplace, hforms⟩ := h
  refine ⟨other, hnames ▸ List.mem_cons_of_mem name hmem, place + 1, hsmall, ?_, ?_⟩
  · rw [hnames, Key.place?_cons, isFirst_of_tellsApart apart hmem]
    exact congrArg (Option.map (· + 1)) hplace
  · rw [hwrite, hbare]
    rcases hforms with ⟨hsame, hplain⟩ | ⟨content, hsame, hform⟩
    · exact .inl ⟨hsame, by rw [hplain, Option.map_some]⟩
    · exact .inr ⟨content, hsame, hcontent place content hform⟩

end RoundTripLemmas

open RoundTripLemmas

mutual
/-- What is written for a value is one of its forms. -/
theorem Shape.form_write {deep levels : Nat} : (s : Shape) → s.legible levels = true → (v : s.Value) →
    s.Fits v → s.Form deep (some v) (s.write v)
  | .number w, _, v, _ => ⟨v, rfl, form_writeNumber w v⟩
  | .flag, _, v, _ => ⟨v, rfl, .flag v⟩
  | .text, _, v, fits => ⟨v, rfl, form_writeText fits⟩
  | .identity, _, v, _ => ⟨v, rfl, form_writeText (by rw [v.utf8ByteSize_text]; decide)⟩
  | .block n, legible, v, _ => by
    simp only [Shape.legible, Bool.and_eq_true, decide_eq_true_eq] at legible
    exact ⟨v, rfl, form_writeOctets legible.2 v⟩
  | .list s, legible, v, fits => by
    simp only [Shape.legible, Bool.and_eq_true, decide_eq_true_eq] at legible
    exact .inl (form_writeItems fits.1 fun a ha => s.form_write legible.2 a (fits.2 a ha))
  | .record fs, legible, v, fits => by
    simp only [Shape.legible, Bool.and_eq_true, decide_eq_true_eq] at legible
    exact .inl ⟨_, _, Head.form_writeList legible.1.2, fs.listed_write legible.2 v fits, rfl⟩
  | .choice vs, legible, v, fits => by
    obtain ⟨name, -, place, hsmall, hplace, ⟨hwrite, hbare⟩ | ⟨content, hwrite, hcontent⟩⟩ :=
      vs.form_write legible v fits
    · refine .inr ⟨_, place, v, ?_, hplace, hbare, rfl⟩
      rw [Shape.write, hwrite]
      exact form_writeName hsmall
    · exact .inl ⟨[tableOfOne], _, _, place, content, .shortTable (n := 1) (by decide),
        form_writeName hsmall, hplace, hcontent, hwrite⟩

theorem Fields.listed_write {deep levels : Nat} : (fs : Fields) → fs.legible levels = true →
    (v : fs.Values) → fs.Fits v → fs.Listed deep (some v) (fs.write v)
  | .empty, _, (), _ => ⟨rfl, rfl⟩
  | .field _ s fs, legible, (v, vs), fits => by
    simp only [Fields.legible, Bool.and_eq_true] at legible
    exact ⟨some v, some vs, _, _, s.form_write legible.1 v fits.1, fs.listed_write legible.2 vs fits.2,
      rfl, rfl⟩

theorem Variants.form_write {deep levels : Nat} : (vs : Variants) → vs.legible levels = true →
    (v : vs.Value) → vs.Fits v → FormUnderName deep vs v
  | .empty, _, v, _ => nomatch v
  | .bare name vs, legible, v, fits => by
    simp only [Variants.legible, Bool.and_eq_true] at legible
    obtain ⟨hname, hrest⟩ := legible
    cases v with
    | inl u =>
      refine ⟨name, List.mem_cons_self, 0, small_of_tellsApart hname, ?_, .inl ⟨rfl, rfl⟩⟩
      rw [Variants.names, Key.place?_cons, isFirst_self, if_pos rfl]
    | inr v =>
      exact (vs.form_write hrest v fits).later (.bare name vs) .inr hname rfl rfl (fun _ => rfl)
        fun _ _ h => ⟨_, h, rfl⟩
  | .fields name fs vs, legible, v, fits => by
    simp only [Variants.legible, Bool.and_eq_true, decide_eq_true_eq] at legible
    obtain ⟨⟨⟨⟨hname, -⟩, hsmall⟩, hfields⟩, hrest⟩ := legible
    cases v with
    | inl v =>
      refine ⟨name, List.mem_cons_self, 0, small_of_tellsApart hname, ?_,
        .inr ⟨_, List.append_assoc _ _ _, _, .inl ⟨_, _, Head.form_writeList hsmall,
          fs.listed_write hfields v fits, rfl⟩, rfl⟩⟩
      rw [Variants.names, Key.place?_cons, isFirst_self, if_pos rfl]
    | inr v =>
      exact (vs.form_write hrest v fits).later (.fields name fs vs) .inr hname rfl rfl (fun _ => rfl)
        fun _ _ h => ⟨_, h, rfl⟩
end

/-! ## 3. Reading what was written -/

/-- A value is read back from what was written for it. -/
theorem Shape.reads_write {levels : Nat} (s : Shape) (legible : s.legible levels = true) (v : s.Value)
    (fits : s.Fits v) : (s.read levels).Reads (s.write v) v := by
  have hform : s.Form 0 (some v) (s.write v) := s.form_write legible v fits
  exact s.yields_form legible hform

/-- Decoding the encoding of a value gives the value, and ignores what follows. -/
theorem Shape.decode_write {s : Shape} (legible : s.legible maxLevels = true) {v : s.Value}
    (fits : s.Fits v) (rest : Bytes) : s.decode (s.write v ++ rest) = .ok v := by
  rw [Shape.decode, s.reads_write legible v fits rest]

end Wire

end DeviceSync
