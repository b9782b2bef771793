import DeviceSync.Proofs.Wire.Forms

/-!
# Every form is read

Whatever form of a value a peer chooses, the reader takes all of it, and nothing of what follows, for
this value. A table in which a field is missing or given twice is refused.

1. `Reader.Yields`: a reader takes octets for a value, or refuses them where there is none. It is put
   together as readers are.
2. `WellFormed.reads_skip`: a value of any kind is skipped, by induction on how it is built.
3. `Key.Form.reads`: the forms of keys.
4. Numbers, texts, identities and blocks.
5. `yields_entries`: the entries of a table are read one after the other. What is known between two of
   them is `Fields.Pending`: which slots are full, and what is still given at each place.
6. `Variants.readBare_of_bareAt`: variants that are sent as their name alone.
7. `Shape.yields_form`, by recursion on the shape together with its fields and variants.
-/

namespace DeviceSync

namespace Wire

open Reader

/-! ## 1. Readers that yield a value or refuse -/

namespace Reader

variable {α β ι : Type}

/-- The reader takes exactly these octets for the value, and refuses them where there is none, whatever
follows them. -/
def Yields (p : Reader α) (written : Bytes) : Option α → Prop
  | some a => p.Reads written a
  | none => ∀ rest, p (written ++ rest) = .error .malformed

theorem Yields.bind {p : Reader α} {f : α → Reader β} {first second : Bytes} {o : Option α}
    {g : α → Option β} (hp : p.Yields first o) (hf : ∀ a, o = some a → (f a).Yields second (g a)) :
    (p >>= f).Yields (first ++ second) (o.bind g) := by
  cases o with
  | none =>
    intro rest
    show Reader.bind p f (first ++ second ++ rest) = _
    rw [Reader.bind, List.append_assoc, hp]
  | some a =>
    have hnext := hf a rfl
    rw [Option.bind_some]
    cases hg : g a with
    | some b =>
      rw [hg] at hnext
      exact Reads.bind hp hnext
    | none =>
      rw [hg] at hnext
      intro rest
      show Reader.bind p f (first ++ second ++ rest) = _
      rw [Reader.bind, List.append_assoc, hp]
      exact hnext rest

theorem Reads.yields_bind {p : Reader α} {f : α → Reader β} {first second : Bytes} {a : α}
    {o : Option β} (hp : p.Reads first a) (hf : (f a).Yields second o) :
    (p >>= f).Yields (first ++ second) o :=
  Yields.bind (o := some a) (g := fun _ => o) hp fun _ h => by cases h; exact hf

theorem Yields.map {p : Reader α} {written : Bytes} {o : Option α} (h : p.Yields written o)
    (f : α → β) : (p >>= fun a => Reader.pure (f a)).Yields written (o.map f) := by
  rw [Option.map_eq_bind, ← List.append_nil written]
  exact h.bind fun a _ => reads_pure (f a)

theorem reads_ofOption {o : Option α} {a : α} (h : o = some a) : (ofOption o).Reads [] a := by
  rw [h]
  exact reads_pure a

theorem yields_ofOption (o : Option α) : (ofOption o).Yields [] o := by
  cases o with
  | none => exact fun _ => rfl
  | some a => exact reads_pure a

/-- A list of items is taken for the list of their values, if each has one. -/
theorem yields_times {p : Reader α} {items : List ι} {write : ι → Bytes} {value : ι → Option α}
    (h : ∀ i ∈ items, p.Yields (write i) (value i)) :
    (times p items.length).Yields (items.flatMap write) (items.mapM value) := by
  induction items with
  | nil => exact reads_pure []
  | cons i items ih =>
    have htail := ih fun j hj => h j (List.mem_cons_of_mem i hj)
    rw [List.mapM_cons]
    refine (h i List.mem_cons_self).bind fun a _ => ?_
    have hcons := htail.map (a :: ·)
    rwa [Option.map_eq_bind] at hcons

/-- A list of items is taken for the list of their values. -/
theorem reads_times_map {p : Reader α} {items : List ι} {write : ι → Bytes} {value : ι → α}
    (h : ∀ i ∈ items, p.Reads (write i) (value i)) :
    (times p items.length).Reads (items.flatMap write) (items.map value) := by
  have hyields : (times p items.length).Yields (items.flatMap write)
      (items.mapM fun i => some (value i)) := yields_times h
  have hall : items.mapM (fun i => some (value i)) = some (items.map value) := List.mapM_pure
  rwa [hall] at hyields

end Reader

/-! ## 2. Values that are skipped -/

theorem reads_discard {α : Type} {p : Reader α} {written : Bytes} {a : α} (h : p.Reads written a) :
    (skipWith.discard p).Reads written () :=
  h.map (reads_pure ())

/-- The keys and values of entries are items in a row. -/
theorem reads_pairs {p : Reader Unit} {entries : List (Bytes × Bytes)}
    (keys : ∀ e ∈ entries, p.Reads e.1 ()) (values : ∀ e ∈ entries, p.Reads e.2 ()) :
    ∃ us, (times p (2 * entries.length)).Reads (entries.flatMap fun e => e.1 ++ e.2) us := by
  have hlength : 2 * entries.length = (entries.flatMap fun e => [e.1, e.2]).length := by
    simp [List.length_flatMap, Nat.mul_comm]
  have hwritten : (entries.flatMap fun e => e.1 ++ e.2) =
      (entries.flatMap fun e => [e.1, e.2]).flatMap id := by
    simp [List.flatMap_assoc]
  rw [hlength, hwritten]
  refine ⟨List.map (fun _ => ()) _, reads_times_map fun item hitem => ?_⟩
  obtain ⟨e, he, hitem⟩ := List.mem_flatMap.mp hitem
  rcases List.mem_pair.mp hitem with rfl | rfl
  · exact keys e he
  · exact values e he

/-- A value that does not nest is skipped at any depth. -/
theorem reads_skip_flat {bs : Bytes} (h : ∀ inner nestable, (skipWith inner nestable).Reads bs ())
    (levels : Nat) : (skip levels).Reads bs () := by
  cases levels with
  | zero => exact h _ _
  | succ levels => exact h _ _

/-- A value of any kind is skipped where it may nest as deep as it does; what follows it is left. -/
theorem WellFormed.reads_skip {depth : Nat} {bs : Bytes} (value : WellFormed depth bs) :
    ∀ {levels : Nat}, depth ≤ levels → (skip levels).Reads bs () := by
  induction value with
  | @scalar _ head _ form scalar =>
    intro levels _
    refine reads_skip_flat (fun _ _ => form.reads.map ?_) levels
    cases head with
    | nil | flag | whole | signed | real => exact reads_pure ()
    | text | octets | list | table | extension => cases scalar
  | text form =>
    intro levels _
    exact reads_skip_flat (fun _ _ => form.reads.bind (reads_discard (reads_octets _))) levels
  | octets form =>
    intro levels _
    exact reads_skip_flat (fun _ _ => form.reads.bind (reads_discard (reads_octets _))) levels
  | @list _ _ items form _ ih =>
    rintro (_ | levels) hle
    · exact absurd hle (Nat.not_succ_le_zero _)
    · have hitems : (times (skip levels) items.length).Reads (items.flatMap id)
          (items.map fun _ => ()) :=
        reads_times_map fun item hitem => ih item hitem (Nat.le_of_succ_le_succ hle)
      rw [List.flatMap_id] at hitems
      exact form.reads.bind (reads_discard hitems)
  | table form _ _ ihkeys ihvalues =>
    rintro (_ | levels) hle
    · exact absurd hle (Nat.not_succ_le_zero _)
    · obtain ⟨us, hentries⟩ := reads_pairs
        (fun e he => ihkeys e he (Nat.le_of_succ_le_succ hle))
        fun e he => ihvalues e he (Nat.le_of_succ_le_succ hle)
      exact form.reads.bind (reads_discard hentries)
  | @extension _ _ content kind form =>
    rintro (_ | levels) hle
    · exact absurd hle (Nat.not_succ_le_zero _)
    -- The kind of an extension is one octet more than its head says.
    · exact form.reads.bind (reads_discard (reads_octets (kind :: content)))

/-! ## 3. Keys -/

/-- The octets of a name, after their number. -/
theorem reads_keyName (name : Bytes) :
    (do return .name (← octets name.length) : Reader Key).Reads name (.name name) :=
  (reads_octets name).map (reads_pure _)

/-- A key is read head first; no table is taken for one. -/
theorem Key.Form.split {key : Key} {bs : Bytes} (form : key.Form bs) :
    ∃ head first later, head.Form first ∧ (readKeyFrom head).Reads later key ∧
      (∀ n, head ≠ .table n) ∧ bs = first ++ later := by
  cases form with
  | @text first name form =>
    exact ⟨_, first, name, form, reads_keyName name, fun _ => Head.noConfusion, rfl⟩
  | @octets first name form =>
    exact ⟨_, first, name, form, reads_keyName name, fun _ => Head.noConfusion, rfl⟩
  | position form =>
    exact ⟨_, bs, [], form, reads_pure _, fun _ => Head.noConfusion, (List.append_nil bs).symm⟩

theorem Key.Form.reads {key : Key} {bs : Bytes} (form : key.Form bs) : readKey.Reads bs key := by
  obtain ⟨head, first, later, hhead, hkey, -, rfl⟩ := form.split
  exact hhead.reads.bind hkey

/-! ## 4. Numbers, texts, identities and blocks -/

theorem Width.Form.reads {w : Width} {v : w.Carrier} {bs : Bytes} (form : w.Form v bs) :
    (readNumber w).Reads bs v := by
  have hlt := w.toNat_lt v
  rcases form with form | form
  all_goals
    refine form.reads.map ?_
    simp only [Head.wholeValue?, Int.natCast_nonneg, Int.toNat_natCast, if_true, if_pos hlt,
      Width.wrap_toNat]
    exact reads_pure v

theorem TextForm.reads {s : String} {bs : Bytes} (form : TextForm s bs) : readText.Reads bs s := by
  have hcontent := reads_ofOption (Bytes.toText?_ofText s)
  obtain ⟨head, form | form, rfl⟩ := form
  · exact form.reads.bind ((reads_octets _).map hcontent)
  · exact form.reads.bind ((reads_octets _).map hcontent)

theorem TextForm.reads_identity {i : Identity} {bs : Bytes} (form : TextForm i.text bs) :
    readIdentity.Reads bs i := by
  refine form.reads.map ?_
  simp only [Identity.ofText?_text]
  exact reads_pure i

theorem Shape.ofOctets?_of_isOctet {s : Shape} {content : Bytes} {vs : List s.Value}
    (h : List.Forall₂ s.IsOctet content vs) : content.mapM s.ofOctet? = some vs := by
  induction h with
  | nil => rfl
  | @cons b v content vs hb _ ih =>
    cases s with
    | number w =>
      have hvalue : w.toNat v = b.toNat := hb
      rw [List.mapM_cons, ih, Shape.ofOctet?, ← hvalue, Width.wrap_toNat]
      rfl
    | flag | text | identity | block | list | record | choice => exact hb.elim

theorem BlockForm.reads {levels n : Nat} {b : Block n} {bs : Bytes} (form : BlockForm b bs) :
    (readBlock (levels + 1) n).Reads bs b := by
  rcases form with ⟨head, items, form, hitems, hbytes, rfl⟩ | ⟨head, more, form, rfl⟩
  · have hsize : items.length = n := by rw [← b.size_eq, ← hbytes, List.length_map]
    have hoctets := reads_times_map fun item hitem => (hitems item hitem).reads
    rw [hbytes] at hoctets
    refine form.reads.bind ?_
    simp only [nested, if_pos hsize]
    exact hoctets.map (reads_ofOption (Block.ofBytes?_bytes b))
  · have htake : Block.take? n (b.bytes ++ more) = some b := by
      rw [Block.take?, dif_pos (by rw [List.length_append, b.size_eq]; exact Nat.le_add_right n _)]
      exact congrArg some (Block.ext (List.take_left' b.size_eq))
    exact form.reads.bind ((reads_octets _).map (reads_ofOption htake))

/-! ## 5. Tables -/

/-- What becomes of a field with this slot, by the values it is still given. -/
def GivenRest {α : Type} (form : Option α → Bytes → Prop) :
    Option α → List Bytes → Option α → Prop
  | none, values, o => GivenOnce form values o
  | some v, [], o => o = some v
  | some _, _ :: _, o => o = none

/-- The fields have these values, when the slots were filled before and each place is still given these
octets. -/
def Fields.Pending (deep : Nat) : (fs : Fields) → fs.Slots → (Nat → List Bytes) →
    Option fs.Values → Prop
  | .empty, (), _, o => o = some ()
  | .field _ s fs, (slot, slots), given, o => ∃ a as, GivenRest (s.Form deep) slot (given 0) a ∧
      fs.Pending deep slots (fun i => given (i + 1)) as ∧ o = Option.map₂ Prod.mk a as

/-- At the start no slot is full. -/
theorem Fields.Filled.pending {deep : Nat} : {fs : Fields} → {given : Nat → List Bytes} →
    {o : Option fs.Values} → fs.Filled deep given o → fs.Pending deep fs.noSlots given o
  | .empty, _, _, h => h
  | .field _ _ _, _, _, ⟨a, as, ha, has, ho⟩ => ⟨a, as, ha, has.pending, ho⟩

/-- When nothing more is given, the slots say what the fields are. -/
theorem Fields.Pending.complete {deep : Nat} : {fs : Fields} → {slots : fs.Slots} →
    {o : Option fs.Values} → fs.Pending deep slots (fun _ => []) o → fs.complete? slots = o
  | .empty, (), _, h => h.symm
  | .field _ s fs, (slot, slots), _, ⟨a, as, ha, has, ho⟩ => by
    have hlater := has.complete
    have hslot : a = slot := by cases slot <;> exact ha
    rw [Fields.complete?, hlater, ho, hslot]
    cases slot <;> cases as <;> rfl

/-- A value for a field that has none yet: the field is filled with it, or refused. -/
theorem GivenOnce.step {α : Type} {form : Option α → Bytes → Prop} {read : Reader α}
    (hread : ∀ {o bs}, form o bs → read.Yields bs o) {value : Bytes} {later : List Bytes}
    {a : Option α} (once : GivenOnce form (value :: later) a) :
    ∃ next : Option α, read.Yields value next ∧
      next.elim (a = none) fun v => GivenRest form (some v) later a := by
  cases later with
  | nil =>
    refine ⟨a, hread once, ?_⟩
    cases a <;> rfl
  | cons _ _ =>
    obtain ⟨hnone, o, hfirst⟩ := once
    refine ⟨o, hread hfirst, ?_⟩
    cases o <;> exact hnone

/-- What is still given at each place, when the next value is given under a key. -/
def TableEntry.before (place : Option Nat) (value : Bytes) (later : Nat → List Bytes) (i : Nat) :
    List Bytes :=
  if place = some i then value :: later i else later i

theorem TableEntry.given_cons (names : List String) (e : TableEntry) (entries : List TableEntry) :
    given names (e :: entries) = before (e.key.place? names) e.value (given names entries) := by
  funext i
  simp only [given, before, List.filter_cons, beq_iff_eq]
  split <;> rfl

/-- The value of a key that does not stand for the first name is given further back. -/
theorem TableEntry.before_succ (place : Option Nat) (value : Bytes) (later : Nat → List Bytes)
    (i : Nat) :
    before (place.map (· + 1)) value later (i + 1) = before place value (fun i => later (i + 1)) i := by
  cases place <;> simp [before]

theorem TableEntry.before_zero (place : Option Nat) (value : Bytes) (later : Nat → List Bytes) :
    before (place.map (· + 1)) value later 0 = later 0 := by
  cases place <;> simp [before]

/-- An entry was read: the slots are filled as far as this one says, or the table was refused with good
reason. -/
def Fields.Onward (deep : Nat) (fs : Fields) (next : Option fs.Slots) (later : Nat → List Bytes)
    (o : Option fs.Values) : Prop :=
  next.elim (o = none) fun slots => fs.Pending deep slots later o

namespace Fields.Pending

variable {deep : Nat} {name : String} {s : Shape} {fs : Fields} {slots : fs.Slots} {value : Bytes}
  {later : Nat → List Bytes} {o : Option (Fields.field name s fs).Values}

/-- A field that has its value is given another one. -/
theorem refused {v : s.Value}
    (pending : (Fields.field name s fs).Pending deep (some v, slots)
      (TableEntry.before (some 0) value later) o) : o = none := by
  obtain ⟨a, as, ha, -, rfl⟩ := pending
  have hnone : a = none := ha
  rw [hnone, Option.map₂_none_left]

/-- A field that has no value yet is given one. -/
theorem filled {read : Reader s.Value} (hread : ∀ {o bs}, s.Form deep o bs → read.Yields bs o)
    (pending : (Fields.field name s fs).Pending deep (none, slots)
      (TableEntry.before (some 0) value later) o) :
    ∃ next : Option s.Value, read.Yields value next ∧
      (Fields.field name s fs).Onward deep (next.map fun v => (some v, slots)) later o := by
  obtain ⟨a, as, ha, has, rfl⟩ := pending
  obtain ⟨next, hyields, hnext⟩ := GivenOnce.step hread ha
  refine ⟨next, hyields, ?_⟩
  cases next with
  | none =>
    have hnone : a = none := hnext
    rw [hnone]
    exact Option.map₂_none_left _ _
  | some v => exact ⟨a, as, hnext, has, rfl⟩

/-- A later field is given a value, or none of the fields is. -/
theorem passed {slot : Option s.Value} {place : Option Nat}
    (pending : (Fields.field name s fs).Pending deep (slot, slots)
      (TableEntry.before (place.map (· + 1)) value later) o) :
    ∃ as, fs.Pending deep slots (TableEntry.before place value fun i => later (i + 1)) as ∧
      ∀ next, fs.Onward deep next (fun i => later (i + 1)) as →
        (Fields.field name s fs).Onward deep (next.map fun slots => (slot, slots)) later o := by
  obtain ⟨a, as, ha, has, rfl⟩ := pending
  simp only [TableEntry.before_succ] at has
  rw [TableEntry.before_zero] at ha
  refine ⟨as, has, fun next hnext => ?_⟩
  cases next with
  | none =>
    have hnone : as = none := hnext
    rw [hnone]
    exact Option.map₂_none_right _ _
  | some slots => exact ⟨a, as, ha, hnext, rfl⟩

end Fields.Pending

namespace Fields

variable {name : String} {s : Shape} {fs : Fields} {levels : Nat} {key : Key} {slots : fs.Slots}

theorem readEntry_full {v : s.Value} (hkey : key.isFirst name = true) :
    (field name s fs).readEntry levels key (some v, slots) = malformed :=
  if_pos hkey

theorem readEntry_free (hkey : key.isFirst name = true) :
    (field name s fs).readEntry levels key (none, slots) =
      (s.read levels >>= fun v => Reader.pure (some v, slots)) :=
  if_pos hkey

theorem readEntry_later {slot : Option s.Value} (hkey : ¬ key.isFirst name = true) :
    (field name s fs).readEntry levels key (slot, slots) =
      (fs.readEntry levels key.next slots >>= fun slots => Reader.pure (slot, slots)) :=
  if_neg hkey

end Fields

/-- Each entry is read, whichever it is. -/
def ReadsEntry (deep : Nat) (fs : Fields) (read : Key → fs.Slots → Reader fs.Slots) : Prop :=
  ∀ {key : Key} {value : Bytes} {slots : fs.Slots} {later : Nat → List Bytes}
    {o : Option fs.Values}, (key.place? fs.names = none → WellFormed deep value) →
    fs.Pending deep slots (TableEntry.before (key.place? fs.names) value later) o →
    ∃ next : Option fs.Slots, (read key slots).Yields value next ∧ fs.Onward deep next later o

theorem yields_entries {deep : Nat} {fs : Fields} {read : Key → fs.Slots → Reader fs.Slots}
    (hread : ReadsEntry deep fs read) {o : Option fs.Values} {entries : List TableEntry}
    (keys : ∀ e ∈ entries, e.key.Form e.keyOctets)
    (unknown : ∀ e ∈ entries, e.key.place? fs.names = none → WellFormed deep e.value) :
    ∀ {slots : fs.Slots}, fs.Pending deep slots (TableEntry.given fs.names entries) o →
    ∃ final : Option fs.Slots,
      (iterate (fun slots => do read (← readKey) slots) entries.length slots).Yields
        (entries.flatMap TableEntry.octets) final ∧
      final.bind fs.complete? = o := by
  induction entries with
  | nil =>
    intro slots pending
    exact ⟨some slots, reads_pure slots, pending.complete⟩
  | cons e entries ih =>
    intro slots pending
    rw [TableEntry.given_cons] at pending
    obtain ⟨next, hyields, hnext⟩ := hread (unknown e List.mem_cons_self) pending
    have hentry : Yields (do read (← readKey) slots) e.octets next :=
      (keys e List.mem_cons_self).reads.yields_bind hyields
    cases next with
    | none =>
      refine ⟨none, ?_, hnext.symm⟩
      exact hentry.bind (g := fun _ => none) fun _ h => nomatch h
    | some slots' =>
      obtain ⟨final, hfinal, hcomplete⟩ := ih (fun d hd => keys d (List.mem_cons_of_mem e hd))
        (fun d hd => unknown d (List.mem_cons_of_mem e hd)) hnext
      refine ⟨final, ?_, hcomplete⟩
      exact hentry.bind (g := fun _ => final) fun _ h => by cases h; exact hfinal

/-- A record is read in each of its forms. -/
theorem yields_record {deep levels : Nat} {fs : Fields} {readList : Nat → Nat → Reader fs.Values}
    {readEntry : Nat → Key → fs.Slots → Reader fs.Slots}
    (hlist : ∀ {o bs}, fs.Listed deep o bs → (readList levels fs.count).Yields bs o)
    (hentry : ReadsEntry deep fs (readEntry levels)) {o : Option fs.Values} {bs : Bytes}
    (form : RecordForm deep fs (fs.Listed deep) (fs.Filled deep) o bs) :
    (readRecord fs readList readEntry (levels + 1)).Yields bs o := by
  rcases form with ⟨head, content, form, listed, rfl⟩ |
    ⟨head, entries, form, keys, unknown, filled, rfl⟩
  · exact form.reads.yields_bind (hlist listed)
  · obtain ⟨final, hfinal, rfl⟩ := yields_entries hentry keys unknown filled.pending
    have hall := hfinal.bind fun slots _ => yields_ofOption (fs.complete? slots)
    rw [List.append_nil] at hall
    exact form.reads.yields_bind hall

/-! ## 6. Choices -/

/-- A variant without fields is read from its key alone. -/
theorem Variants.readBare_of_bareAt : {vs : Variants} → {key : Key} → {place : Nat} →
    {v : vs.Value} → key.place? vs.names = some place → vs.bareAt? place = some v →
    (vs.readBare key).Reads [] v
  | .empty, _, _, _, _, hbare => nomatch hbare
  | .bare name vs, key, place, v, hplace, hbare => by
    rw [readBare]
    rcases Key.first_or_later hplace with ⟨hkey, rfl⟩ | ⟨hkey, i, hi, rfl⟩
    · cases hbare
      rw [if_pos hkey]
      exact reads_pure _
    · obtain ⟨w, hw, rfl⟩ := Option.map_eq_some_iff.mp hbare
      rw [if_neg (ne_true_of_eq_false hkey)]
      exact (readBare_of_bareAt hi hw).map (reads_pure _)
  | .fields name _ vs, key, place, v, hplace, hbare => by
    rw [readBare]
    rcases Key.first_or_later hplace with ⟨hkey, rfl⟩ | ⟨hkey, i, hi, rfl⟩
    · cases hbare
    · obtain ⟨w, hw, rfl⟩ := Option.map_eq_some_iff.mp hbare
      rw [if_neg (ne_true_of_eq_false hkey)]
      exact (readBare_of_bareAt hi hw).map (reads_pure _)

/-! ## 7. Values of a shape -/

/-- What is nested has one level less. -/
theorem levels_add {levels deep : Nat} (h : 0 < levels) :
    levels + deep = levels - 1 + deep + 1 := by
  omega

mutual
/-- Each form of a value is read as this value, and a form with a field missing or given twice is
refused. The levels must do for the shape and for what is skipped in it. -/
theorem Shape.yields_form {deep levels : Nat} : (s : Shape) → s.legible levels = true →
    ∀ {o bs}, s.Form deep o bs → (s.read (levels + deep)).Yields bs o
  | .number w, _, _, _, ⟨_, rfl, form⟩ => form.reads
  | .flag, _, _, _, ⟨b, rfl, form⟩ => form.reads.map (reads_pure b)
  | .text, _, _, _, ⟨_, rfl, form⟩ => form.reads
  | .identity, _, _, _, ⟨_, rfl, form⟩ => form.reads_identity
  | .block n, legible, _, _, ⟨b, rfl, form⟩ => by
    simp only [Shape.legible, Bool.and_eq_true, decide_eq_true_eq] at legible
    rw [levels_add legible.1]
    exact form.reads
  | .list s, legible, o, bs, form => by
    simp only [Shape.legible, Bool.and_eq_true, decide_eq_true_eq] at legible
    rw [levels_add legible.1, Shape.read]
    rcases form with ⟨head, items, form, hitems, rfl, rfl⟩ | ⟨head, content, vs, form, hvs, rfl, rfl⟩
    · refine form.reads.yields_bind ?_
      exact yields_times fun item hitem => s.yields_form legible.2 (hitems item hitem)
    · have hvalues := reads_ofOption (Shape.ofOctets?_of_isOctet hvs)
      exact form.reads.bind ((reads_octets content).map hvalues)
  | .record fs, legible, o, bs, form => by
    simp only [Shape.legible, Bool.and_eq_true, decide_eq_true_eq] at legible
    rw [levels_add legible.1.1, Shape.read]
    exact yields_record (fs.yields_listed legible.2) (fs.readsEntry legible.2) form
  | .choice vs, legible, o, bs, form => by
    rw [Shape.read]
    rcases form with ⟨head, key, keyOctets, place, content, form, hkey, hplace, hcontent, rfl⟩ |
      ⟨key, place, v, hkey, hplace, hbare, rfl⟩
    · rw [List.append_assoc]
      exact form.reads.yields_bind
        (hkey.reads.yields_bind (vs.yields_content legible hplace hcontent))
    · obtain ⟨head, first, later, form, hlater, hnot, rfl⟩ := hkey.split
      have hread := hlater.map (Variants.readBare_of_bareAt hplace hbare)
      refine form.reads.bind ?_
      cases head with
      | table n => exact absurd rfl (hnot n)
      | _ => exact hread

theorem Fields.yields_listed {deep levels : Nat} : (fs : Fields) → fs.legible levels = true →
    ∀ {o bs}, fs.Listed deep o bs → (fs.readList (levels + deep) fs.count).Yields bs o
  | .empty, _, _, _, ⟨ho, hbs⟩ => by
    subst ho hbs
    exact reads_pure ()
  | .field name s fs, legible, _, _, ⟨a, as, first, later, hfirst, hlater, ho, hbs⟩ => by
    subst ho hbs
    simp only [Fields.legible, Bool.and_eq_true] at legible
    exact (s.yields_form legible.1 hfirst).bind fun a _ =>
      (fs.yields_listed legible.2 hlater).map (Prod.mk a)

theorem Fields.readsEntry {deep levels : Nat} : (fs : Fields) → fs.legible levels = true →
    ReadsEntry deep fs (fs.readEntry (levels + deep))
  | .empty, _, key, value, (), _, o, unknown, pending => by
    have hskip := (unknown key.place?_nil).reads_skip (Nat.le_add_left deep levels)
    exact ⟨some (), hskip, pending⟩
  | .field name s fs, legible, key, value, (slot, slots), later, o, unknown, pending => by
    simp only [Fields.legible, Bool.and_eq_true] at legible
    rw [Fields.names, Key.place?_cons] at unknown pending
    split at pending
    · rename_i hkey
      cases slot with
      | some v =>
        rw [Fields.readEntry_full hkey]
        exact ⟨none, fun _ => rfl, pending.refused⟩
      | none =>
        obtain ⟨next, hyields, hnext⟩ := pending.filled (s.yields_form legible.1)
        rw [Fields.readEntry_free hkey]
        exact ⟨_, hyields.map _, hnext⟩
    · rename_i hkey
      rw [if_neg hkey, Option.map_eq_none_iff] at unknown
      obtain ⟨as, hlater, honward⟩ := pending.passed
      obtain ⟨next, hyields, hnext⟩ := fs.readsEntry legible.2 unknown hlater
      rw [Fields.readEntry_later hkey]
      exact ⟨_, hyields.map _, honward next hnext⟩

theorem Variants.yields_content {deep levels : Nat} : (vs : Variants) →
    vs.legible levels = true → ∀ {key place o bs}, key.place? vs.names = some place →
      vs.Content deep place o bs → (vs.readFields (levels + deep) key).Yields bs o
  | .empty, _, _, _, _, _, _, content => content.elim
  | .bare name vs, legible, key, place, o, bs, hplace, content => by
    simp only [Variants.legible, Bool.and_eq_true] at legible
    rw [Variants.readFields]
    rcases Key.first_or_later hplace with ⟨hkey, rfl⟩ | ⟨hkey, i, hi, rfl⟩
    · obtain ⟨rfl, form⟩ := content
      rw [if_pos hkey]
      exact form.reads.map (reads_pure _)
    · obtain ⟨a, hcontent, rfl⟩ := content
      rw [if_neg (ne_true_of_eq_false hkey)]
      exact (vs.yields_content legible.2 hi hcontent).map Sum.inr
  | .fields name fs vs, legible, key, place, o, bs, hplace, content => by
    simp only [Variants.legible, Bool.and_eq_true, decide_eq_true_eq] at legible
    obtain ⟨⟨⟨⟨-, hdeep⟩, -⟩, hfields⟩, hrest⟩ := legible
    rw [Variants.readFields]
    rcases Key.first_or_later hplace with ⟨hkey, rfl⟩ | ⟨hkey, i, hi, rfl⟩
    · obtain ⟨a, form, rfl⟩ := content
      rw [if_pos hkey, levels_add hdeep]
      exact (yields_record (fs.yields_listed hfields) (fs.readsEntry hfields) form).map Sum.inl
    · obtain ⟨a, hcontent, rfl⟩ := content
      rw [if_neg (ne_true_of_eq_false hkey)]
      exact (vs.yields_content hrest hi hcontent).map Sum.inr
end

end Wire

end DeviceSync
