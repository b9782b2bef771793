import DeviceSync.Proofs.Wire.Head
import DeviceSync.Wire.Decode
import Mathlib.Data.List.Forall2
import Mathlib.Data.Option.NAry

/-!
# Forms of a value

The same value can be sent in many forms, and a peer may choose any of them. This module lays down
which octets are a form of a value, without a reader of values; that each form is read is another matter.

1. `WellFormed`: the octets of a value of any kind, nested to a given depth at most.
2. `Key.Form` and `Key.place?`: how a key is written, and which of the names it stands for.
3. `Shape.Form`: the forms of a value of a shape. A record is the list of its fields, or a table of
   entries in any order: one for each field, and any well-formed value under a key that stands for no
   field.
4. `Shape.legible`: what is asked of a shape. It must not nest deeper than is read, and the variants of a
   choice must have different names.

Forms are laid down together with one kind of fault, a table in which a field is missing or given twice:
what `Shape.Form` relates to `none` is well formed in every other respect.
-/

namespace DeviceSync.Wire

/-! ## 1. Values of any kind -/

/-- Whether the head is all of the value. -/
def Head.isScalar : Head → Bool
  | .nil | .flag _ | .whole _ | .signed _ | .real => true
  | .text _ | .octets _ | .list _ | .table _ | .extension _ => false

/-- The octets of a value of any kind, whose lists, tables and extensions nest at most `depth` deep. The
octets of a text need not be UTF-8. -/
inductive WellFormed : (depth : Nat) → Bytes → Prop
  | scalar {depth : Nat} {head : Head} {bs : Bytes} (form : head.Form bs) (scalar : head.isScalar) :
      WellFormed depth bs
  | text {depth : Nat} {head content : Bytes} (form : (Head.text content.length).Form head) :
      WellFormed depth (head ++ content)
  | octets {depth : Nat} {head content : Bytes} (form : (Head.octets content.length).Form head) :
      WellFormed depth (head ++ content)
  | list {depth : Nat} {head : Bytes} {items : List Bytes} (form : (Head.list items.length).Form head)
      (inner : ∀ item ∈ items, WellFormed depth item) :
      WellFormed (depth + 1) (head ++ items.flatten)
  | table {depth : Nat} {head : Bytes} {entries : List (Bytes × Bytes)}
      (form : (Head.table entries.length).Form head)
      (keys : ∀ e ∈ entries, WellFormed depth e.1) (values : ∀ e ∈ entries, WellFormed depth e.2) :
      WellFormed (depth + 1) (head ++ entries.flatMap fun e => e.1 ++ e.2)
  | extension {depth : Nat} {head content : Bytes} (kind : UInt8)
      (form : (Head.extension content.length).Form head) :
      WellFormed (depth + 1) (head ++ kind :: content)

/-! ## 2. Keys -/

/-- The octets of a key: a name as a text or as octets, a position as a whole number. -/
inductive Key.Form : Key → Bytes → Prop
  | text {head name : Bytes} (form : (Head.text name.length).Form head) :
      Form (.name name) (head ++ name)
  | octets {head name : Bytes} (form : (Head.octets name.length).Form head) :
      Form (.name name) (head ++ name)
  | position {n : Nat} {bs : Bytes} (form : (Head.whole n).Form bs) : Form (.position n) bs

/-- Which of the names the key stands for, if any. -/
def Key.place? (names : List String) : Key → Option Nat
  | .name bs => names.findIdx? fun name => Bytes.ofText name == bs
  | .position n => if n < names.length then some n else none

/-- Which name a key stands for can be told by looking at the names one after the other. -/
theorem Key.place?_cons (name : String) (names : List String) (key : Key) :
    key.place? (name :: names) =
      if key.isFirst name then some 0 else (key.next.place? names).map (· + 1) := by
  cases key with
  | name bs => simp only [place?, isFirst, next, List.findIdx?_cons, Bool.beq_comm]
  | position n =>
    cases n with
    | zero => simp [place?, isFirst]
    | succ n =>
      simp only [place?, isFirst, next, List.length_cons, Nat.add_sub_cancel, Nat.add_lt_add_iff_right,
        Nat.add_one_ne_zero, beq_iff_eq, if_false]
      split <;> rfl

@[simp] theorem Key.place?_nil (key : Key) : key.place? [] = none := by
  cases key <;> rfl

/-- A key stands for the first of some names, or for a later one. -/
theorem Key.first_or_later {name : String} {names : List String} {key : Key} {place : Nat}
    (h : key.place? (name :: names) = some place) :
    key.isFirst name = true ∧ place = 0 ∨
      key.isFirst name = false ∧ ∃ i, key.next.place? names = some i ∧ place = i + 1 := by
  rw [place?_cons] at h
  split at h
  · exact .inl ⟨‹_›, (Option.some.inj h).symm⟩
  · obtain ⟨i, hi, hplace⟩ := Option.map_eq_some_iff.mp h
    exact .inr ⟨Bool.eq_false_of_not_eq_true ‹_›, i, hi, hplace.symm⟩

/-- An entry of a table: its key, how the key is written, and the octets of the value. -/
structure TableEntry where
  key : Key
  keyOctets : Bytes
  value : Bytes

namespace TableEntry

def octets (e : TableEntry) : Bytes := e.keyOctets ++ e.value

/-- The values that are given under the name at a place. -/
def given (names : List String) (entries : List TableEntry) (place : Nat) : List Bytes :=
  (entries.filter fun e => e.key.place? names == some place).map value

end TableEntry

/-! ## 3. Values of a shape -/

/-- The names of the fields, in order. -/
def Fields.names : Fields → List String
  | .empty => []
  | .field name _ fs => name :: fs.names

/-- The names of the variants, in order. -/
def Variants.names : Variants → List String
  | .empty => []
  | .bare name vs => name :: vs.names
  | .fields name _ vs => name :: vs.names

/-- The variant at a place, if it has no fields. -/
def Variants.bareAt? : (vs : Variants) → Nat → Option vs.Value
  | .empty, _ => none
  | .bare _ _, 0 => some (.inl ())
  | .bare _ vs, i + 1 => (vs.bareAt? i).map .inr
  | .fields _ _ _, 0 => none
  | .fields _ _ vs, i + 1 => (vs.bareAt? i).map .inr

/-- A number, as one without or with a sign. -/
def Width.Form (w : Width) (v : w.Carrier) (bs : Bytes) : Prop :=
  (Head.whole (w.toNat v)).Form bs ∨ (Head.signed (w.toNat v)).Form bs

/-- A text, as such or as octets. -/
def TextForm (s : String) (bs : Bytes) : Prop :=
  ∃ head, ((Head.text (Bytes.ofText s).length).Form head ∨
    (Head.octets (Bytes.ofText s).length).Form head) ∧ bs = head ++ Bytes.ofText s

/-- A list of values, each in some form. -/
def ListForm {α : Type} (form : Option α → Bytes → Prop) (o : Option (List α)) (bs : Bytes) : Prop :=
  ∃ (head : Bytes) (items : List (Option α × Bytes)),
    (Head.list items.length).Form head ∧ (∀ item ∈ items, form item.1 item.2) ∧
    o = items.mapM Prod.fst ∧ bs = head ++ items.flatMap Prod.snd

/-- A block, as the list of its octets or as octets of which it is the start. -/
def BlockForm {n : Nat} (b : Block n) (bs : Bytes) : Prop :=
  (∃ (head : Bytes) (items : List (UInt8 × Bytes)), (Head.list items.length).Form head ∧
    (∀ item ∈ items, Width.octet.Form item.1 item.2) ∧ items.map Prod.fst = b.bytes ∧
    bs = head ++ items.flatMap Prod.snd) ∨
  ∃ head more, (Head.octets (b.bytes ++ more).length).Form head ∧ bs = head ++ (b.bytes ++ more)

/-- The value is the number that the octet is; no other values are sent as single octets. -/
def Shape.IsOctet : (s : Shape) → UInt8 → s.Value → Prop
  | .number w, b, v => w.toNat v = b.toNat
  | .flag, _, _ | .text, _, _ | .identity, _, _ | .block _, _, _ | .list _, _, _ | .record _, _, _
  | .choice _, _, _ => False

/-- What becomes of a field, by the values it is given: there must be one, and only one. -/
def GivenOnce {α : Type} (form : Option α → Bytes → Prop) : List Bytes → Option α → Prop
  | [], o => o = none
  | [value], o => form o value
  | first :: _ :: _, o => o = none ∧ ∃ o, form o first

/-- A record, as the list of its fields or as a table. -/
def RecordForm (deep : Nat) (fs : Fields) (listed : Option fs.Values → Bytes → Prop)
    (filled : (Nat → List Bytes) → Option fs.Values → Prop) (o : Option fs.Values) (bs : Bytes) :
    Prop :=
  (∃ head content, (Head.list fs.count).Form head ∧ listed o content ∧ bs = head ++ content) ∨
  ∃ (head : Bytes) (entries : List TableEntry), (Head.table entries.length).Form head ∧
    (∀ e ∈ entries, e.key.Form e.keyOctets) ∧
    (∀ e ∈ entries, e.key.place? fs.names = none → WellFormed deep e.value) ∧
    filled (TableEntry.given fs.names entries) o ∧ bs = head ++ entries.flatMap TableEntry.octets

mutual
/-- The octets are a form of the value. There is no value where a table of fields lacks one or has one
twice. Values that are to be skipped nest at most `deep` deep. -/
def Shape.Form (deep : Nat) : (s : Shape) → Option s.Value → Bytes → Prop
  | .number w, o, bs => ∃ v, o = some v ∧ w.Form v bs
  | .flag, o, bs => ∃ b, o = some b ∧ (Head.flag b).Form bs
  | .text, o, bs => ∃ t, o = some t ∧ TextForm t bs
  | .identity, o, bs => ∃ i, o = some i ∧ TextForm i.text bs
  | .block _, o, bs => ∃ b, o = some b ∧ BlockForm b bs
  | .list s, o, bs =>
    ListForm (s.Form deep) o bs ∨
    ∃ head content vs, (Head.octets content.length).Form head ∧
      List.Forall₂ s.IsOctet content vs ∧ o = some vs ∧ bs = head ++ content
  | .record fs, o, bs => RecordForm deep fs (fs.Listed deep) (fs.Filled deep) o bs
  | .choice vs, o, bs =>
    (∃ head key keyOctets place content, (Head.table 1).Form head ∧ Key.Form key keyOctets ∧
      key.place? vs.names = some place ∧ vs.Content deep place o content ∧
      bs = head ++ keyOctets ++ content) ∨
    ∃ key place v, Key.Form key bs ∧ key.place? vs.names = some place ∧
      vs.bareAt? place = some v ∧ o = some v

/-- The octets are forms of the fields, one after the other. -/
def Fields.Listed (deep : Nat) : (fs : Fields) → Option fs.Values → Bytes → Prop
  | .empty, o, bs => o = some () ∧ bs = []
  | .field _ s fs, o, bs => ∃ a as first later, s.Form deep a first ∧ fs.Listed deep as later ∧
      o = Option.map₂ Prod.mk a as ∧ bs = first ++ later

/-- The fields have these values, when each place is given these octets. -/
def Fields.Filled (deep : Nat) : (fs : Fields) → (Nat → List Bytes) → Option fs.Values → Prop
  | .empty, _, o => o = some ()
  | .field _ s fs, given, o => ∃ a as, GivenOnce (s.Form deep) (given 0) a ∧
      fs.Filled deep (fun i => given (i + 1)) as ∧ o = Option.map₂ Prod.mk a as

/-- The octets are a form of what follows the name of the variant at a place: of its fields, or of
nothing. -/
def Variants.Content (deep : Nat) : (vs : Variants) → (place : Nat) → Option vs.Value → Bytes → Prop
  | .empty, _, _, _ => False
  | .bare _ _, 0, o, bs => o = some (.inl ()) ∧ Head.nil.Form bs
  | .bare _ vs, i + 1, o, bs => ∃ a, vs.Content deep i a bs ∧ o = a.map .inr
  | .fields _ fs _, 0, o, bs =>
    ∃ a, RecordForm deep fs (fs.Listed deep) (fs.Filled deep) a bs ∧ o = a.map .inl
  | .fields _ _ vs, i + 1, o, bs => ∃ a, vs.Content deep i a bs ∧ o = a.map .inr
end

/-! ## 4. Shapes that can be read -/

/-- Whether a name has a length in four octets and differs from those after it. -/
def Variants.tellsApart (name : String) (vs : Variants) : Bool :=
  decide (name.utf8ByteSize < UInt32.size) && !vs.names.contains name

mutual
/-- Whether values of the shape nest at most `levels` deep, variants are told apart by their names,
and the lengths that the shape itself lays down have a head. -/
def Shape.legible (levels : Nat) : Shape → Bool
  | .number _ | .flag | .text | .identity => true
  | .block n => decide (0 < levels) && decide (n < UInt32.size)
  | .list s => decide (0 < levels) && s.legible (levels - 1)
  | .record fs => decide (0 < levels) && decide (fs.count < UInt32.size) && fs.legible (levels - 1)
  | .choice vs => vs.legible levels

def Fields.legible (levels : Nat) : Fields → Bool
  | .empty => true
  | .field _ s fs => s.legible levels && fs.legible levels

def Variants.legible (levels : Nat) : Variants → Bool
  | .empty => true
  | .bare name vs => vs.tellsApart name && vs.legible levels
  | .fields name fs vs =>
    vs.tellsApart name && decide (0 < levels) && decide (fs.count < UInt32.size) &&
      fs.legible (levels - 1) && vs.legible levels
end

end DeviceSync.Wire
