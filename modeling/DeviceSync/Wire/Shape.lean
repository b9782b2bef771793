import DeviceSync.Identifier
import DeviceSync.Identity

/-!
# Shapes

A shape describes what is sent: numbers of a fixed width, texts, blocks, lists, records with named
fields, and choices between variants. `Shape.Value` is the type of the values of a shape, so one
writer and one reader, each defined by recursion on the shape, serve every message of the library.

* a record's values are the tuple of its fields' values (`Fields.Values`);
* a choice's value says which variant it is and carries that variant's fields (`Variants.Value`);
* `Fields.Slots` is a record that is still being read: each field has its value or not.
-/

namespace DeviceSync.Wire

/-- The width of a number. -/
inductive Width
  | octet
  | word
  | long
deriving DecidableEq

namespace Width

abbrev Carrier : Width → Type
  | octet => UInt8
  | word => UInt32
  | long => UInt64

/-- The number of values of a width. -/
def bound : Width → Nat
  | octet => UInt8.size
  | word => UInt32.size
  | long => UInt64.size

/-- The number of this width with value `n` modulo `bound`. -/
def wrap : (w : Width) → Nat → w.Carrier
  | octet, n => UInt8.ofNat n
  | word, n => UInt32.ofNat n
  | long, n => UInt64.ofNat n

def toNat : (w : Width) → w.Carrier → Nat
  | octet, v => UInt8.toNat v
  | word, v => UInt32.toNat v
  | long, v => UInt64.toNat v

theorem toNat_lt (w : Width) (v : w.Carrier) : w.toNat v < w.bound := by
  cases w
  · exact UInt8.toNat_lt v
  · exact UInt32.toNat_lt v
  · exact UInt64.toNat_lt v

@[simp] theorem wrap_toNat (w : Width) (v : w.Carrier) : w.wrap (w.toNat v) = v := by
  cases w
  · exact UInt8.ofNat_toNat
  · exact UInt32.ofNat_toNat
  · exact UInt64.ofNat_toNat

end Width

mutual
/-- What a value on the wire looks like. -/
inductive Shape
  /-- A number. -/
  | number (width : Width)
  | flag
  | text
  /-- A text that is an identity. -/
  | identity
  /-- A block of `size` octets, sent as a list of numbers. -/
  | block (size : Nat)
  | list (item : Shape)
  | record (fields : Fields)
  | choice (variants : Variants)

/-- The fields of a record, in order. -/
inductive Fields
  | empty
  | field (name : String) (shape : Shape) (rest : Fields)

/-- The variants of a choice, in order. -/
inductive Variants
  | empty
  /-- A variant without fields, sent as its name alone. -/
  | bare (name : String) (rest : Variants)
  /-- A variant with fields, sent as a table of one entry. -/
  | fields (name : String) (fields : Fields) (rest : Variants)
end

mutual
@[reducible] def Shape.Value : Shape → Type
  | .number w => w.Carrier
  | .flag => Bool
  | .text => String
  | .identity => Identity
  | .block n => Block n
  | .list s => List s.Value
  | .record fs => fs.Values
  | .choice vs => vs.Value

@[reducible] def Fields.Values : Fields → Type
  | .empty => Unit
  | .field _ s fs => s.Value × fs.Values

@[reducible] def Variants.Value : Variants → Type
  | .empty => Empty
  | .bare _ vs => Unit ⊕ vs.Value
  | .fields _ fs vs => fs.Values ⊕ vs.Value
end

namespace Fields

def count : Fields → Nat
  | .empty => 0
  | .field _ _ fs => fs.count + 1

/-- For each field its value, or nothing yet. -/
@[reducible] def Slots : Fields → Type
  | .empty => Unit
  | .field _ s fs => Option s.Value × fs.Slots

def noSlots : (fs : Fields) → fs.Slots
  | .empty => ()
  | .field _ _ fs => (none, fs.noSlots)

/-- The values of slots that are all full. -/
def complete? : (fs : Fields) → fs.Slots → Option fs.Values
  | .empty, () => some ()
  | .field _ _ fs, (slot, slots) => do
    let v ← slot
    let vs ← fs.complete? slots
    return (v, vs)

end Fields

end DeviceSync.Wire
