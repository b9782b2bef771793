import DeviceSync.Wire.Head
import DeviceSync.Wire.Shape

/-!
# Encoding

The one encoding that this library writes: a record is the list of its fields in order, a variant with
fields a table whose only entry maps its name to the list of its fields, a bare variant its name, a
block the list of its octets as numbers, and every number and length has its shortest form.
-/

namespace DeviceSync.Wire

/-- A text: its head and its UTF-8 octets. -/
def writeText (s : String) : Bytes :=
  let bs := Bytes.ofText s
  Head.writeText bs.length ++ bs

/-- A list of octets, each as a number. -/
def writeOctets (bs : Bytes) : Bytes :=
  Head.writeList bs.length ++ bs.flatMap fun b => Head.writeWhole b.toNat

/-- The head of a table with one entry. -/
def tableOfOne : UInt8 := 0x81

mutual
def Shape.write : (s : Shape) → s.Value → Bytes
  | .number w, v => Head.writeWhole (w.toNat v)
  | .flag, v => [if v then 0xc3 else 0xc2]
  | .text, v => writeText v
  | .identity, v => writeText v.text
  | .block _, v => writeOctets v.bytes
  | .list s, v => Head.writeList v.length ++ v.flatMap s.write
  | .record fs, v => Head.writeList fs.count ++ fs.write v
  | .choice vs, v => vs.write v

/-- The encodings of the fields, one after the other. -/
def Fields.write : (fs : Fields) → fs.Values → Bytes
  | .empty, () => []
  | .field _ s fs, (v, vs) => s.write v ++ fs.write vs

def Variants.write : (vs : Variants) → vs.Value → Bytes
  | .empty, v => nomatch v
  | .bare name _, .inl () => writeText name
  | .bare _ vs, .inr v => vs.write v
  | .fields name fs _, .inl v =>
    tableOfOne :: writeText name ++ Head.writeList fs.count ++ fs.write v
  | .fields _ _ vs, .inr v => vs.write v
end

end DeviceSync.Wire
