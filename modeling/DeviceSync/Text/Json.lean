import DeviceSync.Bytes.Basic
import DeviceSync.Text.Scan

/-!
# JSON

Values in the notation of JSON. Of numbers, only those are kept that are written as integers and are no
negative zero. A text with half of a pair of surrogates is well formed, but stands for no text.
-/

namespace DeviceSync.Text

/-- A value. -/
inductive JsonValue
  | null
  | flag (b : Bool)
  | integer (n : Int)
  /-- A number in another form. -/
  | number
  /-- A text, if it stands for one. -/
  | text (s : Option String)
  | list (items : List JsonValue)
  | object (entries : List (Option String × JsonValue))

namespace JsonValue

/-- Space between the parts of a value. -/
def space : Scan Unit := do
  let _ ← Scan.span fun c => c = ' ' || c = '\n' || c = '\t' || c = '\r'

/-! ## Texts -/

/-- Exactly four hexadecimal digits, as a number. -/
def fourDigits : Scan Nat := do
  let a ← digit
  let b ← digit
  let c ← digit
  let d ← digit
  return ((a * 16 + b) * 16 + c) * 16 + d
where
  /-- A hexadecimal digit. -/
  digit : Scan Nat := do Scan.some? (Bytes.hexValue? (← Scan.anyChar))

/-- A part of a text: a character, or half of a pair of surrogates. -/
inductive Unit16
  | char (c : Char)
  | high (n : Nat)
  | low (n : Nat)

/-- What an escape stands for, after the backslash. -/
def escape : Scan Unit16 := do
  match ← Scan.anyChar with
  | '"' => return .char '"'
  | '\\' => return .char '\\'
  | '/' => return .char '/'
  | 'b' => return .char '\x08'
  | 'f' => return .char '\x0c'
  | 'n' => return .char '\n'
  | 'r' => return .char '\r'
  | 't' => return .char '\t'
  | 'u' =>
    let n ← fourDigits
    return if 0xd800 ≤ n && n < 0xdc00 then .high (n - 0xd800)
      else if 0xdc00 ≤ n && n < 0xe000 then .low (n - 0xdc00)
      else .char (Char.ofNat n)
  | _ => Scan.fail

/-- The parts of a text after its opening quote. The number bounds them. -/
def parts : Nat → Scan (List Unit16)
  | 0 => Scan.fail
  | n + 1 => do
    match ← Scan.anyChar with
    | '"' => return []
    | '\\' => return (← escape) :: (← parts n)
    | c => if c < ' ' then Scan.fail else return .char c :: (← parts n)

/-- The characters that parts stand for, if the halves are paired. -/
def paired? : List Unit16 → Option (List Char)
  | [] => some []
  | .char c :: rest => (paired? rest).map (c :: ·)
  | .high h :: .low l :: rest => (paired? rest).map (Char.ofNat (0x10000 + h * 0x400 + l) :: ·)
  | _ => none

def string : Scan (Option String) := do
  Scan.literal ['"']
  fun cs => ((fun ps => (paired? ps).map String.ofList) <$> parts cs.length) cs

/-! ## Numbers -/

/-- Decimal digits, at least one. -/
def digits : Scan (List Char) := Scan.span1 Char.isDigit

def ofDigits (ds : List Char) : Nat := ds.foldl (fun n d => 10 * n + (d.toNat - 48)) 0

def anyNumber : Scan JsonValue := do
  let negative ← Scan.optional (Scan.literal ['-'])
  let whole ← digits
  Scan.guard (whole = ['0'] || whole.head? != some '0')
  let fraction ← Scan.optional do
    Scan.literal ['.']
    digits
  let exponent ← Scan.optional do
    Scan.literal ['e'] <|> Scan.literal ['E']
    let _ ← Scan.optional (Scan.literal ['+'] <|> Scan.literal ['-'])
    digits
  let n := ofDigits whole
  return match negative, fraction, exponent with
    | none, none, none => integer n
    | some (), none, none => if n = 0 then number else integer (-n)
    | _, _, _ => number

/-! ## Values -/

def anyList (item : Scan JsonValue) : Scan JsonValue := do
  Scan.literal ['[']
  let items ← Scan.separated (do space; let v ← item; space; return v) (Scan.literal [','])
  space
  Scan.literal [']']
  return list items

def anyObject (value : Scan JsonValue) : Scan JsonValue := do
  Scan.literal ['\x7b']
  let entries ← Scan.separated
    (do
      space
      let key ← string
      space
      Scan.literal [':']
      space
      let v ← value
      space
      return (key, v))
    (Scan.literal [','])
  space
  Scan.literal ['\x7d']
  return object entries

/-- A value in which others stand in each other no deeper than the given number. -/
def anyValue : (levels : Nat) → Scan JsonValue
  | 0 => Scan.fail
  | levels + 1 =>
    (do Scan.literal "null".toList; return null) <|>
    (do Scan.literal "true".toList; return flag true) <|>
    (do Scan.literal "false".toList; return flag false) <|>
    (do return text (← string)) <|>
    anyNumber <|>
    anyList (anyValue levels) <|>
    anyObject (anyValue levels)

/-- Reads a value, with nothing but space around it. -/
def read? (s : String) : Option JsonValue :=
  let cs := s.toList
  Scan.all (do space; let v ← anyValue (cs.length + 1); space; return v) cs

end JsonValue

end DeviceSync.Text
