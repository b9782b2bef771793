import DeviceSync.Bytes.Basic

/-!
# Names of tasks

A task is named by sixteen octets (a UUID). Its text has five groups of hexadecimal digits. Read are,
with digits in either case: the groups with their hyphens, by themselves, in braces or after
`urn:uuid:`, and the digits without hyphens.
-/

namespace DeviceSync

/-- The name of a task. -/
structure TaskId where
  block : Block 16
deriving DecidableEq

namespace TaskId

/-- Digits with a hyphen after the eighth, twelfth, sixteenth and twentieth. -/
def hyphenate (cs : List Char) : List Char :=
  cs.take 8 ++ '-' :: (cs.drop 8).take 4 ++ '-' :: (cs.drop 12).take 4 ++
    '-' :: (cs.drop 16).take 4 ++ '-' :: cs.drop 20

def toText (t : TaskId) : String := String.ofList (hyphenate (Bytes.toHexDigits t.block.bytes))

instance : ToString TaskId := ⟨toText⟩

/-- The name that thirty-two digits give. -/
def ofDigits? (cs : List Char) : Option TaskId := do
  let bs ← Bytes.ofHexDigits? cs
  let block ← Block.ofBytes? 16 bs
  return ⟨block⟩

/-- The digits of a text that has its hyphens in the right places. -/
def unhyphenate? (cs : List Char) : Option (List Char) :=
  let digits := cs.filter (· != '-')
  if hyphenate digits = cs ∧ digits.length = 32 then some digits else none

/-- The text between braces. -/
def unbrace? : List Char → Option (List Char)
  | '\x7b' :: cs => if cs.getLast? = some '\x7d' then some cs.dropLast else none
  | _ => none

/-- The text after the mark of a resource name, in either case. -/
def afterMark? (cs : List Char) : Option (List Char) :=
  if (cs.take 9).map Char.toLower = "urn:uuid:".toList then some (cs.drop 9) else none

def ofText? (s : String) : Option TaskId :=
  let cs := s.toList
  match unhyphenate? cs with
  | some digits => ofDigits? digits
  | none =>
    match unbrace? cs <|> afterMark? cs with
    | some inner => (unhyphenate? inner).bind ofDigits?
    | none => ofDigits? cs

end TaskId

end DeviceSync
