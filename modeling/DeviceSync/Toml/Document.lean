import DeviceSync.Toml.Number
import DeviceSync.Toml.Text

/-!
# TOML documents

A document consists of lines: comments, headers and assignments. The assignments before the first header
belong to the document itself, the others to the table that the header before them opens.

`read?` reads a document into its entries.
-/

namespace DeviceSync.Toml

open DeviceSync.Text

/-! ## Values -/

/-- A comment, up to the end of its line. -/
def comment : Scan Unit := do
  Scan.literal ['#']
  let _ ← Scan.span isPlain

/-- Space, comments and line ends between the parts of a list. -/
def blank : Scan Unit := do
  let _ ← Scan.many ((do let _ ← Scan.span1 isSpace) <|> newline <|> (do comment; newline))

/-- Whether a character may stand in a key without quotes. -/
def isBare (c : Char) : Bool := c.isAlphanum || c = '_' || c = '-'

/-- One part of a key. -/
def keyPart : Scan String := do
  space
  let part ← keyText <|> (do return String.ofList (← Scan.span1 isBare))
  space
  return part

/-- How deep lists and inline tables may stand in each other, and how many parts a key may have. -/
def maxLevels : Nat := 79

/-- A key: the parts before the last, and the last. -/
def key : Scan (List String × String) := do
  let first ← keyPart
  let more ← Scan.many (do Scan.literal ['.']; keyPart)
  let parts := first :: more
  Scan.guard (parts.length ≤ maxLevels)
  return (parts.dropLast, parts.getLast (by simp [parts]))

def assignment (value : Scan Toml) : Scan Assignment := do
  let (way, last) ← key
  Scan.literal ['=']
  space
  return ⟨way, last, ← value⟩

/-- A list, given its values. A comma may follow the last one. -/
def anyList (value : Scan Toml) : Scan Toml := do
  Scan.literal ['[']
  let items ← Scan.separated (do blank; let v ← value; blank; return v) (Scan.literal [','])
  let _ ← Scan.optional (do Scan.guard (!items.isEmpty); Scan.literal [','])
  blank
  Scan.literal [']']
  return list items

/-- An inline table, given its values: on one line, and without a comma after the last entry. -/
def anyInlineTable (value : Scan Toml) : Scan Toml := do
  Scan.literal ['\x7b']
  let assignments ← Scan.separated (do let a ← assignment value; space; return a) (Scan.literal [','])
  space
  Scan.literal ['\x7d']
  Scan.some? (inlineTable? assignments)

def anyFlag : Scan Toml :=
  (do Scan.literal "true".toList; return flag true) <|>
  (do Scan.literal "false".toList; return flag false)

/-- A value in which lists and tables stand in each other no deeper than the given number. -/
def anyValue : (levels : Nat) → Scan Toml
  | 0 => (do return text (← anyText)) <|> anyFlag <|> anyNumber
  | levels + 1 =>
    (do return text (← anyText)) <|> anyFlag <|> anyNumber <|>
    anyList (anyValue levels) <|> anyInlineTable (anyValue levels)

/-! ## Lines -/

/-- The end of a line that may hold a comment. -/
def lineEnd : Scan Unit := do
  space
  let _ ← Scan.optional comment
  newline <|> Scan.finished

/-- A header: one that opens a table, or the next table of a list. -/
structure Header where
  way : List String
  key : String
  isElement : Bool

def header : Scan Header :=
  (do
    Scan.literal ['[', '[']
    let (way, last) ← key
    Scan.literal [']', ']']
    return ⟨way, last, true⟩) <|>
  (do
    Scan.literal ['[']
    let (way, last) ← key
    Scan.literal [']']
    return ⟨way, last, false⟩)

/-- Lines that hold no more than space and comments. -/
def emptyLines : Scan Unit := do
  let _ ← Scan.many ((do let _ ← Scan.span1 isSpace) <|> newline <|>
    (do comment; newline <|> Scan.finished))

/-- Assignments, each on a line of its own, with the empty lines after them. -/
def assignments : Scan (List Assignment) :=
  Scan.many do
    let a ← assignment (anyValue maxLevels)
    lineEnd
    emptyLines
    return a

/-- A header with the assignments that belong to it. -/
def block : Scan (Header × List Assignment) := do
  let h ← header
  lineEnd
  emptyLines
  return (h, ← assignments)

/-- Adds the table of a block. -/
def Entries.addBlock (es : Entries) (b : Header × List Assignment) : Option Entries :=
  if b.1.isElement then es.openElement b.1.way b.1.key b.2 else es.openTable b.1.way b.1.key b.2

def document : Scan Entries := do
  let _ ← Scan.optional (Scan.literal ['\ufeff'])
  emptyLines
  let top ← assignments
  let blocks ← Scan.many block
  Scan.finished
  Scan.some? do
    let es ← Entries.assignAll [] top
    blocks.foldlM (fun es b => Entries.addBlock es b) es

def read? (s : String) : Option Entries := document.all s.toList

end DeviceSync.Toml
