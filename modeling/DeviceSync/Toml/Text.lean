import DeviceSync.Bytes.Basic
import DeviceSync.Text.Scan

/-!
# TOML text

Texts are written in four forms: between double quotes, with escapes, or between single quotes, as they
stand; and each of these on one line or, between threefold quotes, on several.

`quote` writes a text in the first form that suits it.
-/

namespace DeviceSync.Toml

open DeviceSync.Text

/-! ## Characters -/

/-- Whether a character may stand in a text or a comment as it is: no control character but the tab. -/
def isPlain (c : Char) : Bool := c = '\t' || (' ' ≤ c && c ≠ '\x7f')

/-- Whether a character is space within a line. -/
def isSpace (c : Char) : Bool := c = ' ' || c = '\t'

def newline : Scan Unit := Scan.literal ['\n'] <|> Scan.literal ['\r', '\n']

/-- Space within a line. -/
def space : Scan Unit := do let _ ← Scan.span isSpace

/-- The number that exactly `n` hexadecimal digits stand for. -/
def hexNumber : (n : Nat) → (value : Nat) → Scan Nat
  | 0, value => pure value
  | n + 1, value => do
    let c ← Scan.anyChar
    hexNumber n (16 * value + (← Scan.some? (Bytes.hexValue? c)))

/-- The character with a given code point, if there is one. -/
def charOf? (n : Nat) : Option Char := if n.isValidChar then some (Char.ofNat n) else none

/-- The character that an escape stands for, after the backslash. -/
def escape : Scan Char := do
  match ← Scan.anyChar with
  | 'b' => return '\x08'
  | 't' => return '\t'
  | 'n' => return '\n'
  | 'f' => return '\x0c'
  | 'r' => return '\r'
  | '"' => return '"'
  | '\\' => return '\\'
  | 'u' => Scan.some? (charOf? (← hexNumber 4 0))
  | 'U' => Scan.some? (charOf? (← hexNumber 8 0))
  | _ => Scan.fail

/-! ## Reading -/

/-- The rest of a text after its opening quote, on one line. The number bounds the characters. -/
def restOfLine (quote : Char) (escapes : Bool) : Nat → Scan (List Char)
  | 0 => Scan.fail
  | n + 1 => do
    let c ← Scan.anyChar
    if c = quote then return []
    else if escapes && c = '\\' then return (← escape) :: (← restOfLine quote escapes n)
    else if isPlain c then return c :: (← restOfLine quote escapes n)
    else Scan.fail

/-- A backslash at the end of a line joins the next line, without the space and the empty lines before
it. -/
def joint : Scan Unit := do
  space
  newline
  let _ ← Scan.many (newline <|> do let _ ← Scan.span1 isSpace)

/-- The rest of a text after its opening threefold quote. Up to two quotes are part of the text, also
just before the closing three. The number bounds the characters. -/
def restOfLines (quote : Char) (escapes : Bool) : Nat → Scan (List Char)
  | 0 => Scan.fail
  | n + 1 => do
    match ← Scan.peek with
    | none => Scan.fail
    | some c =>
      if c = quote then
        let run ← Scan.span (· = quote)
        if run.length ≤ 2 then return run ++ (← restOfLines quote escapes n)
        else if run.length ≤ 5 then return run.drop 3
        else Scan.fail
      else if escapes && c = '\\' then
        Scan.literal ['\\']
        match ← Scan.optional joint with
        | some () => restOfLines quote escapes n
        | none => return (← escape) :: (← restOfLines quote escapes n)
      else if isPlain c then
        return (← Scan.anyChar) :: (← restOfLines quote escapes n)
      else
        newline
        return '\n' :: (← restOfLines quote escapes n)

def lineText (quote : Char) (escapes : Bool) : Scan String := do
  Scan.literal [quote]
  fun cs => (String.ofList <$> restOfLine quote escapes cs.length) cs

/-- A text on several lines. A line end just after the opening quotes does not count. -/
def linesText (quote : Char) (escapes : Bool) : Scan String := do
  Scan.literal [quote, quote, quote]
  let _ ← Scan.optional newline
  fun cs => (String.ofList <$> restOfLines quote escapes cs.length) cs

def anyText : Scan String :=
  linesText '"' true <|> lineText '"' true <|> linesText '\'' false <|> lineText '\'' false

/-- A text that may stand as a key. -/
def keyText : Scan String := lineText '"' true <|> lineText '\'' false

/-! ## Writing -/

def fourDigits (n : Nat) : List Char :=
  let digits := (Nat.toDigits 16 n).map Char.toUpper
  List.replicate (4 - digits.length) '0' ++ digits

/-- Whether a character can only be written with an escape. -/
def isCoded (c : Char) : Bool := !isPlain c && c ≠ '\n'

/-- A character between double quotes, other than the quote; `lines` says that line ends stay. -/
def written (lines : Bool) (c : Char) : List Char :=
  if c = '\x08' then ['\\', 'b']
  else if c = '\t' then ['\\', 't']
  else if c = '\x0c' then ['\\', 'f']
  else if c = '\r' then ['\\', 'r']
  else if c = '\\' then ['\\', '\\']
  else if c = '\n' then if lines then ['\n'] else ['\\', 'n']
  else if isCoded c then ['\\', 'u'] ++ fourDigits c.toNat
  else [c]

/-- The characters between double quotes: of a run of quotes, each that follows `allowed` others is
escaped. `run` counts the quotes just before. -/
def escaped (lines : Bool) (allowed : Nat) : (run : Nat) → List Char → List Char
  | _, [] => []
  | run, c :: cs =>
    if c = '"' then
      if run < allowed then '"' :: escaped lines allowed (run + 1) cs
      else '\\' :: '"' :: escaped lines allowed 0 cs
    else written lines c ++ escaped lines allowed 0 cs

/-- The longest run of a character; `run` counts those just before. -/
def longestRun (q : Char) : (run : Nat) → List Char → Nat
  | run, [] => run
  | run, c :: cs => if c = q then longestRun q (run + 1) cs else max run (longestRun q 0 cs)

/-- What is written in the opening line of a text on several lines, if it needs them. -/
def opening (cs : List Char) : List Char := if cs.contains '\n' then ['\n'] else []

/-- A text in the first form that suits it: between double quotes where nothing needs an escape; between
single quotes; on several lines; with escapes. -/
def quoteChars (cs : List Char) : List Char :=
  let double := ['"', '"', '"']
  let single := ['\'', '\'', '\'']
  let coded := cs.any isCoded
  let lines := cs.contains '\n'
  let backslash := cs.contains '\\'
  if !coded && !backslash && !cs.contains '"' && !lines then ['"'] ++ escaped false 0 0 cs ++ ['"']
  else if !coded && !cs.contains '\'' && !lines then ['\''] ++ cs ++ ['\'']
  else if !coded && !backslash && longestRun '"' 0 cs ≤ 2 then
    double ++ opening cs ++ escaped true 2 0 cs ++ double
  else if !coded && longestRun '\'' 0 cs ≤ 2 then single ++ opening cs ++ cs ++ single
  else if lines then double ++ opening cs ++ escaped true 2 0 cs ++ double
  else ['"'] ++ escaped false 0 0 cs ++ ['"']

/-- A text in the first form that suits it. -/
def quote (s : String) : String := String.ofList (quoteChars s.toList)

end DeviceSync.Toml
