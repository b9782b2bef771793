import DeviceSync.Bytes.Basic
import DeviceSync.Text.Scan
import DeviceSync.Toml.Basic

/-!
# TOML numbers and dates

Digits may be grouped by single underscores. Integers have 64 bits; a fraction too large to be one is
refused, but not a negative one. Dates and times must exist in the calendar.

`integerText?` writes an integer.
-/

namespace DeviceSync.Toml

open DeviceSync.Text

/-! ## Digits -/

def digit (base : Nat) : Scan Nat := do
  let d ← Scan.some? (Bytes.hexValue? (← Scan.anyChar))
  Scan.guard (d < base)
  return d

/-- Digits in a base, with single underscores between them. -/
def digits (base : Nat) : Scan (List Nat) := do
  let d ← digit base
  let ds ← Scan.many (digit base <|> do Scan.literal ['_']; digit base)
  return d :: ds

def ofDigits (base : Nat) (ds : List Nat) : Nat := ds.foldl (fun n d => base * n + d) 0

/-- A sign, if there is one; true for a minus. -/
def sign : Scan Bool :=
  (do Scan.literal ['-']; return true) <|> (do Scan.literal ['+']; return false) <|> pure false

/-- Decimal digits without a leading zero. -/
def wholeDigits : Scan (List Nat) := do
  match ← Scan.peek with
  | some '0' => let _ ← Scan.anyChar; return [0]
  | _ => digits 10

/-! ## Integers -/

/-- The integers that are numbers of the format. -/
def isInteger (n : Int) : Bool := -0x8000000000000000 ≤ n && n < 0x8000000000000000

/-- The integer with a given sign, if it is one of the format. -/
def integer? (negative : Bool) (n : Nat) : Option Toml :=
  let value : Int := if negative then -n else n
  if isInteger value then some (integer value) else none

/-- An integer: hexadecimal, octal or binary after a mark, else decimal with an optional sign. -/
def anyInteger : Scan Toml :=
  (do Scan.literal ['0', 'x']; Scan.some? (integer? false (ofDigits 16 (← digits 16)))) <|>
  (do Scan.literal ['0', 'o']; Scan.some? (integer? false (ofDigits 8 (← digits 8)))) <|>
  (do Scan.literal ['0', 'b']; Scan.some? (integer? false (ofDigits 2 (← digits 2)))) <|>
  (do
    let negative ← sign
    Scan.some? (integer? negative (ofDigits 10 (← wholeDigits))))

/-- A natural number as it is written, if it is an integer of the format. -/
def integerText? (n : Nat) : Option String := if isInteger n then some (toString n) else none

/-! ## Fractions -/

/-- Whether `n` times ten to the given power is too large for a 64-bit fraction: it would be rounded to
two to the power of 1024 or more. -/
def isOverflow (n : Nat) (power : Int) : Bool :=
  let size : Int := (Nat.toDigits 10 n).length + power
  if n = 0 || size ≤ 308 then false
  else if 310 ≤ size then true
  else
    let limit := (1 <<< 1024) - (1 <<< 970)
    match power with
    | .ofNat p => limit ≤ n * Nat.pow 10 p
    | .negSucc p => limit * Nat.pow 10 (p + 1) ≤ n

def exponent : Scan Int := do
  Scan.literal ['e'] <|> Scan.literal ['E']
  let negative ← sign
  let n := ofDigits 10 (← digits 10)
  return if negative then -n else n

/-- A number with a fraction or an exponent. -/
def decimalFloat : Scan Toml := do
  let negative ← sign
  let whole ← wholeDigits
  let (fraction, power) ←
    (do return ([], ← exponent)) <|>
    (do
      Scan.literal ['.']
      let fraction ← digits 10
      return (fraction, (← Scan.optional exponent).getD 0))
  Scan.guard (negative || !isOverflow (ofDigits 10 (whole ++ fraction)) (power - fraction.length))
  return float

/-- A fraction, infinity, or the mark of no number. -/
def anyFloat : Scan Toml :=
  decimalFloat <|> (do
    let _ ← sign
    Scan.literal ['i', 'n', 'f'] <|> Scan.literal ['n', 'a', 'n']
    return float)

/-! ## Dates and times -/

/-- Exactly `n` decimal digits, as a number. -/
def fixedDigits : (n : Nat) → (value : Nat) → Scan Nat
  | 0, value => pure value
  | n + 1, value => do fixedDigits n (10 * value + (← digit 10))

/-- A number of two digits within bounds. -/
def pair (low high : Nat) : Scan Nat := do
  let n ← fixedDigits 2 0
  Scan.guard (low ≤ n && n ≤ high)
  return n

/-- The number of days of a month. -/
def daysOf (year month : Nat) : Nat :=
  if month = 2 then
    if year % 4 = 0 && (year % 100 != 0 || year % 400 = 0) then 29 else 28
  else if month = 4 || month = 6 || month = 9 || month = 11 then 30 else 31

def date : Scan Unit := do
  let year ← fixedDigits 4 0
  Scan.literal ['-']
  let month ← pair 1 12
  Scan.literal ['-']
  let _ ← pair 1 (daysOf year month)

/-- A time of day, with seconds and perhaps a fraction of one. -/
def time : Scan Unit := do
  let _ ← pair 0 23
  Scan.literal [':']
  let _ ← pair 0 59
  Scan.literal [':']
  let _ ← pair 0 60
  let _ ← Scan.optional do
    Scan.literal ['.']
    let _ ← Scan.span1 Char.isDigit

/-- The distance from universal time. -/
def offset : Scan Unit :=
  Scan.literal ['Z'] <|> Scan.literal ['z'] <|> do
    Scan.literal ['+'] <|> Scan.literal ['-']
    let _ ← pair 0 23
    Scan.literal [':']
    let _ ← pair 0 59

/-- A date with or without a time, or a time alone. -/
def anyMoment : Scan Toml :=
  (do
    date
    let _ ← Scan.optional do
      Scan.literal ['T'] <|> Scan.literal ['t'] <|> Scan.literal [' ']
      time
      let _ ← Scan.optional offset
    return moment) <|>
  (do time; return moment)

def anyNumber : Scan Toml := anyMoment <|> anyFloat <|> anyInteger

end DeviceSync.Toml
