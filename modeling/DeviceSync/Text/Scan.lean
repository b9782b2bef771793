/-!
# Scanning text

A scan reads characters from the front of a text: it succeeds with a result and the characters that are
left, or it fails. `orElse` tries the second scan from the same place, `many` repeats a scan as long as it
succeeds, and `span` takes the longest run of characters of a class.

Main statement: `span_append`, a run of characters that is followed by one outside the class is taken
exactly.
-/

namespace DeviceSync.Text

/-- A scan of the characters at the front of a text. -/
def Scan (α : Type) : Type := List Char → Option (α × List Char)

namespace Scan

variable {α β : Type}

def pure (a : α) : Scan α := fun cs => some (a, cs)

def bind (p : Scan α) (f : α → Scan β) : Scan β := fun cs =>
  match p cs with
  | some (a, rest) => f a rest
  | none => none

instance : Monad Scan where
  pure := Scan.pure
  bind := Scan.bind

def fail : Scan α := fun _ => none

/-- The first scan, or where it fails the second. -/
def orElse (p : Scan α) (q : Unit → Scan α) : Scan α := fun cs =>
  match p cs with
  | some r => some r
  | none => q () cs

instance : OrElse (Scan α) := ⟨orElse⟩

/-- The result of the scan where it succeeds, and nothing where it fails. -/
def optional (p : Scan α) : Scan (Option α) := fun cs =>
  match p cs with
  | some (a, rest) => some (some a, rest)
  | none => some (none, cs)

def anyChar : Scan Char
  | [] => none
  | c :: cs => some (c, cs)

/-- The next character, without taking it. -/
def peek : Scan (Option Char) := fun cs => some (cs.head?, cs)

def literal : List Char → Scan Unit
  | [], cs => some ((), cs)
  | _ :: _, [] => none
  | l :: ls, c :: cs => if l = c then literal ls cs else none

/-- The longest run of characters of a class. -/
def span (p : Char → Bool) : Scan (List Char) := fun cs => some (cs.takeWhile p, cs.dropWhile p)

/-- The longest run of characters of a class, at least one. -/
def span1 (p : Char → Bool) : Scan (List Char) := fun cs =>
  if cs.takeWhile p = [] then none else span p cs

def guard (b : Bool) : Scan Unit := if b then pure () else fail

/-- The contents of an option. -/
def some? : Option α → Scan α
  | some a => pure a
  | none => fail

/-- The scan at most `n` times, as long as it succeeds. -/
def times (p : Scan α) : Nat → Scan (List α)
  | 0, cs => some ([], cs)
  | n + 1, cs =>
    match p cs with
    | none => some ([], cs)
    | some (a, rest) =>
      match times p n rest with
      | some (as, rest) => some (a :: as, rest)
      | none => none

/-- The scan as long as it succeeds. Each success must take a character, so the number of characters
bounds the repetitions. -/
def many (p : Scan α) : Scan (List α) := fun cs => times p cs.length cs

/-- The results of a scan, with separators between them; none at all is allowed. -/
def separated (p : Scan α) (separator : Scan Unit) : Scan (List α) :=
  (do
    let a ← p
    let as ← many (do separator; p)
    return a :: as) <|> pure []

def finished : Scan Unit
  | [] => some ((), [])
  | _ :: _ => none

/-- The result of a scan that takes the whole text. -/
def all (p : Scan α) (cs : List Char) : Option α :=
  match p cs with
  | some (a, []) => some a
  | _ => none

@[simp] theorem bind_eq {p : Scan α} {f : α → Scan β} {cs : List Char} {a : α} {rest : List Char}
    (h : p cs = some (a, rest)) : (p >>= f) cs = f a rest := by
  simp [Bind.bind, Scan.bind, h]

@[simp] theorem pure_eq (a : α) (cs : List Char) : (Pure.pure a : Scan α) cs = some (a, cs) := rfl

theorem literal_append (l cs : List Char) : literal l (l ++ cs) = some ((), cs) := by
  induction l with
  | nil => rfl
  | cons c l ih => simpa [literal] using ih

theorem span_append {p : Char → Bool} {run rest : List Char} (hrun : ∀ c ∈ run, p c = true)
    (hrest : ∀ c, rest.head? = some c → p c = false) : span p (run ++ rest) = some (run, rest) := by
  have stops : rest.takeWhile p = [] ∧ rest.dropWhile p = rest := by
    cases rest with
    | nil => simp
    | cons c cs => simp [hrest c rfl]
  simp [span, List.takeWhile_append_of_pos hrun, List.dropWhile_append_of_pos hrun, stops]

end Scan

end DeviceSync.Text
