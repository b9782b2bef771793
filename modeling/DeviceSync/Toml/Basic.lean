/-!
# TOML values

A table is a list of entries with distinct keys. How a table came about decides what may still be added
to it: a table that a header opened, one that a longer header implies, one that a dotted key implies, and
an inline table, which is complete as it stands.

Of numbers with a fraction and of dates only the kind is kept: nothing here reads more of them.
-/

namespace DeviceSync

/-- How a table came about. -/
inductive TableOrigin
  | header
  /-- Named only as a part of a longer header. -/
  | implied
  /-- Named only as a part of a dotted key. -/
  | dotted
  | inline
deriving DecidableEq

/-- A value. -/
inductive Toml
  | text (s : String)
  | integer (n : Int)
  | float
  | flag (b : Bool)
  /-- A date, a time, or both. -/
  | moment
  | list (items : List Toml)
  | table (origin : TableOrigin) (entries : List (String × Toml))
  /-- The tables that headers in double brackets opened, in order. -/
  | tables (elements : List (List (String × Toml)))

namespace Toml

abbrev Entries := List (String × Toml)

/-- The value of a key. -/
def Entries.get? (es : Entries) (key : String) : Option Toml :=
  (es.find? (·.1 == key)).map (·.2)

/-- Gives a key a new value, which may hang on the value that it has; nothing is changed where there is
no new value. -/
def Entries.alter (es : Entries) (key : String) (f : Option Toml → Option Toml) : Option Entries :=
  match es with
  | [] => (f none).map fun v => [(key, v)]
  | (k, old) :: es =>
    if k = key then (f (some old)).map fun v => (k, v) :: es
    else (Entries.alter es key f).map fun es => (k, old) :: es

/-- Works on the last element of a list, if there is one. -/
def onLast {α : Type} (f : α → Option α) : List α → Option (List α)
  | [] => none
  | [a] => (f a).map fun a => [a]
  | a :: as => (onLast f as).map fun as => a :: as

/-- Adds an entry under a dotted key. The tables on the way are those that dotted keys imply; the way
may lead through a table that a header implies, but not end there. -/
def Entries.assign (es : Entries) (way : List String) (key : String) (value : Toml) : Option Entries :=
  match way with
  | [] => es.alter key fun old => if old.isNone then some value else none
  | k :: way => es.alter k fun
    | none => (Entries.assign [] way key value).map (table .dotted)
    | some (table origin inner) =>
      if origin = .dotted ∨ (origin = .implied ∧ way ≠ []) then
        (Entries.assign inner way key value).map (table origin)
      else none
    | some (tables elements) =>
      if way = [] then none else (onLast (Entries.assign · way key value) elements).map tables
    | some _ => none

/-- Works on the value at the end of a header. The tables on the way may have come about in any way that
leaves them open; those that do not exist yet are implied. -/
def Entries.descend (es : Entries) (way : List String) (key : String)
    (f : Option Toml → Option Toml) : Option Entries :=
  match way with
  | [] => es.alter key f
  | k :: way => es.alter k fun
    | none => (Entries.descend [] way key f).map (table .implied)
    | some (table origin inner) =>
      if origin = .inline then none else (Entries.descend inner way key f).map (table origin)
    | some (tables elements) => (onLast (Entries.descend · way key f) elements).map tables
    | some _ => none

/-- A key with its value, as written. -/
structure Assignment where
  way : List String
  key : String
  value : Toml

/-- Adds entries, in order. -/
def Entries.assignAll (es : Entries) (assignments : List Assignment) : Option Entries :=
  assignments.foldlM (fun es a => es.assign a.way a.key a.value) es

/-- An inline table with the given entries, if they do not contradict each other. -/
def inlineTable? (assignments : List Assignment) : Option Toml :=
  (Entries.assignAll [] assignments).map (table .inline)

/-- Opens a table at a header, with entries. A table may be opened once, also after a longer header
implied it. -/
def Entries.openTable (es : Entries) (way : List String) (key : String)
    (assignments : List Assignment) : Option Entries :=
  es.descend way key fun
    | none => (Entries.assignAll [] assignments).map (table .header)
    | some (table .implied inner) => (Entries.assignAll inner assignments).map (table .header)
    | some _ => none

/-- Opens the next table of a list of tables, with entries. -/
def Entries.openElement (es : Entries) (way : List String) (key : String)
    (assignments : List Assignment) : Option Entries :=
  es.descend way key fun
    | none => (Entries.assignAll [] assignments).map fun t => tables [t]
    | some (tables elements) =>
      (Entries.assignAll [] assignments).map fun t => tables (elements ++ [t])
    | some _ => none

end Toml

end DeviceSync
