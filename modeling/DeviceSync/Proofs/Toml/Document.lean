import DeviceSync.Proofs.Toml.Number
import DeviceSync.Proofs.Toml.Text
import DeviceSync.Toml.Document

/-!
# Documents read back

1. `IsValue`: the characters that stand for a value at the end of a line. A text in quotes and a number in
   digits are such (`isValue_quote`, `isValue_integerText`).
2. `WrittenLine`, `WrittenTable`: a setting on a line of its own, and a table with its header. Each is taken
   where the next one begins (`repeats_lines`, `WrittenTable.Proper.takes_block`).
3. `WrittenTable.entry`: what a table adds to the entries of a document. A name that is not there yet comes
   last (`alter_of_fresh`), so names that differ never meet.
4. `read?_written`: a document of written tables is read as these tables, in order.
-/

namespace DeviceSync.Toml

open DeviceSync.Text
open Scan (Takes)

variable {cs rest written : List Char} {n : Nat} {v : Toml}

/-! ## 1. Values -/

theorem anyText_none (h : ∀ q, IsQuote q → cs.head? ≠ some q) : anyText cs = none := by
  have hdouble := h '"' (.inl rfl)
  have hsingle := h '\'' (.inr rfl)
  rw [anyText_of_single hdouble, Scan.orElse_right (linesText_none (Scan.literal_none hsingle)),
    lineText_none hsingle]

theorem head_of_anyText {r : String × List Char} (h : anyText cs = some r) :
    ∃ q, IsQuote q ∧ cs.head? = some q := by
  by_cases hnone : ∀ q, IsQuote q → cs.head? ≠ some q
  · exact nomatch (anyText_none hnone).symm.trans h
  · simpa using hnone

/-- What begins with a text is taken as one, however deep it stands. -/
theorem takes_textValue {s : String} (h : anyText.Takes written s rest) (levels : Nat) :
    (anyValue levels).Takes written (.text s) rest := by
  have htext : (do return .text (← anyText) : Scan Toml).Takes written (.text s) rest :=
    h.bind_nil (Scan.takes_pure _ _)
  cases levels with
  | zero => exact Scan.orElse_left htext
  | succ levels => exact Scan.orElse_left htext

theorem isSpace_iff {c : Char} : isSpace c = true ↔ c = ' ' ∨ c = '\t' := by
  simp only [isSpace, Bool.or_eq_true, decide_eq_true_eq]

theorem takes_numberValue (hnumeral : Numeral (written ++ rest)) (h : anyNumber.Takes written v rest)
    (levels : Nat) : (anyValue levels).Takes written v rest := by
  have htext : (do return .text (← anyText) : Scan Toml) (written ++ rest) = none := by
    refine Scan.bind_none (anyText_none ?_)
    rintro q (rfl | rfl)
    · exact hnumeral.head_ne (by decide) (by decide)
    · exact hnumeral.head_ne (by decide) (by decide)
  have hflag : anyFlag (written ++ rest) = none := by
    unfold anyFlag
    rw [Scan.orElse_right (Scan.bind_none (hnumeral.literal_none (by decide) (by decide))),
      Scan.bind_none (hnumeral.literal_none (by decide) (by decide))]
  cases levels with
  | zero =>
    unfold Takes anyValue
    rw [Scan.orElse_right htext, Scan.orElse_right hflag]
    exact h
  | succ levels =>
    unfold Takes anyValue
    rw [Scan.orElse_right htext, Scan.orElse_right hflag]
    exact Scan.orElse_left h

/-- The characters stand for the value at the end of a line. -/
structure IsValue (written : List Char) (v : Toml) : Prop where
  takes : ∀ rest, (anyValue maxLevels).Takes written v ('\n' :: rest)
  begins : ∀ c, written.head? = some c → isSpace c = false

theorem isValue_quote (s : String) : IsValue (quote s).toList (.text s) := by
  have hline (rest : List Char) : ∀ q, IsQuote q → ('\n' :: rest).head? ≠ some q := by
    rintro q (rfl | rfl)
    · exact nofun
    · exact nofun
  refine ⟨fun rest => takes_textValue (takes_quote s (hline rest)) _, fun c hc => ?_⟩
  obtain ⟨q, hq, hhead⟩ := head_of_anyText (takes_quote s (hline []))
  rw [List.head?_append, hc] at hhead
  obtain rfl := Option.some.inj hhead
  rcases hq with rfl | rfl
  · rfl
  · rfl

theorem isValue_integerText {s : String} (h : integerText? n = some s) :
    IsValue s.toList (.integer n) := by
  have hdigits := (integerText?_eq_some h).2
  refine ⟨fun rest => takes_numberValue ?_ (takes_integerText h rest) _, fun c hc => ?_⟩
  · rw [hdigits]
    exact numeral_toDigits n rest
  · rw [hdigits] at hc
    have hdigit : c.isDigit = true :=
      Nat.isDigit_of_mem_toDigits (by decide) (by decide) (List.mem_of_mem_head? hc)
    refine Bool.eq_false_iff.mpr fun hspace => ?_
    rcases isSpace_iff.mp hspace with rfl | rfl
    · exact nomatch hdigit
    · exact nomatch hdigit

/-! ## 2. Keys, lines and tables -/

/-- A name that needs no quotes. -/
structure IsName (name : String) : Prop where
  nonempty : name.toList ≠ []
  bare : ∀ c ∈ name.toList, isBare c = true

instance (name : String) : Decidable (IsName name) :=
  decidable_of_iff (name.toList ≠ [] ∧ name.toList.all isBare = true)
    ⟨fun h => ⟨h.1, List.all_eq_true.mp h.2⟩, fun h => ⟨h.nonempty, List.all_eq_true.mpr h.bare⟩⟩

theorem IsName.head {name : String} (h : IsName name) :
    ∃ c, name.toList.head? = some c ∧ isBare c = true := by
  cases hname : name.toList with
  | nil => exact absurd hname h.nonempty
  | cons c tail => exact ⟨c, rfl, h.bare c (hname ▸ List.mem_cons_self)⟩

theorem not_isBare_of_isSpace {c : Char} (h : isSpace c = true) : isBare c = false := by
  rcases isSpace_iff.mp h with rfl | rfl
  · rfl
  · rfl

theorem not_isSpace_of_isBare {c : Char} (h : isBare c = true) : isSpace c = false :=
  Bool.eq_false_iff.mpr fun hspace => nomatch (not_isBare_of_isSpace hspace).symm.trans h

theorem IsName.head_append {name : String} (h : IsName name) (tail : List Char) :
    ∀ c, (name.toList ++ tail).head? = some c → isBare c = true := by
  intro c hc
  obtain ⟨first, hfirst, hbare⟩ := h.head
  rw [List.head?_append, hfirst, Option.some_or] at hc
  exact Option.some.inj hc ▸ hbare

/-- A character that may begin neither a key nor the space before one. -/
def endsKeys (c : Char) : Bool := !isBare c && !isSpace c && c ≠ '"' && c ≠ '\'' && c ≠ '.'

theorem not_isBare_of_endsKeys {c : Char} (h : endsKeys c = true) : isBare c = false := by
  simp only [endsKeys, Bool.and_eq_true, Bool.not_eq_true'] at h
  exact h.1.1.1.1

theorem not_isSpace_of_endsKeys {c : Char} (h : endsKeys c = true) : isSpace c = false := by
  simp only [endsKeys, Bool.and_eq_true, Bool.not_eq_true'] at h
  exact h.1.1.1.2

theorem takes_space {gap : List Char} (hgap : ∀ c ∈ gap, isSpace c = true)
    (hrest : ∀ c, rest.head? = some c → isSpace c = false) : space.Takes gap () rest :=
  (Scan.takes_span hgap hrest).bind_nil (Scan.takes_pure _ _)

theorem keyText_none (h : ∀ q, IsQuote q → cs.head? ≠ some q) : keyText cs = none := by
  unfold keyText
  rw [Scan.orElse_right (lineText_none (h '"' (.inl rfl))), lineText_none (h '\'' (.inr rfl))]

theorem keyPart_none (h : ∀ c, cs.head? = some c → endsKeys c = true) : keyPart cs = none := by
  have hspace : space cs = some ((), cs) :=
    takes_space (List.forall_mem_nil _) fun c hc => not_isSpace_of_endsKeys (h c hc)
  have hquote : ∀ q, IsQuote q → cs.head? ≠ some q := by
    rintro q (rfl | rfl) hc
    · exact nomatch h _ hc
    · exact nomatch h _ hc
  have hbare : Scan.span1 isBare cs = none :=
    Scan.span1_none fun c hc => not_isBare_of_endsKeys (h c hc)
  unfold keyPart
  rw [Scan.bind_eq hspace]
  refine Scan.bind_none ?_
  rw [Scan.orElse_right (keyText_none hquote), Scan.bind_none hbare]

/-- A name is taken as it is, up to a character that cannot belong to it. -/
theorem takes_name {name : String} (hname : IsName name)
    (hrest : ∀ c, rest.head? = some c → isBare c = false) :
    (keyText <|> (do return String.ofList (← Scan.span1 isBare))).Takes name.toList name rest := by
  have hquote : ∀ q, IsQuote q → (name.toList ++ rest).head? ≠ some q := by
    rintro q (rfl | rfl) hc
    · exact nomatch hname.head_append rest _ hc
    · exact nomatch hname.head_append rest _ hc
  have hwhole : (Pure.pure (String.ofList name.toList) : Scan String).Takes [] name rest := by
    rw [String.ofList_toList]
    exact Scan.takes_pure name _
  unfold Takes
  rw [Scan.orElse_right (keyText_none hquote)]
  exact (Scan.takes_span1 hname.nonempty hname.bare hrest).bind_nil
    (f := fun cs => pure (String.ofList cs)) hwhole

theorem takes_keyPart {name : String} (hname : IsName name) {gap : List Char}
    (hgap : ∀ c ∈ gap, isSpace c = true) {mark : Char} (hmark : endsKeys mark = true) (tail : List Char) :
    keyPart.Takes (name.toList ++ gap) name (mark :: tail) := by
  have hopen : space.Takes [] () (name.toList ++ gap ++ mark :: tail) := by
    rw [List.append_assoc]
    exact takes_space (List.forall_mem_nil _) fun c hc => not_isSpace_of_isBare (hname.head_append _ c hc)
  have hend : ∀ c, (gap ++ mark :: tail).head? = some c → isBare c = false := by
    intro c hc
    cases gap with
    | nil => exact Option.some.inj hc ▸ not_isBare_of_endsKeys hmark
    | cons c' gap => exact Option.some.inj hc ▸ not_isBare_of_isSpace (hgap c' List.mem_cons_self)
  have hclose : space.Takes gap () (mark :: tail) :=
    takes_space hgap fun c hc => Option.some.inj hc ▸ not_isSpace_of_endsKeys hmark
  exact hopen.bind ((takes_name hname hend).bind (hclose.bind_nil (Scan.takes_pure name _)))

theorem takes_key {name : String} (hname : IsName name) {gap : List Char}
    (hgap : ∀ c ∈ gap, isSpace c = true) {mark : Char} (hmark : endsKeys mark = true) (tail : List Char) :
    key.Takes (name.toList ++ gap) ([], name) (mark :: tail) := by
  have hmore : (Scan.many (do Scan.literal ['.']; keyPart)).Takes [] [] (mark :: tail) := by
    refine Scan.Repeats.many (.stop (Scan.bind_none (Scan.literal_none ?_)))
    intro hdot
    obtain rfl := Option.some.inj hdot
    exact nomatch hmark
  exact (takes_keyPart hname hgap hmark tail).bind_nil (hmore.bind_nil rfl)

/-- A setting on a line, with as many empty lines after it. -/
structure WrittenLine where
  name : String
  written : List Char
  value : Toml
  emptyLines : Nat := 0

namespace WrittenLine

def text (l : WrittenLine) : List Char :=
  l.name.toList ++ [' '] ++ (['='] ++ ([' '] ++ l.written)) ++ (['\n'] ++ List.replicate l.emptyLines '\n')

def assignment (l : WrittenLine) : Assignment := ⟨[], l.name, l.value⟩

/-- The line has a name and a value. -/
structure Proper (l : WrittenLine) : Prop where
  name : IsName l.name
  value : IsValue l.written l.value

end WrittenLine

/-- Here a line with something on it begins, or the text ends. -/
def BeginsLine (rest : List Char) : Prop :=
  ∀ c, rest.head? = some c → isSpace c = false ∧ c ≠ '\n' ∧ c ≠ '\r' ∧ c ≠ '#'

theorem takes_emptyLines (h : BeginsLine rest) (n : Nat) :
    emptyLines.Takes (List.replicate n '\n') () rest := by
  have hstop : ((do let _ ← Scan.span1 isSpace) <|> newline <|>
      (do comment; newline <|> Scan.finished) : Scan Unit) rest = none := by
    have hspace := Scan.span1_none (p := isSpace) fun c hc => (h c hc).1
    have hline : newline rest = none := by
      unfold newline
      rw [Scan.orElse_right (Scan.literal_none fun hc => (h _ hc).2.1 rfl),
        Scan.literal_none fun hc => (h _ hc).2.2.1 rfl]
    have hcomment : comment rest = none :=
      Scan.bind_none (Scan.literal_none fun hc => (h _ hc).2.2.2 rfl)
    rw [Scan.orElse_right (Scan.bind_none hspace), Scan.orElse_right hline, Scan.bind_none hcomment]
  have hlines : Scan.Repeats ((do let _ ← Scan.span1 isSpace) <|> newline <|>
      (do comment; newline <|> Scan.finished) : Scan Unit) rest (List.replicate n '\n')
      (List.replicate n ()) := by
    induction n with
    | zero => exact .stop hstop
    | succ n ih =>
      show Scan.Repeats _ rest (['\n'] ++ List.replicate n '\n') (() :: List.replicate n ())
      exact .next rfl (List.cons_ne_nil _ _) ih
  exact hlines.many.bind_nil (Scan.takes_pure _ _)

theorem takes_lineEnd (rest : List Char) : lineEnd.Takes ['\n'] () rest := rfl

theorem WrittenLine.Proper.takes {l : WrittenLine} (h : l.Proper) (hrest : BeginsLine rest) :
    (do
      let a ← Toml.assignment (anyValue maxLevels)
      lineEnd
      Toml.emptyLines
      return a : Scan Assignment).Takes l.text l.assignment rest := by
  have hassignment : (Toml.assignment (anyValue maxLevels)).Takes
      (l.name.toList ++ [' '] ++ (['='] ++ ([' '] ++ l.written))) l.assignment
      (['\n'] ++ List.replicate l.emptyLines '\n' ++ rest) := by
    have hvalue : (do return ⟨[], l.name, ← anyValue maxLevels⟩ : Scan Assignment).Takes l.written
        l.assignment (['\n'] ++ List.replicate l.emptyLines '\n' ++ rest) :=
      (h.value.takes _).bind_nil rfl
    have hspace : space.Takes [' '] ()
        (l.written ++ (['\n'] ++ List.replicate l.emptyLines '\n' ++ rest)) := by
      refine takes_space (List.forall_mem_singleton.mpr rfl) fun c hc => ?_
      cases hwritten : l.written with
      | nil =>
        rw [hwritten] at hc
        obtain rfl := Option.some.inj hc
        rfl
      | cons c' cs =>
        rw [hwritten] at hc
        obtain rfl := Option.some.inj hc
        exact h.value.begins c' (by rw [hwritten, List.head?_cons])
    exact (takes_key h.name (List.forall_mem_singleton.mpr rfl) rfl _).bind
      ((Scan.takes_literal ['='] _).bind (hspace.bind hvalue))
  exact hassignment.bind ((takes_lineEnd _).bind ((takes_emptyLines hrest _).bind_nil rfl))

/-- Here a header begins, or the text ends. -/
def AtHeader (rest : List Char) : Prop := ∀ c, rest.head? = some c → c = '['

theorem AtHeader.beginsLine (h : AtHeader rest) : BeginsLine rest := by
  intro c hc
  obtain rfl := h c hc
  decide

theorem AtHeader.key_none (h : AtHeader rest) : key rest = none :=
  Scan.bind_none (keyPart_none fun c hc => by rw [h c hc]; rfl)

theorem beginsLine_of_isBare {c : Char} (hc : rest.head? = some c) (hbare : isBare c = true) :
    BeginsLine rest := by
  intro c' hc'
  obtain rfl := Option.some.inj (hc.symm.trans hc')
  refine ⟨not_isSpace_of_isBare hbare, ?_, ?_, ?_⟩
  · rintro rfl
    exact nomatch hbare
  · rintro rfl
    exact nomatch hbare
  · rintro rfl
    exact nomatch hbare

theorem WrittenLine.Proper.head_text {l : WrittenLine} (h : l.Proper) :
    ∃ c, l.text.head? = some c ∧ isBare c = true := by
  obtain ⟨c, hc, hbare⟩ := h.name.head
  refine ⟨c, ?_, hbare⟩
  unfold WrittenLine.text
  simp only [List.append_assoc, List.head?_append, hc, Option.some_or]

/-- After one line, another one begins, or a header. -/
theorem beginsLine_lines {lines : List WrittenLine} (hlines : ∀ l ∈ lines, l.Proper)
    (hrest : AtHeader rest) : BeginsLine (lines.flatMap WrittenLine.text ++ rest) := by
  cases lines with
  | nil => exact hrest.beginsLine
  | cons l lines =>
    obtain ⟨c, hc, hbare⟩ := (hlines l List.mem_cons_self).head_text
    refine beginsLine_of_isBare (c := c) ?_ hbare
    rw [List.flatMap_cons, List.append_assoc, List.head?_append, hc, Option.some_or]

theorem repeats_lines {lines : List WrittenLine} (hlines : ∀ l ∈ lines, l.Proper) (hrest : AtHeader rest) :
    Scan.Repeats (do
      let a ← Toml.assignment (anyValue maxLevels)
      lineEnd
      emptyLines
      return a : Scan Assignment) rest (lines.flatMap WrittenLine.text)
      (lines.map WrittenLine.assignment) := by
  induction lines with
  | nil => exact .stop (Scan.bind_none (Scan.bind_none hrest.key_none))
  | cons l lines ih =>
    obtain ⟨hl, hlines⟩ := List.forall_mem_cons.mp hlines
    have hsome : l.text ≠ [] := by
      obtain ⟨c, hc, -⟩ := hl.head_text
      exact List.ne_nil_of_mem (List.mem_of_mem_head? hc)
    exact .next (hl.takes (beginsLine_lines hlines hrest)) hsome (ih hlines)

/-- A table with its header. -/
structure WrittenTable where
  name : String
  lines : List WrittenLine

namespace WrittenTable

def text (t : WrittenTable) : List Char :=
  ['['] ++ (t.name.toList ++ [']']) ++ (['\n'] ++ t.lines.flatMap WrittenLine.text)

def block (t : WrittenTable) : Header × List Assignment :=
  (⟨[], t.name, false⟩, t.lines.map WrittenLine.assignment)

/-- The table has a name, and so have its lines. -/
structure Proper (t : WrittenTable) : Prop where
  name : IsName t.name
  lines : ∀ l ∈ t.lines, l.Proper

variable {t : WrittenTable}

theorem Proper.takes_header (h : t.Proper) (rest : List Char) :
    header.Takes (['['] ++ (t.name.toList ++ [']'])) ⟨[], t.name, false⟩ rest := by
  have hsingle : Scan.literal ['[', '['] (['['] ++ (t.name.toList ++ [']']) ++ rest) = none := by
    obtain ⟨c, hc, hbare⟩ := h.name.head
    rw [List.append_assoc, List.singleton_append, Scan.literal_cons]
    refine Scan.literal_none ?_
    rw [List.append_assoc, List.head?_append, hc, Option.some_or]
    intro hbracket
    obtain rfl := Option.some.inj hbracket
    exact absurd hbare (by decide)
  have hkey : key.Takes (t.name.toList ++ []) ([], t.name) (']' :: rest) :=
    takes_key h.name (List.forall_mem_nil _) rfl rest
  rw [List.append_nil] at hkey
  have hclose : (do Scan.literal [']']; return ⟨[], t.name, false⟩ : Scan Header).Takes [']']
      ⟨[], t.name, false⟩ rest := (Scan.takes_literal [']'] rest).bind_nil rfl
  unfold Takes header
  rw [Scan.orElse_right (Scan.bind_none hsingle)]
  exact (Scan.takes_literal ['['] _).bind (hkey.bind hclose)

theorem Proper.takes_block (h : t.Proper) (hrest : AtHeader rest) :
    Toml.block.Takes t.text t.block rest := by
  have hlines := (repeats_lines h.lines hrest).many
  exact (h.takes_header _).bind ((takes_lineEnd _).bind
    ((takes_emptyLines (beginsLine_lines h.lines hrest) 0).bind (hlines.bind_nil rfl)))

end WrittenTable

theorem atHeader_written (tables : List WrittenTable) : AtHeader (tables.flatMap WrittenTable.text) := by
  intro c hc
  cases tables with
  | nil => exact nomatch hc
  | cons t tables => exact (Option.some.inj hc).symm

/-! ## 3. Entries -/

def WrittenLine.entry (l : WrittenLine) : String × Toml := (l.name, l.value)

def WrittenTable.entry (t : WrittenTable) : String × Toml :=
  (t.name, .table .header (t.lines.map WrittenLine.entry))

/-- A key that is not there yet comes last. -/
theorem alter_of_fresh {es : Entries} {key : String} (hfresh : key ∉ es.map Prod.fst)
    (f : Option Toml → Option Toml) : es.alter key f = (f none).map fun v => es ++ [(key, v)] := by
  induction es with
  | nil => rfl
  | cons e es ih =>
    obtain ⟨hne, hfresh⟩ := not_or.mp (mt List.mem_cons.mpr hfresh)
    rw [Entries.alter, if_neg (Ne.symm hne), ih hfresh, Option.map_map]
    rfl

theorem assignAll_lines {lines : List WrittenLine} {es : Entries}
    (hdistinct : (es.map Prod.fst ++ lines.map WrittenLine.name).Nodup) :
    es.assignAll (lines.map WrittenLine.assignment) = some (es ++ lines.map WrittenLine.entry) := by
  induction lines generalizing es with
  | nil => rw [List.map_nil, List.map_nil, List.append_nil]; rfl
  | cons l lines ih =>
    have hfresh : l.name ∉ es.map Prod.fst := fun hmem =>
      (List.nodup_append.mp hdistinct).2.2 l.name hmem l.name List.mem_cons_self rfl
    have hassign : es.assign [] l.name l.value = some (es ++ [l.entry]) :=
      alter_of_fresh hfresh _
    have hrest := @ih (es ++ [l.entry]) (by
      rw [List.map_append, List.append_assoc]
      exact hdistinct)
    rw [List.append_assoc] at hrest
    unfold Entries.assignAll at *
    rw [List.map_cons, List.foldlM_cons]
    exact (congrArg (· >>= _) hassign).trans hrest

theorem addBlock_of_fresh {es : Entries} {t : WrittenTable} (hfresh : t.name ∉ es.map Prod.fst)
    (hdistinct : (t.lines.map WrittenLine.name).Nodup) :
    es.addBlock t.block = some (es ++ [t.entry]) := by
  show es.openTable [] t.name (t.lines.map WrittenLine.assignment) = _
  unfold Entries.openTable Entries.descend
  rw [alter_of_fresh hfresh]
  dsimp only
  rw [@assignAll_lines _ [] hdistinct]
  rfl

/-! ## 4. Documents -/

theorem addBlocks {tables : List WrittenTable} {es : Entries}
    (hdistinct : (es.map Prod.fst ++ tables.map WrittenTable.name).Nodup)
    (hlines : ∀ t ∈ tables, (t.lines.map WrittenLine.name).Nodup) :
    (tables.map WrittenTable.block).foldlM (fun es b => Entries.addBlock es b) es =
      some (es ++ tables.map WrittenTable.entry) := by
  induction tables generalizing es with
  | nil => rw [List.map_nil, List.map_nil, List.append_nil]; rfl
  | cons t tables ih =>
    obtain ⟨ht, htables⟩ := List.forall_mem_cons.mp hlines
    have hfresh : t.name ∉ es.map Prod.fst := fun hmem =>
      (List.nodup_append.mp hdistinct).2.2 t.name hmem t.name List.mem_cons_self rfl
    have hrest := @ih (es ++ [t.entry]) (by
      rw [List.map_append, List.append_assoc]
      exact hdistinct) htables
    rw [List.append_assoc] at hrest
    rw [List.map_cons, List.foldlM_cons, addBlock_of_fresh hfresh ht]
    exact hrest

theorem repeats_blocks {tables : List WrittenTable} (h : ∀ t ∈ tables, t.Proper) :
    Scan.Repeats block [] (tables.flatMap WrittenTable.text) (tables.map WrittenTable.block) := by
  induction tables with
  | nil => exact .stop rfl
  | cons t tables ih =>
    obtain ⟨ht, htables⟩ := List.forall_mem_cons.mp h
    have hnext := atHeader_written tables
    rw [← List.append_nil (tables.flatMap WrittenTable.text)] at hnext
    exact .next (ht.takes_block hnext) (List.cons_ne_nil _ _) (ih htables)

/-- A document of written tables is read as these tables, in order. -/
theorem read?_written {tables : List WrittenTable} (hproper : ∀ t ∈ tables, t.Proper)
    (hdistinct : (tables.map WrittenTable.name).Nodup)
    (hlines : ∀ t ∈ tables, (t.lines.map WrittenLine.name).Nodup) :
    read? (String.ofList (tables.flatMap WrittenTable.text)) = some (tables.map WrittenTable.entry) := by
  have hentries := @addBlocks tables [] hdistinct hlines
  have hheader := atHeader_written tables
  have hblocks := (repeats_blocks hproper).many
  generalize tables.flatMap WrittenTable.text = written at hheader hblocks
  have hmark : Scan.literal ['\ufeff'] written = none :=
    Scan.literal_none fun hc => nomatch hheader _ hc
  have hempty : emptyLines written = some ((), written) := takes_emptyLines hheader.beginsLine 0
  have htop : assignments written = some ([], written) := (@repeats_lines written [] nofun hheader).many
  have htables : (do
      let es ← Entries.assignAll [] []
      (tables.map WrittenTable.block).foldlM (fun es b => Entries.addBlock es b) es) =
        some (tables.map WrittenTable.entry) := hentries
  have hdocument : document written = some (tables.map WrittenTable.entry, []) := by
    unfold Takes at hblocks
    rw [List.append_nil] at hblocks
    unfold document
    rw [Scan.bind_eq (Scan.optional_none hmark), Scan.bind_eq hempty, Scan.bind_eq htop,
      Scan.bind_eq hblocks, Scan.bind_eq (p := Scan.finished) rfl, htables]
    rfl
  unfold read?
  rw [String.toList_ofList, Scan.all, hdocument]

end DeviceSync.Toml
