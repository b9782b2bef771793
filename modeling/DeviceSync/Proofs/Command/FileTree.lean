import DeviceSync.Command.FileTree
import Mathlib.Data.String.Basic
import Mathlib.Tactic.SplitIfs

/-!
# Places in a file tree

1. `splitOn_slash`: the parts of a path are the runs of characters between its slashes.
2. `resolve_join`: a plain name that is joined to a directory, however the path of the directory is
   spelled, is a place in that directory.
3. `write_isSome_iff`, `read_of_write`: where a file can be written, and that it is there afterwards.
-/

namespace DeviceSync.FileTree

variable {t t' : FileTree} {directory name path : String} {bytes : Bytes}

/-! ## 1. The parts of a path -/

open String in
/-- Splitting at a slash goes through the text as splitting at a class of characters does. -/
theorem splitOnAux_slash (s : String) (b i : Pos.Raw) (parts : List String) :
    splitOnAux s "/" b i 0 parts = splitAux s (· == '/') b i parts := by
  have hslash : Pos.Raw.get "/" 0 = '/' := rfl
  have hnext : Pos.Raw.next "/" 0 = ⟨1⟩ := rfl
  have hend : Pos.Raw.atEnd "/" ⟨1⟩ = true := rfl
  fun_induction splitAux s (· == '/') b i parts with
  | case1 b i parts hdone r =>
    unfold splitOnAux
    rw [if_pos hdone]
  | case2 b i parts hdone _ hhere i' ih =>
    -- The slash is one octet, so the part before it ends where it begins.
    have hback : (Pos.Raw.next s i).unoffsetBy ⟨1⟩ = i := by
      unfold Pos.Raw.next
      rw [eq_of_beq hhere]
      rfl
    rw [← ih]
    conv => lhs; unfold splitOnAux
    rw [if_neg hdone, hslash, if_pos hhere, hnext]
    dsimp only
    rw [if_pos hend, hback]
  | case3 b i parts hdone _ hhere ih =>
    rw [← ih]
    conv => lhs; unfold splitOnAux
    rw [if_neg hdone, hslash, if_neg hhere]
    rfl

theorem splitOn_slash (s : String) : s.splitOn "/" = (s.toList.splitOn '/').map String.ofList := by
  show s.splitOnAux "/" 0 0 0 [] = _
  rw [splitOnAux_slash]
  exact String.splitToList_of_valid s (· == '/')

/-! ## 2. Names in a directory -/

/-- A name that neither leads to another directory nor stays in the same one. -/
structure IsPlain (name : String) : Prop where
  noSlash : '/' ∉ name.toList
  nonempty : name ≠ ""
  notSame : name ≠ "."
  notAbove : name ≠ ".."

instance (name : String) : Decidable (IsPlain name) :=
  decidable_of_iff ('/' ∉ name.toList ∧ name ≠ "" ∧ name ≠ "." ∧ name ≠ "..")
    ⟨fun h => ⟨h.1, h.2.1, h.2.2.1, h.2.2.2⟩, fun h => ⟨h.1, h.2, h.3, h.4⟩⟩

/-- The place that a part of a path leads to. -/
def enter (place : List String) (part : String) : List String :=
  if part = "" || part = "." then place
  else if part = ".." then place.dropLast
  else place ++ [part]

theorem IsPlain.enter (h : IsPlain name) (place : List String) :
    FileTree.enter place name = place ++ [name] := by
  unfold FileTree.enter
  rw [if_neg (by simp [h.nonempty, h.notSame]), if_neg h.notAbove]

theorem resolve_eq (t : FileTree) (path : String) :
    t.resolve path = (path.splitOn "/").foldl enter (if path.startsWith "/" then [] else t.current) := rfl

theorem IsPlain.splitOn (h : IsPlain name) : name.splitOn "/" = [name] := by
  rw [splitOn_slash, List.splitOn_eq_singleton h.noSlash, List.map_singleton, String.ofList_toList]

theorem IsPlain.startsWith_slash (h : IsPlain name) : name.startsWith "/" = false := by
  refine Bool.eq_false_iff.mpr fun hstart => ?_
  have hslash : '/' ∈ name.toList :=
    (String.startsWith_string_iff.mp hstart).subset (by simp)
  exact h.noSlash hslash

theorem IsPlain.resolve (h : IsPlain name) (t : FileTree) : t.resolve name = t.current ++ [name] := by
  rw [resolve_eq, h.splitOn, h.startsWith_slash]
  exact h.enter _

theorem resolve_empty (t : FileTree) : t.resolve "" = t.current := by
  have hstart : "".startsWith "/" = false := by simp [Bool.eq_false_iff, String.startsWith_string_iff]
  rw [resolve_eq, splitOn_slash, hstart]
  rfl

theorem splitOn_append_slash (cs : List Char) (name : String) (hname : '/' ∉ name.toList)
    (h : path.toList = cs ++ '/' :: name.toList) :
    path.splitOn "/" = (String.ofList cs).splitOn "/" ++ [name] := by
  rw [splitOn_slash, splitOn_slash, h, List.splitOn_append_cons_self, List.splitOn_eq_singleton hname,
    List.map_append, List.map_singleton, String.ofList_toList, String.toList_ofList]

/-- Whether a path starts with a slash is seen in its first part. -/
theorem startsWith_slash_append (hne : directory ≠ "") (more : String) :
    (directory ++ more).startsWith "/" = directory.startsWith "/" := by
  have hcons : directory.toList ≠ [] := by simpa using hne
  obtain ⟨c, cs, hdirectory⟩ := List.exists_cons_of_ne_nil hcons
  rw [Bool.eq_iff_iff, String.startsWith_string_iff, String.startsWith_string_iff, String.toList_append,
    hdirectory]
  simp

/-- A path of one part more leads one name further. -/
theorem resolve_of_parts (h : IsPlain name) (parts : List String) (hpath : path.splitOn "/" = parts ++ [name])
    (hdirectory : ∀ place, (directory.splitOn "/").foldl enter place = parts.foldl enter place)
    (hstart : path.startsWith "/" = directory.startsWith "/") :
    t.resolve path = t.resolve directory ++ [name] := by
  rw [resolve_eq, resolve_eq, hpath, List.foldl_append, hdirectory, hstart]
  exact h.enter _

theorem resolve_join (h : IsPlain name) (t : FileTree) (directory : String) :
    t.resolve (join directory name) = t.resolve directory ++ [name] := by
  unfold join
  by_cases hempty : directory = ""
  · subst hempty
    rw [if_pos (by simp), String.empty_append, h.resolve, resolve_empty]
  · by_cases hslash : directory.endsWith "/" = true
    · rw [if_pos (by simp [hslash])]
      obtain ⟨cs, hcs⟩ : ['/'] <:+ directory.toList := by
        rw [String.endsWith_eq_endsWith_toSlice, String.Slice.endsWith_string_iff, String.copy_toSlice]
          at hslash
        exact hslash
      refine resolve_of_parts h ((String.ofList cs).splitOn "/")
        (splitOn_append_slash cs name h.noSlash (by simp [← hcs])) (fun place => ?_)
        (startsWith_slash_append hempty name)
      -- Nothing stands after the slash of the directory, and this leads nowhere else.
      rw [splitOn_append_slash cs "" (by simp) (by simp [← hcs]), List.foldl_append]
      rfl
    · rw [if_neg (by simp [hempty, hslash]), String.append_assoc]
      refine resolve_of_parts h (directory.splitOn "/") ?_ (fun _ => rfl)
        (startsWith_slash_append hempty ("/" ++ name))
      rw [splitOn_append_slash directory.toList name h.noSlash (by simp), String.ofList_toList]

/-! ## 3. Writing a file -/

theorem join_ne_empty (hname : name ≠ "") (directory : String) : join directory name ≠ "" := by
  unfold join
  split_ifs
  · simp [hname]
  · simp [hname]

theorem read_eq_missing_iff (hpath : path ≠ "") : t.read path = .missing ↔
    t.file? (t.resolve path) = none ∧ t.isDirectory (t.resolve path) = false := by
  unfold read
  cases hfile : t.file? (t.resolve path) with
  | some bytes => simp [hfile]
  | none => simp [hfile, hpath]

theorem write_isSome_iff : (t.write path bytes).isSome ↔ t.resolve path ≠ [] ∧
    t.isDirectory (t.resolve path).dropLast = true ∧ t.isDirectory (t.resolve path) = false := by
  unfold write
  dsimp only
  split_ifs with hbad
  · simp only [Option.isSome_none, Bool.false_eq_true, false_iff, not_and]
    simpa [or_iff_not_imp_left] using hbad
  · simpa [and_assoc] using hbad

theorem read_of_file? (h : t.file? (t.resolve path) = some bytes) : t.read path = .file bytes := by
  unfold read
  simp only [h]

/-- What is written is there. -/
theorem read_of_write (h : t.write path bytes = some t') : t'.read path = .file bytes := by
  unfold write at h
  dsimp only at h
  split_ifs at h
  obtain rfl := Option.some.inj h
  exact read_of_file? List.lookup_cons_self

/-- A plain name where there is nothing can be written if its directory is there. -/
theorem write_join_isSome_iff (h : IsPlain name) (hmissing : t.read (join directory name) = .missing)
    (bytes : Bytes) :
    (t.write (join directory name) bytes).isSome ↔ t.isDirectory (t.resolve directory) = true := by
  have hfree := ((read_eq_missing_iff (join_ne_empty h.nonempty directory)).mp hmissing).2
  rw [write_isSome_iff, hfree, resolve_join h, List.dropLast_concat]
  simp

end DeviceSync.FileTree
