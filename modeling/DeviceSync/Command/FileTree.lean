import DeviceSync.Bytes.Basic

/-!
# File trees

Files and directories by their paths, as far as the commands need them. A path that does not start with a
slash is taken from the current directory.
-/

namespace DeviceSync

/-- What is found at a path. -/
inductive FileContent
  | missing
  /-- There is something, but no file. -/
  | notFile
  | file (bytes : Bytes)
deriving DecidableEq

/-- Files and directories. -/
structure FileTree where
  /-- The parts of the current directory's path. -/
  current : List String
  directories : List (List String) := []
  files : List (List String × Bytes) := []

namespace FileTree

/-- The directory of a path of its parts, with another name in it. -/
def join (directory name : String) : String :=
  if directory = "" || directory.endsWith "/" then directory ++ name else directory ++ "/" ++ name

/-- The parts of a path. -/
def resolve (t : FileTree) (path : String) : List String :=
  let start := if path.startsWith "/" then [] else t.current
  (path.splitOn "/").foldl (fun at_ part =>
    if part = "" || part = "." then at_
    else if part = ".." then at_.dropLast
    else at_ ++ [part]) start

/-- Whether there is a directory at a place: one that was made, the current one, or one above it. -/
def isDirectory (t : FileTree) (place : List String) : Bool :=
  t.directories.contains place || place.isPrefixOf t.current

def file? (t : FileTree) (place : List String) : Option Bytes := t.files.lookup place

/-- What is found at a path. -/
def read (t : FileTree) (path : String) : FileContent :=
  let place := t.resolve path
  match t.file? place with
  | some bytes => .file bytes
  | none => if path != "" && t.isDirectory place then .notFile else .missing

/-- Makes a directory and those above it, unless a file is in the way. -/
def makeDirectories (t : FileTree) (path : String) : Option FileTree :=
  let place := t.resolve path
  let above := (List.range (place.length + 1)).map place.take
  if above.any fun p => (t.file? p).isSome then none
  else some { t with directories := t.directories ++ above.filter (!t.isDirectory ·) }

/-- Writes a file into a directory that is there. -/
def write (t : FileTree) (path : String) (bytes : Bytes) : Option FileTree :=
  let place := t.resolve path
  if place = [] || !t.isDirectory place.dropLast || t.isDirectory place then none
  else some { t with files := (place, bytes) :: t.files.filter (·.1 != place) }

/-- Writes a file, and makes the directories that it needs. -/
def put (t : FileTree) (path : String) (bytes : Bytes) : FileTree :=
  let parent := "/".intercalate (path.splitOn "/").dropLast
  ((t.makeDirectories parent).bind (·.write path bytes)).getD t

/-- The content of a file, if there is one. -/
def content? (t : FileTree) (path : String) : Option Bytes := t.file? (t.resolve path)

end FileTree

end DeviceSync
