import DeviceSync.Message.Wire
import DeviceSync.Task.Id

/-!
# Task stores

Tasks that must not be lost are kept until they are done, in the order in which they were first saved.

There are two stores. `TaskList` keeps the tasks themselves. `TaskTable` keeps rows in a database, with a
running number, the name of the task as text and the encoding of the task; a row that cannot be read
back is an error of the store.
-/

namespace DeviceSync

/-- Why a store call failed. -/
inductive StoreError
  | database (text : String)
  /-- A stored record cannot be read. -/
  | corrupt (text : String)
deriving DecidableEq

def StoreError.toText : StoreError → String
  | .database text => "database error: " ++ text
  | .corrupt text => "corrupt record: " ++ text

/-- Tasks in memory, in the order of their first saving. -/
structure TaskList where
  entries : List (TaskId × TaskData) := []
deriving DecidableEq

namespace TaskList

/-- Saves a task, in the place of an earlier form of it. -/
def save (s : TaskList) (id : TaskId) (data : TaskData) : TaskList :=
  if s.entries.any (·.1 == id) then
    ⟨s.entries.map fun e => if e.1 = id then (e.1, data) else e⟩
  else ⟨s.entries ++ [(id, data)]⟩

def remove (s : TaskList) (id : TaskId) : TaskList := ⟨s.entries.filter (·.1 != id)⟩

end TaskList

/-- A row of a task table. -/
structure TaskRow where
  number : Nat
  idText : String
  data : Bytes
deriving DecidableEq

def TaskRow.read (row : TaskRow) : Except StoreError (TaskId × TaskData) :=
  match TaskId.ofText? row.idText with
  | none => .error (.corrupt ("invalid task id: " ++ row.idText))
  | some id =>
    match Encoded.decode TaskData row.data with
    | .ok data => .ok (id, data)
    | .error cause => .error (.corrupt (WireError.decoding cause).toText)

/-- Tasks in a database. -/
structure TaskTable where
  rows : List TaskRow := []
  /-- The number of the last row that was ever added. -/
  lastNumber : Nat := 0
deriving DecidableEq

namespace TaskTable

def append (t : TaskTable) (idText : String) (data : Bytes) : TaskTable :=
  ⟨t.rows ++ [⟨t.lastNumber + 1, idText, data⟩], t.lastNumber + 1⟩

/-- Saves a task: a new row, or new data in the row with its name. -/
def save (t : TaskTable) (id : TaskId) (data : TaskData) : TaskTable :=
  if t.rows.any (·.idText == id.toText) then
    { t with rows := t.rows.map fun row =>
        if row.idText = id.toText then { row with data := Encoded.encode data } else row }
  else t.append id.toText (Encoded.encode data)

/-- Removes the row with the name of a task. -/
def remove (t : TaskTable) (id : TaskId) : TaskTable :=
  { t with rows := t.rows.filter (·.idText != id.toText) }

/-- Reads all rows in the order of their numbers; the first one that cannot be read is reported. -/
def load (t : TaskTable) : Except StoreError (List (TaskId × TaskData)) :=
  (t.rows.mergeSort fun a b => decide (a.number ≤ b.number)).mapM TaskRow.read

end TaskTable

/-- A store of pending tasks. -/
inductive TaskStore
  | memory (list : TaskList)
  | database (table : TaskTable)
deriving DecidableEq

namespace TaskStore

def save (s : TaskStore) (id : TaskId) (data : TaskData) : TaskStore :=
  match s with
  | memory l => memory (l.save id data)
  | database t => database (t.save id data)

/-- Adds a record as it is, where there are records. -/
def append (s : TaskStore) (idText : String) (data : Bytes) : TaskStore :=
  match s with
  | memory l => memory l
  | database t => database (t.append idText data)

def remove (s : TaskStore) (id : TaskId) : TaskStore :=
  match s with
  | memory l => memory (l.remove id)
  | database t => database (t.remove id)

/-- The pending tasks in the order in which they were first saved. -/
def load : TaskStore → Except StoreError (List (TaskId × TaskData))
  | memory l => .ok l.entries
  | database t => t.load

end TaskStore

end DeviceSync
