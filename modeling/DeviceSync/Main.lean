import DeviceSync.Command.Basic

/-!
# The program

Carries the commands out on the files of the machine.
-/

namespace DeviceSync

def octets (bytes : ByteArray) : Bytes := bytes.data.toList

/-- What is found at a path on the machine. -/
def readFile (path : String) : IO FileContent := do
  try
    return .file (octets (← IO.FS.readBinFile path))
  catch
    | .noFileOrDirectory .. => return .missing
    | _ => return .notFile

def succeeds (action : IO Unit) : IO Bool := do
  try
    action
    return true
  catch _ => return false

def FileCall.perform : (c : FileCall) → IO c.Answer
  | .makeDirectories path => succeeds (IO.FS.createDirAll path)
  | .read path => readFile path
  | .write path bytes => succeeds (IO.FS.writeBinFile path ⟨bytes.toArray⟩)
  | .print text => IO.println text

/-- Carries a procedure out on the machine. -/
def perform {α : Type} : Procedure FileCall FileCall.Answer α → IO α
  | .done a => pure a
  | .ask c next => do perform (next (← c.perform))

/-- The directory that data are kept under, unless the arguments name another one. -/
def dataHome : IO String := do
  match ← IO.getEnv "XDG_DATA_HOME" with
  | some path => if path.startsWith "/" then return path
  | none => pure ()
  return FileTree.join ((← IO.getEnv "HOME").getD "") ".local/share"

end DeviceSync

open DeviceSync

/-- Runs the command that the arguments ask for. -/
def main (args : List String) : IO UInt32 := do
  let ending ← perform (program (← dataHome) args)
  match ending with
  | .misuse => IO.eprintln usage
  | _ => pure ()
  match ending.complaint? with
  | some text => IO.eprintln text
  | none => pure ()
  return ending.code.toUInt32
