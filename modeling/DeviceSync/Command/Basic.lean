import DeviceSync.Command.Arguments
import DeviceSync.Command.FileTree
import DeviceSync.Config.Document
import DeviceSync.Linking.State
import DeviceSync.Procedure
import DeviceSync.Replay.Basic
import DeviceSync.Replay.File
import DeviceSync.Store.Location

/-!
# Commands

What the commands of the program do: set up a data directory, report on it, show a short code, and replay
envelopes. A command works on files and prints lines; it ends well, or with the text of a fault.
-/

namespace DeviceSync

/-! ## Path hashes as text -/

namespace Text

/-- Inclusive ranges of white space, in the sense of the Unicode property `White_Space`. -/
def blankRanges : List (Nat × Nat) :=
  [(0x9, 0xd), (0x20, 0x20), (0x85, 0x85), (0xa0, 0xa0), (0x1680, 0x1680), (0x2000, 0x200a),
   (0x2028, 0x2029), (0x202f, 0x202f), (0x205f, 0x205f), (0x3000, 0x3000)]

def isBlank (c : Char) : Bool :=
  blankRanges.any fun (lo, hi) => lo ≤ c.toNat && c.toNat ≤ hi

/-- The text without white space at its ends. -/
def trimBlanks (cs : List Char) : List Char :=
  ((cs.dropWhile isBlank).reverse.dropWhile isBlank).reverse

end Text

/-- Why a text is no path hash. -/
inductive PathHashError
  | notHex
  | wrongSize (octets : Nat)
deriving DecidableEq

def PathHashError.toText : PathHashError → String
  | .notHex => "Rendezvous path hash must be hex"
  | .wrongSize n => "Rendezvous path hash must be 32 bytes, got " ++ toString n

/-- The path hash that a text gives in hexadecimal digits, with white space around it ignored. -/
def PathHash.ofText (s : String) : Except PathHashError PathHash :=
  match Bytes.ofHexDigits? (Text.trimBlanks s.toList) with
  | none => .error .notHex
  | some bs =>
    match Block.ofBytes? 32 bs with
    | some block => .ok ⟨block⟩
    | none => .error (.wrongSize bs.length)

/-! ## Calls -/

/-- A call that a command makes. -/
inductive FileCall
  /-- Makes a directory and those above it; false where that fails. -/
  | makeDirectories (path : String)
  | read (path : String)
  /-- Writes a file; false where that fails. -/
  | write (path : String) (bytes : Bytes)
  /-- Prints text and a line end. -/
  | print (text : String)

abbrev FileCall.Answer : FileCall → Type
  | makeDirectories _ | write _ _ => Bool
  | read _ => FileContent
  | print _ => Unit

/-- A file tree, and what was printed. -/
structure Desk where
  tree : FileTree
  printed : String := ""

def FileCall.effect : (c : FileCall) → Desk → c.Answer × Desk
  | makeDirectories path, d => change d (d.tree.makeDirectories path)
  | read path, d => (d.tree.read path, d)
  | write path bytes, d => change d (d.tree.write path bytes)
  | print text, d => ((), { d with printed := d.printed ++ text ++ "\n" })
where
  /-- Replaces the tree, if there is a new one. -/
  change (d : Desk) : Option FileTree → Bool × Desk
    | some tree => (true, { d with tree })
    | none => (false, d)

/-- A procedure of a command, which ends well or with the text of a fault. -/
abbrev CommandWork (α : Type) : Type := ExceptT String (Procedure FileCall FileCall.Answer) α

namespace CommandWork

def call (c : FileCall) : CommandWork c.Answer := ExceptT.lift (Procedure.call c)

def print (lines : List String) : CommandWork Unit := lines.forM fun l => call (.print l)

/-- The value, or a fault. -/
def orFault {α : Type} (fault : String) : Option α → CommandWork α
  | some a => return a
  | none => throw fault

/-- Ends with a fault unless something holds. -/
def ensure (fault : String) (holds : Bool) : CommandWork Unit := if holds then return else throw fault

/-! ## Data directories -/

/-- The configuration file of a data directory. -/
def configPath (directory : String) : String := FileTree.join directory "mdsync.toml"

/-- The database that a new data directory gets. -/
def databasePath (directory : String) : String := FileTree.join directory "mdsync.db"

/-- Reads the configuration of a data directory. -/
def loadConfig (directory : String) : CommandWork Config := do
  match ← call (.read (configPath directory)) with
  | .missing => throw "Device not initialized. Run 'mdsync init' first."
  | .notFile => throw "Invalid configuration"
  | .file bytes =>
    match Config.ofFile (configPath directory) (some bytes) with
    | .ok c => return c
    | .error _ => throw "Invalid configuration"

/-- Opens a database, a new one where there is none. -/
def openDatabase (location : Option DatabaseLocation) (fault : String) : CommandWork Database := do
  match ← orFault fault location with
  | .transient => return {}
  | .file path =>
    match ← call (.read path) with
    | .file bytes => orFault fault (Database.ofBytes? bytes)
    | .notFile => throw fault
    | .missing =>
      ensure fault (← call (.write path ({} : Database).toBytes))
      return {}

/-- Keeps what a command left in a database. -/
def keep (location : Option DatabaseLocation) (d : Database) : CommandWork Unit := do
  if let some (.file path) := location then
    let _ ← call (.write path d.toBytes)

/-! ## The commands -/

/-- The configuration of a new data directory. -/
def initialConfig (directory label : String) (platform : Option String) : Config where
  device := { label, platform }
  storage := { database := databasePath directory }

def init (directory label : String) (platform : Option String) : CommandWork Unit := do
  let path := configPath directory
  match ← call (.read path) with
  | .missing => pure ()
  | _ => throw ("Device already initialized. Delete " ++ path ++ " to reinitialize.")
  let config := initialConfig directory label platform
  let text ← orFault "Failed to render configuration" config.render?
  ensure "Failed to save configuration" (← call (.write path (Bytes.ofText text)))
  print [
    "Device initialized successfully!",
    "",
    "  Label:     " ++ label,
    "  Database:  " ++ config.storage.database,
    "  Data dir:  " ++ directory,
    "",
    "Next steps:",
    "  1. Replay reflected envelopes: mdsync replay --identity <ID> <file.json>",
    "  2. Inspect replay protection: mdsync status"]

/-- The pending tasks of a database, a line each. -/
def pendingLines (d : Database) : Except StoreError (List String) :=
  d.tasks.load.map fun tasks => tasks.map fun (id, data) => id.toText ++ " " ++ (Task.ofData data).describe

/-- Reports on a data directory that has a configuration. -/
def report (config : Config) : CommandWork Unit := do
  print (["Device:", "  Label:    " ++ config.device.label]
    ++ (config.device.platform.map ("  Platform: " ++ ·)).toList ++ [""])
  let path := config.storage.database
  let d ← openDatabase (DatabaseLocation.ofText? path) ("Failed to open database " ++ path)
  match pendingLines d with
  | .error e => throw e.toText
  | .ok pending =>
    print (["Storage:", "  Database: " ++ path,
      "  Nonces:   " ++ toString d.nonces.rows.length,
      "  Pending:  " ++ toString pending.length ++ " tasks"] ++ pending.map ("    " ++ ·))

def status (directory : String) : CommandWork Unit := do
  print ["=== mdsync status ===", ""]
  let config? ← tryCatch (some <$> loadConfig directory) fun _ => pure none
  match config? with
  | none =>
    print ["Device: NOT INITIALIZED", "", "Run 'mdsync init --label <label>' to initialize."]
  | some config => report config

/-- Shows the short code of a rendezvous path. -/
def shortCode (path : String) : CommandWork Unit := do
  match PathHash.ofText path with
  | .error e => throw e.toText
  | .ok hash =>
    print ["Short code: " ++ hash.shortCode.toText, "",
      "Compare this with the code shown on the new device."]

def readEnvelopes (file : String) : CommandWork (List Envelope) := do
  let unreadable := "Failed to read " ++ file
  match ← call (.read file) with
  | .file bytes =>
    let text ← orFault unreadable bytes.toText?
    orFault "Invalid replay file" (Envelope.readAll? text)
  | _ => throw unreadable

/-- The line of a report for a completed task. -/
def completionLine (c : Completion) : String :=
  "  #" ++ toString c.sequence ++ " " ++ c.description ++ ": " ++ reportResult c.result

def replay (directory identity file : String) : CommandWork Unit := do
  let config ← loadConfig directory
  let me ← orFault "Invalid identity" (Identity.ofText? identity)
  let envelopes ← readEnvelopes file
  print ["Replaying " ++ toString envelopes.length ++ " envelopes as " ++ me.text ++ "..."]
  ensure ReplayError.noEnvelopes.toText !envelopes.isEmpty
  let location := DatabaseLocation.ofText? config.storage.database
  let before ← openDatabase location "Failed to open database"
  let (result, after) := before.replay config me envelopes
  keep location after
  match result with
  | .error e => throw e.toText
  | .ok completions =>
    print (completions.map completionLine)
    if completions.any (!·.result.isOk) then
      print ["", "Queue halted. Remaining envelopes were not applied."]

/-- Carries a command out; `home` is where data are kept unless the command says so. -/
def invoke (home : String) (i : Invocation) : CommandWork Unit := do
  let directory := i.dataDirectory.getD (FileTree.join home "mdsync")
  ensure "Failed to create data directory" (← call (.makeDirectories directory))
  match i.command with
  | .init label platform => init directory label platform
  | .status => status directory
  | .shortCode path => shortCode path
  | .replay identity file => replay directory identity file

end CommandWork

/-- How a command ended. -/
inductive Ending
  | success
  | failure (text : String)
  /-- The arguments made no sense. -/
  | misuse
deriving DecidableEq

namespace Ending

def code : Ending → UInt8
  | success => 0
  | failure _ => 1
  | misuse => 2

/-- What is written about a failure. -/
def complaint? : Ending → Option String
  | failure text => some ("Error: " ++ text)
  | success | misuse => none

end Ending

def usage : String := "Usage: mdsync [OPTIONS] <init|status|short-code|replay>"

/-- The whole program, given its arguments. -/
def program (home : String) (args : List String) : Procedure FileCall FileCall.Answer Ending :=
  match Intent.ofArguments args with
  | .version => .ask (.print "mdsync 0.1.0") fun () => .done .success
  | .help => .ask (.print usage) fun () => .done .success
  | .misuse => .done .misuse
  | .invoke i => (CommandWork.invoke home i).run.bind fun
    | .ok () => .done .success
    | .error text => .done (.failure text)

end DeviceSync
