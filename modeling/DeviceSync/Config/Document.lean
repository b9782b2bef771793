import DeviceSync.Config.Basic
import DeviceSync.Toml.Document

/-!
# Configuration files

A configuration is a document with a section for the device, one for the tasks and one for the storage.
Settings that are not given keep their defaults, and keys that are not settings are ignored. A section may
also be a list that gives the first settings in order.

`Config.read?` reads a document, and `Config.render?` writes one.
-/

namespace DeviceSync

open Toml

/-! ## Reading -/

/-- The values that a section gives to its settings. A date has none of them. -/
def Toml.settings? (names : List String) : Option Toml → Option (List (Option Toml))
  | none | some .moment => some (names.map fun _ => none)
  | some (.table _ es) => some (names.map (Entries.get? es))
  | some (.list items) => some (names.zipIdx.map fun (_, i) => items[i]?)
  | some (.tables elements) =>
    some (names.zipIdx.map fun (_, i) => (elements[i]?).map (.table .header))
  | some _ => none

def Toml.textSetting (default : String) : Option Toml → Option String
  | none => some default
  | some (.text s) => some s
  | some _ => none

def Toml.optionalSetting : Option Toml → Option (Option String)
  | none => some none
  | some (.text s) => some (some s)
  | some _ => none

/-- A setting that is a number below a bound. -/
def Toml.numberSetting (bound default : Nat) : Option Toml → Option Nat
  | none => some default
  | some (.integer (.ofNat n)) => if n < bound then some n else none
  | some _ => none

namespace Config

def readDevice (part : Option Toml) : Option DeviceSettings := do
  match ← settings? ["label", "platform"] part with
  | [label, platform] =>
    return {
      label := ← textSetting ({} : DeviceSettings).label label
      platform := ← optionalSetting platform }
  | _ => none

def readTasks (part : Option Toml) : Option TaskSettings := do
  let defaults : TaskSettings := {}
  let word := numberSetting UInt64.size
  match ← settings? ["queue_capacity", "max_retries", "backoff_initial_ms", "backoff_max_ms"]
      part with
  | [capacity, retries, initial, max] =>
    return {
      queueCapacity := .ofNat (← word defaults.queueCapacity.toNat capacity)
      maxRetries := .ofNat (← numberSetting UInt32.size defaults.maxRetries.toNat retries)
      backoffInitial := .ofNat (← word defaults.backoffInitial.toNat initial)
      backoffMax := .ofNat (← word defaults.backoffMax.toNat max) }
  | _ => none

def readStorage (part : Option Toml) : Option StorageSettings := do
  match ← settings? ["database"] part with
  | [database] => return { database := ← textSetting ({} : StorageSettings).database database }
  | _ => none

/-- The configuration that the entries of a document give. -/
def ofEntries? (es : Entries) : Option Config := do
  return {
    device := ← readDevice (es.get? "device")
    tasks := ← readTasks (es.get? "tasks")
    storage := ← readStorage (es.get? "storage") }

def read? (s : String) : Option Config := do ofEntries? (← Toml.read? s)

/-- Reads a configuration file, given its content if there is such a file. -/
def ofFile (path : String) (content : Option Bytes) : Except ConfigError Config :=
  match content.bind Bytes.toText? with
  | none => .error (.unreadable path)
  | some s =>
    match read? s with
    | none => .error (.invalid path)
    | some c => .ok c

/-! ## Writing -/

def line (key value : String) : String := key ++ " = " ++ value ++ "\n"

/-- Writes a configuration; a number that is no integer of the format cannot be written. -/
def render? (c : Config) : Option String := do
  let capacity ← integerText? c.tasks.queueCapacity.toNat
  let retries ← integerText? c.tasks.maxRetries.toNat
  let initial ← integerText? c.tasks.backoffInitial.toNat
  let max ← integerText? c.tasks.backoffMax.toNat
  return "[device]\n" ++ line "label" (quote c.device.label)
    ++ (match c.device.platform with
      | some platform => line "platform" (quote platform)
      | none => "")
    ++ "\n[tasks]\n" ++ line "queue_capacity" capacity ++ line "max_retries" retries
    ++ line "backoff_initial_ms" initial ++ line "backoff_max_ms" max
    ++ "\n[storage]\n" ++ line "database" (quote c.storage.database)

end Config

end DeviceSync
