import DeviceSync.Retry

/-!
# Configuration

What a device is called, how its task queue behaves, and where its database is. Every setting has a
default.
-/

namespace DeviceSync

/-- What the other devices are shown of this one. -/
structure DeviceSettings where
  label : String := "mdsync device"
  platform : Option String := none
deriving DecidableEq

/-- How the task queue behaves. -/
structure TaskSettings where
  queueCapacity : UInt64 := 64
  maxRetries : UInt32 := 3
  /-- The first delay before another attempt, in milliseconds. -/
  backoffInitial : UInt64 := 500
  /-- The longest delay, in milliseconds. -/
  backoffMax : UInt64 := 30000
deriving DecidableEq

/-- Where the nonces and the pending tasks are kept. -/
structure StorageSettings where
  database : String := "mdsync.db"
deriving DecidableEq

/-- The settings of a device. -/
structure Config where
  device : DeviceSettings := {}
  tasks : TaskSettings := {}
  storage : StorageSettings := {}
deriving DecidableEq

def TaskSettings.policy (t : TaskSettings) : RetryPolicy :=
  ⟨t.maxRetries.toNat, .ofMillis t.backoffInitial, .ofMillis t.backoffMax⟩

/-- Why a configuration file has no settings. -/
inductive ConfigError
  /-- The file cannot be read as text. -/
  | unreadable (path : String)
  /-- The text is not a configuration. -/
  | invalid (path : String)
deriving DecidableEq

/-- The fault as text, given its cause in words. -/
def ConfigError.toText (cause : String) : ConfigError → String
  | unreadable path => "failed to read config file " ++ path ++ ": " ++ cause
  | invalid path => "failed to parse config file " ++ path ++ ": " ++ cause

end DeviceSync
