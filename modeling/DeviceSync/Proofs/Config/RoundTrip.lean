import DeviceSync.Config.Document
import DeviceSync.Proofs.Toml.Document
import Mathlib.Algebra.Group.Nat.Defs

/-!
# Configurations read back

1. `Config.tables`: a configuration is written as three tables (`render?_eq`), if its numbers are integers
   of the format (`isSome_render?_iff`).
2. Names and values of these tables are such as the reader takes (`tables_proper`, `distinct_lines`).
3. What the tables give is the configuration (`ofEntries?_tables`), so `read?_render?`: whatever is written
   is read back.
-/

namespace DeviceSync

open Toml

namespace Config

/-! ## 1. The tables of a configuration -/

/-- All numbers are integers of the format; the number of retries always is. -/
structure IsWritable (c : Config) : Prop where
  capacity : c.tasks.queueCapacity.toNat < 2 ^ 63
  initial : c.tasks.backoffInitial.toNat < 2 ^ 63
  max : c.tasks.backoffMax.toNat < 2 ^ 63

/-- The line of a setting that is a text. -/
def textLine (name value : String) (emptyLines : Nat := 0) : WrittenLine :=
  ⟨name, (quote value).toList, .text value, emptyLines⟩

def numberLine (name : String) (value : Nat) (emptyLines : Nat := 0) : WrittenLine :=
  ⟨name, (toString value).toList, .integer value, emptyLines⟩

/-- The lines of the device; an empty line separates them from the next table. -/
def deviceLines (d : DeviceSettings) : List WrittenLine :=
  match d.platform with
  | some platform => [textLine "label" d.label, textLine "platform" platform 1]
  | none => [textLine "label" d.label 1]

/-- The lines of the tasks, with an empty line after the last one. -/
def taskLines (t : TaskSettings) : List WrittenLine :=
  [numberLine "queue_capacity" t.queueCapacity.toNat, numberLine "max_retries" t.maxRetries.toNat,
    numberLine "backoff_initial_ms" t.backoffInitial.toNat,
    numberLine "backoff_max_ms" t.backoffMax.toNat 1]

/-- The tables that are written for a configuration. -/
def tables (c : Config) : List WrittenTable :=
  [⟨"device", deviceLines c.device⟩, ⟨"tasks", taskLines c.tasks⟩,
    ⟨"storage", [textLine "database" c.storage.database]⟩]

theorem isInteger_iff (n : Nat) : isInteger n = true ↔ n < 2 ^ 63 := by
  simp only [isInteger, Bool.and_eq_true, decide_eq_true_eq]
  omega

theorem integerText?_of_lt {n : Nat} (h : n < 2 ^ 63) : integerText? n = some (toString n) :=
  if_pos ((isInteger_iff n).mpr h)

theorem maxRetries_lt (c : Config) : c.tasks.maxRetries.toNat < 2 ^ 63 :=
  Nat.lt_trans c.tasks.maxRetries.toNat_lt (by decide)

theorem render?_eq {c : Config} (h : c.IsWritable) :
    c.render? = some (String.ofList (c.tables.flatMap WrittenTable.text)) := by
  unfold render?
  rw [integerText?_of_lt h.capacity, integerText?_of_lt c.maxRetries_lt, integerText?_of_lt h.initial,
    integerText?_of_lt h.max]
  refine congrArg some (String.toList_inj.mp ?_)
  cases hplatform : c.device.platform with
  | none =>
    simp [tables, deviceLines, hplatform, taskLines, textLine, numberLine, line, WrittenTable.text,
      WrittenLine.text]
  | some platform =>
    simp [tables, deviceLines, hplatform, taskLines, textLine, numberLine, line, WrittenTable.text,
      WrittenLine.text]

theorem lt_of_integerText? {n : Nat} {text : String} (h : integerText? n = some text) : n < 2 ^ 63 :=
  (isInteger_iff n).mp (integerText?_eq_some h).1

theorem isSome_render?_iff (c : Config) : c.render?.isSome ↔ c.IsWritable := by
  constructor
  · intro h
    obtain ⟨text, htext⟩ := Option.isSome_iff_exists.mp h
    simp only [render?, Option.bind_eq_bind, Option.bind_eq_some_iff] at htext
    obtain ⟨_, hcapacity, _, -, _, hinitial, _, hmax, -⟩ := htext
    exact ⟨lt_of_integerText? hcapacity, lt_of_integerText? hinitial, lt_of_integerText? hmax⟩
  · intro h
    rw [render?_eq h]
    rfl

/-! ## 2. Names and values -/

theorem textLine_proper {name : String} (hname : IsName name) (value : String) (emptyLines : Nat) :
    (textLine name value emptyLines).Proper :=
  ⟨hname, isValue_quote value⟩

theorem numberLine_proper {name : String} (hname : IsName name) {value : Nat} (h : value < 2 ^ 63)
    (emptyLines : Nat) : (numberLine name value emptyLines).Proper :=
  ⟨hname, isValue_integerText (integerText?_of_lt h)⟩

theorem deviceLines_proper (d : DeviceSettings) : ∀ l ∈ deviceLines d, l.Proper := by
  unfold deviceLines
  cases d.platform with
  | none => exact List.forall_mem_singleton.mpr (textLine_proper (by decide) _ _)
  | some platform =>
    exact List.forall_mem_cons.mpr ⟨textLine_proper (by decide) _ _,
      List.forall_mem_singleton.mpr (textLine_proper (by decide) _ _)⟩

theorem taskLines_proper {c : Config} (h : c.IsWritable) : ∀ l ∈ taskLines c.tasks, l.Proper := by
  unfold taskLines
  refine List.forall_mem_cons.mpr ⟨numberLine_proper (by decide) h.capacity _, ?_⟩
  refine List.forall_mem_cons.mpr ⟨numberLine_proper (by decide) c.maxRetries_lt _, ?_⟩
  refine List.forall_mem_cons.mpr ⟨numberLine_proper (by decide) h.initial _, ?_⟩
  exact List.forall_mem_singleton.mpr (numberLine_proper (by decide) h.max _)

theorem tables_proper {c : Config} (h : c.IsWritable) : ∀ t ∈ c.tables, t.Proper := by
  have hdevice : IsName "device" := by decide
  have htasks : IsName "tasks" := by decide
  have hstorage : IsName "storage" := by decide
  unfold tables
  refine List.forall_mem_cons.mpr ⟨⟨hdevice, deviceLines_proper c.device⟩, ?_⟩
  refine List.forall_mem_cons.mpr ⟨⟨htasks, taskLines_proper h⟩, ?_⟩
  exact List.forall_mem_singleton.mpr
    ⟨hstorage, List.forall_mem_singleton.mpr (textLine_proper (by decide) _ _)⟩

theorem distinct_lines (c : Config) : ∀ t ∈ c.tables, (t.lines.map WrittenLine.name).Nodup := by
  have htasks : ((taskLines c.tasks).map WrittenLine.name).Nodup := by
    show ["queue_capacity", "max_retries", "backoff_initial_ms", "backoff_max_ms"].Nodup
    decide
  have hdevice : ((deviceLines c.device).map WrittenLine.name).Nodup := by
    unfold deviceLines
    cases c.device.platform with
    | none => exact List.pairwise_singleton _ _
    | some platform =>
      show ["label", "platform"].Nodup
      decide
  exact List.forall_mem_cons.mpr ⟨hdevice, List.forall_mem_cons.mpr ⟨htasks,
    List.forall_mem_singleton.mpr (List.pairwise_singleton _ _)⟩⟩

/-! ## 3. Reading the tables -/

theorem numberSetting_integer {bound default n : Nat} (h : n < bound) :
    numberSetting bound default (some (.integer n)) = some n := if_pos h

theorem readDevice_lines (d : DeviceSettings) :
    readDevice (some (.table .header ((deviceLines d).map WrittenLine.entry))) = some d := by
  obtain ⟨label, platform⟩ := d
  cases platform with
  | none => rfl
  | some platform => rfl

theorem readTasks_lines (t : TaskSettings) :
    readTasks (some (.table .header ((taskLines t).map WrittenLine.entry))) = some t := by
  have hsettings : settings? ["queue_capacity", "max_retries", "backoff_initial_ms", "backoff_max_ms"]
      (some (.table .header ((taskLines t).map WrittenLine.entry))) =
        some [some (.integer t.queueCapacity.toNat), some (.integer t.maxRetries.toNat),
          some (.integer t.backoffInitial.toNat), some (.integer t.backoffMax.toNat)] := rfl
  unfold readTasks
  simp only [hsettings, Option.bind_eq_bind, Option.bind_some,
    numberSetting_integer t.queueCapacity.toNat_lt, numberSetting_integer t.maxRetries.toNat_lt,
    numberSetting_integer t.backoffInitial.toNat_lt, numberSetting_integer t.backoffMax.toNat_lt]
  simp

theorem ofEntries?_tables (c : Config) : ofEntries? (c.tables.map WrittenTable.entry) = some c := by
  have hdevice : Entries.get? (c.tables.map WrittenTable.entry) "device" =
    some (.table .header ((deviceLines c.device).map WrittenLine.entry)) := rfl
  have htasks : Entries.get? (c.tables.map WrittenTable.entry) "tasks" =
    some (.table .header ((taskLines c.tasks).map WrittenLine.entry)) := rfl
  have hstorage : readStorage (Entries.get? (c.tables.map WrittenTable.entry) "storage") =
    some c.storage := rfl
  unfold ofEntries?
  rw [hdevice, htasks, hstorage, readDevice_lines, readTasks_lines]
  rfl

theorem read?_tables {c : Config} (h : c.IsWritable) :
    read? (String.ofList (c.tables.flatMap WrittenTable.text)) = some c := by
  have hnames : (c.tables.map WrittenTable.name).Nodup := by
    show ["device", "tasks", "storage"].Nodup
    decide
  unfold read?
  rw [read?_written (tables_proper h) hnames c.distinct_lines]
  exact c.ofEntries?_tables

/-- What is written for a configuration is read as this configuration. -/
theorem read?_render? {c : Config} {text : String} (h : c.render? = some text) : read? text = some c := by
  have hwritable := c.isSome_render?_iff.mp (Option.isSome_of_mem h)
  obtain rfl := Option.some.inj ((render?_eq hwritable).symm.trans h)
  exact read?_tables hwritable

theorem ofFile_render? {c : Config} {text : String} (h : c.render? = some text) (path : String) :
    ofFile path (some (Bytes.ofText text)) = .ok c := by
  unfold ofFile
  rw [Option.bind_some, Bytes.toText?_ofText]
  dsimp only
  rw [read?_render? h]

end Config

end DeviceSync
