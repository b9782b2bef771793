import DeviceSync.Command.Basic
import DeviceSync.Proofs.Command.FileTree
import DeviceSync.Proofs.Config.RoundTrip

/-!
# Setting up a data directory

1. `CommandWork.outcome`: how a command ends on given files, and what it leaves behind. It is put together
   call by call.
2. `init_cases`: a setup writes the configuration of a directory that has none, or changes nothing.
3. `configuration_reads_back`: the configuration of a directory that was set up is the one that is loaded.
-/

namespace DeviceSync

namespace CommandWork

variable {α β : Type} {d : Desk}

/-! ## 1. How commands end -/

/-- How a command ends, and what it leaves behind. -/
def outcome (w : CommandWork α) (d : Desk) : Except String α × Desk := w.run.run FileCall.effect d

theorem outcome_call (c : FileCall) (d : Desk) :
    (call c).outcome d = (.ok (c.effect d).1, (c.effect d).2) := rfl

/-- One command after another: a fault of the first ends both. -/
theorem outcome_bind (w : CommandWork α) (f : α → CommandWork β) (d : Desk) :
    (w >>= f).outcome d =
      match w.outcome d with
      | (.ok a, d') => (f a).outcome d'
      | (.error fault, d') => (.error fault, d') := by
  have hbind : (w >>= f).outcome d =
      (ExceptT.bindCont f (w.outcome d).1).run FileCall.effect (w.outcome d).2 :=
    Procedure.run_bind _ _ _ _
  rw [hbind]
  obtain ⟨result, d'⟩ := w.outcome d
  cases result with
  | error fault => rfl
  | ok a => rfl

theorem outcome_call_bind (c : FileCall) (f : c.Answer → CommandWork β) (d : Desk) :
    (call c >>= f).outcome d = (f (c.effect d).1).outcome (c.effect d).2 := by
  rw [outcome_bind, outcome_call]

/-- Printing always ends well and leaves the files alone. -/
theorem outcome_print (lines : List String) (d : Desk) :
    ((print lines).outcome d).1 = .ok () ∧ ((print lines).outcome d).2.tree = d.tree := by
  induction lines generalizing d with
  | nil => exact ⟨rfl, rfl⟩
  | cons l lines ih =>
    have hcons : print (l :: lines) = (call (.print l) >>= fun _ => print lines) := rfl
    rw [hcons, outcome_call_bind]
    exact ih _

/-! ## 2. How a setup ends -/

variable {directory label text : String} {platform : Option String} {c : Config}

theorem effect_read (path : String) (d : Desk) :
    FileCall.effect (.read path) d = (d.tree.read path, d) := rfl

theorem init_of_present (h : d.tree.read (configPath directory) ≠ .missing) :
    (init directory label platform).outcome d =
      (.error ("Device already initialized. Delete " ++ configPath directory ++ " to reinitialize."), d) := by
  unfold init
  rw [outcome_call_bind, effect_read]
  dsimp only
  split
  · exact absurd ‹_› h
  · rfl

/-- Where there is no configuration, a setup writes one and then reports in some lines. -/
theorem init_of_missing (h : d.tree.read (configPath directory) = .missing)
    (htext : (initialConfig directory label platform).render? = some text) :
    ∃ lines, (init directory label platform).outcome d =
      (do
        ensure "Failed to save configuration" (← call (.write (configPath directory) (Bytes.ofText text)))
        print lines : CommandWork Unit).outcome d := by
  unfold init
  rw [outcome_call_bind, effect_read, h]
  dsimp only
  rw [htext]
  exact ⟨_, rfl⟩

theorem outcome_write {path fault : String} {bytes : Bytes} (w : CommandWork α) (d : Desk) :
    (do
      ensure fault (← call (.write path bytes))
      w : CommandWork α).outcome d =
        match d.tree.write path bytes with
        | none => (.error fault, d)
        | some tree => w.outcome { d with tree } := by
  have heffect : FileCall.effect (.write path bytes) d =
    FileCall.effect.change d (d.tree.write path bytes) := rfl
  rw [outcome_call_bind, heffect]
  cases d.tree.write path bytes with
  | none => rfl
  | some tree => rfl

theorem exists_render?_initialConfig (directory label : String) (platform : Option String) :
    ∃ text, (initialConfig directory label platform).render? = some text :=
  have hdefaults : ({} : Config).IsWritable := ⟨by decide, by decide, by decide⟩
  Option.isSome_iff_exists.mp ((Config.isSome_render?_iff _).mpr
    ⟨hdefaults.capacity, hdefaults.initial, hdefaults.max⟩)

/-- There is a directory, and it has no configuration. -/
def AwaitsSetup (d : Desk) (directory : String) : Prop :=
  d.tree.isDirectory (d.tree.resolve directory) = true ∧ d.tree.read (configPath directory) = .missing

/-- A setup writes the configuration, or it ends with a fault and changes nothing. -/
theorem init_cases (directory label : String) (platform : Option String) (d : Desk) :
    (AwaitsSetup d directory ∧ ((init directory label platform).outcome d).1 = .ok () ∧
      ∃ text, (initialConfig directory label platform).render? = some text ∧
        ((init directory label platform).outcome d).2.tree.read (configPath directory) =
          .file (Bytes.ofText text)) ∨
    (¬ AwaitsSetup d directory ∧ ∃ fault, (init directory label platform).outcome d = (.error fault, d)) := by
  by_cases hmissing : d.tree.read (configPath directory) = .missing
  · obtain ⟨text, htext⟩ := exists_render?_initialConfig directory label platform
    obtain ⟨lines, hinit⟩ := init_of_missing hmissing htext
    have hplain : FileTree.IsPlain "mdsync.toml" := by decide
    have hfree := FileTree.write_join_isSome_iff hplain hmissing (Bytes.ofText text)
    rw [outcome_write] at hinit
    cases hwrite : d.tree.write (configPath directory) (Bytes.ofText text) with
    | none =>
      rw [hwrite] at hinit
      refine .inr ⟨fun hawaits => ?_, _, hinit⟩
      have hsome := hfree.mpr hawaits.1
      unfold configPath at hwrite
      rw [hwrite] at hsome
      exact nomatch hsome
    | some tree =>
      rw [hwrite] at hinit
      obtain ⟨hended, htree⟩ := outcome_print lines { d with tree }
      refine .inl ⟨⟨hfree.mp (Option.isSome_of_mem hwrite), hmissing⟩, hinit ▸ hended, text, htext, ?_⟩
      rw [hinit, htree]
      exact FileTree.read_of_write hwrite
  · exact .inr ⟨fun hawaits => hmissing hawaits.2, _, init_of_present hmissing⟩

/-! ## 3. Loading afterwards -/

theorem loadConfig_of_file (hread : d.tree.read (configPath directory) = .file (Bytes.ofText text))
    (htext : c.render? = some text) : (loadConfig directory).outcome d = (.ok c, d) := by
  unfold loadConfig
  rw [outcome_call_bind, effect_read, hread]
  dsimp only
  rw [Config.ofFile_render? htext]
  rfl

/-- What is written for a configuration is read as this configuration, whatever its texts hold. So the
configuration of a directory that was set up is loaded with the label and the platform of the setup, with
a database in this directory, and with defaults elsewhere. -/
theorem configuration_reads_back :
    (∀ c : Config, c.IsWritable →
      ∃ text, c.render? = some text ∧ ∀ path, Config.ofFile path (some (Bytes.ofText text)) = .ok c) ∧
    ∀ (d : Desk) (directory label : String) (platform : Option String),
      let setup := (init directory label platform).outcome d
      (setup.1 = .ok () ↔ AwaitsSetup d directory) ∧
      (setup.1 = .ok () → ((loadConfig directory).outcome setup.2).1 = .ok {
        device := { label, platform }
        storage := { database := databasePath directory } }) ∧
      ∀ t : FileTree, t.resolve (databasePath directory) = t.resolve directory ++ ["mdsync.db"] := by
  refine ⟨fun c hc => ?_, fun d directory label platform => ?_⟩
  · obtain ⟨text, htext⟩ := Option.isSome_iff_exists.mp ((Config.isSome_render?_iff c).mpr hc)
    exact ⟨text, htext, Config.ofFile_render? htext⟩
  · have hinside (t : FileTree) : t.resolve (databasePath directory) = t.resolve directory ++ ["mdsync.db"] :=
      FileTree.resolve_join (by decide) t directory
    rcases init_cases directory label platform d with ⟨hawaits, hended, text, htext, hread⟩ |
        ⟨hrefused, fault, hfault⟩
    · refine ⟨iff_of_true hended hawaits, fun _ => ?_, hinside⟩
      exact congrArg Prod.fst (loadConfig_of_file hread htext)
    · have hnot : ((init directory label platform).outcome d).1 ≠ .ok () := by
        rw [hfault]
        exact nofun
      exact ⟨iff_of_false hnot hrefused, fun hended => absurd hended hnot, hinside⟩

/-- A configuration whose texts hold quotes, line ends and characters that have to be escaped. -/
def oddConfig : Config where
  device := { label := "it's \"\"\"Ada\\Grace'''\n\tπ\x00\x7f", platform := some "" }
  tasks := { queueCapacity := 9223372036854775807, maxRetries := 4294967295 }
  storage := { database := "C:\\data\\'mdsync'.db\r\n" }

def quotedDirectory : String := "Ada's \"π\""

/-- A current directory with a data directory in it. -/
def quotedDesk : Desk := { tree := { current := ["home"], directories := [["home", quotedDirectory]] } }

theorem resolve_quotedDirectory : quotedDesk.tree.resolve quotedDirectory = ["home", quotedDirectory] :=
  FileTree.IsPlain.resolve (by decide) quotedDesk.tree

theorem quotedDesk_awaitsSetup : AwaitsSetup quotedDesk quotedDirectory := by
  have hfile : quotedDesk.tree.resolve (configPath quotedDirectory) =
      ["home", quotedDirectory] ++ ["mdsync.toml"] := by
    rw [← resolve_quotedDirectory]
    exact FileTree.resolve_join (by decide) _ _
  have hnamed : configPath quotedDirectory ≠ "" := FileTree.join_ne_empty (by decide) quotedDirectory
  refine ⟨?_, (FileTree.read_eq_missing_iff hnamed).mpr ?_⟩
  · rw [resolve_quotedDirectory]
    decide
  · show _ ∧ quotedDesk.tree.isDirectory (quotedDesk.tree.resolve (configPath quotedDirectory)) = false
    rw [hfile]
    decide

theorem odd_configuration_reads_back :
    (∃ text, oddConfig.render? = some text ∧
      ∀ path, Config.ofFile path (some (Bytes.ofText text)) = .ok oddConfig) ∧
    ((loadConfig quotedDirectory).outcome
        ((init quotedDirectory oddConfig.device.label none).outcome quotedDesk).2).1 = .ok {
      device := { label := oddConfig.device.label }
      storage := { database := databasePath quotedDirectory } } ∧
    quotedDesk.tree.resolve (databasePath quotedDirectory) = ["home", "Ada's \"π\"", "mdsync.db"] := by
  have hwritable : oddConfig.IsWritable := ⟨by decide, by decide, by decide⟩
  obtain ⟨hended, hloaded, hinside⟩ :=
    configuration_reads_back.2 quotedDesk quotedDirectory oddConfig.device.label none
  refine ⟨configuration_reads_back.1 oddConfig hwritable, hloaded (hended.mpr quotedDesk_awaitsSetup), ?_⟩
  rw [hinside, resolve_quotedDirectory]
  rfl

end CommandWork

end DeviceSync
