import ServiceCatalog.CommandLine.Run
import ServiceCatalog.Proofs.Catalog.Validity
import ServiceCatalog.Proofs.Description.Loading
import ServiceCatalog.Proofs.Generation.Writing

/-!
# What a run of the command leaves

A run first finds out what it is to write: it reads the description, loads the catalog, and
generates the package (`Command.package`).  All of that leaves the files as they are.  Only when the
package is there, and the run is no dry one, are files written, and from then on a run fails only
because a file cannot be written (`failsToWrite_writeOut`).

Catalogs that are known by name are no descriptions, and nothing checks them when they are found.
But there is only one, and it keeps to the rules (`validate_of_find?`).

So a run that is refused for any other reason, or that is dry, leaves everything as it was.  Loading
the catalog comes first, so a fault of the description is reported whatever the settings are; and
since a catalog that was loaded is consistent, generating finds no fault of that kind any more
(`rejected_runs_leave_everything`).
-/

namespace ServiceCatalog.CommandLine

set_option autoImplicit false

open Generation

variable {tree after : FileTree} {command : Command} {source : DescriptionSource}

/-! ## Finding out what to write -/

/-- The text of a file, as the files are. -/
def textIn (tree : FileTree) (path : String) : Except FileError String :=
  match tree.read path with
  | .error cause => .error cause
  | .ok octets =>
      match Text.decode? octets with
      | none => .error .notUtf8
      | some characters => .ok (String.ofList characters)

/-- The catalog of a description, as the files are. -/
def DescriptionSource.catalogIn (tree : FileTree) :
    DescriptionSource → Except GenerationError Catalog
  | .file path => do
      let text ← (textIn tree path).mapError (.unreadable path)
      (Description.loadText (.ofPath path) text).mapError .description
  | .builtin name => findBuiltin name

/-- The package that a run is to write, as the files are. -/
def Command.package (command : Command) (tree : FileTree) : Except GenerationError Package := do
  generate (← command.source.catalogIn tree) command.settings

theorem runOn_readText (tree : FileTree) (path : String) :
    OnTree.runOn (readText path).run tree = (textIn tree path, tree) := by
  have reads : OnTree.runOn (ExceptT.mk (FileAccess.read path)).run tree =
      (tree.read path, tree) := rfl
  rw [readText, OnTree.runOn_bind_except, reads, textIn]
  cases tree.read path with
  | error cause => rfl
  | ok octets =>
      dsimp only
      cases Text.decode? octets <;> rfl

theorem runOn_catalog (source : DescriptionSource) (tree : FileTree) :
    OnTree.runOn source.catalog.run tree = (source.catalogIn tree, tree) := by
  cases source with
  | builtin name => rfl
  | file path =>
      rw [DescriptionSource.catalog, readDescription, OnTree.runOn_bind_except, OnTree.runOn_adapt,
        runOn_readText, DescriptionSource.catalogIn]
      cases textIn tree path <;> rfl

/-! ## Writing it out -/

/-- What a run does with a package that it is to write. -/
def Command.writeOut (command : Command) (package : Package) :
    ExceptT GenerationError OnTree String := do
  package.write command.output
  writeManifest command.settings (packageDirectory command.output)
  return ""

/-- What a dry run shows of a package. -/
def Command.shown (command : Command) (package : Package) : String :=
  String.join ((package.sources ++ [(manifestName, manifest command.settings)]).map shownFile)

/-- **A run finds out what to write, and then shows it or writes it.** -/
theorem runOn_run (command : Command) (tree : FileTree) :
    OnTree.runOn command.run.run tree =
      match command.package tree with
      | .error cause => (.error cause, tree)
      | .ok package =>
          if command.dryRun then (.ok (command.shown package), tree)
          else OnTree.runOn (command.writeOut package).run tree := by
  rw [Command.run, OnTree.runOn_bind_except, runOn_catalog, Command.package]
  cases command.source.catalogIn tree with
  | error cause => rfl
  | ok catalog =>
      dsimp only
      rw [OnTree.runOn_bind_except, OnTree.runOn_mk_pure]
      show _ = match generate catalog command.settings with | .error _ => _ | .ok _ => _
      cases generate catalog command.settings with
      | error cause => rfl
      | ok package =>
          dsimp only
          cases command.dryRun <;> rfl

/-! ## Failing to write -/

/-- A program fails only because a file cannot be written. -/
def FailsToWrite {α : Type} (program : ExceptT GenerationError OnTree α) : Prop :=
  ∀ tree cause, (OnTree.runOn program.run tree).1 = .error cause →
    ∃ path fault, cause = .unwritable path fault

theorem failsToWrite_pure {α : Type} (value : α) :
    FailsToWrite (pure value : ExceptT GenerationError OnTree α) := by
  intro tree cause failed
  cases failed

theorem FailsToWrite.bind {α β : Type} {first : ExceptT GenerationError OnTree α}
    {next : α → ExceptT GenerationError OnTree β} (starts : FailsToWrite first)
    (others : ∀ value, FailsToWrite (next value)) : FailsToWrite (first >>= next) := by
  intro tree cause failed
  rw [OnTree.runOn_bind_except] at failed
  have start := starts tree
  generalize OnTree.runOn first.run tree = ended at failed start
  obtain ⟨_ | value, middle⟩ := ended
  · cases failed
    exact start _ rfl
  · exact others value middle cause failed

theorem failsToWrite_writeFile (path content : String) : FailsToWrite (writeFile path content) := by
  intro tree cause failed
  rw [runOn_writeFile] at failed
  obtain ⟨failure, -, rfl⟩ := mapError_eq_error.mp failed
  exact ⟨_, _, rfl⟩

/-- **Once a run writes, it fails only because a file cannot be written.** -/
theorem failsToWrite_writeOut (command : Command) (package : Package) :
    FailsToWrite (command.writeOut package) := by
  have writes : FailsToWrite (package.write command.output) := by
    rw [write_eq]
    exact (failsToWrite_writeFile _ _).bind fun _ => (failsToWrite_writeFile _ _).bind fun _ =>
      failsToWrite_pure ()
  exact writes.bind fun _ => (failsToWrite_writeFile _ _).bind fun _ => failsToWrite_pure ""

/-! ## Faults of the description -/

/-- Loading the description fails: its file can be read, but gives no catalog. -/
def DescriptionSource.FailsToLoad (tree : FileTree) (cause : CatalogError)
    (source : DescriptionSource) : Prop :=
  ∃ path text, source = .file path ∧ textIn tree path = .ok text ∧
    Description.loadText (.ofPath path) text = .error cause

/-- Finding the catalog finds a fault of the description if loading it does. -/
theorem catalogIn_eq_description {cause : CatalogError} :
    source.catalogIn tree = .error (.description cause) ↔ source.FailsToLoad tree cause := by
  cases source with
  | builtin name =>
      constructor
      · intro failed
        rw [DescriptionSource.catalogIn, findBuiltin] at failed
        split at failed <;> cases failed
      · rintro ⟨_, _, ⟨⟩, -⟩
  | file path =>
      rw [DescriptionSource.catalogIn]
      cases read : textIn tree path with
      | error fault =>
          constructor
          · rintro ⟨⟩
          · rintro ⟨_, _, ⟨⟩, there, -⟩
            cases read.symm.trans there
      | ok text =>
          constructor
          · intro failed
            obtain ⟨_, load, same⟩ := mapError_eq_error.mp failed
            cases same
            exact ⟨path, text, rfl, read, load⟩
          · rintro ⟨_, _, ⟨⟩, there, load⟩
            cases read.symm.trans there
            exact mapError_eq_error.mpr ⟨cause, load, rfl⟩

/-- The one catalog that is known by name keeps to the rules. -/
theorem validate_rules : Builtin.rules.validate = .ok () := by
  decide +kernel

/-- A catalog that is found by its name is consistent. -/
theorem validate_of_find? {name : String} {catalog : Catalog}
    (found : Builtin.find? name = some catalog) : catalog.validate = .ok () := by
  have known := mem_of_lookup_eq_some found
  obtain ⟨-, rfl⟩ := Prod.mk.inj (List.mem_singleton.mp known)
  exact validate_rules

/-- A catalog that was found is consistent. -/
theorem validate_of_catalogIn {catalog : Catalog} (found : source.catalogIn tree = .ok catalog) :
    catalog.validate = .ok () := by
  cases source with
  | builtin name =>
      rw [DescriptionSource.catalogIn, findBuiltin] at found
      split at found
      · next known =>
          cases found
          exact validate_of_find? known
      · cases found
  | file path =>
      simp only [DescriptionSource.catalogIn, bind_eq_ok, mapError_eq_ok] at found
      obtain ⟨text, -, loaded⟩ := found
      exact Description.validate_of_loadText loaded

/-- Generating finds no fault in a consistent catalog. -/
theorem generate_ne_description {catalog : Catalog} {settings : Settings} {cause : CatalogError}
    (valid : catalog.validate = .ok ()) :
    generate catalog settings ≠ .error (.description cause) := by
  have checked : ∀ file, checkFile file ≠ .error (.description cause) := by
    intro file
    rw [checkFile]
    cases file.impossibleName? <;> cases file.reservedName? <;> simp
  refine bind_ne_error (resolve_ne_error id ?_) fun _ => bind_ne_error (checked _) fun _ =>
    bind_ne_error (checked _) fun _ => ok_ne_error
  rw [valid]
  exact ok_ne_error

theorem package_eq_description {cause : CatalogError} :
    command.package tree = .error (.description cause) ↔
      command.source.FailsToLoad tree cause := by
  rw [← catalogIn_eq_description, Command.package]
  cases found : command.source.catalogIn tree with
  | error fault =>
      show (Except.error fault : Except GenerationError Package) = _ ↔ _
      simp
  | ok catalog =>
      exact ⟨fun failed => absurd failed (generate_ne_description (validate_of_catalogIn found)),
        fun failed => absurd failed ok_ne_error⟩

/-! ## Runs that are rejected -/

theorem tree_of_dryRun (dry : command.dryRun = true) :
    (OnTree.runOn command.run.run tree).2 = tree := by
  rw [runOn_run]
  cases command.package tree with
  | error cause => rfl
  | ok package => simp only [dry, if_true]

theorem tree_of_error {error : GenerationError}
    (failed : (OnTree.runOn command.run.run tree).1 = .error error)
    (other : ∀ path cause, error ≠ .unwritable path cause) :
    (OnTree.runOn command.run.run tree).2 = tree := by
  rw [runOn_run] at failed ⊢
  cases found : command.package tree with
  | error cause => rfl
  | ok package =>
      simp only [found] at failed ⊢
      -- A dry run ends with a text, so only a run that writes is left.
      split_ifs at failed ⊢
      obtain ⟨path, cause, rfl⟩ := failsToWrite_writeOut command package tree error failed
      exact absurd rfl (other path cause)

/-- A run reports a fault of the description exactly if loading it fails. -/
theorem description_iff {cause : CatalogError} :
    (OnTree.runOn command.run.run tree).1 = .error (.description cause) ↔
      command.source.FailsToLoad tree cause := by
  rw [runOn_run, ← package_eq_description]
  cases command.package tree with
  | error fault => simp
  | ok package =>
      refine ⟨fun failed => ?_, fun failed => absurd failed ok_ne_error⟩
      dsimp only at failed
      split_ifs at failed
      obtain ⟨_, _, ⟨⟩⟩ := failsToWrite_writeOut command package tree _ failed

/-- What is left of a run that ends with a result. -/
def leftBy : Except GenerationError String → Outcome
  | .ok output => ⟨0, output, ""⟩
  | .error error => errorOutcome error

/-- The program does what the command does that its arguments ask for. -/
theorem runOn_arguments (arguments : List String) (tree : FileTree) :
    OnTree.runOn (run arguments) tree =
      match readCommand arguments with
      | .error stop => (stop.outcome, tree)
      | .ok command =>
          (leftBy (OnTree.runOn command.run.run tree).1, (OnTree.runOn command.run.run tree).2) := by
  rw [run]
  cases readCommand arguments with
  | error stop => rfl
  | ok command =>
      dsimp only
      rw [OnTree.runOn_bind]
      rcases OnTree.runOn command.run.run tree with ⟨_ | _, _⟩ <;> rfl

/-- **Rejected runs leave everything as it was.**

A command that is dry, or ends with any error but that a file cannot be written, leaves the files as
they were.  It ends with a fault of the description exactly if loading the description fails, and
then with the same fault, whatever its settings are.  The program leaves what its command leaves,
and nothing changes if its arguments make no command. -/
theorem rejected_runs_leave_everything (tree : FileTree) :
    (∀ command : Command,
      let ended := OnTree.runOn command.run.run tree
      (command.dryRun = true → ended.2 = tree) ∧
      (∀ error, ended.1 = .error error → (∀ path cause, error ≠ .unwritable path cause) →
        ended.2 = tree) ∧
      ∀ cause, ended.1 = .error (.description cause) ↔
        command.source.FailsToLoad tree cause) ∧
    ∀ arguments, OnTree.runOn (run arguments) tree =
      match readCommand arguments with
      | .error stop => (stop.outcome, tree)
      | .ok command =>
          (leftBy (OnTree.runOn command.run.run tree).1,
            (OnTree.runOn command.run.run tree).2) :=
  ⟨fun _ => ⟨tree_of_dryRun, fun _ failed other => tree_of_error failed other,
    fun _ => description_iff⟩, fun arguments => runOn_arguments arguments tree⟩

/-- An empty object is no description.  A command for it reports that, although its settings are
unusable too, and writes nothing. -/
theorem empty_descriptions_write_nothing :
    let tree := FileTree.empty.withFile "api.json" (Text.encode "\x7b\x7d".toList)
    let command : Command := ⟨.file "api.json", "src", { Settings.standard with paramsSuffix := "" },
      false⟩
    let fault := CatalogError.malformed "/swagger" (.missingField "swagger")
    command.settings.validate = .error (.badSuffix "" .empty) ∧
      command.source.FailsToLoad tree fault ∧
      (OnTree.runOn command.run.run tree).1 = .error (.description fault) ∧
      (OnTree.runOn command.run.run tree).2 = tree := by
  intro tree command fault
  have loads : command.source.FailsToLoad tree fault :=
    ⟨"api.json", "\x7b\x7d", rfl, rfl, by decide +kernel⟩
  obtain ⟨-, refused, reported⟩ := (rejected_runs_leave_everything tree).1 command
  have ended := (reported fault).mpr loads
  exact ⟨rfl, loads, ended, refused _ ended (by simp)⟩

end ServiceCatalog.CommandLine
