import ServiceCatalog.Generation.Manifest
import ServiceCatalog.Proofs.Files.Access
import ServiceCatalog.Proofs.Generation.Identifiers
import ServiceCatalog.Proofs.Source.Layout
import ServiceCatalog.Proofs.Text.Utf8

/-!
# The files of a written package

The sources of a package are written one after the other into one directory.  Each is there when
the writing has succeeded, provided that the second does not take the place of the first: the names
under which they are written first are those of no source, so that only their own names matter
(`written_packages_hold_their_sources`).

The name of the module is checked to be a name that can stand in a source.  But `lib` is such a
name, and its file is the root file (`module_replaces_root_file`).
-/

namespace ServiceCatalog.Generation

set_option autoImplicit false

open Source

variable {path content directory : String} {tree after : FileTree} {package : Package}
  {catalog : Catalog} {settings : Settings}

/-! ## Writing files -/

theorem runOn_writeFile (path content : String) (tree : FileTree) :
    OnTree.runOn (writeFile path content).run tree =
      ((OnTree.runOn (writeWhole path content) tree).1.mapError fun failure =>
          .unwritable failure.path failure.cause,
        (OnTree.runOn (writeWhole path content) tree).2) := rfl

theorem runOn_writeFile_eq_ok :
    OnTree.runOn (writeFile path content).run tree = (.ok (), after) ↔
      OnTree.runOn (writeWhole path content) tree = (.ok (), after) := by
  rw [runOn_writeFile]
  rcases OnTree.runOn (writeWhole path content) tree with ⟨_ | _, _⟩ <;> simp [Except.mapError]

/-- A package is written by writing the root file and then that of the module. -/
theorem write_eq (package : Package) (directory : String) :
    (package.write directory : ExceptT GenerationError OnTree Unit) =
      writeFile (Path.below directory rootFileName) package.root.text >>= fun _ =>
        writeFile (Path.below directory package.moduleFileName) package.client.text >>= fun _ =>
          pure () := rfl

theorem runOn_write_eq_ok :
    OnTree.runOn (package.write directory).run tree = (.ok (), after) ↔
      ∃ middle, OnTree.runOn (writeWhole (Path.below directory rootFileName) package.root.text)
          tree = (.ok (), middle) ∧
        OnTree.runOn (writeWhole (Path.below directory package.moduleFileName)
          package.client.text) middle = (.ok (), after) := by
  simp only [write_eq, OnTree.runOn_bind_eq_ok]
  constructor
  · rintro ⟨_, middle, root, _, last, client, same⟩
    cases same
    exact ⟨middle, runOn_writeFile_eq_ok.mp root, runOn_writeFile_eq_ok.mp client⟩
  · rintro ⟨middle, root, client⟩
    exact ⟨(), middle, runOn_writeFile_eq_ok.mpr root, (), after, runOn_writeFile_eq_ok.mpr client,
      rfl⟩

/-! ## Names of sources -/

/-- A name without slashes that ends as those of sources do. -/
structure IsSourceName (name : String) : Prop where
  flat : '/' ∉ name.toList
  ends : ".rs".toList <:+ name.toList

theorem isSourceName_root : IsSourceName rootFileName := ⟨by decide, by decide⟩

/-- A source is written first under a name that no source has. -/
theorem IsSourceName.ne_temporaryName {name : String} (source : IsSourceName name)
    (other : List Char) : name ≠ String.ofList (temporaryName other) := by
  rintro rfl
  obtain ⟨start, whole⟩ := source.ends
  have last := congrArg List.getLast? whole
  simp [temporaryName] at last

/-- What is generated belongs to names that follow from the catalog and the settings. -/
theorem exists_follow_of_generate (generated : generate catalog settings = .ok package) :
    ∃ names, Names.Follow catalog settings names ∧ package =
      ⟨rootFile catalog names, names.moduleName ++ ".rs", moduleFile catalog names⟩ := by
  simp only [generate, bind_eq_ok, Names.resolve_eq_ok, checkFile_eq_ok] at generated
  obtain ⟨names, follow, _, ⟨-, rfl⟩, _, ⟨-, rfl⟩, same⟩ := generated
  exact ⟨names, follow, (Except.ok.inj same).symm⟩

/-- The file of a module has the name of a source. -/
theorem isSourceName_of_generate (generated : generate catalog settings = .ok package) :
    IsSourceName package.moduleFileName := by
  obtain ⟨names, follow, rfl⟩ := exists_follow_of_generate generated
  have plain := follow.pathName
  simp only [Settings.isModuleName, Bool.and_eq_true, List.all_eq_true] at plain
  refine ⟨fun slash => ?_, ⟨names.moduleName.toList, String.toList_append.symm⟩⟩
  rw [String.toList_append] at slash
  rcases List.mem_append.mp slash with within | ending
  · exact absurd (plain.1.2 '/' within) (by decide)
  · exact absurd ending (by decide)

/-! ## Written packages -/

/-- **The files of a written package hold its sources.**  Whatever the tree was, when a package was
generated and its writing has succeeded, the file of the module holds the module.  The root file
holds the root, unless the module has its name. -/
theorem written_packages_hold_their_sources (generated : generate catalog settings = .ok package)
    (written : OnTree.runOn (package.write directory).run tree = (.ok (), after)) :
    after.read (Path.below directory package.moduleFileName) =
        .ok (Text.encode package.client.text.toList) ∧
      (package.moduleFileName ≠ rootFileName →
        after.read (Path.below directory rootFileName) =
          .ok (Text.encode package.root.text.toList)) := by
  have source := isSourceName_of_generate generated
  obtain ⟨middle, root, client⟩ := runOn_write_eq_ok.mp written
  obtain ⟨splitRoot, rootIsName, rootThere, -⟩ :=
    of_writeWhole (Path.segments_below directory isSourceName_root.flat) root
  obtain ⟨-, -, clientThere, touched⟩ :=
    of_writeWhole (Path.segments_below directory source.flat) client
  refine ⟨clientThere, fun differ => touched.read splitRoot rootIsName ?_ rootThere⟩
  -- The second file is neither written nor moved to where the first is.
  rw [String.ofList_toList, String.ofList_toList]
  rintro (same | same)
  · exact differ same.symm
  · exact isSourceName_root.ne_temporaryName _ same

/-! ## Two packages -/

/-- A tree with one directory, that of the sources, and some files in it. -/
def sourceTree (files : List (String × String)) : FileTree where
  nodes := (["src"], .directory) :: files.map fun (name, text) =>
    (["src", name], .file (Text.encode text.toList))

/-- The root file can be written where nothing is. -/
theorem root_into_empty (text : String) :
    OnTree.runOn (writeWhole (Path.below "src" rootFileName) text) FileTree.empty =
      (.ok (), sourceTree [(rootFileName, text)]) := rfl

set_option maxRecDepth 2000 in
/-- The client of shops is written into a directory of its own, and both of its files are there. -/
theorem shops_are_written :
    ∃ package after, generate (Catalog.titled "Shops") .standard = .ok package ∧
      OnTree.runOn (package.write "src").run FileTree.empty = (.ok (), after) ∧
      package.moduleFileName = "shops.rs" ∧ package.moduleFileName ≠ rootFileName ∧
      after.read "src/shops.rs" = .ok (Text.encode package.client.text.toList) ∧
      after.read "src/lib.rs" = .ok (Text.encode package.root.text.toList) := by
  obtain ⟨package, generated, named⟩ : ∃ package,
      generate (Catalog.titled "Shops") .standard = .ok package ∧
        package.moduleFileName = "shops.rs" := ⟨_, rfl, rfl⟩
  have module (first second : String) :
      OnTree.runOn (writeWhole "src/shops.rs" second) (sourceTree [(rootFileName, first)]) =
        (.ok (), sourceTree [(rootFileName, first), ("shops.rs", second)]) := rfl
  have path : Path.below "src" package.moduleFileName = "src/shops.rs" := named ▸ rfl
  have differ : package.moduleFileName ≠ rootFileName := by
    rw [named]
    decide
  have written : OnTree.runOn (package.write "src").run FileTree.empty = (.ok (), _) :=
    runOn_write_eq_ok.mpr ⟨_, root_into_empty _, path ▸ module _ _⟩
  obtain ⟨client, root⟩ := written_packages_hold_their_sources generated written
  exact ⟨package, _, generated, written, named, differ, path ▸ client, root differ⟩

/-- The sources of that client begin with different lines. -/
theorem root_text_ne_module_text (names : Names) :
    (rootFile (Catalog.titled "Lib") names).text ≠ (moduleFile (Catalog.titled "Lib") names).text := by
  obtain ⟨_, root⟩ := @File.text_of_docs (rootFile (Catalog.titled "Lib") names)
    " Generated client for Lib." _ rfl (by decide)
  obtain ⟨_, module⟩ := @File.text_of_docs (moduleFile (Catalog.titled "Lib") names)
    " Generated API client for Lib." _ rfl (by decide)
  have plain : withoutBlanks " Generated client for Lib." = " Generated client for Lib." ∧
      withoutBlanks " Generated API client for Lib." = " Generated API client for Lib." := by
    decide
  rw [root, module, plain.1, plain.2]
  intro same
  have letter := congrArg (fun text => text.toList[14]?) (String.append_right_inj _ |>.mp same)
  simp at letter

set_option maxRecDepth 2000 in
/-- **The module can take the place of the root file.**  The client of a catalog with the title
`Lib` is generated, and writing it succeeds, but the root file holds the module. -/
theorem module_replaces_root_file :
    ∃ package after, generate (Catalog.titled "Lib") .standard = .ok package ∧
      OnTree.runOn (package.write "src").run FileTree.empty = (.ok (), after) ∧
      after.read "src/lib.rs" = .ok (Text.encode package.client.text.toList) ∧
      after.read "src/lib.rs" ≠ .ok (Text.encode package.root.text.toList) := by
  obtain ⟨package, generated, named⟩ : ∃ package,
      generate (Catalog.titled "Lib") .standard = .ok package ∧
        package.moduleFileName = rootFileName := ⟨_, rfl, rfl⟩
  have module (first second : String) :
      OnTree.runOn (writeWhole "src/lib.rs" second) (sourceTree [(rootFileName, first)]) =
        (.ok (), sourceTree [(rootFileName, second)]) := rfl
  have path : Path.below "src" package.moduleFileName = "src/lib.rs" := named ▸ rfl
  have written : OnTree.runOn (package.write "src").run FileTree.empty = (.ok (), _) :=
    runOn_write_eq_ok.mpr ⟨_, root_into_empty _, path ▸ module _ _⟩
  have holds (text : String) : (sourceTree [(rootFileName, text)]).read "src/lib.rs" =
      .ok (Text.encode text.toList) := rfl
  refine ⟨package, _, generated, written, holds _, fun held => ?_⟩
  obtain ⟨names, -, rfl⟩ := exists_follow_of_generate generated
  have same := Text.encode_injective (Except.ok.inj ((holds _).symm.trans held))
  exact root_text_ne_module_text names (String.toList_injective same).symm

end ServiceCatalog.Generation
