import ServiceCatalog.Generation.Manifest
import ServiceCatalog.Proofs.Generation.Names
import ServiceCatalog.Proofs.Numeric.Digits
import ServiceCatalog.Proofs.Text.Lines
import ServiceCatalog.Proofs.Toml.Reading

/-!
# The manifest is read back

The manifest is a document in TOML: it is cut into the lines that were written
(`lines_manifest`), and each of them is read for itself.  The name of the package and the path of
the runtime library are found where they belong if every character of the path is portable.  The
path is quoted as it is in messages, and one character that is not portable is enough for the whole
manifest to be refused (`read_manifest`).
-/

namespace ServiceCatalog.Generation

set_option autoImplicit false

variable {settings : Settings} {path : String}

/-! ## Quoted texts -/

/-- A line feed is always escaped. -/
theorem newline_notMem_quotedChar (character : Char) : '\n' ∉ Text.quotedChar character := by
  rw [Text.quotedChar]
  split_ifs with quote backslash feed tab carriage null printable
  · decide
  · decide
  · decide
  · decide
  · decide
  · decide
  · exact fun member => feed (List.mem_singleton.mp member).symm
  · intro member
    rw [List.mem_append, List.mem_append] at member
    rcases member with (opened | within) | closed
    · exact absurd opened (by decide)
    · obtain ⟨digit, small, same⟩ := Numeric.exists_hexDigit_of_mem_hexDigits within
      have others : ∀ digit < 16, Numeric.hexDigit digit ≠ '\n' := by decide
      exact others digit small same
    · exact absurd closed (by decide)

theorem newline_notMem_quoted (text : String) : '\n' ∉ (Text.quoted text).toList := by
  rw [Text.quoted, String.toList_ofList, List.mem_append, List.mem_cons, List.mem_flatMap]
  rintro ((opened | ⟨character, -, within⟩) | closed)
  · exact absurd opened (by decide)
  · exact newline_notMem_quotedChar character within
  · exact absurd closed (by decide)

/-! ## The lines of the manifest -/

theorem isBare_of_mem_packageName (accepted : settings.validate = .ok ()) :
    ∀ character ∈ settings.packageName.toList, Toml.isBare character = true := by
  obtain ⟨-, -, -, name⟩ := validate_eq_ok.mp accepted
  rw [Settings.isPackageName, Bool.and_eq_true, List.all_eq_true] at name
  exact name.2

theorem newline_notMem_runtimeSource (settings : Settings) :
    '\n' ∉ (runtimeSource settings).toList := by
  rw [runtimeSource]
  split
  · next path _ => simp [newline_notMem_quoted path]
  · exact newline_notMem_quoted runtimeVersion

/-- A text ends like its last part. -/
theorem getLast?_append_of_getLast? {front back : String} {last : Char}
    (ends : back.toList.getLast? = some last) : (front ++ back).toList.getLast? = some last := by
  rw [String.toList_append, List.getLast?_append, ends]
  rfl

/-- The place of the runtime library ends with a brace or a quote. -/
theorem getLast?_runtimeSource (settings : Settings) :
    (runtimeSource settings).toList.getLast? = some '\x7d' ∨
      (runtimeSource settings).toList.getLast? = some '"' := by
  rw [runtimeSource]
  split
  · exact .inl (getLast?_append_of_getLast? rfl)
  · right
    rw [Text.quoted, String.toList_ofList, List.getLast?_concat]

/-- **The manifest is cut into the lines that were written.** -/
theorem lines_manifest (accepted : settings.validate = .ok ()) :
    Text.lines (manifest settings) = manifestLines settings := by
  have name : '\n' ∉ settings.packageName.toList := fun member =>
    absurd (isBare_of_mem_packageName accepted '\n' member) (by decide)
  have nameEnd : ("name = \"" ++ settings.packageName ++ "\"").toList.getLast? ≠ some '\r' :=
    ne_of_eq_of_ne (getLast?_append_of_getLast? rfl) (by decide : some '"' ≠ some '\r')
  have runtimeEnd : ("apibind-runtime = " ++ runtimeSource settings).toList.getLast? ≠
      some '\r' := by
    rcases getLast?_runtimeSource settings with brace | quote
    · exact ne_of_eq_of_ne (getLast?_append_of_getLast? brace) (by decide)
    · exact ne_of_eq_of_ne (getLast?_append_of_getLast? quote) (by decide)
  refine Text.lines_join ?_ ?_
  · simp [manifestLines, name, newline_notMem_runtimeSource settings]
  · simp only [manifestLines, List.forall_mem_cons]
    exact ⟨by decide, nameEnd, by decide, by decide, by decide, by decide, by decide, by decide,
      by decide, runtimeEnd, by decide, by decide, List.forall_mem_nil _⟩

theorem readLine_name (accepted : settings.validate = .ok ()) :
    Toml.readLine ("name = \"" ++ settings.packageName ++ "\"").toList =
      .ok (.pair ("name", .text settings.packageName)) := by
  have plain := fun character member =>
    Toml.isPlain_of_isBare (isBare_of_mem_packageName accepted character member)
  have text : Toml.readText ('"' :: (settings.packageName.toList ++ ['"'])) =
      .ok (.text settings.packageName, []) := by
    have read := Toml.readText_of_readString (Toml.readString_plain plain []) (by decide)
    rwa [String.ofList_toList] at read
  have whole : ("name = \"" ++ settings.packageName ++ "\"").toList =
      "name".toList ++ ' ' :: '=' :: ' ' :: '"' :: (settings.packageName.toList ++ ['"']) := by
    simp
  rw [whole, Toml.readLine_pair (by decide) (List.all_eq_true.mp (by decide))]
  change (Toml.readText ('"' :: (settings.packageName.toList ++ ['"'])) >>= _) = _
  rw [text]
  rfl

/-- The line of the runtime library is read back if the path is portable. -/
theorem readLine_runtime (path : String) :
    Toml.readLine ("apibind-runtime = " ++ ("\x7b path = " ++ Text.quoted path ++ " \x7d")).toList =
      if path.toList.all Toml.isPortable then
        .ok (.pair ("apibind-runtime", .table [("path", .text path)]))
      else .error .invalid := by
  have whole : ("apibind-runtime = " ++ ("\x7b path = " ++ Text.quoted path ++ " \x7d")).toList =
      "apibind-runtime".toList ++ ' ' :: '=' :: ' ' :: '\x7b' :: ' ' :: ("path".toList ++ ' ' ::
        '=' :: ' ' :: '"' :: (path.toList.flatMap Text.quotedChar ++ ['"', ' ', '\x7d'])) := by
    simp [Text.quoted]
  rw [whole, Toml.readLine_pair (by decide) (List.all_eq_true.mp (by decide))]
  have entry := @Toml.readValue_entry "path".toList (by decide)
    (List.all_eq_true.mp (by decide)) path.toList []
  change (Toml.readValue ('\x7b' :: _) >>= _) = _
  rw [entry]
  simp only [String.ofList_toList]
  cases path.toList.all Toml.isPortable <;> rfl

/-! ## The document -/

/-- What the manifest says, with the place of the runtime library. -/
def manifestDocument (settings : Settings) (runtime : Toml.Item) : Toml.Item :=
  .table [
    ("package", .table [
      ("name", .text settings.packageName),
      ("version", .text "0.1.0"),
      ("edition", .text "2024"),
      ("description", .text "Generated API client")]),
    ("workspace", .table []),
    ("dependencies", .table [
      ("apibind-runtime", runtime),
      ("serde", .text "1.0"),
      ("serde_json", .text "1.0")])]

theorem at?_manifestDocument_name (settings : Settings) (runtime : Toml.Item) :
    (manifestDocument settings runtime).at? ["package", "name"] =
      some (.text settings.packageName) := by
  simp [manifestDocument, Toml.Item.at?]

theorem at?_manifestDocument_runtime (settings : Settings) (runtime : Toml.Item)
    (keys : List String) :
    (manifestDocument settings runtime).at? ("dependencies" :: "apibind-runtime" :: keys) =
      runtime.at? keys := by
  simp [manifestDocument, Toml.Item.at?, List.lookup_cons]

/-- **The manifest is read back if the path is portable**, and refused otherwise. -/
theorem read_manifest (accepted : settings.validate = .ok ())
    (given : settings.runtimePath = some path) :
    Toml.read (manifest settings) =
      if path.toList.all Toml.isPortable then
        .ok (manifestDocument settings (.table [("path", .text path)]))
      else .error .invalid := by
  have runtime : runtimeSource settings = "\x7b path = " ++ Text.quoted path ++ " \x7d" := by
    rw [runtimeSource, given]
  rw [Toml.read, lines_manifest accepted, manifestLines, runtime]
  simp only [List.mapM_cons, List.mapM_nil, readLine_name accepted, readLine_runtime]
  cases path.toList.all Toml.isPortable <;> rfl

/-- **Portable paths are read from the manifest.**  Let settings be accepted that give a path of the
runtime library.

* If every character of the path is printable, a tab or a line break, the manifest is a document in
  TOML in which the package has its name and the runtime library its path, to the character.
* If one character is not, the manifest is no document: the path is quoted as it is in messages,
  and there the null character and code points have escapes that TOML does not have. -/
theorem portable_paths_are_read_from_the_manifest {settings : Settings} {path : String}
    (accepted : settings.validate = .ok ()) (given : settings.runtimePath = some path) :
    ((∀ character ∈ path.toList, Toml.isPortable character = true) →
      ∃ document, Toml.read (manifest settings) = .ok document ∧
        document.at? ["package", "name"] = some (.text settings.packageName) ∧
        document.at? ["dependencies", "apibind-runtime", "path"] = some (.text path)) ∧
    ((∃ character ∈ path.toList, Toml.isPortable character = false) →
      Toml.read (manifest settings) = .error .invalid) := by
  have read := read_manifest accepted given
  constructor
  · intro portable
    rw [if_pos (List.all_eq_true.mpr portable)] at read
    refine ⟨_, read, at?_manifestDocument_name settings _, ?_⟩
    rw [at?_manifestDocument_runtime]
    simp [Toml.Item.at?]
  · rintro ⟨character, member, other⟩
    refine read.trans (if_neg fun portable => ?_)
    rw [List.all_eq_true.mp portable character member] at other
    cases other

/-- Standard settings with a path of the runtime library. -/
def settingsWithRuntime (path : String) : Settings :=
  { Settings.standard with runtimePath := some path }

theorem validate_settingsWithRuntime (path : String) :
    (settingsWithRuntime path).validate = .ok () :=
  validate_eq_ok.mpr ⟨(by decide : Settings.checkSuffix Settings.standardSuffix = .ok ()), nofun,
    nofun, (by decide : Settings.isPackageName Settings.standardPackageName = true)⟩

/-- A path with quotes, backslashes and a line break is read back, and one with a null character
is not. -/
theorem quoted_path_is_read_from_the_manifest :
    (∃ document, Toml.read (manifest (settingsWithRuntime "C:\\my \"libs\"\n")) = .ok document ∧
      document.at? ["package", "name"] = some (.text "apibind-client") ∧
      document.at? ["dependencies", "apibind-runtime", "path"] =
        some (.text "C:\\my \"libs\"\n")) ∧
    Toml.read (manifest (settingsWithRuntime "libs\x00")) = .error .invalid := by
  have accepted := validate_settingsWithRuntime
  constructor
  · exact (portable_paths_are_read_from_the_manifest (accepted _) rfl).1
      (List.all_eq_true.mp (by decide))
  · exact (portable_paths_are_read_from_the_manifest (accepted _) rfl).2
      ⟨'\x00', by decide, by decide⟩

/-- A space that does not break lines is enough for the manifest to be no document. -/
theorem no_break_space_spoils_the_manifest :
    ¬ ∀ (settings : Settings) (path : String), settings.validate = .ok () →
      settings.runtimePath = some path →
        ∃ document, Toml.read (manifest settings) = .ok document ∧
          document.at? ["package", "name"] = some (.text settings.packageName) ∧
          document.at? ["dependencies", "apibind-runtime", "path"] = some (.text path) := by
  intro always
  have given : (settingsWithRuntime "my\u00a0libs").runtimePath = some "my\u00a0libs" := rfl
  obtain ⟨document, read, -⟩ := always _ _ (validate_settingsWithRuntime _) given
  rw [read_manifest (validate_settingsWithRuntime _) given, if_neg (by decide)] at read
  cases read

end ServiceCatalog.Generation
