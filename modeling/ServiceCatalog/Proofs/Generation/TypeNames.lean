import Mathlib.Data.List.Infix
import ServiceCatalog.Generation.Package
import ServiceCatalog.Proofs.Generation.Names

/-!
# Names of generated types

The generated sources name types of their own, the client and the structures of the operations,
beside names that they use: those that their imports bring in, and types that are there without
any import.  The types of their own have different names, but they are not held against the names
in use.

A structure has a suffix, so with a suffix that ends no name in use its name cannot be one of them
(`not_mem_of_suffix`).  The standard suffix is such a suffix.  Then only the client is in question
(`type_names_clash_only_at_the_client`), and a title alone can name it like an import
(`client_can_be_named_like_an_import`).
-/

namespace ServiceCatalog.Generation

set_option autoImplicit false

open Source

/-! ## Names in use -/

/-- The names that an item brings in. -/
def broughtIn : Item → List String
  | .imports _ _ (.name single) => [single]
  | .imports _ _ (.names several) => several
  | _ => []

/-- The names that the module imports. -/
def importedNames (catalog : Catalog) (names : Names) : List String :=
  (moduleFile catalog names).items.flatMap broughtIn

/-- The names that the root file passes on besides those of the module. -/
def passedOnNames (catalog : Catalog) (names : Names) : List String :=
  (rootFile catalog names).items.flatMap broughtIn

/-- The types that are there without any import, as far as the sources use them. -/
def ownTypes : List String := ["String", "Vec", "Option", "Result", "Box", "Into", "Self"]

/-- The names that the sources use for what they do not define. -/
def namesInUse (catalog : Catalog) (names : Names) : List String :=
  importedNames catalog names ++ passedOnNames catalog names ++ ownTypes

/-- The names of the structures of all operations. -/
def structNames (catalog : Catalog) (suffix : String) : List String :=
  catalog.operations.map fun operation => structName operation.name suffix

/-- The names of the types that the sources define, the client first. -/
def typeNames (catalog : Catalog) (names : Names) : List String :=
  names.clientName :: structNames catalog names.suffix

section InUse

variable (catalog : Catalog) (names : Names)

/-- Only the imports at the beginning of the module bring names in. -/
theorem importedNames_eq :
    importedNames catalog names =
      ["Arc", "define", "ApiClient", "Args", "Cache", "CallError", "CallOptions", "ConfigError",
        "Transport", "DeserializeOwned"] := by
  have structs : (allParamsItems catalog names.suffix).flatMap broughtIn = [] := by
    rw [allParamsItems, List.flatMap_assoc, List.flatMap_eq_nil_iff]
    exact fun operation _ => rfl
  simp only [importedNames, moduleFile, List.flatMap_append, structs, List.append_nil]
  rfl

theorem passedOnNames_eq :
    passedOnNames catalog names =
      ["Cache", "CacheOptions", "CallError", "CallOptions", "ConfigError", "MemoryCache",
        "ReqwestTransport", "Transport"] :=
  rfl

end InUse

/-! ## Structures -/

/-- A name with a suffix is none of those that do not end in it. -/
theorem not_mem_of_suffix {front suffix : String} {used : List String}
    (apart : ∀ name ∈ used, ¬ suffix.toList <:+ name.toList) : front ++ suffix ∉ used := by
  intro member
  refine apart _ member ?_
  rw [String.toList_append]
  exact List.suffix_append _ _

/-- The structure of an operation ends in the suffix. -/
theorem exists_structName_eq (operation suffix : String) :
    ∃ front, structName operation suffix = front ++ suffix := by
  rw [structName]
  split_ifs
  · exact ⟨_, rfl⟩
  · exact ⟨_, rfl⟩

/-! ## Clashes -/

section Clashes

variable {catalog : Catalog} {settings : Settings} {names : Names}

/-- **Only the client can be named like something in use.**  The types of the sources have
different names.  With a suffix that ends no name in use, none of them is a name in use exactly if
the client is not. -/
theorem type_names_clash_only_at_the_client (resolved : Names.resolve catalog settings = .ok names) :
    (typeNames catalog names).Nodup ∧ names.clientName ≠ "Self" ∧
      ((∀ used ∈ namesInUse catalog names, ¬ names.suffix.toList <:+ used.toList) →
        ((∀ name ∈ typeNames catalog names, name ∉ namesInUse catalog names) ↔
          names.clientName ∉ namesInUse catalog names)) := by
  have follow := Names.resolve_eq_ok.mp resolved
  refine ⟨follow.differ.structs, ?keyword, fun apart => ⟨?left, ?right⟩⟩
  case keyword =>
    intro same
    have typeName := follow.typeName
    rw [same] at typeName
    exact absurd typeName (by decide)
  case left =>
    intro unused
    exact unused names.clientName List.mem_cons_self
  case right =>
    intro client name member
    rcases List.mem_cons.mp member with rfl | struct
    · exact client
    · obtain ⟨operation, _, rfl⟩ := List.mem_map.mp struct
      obtain ⟨front, shape⟩ := exists_structName_eq operation.name names.suffix
      rw [shape]
      exact not_mem_of_suffix apart

/-- A catalog with one operation. -/
def callCatalog (title : String) : Catalog :=
  (Catalog.titled title).withOperation (.declare "call" .get "/calls" [])

theorem standard_names_do_not_clash :
    Names.resolve (callCatalog "Shops") .standard = .ok ⟨"Shops", "shops", "Params"⟩ ∧
      ∀ name ∈ ["Shops", "CallParams"],
        name ∉ namesInUse (callCatalog "Shops") ⟨"Shops", "shops", "Params"⟩ := by
  have resolved : Names.resolve (callCatalog "Shops") .standard =
      .ok ⟨"Shops", "shops", "Params"⟩ :=
    rfl
  refine ⟨resolved, ?_⟩
  have clashes := (type_names_clash_only_at_the_client resolved).2.2
  rw [namesInUse, importedNames_eq, passedOnNames_eq] at clashes ⊢
  exact (clashes (by decide)).mpr (by decide)

/-- A title names the client like an import of the module, and a suffix does the same to the
structure of an operation. -/
theorem client_can_be_named_like_an_import :
    Names.resolve (callCatalog "Cache") .standard = .ok ⟨"Cache", "cache", "Params"⟩ ∧
      "Cache" ∈ importedNames (callCatalog "Cache") ⟨"Cache", "cache", "Params"⟩ ∧
      "Cache" ∈ passedOnNames (callCatalog "Cache") ⟨"Cache", "cache", "Params"⟩ ∧
      Names.resolve (callCatalog "Shops") { Settings.standard with paramsSuffix := "Options" } =
        .ok ⟨"Shops", "shops", "Options"⟩ ∧
      structNames (callCatalog "Shops") "Options" = ["CallOptions"] ∧
      "CallOptions" ∈ importedNames (callCatalog "Shops") ⟨"Shops", "shops", "Options"⟩ := by
  rw [importedNames_eq, importedNames_eq, passedOnNames_eq]
  exact ⟨rfl, by decide, by decide, rfl, rfl, by decide⟩

end Clashes

end ServiceCatalog.Generation
