import ServiceCatalog.Proofs.Description.Inlining

/-!
# Parameters that are declared twice

An operation must not declare a parameter twice.  A document in which one does is refused, as long
as the two declarations are further ones, which override no parameter of the path item
(`repeated_parameters_are_refused`).

That condition cannot be left out.  Overriding is not counted: of several declarations that override
the same parameter of the path item the last one stands, and those before it might as well be
missing (`foldlM_addOwn_append_cons`).  So a document is accepted although an operation declares a
parameter twice (`overriding_twice_is_accepted`).
-/

namespace ServiceCatalog

set_option autoImplicit false

open ServiceCatalog.Json ServiceCatalog.Description

namespace Description

/-- A parameter that overrides one of the path item leaves no trace if a later one overrides that
too. -/
theorem foldlM_addOwn_append_cons {operation : String}
    {inherited before behind : List Parameter} {parameter : Parameter} {merge : Merge}
    (distinct : (inherited.map Parameter.key).Nodup)
    (known : parameter.key ∈ inherited.map Parameter.key)
    (again : parameter.key ∈ behind.map Parameter.key) :
    (before ++ parameter :: behind).foldlM (Merge.addOwn operation) ⟨inherited, []⟩ = .ok merge ↔
      (before ++ behind).foldlM (Merge.addOwn operation) ⟨inherited, []⟩ = .ok merge := by
  have none : (([] : List Parameter).map Parameter.key).Nodup := List.nodup_nil
  rw [foldlM_addOwn_eq_ok distinct none, foldlM_addOwn_eq_ok distinct none,
    further_append_cons_of_known known, overridden_append_cons again]

/-- The definitions of an operation that override nothing have different keys. -/
theorem OperationEntry.Describes.nodup_further {root : Value} {entry : OperationEntry}
    {operation : Operation} (distinct : root.NamesDistinct) (member : entry ∈ operationEntries root)
    (describes : entry.Describes (sharedDefinitions root) operation) :
    ((further declaredKey? (entry.inheritedDefinitions (sharedDefinitions root))
      (entry.ownDefinitions (sharedDefinitions root))).map declaredKey?).Nodup := by
  obtain ⟨pathLevel, operationLevel, path, own, -, distinctFurther, -⟩ :=
    describes.declaresKeyed distinct member []
  have relates := relatesKeys_declaresKeyed []
  exact (relates.nodup_iff (relates.forall₂_further path own)).mpr distinctFurther

end Description

/-- **A parameter that is declared twice is refused**, unless it overrides one of the path item:
where an operation has two definitions, written in its list or referred to there, of the same name
and placement, and no definition of the path item has them too, no catalog is loaded. -/
theorem repeated_parameters_are_refused {root : Value} (distinct : root.NamesDistinct)
    {entry : OperationEntry} (member : entry ∈ operationEntries root) {first second : Value}
    {key : String × String}
    (repeated : [first, second].Sublist (entry.ownDefinitions (sharedDefinitions root)))
    (keyFirst : declaredKey? first = some key) (keySecond : declaredKey? second = some key)
    (overridesNothing : ∀ definition ∈ entry.inheritedDefinitions (sharedDefinitions root),
      declaredKey? definition ≠ some key) :
    ∃ error, load root = .error error := by
  cases loaded : load root with
  | error error => exact ⟨error, rfl⟩
  | ok catalog =>
      exfalso
      obtain ⟨described, -⟩ := describes_of_load distinct loaded
      obtain ⟨operation, -, describes⟩ := exists_of_mem_left described member
      have differ := describes.nodup_further distinct member
      have fresh : ∀ definition, declaredKey? definition = some key → declaredKey? definition ∉
          (entry.inheritedDefinitions (sharedDefinitions root)).map declaredKey? := by
        rintro definition keyed known
        obtain ⟨original, there, same⟩ := List.mem_map.mp known
        exact overridesNothing original there (same.trans keyed)
      -- Both definitions are further ones, in this order, and so their key occurs twice.
      have both : (further declaredKey? (entry.inheritedDefinitions (sharedDefinitions root))
          [first, second]).Sublist _ := sublist_further _ repeated
      rw [further_cons_of_fresh _ (fresh first keyFirst),
        further_cons_of_fresh _ (fresh second keySecond)] at both
      have twice := differ.sublist (both.map declaredKey?)
      simp [keyFirst, keySecond] at twice

/-! ## An operation that declares a parameter twice -/

/-- The definition of a query parameter. -/
def searchDefinition : Value :=
  .object [("name", .string "q"), ("in", .string "query")]

/-- A reference to the shared definition of that parameter. -/
def searchReference : Value :=
  .object [("$ref", .string "#/parameters/q")]

/-- An operation that declares it twice, once itself and once by a reference.  Its path item has
the definitions that are given. -/
def searchEntry (inherited : List Value) : OperationEntry where
  template := "/items"
  item := .object
    [("parameters", .array inherited),
      ("get", .object
        [("operationId", .string "listItems"),
          ("parameters", .array [searchDefinition, searchReference])])]
  name := "get"
  value := .object
    [("operationId", .string "listItems"),
      ("parameters", .array [searchDefinition, searchReference])]

/-- The document of that operation. -/
def searchDocument (inherited : List Value) : Value :=
  .object
    [("swagger", .string "2.0"),
      ("info", .object [("title", .string "Items")]),
      ("parameters", .object [("q", searchDefinition)]),
      ("paths", .object [("/items", (searchEntry inherited).item)])]

theorem operationEntries_searchDocument (inherited : List Value) :
    operationEntries (searchDocument inherited) = [searchEntry inherited] := by
  rfl

theorem ownDefinitions_searchEntry (inherited : List Value) :
    (searchEntry inherited).ownDefinitions (sharedDefinitions (searchDocument inherited)) =
      [searchDefinition, searchDefinition] := by
  rfl

theorem declaredKey?_searchDefinition : declaredKey? searchDefinition = some ("q", "query") := by
  rfl

theorem namesDistinct_searchDocument {inherited : List Value}
    (distinct : ∀ definition ∈ inherited, definition.NamesDistinct) :
    (searchDocument inherited).NamesDistinct := by
  simpa [searchDocument, searchEntry, searchDefinition, searchReference,
    Value.namesDistinct_object, Value.namesDistinct_array, Value.NamesDistinct.string] using distinct

/-- Where the path item declares nothing, the document is refused, and for this reason. -/
theorem search_without_override_is_refused :
    (searchDocument []).NamesDistinct ∧
      searchEntry [] ∈ operationEntries (searchDocument []) ∧
      [searchDefinition, searchDefinition].Sublist
        ((searchEntry []).ownDefinitions (sharedDefinitions (searchDocument []))) ∧
      declaredKey? searchDefinition = some ("q", "query") ∧
      (searchEntry []).inheritedDefinitions (sharedDefinitions (searchDocument [])) = [] ∧
      load (searchDocument []) = .error (.duplicateParameter "listItems" "q") ∧
      ∃ error, load (searchDocument []) = .error error := by
  have distinct : (searchDocument []).NamesDistinct := namesDistinct_searchDocument (by simp)
  have member : searchEntry [] ∈ operationEntries (searchDocument []) :=
    operationEntries_searchDocument [] ▸ List.mem_singleton_self _
  have repeated : [searchDefinition, searchDefinition].Sublist
      ((searchEntry []).ownDefinitions (sharedDefinitions (searchDocument []))) :=
    ownDefinitions_searchEntry [] ▸ List.Sublist.refl _
  have key := declaredKey?_searchDefinition
  have nothing : (searchEntry []).inheritedDefinitions
      (sharedDefinitions (searchDocument [])) = [] := rfl
  have refusal : load (searchDocument []) = .error (.duplicateParameter "listItems" "q") := by
    decide +kernel
  exact ⟨distinct, member, repeated, key, nothing, refusal,
    repeated_parameters_are_refused distinct member repeated key key (by simp [nothing])⟩

/-- **Overriding twice is accepted**: a document from which a catalog is loaded, although its
operation has two definitions of one name and placement in its list. -/
theorem overriding_twice_is_accepted :
    (searchDocument [searchReference]).NamesDistinct ∧
      searchEntry [searchReference] ∈ operationEntries (searchDocument [searchReference]) ∧
      [searchDefinition, searchDefinition].Sublist ((searchEntry [searchReference]).ownDefinitions
        (sharedDefinitions (searchDocument [searchReference]))) ∧
      declaredKey? searchDefinition = some ("q", "query") ∧
      ∃ catalog, load (searchDocument [searchReference]) = .ok catalog := by
  refine ⟨namesDistinct_searchDocument ?_, ?_, ?_, declaredKey?_searchDefinition, ?_⟩
  · simp [searchReference, Value.namesDistinct_object, Value.NamesDistinct.string]
  · exact operationEntries_searchDocument _ ▸ List.mem_singleton_self _
  · exact ownDefinitions_searchEntry _ ▸ List.Sublist.refl _
  · exact ⟨_, rfl⟩

end ServiceCatalog
