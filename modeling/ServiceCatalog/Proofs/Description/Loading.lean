import ServiceCatalog.Proofs.Description.Document
import ServiceCatalog.Proofs.Description.Merging

/-!
# What it takes to load a document

Loading says where a fault is, but whether it succeeds, and what comes out, does not depend on
places.  This module states both at once for an operation (`loadOperation_eq_ok`), a path item
(`loadPathItem_eq_ok`) and a whole document (`load_eq_ok`).

The main result reads a catalog off the document: its operations are described by the operation
entries, one by one and in order (`describes_of_load`).
-/

namespace ServiceCatalog.Description

set_option autoImplicit false

open ServiceCatalog.Json

/-! ## Operations -/

/-- The operation that is put together from its parts. -/
def assembledOperation (verb : Verb) (template : String) (written : WrittenOperation)
    (parameters : List Parameter) : Operation :=
  { (Operation.declare (OperationName.choose written.identifier verb template) verb template
      parameters).withDeprecated written.deprecated with
    summary := written.summary
    description := written.description }

/-- A member of a path item describes an operation. -/
def DescribesOperation (shared : List (String × Value)) (template : String)
    (inherited : List Value) (name : String) (value : Value) (operation : Operation) : Prop :=
  ∃ verb written parameters, Verb.ofText? name = some verb ∧
    WrittenOperation.decoder value = .ok written ∧
    DeclareMerged shared inherited written.parameters parameters ∧
    operation = assembledOperation verb template written parameters

theorem loadOperation_eq_ok {shared : List (String × Value)} {template location name : String}
    {inherited : List Value} {value : Value} {operation : Operation} :
    loadOperation shared template location inherited name value = .ok operation ↔
      DescribesOperation shared template inherited name value operation := by
  unfold loadOperation DescribesOperation
  cases found : Verb.ofText? name with
  | none => simp
  | some verb =>
      simp only [readAt, bind_eq_ok, mapError_eq_ok, loadParameters_eq_ok]
      constructor
      · rintro ⟨written, read, parameters, declared, same⟩
        cases same
        exact ⟨verb, written, parameters, rfl, read, declared, rfl⟩
      · rintro ⟨other, written, parameters, same, read, declared, rfl⟩
        cases same
        exact ⟨written, read, parameters, declared, rfl⟩

/-! ## Path items -/

theorem isPassedOver_eq_false {name : String} : isPassedOver name = false ↔ NamesOperation name := by
  simp [isPassedOver, NamesOperation, and_assoc, ← List.isPrefixOf_iff_prefix]

/-- The members of a path item that are operations. -/
theorem operationMembers_eq (members : List (String × Value)) :
    operationMembers members = members.filter fun member => NamesOperation member.1 := by
  refine List.filter_congr fun member _ => ?_
  rw [Bool.eq_iff_iff, decide_eq_true_iff, ← isPassedOver_eq_false]
  simp

/-- What is no operation may be left out. -/
theorem operationMembers_filter (keep : String → Bool)
    (kept : ∀ name, NamesOperation name → keep name = true) (members : List (String × Value)) :
    operationMembers (members.filter fun member => keep member.1) = operationMembers members := by
  rw [operationMembers_eq, operationMembers_eq, List.filter_filter]
  refine List.filter_congr fun member _ => ?_
  by_cases named : NamesOperation member.1
  · simp [named, kept member.1 named]
  · simp [named]

/-- Operations that are changed stay where they are. -/
theorem operationMembers_map {change operationChange : String → Value → Value}
    (alike : ∀ name value, NamesOperation name → change name value = operationChange name value)
    (members : List (String × Value)) :
    operationMembers (members.map fun (name, value) => (name, change name value)) =
      (operationMembers members).map fun (name, value) => (name, operationChange name value) := by
  simp only [operationMembers_eq, List.filter_map, Function.comp_def]
  refine List.map_congr_left fun member there => ?_
  have named : NamesOperation member.1 := by simpa using (List.mem_filter.mp there).2
  rw [alike member.1 member.2 named]

/-- The shared parameters of a path item are those that are written, if they are written as a
list. -/
theorem inheritedParameters_eq_ok {location : String} {members : List (String × Value)}
    {inherited : List Value} :
    inheritedParameters location members = .ok inherited ↔
      members.lookup "parameters" = none ∧ inherited = [] ∨
        members.lookup "parameters" = some (.array inherited) := by
  unfold inheritedParameters
  cases members.lookup "parameters" with
  | none => simp [eq_comm]
  | some value => cases value <;> simp

theorem pathParameters_of_inheritedParameters {location : String}
    {members : List (String × Value)} {inherited : List Value}
    (read : inheritedParameters location members = .ok inherited) :
    inherited = pathParameters (.object members) := by
  unfold pathParameters Value.member?
  obtain ⟨absent, rfl⟩ | written := inheritedParameters_eq_ok.mp read
  · simp [absent]
  · simp [written, Value.items]

theorem loadPathItem_eq_ok {shared : List (String × Value)} {template : String} {item : Value}
    {operations : List Operation} :
    loadPathItem shared template item = .ok operations ↔
      ∃ members inherited, item = .object members ∧
        inheritedParameters ("/paths/" ++ template) members = .ok inherited ∧
        List.Forall₂ (fun member => DescribesOperation shared template inherited member.1 member.2)
          (operationMembers members) operations := by
  cases item with
  | object members => simp [loadPathItem, bind_eq_ok, mapM_eq_ok, loadOperation_eq_ok]
  | null | bool | number | string | array => simp [loadPathItem]

/-! ## Documents -/

/-- A document has all that a catalog needs, and this is the catalog. -/
def Assembles (document : Document) (catalog : Catalog) : Prop :=
  ∃ info title paths operations, document.info = some info ∧ info.title = some title ∧
    document.paths = some paths ∧
    List.Forall₂ (fun path => (loadPathItem document.parameters path.1 path.2 = .ok ·))
      paths operations ∧
    catalog = ⟨title, info.description, info.version.map versionText, baseUrl? document,
      operations.flatten⟩

theorem assemble_eq_ok {document : Document} {catalog : Catalog} :
    assemble document = .ok catalog ↔ Assembles document catalog := by
  simp only [assemble, bind_eq_ok, demand_eq_ok, mapM_eq_ok]
  constructor
  · rintro ⟨info, given, title, titled, paths, there, operations, loaded, same⟩
    cases same
    exact ⟨info, title, paths, operations, given, titled, there, loaded, rfl⟩
  · rintro ⟨info, title, paths, operations, given, titled, there, loaded, rfl⟩
    exact ⟨info, given, title, titled, paths, there, operations, loaded, rfl⟩

/-- **When a document is loaded, and which catalog it gives.** -/
theorem load_eq_ok {root : Value} {catalog : Catalog} :
    load root = .ok catalog ↔
      checkDialect root = .ok () ∧
        ∃ document, Document.decoder root = .ok document ∧ Assembles document catalog ∧
          catalog.validate = .ok () := by
  simp only [load, readAt, bind_eq_ok, mapError_eq_ok, assemble_eq_ok]
  constructor
  · rintro ⟨_, dialect, document, read, made, assembles, _, valid, same⟩
    cases same
    exact ⟨dialect, document, read, assembles, valid⟩
  · rintro ⟨dialect, document, read, assembles, valid⟩
    exact ⟨(), dialect, document, read, catalog, assembles, (), valid, rfl⟩

/-- A catalog that was loaded from a text is consistent. -/
theorem validate_of_loadText {format : Format} {text : String} {catalog : Catalog}
    (loaded : loadText format text = .ok catalog) : catalog.validate = .ok () := by
  obtain ⟨root, -, fromRoot⟩ := bind_eq_ok.mp loaded
  obtain ⟨-, _, -, -, valid⟩ := load_eq_ok.mp fromRoot
  exact valid

/-- A document of the dialect is an object. -/
theorem exists_members_of_checkDialect {root : Value} (dialect : checkDialect root = .ok ()) :
    ∃ members, root = .object members := by
  cases root with
  | object members => exact ⟨members, rfl⟩
  | null | bool | number | string | array => cases dialect

/-- An operation entry of a document describes an operation. -/
def OperationEntry.Describes (shared : List (String × Value)) (entry : OperationEntry) :
    Operation → Prop :=
  DescribesOperation shared entry.template (pathParameters entry.item) entry.name entry.value

theorem describes_of_loadPathItem {shared : List (String × Value)} {template : String}
    {item : Value} {operations : List Operation}
    (loaded : loadPathItem shared template item = .ok operations) :
    List.Forall₂ (OperationEntry.Describes shared) (itemEntries template item) operations := by
  obtain ⟨members, inherited, rfl, read, described⟩ := loadPathItem_eq_ok.mp loaded
  obtain rfl := pathParameters_of_inheritedParameters read
  rw [itemEntries, List.forall₂_map_left_iff, ← operationMembers_eq]
  exact described

/-- Lists that are related part by part are related as a whole. -/
theorem forall₂_flatMap {α β γ : Type} {related : β → γ → Prop} {parts : α → List β}
    {items : List α} {results : List (List γ)}
    (each : List.Forall₂ (fun item => List.Forall₂ related (parts item)) items results) :
    List.Forall₂ related (items.flatMap parts) results.flatten := by
  rw [← List.flatMap_id]
  exact List.rel_flatMap each fun _ _ same => same

/-- **The operations of a catalog are described by the entries of its document**, one by one and in
order, and the catalog is consistent. -/
theorem describes_of_load {root : Value} {catalog : Catalog} (distinct : root.NamesDistinct)
    (loaded : load root = .ok catalog) :
    List.Forall₂ (OperationEntry.Describes (sharedDefinitions root)) (operationEntries root)
        catalog.operations ∧ catalog.validate = .ok () := by
  obtain ⟨dialect, document, read, assembles, valid⟩ := load_eq_ok.mp loaded
  obtain ⟨members, rfl⟩ := exists_members_of_checkDialect dialect
  obtain ⟨info, title, paths, operations, -, -, there, loadedItems, rfl⟩ := assembles
  have names := (Value.namesDistinct_object.mp distinct).1
  obtain ⟨-, shared⟩ := written_of_document names read there
  refine ⟨?_, valid⟩
  rw [operationEntries, pathItems_of_document names read there]
  exact forall₂_flatMap (loadedItems.imp fun path operations loaded =>
    describes_of_loadPathItem (shared ▸ loaded))

/-! ## A document with inherited and shared parameters -/

/-- A document in which an operation takes over one parameter of its path item, overrides another,
which is a shared one, and adds a third. -/
def itemsDocument : Value :=
  .object
    [("swagger", .string "2.0"),
      ("info", .object [("title", .string "Items")]),
      ("parameters", .object
        [("view", .object
          [("name", .string "view"), ("in", .string "query"), ("type", .string "string"),
            ("$ref", .string "#/parameters/view")])]),
      ("paths", .object
        [("/items/\x7bid\x7d", .object
          [("parameters", .array
              [.object
                  [("name", .string "id"), ("in", .string "path"), ("type", .string "string")],
                .object [("$ref", .string "#/parameters/view")]]),
            ("get", .object
              [("operationId", .string "show item"),
                ("parameters", .array
                  [.object
                      [("name", .string "trace"), ("in", .string "header"),
                        ("type", .string "string")],
                    .object
                      [("in", .string "query"), ("name", .string "view"),
                        ("type", .string "string"), ("required", .bool true)]])]),
            ("x-note", .null),
            ("PUT", .object
              [("parameters", .array
                [.object [("name", .string "item"), ("in", .string "body")]])])])])]

/-- The catalog of that document. -/
def itemsDocumentCatalog : Catalog :=
  (Catalog.titled "Items").withOperation (.declare "show_item" .get "/items/\x7bid\x7d"
      [.declare "id" .path, (Parameter.declare "view" .query).withRequired true,
        .declare "trace" .header])
    |>.withOperation (.declare "putItemsById" .put "/items/\x7bid\x7d"
      [.declare "id" .path, .declare "view" .query, .declare "item" .body])

theorem load_itemsDocument : load itemsDocument = .ok itemsDocumentCatalog := by
  decide +kernel

theorem namesDistinct_itemsDocument : itemsDocument.NamesDistinct := by
  simp [itemsDocument, Value.namesDistinct_object, Value.namesDistinct_array,
    Value.NamesDistinct.string, Value.NamesDistinct.bool, Value.NamesDistinct.null]

end ServiceCatalog.Description
