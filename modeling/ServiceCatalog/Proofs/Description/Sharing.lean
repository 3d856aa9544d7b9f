import ServiceCatalog.Proofs.Description.Inlining

/-!
# Sharing can be written out

Parameters are shared in two ways: a path item has parameters for all its operations, and a
definition of the document is referred to by its name.  Both only save writing.  A document can be
written without either (`withoutSharing`): every operation lists all its parameters, those of its
path item among them, each defined in its place.

The parameters that an operation lists then are those that were put together for it before, so the
same catalog is loaded (`sharing_can_be_written_out`).
-/

namespace ServiceCatalog

set_option autoImplicit false

open ServiceCatalog.Json

namespace Description

/-! ## Writing sharing out -/

/-- All definitions of an operation: those of its path item, each overridden by the last one of the
operation with its name and placement, and the further ones of the operation. -/
def allDefinitions (shared : List (String × Value)) (inherited own : List Value) : List Value :=
  merged declaredKey? (inherited.map (inlined shared)) (own.map (inlined shared))

/-- An operation that lists all its definitions. -/
def operationWithoutSharing (shared : List (String × Value)) (inherited : List Value)
    (operation : Value) : Value :=
  operation.withMember "parameters"
    (.array (allDefinitions shared inherited (ownParameters operation)))

/-- A path item that has no parameters for its operations. -/
def itemWithoutSharing (shared : List (String × Value)) (item : Value) : Value :=
  (item.withoutMember "parameters").mapMembers fun name value =>
    if NamesOperation name then operationWithoutSharing shared (pathParameters item) value
    else value

/-- A document in which no parameter is shared. -/
def withoutSharing (root : Value) : Value :=
  root.mapMembers fun name value =>
    if name = "paths" then
      value.mapMembers fun _ item => itemWithoutSharing (sharedDefinitions root) item
    else value

/-! ## Operations -/

/-- Another list of parameters changes that field alone. -/
theorem WrittenOperation.decoder_assign_parameters {members : List (String × Value)}
    {written : WrittenOperation} (distinct : (members.map Prod.fst).Nodup)
    (read : WrittenOperation.decoder (.object members) = .ok written) (parameters : List Value) :
    WrittenOperation.decoder (.object (assign "parameters" (.array parameters) members)) =
      .ok { written with parameters := parameters } := by
  have holds := (WrittenOperation.decoder_object_eq_ok distinct).mp read
  have kept : ∀ position name, name ≠ "parameters" →
      (Value.object (assign "parameters" (.array parameters) members)).field? position name =
        (Value.object members).field? position name :=
    fun _ name other => lookup_assign_of_ne other _ members
  refine (WrittenOperation.decoder_object_eq_ok (nodup_assign distinct _ _)).mpr ?_
  refine
    { identifier := kept 0 "operationId" (by decide) ▸ holds.identifier
      summary := kept 1 "summary" (by decide) ▸ holds.summary
      description := kept 2 "description" (by decide) ▸ holds.description
      deprecated := kept 3 "deprecated" (by decide) ▸ holds.deprecated
      parameters := ?_ }
  rw [Value.field?_object, lookup_assign_self]
  exact listOf_anyValue_eq_ok.mpr rfl

/-- An operation is the same when it lists all its parameters, and its path item has none. -/
theorem OperationEntry.Describes.withoutSharing {root : Value} {entry : OperationEntry}
    {operation : Operation} (distinct : root.NamesDistinct) (member : entry ∈ operationEntries root)
    {members : List (String × Value)} (object : entry.value = .object members)
    (describes : entry.Describes (sharedDefinitions root) operation)
    (others : List (String × Value)) :
    DescribesOperation others entry.template [] entry.name
      (operationWithoutSharing (sharedDefinitions root) (pathParameters entry.item) entry.value)
      operation := by
  obtain ⟨pathLevel, operationLevel, path, own, distinctPath, distinctFurther, parametersAre⟩ :=
    describes.declaresKeyed distinct member others
  obtain ⟨verb, written, parameters, named, read, -, rfl⟩ := describes
  obtain ⟨-, plain⟩ := namesDistinct_of_entry distinct member
  rw [object] at read plain
  -- The list that is written out declares the merged parameters, each by itself.
  have declared : List.Forall₂ (Declares others)
      (allDefinitions (sharedDefinitions root) (pathParameters entry.item)
        (ownParameters entry.value)) (merged Parameter.key pathLevel operationLevel) :=
    ((relatesKeys_declaresKeyed others).forall₂_merged path own).imp fun _ _ declares => declares.1
  have distinctAll := nodup_merged distinctPath distinctFurther
  refine ⟨verb, { written with
    parameters := allDefinitions (sharedDefinitions root) (pathParameters entry.item)
      (ownParameters entry.value) }, parameters, named, ?_,
    ⟨[], _, .nil, declared, List.nodup_nil, ?_, ?_⟩, rfl⟩
  · rw [operationWithoutSharing, object]
    exact WrittenOperation.decoder_assign_parameters
      (Value.namesDistinct_object.mp plain).1 read _
  · rwa [further_nil]
  · rw [merged_nil]
    exact parametersAre

/-! ## Path items -/

/-- A path item has no parameters of its own any more. -/
theorem member?_itemWithoutSharing (shared : List (String × Value)) (item : Value) :
    (itemWithoutSharing shared item).member? "parameters" = none := by
  rw [itemWithoutSharing, Value.member?_mapMembers, Value.member?_withoutMember, Option.map_none]

/-- The operations of a path item stay where they are. -/
theorem operationMembers_itemWithoutSharing (shared : List (String × Value)) (template : String)
    (item : Value) :
    operationMembers (itemWithoutSharing shared item).members =
      (itemEntries template item).map fun entry =>
        (entry.name, operationWithoutSharing shared (pathParameters entry.item) entry.value) := by
  cases item with
  | object members =>
      have operations : ∀ name, NamesOperation name → (!("parameters" == name)) = true := by
        intro name named
        simp [Ne.symm named.1]
      have left : operationMembers (unassign "parameters" members) = operationMembers members :=
        operationMembers_filter (fun name => !("parameters" == name)) operations members
      have changed : ∀ name value, NamesOperation name →
          (if NamesOperation name then
            operationWithoutSharing shared (pathParameters (.object members)) value
          else value) = operationWithoutSharing shared (pathParameters (.object members)) value :=
        fun name value named => if_pos named
      have placed := operationMembers_map changed (unassign "parameters" members)
      rw [left, operationMembers_eq members] at placed
      rw [itemEntries, List.map_map]
      exact placed
  | null | bool | number | string | array => rfl

/-- A path item gives the same operations when each of them lists all its parameters. -/
theorem loadPathItem_withoutSharing {root item : Value} {template : String}
    {operations : List Operation} (distinct : root.NamesDistinct)
    (objects : ∀ entry ∈ operationEntries root, ∃ members, entry.value = .object members)
    (there : (template, item) ∈ pathItems root)
    (loaded : loadPathItem (sharedDefinitions root) template item = .ok operations)
    (others : List (String × Value)) :
    loadPathItem others template (itemWithoutSharing (sharedDefinitions root) item) =
      .ok operations := by
  have described := describes_of_loadPathItem loaded
  have entries := operationMembers_itemWithoutSharing (sharedDefinitions root) template item
  have alone := member?_itemWithoutSharing (sharedDefinitions root) item
  obtain ⟨members, -, rfl, -, -⟩ := loadPathItem_eq_ok.mp loaded
  obtain ⟨rest, left⟩ : ∃ rest,
      itemWithoutSharing (sharedDefinitions root) (.object members) = .object rest := ⟨_, rfl⟩
  rw [left] at entries alone ⊢
  refine loadPathItem_eq_ok.mpr
    ⟨rest, [], rfl, inheritedParameters_eq_ok.mpr (.inl ⟨alone, rfl⟩), ?_⟩
  rw [show rest = (Value.object rest).members from rfl, entries, List.forall₂_map_left_iff]
  refine forall₂_imp_of_mem described fun entry listed operation describes => ?_
  have member := mem_operationEntries_of_itemEntries there listed
  obtain ⟨_, object⟩ := objects entry member
  rw [← (eq_of_mem_itemEntries listed).1]
  exact describes.withoutSharing distinct member object others

/-! ## Documents -/

theorem member?_withoutSharing_of_ne (root : Value) {name : String} (other : name ≠ "paths") :
    (withoutSharing root).member? name = root.member? name := by
  simp [withoutSharing, Value.member?_mapMembers, other]

/-- The dialect of a document does not depend on its paths. -/
theorem checkDialect_withoutSharing (root : Value) :
    checkDialect (withoutSharing root) = checkDialect root := by
  simp only [checkDialect, member?_withoutSharing_of_ne root (show "openapi" ≠ "paths" by decide),
    member?_withoutSharing_of_ne root (show "swagger" ≠ "paths" by decide)]

/-- The document that is read from what is written without sharing differs in its path items
alone. -/
theorem decoder_withoutSharing {members paths : List (String × Value)} {document : Document}
    (distinct : (members.map Prod.fst).Nodup)
    (read : Document.decoder (.object members) = .ok document)
    (given : document.paths = some paths) :
    Document.decoder (withoutSharing (.object members)) = .ok { document with
      paths := some (paths.map fun (template, item) =>
        (template, itemWithoutSharing (sharedDefinitions (.object members)) item)) } := by
  have holds := (Document.decoder_object_eq_ok distinct).mp read
  obtain ⟨written, -⟩ := written_of_document distinct read given
  have untouched : ∀ name, name ≠ "paths" →
      (withoutSharing (.object members)).member? name = (Value.object members).member? name :=
    fun _ => member?_withoutSharing_of_ne (.object members)
  have changed : (withoutSharing (.object members)).member? "paths" = some (.object (paths.map
      fun (template, item) =>
        (template, itemWithoutSharing (sharedDefinitions (.object members)) item))) := by
    rw [withoutSharing, Value.member?_mapMembers, Value.member?, written]
    rfl
  have names : (withoutSharing (.object members)).members.map Prod.fst = members.map Prod.fst :=
    Value.map_fst_mapMembers _ _
  obtain ⟨rest, left⟩ : ∃ rest, withoutSharing (.object members) = .object rest := ⟨_, rfl⟩
  rw [left] at untouched changed names ⊢
  have kept : ∀ position name, name ≠ "paths" →
      (Value.object rest).field? position name = (Value.object members).field? position name :=
    fun _ => untouched
  refine (Document.decoder_object_eq_ok (names.symm ▸ distinct)).mpr ?_
  refine
    { info := kept 0 "info" (by decide) ▸ holds.info
      host := kept 1 "host" (by decide) ▸ holds.host
      basePath := kept 2 "basePath" (by decide) ▸ holds.basePath
      schemes := kept 3 "schemes" (by decide) ▸ holds.schemes
      paths := readWritten_object_eq_ok.mpr changed
      parameters := kept 5 "parameters" (by decide) ▸ holds.parameters }

/-! ## Distinct names -/

section DistinctNames

variable {shared : List (String × Value)}
  (distinctShared : ∀ entry ∈ shared, entry.2.NamesDistinct)

include distinctShared

theorem namesDistinct_allDefinitions {inherited own : List Value}
    (path : ∀ written ∈ inherited, written.NamesDistinct)
    (operation : ∀ written ∈ own, written.NamesDistinct) :
    ∀ definition ∈ allDefinitions shared inherited own, definition.NamesDistinct := by
  intro definition listed
  rcases mem_of_mem_merged listed with there | there
  · obtain ⟨written, present, rfl⟩ := List.mem_map.mp there
    exact namesDistinct_inlined distinctShared (path written present)
  · obtain ⟨written, present, rfl⟩ := List.mem_map.mp there
    exact namesDistinct_inlined distinctShared (operation written present)

theorem namesDistinct_itemWithoutSharing {item : Value} (distinct : item.NamesDistinct) :
    (itemWithoutSharing shared item).NamesDistinct := by
  have smaller := distinct.withoutMember "parameters"
  refine smaller.mapMembers fun name value there => ?_
  have plain := smaller.of_mem_members there
  split_ifs with named
  · refine plain.withMember (.array (namesDistinct_allDefinitions distinctShared ?_ ?_)) _
    · exact fun _ present => namesDistinct_of_pathParameter distinct present
    · exact fun _ present => namesDistinct_of_ownParameter plain present
  · exact plain

end DistinctNames

theorem namesDistinct_withoutSharing {root : Value} (distinct : root.NamesDistinct) :
    (withoutSharing root).NamesDistinct := by
  refine distinct.mapMembers fun name value there => ?_
  have plain := distinct.of_mem_members there
  split_ifs with paths
  · refine plain.mapMembers fun template item inside => ?_
    exact namesDistinct_itemWithoutSharing
      (fun _ present => namesDistinct_of_definition distinct present) (plain.of_mem_members inside)
  · exact plain

/-! ## Nothing is shared -/

theorem pathItems_withoutSharing (root : Value) :
    pathItems (withoutSharing root) = (pathItems root).map fun (template, item) =>
      (template, itemWithoutSharing (sharedDefinitions root) item) := by
  unfold pathItems
  rw [withoutSharing, Value.member?_mapMembers]
  cases root.member? "paths" with
  | none => rfl
  | some paths => simp [Value.members_mapMembers]

/-- Every operation comes from one that was there before. -/
theorem exists_of_mem_withoutSharing {root : Value} {entry : OperationEntry}
    (member : entry ∈ operationEntries (withoutSharing root)) :
    ∃ original ∈ operationEntries root,
      entry.item = itemWithoutSharing (sharedDefinitions root) original.item ∧
      entry.value = operationWithoutSharing (sharedDefinitions root)
        (pathParameters original.item) original.value := by
  obtain ⟨there, listed, named⟩ := mem_operationEntries.mp member
  rw [pathItems_withoutSharing] at there
  obtain ⟨⟨template, item⟩, present, same⟩ := List.mem_map.mp there
  obtain ⟨-, becomes⟩ := Prod.mk.injEq .. ▸ same
  have operation : (entry.name, entry.value) ∈ operationMembers
      (itemWithoutSharing (sharedDefinitions root) item).members := by
    rw [operationMembers_eq, becomes]
    exact List.mem_filter.mpr ⟨listed, by simpa using named⟩
  rw [operationMembers_itemWithoutSharing _ template] at operation
  obtain ⟨original, inside, is⟩ := List.mem_map.mp operation
  obtain ⟨-, value⟩ := Prod.mk.injEq .. ▸ is
  have origin := (eq_of_mem_itemEntries inside).2
  exact ⟨original, mem_operationEntries_of_itemEntries present inside, origin ▸ becomes.symm,
    value.symm⟩

theorem ownParameters_operationWithoutSharing (shared : List (String × Value))
    (inherited : List Value) (members : List (String × Value)) :
    ownParameters (operationWithoutSharing shared inherited (.object members)) =
      allDefinitions shared inherited (ownParameters (.object members)) := by
  simp [operationWithoutSharing, Value.withMember, ownParameters, Value.field?_object, Value.items]

/-- Where nothing is shared, no parameter is declared by a reference. -/
theorem Declares.reference?_eq_none {written : Value} {parameter : Parameter}
    (declares : Declares [] written parameter) : reference? written = none := by
  obtain ⟨resolved, -, found, -⟩ := declares
  cases reference : reference? written with
  | none => rfl
  | some name =>
      unfold reference? at reference
      simp [definition, reference, referred?] at found

/-- **In what is written without sharing, nothing is shared**: no path item has parameters, and no
operation refers to any. -/
theorem withoutSharing_shares_nothing {root : Value} {catalog : Catalog}
    (distinct : root.NamesDistinct)
    (objects : ∀ entry ∈ operationEntries root, ∃ members, entry.value = .object members)
    (loaded : load root = .ok catalog) {entry : OperationEntry}
    (member : entry ∈ operationEntries (withoutSharing root)) :
    pathParameters entry.item = [] ∧
      ∀ definition ∈ ownParameters entry.value, reference? definition = none := by
  obtain ⟨original, there, item, value⟩ := exists_of_mem_withoutSharing member
  obtain ⟨described, -⟩ := describes_of_load distinct loaded
  obtain ⟨operation, -, describes⟩ := exists_of_mem_left described there
  obtain ⟨pathLevel, operationLevel, path, own, -⟩ := describes.declaresKeyed distinct there []
  constructor
  · rw [item, pathParameters, member?_itemWithoutSharing]
    rfl
  · intro definition listed
    obtain ⟨members, object⟩ := objects original there
    rw [value, object, ownParameters_operationWithoutSharing, ← object] at listed
    rcases mem_of_mem_merged listed with inherited | further
    · obtain ⟨_, -, declares⟩ := exists_of_mem_left path inherited
      exact declares.1.reference?_eq_none
    · obtain ⟨_, -, declares⟩ := exists_of_mem_left own further
      exact declares.1.reference?_eq_none

end Description

open ServiceCatalog.Description

/-- **Sharing can be written out.**  A document whose operations are written as objects gives the
same catalog when every operation lists all its parameters itself, each defined in its place, and
no path item has any. -/
theorem sharing_can_be_written_out {root : Value} {catalog : Catalog}
    (distinct : root.NamesDistinct)
    (objects : ∀ entry ∈ operationEntries root, ∃ members, entry.value = .object members)
    (loaded : load root = .ok catalog) :
    (withoutSharing root).NamesDistinct ∧ load (withoutSharing root) = .ok catalog := by
  refine ⟨namesDistinct_withoutSharing distinct, ?_⟩
  obtain ⟨dialect, document, read, assembles, valid⟩ := load_eq_ok.mp loaded
  obtain ⟨members, rfl⟩ := exists_members_of_checkDialect dialect
  obtain ⟨info, title, paths, operations, given, titled, there, items, rfl⟩ := assembles
  have names := (Value.namesDistinct_object.mp distinct).1
  obtain ⟨written, shared⟩ := written_of_document names read there
  have listed : pathItems (.object members) = paths := by
    simp [pathItems, Value.member?, written, Value.members]
  refine load_eq_ok.mpr ⟨(checkDialect_withoutSharing _).trans dialect, _,
    decoder_withoutSharing names read there, ⟨info, title, _, operations, given, titled, rfl, ?_,
      rfl⟩, valid⟩
  rw [List.forall₂_map_left_iff]
  refine forall₂_imp_of_mem items fun path member operations loadedItem => ?_
  exact loadPathItem_withoutSharing distinct objects (listed ▸ member) (shared ▸ loadedItem) _

/-- The lists of the document of items, written out. -/
example : (operationEntries (withoutSharing itemsDocument)).map
    (fun entry => (ownParameters entry.value).map declaredKey?) =
      [[some ("id", "path"), some ("view", "query"), some ("trace", "header")],
        [some ("id", "path"), some ("view", "query"), some ("item", "body")]] := by
  rfl

/-- The document of items gives its catalog without sharing. -/
theorem items_are_written_out :
    itemsDocument.NamesDistinct ∧
      (∀ entry ∈ operationEntries itemsDocument, ∃ members, entry.value = .object members) ∧
      load itemsDocument = .ok itemsDocumentCatalog ∧
      (withoutSharing itemsDocument).NamesDistinct ∧
      load (withoutSharing itemsDocument) = .ok itemsDocumentCatalog := by
  have objects : ∀ entry ∈ operationEntries itemsDocument,
      ∃ members, entry.value = .object members := by
    intro entry member
    change entry ∈ [_, _] at member
    rcases List.mem_pair.mp member with rfl | rfl <;> exact ⟨_, rfl⟩
  exact ⟨namesDistinct_itemsDocument, objects, load_itemsDocument,
    sharing_can_be_written_out namesDistinct_itemsDocument objects load_itemsDocument⟩

end ServiceCatalog
