import ServiceCatalog.Description.Format
import ServiceCatalog.Proofs.Json.Records
import ServiceCatalog.Proofs.Yaml.Names

/-!
# What is written in a document

A document, an operation and a parameter are records, so each of their fields holds what is written
for it, whether the record is written as an object or as an array, and in whatever order.  This
module names what is written for the fields that the theory of loading is about: the paths and the
shared definitions of a document (`pathItems`, `sharedDefinitions`), the identifier and the
parameters of an operation (`operationIdentifier?`, `ownParameters`), the name and the placement of
a parameter (`declaredKey?`).

An operation entry of a document is a member of a path item that is none of the list of shared
parameters, a reference and an extension (`operationEntries`).

No name occurs twice in a document that was parsed (`Format.namesDistinct_of_parse`), so none does
in any of its parts (`namesDistinct_of_entry` and its siblings).  What is said about loading is said
of such documents.
-/

namespace ServiceCatalog.Description

set_option autoImplicit false

open ServiceCatalog.Json

/-! ## Operations -/

/-- The identifier that is written for an operation. -/
def operationIdentifier? (operation : Value) : Option String :=
  (operation.field? 0 "operationId").bind Value.text?

/-- The parameters that are written for an operation. -/
def ownParameters (operation : Value) : List Value :=
  ((operation.field? 4 "parameters").map Value.items).getD []

namespace WrittenOperation

theorem independent_fields : Independent WrittenOperation.fields where
  distinct := by decide
  commute := by
    simp [WrittenOperation.fields, RecordField.commutes_of]

/-- The fields of an operation hold what is written for them. -/
structure Holds (written : Nat → String → Option Value) (operation : WrittenOperation) : Prop where
  identifier : readWritten (optional text) none (written 0 "operationId") = .ok operation.identifier
  summary : readWritten (optional text) none (written 1 "summary") = .ok operation.summary
  description :
    readWritten (optional text) none (written 2 "description") = .ok operation.description
  deprecated : readWritten boolean false (written 3 "deprecated") = .ok operation.deprecated
  parameters : readWritten (listOf anyValue) [] (written 4 "parameters") = .ok operation.parameters

theorem readFields_eq_ok {written : Nat → String → Option Value} {operation : WrittenOperation} :
    readFields written 0 WrittenOperation.fields ⟨none, none, none, false, []⟩ = .ok operation ↔
      Holds written operation := by
  constructor
  · intro read
    obtain ⟨identifier, readIdentifier, read⟩ := (readFields_of none rfl).mp read
    obtain ⟨summary, readSummary, read⟩ := (readFields_of none rfl).mp read
    obtain ⟨description, readDescription, read⟩ := (readFields_of none rfl).mp read
    obtain ⟨deprecated, readDeprecated, read⟩ := (readFields_of false rfl).mp read
    obtain ⟨parameters, readParameters, read⟩ := (readFields_of [] rfl).mp read
    cases read
    exact ⟨readIdentifier, readSummary, readDescription, readDeprecated, readParameters⟩
  · intro holds
    refine (readFields_of none rfl).mpr ⟨_, holds.identifier, ?_⟩
    refine (readFields_of none rfl).mpr ⟨_, holds.summary, ?_⟩
    refine (readFields_of none rfl).mpr ⟨_, holds.description, ?_⟩
    refine (readFields_of false rfl).mpr ⟨_, holds.deprecated, ?_⟩
    refine (readFields_of [] rfl).mpr ⟨_, holds.parameters, ?_⟩
    rfl

theorem holds_of_decoder {value : Value} {operation : WrittenOperation}
    (distinct : value.NamesDistinct) (read : WrittenOperation.decoder value = .ok operation) :
    Holds value.field? operation :=
  readFields_eq_ok.mp (readFields_of_record independent_fields distinct read)

theorem decoder_object_eq_ok {members : List (String × Value)} {operation : WrittenOperation}
    (distinct : (members.map Prod.fst).Nodup) :
    WrittenOperation.decoder (.object members) = .ok operation ↔
      Holds (Value.object members).field? operation :=
  (record_object_eq_ok independent_fields (by decide) distinct).trans readFields_eq_ok

end WrittenOperation

/-- The identifier and the parameters of an operation that was read are those that are written. -/
theorem written_of_operation {value : Value} {operation : WrittenOperation}
    (distinct : value.NamesDistinct) (read : WrittenOperation.decoder value = .ok operation) :
    operation.identifier = operationIdentifier? value ∧ operation.parameters = ownParameters value := by
  have holds := WrittenOperation.holds_of_decoder distinct read
  exact ⟨text_of_readWritten holds.identifier, items_of_readWritten holds.parameters⟩

/-! ## Parameters -/

/-- The name and the placement that are written for a parameter. -/
def declaredKey? (definition : Value) : Option (String × String) := do
  let name ← (definition.field? 0 "name").bind Value.text?
  let placement ← (definition.field? 1 "in").bind Value.text?
  return (name, placement)

theorem WrittenParameter.independent_fields : Independent WrittenParameter.fields where
  distinct := by decide
  commute := by
    simp [WrittenParameter.fields, RecordField.commutes_of]

/-- The name and the placement of a parameter that was read are those that are written. -/
theorem written_of_parameter {value : Value} {parameter : WrittenParameter}
    (distinct : value.NamesDistinct) (read : WrittenParameter.decoder value = .ok parameter) :
    parameter.name = (value.field? 0 "name").bind Value.text? ∧
      parameter.placement = (value.field? 1 "in").bind Value.text? := by
  have read := readFields_of_record WrittenParameter.independent_fields distinct read
  obtain ⟨name, readName, read⟩ := (readFields_of none rfl).mp read
  obtain ⟨placement, readPlacement, read⟩ := (readFields_of none rfl).mp read
  obtain ⟨required, -, read⟩ := (readFields_of false rfl).mp read
  obtain ⟨description, -, read⟩ := (readFields_of none rfl).mp read
  obtain ⟨type, -, read⟩ := (readFields_of none rfl).mp read
  obtain ⟨items, -, read⟩ := (readFields_of none rfl).mp read
  obtain ⟨format, -, read⟩ := (readFields_of none rfl).mp read
  cases read
  exact ⟨text_of_readWritten readName, text_of_readWritten readPlacement⟩

/-- A reference beside the fields of a parameter plays no role. -/
theorem WrittenParameter.decoder_unassign (members : List (String × Value)) :
    WrittenParameter.decoder (.object (unassign "$ref" members)) =
      WrittenParameter.decoder (.object members) :=
  record_object_filter (fun name => !("$ref" == name)) (by decide) _ _ members

/-! ## Documents -/

/-- The path items of a document with their templates. -/
def pathItems (root : Value) : List (String × Value) :=
  ((root.member? "paths").map Value.members).getD []

/-- The shared definitions of a document. -/
def sharedDefinitions (root : Value) : List (String × Value) :=
  ((root.member? "parameters").map Value.members).getD []

namespace Document

theorem independent_fields : Independent Document.fields where
  distinct := by decide
  commute := by
    simp [Document.fields, RecordField.commutes_of]

/-- The fields of a document hold what is written for them. -/
structure Holds (written : Nat → String → Option Value) (document : Document) : Prop where
  info : readWritten (optional Info.decoder) none (written 0 "info") = .ok document.info
  host : readWritten (optional text) none (written 1 "host") = .ok document.host
  basePath : readWritten (optional text) none (written 2 "basePath") = .ok document.basePath
  schemes : readWritten (optional (listOf text)) none (written 3 "schemes") = .ok document.schemes
  paths : readWritten (optional (membersOf anyValue)) none (written 4 "paths") = .ok document.paths
  parameters :
    readWritten (membersOf anyValue) [] (written 5 "parameters") = .ok document.parameters

theorem readFields_eq_ok {written : Nat → String → Option Value} {document : Document} :
    readFields written 0 Document.fields ⟨none, none, none, none, none, []⟩ = .ok document ↔
      Holds written document := by
  constructor
  · intro read
    obtain ⟨info, readInfo, read⟩ := (readFields_of none rfl).mp read
    obtain ⟨host, readHost, read⟩ := (readFields_of none rfl).mp read
    obtain ⟨basePath, readBasePath, read⟩ := (readFields_of none rfl).mp read
    obtain ⟨schemes, readSchemes, read⟩ := (readFields_of none rfl).mp read
    obtain ⟨paths, readPaths, read⟩ := (readFields_of none rfl).mp read
    obtain ⟨parameters, readParameters, read⟩ := (readFields_of [] rfl).mp read
    cases read
    exact ⟨readInfo, readHost, readBasePath, readSchemes, readPaths, readParameters⟩
  · intro holds
    refine (readFields_of none rfl).mpr ⟨_, holds.info, ?_⟩
    refine (readFields_of none rfl).mpr ⟨_, holds.host, ?_⟩
    refine (readFields_of none rfl).mpr ⟨_, holds.basePath, ?_⟩
    refine (readFields_of none rfl).mpr ⟨_, holds.schemes, ?_⟩
    refine (readFields_of none rfl).mpr ⟨_, holds.paths, ?_⟩
    refine (readFields_of [] rfl).mpr ⟨_, holds.parameters, ?_⟩
    rfl

theorem decoder_object_eq_ok {members : List (String × Value)} {document : Document}
    (distinct : (members.map Prod.fst).Nodup) :
    Document.decoder (.object members) = .ok document ↔
      Holds (Value.object members).field? document :=
  (record_object_eq_ok independent_fields (by decide) distinct).trans readFields_eq_ok

end Document

/-- The paths and the shared definitions of a document that was read are those that are written. -/
theorem written_of_document {members : List (String × Value)} {document : Document}
    (distinct : (members.map Prod.fst).Nodup)
    (read : Document.decoder (.object members) = .ok document)
    {paths : List (String × Value)} (given : document.paths = some paths) :
    members.lookup "paths" = some (.object paths) ∧
      document.parameters = sharedDefinitions (.object members) := by
  have holds := (Document.decoder_object_eq_ok distinct).mp read
  exact ⟨readWritten_object_eq_ok.mp (given ▸ holds.paths), members_of_readWritten holds.parameters⟩

/-- The path items of a document that was read are its paths. -/
theorem pathItems_of_document {members : List (String × Value)} {document : Document}
    (distinct : (members.map Prod.fst).Nodup)
    (read : Document.decoder (.object members) = .ok document)
    {paths : List (String × Value)} (given : document.paths = some paths) :
    pathItems (.object members) = paths := by
  obtain ⟨written, -⟩ := written_of_document distinct read given
  simp [pathItems, Value.member?, written, Value.members]

/-! ## Operation entries -/

/-- An operation as it stands in a document: the template of its path, the path item that it stands
in, the name it has there, and what is written for it. -/
structure OperationEntry where
  template : String
  item : Value
  name : String
  value : Value

/-- The member of a path item is an operation: it is none of the list of shared parameters, a
reference and an extension. -/
def NamesOperation (name : String) : Prop :=
  name ≠ "parameters" ∧ name ≠ "$ref" ∧ ¬ "x-".toList <+: name.toList

instance (name : String) : Decidable (NamesOperation name) :=
  inferInstanceAs (Decidable (_ ∧ _))

/-- The operation entries of a path item, in order. -/
def itemEntries (template : String) (item : Value) : List OperationEntry :=
  (item.members.filter fun member => NamesOperation member.1).map fun (name, value) =>
    ⟨template, item, name, value⟩

/-- The operation entries of a document: paths in order, and the members of each path item in
order. -/
def operationEntries (root : Value) : List OperationEntry :=
  (pathItems root).flatMap fun (template, item) => itemEntries template item

theorem eq_of_mem_itemEntries {template : String} {item : Value} {entry : OperationEntry}
    (member : entry ∈ itemEntries template item) :
    entry.template = template ∧ entry.item = item := by
  obtain ⟨_, -, rfl⟩ := List.mem_map.mp member
  exact ⟨rfl, rfl⟩

theorem mem_operationEntries_of_itemEntries {root item : Value} {template : String}
    (there : (template, item) ∈ pathItems root) {entry : OperationEntry}
    (member : entry ∈ itemEntries template item) : entry ∈ operationEntries root :=
  List.mem_flatMap.mpr ⟨(template, item), there, member⟩

/-- The parameters that a path item shares among its operations. -/
def pathParameters (item : Value) : List Value :=
  ((item.member? "parameters").map Value.items).getD []

/-! ## Distinct names -/

/-- In whichever format it is written, a document that was parsed has distinct names. -/
theorem Format.namesDistinct_of_parse {format : Format} {text : String} {root : Value}
    (parsed : format.parse text = .ok root) : root.NamesDistinct := by
  cases format with
  | json =>
      cases read : Json.parse? text with
      | none => simp [parse, read] at parsed
      | some value =>
          simp only [parse, read, Option.elim_some, Except.ok.injEq] at parsed
          exact Json.namesDistinct_of_parse? (parsed ▸ read)
  | yaml =>
      cases read : Yaml.parse? text with
      | none => simp [parse, read] at parsed
      | some value =>
          simp only [parse, read, Option.elim_some, Except.ok.injEq] at parsed
          exact Yaml.namesDistinct_of_parse? (parsed ▸ read)

theorem namesDistinct_of_pathItem {root item : Value} {template : String}
    (distinct : root.NamesDistinct) (member : (template, item) ∈ pathItems root) :
    item.NamesDistinct := by
  unfold pathItems at member
  cases written : root.member? "paths" with
  | none => simp [written] at member
  | some paths =>
      rw [written] at member
      exact (distinct.member written).of_mem_members member

theorem namesDistinct_of_definition {root definition : Value} {name : String}
    (distinct : root.NamesDistinct) (member : (name, definition) ∈ sharedDefinitions root) :
    definition.NamesDistinct := by
  unfold sharedDefinitions at member
  cases written : root.member? "parameters" with
  | none => simp [written] at member
  | some definitions =>
      rw [written] at member
      exact (distinct.member written).of_mem_members member

theorem namesDistinct_of_pathParameter {item definition : Value} (distinct : item.NamesDistinct)
    (member : definition ∈ pathParameters item) : definition.NamesDistinct := by
  unfold pathParameters at member
  cases written : item.member? "parameters" with
  | none => simp [written] at member
  | some list =>
      rw [written] at member
      exact (distinct.member written).of_mem_items member

theorem namesDistinct_of_ownParameter {operation definition : Value}
    (distinct : operation.NamesDistinct) (member : definition ∈ ownParameters operation) :
    definition.NamesDistinct := by
  unfold ownParameters at member
  cases written : operation.field? 4 "parameters" with
  | none => simp [written] at member
  | some list =>
      rw [written] at member
      exact (distinct.field written).of_mem_items member

theorem mem_operationEntries {root : Value} {entry : OperationEntry} :
    entry ∈ operationEntries root ↔
      (entry.template, entry.item) ∈ pathItems root ∧
        (entry.name, entry.value) ∈ entry.item.members ∧ NamesOperation entry.name := by
  obtain ⟨template, item, name, value⟩ := entry
  simp only [operationEntries, itemEntries, List.mem_flatMap, List.mem_map, List.mem_filter,
    decide_eq_true_eq, Prod.exists]
  constructor
  · rintro ⟨_, _, there, _, _, ⟨member, named⟩, same⟩
    cases same
    exact ⟨there, member, named⟩
  · rintro ⟨there, member, named⟩
    exact ⟨template, item, there, name, value, ⟨member, named⟩, rfl⟩

theorem namesDistinct_of_entry {root : Value} {entry : OperationEntry}
    (distinct : root.NamesDistinct) (member : entry ∈ operationEntries root) :
    entry.item.NamesDistinct ∧ entry.value.NamesDistinct := by
  obtain ⟨there, listed, -⟩ := mem_operationEntries.mp member
  have item := namesDistinct_of_pathItem distinct there
  exact ⟨item, item.of_mem_members listed⟩

end ServiceCatalog.Description
