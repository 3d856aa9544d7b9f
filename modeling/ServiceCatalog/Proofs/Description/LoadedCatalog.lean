import ServiceCatalog.Proofs.Catalog.Division
import ServiceCatalog.Proofs.Catalog.Validity
import ServiceCatalog.Proofs.Description.Loading

/-!
# What a loaded catalog is known to be

The operations of a catalog that was loaded stand for the operation entries of its document, one by
one and in order: each has the verb, the path and the name that follow from its entry
(`Operation.StandsFor`).  And each obeys the rules that calls and generated clients rely on
(`Operation.Sound`).

The rules come from three sides.  The check at the end sees to the keys of the parameters, to the
placeholders and to bodies and forms; declaring a parameter makes it required in the path and any
value in the body; declaring an operation computes whether it expects a payload.
`loaded_catalogs_are_sound` says that together they hold of whatever is loaded.
-/

namespace ServiceCatalog

set_option autoImplicit false

open ServiceCatalog.Json ServiceCatalog.Description

/-- An operation has the verb, the path and the name that follow from an entry of a document.  The
name is the identifier of the entry in the form of a name, unless the identifier is missing or
blank; then it is derived from verb and path. -/
structure Operation.StandsFor (operation : Operation) (entry : OperationEntry) : Prop where
  verb : entry.name.toList.map Char.toLower = operation.verb.lower.toList
  path : operation.path = entry.template
  name_of_identifier : ∀ identifier, operationIdentifier? entry.value = some identifier →
    Text.trim identifier.toList ≠ [] → operation.name = OperationName.ofIdentifier identifier
  name_of_address : (∀ identifier, operationIdentifier? entry.value = some identifier →
    Text.trim identifier.toList = []) →
      operation.name = OperationName.ofAddress operation.verb entry.template

/-- The rules that calls and generated clients rely on. -/
structure Operation.Sound (operation : Operation) : Prop where
  distinct_keys : (operation.parameters.map Parameter.key).Nodup
  path_required : ∀ parameter ∈ operation.parameters,
    parameter.placement = .path → parameter.required = true
  path_names : ∀ name, Template.HoldsName operation.path.toList name ↔
    ∃ parameter ∈ operation.parameters, parameter.placement = .path ∧ parameter.name = name
  body_kind : ∀ parameter ∈ operation.parameters,
    parameter.placement = .body → parameter.kind = .json
  one_body : (operation.parametersIn .body).length ≤ 1
  body_or_form : operation.parametersIn .body ≠ [] → operation.parametersIn .formData = []
  expectsBody_iff : operation.expectsBody = true ↔
    ∃ parameter ∈ operation.parameters, parameter.placement = .body ∨ parameter.placement = .formData
  cacheable : operation.isCacheable = true → ∀ parameter ∈ operation.parameters,
    parameter.placement ≠ .body ∧ parameter.placement ≠ .formData

/-! ## Names and verbs -/

/-- The verb of an entry is its name, in any mixture of capital and small letters. -/
theorem Verb.lower_of_ofText? {text : String} {verb : Verb} (read : Verb.ofText? text = some verb) :
    text.toList.map Char.toLower = verb.lower.toList := by
  have named := List.find?_some read
  exact (beq_iff_eq.mp named).symm

theorem OperationName.choose_of_some {identifier : String}
    (text : Text.trim identifier.toList ≠ []) (verb : Verb) (path : String) :
    choose (some identifier) verb path = ofIdentifier identifier := by
  simp [choose, text]

theorem OperationName.choose_of_blank {identifier : Option String}
    (blank : ∀ text, identifier = some text → Text.trim text.toList = []) (verb : Verb)
    (path : String) : choose identifier verb path = ofAddress verb path := by
  cases identifier with
  | none => rfl
  | some text => simp [choose, blank text rfl]

/-- The payload is written from bodies and form fields. -/
theorem Placement.inPayload_eq_true {placement : Placement} :
    placement.inPayload = true ↔ placement = .body ∨ placement = .formData := by
  cases placement <;> simp [inPayload]

theorem Operation.isCacheable_eq_true {operation : Operation} :
    operation.isCacheable = true ↔
      operation.verb.isRead = true ∧ operation.expectsBody = false := by
  simp [isCacheable]

namespace Description

theorem standsFor_of_describes {shared : List (String × Value)} {entry : OperationEntry}
    {operation : Operation} (distinct : entry.value.NamesDistinct)
    (describes : entry.Describes shared operation) : operation.StandsFor entry := by
  obtain ⟨verb, written, parameters, named, read, -, rfl⟩ := describes
  obtain ⟨identifier, -⟩ := written_of_operation distinct read
  refine ⟨Verb.lower_of_ofText? named, rfl, ?_, ?_⟩
  · intro text given nonblank
    show OperationName.choose written.identifier verb entry.template = _
    rw [identifier, given, OperationName.choose_of_some nonblank]
  · intro blank
    show OperationName.choose written.identifier verb entry.template = _
    exact OperationName.choose_of_blank (identifier ▸ blank) verb entry.template

/-! ## Parameters -/

/-- Every parameter of an operation is declared by some definition. -/
theorem DeclareMerged.exists_declares {shared : List (String × Value)} {inherited own : List Value}
    {result : List Parameter} (declared : DeclareMerged shared inherited own result)
    {parameter : Parameter} (member : parameter ∈ result) :
    ∃ definition, Declares shared definition parameter := by
  obtain ⟨pathLevel, operationLevel, declaredPath, declaredOwn, -, -, rfl⟩ := declared
  rcases mem_of_mem_merged member with there | there
  · obtain ⟨definition, -, declares⟩ := exists_of_mem_right declaredPath there
    exact ⟨definition, declares⟩
  · obtain ⟨definition, -, declares⟩ := exists_of_mem_right declaredOwn there
    exact ⟨definition, declares⟩

/-- A parameter that a definition declares is required in the path and any value in the body. -/
theorem Declares.standard {shared : List (String × Value)} {written : Value} {parameter : Parameter}
    (declares : Declares shared written parameter) :
    (parameter.placement = .path → parameter.required = true) ∧
      (parameter.placement = .body → parameter.kind = .json) := by
  obtain ⟨resolved, read, -, -, describes⟩ := declares
  constructor
  · intro placed
    simp [describes.required, placed]
  · intro placed
    simp [describes.kind, declaredKind, placed]

/-! ## Operations -/

/-- An operation that was put together expects a payload if a parameter is written to one. -/
theorem expectsBody_assembledOperation (verb : Verb) (template : String)
    (written : WrittenOperation) (parameters : List Parameter) :
    (assembledOperation verb template written parameters).expectsBody = true ↔
      ∃ parameter ∈ parameters, parameter.placement = .body ∨ parameter.placement = .formData := by
  simp [assembledOperation, Operation.withDeprecated, Operation.declare,
    Placement.inPayload_eq_true]

/-- An operation that is described by an entry and has no violation is sound. -/
theorem sound_of_describes {shared : List (String × Value)} {entry : OperationEntry}
    {operation : Operation} (describes : entry.Describes shared operation)
    (valid : operation.violation? = none) : operation.Sound := by
  obtain ⟨unrepeated, unconflicting, -, -⟩ := Operation.violation?_eq_none.mp valid
  obtain ⟨oneBody, bodyOrForm⟩ := Operation.conflictingBody?_eq_none.mp unconflicting
  have names : ∀ name, Template.HoldsName operation.path.toList name ↔
      name ∈ operation.pathNames := by
    intro name
    have placeholders := Operation.mem_placeholders_iff (Operation.validate_eq_ok.mpr valid) name
    exact Template.mem_names_iff.symm.trans placeholders
  obtain ⟨verb, written, parameters, -, -, declared, rfl⟩ := describes
  have standard : ∀ parameter ∈ parameters,
      (parameter.placement = .path → parameter.required = true) ∧
        (parameter.placement = .body → parameter.kind = .json) := by
    intro parameter member
    obtain ⟨definition, declares⟩ := declared.exists_declares member
    exact declares.standard
  have expects := expectsBody_assembledOperation verb entry.template written parameters
  refine
    { distinct_keys := Operation.duplicateParameter?_eq_none.mp unrepeated
      path_required := fun parameter member => (standard parameter member).1
      path_names := fun name => (names name).trans Operation.mem_pathNames
      body_kind := fun parameter member => (standard parameter member).2
      one_body := oneBody
      body_or_form := bodyOrForm
      expectsBody_iff := expects
      cacheable := ?_ }
  intro cacheable parameter member
  have sendsNothing := (Operation.isCacheable_eq_true.mp cacheable).2
  refine not_or.mp fun placed => ?_
  rw [expects.mpr ⟨parameter, member, placed⟩] at sendsNothing
  cases sendsNothing

end Description

/-- **What a loaded catalog is known to be.**  Its operations stand for the operation entries of
the document, one by one and in the order of the document; they have different names; and each of
them is sound. -/
theorem loaded_catalogs_are_sound {root : Value} {catalog : Catalog}
    (distinct : root.NamesDistinct) (loaded : load root = .ok catalog) :
    List.Forall₂ (fun entry operation => operation.StandsFor entry) (operationEntries root)
        catalog.operations ∧
      (catalog.operations.map Operation.name).Nodup ∧
      ∀ operation ∈ catalog.operations, operation.Sound := by
  obtain ⟨described, valid⟩ := describes_of_load distinct loaded
  obtain ⟨names, unviolated⟩ := Catalog.validate_eq_ok.mp valid
  refine ⟨?_, names, ?_⟩
  · refine forall₂_imp_of_mem described fun entry member operation describes => ?_
    exact standsFor_of_describes (namesDistinct_of_entry distinct member).2 describes
  · intro operation member
    obtain ⟨entry, -, describes⟩ := exists_of_mem_right described member
    exact sound_of_describes describes (unviolated operation member)

/-- The catalog of items is sound: one operation has an identifier, the other takes its name from
verb and path, and neither the list of shared parameters nor the extension is an operation. -/
theorem items_catalog_is_sound :
    itemsDocument.NamesDistinct ∧ load itemsDocument = .ok itemsDocumentCatalog ∧
      List.Forall₂ (fun entry operation => operation.StandsFor entry)
          (operationEntries itemsDocument) itemsDocumentCatalog.operations ∧
        (itemsDocumentCatalog.operations.map Operation.name).Nodup ∧
        ∀ operation ∈ itemsDocumentCatalog.operations, operation.Sound :=
  ⟨namesDistinct_itemsDocument, load_itemsDocument,
    loaded_catalogs_are_sound namesDistinct_itemsDocument load_itemsDocument⟩

end ServiceCatalog
