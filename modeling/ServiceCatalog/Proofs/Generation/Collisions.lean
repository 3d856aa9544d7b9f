import ServiceCatalog.Association
import ServiceCatalog.Proofs.Generation.Names

/-!
# Which clash of names is reported

However many names clash, one clash is reported.  It is that of the first operation in catalog order
whose names clash, where the operations before it have names that differ from each other and from
those of the client.  Within this operation the fields come before the method and the method before
the structure (`Operation.FirstClash`).

With the clash goes the owner of the name.  A name that is taken has one owner, because the names
before it differ: an earlier parameter or operation with that name, or the client
(`lookup_takenByClient_methods`, `lookup_takenByClient_structs`).
-/

namespace ServiceCatalog.Generation

set_option autoImplicit false

/-! ## The first clash -/

/-- Who has the name of a method: the client, for four names, or an earlier operation. -/
inductive HasMethod (earlier : List Operation) (name : String) : NameOwner → Prop where
  | client (own : name ∈ ["new", "with_base_url", "with_cache", "client"]) :
      HasMethod earlier name .client
  | operation {other : Operation} (member : other ∈ earlier)
      (same : methodName other.name = name) : HasMethod earlier name (.operation other.name)

/-- Who has the name of a structure: the client, or an earlier operation. -/
inductive HasStruct (client suffix : String) (earlier : List Operation) (name : String) :
    NameOwner → Prop where
  | client (own : name = client) : HasStruct client suffix earlier name .clientStruct
  | operation {other : Operation} (member : other ∈ earlier)
      (same : structName other.name suffix = name) :
      HasStruct client suffix earlier name (.operation other.name)

/-- The first clash of an operation behind others: two of its fields have one name, or its method,
or its structure, has a name that is taken. -/
inductive FirstClash (client suffix : String) (earlier : List Operation) (operation : Operation) :
    GenerationError → Prop where
  | field {before after : List Parameter} {parameter other : Parameter}
      (split : operation.parameters = before ++ parameter :: after)
      (distinct : (before.map fun parameter => fieldName parameter.name).Nodup)
      (member : other ∈ before) (same : fieldName other.name = fieldName parameter.name) :
      FirstClash client suffix earlier operation
        (.collision operation.name (fieldName parameter.name) (.parameter other.name))
  | method {owner : NameOwner} (fields : (fieldNames operation).Nodup)
      (taken : HasMethod earlier (methodName operation.name) owner) :
      FirstClash client suffix earlier operation
        (.collision operation.name (methodName operation.name) owner)
  | struct {owner : NameOwner} (fields : (fieldNames operation).Nodup)
      (free : ∀ owner, ¬ HasMethod earlier (methodName operation.name) owner)
      (taken : HasStruct client suffix earlier (structName operation.name suffix) owner) :
      FirstClash client suffix earlier operation
        (.collision operation.name (structName operation.name suffix) owner)

/-! ## Owners of names -/

section Owners

variable {taken : TakenNames} {operation name client suffix : String} {owner : NameOwner}
  {cause : GenerationError} {earlier : List Operation}

/-- A name that is taken is reported with its owner. -/
theorem takeName_eq_error :
    takeName operation name owner taken = .error cause ↔
      ∃ holder, taken.lookup name = some holder ∧ cause = .collision operation name holder := by
  rw [takeName]
  cases taken.lookup name with
  | none => simp
  | some holder => simp [eq_comm]

/-- What is taken for the items of a list, each under the name of an item. -/
theorem mem_map_taken {α : Type} {items : List α} {nameOf : α → String}
    {ownerOf : α → NameOwner} :
    (name, owner) ∈ items.map (fun item => (nameOf item, ownerOf item)) ↔
      ∃ item ∈ items, nameOf item = name ∧ ownerOf item = owner := by
  simp [List.mem_map, Prod.ext_iff]

variable {catalog : Catalog} (differ : NamesDiffer catalog client suffix)

include differ

/-- **The owner of a method name.** -/
theorem lookup_takenByClient_methods :
    ((takenByClient client).1 ++ takenMethods catalog.operations).lookup name = some owner ↔
      HasMethod catalog.operations name owner := by
  have distinct : (((takenByClient client).1 ++ takenMethods catalog.operations).map
      Prod.fst).Nodup := by
    simpa [takenByClient, clientMethods, takenMethods, Function.comp_def] using differ.methods
  rw [lookup_eq_some_iff_mem distinct, List.mem_append, takenByClient, mem_map_taken, takenMethods,
    mem_map_taken]
  constructor
  · rintro (⟨_, own, rfl, rfl⟩ | ⟨other, member, same, rfl⟩)
    · exact .client own
    · exact .operation member same
  · intro has
    cases has with
    | client own => exact .inl ⟨name, own, rfl, rfl⟩
    | operation member same => exact .inr ⟨_, member, same, rfl⟩

/-- **The owner of a structure name.** -/
theorem lookup_takenByClient_structs :
    ((takenByClient client).2 ++ takenStructs suffix catalog.operations).lookup name =
        some owner ↔
      HasStruct client suffix catalog.operations name owner := by
  have distinct : (((takenByClient client).2 ++ takenStructs suffix catalog.operations).map
      Prod.fst).Nodup := by
    simpa [takenByClient, takenStructs, Function.comp_def] using differ.structs
  rw [lookup_eq_some_iff_mem distinct, List.mem_append, takenByClient, List.mem_singleton,
    takenStructs, mem_map_taken]
  constructor
  · rintro (own | ⟨other, member, same, rfl⟩)
    · obtain ⟨rfl, rfl⟩ := Prod.mk.inj own
      exact .client rfl
    · exact .operation member same
  · intro has
    cases has with
    | client own => exact .inl (by rw [own])
    | operation member same => exact .inr ⟨_, member, same, rfl⟩

end Owners

/-! ## What the check reports -/

section Reports

variable {operation : Operation} {cause : GenerationError} {client suffix : String}

/-- **The fields of an operation clash at the first that repeats a name.** -/
theorem checkFields_eq_error :
    checkFields operation = .error cause ↔
      ∃ before parameter after other, operation.parameters = before ++ parameter :: after ∧
        (before.map fun parameter => fieldName parameter.name).Nodup ∧ other ∈ before ∧
        fieldName other.name = fieldName parameter.name ∧
        cause = .collision operation.name (fieldName parameter.name) (.parameter other.name) := by
  have scan : checkFields operation = .error cause ↔
      operation.parameters.foldlM (fun taken parameter => takeName operation.name
        (fieldName parameter.name) (.parameter parameter.name) taken) [] = .error cause := by
    rw [checkFields, bind_eq_error]
    simp [pure, Except.pure]
  simp only [scan, foldlM_eq_error, foldlM_takeName_eq_ok, takeName_eq_error, List.nil_append]
  constructor
  · rintro ⟨before, parameter, after, _, split, ⟨⟨distinct, -⟩, rfl⟩, holder, found, rfl⟩
    obtain ⟨other, member, same, rfl⟩ := mem_map_taken.mp (mem_of_lookup_eq_some found)
    exact ⟨before, parameter, after, other, split, distinct, member, same, rfl⟩
  · rintro ⟨before, parameter, after, other, split, distinct, member, same, rfl⟩
    refine ⟨before, parameter, after, _, split, ⟨⟨distinct, by simp⟩, rfl⟩, _, ?_, rfl⟩
    refine (lookup_eq_some_iff_mem ?_ _ _).mpr (mem_map_taken.mpr ⟨other, member, same, rfl⟩)
    simpa [Function.comp_def] using distinct

/-- **An operation is refused for its first clash** with what operations before it have taken. -/
theorem takeOperation_eq_error {catalog : Catalog} (differ : NamesDiffer catalog client suffix) :
    takeOperation suffix ((takenByClient client).1 ++ takenMethods catalog.operations,
        (takenByClient client).2 ++ takenStructs suffix catalog.operations) operation =
        .error cause ↔
      FirstClash client suffix catalog.operations operation cause := by
  simp only [takeOperation, bind_eq_error, takeName_eq_error, takeName_eq_ok,
    lookup_takenByClient_methods differ, lookup_takenByClient_structs differ]
  constructor
  · rintro (fields | ⟨⟨⟩, passed, ⟨owner, taken, rfl⟩ |
      ⟨_, ⟨unknown, rfl⟩, ⟨owner, taken, rfl⟩ | ⟨_, _, impossible⟩⟩⟩)
    · obtain ⟨before, parameter, after, other, split, distinct, member, same, rfl⟩ :=
        checkFields_eq_error.mp fields
      exact .field split distinct member same
    · exact .method (checkFields_eq_ok.mp passed) taken
    · refine .struct (checkFields_eq_ok.mp passed) (fun other has => ?_) taken
      rw [← lookup_eq_none_iff] at unknown
      exact absurd ((lookup_takenByClient_methods differ).mpr has) (by simp [unknown])
    · cases impossible
  · intro clash
    cases clash with
    | field split distinct member same =>
        exact .inl (checkFields_eq_error.mpr ⟨_, _, _, _, split, distinct, member, same, rfl⟩)
    | method fields taken =>
        exact .inr ⟨(), checkFields_eq_ok.mpr fields, .inl ⟨_, taken, rfl⟩⟩
    | struct fields free taken =>
        refine .inr ⟨(), checkFields_eq_ok.mpr fields, .inr ⟨_, ⟨?_, rfl⟩, .inl ⟨_, taken, rfl⟩⟩⟩
        rw [← lookup_eq_none_iff, Option.eq_none_iff_forall_ne_some]
        exact fun owner found => free owner ((lookup_takenByClient_methods differ).mp found)

end Reports

/-- **Clashes of names are detected exactly.**

* The check passes exactly if the fields of every operation have different names, the methods differ
  from each other and from those that every client has, and the structures differ from each other
  and from the client.
* Otherwise it reports the first clash of the first operation whose names clash with those before
  it, with the owner of the name. -/
theorem name_clashes_are_detected_exactly (catalog : Catalog) (client suffix : String) :
    (checkCollisions catalog client suffix = .ok () ↔ NamesDiffer catalog client suffix) ∧
      ∀ cause, checkCollisions catalog client suffix = .error cause ↔
        ∃ before operation after, catalog.operations = before ++ operation :: after ∧
          NamesDiffer { catalog with operations := before } client suffix ∧
          FirstClash client suffix before operation cause := by
  refine ⟨checkCollisions_eq_ok, fun cause => ?_⟩
  have scan : checkCollisions catalog client suffix = .error cause ↔
      catalog.operations.foldlM (takeOperation suffix) (takenByClient client) = .error cause := by
    rw [checkCollisions, bind_eq_error]
    simp [pure, Except.pure, takenByClient]
  have through (before : List Operation) (reached : TakenNames × TakenNames) :
      before.foldlM (takeOperation suffix) (takenByClient client) = .ok reached ↔
        NamesDiffer { catalog with operations := before } client suffix ∧
          reached = ((takenByClient client).1 ++ takenMethods before,
            (takenByClient client).2 ++ takenStructs suffix before) :=
    @foldlM_takenByClient_eq_ok suffix reached { catalog with operations := before } client
  rw [scan, foldlM_eq_error]
  constructor
  · rintro ⟨before, operation, after, _, split, passed, refused⟩
    obtain ⟨differ, rfl⟩ := (through _ _).mp passed
    exact ⟨before, operation, after, split, differ, (takeOperation_eq_error differ).mp refused⟩
  · rintro ⟨before, operation, after, split, differ, clash⟩
    exact ⟨before, operation, after, _, split, (through _ _).mpr ⟨differ, rfl⟩,
      (takeOperation_eq_error differ).mpr clash⟩

/-- The first operation is fine.  In the second one two parameters meet in the escaped form of a
keyword, which is reported and not that its method is one of every client. -/
example :
    let catalog := (Catalog.titled "Shops").withOperation
      (.declare "listShops" .get "/shops" [.declare "type" .query])
    checkCollisions (catalog.withOperation
        (.declare "new" .post "/shops" [.declare "type" .query, .declare "Type_" .header]))
        "Shops" "Params" = .error (.collision "new" "type_" (.parameter "type")) := by
  decide +kernel

end ServiceCatalog.Generation
