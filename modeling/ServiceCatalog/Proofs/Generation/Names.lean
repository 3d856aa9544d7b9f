import ServiceCatalog.Generation.Names
import ServiceCatalog.Proofs.Success

/-!
# When names are resolved

A name is taken only if nobody has it (`takeName_eq_ok`).  Going through a list, all names are
taken exactly if they are fresh: different from each other and from the names that are taken
already (`Fresh`, `fresh_cons`).  The check of a catalog passes exactly if the fields of every
operation are fresh, and so are all methods beside those of every client and all structures beside
that of the client (`checkCollisions_eq_ok`).

The names of a generation are resolved exactly if the settings and the catalog are acceptable, the
names follow from them, and nothing clashes (`Names.resolve_eq_ok`).
-/

namespace ServiceCatalog.Generation

set_option autoImplicit false

/-! ## Taking names -/

section Taking

variable {taken next : TakenNames} {operation name : String} {owner : NameOwner}
  {names : List String}

theorem lookup_eq_none_iff : taken.lookup name = none ↔ name ∉ taken.map Prod.fst := by
  rw [List.lookup_eq_none_iff, List.mem_map]
  constructor
  · rintro other ⟨entry, member, rfl⟩
    exact absurd (other entry member) (by simp)
  · intro unknown entry member
    rw [bne_iff_ne]
    rintro rfl
    exact unknown ⟨entry, member, rfl⟩

theorem takeName_eq_ok :
    takeName operation name owner taken = .ok next ↔
      name ∉ taken.map Prod.fst ∧ next = taken ++ [(name, owner)] := by
  rw [takeName, ← lookup_eq_none_iff]
  cases taken.lookup name with
  | none => simp [eq_comm]
  | some holder => simp

/-- The names differ from each other and from those that are taken. -/
def Fresh (names : List String) (taken : TakenNames) : Prop :=
  names.Nodup ∧ ∀ name ∈ names, name ∉ taken.map Prod.fst

theorem fresh_nil : Fresh [] taken :=
  ⟨List.nodup_nil, fun _ member => absurd member List.not_mem_nil⟩

/-- Names are fresh if the first is, and the others also are when it is taken. -/
theorem fresh_cons :
    Fresh (name :: names) taken ↔
      name ∉ taken.map Prod.fst ∧ Fresh names (taken ++ [(name, owner)]) := by
  simp only [Fresh, List.nodup_cons, List.forall_mem_cons, List.map_append, List.map_cons,
    List.map_nil, List.mem_append, List.mem_singleton, not_or]
  constructor
  · rintro ⟨⟨new, distinct⟩, unknown, others⟩
    refine ⟨unknown, distinct, fun other member => ⟨others other member, ?_⟩⟩
    rintro rfl
    exact new member
  · rintro ⟨unknown, distinct, others⟩
    exact ⟨⟨fun member => (others name member).2 rfl, distinct⟩, unknown,
      fun other member => (others other member).1⟩

/-- Names that are all taken at the start are fresh beside others. -/
theorem fresh_iff_nodup_append (distinct : (taken.map Prod.fst).Nodup) :
    Fresh names taken ↔ (taken.map Prod.fst ++ names).Nodup := by
  rw [List.nodup_append]
  constructor
  · rintro ⟨new, unknown⟩
    refine ⟨distinct, new, ?_⟩
    rintro name known _ member rfl
    exact unknown name member known
  · rintro ⟨_, new, apart⟩
    exact ⟨new, fun name member known => apart name known name member rfl⟩

/-- **All names of a list are taken exactly if they are fresh**, each for its owner. -/
theorem foldlM_takeName_eq_ok {α : Type} {items : List α} {nameOf : α → String}
    {ownerOf : α → NameOwner} :
    items.foldlM (fun taken item => takeName operation (nameOf item) (ownerOf item) taken) taken =
        .ok next ↔
      Fresh (items.map nameOf) taken ∧
        next = taken ++ items.map fun item => (nameOf item, ownerOf item) := by
  induction items generalizing taken with
  | nil =>
      rw [List.map_nil, List.map_nil, List.append_nil]
      constructor
      · intro same
        exact ⟨fresh_nil, (Except.ok.inj same).symm⟩
      · rintro ⟨-, rfl⟩
        rfl
  | cons item items ih =>
      rw [List.map_cons, @fresh_cons _ _ (ownerOf item), List.foldlM_cons, bind_eq_ok]
      simp only [takeName_eq_ok]
      constructor
      · rintro ⟨_, ⟨unknown, rfl⟩, others⟩
        obtain ⟨fresh, rfl⟩ := ih.mp others
        exact ⟨⟨unknown, fresh⟩, by simp⟩
      · rintro ⟨⟨unknown, fresh⟩, rfl⟩
        exact ⟨_, ⟨unknown, rfl⟩, ih.mpr ⟨fresh, by simp⟩⟩

end Taking

/-! ## Operations -/

section Operations

variable {operation : Operation} {operations : List Operation} {suffix : String}
  {taken next : TakenNames × TakenNames}

/-- The names of the fields of an operation, in declared order. -/
def fieldNames (operation : Operation) : List String :=
  operation.parameters.map fun parameter => fieldName parameter.name

theorem checkFields_eq_ok : checkFields operation = .ok () ↔ (fieldNames operation).Nodup := by
  rw [checkFields, bind_eq_ok]
  simp only [pure, Except.pure, and_true, foldlM_takeName_eq_ok, exists_and_left, exists_eq]
  simp [Fresh, fieldNames]

theorem takeOperation_eq_ok :
    takeOperation suffix taken operation = .ok next ↔
      (fieldNames operation).Nodup ∧
        methodName operation.name ∉ taken.1.map Prod.fst ∧
        structName operation.name suffix ∉ taken.2.map Prod.fst ∧
        next = (taken.1 ++ [(methodName operation.name, .operation operation.name)],
          taken.2 ++ [(structName operation.name suffix, .operation operation.name)]) := by
  simp only [takeOperation, bind_eq_ok, takeName_eq_ok, ← checkFields_eq_ok]
  constructor
  · rintro ⟨_, fields, methods, ⟨method, rfl⟩, structs, ⟨struct, rfl⟩, same⟩
    exact ⟨fields, method, struct, (Except.ok.inj same).symm⟩
  · rintro ⟨fields, method, struct, rfl⟩
    exact ⟨(), fields, _, ⟨method, rfl⟩, _, ⟨struct, rfl⟩, rfl⟩

/-- The names of the methods of operations, each with its operation. -/
def takenMethods (operations : List Operation) : TakenNames :=
  operations.map fun operation => (methodName operation.name, .operation operation.name)

/-- The names of the structures of operations, each with its operation. -/
def takenStructs (suffix : String) (operations : List Operation) : TakenNames :=
  operations.map fun operation => (structName operation.name suffix, .operation operation.name)

/-- **The names of all operations are taken exactly if they are fresh.** -/
theorem foldlM_takeOperation_eq_ok :
    operations.foldlM (takeOperation suffix) taken = .ok next ↔
      ((∀ operation ∈ operations, (fieldNames operation).Nodup) ∧
        Fresh (operations.map fun operation => methodName operation.name) taken.1 ∧
        Fresh (operations.map fun operation => structName operation.name suffix) taken.2) ∧
      next = (taken.1 ++ takenMethods operations, taken.2 ++ takenStructs suffix operations) := by
  induction operations generalizing taken with
  | nil =>
      constructor
      · intro same
        exact ⟨⟨by simp, fresh_nil, fresh_nil⟩, by
          simp [takenMethods, takenStructs, ← Except.ok.inj same]⟩
      · rintro ⟨-, rfl⟩
        simp [takenMethods, takenStructs, pure, Except.pure]
  | cons operation operations ih =>
      rw [List.forall_mem_cons, List.map_cons, List.map_cons,
        @fresh_cons taken.1 _ (.operation operation.name),
        @fresh_cons taken.2 _ (.operation operation.name), List.foldlM_cons, bind_eq_ok]
      simp only [takeOperation_eq_ok]
      constructor
      · rintro ⟨_, ⟨fields, method, struct, rfl⟩, others⟩
        obtain ⟨⟨allFields, methods, structs⟩, rfl⟩ := ih.mp others
        exact ⟨⟨⟨fields, allFields⟩, ⟨method, methods⟩, struct, structs⟩, by
          simp [takenMethods, takenStructs]⟩
      · rintro ⟨⟨⟨fields, allFields⟩, ⟨method, methods⟩, struct, structs⟩, rfl⟩
        exact ⟨_, ⟨fields, method, struct, rfl⟩, ih.mpr ⟨⟨allFields, methods, structs⟩, by
          simp [takenMethods, takenStructs]⟩⟩

/-- The names of the generated source are different where they must be.  Every client has four
methods before it has one for each operation. -/
structure NamesDiffer (catalog : Catalog) (client suffix : String) : Prop where
  fields : ∀ operation ∈ catalog.operations, (fieldNames operation).Nodup
  methods : (["new", "with_base_url", "with_cache", "client"] ++
    catalog.operations.map fun operation => methodName operation.name).Nodup
  structs :
    (client :: catalog.operations.map fun operation => structName operation.name suffix).Nodup

/-- The names that are taken before any operation is looked at. -/
def takenByClient (client : String) : TakenNames × TakenNames :=
  (clientMethods.map fun name => (name, .client), [(client, .clientStruct)])

/-- Operations take their names beside the client exactly if the names differ. -/
theorem foldlM_takenByClient_eq_ok {catalog : Catalog} {client : String} :
    catalog.operations.foldlM (takeOperation suffix) (takenByClient client) = .ok next ↔
      NamesDiffer catalog client suffix ∧
        next = ((takenByClient client).1 ++ takenMethods catalog.operations,
          (takenByClient client).2 ++ takenStructs suffix catalog.operations) := by
  have own : ((takenByClient client).1.map Prod.fst).Nodup := by
    simp only [takenByClient, List.map_map]
    decide
  have single : ((takenByClient client).2.map Prod.fst).Nodup := by
    simp [takenByClient]
  rw [foldlM_takeOperation_eq_ok, fresh_iff_nodup_append own, fresh_iff_nodup_append single]
  refine and_congr_left fun _ => ?_
  exact ⟨fun ⟨fields, methods, structs⟩ => ⟨fields, methods, structs⟩,
    fun ⟨fields, methods, structs⟩ => ⟨fields, methods, structs⟩⟩

/-- **The check passes exactly if the names differ.** -/
theorem checkCollisions_eq_ok {catalog : Catalog} {client : String} :
    checkCollisions catalog client suffix = .ok () ↔ NamesDiffer catalog client suffix := by
  have passes : checkCollisions catalog client suffix = .ok () ↔
      ∃ next, catalog.operations.foldlM (takeOperation suffix) (takenByClient client) =
        .ok next := by
    rw [checkCollisions, bind_eq_ok]
    simp only [pure, Except.pure, and_true]
    rfl
  simp only [passes, foldlM_takenByClient_eq_ok, exists_and_left, exists_eq, and_true]

end Operations

/-! ## Resolution -/

theorem require_eq_ok {rule : Bool} {fault : SettingsFault} :
    Settings.require rule fault = .ok () ↔ rule = true := by
  cases rule <;> simp [Settings.require]

theorem checkSuffix_eq_ok {suffix : String} :
    Settings.checkSuffix suffix = .ok () ↔
      suffix.isEmpty = false ∧ suffix.toList.all Settings.isPlainChar = true := by
  rw [Settings.checkSuffix]
  split_ifs with empty plain <;> simp_all

/-- **Settings are accepted exactly if every name that is given, the suffix and the name of the
package keep the rules.** -/
theorem validate_eq_ok {settings : Settings} :
    settings.validate = .ok () ↔
      Settings.checkSuffix settings.paramsSuffix = .ok () ∧
        (∀ name ∈ settings.clientName, Settings.isTypeName name = true) ∧
        (∀ name ∈ settings.moduleName, Settings.isModuleName name = true) ∧
        Settings.isPackageName settings.packageName = true := by
  rw [Settings.validate, bind_eq_ok]
  cases settings.clientName <;> cases settings.moduleName <;>
    simp [bind_eq_ok, require_eq_ok, Unique.exists_iff]

/-- The names that follow from settings and a catalog, both of them acceptable. -/
structure Names.Follow (catalog : Catalog) (settings : Settings) (names : Names) : Prop where
  accepted : settings.validate = .ok ()
  consistent : catalog.validate = .ok ()
  clientName : names.clientName = settings.clientName.getD (Text.pascalCase catalog.title)
  typeName : Settings.isTypeName names.clientName = true
  moduleName : names.moduleName = settings.moduleName.getD (Text.snakeCase catalog.title)
  pathName : Settings.isModuleName names.moduleName = true
  suffix : names.suffix = settings.paramsSuffix
  differ : NamesDiffer catalog names.clientName names.suffix

variable {catalog : Catalog} {settings : Settings} {names : Names}

/-- **Names are resolved exactly if they follow.** -/
theorem Names.resolve_eq_ok :
    Names.resolve catalog settings = .ok names ↔ names.Follow catalog settings := by
  simp only [Names.resolve, Settings.resolveClientName, Settings.resolveModuleName, bind_eq_ok,
    mapError_eq_ok]
  constructor
  · rintro ⟨_, accepted, _, consistent, client, ⟨_, typeName, sameClient⟩, module,
      ⟨_, pathName, sameModule⟩, _, differ, same⟩
    cases sameClient
    cases sameModule
    cases same
    exact ⟨accepted, consistent, rfl, require_eq_ok.mp typeName, rfl, require_eq_ok.mp pathName,
      rfl, checkCollisions_eq_ok.mp differ⟩
  · obtain ⟨client, module, ownSuffix⟩ := names
    rintro ⟨accepted, consistent, rfl, typeName, rfl, pathName, rfl, differ⟩
    exact ⟨(), accepted, (), consistent, _, ⟨(), require_eq_ok.mpr typeName, rfl⟩, _,
      ⟨(), require_eq_ok.mpr pathName, rfl⟩, (), checkCollisions_eq_ok.mpr differ, rfl⟩

/-- The suffix of resolved names is not empty and has letters and digits only. -/
theorem Names.Follow.suffix_plain (follow : names.Follow catalog settings) :
    names.suffix.isEmpty = false ∧
      ∀ character ∈ names.suffix.toList, character.isAlphanum = true := by
  have accepted := follow.accepted
  obtain ⟨checked, -⟩ := validate_eq_ok.mp accepted
  rw [follow.suffix]
  obtain ⟨full, plain⟩ := checkSuffix_eq_ok.mp checked
  exact ⟨full, List.all_eq_true.mp plain⟩

end ServiceCatalog.Generation
