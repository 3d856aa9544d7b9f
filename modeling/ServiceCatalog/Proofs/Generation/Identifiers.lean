import ServiceCatalog.Generation.Package
import ServiceCatalog.Proofs.Generation.Names
import ServiceCatalog.Proofs.Generation.Naming
import ServiceCatalog.Proofs.Source.Names

/-!
# Which names can be generated

Most words of the generated sources are always the same.  The others are the names of the client
and its module, which are checked when the names of a generation are resolved, and the names that
operations and parameters become.
-/

namespace ServiceCatalog.Generation

set_option autoImplicit false

open Source

/-! ## The catalog -/

section Steps

variable {expr argument : Expr} {step : String}

theorem possible_withStep (start : Possible expr.tokens) (name : IsName step)
    (given : Possible argument.tokens) : Possible (withStep expr step argument).tokens := by
  rw [withStep, possible_method]
  exact ⟨start, name, List.forall_mem_singleton.mpr given⟩

theorem possible_withText (start : Possible expr.tokens) (name : IsName step)
    (text : Option String) : Possible (withText step text expr).tokens := by
  cases text with
  | none => exact start
  | some text => exact possible_withStep start name (possible_text text)

theorem possible_withStepIf {condition : Bool} (start : Possible expr.tokens) (name : IsName step)
    (given : Possible argument.tokens) :
    Possible (withStepIf condition step argument expr).tokens := by
  rw [withStepIf]
  split_ifs
  · exact possible_withStep start name given
  · exact start

theorem possible_kindExpr (kind : ValueKind) : Possible (kindExpr kind).tokens := by
  induction kind with
  | array items ih => simp +decide [kindExpr, definePath, ih]
  | _ => decide

theorem possible_kindType (kind : ValueKind) : Possible (kindType kind).tokens := by
  induction kind with
  | array items ih => simp +decide [kindType, ih]
  | _ => decide

theorem possible_parameterExpr (parameter : Parameter) :
    Possible (parameterExpr parameter).tokens := by
  have placed : Possible (placementExpr parameter.placement).tokens := by
    cases parameter.placement <;> decide
  have formatted : Possible (formatExpr parameter.collectionFormat).tokens := by
    cases parameter.collectionFormat <;> decide
  have start : Possible (Expr.call (definePath ["ParameterDescriptor", "new"])
      [.text parameter.name, placementExpr parameter.placement]).tokens := by
    simp +decide [definePath, placed]
  have kinded := possible_withStep start (by decide : IsName "kind")
    (possible_kindExpr parameter.kind)
  exact possible_withText (possible_withStepIf (possible_withStepIf kinded (by decide)
    (possible_truth true)) (by decide) formatted) (by decide) _

theorem possible_operationExpr (operation : Operation) :
    Possible (operationExpr operation).tokens := by
  have verb : Possible (verbExpr operation.verb).tokens := by
    cases operation.verb <;> decide
  have start : Possible (Expr.call (definePath ["OperationDescriptor", "new"])
      [.text operation.name, verbExpr operation.verb, .text operation.path,
        .list (operation.parameters.map parameterExpr)]).tokens := by
    simp +decide [definePath, verb, possible_parameterExpr]
  exact possible_withStepIf (possible_withText (possible_withText start (by decide) _)
    (by decide) _) (by decide) (possible_truth true)

/-- Operations are added one after another. -/
theorem possible_foldl_operation (operations : List Operation) (start : Possible expr.tokens) :
    Possible (operations.foldl (fun expr operation =>
      withStep expr "operation" (operationExpr operation)) expr).tokens := by
  induction operations generalizing expr with
  | nil => exact start
  | cons operation operations ih =>
      exact ih (possible_withStep start (by decide) (possible_operationExpr operation))

/-- The names of a description are texts in the function of the catalog, and no words. -/
theorem possible_catalogFunction (catalog : Catalog) :
    (catalogFunction catalog).PossibleParts := by
  have start : Possible (Expr.call (definePath ["OperationCatalog", "new"])
      [.text catalog.title]).tokens := by
    simp +decide [definePath]
  have described := possible_withText (possible_withText (possible_withText start
    (by decide : IsName "base_url") catalog.baseUrl) (by decide : IsName "description")
    catalog.description) (by decide : IsName "version") catalog.version
  constructor
  case value => exact possible_foldl_operation catalog.operations described
  all_goals simp +decide [catalogFunction]

end Steps

/-! ## Structures -/

section Structures

variable {operation : Operation} {parameter : Parameter}

theorem possible_parameterField :
    Possible (parameterField parameter).tokens ↔ IsName (fieldName parameter.name) := by
  have type : Possible (fieldType parameter).tokens := by
    rw [fieldType]
    split_ifs
    · exact possible_kindType parameter.kind
    · simp +decide [possible_kindType]
  simp [possible_structField, parameterField, type]

theorem possible_constructor
    (fields : ∀ parameter ∈ operation.parameters, IsName (fieldName parameter.name)) :
    (constructor operation).PossibleParts := by
  constructor
  case attributes =>
    rw [constructor, plainFunction]
    split_ifs <;> simp +decide
  case binders =>
    simp only [constructor, plainFunction, List.forall_mem_map, possible_typed]
    intro parameter member
    exact ⟨fields parameter (List.mem_filter.mp member).1, possible_kindType parameter.kind⟩
  case value =>
    simp only [constructor, plainFunction, possible_record, List.forall_mem_map]
    refine ⟨by decide, fun parameter member => ⟨fields parameter member, ?_⟩⟩
    split_ifs
    · simp [Expr.named, fields parameter member]
    · decide
  all_goals simp +decide [constructor, plainFunction, Ty.named]

theorem possible_ownField :
    Possible (ownField parameter).tokens ↔ IsName (fieldName parameter.name) := by
  simp +decide [ownField, Expr.itself]

theorem possible_setter (field : IsName (fieldName parameter.name)) :
    (setter parameter).PossibleParts := by
  constructor
  case name => exact isIdentifier_setterName field
  case body =>
    simp +decide [setter, plainFunction, possible_ownField, field, Expr.named]
  case binders =>
    simp +decide [setter, plainFunction, possible_kindType]
  all_goals simp +decide [setter, plainFunction, Ty.named, Expr.itself]

theorem possible_noArguments : Possible noArguments.tokens := by
  decide

theorem possible_converter
    (fields : ∀ parameter ∈ operation.parameters, IsName (fieldName parameter.name)) :
    (converter operation).PossibleParts := by
  rw [converter]
  split_ifs
  · constructor
    case value => exact possible_noArguments
    all_goals decide
  · constructor
    case body =>
      simp only [plainFunction, List.forall_mem_cons, possible_bind, List.forall_mem_map,
        possible_run, possible_method]
      refine ⟨⟨by decide, possible_noArguments⟩, fun parameter member => ?_⟩
      simp +decide [possible_ownField, fields parameter member]
    all_goals simp +decide [plainFunction, Ty.named, Expr.named]

/-- **The structure of an operation can be generated exactly if it and its fields have names.** -/
theorem possible_paramsItems {suffix : String} :
    (∀ item ∈ paramsItems operation suffix, Possible item.tokens) ↔
      IsName (structName operation.name suffix) ∧
        ∀ parameter ∈ operation.parameters, IsName (fieldName parameter.name) := by
  have traits : ∀ name ∈ derivedTraits operation, IsName name := by
    rw [derivedTraits]
    split_ifs <;> decide
  have docs : ∀ given ∈ (structDocs operation).map Attribute.doc ++
      [.derives (derivedTraits operation)], Possible given.tokens := by
    rw [List.forall_mem_append, List.forall_mem_map, List.forall_mem_singleton]
    exact ⟨fun line _ => possible_doc line, possible_derives.mpr traits⟩
  simp only [paramsItems, List.forall_mem_cons, possible_recordItem, possible_members,
    List.forall_mem_map, possible_parameterField]
  constructor
  · rintro ⟨⟨_, struct, fields⟩, _⟩
    exact ⟨struct, fields⟩
  · rintro ⟨struct, fields⟩
    refine ⟨⟨docs, struct, fields⟩, ⟨struct, fun function member => ?_⟩, List.forall_mem_nil _⟩
    rw [possible_memberFunction]
    rw [List.mem_append, List.mem_append, List.mem_singleton, List.mem_singleton] at member
    rcases member with (rfl | isSetter) | rfl
    · exact possible_constructor fields
    · obtain ⟨parameter, optional, rfl⟩ := List.mem_map.mp isSetter
      exact possible_setter (fields parameter (List.mem_filter.mp optional).1)
    · exact possible_converter fields

end Structures

/-! ## The client -/

section Client

variable {catalog : Catalog} {operation : Operation} {suffix : String}

theorem possible_commonFunctions : ∀ function ∈ commonFunctions, function.PossibleParts := by
  have all : ∀ function ∈ commonFunctions, Possible function.tokens := by
    decide
  exact fun function member => possible_function.mp (all function member)

theorem possible_baseUrlMembers :
    ∀ content ∈ baseUrlMembers catalog, Possible content.tokens := by
  rw [baseUrlMembers]
  split
  · simp +decide [Ty.named]
  · exact List.forall_mem_nil _

theorem possible_operationMethod :
    (operationMethod operation suffix).PossibleParts ↔
      IsName (methodName operation.name) ∧ IsName (structName operation.name suffix) := by
  constructor
  · intro parts
    have binder : Possible
        (Binder.typed "params" (.named (structName operation.name suffix))).tokens :=
      parts.binders _ (List.mem_cons_of_mem _ List.mem_cons_self)
    rw [possible_typed, Ty.named, possible_path, List.forall_mem_singleton] at binder
    have method := parts.name
    simp only [operationMethod] at method
    exact ⟨method, binder.2.1⟩
  · rintro ⟨method, struct⟩
    constructor
    case attributes =>
      simp only [operationMethod, List.forall_mem_append, List.forall_mem_map]
      refine ⟨fun line _ => possible_doc line, ?_⟩
      split_ifs <;> simp
    case name =>
      simp only [operationMethod]
      exact method
    case binders =>
      have params : Possible (Binder.typed "params"
          (.named (structName operation.name suffix))).tokens := by
        rw [possible_typed, Ty.named, possible_path, List.forall_mem_singleton]
        exact ⟨by decide, struct, List.forall_mem_nil _⟩
      simp only [operationMethod, List.forall_mem_cons]
      exact ⟨by decide, params, by decide, List.forall_mem_nil _⟩
    case value => simp +decide [operationMethod, Expr.named, Expr.itself]
    all_goals
      simp only [operationMethod]
      decide

/-- **The client can be generated exactly if it has a name, and so have its methods and the
structures that they take.** -/
theorem possible_clientItems {name : String} :
    (∀ item ∈ clientItems catalog name suffix, Possible item.tokens) ↔
      IsName name ∧ ∀ operation ∈ catalog.operations,
        IsName (methodName operation.name) ∧ IsName (structName operation.name suffix) := by
  have own : ∀ content ∈ baseUrlMembers catalog, Possible content.tokens := possible_baseUrlMembers
  simp only [clientItems, List.forall_mem_cons, possible_recordItem, possible_members,
    List.forall_mem_append, List.forall_mem_map, possible_memberFunction, possible_operationMethod]
  constructor
  · rintro ⟨⟨_, client, _⟩, ⟨_, _, _, methods⟩, _⟩
    exact ⟨client, methods⟩
  · rintro ⟨client, methods⟩
    refine ⟨⟨?_, client, ?_⟩, ⟨client, own, possible_commonFunctions, methods⟩,
      List.forall_mem_nil _⟩
    · simp +decide
    · decide

end Client

/-! ## The files -/

section Files

variable {catalog : Catalog} {settings : Settings} {names : Names}

/-- The names that an operation becomes can stand in a source. -/
structure HasNames (operation : Operation) (suffix : String) : Prop where
  method : IsName (methodName operation.name)
  struct : IsName (structName operation.name suffix)
  fields : ∀ parameter ∈ operation.parameters, IsName (fieldName parameter.name)

theorem possible_moduleImports : ∀ item ∈ moduleImports, Possible item.tokens := by
  decide

/-- **The module can be generated exactly if the names of all operations can.** -/
theorem possible_moduleFile (client : IsName names.clientName) :
    Possible (moduleFile catalog names).tokens ↔
      ∀ operation ∈ catalog.operations, HasNames operation names.suffix := by
  rw [possible_file]
  simp only [moduleFile, List.forall_mem_append, List.forall_mem_singleton, possible_functionItem,
    allParamsItems, List.forall_mem_flatMap, possible_paramsItems, possible_clientItems]
  constructor
  · rintro ⟨⟨_, structs⟩, _, methods⟩ operation member
    exact ⟨(methods operation member).1, (methods operation member).2,
      (structs operation member).2⟩
  · intro all
    refine ⟨⟨⟨possible_moduleImports, possible_catalogFunction catalog⟩, ?_⟩, client, ?_⟩
    · exact fun operation member => ⟨(all operation member).struct, (all operation member).fields⟩
    · exact fun operation member => ⟨(all operation member).method, (all operation member).struct⟩

end Files

/-! ## Errors of the other stages -/

section Stages

variable {catalog : Catalog} {settings : Settings} {cause : GenerationError}

/-- The errors that settings and names have. -/
def IsOfNames : GenerationError → Prop
  | .settings _ | .badSuffix _ _ | .collision _ _ _ => True
  | _ => False

theorem require_ne_error (foreign : ¬ IsOfNames cause) {rule : Bool} {fault : SettingsFault} :
    Settings.require rule fault ≠ .error cause := by
  cases rule with
  | true => exact ok_ne_error
  | false =>
      rintro ⟨⟩
      exact foreign trivial

theorem validate_ne_error (foreign : ¬ IsOfNames cause) : settings.validate ≠ .error cause := by
  refine bind_ne_error ?_ fun _ => ?_
  · rw [Settings.checkSuffix]
    split_ifs
    · rintro ⟨⟩
      exact foreign trivial
    · exact ok_ne_error
    · rintro ⟨⟩
      exact foreign trivial
  · have rule := @require_ne_error cause foreign
    cases settings.clientName with
    | none =>
        cases settings.moduleName with
        | none => exact rule
        | some module => exact bind_ne_error rule fun _ => rule
    | some client =>
        cases settings.moduleName with
        | none => exact bind_ne_error rule fun _ => rule
        | some module => exact bind_ne_error rule fun _ => bind_ne_error rule fun _ => rule

theorem checkCollisions_ne_error (foreign : ¬ IsOfNames cause) {client suffix : String} :
    checkCollisions catalog client suffix ≠ .error cause := by
  have take : ∀ operation name owner taken,
      takeName operation name owner taken ≠ .error cause := by
    intro operation name owner taken
    rw [takeName]
    cases taken.lookup name with
    | none => exact ok_ne_error
    | some holder =>
        rintro ⟨⟩
        exact foreign trivial
  have fields : ∀ operation, checkFields operation ≠ .error cause :=
    fun operation => bind_ne_error (foldlM_ne_error (fun _ _ => take _ _ _ _) _ _)
      fun _ => ok_ne_error
  refine bind_ne_error (foldlM_ne_error (fun taken operation => ?_) _ _) fun _ => ok_ne_error
  exact bind_ne_error (fields operation) fun _ => bind_ne_error (take _ _ _ _) fun _ =>
    bind_ne_error (take _ _ _ _) fun _ => ok_ne_error

/-- Resolving names fails for reasons that names have, or for what is wrong with the catalog. -/
theorem resolve_ne_error (foreign : ¬ IsOfNames cause)
    (valid : catalog.validate.mapError GenerationError.description ≠ .error cause) :
    Names.resolve catalog settings ≠ .error cause := by
  refine bind_ne_error (validate_ne_error foreign) fun _ => bind_ne_error valid fun _ =>
    bind_ne_error ?_ fun _ => bind_ne_error ?_ fun _ =>
      bind_ne_error (checkCollisions_ne_error foreign) fun _ => ok_ne_error
  · exact bind_ne_error (require_ne_error foreign) fun _ => ok_ne_error
  · exact bind_ne_error (require_ne_error foreign) fun _ => ok_ne_error

/-- Resolving names refuses a description for other reasons only. -/
theorem resolve_ne_impossibleName {word : String} :
    Names.resolve catalog settings ≠ .error (.impossibleName word) := by
  refine resolve_ne_error id ?_
  cases catalog.validate <;> simp [Except.mapError]

end Stages

/-! ## Generation -/

section Generation

variable {catalog : Catalog} {settings : Settings} {names : Names}

/-- A name of letters, digits and underscores that begins with a letter. -/
theorem isName_of_plain {name : String} {first : Char} (begins : name.toList.head? = some first)
    (letter : first.isAlpha = true)
    (plain : ∀ character ∈ name.toList, character.isAlphanum = true ∨ character = '_') :
    IsName name := by
  obtain ⟨rest, characters⟩ := List.head?_eq_some_iff.mp begins
  rw [IsName, characters,
    isIdentifier_iff_nameable (Text.isDigit_eq_false_of_isAlpha letter), ← characters]
  exact nameable_of_plain plain

theorem isName_of_isTypeName {name : String} (known : Settings.isTypeName name = true) :
    IsName name := by
  rw [Settings.isTypeName, Bool.and_eq_true, Bool.and_eq_true, List.all_eq_true,
    Option.any_eq_true] at known
  obtain ⟨⟨⟨first, begins, capital⟩, plain⟩, _⟩ := known
  exact isName_of_plain begins (Text.isAlpha_iff.mpr (.inl capital))
    fun character member => .inl (plain character member)

theorem isName_of_isModuleName {name : String} (known : Settings.isModuleName name = true) :
    IsName name := by
  rw [Settings.isModuleName, Bool.and_eq_true, Bool.and_eq_true, List.all_eq_true,
    Option.any_eq_true] at known
  obtain ⟨⟨⟨first, begins, small⟩, plain⟩, _⟩ := known
  refine isName_of_plain begins (Text.isAlpha_iff.mpr (.inr small)) fun character member => ?_
  have kind := plain character member
  rw [Bool.or_eq_true, Bool.or_eq_true, beq_iff_eq] at kind
  rcases kind with (lower | digit) | underscore
  · exact .inl (Text.isAlphanum_of_isLower lower)
  · exact .inl (Text.isAlphanum_iff.mpr (.inr digit))
  · exact .inr underscore

/-- No module name is a reserved word. -/
theorem not_reserved_of_isModuleName {name : String} (known : Settings.isModuleName name = true) :
    name ∉ reservedWords := by
  have words : ∀ word ∈ reservedWords, Settings.isModuleName word = false := by
    decide
  intro member
  rw [words name member] at known
  cases known

/-- The root file can always be written. -/
theorem checkFile_rootFile (follow : names.Follow catalog settings) :
    checkFile (rootFile catalog names) = .ok (rootFile catalog names) := by
  have module := isName_of_isModuleName follow.pathName
  have possible : (rootFile catalog names).impossibleName? = none := by
    rw [impossibleName?_eq_none, possible_file]
    rw [rootFile, List.forall_mem_cons, List.forall_mem_cons, List.forall_mem_singleton,
      possible_submodule, possible_imports, List.forall_mem_singleton]
    exact ⟨module, ⟨module, by decide⟩, by decide⟩
  have reserved : (rootFile catalog names).reservedName? = none := by
    have unreserved := not_reserved_of_isModuleName follow.pathName
    by_cases isTry : names.moduleName = "try"
    · simp [File.reservedName?, rootFile, Item.given, isTry]
    · simp [File.reservedName?, rootFile, Item.given, isTry, unreserved]
  rw [checkFile, possible, reserved]

theorem checkFile_eq_ok {file checked : File} :
    checkFile file = .ok checked ↔
      (file.impossibleName? = none ∧ file.reservedName? = none) ∧ checked = file := by
  rw [checkFile]
  cases file.impossibleName? <;> cases file.reservedName? <;> simp [eq_comm]

theorem checkFile_eq_impossibleName {file : File} {word : String} :
    checkFile file = .error (.impossibleName word) ↔ file.impossibleName? = some word := by
  rw [checkFile]
  cases file.impossibleName? <;> cases file.reservedName? <;> simp

/-- The names of an operation can stand in a source exactly if the operation and its parameters
can be named. -/
def CanBeNamed (operation : Operation) : Prop :=
  Nameable (Text.snakeCase operation.name).toList ∧
    Nameable (Text.pascalCase operation.name).toList ∧
    ∀ parameter ∈ operation.parameters, Nameable (Text.snakeCase parameter.name).toList

instance (operation : Operation) : Decidable (CanBeNamed operation) :=
  inferInstanceAs (Decidable (_ ∧ _ ∧ _))

theorem hasNames_iff {operation : Operation} {suffix : String}
    (plain : ∀ character ∈ suffix.toList, character.isAlphanum = true) :
    HasNames operation suffix ↔ CanBeNamed operation := by
  constructor
  · rintro ⟨method, struct, fields⟩
    exact ⟨(isIdentifier_escaped_iff _).mp method, (isIdentifier_structName_iff plain _).mp struct,
      fun parameter member => (isIdentifier_escaped_iff _).mp (fields parameter member)⟩
  · rintro ⟨method, struct, fields⟩
    exact ⟨(isIdentifier_escaped_iff _).mpr method,
      (isIdentifier_structName_iff plain _).mpr struct,
      fun parameter member => (isIdentifier_escaped_iff _).mpr (fields parameter member)⟩

/-- The module has possible words only exactly if all operations can be named. -/
theorem impossibleName?_moduleFile (follow : names.Follow catalog settings) :
    (moduleFile catalog names).impossibleName? = none ↔
      ∀ operation ∈ catalog.operations, CanBeNamed operation := by
  rw [impossibleName?_eq_none, possible_moduleFile (isName_of_isTypeName follow.typeName)]
  exact forall₂_congr fun operation _ => hasNames_iff follow.suffix_plain.2

/-- With the names resolved, only the module is in question. -/
theorem generate_of_follow (follow : names.Follow catalog settings) :
    generate catalog settings = (checkFile (moduleFile catalog names)).map fun client =>
      ⟨rootFile catalog names, names.moduleName ++ ".rs", client⟩ := by
  rw [generate, Names.resolve_eq_ok.mpr follow]
  simp only [bind, Except.bind, checkFile_rootFile follow]
  cases checkFile (moduleFile catalog names) <;> rfl

theorem generate_eq_impossibleName (follow : names.Follow catalog settings) {word : String} :
    generate catalog settings = .error (.impossibleName word) ↔
      (moduleFile catalog names).impossibleName? = some word := by
  rw [generate_of_follow follow, ← checkFile_eq_impossibleName]
  cases checkFile (moduleFile catalog names) <;> simp [Except.map]

/-- What is broken off had its names resolved, and has an operation that cannot be named. -/
theorem exists_of_broken_off {word : String}
    (broken : generate catalog settings = .error (.impossibleName word)) :
    ∃ names, Names.resolve catalog settings = .ok names ∧
      ∃ operation ∈ catalog.operations, ¬ CanBeNamed operation := by
  cases resolved : Names.resolve catalog settings with
  | error cause =>
      rw [generate, resolved] at broken
      cases broken
      exact absurd resolved resolve_ne_impossibleName
  | ok names =>
      have follow := Names.resolve_eq_ok.mp resolved
      have found := (generate_eq_impossibleName follow).mp broken
      refine ⟨names, rfl, ?_⟩
      by_contra none
      simp only [not_exists, not_and, not_not] at none
      rw [(impossibleName?_moduleFile follow).mpr none] at found
      cases found

theorem broken_off_of_unnamed (resolved : Names.resolve catalog settings = .ok names)
    {operation : Operation} (member : operation ∈ catalog.operations)
    (unnamed : ¬ CanBeNamed operation) :
    ∃ word, generate catalog settings = .error (.impossibleName word) := by
  have follow := Names.resolve_eq_ok.mp resolved
  have impossible : (moduleFile catalog names).impossibleName? ≠ none := fun possible =>
    unnamed ((impossibleName?_moduleFile follow).mp possible operation member)
  obtain ⟨word, found⟩ := Option.ne_none_iff_exists'.mp impossible
  exact ⟨word, (generate_eq_impossibleName follow).mpr found⟩

/-- **Generating is broken off exactly for operations that cannot be named.**  It happens only
after the names have been resolved, when the name of an operation or of a parameter holds a
character that no identifier can hold, or begins with one that no identifier begins with and that
is no digit of the basic range. -/
theorem generation_is_broken_off_iff :
    (∃ word, generate catalog settings = .error (.impossibleName word)) ↔
      ∃ names, Names.resolve catalog settings = .ok names ∧
        ∃ operation ∈ catalog.operations, ¬ CanBeNamed operation := by
  constructor
  · rintro ⟨word, broken⟩
    exact exists_of_broken_off broken
  · rintro ⟨names, resolved, operation, member, unnamed⟩
    exact broken_off_of_unnamed resolved member unnamed

/-- The catalog of an operation with one parameter. -/
def searchCatalog (parameter : String) : Catalog :=
  (Catalog.titled "Shops").withOperation
    (.declare "search" .get "/shops" [.declare parameter .query])

set_option maxRecDepth 4000 in
/-- A superscript is a number that no identifier holds, and no identifier begins with a digit of
another script, which gets no letters in front. -/
theorem numbers_break_generation_off :
    (Names.resolve (searchCatalog "x²") .standard = .ok ⟨"Shops", "shops", "Params"⟩ ∧
      ∃ word, generate (searchCatalog "x²") .standard = .error (.impossibleName word)) ∧
    Names.resolve (searchCatalog "٣") .standard = .ok ⟨"Shops", "shops", "Params"⟩ ∧
      ∃ word, generate (searchCatalog "٣") .standard = .error (.impossibleName word) := by
  have power : Names.resolve (searchCatalog "x²") .standard =
      .ok ⟨"Shops", "shops", "Params"⟩ :=
    rfl
  have numeral : Names.resolve (searchCatalog "٣") .standard =
      .ok ⟨"Shops", "shops", "Params"⟩ :=
    rfl
  exact ⟨⟨power, broken_off_of_unnamed power (List.mem_singleton.mpr rfl) (by decide)⟩, numeral,
    broken_off_of_unnamed numeral (List.mem_singleton.mpr rfl) (by decide)⟩

/-- **Names of the basic range never break a generation off.** -/
theorem generate_ne_impossibleName_of_basic
    (basic : ∀ operation ∈ catalog.operations,
      ∀ name ∈ operation.name :: operation.parameters.map Parameter.name,
        ∀ character ∈ name.toList, Text.isBasic character = true) (word : String) :
    generate catalog settings ≠ .error (.impossibleName word) := by
  intro broken
  obtain ⟨_, _, operation, member, unnamed⟩ := exists_of_broken_off broken
  obtain ⟨own, others⟩ := List.forall_mem_cons.mp (basic operation member)
  refine unnamed ⟨(nameable_of_basic own).1, (nameable_of_basic own).2, fun parameter known => ?_⟩
  exact (nameable_of_basic (others _ (List.mem_map.mpr ⟨parameter, known, rfl⟩))).1

end Generation

end ServiceCatalog.Generation
