import Mathlib.Data.List.Nodup
import ServiceCatalog.Generation.Package
import ServiceCatalog.Proofs.Generation.Names
import ServiceCatalog.Proofs.Generation.Naming
import ServiceCatalog.Proofs.Request.Preparation
import ServiceCatalog.Proofs.Source.Evaluation
import ServiceCatalog.Proofs.Text.Lines

/-!
# Parameter structures and arguments

The structure of an operation is a record with a field for each parameter, and it turns into the
arguments of a call.  Read as programs, its functions do just that: the constructor fills the
fields of required parameters (`apply_constructor`), a setter fills its own field
(`apply_setter`), and the converter gives the argument of every parameter the value of its own
field (`apply_converter`).

All of this rests on the fields having different names, which is checked when the names of a
generation are resolved.  Setters then have different names as well, although they leave out the
underscores at the end of their fields (`functionNames_nodup`).

What is left empty turns into `null`, and an argument that is `null` counts as absent.  So the
arguments are complete whenever the required fields hold something, and the call can be prepared.
-/

namespace ServiceCatalog.Generation

set_option autoImplicit false

open Json Source

/-! ## Records by parameters -/

/-- The fields of the structure of some parameters, with a datum for each. -/
def filledFields (parameters : List Parameter) (content : Parameter → Datum) :
    List (String × Datum) :=
  parameters.map fun parameter => (fieldName parameter.name, content parameter)

/-- The parameters without a required value. -/
def optionalParameters (operation : Operation) : List Parameter :=
  operation.parameters.filter fun parameter => !parameter.required

/-- The parameters with a required value. -/
def requiredParameters (operation : Operation) : List Parameter :=
  operation.parameters.filter Parameter.required

section Fields

variable {parameters : List Parameter} {content : Parameter → Datum}

/-- Where the names of fields differ, a field holds what it is filled with. -/
theorem lookup_filledFields
    (distinct : (parameters.map fun parameter => fieldName parameter.name).Nodup)
    {parameter : Parameter} (member : parameter ∈ parameters) :
    (filledFields parameters content).lookup (fieldName parameter.name) =
      some (content parameter) := by
  have keys : ((filledFields parameters content).map Prod.fst).Nodup := by
    simp only [filledFields, List.map_map, Function.comp_def]
    exact distinct
  rw [lookup_eq_some_iff_mem keys]
  exact List.mem_map.mpr ⟨parameter, member, rfl⟩

/-- The name of a field begins with no capital letter, so it names nothing of a library. -/
theorem ofPath?_fieldName (parameter : String) : Datum.ofPath? [fieldName parameter] = none := by
  have other : fieldName parameter ≠ "None" := by
    intro same
    have capital : 'N' ∈ (fieldName parameter).toList := by
      rw [same]
      decide
    exact absurd (small_of_mem_fieldName capital) (by decide)
  rw [Datum.ofPath?]
  all_goals simp [other]

end Fields

/-! ## The constructor -/

section Constructor

variable {operation : Operation} {content : Parameter → Datum}

/-- The variables of the constructor are the fields of required parameters. -/
theorem constructor_scope :
    ((constructor operation).binders.map Binder.variableName).zip
        ((requiredParameters operation).map content) =
      filledFields (requiredParameters operation) content := by
  simp only [constructor, plainFunction, List.map_map, Function.comp_def, Binder.variableName,
    requiredParameters, filledFields, List.zip_map']

/-- **The constructor fills the fields of required parameters** and leaves the others empty. -/
theorem apply_constructor (distinct : (fieldNames operation).Nodup) :
    (constructor operation).apply ((requiredParameters operation).map content) =
      some (.record (filledFields operation.parameters fun parameter =>
        if parameter.required then content parameter else .absent)) := by
  have own : ((requiredParameters operation).map fun parameter =>
      fieldName parameter.name).Nodup :=
    distinct.sublist (List.filter_sublist.map _)
  have each : ∀ parameter ∈ operation.parameters,
      (if parameter.required then Expr.named (fieldName parameter.name)
        else .named "None").evaluate (filledFields (requiredParameters operation) content) =
      some (if parameter.required then content parameter else .absent) := by
    intro parameter member
    split_ifs with required
    · rw [evaluate_variable (ofPath?_fieldName parameter.name)]
      exact lookup_filledFields own (List.mem_filter.mpr ⟨member, required⟩)
    · rfl
  refine Function.apply_eq_some ?_ (congrArg some constructor_scope) (evaluate_record ?_)
  · rw [List.length_map]
    exact List.length_map _
  · exact evaluateFields_map each

end Constructor

/-! ## Setters -/

/-- **A setter fills its own field.** -/
theorem apply_setter (parameter : Parameter) (fields : List (String × Datum)) (given : Datum) :
    (setter parameter).apply [.record fields, given] =
      some (.record (assign (fieldName parameter.name) (.present given) fields)) := by
  have wrapped : (Expr.call (.path ["Some"]) [.method (.named "value") "into" []]).evaluate
      [("self", .record fields), ("value", given)] = some (.present given) :=
    evaluate_call (evaluateAll_singleton
      (evaluate_method rfl rfl (Datum.ofMethod?_into given))) rfl
  have filled := @perform_assign _ _ _ "self" (fieldName parameter.name) _ rfl wrapped
  have ran : (setter parameter).body.foldlM Statement.perform
      [("self", .record fields), ("value", given)] =
        some (assign "self" (.record (assign (fieldName parameter.name) (.present given) fields))
          [("self", .record fields), ("value", given)]) := by
    rw [setter, plainFunction, List.foldlM_cons]
    exact congrArg (· >>= pure) filled
  exact Function.apply_eq_some rfl ran
    ((evaluate_variable rfl).trans (lookup_assign_self "self" _ _))

/-! ## The converter -/

section Converter

variable {operation : Operation} {content : Parameter → Datum} {parameters : List Parameter}

/-- The value that a datum turns into, `null` if there is none. -/
def valueOf (datum : Datum) : Value := datum.toValue?.getD .null

/-- The statement that sets the argument of a parameter. -/
def insertion (parameter : Parameter) : Statement :=
  .run (.method (.named "args") "insert" [.text parameter.name, ownField parameter])

/-- The arguments of some parameters, by the names of the description. -/
def filledArguments (parameters : List Parameter) (content : Parameter → Datum) :
    List (String × Value) :=
  parameters.map fun parameter => (parameter.name, valueOf (content parameter))

/-- The variables of the converter: the arguments so far, and the structure. -/
def conversionScope (bag : Arguments) (fields : List (String × Datum)) : Scope :=
  [("args", .arguments bag), ("self", .record fields)]

/-- An insertion gives the argument of a parameter the value of its own field. -/
theorem perform_insertion {parameter : Parameter} {fields : List (String × Datum)} {datum : Datum}
    {value : Value} (bag : Arguments)
    (held : fields.lookup (fieldName parameter.name) = some datum)
    (turned : datum.toValue? = some value) :
    (insertion parameter).perform (conversionScope bag fields) =
      some (conversionScope (bag.insert parameter.name value) fields) := by
  have own : (ownField parameter).evaluate (conversionScope bag fields) = some datum :=
    evaluate_field rfl held
  have given := evaluateAll_cons (evaluate_text parameter.name) (evaluateAll_singleton own)
  refine perform_run rfl given ?_
  rw [Datum.afterMethod?, turned]
  rfl

/-- Insertions one after another set one argument after another. -/
theorem foldlM_insertion {fields : List (String × Datum)} (bag : Arguments)
    (held : ∀ parameter ∈ parameters,
      fields.lookup (fieldName parameter.name) = some (content parameter))
    (turned : ∀ parameter ∈ parameters, ∃ value, (content parameter).toValue? = some value) :
    (parameters.map insertion).foldlM Statement.perform (conversionScope bag fields) =
      some (conversionScope ⟨(filledArguments parameters content).foldl
        (fun entries entry => assign entry.1 entry.2 entries) bag.entries⟩ fields) := by
  induction parameters generalizing bag with
  | nil => rfl
  | cons parameter parameters ih =>
      obtain ⟨first, others⟩ := List.forall_mem_cons.mp held
      obtain ⟨⟨value, one⟩, rest⟩ := List.forall_mem_cons.mp turned
      rw [List.map_cons, List.foldlM_cons, perform_insertion bag first one]
      have later := ih (bag.insert parameter.name value) others rest
      simpa [filledArguments, valueOf, one, Arguments.insert] using later

/-- **The converter gives every argument the value of its own field.** -/
theorem apply_converter (distinct : (fieldNames operation).Nodup)
    (turned : ∀ parameter ∈ operation.parameters,
      ∃ value, (content parameter).toValue? = some value) :
    (converter operation).apply [.record (filledFields operation.parameters content)] =
      some (.arguments (.ofList (filledArguments operation.parameters content))) := by
  rw [converter]
  split_ifs with empty
  · rw [List.isEmpty_iff.mp empty]
    rfl
  · have held : ∀ parameter ∈ operation.parameters,
        (filledFields operation.parameters content).lookup (fieldName parameter.name) =
          some (content parameter) :=
      fun parameter member => lookup_filledFields distinct member
    have started : (Statement.bind true "args" noArguments).perform
        [("self", .record (filledFields operation.parameters content))] =
          some (conversionScope .empty (filledFields operation.parameters content)) :=
      perform_bind (evaluate_call rfl rfl)
    have ran : (Statement.bind true "args" noArguments ::
        operation.parameters.map insertion).foldlM Statement.perform
          [("self", .record (filledFields operation.parameters content))] =
            some (conversionScope (.ofList (filledArguments operation.parameters content))
              (filledFields operation.parameters content)) := by
      rw [List.foldlM_cons, started]
      exact foldlM_insertion .empty held turned
    have answered : (Expr.named "args").evaluate (conversionScope
        (.ofList (filledArguments operation.parameters content))
          (filledFields operation.parameters content)) =
            some (.arguments (.ofList (filledArguments operation.parameters content))) :=
      evaluate_variable rfl
    exact Function.apply_eq_some rfl ran answered

end Converter

/-! ## Arguments that come out -/

section Arguments

variable {operation : Operation} {content : Parameter → Datum}

/-- Parameters have different names if their fields have. -/
theorem names_nodup (distinct : (fieldNames operation).Nodup) :
    (operation.parameters.map Parameter.name).Nodup := by
  apply List.Nodup.of_map fieldName
  simp only [List.map_map, Function.comp_def]
  exact distinct

/-- The argument of a parameter is the value of its own field, and absent if that is `null`. -/
theorem get?_filledArguments (distinct : (fieldNames operation).Nodup) {parameter : Parameter}
    (member : parameter ∈ operation.parameters) :
    (Arguments.ofList (filledArguments operation.parameters content)).get? parameter.name =
      if (valueOf (content parameter)).isNull then none else some (valueOf (content parameter)) := by
  have keys : ((filledArguments operation.parameters content).map Prod.fst).Nodup := by
    rw [filledArguments, List.map_map]
    exact names_nodup distinct
  have held : (filledArguments operation.parameters content).reverse.lookup parameter.name =
      some (valueOf (content parameter)) := by
    rw [lookup_eq_some_iff_mem (by rwa [List.map_reverse, List.nodup_reverse]), List.mem_reverse]
    exact List.mem_map.mpr ⟨parameter, member, rfl⟩
  rw [Arguments.get?, Arguments.ofList, lookup_assignAll, held]
  rw [Option.filter_some]
  cases (valueOf (content parameter)).isNull <;> rfl

/-- **The arguments are complete if the required fields hold something.** -/
theorem complete_filledArguments (distinct : (fieldNames operation).Nodup)
    (given : ∀ parameter ∈ operation.parameters, parameter.required = true →
      (valueOf (content parameter)).isNull = false) :
    operation.Complete (.ofList (filledArguments operation.parameters content)) := by
  intro parameter member required
  rw [Arguments.contains_iff_exists, get?_filledArguments distinct member,
    given parameter member required]
  exact ⟨_, rfl⟩

/-- What a bag of arguments is to the fields that it was made from. -/
structure Holds (operation : Operation) (content : Parameter → Datum) (bag : Arguments) :
    Prop where
  /-- For each parameter, its name is inserted with the value of its own field. -/
  inserted : bag = .ofList (operation.parameters.map fun parameter =>
    (parameter.name, valueOf (content parameter)))
  /-- A declared name gives the value of the own field, and nothing exactly if that is `null`. -/
  found : ∀ parameter ∈ operation.parameters, ∃ value,
    (content parameter).toValue? = some value ∧
      bag.get? parameter.name = if value.isNull then none else some value
  /-- The call can be prepared if no required field turns into `null`. -/
  prepared : (∀ parameter ∈ operation.parameters, parameter.required = true →
      (content parameter).toValue? ≠ some .null) →
    ∀ baseUrl options, ∃ call, operation.prepare baseUrl bag options = .ok call

theorem holds_filledArguments (distinct : (fieldNames operation).Nodup)
    (turned : ∀ parameter ∈ operation.parameters,
      ∃ value, (content parameter).toValue? = some value) :
    Holds operation content (.ofList (filledArguments operation.parameters content)) where
  inserted := rfl
  found := by
    intro parameter member
    obtain ⟨value, one⟩ := turned parameter member
    refine ⟨value, one, ?_⟩
    rw [get?_filledArguments distinct member, valueOf, one, Option.getD_some]
  prepared := by
    intro given baseUrl options
    refine ⟨_, Operation.prepare_of_complete (complete_filledArguments distinct ?_)⟩
    intro parameter member required
    obtain ⟨value, one⟩ := turned parameter member
    have other := given parameter member required
    rw [one] at other
    rw [valueOf, one, Option.getD_some]
    cases value with
    | null => exact absurd rfl other
    | _ => rfl

end Arguments

/-! ## What the structure offers -/

section Surface

variable {operation : Operation}

/-- The names of the functions of the structure. -/
def functionNames (operation : Operation) : List String :=
  ["new"] ++ ((optionalParameters operation).map fun parameter =>
    setterName (fieldName parameter.name)) ++ ["into_args"]

/-- **Functions have different names.** -/
theorem functionNames_nodup (distinct : (fieldNames operation).Nodup) :
    (functionNames operation).Nodup := by
  have own : ((optionalParameters operation).map fun parameter =>
      setterName (fieldName parameter.name)).Nodup := by
    apply List.Nodup.map_on
    · intro first here second there same
      exact List.inj_on_of_nodup_map distinct (List.mem_filter.mp here).1
        (List.mem_filter.mp there).1 (fieldName_eq_of_setterName_eq same)
    · exact (List.Nodup.of_map _ distinct).filter _
  have other : ∀ name ∈ (optionalParameters operation).map fun parameter =>
      setterName (fieldName parameter.name), name ≠ "new" ∧ name ≠ "into_args" := by
    rw [List.forall_mem_map]
    exact fun parameter _ => setterName_ne (fieldName parameter.name)
  rw [functionNames, List.append_assoc, List.singleton_append, List.nodup_cons,
    List.nodup_append]
  refine ⟨?_, own, List.nodup_singleton _, ?_⟩
  · rw [List.mem_append, List.mem_singleton, not_or]
    exact ⟨fun member => (other "new" member).1 rfl, by decide⟩
  · rintro name member _ last rfl
    exact (other name member).2 (List.mem_singleton.mp last)

/-- The fields of the records among some items. -/
def recordFields (items : List Item) : List StructField :=
  items.flatMap fun
    | .record _ _ fields => fields
    | _ => []

/-- The function that a member is, if it is one. -/
def memberFunction? : Member → Option Function
  | .function function => some function
  | .constant .. => none

/-- The functions among the members of some items. -/
def memberFunctions (items : List Item) : List Function :=
  items.flatMap fun
    | .members _ members => members.filterMap memberFunction?
    | _ => []

/-- What the items of the structure of an operation offer. -/
structure TypedSurface (operation : Operation) (items : List Item) : Prop where
  /-- There is one field for each parameter, in declared order. -/
  fields : (recordFields items).map (fun field => (field.name, field.type)) =
    operation.parameters.map fun parameter => (fieldName parameter.name, fieldType parameter)
  fields_differ : ((recordFields items).map StructField.name).Nodup
  /-- There is a setter for each parameter that is not required, and for no other. -/
  functions : (memberFunctions items).map Function.name = functionNames operation
  functions_differ : ((memberFunctions items).map Function.name).Nodup
  /-- A setter is named after its field, but for the underscores at the end of the field. -/
  setters_named : ∀ parameter ∈ optionalParameters operation, ∃ named,
    setterName (fieldName parameter.name) = "with_" ++ named ∧
      Text.WithoutEnd '_' (fieldName parameter.name) named
  /-- The constructor takes the required values in declared order, and fills their fields. -/
  constructs : ∀ function ∈ memberFunctions items, function.name = "new" →
    function.binders = (requiredParameters operation).map (fun parameter =>
      .typed (fieldName parameter.name) (kindType parameter.kind)) ∧
    ∀ content, function.apply ((requiredParameters operation).map content) =
      some (.record (filledFields operation.parameters fun parameter =>
        if parameter.required then content parameter else .absent))
  /-- A setter fills the field of its own parameter. -/
  sets : ∀ parameter ∈ optionalParameters operation, ∀ function ∈ memberFunctions items,
    function.name = setterName (fieldName parameter.name) → ∀ fields given,
      function.apply [.record fields, given] =
        some (.record (assign (fieldName parameter.name) (.present given) fields))
  /-- The converter gives the arguments that hold the fields. -/
  converts : ∀ function ∈ memberFunctions items, function.name = "into_args" →
    ∀ content, (∀ parameter ∈ operation.parameters,
        (content parameter).HasType (fieldType parameter)) →
      ∃ bag, function.apply [.record (filledFields operation.parameters content)] =
        some (.arguments bag) ∧ Holds operation content bag

variable {suffix : String}

theorem recordFields_paramsItems :
    recordFields (paramsItems operation suffix) = operation.parameters.map parameterField := by
  simp only [recordFields, paramsItems, List.flatMap_cons, List.flatMap_nil, List.append_nil]

theorem filterMap_memberFunction? (functions : List Function) :
    (functions.map Member.function).filterMap memberFunction? = functions := by
  rw [List.filterMap_map]
  exact List.filterMap_some

theorem memberFunctions_paramsItems :
    memberFunctions (paramsItems operation suffix) =
      [constructor operation] ++ (optionalParameters operation).map setter ++
        [converter operation] := by
  simp only [memberFunctions, paramsItems, List.flatMap_cons, List.flatMap_nil, List.append_nil,
    List.nil_append, filterMap_memberFunction?, optionalParameters]

theorem name_converter : (converter operation).name = "into_args" := by
  rw [converter]
  split_ifs <;> rfl

theorem map_name_paramsItems :
    (memberFunctions (paramsItems operation suffix)).map Function.name =
      functionNames operation := by
  rw [memberFunctions_paramsItems, List.map_append, List.map_append, List.map_map,
    List.map_singleton, List.map_singleton, name_converter, functionNames]
  rfl

/-- **What the structure of an operation offers**, if its fields have different names. -/
theorem typedSurface_paramsItems (distinct : (fieldNames operation).Nodup) :
    TypedSurface operation (paramsItems operation suffix) := by
  have differ : ((memberFunctions (paramsItems operation suffix)).map Function.name).Nodup := by
    rw [map_name_paramsItems]
    exact functionNames_nodup distinct
  -- Functions of one name are one function, so each name is looked at where it stands.
  have only : ∀ expected ∈ memberFunctions (paramsItems operation suffix),
      ∀ function ∈ memberFunctions (paramsItems operation suffix),
        function.name = expected.name → function = expected :=
    fun expected there function here same => List.inj_on_of_nodup_map differ here there same
  rw [memberFunctions_paramsItems] at only
  refine ⟨?fields, ?fieldsDiffer, map_name_paramsItems, differ, ?settersNamed, ?constructs, ?sets,
    ?converts⟩
  case fields =>
    simp only [recordFields_paramsItems, List.map_map, Function.comp_def, parameterField]
  case fieldsDiffer =>
    simp only [recordFields_paramsItems, List.map_map, Function.comp_def, parameterField]
    exact distinct
  case settersNamed =>
    exact fun parameter _ => ⟨_, rfl, Text.withoutEnd_dropEndWhile '_' (fieldName parameter.name)⟩
  case constructs =>
    rw [memberFunctions_paramsItems]
    intro function here same
    obtain rfl := only (constructor operation) (by simp) function here same
    exact ⟨rfl, fun content => apply_constructor distinct⟩
  case sets =>
    rw [memberFunctions_paramsItems]
    intro parameter member function here same fields given
    have there : setter parameter ∈ (optionalParameters operation).map setter :=
      List.mem_map.mpr ⟨parameter, member, rfl⟩
    obtain rfl := only (setter parameter) (by simp [there]) function here same
    exact apply_setter parameter fields given
  case converts =>
    rw [memberFunctions_paramsItems]
    intro function here same content typed
    obtain rfl := only (converter operation) (by simp) function here (same.trans name_converter.symm)
    have turned : ∀ parameter ∈ operation.parameters,
        ∃ value, (content parameter).toValue? = some value :=
      fun parameter member => (typed parameter member).exists_toValue?
    exact ⟨_, apply_converter distinct turned, holds_filledArguments distinct turned⟩

/-- The structures of operations stand in the module. -/
theorem paramsItems_stand_in_module {catalog : Catalog} {names : Names}
    (member : operation ∈ catalog.operations) :
    paramsItems operation names.suffix <:+: (moduleFile catalog names).items := by
  have own : paramsItems operation names.suffix <:+: allParamsItems catalog names.suffix :=
    List.infix_of_mem_flatten (List.mem_map.mpr ⟨operation, member, rfl⟩)
  exact own.trans (List.infix_append _ _ _)

/-- **The structure of an operation is the typed form of its arguments.**  Whenever the names of a
generation are resolved, the module holds a structure for every operation: with one field for
each parameter, a constructor that takes the required values, a setter for every other value, named
after its field without the underscores at the end, and a converter that gives each argument the
value of its own field, so that the call can be prepared. -/
theorem typed_surface_matches_the_arguments {catalog : Catalog} {settings : Settings}
    {names : Names} (resolved : Names.resolve catalog settings = .ok names)
    (member : operation ∈ catalog.operations) :
    paramsItems operation names.suffix <:+: (moduleFile catalog names).items ∧
      TypedSurface operation (paramsItems operation names.suffix) := by
  have follow := Names.resolve_eq_ok.mp resolved
  exact ⟨paramsItems_stand_in_module member,
    typedSurface_paramsItems (follow.differ.fields operation member)⟩

/-- An operation with a keyword among its parameters. -/
def listShops : Operation :=
  .declare "listShops" .get "/areas/{area}/shops"
    [.declare "area" .path, .declare "type" .query,
      (Parameter.declare "limit" .query).withKind .integer |>.withRequired true]

/-- The catalog of that operation. -/
def listedShops : Catalog := (Catalog.titled "Shops").withOperation listShops

theorem shops_have_a_typed_surface :
    Names.resolve listedShops .standard = .ok ⟨"Shops", "shops", "Params"⟩ ∧
      listShops ∈ listedShops.operations ∧
      TypedSurface listShops (paramsItems listShops "Params") := by
  have resolved : Names.resolve listedShops .standard = .ok ⟨"Shops", "shops", "Params"⟩ := rfl
  have member : listShops ∈ listedShops.operations := List.mem_singleton.mpr rfl
  exact ⟨resolved, member, (typed_surface_matches_the_arguments resolved member).2⟩

/-- The underscore behind a keyword is not part of its setter. -/
example : fieldNames listShops = ["area", "type_", "limit"] ∧
    functionNames listShops = ["new", "with_type", "into_args"] :=
  ⟨rfl, rfl⟩

end Surface

end ServiceCatalog.Generation
