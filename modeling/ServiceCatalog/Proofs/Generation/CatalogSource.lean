import ServiceCatalog.Description.Format
import ServiceCatalog.Generation.CatalogSource
import ServiceCatalog.Proofs.Client.PathArguments
import ServiceCatalog.Proofs.Description.LoadedCatalog
import ServiceCatalog.Proofs.Source.Evaluation

/-!
# The generated source rebuilds its catalog

The source of a client holds the catalog as an expression.  It is put together of steps, and a step
is left out where it would set what is already set.  So every step that is left out changes nothing
(`evaluate_withStepIf`), and the expression stands for what all steps together would give.

Two settings cannot be written by any step: a parameter of the path is required, and whether an
operation expects a payload follows from its parameters.  The expression of any catalog stands for
the catalog in which these two are as the steps make them (`evaluate_catalogExpr`).  Catalogs that
were put together step by step, and catalogs that were loaded, are of this form
(`Catalog.Settled`), and so they are rebuilt as they are.
-/

namespace ServiceCatalog

set_option autoImplicit false

/-! ## Catalogs that were put together step by step -/

/-- Parameters that steps make. -/
inductive Parameter.Assembled : Parameter → Prop where
  | declare (name : String) (placement : Placement) : Assembled (.declare name placement)
  | withRequired (required : Bool) {parameter : Parameter} (made : Assembled parameter) :
      Assembled (parameter.withRequired required)
  | withKind (kind : ValueKind) {parameter : Parameter} (made : Assembled parameter) :
      Assembled (parameter.withKind kind)
  | withCollectionFormat (format : CollectionFormat) {parameter : Parameter}
      (made : Assembled parameter) : Assembled (parameter.withCollectionFormat format)
  | withDescription (description : String) {parameter : Parameter} (made : Assembled parameter) :
      Assembled (parameter.withDescription description)

/-- Operations that steps make. -/
inductive Operation.Assembled : Operation → Prop where
  | declare (name : String) (verb : Verb) (path : String) {parameters : List Parameter}
      (made : ∀ parameter ∈ parameters, parameter.Assembled) :
      Assembled (.declare name verb path parameters)
  | withSummary (summary : String) {operation : Operation} (made : Assembled operation) :
      Assembled (operation.withSummary summary)
  | withDescription (description : String) {operation : Operation} (made : Assembled operation) :
      Assembled (operation.withDescription description)
  | withDeprecated (deprecated : Bool) {operation : Operation} (made : Assembled operation) :
      Assembled (operation.withDeprecated deprecated)

/-- Catalogs that steps make. -/
inductive Catalog.Assembled : Catalog → Prop where
  | titled (title : String) : Assembled (.titled title)
  | withBaseUrl (baseUrl : String) {catalog : Catalog} (made : Assembled catalog) :
      Assembled (catalog.withBaseUrl baseUrl)
  | withDescription (description : String) {catalog : Catalog} (made : Assembled catalog) :
      Assembled (catalog.withDescription description)
  | withVersion (version : String) {catalog : Catalog} (made : Assembled catalog) :
      Assembled (catalog.withVersion version)
  | withOperation {operation : Operation} {catalog : Catalog} (added : operation.Assembled)
      (made : Assembled catalog) : Assembled (catalog.withOperation operation)

/-! ## Settings that follow from others -/

/-- The parameter, required if it belongs to the path. -/
def Parameter.settled (parameter : Parameter) : Parameter :=
  parameter.withRequired parameter.required

/-- The operation with its parameters settled, expecting a payload if one of them is written to
it. -/
def Operation.settled (operation : Operation) : Operation :=
  { operation with
    parameters := operation.parameters.map Parameter.settled
    expectsBody := operation.parameters.any fun parameter => parameter.placement.inPayload }

/-- The catalog with its operations settled. -/
def Catalog.settled (catalog : Catalog) : Catalog :=
  { catalog with operations := catalog.operations.map Operation.settled }

/-- The settings of an operation that follow from others are as they follow. -/
structure Operation.Settled (operation : Operation) : Prop where
  required : ∀ parameter ∈ operation.parameters, parameter.RequiredInPath
  expectsBody : operation.expectsBody =
    operation.parameters.any fun parameter => parameter.placement.inPayload

/-- All operations are settled. -/
def Catalog.Settled (catalog : Catalog) : Prop :=
  ∀ operation ∈ catalog.operations, operation.Settled

theorem Parameter.RequiredInPath.settled_eq {parameter : Parameter}
    (required : parameter.RequiredInPath) : parameter.settled = parameter := by
  have same : (parameter.required || parameter.placement == .path) = parameter.required := by
    cases known : parameter.required with
    | true => rfl
    | false =>
        have elsewhere : parameter.placement ≠ .path := fun placed => by
          rw [required placed] at known
          cases known
        simp [elsewhere]
  simp [settled, withRequired, same]

theorem Operation.Settled.settled_eq {operation : Operation} (known : operation.Settled) :
    operation.settled = operation := by
  have parameters : operation.parameters.map Parameter.settled = operation.parameters := by
    rw [List.map_congr_left fun parameter member => (known.required parameter member).settled_eq]
    exact List.map_id' _
  simp [settled, parameters, ← known.expectsBody]

theorem Catalog.Settled.settled_eq {catalog : Catalog} (known : catalog.Settled) :
    catalog.settled = catalog := by
  have operations : catalog.operations.map Operation.settled = catalog.operations := by
    rw [List.map_congr_left fun operation member => (known operation member).settled_eq]
    exact List.map_id' _
  simp [settled, operations]

/-! ## Which catalogs are settled -/

/-- **Steps keep a parameter of the path required.** -/
theorem Parameter.Assembled.requiredInPath {parameter : Parameter} (made : parameter.Assembled) :
    parameter.RequiredInPath := by
  induction made with
  | declare name placement => exact requiredInPath_declare name placement
  | withRequired required _ _ => exact requiredInPath_withRequired required _
  | withKind _ _ ih => exact ih
  | withCollectionFormat _ _ ih => exact ih
  | withDescription _ _ ih => exact ih

theorem Operation.Assembled.settled {operation : Operation} (made : operation.Assembled) :
    operation.Settled := by
  induction made with
  | declare name verb path made =>
      exact ⟨fun parameter member => (made parameter member).requiredInPath, rfl⟩
  | withSummary _ _ ih => exact ⟨ih.required, ih.expectsBody⟩
  | withDescription _ _ ih => exact ⟨ih.required, ih.expectsBody⟩
  | withDeprecated _ _ ih => exact ⟨ih.required, ih.expectsBody⟩

/-- Catalogs that were put together step by step are settled. -/
theorem Catalog.Assembled.settled {catalog : Catalog} (made : catalog.Assembled) :
    catalog.Settled := by
  induction made with
  | titled title => exact List.forall_mem_nil _
  | withBaseUrl _ _ ih => exact ih
  | withDescription _ _ ih => exact ih
  | withVersion _ _ ih => exact ih
  | withOperation added _ ih =>
      intro operation member
      rcases List.mem_append.mp member with earlier | last
      · exact ih operation earlier
      · obtain rfl := List.mem_singleton.mp last
        exact added.settled

namespace Description

open ServiceCatalog.Json

/-- An operation that an entry describes is settled. -/
theorem settled_of_describes {shared : List (String × Value)} {entry : OperationEntry}
    {operation : Operation} (describes : entry.Describes shared operation) :
    operation.Settled := by
  obtain ⟨verb, written, parameters, -, -, declared, rfl⟩ := describes
  refine ⟨fun parameter member => ?_, rfl⟩
  obtain ⟨definition, declares⟩ := declared.exists_declares member
  exact declares.standard.1

/-- Catalogs that were loaded are settled. -/
theorem settled_of_loadText {format : Format} {text : String} {catalog : Catalog}
    (loaded : loadText format text = .ok catalog) : catalog.Settled := by
  obtain ⟨root, parsed, loaded⟩ := bind_eq_ok.mp loaded
  obtain ⟨described, -⟩ := describes_of_load (Format.namesDistinct_of_parse parsed) loaded
  intro operation member
  obtain ⟨entry, -, describes⟩ := exists_of_mem_right described member
  exact settled_of_describes describes

end Description

namespace Generation

open Source

/-! ## Steps -/

section Steps

variable {scope : Scope} {expr argument : Expr} {own given changed : Datum} {step : String}

theorem evaluate_withStep (start : expr.evaluate scope = some own)
    (argued : argument.evaluate scope = some given)
    (taken : own.ofMethod? step [given] = some changed) :
    (withStep expr step argument).evaluate scope = some changed :=
  evaluate_method start (evaluateAll_singleton argued) taken

/-- **A step that is left out changes nothing**, and so the expression stands for what the step
gives, whether it is there or not. -/
theorem evaluate_withStepIf {condition : Bool} (start : expr.evaluate scope = some own)
    (argued : argument.evaluate scope = some given)
    (taken : condition = true → own.ofMethod? step [given] = some changed)
    (leftOut : condition = false → changed = own) :
    (withStepIf condition step argument expr).evaluate scope = some changed := by
  cases condition with
  | true => exact evaluate_withStep start argued (taken rfl)
  | false =>
      rw [leftOut rfl]
      exact start

/-- A step for a text sets it, and an absent text needs no step. -/
theorem evaluate_withText (step : String) (text : Option String) (holding : Option String → Datum)
    (start : expr.evaluate scope = some (holding none))
    (taken : ∀ content,
      (holding none).ofMethod? step [.text content] = some (holding (some content))) :
    (withText step text expr).evaluate scope = some (holding text) := by
  cases text with
  | none => exact start
  | some content => exact evaluate_withStep start (evaluate_text content) (taken content)

end Steps

/-! ## Names of the library -/

variable (scope : Scope)

theorem evaluate_verbExpr (verb : Verb) : (verbExpr verb).evaluate scope = some (.verb verb) := by
  cases verb <;> rfl

theorem evaluate_placementExpr (placement : Placement) :
    (placementExpr placement).evaluate scope = some (.placement placement) := by
  cases placement <;> rfl

theorem evaluate_formatExpr (format : CollectionFormat) :
    (formatExpr format).evaluate scope = some (.format format) := by
  cases format <;> rfl

/-- A kind is rebuilt at any depth. -/
theorem evaluate_kindExpr (kind : ValueKind) :
    (kindExpr kind).evaluate scope = some (.kind kind) := by
  induction kind with
  | string | integer | number | boolean | json => rfl
  | array items ih =>
      have boxed : (Expr.call (.path ["Box", "new"]) [kindExpr items]).evaluate scope =
          some (.kind items) :=
        evaluate_call (evaluateAll_singleton ih) rfl
      exact evaluate_call (evaluateAll_singleton boxed) rfl

/-! ## Parameters -/

/-- The steps of a parameter that has just been declared, apart from its kind.  A parameter of the
path is required before any step. -/
theorem evaluate_parameterSteps {expr : Expr} {name : String} {placement : Placement}
    {kind : ValueKind} (required : Bool) (format : CollectionFormat) (description : Option String)
    (start : expr.evaluate scope =
      some (.parameter ((Parameter.declare name placement).withKind kind))) :
    (withText "description" description <|
      withStepIf (format != .standard) "collection_format" (formatExpr format) <|
      withStepIf (required && placement != .path) "required" (.truth true) expr).evaluate scope =
        some (.parameter
          (Parameter.settled ⟨name, placement, required, kind, format, description⟩)) := by
  let fresh := (Parameter.declare name placement).withKind kind
  have demanded : (withStepIf (required && placement != .path) "required" (.truth true)
      expr).evaluate scope = some (.parameter (fresh.withRequired required)) := by
    refine evaluate_withStepIf start (evaluate_truth true) ?_ ?_
    · intro needed
      obtain ⟨rfl, -⟩ := Bool.and_eq_true_iff.mp needed
      rfl
    · intro unneeded
      rcases Bool.and_eq_false_iff.mp unneeded with rfl | placed
      · rfl
      · obtain rfl : placement = .path := by simpa using placed
        simp [fresh, Parameter.withRequired, Parameter.withKind, Parameter.declare]
  have formatted : (withStepIf (format != .standard) "collection_format" (formatExpr format) <|
      withStepIf (required && placement != .path) "required" (.truth true) expr).evaluate scope =
        some (.parameter ((fresh.withRequired required).withCollectionFormat format)) := by
    refine evaluate_withStepIf demanded (evaluate_formatExpr scope format) (fun _ => rfl) ?_
    intro usual
    obtain rfl : format = .standard := by simpa using usual
    rfl
  exact evaluate_withText "description" description (fun description => .parameter
    (Parameter.settled ⟨name, placement, required, kind, format, description⟩)) formatted
    fun _ => rfl

/-- The expression of a parameter stands for the parameter, settled. -/
theorem evaluate_parameterExpr (parameter : Parameter) :
    (parameterExpr parameter).evaluate scope = some (.parameter parameter.settled) := by
  have declared : (Expr.call (definePath ["ParameterDescriptor", "new"])
      [.text parameter.name, placementExpr parameter.placement]).evaluate scope =
        some (.parameter (.declare parameter.name parameter.placement)) :=
    evaluate_call (evaluateAll_cons (evaluate_text parameter.name)
      (evaluateAll_singleton (evaluate_placementExpr scope parameter.placement))) rfl
  have kinded : (withStep _ "kind" (kindExpr parameter.kind)).evaluate scope =
      some (.parameter ((Parameter.declare parameter.name parameter.placement).withKind
        parameter.kind)) :=
    evaluate_withStep declared (evaluate_kindExpr scope parameter.kind) rfl
  exact evaluate_parameterSteps scope parameter.required parameter.collectionFormat
    parameter.description kinded

/-! ## Operations -/

theorem mapM_parameter? (parameters : List Parameter) :
    (parameters.map Datum.parameter).mapM Datum.parameter? = some parameters := by
  induction parameters with
  | nil => rfl
  | cons parameter parameters ih => simp [Datum.parameter?, ih]

/-- The steps of an operation that has just been declared. -/
theorem evaluate_operationSteps {expr : Expr} {name path : String} {verb : Verb}
    {parameters : List Parameter} (summary description : Option String) (deprecated : Bool)
    (start : expr.evaluate scope = some (.operation (.declare name verb path parameters))) :
    (withStepIf deprecated "deprecated" (.truth true) <|
      withText "description" description <| withText "summary" summary expr).evaluate scope =
        some (.operation
          { Operation.declare name verb path parameters with summary, description, deprecated }) := by
  have summarised := evaluate_withText "summary" summary (fun summary =>
    .operation { Operation.declare name verb path parameters with summary }) start fun _ => rfl
  have described := evaluate_withText "description" description (fun description => .operation
    { Operation.declare name verb path parameters with summary, description }) summarised
    fun _ => rfl
  refine evaluate_withStepIf described (evaluate_truth true) ?_ ?_
  · rintro rfl
    rfl
  · rintro rfl
    rfl

/-- An operation that is declared anew with settled parameters is settled: settling a parameter
leaves it where it is. -/
theorem declare_settled (operation : Operation) :
    { Operation.declare operation.name operation.verb operation.path
        operation.settled.parameters with
      summary := operation.summary
      description := operation.description
      deprecated := operation.deprecated } = operation.settled := by
  simp only [Operation.declare, Operation.settled, List.any_map]
  rfl

/-- The expression of an operation stands for the operation, settled. -/
theorem evaluate_operationExpr (operation : Operation) :
    (operationExpr operation).evaluate scope = some (.operation operation.settled) := by
  have parameters : (Expr.list (operation.parameters.map parameterExpr)).evaluate scope =
      some (.list (operation.settled.parameters.map .parameter)) := by
    rw [Expr.evaluate, evaluateAll_map fun parameter _ => evaluate_parameterExpr scope parameter]
    simp [Operation.settled, Function.comp_def]
  have declared : (Expr.call (definePath ["OperationDescriptor", "new"])
      [.text operation.name, verbExpr operation.verb, .text operation.path,
        .list (operation.parameters.map parameterExpr)]).evaluate scope =
      some (.operation (.declare operation.name operation.verb operation.path
        operation.settled.parameters)) := by
    refine evaluate_call (evaluateAll_cons (evaluate_text _) <|
      evaluateAll_cons (evaluate_verbExpr scope _) <| evaluateAll_cons (evaluate_text _) <|
      evaluateAll_singleton parameters) ?_
    show Option.map _ (List.mapM Datum.parameter? _) = _
    rw [mapM_parameter?]
    rfl
  have made := evaluate_operationSteps scope operation.summary operation.description
    operation.deprecated declared
  rw [declare_settled] at made
  exact made

/-! ## Catalogs -/

/-- The steps of a catalog that has just been given its title. -/
theorem evaluate_catalogSteps {expr : Expr} {title : String}
    (baseUrl description version : Option String)
    (start : expr.evaluate scope = some (.catalog (.titled title))) :
    (withText "version" version <| withText "description" description <|
      withText "base_url" baseUrl expr).evaluate scope =
        some (.catalog { Catalog.titled title with baseUrl, description, version }) := by
  have placed := evaluate_withText "base_url" baseUrl (fun baseUrl =>
    .catalog { Catalog.titled title with baseUrl }) start fun _ => rfl
  have described := evaluate_withText "description" description (fun description =>
    .catalog { Catalog.titled title with baseUrl, description }) placed fun _ => rfl
  exact evaluate_withText "version" version (fun version =>
    .catalog { Catalog.titled title with baseUrl, description, version }) described fun _ => rfl

/-- Operations are added one after another, so they keep their order. -/
theorem evaluate_foldl_operation {expr : Expr} {catalog : Catalog} (operations : List Operation)
    (start : expr.evaluate scope = some (.catalog catalog)) :
    (operations.foldl (fun expr operation => withStep expr "operation" (operationExpr operation))
      expr).evaluate scope =
        some (.catalog { catalog with
          operations := catalog.operations ++ operations.map Operation.settled }) := by
  induction operations generalizing expr catalog with
  | nil => simpa using start
  | cons operation operations ih =>
      have added : (withStep expr "operation" (operationExpr operation)).evaluate scope =
          some (.catalog (catalog.withOperation operation.settled)) :=
        evaluate_withStep start (evaluate_operationExpr scope operation) rfl
      rw [List.foldl_cons, ih added]
      simp [Catalog.withOperation]

/-- **The expression of a catalog stands for the catalog, settled.** -/
theorem evaluate_catalogExpr (catalog : Catalog) :
    (catalogExpr catalog).evaluate scope = some (.catalog catalog.settled) := by
  have titled : (Expr.call (definePath ["OperationCatalog", "new"])
      [.text catalog.title]).evaluate scope = some (.catalog (.titled catalog.title)) :=
    evaluate_call (evaluateAll_singleton (evaluate_text catalog.title)) rfl
  have described := evaluate_catalogSteps scope catalog.baseUrl catalog.description catalog.version
    titled
  exact evaluate_foldl_operation scope catalog.operations described

end Generation

open Generation in
/-- **The generated catalog is the catalog.**  The function that a generated client holds gives the
catalog it was generated from, equal in every setting, if the catalog was put together step by step
or was loaded from a text. -/
theorem generated_catalog_is_the_catalog {catalog : Catalog}
    (origin : catalog.Assembled ∨ ∃ format text, Description.loadText format text = .ok catalog) :
    (catalogFunction catalog).apply [] = some (.catalog catalog) := by
  have settled : catalog.Settled := by
    rcases origin with made | ⟨format, text, loaded⟩
    · exact made.settled
    · exact Description.settled_of_loadText loaded
  have given : (catalogFunction catalog).apply [] = some (.catalog catalog.settled) :=
    evaluate_catalogExpr [] catalog
  rw [given, settled.settled_eq]

/-- A catalog with nested lists, a parameter of the path that was to be optional, and a deprecated
operation with a form. -/
def areasCatalog : Catalog :=
  (Catalog.titled "Areas").withVersion "1.0" |>.withOperation
    ((Operation.declare "move \"all\"" .post "/shops/\x7bshop\x7d/areas"
        [(Parameter.declare "shop" .path).withRequired false,
          (Parameter.declare "corners" .query).withKind (.array (.array .number))
            |>.withRequired true |>.withCollectionFormat .csv |>.withDescription "Nested\nlists",
          (Parameter.declare "note" .formData).withCollectionFormat .multi]).withDeprecated true)

theorem assembled_areasCatalog : areasCatalog.Assembled := by
  refine .withOperation (.withDeprecated _ (.declare _ _ _ ?_)) (.withVersion _ (.titled _))
  intro parameter member
  simp only [List.mem_cons, List.not_mem_nil, or_false] at member
  rcases member with rfl | rfl | rfl
  · exact .withRequired _ (.declare _ _)
  · exact .withDescription _ (.withCollectionFormat _ (.withRequired _ (.withKind _ (.declare _ _))))
  · exact .withCollectionFormat _ (.declare _ _)

/-- A description of one operation, as a text. -/
def shopDescription : String :=
  (Json.Value.object
    [("swagger", .string "2.0"), ("info", .object [("title", .string "Shops")]),
      ("paths", .object
        [("/shops/\x7bid\x7d", .object
          [("get", .object
            [("parameters", .array
              [.object [("name", .string "id"), ("in", .string "path")]])])])])]).compact

/-- The catalog of that description. -/
def shopCatalog : Catalog :=
  (Catalog.titled "Shops").withOperation
    (.declare "getShopsById" .get "/shops/\x7bid\x7d"
      [(Parameter.declare "id" .path).withKind .json])

/-- A catalog that was put together and one that was loaded are rebuilt. -/
theorem areas_and_shops_are_rebuilt :
    areasCatalog.Assembled ∧
      (Generation.catalogFunction areasCatalog).apply [] = some (.catalog areasCatalog) ∧
      Description.loadText .json shopDescription = .ok shopCatalog ∧
      (Generation.catalogFunction shopCatalog).apply [] = some (.catalog shopCatalog) := by
  have loaded : Description.loadText .json shopDescription = .ok shopCatalog := by
    decide +kernel
  exact ⟨assembled_areasCatalog,
    generated_catalog_is_the_catalog (.inl assembled_areasCatalog), loaded,
    generated_catalog_is_the_catalog (.inr ⟨.json, shopDescription, loaded⟩)⟩

end ServiceCatalog
