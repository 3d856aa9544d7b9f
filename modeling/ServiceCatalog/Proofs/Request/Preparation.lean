import Mathlib.Data.List.Basic
import Mathlib.Data.List.Find
import ServiceCatalog.Association
import ServiceCatalog.Request.Preparation

/-!
# What preparing a call gives

Preparing a call fails exactly if some required parameter has no argument, and it names the first
such parameter.  If all required parameters have one (`Operation.Complete`), it gives the request
in which every argument stands at its place (`Operation.request`), under the full address of that
request.

The arguments come in only through the parameters: every part of the request looks at the arguments
of the parameters that are declared for this part, and at no others.  Two bags of arguments that
give these parameters the same (`Operation.SameSupply`) give the same part.
-/

namespace ServiceCatalog

set_option autoImplicit false

open ServiceCatalog.Json

/-! ## Arguments -/

namespace Arguments

variable {arguments : Arguments} {name : String}

theorem contains_iff_exists :
    arguments.contains name = true ↔ ∃ value, arguments.get? name = some value :=
  Option.isSome_iff_exists

theorem contains_eq_false : arguments.contains name = false ↔ arguments.get? name = none :=
  Option.isSome_eq_false_iff.trans Option.isNone_iff_eq_none

/-- Setting an argument changes what one name gives. -/
theorem get?_insert_of_ne {other : String} (different : other ≠ name) (value : Value) :
    (arguments.insert name value).get? other = arguments.get? other := by
  simp only [get?, insert, lookup_assign_of_ne different]

/-- An argument is not `null`. -/
theorem isNull_of_get? {value : Value} (given : arguments.get? name = some value) :
    value.isNull = false := by
  simpa using (Option.filter_eq_some_iff.mp given).2

/-- A name has the argument that was set for it. -/
theorem get?_insert_self {value : Value} (present : value.isNull = false) :
    (arguments.insert name value).get? name = some value := by
  simp [get?, insert, present]

/-- Where no name has two entries, their order does not matter. -/
theorem get?_perm {first second : Arguments} (distinct : (first.entries.map Prod.fst).Nodup)
    (perm : first.entries.Perm second.entries) (name : String) :
    first.get? name = second.get? name := by
  simp only [get?, lookup_perm distinct perm]

end Arguments

namespace Operation

/-! ## When a call can be prepared -/

/-- Every required parameter has an argument. -/
def Complete (operation : Operation) (arguments : Arguments) : Prop :=
  ∀ parameter ∈ operation.parameters, parameter.required = true →
    arguments.contains parameter.name = true

/-- The request that places every argument. -/
def request (operation : Operation) (baseUrl : String) (arguments : Arguments)
    (options : CallOptions) : Request where
  verb := operation.verb
  url := baseUrl ++ operation.filledPath arguments
  query := applyOverrides options.overrides (operation.suppliedPairs arguments .query)
  payload := operation.suppliedPayload arguments
  headers := operation.suppliedHeaders arguments
  timeout := options.timeout

variable {operation : Operation} {baseUrl : String} {arguments : Arguments} {options : CallOptions}

theorem mem_parametersIn {placement : Placement} {parameter : Parameter} :
    parameter ∈ operation.parametersIn placement ↔
      parameter ∈ operation.parameters ∧ parameter.placement = placement := by
  simp [parametersIn]

theorem missing?_eq_none : operation.missing? arguments = none ↔ operation.Complete arguments := by
  simp [missing?, Complete]

/-- What is missing is a required parameter without an argument. -/
theorem of_missing?_eq_some {parameter : Parameter}
    (missing : operation.missing? arguments = some parameter) :
    parameter ∈ operation.parameters ∧ parameter.required = true ∧
      arguments.get? parameter.name = none := by
  have member := List.mem_of_find?_eq_some missing
  have absent := List.find?_some missing
  rw [Bool.and_eq_true, Bool.not_eq_true', Arguments.contains_eq_false] at absent
  exact ⟨member, absent⟩

/-- A complete call gives its request, under the full address of the request. -/
theorem prepare_of_complete (complete : operation.Complete arguments) :
    operation.prepare baseUrl arguments options =
      .ok ⟨operation.request baseUrl arguments options,
        (operation.request baseUrl arguments options).fullUrl⟩ := by
  rw [prepare, missing?_eq_none.mpr complete]
  rfl

/-- An incomplete call gives an error that names the first missing parameter. -/
theorem prepare_of_missing {parameter : Parameter}
    (missing : operation.missing? arguments = some parameter) :
    operation.prepare baseUrl arguments options = .error ⟨operation.name, parameter.name⟩ := by
  rw [prepare, missing]

/-- **A call can be prepared exactly if it is complete.** -/
theorem prepare_eq_ok {prepared : PreparedCall} :
    operation.prepare baseUrl arguments options = .ok prepared ↔
      operation.Complete arguments ∧
        prepared = ⟨operation.request baseUrl arguments options,
          (operation.request baseUrl arguments options).fullUrl⟩ := by
  cases missing : operation.missing? arguments with
  | none =>
      have complete := missing?_eq_none.mp missing
      rw [prepare_of_complete complete, Except.ok.injEq]
      exact ⟨fun same => ⟨complete, same.symm⟩, fun known => known.2.symm⟩
  | some parameter =>
      have incomplete : ¬ operation.Complete arguments := fun complete => by
        cases missing.symm.trans (missing?_eq_none.mpr complete)
      simp [prepare_of_missing missing, incomplete]

/-! ## What a request looks at -/

/-- Two bags give the same arguments to the parameters with a placement. -/
def SameSupply (operation : Operation) (placement : Placement) (first second : Arguments) : Prop :=
  ∀ parameter ∈ operation.parametersIn placement,
    first.get? parameter.name = second.get? parameter.name

variable {first second : Arguments} {placement : Placement}

theorem supplied_congr (same : operation.SameSupply placement first second) :
    operation.supplied first placement = operation.supplied second placement :=
  List.filterMap_congr fun parameter member => by rw [same parameter member]

theorem suppliedPairs_congr (same : operation.SameSupply placement first second) :
    operation.suppliedPairs first placement = operation.suppliedPairs second placement := by
  simp only [suppliedPairs, supplied_congr same]

/-- The path looks at the arguments of the path. -/
theorem filledPath_congr (same : operation.SameSupply .path first second) :
    operation.filledPath first = operation.filledPath second := by
  simp only [filledPath, supplied_congr same]

/-- The headers look at the arguments of the headers. -/
theorem suppliedHeaders_congr (same : operation.SameSupply .header first second) :
    operation.suppliedHeaders first = operation.suppliedHeaders second := by
  simp only [suppliedHeaders, supplied_congr same]

/-- The payload looks at the arguments of the body and at the pairs of the form. -/
theorem suppliedPayload_congr (sameBody : operation.SameSupply .body first second)
    (sameForm : operation.suppliedPairs first .formData =
      operation.suppliedPairs second .formData) :
    operation.suppliedPayload first = operation.suppliedPayload second := by
  have body : (operation.bodyParameter?.bind fun parameter => first.get? parameter.name) =
      operation.bodyParameter?.bind fun parameter => second.get? parameter.name := by
    cases declared : operation.bodyParameter? with
    | none => rfl
    | some parameter => exact sameBody parameter (List.mem_of_head? declared)
  simp only [suppliedPayload, sameForm, body]

/-- Whether a call is complete depends on which parameters have an argument. -/
theorem missing?_congr
    (same : ∀ parameter ∈ operation.parameters,
      first.contains parameter.name = second.contains parameter.name) :
    operation.missing? first = operation.missing? second :=
  List.find?_congr fun parameter member => by rw [same parameter member]

/-- **The arguments of the declared parameters decide everything.** -/
theorem prepare_congr
    (same : ∀ parameter ∈ operation.parameters,
      first.get? parameter.name = second.get? parameter.name) :
    operation.prepare baseUrl first options = operation.prepare baseUrl second options := by
  have supply (placement : Placement) : operation.SameSupply placement first second :=
    fun parameter member => same parameter (mem_parametersIn.mp member).1
  have missing : operation.missing? first = operation.missing? second :=
    missing?_congr fun parameter member => by
      rw [Arguments.contains, Arguments.contains, same parameter member]
  simp only [prepare, missing, filledPath_congr (supply .path), suppliedPairs_congr (supply .query),
    suppliedHeaders_congr (supply .header),
    suppliedPayload_congr (supply .body) (suppliedPairs_congr (supply .formData))]

/-- Where the same parameters have an argument, a call is prepared to the same if it cannot be
prepared, or if its requests are the same. -/
theorem prepare_eq_prepare_iff
    (same : ∀ parameter ∈ operation.parameters,
      first.contains parameter.name = second.contains parameter.name) :
    operation.prepare baseUrl first options = operation.prepare baseUrl second options ↔
      (operation.Complete second →
        operation.request baseUrl first options = operation.request baseUrl second options) := by
  have missing : operation.missing? first = operation.missing? second := missing?_congr same
  cases absent : operation.missing? second with
  | some parameter =>
      have incomplete : ¬ operation.Complete second := fun complete => by
        cases absent.symm.trans (missing?_eq_none.mpr complete)
      simp [prepare_of_missing absent, prepare_of_missing (missing.trans absent), incomplete]
  | none =>
      have complete := missing?_eq_none.mp absent
      rw [prepare_of_complete complete,
        prepare_of_complete (missing?_eq_none.mp (missing.trans absent)), Except.ok.injEq,
        PreparedCall.mk.injEq]
      exact ⟨fun prepared _ => prepared.1, fun same => ⟨same complete, by rw [same complete]⟩⟩

end Operation

end ServiceCatalog
