import Mathlib.Data.List.Nodup
import ServiceCatalog.Proofs.Client.Making
import ServiceCatalog.Proofs.Request.Preparation

/-!
# Arguments keep to their place

Take two bags of arguments that give the parameters of an operation the same, but for one parameter
that has an argument in both.  A call is then prepared from both or from neither, and if it is
prepared, the two requests differ at most in the part that the parameter is written to
(`Request.AgreesBeside`).  An argument of a header or of the payload never gets into the key under
which the answer is kept.

The operation looks at nothing else.  Arguments of undeclared names, the order of the entries of a
bag, and the settings for caches have no part in a request.
-/

namespace ServiceCatalog

set_option autoImplicit false

open ServiceCatalog.Json

/-- Two requests agree but for the part that the parameters with a placement are written to. -/
structure Request.AgreesBeside (placement : Placement) (first second : Request) : Prop where
  verb : first.verb = second.verb
  timeout : first.timeout = second.timeout
  url : placement ≠ .path → first.url = second.url
  query : placement ≠ .query → first.query = second.query
  headers : placement ≠ .header → first.headers = second.headers
  payload : placement.inPayload = false → first.payload = second.payload

/-- The full address is that of the path and of the query. -/
theorem Request.AgreesBeside.fullUrl {placement : Placement} {first second : Request}
    (agrees : first.AgreesBeside placement second) (path : placement ≠ .path)
    (query : placement ≠ .query) : first.fullUrl = second.fullUrl := by
  simp only [Request.fullUrl, Request.queryString?, agrees.url path, agrees.query query]

namespace Operation

/-- Two bags give the parameters the same, but for one parameter that has an argument in both. -/
structure DifferAt (operation : Operation) (parameter : Parameter) (first second : Arguments) :
    Prop where
  declared : parameter ∈ operation.parameters
  inFirst : first.contains parameter.name = true
  inSecond : second.contains parameter.name = true
  same : ∀ other ∈ operation.parameters, other.name ≠ parameter.name →
    first.get? other.name = second.get? other.name

namespace DifferAt

variable {operation : Operation} {parameter : Parameter} {first second : Arguments}

/-- Where names are distinct, the other placements are supplied the same. -/
theorem sameSupply (differ : operation.DifferAt parameter first second)
    (distinct : (operation.parameters.map Parameter.name).Nodup) {placement : Placement}
    (elsewhere : parameter.placement ≠ placement) :
    operation.SameSupply placement first second := by
  intro other member
  obtain ⟨declared, here⟩ := mem_parametersIn.mp member
  refine differ.same other declared fun named => ?_
  obtain rfl := List.inj_on_of_nodup_map distinct declared differ.declared named
  exact elsewhere here

/-- The same parameters have an argument. -/
theorem contains_eq (differ : operation.DifferAt parameter first second) :
    ∀ other ∈ operation.parameters, first.contains other.name = second.contains other.name := by
  intro other declared
  by_cases named : other.name = parameter.name
  · rw [named, differ.inFirst, differ.inSecond]
  · rw [Arguments.contains, Arguments.contains, differ.same other declared named]

/-- The two requests agree beside the part of the parameter. -/
theorem agreesBeside (differ : operation.DifferAt parameter first second)
    (distinct : (operation.parameters.map Parameter.name).Nodup) (baseUrl : String)
    (options : CallOptions) :
    (operation.request baseUrl first options).AgreesBeside parameter.placement
      (operation.request baseUrl second options) where
  verb := rfl
  timeout := rfl
  url elsewhere := by
    simp only [request, filledPath_congr (differ.sameSupply distinct elsewhere)]
  query elsewhere := by
    simp only [request, suppliedPairs_congr (differ.sameSupply distinct elsewhere)]
  headers elsewhere := suppliedHeaders_congr (differ.sameSupply distinct elsewhere)
  payload elsewhere := by
    have body : parameter.placement ≠ .body := fun here => by
      simp [here, Placement.inPayload] at elsewhere
    have form : parameter.placement ≠ .formData := fun here => by
      simp [here, Placement.inPayload] at elsewhere
    exact suppliedPayload_congr (differ.sameSupply distinct body)
      (suppliedPairs_congr (differ.sameSupply distinct form))

/-- A call is prepared from both bags or from neither. -/
theorem prepare (differ : operation.DifferAt parameter first second)
    (distinct : (operation.parameters.map Parameter.name).Nodup) (baseUrl : String)
    (options : CallOptions) :
    (∃ missing, operation.prepare baseUrl first options = .error missing ∧
        operation.prepare baseUrl second options = .error missing) ∨
      ∃ one other, operation.prepare baseUrl first options = .ok one ∧
        operation.prepare baseUrl second options = .ok other ∧
        one.request.AgreesBeside parameter.placement other.request ∧
        (parameter.placement ≠ .path → parameter.placement ≠ .query →
          one.cacheKey = other.cacheKey) := by
  have same : operation.missing? first = operation.missing? second :=
    missing?_congr differ.contains_eq
  cases missing : operation.missing? first with
  | some absent =>
      exact .inl ⟨_, prepare_of_missing missing, prepare_of_missing (same ▸ missing)⟩
  | none =>
      have agrees := differ.agreesBeside distinct baseUrl options
      exact .inr ⟨_, _, prepare_of_complete (missing?_eq_none.mp missing),
        prepare_of_complete (missing?_eq_none.mp (same ▸ missing)), agrees, agrees.fullUrl⟩

end DifferAt

end Operation

/-- **Arguments keep to their place.**  Let an operation be bound whose parameters have distinct
names.

* From two bags that differ at one parameter, a call is prepared from neither, with the same error,
  or from both, and then the requests agree beside the part of the parameter; the keys of the
  answers are the same unless the parameter is one of the path or of the query.
* Bags that give the declared parameters the same are prepared the same.  So an argument of an
  undeclared name does not matter, nor does the order of the entries.
* Nor do the wish for a fresh answer, the cache of the call, or the lifetime of its answer. -/
theorem arguments_keep_to_their_place {operation : Operation} {baseUrl : String}
    {binding : Binding} (bound : Binding.bind operation baseUrl = .ok binding)
    (distinct : (operation.parameters.map Parameter.name).Nodup) :
    (∀ (options : CallOptions) (first second : Arguments) (parameter : Parameter),
      operation.DifferAt parameter first second →
      (∃ missing, binding.prepare first options = .error missing ∧
          binding.prepare second options = .error missing) ∨
        ∃ one other, binding.prepare first options = .ok one ∧
          binding.prepare second options = .ok other ∧
          one.request.AgreesBeside parameter.placement other.request ∧
          (parameter.placement ≠ .path → parameter.placement ≠ .query →
            one.cacheKey = other.cacheKey)) ∧
    (∀ (options : CallOptions) (first second : Arguments),
      (∀ parameter ∈ operation.parameters,
        first.get? parameter.name = second.get? parameter.name) →
      binding.prepare first options = binding.prepare second options) ∧
    (∀ (options : CallOptions) (arguments : Arguments) (name : String) (value : Value),
      name ∉ operation.parameters.map Parameter.name →
      binding.prepare (arguments.insert name value) options =
        binding.prepare arguments options) ∧
    (∀ (options : CallOptions) (first second : Arguments),
      (first.entries.map Prod.fst).Nodup → first.entries.Perm second.entries →
      binding.prepare first options = binding.prepare second options) ∧
    ∀ (arguments : Arguments) (options : CallOptions) (refresh : Bool) (cache : Option String)
        (lifetime : Option Nat),
      binding.prepare arguments
          { options with refresh := refresh, cache := cache, lifetime := lifetime } =
        binding.prepare arguments options := by
  obtain ⟨-, rfl⟩ := Binding.bind_eq_ok.mp bound
  refine ⟨fun options first second parameter differ => differ.prepare distinct baseUrl options,
    fun options first second same => Operation.prepare_congr same,
    fun options arguments name value undeclared => ?_,
    fun options first second unrepeated perm => ?_, fun _ _ _ _ _ => rfl⟩
  · refine Operation.prepare_congr fun parameter declared => ?_
    have different : parameter.name ≠ name := fun named =>
      undeclared (List.mem_map.mpr ⟨parameter, declared, named⟩)
    exact Arguments.get?_insert_of_ne different value
  · exact Operation.prepare_congr fun parameter _ =>
      Arguments.get?_perm unrepeated perm parameter.name

/-- Two calls that are traced differently have answers of one key. -/
theorem traced_calls_share_their_key :
    let operation := Operation.declare "showItem" .get "/items/\x7bid\x7d"
      [.declare "id" .path, .declare "view" .query, .declare "X-Trace" .header]
    let arguments (trace : String) : Arguments :=
      Arguments.insert "X-Trace" (.string trace) ⟨[("id", .string "a"), ("view", .string "1")]⟩
    ∃ one other, operation.prepare "http://items.test" (arguments "first") CallOptions.none =
        .ok one ∧
      operation.prepare "http://items.test" (arguments "second") CallOptions.none = .ok other ∧
      one.request.AgreesBeside .header other.request ∧ one.cacheKey = other.cacheKey := by
  intro operation arguments
  have bound : Binding.bind operation "http://items.test" =
      .ok ⟨operation, "http://items.test", none⟩ :=
    Binding.bind_eq_ok.mpr ⟨by decide +kernel, rfl⟩
  have distinct : (operation.parameters.map Parameter.name).Nodup := by decide
  have differ : operation.DifferAt (.declare "X-Trace" .header) (arguments "first")
      (arguments "second") :=
    ⟨by decide, rfl, rfl, fun other _ different =>
      (Arguments.get?_insert_of_ne different _).trans
        (Arguments.get?_insert_of_ne different _).symm⟩
  rcases (arguments_keep_to_their_place bound distinct).1 CallOptions.none _ _ _ differ with
    ⟨missing, failed, -⟩ | ⟨one, other, first, second, agrees, key⟩
  · cases failed
  · exact ⟨one, other, first, second, agrees, key (by decide) (by decide)⟩

end ServiceCatalog
