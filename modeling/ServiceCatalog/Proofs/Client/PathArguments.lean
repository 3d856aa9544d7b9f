import ServiceCatalog.Proofs.Client.Discipline
import ServiceCatalog.Proofs.Request.Preparation

/-!
# Calls whose path is incomplete

A call that leaves a parameter of the path without an argument should never reach the transport.
What stops a call is the check for required parameters, so it is stopped if every parameter of the
path is required.  Parameters that are declared step by step are.  But an operation may also be read
from a record, with any settings, and binding accepts it without looking at which parameters are
required.

So the guarantee is conditional, and this file gives the exact condition
(`Operation.RequiresPath`): a parameter of the path is required, or another parameter of its name
is.  Where the condition fails, there are arguments with which the call goes out, and the
placeholder is sent as it is written.
-/

namespace ServiceCatalog

set_option autoImplicit false

open ServiceCatalog.Json

namespace Parameter

/-! ## Parameters that are declared step by step -/

/-- A parameter of the path is required. -/
def RequiredInPath (parameter : Parameter) : Prop :=
  parameter.placement = .path → parameter.required = true

theorem requiredInPath_declare (name : String) (placement : Placement) :
    (declare name placement).RequiredInPath := by
  simp [RequiredInPath, declare]

/-- A parameter of the path cannot be made optional. -/
theorem requiredInPath_withRequired (required : Bool) (parameter : Parameter) :
    (parameter.withRequired required).RequiredInPath := by
  simp +contextual [RequiredInPath, withRequired]

end Parameter

namespace Arguments

/-! ## A bag that leaves out one name -/

/-- The bag that gives every name but one an argument. -/
def allBut (name : String) (names : List String) : Arguments :=
  ofList ((names.filter (· ≠ name)).map fun other => (other, .bool true))

/-- It gives exactly the other names an argument. -/
theorem contains_allBut {name other : String} {names : List String} :
    (allBut name names).contains other = true ↔ other ∈ names ∧ other ≠ name := by
  let listed := (names.filter (· ≠ name)).reverse
  have given : (allBut name names).entries.lookup other =
      (listed.map fun other => (other, Value.bool true)).lookup other := by
    rw [allBut, ofList, lookup_assignAll, ← List.map_reverse]
  have member : other ∈ listed ↔ other ∈ names ∧ other ≠ name := by simp [listed]
  rw [← member, contains, get?, given]
  by_cases has : other ∈ listed
  · simp [List.lookup_graph (fun _ => Value.bool true) has, has, Value.isNull]
  · have absent : (listed.map fun other => (other, Value.bool true)).lookup other = none :=
      List.lookup_eq_none_iff.mpr fun entry member => by
        obtain ⟨held, there, rfl⟩ := List.mem_map.mp member
        exact bne_iff_ne.mpr fun same => has (same ▸ there)
    simp [absent, has]

end Arguments

namespace Operation

variable {operation : Operation} {arguments : Arguments}

/-! ## Operations that require their path -/

/-- Every parameter of the path shares its name with a required parameter, as it does when it is
required itself. -/
def RequiresPath (operation : Operation) : Prop :=
  ∀ parameter ∈ operation.parametersIn .path,
    ∃ other ∈ operation.parameters, other.name = parameter.name ∧ other.required = true

/-- Some parameter of the path has no argument. -/
def LacksPath (operation : Operation) (arguments : Arguments) : Prop :=
  ∃ parameter ∈ operation.parametersIn .path, arguments.get? parameter.name = none

/-- An operation whose parameters are declared step by step requires its path. -/
theorem requiresPath_of_requiredInPath
    (required : ∀ parameter ∈ operation.parameters, parameter.RequiredInPath) :
    operation.RequiresPath := by
  intro parameter member
  obtain ⟨declared, placed⟩ := mem_parametersIn.mp member
  exact ⟨parameter, declared, rfl, required parameter declared placed⟩

/-- If the path is required and lacks an argument, a required parameter without one is reported. -/
theorem RequiresPath.prepare_of_lacksPath (requires : operation.RequiresPath)
    (lacks : operation.LacksPath arguments) (baseUrl : String) (options : CallOptions) :
    ∃ missing ∈ operation.parameters, missing.required = true ∧
      arguments.get? missing.name = none ∧
      operation.prepare baseUrl arguments options = .error ⟨operation.name, missing.name⟩ := by
  obtain ⟨parameter, member, absent⟩ := lacks
  obtain ⟨other, declared, named, required⟩ := requires parameter member
  cases missing : operation.missing? arguments with
  | none =>
      have present := missing?_eq_none.mp missing other declared required
      rw [named, Arguments.contains, absent] at present
      cases present
  | some first =>
      obtain ⟨member, required, absent⟩ := of_missing?_eq_some missing
      exact ⟨first, member, required, absent, prepare_of_missing missing⟩

/-- If the path is not required, some arguments are complete though the path lacks one. -/
theorem exists_complete_lacksPath (unguarded : ¬ operation.RequiresPath) :
    ∃ arguments, operation.LacksPath arguments ∧ operation.Complete arguments := by
  simp only [RequiresPath, not_forall] at unguarded
  obtain ⟨parameter, member, optional⟩ := unguarded
  refine ⟨.allBut parameter.name (operation.parameters.map Parameter.name),
    ⟨parameter, member, ?_⟩, fun other declared required => ?_⟩
  · exact Arguments.contains_eq_false.mp (Bool.eq_false_iff.mpr fun present =>
      (Arguments.contains_allBut.mp present).2 rfl)
  · refine Arguments.contains_allBut.mpr ⟨List.mem_map_of_mem declared, fun named => ?_⟩
    exact optional ⟨other, declared, named, required⟩

end Operation

/-- **A call whose path is incomplete is stopped exactly if the path is required.**  Let an
operation be bound.  The following two say the same.

* Whenever a parameter of the path has no argument, preparing reports a required parameter that has
  none; and a call through this binding, with any cache and in any session, is silent: it reads no
  cache and sends nothing, whatever other steps are taken.
* Every parameter of the path shares its name with a required parameter. -/
theorem incomplete_paths_stop_calls {operation : Operation} {baseUrl : String} {binding : Binding}
    (bound : Binding.bind operation baseUrl = .ok binding) :
    (∀ (arguments : Arguments) (options : CallOptions), operation.LacksPath arguments →
      (∃ missing ∈ operation.parameters, missing.required = true ∧
        arguments.get? missing.name = none ∧
        binding.prepare arguments options = .error ⟨operation.name, missing.name⟩) ∧
      ∀ (cache : Option String) (transport : Transport) (session : Session) (call : String)
        (target : Target) (rest : List Step),
        target.binding? session.client = some (binding.withCache cache) →
        (∀ step ∈ rest, step.made? ≠ some call) →
        let made := session.moment transport (.start call target arguments options)
        Silent made (pollsOf call (made.after.history transport rest))) ↔
    operation.RequiresPath := by
  obtain ⟨-, rfl⟩ := Binding.bind_eq_ok.mp bound
  constructor
  · intro stopped
    by_contra unguarded
    obtain ⟨arguments, lacks, complete⟩ := Operation.exists_complete_lacksPath unguarded
    obtain ⟨⟨missing, -, -, -, incomplete⟩, -⟩ := stopped arguments CallOptions.none lacks
    cases incomplete.symm.trans (Operation.prepare_of_complete complete)
  · intro requires arguments options lacks
    obtain ⟨missing, declared, required, absent, incomplete⟩ :=
      requires.prepare_of_lacksPath lacks baseUrl options
    refine ⟨⟨missing, declared, required, absent, incomplete⟩, ?_⟩
    intro cache transport session call target rest found own
    refine silent_of_unprepared own fun other foundOther =>
      ⟨⟨operation.name, missing.name⟩, ?_⟩
    obtain rfl := Option.some.inj (found.symm.trans foundOther)
    exact incomplete

/-- Showing an item without saying which is stopped, whatever happens afterwards. -/
theorem unnamed_item_stops_call :
    let operation := Operation.declare "showItem" .get "/items/\x7bid\x7d"
      [.declare "id" .path, .declare "view" .query]
    let transport : Transport := fun _ _ => some (.ok (Response.json 200 (.array [])))
    let made := (Session.opened itemsClient).moment transport
      (.start "first" (.operation "showItem") Arguments.empty CallOptions.none)
    operation.LacksPath Arguments.empty ∧
      operation.prepare "http://items.test" Arguments.empty CallOptions.none =
        .error ⟨"showItem", "id"⟩ ∧
      Silent made (pollsOf "first" (made.after.history transport
        [.poll "first", .useCache "shelf", .poll "first"])) := by
  intro operation transport made
  have bound : Binding.bind operation "http://items.test" =
      .ok ⟨operation, "http://items.test", none⟩ :=
    Binding.bind_eq_ok.mpr ⟨by decide +kernel, rfl⟩
  have requires : operation.RequiresPath := Operation.requiresPath_of_requiredInPath (by
    simp [operation, Operation.declare, Parameter.requiredInPath_declare])
  have lacks : operation.LacksPath Arguments.empty := ⟨.declare "id" .path, by decide, rfl⟩
  obtain ⟨⟨missing, declared, required, -, incomplete⟩, silent⟩ :=
    (incomplete_paths_stop_calls bound).mpr requires Arguments.empty CallOptions.none lacks
  exact ⟨lacks, rfl, silent (some "store") transport (Session.opened itemsClient) "first"
    (.operation "showItem") _ rfl (by simp [Step.made?])⟩

/-- A binding whose path parameter was read as optional. -/
def bindingOfOptionalPath : Binding where
  operation := .declare "showItem" .get "/items/\x7bid\x7d"
    [{ Parameter.declare "id" .path with required := false }]
  baseUrl := "http://items.test"
  cache := some "store"

/-- **An optional parameter of the path lets a call out.**  The operation can be bound.  Without an
argument it is prepared with the placeholder as it is written, and a call of it reads its cache and
then sends that request. -/
theorem unfilled_path_is_sent :
    Binding.bind bindingOfOptionalPath.operation "http://items.test" =
        .ok (bindingOfOptionalPath.withCache none) ∧
      bindingOfOptionalPath.operation.LacksPath Arguments.empty ∧
      bindingOfOptionalPath.prepare Arguments.empty CallOptions.none = .ok
        ⟨.bare .get "http://items.test/items/\x7bid\x7d", "http://items.test/items/\x7bid\x7d"⟩ ∧
      ((Session.opened itemsClient).run (fun _ _ => none)
          [.start "first" (.held bindingOfOptionalPath) Arguments.empty CallOptions.none,
            .poll "first"]).2 =
        [.cacheRead "store" "http://items.test/items/\x7bid\x7d" false,
          .sent (.bare .get "http://items.test/items/\x7bid\x7d")] := by
  have lacks : bindingOfOptionalPath.operation.LacksPath Arguments.empty :=
    ⟨{ Parameter.declare "id" .path with required := false }, by decide, rfl⟩
  exact ⟨Binding.bind_eq_ok.mpr ⟨by decide +kernel, rfl⟩, lacks, rfl, rfl⟩

end ServiceCatalog
