import ServiceCatalog.Proofs.Catalog.Violation
import ServiceCatalog.Proofs.Client.Making
import ServiceCatalog.Proofs.Request.FilledPath
import ServiceCatalog.Proofs.Request.Overrides

/-!
# Required parameters in a request

Preparing a call checks that every required parameter has an argument.  Whether the argument then
gets into the request is another question, which is asked at the place where the parameter is
declared (`Operation.Sends`).

It does, with one exception (`required_parameters_are_sent_unless_they_list_nothing`).  A list in
the repeating format gives one pair for each item other than `null`, and so a list without such an
item gives none: the parameter counts as given, and nothing of it is sent
(`empty_lists_are_not_sent`).
-/

namespace ServiceCatalog

set_option autoImplicit false

open ServiceCatalog.Json

/-- A parameter of the query or of the form that repeats its pairs, for a list that lists
nothing. -/
def Parameter.WritesNothing (parameter : Parameter) (value : Value) : Prop :=
  (parameter.placement = .query ∨ parameter.placement = .formData) ∧
    parameter.collectionFormat.separator = none ∧ value.ListsNothing

/-- Only parameters of the query and of the form write nothing. -/
theorem Parameter.not_writesNothing {parameter : Parameter} {value : Value}
    (query : parameter.placement ≠ .query) (form : parameter.placement ≠ .formData) :
    ¬ parameter.WritesNothing value :=
  fun nothing => nothing.1.elim query form

namespace Operation

/-! ## What is sent of a parameter -/

/-- A request of an operation at a base address holds what a parameter is given, at the place of the
parameter: filled into the path for its name, as a pair of its name in the query or in the form, as
the header of its name, or as the payload. -/
def Sends (operation : Operation) (baseUrl : String) (request : Request) (parameter : Parameter)
    (value : Value) : Prop :=
  match parameter.placement with
  | .path => Template.HoldsName operation.path.toList parameter.name ∧
      ∃ values, values.lookup parameter.name = some (value.joined listSeparator) ∧
        request.url = baseUrl ++ Template.fill operation.path values
  | .query => ∃ text, (parameter.name, text) ∈ request.query
  | .header => (parameter.name, value.joined listSeparator) ∈ request.headers
  | .body => request.payload = some (.json value)
  | .formData => ∃ fields text, request.payload = some (.form fields) ∧
      (parameter.name, text) ∈ fields

variable {operation : Operation} {baseUrl : String} {arguments : Arguments} {options : CallOptions}
  {parameter : Parameter} {value : Value}

/-- What can be bound obeys all rules. -/
theorem consistent_of_bind {binding : Binding}
    (bound : Binding.bind operation baseUrl = .ok binding) : operation.Consistent :=
  violation?_eq_none_iff_consistent.mp (validate_eq_ok.mp (Binding.bind_eq_ok.mp bound).1)

/-- Where all rules are obeyed, the argument of a parameter of the body is the payload. -/
theorem Consistent.suppliedPayload_eq_json (consistent : operation.Consistent)
    (member : parameter ∈ operation.parametersIn .body)
    (given : arguments.get? parameter.name = some value) :
    operation.suppliedPayload arguments = some (.json value) :=
  suppliedPayload_of_body consistent.oneBody
    (consistent.bodyOrForm (List.ne_nil_of_mem member)) member given

/-- A parameter with an argument is sent unless it writes nothing. -/
theorem Consistent.sends_iff (consistent : operation.Consistent)
    (declared : parameter ∈ operation.parameters)
    (kept : parameter.placement = .query → parameter.name ∉ options.overridden)
    (given : arguments.get? parameter.name = some value) :
    operation.Sends baseUrl (operation.request baseUrl arguments options) parameter value ↔
      ¬ parameter.WritesNothing value := by
  have member : parameter ∈ operation.parametersIn parameter.placement :=
    mem_parametersIn.mpr ⟨declared, rfl⟩
  have written : ¬ (parameter.collectionFormat.separator = none ∧ value.ListsNothing) ↔
      ∃ text, (parameter.name, text) ∈ parameter.pairs arguments := by
    rw [← Parameter.pairs_eq_nil given, Parameter.exists_mem_pairs]
  cases placed : parameter.placement with
  | path =>
      refine iff_of_true ?_ (Parameter.not_writesNothing (by simp [placed]) (by simp [placed]))
      have named : parameter.name ∈ operation.pathNames :=
        List.mem_map_of_mem (placed ▸ member)
      simp only [Sends, placed]
      exact ⟨consistent.used _ named, operation.pathValues arguments,
        lookup_pathValues_of_some (placed ▸ member) given, rfl⟩
  | query =>
      simp only [Sends, Parameter.WritesNothing, placed, true_or, true_and, written,
        mem_query_request consistent.distinct (placed ▸ member) (kept placed)]
  | header =>
      refine iff_of_true ?_ (Parameter.not_writesNothing (by simp [placed]) (by simp [placed]))
      simp only [Sends, placed]
      exact mem_suppliedHeaders.mpr ⟨parameter, placed ▸ member, rfl, value, given, rfl⟩
  | body =>
      refine iff_of_true ?_ (Parameter.not_writesNothing (by simp [placed]) (by simp [placed]))
      simp only [Sends, placed]
      exact consistent.suppliedPayload_eq_json (placed ▸ member) given
  | formData =>
      simp only [Sends, Parameter.WritesNothing, placed, or_true, true_and, written]
      rw [exists_comm]
      exact exists_congr fun text => exists_mem_form consistent.distinct (placed ▸ member)

end Operation

/-- **Required parameters are sent unless they list nothing.**  Let an operation be bound and a call
of it be prepared.  Then every required parameter has an argument, and if it is no query parameter
that the call overrides, the request holds what is given at the place of the parameter, exactly
unless it is a parameter of the query or of the form in the repeating format and is given a list
without an item other than `null`. -/
theorem required_parameters_are_sent_unless_they_list_nothing {operation : Operation}
    {baseUrl : String} {binding : Binding} {arguments : Arguments} {options : CallOptions}
    {prepared : PreparedCall} (bound : Binding.bind operation baseUrl = .ok binding)
    (prepares : binding.prepare arguments options = .ok prepared) :
    ∀ parameter ∈ operation.parameters, parameter.required = true →
      (parameter.placement = .query → parameter.name ∉ options.overridden) →
      ∃ value, arguments.get? parameter.name = some value ∧
        (operation.Sends baseUrl prepared.request parameter value ↔
          ¬ parameter.WritesNothing value) := by
  have consistent := Operation.consistent_of_bind bound
  obtain ⟨-, rfl⟩ := Binding.bind_eq_ok.mp bound
  obtain ⟨complete, rfl⟩ := Operation.prepare_eq_ok.mp prepares
  intro parameter declared required kept
  obtain ⟨value, given⟩ :=
    Arguments.contains_iff_exists.mp (complete parameter declared required)
  exact ⟨value, given, consistent.sends_iff declared kept given⟩

/-- An upload that requires a parameter of the path, one of the query and one of the form. -/
def uploadOperation : Operation :=
  .declare "upload" .post "/items/\x7bid\x7d"
    [.declare "id" .path, (Parameter.declare "tags" .query).withRequired true,
      (Parameter.declare "notes" .formData).withRequired true]

/-- The upload can be bound. -/
theorem bind_uploadOperation :
    Binding.bind uploadOperation "http://items.test" =
      .ok ⟨uploadOperation, "http://items.test", none⟩ :=
  Binding.bind_eq_ok.mpr ⟨by decide +kernel, rfl⟩

/-- A list with one item beside `null` is sent. -/
theorem tagged_uploads_send_their_tags :
    let arguments : Arguments := ⟨[("id", .string "a"), ("notes", .string "new"),
      ("tags", .array [.null, .string "red"])]⟩
    ∃ prepared,
      uploadOperation.prepare "http://items.test" arguments CallOptions.none = .ok prepared ∧
      uploadOperation.Sends "http://items.test" prepared.request
        ((Parameter.declare "tags" .query).withRequired true)
        (.array [.null, .string "red"]) := by
  intro arguments
  have prepares : uploadOperation.prepare "http://items.test" arguments CallOptions.none = .ok _ :=
    Operation.prepare_of_complete (Operation.missing?_eq_none.mp rfl)
  obtain ⟨value, given, sent⟩ := required_parameters_are_sent_unless_they_list_nothing
    bind_uploadOperation prepares ((Parameter.declare "tags" .query).withRequired true) (by decide)
    rfl (fun _ => List.not_mem_nil)
  obtain rfl := Option.some.inj given
  refine ⟨_, prepares, sent.mpr ?_⟩
  simp [Parameter.WritesNothing, Value.ListsNothing, Value.isNull]

/-- **Empty lists are not sent.**  The required parameters of the query and of the form have
arguments and nothing is overridden, so the call is prepared; but there is no pair of the one in the
query, and no form for the other. -/
theorem empty_lists_are_not_sent :
    let arguments : Arguments := ⟨[("id", .string "a"), ("tags", .array []),
      ("notes", .array [.null])]⟩
    Binding.bind uploadOperation "http://items.test" =
        .ok ⟨uploadOperation, "http://items.test", none⟩ ∧
      (Parameter.declare "tags" .query).withRequired true ∈ uploadOperation.parameters ∧
      (Parameter.declare "notes" .formData).withRequired true ∈ uploadOperation.parameters ∧
      CallOptions.none.overridden = [] ∧
      ∃ prepared,
        uploadOperation.prepare "http://items.test" arguments CallOptions.none = .ok prepared ∧
        (¬ ∃ text, ("tags", text) ∈ prepared.request.query) ∧
        ¬ ∃ fields text, prepared.request.payload = some (.form fields) ∧
          ("notes", text) ∈ fields := by
  intro arguments
  have prepares : uploadOperation.prepare "http://items.test" arguments CallOptions.none = .ok
      ⟨.bare .post "http://items.test/items/a", "http://items.test/items/a"⟩ := rfl
  refine ⟨bind_uploadOperation, by decide, by decide, rfl, _, prepares, ?_, ?_⟩
  · rintro ⟨text, pair⟩
    cases pair
  · rintro ⟨fields, text, form, -⟩
    cases form

end ServiceCatalog
