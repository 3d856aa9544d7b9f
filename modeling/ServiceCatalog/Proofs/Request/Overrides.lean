import ServiceCatalog.Proofs.Request.Pairs

/-!
# What overrides do to a query

The overrides of a call come after the declared parameters.  A name that is overridden loses all
pairs it was declared to have and gets those of its overrides, in their order and as often as it is
overridden; an override with `null` brings no pair.  The pairs of every other name stay as they are
declared.

So the query of a prepared call has two parts (`overrides_win_and_nothing_else_moves`): the
expansions of the parameters that are not overridden, and behind them those of the overrides that
are not `null`.  Overriding a second time changes nothing (`applyOverrides_applyOverrides`).
-/

namespace ServiceCatalog

set_option autoImplicit false

open ServiceCatalog.Json

/-! ## Overriding -/

/-- The names that a call overrides. -/
def CallOptions.overridden (options : CallOptions) : List String :=
  options.overrides.map Prod.fst

/-- The pairs that overrides bring: none for `null`. -/
def overridePairs (overrides : List (String × Value)) : List (String × String) :=
  (overrides.filter fun override => !override.2.isNull).flatMap fun override =>
    pairsOf override.1 .multi override.2

variable {overrides : List (String × Value)}

/-- Overriding keeps the pairs of other names and puts those of the overrides behind them. -/
theorem applyOverrides_eq (overrides : List (String × Value)) (query : List (String × String)) :
    applyOverrides overrides query =
      (query.filter fun pair => decide (pair.1 ∉ overrides.map Prod.fst)) ++
        overridePairs overrides := by
  have same (pair : String × String) : (!overrides.any fun override => override.1 == pair.1) =
      decide (pair.1 ∉ overrides.map Prod.fst) := by
    rw [Bool.eq_iff_iff, Bool.not_eq_true', ← Bool.not_eq_true, List.any_eq_true,
      decide_eq_true_eq, List.mem_map]
    simp only [beq_iff_eq]
  simp only [applyOverrides, same, overridePairs]

/-- To look for pairs of some names is to look for overrides of these names. -/
theorem filter_overridePairs (keep : String → Bool) (overrides : List (String × Value)) :
    ((overridePairs overrides).filter fun pair => keep pair.1) =
      overridePairs (overrides.filter fun override => keep override.1) := by
  rw [overridePairs, filter_flatMap_of_keyed (fun override _ => fst_of_mem_pairsOf) keep,
    overridePairs, List.filter_filter, List.filter_filter]
  simp only [Bool.and_comm]

/-- Only overridden names have pairs of overrides. -/
theorem fst_mem_of_mem_overridePairs {pair : String × String}
    (member : pair ∈ overridePairs overrides) : pair.1 ∈ overrides.map Prod.fst := by
  obtain ⟨override, there, expanded⟩ := List.mem_flatMap.mp member
  rw [fst_of_mem_pairsOf expanded]
  exact List.mem_map_of_mem (List.mem_of_mem_filter there)

/-- The pairs of names that are not overridden are those that were there. -/
theorem filter_applyOverrides_of_notMem (overrides : List (String × Value))
    (query : List (String × String)) :
    ((applyOverrides overrides query).filter fun pair =>
        decide (pair.1 ∉ overrides.map Prod.fst)) =
      query.filter fun pair => decide (pair.1 ∉ overrides.map Prod.fst) := by
  have none : ((overridePairs overrides).filter fun pair =>
      decide (pair.1 ∉ overrides.map Prod.fst)) = [] :=
    List.filter_eq_nil_iff.mpr fun pair member => by
      simpa using fst_mem_of_mem_overridePairs member
  rw [applyOverrides_eq, List.filter_append, none, List.append_nil, List.filter_filter]
  simp only [Bool.and_self]

/-- The pairs of a name that is overridden are those of its overrides. -/
theorem filter_applyOverrides_of_mem {name : String} (overridden : name ∈ overrides.map Prod.fst)
    (query : List (String × String)) :
    ((applyOverrides overrides query).filter fun pair => decide (pair.1 = name)) =
      overridePairs (overrides.filter fun override => decide (override.1 = name)) := by
  have none : ((query.filter fun pair => decide (pair.1 ∉ overrides.map Prod.fst)).filter
      fun pair => decide (pair.1 = name)) = [] :=
    List.filter_eq_nil_iff.mpr fun pair member named => by
      obtain rfl := of_decide_eq_true named
      exact of_decide_eq_true (List.mem_filter.mp member).2 overridden
  rw [applyOverrides_eq, List.filter_append, none, List.nil_append,
    filter_overridePairs fun other => decide (other = name)]

/-- **Overriding a second time changes nothing.** -/
theorem applyOverrides_applyOverrides (overrides : List (String × Value))
    (query : List (String × String)) :
    applyOverrides overrides (applyOverrides overrides query) = applyOverrides overrides query := by
  rw [applyOverrides_eq, filter_applyOverrides_of_notMem, ← applyOverrides_eq]

namespace Operation

/-! ## The query of a call -/

/-- The pairs of the query parameters that are not overridden, in declared order. -/
def keptPairs (operation : Operation) (arguments : Arguments) (options : CallOptions) :
    List (String × String) :=
  ((operation.parametersIn .query).filter fun parameter =>
    decide (parameter.name ∉ options.overridden)).flatMap (Parameter.pairs arguments)

variable {operation : Operation} {baseUrl : String} {arguments : Arguments} {options : CallOptions}

theorem filter_suppliedPairs_query :
    ((operation.suppliedPairs arguments .query).filter fun pair =>
        decide (pair.1 ∉ options.overridden)) =
      operation.keptPairs arguments options := by
  rw [suppliedPairs_eq, filter_flatMap_of_keyed Parameter.fst_of_mem_pairs
    fun name => decide (name ∉ options.overridden), keptPairs]

/-- **The query is what is kept with the overrides behind it.** -/
theorem query_request :
    (operation.request baseUrl arguments options).query =
      operation.keptPairs arguments options ++ overridePairs options.overrides := by
  rw [request, applyOverrides_eq, ← filter_suppliedPairs_query, CallOptions.overridden]

/-- **The pairs of a name that is not overridden are those of the parameter of that name.** -/
theorem mem_query_request (distinct : (operation.parameters.map Parameter.key).Nodup)
    {parameter : Parameter} (member : parameter ∈ operation.parametersIn .query)
    (kept : parameter.name ∉ options.overridden) {text : String} :
    (parameter.name, text) ∈ (operation.request baseUrl arguments options).query ↔
      (parameter.name, text) ∈ parameter.pairs arguments := by
  have foreign : (parameter.name, text) ∉ overridePairs options.overrides := fun pair =>
    kept (fst_mem_of_mem_overridePairs pair)
  rw [query_request, List.mem_append, or_iff_left foreign, ← filter_suppliedPairs_query,
    List.mem_filter, mem_suppliedPairs distinct member]
  simp [kept]

end Operation

/-- **Overrides win, and nothing else moves.**  The query of a prepared call

* begins with the expansions of the query parameters that are not overridden, in declared order,
  and these are all its pairs of names that are not overridden;
* goes on with the expansions of the overrides that are not `null`, in their order;
* has for every overridden name the expansions of its overrides that are not `null`, of all of them,
  and no other pair;
* is not changed by the same overrides again. -/
theorem overrides_win_and_nothing_else_moves {operation : Operation} {baseUrl : String}
    {arguments : Arguments} {options : CallOptions} {prepared : PreparedCall}
    (prepares : operation.prepare baseUrl arguments options = .ok prepared) :
    prepared.request.query =
        operation.keptPairs arguments options ++ overridePairs options.overrides ∧
      (prepared.request.query.filter fun pair => decide (pair.1 ∉ options.overridden)) =
        operation.keptPairs arguments options ∧
      (∀ name ∈ options.overridden,
        (prepared.request.query.filter fun pair => decide (pair.1 = name)) =
          overridePairs (options.overrides.filter fun override => decide (override.1 = name))) ∧
      applyOverrides options.overrides prepared.request.query = prepared.request.query := by
  obtain ⟨-, rfl⟩ := Operation.prepare_eq_ok.mp prepares
  refine ⟨Operation.query_request, ?_, ?_, ?_⟩
  · rw [← Operation.filter_suppliedPairs_query]
    exact filter_applyOverrides_of_notMem _ _
  · exact fun name overridden => filter_applyOverrides_of_mem overridden _
  · exact applyOverrides_applyOverrides _ _

/-- A search that overrides one name twice, one with `null`, and one that is not declared. -/
theorem searches_are_overridden :
    let operation := Operation.declare "search" .get "/items"
      [.declare "tags" .query, .declare "page" .query, .declare "limit" .query]
    let arguments : Arguments := ⟨[("limit", .string "9"), ("page", .string "2"),
      ("tags", .array [.string "a", .string "b"])]⟩
    let options : CallOptions := { CallOptions.none with
      overrides := [("tags", .string "z"), ("limit", .null), ("debug", .bool true),
        ("tags", .array [.string "y", .null])] }
    ∃ prepared, operation.prepare "http://items.test" arguments options = .ok prepared ∧
      prepared.request.query =
        [("page", "2"), ("tags", "z"), ("debug", "true"), ("tags", "y")] ∧
      (prepared.request.query.filter fun pair => decide (pair.1 = "tags")) =
        [("tags", "z"), ("tags", "y")] ∧
      (prepared.request.query.filter fun pair => decide (pair.1 = "limit")) = [] ∧
      applyOverrides options.overrides prepared.request.query = prepared.request.query := by
  intro operation arguments options
  have prepares : operation.prepare "http://items.test" arguments options = .ok _ :=
    Operation.prepare_of_complete (Operation.missing?_eq_none.mp rfl)
  obtain ⟨query, -, overridden, again⟩ := overrides_win_and_nothing_else_moves prepares
  have whole : operation.keptPairs arguments options ++ overridePairs options.overrides =
      [("page", "2"), ("tags", "z"), ("debug", "true"), ("tags", "y")] := by
    decide +kernel
  refine ⟨_, prepares, query.trans whole, (overridden "tags" (by decide)).trans ?_,
    (overridden "limit" (by decide)).trans ?_, again⟩
  · decide +kernel
  · decide +kernel

end ServiceCatalog
