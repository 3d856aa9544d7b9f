import Mathlib.Data.List.Nodup
import ServiceCatalog.Proofs.Request.Preparation

/-!
# The pairs of a parameter

With the arguments of a call a parameter is expanded to pairs (`Parameter.pairs`), and the query and
the form are the expansions of their parameters, one after the other
(`Operation.suppliedPairs_eq`).  Every pair carries the name of its parameter
(`Parameter.fst_of_mem_pairs`).  So to look for pairs of some names is to look for parameters of
these names (`filter_flatMap_of_keyed`), and where the parameters of a placement have different
names, the pairs of a name are those of one parameter (`Operation.mem_suppliedPairs`).

A parameter has no pairs if it has no argument, or if it repeats its pairs for the items of a list
and the list has no item other than `null` (`pairsOf_eq_nil`).
-/

namespace ServiceCatalog

set_option autoImplicit false

open ServiceCatalog.Json

/-- Where the entries of an expansion carry the key of their item, keeping entries by their keys is
keeping items by theirs. -/
theorem filter_flatMap_of_keyed {α β κ : Type} {key : α → κ} {expand : α → List (κ × β)}
    (keyed : ∀ item, ∀ entry ∈ expand item, entry.1 = key item) (keep : κ → Bool)
    (items : List α) :
    ((items.flatMap expand).filter fun entry => keep entry.1) =
      (items.filter fun item => keep (key item)).flatMap expand := by
  induction items with
  | nil => rfl
  | cons item rest ih =>
      rw [List.flatMap_cons, List.filter_append, ih, List.filter_cons]
      by_cases kept : keep (key item) = true
      · have whole : (expand item).filter (fun entry => keep entry.1) = expand item :=
          List.filter_eq_self.mpr fun entry member => by rw [keyed item entry member, kept]
        rw [whole, if_pos kept, List.flatMap_cons]
      · have nothing : (expand item).filter (fun entry => keep entry.1) = [] :=
          List.filter_eq_nil_iff.mpr fun entry member => by rwa [keyed item entry member]
        rw [nothing, if_neg kept, List.nil_append]

/-! ## The pairs of a value -/

/-- A list without an item other than `null`. -/
def Json.Value.ListsNothing : Value → Prop
  | .array items => ∀ item ∈ items, item.isNull = true
  | _ => False

/-- Every pair of a named value carries the name. -/
theorem fst_of_mem_pairsOf {name : String} {format : CollectionFormat} {value : Value}
    {pair : String × String} (member : pair ∈ pairsOf name format value) : pair.1 = name := by
  unfold pairsOf at member
  split at member
  · split at member
    · obtain ⟨item, -, rfl⟩ := List.mem_map.mp member
      rfl
    · rw [List.mem_singleton.mp member]
  · rw [List.mem_singleton.mp member]

/-- **Only a list that lists nothing has no pairs**, and only in the repeating format. -/
theorem pairsOf_eq_nil {name : String} {format : CollectionFormat} {value : Value} :
    pairsOf name format value = [] ↔ format.separator = none ∧ value.ListsNothing := by
  cases value with
  | array items =>
      cases separated : format.separator <;>
        simp [pairsOf, separated, Value.ListsNothing, List.filter_eq_nil_iff]
  | _ => simp [pairsOf, Value.ListsNothing]

/-! ## The pairs of a parameter -/

namespace Parameter

variable {arguments : Arguments} {parameter : Parameter}

/-- The pairs that a parameter is expanded to: those of its argument, if it has one. -/
def pairs (arguments : Arguments) (parameter : Parameter) : List (String × String) :=
  match arguments.get? parameter.name with
  | some value => pairsOf parameter.name parameter.collectionFormat value
  | none => []

theorem pairs_of_some {value : Value} (given : arguments.get? parameter.name = some value) :
    parameter.pairs arguments = pairsOf parameter.name parameter.collectionFormat value := by
  rw [pairs, given]

/-- A parameter with an argument has no pairs if it repeats them for a list that lists nothing. -/
theorem pairs_eq_nil {value : Value} (given : arguments.get? parameter.name = some value) :
    parameter.pairs arguments = [] ↔
      parameter.collectionFormat.separator = none ∧ value.ListsNothing := by
  rw [pairs_of_some given, pairsOf_eq_nil]

theorem fst_of_mem_pairs (parameter : Parameter) :
    ∀ pair ∈ parameter.pairs arguments, pair.1 = parameter.name := by
  intro pair member
  unfold pairs at member
  split at member
  · exact fst_of_mem_pairsOf member
  · cases member

theorem exists_mem_pairs :
    (∃ text, (parameter.name, text) ∈ parameter.pairs arguments) ↔
      parameter.pairs arguments ≠ [] := by
  constructor
  · exact fun ⟨text, pair⟩ => List.ne_nil_of_mem pair
  · intro some
    obtain ⟨⟨name, text⟩, pair⟩ := List.exists_mem_of_ne_nil _ some
    obtain rfl : name = parameter.name := parameter.fst_of_mem_pairs _ pair
    exact ⟨text, pair⟩

end Parameter

/-! ## The pairs of a placement -/

namespace Operation

variable {operation : Operation} {arguments : Arguments} {placement : Placement}

/-- The pairs of a placement are the expansions of its parameters, in declared order. -/
theorem suppliedPairs_eq :
    operation.suppliedPairs arguments placement =
      (operation.parametersIn placement).flatMap (Parameter.pairs arguments) := by
  rw [suppliedPairs, supplied]
  induction operation.parametersIn placement with
  | nil => rfl
  | cons parameter rest ih =>
      cases given : arguments.get? parameter.name with
      | none => simp [given, Parameter.pairs, ih]
      | some value => simp [given, Parameter.pairs, ih]

/-- In a placement, parameters of one name are the same. -/
theorem eq_of_mem_parametersIn (distinct : (operation.parameters.map Parameter.key).Nodup)
    {first second : Parameter} (firstIn : first ∈ operation.parametersIn placement)
    (secondIn : second ∈ operation.parametersIn placement) (named : first.name = second.name) :
    first = second := by
  obtain ⟨firstDeclared, firstPlaced⟩ := mem_parametersIn.mp firstIn
  obtain ⟨secondDeclared, secondPlaced⟩ := mem_parametersIn.mp secondIn
  exact List.inj_on_of_nodup_map distinct firstDeclared secondDeclared
    (Prod.ext named (firstPlaced.trans secondPlaced.symm))

/-- **The pairs of a name are those of the parameter of that name.** -/
theorem mem_suppliedPairs (distinct : (operation.parameters.map Parameter.key).Nodup)
    {parameter : Parameter} (member : parameter ∈ operation.parametersIn placement)
    {text : String} :
    (parameter.name, text) ∈ operation.suppliedPairs arguments placement ↔
      (parameter.name, text) ∈ parameter.pairs arguments := by
  rw [suppliedPairs_eq, List.mem_flatMap]
  constructor
  · rintro ⟨other, otherIn, pair⟩
    have named : parameter.name = other.name := other.fst_of_mem_pairs _ pair
    obtain rfl := eq_of_mem_parametersIn distinct member otherIn named
    exact pair
  · exact fun pair => ⟨parameter, member, pair⟩

/-- The payload is a form if there are form fields. -/
theorem suppliedPayload_eq_form {fields : List (String × String)} :
    operation.suppliedPayload arguments = some (.form fields) ↔
      operation.suppliedPairs arguments .formData = fields ∧ fields ≠ [] := by
  rw [suppliedPayload]
  cases supplied : operation.suppliedPairs arguments .formData with
  | nil =>
      simp only [Option.map_eq_some_iff, reduceCtorEq, and_false, exists_false, false_iff, not_and,
        not_not]
      exact Eq.symm
  | cons pair rest =>
      rw [Option.some.injEq, Payload.form.injEq]
      exact ⟨fun same => ⟨same, same ▸ List.cons_ne_nil pair rest⟩, And.left⟩

/-- **The form fields of a name are the pairs of the parameter of that name.** -/
theorem exists_mem_form (distinct : (operation.parameters.map Parameter.key).Nodup)
    {parameter : Parameter} (member : parameter ∈ operation.parametersIn .formData)
    {text : String} :
    (∃ fields, operation.suppliedPayload arguments = some (.form fields) ∧
        (parameter.name, text) ∈ fields) ↔
      (parameter.name, text) ∈ parameter.pairs arguments := by
  rw [← mem_suppliedPairs distinct member]
  constructor
  · rintro ⟨fields, form, pair⟩
    obtain ⟨rfl, -⟩ := suppliedPayload_eq_form.mp form
    exact pair
  · exact fun pair => ⟨_, suppliedPayload_eq_form.mpr ⟨rfl, List.ne_nil_of_mem pair⟩, pair⟩

/-- Where a parameter of the body has an argument and there is no form, this is the payload. -/
theorem suppliedPayload_of_body (oneBody : (operation.parametersIn .body).length ≤ 1)
    (noForm : operation.parametersIn .formData = []) {parameter : Parameter} {value : Value}
    (member : parameter ∈ operation.parametersIn .body)
    (given : arguments.get? parameter.name = some value) :
    operation.suppliedPayload arguments = some (.json value) := by
  obtain ⟨body, only⟩ : ∃ body, operation.parametersIn .body = [body] :=
    List.length_eq_one_iff.mp (Nat.le_antisymm oneBody (List.length_pos_of_mem member))
  obtain rfl := List.mem_singleton.mp (only ▸ member)
  simp [suppliedPayload, suppliedPairs_eq, noForm, bodyParameter?, only, given]

/-- The headers are those of the parameters with an argument. -/
theorem mem_suppliedHeaders {name text : String} :
    (name, text) ∈ operation.suppliedHeaders arguments ↔
      ∃ parameter ∈ operation.parametersIn .header, parameter.name = name ∧
        ∃ value, arguments.get? name = some value ∧ value.joined listSeparator = text := by
  simp only [suppliedHeaders, supplied, List.mem_map, List.mem_filterMap, Option.map_eq_some_iff,
    Prod.exists, Prod.mk.injEq]
  constructor
  · rintro ⟨parameter, value, ⟨_, member, _, given, rfl, rfl⟩, rfl, written⟩
    exact ⟨_, member, rfl, _, given, written⟩
  · rintro ⟨parameter, member, rfl, value, given, written⟩
    exact ⟨_, _, ⟨_, member, _, given, rfl, rfl⟩, rfl, written⟩

end Operation

end ServiceCatalog
