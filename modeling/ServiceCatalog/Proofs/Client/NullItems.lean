import Mathlib.Algebra.Order.BigOperators.Group.List
import Mathlib.Algebra.Order.Ring.Nat
import ServiceCatalog.Proofs.Client.Required

/-!
# Items that are `null`

An argument that is `null` counts as absent.  An item of a list that is `null` does so in one of
the ways in which lists are written: where pairs repeat, it has no pair, and the list might as well
be given without it (`pairsOf_withoutNullItems`).  Where items are joined, in the path, in headers
and in the formats with a separator, it is written like any other item, as the text `null`, and the
joined text is longer than it would be without it (`length_joined_withoutNullItems_lt`).

So leaving the `null` items out of an argument leaves a request as it is exactly if there are none,
or if all parameters of its name repeat their pairs or are overridden
(`null_items_are_left_out_where_pairs_repeat`).
-/

namespace ServiceCatalog

set_option autoImplicit false

open ServiceCatalog.Json

/-! ## Lists without their `null` items -/

namespace Json.Value

/-- A list without the items that are `null`; any other value as it is. -/
def withoutNullItems : Value → Value
  | .array items => .array (items.filter fun item => !item.isNull)
  | value => value

/-- A list with an item that is `null`. -/
def HasNullItem : Value → Prop
  | .array items => .null ∈ items
  | _ => False

theorem isNull_eq_true {value : Value} : value.isNull = true ↔ value = .null := by
  cases value <;> simp [isNull]

@[simp] theorem isNull_withoutNullItems (value : Value) :
    value.withoutNullItems.isNull = value.isNull := by
  cases value <;> rfl

theorem withoutNullItems_of_not {value : Value} (none : ¬ value.HasNullItem) :
    value.withoutNullItems = value := by
  cases value with
  | array items =>
      rw [withoutNullItems, List.filter_eq_self.mpr]
      intro item member
      rw [Bool.not_eq_true', ← Bool.not_eq_true, isNull_eq_true]
      rintro rfl
      exact none member
  | _ => rfl

end Json.Value

/-- **Where pairs repeat, `null` items have no part.** -/
theorem pairsOf_withoutNullItems {name : String} {format : CollectionFormat}
    (repeats : format.separator = none) (value : Value) :
    pairsOf name format value.withoutNullItems = pairsOf name format value := by
  cases value with
  | array items => simp [Value.withoutNullItems, pairsOf, repeats, List.filter_filter]
  | _ => rfl

/-! ## Lengths of joined texts -/

/-- Every text but the last one brings a separator. -/
theorem length_intercalate (separator : String) (texts : List String) :
    (separator.intercalate texts).length =
      (texts.map fun text => text.length + separator.length).sum - separator.length := by
  induction texts with
  | nil => simp
  | cons text rest ih =>
      cases rest with
      | nil => simp
      | cons next rest =>
          rw [String.intercalate_cons_cons, String.length_append, String.length_append, ih]
          simp only [List.map_cons, List.sum_cons]
          omega

/-- **Where items are joined, `null` items make the text longer.** -/
theorem length_joined_withoutNullItems_lt {value : Value} (null : value.HasNullItem)
    (separator : String) :
    (value.withoutNullItems.joined separator).length < (value.joined separator).length := by
  cases value with
  | array items =>
      obtain ⟨before, after, rfl⟩ := List.append_of_mem null
      have shrinks (some : List Value) :
          (((some.filter fun item => !item.isNull).map Value.asText).map fun text =>
              text.length + separator.length).sum ≤
            ((some.map Value.asText).map fun text => text.length + separator.length).sum :=
        ((List.filter_sublist.map _).map _).sum_le_sum fun _ _ => Nat.zero_le _
      have dropped : ((before ++ .null :: after).filter fun item : Value => !item.isNull) =
          (before.filter fun item => !item.isNull) ++ after.filter fun item => !item.isNull := by
        simp [Value.isNull]
      have written : (Value.asText .null).length = 4 := rfl
      rw [Value.withoutNullItems, Value.joined, Value.joined, length_intercalate,
        length_intercalate, dropped]
      simp only [List.map_append, List.sum_append, List.map_cons, List.sum_cons]
      have front := shrinks before
      have back := shrinks after
      omega
  | _ => exact null.elim

namespace Template

/-- A longer value for a name of a template makes what is filled in longer. -/
theorem length_fill_lt {template name short long : String} {values others : List (String × String)}
    (isName : name ∈ names template)
    (same : ∀ other, other ≠ name → values.lookup other = others.lookup other)
    (given : values.lookup name = some short) (givenLonger : others.lookup name = some long)
    (shorter : short.length < long.length) :
    (fill template values).length < (fill template others).length := by
  have filled (other : List Char) (entries : List (String × String)) :
      (Piece.placeholder other).filled (characters entries) =
        ((entries.lookup (String.ofList other)).map String.toList).getD
          (Piece.placeholder other).written := by
    rw [← lookup_characters, String.toList_ofList, Piece.filled_placeholder]
  have replaced : ((Piece.placeholder name.toList).filled (characters values)).length <
      ((Piece.placeholder name.toList).filled (characters others)).length := by
    simpa [filled, given, givenLonger, String.length_toList] using shorter
  have unshortened : ∀ piece ∈ pieces template.toList,
      (piece.filled (characters values)).length ≤ (piece.filled (characters others)).length := by
    rintro (character | other) -
    · exact Nat.le_refl _
    · by_cases here : other = name.toList
      · exact here ▸ Nat.le_of_lt replaced
      · have elsewhere : String.ofList other ≠ name := fun spelled =>
          here (by rw [← spelled, String.toList_ofList])
        rw [filled, filled, same _ elsewhere]
  have length (entries : List (String × String)) : (fill template entries).length =
      ((pieces template.toList).map fun piece =>
        (piece.filled (characters entries)).length).sum := by
    rw [fill, String.length_ofList, fillChars_eq, List.length_flatMap]
    rfl
  rw [length, length]
  exact List.sum_lt_sum _ _ unshortened ⟨_, (mem_names.mp isName).2, replaced⟩

end Template

/-! ## Arguments without their `null` items -/

/-- The second bag is the first one, but for the `null` items of one argument. -/
structure Arguments.LosesNullItems (name : String) (value : Value) (arguments others : Arguments) :
    Prop where
  given : arguments.get? name = some value
  lost : others.get? name = some value.withoutNullItems
  same : ∀ other, other ≠ name → others.get? other = arguments.get? other

theorem Arguments.losesNullItems_insert {arguments : Arguments} {name : String} {value : Value}
    (given : arguments.get? name = some value) :
    LosesNullItems name value arguments (arguments.insert name value.withoutNullItems) where
  given := given
  lost := get?_insert_self (by rw [Value.isNull_withoutNullItems, isNull_of_get? given])
  same _ different := get?_insert_of_ne different _

/-- `null` items of an argument for the parameter do not matter: it repeats its pairs, or it is one
of the query and overridden anyway. -/
def Parameter.LeavesOutNulls (options : CallOptions) (parameter : Parameter) : Prop :=
  match parameter.placement with
  | .query => parameter.collectionFormat.separator = none ∨ parameter.name ∈ options.overridden
  | .formData => parameter.collectionFormat.separator = none
  | _ => False

namespace Arguments.LosesNullItems

variable {operation : Operation} {baseUrl name : String} {arguments others : Arguments}
  {options : CallOptions} {parameter : Parameter} {value : Value}

theorem contains_eq (loses : LosesNullItems name value arguments others) (other : String) :
    others.contains other = arguments.contains other := by
  by_cases here : other = name
  · rw [here, Arguments.contains, Arguments.contains, loses.given, loses.lost]
    rfl
  · rw [Arguments.contains, Arguments.contains, loses.same other here]

/-- Without `null` items both bags give the same. -/
theorem get?_eq (loses : LosesNullItems name value arguments others) (none : ¬ value.HasNullItem)
    (other : String) : others.get? other = arguments.get? other := by
  by_cases here : other = name
  · rw [here, loses.given, loses.lost, Value.withoutNullItems_of_not none]
  · exact loses.same other here

theorem pairs_eq (loses : LosesNullItems name value arguments others)
    (repeats : parameter.name = name → parameter.collectionFormat.separator = none) :
    parameter.pairs others = parameter.pairs arguments := by
  by_cases here : parameter.name = name
  · rw [Parameter.pairs_of_some (here ▸ loses.lost), Parameter.pairs_of_some (here ▸ loses.given),
      pairsOf_withoutNullItems (repeats here)]
  · rw [Parameter.pairs, Parameter.pairs, loses.same _ here]

/-- A parameter that joins items has a pair that it does not have without the `null` items. -/
theorem exists_lost_pair (loses : LosesNullItems name value arguments others)
    (null : value.HasNullItem) (named : parameter.name = name)
    (joins : parameter.collectionFormat.separator ≠ none) :
    ∃ text, (parameter.name, text) ∈ parameter.pairs arguments ∧
      (parameter.name, text) ∉ parameter.pairs others := by
  obtain ⟨separator, separated⟩ := Option.ne_none_iff_exists'.mp joins
  have shorter := length_joined_withoutNullItems_lt null separator
  rw [Parameter.pairs_of_some (named ▸ loses.given), Parameter.pairs_of_some (named ▸ loses.lost)]
  cases value with
  | array items =>
      refine ⟨(Value.array items).joined separator, by simp [pairsOf, separated], fun member => ?_⟩
      simp only [Value.withoutNullItems, pairsOf, separated, List.mem_singleton, Prod.mk.injEq,
        true_and] at member
      exact absurd (congrArg String.length member).symm (Nat.ne_of_lt shorter)
  | _ => exact null.elim

/-! ## Requests without `null` items -/

/-- **If all parameters of the name leave `null` items out, the requests are the same.** -/
theorem request_eq (loses : LosesNullItems name value arguments others)
    (leaves : ∀ parameter ∈ operation.parameters, parameter.name = name →
      parameter.LeavesOutNulls options) :
    operation.request baseUrl others options = operation.request baseUrl arguments options := by
  have supply (placement : Placement) (query : placement ≠ .query) (form : placement ≠ .formData) :
      operation.SameSupply placement others arguments := by
    intro parameter member
    obtain ⟨declared, rfl⟩ := Operation.mem_parametersIn.mp member
    refine loses.same _ fun named => ?_
    have left := leaves parameter declared named
    unfold Parameter.LeavesOutNulls at left
    split at left <;> contradiction
  have kept : operation.keptPairs others options = operation.keptPairs arguments options := by
    refine List.flatMap_congr fun parameter member => loses.pairs_eq fun named => ?_
    obtain ⟨isQuery, unmoved⟩ := List.mem_filter.mp member
    obtain ⟨declared, placed⟩ := Operation.mem_parametersIn.mp isQuery
    have left := leaves parameter declared named
    simp only [Parameter.LeavesOutNulls, placed] at left
    exact left.resolve_right (of_decide_eq_true unmoved)
  have form : operation.suppliedPairs others .formData =
      operation.suppliedPairs arguments .formData := by
    rw [Operation.suppliedPairs_eq, Operation.suppliedPairs_eq]
    refine List.flatMap_congr fun parameter member => loses.pairs_eq fun named => ?_
    obtain ⟨declared, placed⟩ := Operation.mem_parametersIn.mp member
    have left := leaves parameter declared named
    simpa only [Parameter.LeavesOutNulls, placed] using left
  have query : (operation.request baseUrl others options).query =
      (operation.request baseUrl arguments options).query := by
    rw [Operation.query_request, Operation.query_request, kept]
  simp only [Operation.request] at query ⊢
  rw [query, Operation.filledPath_congr (supply .path (by decide) (by decide)),
    Operation.suppliedHeaders_congr (supply .header (by decide) (by decide)),
    Operation.suppliedPayload_congr (supply .body (by decide) (by decide)) form]

/-- **If the requests are the same although there are `null` items, all parameters of the name leave
them out.** -/
theorem leavesOutNulls (loses : LosesNullItems name value arguments others)
    (null : value.HasNullItem) (consistent : operation.Consistent)
    (same : operation.request baseUrl others options = operation.request baseUrl arguments options)
    (declared : parameter ∈ operation.parameters) (named : parameter.name = name) :
    parameter.LeavesOutNulls options := by
  have member : parameter ∈ operation.parametersIn parameter.placement :=
    Operation.mem_parametersIn.mpr ⟨declared, rfl⟩
  have given : arguments.get? parameter.name = some value := named ▸ loses.given
  have lost : others.get? parameter.name = some value.withoutNullItems := named ▸ loses.lost
  have shorter := length_joined_withoutNullItems_lt null listSeparator
  cases placed : parameter.placement with
  | path =>
      -- What is filled in for the placeholder is longer with the `null` items.
      have isPath : parameter.name ∈ operation.pathNames := List.mem_map_of_mem (placed ▸ member)
      have paths : operation.filledPath others = operation.filledPath arguments :=
        (String.append_right_inj baseUrl).mp (congrArg Request.url same)
      have elsewhere : ∀ other, other ≠ parameter.name →
          (operation.pathValues others).lookup other =
            (operation.pathValues arguments).lookup other := by
        intro other different
        rw [Operation.lookup_pathValues, Operation.lookup_pathValues,
          loses.same other (named ▸ different)]
      have longer : (operation.filledPath others).length <
          (operation.filledPath arguments).length :=
        Template.length_fill_lt (Template.mem_names_iff.mpr (consistent.used _ isPath)) elsewhere
          (Operation.lookup_pathValues_of_some (placed ▸ member) lost)
          (Operation.lookup_pathValues_of_some (placed ▸ member) given) shorter
      exact absurd (congrArg String.length paths) (Nat.ne_of_lt longer)
  | query =>
      simp only [Parameter.LeavesOutNulls, placed]
      by_contra moved
      rw [not_or] at moved
      obtain ⟨text, pair, lostPair⟩ := loses.exists_lost_pair null named moved.1
      rw [← Operation.mem_query_request consistent.distinct (placed ▸ member) moved.2]
        at pair lostPair
      exact lostPair (same ▸ pair)
  | header =>
      have written : (parameter.name, value.joined listSeparator) ∈
          operation.suppliedHeaders arguments :=
        Operation.mem_suppliedHeaders.mpr ⟨parameter, placed ▸ member, rfl, value, given, rfl⟩
      have headers : operation.suppliedHeaders others = operation.suppliedHeaders arguments :=
        congrArg Request.headers same
      obtain ⟨-, -, -, held, isHeld, text⟩ := Operation.mem_suppliedHeaders.mp (headers ▸ written)
      obtain rfl := Option.some.inj (lost.symm.trans isHeld)
      exact absurd (congrArg String.length text) (Nat.ne_of_lt shorter)
  | body =>
      have payloads : operation.suppliedPayload others = operation.suppliedPayload arguments :=
        congrArg Request.payload same
      rw [consistent.suppliedPayload_eq_json (placed ▸ member) lost,
        consistent.suppliedPayload_eq_json (placed ▸ member) given, Option.some.injEq,
        Payload.json.injEq] at payloads
      rw [payloads] at shorter
      exact absurd shorter (Nat.lt_irrefl _)
  | formData =>
      simp only [Parameter.LeavesOutNulls, placed]
      by_contra joins
      obtain ⟨text, pair, lostPair⟩ := loses.exists_lost_pair null named joins
      rw [← Operation.exists_mem_form consistent.distinct (placed ▸ member)] at pair lostPair
      have payloads : operation.suppliedPayload others = operation.suppliedPayload arguments :=
        congrArg Request.payload same
      exact lostPair (payloads ▸ pair)

end Arguments.LosesNullItems

/-- **`null` items are left out where pairs repeat.**  Let an operation be bound, and let a bag hold
an argument.  Without the `null` items of the argument a call is prepared to the same exactly if it
cannot be prepared anyway, or if the argument has no `null` items, or if every parameter of its name
leaves them out: it is one of the query or of the form and repeats its pairs, or it is one of the
query and overridden. -/
theorem null_items_are_left_out_where_pairs_repeat {operation : Operation} {baseUrl : String}
    {binding : Binding} (bound : Binding.bind operation baseUrl = .ok binding)
    {arguments : Arguments} {name : String} {value : Value}
    (given : arguments.get? name = some value) (options : CallOptions) :
    binding.prepare (arguments.insert name value.withoutNullItems) options =
        binding.prepare arguments options ↔
      ¬ operation.Complete arguments ∨ ¬ value.HasNullItem ∨
        ∀ parameter ∈ operation.parameters, parameter.name = name →
          parameter.LeavesOutNulls options := by
  have consistent := Operation.consistent_of_bind bound
  have loses := Arguments.losesNullItems_insert given
  obtain ⟨-, rfl⟩ := Binding.bind_eq_ok.mp bound
  let others := arguments.insert name value.withoutNullItems
  have prepares : operation.prepare baseUrl others options =
        operation.prepare baseUrl arguments options ↔
      (operation.Complete arguments → operation.request baseUrl others options =
        operation.request baseUrl arguments options) :=
    Operation.prepare_eq_prepare_iff fun parameter _ => loses.contains_eq parameter.name
  constructor
  · intro same
    by_cases complete : operation.Complete arguments
    · by_cases null : value.HasNullItem
      · exact .inr (.inr fun parameter declared named =>
          loses.leavesOutNulls null consistent (prepares.mp same complete) declared named)
      · exact .inr (.inl null)
    · exact .inl complete
  · rintro (incomplete | none | leaves)
    · exact prepares.mpr fun complete => absurd complete incomplete
    · exact Operation.prepare_congr fun parameter _ => loses.get?_eq none parameter.name
    · exact prepares.mpr fun _ => loses.request_eq leaves

/-- Showing items of a shelf: the shelf in the path and as a header, and the wanted items in the
query, where they repeat, are joined by commas, or are overridden. -/
def shelfOperation : Operation :=
  .declare "showItems" .get "/shelves/\x7bshelf\x7d"
    [.declare "shelf" .path, .declare "shelf" .header, .declare "tags" .query,
      (Parameter.declare "ids" .query).withCollectionFormat .csv]

/-- The operation can be bound. -/
theorem bind_shelfOperation :
    Binding.bind shelfOperation "http://items.test" =
      .ok ⟨shelfOperation, "http://items.test", none⟩ :=
  Binding.bind_eq_ok.mpr ⟨by decide +kernel, rfl⟩

/-- A bag that gives the operation lists with a `null` item. -/
def shelfArguments : Arguments :=
  ⟨[("shelf", .array [.string "b", .null]), ("tags", .array [.null, .string "red"]),
    ("ids", .array [.string "a", .null, .string "b"])]⟩

/-- Tags repeat, and so one that is `null` is left out. -/
theorem tags_leave_null_items_out :
    shelfArguments.get? "tags" = some (.array [.null, .string "red"]) ∧
      shelfOperation.prepare "http://items.test"
          (shelfArguments.insert "tags" (.array [.string "red"])) CallOptions.none =
        shelfOperation.prepare "http://items.test" shelfArguments CallOptions.none := by
  have given : shelfArguments.get? "tags" = some (.array [.null, .string "red"]) := rfl
  refine ⟨given, (null_items_are_left_out_where_pairs_repeat bind_shelfOperation given
    CallOptions.none).mpr (.inr (.inr fun parameter declared named => ?_))⟩
  simp only [shelfOperation, Operation.declare, List.mem_cons, List.not_mem_nil, or_false]
    at declared
  obtain rfl | rfl | rfl | rfl := declared
  · exact absurd named (by decide)
  · exact absurd named (by decide)
  · exact .inl rfl
  · exact absurd named (by decide)

/-- **Joined lists write `null` items.**  They are in the path, in a header, and in the query where
items are joined, and the request is another one without them. -/
theorem joined_lists_write_null_items :
    let lists := [("shelf", [Value.string "b", .null]), ("ids", [.string "a", .null, .string "b"])]
    Binding.bind shelfOperation "http://items.test" =
        .ok ⟨shelfOperation, "http://items.test", none⟩ ∧
      (∀ parameter ∈ shelfOperation.parameters, parameter.placement ≠ .body) ∧
      ∃ prepared,
        shelfOperation.prepare "http://items.test" shelfArguments CallOptions.none =
          .ok prepared ∧
        prepared.request.url = "http://items.test/shelves/b,null" ∧
        prepared.request.headers = [("shelf", "b,null")] ∧
        prepared.request.query = [("tags", "red"), ("ids", "a,null,b")] ∧
        ∀ entry ∈ lists, shelfArguments.get? entry.1 = some (.array entry.2) ∧
          shelfOperation.prepare "http://items.test"
              (shelfArguments.insert entry.1 (.array (entry.2.filter fun item => !item.isNull)))
              CallOptions.none ≠
            .ok prepared := by
  intro lists
  have prepares (arguments : Arguments)
      (complete : shelfOperation.missing? arguments = none) :
      shelfOperation.prepare "http://items.test" arguments CallOptions.none = .ok _ :=
    Operation.prepare_of_complete (Operation.missing?_eq_none.mp complete)
  refine ⟨bind_shelfOperation, by decide, _, prepares _ rfl, rfl, rfl, rfl, ?_⟩
  intro entry member
  simp only [lists, List.mem_cons, List.not_mem_nil, or_false] at member
  obtain rfl | rfl := member
  · refine ⟨rfl, fun same => ?_⟩
    rw [prepares _ rfl, Except.ok.injEq, PreparedCall.mk.injEq] at same
    have urls : "http://items.test/shelves/b" = "http://items.test/shelves/b,null" :=
      congrArg Request.url same.1
    exact absurd urls (by decide)
  · refine ⟨rfl, fun same => ?_⟩
    rw [prepares _ rfl, Except.ok.injEq, PreparedCall.mk.injEq] at same
    have queries : [("tags", "red"), ("ids", "a,b")] = [("tags", "red"), ("ids", "a,null,b")] :=
      congrArg Request.query same.1
    exact absurd queries (by decide)

end ServiceCatalog
