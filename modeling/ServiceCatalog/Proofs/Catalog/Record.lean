import ServiceCatalog.Catalog.Record
import ServiceCatalog.Proofs.Json.RoundTrip
import ServiceCatalog.Proofs.Success

/-!
# Catalogs are read back from their records

Reading a catalog is the inverse of writing it, part by part: what is written for a text, a name, a
kind of value, a parameter, an operation is read back as what it was written for (`Inverts`), and a
record is read back because its members name the fields in their order (`readMembers_of`).  Nothing
is checked on the way, so this holds of every catalog, consistent or not, and of kinds of lists of
lists of any depth.

The text of a record is another matter, since texts are read to a certain nesting only.  Every level
of lists in a kind is an object inside another one, so the text gives the catalog back exactly if no
kind has more levels than are left (`catalog_texts_are_read_back`).
-/

namespace ServiceCatalog

set_option autoImplicit false

open ServiceCatalog.Json

/-! ## Reading what is written -/

section Inverts

variable {α ρ : Type}

/-- A decoder reads back what is written for a thing. -/
def Inverts (decoder : Decoder α) (write : α → Value) : Prop :=
  ∀ thing, decoder (write thing) = .ok thing

theorem inverts_text : Inverts text .string := fun _ => rfl

theorem inverts_boolean : Inverts boolean .bool := fun _ => rfl

theorem inverts_optionalText : Inverts (optional text) optionalText := by
  rintro (_ | text) <;> rfl

theorem Inverts.listOf {decoder : Decoder α} {write : α → Value} (inverts : Inverts decoder write) :
    Inverts (listOf decoder) fun things => .array (things.map write) := by
  intro things
  rw [Json.listOf, mapM_eq_ok, List.forall₂_map_left_iff]
  exact List.forall₂_same.mpr fun thing _ => inverts thing

/-- A member that names a field is read into it. -/
theorem readMembers_of {fields : List (RecordField ρ)} {name : String} {absence : Absence}
    {decoder : Decoder α} {place : α → ρ → ρ} {value : Value} {read : α} {record : ρ}
    {members : List (String × Value)}
    (known : (fields.find? fun field => field.name == name) =
      some (.of name absence decoder place))
    (decoded : decoder value = .ok read) :
    readMembers fields ((name, value) :: members) record =
      readMembers fields members (place read record) := by
  simp only [readMembers, known, RecordField.of, decoded]
  rfl

/-- An object that names all fields is read as its members are. -/
theorem record_of_complete {fields : List (RecordField ρ)} {name : String} {blank : ρ}
    {members : List (String × Value)} {result : ρ}
    (complete : firstMissing fields members = none)
    (read : readMembers fields members blank = .ok result) :
    record name fields blank (.object members) = .ok result := by
  simp only [record, read, complete]
  rfl

end Inverts

/-! ## The parts of a catalog -/

theorem inverts_verb : Inverts (oneOf Verb.names) fun verb => .string verb.lower := by
  rintro (_ | _ | _ | _ | _ | _ | _) <;> rfl

theorem inverts_placement :
    Inverts (oneOf Placement.names) fun placement => .string placement.name := by
  rintro (_ | _ | _ | _ | _) <;> rfl

theorem inverts_collectionFormat :
    Inverts (oneOf CollectionFormat.names) fun format => .string format.name := by
  rintro (_ | _ | _ | _ | _) <;> rfl

theorem inverts_valueKind : Inverts ValueKind.decoder ValueKind.toValue := by
  intro kind
  induction kind with
  | array item ih =>
      rw [ValueKind.toValue, ValueKind.decoder, if_pos rfl, ih]
      rfl
  | string | integer | number | boolean | json => rfl

theorem inverts_parameter : Inverts Parameter.decoder Parameter.toValue := by
  intro parameter
  refine record_of_complete rfl ?_
  rw [readMembers_of rfl (inverts_text _), readMembers_of rfl (inverts_placement _),
    readMembers_of rfl (inverts_boolean _), readMembers_of rfl (inverts_valueKind _),
    readMembers_of rfl (inverts_collectionFormat _), readMembers_of rfl (inverts_optionalText _)]
  rfl

theorem inverts_operation : Inverts Operation.decoder Operation.toValue := by
  intro operation
  refine record_of_complete rfl ?_
  rw [readMembers_of rfl (inverts_text _), readMembers_of rfl (inverts_verb _),
    readMembers_of rfl (inverts_text _), readMembers_of rfl (inverts_parameter.listOf _),
    readMembers_of rfl (inverts_boolean _), readMembers_of rfl (inverts_optionalText _),
    readMembers_of rfl (inverts_optionalText _), readMembers_of rfl (inverts_boolean _)]
  rfl

theorem inverts_catalog : Inverts Catalog.decoder Catalog.toValue := by
  intro catalog
  refine record_of_complete rfl ?_
  rw [readMembers_of rfl (inverts_text _), readMembers_of rfl (inverts_optionalText _),
    readMembers_of rfl (inverts_optionalText _), readMembers_of rfl (inverts_optionalText _),
    readMembers_of rfl (inverts_operation.listOf _)]
  rfl

/-! ## The values that are written -/

/-- A property of values that arrays, and objects of different names, take over from their parts,
and that all values without parts but numbers have. -/
structure KeptByWriting (holds : Value → Prop) : Prop where
  null : holds .null
  bool : ∀ flag, holds (.bool flag)
  string : ∀ text, holds (.string text)
  array : ∀ {items}, (∀ item ∈ items, holds item) → holds (.array items)
  object : ∀ {members}, (members.map Prod.fst).Nodup → (∀ member ∈ members, holds member.2) →
    holds (.object members)

namespace KeptByWriting

variable {holds : Value → Prop} (kept : KeptByWriting holds)

include kept

theorem optionalText (text : Option String) : holds (optionalText text) := by
  cases text with
  | none => exact kept.null
  | some text => exact kept.string text

theorem valueKind (kind : ValueKind) : holds kind.toValue := by
  induction kind with
  | array item ih => exact kept.object (by simp) (by simpa using ih)
  | string | integer | number | boolean | json => exact kept.string _

theorem parameter (parameter : Parameter) : holds parameter.toValue := by
  refine kept.object (by simp) ?_
  simp [kept.string, kept.bool, kept.valueKind, kept.optionalText]

theorem operation (operation : Operation) : holds operation.toValue := by
  have parameters : holds (.array (operation.parameters.map Parameter.toValue)) :=
    kept.array (by simpa using fun parameter _ => kept.parameter parameter)
  refine kept.object (by simp) ?_
  simp [kept.string, kept.bool, kept.optionalText, parameters]

theorem catalog (catalog : Catalog) : holds catalog.toValue := by
  have operations : holds (.array (catalog.operations.map Operation.toValue)) :=
    kept.array (by simpa using fun operation _ => kept.operation operation)
  refine kept.object (by simp) ?_
  simp [kept.string, kept.optionalText, operations]

end KeptByWriting

theorem keptByWriting_namesDistinct : KeptByWriting Value.NamesDistinct :=
  ⟨.null, .bool, .string, .array, .object⟩

theorem keptByWriting_numbersWhole : KeptByWriting Value.NumbersWhole :=
  ⟨.null, .bool, .string, .array, fun _ => .object⟩

/-! ## Nesting -/

/-- How many lists a kind of value has inside one another. -/
def ValueKind.levels : ValueKind → Nat
  | .array item => item.levels + 1
  | _ => 0

theorem nestedWithin_valueKind {kind : ValueKind} {depth : Nat} :
    kind.toValue.NestedWithin depth ↔ kind.levels ≤ depth := by
  induction kind generalizing depth with
  | array item ih =>
      cases depth with
      | zero => simp [ValueKind.toValue, ValueKind.levels, Value.not_nestedWithin_zero_object]
      | succ depth => simp [ValueKind.toValue, ValueKind.levels, Value.nestedWithin_object, ih]
  | string | integer | number | boolean | json =>
      simp [ValueKind.toValue, ValueKind.levels, Value.NestedWithin.string]

theorem nestedWithin_optionalText (text : Option String) (depth : Nat) :
    (optionalText text).NestedWithin depth := by
  cases text with
  | none => exact .null depth
  | some text => exact .string depth text

theorem nestedWithin_parameter {parameter : Parameter} {depth : Nat} :
    parameter.toValue.NestedWithin (depth + 1) ↔ parameter.kind.levels ≤ depth := by
  simp [Parameter.toValue, Value.nestedWithin_object, Value.NestedWithin.string,
    Value.NestedWithin.bool, nestedWithin_valueKind, nestedWithin_optionalText]

theorem nestedWithin_operation {operation : Operation} {depth : Nat} :
    operation.toValue.NestedWithin (depth + 3) ↔
      ∀ parameter ∈ operation.parameters, parameter.kind.levels ≤ depth := by
  simp [Operation.toValue, Value.nestedWithin_object, Value.nestedWithin_array,
    Value.NestedWithin.string, Value.NestedWithin.bool, nestedWithin_parameter,
    nestedWithin_optionalText]

theorem nestedWithin_catalog {catalog : Catalog} {depth : Nat} :
    catalog.toValue.NestedWithin (depth + 5) ↔ ∀ operation ∈ catalog.operations,
      ∀ parameter ∈ operation.parameters, parameter.kind.levels ≤ depth := by
  simp [Catalog.toValue, Value.nestedWithin_object, Value.nestedWithin_array,
    Value.NestedWithin.string, nestedWithin_operation, nestedWithin_optionalText]

/-- The text of a record gives the record back exactly if the lists in the kinds of the parameters
and the five arrays and objects around a kind are nested no deeper than texts are read. -/
theorem parse?_compact_toValue_eq_some_iff (catalog : Catalog) :
    parse? catalog.toValue.compact = some catalog.toValue ↔
      ∀ operation ∈ catalog.operations, ∀ parameter ∈ operation.parameters,
        parameter.kind.levels + 5 ≤ deepestNesting := by
  rw [parse?_compact_eq_some_iff (keptByWriting_namesDistinct.catalog catalog)
    (keptByWriting_numbersWhole.catalog catalog)]
  have depth : deepestNesting = 122 + 5 := rfl
  rw [depth, nestedWithin_catalog]
  simp only [Nat.add_le_add_iff_right]

/-- **Texts of catalogs are read back**, to the catalog, exactly if they give their record back:
nothing else is read from them. -/
theorem catalog_texts_are_read_back (catalog : Catalog) :
    (parse? catalog.toValue.compact).map Catalog.decoder = some (.ok catalog) ↔
      ∀ operation ∈ catalog.operations, ∀ parameter ∈ operation.parameters,
        parameter.kind.levels + 5 ≤ deepestNesting := by
  rw [← parse?_compact_toValue_eq_some_iff]
  constructor
  · intro readBack
    obtain ⟨found, read, -⟩ := Option.map_eq_some_iff.mp readBack
    obtain rfl := eq_of_parse?_compact (keptByWriting_namesDistinct.catalog catalog)
      (keptByWriting_numbersWhole.catalog catalog) read
    exact read
  · intro read
    rw [read, Option.map_some, inverts_catalog]

/-- **Catalogs are read back.**  Every catalog is read back from its record.  The text of the record
gives the record back, and with it the catalog, exactly if the lists in the kinds of its parameters
and the five arrays and objects around a kind are nested no deeper than texts are read. -/
theorem catalogs_are_read_back (catalog : Catalog) :
    Catalog.decoder catalog.toValue = .ok catalog ∧
      (parse? catalog.toValue.compact = some catalog.toValue ↔
        ∀ operation ∈ catalog.operations, ∀ parameter ∈ operation.parameters,
          parameter.kind.levels + 5 ≤ deepestNesting) ∧
      ((parse? catalog.toValue.compact).map Catalog.decoder = some (.ok catalog) ↔
        ∀ operation ∈ catalog.operations, ∀ parameter ∈ operation.parameters,
          parameter.kind.levels + 5 ≤ deepestNesting) :=
  ⟨inverts_catalog catalog, parse?_compact_toValue_eq_some_iff catalog,
    catalog_texts_are_read_back catalog⟩

end ServiceCatalog
