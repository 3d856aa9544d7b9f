import ServiceCatalog.Association
import ServiceCatalog.Json.Parser

/-!
# Objects in which no name occurs twice

The members of an object are a list, but an object gives every name one value.  A value has
distinct names if in none of its objects, however deep, a name occurs twice
(`Value.NamesDistinct`).

Every value that is read from a text is of this sort (`namesDistinct_of_parse?`): the reader joins
the members of an object by assignments, so a name that is written twice keeps its last value.  The
argument works for any property that arrays and objects take over from their parts
(`KeptByReading`, `holds_of_parse?`).
-/

namespace ServiceCatalog.Json

set_option autoImplicit false

/-- In none of the objects of a value does a name occur twice. -/
inductive Value.NamesDistinct : Value → Prop where
  | null : NamesDistinct .null
  | bool (flag : Bool) : NamesDistinct (.bool flag)
  | number (number : Number) : NamesDistinct (.number number)
  | string (text : String) : NamesDistinct (.string text)
  | array {items : List Value} (each : ∀ item ∈ items, NamesDistinct item) :
      NamesDistinct (.array items)
  | object {members : List (String × Value)} (distinct : (members.map Prod.fst).Nodup)
      (each : ∀ member ∈ members, NamesDistinct member.2) : NamesDistinct (.object members)

namespace Value

theorem namesDistinct_array {items : List Value} :
    (Value.array items).NamesDistinct ↔ ∀ item ∈ items, item.NamesDistinct := by
  constructor
  · rintro (_ | _ | _ | _ | each | _)
    exact each
  · exact .array

theorem namesDistinct_object {members : List (String × Value)} :
    (Value.object members).NamesDistinct ↔
      (members.map Prod.fst).Nodup ∧ ∀ member ∈ members, member.2.NamesDistinct := by
  constructor
  · rintro (_ | _ | _ | _ | _ | ⟨distinct, each⟩)
    exact ⟨distinct, each⟩
  · rintro ⟨distinct, each⟩
    exact .object distinct each

/-- The value of a member has distinct names if the object has. -/
theorem NamesDistinct.member {value found : Value} {name : String} (distinct : value.NamesDistinct)
    (holds : value.member? name = some found) : found.NamesDistinct := by
  cases value with
  | object members =>
      obtain ⟨-, each⟩ := namesDistinct_object.mp distinct
      exact each (name, found) (mem_of_lookup_eq_some holds)
  | null | bool | number | string | array => cases holds

/-- However names repeat in a sequence of members, the object of it names each of them once. -/
theorem namesDistinct_ofMembers {members : List (String × Value)}
    (each : ∀ member ∈ members, member.2.NamesDistinct) :
    (Value.ofMembers members).NamesDistinct := by
  refine .object (nodup_assignAll members) fun member there => ?_
  obtain ⟨assigned, listed, same⟩ := mem_of_mem_assignAll there
  exact same ▸ each assigned listed

end Value

/-! ## Values that are read from a text -/

/-- What is read as a number is a number. -/
theorem exists_number_of_readNumber? {characters rest : List Char} {value : Value}
    (read : readNumber? characters = some (value, rest)) : ∃ number, value = .number number := by
  have unsigned : ∀ {negative : Bool} {characters : List Char},
      readUnsigned? negative characters = some (value, rest) → ∃ number, value = .number number := by
    intro negative characters read
    simp only [readUnsigned?, Option.bind_eq_bind, Option.bind_eq_some_iff, Option.pure_def,
      Option.some.injEq, Prod.mk.injEq] at read
    obtain ⟨-, -, -, -, -, -, number, -, same, -⟩ := read
    exact ⟨number, same.symm⟩
  unfold readNumber? at read
  split at read
  · exact unsigned read
  · exact unsigned read

/-- A property of values, at the depth that is left for their nesting, that is kept when arrays and
objects are put together of what was read. -/
structure KeptByReading (holds : Nat → Value → Prop) : Prop where
  null : ∀ depth, holds depth .null
  bool : ∀ depth flag, holds depth (.bool flag)
  number : ∀ depth number, holds depth (.number number)
  string : ∀ depth text, holds depth (.string text)
  array : ∀ {depth items}, (∀ item ∈ items, holds depth item) → holds (depth + 1) (.array items)
  object : ∀ {depth members}, (∀ member ∈ members, holds depth member.2) →
    holds (depth + 1) (.ofMembers members)

/-- What the readers answer with has a property. -/
structure ReadsHolding (holds : Nat → Value → Prop) (fuel : Nat) : Prop where
  value : ∀ {depth characters value rest},
    readValue? fuel depth characters = some (value, rest) → holds depth value
  items : ∀ {depth characters items rest},
    readItems? fuel depth characters = some (items, rest) → ∀ item ∈ items, holds depth item
  members : ∀ {depth characters members rest},
    readMembers? fuel depth characters = some (members, rest) →
      ∀ member ∈ members, holds depth member.2

section Readers

variable {holds : Nat → Value → Prop} {fuel depth : Nat} {characters rest : List Char}

theorem ReadsHolding.value_step (kept : KeptByReading holds) (ih : ReadsHolding holds fuel)
    {value : Value} (read : readValue? (fuel + 1) depth characters = some (value, rest)) :
    holds depth value := by
  unfold readValue? at read
  split at read
  · cases read
    exact kept.null depth
  · cases read
    exact kept.bool depth true
  · cases read
    exact kept.bool depth false
  · obtain ⟨⟨text, behind⟩, -, same⟩ := Option.bind_eq_some_iff.mp read
    cases same
    exact kept.string depth text
  · -- An array: without items, or with those that are read.
    split at read
    · cases read
    · split at read
      · cases read
        exact kept.array (by simp)
      · obtain ⟨⟨items, behind⟩, readItems, same⟩ := Option.bind_eq_some_iff.mp read
        cases same
        exact kept.array (ih.items readItems)
  · -- An object: without members, or with those that are read.
    split at read
    · cases read
    · split at read
      · cases read
        exact @KeptByReading.object _ kept _ [] (by simp)
      · obtain ⟨⟨members, behind⟩, readMembers, same⟩ := Option.bind_eq_some_iff.mp read
        cases same
        exact kept.object (ih.members readMembers)
  · obtain ⟨number, rfl⟩ := exists_number_of_readNumber? read
    exact kept.number depth number

theorem ReadsHolding.items_step (ih : ReadsHolding holds fuel) {items : List Value}
    (read : readItems? (fuel + 1) depth characters = some (items, rest)) :
    ∀ item ∈ items, holds depth item := by
  unfold readItems? at read
  obtain ⟨⟨first, behind⟩, readFirst, others⟩ := Option.bind_eq_some_iff.mp read
  have here : holds depth first := ih.value readFirst
  dsimp only at others
  split at others
  · cases others
    simpa using here
  · obtain ⟨⟨further, behind⟩, readFurther, same⟩ := Option.bind_eq_some_iff.mp others
    cases same
    exact List.forall_mem_cons.mpr ⟨here, ih.items readFurther⟩
  · cases others

theorem ReadsHolding.members_step (ih : ReadsHolding holds fuel) {members : List (String × Value)}
    (read : readMembers? (fuel + 1) depth characters = some (members, rest)) :
    ∀ member ∈ members, holds depth member.2 := by
  unfold readMembers? at read
  split at read
  · obtain ⟨⟨name, behindName⟩, -, afterName⟩ := Option.bind_eq_some_iff.mp read
    dsimp only at afterName
    split at afterName
    · obtain ⟨⟨first, behind⟩, readFirst, others⟩ := Option.bind_eq_some_iff.mp afterName
      have here : holds depth first := ih.value readFirst
      dsimp only at others
      split at others
      · cases others
        simpa using here
      · obtain ⟨⟨further, behind⟩, readFurther, same⟩ := Option.bind_eq_some_iff.mp others
        cases same
        exact List.forall_mem_cons.mpr ⟨here, ih.members readFurther⟩
      · cases others
    · cases afterName
  · cases read

/-- The readers answer with values of the property, however much fuel they have. -/
theorem readsHolding (kept : KeptByReading holds) (fuel : Nat) : ReadsHolding holds fuel := by
  induction fuel with
  | zero => exact ⟨by simp [readValue?], by simp [readItems?], by simp [readMembers?]⟩
  | succ fuel ih => exact ⟨ih.value_step kept, ih.items_step, ih.members_step⟩

/-- **What is kept by reading holds of every value that is read from a text**, at the depth that
texts may have. -/
theorem holds_of_parse? (kept : KeptByReading holds) {text : String} {value : Value}
    (read : parse? text = some value) : holds deepestNesting value := by
  unfold parse? parseChars? at read
  split at read
  · next found behind readValue =>
      split at read
      · cases read
        exact (readsHolding kept _).value readValue
      · cases read
  · cases read

end Readers

theorem keptByReading_namesDistinct : KeptByReading fun _ value => value.NamesDistinct where
  null _ := .null
  bool _ flag := .bool flag
  number _ number := .number number
  string _ text := .string text
  array each := .array each
  object each := Value.namesDistinct_ofMembers each

/-- **A value that is read from a text has distinct names.** -/
theorem namesDistinct_of_parse? {text : String} {value : Value} (read : parse? text = some value) :
    value.NamesDistinct :=
  holds_of_parse? keptByReading_namesDistinct read

end ServiceCatalog.Json
