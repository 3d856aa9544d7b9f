import ServiceCatalog.Proofs.Json.Names

/-!
# How deep values are nested

At most so many arrays and objects of a value stand inside one another (`Value.NestedWithin`).
Every value that is read from a text is nested within the depth that the readers go to
(`keptByReading_nestedWithin`).

The depth is a bound and nothing more: what is read with some room for nesting is read with more
room (`ReadsDeeper`, `readValue?_of_le`).  So whatever is read of a text is what readers without
this bound would read.
-/

namespace ServiceCatalog.Json

set_option autoImplicit false

/-! ## Nesting -/

/-- At most a number of arrays and objects of a value stand inside one another. -/
inductive Value.NestedWithin : Nat → Value → Prop where
  | null (depth : Nat) : NestedWithin depth .null
  | bool (depth : Nat) (flag : Bool) : NestedWithin depth (.bool flag)
  | number (depth : Nat) (number : Number) : NestedWithin depth (.number number)
  | string (depth : Nat) (text : String) : NestedWithin depth (.string text)
  | array {depth : Nat} {items : List Value} (each : ∀ item ∈ items, NestedWithin depth item) :
      NestedWithin (depth + 1) (.array items)
  | object {depth : Nat} {members : List (String × Value)}
      (each : ∀ member ∈ members, NestedWithin depth member.2) :
      NestedWithin (depth + 1) (.object members)

namespace Value

variable {depth : Nat}

theorem nestedWithin_array {items : List Value} :
    (Value.array items).NestedWithin (depth + 1) ↔ ∀ item ∈ items, item.NestedWithin depth := by
  constructor
  · rintro (_ | _ | _ | _ | each | _)
    exact each
  · exact .array

theorem nestedWithin_object {members : List (String × Value)} :
    (Value.object members).NestedWithin (depth + 1) ↔
      ∀ member ∈ members, member.2.NestedWithin depth := by
  constructor
  · rintro (_ | _ | _ | _ | _ | each)
    exact each
  · exact .object

theorem not_nestedWithin_zero_object {members : List (String × Value)} :
    ¬ (Value.object members).NestedWithin 0 := by
  rintro ⟨⟩

/-- A value that is nested within a depth is nested within any greater one. -/
theorem NestedWithin.of_le {value : Value} {depth deeper : Nat}
    (nested : value.NestedWithin depth) (more : depth ≤ deeper) : value.NestedWithin deeper := by
  induction nested generalizing deeper with
  | null => exact .null deeper
  | bool _ flag => exact .bool deeper flag
  | number _ number => exact .number deeper number
  | string _ text => exact .string deeper text
  | array each ih =>
      obtain ⟨deeper, rfl⟩ := Nat.exists_eq_add_of_le' more
      exact .array fun item member => ih item member (Nat.le_add_left _ _)
  | object each ih =>
      obtain ⟨deeper, rfl⟩ := Nat.exists_eq_add_of_le' more
      exact .object fun member there => ih member there (Nat.le_add_left _ _)

/-- Parts that are nested within some depth each are so within one depth. -/
theorem exists_nestedWithin_all {values : List Value}
    (each : ∀ value ∈ values, ∃ depth, value.NestedWithin depth) :
    ∃ depth, ∀ value ∈ values, value.NestedWithin depth := by
  induction values with
  | nil => exact ⟨0, List.forall_mem_nil _⟩
  | cons value values ih =>
      obtain ⟨⟨own, here⟩, others⟩ := List.forall_mem_cons.mp each
      obtain ⟨depth, further⟩ := ih others
      refine ⟨max own depth, List.forall_mem_cons.mpr ⟨here.of_le (Nat.le_max_left _ _), ?_⟩⟩
      exact fun other member => (further other member).of_le (Nat.le_max_right _ _)

/-- Every value with distinct names is nested within some depth. -/
theorem NamesDistinct.exists_nestedWithin {value : Value} (distinct : value.NamesDistinct) :
    ∃ depth, value.NestedWithin depth := by
  induction distinct with
  | null => exact ⟨0, .null 0⟩
  | bool flag => exact ⟨0, .bool 0 flag⟩
  | number number => exact ⟨0, .number 0 number⟩
  | string text => exact ⟨0, .string 0 text⟩
  | array _ ih =>
      obtain ⟨depth, nested⟩ := exists_nestedWithin_all ih
      exact ⟨depth + 1, .array nested⟩
  | @object members _ _ ih =>
      have each : ∀ value ∈ members.map Prod.snd, ∃ depth, value.NestedWithin depth :=
        List.forall_mem_map.mpr ih
      obtain ⟨depth, nested⟩ := exists_nestedWithin_all each
      exact ⟨depth + 1, .object (List.forall_mem_map.mp nested)⟩

end Value

/-! ## What is read is nested within bounds -/

theorem keptByReading_nestedWithin : KeptByReading Value.NestedWithin where
  null := .null
  bool := .bool
  number := .number
  string := .string
  array := .array
  object each := by
    refine .object fun member there => ?_
    obtain ⟨assigned, listed, same⟩ := mem_of_mem_assignAll there
    exact same ▸ each assigned listed

/-! ## More room -/

/-- What is read with some room for nesting is read with more room. -/
structure ReadsDeeper (fuel : Nat) : Prop where
  value : ∀ {depth characters result}, readValue? fuel depth characters = some result →
    readValue? fuel (depth + 1) characters = some result
  items : ∀ {depth characters result}, readItems? fuel depth characters = some result →
    readItems? fuel (depth + 1) characters = some result
  members : ∀ {depth characters result}, readMembers? fuel depth characters = some result →
    readMembers? fuel (depth + 1) characters = some result

section Deeper

variable {fuel depth : Nat} {characters : List Char}

theorem ReadsDeeper.value_step (ih : ReadsDeeper fuel) {result : Value × List Char}
    (read : readValue? (fuel + 1) depth characters = some result) :
    readValue? (fuel + 1) (depth + 1) characters = some result := by
  unfold readValue? at read ⊢
  split at read
  · exact read
  · exact read
  · exact read
  · exact read
  · -- An array.
    cases depth with
    | zero => cases read
    | succ depth =>
        dsimp only at read ⊢
        split at read
        · exact read
        · obtain ⟨found, readItems, same⟩ := Option.bind_eq_some_iff.mp read
          rw [Option.bind_eq_bind, ih.items readItems]
          exact same
  · -- An object.
    cases depth with
    | zero => cases read
    | succ depth =>
        dsimp only at read ⊢
        split at read
        · exact read
        · obtain ⟨found, readMembers, same⟩ := Option.bind_eq_some_iff.mp read
          rw [Option.bind_eq_bind, ih.members readMembers]
          exact same
  · exact read

theorem ReadsDeeper.items_step (ih : ReadsDeeper fuel) {result : List Value × List Char}
    (read : readItems? (fuel + 1) depth characters = some result) :
    readItems? (fuel + 1) (depth + 1) characters = some result := by
  unfold readItems? at read ⊢
  obtain ⟨⟨first, behind⟩, readFirst, others⟩ := Option.bind_eq_some_iff.mp read
  rw [Option.bind_eq_bind, ih.value readFirst, Option.bind_some]
  dsimp only at others ⊢
  split at others
  · exact others
  · obtain ⟨found, readFurther, same⟩ := Option.bind_eq_some_iff.mp others
    rw [Option.bind_eq_bind, ih.items readFurther]
    exact same
  · cases others

theorem ReadsDeeper.members_step (ih : ReadsDeeper fuel)
    {result : List (String × Value) × List Char}
    (read : readMembers? (fuel + 1) depth characters = some result) :
    readMembers? (fuel + 1) (depth + 1) characters = some result := by
  unfold readMembers? at read ⊢
  split at read
  · obtain ⟨⟨name, behindName⟩, readName, afterName⟩ := Option.bind_eq_some_iff.mp read
    dsimp only at afterName ⊢
    rw [Option.bind_eq_bind, readName, Option.bind_some]
    dsimp only
    split at afterName
    · obtain ⟨⟨first, behind⟩, readFirst, others⟩ := Option.bind_eq_some_iff.mp afterName
      rw [Option.bind_eq_bind, ih.value readFirst, Option.bind_some]
      dsimp only at others ⊢
      split at others
      · exact others
      · obtain ⟨found, readFurther, same⟩ := Option.bind_eq_some_iff.mp others
        rw [Option.bind_eq_bind, ih.members readFurther]
        exact same
      · cases others
    · cases afterName
  · cases read

/-- Room that was not needed changes nothing, however much fuel the readers have. -/
theorem readsDeeper (fuel : Nat) : ReadsDeeper fuel := by
  induction fuel with
  | zero => exact ⟨by simp [readValue?], by simp [readItems?], by simp [readMembers?]⟩
  | succ fuel ih => exact ⟨ih.value_step, ih.items_step, ih.members_step⟩

theorem readValue?_of_le {deeper : Nat} (more : depth ≤ deeper) {result : Value × List Char}
    (read : readValue? fuel depth characters = some result) :
    readValue? fuel deeper characters = some result := by
  induction more with
  | refl => exact read
  | step _ ih => exact (readsDeeper fuel).value ih

end Deeper

end ServiceCatalog.Json
