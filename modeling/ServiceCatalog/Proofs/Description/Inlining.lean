import ServiceCatalog.Proofs.Description.Loading
import ServiceCatalog.Proofs.Json.Edits

/-!
# Definitions in the place of references

A parameter may be written as a reference to a shared definition.  With that definition in its
place (`inlined`) it declares the same parameter, whatever else is shared (`Declares.inlined`).  And
its key can be read off it: the name and the placement that are written are those of the parameter
(`DeclaresKeyed`).

So the parameters of an operation are merged as their definitions are, and what is said about the
keys of the ones holds for the keys of the others (`relatesKeys_declaresKeyed`).
-/

namespace ServiceCatalog.Description

set_option autoImplicit false

open ServiceCatalog.Json

/-! ## Inlining -/

/-- The shared definition that is referred to. -/
def reference? (written : Value) : Option String :=
  (written.member? "$ref").bind Value.text?

/-- What is written for a parameter, with a shared definition in the place of the reference to it.
A reference beside that definition plays no role and is left out. -/
def inlined (shared : List (String × Value)) (written : Value) : Value :=
  match reference? written with
  | some reference => ((referred? shared reference).map (Value.withoutMember "$ref")).getD written
  | none => written

theorem WrittenParameter.decoder_withoutReference (value : Value) :
    WrittenParameter.decoder (value.withoutMember "$ref") = WrittenParameter.decoder value := by
  cases value with
  | object members => exact WrittenParameter.decoder_unassign members
  | null | bool | number | string | array => rfl

theorem declaredKey?_withoutReference (value : Value) :
    declaredKey? (value.withoutMember "$ref") = declaredKey? value := by
  cases value with
  | object members =>
      simp [declaredKey?, Value.withoutMember, Value.field?_object, lookup_unassign]
  | null | bool | number | string | array => rfl

/-- Without a reference, a definition is what is written. -/
theorem definition_of_no_reference {written : Value} (none : reference? written = none)
    (shared : List (String × Value)) : definition shared written = .ok written := by
  unfold reference? at none
  simp [definition, none]

/-- A definition that is found stands in the place of the reference to it, and there is no reference
any more. -/
theorem inlined_of_definition {shared : List (String × Value)} {written resolved : Value}
    (found : definition shared written = .ok resolved) :
    (inlined shared written = resolved.withoutMember "$ref" ∨ inlined shared written = resolved) ∧
      reference? (inlined shared written) = none := by
  cases reference : reference? written with
  | none =>
      rw [definition_of_no_reference reference] at found
      cases found
      simp [inlined, reference]
  | some name =>
      unfold reference? at reference
      cases named : referred? shared name with
      | none => simp [definition, reference, named] at found
      | some value =>
          simp only [definition, reference, named, Except.ok.injEq] at found
          simp [inlined, reference?, reference, named, found, Value.member?_withoutMember]

/-! ## Distinct names -/

section DistinctNames

variable {shared : List (String × Value)} {written : Value}
  (distinctShared : ∀ entry ∈ shared, entry.2.NamesDistinct) (distinct : written.NamesDistinct)

include distinctShared

theorem namesDistinct_of_referred? {reference : String} {value : Value}
    (found : referred? shared reference = some value) : value.NamesDistinct := by
  unfold referred? at found
  split_ifs at found
  exact distinctShared _ (mem_of_lookup_eq_some found)

include distinct

theorem namesDistinct_inlined : (inlined shared written).NamesDistinct := by
  unfold inlined
  cases reference? written with
  | none => exact distinct
  | some reference =>
      cases named : referred? shared reference with
      | none => simpa [named] using distinct
      | some value =>
          simpa [named] using (namesDistinct_of_referred? distinctShared named).withoutMember "$ref"

theorem namesDistinct_of_definition_eq_ok {resolved : Value}
    (found : definition shared written = .ok resolved) : resolved.NamesDistinct := by
  unfold definition at found
  split at found
  · next reference _ =>
      cases named : referred? shared reference with
      | none => simp [named] at found
      | some value =>
          simp only [named, Except.ok.injEq] at found
          exact found ▸ namesDistinct_of_referred? distinctShared named
  · cases found
    exact distinct

end DistinctNames

/-! ## Parameters of what is inlined -/

/-- With its definition in its place, a parameter is the same, whatever else is shared. -/
theorem Declares.inlined {shared : List (String × Value)} {written : Value} {parameter : Parameter}
    (declares : Declares shared written parameter) (others : List (String × Value)) :
    Declares others (inlined shared written) parameter := by
  obtain ⟨resolved, read, found, decoded, describes⟩ := declares
  obtain ⟨place, none⟩ := inlined_of_definition found
  refine ⟨_, read, definition_of_no_reference none others, ?_, describes⟩
  rcases place with same | same
  · rw [same, WrittenParameter.decoder_withoutReference, decoded]
  · rw [same, decoded]

/-! ## Keys that are written -/

/-- The key of a parameter as it is written. -/
def writtenKey (key : String × Placement) : String × String := (key.1, key.2.name)

/-- A written key belongs to one key. -/
theorem writtenKey_injective : Function.Injective writtenKey := by
  rintro ⟨name, placement⟩ ⟨other, elsewhere⟩ same
  obtain ⟨rfl, named⟩ := Prod.mk.injEq .. ▸ same
  have read : Placement.ofText? placement.name = some elsewhere :=
    Placement.ofText?_eq_some.mpr named
  rw [Placement.ofText?_eq_some.mpr rfl] at read
  rw [Option.some.inj read]

/-- The key of a parameter is the one that is written in its place. -/
theorem declaredKey?_inlined {shared : List (String × Value)} {written : Value}
    {parameter : Parameter} (distinctShared : ∀ entry ∈ shared, entry.2.NamesDistinct)
    (distinct : written.NamesDistinct) (declares : Declares shared written parameter) :
    declaredKey? (inlined shared written) = some (writtenKey parameter.key) := by
  obtain ⟨resolved, read, found, decoded, describes⟩ := declares
  have plain := namesDistinct_of_definition_eq_ok distinctShared distinct found
  obtain ⟨name, placement⟩ := written_of_parameter plain decoded
  have key : declaredKey? resolved = some (writtenKey parameter.key) := by
    simp [declaredKey?, ← name, ← placement, describes.name, describes.placement, writtenKey,
      Parameter.key]
  rcases (inlined_of_definition found).1 with same | same
  · rw [same, declaredKey?_withoutReference, key]
  · rw [same, key]

/-- A definition declares a parameter by itself, under the key that is written in it. -/
def DeclaresKeyed (shared : List (String × Value)) (written : Value) (parameter : Parameter) :
    Prop :=
  Declares shared written parameter ∧ declaredKey? written = some (writtenKey parameter.key)

/-- Written keys and keys correspond one to one. -/
theorem relatesKeys_declaresKeyed (shared : List (String × Value)) :
    RelatesKeys (DeclaresKeyed shared) declaredKey? Parameter.key
      fun written key => written = some (writtenKey key) where
  unique := by
    constructor
    · rintro _ _ _ rfl rfl
      rfl
    · rintro _ _ _ rfl same
      exact writtenKey_injective (Option.some.inj same)
  keys declares := declares.2

/-- **Definitions in the place of references declare the same parameters**, and under the keys that
are written in them. -/
theorem forall₂_declaresKeyed {shared : List (String × Value)} {definitions : List Value}
    {parameters : List Parameter} (distinctShared : ∀ entry ∈ shared, entry.2.NamesDistinct)
    (distinct : ∀ written ∈ definitions, written.NamesDistinct)
    (declared : List.Forall₂ (Declares shared) definitions parameters)
    (others : List (String × Value)) :
    List.Forall₂ (DeclaresKeyed others) (definitions.map (inlined shared)) parameters := by
  rw [List.forall₂_map_left_iff]
  refine forall₂_imp_of_mem declared fun written member parameter declares => ?_
  exact ⟨declares.inlined others,
    declaredKey?_inlined distinctShared (distinct written member) declares⟩

/-! ## The definitions of an operation -/

namespace OperationEntry

/-- The definitions that an operation takes over from its path item. -/
def inheritedDefinitions (shared : List (String × Value)) (entry : OperationEntry) : List Value :=
  (pathParameters entry.item).map (inlined shared)

/-- The definitions of an operation itself. -/
def ownDefinitions (shared : List (String × Value)) (entry : OperationEntry) : List Value :=
  (ownParameters entry.value).map (inlined shared)

/-- **What the definitions of an operation are to its parameters**: each declares one under the key
that is written in it, and the parameters are merged from these. -/
theorem Describes.declaresKeyed {root : Value} {entry : OperationEntry} {operation : Operation}
    (distinct : root.NamesDistinct) (member : entry ∈ operationEntries root)
    (describes : entry.Describes (sharedDefinitions root) operation)
    (others : List (String × Value)) :
    ∃ pathLevel operationLevel,
      List.Forall₂ (DeclaresKeyed others)
        (entry.inheritedDefinitions (sharedDefinitions root)) pathLevel ∧
      List.Forall₂ (DeclaresKeyed others)
        (entry.ownDefinitions (sharedDefinitions root)) operationLevel ∧
      (pathLevel.map Parameter.key).Nodup ∧
      ((further Parameter.key pathLevel operationLevel).map Parameter.key).Nodup ∧
      operation.parameters = merged Parameter.key pathLevel operationLevel := by
  obtain ⟨verb, written, parameters, -, read, declared, rfl⟩ := describes
  obtain ⟨pathLevel, operationLevel, declaredPath, declaredOwn, distinctPath, distinctFurther,
    rfl⟩ := declared
  obtain ⟨plainItem, plainValue⟩ := namesDistinct_of_entry distinct member
  have plainShared : ∀ shared ∈ sharedDefinitions root, shared.2.NamesDistinct :=
    fun _ there => namesDistinct_of_definition distinct there
  have own : written.parameters = ownParameters entry.value :=
    (written_of_operation plainValue read).2
  refine ⟨pathLevel, operationLevel, ?_, ?_, distinctPath, distinctFurther, rfl⟩
  · exact forall₂_declaresKeyed plainShared
      (fun _ there => namesDistinct_of_pathParameter plainItem there) declaredPath others
  · exact forall₂_declaresKeyed plainShared
      (fun _ there => namesDistinct_of_ownParameter plainValue there) (own ▸ declaredOwn) others

end OperationEntry

end ServiceCatalog.Description
