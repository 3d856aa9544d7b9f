import ServiceCatalog.Proofs.Json.Records

/-!
# Changing the members of an object

An object can be given another member, can lose some, and can have the values of all its members
changed by their names.  A value of another shape stays as it is.  Each of these is known by the
members it leaves, and none makes a name occur twice.

What is written for a record can be changed field by field, in an object or in an array
(`mapFields`).  If every field follows the change, so does the record (`record_mapFields`).
-/

namespace ServiceCatalog.Json.Value

set_option autoImplicit false

/-- An object with a member of a name. -/
def withMember (value : Value) (name : String) (held : Value) : Value :=
  match value with
  | .object members => .object (assign name held members)
  | value => value

/-- An object without the member of a name. -/
def withoutMember (name : String) : Value → Value
  | .object members => .object (unassign name members)
  | value => value

/-- An object with those of its members whose names are to be kept. -/
def keepMembers (keep : String → Bool) : Value → Value
  | .object members => .object (members.filter fun member => keep member.1)
  | value => value

/-- An object in which the value of every member is changed. -/
def mapMembers (change : String → Value → Value) : Value → Value
  | .object members => .object (members.map fun (name, held) => (name, change name held))
  | value => value

/-- An array in which every item is changed. -/
def mapItems (change : Value → Value) : Value → Value
  | .array items => .array (items.map change)
  | value => value

/-- Items that stand for the fields of a record, changed by the names of the fields. -/
def changeItems (change : String → Value → Value) : List String → List Value → List Value
  | name :: names, item :: items => change name item :: changeItems change names items
  | _, items => items

/-- What is written for the fields of a record, changed by their names: the members of an object,
the items of an array. -/
def mapFields (names : List String) (change : String → Value → Value) : Value → Value
  | .object members => .object (members.map fun (name, held) => (name, change name held))
  | .array items => .array (changeItems change names items)
  | value => value

theorem keepMembers_eq_null {keep : String → Bool} {value : Value} :
    value.keepMembers keep = .null ↔ value = .null := by
  cases value <;> simp [keepMembers]

theorem mapMembers_eq_null {change : String → Value → Value} {value : Value} :
    value.mapMembers change = .null ↔ value = .null := by
  cases value <;> simp [mapMembers]

/-! ## Members that are found -/

theorem member?_withoutMember (name : String) (value : Value) :
    (value.withoutMember name).member? name = none := by
  cases value with
  | object members => simp [withoutMember, member?, lookup_unassign]
  | null | bool | number | string | array => rfl

theorem member?_keepMembers (keep : String → Bool) (value : Value) (name : String) :
    (value.keepMembers keep).member? name = if keep name then value.member? name else none := by
  cases value with
  | object members => exact lookup_filter keep name members
  | null | bool | number | string | array => simp [keepMembers, member?]

theorem lookup_map_snd (change : String → Value → Value) (members : List (String × Value))
    (name : String) :
    (members.map fun (name, held) => (name, change name held)).lookup name =
      (members.lookup name).map (change name) := by
  induction members with
  | nil => rfl
  | cons member members ih =>
      obtain ⟨listed, held⟩ := member
      by_cases same : name = listed
      · subst same
        simp
      · simp [List.lookup_cons, beq_eq_false_iff_ne.mpr same, ih]

theorem member?_mapMembers (change : String → Value → Value) (value : Value) (name : String) :
    (value.mapMembers change).member? name = (value.member? name).map (change name) := by
  cases value with
  | object members => exact lookup_map_snd change members name
  | null | bool | number | string | array => rfl

theorem member?_mapFields (names : List String) (change : String → Value → Value) (value : Value)
    (name : String) :
    (value.mapFields names change).member? name = (value.member? name).map (change name) := by
  cases value with
  | object members => exact lookup_map_snd change members name
  | null | bool | number | string | array => rfl

/-! ## All members -/

theorem members_mapMembers (change : String → Value → Value) (value : Value) :
    (value.mapMembers change).members =
      value.members.map fun (name, held) => (name, change name held) := by
  cases value <;> rfl

/-- The names of members stay when their values are changed. -/
theorem map_fst_mapMembers (change : String → Value → Value) (value : Value) :
    (value.mapMembers change).members.map Prod.fst = value.members.map Prod.fst := by
  simp [members_mapMembers]

theorem changeItems_nil (change : String → Value → Value) (names : List String) :
    changeItems change names [] = [] := by
  cases names <;> rfl

theorem length_changeItems (change : String → Value → Value) (names : List String)
    (items : List Value) : (changeItems change names items).length = items.length := by
  induction names generalizing items with
  | nil => rfl
  | cons name names ih =>
      cases items with
      | nil => rfl
      | cons item items => simp [changeItems, ih]

/-! ## Distinct names -/

variable {value : Value}

theorem NamesDistinct.withMember {held : Value} (distinct : value.NamesDistinct)
    (plain : held.NamesDistinct) (name : String) : (value.withMember name held).NamesDistinct := by
  cases value with
  | object members =>
      obtain ⟨names, each⟩ := namesDistinct_object.mp distinct
      refine .object (nodup_assign names name held) fun member there => ?_
      rcases mem_of_mem_assign there with same | before
      · exact same ▸ plain
      · exact each member before
  | null | bool | number | string | array => exact distinct

theorem NamesDistinct.withoutMember (distinct : value.NamesDistinct) (name : String) :
    (value.withoutMember name).NamesDistinct := by
  cases value with
  | object members =>
      obtain ⟨names, each⟩ := namesDistinct_object.mp distinct
      refine .object (names.sublist (List.filter_sublist.map Prod.fst)) fun member there => ?_
      exact each member (List.mem_of_mem_filter there)
  | null | bool | number | string | array => exact distinct

theorem NamesDistinct.mapMembers (distinct : value.NamesDistinct)
    {change : String → Value → Value}
    (each : ∀ name held, (name, held) ∈ value.members → (change name held).NamesDistinct) :
    (value.mapMembers change).NamesDistinct := by
  cases value with
  | object members =>
      have names := map_fst_mapMembers change (.object members)
      refine .object (names ▸ (namesDistinct_object.mp distinct).1) fun member there => ?_
      obtain ⟨⟨name, held⟩, before, rfl⟩ := List.mem_map.mp there
      exact each name held before
  | null | bool | number | string | array => exact distinct

end ServiceCatalog.Json.Value

namespace ServiceCatalog.Json

/-! ## Records that are read after a change -/

variable {ρ α : Type}

theorem membersOf_anyValue_object (members : List (String × Value)) :
    membersOf anyValue (.object members) = .ok members :=
  membersOf_anyValue_eq_ok.mpr rfl

/-- Leaving out members that name no field changes nothing that is read. -/
theorem record_keepMembers {fields : List (RecordField ρ)} {keep : String → Bool}
    (kept : ∀ field ∈ fields, keep field.name = true) (name : String) (blank : ρ) (value : Value) :
    record name fields blank (value.keepMembers keep) = record name fields blank value := by
  cases value with
  | object members => exact record_object_filter keep kept name blank members
  | null | bool | number | string | array => rfl

theorem listOf_anyValue_mapItems (change : Value → Value) (value : Value) :
    listOf anyValue (value.mapItems change) = (listOf anyValue value).map (List.map change) := by
  cases value with
  | array items =>
      have read : ∀ items, listOf anyValue (.array items) = .ok items :=
        fun _ => listOf_anyValue_eq_ok.mpr rfl
      rw [Value.mapItems, read, read]
      rfl
  | null | bool | number | string | object => rfl

theorem membersOf_anyValue_keepMembers (keep : String → Bool) (value : Value) :
    membersOf anyValue (value.keepMembers keep) =
      (membersOf anyValue value).map (List.filter fun member => keep member.1) := by
  cases value with
  | object members => rw [Value.keepMembers, membersOf_anyValue_object, membersOf_anyValue_object,
      Except.map]
  | null | bool | number | string | array => rfl

theorem membersOf_anyValue_mapMembers (change : String → Value → Value) (value : Value) :
    membersOf anyValue (value.mapMembers change) =
      (membersOf anyValue value).map (List.map fun (name, held) => (name, change name held)) := by
  cases value with
  | object members => rw [Value.mapMembers, membersOf_anyValue_object, membersOf_anyValue_object,
      Except.map]
  | null | bool | number | string | array => rfl

/-- What may be absent follows a change that keeps `null` apart. -/
theorem optional_change {decoder : Decoder α} {change : Value → Value} {adapt : α → α}
    (null : ∀ value, change value = .null ↔ value = .null)
    (decoded : ∀ value, decoder (change value) = (decoder value).map adapt) (value : Value) :
    optional decoder (change value) = (optional decoder value).map (Option.map adapt) := by
  have present : ∀ value, value ≠ .null → optional decoder value = (decoder value).map some := by
    intro value there
    cases value with
    | null => exact absurd rfl there
    | bool | number | string | array | object => rfl
  by_cases missing : value = .null
  · rw [(null value).mpr missing, missing]
    rfl
  · rw [present value missing, present _ ((null value).not.mpr missing), decoded]
    cases decoder value <;> rfl

/-- A change of what is written for a field shows as a change of the record. -/
def RecordField.Follows (field : RecordField ρ) (change : Value → Value) (adapt : ρ → ρ) : Prop :=
  ∀ value record, field.read (change value) (adapt record) = (field.read value record).map adapt

/-- A field follows a change if its decoder does, and what is read is put in place alike. -/
theorem RecordField.follows_of {name : String} {absence : Absence} {decoder : Decoder α}
    {place : α → ρ → ρ} {change : Value → Value} {adapt : ρ → ρ} (adaptRead : α → α)
    (decoded : ∀ value, decoder (change value) = (decoder value).map adaptRead)
    (placed : ∀ read record, place (adaptRead read) (adapt record) = adapt (place read record)) :
    (RecordField.of name absence decoder place).Follows change adapt := by
  intro value record
  simp only [RecordField.of, decoded]
  cases decoder value with
  | error cause => rfl
  | ok read => exact congrArg Except.ok (placed read record)

/-- A field whose value is left as it is follows a change of others. -/
theorem RecordField.follows_untouched {name : String} {absence : Absence} {decoder : Decoder α}
    {place : α → ρ → ρ} {change : Value → Value} {adapt : ρ → ρ}
    (untouched : ∀ value, change value = value)
    (placed : ∀ read record, place read (adapt record) = adapt (place read record)) :
    (RecordField.of name absence decoder place).Follows change adapt :=
  follows_of id (fun value => by rw [untouched, Except.map_id, id]) placed

section Changes

variable {fields : List (RecordField ρ)} {change : String → Value → Value} {adapt : ρ → ρ}
  (follows : ∀ field ∈ fields, field.Follows (change field.name) adapt)

include follows

theorem readMembers_map (members : List (String × Value)) (record : ρ) :
    readMembers fields (members.map fun (name, held) => (name, change name held)) (adapt record) =
      (readMembers fields members record).map adapt := by
  induction members generalizing record with
  | nil => rfl
  | cons member members ih =>
      obtain ⟨name, held⟩ := member
      simp only [List.map_cons, readMembers]
      cases found : fields.find? fun field => field.name == name with
      | none => exact ih record
      | some field =>
          obtain rfl : field.name = name := by simpa using List.find?_some found
          simp only [follows field (List.mem_of_find?_eq_some found) held record]
          cases field.read held record with
          | error cause => rfl
          | ok next => exact ih next

theorem readItems_changeItems (tooShort : Nat → Mismatch) (tooLong : Mismatch) (position : Nat)
    (items : List Value) (record : ρ) :
    readItems tooShort tooLong position fields
        (Value.changeItems change (fields.map RecordField.name) items) (adapt record) =
      (readItems tooShort tooLong position fields items record).map adapt := by
  induction fields generalizing position items record with
  | nil => cases items <;> rfl
  | cons field fields ih =>
      obtain ⟨here, further⟩ := List.forall_mem_cons.mp follows
      cases items with
      | nil =>
          have rest := ih further (position + 1) [] record
          rw [Value.changeItems_nil] at rest ⊢
          simp only [readItems]
          split_ifs with defaulted
          · exact rest
          · rfl
      | cons item items =>
          simp only [List.map_cons, Value.changeItems, readItems, here item record]
          cases field.read item record with
          | error cause => rfl
          | ok next => exact ih further (position + 1) items next

/-- **A record follows a change of what is written for it if all its fields do.** -/
theorem record_mapFields {blank : ρ} (fixed : adapt blank = blank) (name : String) (value : Value) :
    record name fields blank (value.mapFields (fields.map RecordField.name) change) =
      (record name fields blank value).map adapt := by
  cases value with
  | object members =>
      have missing : firstMissing fields
          (members.map fun (name, held) => (name, change name held)) =
          firstMissing fields members := by
        refine List.find?_congr fun field _ => ?_
        rw [Value.lookup_map_snd, Option.isNone_map]
      have read := readMembers_map follows members blank
      rw [fixed] at read
      simp only [record, Value.mapFields, read, missing]
      cases readMembers fields members blank with
      | error cause => rfl
      | ok found => cases firstMissing fields members <;> rfl
  | array items =>
      have length : (Value.changeItems change (fields.map RecordField.name) items).length =
          items.length := Value.length_changeItems change _ items
      have read := readItems_changeItems follows
        (fun length => .tooShort length name fields.length) (.tooLong items.length) 0 items blank
      rw [fixed] at read
      simp only [record, Value.mapFields, length, read]
  | null | bool | number | string => rfl

end Changes

end ServiceCatalog.Json
