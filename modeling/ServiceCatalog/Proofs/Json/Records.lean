import Mathlib.Data.List.Find
import ServiceCatalog.Json.Decoder
import ServiceCatalog.Proofs.Json.Names
import ServiceCatalog.Proofs.Success

/-!
# Records do not depend on the order of their members

The members of an object are read in the order of the document, and the first bad one is reported.
A record that is read without a fault does not show that order: it is the record that is read field
by field, in declared order, each field from what is written for it (`readFields`).  That holds as
long as no name occurs twice and no two fields disturb each other (`Independent`).

So an object and an array are looked at in one way (`Value.field?`), and what an object gives
depends on its members of known names alone (`record_object_eq_ok`).
-/

namespace ServiceCatalog.Json

set_option autoImplicit false

/-- What is written for a field of a record: the member with its name in an object, the item at
its position in an array. -/
def Value.field? (value : Value) (position : Nat) (name : String) : Option Value :=
  match value with
  | .object members => members.lookup name
  | .array items => items[position]?
  | _ => none

theorem Value.field?_object (members : List (String × Value)) (position : Nat) (name : String) :
    (Value.object members).field? position name = members.lookup name :=
  rfl

/-- What is written for a field has distinct names if the value has. -/
theorem Value.NamesDistinct.field {value found : Value} {position : Nat} {name : String}
    (distinct : value.NamesDistinct) (written : value.field? position name = some found) :
    found.NamesDistinct := by
  cases value with
  | object members => exact distinct.member written
  | array items => exact namesDistinct_array.mp distinct found (List.mem_of_getElem? written)
  | null | bool | number | string => cases written

variable {ρ α : Type}

/-! ## Reading in declared order -/

/-- Reads the fields of a record in declared order, each from what is written for it.  A field for
which nothing is written stays as it is. -/
def readFields (written : Nat → String → Option Value) :
    Nat → List (RecordField ρ) → ρ → Except Mismatch ρ
  | _, [], record => .ok record
  | position, field :: fields, record =>
      match written position field.name with
      | none => readFields written (position + 1) fields record
      | some value => do readFields written (position + 1) fields (← field.read value record)

/-- Only what is written for the fields themselves is looked at. -/
theorem readFields_congr {written other : Nat → String → Option Value}
    {fields : List (RecordField ρ)}
    (same : ∀ field ∈ fields, ∀ position, written position field.name = other position field.name)
    (position : Nat) (record : ρ) :
    readFields written position fields record = readFields other position fields record := by
  induction fields generalizing position record with
  | nil => rfl
  | cons field fields ih =>
      obtain ⟨here, further⟩ := List.forall_mem_cons.mp same
      simp only [readFields, here position, ih further]

theorem readFields_nothing (position : Nat) (fields : List (RecordField ρ)) (record : ρ) :
    readFields (fun _ _ => none) position fields record = .ok record := by
  induction fields generalizing position with
  | nil => rfl
  | cons field fields ih => exact ih (position + 1)

/-! ## Independent fields -/

/-- Two fields can be read in either order. -/
def RecordField.Commutes (first second : RecordField ρ) : Prop :=
  ∀ (value other : Value) (record result : ρ),
    first.read value record >>= second.read other = .ok result ↔
      second.read other record >>= first.read value = .ok result

/-- Fields that are put in place without touching each other can be read in either order. -/
theorem RecordField.commutes_of {β : Type} {name other : String} {absence lack : Absence}
    {decoder : Decoder α} {reader : Decoder β} {place : α → ρ → ρ} {put : β → ρ → ρ}
    (apart : ∀ read found record, put found (place read record) = place read (put found record)) :
    (RecordField.of name absence decoder place).Commutes (.of other lack reader put) := by
  intro value given record result
  simp only [RecordField.of, bind_eq_ok, map_eq_ok]
  constructor
  · rintro ⟨_, ⟨read, decoded, rfl⟩, found, decodedToo, rfl⟩
    exact ⟨_, ⟨found, decodedToo, rfl⟩, read, decoded, (apart read found record).symm⟩
  · rintro ⟨_, ⟨found, decodedToo, rfl⟩, read, decoded, rfl⟩
    exact ⟨_, ⟨read, decoded, rfl⟩, found, decodedToo, apart read found record⟩

/-- Fields of different names that can be read in any order. -/
structure Independent (fields : List (RecordField ρ)) : Prop where
  distinct : (fields.map RecordField.name).Nodup
  commute : fields.Pairwise RecordField.Commutes

theorem Independent.tail {field : RecordField ρ} {fields : List (RecordField ρ)}
    (independent : Independent (field :: fields)) : Independent fields :=
  ⟨(List.nodup_cons.mp independent.distinct).2, independent.commute.tail⟩

/-- A member that names a field may be read before all other fields. -/
theorem readFields_cons {fields : List (RecordField ρ)} (independent : Independent fields)
    {field : RecordField ρ} (listed : field ∈ fields) {members : List (String × Value)}
    (fresh : members.lookup field.name = none) (value : Value) (position : Nat)
    (record result : ρ) :
    readFields (Value.object ((field.name, value) :: members)).field? position fields record =
        .ok result ↔
      ∃ next, field.read value record = .ok next ∧
        readFields (Value.object members).field? position fields next = .ok result := by
  induction fields generalizing position record with
  | nil => cases listed
  | cons head fields ih =>
      obtain ⟨unlike, -⟩ := List.nodup_cons.mp independent.distinct
      rcases List.mem_cons.mp listed with rfl | later
      · -- The field itself: the fields behind it have other names.
        have apart : ∀ other ∈ fields, ∀ position,
            (Value.object ((field.name, value) :: members)).field? position other.name =
              (Value.object members).field? position other.name := by
          intro other member position
          have differs : other.name ≠ field.name := fun same =>
            unlike (same ▸ List.mem_map_of_mem member)
          rw [Value.field?_object, List.lookup_cons, beq_eq_false_iff_ne.mpr differs]
          rfl
        simp only [readFields, Value.field?_object, List.lookup_cons_self, fresh, bind_eq_ok,
          readFields_congr apart]
      · -- A field before it: the two are read in the other order.
        have differs : head.name ≠ field.name := fun same =>
          unlike (same ▸ List.mem_map_of_mem later)
        have swap := List.rel_of_pairwise_cons independent.commute later
        have step := ih independent.tail later
        simp only [readFields, Value.field?_object, List.lookup_cons,
          beq_eq_false_iff_ne.mpr differs]
        cases written : members.lookup head.name with
        | none => exact step (position + 1) record
        | some given =>
            simp only [bind_eq_ok, step]
            constructor
            · rintro ⟨middle, readHead, next, readField, rest⟩
              obtain ⟨first, one, two⟩ := bind_eq_ok.mp
                ((swap given value record next).mp (bind_eq_ok.mpr ⟨middle, readHead, readField⟩))
              exact ⟨first, one, next, two, rest⟩
            · rintro ⟨first, readField, next, readHead, rest⟩
              obtain ⟨middle, one, two⟩ := bind_eq_ok.mp
                ((swap given value record next).mpr (bind_eq_ok.mpr ⟨first, readField, readHead⟩))
              exact ⟨middle, one, next, two, rest⟩

/-! ## Objects -/

/-- **The members of an object are read like the fields in declared order**, where no name occurs
twice. -/
theorem readMembers_eq_ok {fields : List (RecordField ρ)} (independent : Independent fields)
    {members : List (String × Value)} (distinct : (members.map Prod.fst).Nodup)
    (record result : ρ) :
    readMembers fields members record = .ok result ↔
      readFields (Value.object members).field? 0 fields record = .ok result := by
  induction members generalizing record with
  | nil =>
      have nothing : (Value.object []).field? = fun _ _ => none := rfl
      rw [readMembers, nothing, readFields_nothing]
  | cons member members ih =>
      obtain ⟨name, value⟩ := member
      obtain ⟨fresh, distinctRest⟩ := List.nodup_cons.mp distinct
      simp only [readMembers]
      cases found : fields.find? fun field => field.name == name with
      | none =>
          have unknown : ∀ field ∈ fields, ∀ position,
              (Value.object ((name, value) :: members)).field? position field.name =
                (Value.object members).field? position field.name := by
            intro field listed position
            have differs : (field.name == name) = false :=
              Bool.eq_false_iff.mpr (List.find?_eq_none.mp found field listed)
            rw [Value.field?_object, List.lookup_cons, differs]
            rfl
          rw [readFields_congr unknown]
          exact ih distinctRest record
      | some field =>
          have listed := List.mem_of_find?_eq_some found
          obtain rfl : field.name = name := by simpa using List.find?_some found
          have absent : members.lookup field.name = none := List.lookup_eq_none_iff.mpr
            fun entry member => bne_iff_ne.mpr fun same =>
              fresh (List.mem_map.mpr ⟨entry, member, same.symm⟩)
          simp only [readFields_cons independent listed absent, bind_eq_ok, ih distinctRest]

/-- A record that is read from an object in which no name occurs twice, where no field is required:
what is written for the fields decides. -/
theorem record_object_eq_ok {fields : List (RecordField ρ)} (independent : Independent fields)
    (lenient : ∀ field ∈ fields, field.absence ≠ .required) {members : List (String × Value)}
    (distinct : (members.map Prod.fst).Nodup) {name : String} {blank result : ρ} :
    record name fields blank (.object members) = .ok result ↔
      readFields (Value.object members).field? 0 fields blank = .ok result := by
  have complete : firstMissing fields members = none := List.find?_eq_none.mpr fun field listed => by
    simp [lenient field listed]
  simp only [record, complete, bind_eq_ok, readMembers_eq_ok independent distinct,
    Except.ok.injEq, exists_eq_right]

/-- Members that name no field play no role. -/
theorem record_object_filter {fields : List (RecordField ρ)} (keep : String → Bool)
    (kept : ∀ field ∈ fields, keep field.name = true) (name : String) (blank : ρ)
    (members : List (String × Value)) :
    record name fields blank (.object (members.filter fun member => keep member.1)) =
      record name fields blank (.object members) := by
  have passed : ∀ read : ρ, readMembers fields (members.filter fun member => keep member.1) read =
      readMembers fields members read := by
    induction members with
    | nil => exact fun _ => rfl
    | cons member members ih =>
        intro read
        obtain ⟨listed, value⟩ := member
        by_cases stays : keep listed = true
        · simp only [List.filter_cons, stays, if_true, readMembers, ih]
        · have absent : fields.find? (fun field => field.name == listed) = none :=
            List.find?_eq_none.mpr fun field there named =>
              stays (beq_iff_eq.mp named ▸ kept field there)
          simpa [stays, readMembers, absent] using ih read
  have missing : firstMissing fields (members.filter fun member => keep member.1) =
      firstMissing fields members := by
    refine List.find?_congr fun field there => ?_
    rw [lookup_filter, if_pos (kept field there)]
  simp only [record, passed, missing]

/-! ## Arrays -/

/-- The items of an array are read like the fields that they stand for. -/
theorem readFields_of_readItems {fields : List (RecordField ρ)} {tooShort : Nat → Mismatch}
    {tooLong : Mismatch} {whole items : List Value} {position : Nat} {record result : ρ}
    (left : whole.drop position = items)
    (read : readItems tooShort tooLong position fields items record = .ok result) :
    readFields (Value.array whole).field? position fields record = .ok result := by
  induction fields generalizing position items record with
  | nil =>
      cases items with
      | nil => exact read
      | cons item items => cases read
  | cons field fields ih =>
      have here : (Value.array whole).field? position field.name = items.head? := by
        rw [← left, List.head?_drop]
        rfl
      cases items with
      | nil =>
          simp only [readItems] at read
          split_ifs at read
          rw [readFields, here]
          exact ih (by rw [← List.drop_drop, left]; rfl) read
      | cons item items =>
          obtain ⟨next, readItem, rest⟩ := bind_eq_ok.mp read
          rw [readFields, here]
          exact bind_eq_ok.mpr ⟨next, readItem, ih (by rw [← List.drop_drop, left]; rfl) rest⟩

/-- **A record that was read was read field by field**, from an object or from an array. -/
theorem readFields_of_record {fields : List (RecordField ρ)} (independent : Independent fields)
    {value : Value} (distinct : value.NamesDistinct) {name : String} {blank result : ρ}
    (read : record name fields blank value = .ok result) :
    readFields value.field? 0 fields blank = .ok result := by
  cases value with
  | object members =>
      obtain ⟨found, readFound, same⟩ := bind_eq_ok.mp read
      split at same
      · cases same
      · cases same
        exact (readMembers_eq_ok independent (Value.namesDistinct_object.mp distinct).1 _ _).mp
          readFound
  | array items => exact readFields_of_readItems rfl read
  | null | bool | number | string => cases read

/-! ## Single fields -/

/-- What a field holds after what is written for it is read. -/
def readWritten (decoder : Decoder α) (absent : α) : Option Value → Except Mismatch α
  | none => .ok absent
  | some value => decoder value

/-- The next field is read, and then those behind it.  It holds `absent` before it is read. -/
theorem readFields_of {written : Nat → String → Option Value} {position : Nat} {name : String}
    {absence : Absence} {decoder : Decoder α} {place : α → ρ → ρ} {fields : List (RecordField ρ)}
    {record result : ρ} (absent : α) (holds : place absent record = record) :
    readFields written position (.of name absence decoder place :: fields) record = .ok result ↔
      ∃ read, readWritten decoder absent (written position name) = .ok read ∧
        readFields written (position + 1) fields (place read record) = .ok result := by
  cases given : written position name with
  | none => simp [readFields, RecordField.of, given, readWritten, holds]
  | some value => simp [readFields, RecordField.of, given, readWritten, bind_eq_ok, map_eq_ok]

/-! ## What is written for texts, lists and objects -/

/-- The items of an array; a value of another shape has none. -/
def Value.items : Value → List Value
  | .array items => items
  | _ => []

/-- The members of an object; a value of another shape has none. -/
def Value.members : Value → List (String × Value)
  | .object members => members
  | _ => []

theorem Value.NamesDistinct.of_mem_items {value item : Value} (distinct : value.NamesDistinct)
    (member : item ∈ value.items) : item.NamesDistinct := by
  cases value with
  | array items => exact namesDistinct_array.mp distinct item member
  | null | bool | number | string | object => cases member

theorem Value.NamesDistinct.of_mem_members {value found : Value} {name : String}
    (distinct : value.NamesDistinct) (member : (name, found) ∈ value.members) :
    found.NamesDistinct := by
  cases value with
  | object members => exact (namesDistinct_object.mp distinct).2 _ member
  | null | bool | number | string | array => cases member

theorem Value.NamesDistinct.nodup_members {value : Value} (distinct : value.NamesDistinct) :
    (value.members.map Prod.fst).Nodup := by
  cases value with
  | object members => exact (namesDistinct_object.mp distinct).1
  | null | bool | number | string | array => exact List.nodup_nil

theorem anyValue_eq_ok {value read : Value} : anyValue value = .ok read ↔ value = read := by
  simp [anyValue]

/-- A text that may be absent is the text that is written, if one is. -/
theorem text_of_readWritten {written : Option Value} {read : Option String}
    (done : readWritten (optional text) none written = .ok read) :
    read = written.bind Value.text? := by
  cases written with
  | none =>
      cases done
      rfl
  | some value => cases value <;> cases done <;> rfl

/-- A list of any values is read from an array as its items. -/
theorem listOf_anyValue_eq_ok {value : Value} {read : List Value} :
    listOf anyValue value = .ok read ↔ value = .array read := by
  cases value with
  | array items =>
      simp only [listOf, mapM_eq_ok, anyValue_eq_ok, List.forall₂_eq_eq_eq, Value.array.injEq]
  | null | bool | number | string | object => simp [listOf]

/-- The members of an object with any values are read as they are. -/
theorem membersOf_anyValue_eq_ok {value : Value} {read : List (String × Value)} :
    membersOf anyValue value = .ok read ↔ value = .object read := by
  cases value with
  | object members =>
      have pairs : (fun (member found : String × Value) =>
          ((anyValue member.2).map fun value => (member.1, value)) = .ok found) = Eq := by
        funext member found
        simp [map_eq_ok, anyValue_eq_ok]
      simp only [membersOf, mapM_eq_ok, pairs, List.forall₂_eq_eq_eq, Value.object.injEq]
  | null | bool | number | string | array => simp [membersOf]

/-- A list that may be absent has the items that are written, if any are. -/
theorem items_of_readWritten {written : Option Value} {read : List Value}
    (done : readWritten (listOf anyValue) [] written = .ok read) :
    read = (written.map Value.items).getD [] := by
  cases written with
  | none => exact (Except.ok.inj done).symm
  | some value =>
      obtain rfl := listOf_anyValue_eq_ok.mp done
      rfl

/-- An object that may be absent has the members that are written, if any are. -/
theorem members_of_readWritten {written : Option Value} {read : List (String × Value)}
    (done : readWritten (membersOf anyValue) [] written = .ok read) :
    read = (written.map Value.members).getD [] := by
  cases written with
  | none => exact (Except.ok.inj done).symm
  | some value =>
      obtain rfl := membersOf_anyValue_eq_ok.mp done
      rfl

/-- The members of an object that may be absent are found exactly if it is written. -/
theorem readWritten_object_eq_ok {written : Option Value} {read : List (String × Value)} :
    readWritten (optional (membersOf anyValue)) none written = .ok (some read) ↔
      written = some (.object read) := by
  cases written with
  | none => simp [readWritten]
  | some value =>
      cases value with
      | object members => simp [readWritten, optional, map_eq_ok, membersOf_anyValue_eq_ok]
      | null => simp [readWritten, optional]
      | bool | number | string | array =>
          simp [readWritten, optional, map_eq_ok, membersOf_anyValue_eq_ok]

end ServiceCatalog.Json
