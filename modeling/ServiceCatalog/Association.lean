/-!
# Association lists

An association list gives values to keys and keeps the order in which the keys first came.
Objects, argument bags and caches are such lists.  Three operations change one: `assign` gives a
key a value, in its place if the key is there and at the end otherwise; `assignAll` builds a list
from a sequence of assignments; `unassign` takes a key away.

A list is looked at through `List.lookup`.  A key that was given a value has that value afterwards,
a key that was taken away has none, and every other key keeps what it had (`lookup_assign`,
`lookup_unassign`).  Giving a key the value it already has changes nothing (`assign_of_lookup`), and
a list that is built by assignments has no key twice (`nodup_assignAll`) and gives each key the
value of its last assignment (`lookup_assignAll`).

A list in which no key occurs twice gives every key the value that it is listed with, and so the
order of its entries does not matter (`lookup_perm`).
-/

namespace ServiceCatalog

set_option autoImplicit false

section Operations

variable {κ α : Type} [BEq κ]

/-- Gives a key a value: in its place if the key is there, else at the end. -/
def assign (key : κ) (value : α) : List (κ × α) → List (κ × α)
  | [] => [(key, value)]
  | (other, held) :: rest =>
      if key == other then (other, value) :: rest else (other, held) :: assign key value rest

/-- The list that a sequence of assignments leaves. -/
def assignAll (assignments : List (κ × α)) : List (κ × α) :=
  assignments.foldl (fun assigned entry => assign entry.1 entry.2 assigned) []

/-- Takes a key away. -/
def unassign (key : κ) (entries : List (κ × α)) : List (κ × α) :=
  entries.filter fun entry => !(key == entry.1)

end Operations

/-! ## What a list gives for a key -/

variable {κ α : Type} [BEq κ] [LawfulBEq κ]

@[simp] theorem lookup_assign_self (key : κ) (value : α) (entries : List (κ × α)) :
    (assign key value entries).lookup key = some value := by
  induction entries with
  | nil => simp [assign]
  | cons entry rest ih =>
      obtain ⟨other, held⟩ := entry
      by_cases same : key = other
      · subst same
        simp [assign]
      · have differs : (key == other) = false := beq_eq_false_iff_ne.mpr same
        simp [assign, List.lookup_cons, differs, ih]

theorem lookup_assign_of_ne {key other : κ} (different : other ≠ key) (value : α)
    (entries : List (κ × α)) :
    (assign key value entries).lookup other = entries.lookup other := by
  induction entries with
  | nil => simp [assign, different]
  | cons entry rest ih =>
      obtain ⟨listed, held⟩ := entry
      by_cases same : key = listed
      · subst same
        simp [assign, List.lookup_cons, beq_eq_false_iff_ne.mpr different]
      · simp [assign, List.lookup_cons, beq_eq_false_iff_ne.mpr same, ih]

/-- **An assignment changes one key.** -/
theorem lookup_assign [DecidableEq κ] (key other : κ) (value : α) (entries : List (κ × α)) :
    (assign key value entries).lookup other =
      if other = key then some value else entries.lookup other := by
  by_cases same : other = key
  · subst same
    simp
  · simp [same, lookup_assign_of_ne same]

/-- A value that is found is listed under its key. -/
theorem mem_of_lookup_eq_some {key : κ} {value : α} {entries : List (κ × α)}
    (found : entries.lookup key = some value) : (key, value) ∈ entries := by
  obtain ⟨before, after, rfl, -⟩ := List.lookup_eq_some_iff.mp found
  exact List.mem_append_right _ List.mem_cons_self

/-- Giving a key the value it has changes nothing. -/
theorem assign_of_lookup {key : κ} {value : α} {entries : List (κ × α)}
    (found : entries.lookup key = some value) : assign key value entries = entries := by
  induction entries with
  | nil => simp at found
  | cons entry rest ih =>
      obtain ⟨other, held⟩ := entry
      by_cases same : key = other
      · subst same
        simp only [List.lookup_cons_self, Option.some.injEq] at found
        simp [assign, found]
      · have differs : (key == other) = false := beq_eq_false_iff_ne.mpr same
        simp only [List.lookup_cons, differs] at found
        simp [assign, differs, ih found]

/-- Where entries are kept by their keys, a key that is kept has the value it had. -/
theorem lookup_filter (keep : κ → Bool) (key : κ) (entries : List (κ × α)) :
    (entries.filter fun entry => keep entry.1).lookup key =
      if keep key then entries.lookup key else none := by
  induction entries with
  | nil => simp
  | cons entry rest ih =>
      obtain ⟨listed, held⟩ := entry
      by_cases same : key = listed
      · subst same
        by_cases kept : keep key = true
        · simp [kept]
        · simpa [kept] using ih
      · have differs : (key == listed) = false := beq_eq_false_iff_ne.mpr same
        by_cases kept : keep listed = true
        · simp [kept, List.lookup_cons, differs, ih]
        · simp [kept, List.lookup_cons, differs, ih]

/-- **Taking a key away changes one key.** -/
theorem lookup_unassign [DecidableEq κ] (key other : κ) (entries : List (κ × α)) :
    (unassign key entries).lookup other = if other = key then none else entries.lookup other := by
  rw [unassign, lookup_filter fun listed => !(key == listed)]
  by_cases same : other = key
  · simp [same]
  · simp [same, Ne.symm same]

/-! ## Keys that occur once -/

/-- An assignment adds its entry and keeps others, perhaps with the new value. -/
theorem mem_of_mem_assign {key : κ} {value : α} {entry : κ × α} {entries : List (κ × α)}
    (member : entry ∈ assign key value entries) : entry.2 = value ∨ entry ∈ entries := by
  induction entries with
  | nil =>
      obtain rfl := List.mem_singleton.mp member
      exact .inl rfl
  | cons first rest ih =>
      obtain ⟨listed, held⟩ := first
      by_cases same : key = listed
      · subst same
        simp only [assign, BEq.rfl, if_true, List.mem_cons] at member
        rcases member with rfl | later
        · exact .inl rfl
        · exact .inr (List.mem_cons_of_mem _ later)
      · simp only [assign, beq_eq_false_iff_ne.mpr same, Bool.false_eq_true, if_false,
          List.mem_cons] at member
        rcases member with rfl | later
        · exact .inr List.mem_cons_self
        · exact (ih later).imp_right (List.mem_cons_of_mem _)

/-- The keys of an assignment: those that were there, and its own at the end if it is new. -/
theorem keys_assign [DecidableEq κ] (key : κ) (value : α) (entries : List (κ × α)) :
    (assign key value entries).map Prod.fst =
      if key ∈ entries.map Prod.fst then entries.map Prod.fst
      else entries.map Prod.fst ++ [key] := by
  induction entries with
  | nil => simp [assign]
  | cons entry rest ih =>
      obtain ⟨listed, held⟩ := entry
      by_cases same : key = listed
      · subst same
        simp [assign]
      · simp only [assign, beq_eq_false_iff_ne.mpr same, Bool.false_eq_true, if_false,
          List.map_cons, ih, List.mem_cons, same, false_or]
        split <;> rfl

theorem nodup_assign [DecidableEq κ] {entries : List (κ × α)}
    (distinct : (entries.map Prod.fst).Nodup) (key : κ) (value : α) :
    ((assign key value entries).map Prod.fst).Nodup := by
  rw [keys_assign]
  split
  · exact distinct
  · next unknown =>
      exact List.nodup_append.mpr ⟨distinct, by simp, by
        rintro listed there _ own rfl
        exact unknown (List.mem_singleton.mp own ▸ there)⟩

/-- A new key is put at the end. -/
theorem assign_of_notMem {key : κ} {entries : List (κ × α)} (fresh : key ∉ entries.map Prod.fst)
    (value : α) : assign key value entries = entries ++ [(key, value)] := by
  induction entries with
  | nil => rfl
  | cons entry rest ih =>
      obtain ⟨listed, held⟩ := entry
      rw [List.map_cons, List.mem_cons, not_or] at fresh
      simp [assign, beq_eq_false_iff_ne.mpr fresh.1, ih fresh.2]

/-- Where no key occurs twice, a key has the value that it is listed with. -/
theorem lookup_eq_some_iff_mem {entries : List (κ × α)} (distinct : (entries.map Prod.fst).Nodup)
    (key : κ) (value : α) : entries.lookup key = some value ↔ (key, value) ∈ entries := by
  induction entries with
  | nil => simp
  | cons entry rest ih =>
      obtain ⟨listed, held⟩ := entry
      obtain ⟨fresh, distinctRest⟩ := List.nodup_cons.mp distinct
      by_cases same : key = listed
      · subst same
        have absent : (key, value) ∉ rest := fun member =>
          fresh (List.mem_map.mpr ⟨_, member, rfl⟩)
        simp [absent, eq_comm]
      · simp [List.lookup_cons, beq_eq_false_iff_ne.mpr same, ih distinctRest, same]

/-- Where no key occurs twice, the order of the entries does not matter. -/
theorem lookup_perm {first second : List (κ × α)} (distinct : (first.map Prod.fst).Nodup)
    (perm : first.Perm second) (key : κ) : first.lookup key = second.lookup key := by
  have distinctSecond : (second.map Prod.fst).Nodup := (perm.map Prod.fst).nodup distinct
  ext value
  rw [lookup_eq_some_iff_mem distinct, lookup_eq_some_iff_mem distinctSecond, perm.mem_iff]

/-! ## Assignments one after another -/

/-- Of several assignments to a key the last one counts, and else what was there. -/
theorem lookup_foldl_assign [DecidableEq κ] (assignments start : List (κ × α)) (key : κ) :
    (assignments.foldl (fun assigned entry => assign entry.1 entry.2 assigned) start).lookup key =
      (assignments.reverse ++ start).lookup key := by
  induction assignments generalizing start with
  | nil => rfl
  | cons first rest ih =>
      rw [List.foldl_cons, ih, List.reverse_cons, List.append_assoc, List.lookup_append,
        List.lookup_append, lookup_assign, List.singleton_append, List.lookup_cons]
      by_cases same : key = first.1
      · simp [same]
      · simp [same, beq_eq_false_iff_ne.mpr same]

/-- Of several assignments to a key the last one counts. -/
theorem lookup_assignAll [DecidableEq κ] (assignments : List (κ × α)) (key : κ) :
    (assignAll assignments).lookup key = assignments.reverse.lookup key := by
  rw [assignAll, lookup_foldl_assign, List.append_nil]

theorem nodup_foldl_assign [DecidableEq κ] (assignments : List (κ × α)) {start : List (κ × α)}
    (distinct : (start.map Prod.fst).Nodup) :
    ((assignments.foldl (fun assigned entry => assign entry.1 entry.2 assigned) start).map
      Prod.fst).Nodup := by
  induction assignments generalizing start with
  | nil => exact distinct
  | cons first rest ih => exact ih (nodup_assign distinct first.1 first.2)

/-- **A list that is built by assignments has no key twice.** -/
theorem nodup_assignAll [DecidableEq κ] (assignments : List (κ × α)) :
    ((assignAll assignments).map Prod.fst).Nodup :=
  nodup_foldl_assign assignments List.nodup_nil

/-- Assignments to new and different keys are put at the end. -/
theorem foldl_assign_of_nodup {entries start : List (κ × α)}
    (distinct : ((start ++ entries).map Prod.fst).Nodup) :
    entries.foldl (fun assigned entry => assign entry.1 entry.2 assigned) start =
      start ++ entries := by
  induction entries generalizing start with
  | nil => rw [List.foldl_nil, List.append_nil]
  | cons first rest ih =>
      have fresh : first.1 ∉ start.map Prod.fst := fun member => by
        rw [List.map_append, List.nodup_append] at distinct
        exact distinct.2.2 first.1 member first.1 (by simp) rfl
      rw [List.append_cons] at distinct ⊢
      rw [List.foldl_cons, assign_of_notMem fresh, ih distinct]

/-- **Assignments to different keys are kept as they are.** -/
theorem assignAll_of_nodup {entries : List (κ × α)} (distinct : (entries.map Prod.fst).Nodup) :
    assignAll entries = entries :=
  foldl_assign_of_nodup distinct

theorem mem_of_mem_foldl_assign {entry : κ × α} {assignments start : List (κ × α)}
    (member : entry ∈
      assignments.foldl (fun assigned entry => assign entry.1 entry.2 assigned) start) :
    (∃ assigned ∈ assignments, assigned.2 = entry.2) ∨ entry ∈ start := by
  induction assignments generalizing start with
  | nil => exact .inr member
  | cons first rest ih =>
      rcases ih member with ⟨assigned, there, same⟩ | held
      · exact .inl ⟨assigned, List.mem_cons_of_mem _ there, same⟩
      · exact (mem_of_mem_assign held).imp_left fun new =>
          ⟨first, List.mem_cons_self, new.symm⟩

/-- The values of a list that is built by assignments were assigned. -/
theorem mem_of_mem_assignAll {entry : κ × α} {assignments : List (κ × α)}
    (member : entry ∈ assignAll assignments) :
    ∃ assigned ∈ assignments, assigned.2 = entry.2 :=
  (mem_of_mem_foldl_assign member).resolve_right List.not_mem_nil

end ServiceCatalog
