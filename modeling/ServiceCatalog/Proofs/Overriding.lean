import Mathlib.Data.List.Nodup

/-!
# Entries that override others by their keys

Two lists of entries are merged by the keys of the entries: every inherited entry stands in its
place, or the last own entry with its key does, and behind them stand the own entries that override
nothing (`merged`).  Keys stay where they are, so the merged entries have different keys as soon as
the inherited ones have and the further ones have (`nodup_merged`).

Merging looks at nothing but whether keys are equal.  So lists that are related entry by entry merge
to lists that are related entry by entry, if related entries have keys that correspond one to one
(`forall₂_merged`).
-/

namespace ServiceCatalog

set_option autoImplicit false

section Keys

variable {α κ : Type} {key : α → κ}

/-- An entry with a new key may be added at the end. -/
theorem nodup_map_concat {entries : List α} {entry : α} (distinct : (entries.map key).Nodup)
    (new : key entry ∉ entries.map key) : ((entries ++ [entry]).map key).Nodup := by
  rw [List.map_append, List.map_singleton]
  exact List.nodup_append.mpr ⟨distinct, by simp, by
    rintro known there _ own rfl
    exact new (List.mem_singleton.mp own ▸ there)⟩

/-- An entry behind others of different keys has a new key. -/
theorem nodup_of_map_append {entries behind : List α} {entry : α}
    (distinct : (((entries ++ [entry]) ++ behind).map key).Nodup) :
    ((entries ++ [entry]).map key).Nodup ∧ key entry ∉ entries.map key := by
  rw [List.map_append] at distinct
  have front := (List.nodup_append.mp distinct).1
  refine ⟨front, fun known => ?_⟩
  rw [List.map_append, List.map_singleton] at front
  exact (List.nodup_append.mp front).2.2 _ known _ (List.mem_singleton_self _) rfl

/-! ## Merging -/

variable [DecidableEq κ] (key)

/-- The last of some entries that has the key of an entry, or that entry itself. -/
def overridden (overrides : List α) (entry : α) : α :=
  (overrides.reverse.find? fun other => key other = key entry).getD entry

/-- The entries whose keys are not among those of the inherited ones. -/
def further (inherited own : List α) : List α :=
  own.filter fun entry => key entry ∉ inherited.map key

/-- The inherited entries, each overridden by the last own one with its key, and the further own
entries. -/
def merged (inherited own : List α) : List α :=
  inherited.map (overridden key own) ++ further key inherited own

variable {key}

/-- An entry that is overridden keeps its key. -/
theorem key_overridden (overrides : List α) (entry : α) :
    key (overridden key overrides entry) = key entry := by
  unfold overridden
  cases found : overrides.reverse.find? fun other => key other = key entry with
  | none => rfl
  | some other => simpa using List.find?_some found

/-- The first override counts only if no later one has the key. -/
theorem overridden_cons (first : α) (rest : List α) (entry : α) :
    overridden key (first :: rest) entry =
      overridden key rest (if key first = key entry then first else entry) := by
  unfold overridden
  by_cases same : key first = key entry
  · cases found : rest.reverse.find? fun other => key other = key entry <;>
      simp [List.find?_append, same, found]
  · simp [List.find?_append, same]

/-- An override of none of some entries does not count for them. -/
theorem map_overridden_cons_of_fresh {first : α} {entries : List α}
    (fresh : key first ∉ entries.map key) (rest : List α) :
    entries.map (overridden key (first :: rest)) = entries.map (overridden key rest) := by
  refine List.map_congr_left fun entry member => ?_
  have differs : key first ≠ key entry := fun same => fresh (same ▸ List.mem_map_of_mem member)
  rw [overridden_cons, if_neg differs]

/-- An override does not count if a later one has its key. -/
theorem overridden_append_cons {before behind : List α} {entry : α}
    (again : key entry ∈ behind.map key) :
    overridden key (before ++ entry :: behind) = overridden key (before ++ behind) := by
  obtain ⟨later, there, same⟩ := List.mem_map.mp again
  funext original
  unfold overridden
  by_cases hit : key entry = key original
  · obtain ⟨found, finds⟩ : ∃ found,
        behind.reverse.find? (fun other => key other = key original) = some found := by
      refine Option.isSome_iff_exists.mp (List.find?_isSome.mpr ⟨later, ?_, ?_⟩)
      · exact List.mem_reverse.mpr there
      · simp [same, hit]
    simp [List.find?_append, finds]
  · simp [List.find?_append, hit]

theorem map_key_overridden (overrides entries : List α) :
    (entries.map (overridden key overrides)).map key = entries.map key := by
  simp [key_overridden]

theorem further_cons_of_known {entry : α} {inherited : List α} (own : List α)
    (known : key entry ∈ inherited.map key) :
    further key inherited (entry :: own) = further key inherited own :=
  List.filter_cons_of_neg (by simpa using known)

theorem further_cons_of_fresh {entry : α} {inherited : List α} (own : List α)
    (fresh : key entry ∉ inherited.map key) :
    further key inherited (entry :: own) = entry :: further key inherited own :=
  List.filter_cons_of_pos (by simpa using fresh)

theorem further_append_cons_of_known {entry : α} {inherited before behind : List α}
    (known : key entry ∈ inherited.map key) :
    further key inherited (before ++ entry :: behind) = further key inherited (before ++ behind) := by
  simp only [further, List.filter_append]
  rw [List.filter_cons_of_neg (by simpa using known)]

theorem sublist_further {entries own : List α} (inherited : List α) (part : entries.Sublist own) :
    (further key inherited entries).Sublist (further key inherited own) :=
  part.filter _

/-- Which entries are further ones depends on the inherited keys alone. -/
theorem further_congr {inherited other : List α} (keys : inherited.map key = other.map key)
    (own : List α) : further key inherited own = further key other own := by
  simp only [further, keys]

/-- Where nothing is inherited, nothing is overridden. -/
theorem further_nil (own : List α) : further key [] own = own := by
  simp [further]

theorem merged_nil (own : List α) : merged key [] own = own := by
  simp [merged, further_nil]

/-- Merged entries have different keys if the inherited ones have and the further ones have. -/
theorem nodup_merged {inherited own : List α} (distinct : (inherited.map key).Nodup)
    (distinctFurther : ((further key inherited own).map key).Nodup) :
    ((merged key inherited own).map key).Nodup := by
  rw [merged, List.map_append, map_key_overridden]
  refine List.nodup_append.mpr ⟨distinct, distinctFurther, ?_⟩
  rintro shared there _ further rfl
  obtain ⟨entry, member, same⟩ := List.mem_map.mp further
  have fresh := (List.mem_filter.mp member).2
  simp only [decide_eq_true_eq] at fresh
  exact fresh (same ▸ there)

theorem mem_of_mem_merged {inherited own : List α} {entry : α}
    (member : entry ∈ merged key inherited own) : entry ∈ inherited ∨ entry ∈ own := by
  rcases List.mem_append.mp member with overriding | further
  · obtain ⟨original, there, rfl⟩ := List.mem_map.mp overriding
    unfold overridden
    cases found : own.reverse.find? fun other => key other = key original with
    | none => exact .inl there
    | some other => exact .inr (List.mem_reverse.mp (List.mem_of_find?_eq_some found))
  · exact .inr (List.mem_of_mem_filter further)

end Keys

/-! ## Related entries -/

section Related

variable {α β κ ι : Type} {key : α → κ} {label : β → ι} {related : α → β → Prop}
  {alike : κ → ι → Prop}

/-- Entries are related to others, the keys of which correspond to theirs one to one. -/
structure RelatesKeys (related : α → β → Prop) (key : α → κ) (label : β → ι)
    (alike : κ → ι → Prop) : Prop where
  unique : Relator.BiUnique alike
  keys : ∀ {entry : α} {other : β}, related entry other → alike (key entry) (label other)

theorem related_head?_getD {entries : List α} {others : List β}
    (all : List.Forall₂ related entries others) {entry : α} {other : β}
    (here : related entry other) : related (entries.head?.getD entry) (others.head?.getD other) := by
  cases all with
  | nil => exact here
  | cons first _ => exact first

namespace RelatesKeys

variable (relates : RelatesKeys related key label alike)

include relates

theorem eq_iff {first second : α} {one two : β} (here : related first one)
    (there : related second two) : key first = key second ↔ label one = label two :=
  Relator.rel_eq relates.unique (relates.keys here) (relates.keys there)

theorem forall₂_map {entries : List α} {others : List β}
    (all : List.Forall₂ related entries others) :
    List.Forall₂ alike (entries.map key) (others.map label) := by
  refine List.rel_map ?_ all
  intro _ _ here
  exact relates.keys here

theorem mem_iff {entry : α} {other : β} {entries : List α} {others : List β}
    (here : related entry other) (all : List.Forall₂ related entries others) :
    key entry ∈ entries.map key ↔ label other ∈ others.map label :=
  List.rel_mem relates.unique (relates.keys here) (relates.forall₂_map all)

theorem nodup_iff {entries : List α} {others : List β}
    (all : List.Forall₂ related entries others) :
    (entries.map key).Nodup ↔ (others.map label).Nodup :=
  List.rel_nodup relates.unique (relates.forall₂_map all)

variable [DecidableEq κ] [DecidableEq ι]

theorem overridden_of {overrides : List α} {others : List β}
    (all : List.Forall₂ related overrides others) {entry : α} {other : β}
    (here : related entry other) :
    related (overridden key overrides entry) (overridden label others other) := by
  have candidates : List.Forall₂ related
      (overrides.reverse.filter fun first => key first = key entry)
      (others.reverse.filter fun one => label one = label other) :=
    List.rel_filter (fun _ _ there => by simpa using relates.eq_iff there here)
      (List.rel_reverse all)
  simp only [overridden, ← List.head?_filter]
  exact related_head?_getD candidates here

theorem forall₂_further {inherited own : List α} {kept added : List β}
    (all : List.Forall₂ related inherited kept) (others : List.Forall₂ related own added) :
    List.Forall₂ related (further key inherited own) (further label kept added) :=
  List.rel_filter (fun _ _ here => by simpa using (relates.mem_iff here all).not) others

/-- **Lists whose entries have corresponding keys are merged alike.** -/
theorem forall₂_merged {inherited own : List α} {kept added : List β}
    (all : List.Forall₂ related inherited kept) (others : List.Forall₂ related own added) :
    List.Forall₂ related (merged key inherited own) (merged label kept added) :=
  List.rel_append (List.rel_map (fun _ _ here => relates.overridden_of others here) all)
    (relates.forall₂_further all others)

end RelatesKeys

end Related

end ServiceCatalog
