import Mathlib.Data.List.Forall2

/-!
# Computations that succeed

A computation that may fail succeeds exactly if all its steps do, and then its result is put
together from theirs.  A list that is gone through succeeds item by item (`mapM_eq_ok`), so its
results are related to the items one by one, and each has its partner on the other side.
-/

namespace ServiceCatalog

set_option autoImplicit false

variable {ε δ α β : Type}

theorem bind_eq_ok {first : Except ε α} {next : α → Except ε β} {result : β} :
    first >>= next = .ok result ↔ ∃ value, first = .ok value ∧ next value = .ok result := by
  cases first with
  | error cause => simp [bind, Except.bind]
  | ok value => simp [bind, Except.bind]

/-- A computation fails exactly if its first step does, or the others do. -/
theorem bind_eq_error {first : Except ε α} {next : α → Except ε β} {cause : ε} :
    first >>= next = .error cause ↔
      first = .error cause ∨ ∃ value, first = .ok value ∧ next value = .error cause := by
  cases first with
  | error other => simp [bind, Except.bind]
  | ok value => simp [bind, Except.bind]

theorem ok_ne_error {value : α} {cause : ε} : (Except.ok value : Except ε α) ≠ .error cause := by
  intro same
  cases same

/-- A computation fails for a cause only if one of its steps does. -/
theorem bind_ne_error {first : Except ε α} {next : α → Except ε β} {cause : ε}
    (start : first ≠ .error cause) (others : ∀ value, next value ≠ .error cause) :
    first >>= next ≠ .error cause := by
  cases first with
  | error other => exact fun same => start (congrArg Except.error (Except.error.inj same))
  | ok value => exact others value

theorem foldlM_ne_error {step : β → α → Except ε β} {cause : ε}
    (each : ∀ gathered item, step gathered item ≠ .error cause) (items : List α) (gathered : β) :
    items.foldlM step gathered ≠ .error cause := by
  induction items generalizing gathered with
  | nil => exact ok_ne_error
  | cons item items ih =>
      rw [List.foldlM_cons]
      exact bind_ne_error (each gathered item) ih

/-- **A list is gone through up to the first item that fails.** -/
theorem foldlM_eq_error {step : β → α → Except ε β} {items : List α} {gathered : β} {cause : ε} :
    items.foldlM step gathered = .error cause ↔
      ∃ before item after reached, items = before ++ item :: after ∧
        before.foldlM step gathered = .ok reached ∧ step reached item = .error cause := by
  induction items generalizing gathered with
  | nil =>
      constructor
      · exact fun same => absurd same ok_ne_error
      · rintro ⟨before, item, after, -, split, -⟩
        simp at split
  | cons first rest ih =>
      rw [List.foldlM_cons, bind_eq_error]
      constructor
      · rintro (fails | ⟨next, done, later⟩)
        · exact ⟨[], first, rest, gathered, rfl, rfl, fails⟩
        · obtain ⟨before, item, after, reached, rfl, passed, fails⟩ := ih.mp later
          refine ⟨first :: before, item, after, reached, rfl, ?_, fails⟩
          exact bind_eq_ok.mpr ⟨next, done, passed⟩
      · rintro ⟨before, item, after, reached, split, passed, fails⟩
        cases before with
        | nil =>
            obtain ⟨rfl, rfl⟩ := List.cons_eq_cons.mp split
            obtain rfl := Except.ok.inj passed
            exact .inl fails
        | cons other before =>
            obtain ⟨rfl, rfl⟩ := List.cons_eq_cons.mp split
            rw [List.foldlM_cons] at passed
            obtain ⟨next, done, passed⟩ := bind_eq_ok.mp passed
            exact .inr ⟨next, done, ih.mpr ⟨before, item, after, reached, rfl, passed, fails⟩⟩

theorem map_eq_ok {first : Except ε α} {change : α → β} {result : β} :
    first.map change = .ok result ↔ ∃ value, first = .ok value ∧ change value = result := by
  cases first with
  | error cause => simp [Except.map]
  | ok value => simp [Except.map]

theorem mapError_eq_ok {first : Except ε α} {change : ε → δ} {result : α} :
    first.mapError change = .ok result ↔ first = .ok result := by
  cases first with
  | error cause => simp [Except.mapError]
  | ok value => simp [Except.mapError]

theorem mapError_eq_error {first : Except ε α} {change : ε → δ} {cause : δ} :
    first.mapError change = .error cause ↔ ∃ own, first = .error own ∧ change own = cause := by
  cases first with
  | error own => simp [Except.mapError]
  | ok value => simp [Except.mapError]

/-- **A list is gone through successfully exactly if every item succeeds.** -/
theorem mapM_eq_ok {step : α → Except ε β} {items : List α} {results : List β} :
    items.mapM step = .ok results ↔
      List.Forall₂ (fun item result => step item = .ok result) items results := by
  induction items generalizing results with
  | nil =>
      rw [List.mapM_nil, List.forall₂_nil_left_iff]
      simp [pure, Except.pure, eq_comm]
  | cons item items ih =>
      rw [List.mapM_cons, List.forall₂_cons_left_iff]
      constructor
      · intro done
        obtain ⟨first, one, others⟩ := bind_eq_ok.mp done
        obtain ⟨rest, many, same⟩ := bind_eq_ok.mp others
        cases same
        exact ⟨first, rest, one, ih.mp many, rfl⟩
      · rintro ⟨first, rest, one, many, rfl⟩
        exact bind_eq_ok.mpr ⟨first, one, bind_eq_ok.mpr ⟨rest, ih.mpr many, rfl⟩⟩

/-- Two computations whose results agree after a change can go on alike from what is changed. -/
theorem bind_congr_map {γ : Type} {first second : Except ε α} {change : α → β}
    (same : first.map change = second.map change) (next : β → Except ε γ) :
    (first >>= fun value => next (change value)) = second >>= fun value => next (change value) := by
  have pass : ∀ computation : Except ε α,
      (computation >>= fun value => next (change value)) = computation.map change >>= next := by
    intro computation
    cases computation <;> rfl
  rw [pass, pass, same]

section Filter

variable {step : α → Except ε (List β)} {keep : α → Bool} {items : List α}

/-- Items that give nothing may be left out. -/
theorem mapM_filter_flatten (nothing : ∀ item ∈ items, keep item = false → step item = .ok []) :
    ((items.filter keep).mapM step).map List.flatten = (items.mapM step).map List.flatten := by
  have onto : ∀ (first : List β) (others : Except ε (List (List β))),
      (others >>= fun results => pure (first :: results)).map List.flatten =
        (others.map List.flatten).map (first ++ ·) := by
    intro first others
    cases others <;> rfl
  induction items with
  | nil => rfl
  | cons item items ih =>
      obtain ⟨here, further⟩ := List.forall_mem_cons.mp nothing
      have rest := ih further
      rw [List.mapM_cons]
      by_cases kept : keep item = true
      · rw [List.filter_cons_of_pos kept, List.mapM_cons]
        cases step item with
        | error cause => rfl
        | ok first => exact (onto first _).trans (rest ▸ (onto first _).symm)
      · rw [List.filter_cons_of_neg kept, here (Bool.eq_false_iff.mpr kept), rest]
        refine Eq.trans ?_ (onto [] _).symm
        cases List.mapM step items <;> rfl

/-- Items that may be left out without loss give nothing. -/
theorem eq_nil_of_filter {results rest : List (List β)}
    (all : List.Forall₂ (fun item result => step item = .ok result) items results)
    (kept : List.Forall₂ (fun item result => step item = .ok result) (items.filter keep) rest) :
    rest.flatten.length ≤ results.flatten.length ∧
      (results.flatten.length ≤ rest.flatten.length →
        ∀ item ∈ items, keep item = false → step item = .ok []) := by
  induction all generalizing rest with
  | nil =>
      cases kept
      simp
  | @cons item first items others gives _ ih =>
      by_cases stays : keep item = true
      · rw [List.filter_cons_of_pos stays] at kept
        obtain ⟨_, rest, givesToo, more, rfl⟩ := List.forall₂_cons_left_iff.mp kept
        cases gives.symm.trans givesToo
        obtain ⟨fewer, lossless⟩ := ih more
        simp only [List.flatten_cons, List.length_append, List.forall_mem_cons]
        refine ⟨by omega, fun same => ⟨fun left => ?_, lossless (by omega)⟩⟩
        rw [stays] at left
        cases left
      · rw [List.filter_cons_of_neg stays] at kept
        obtain ⟨fewer, lossless⟩ := ih kept
        simp only [List.flatten_cons, List.length_append, List.forall_mem_cons]
        refine ⟨by omega, fun same => ⟨fun _ => ?_, lossless (by omega)⟩⟩
        have nothing : first = [] := List.length_eq_zero_iff.mp (by omega)
        rw [gives, nothing]

end Filter

variable {related : α → β → Prop} {items : List α} {results : List β}

theorem exists_of_mem_left (all : List.Forall₂ related items results) {item : α}
    (member : item ∈ items) : ∃ result ∈ results, related item result := by
  induction all with
  | nil => cases member
  | cons first _ ih =>
      rcases List.mem_cons.mp member with rfl | later
      · exact ⟨_, List.mem_cons_self, first⟩
      · obtain ⟨result, there, holds⟩ := ih later
        exact ⟨result, List.mem_cons_of_mem _ there, holds⟩

/-- Items are related in another way if those of the list are. -/
theorem forall₂_imp_of_mem {alike : α → β → Prop} (all : List.Forall₂ related items results)
    (step : ∀ item ∈ items, ∀ result, related item result → alike item result) :
    List.Forall₂ alike items results := by
  refine ((List.forall₂_and_left items results).mpr ⟨fun _ member => member, all⟩).imp ?_
  rintro item result ⟨member, holds⟩
  exact step item member result holds

theorem exists_of_mem_right (all : List.Forall₂ related items results) {result : β}
    (member : result ∈ results) : ∃ item ∈ items, related item result :=
  exists_of_mem_left all.flip member

/-- Partners stand at the same position. -/
theorem exists_of_getElem?_right (all : List.Forall₂ related items results) {position : Nat}
    {result : β} (there : results[position]? = some result) :
    ∃ item, items[position]? = some item ∧ related item result := by
  induction all generalizing position with
  | nil => cases there
  | cons first _ ih =>
      cases position with
      | zero => exact ⟨_, rfl, Option.some.inj there ▸ first⟩
      | succ position => exact ih there

end ServiceCatalog
