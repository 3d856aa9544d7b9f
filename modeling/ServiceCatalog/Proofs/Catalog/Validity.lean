import Mathlib.Data.List.Nodup
import ServiceCatalog.Catalog.Validity

/-!
# What a consistent operation is known to be

An operation is consistent exactly if no rule finds a violation.  The two rules about the path say
together that the placeholders of the template and the names of the path parameters are the same
names (`Operation.mem_placeholders_iff`).  A catalog is consistent exactly if its operations are,
and have different names (`Catalog.validate_eq_ok`).
-/

namespace ServiceCatalog

set_option autoImplicit false

/-- Nothing is repeated exactly if all keys differ, also from those seen before. -/
theorem firstRepeated?_eq_none {α κ : Type} [DecidableEq κ] {key : α → κ} {seen : List κ}
    {items : List α} :
    firstRepeated? key seen items = none ↔
      (items.map key).Nodup ∧ ∀ item ∈ items, key item ∉ seen := by
  induction items generalizing seen with
  | nil => simp [firstRepeated?]
  | cons item items ih =>
      by_cases known : key item ∈ seen
      · simp [firstRepeated?, known]
      · rw [firstRepeated?, if_neg known, ih]
        simp only [List.map_cons, List.nodup_cons, List.mem_map, List.mem_cons, not_or,
          forall_eq_or_imp]
        constructor
        · rintro ⟨distinct, fresh⟩
          exact ⟨⟨fun ⟨other, there, same⟩ => (fresh other there).1 same, distinct⟩, known,
            fun other there => (fresh other there).2⟩
        · rintro ⟨⟨new, distinct⟩, -, fresh⟩
          exact ⟨distinct, fun other there =>
            ⟨fun same => new ⟨other, there, same⟩, fresh other there⟩⟩

namespace Operation

variable {operation : Operation}

/-- The check accepts exactly the operations without a violation. -/
theorem validate_eq_ok : operation.validate = .ok () ↔ operation.violation? = none := by
  cases violated : operation.violation? <;> simp [validate, violated]

/-- An operation has no violation exactly if no rule finds one. -/
theorem violation?_eq_none :
    operation.violation? = none ↔
      operation.duplicateParameter? = none ∧ operation.conflictingBody? = none ∧
        operation.unresolvedPlaceholder? = none ∧ operation.unusedPathParameter? = none := by
  simp only [violation?, Option.or_eq_none_iff]

theorem duplicateParameter?_eq_none :
    operation.duplicateParameter? = none ↔ (operation.parameters.map Parameter.key).Nodup := by
  simp [duplicateParameter?, firstRepeated?_eq_none]

theorem conflictingBody?_eq_none :
    operation.conflictingBody? = none ↔
      (operation.parametersIn .body).length ≤ 1 ∧
        (operation.parametersIn .body ≠ [] → operation.parametersIn .formData = []) := by
  unfold conflictingBody?
  rcases operation.parametersIn .body with - | ⟨body, - | ⟨other, rest⟩⟩ <;> simp

theorem unresolvedPlaceholder?_eq_none :
    operation.unresolvedPlaceholder? = none ↔
      ∀ name ∈ operation.placeholders, name ∈ operation.pathNames := by
  simp [unresolvedPlaceholder?]

theorem unusedPathParameter?_eq_none :
    operation.unusedPathParameter? = none ↔
      ∀ name ∈ operation.pathNames, name ∈ operation.placeholders := by
  simp [unusedPathParameter?]

/-- **The placeholders of a consistent operation are its path parameters.** -/
theorem mem_placeholders_iff (valid : operation.validate = .ok ()) (name : String) :
    name ∈ operation.placeholders ↔ name ∈ operation.pathNames := by
  obtain ⟨-, -, declared, used⟩ := violation?_eq_none.mp (validate_eq_ok.mp valid)
  exact ⟨unresolvedPlaceholder?_eq_none.mp declared name,
    unusedPathParameter?_eq_none.mp used name⟩

theorem mem_pathNames {name : String} :
    name ∈ operation.pathNames ↔
      ∃ parameter ∈ operation.parameters, parameter.placement = .path ∧ parameter.name = name := by
  simp [pathNames, parametersIn, and_assoc]

end Operation

namespace Catalog

theorem violationIn?_eq_none {seen : List String} {operations : List Operation} :
    violationIn? seen operations = none ↔
      (operations.map Operation.name).Nodup ∧
        (∀ operation ∈ operations, operation.name ∉ seen) ∧
        ∀ operation ∈ operations, operation.violation? = none := by
  induction operations generalizing seen with
  | nil => simp [violationIn?]
  | cons operation operations ih =>
      by_cases known : operation.name ∈ seen
      · simp [violationIn?, known]
      · rw [violationIn?, if_neg known, Option.or_eq_none_iff, ih]
        simp only [List.map_cons, List.nodup_cons, List.mem_map, List.mem_cons, not_or,
          forall_eq_or_imp]
        constructor
        · rintro ⟨valid, distinct, fresh, others⟩
          exact ⟨⟨fun ⟨other, there, same⟩ => (fresh other there).1 same, distinct⟩,
            ⟨known, fun other there => (fresh other there).2⟩, valid, others⟩
        · rintro ⟨⟨new, distinct⟩, ⟨-, fresh⟩, valid, others⟩
          exact ⟨valid, distinct, fun other there =>
            ⟨fun same => new ⟨other, there, same⟩, fresh other there⟩, others⟩

/-- **A catalog is consistent exactly if its operations are and have different names.** -/
theorem validate_eq_ok {catalog : Catalog} :
    catalog.validate = .ok () ↔
      (catalog.operations.map Operation.name).Nodup ∧
        ∀ operation ∈ catalog.operations, operation.violation? = none := by
  have accepted : catalog.validate = .ok () ↔ violationIn? [] catalog.operations = none := by
    unfold validate violation?
    cases violationIn? [] catalog.operations <;> simp
  rw [accepted, violationIn?_eq_none]
  simp

end Catalog

end ServiceCatalog
