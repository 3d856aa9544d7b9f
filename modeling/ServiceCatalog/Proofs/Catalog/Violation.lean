import ServiceCatalog.Proofs.Catalog.Division
import ServiceCatalog.Proofs.Catalog.Validity

/-!
# Which violation is reported

However many rules a catalog breaks, its check reports one violation.  It is the first fault
(`Catalog.FirstFault`): that of the first operation at fault, where the name of an operation is
looked at before its rules (`Operation.FirstFaultBehind`), and of this operation it is the first
rule that is broken, with the first parameter or placeholder that breaks it
(`Operation.FirstFault`).  Placeholders are those that occur in the path: the rules speak of where
they stand (`Template.Occurs`, `Template.HoldsName`), not of a scan that gathers their names.

A catalog without a fault is accepted, and of any other one exactly the first fault is reported
(`validation_reports_the_first_fault`).  Both scans go on from what they have seen
(`firstRepeated?_eq_some`, `Catalog.violationIn?_append`), so nothing behind the first fault is
looked at.
-/

namespace ServiceCatalog

set_option autoImplicit false

/-- The first repeated item has a key that was seen before, and none is repeated before it. -/
theorem firstRepeated?_eq_some {α κ : Type} [DecidableEq κ] {key : α → κ} {seen : List κ}
    {items : List α} {item : α} :
    firstRepeated? key seen items = some item ↔
      ∃ before after, items = before ++ item :: after ∧ firstRepeated? key seen before = none ∧
        (key item ∈ seen ∨ key item ∈ before.map key) := by
  induction items generalizing seen with
  | nil => simp [firstRepeated?]
  | cons first rest ih =>
      by_cases known : key first ∈ seen
      · rw [firstRepeated?, if_pos known, Option.some.injEq]
        constructor
        · rintro rfl
          exact ⟨[], rest, rfl, rfl, .inl known⟩
        · rintro ⟨before, after, split, clean, -⟩
          cases before with
          | nil => exact (List.cons_eq_cons.mp split).1
          | cons other before =>
              obtain ⟨rfl, -⟩ := List.cons_eq_cons.mp split
              simp [firstRepeated?, known] at clean
      · rw [firstRepeated?, if_neg known, ih]
        constructor
        · rintro ⟨before, after, rfl, clean, earlier⟩
          refine ⟨first :: before, after, rfl, by rwa [firstRepeated?, if_neg known], ?_⟩
          simpa [or_assoc, or_left_comm] using earlier
        · rintro ⟨before, after, split, clean, earlier⟩
          cases before with
          | nil =>
              obtain ⟨rfl, -⟩ := List.cons_eq_cons.mp split
              exact absurd earlier (by simpa using known)
          | cons other before =>
              obtain ⟨rfl, rfl⟩ := List.cons_eq_cons.mp split
              rw [firstRepeated?, if_neg known] at clean
              refine ⟨before, after, rfl, clean, ?_⟩
              simpa [or_assoc, or_left_comm] using earlier

/-- The first item that is not known stands behind items that are. -/
theorem find?_notKnown_eq_some {known items : List String} {item : String} :
    (items.find? fun other => !known.contains other) = some item ↔
      ∃ before after, items = before ++ item :: after ∧ (∀ earlier ∈ before, earlier ∈ known) ∧
        item ∉ known := by
  simp only [List.find?_eq_some_iff_append, Bool.not_eq_true', Bool.not_not, List.contains_eq_mem,
    decide_eq_false_iff_not, decide_eq_true_eq]
  constructor
  · rintro ⟨unknown, before, after, split, known⟩
    exact ⟨before, after, split, known, unknown⟩
  · rintro ⟨before, after, split, known, unknown⟩
    exact ⟨unknown, before, after, split, known⟩

namespace Operation

open Template

/-! ## The first fault of an operation -/

/-- An operation obeys all rules.  The path parameters are the names that placeholders of the path
have. -/
structure Consistent (operation : Operation) : Prop where
  distinct : (operation.parameters.map Parameter.key).Nodup
  oneBody : (operation.parametersIn .body).length ≤ 1
  bodyOrForm : operation.parametersIn .body ≠ [] → operation.parametersIn .formData = []
  declared : ∀ name, HoldsName operation.path.toList name → name ∈ operation.pathNames
  used : ∀ name ∈ operation.pathNames, HoldsName operation.path.toList name

/-- The first rule that an operation breaks, with the first item that breaks it.  The rules before
it are obeyed. -/
inductive FirstFault (operation : Operation) : CatalogError → Prop where
  | duplicateParameter {before after : List Parameter} {parameter : Parameter}
      (split : operation.parameters = before ++ parameter :: after)
      (distinct : (before.map Parameter.key).Nodup)
      (repeated : parameter.key ∈ before.map Parameter.key) :
      FirstFault operation (.duplicateParameter operation.name parameter.name)
  | severalBodies
      (distinct : (operation.parameters.map Parameter.key).Nodup)
      (several : 1 < (operation.parametersIn .body).length) :
      FirstFault operation
        (.conflictingBody operation.name (.severalBodies (operation.parametersIn .body).length))
  | bodyAndForm
      (distinct : (operation.parameters.map Parameter.key).Nodup)
      (single : (operation.parametersIn .body).length = 1)
      (form : operation.parametersIn .formData ≠ []) :
      FirstFault operation (.conflictingBody operation.name .bodyAndForm)
  | unresolvedPlaceholder {before after : List Char} {name : String}
      (distinct : (operation.parameters.map Parameter.key).Nodup)
      (oneBody : (operation.parametersIn .body).length ≤ 1)
      (bodyOrForm : operation.parametersIn .body ≠ [] → operation.parametersIn .formData = [])
      (occurs : Occurs operation.path.toList before name.toList after) (named : name ≠ "")
      (declared : ∀ earlier, HoldsName before earlier → earlier ∈ operation.pathNames)
      (undeclared : name ∉ operation.pathNames) :
      FirstFault operation (.unresolvedPlaceholder operation.name operation.path name)
  | unusedPathParameter {before after : List String} {name : String}
      (distinct : (operation.parameters.map Parameter.key).Nodup)
      (oneBody : (operation.parametersIn .body).length ≤ 1)
      (bodyOrForm : operation.parametersIn .body ≠ [] → operation.parametersIn .formData = [])
      (declared : ∀ name, HoldsName operation.path.toList name → name ∈ operation.pathNames)
      (split : operation.pathNames = before ++ name :: after)
      (used : ∀ earlier ∈ before, HoldsName operation.path.toList earlier)
      (unused : ¬ HoldsName operation.path.toList name) :
      FirstFault operation (.unusedPathParameter operation.name operation.path name)

variable {operation : Operation} {violation : CatalogError}

theorem mem_placeholders {name : String} :
    name ∈ operation.placeholders ↔ HoldsName operation.path.toList name :=
  mem_names_iff

theorem violation?_eq_none_iff_consistent :
    operation.violation? = none ↔ operation.Consistent := by
  rw [violation?_eq_none, duplicateParameter?_eq_none, conflictingBody?_eq_none,
    unresolvedPlaceholder?_eq_none, unusedPathParameter?_eq_none]
  simp only [mem_placeholders]
  constructor
  · rintro ⟨distinct, ⟨oneBody, bodyOrForm⟩, declared, used⟩
    exact ⟨distinct, oneBody, bodyOrForm, declared, used⟩
  · rintro ⟨distinct, oneBody, bodyOrForm, declared, used⟩
    exact ⟨distinct, ⟨oneBody, bodyOrForm⟩, declared, used⟩

theorem duplicateParameter?_eq_some :
    operation.duplicateParameter? = some violation ↔
      ∃ before parameter after, operation.parameters = before ++ parameter :: after ∧
        (before.map Parameter.key).Nodup ∧ parameter.key ∈ before.map Parameter.key ∧
        violation = .duplicateParameter operation.name parameter.name := by
  simp only [duplicateParameter?, Option.map_eq_some_iff, firstRepeated?_eq_some,
    firstRepeated?_eq_none, List.not_mem_nil, false_or, not_false_eq_true, implies_true, and_true]
  constructor
  · rintro ⟨parameter, ⟨before, after, split, distinct, repeated⟩, rfl⟩
    exact ⟨before, parameter, after, split, distinct, repeated, rfl⟩
  · rintro ⟨before, parameter, after, split, distinct, repeated, rfl⟩
    exact ⟨parameter, ⟨before, after, split, distinct, repeated⟩, rfl⟩

theorem conflictingBody?_eq_some :
    operation.conflictingBody? = some violation ↔
      (1 < (operation.parametersIn .body).length ∧ violation =
        .conflictingBody operation.name (.severalBodies (operation.parametersIn .body).length)) ∨
      ((operation.parametersIn .body).length = 1 ∧ operation.parametersIn .formData ≠ [] ∧
        violation = .conflictingBody operation.name .bodyAndForm) := by
  rw [conflictingBody?]
  rcases Nat.lt_trichotomy (operation.parametersIn .body).length 1 with none | single | several
  · simp [Nat.not_lt.mpr (Nat.le_of_lt none), Nat.ne_of_lt none]
  · by_cases form : operation.parametersIn .formData = []
    · simp [single, form]
    · simp [single, form, eq_comm]
  · rw [if_pos several, Option.some.injEq]
    simp [several, Nat.ne_of_gt several, @eq_comm _ violation]

theorem unresolvedPlaceholder?_eq_some :
    operation.unresolvedPlaceholder? = some violation ↔
      ∃ name before after, Occurs operation.path.toList before name.toList after ∧ name ≠ "" ∧
        (∀ earlier, HoldsName before earlier → earlier ∈ operation.pathNames) ∧
        name ∉ operation.pathNames ∧
        violation = .unresolvedPlaceholder operation.name operation.path name := by
  simp only [unresolvedPlaceholder?, placeholders, Option.map_eq_some_iff, find?_names_eq_some]
  constructor
  · rintro ⟨name, ⟨named, undeclared, before, after, occurs, declared⟩, rfl⟩
    exact ⟨name, before, after, occurs, named, declared, undeclared, rfl⟩
  · rintro ⟨name, before, after, occurs, named, declared, undeclared, rfl⟩
    exact ⟨name, ⟨named, undeclared, before, after, occurs, declared⟩, rfl⟩

theorem unusedPathParameter?_eq_some :
    operation.unusedPathParameter? = some violation ↔
      ∃ before name after, operation.pathNames = before ++ name :: after ∧
        (∀ earlier ∈ before, HoldsName operation.path.toList earlier) ∧
        ¬ HoldsName operation.path.toList name ∧
        violation = .unusedPathParameter operation.name operation.path name := by
  simp only [unusedPathParameter?, Option.map_eq_some_iff, find?_notKnown_eq_some,
    mem_placeholders]
  constructor
  · rintro ⟨name, ⟨before, after, split, used, unused⟩, rfl⟩
    exact ⟨before, name, after, split, used, unused, rfl⟩
  · rintro ⟨before, name, after, split, used, unused, rfl⟩
    exact ⟨name, ⟨before, after, split, used, unused⟩, rfl⟩

/-- **The violation of an operation is its first fault.** -/
theorem violation?_eq_some : operation.violation? = some violation ↔
    operation.FirstFault violation := by
  simp only [violation?, Option.or_eq_some_iff, duplicateParameter?_eq_none,
    conflictingBody?_eq_none, unresolvedPlaceholder?_eq_none, mem_placeholders]
  constructor
  · rintro (duplicate | ⟨distinct, conflict |
      ⟨⟨oneBody, bodyOrForm⟩, unresolved | ⟨declared, unusedPath⟩⟩⟩)
    · obtain ⟨before, parameter, after, split, distinct, repeated, rfl⟩ :=
        duplicateParameter?_eq_some.mp duplicate
      exact .duplicateParameter split distinct repeated
    · obtain ⟨several, rfl⟩ | ⟨single, form, rfl⟩ := conflictingBody?_eq_some.mp conflict
      · exact .severalBodies distinct several
      · exact .bodyAndForm distinct single form
    · obtain ⟨name, before, after, occurs, named, earlier, undeclared, rfl⟩ :=
        unresolvedPlaceholder?_eq_some.mp unresolved
      exact .unresolvedPlaceholder distinct oneBody bodyOrForm occurs named earlier undeclared
    · obtain ⟨before, name, after, split, earlier, unused, rfl⟩ :=
        unusedPathParameter?_eq_some.mp unusedPath
      exact .unusedPathParameter distinct oneBody bodyOrForm declared split earlier unused
  · intro fault
    cases fault with
    | duplicateParameter split distinct repeated =>
        exact .inl (duplicateParameter?_eq_some.mpr ⟨_, _, _, split, distinct, repeated, rfl⟩)
    | severalBodies distinct several =>
        exact .inr ⟨distinct, .inl (conflictingBody?_eq_some.mpr (.inl ⟨several, rfl⟩))⟩
    | bodyAndForm distinct single form =>
        exact .inr ⟨distinct, .inl (conflictingBody?_eq_some.mpr (.inr ⟨single, form, rfl⟩))⟩
    | unresolvedPlaceholder distinct oneBody bodyOrForm occurs named declared undeclared =>
        exact .inr ⟨distinct, .inr ⟨⟨oneBody, bodyOrForm⟩, .inl (unresolvedPlaceholder?_eq_some.mpr
          ⟨_, _, _, occurs, named, declared, undeclared, rfl⟩)⟩⟩
    | unusedPathParameter distinct oneBody bodyOrForm declared split used unused =>
        exact .inr ⟨distinct, .inr ⟨⟨oneBody, bodyOrForm⟩, .inr ⟨declared,
          unusedPathParameter?_eq_some.mpr ⟨_, _, _, split, used, unused, rfl⟩⟩⟩⟩

/-- The first fault of an operation behind operations with some names. -/
inductive FirstFaultBehind (earlier : List String) (operation : Operation) :
    CatalogError → Prop where
  | duplicateOperation (taken : operation.name ∈ earlier) :
      FirstFaultBehind earlier operation (.duplicateOperation operation.name)
  | own {violation : CatalogError} (fresh : operation.name ∉ earlier)
      (fault : operation.FirstFault violation) : FirstFaultBehind earlier operation violation

end Operation

namespace Catalog

/-! ## The first fault of a catalog -/

/-- The violation is the first fault of the first operation at fault: the operations before it have
different names and obey all rules. -/
def FirstFault (catalog : Catalog) (violation : CatalogError) : Prop :=
  ∃ before operation after, catalog.operations = before ++ operation :: after ∧
    (before.map Operation.name).Nodup ∧ (∀ earlier ∈ before, earlier.Consistent) ∧
    operation.FirstFaultBehind (before.map Operation.name) violation

variable {seen : List String} {operations : List Operation} {violation : CatalogError}

/-- The check goes on behind some operations with their names as seen. -/
theorem violationIn?_append (seen : List String) (before rest : List Operation) :
    violationIn? seen (before ++ rest) =
      (violationIn? seen before).or
        (violationIn? ((before.map Operation.name).reverse ++ seen) rest) := by
  induction before generalizing seen with
  | nil => simp [violationIn?]
  | cons operation before ih =>
      by_cases taken : operation.name ∈ seen
      · simp [violationIn?, taken]
      · simp [violationIn?, taken, ih, Option.or_assoc]

theorem violationIn?_singleton_eq_some {operation : Operation} :
    violationIn? seen [operation] = some violation ↔
      operation.FirstFaultBehind seen violation := by
  by_cases taken : operation.name ∈ seen
  · rw [violationIn?, if_pos taken, Option.some.injEq]
    constructor
    · rintro rfl
      exact .duplicateOperation taken
    · intro fault
      cases fault with
      | duplicateOperation => rfl
      | own fresh => exact absurd taken fresh
  · rw [violationIn?, if_neg taken, violationIn?, Option.or_none, Operation.violation?_eq_some]
    constructor
    · exact .own taken
    · intro fault
      cases fault with
      | duplicateOperation taken => contradiction
      | own _ fault => exact fault

/-- A violation comes from an operation, and there is none in the operations before it. -/
theorem violationIn?_eq_some :
    violationIn? seen operations = some violation ↔
      ∃ before operation after, operations = before ++ operation :: after ∧
        violationIn? seen before = none ∧
        operation.FirstFaultBehind ((before.map Operation.name).reverse ++ seen) violation := by
  constructor
  · intro violated
    induction operations generalizing seen with
    | nil => simp [violationIn?] at violated
    | cons first rest ih =>
        rw [← List.singleton_append, violationIn?_append] at violated
        cases own : violationIn? seen [first] with
        | some fault =>
            rw [own, Option.some_or] at violated
            obtain rfl := Option.some.inj violated
            exact ⟨[], first, rest, rfl, rfl, violationIn?_singleton_eq_some.mp own⟩
        | none =>
            rw [own, Option.none_or] at violated
            obtain ⟨before, operation, after, rfl, clean, fault⟩ := ih violated
            refine ⟨first :: before, operation, after, rfl, ?_, by simpa using fault⟩
            rw [← List.singleton_append, violationIn?_append, own, Option.none_or, clean]
  · rintro ⟨before, operation, after, rfl, clean, fault⟩
    rw [violationIn?_append, clean, Option.none_or, ← List.singleton_append, violationIn?_append,
      violationIn?_singleton_eq_some.mpr fault, Option.some_or]

/-- **The violation of a catalog is its first fault.** -/
theorem violation?_eq_some {catalog : Catalog} :
    catalog.violation? = some violation ↔ catalog.FirstFault violation := by
  have behind (names : List String) (operation : Operation) :
      operation.FirstFaultBehind (names.reverse ++ []) violation ↔
        operation.FirstFaultBehind names violation := by
    simp only [← violationIn?_singleton_eq_some, violationIn?, List.append_nil, List.mem_reverse]
  simp only [violation?, violationIn?_eq_some, violationIn?_eq_none, behind, FirstFault,
    Operation.violation?_eq_none_iff_consistent, List.not_mem_nil, not_false_eq_true, implies_true,
    true_and, and_assoc]

theorem validate_eq_error {catalog : Catalog} :
    catalog.validate = .error violation ↔ catalog.violation? = some violation := by
  cases violated : catalog.violation? <;> simp [validate, violated]

/-- A catalog that is refused stays refused, for the same reason, with operations behind it. -/
theorem validate_append_of_error {catalog : Catalog} (refused : catalog.validate = .error violation)
    (further : List Operation) :
    { catalog with operations := catalog.operations ++ further }.validate = .error violation := by
  have violated := validate_eq_error.mp refused
  rw [violation?] at violated
  rw [validate_eq_error, violation?, violationIn?_append, violated, Option.some_or]

end Catalog

/-- **Validation reports the first fault.**

* A catalog is accepted exactly if its operations have different names and obey all rules: no two
  parameters agree in name and placement, at most one is written to the body, and then none to the
  form, every placeholder is declared as a path parameter, and every path parameter is a
  placeholder.
* A violation is reported exactly if it is the first fault of the catalog.
* If the operations up to some place are not accepted, the operations behind this place never
  change the answer. -/
theorem validation_reports_the_first_fault (catalog : Catalog) :
    (catalog.validate = .ok () ↔
      (catalog.operations.map Operation.name).Nodup ∧
        ∀ operation ∈ catalog.operations, operation.Consistent) ∧
    (∀ violation, catalog.validate = .error violation ↔ catalog.FirstFault violation) ∧
    ∀ faulty behind others : List Operation,
      { catalog with operations := faulty }.validate ≠ .ok () →
      { catalog with operations := faulty ++ behind }.validate =
        { catalog with operations := faulty ++ others }.validate := by
  refine ⟨?_, fun violation => Catalog.validate_eq_error.trans Catalog.violation?_eq_some, ?_⟩
  · simp only [Catalog.validate_eq_ok, Operation.violation?_eq_none_iff_consistent]
  · intro faulty behind others unaccepted
    cases refused : { catalog with operations := faulty }.validate with
    | ok => exact absurd refused unaccepted
    | error violation =>
        exact (Catalog.validate_append_of_error refused behind).trans
          (Catalog.validate_append_of_error refused others).symm

/-- A catalog with many faults: its second operation declares a parameter twice, writes two
parameters to the body, and leaves a placeholder undeclared. -/
def faultyCatalog : Catalog where
  title := "Items"
  description := none
  version := none
  baseUrl := none
  operations :=
    [.declare "listItems" .get "/items" [.declare "view" .query],
      .declare "saveItem" .post "/items/\x7bid\x7d/\x7bpart\x7d"
        [.declare "part" .path, .declare "note" .body, .declare "item" .body,
          .declare "note" .query, .declare "item" .body, .declare "part" .path]]

/-- The first of these faults is reported, also where a later operation takes a name again. -/
theorem first_fault_of_faulty_catalog_is_reported :
    faultyCatalog.validate = .error (.duplicateParameter "saveItem" "item") ∧
      faultyCatalog.FirstFault (.duplicateParameter "saveItem" "item") ∧
      { faultyCatalog with operations := faultyCatalog.operations ++
          [Operation.declare "listItems" .get "/more" []] }.validate =
        .error (.duplicateParameter "saveItem" "item") := by
  have refused : faultyCatalog.validate = .error (.duplicateParameter "saveItem" "item") := by
    decide +kernel
  have unaccepted : faultyCatalog.validate ≠ .ok () := by simp [refused]
  obtain ⟨-, reported, unchanged⟩ := validation_reports_the_first_fault faultyCatalog
  have same := unchanged faultyCatalog.operations [Operation.declare "listItems" .get "/more" []] []
    unaccepted
  rw [List.append_nil] at same
  exact ⟨refused, (reported _).mp refused, same.trans refused⟩

end ServiceCatalog
