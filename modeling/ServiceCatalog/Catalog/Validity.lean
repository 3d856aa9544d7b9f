import ServiceCatalog.Catalog.Basic
import ServiceCatalog.Catalog.Error

/-!
# Consistent catalogs

A catalog is consistent if its operations have different names and every operation obeys five
rules:

1. no two parameters agree in name and placement;
2. at most one parameter is written to the body;
3. a body and form fields do not meet;
4. every placeholder of the path is declared as a path parameter;
5. every path parameter is a placeholder of the path.

Each rule has one function that finds its first violation, and a check reports the violation of
the first rule that has one (`Operation.violation?`).  The check of a catalog goes through the
operations in order and looks at the name of an operation before its rules, so it reports the
first operation that is at fault whatever comes after it (`Catalog.violation?`).
-/

namespace ServiceCatalog

set_option autoImplicit false

/-- The first item whose key is among the keys seen before it. -/
def firstRepeated? {α κ : Type} [DecidableEq κ] (key : α → κ) : List κ → List α → Option α
  | _, [] => none
  | seen, item :: items =>
      if key item ∈ seen then some item else firstRepeated? key (key item :: seen) items

namespace Operation

/-! ## The rules of an operation -/

/-- Two parameters agree in name and placement. -/
def duplicateParameter? (operation : Operation) : Option CatalogError :=
  (firstRepeated? Parameter.key [] operation.parameters).map fun parameter =>
    .duplicateParameter operation.name parameter.name

/-- Several bodies, or a body beside form fields. -/
def conflictingBody? (operation : Operation) : Option CatalogError :=
  let bodies := (operation.parametersIn .body).length
  if 1 < bodies then some (.conflictingBody operation.name (.severalBodies bodies))
  else if bodies = 1 ∧ operation.parametersIn .formData ≠ [] then
    some (.conflictingBody operation.name .bodyAndForm)
  else none

/-- The names of the path parameters, in declared order. -/
def pathNames (operation : Operation) : List String :=
  (operation.parametersIn .path).map Parameter.name

/-- A placeholder is not declared as a path parameter. -/
def unresolvedPlaceholder? (operation : Operation) : Option CatalogError :=
  (operation.placeholders.find? fun name => !operation.pathNames.contains name).map fun name =>
    .unresolvedPlaceholder operation.name operation.path name

/-- A path parameter is not a placeholder of the path. -/
def unusedPathParameter? (operation : Operation) : Option CatalogError :=
  (operation.pathNames.find? fun name => !operation.placeholders.contains name).map fun name =>
    .unusedPathParameter operation.name operation.path name

/-- The violation of the first rule that is broken. -/
def violation? (operation : Operation) : Option CatalogError :=
  operation.duplicateParameter?.or <| operation.conflictingBody?.or <|
    operation.unresolvedPlaceholder?.or operation.unusedPathParameter?

/-- Refuses an operation that breaks a rule. -/
def validate (operation : Operation) : Except CatalogError Unit :=
  match operation.violation? with
  | some violation => .error violation
  | none => .ok ()

end Operation

namespace Catalog

/-! ## The rules of a catalog -/

/-- The violation of the first operation that is at fault, given the names before it. -/
def violationIn? : List String → List Operation → Option CatalogError
  | _, [] => none
  | seen, operation :: operations =>
      if operation.name ∈ seen then some (.duplicateOperation operation.name)
      else operation.violation?.or (violationIn? (operation.name :: seen) operations)

/-- The violation of the first operation that is at fault. -/
def violation? (catalog : Catalog) : Option CatalogError := violationIn? [] catalog.operations

/-- Refuses an inconsistent catalog. -/
def validate (catalog : Catalog) : Except CatalogError Unit :=
  match catalog.violation? with
  | some violation => .error violation
  | none => .ok ()

end Catalog

end ServiceCatalog
