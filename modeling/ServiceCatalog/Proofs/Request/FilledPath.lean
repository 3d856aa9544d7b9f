import ServiceCatalog.Proofs.Catalog.Template
import ServiceCatalog.Proofs.Catalog.Validity
import ServiceCatalog.Proofs.Request.Preparation

/-!
# What is left of the placeholders

The path of a prepared call is filled in once, and what was filled in is not looked at again.  If
the operation is consistent and its path is required, every placeholder with a name is replaced.
Yet the path can still have names, when the braces around a placeholder are doubled: the inner pair
is the placeholder and is replaced, the outer pair is literal and stays.

If what is filled in has no braces, that is the only way (`literal_braces_alone_leave_names`).
-/

namespace ServiceCatalog

set_option autoImplicit false

open ServiceCatalog.Json
open Template (BraceFree Encloses FillsPlainly)

namespace Operation

variable {operation : Operation} {arguments : Arguments}

/-- The texts that are filled into the path, under their names. -/
def pathValues (operation : Operation) (arguments : Arguments) : List (String × String) :=
  (operation.supplied arguments .path).map fun (parameter, value) =>
    (parameter.name, value.joined listSeparator)

/-- The arguments of the path are written without braces. -/
def PlainPath (operation : Operation) (arguments : Arguments) : Prop :=
  ∀ parameter ∈ operation.parametersIn .path, ∀ value,
    arguments.get? parameter.name = some value → BraceFree (value.joined listSeparator).toList

theorem mem_pathValues {name text : String} :
    (name, text) ∈ operation.pathValues arguments ↔
      ∃ parameter ∈ operation.parametersIn .path, ∃ value,
        arguments.get? parameter.name = some value ∧
          parameter.name = name ∧ value.joined listSeparator = text := by
  simp only [pathValues, supplied, List.mem_map, List.mem_filterMap, Option.map_eq_some_iff,
    Prod.exists, Prod.mk.injEq]
  constructor
  · rintro ⟨parameter, value, ⟨_, member, _, given, rfl, rfl⟩, named, written⟩
    exact ⟨_, member, _, given, named, written⟩
  · rintro ⟨parameter, member, value, given, named, written⟩
    exact ⟨_, _, ⟨_, member, _, given, rfl, rfl⟩, named, written⟩

/-- The text of a name that is declared in the path is that of its argument. -/
theorem lookup_pathValues (name : String) :
    (operation.pathValues arguments).lookup name =
      if name ∈ operation.pathNames then
        (arguments.get? name).map fun value => value.joined listSeparator
      else none := by
  rw [pathValues, supplied, pathNames]
  induction operation.parametersIn .path with
  | nil => rfl
  | cons parameter rest ih =>
      by_cases named : name = parameter.name
      · subst named
        cases given : arguments.get? parameter.name with
        | none => simpa [given] using ih
        | some value => simp [given]
      · have differs : (name == parameter.name) = false := beq_eq_false_iff_ne.mpr named
        cases given : arguments.get? parameter.name with
        | none => simpa [given, named] using ih
        | some value => simpa [given, named, List.lookup_cons, differs] using ih

theorem lookup_pathValues_of_some {parameter : Parameter} {value : Value}
    (member : parameter ∈ operation.parametersIn .path)
    (given : arguments.get? parameter.name = some value) :
    (operation.pathValues arguments).lookup parameter.name =
      some (value.joined listSeparator) := by
  have named : parameter.name ∈ operation.pathNames := List.mem_map_of_mem member
  rw [lookup_pathValues, if_pos named, given, Option.map_some]

/-- **A consistent operation whose path is required and has plain arguments fills its path
plainly.** -/
theorem fillsPlainly (valid : operation.validate = .ok ())
    (required : ∀ parameter ∈ operation.parametersIn .path, parameter.required = true)
    (complete : operation.Complete arguments) (plain : operation.PlainPath arguments) :
    FillsPlainly (Template.characters (operation.pathValues arguments)) operation.path.toList := by
  have declared (name : String) : name ∈ operation.placeholders ↔
      ∃ parameter ∈ operation.parametersIn .path, parameter.name = name := by
    rw [mem_placeholders_iff valid, pathNames, List.mem_map]
  refine Template.fillsPlainly_of_names (fun name isName => ?_) ?_
  · obtain ⟨parameter, member, named⟩ := (declared name).mp isName
    have present := complete parameter (mem_parametersIn.mp member).1 (required parameter member)
    obtain ⟨value, given⟩ := Arguments.contains_iff_exists.mp present
    cases found : (operation.pathValues arguments).lookup name with
    | none =>
        have absent := List.lookup_eq_none_iff.mp found _
          (mem_pathValues.mpr ⟨parameter, member, value, given, named, rfl⟩)
        simp at absent
    | some text =>
        obtain ⟨before, after, split, -⟩ := List.lookup_eq_some_iff.mp found
        obtain ⟨other, otherMember, otherValue, otherGiven, -, rfl⟩ :=
          mem_pathValues.mp (split ▸ List.mem_append_right before List.mem_cons_self)
        exact ⟨_, rfl, plain other otherMember otherValue otherGiven⟩
  · refine List.lookup_eq_none_iff.mpr fun entry member => ?_
    obtain ⟨parameter, isPath, -, -, named, -⟩ := mem_pathValues.mp member
    have isName : parameter.name ∈ operation.placeholders :=
      (declared parameter.name).mpr ⟨parameter, isPath, rfl⟩
    exact bne_iff_ne.mpr fun empty => (Template.mem_names.mp isName).1 (named.trans empty.symm)

end Operation

/-- **Literal braces alone leave names.**  Let a consistent operation require the parameters of its
path, let a call of it be prepared, and let the arguments of the path be written without braces.
Then the address of the request is the base address with a path behind it, and a name of this path
is a text without braces that stands between two literal braces of the template: the pieces of the
template between them are written or filled in as that name.  If no pieces stand between two literal
braces, the path has no names. -/
theorem literal_braces_alone_leave_names {operation : Operation} {baseUrl : String}
    {arguments : Arguments} {options : CallOptions} {prepared : PreparedCall}
    (valid : operation.validate = .ok ())
    (required : ∀ parameter ∈ operation.parametersIn .path, parameter.required = true)
    (prepares : operation.prepare baseUrl arguments options = .ok prepared)
    (plain : operation.PlainPath arguments) :
    ∃ path, prepared.request.url = baseUrl ++ path ∧
      (∀ name, name ∈ Template.names path ↔
        name ≠ "" ∧ BraceFree name.toList ∧ ∃ inner, Encloses operation.path.toList inner ∧
          Template.filledText (operation.pathValues arguments) inner = name) ∧
      ((∀ inner, ¬ Encloses operation.path.toList inner) → Template.names path = []) := by
  obtain ⟨complete, rfl⟩ := Operation.prepare_eq_ok.mp prepares
  have fills := Operation.fillsPlainly valid required complete plain
  refine ⟨operation.filledPath arguments, rfl, fun name => Template.mem_names_fill fills,
    fun unenclosed => ?_⟩
  refine List.eq_nil_iff_forall_not_mem.mpr fun name isName => ?_
  obtain ⟨-, -, inner, encloses, -⟩ := (Template.mem_names_fill fills).mp isName
  exact unenclosed inner encloses

/-- Naming a shelf and items of it leaves no names. -/
theorem named_items_leave_no_names :
    let operation := Operation.declare "showItems" .get "/shelves/\x7bshelf\x7d/items/\x7bids\x7d"
      [.declare "ids" .path, .declare "shelf" .path]
    let arguments : Arguments :=
      ⟨[("shelf", .string "b"), ("ids", .array [.string "a", .null])]⟩
    ∃ prepared path, operation.prepare "http://items.test" arguments CallOptions.none =
        .ok prepared ∧
      prepared.request.url = "http://items.test" ++ path ∧ Template.names path = [] := by
  intro operation arguments
  have valid : operation.validate = .ok () := by decide +kernel
  have required : ∀ parameter ∈ operation.parametersIn .path, parameter.required = true := by
    decide
  have plain : operation.PlainPath arguments := by
    intro parameter member value given
    obtain rfl | member := List.mem_cons.mp member
    · obtain rfl := Option.some.inj given
      decide
    · obtain rfl := List.mem_singleton.mp member
      obtain rfl := Option.some.inj given
      decide
  have prepares : operation.prepare "http://items.test" arguments CallOptions.none = .ok _ :=
    Operation.prepare_of_complete (Operation.missing?_eq_none.mp rfl)
  obtain ⟨path, url, -, nameless⟩ := literal_braces_alone_leave_names valid required prepares plain
  have absent : .literal '{' ∉ Template.pieces operation.path.toList := by decide
  exact ⟨_, path, prepares, url, nameless (Template.not_encloses absent)⟩

/-- **Doubled braces leave a name.**  The outer braces of the template are literal, and what is
filled in between them becomes a name. -/
theorem doubled_braces_leave_a_name :
    let operation := Operation.declare "showItem" .get "/items/\x7b\x7bid\x7d\x7d"
      [.declare "id" .path]
    let arguments : Arguments := ⟨[("id", .string "a")]⟩
    operation.validate = .ok () ∧
      (∀ parameter ∈ operation.parametersIn .path, parameter.required = true) ∧
      operation.PlainPath arguments ∧
      (∃ prepared path, operation.prepare "http://items.test" arguments CallOptions.none =
          .ok prepared ∧
        prepared.request.url = "http://items.test" ++ path ∧ Template.names path = ["a"]) := by
  intro operation arguments
  have plain : operation.PlainPath arguments := by
    intro parameter member value given
    obtain rfl := List.mem_singleton.mp member
    obtain rfl := Option.some.inj given
    decide
  have prepares : operation.prepare "http://items.test" arguments CallOptions.none = .ok _ :=
    Operation.prepare_of_complete (Operation.missing?_eq_none.mp rfl)
  exact ⟨by decide +kernel, by decide, plain, _, operation.filledPath arguments, prepares, rfl,
    by decide⟩

end ServiceCatalog
