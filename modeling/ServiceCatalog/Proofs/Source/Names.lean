import Mathlib.Data.List.Basic
import ServiceCatalog.Source.Names

/-!
# Which trees have possible words only

The words of a tree are those that are written for its names, beside a few that are always the
same.  So a tree has possible words only exactly if its names are identifiers, and this module says
so for each kind of tree, from types and expressions up to items.
-/

namespace ServiceCatalog.Source

set_option autoImplicit false

/-! ## Sequences of tokens -/

/-- The words among some tokens can stand in a source. -/
def Possible (tokens : List Token) : Prop := ∀ token ∈ tokens, token.impossible? = none

instance (tokens : List Token) : Decidable (Possible tokens) :=
  inferInstanceAs (Decidable (∀ token ∈ tokens, _))

/-- A name that can stand in a source. -/
def IsName (name : String) : Prop := Text.isIdentifier name.toList = true

instance (name : String) : Decidable (IsName name) :=
  inferInstanceAs (Decidable (_ = true))

theorem impossibleName?_eq_none {file : File} :
    file.impossibleName? = none ↔ Possible file.tokens :=
  List.findSome?_eq_none_iff

section Tokens

variable {tokens first second : List Token} {token : Token} {name : String} {sign : Char}

@[simp] theorem possible_nil : Possible [] := List.forall_mem_nil _

@[simp] theorem possible_cons :
    Possible (token :: tokens) ↔ token.impossible? = none ∧ Possible tokens :=
  List.forall_mem_cons

@[simp] theorem possible_append : Possible (first ++ second) ↔ Possible first ∧ Possible second :=
  List.forall_mem_append

@[simp] theorem impossible?_word : (Token.word name).impossible? = none ↔ IsName name := by
  rw [Token.impossible?]
  split_ifs with known <;> simp [IsName, known]

@[simp] theorem impossible?_mark : (Token.mark sign).impossible? = none := rfl

@[simp] theorem impossible?_text : (Token.text name).impossible? = none := rfl

@[simp] theorem possible_marks (signs : String) : Possible (marks signs) := by
  intro token member
  obtain ⟨sign, _, rfl⟩ := List.mem_map.mp member
  rfl

@[simp] theorem possible_enclosed {opening closing : Char} :
    Possible (enclosed opening closing tokens) ↔ Possible tokens := by
  simp [enclosed]

@[simp] theorem possible_flatMap {α : Type} {items : List α} {make : α → List Token} :
    Possible (items.flatMap make) ↔ ∀ item ∈ items, Possible (make item) :=
  List.forall_mem_flatMap

theorem possible_intercalate {separator : List Token} (known : Possible separator)
    {parts : List (List Token)} :
    Possible (List.intercalate separator parts) ↔ ∀ part ∈ parts, Possible part := by
  induction parts with
  | nil => simp
  | cons part parts ih =>
      cases parts with
      | nil => simp
      | cons next parts =>
          rw [List.intercalate_cons_cons, possible_append, possible_append, ih]
          constructor
          · rintro ⟨⟨here, _⟩, later⟩
            exact List.forall_mem_cons.mpr ⟨here, later⟩
          · intro all
            obtain ⟨here, later⟩ := List.forall_mem_cons.mp all
            exact ⟨⟨here, known⟩, later⟩

@[simp] theorem possible_commaTokens {parts : List (List Token)} :
    Possible (commaTokens parts) ↔ ∀ part ∈ parts, Possible part :=
  possible_intercalate (by simp)

@[simp] theorem possible_pathTokens {segments : List String} :
    Possible (pathTokens segments) ↔ ∀ segment ∈ segments, IsName segment := by
  rw [pathTokens, possible_intercalate (possible_marks _), List.forall_mem_map]
  simp

end Tokens

/-! ## Types and expressions -/

theorem tysTokens_eq_map (types : List Ty) : tysTokens types = types.map Ty.tokens := by
  induction types with
  | nil => rfl
  | cons type types ih => rw [tysTokens, ih, List.map_cons]

theorem exprsTokens_eq_map (exprs : List Expr) : exprsTokens exprs = exprs.map Expr.tokens := by
  induction exprs with
  | nil => rfl
  | cons expr exprs ih => rw [exprsTokens, ih, List.map_cons]

section Types

attribute [local simp] Ty.tokens tysTokens_eq_map

variable {target : Ty} {segments : List String} {arguments : List Ty}

@[simp] theorem possible_path :
    Possible (Ty.path segments arguments).tokens ↔
      (∀ segment ∈ segments, IsName segment) ∧ ∀ type ∈ arguments, Possible type.tokens := by
  cases arguments with
  | nil => simp
  | cons first others => simp

@[simp] theorem possible_reference : Possible (Ty.reference target).tokens ↔ Possible target.tokens := by
  simp

@[simp] theorem possible_dynamic : Possible (Ty.dynamic target).tokens ↔ Possible target.tokens := by
  simp +decide

@[simp] theorem possible_existential :
    Possible (Ty.existential target).tokens ↔ Possible target.tokens := by
  simp +decide

end Types

section Exprs

attribute [local simp] Expr.tokens exprsTokens_eq_map

variable {expr : Expr} {exprs : List Expr} {segments : List String} {name : String}

@[simp] theorem possible_exprPath :
    Possible (Expr.path segments).tokens ↔ ∀ segment ∈ segments, IsName segment := by
  rw [Expr.tokens, possible_pathTokens]

@[simp] theorem possible_text (value : String) : Possible (Expr.text value).tokens := by
  simp

@[simp] theorem possible_truth (value : Bool) : Possible (Expr.truth value).tokens := by
  cases value <;> decide

@[simp] theorem possible_call :
    Possible (Expr.call expr exprs).tokens ↔
      Possible expr.tokens ∧ ∀ argument ∈ exprs, Possible argument.tokens := by
  simp

@[simp] theorem possible_method :
    Possible (Expr.method expr name exprs).tokens ↔
      Possible expr.tokens ∧ IsName name ∧ ∀ argument ∈ exprs, Possible argument.tokens := by
  simp

@[simp] theorem possible_field :
    Possible (Expr.field expr name).tokens ↔ Possible expr.tokens ∧ IsName name := by
  simp

@[simp] theorem possible_await : Possible (Expr.await expr).tokens ↔ Possible expr.tokens := by
  simp +decide

@[simp] theorem possible_attempt : Possible (Expr.attempt expr).tokens ↔ Possible expr.tokens := by
  simp

@[simp] theorem possible_borrow : Possible (Expr.borrow expr).tokens ↔ Possible expr.tokens := by
  simp

@[simp] theorem possible_list :
    Possible (Expr.list exprs).tokens ↔ ∀ element ∈ exprs, Possible element.tokens := by
  simp +decide

/-- A field that is written short is given the variable of its name, so both ways of writing hold
the same words. -/
theorem possible_shorthand {value : Expr} (short : isShorthand name value = true) :
    Possible value.tokens ↔ IsName name := by
  unfold isShorthand at short
  split at short
  · rw [beq_iff_eq] at short
    simp [short]
  · cases short

theorem possible_fieldsTokens {fields : List (String × Expr)} :
    (∀ part ∈ fieldsTokens fields, Possible part) ↔
      ∀ field ∈ fields, IsName field.1 ∧ Possible field.2.tokens := by
  induction fields with
  | nil => simp [fieldsTokens]
  | cons field fields ih =>
      obtain ⟨name, value⟩ := field
      rw [fieldsTokens, List.forall_mem_cons, List.forall_mem_cons, ih]
      cases short : isShorthand name value with
      | false => simp
      | true => simp [possible_shorthand short]

@[simp] theorem possible_record {fields : List (String × Expr)} :
    Possible (Expr.record segments fields).tokens ↔
      (∀ segment ∈ segments, IsName segment) ∧
        ∀ field ∈ fields, IsName field.1 ∧ Possible field.2.tokens := by
  rw [Expr.tokens, possible_append, possible_pathTokens, possible_enclosed, possible_commaTokens,
    possible_fieldsTokens]

end Exprs

/-! ## Functions -/

section Functions

attribute [local simp] Statement.tokens Binder.tokens Attribute.tokens Attribute.content

variable {name : String} {value : Expr} {type : Ty}

@[simp] theorem possible_bind {mutable : Bool} :
    Possible (Statement.bind mutable name value).tokens ↔ IsName name ∧ Possible value.tokens := by
  cases mutable <;> simp +decide

@[simp] theorem possible_assign {target : Expr} :
    Possible (Statement.assign target value).tokens ↔
      Possible target.tokens ∧ Possible value.tokens := by
  simp

@[simp] theorem possible_run :
    Possible (Statement.run value).tokens ↔ Possible value.tokens := by
  simp

@[simp] theorem possible_receiver (form : Receiver) : Possible (Binder.receiver form).tokens := by
  cases form <;> decide

@[simp] theorem possible_typed :
    Possible (Binder.typed name type).tokens ↔ IsName name ∧ Possible type.tokens := by
  simp

@[simp] theorem possible_doc (text : String) : Possible (Attribute.doc text).tokens := by
  simp +decide

@[simp] theorem possible_deprecated : Possible Attribute.deprecated.tokens := by
  decide

@[simp] theorem possible_derives {traits : List String} :
    Possible (Attribute.derives traits).tokens ↔ ∀ given ∈ traits, IsName given := by
  simp +decide

@[simp] theorem possible_allows {lint : List String} :
    Possible (Attribute.allows lint).tokens ↔ ∀ part ∈ lint, IsName part := by
  simp +decide

@[simp] theorem possible_attributesTokens {attributes : List Attribute} :
    Possible (attributesTokens attributes) ↔
      ∀ given ∈ attributes, Possible given.tokens := by
  rw [attributesTokens, possible_flatMap]

/-- The words of a function are those of its parts. -/
structure Function.PossibleParts (function : Function) : Prop where
  attributes : ∀ given ∈ function.attributes, Possible given.tokens
  name : IsName function.name
  typeParameters : ∀ parameter ∈ function.typeParameters,
    IsName parameter.1 ∧ Possible parameter.2.tokens
  binders : ∀ binder ∈ function.binders, Possible binder.tokens
  result : Possible function.result.tokens
  body : ∀ statement ∈ function.body, Possible statement.tokens
  value : Possible function.value.tokens

theorem possible_typeParameters {parameters : List (String × Ty)} :
    Possible (if parameters.isEmpty then [] else enclosed '<' '>'
      (commaTokens (parameters.map fun (name, bound) =>
        [.word name, .mark ':'] ++ bound.tokens))) ↔
      ∀ parameter ∈ parameters, IsName parameter.1 ∧ Possible parameter.2.tokens := by
  cases parameters with
  | nil => simp
  | cons first others =>
      rw [List.isEmpty_cons, if_neg Bool.false_ne_true, possible_enclosed, possible_commaTokens,
        List.forall_mem_map]
      simp only [possible_append, possible_cons, possible_nil, impossible?_word, impossible?_mark,
        and_true]

@[simp] theorem possible_function {function : Function} :
    Possible function.tokens ↔ function.PossibleParts := by
  have mode : Possible (if function.isAsync then [Token.word "async"] else []) := by
    cases function.isAsync <;> simp +decide
  have access : Possible [Token.word "pub"] := by
    simp +decide
  have kind : IsName "fn" := by decide
  simp only [Function.tokens, possible_append, possible_attributesTokens, possible_typeParameters,
    possible_enclosed, possible_commaTokens, possible_marks, possible_flatMap, possible_cons,
    possible_nil, impossible?_word, List.forall_mem_map, mode, access, and_true]
  constructor
  · rintro ⟨⟨⟨⟨⟨attributes, _, name⟩, parameters⟩, binders⟩, result⟩, body, value⟩
    exact ⟨attributes, name, parameters, binders, result, body, value⟩
  · rintro ⟨attributes, name, parameters, binders, result, body, value⟩
    exact ⟨⟨⟨⟨⟨attributes, kind, name⟩, parameters⟩, binders⟩, result⟩, body, value⟩

end Functions

/-! ## Items -/

section Items

attribute [local simp] StructField.tokens Member.tokens Item.tokens

variable {name : String} {attributes : List Attribute}

theorem possible_structField {field : StructField} :
    Possible field.tokens ↔
      (∀ given ∈ field.attributes, Possible given.tokens) ∧ IsName field.name ∧
        Possible field.type.tokens := by
  have access : Possible (if field.isPublic then [Token.word "pub"] else []) := by
    cases field.isPublic <;> simp +decide
  simp [access]

@[simp] theorem possible_constant {type : Ty} {value : Expr} :
    Possible (Member.constant attributes name type value).tokens ↔
      (∀ given ∈ attributes, Possible given.tokens) ∧ IsName name ∧ Possible type.tokens ∧
        Possible value.tokens := by
  simp +decide

@[simp] theorem possible_memberFunction {function : Function} :
    Possible (Member.function function).tokens ↔ function.PossibleParts :=
  possible_function

@[simp] theorem possible_submodule :
    Possible (Item.submodule name).tokens ↔ IsName name := by
  simp +decide

@[simp] theorem possible_imports {isPublic : Bool} {path : List String} {imported : Imported} :
    Possible (Item.imports isPublic path imported).tokens ↔
      (∀ segment ∈ path, IsName segment) ∧ Possible imported.tokens := by
  cases isPublic <;> simp +decide

@[simp] theorem possible_recordItem {fields : List StructField} :
    Possible (Item.record attributes name fields).tokens ↔
      (∀ given ∈ attributes, Possible given.tokens) ∧ IsName name ∧
        ∀ field ∈ fields, Possible field.tokens := by
  simp +decide

@[simp] theorem possible_members {contents : List Member} :
    Possible (Item.members name contents).tokens ↔
      IsName name ∧ ∀ content ∈ contents, Possible content.tokens := by
  simp +decide

@[simp] theorem possible_functionItem {function : Function} :
    Possible (Item.function function).tokens ↔ function.PossibleParts :=
  possible_function

/-- What documents a file holds no names, so only its items matter. -/
theorem possible_file {file : File} :
    Possible file.tokens ↔ ∀ item ∈ file.items, Possible item.tokens := by
  have docs : ∀ line ∈ file.docs, Possible (fileDocTokens line) := by
    intro line _
    simp +decide [fileDocTokens, Attribute.content]
  rw [File.tokens, possible_append, possible_flatMap, possible_flatMap]
  exact ⟨fun both => both.2, fun items => ⟨docs, items⟩⟩

end Items

end ServiceCatalog.Source
