import Mathlib.Data.List.DropRight
import ServiceCatalog.Generation.Naming
import ServiceCatalog.Proofs.Text.Words
import ServiceCatalog.Text.Identifier

/-!
# What becomes of names

Escaping changes a text in two independent ways.  It gets letters in front if it has no usable
beginning (`lettered`), and then an underscore behind it if it is a keyword (`escaped_eq`).  A text
in snake case ends in no underscore, so the setter of a field, which leaves out the underscores
at the end of the field, still knows the field (`fieldName_eq_of_setterName_eq`).

Escaping mends only the beginning of a text.  The result is an identifier just when the other
characters can stand in one (`isIdentifier_escaped_iff`), which is always so in the basic range
(`nameable_of_plain`), and likewise for the structures of operations
(`isIdentifier_structName_iff`).
-/

namespace ServiceCatalog.Generation

set_option autoImplicit false

open Text

/-! ## Keywords -/

theorem underscore_not_mem_keyword : ∀ keyword ∈ keywords, '_' ∉ keyword.toList := by
  decide

/-- A text with an underscore is no keyword. -/
theorem isKeyword_eq_false_of_underscore {text : String} (within : '_' ∈ text.toList) :
    isKeyword text = false := by
  rw [isKeyword, List.contains_eq_mem, decide_eq_false_iff_not]
  intro member
  exact underscore_not_mem_keyword text member within

/-! ## Escaping in two steps -/

/-- A text with letters in front if it has no usable beginning. -/
def lettered (text : String) : String :=
  if text.isEmpty then "param" else if beginsWithDigit text then "p_" ++ text else text

/-- **Escaping puts letters in front and then keeps clear of keywords.** -/
theorem escaped_eq (text : String) :
    escaped text =
      if isKeyword (lettered text) = true then lettered text ++ "_" else lettered text := by
  rw [escaped, lettered]
  by_cases empty : text.isEmpty = true
  · rw [if_pos empty, if_pos empty]
    rfl
  rw [if_neg empty, if_neg empty]
  by_cases numeral : beginsWithDigit text = true
  · rw [if_pos numeral, if_pos numeral, isKeyword_eq_false_of_underscore (by simp)]
    rfl
  rw [if_neg numeral, if_neg numeral]

/-- No name is a keyword. -/
theorem isKeyword_escaped (text : String) : isKeyword (escaped text) = false := by
  rw [escaped_eq]
  split_ifs with keyword
  · exact isKeyword_eq_false_of_underscore (by simp)
  · exact Bool.eq_false_iff.mpr keyword

/-! ## Setters -/

theorem withoutUnderscores_of_getLast? {name : String}
    (ends : name.toList.getLast? ≠ some '_') : withoutUnderscores name = name := by
  have kept : name.toList.rdropWhile (· == '_') = name.toList := by
    rw [List.rdropWhile_eq_self_iff]
    intro full underscore
    rw [beq_iff_eq] at underscore
    exact ends (List.getLast?_eq_some_getLast full ▸ congrArg some underscore)
  exact (congrArg String.ofList kept).trans String.ofList_toList

theorem withoutUnderscores_append (name : String) :
    withoutUnderscores (name ++ "_") = withoutUnderscores name := by
  have dropped : (name ++ "_").toList.rdropWhile (· == '_') =
      name.toList.rdropWhile (· == '_') := by
    rw [String.toList_append]
    exact List.rdropWhile_concat_pos _ _ _ (by decide)
  exact congrArg String.ofList dropped

/-- Letters in front do not change how a text ends. -/
theorem getLast?_lettered {text : String} (ends : text.toList.getLast? ≠ some '_') :
    (lettered text).toList.getLast? ≠ some '_' := by
  rw [lettered]
  split_ifs with empty numeral
  · decide
  · rw [String.toList_append, List.getLast?_append_of_ne_nil]
    · exact ends
    · simpa using empty
  · exact ends

/-- **Without the underscores at its end a name is the text with letters in front.** -/
theorem withoutUnderscores_escaped {text : String} (ends : text.toList.getLast? ≠ some '_') :
    withoutUnderscores (escaped text) = lettered text := by
  have kept := withoutUnderscores_of_getLast? (getLast?_lettered ends)
  rw [escaped_eq]
  split_ifs with keyword
  · rw [withoutUnderscores_append, kept]
  · exact kept

theorem toList_snakeCase (name : String) : (snakeCase name).toList = snakeCaseChars name.toList :=
  String.toList_ofList

/-- Fields have small characters and underscores. -/
theorem small_of_mem_fieldName {parameter : String} {character : Char}
    (member : character ∈ (fieldName parameter).toList) :
    IsSmall character ∨ character = '_' := by
  have known : ∀ other ∈ (snakeCase parameter).toList, IsSmall other ∨ other = '_' := by
    rw [toList_snakeCase]
    exact fun other within => small_of_mem_snakeCaseChars within
  rw [fieldName, escaped] at member
  split_ifs at member
  · have plain : ∀ other ∈ "param".toList, IsSmall other := by simp [IsSmall, IsSmallCode]
    exact .inl (plain character member)
  · rw [String.toList_append, List.mem_append] at member
    rcases member with front | text
    · have plain : ∀ other ∈ "p_".toList, IsSmall other ∨ other = '_' := by
        simp [IsSmall, IsSmallCode]
      exact plain character front
    · exact known character text
  · rw [String.toList_append, List.mem_append] at member
    rcases member with text | behind
    · exact known character text
    · exact .inr (List.mem_singleton.mp behind)
  · exact known character member

/-- The setter of a parameter is named after its text in snake case. -/
theorem setterName_fieldName (parameter : String) :
    setterName (fieldName parameter) = "with_" ++ lettered (snakeCase parameter) := by
  have ends : (snakeCase parameter).toList.getLast? ≠ some '_' := by
    rw [toList_snakeCase]
    exact getLast?_snakeCaseChars _
  rw [setterName, fieldName, withoutUnderscores_escaped ends]

/-- **Setters of one name belong to fields of one name.** -/
theorem fieldName_eq_of_setterName_eq {first second : String}
    (same : setterName (fieldName first) = setterName (fieldName second)) :
    fieldName first = fieldName second := by
  rw [setterName_fieldName, setterName_fieldName] at same
  have texts : lettered (snakeCase first) = lettered (snakeCase second) := by
    simpa using same
  rw [fieldName, fieldName, escaped_eq, escaped_eq, texts]

/-- No setter has the name of another function of the structure. -/
theorem setterName_ne (field : String) :
    setterName field ≠ "new" ∧ setterName field ≠ "into_args" := by
  constructor
  · intro same
    have texts := congrArg (fun name => name.toList.head?) same
    simp [setterName] at texts
  · intro same
    have texts := congrArg (fun name => name.toList.head?) same
    simp [setterName] at texts

/-! ## Identifiers -/

/-- A text whose characters can stand in an identifier, and that begins with a digit if it does
not begin like one.  Letters in front make it an identifier. -/
def Nameable (characters : List Char) : Prop :=
  (∀ character ∈ characters, isIdentifierPart character = true) ∧
    ∀ first ∈ characters.head?, first.isDigit = true ∨ isIdentifierStart first = true

theorem nameable_iff {characters : List Char} :
    Nameable characters ↔ characters.all isIdentifierPart = true ∧
      characters.head?.all (fun first => first.isDigit || isIdentifierStart first) = true := by
  simp only [Nameable, List.all_eq_true, Option.all_eq_true, Bool.or_eq_true, Option.mem_def]

-- Through the elements of the list: a search through all characters would not end.
instance (characters : List Char) : Decidable (Nameable characters) :=
  decidable_of_iff _ nameable_iff.symm

theorem nameable_nil : Nameable [] := nameable_iff.mpr ⟨rfl, rfl⟩

theorem isIdentifierPart_of_isAlphanum {character : Char} (plain : character.isAlphanum = true) :
    isIdentifierPart character = true := by
  rw [isIdentifierPart, if_pos (isBasic_of_isAlphanum plain), plain]
  rfl

/-- What may begin an identifier may also stand in it. -/
theorem isIdentifierPart_of_isIdentifierStart {character : Char}
    (start : isIdentifierStart character = true) : isIdentifierPart character = true := by
  rw [isIdentifierStart] at start
  rw [isIdentifierPart]
  split_ifs at start ⊢ with basic
  · rcases Bool.or_eq_true_iff.mp start with letter | underscore
    · simp [Char.isAlphanum, letter]
    · simp [underscore]
  · simp [start]

theorem isIdentifierPart_of_mem {characters : List Char} (word : isIdentifier characters = true)
    {character : Char} (member : character ∈ characters) : isIdentifierPart character = true := by
  cases characters with
  | nil => cases member
  | cons first rest =>
      obtain ⟨begins, parts⟩ := Bool.and_eq_true_iff.mp word
      rcases List.mem_cons.mp member with rfl | later
      · exact isIdentifierPart_of_isIdentifierStart begins
      · exact List.all_eq_true.mp parts character later

/-- Letters, digits and underscores of the basic range can be named. -/
theorem nameable_of_plain {characters : List Char}
    (plain : ∀ character ∈ characters, character.isAlphanum = true ∨ character = '_') :
    Nameable characters := by
  constructor
  · intro character member
    rcases plain character member with letter | rfl
    · exact isIdentifierPart_of_isAlphanum letter
    · decide
  · intro first begins
    rcases plain first (List.mem_of_head? begins) with letter | rfl
    · rcases Bool.or_eq_true_iff.mp letter with alpha | digit
      · right
        rw [isIdentifierStart, if_pos (isBasic_of_isAlphanum letter), alpha]
        rfl
      · exact .inl digit
    · right
      decide

section Escaping

variable {first : Char} {rest front behind : List Char}

/-- Letters in front make any beginning good, if they are an identifier. -/
theorem isIdentifier_append_left (word : isIdentifier front = true) :
    isIdentifier (front ++ rest) = rest.all isIdentifierPart := by
  cases front with
  | nil => exact absurd word (by decide)
  | cons start others =>
      obtain ⟨begins, parts⟩ := Bool.and_eq_true_iff.mp word
      rw [List.cons_append, isIdentifier, List.all_append, begins, parts]
      rfl

/-- Letters behind change nothing. -/
theorem isIdentifier_append_right (parts : behind.all isIdentifierPart = true) :
    isIdentifier ((first :: rest) ++ behind) = isIdentifier (first :: rest) := by
  rw [List.cons_append, isIdentifier, isIdentifier, List.all_append, parts, Bool.and_true]

/-- A text that does not begin with a digit can be named just when it is an identifier. -/
theorem isIdentifier_iff_nameable (letter : first.isDigit = false) :
    isIdentifier (first :: rest) = true ↔ Nameable (first :: rest) := by
  constructor
  · intro word
    refine ⟨fun character member => isIdentifierPart_of_mem word member, ?_⟩
    intro start same
    obtain rfl := Option.some.inj same
    exact .inr (Bool.and_eq_true_iff.mp word).1
  · rintro ⟨parts, begins⟩
    rw [isIdentifier, Bool.and_eq_true_iff, List.all_eq_true]
    refine ⟨?_, (List.forall_mem_cons.mp parts).2⟩
    rcases begins first rfl with numeral | start
    · rw [letter] at numeral
      cases numeral
    · exact start

/-- A text that begins with a digit can be named just when its characters can. -/
theorem all_isIdentifierPart_iff_nameable (numeral : first.isDigit = true) :
    (first :: rest).all isIdentifierPart = true ↔ Nameable (first :: rest) := by
  rw [List.all_eq_true]
  constructor
  · intro parts
    refine ⟨parts, ?_⟩
    intro start same
    obtain rfl := Option.some.inj same
    exact .inl numeral
  · rintro ⟨parts, _⟩
    exact parts

end Escaping

theorem beginsWithDigit_of_toList {text : String} {first : Char} {rest : List Char}
    (characters : text.toList = first :: rest) : beginsWithDigit text = first.isDigit := by
  rw [beginsWithDigit, characters]
  rfl

theorem isEmpty_of_toList {text : String} {first : Char} {rest : List Char}
    (characters : text.toList = first :: rest) : text.isEmpty = false := by
  rw [Bool.eq_false_iff]
  intro empty
  rw [String.isEmpty_iff.mp empty] at characters
  cases characters

/-- **An escaped text is an identifier just when the text can be named.** -/
theorem isIdentifier_escaped_iff (text : String) :
    isIdentifier (escaped text).toList = true ↔ Nameable text.toList := by
  cases characters : text.toList with
  | nil =>
      obtain rfl := String.toList_eq_nil_iff.mp characters
      exact iff_of_true (by decide) nameable_nil
  | cons first rest =>
      rw [escaped, isEmpty_of_toList characters, beginsWithDigit_of_toList characters,
        if_neg Bool.false_ne_true]
      split_ifs with numeral keyword
      · rw [String.toList_append, isIdentifier_append_left (by decide), characters]
        exact all_isIdentifierPart_iff_nameable numeral
      · rw [String.toList_append, characters, isIdentifier_append_right (by decide)]
        exact isIdentifier_iff_nameable (Bool.eq_false_iff.mpr numeral)
      · rw [characters]
        exact isIdentifier_iff_nameable (Bool.eq_false_iff.mpr numeral)

/-- **The structure of an operation is named by an identifier just when the capitalised words can
be named.** -/
theorem isIdentifier_structName_iff {suffix : String}
    (plain : ∀ character ∈ suffix.toList, character.isAlphanum = true) (operation : String) :
    isIdentifier (structName operation suffix).toList = true ↔
      Nameable (pascalCase operation).toList := by
  have parts : suffix.toList.all isIdentifierPart = true :=
    List.all_eq_true.mpr fun character member =>
      isIdentifierPart_of_isAlphanum (plain character member)
  rw [structName]
  cases characters : (pascalCase operation).toList with
  | nil =>
      rw [String.toList_eq_nil_iff.mp characters]
      rw [if_pos (by decide), String.append_empty, String.toList_append,
        isIdentifier_append_left (by decide), parts]
      exact iff_of_true rfl nameable_nil
  | cons first rest =>
      rw [isEmpty_of_toList characters, beginsWithDigit_of_toList characters, Bool.false_or]
      split_ifs with numeral
      · rw [String.toList_append, String.toList_append, List.append_assoc,
          isIdentifier_append_left (by decide), List.all_append, parts, Bool.and_true, characters]
        exact all_isIdentifierPart_iff_nameable numeral
      · rw [String.toList_append, characters, isIdentifier_append_right parts]
        exact isIdentifier_iff_nameable (Bool.eq_false_iff.mpr numeral)

/-- A setter is named by an identifier if its field is. -/
theorem isIdentifier_setterName {field : String} (known : isIdentifier field.toList = true) :
    isIdentifier (setterName field).toList = true := by
  rw [setterName, String.toList_append, isIdentifier_append_left (by decide), List.all_eq_true,
    withoutUnderscores, String.toList_ofList]
  intro character member
  have kept := (List.rdropWhile_prefix (· == '_') field.toList).subset member
  exact isIdentifierPart_of_mem known kept

/-- **Names of the basic range can always be named.** -/
theorem nameable_of_basic {name : String}
    (basic : ∀ character ∈ name.toList, isBasic character = true) :
    Nameable (snakeCase name).toList ∧ Nameable (pascalCase name).toList := by
  constructor
  · rw [toList_snakeCase]
    exact nameable_of_plain fun character member => plain_of_mem_snakeCaseChars basic member
  · rw [pascalCase, String.toList_ofList]
    exact nameable_of_plain fun character member => .inl (plain_of_mem_pascalCaseChars basic member)

end ServiceCatalog.Generation
