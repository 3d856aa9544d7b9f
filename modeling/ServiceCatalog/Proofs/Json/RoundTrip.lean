import Mathlib.Logic.Basic
import Mathlib.Tactic.SplitIfs
import ServiceCatalog.Json.Printer
import ServiceCatalog.Proofs.Json.Nesting
import ServiceCatalog.Proofs.Numeric.Digits

/-!
# Values are read back from their text

A value is printed without any space.  Reading the printed text gives the value again, members in
their order, and leaves whatever follows (`readBack_of_nestedWithin`), under three conditions:

* no name occurs twice in an object (`Value.NamesDistinct`), since the reader would join members;
* all numbers are whole (`Value.NumbersWhole`), since other numbers are read with two roundings;
* arrays and objects are nested no deeper than the reader goes (`Value.NestedWithin`).

So the whole text of a value with distinct names and whole numbers gives the value back exactly if
it is nested within bounds (`parse?_compact_eq_some_iff`), and never gives another value
(`eq_of_parse?_compact`).
-/

namespace ServiceCatalog.Json

set_option autoImplicit false

open ServiceCatalog.Numeric

/-! ## Values that are read back -/

/-- All numbers of a value are whole. -/
inductive Value.NumbersWhole : Value → Prop where
  | null : NumbersWhole .null
  | bool (flag : Bool) : NumbersWhole (.bool flag)
  | whole (size : Int) (fits : Fits size) : NumbersWhole (.number (.whole size fits))
  | string (text : String) : NumbersWhole (.string text)
  | array {items : List Value} (each : ∀ item ∈ items, NumbersWhole item) :
      NumbersWhole (.array items)
  | object {members : List (String × Value)} (each : ∀ member ∈ members, NumbersWhole member.2) :
      NumbersWhole (.object members)

namespace Value

theorem numbersWhole_array {items : List Value} :
    (Value.array items).NumbersWhole ↔ ∀ item ∈ items, item.NumbersWhole := by
  constructor
  · rintro (_ | _ | _ | _ | each | _)
    exact each
  · exact .array

theorem numbersWhole_object {members : List (String × Value)} :
    (Value.object members).NumbersWhole ↔ ∀ member ∈ members, member.2.NumbersWhole := by
  constructor
  · rintro (_ | _ | _ | _ | _ | each)
    exact each
  · exact .object

end Value

/-! ## Numbers -/

/-- What can follow a value: the end of the text, a comma, or the end of an array or object. -/
inductive Follows : List Char → Prop where
  | nil : Follows []
  | comma (rest : List Char) : Follows (',' :: rest)
  | bracket (rest : List Char) : Follows (']' :: rest)
  | brace (rest : List Char) : Follows ('}' :: rest)

theorem Follows.spanDigits {rest : List Char} (follows : Follows rest) :
    spanDigits rest = ([], rest) := by
  cases follows <;> rfl

theorem Follows.readFraction? {rest : List Char} (follows : Follows rest) :
    readFraction? rest = some ([], rest) := by
  cases follows <;> rfl

theorem Follows.readExponent? {rest : List Char} (follows : Follows rest) :
    readExponent? rest = some (none, rest) := by
  cases follows <;> rfl

theorem spanDigits_append {digits rest : List Char} (each : ∀ digit ∈ digits, digit.isDigit = true)
    (follows : Follows rest) : spanDigits (digits ++ rest) = (digits, rest) := by
  induction digits with
  | nil => exact follows.spanDigits
  | cons digit digits ih =>
      obtain ⟨here, further⟩ := List.forall_mem_cons.mp each
      simp [spanDigits, here, ih further]

/-- A digit is none of the marks of the format. -/
theorem notMem_of_isDigit {digit : Char} {marks : List Char} (isDigit : digit.isDigit = true)
    (none : marks.all fun mark => !mark.isDigit) : digit ∉ marks := fun member => by
  simpa [isDigit] using List.all_eq_true.mp none digit member

theorem readWhole?_decimalDigits (size : Nat) {rest : List Char} (follows : Follows rest) :
    readWhole? (decimalDigits size ++ rest) = some (decimalDigits size, rest) := by
  unfold readWhole?
  rw [spanDigits_append (fun _ => isDigit_of_mem_decimalDigits) follows]
  split
  · next nothing => exact absurd (Prod.mk.inj nothing).1 (decimalDigits_ne_nil size)
  · next leading =>
      obtain ⟨-, alone⟩ := decimalDigits_eq_zero_cons (Prod.mk.inj leading).1
      cases alone
  · next same => cases same; rfl

theorem readUnsigned?_decimalDigits {negative : Bool} {size : Nat} {number : Number}
    (value : WrittenNumber.value? ⟨negative, decimalDigits size, [], none⟩ = some number)
    {rest : List Char} (follows : Follows rest) :
    readUnsigned? negative (decimalDigits size ++ rest) = some (.number number, rest) := by
  simp [readUnsigned?, readWhole?_decimalDigits size follows, follows.readFraction?,
    follows.readExponent?, value]

/-- A number that begins with a digit has no sign. -/
theorem readNumber?_of_isDigit {digit : Char} (isDigit : digit.isDigit = true) (rest : List Char) :
    readNumber? (digit :: rest) = readUnsigned? false (digit :: rest) := by
  have unsigned : digit ∉ ['-'] := notMem_of_isDigit isDigit (by decide)
  simp [readNumber?, List.mem_singleton.not.mp unsigned]

/-- A written number begins with a minus sign or a digit. -/
theorem intDigits_eq_cons (size : Int) :
    ∃ first rest, intDigits size = first :: rest ∧ (first = '-' ∨ first.isDigit = true) := by
  unfold intDigits
  split_ifs with negative
  · exact ⟨_, _, rfl, .inl rfl⟩
  · obtain ⟨first, rest, digits⟩ := List.exists_cons_of_ne_nil (decimalDigits_ne_nil size.natAbs)
    have member : first ∈ decimalDigits size.natAbs := digits ▸ List.mem_cons_self
    exact ⟨first, rest, digits, .inr (isDigit_of_mem_decimalDigits member)⟩

/-- **A whole number is read back.** -/
theorem readNumber?_intDigits {size : Int} (fits : Fits size) {rest : List Char}
    (follows : Follows rest) :
    readNumber? (intDigits size ++ rest) = some (.number (.whole size fits), rest) := by
  unfold intDigits
  generalize natAbs : size.natAbs = magnitude
  split_ifs with negative
  · have value : WrittenNumber.value? ⟨true, decimalDigits magnitude, [], none⟩ =
        some (.whole size fits) := by
      have same : -(magnitude : Int) = size := by omega
      have nonzero : magnitude ≠ 0 := by omega
      simp [WrittenNumber.value?, ofDigits_decimalDigits, nonzero, same, Number.ofInt?, fits]
    exact readUnsigned?_decimalDigits value follows
  · have value : WrittenNumber.value? ⟨false, decimalDigits magnitude, [], none⟩ =
        some (.whole size fits) := by
      have same : (magnitude : Int) = size := by omega
      simp [WrittenNumber.value?, ofDigits_decimalDigits, same, Number.ofInt?, fits]
    rw [← readUnsigned?_decimalDigits value follows]
    obtain ⟨first, others, written⟩ := List.exists_cons_of_ne_nil (decimalDigits_ne_nil magnitude)
    have member : first ∈ decimalDigits magnitude := written ▸ List.mem_cons_self
    rw [written]
    exact readNumber?_of_isDigit (isDigit_of_mem_decimalDigits member) _

/-! ## Strings -/

/-- The four digits of a control character are read as its code. -/
theorem readCode?_hexDigits {code : Nat} (small : code < 0x20) (rest : List Char) :
    readCode? ('0' :: '0' :: hexDigit (code / 16) :: hexDigit (code % 16) :: rest) =
      some (Char.ofNat code, rest) := by
  have zero : hexValue? '0' = some 0 := by decide
  have unit : (((0 * 16 + 0) * 16 + code / 16) * 16 + code % 16) = code := by omega
  have high : code / 16 < 16 := by omega
  simp [readCode?, readUnit?, zero, hexValue?_hexDigit high,
    hexValue?_hexDigit (Nat.mod_lt code (by decide)), Nat.div_add_mod', show code < 0xD800 by omega]

/-- An escape by a letter is read as the character that it stands for. -/
theorem readCharacters?_letter {letter character : Char} (notCode : letter ≠ 'u')
    (stands : letterEscape? letter = some character) (fuel : Nat) (rest : List Char) :
    readCharacters? (fuel + 1) ('\\' :: letter :: rest) =
      (readCharacters? fuel rest).map fun (characters, behind) =>
        (character :: characters, behind) := by
  cases read : readCharacters? fuel rest <;> simp [readCharacters?, stands, read]

/-- **A character is read back**, and the characters behind it are read as before. -/
theorem readCharacters?_escapedChar (character : Char) (fuel : Nat) (rest : List Char) :
    readCharacters? (fuel + 1) (escapedChar character ++ rest) =
      (readCharacters? fuel rest).map fun (characters, behind) =>
        (character :: characters, behind) := by
  unfold escapedChar
  split_ifs with quote backslash feed tab carriage back form control
  · subst quote
    exact readCharacters?_letter (by decide) (by decide) fuel rest
  · subst backslash
    exact readCharacters?_letter (by decide) (by decide) fuel rest
  · subst feed
    exact readCharacters?_letter (by decide) (by decide) fuel rest
  · subst tab
    exact readCharacters?_letter (by decide) (by decide) fuel rest
  · subst carriage
    exact readCharacters?_letter (by decide) (by decide) fuel rest
  · subst back
    exact readCharacters?_letter (by decide) (by decide) fuel rest
  · subst form
    exact readCharacters?_letter (by decide) (by decide) fuel rest
  · cases read : readCharacters? fuel rest <;>
      simp [readCharacters?, readCode?_hexDigits control, read]
  · cases read : readCharacters? fuel rest <;>
      simp [readCharacters?, quote, backslash, control, read]

theorem one_le_length_escapedChar (character : Char) : 1 ≤ (escapedChar character).length := by
  unfold escapedChar
  split_ifs <;> simp

/-- What is written for a text is no shorter than the text. -/
theorem length_le_length_flatMap_escapedChar (characters : List Char) :
    characters.length ≤ (characters.flatMap escapedChar).length := by
  induction characters with
  | nil => exact Nat.le_refl _
  | cons character characters ih =>
      have one := one_le_length_escapedChar character
      simp only [List.flatMap_cons, List.length_append, List.length_cons]
      omega

/-- The characters of a string are read back up to its closing quote. -/
theorem readCharacters?_flatMap {characters : List Char} {fuel : Nat}
    (enough : characters.length < fuel) (rest : List Char) :
    readCharacters? fuel (characters.flatMap escapedChar ++ '"' :: rest) =
      some (characters, rest) := by
  induction characters generalizing fuel with
  | nil =>
    obtain ⟨fuel, rfl⟩ := Nat.exists_eq_add_one_of_ne_zero (Nat.ne_of_gt enough)
    simp [readCharacters?]
  | cons character characters ih =>
    obtain ⟨fuel, rfl⟩ := Nat.exists_eq_add_one_of_ne_zero (Nat.ne_of_gt (Nat.zero_lt_of_lt enough))
    rw [List.flatMap_cons, List.append_assoc, readCharacters?_escapedChar,
      ih (Nat.lt_of_succ_lt_succ enough)]
    rfl

/-- **A string is read back.** -/
theorem readString?_flatMap (text : String) (rest : List Char) :
    readString? (text.toList.flatMap escapedChar ++ '"' :: rest) = some (text, rest) := by
  have enough : text.toList.length <
      (text.toList.flatMap escapedChar ++ '"' :: rest).length + 1 := by
    have := length_le_length_flatMap_escapedChar text.toList
    rw [List.length_append]
    omega
  rw [readString?, readCharacters?_flatMap enough]
  simp

/-! ## Values -/

/-- What begins with a minus sign or a digit is read as a number. -/
theorem readValue?_number {first : Char} (begins : first = '-' ∨ first.isDigit = true)
    (fuel depth : Nat) (rest : List Char) :
    readValue? (fuel + 1) depth (first :: rest) = readNumber? (first :: rest) := by
  have differs : first ∉ ['n', 't', 'f', '"', '[', '{'] := by
    rcases begins with rfl | digit
    · decide
    · exact notMem_of_isDigit digit (by decide)
  simp only [List.mem_cons, not_or] at differs
  simp [readValue?, differs]

/-- Characters that begin with a mark: neither with white space nor with a closing bracket. -/
def Begins (characters : List Char) : Prop :=
  ∃ first rest, characters = first :: rest ∧ 0x20 < first.toNat ∧ first ≠ ']'

theorem Begins.append {characters : List Char} (begins : Begins characters) (more : List Char) :
    Begins (characters ++ more) := by
  obtain ⟨first, rest, rfl, visible, noBracket⟩ := begins
  exact ⟨first, rest ++ more, rfl, visible, noBracket⟩

theorem isSpace_eq_false {character : Char} (visible : 0x20 < character.toNat) :
    isSpace character = false := by
  have differs : character ∉ [' ', '\n', '\t', '\r'] := by
    intro member
    have none : [' ', '\n', '\t', '\r'].all fun mark => mark.toNat ≤ 0x20 := by decide
    have small := of_decide_eq_true (List.all_eq_true.mp none character member)
    omega
  simp only [List.mem_cons, not_or] at differs
  simp [isSpace, differs]

theorem Begins.skipSpace {characters : List Char} (begins : Begins characters) :
    skipSpace characters = characters := by
  obtain ⟨first, rest, rfl, visible, -⟩ := begins
  simp [Json.skipSpace, isSpace_eq_false visible]

section Steps

variable {fuel depth : Nat} {characters others rest : List Char}

/-- An array with items is read by reading its items. -/
theorem readValue?_array (begins : Begins characters) {items : List Value}
    (read : readItems? fuel depth characters = some (items, rest)) :
    readValue? (fuel + 1) (depth + 1) ('[' :: characters) = some (.array items, rest) := by
  have noSpace := begins.skipSpace
  obtain ⟨first, behind, rfl, -, noBracket⟩ := begins
  simp [readValue?, noSpace, noBracket, read]

/-- An object with members is read by reading its members. -/
theorem readValue?_object {members : List (String × Value)}
    (read : readMembers? fuel depth ('"' :: characters) = some (members, rest)) :
    readValue? (fuel + 1) (depth + 1) ('{' :: '"' :: characters) =
      some (.ofMembers members, rest) := by
  have noSpace : skipSpace ('"' :: characters) = '"' :: characters := rfl
  simp [readValue?, noSpace, read]

theorem readItems?_last {item : Value}
    (read : readValue? fuel depth characters = some (item, ']' :: rest)) :
    readItems? (fuel + 1) depth characters = some ([item], rest) := by
  have noSpace : skipSpace (']' :: rest) = ']' :: rest := rfl
  simp [readItems?, read, noSpace]

theorem readItems?_more {item : Value} {items : List Value}
    (read : readValue? fuel depth characters = some (item, ',' :: others))
    (noSpace : skipSpace others = others)
    (readOthers : readItems? fuel depth others = some (items, rest)) :
    readItems? (fuel + 1) depth characters = some (item :: items, rest) := by
  have comma : skipSpace (',' :: others) = ',' :: others := rfl
  simp [readItems?, read, comma, noSpace, readOthers]

/-- The last member of an object is read with its name in front. -/
theorem readMembers?_last {name : String} {value : Value}
    (noSpace : skipSpace characters = characters)
    (read : readValue? fuel depth characters = some (value, '}' :: rest)) :
    readMembers? (fuel + 1) depth (printedString name.toList ++ ':' :: characters) =
      some ([(name, value)], rest) := by
  have colon : skipSpace (':' :: characters) = ':' :: characters := rfl
  have brace : skipSpace ('}' :: rest) = '}' :: rest := rfl
  simp [printedString, readMembers?, readString?_flatMap, colon, noSpace, read, brace]

theorem readMembers?_more {name : String} {value : Value} {members : List (String × Value)}
    (noSpace : skipSpace characters = characters)
    (read : readValue? fuel depth characters = some (value, ',' :: others))
    (noSpaceOthers : skipSpace others = others)
    (readOthers : readMembers? fuel depth others = some (members, rest)) :
    readMembers? (fuel + 1) depth (printedString name.toList ++ ':' :: characters) =
      some ((name, value) :: members, rest) := by
  have colon : skipSpace (':' :: characters) = ':' :: characters := rfl
  have comma : skipSpace (',' :: others) = ',' :: others := rfl
  simp [printedString, readMembers?, readString?_flatMap, colon, noSpace, read, comma,
    noSpaceOthers, readOthers]

end Steps

/-! ### Items and members -/

theorem printedItems_more (item next : Value) (items : List Value) :
    printedItems (item :: next :: items) = printed item ++ ',' :: printedItems (next :: items) := by
  simp [printedItems]

theorem printedMembers_more (name : String) (value : Value) (next : String × Value)
    (members : List (String × Value)) :
    printedMembers ((name, value) :: next :: members) =
      printedString name.toList ++ ':' :: printed value ++
        ',' :: printedMembers (next :: members) := by
  simp [printedMembers]

/-- Printed members begin with the quote of a name. -/
theorem printedMembers_eq_cons {members : List (String × Value)} (nonempty : members ≠ []) :
    ∃ rest, printedMembers members = '"' :: rest := by
  match members with
  | [] => exact absurd rfl nonempty
  | [(name, value)] => exact ⟨_, by simp [printedMembers, printedString]; rfl⟩
  | (name, value) :: next :: members =>
      exact ⟨_, by simp [printedMembers_more, printedString]; rfl⟩

theorem skipSpace_printedMembers {members : List (String × Value)} (nonempty : members ≠ [])
    (rest : List Char) :
    skipSpace (printedMembers members ++ rest) = printedMembers members ++ rest := by
  obtain ⟨behind, same⟩ := printedMembers_eq_cons nonempty
  rw [same]
  rfl

/-- A value is read back by readers with enough fuel, whatever follows it. -/
structure ReadBack (depth : Nat) (value : Value) : Prop where
  begins : Begins (printed value)
  read : ∀ {fuel : Nat} {rest : List Char}, 2 * (printed value).length ≤ fuel → Follows rest →
    readValue? fuel depth (printed value ++ rest) = some (value, rest)

theorem begins_printedItems {depth : Nat} {items : List Value}
    (each : ∀ item ∈ items, ReadBack depth item) (nonempty : items ≠ []) :
    Begins (printedItems items) := by
  match items with
  | [] => exact absurd rfl nonempty
  | [item] => exact (each item List.mem_cons_self).begins
  | item :: next :: others => exact (each item List.mem_cons_self).begins.append _

/-- The items of an array are read back up to the closing bracket. -/
theorem readItems?_printedItems {depth : Nat} {items : List Value}
    (each : ∀ item ∈ items, ReadBack depth item) (nonempty : items ≠ []) {fuel : Nat}
    (enough : 2 * (printedItems items).length < fuel) (rest : List Char) :
    readItems? fuel depth (printedItems items ++ ']' :: rest) = some (items, rest) := by
  induction items generalizing fuel with
  | nil => exact absurd rfl nonempty
  | cons item items ih =>
      obtain ⟨fuel, rfl⟩ := Nat.exists_eq_add_one.mpr (Nat.zero_lt_of_lt enough)
      obtain ⟨here, further⟩ := List.forall_mem_cons.mp each
      cases items with
      | nil =>
          rw [printedItems] at enough ⊢
          exact readItems?_last (here.read (by omega) (.bracket rest))
      | cons next items =>
          have others := begins_printedItems further (List.cons_ne_nil _ _)
          rw [printedItems_more, List.length_append, List.length_cons] at enough
          rw [printedItems_more, List.append_assoc, List.cons_append]
          exact readItems?_more (here.read (by omega) (.comma _)) (others.append _).skipSpace
            (ih further (List.cons_ne_nil _ _) (by omega))

/-- The members of an object are read back up to the closing brace. -/
theorem readMembers?_printedMembers {depth : Nat} {members : List (String × Value)}
    (each : ∀ member ∈ members, ReadBack depth member.2) (nonempty : members ≠ []) {fuel : Nat}
    (enough : 2 * (printedMembers members).length < fuel) (rest : List Char) :
    readMembers? fuel depth (printedMembers members ++ '}' :: rest) = some (members, rest) := by
  induction members generalizing fuel with
  | nil => exact absurd rfl nonempty
  | cons member members ih =>
      obtain ⟨name, value⟩ := member
      obtain ⟨fuel, rfl⟩ := Nat.exists_eq_add_one.mpr (Nat.zero_lt_of_lt enough)
      obtain ⟨here, further⟩ := List.forall_mem_cons.mp each
      have noSpace := (here.begins.append · |>.skipSpace)
      cases members with
      | nil =>
          rw [printedMembers, List.length_append, List.length_cons] at enough
          rw [printedMembers, List.append_assoc, List.cons_append]
          exact readMembers?_last (noSpace _) (here.read (by dsimp only; omega) (.brace rest))
      | cons next members =>
          simp only [printedMembers_more, List.length_append, List.length_cons] at enough
          rw [printedMembers_more, List.append_assoc, List.append_assoc, List.cons_append,
            List.cons_append]
          exact readMembers?_more (noSpace _) (here.read (by dsimp only; omega) (.comma _))
            (skipSpace_printedMembers (List.cons_ne_nil _ _) _)
            (ih further (List.cons_ne_nil _ _) (by omega))

/-! ### The induction on nesting -/

/-- Readers need fuel for at least one step. -/
theorem ReadBack.of_step {depth : Nat} {value : Value} (begins : Begins (printed value))
    (step : ∀ {fuel : Nat} {rest : List Char}, 2 * (printed value).length ≤ fuel + 1 →
      Follows rest → readValue? (fuel + 1) depth (printed value ++ rest) = some (value, rest)) :
    ReadBack depth value where
  begins := begins
  read {fuel rest} enough follows := by
    obtain ⟨first, others, same, -⟩ := begins
    obtain ⟨fuel, rfl⟩ := Nat.exists_eq_add_one_of_ne_zero (show fuel ≠ 0 by
      rw [same, List.length_cons] at enough
      omega)
    exact step enough follows

/-- A written number begins with neither a space nor a closing bracket. -/
theorem begins_intDigits (size : Int) : Begins (intDigits size) := by
  obtain ⟨first, rest, digits, rfl | digit⟩ := intDigits_eq_cons size
  · exact ⟨'-', rest, digits, by decide, by decide⟩
  · have visible : 0x30 ≤ first.toNat := (Char.isDigit_iff_toNat.mp digit).1
    have other : first ∉ [']'] := notMem_of_isDigit digit (by decide)
    exact ⟨first, rest, digits, by omega, List.mem_singleton.not.mp other⟩

theorem readBack_null (depth : Nat) : ReadBack depth .null :=
  .of_step ⟨'n', _, rfl, by decide, by decide⟩ fun _ _ => by simp [printed, readValue?]

theorem readBack_bool (depth : Nat) (flag : Bool) : ReadBack depth (.bool flag) := by
  cases flag with
  | true =>
      exact .of_step ⟨'t', _, rfl, by decide, by decide⟩ fun _ _ => by simp [printed, readValue?]
  | false =>
      exact .of_step ⟨'f', _, rfl, by decide, by decide⟩ fun _ _ => by simp [printed, readValue?]

theorem readBack_whole (depth : Nat) {size : Int} (fits : Fits size) :
    ReadBack depth (.number (.whole size fits)) := by
  refine .of_step (begins_intDigits size) fun {fuel rest} _ follows => ?_
  obtain ⟨first, others, digits, begins⟩ := intDigits_eq_cons size
  have read := readNumber?_intDigits fits follows
  rw [digits, List.cons_append] at read
  rw [printed, printedNumber, digits, List.cons_append, readValue?_number begins, read]

theorem readBack_string (depth : Nat) (text : String) : ReadBack depth (.string text) :=
  .of_step ⟨'"', _, rfl, by decide, by decide⟩ fun {fuel rest} _ _ => by
    simp [printed, printedString, readValue?, readString?_flatMap]

theorem readBack_array {depth : Nat} {items : List Value}
    (each : ∀ item ∈ items, ReadBack depth item) : ReadBack (depth + 1) (.array items) := by
  refine .of_step ⟨'[', _, rfl, by decide, by decide⟩ fun {fuel rest} enough _ => ?_
  by_cases nonempty : items = []
  · subst nonempty
    rfl
  · rw [printed, List.length_append, List.length_cons] at enough
    rw [printed, List.append_assoc, List.cons_append]
    refine readValue?_array ((begins_printedItems each nonempty).append _) ?_
    exact readItems?_printedItems each nonempty (by omega) rest

theorem readBack_object {depth : Nat} {members : List (String × Value)}
    (distinct : (members.map Prod.fst).Nodup)
    (each : ∀ member ∈ members, ReadBack depth member.2) :
    ReadBack (depth + 1) (.object members) := by
  refine .of_step ⟨'{', _, rfl, by decide, by decide⟩ fun {fuel rest} enough _ => ?_
  by_cases nonempty : members = []
  · subst nonempty
    rfl
  · rw [printed, List.length_append, List.length_cons] at enough
    rw [printed, List.append_assoc, List.cons_append]
    have left : 2 * (printedMembers members).length < fuel := by omega
    have read := readMembers?_printedMembers each nonempty left rest
    obtain ⟨behind, same⟩ := printedMembers_eq_cons nonempty
    rw [same, List.cons_append] at read ⊢
    rw [List.singleton_append, readValue?_object read, Value.ofMembers, assignAll_of_nodup distinct]

/-- **A value is read back, whatever follows it**, if its names are distinct, its numbers whole, and
its nesting within the depth that is left. -/
theorem readBack_of_nestedWithin {depth : Nat} {value : Value} (distinct : value.NamesDistinct)
    (whole : value.NumbersWhole) (nested : value.NestedWithin depth) : ReadBack depth value := by
  induction nested with
  | null depth => exact readBack_null depth
  | bool depth flag => exact readBack_bool depth flag
  | number depth number =>
      cases whole with
      | whole size fits => exact readBack_whole depth fits
  | string depth text => exact readBack_string depth text
  | array each ih =>
      refine readBack_array fun item member => ih item member ?_ ?_
      · exact Value.namesDistinct_array.mp distinct item member
      · exact Value.numbersWhole_array.mp whole item member
  | object each ih =>
      obtain ⟨names, values⟩ := Value.namesDistinct_object.mp distinct
      refine readBack_object names fun member there => ih member there (values member there) ?_
      exact Value.numbersWhole_object.mp whole member there

/-! ## Texts -/

/-- The fuel for a whole text is enough. -/
theorem ReadBack.read_whole {depth : Nat} {value : Value} (back : ReadBack depth value) :
    readValue? (2 * (printed value).length + 2) depth (printed value) = some (value, []) := by
  have read := back.read (Nat.le_add_right (2 * (printed value).length) 2) .nil
  rwa [List.append_nil] at read

/-- **Such a value is read back from its characters.** -/
theorem parseChars?_printed {value : Value} (distinct : value.NamesDistinct)
    (whole : value.NumbersWhole) (nested : value.NestedWithin deepestNesting) :
    parseChars? (printed value) = some value := by
  have back := readBack_of_nestedWithin distinct whole nested
  rw [parseChars?, back.begins.skipSpace, back.read_whole]
  rfl

/-- **A value with distinct names and whole numbers is read back from its text exactly if it is
nested no deeper than texts are read.** -/
theorem parse?_compact_eq_some_iff {value : Value} (distinct : value.NamesDistinct)
    (whole : value.NumbersWhole) :
    parse? value.compact = some value ↔ value.NestedWithin deepestNesting := by
  constructor
  · exact holds_of_parse? keptByReading_nestedWithin
  · intro nested
    rw [parse?, Value.compact, String.toList_ofList]
    exact parseChars?_printed distinct whole nested

/-- **Nothing but the value is read from its text**: with more room for nesting the readers would
read the value, and what they read with less room they read with more. -/
theorem eq_of_parse?_compact {value found : Value} (distinct : value.NamesDistinct)
    (whole : value.NumbersWhole) (read : parse? value.compact = some found) : found = value := by
  obtain ⟨depth, nested⟩ := distinct.exists_nestedWithin
  have deeper := nested.of_le (Nat.le_max_left depth deepestNesting)
  have back := readBack_of_nestedWithin distinct whole deeper
  rw [parse?, Value.compact, String.toList_ofList, parseChars?, back.begins.skipSpace] at read
  split at read
  · next other behind readOther =>
      have same := readValue?_of_le (Nat.le_max_right depth deepestNesting) readOther
      rw [back.read_whole] at same
      cases same
      split at read
      · cases read
        rfl
      · cases read
  · cases read

end ServiceCatalog.Json
