import Mathlib.Data.List.Basic
import Mathlib.Tactic.SplitIfs
import ServiceCatalog.Association
import ServiceCatalog.Text.Words

/-!
# What words are made of

Cutting a name into words only regroups the letters and numbers of the name (`flatten_words`), and
no word is empty.  The small form of a word is not empty either, and it has no capital letter and
no underscore of the basic range (`isSmall_of_mem_lowercase`).  So the underscores of a text in
snake case are those between its words, and none is at the end.

Names of the basic range stay in the basic range: their case styles hold letters, digits and, in
snake case, underscores of that range.
-/

namespace ServiceCatalog.Text

set_option autoImplicit false

/-! ## Regrouping -/

/-- The pieces between separators hold everything else. -/
theorem flatten_splitWhen (separates : Char → Bool) (characters : List Char) :
    (splitWhen separates characters).flatten =
      characters.filter fun character => !separates character := by
  induction characters with
  | nil => rfl
  | cons character rest ih =>
      by_cases apart : separates character = true
      · simp [splitWhen, apart, ih]
      · rw [splitWhen, if_neg apart, List.filter_cons_of_pos (by simp [apart]), ← ih]
        cases splitWhen separates rest with
        | nil => rfl
        | cons piece pieces => rfl

theorem flatten_extendFirst (character : Char) (words : List (List Char)) :
    (extendFirst character words).flatten = character :: words.flatten := by
  cases words with
  | nil => rfl
  | cons word words => rfl

/-- The words of a stretch hold all of it. -/
theorem flatten_camelWords (characters : List Char) :
    (camelWords characters).flatten = characters := by
  induction characters using camelWords.induct with
  | case1 => rfl
  | case2 character => rfl
  | case3 previous current rest begins ih =>
      rw [camelWords, if_pos begins, List.flatten_cons, ih]
      rfl
  | case4 previous current rest begins ih =>
      rw [camelWords, if_neg begins, flatten_extendFirst, ih]

theorem flatten_stretches (characters : List Char) :
    (stretches characters).flatten = characters.filter isAlphanumeric := by
  rw [stretches, List.flatten_filter_not_isEmpty, flatten_splitWhen]
  simp only [Bool.not_not]

/-- **Cutting into words regroups the letters and numbers.** -/
theorem flatten_words (characters : List Char) :
    (words characters).flatten = characters.filter isAlphanumeric := by
  rw [words, List.flatMap_def, List.flatten_flatten, List.map_map, ← flatten_stretches]
  simp only [Function.comp_def, flatten_camelWords, List.map_id']

theorem ne_nil_of_mem_extendFirst {character : Char} {words : List (List Char)}
    {word : List Char} (full : ∀ other ∈ words, other ≠ [])
    (member : word ∈ extendFirst character words) : word ≠ [] := by
  cases words with
  | nil =>
      obtain rfl := List.mem_singleton.mp member
      exact List.cons_ne_nil _ _
  | cons first words =>
      rcases List.mem_cons.mp member with rfl | later
      · exact List.cons_ne_nil _ _
      · exact full word (List.mem_cons_of_mem _ later)

theorem ne_nil_of_mem_camelWords {characters word : List Char}
    (member : word ∈ camelWords characters) : word ≠ [] := by
  induction characters using camelWords.induct generalizing word with
  | case1 => cases member
  | case2 character =>
      obtain rfl := List.mem_singleton.mp member
      exact List.cons_ne_nil _ _
  | case3 previous current rest begins ih =>
      rw [camelWords, if_pos begins] at member
      rcases List.mem_cons.mp member with rfl | later
      · exact List.cons_ne_nil _ _
      · exact ih later
  | case4 previous current rest begins ih =>
      rw [camelWords, if_neg begins] at member
      exact ne_nil_of_mem_extendFirst (fun _ => ih) member

section Members

variable {characters word : List Char} {character : Char}

/-- No word is empty. -/
theorem ne_nil_of_mem_words (member : word ∈ words characters) : word ≠ [] := by
  obtain ⟨stretch, _, within⟩ := List.mem_flatMap.mp member
  exact ne_nil_of_mem_camelWords within

/-- The characters of words are letters and numbers of the name. -/
theorem mem_of_mem_words (member : word ∈ words characters) (within : character ∈ word) :
    character ∈ characters ∧ isAlphanumeric character = true := by
  have joined : character ∈ (words characters).flatten :=
    List.mem_flatten.mpr ⟨word, member, within⟩
  rwa [flatten_words, List.mem_filter] at joined

end Members

/-! ## Letters and digits of the basic range -/

section Basic

variable {character : Char}

theorem isUpper_iff_toNat :
    character.isUpper = true ↔ 0x41 ≤ character.toNat ∧ character.toNat ≤ 0x5A :=
  decide_eq_true_iff

theorem isLower_iff_toNat :
    character.isLower = true ↔ 0x61 ≤ character.toNat ∧ character.toNat ≤ 0x7A :=
  Bool.and_eq_true_iff.trans (and_congr decide_eq_true_iff decide_eq_true_iff)

theorem isAlpha_iff :
    character.isAlpha = true ↔ character.isUpper = true ∨ character.isLower = true :=
  Bool.or_eq_true_iff

theorem isAlphanum_iff :
    character.isAlphanum = true ↔ character.isAlpha = true ∨ character.isDigit = true :=
  Bool.or_eq_true_iff

/-- The codes of letters and digits of the basic range. -/
theorem isAlphanum_iff_toNat :
    character.isAlphanum = true ↔
      (0x41 ≤ character.toNat ∧ character.toNat ≤ 0x5A ∨
        0x61 ≤ character.toNat ∧ character.toNat ≤ 0x7A) ∨
      0x30 ≤ character.toNat ∧ character.toNat ≤ 0x39 := by
  rw [isAlphanum_iff, isAlpha_iff, isUpper_iff_toNat, isLower_iff_toNat, Char.isDigit_iff_toNat]
  rfl

theorem isAlphanum_of_isUpper (capital : character.isUpper = true) :
    character.isAlphanum = true :=
  isAlphanum_iff.mpr (.inl (isAlpha_iff.mpr (.inl capital)))

theorem isAlphanum_of_isLower (small : character.isLower = true) : character.isAlphanum = true :=
  isAlphanum_iff.mpr (.inl (isAlpha_iff.mpr (.inr small)))

theorem isDigit_eq_false_of_isAlpha (letter : character.isAlpha = true) :
    character.isDigit = false := by
  rw [isAlpha_iff, isUpper_iff_toNat, isLower_iff_toNat] at letter
  rw [Bool.eq_false_iff]
  intro digit
  have code : character.toNat ≤ 0x39 := (Char.isDigit_iff_toNat.mp digit).2
  omega

theorem toNat_toLower (character : Char) :
    character.toLower.toNat =
      if 0x41 ≤ character.toNat ∧ character.toNat ≤ 0x5A then character.toNat + 0x20
      else character.toNat := by
  by_cases capital : 0x41 ≤ character.toNat ∧ character.toNat ≤ 0x5A
  · have turned : character.toLower = ⟨character.val + ('a'.val - 'A'.val), _⟩ := dif_pos capital
    have sum : (character.val + ('a'.val - 'A'.val)).toNat = (character.toNat + 0x20) % 2 ^ 32 :=
      UInt32.toNat_add _ _
    rw [if_pos capital, turned]
    exact sum.trans (by omega)
  · have kept : character.toLower = character := dif_neg capital
    rw [if_neg capital, kept]

theorem toNat_toUpper (character : Char) :
    character.toUpper.toNat =
      if 0x61 ≤ character.toNat ∧ character.toNat ≤ 0x7A then character.toNat - 0x20
      else character.toNat := by
  by_cases small : 0x61 ≤ character.toNat ∧ character.toNat ≤ 0x7A
  · have turned : character.toUpper = ⟨character.val + ('A'.val - 'a'.val), _⟩ := dif_pos small
    have sum : (character.val + ('A'.val - 'a'.val)).toNat =
        (character.toNat + (2 ^ 32 - 0x20)) % 2 ^ 32 := UInt32.toNat_add _ _
    rw [if_pos small, turned]
    exact sum.trans (by omega)
  · have kept : character.toUpper = character := dif_neg small
    rw [if_neg small, kept]

/-- Plain letters and digits are in the basic range. -/
theorem isBasic_of_isAlphanum (plain : character.isAlphanum = true) :
    isBasic character = true := by
  have code := isAlphanum_iff_toNat.mp plain
  rw [isBasic, decide_eq_true_eq]
  omega

end Basic

/-! ## Small forms -/

/-- A code that is no capital letter and no underscore of the basic range. -/
def IsSmallCode (code : Nat) : Prop := code < 0x41 ∨ 0x5F < code

/-- A character that is no capital letter and no underscore of the basic range. -/
def IsSmall (character : Char) : Prop := IsSmallCode character.toNat

instance (code : Nat) : Decidable (IsSmallCode code) := inferInstanceAs (Decidable (_ ∨ _))

instance (character : Char) : Decidable (IsSmall character) :=
  inferInstanceAs (Decidable (IsSmallCode _))

theorem isSmallCode_loweringExpansions :
    ∀ entry ∈ loweringExpansions, entry.2 ≠ [] ∧ ∀ code ∈ entry.2, IsSmallCode code := by
  decide

set_option maxRecDepth 2000 in
theorem loweringShifts_above : ∀ shift ∈ loweringShifts, 0x5F < shift.target := by
  decide

/-- The character of a small code is small; there is none for some codes. -/
theorem isSmall_ofNat {code : Nat} (small : IsSmallCode code) : IsSmall (Char.ofNat code) := by
  by_cases valid : code.isValidChar
  · have same : Char.ofNat code = Char.ofNatAux code valid := dif_pos valid
    rw [same]
    exact small
  · have none : Char.ofNat code = '\x00' := dif_neg valid
    rw [none]
    decide

/-- Letters and digits of the basic range stay letters and digits in small form, and become
small. -/
theorem isAlphanum_toLower {character : Char} (plain : character.isAlphanum = true) :
    character.toLower.isAlphanum = true ∧ IsSmall character.toLower := by
  rw [isAlphanum_iff_toNat] at plain ⊢
  rw [IsSmall, IsSmallCode, toNat_toLower]
  split_ifs <;> omega

theorem isAlphanum_toUpper {character : Char} (plain : character.isAlphanum = true) :
    character.toUpper.isAlphanum = true := by
  rw [isAlphanum_iff_toNat] at plain ⊢
  rw [toNat_toUpper]
  split_ifs <;> omega

theorem isSmallCode_shifted {code : Nat} (above : 0x80 ≤ code) :
    IsSmallCode (shifted loweringShifts code) := by
  rw [shifted]
  split
  · next shift found =>
      have known := loweringShifts_above shift (List.mem_of_find?_eq_some found)
      exact .inr (by omega)
  · exact .inr (by omega)

/-- The small form of a letter or number has small characters, at least one. -/
theorem isSmall_loweredChar {character : Char} (plain : isAlphanumeric character = true) :
    loweredChar character ≠ [] ∧ ∀ small ∈ loweredChar character, IsSmall small := by
  rw [isAlphanumeric] at plain
  by_cases basic : isBasic character = true
  · rw [if_pos basic] at plain
    rw [loweredChar, if_pos basic]
    exact ⟨List.cons_ne_nil _ _, List.forall_mem_singleton.mpr (isAlphanum_toLower plain).2⟩
  · have above : 0x80 ≤ character.toNat := by simpa [isBasic] using basic
    rw [loweredChar, if_neg basic, caseMapped]
    split
    · next codes found =>
        obtain ⟨full, small⟩ := isSmallCode_loweringExpansions _ (mem_of_lookup_eq_some found)
        refine ⟨by simpa using full, fun lowered member => ?_⟩
        obtain ⟨code, within, rfl⟩ := List.mem_map.mp member
        exact isSmall_ofNat (small code within)
    · exact ⟨List.cons_ne_nil _ _,
        List.forall_mem_singleton.mpr (isSmall_ofNat (isSmallCode_shifted above))⟩

section Words

variable {characters : List Char}

theorem isSmall_of_mem_lowercaseAfter
    (plain : ∀ character ∈ characters, isAlphanumeric character = true) (passed : List Char) :
    ∀ small ∈ lowercaseAfter passed characters, IsSmall small := by
  induction characters generalizing passed with
  | nil => exact fun small member => absurd member List.not_mem_nil
  | cons character rest ih =>
      obtain ⟨first, others⟩ := List.forall_mem_cons.mp plain
      rw [lowercaseAfter, List.forall_mem_append]
      refine ⟨?_, ih others _⟩
      split_ifs
      · exact List.forall_mem_singleton.mpr (by decide)
      · exact List.forall_mem_singleton.mpr (by decide)
      · exact (isSmall_loweredChar first).2

/-- The small form of letters and numbers has small characters. -/
theorem isSmall_of_mem_lowercase
    (plain : ∀ character ∈ characters, isAlphanumeric character = true) :
    ∀ small ∈ lowercase characters, IsSmall small :=
  isSmall_of_mem_lowercaseAfter plain []

/-- The small form of a word is not empty. -/
theorem lowercase_ne_nil (full : characters ≠ [])
    (plain : ∀ character ∈ characters, isAlphanumeric character = true) :
    lowercase characters ≠ [] := by
  obtain ⟨first, rest, rfl⟩ := List.exists_cons_of_ne_nil full
  have lowered := (isSmall_loweredChar (plain first List.mem_cons_self)).1
  rw [lowercase, lowercaseAfter]
  intro empty
  obtain ⟨start, _⟩ := List.append_eq_nil_iff.mp empty
  split_ifs at start
  exact lowered start

theorem lowercaseAfter_of_basic (basic : ∀ character ∈ characters, isBasic character = true)
    (passed : List Char) : lowercaseAfter passed characters = characters.map Char.toLower := by
  induction characters generalizing passed with
  | nil => rfl
  | cons character rest ih =>
      obtain ⟨first, others⟩ := List.forall_mem_cons.mp basic
      have noSigma : character ≠ 'Σ' := by
        rintro rfl
        exact absurd first (by decide)
      rw [lowercaseAfter, if_neg noSigma, ih others, loweredChar, if_pos first]
      rfl

/-- In the basic range the small form is made character by character. -/
theorem lowercase_of_basic (basic : ∀ character ∈ characters, isBasic character = true) :
    lowercase characters = characters.map Char.toLower :=
  lowercaseAfter_of_basic basic []

end Words

/-! ## Case styles -/

section Joining

variable {separator : Char} {pieces : List (List Char)}

theorem mem_intercalate {character : Char}
    (member : character ∈ List.intercalate [separator] pieces) :
    character = separator ∨ ∃ piece ∈ pieces, character ∈ piece := by
  induction pieces with
  | nil => cases member
  | cons piece others ih =>
      cases others with
      | nil =>
          rw [List.intercalate_singleton] at member
          exact .inr ⟨piece, List.mem_cons_self, member⟩
      | cons next others =>
          rw [List.intercalate_cons_cons, List.mem_append, List.mem_append,
            List.mem_singleton] at member
          rcases member with (here | separates) | later
          · exact .inr ⟨piece, List.mem_cons_self, here⟩
          · exact .inl separates
          · rcases ih later with separates | ⟨further, known, within⟩
            · exact .inl separates
            · exact .inr ⟨further, List.mem_cons_of_mem _ known, within⟩

theorem intercalate_cons_ne_nil {piece : List Char} (full : piece ≠ [])
    (others : List (List Char)) : List.intercalate [separator] (piece :: others) ≠ [] := by
  cases others with
  | nil => rwa [List.intercalate_singleton]
  | cons next others => simp [full]

/-- Joining pieces without the separator does not end in it. -/
theorem getLast?_intercalate_ne
    (each : ∀ piece ∈ pieces, piece ≠ [] ∧ separator ∉ piece) :
    (List.intercalate [separator] pieces).getLast? ≠ some separator := by
  induction pieces with
  | nil => simp
  | cons piece others ih =>
      obtain ⟨first, later⟩ := List.forall_mem_cons.mp each
      cases others with
      | nil =>
          rw [List.intercalate_singleton]
          exact fun last => first.2 (List.mem_of_getLast? last)
      | cons next others =>
          have full : List.intercalate [separator] (next :: others) ≠ [] :=
            intercalate_cons_ne_nil (later next List.mem_cons_self).1 others
          rw [List.intercalate_cons_cons, List.getLast?_append_of_ne_nil _ full]
          exact ih later

end Joining

section Styles

variable {characters : List Char} {character : Char}

/-- Words in small form. -/
theorem small_of_mem_words {word : List Char} (known : word ∈ words characters) :
    lowercase word ≠ [] ∧ ∀ small ∈ lowercase word, IsSmall small := by
  have plain : ∀ character ∈ word, isAlphanumeric character = true :=
    fun character within => (mem_of_mem_words known within).2
  exact ⟨lowercase_ne_nil (ne_nil_of_mem_words known) plain, isSmall_of_mem_lowercase plain⟩

/-- A text in snake case has small characters and underscores. -/
theorem small_of_mem_snakeCaseChars (member : character ∈ snakeCaseChars characters) :
    IsSmall character ∨ character = '_' := by
  rcases mem_intercalate member with separates | ⟨piece, known, within⟩
  · exact .inr separates
  · obtain ⟨word, cut, rfl⟩ := List.mem_map.mp known
    exact .inl ((small_of_mem_words cut).2 character within)

/-- **A text in snake case ends in no underscore.** -/
theorem getLast?_snakeCaseChars (characters : List Char) :
    (snakeCaseChars characters).getLast? ≠ some '_' := by
  apply getLast?_intercalate_ne
  intro piece member
  obtain ⟨word, known, rfl⟩ := List.mem_map.mp member
  obtain ⟨full, small⟩ := small_of_mem_words known
  exact ⟨full, fun underscore => absurd (small '_' underscore) (by decide)⟩

/-- Words of a name of the basic range have letters and digits of that range in small form. -/
theorem isAlphanum_of_mem_lowercase (basic : ∀ character ∈ characters, isBasic character = true)
    {word : List Char} (known : word ∈ words characters) (member : character ∈ lowercase word) :
    character.isAlphanum = true := by
  have within : ∀ other ∈ word, isBasic other = true ∧ isAlphanumeric other = true := by
    intro other inside
    obtain ⟨named, plain⟩ := mem_of_mem_words known inside
    exact ⟨basic other named, plain⟩
  rw [lowercase_of_basic fun other inside => (within other inside).1] at member
  obtain ⟨other, inside, rfl⟩ := List.mem_map.mp member
  obtain ⟨small, plain⟩ := within other inside
  rw [isAlphanumeric, if_pos small] at plain
  exact (isAlphanum_toLower plain).1

/-- A name of the basic range in snake case. -/
theorem plain_of_mem_snakeCaseChars (basic : ∀ character ∈ characters, isBasic character = true)
    (member : character ∈ snakeCaseChars characters) :
    character.isAlphanum = true ∨ character = '_' := by
  rcases mem_intercalate member with separates | ⟨piece, known, within⟩
  · exact .inr separates
  · obtain ⟨word, cut, rfl⟩ := List.mem_map.mp known
    exact .inl (isAlphanum_of_mem_lowercase basic cut within)

theorem isAlphanum_of_mem_capitalised {word : List Char}
    (plain : ∀ other ∈ word, other.isAlphanum = true) (member : character ∈ capitalised word) :
    character.isAlphanum = true := by
  cases word with
  | nil => cases member
  | cons first rest =>
      obtain ⟨start, others⟩ := List.forall_mem_cons.mp plain
      have basic := isBasic_of_isAlphanum start
      rw [capitalised, capitalisedChar, if_pos basic] at member
      rcases List.mem_cons.mp member with rfl | later
      · exact isAlphanum_toUpper start
      · exact others character later

/-- A name of the basic range with its words capitalised. -/
theorem plain_of_mem_pascalCaseChars (basic : ∀ character ∈ characters, isBasic character = true)
    (member : character ∈ pascalCaseChars characters) : character.isAlphanum = true := by
  obtain ⟨word, known, within⟩ := List.mem_flatMap.mp member
  exact isAlphanum_of_mem_capitalised
    (fun other inside => isAlphanum_of_mem_lowercase basic known inside) within

end Styles

end ServiceCatalog.Text
