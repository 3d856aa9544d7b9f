import ServiceCatalog.Proofs.Text.Lines
import ServiceCatalog.Proofs.Text.Words

/-!
# Restyling a text in snake case

Words without capital letters stay words when they are joined by a separator: the separator cuts
them apart again, and nothing else does (`words_intercalate`).  The words of a name of the basic
range are such words once they are in their small form.  So a name in snake case has the small forms
as its words (`words_snakeCaseChars`), and it can take the place of the name in both case styles
(`snakeCaseChars_snakeCaseChars`, `pascalCaseChars_snakeCaseChars`).
-/

namespace ServiceCatalog.Text

set_option autoImplicit false

/-! ## Words that are joined -/

section Joining

variable {characters : List Char} {separator : Char} {pieces : List (List Char)}

/-- Inside a stretch only a capital letter begins a word. -/
theorem camelWords_of_no_capital (full : characters ≠ [])
    (small : ∀ character ∈ characters, isUppercase character = false) :
    camelWords characters = [characters] := by
  induction characters using camelWords.induct with
  | case1 => exact absurd rfl full
  | case2 character => rfl
  | case3 previous current rest begins ih =>
      have capital := (Bool.and_eq_true_iff.mp begins).1
      rw [small current (by simp)] at capital
      cases capital
  | case4 previous current rest begins ih =>
      rw [camelWords, if_neg begins,
        ih (List.cons_ne_nil _ _) (List.forall_mem_cons.mp small).2]
      rfl

theorem flatMap_camelWords_of_no_capital (full : ∀ piece ∈ pieces, piece ≠ [])
    (small : ∀ piece ∈ pieces, ∀ character ∈ piece, isUppercase character = false) :
    pieces.flatMap camelWords = pieces := by
  induction pieces with
  | nil => rfl
  | cons piece pieces ih =>
      obtain ⟨own, others⟩ := List.forall_mem_cons.mp full
      obtain ⟨ownSmall, othersSmall⟩ := List.forall_mem_cons.mp small
      rw [List.flatMap_cons, camelWords_of_no_capital own ownSmall, ih others othersSmall]
      rfl

/-- **Words without capital letters are read back from where a separator joins them.** -/
theorem words_intercalate (separates : isAlphanumeric separator = false)
    (full : ∀ piece ∈ pieces, piece ≠ [])
    (plain : ∀ piece ∈ pieces, ∀ character ∈ piece, isAlphanumeric character = true)
    (small : ∀ piece ∈ pieces, ∀ character ∈ piece, isUppercase character = false) :
    words (List.intercalate [separator] pieces) = pieces := by
  by_cases none : pieces = []
  · subst none
    rfl
  have cut : splitWhen (fun character => !isAlphanumeric character)
      (List.intercalate [separator] pieces) = pieces :=
    splitWhen_intercalate (by simp [separates]) none fun piece member character within => by
      simp [plain piece member character within]
  have kept : pieces.filter (!·.isEmpty) = pieces :=
    List.filter_eq_self.mpr fun piece member => by simp [full piece member]
  rw [words, stretches, cut, kept, flatMap_camelWords_of_no_capital full small]

theorem head?_intercalate_cons {piece : List Char} (full : piece ≠ [])
    (others : List (List Char)) :
    (List.intercalate [separator] (piece :: others)).head? = piece.head? := by
  obtain ⟨first, rest, rfl⟩ := List.exists_cons_of_ne_nil full
  cases others with
  | nil => rw [List.intercalate_singleton]
  | cons next others => simp

end Joining

/-! ## Small letters and digits of the basic range -/

/-- A small letter or a digit of the basic range. -/
def IsSmallPlain (character : Char) : Prop :=
  character.isLower = true ∨ character.isDigit = true

instance (character : Char) : Decidable (IsSmallPlain character) :=
  inferInstanceAs (Decidable (_ ∨ _))

section Plain

variable {character : Char} {characters word : List Char}

theorem isSmallPlain_of_isSmall (plain : character.isAlphanum = true)
    (small : IsSmall character) : IsSmallPlain character := by
  have capital : ¬ character.isUpper = true := by
    rw [IsSmall, IsSmallCode] at small
    rw [isUpper_iff_toNat]
    omega
  rw [isAlphanum_iff, isAlpha_iff] at plain
  exact plain.imp_left fun letter => letter.resolve_left capital

theorem IsSmallPlain.isAlphanum (plain : IsSmallPlain character) : character.isAlphanum = true :=
  plain.elim isAlphanum_of_isLower fun numeral => isAlphanum_iff.mpr (.inr numeral)

theorem IsSmallPlain.isUpper_eq_false (plain : IsSmallPlain character) :
    character.isUpper = false := by
  rw [Bool.eq_false_iff]
  intro capital
  rcases plain with letter | numeral
  · have capitalCode := isUpper_iff_toNat.mp capital
    have code := isLower_iff_toNat.mp letter
    omega
  · rw [isDigit_eq_false_of_isAlpha (isAlpha_iff.mpr (.inl capital))] at numeral
    cases numeral

/-- What is no capital letter is its own small form. -/
theorem toLower_of_isUpper_eq_false (other : character.isUpper = false) :
    character.toLower = character := by
  rw [Bool.eq_false_iff, Ne, isUpper_iff_toNat] at other
  rw [← Char.toNat_inj, toNat_toLower, if_neg other]

theorem IsSmallPlain.isAlphanumeric_eq_true (plain : IsSmallPlain character) :
    isAlphanumeric character = true := by
  rw [isAlphanumeric, if_pos (isBasic_of_isAlphanum plain.isAlphanum), plain.isAlphanum]

theorem IsSmallPlain.isUppercase_eq_false (plain : IsSmallPlain character) :
    isUppercase character = false := by
  rw [isUppercase, if_pos (isBasic_of_isAlphanum plain.isAlphanum), plain.isUpper_eq_false]

/-- Small letters and digits are their own small form. -/
theorem lowercase_of_isSmallPlain (plain : ∀ character ∈ word, IsSmallPlain character) :
    lowercase word = word := by
  have own : ∀ character ∈ word, character.toLower = character := fun character member =>
    toLower_of_isUpper_eq_false (plain character member).isUpper_eq_false
  rw [lowercase_of_basic fun character member =>
    isBasic_of_isAlphanum (plain character member).isAlphanum, List.map_congr_left own]
  exact List.map_id word

end Plain

/-! ## Names of the basic range -/

section Basic

variable {characters : List Char} (basic : ∀ character ∈ characters, isBasic character = true)

include basic

theorem isSmallPlain_of_mem_lowercase {word : List Char} (known : word ∈ words characters)
    {character : Char} (member : character ∈ lowercase word) : IsSmallPlain character :=
  isSmallPlain_of_isSmall (isAlphanum_of_mem_lowercase basic known member)
    ((small_of_mem_words known).2 character member)

/-- **A name in snake case has the small forms of its words as words.** -/
theorem words_snakeCaseChars :
    words (snakeCaseChars characters) = (words characters).map lowercase := by
  have small : ∀ piece ∈ (words characters).map lowercase, ∀ character ∈ piece,
      IsSmallPlain character := by
    rw [List.forall_mem_map]
    exact fun word known character member => isSmallPlain_of_mem_lowercase basic known member
  apply words_intercalate (by decide)
  · rw [List.forall_mem_map]
    exact fun word known => (small_of_mem_words known).1
  · exact fun piece member character within =>
      (small piece member character within).isAlphanumeric_eq_true
  · exact fun piece member character within =>
      (small piece member character within).isUppercase_eq_false

/-- The small forms of words stay as they are. -/
theorem map_lowercase_words :
    ((words characters).map lowercase).map lowercase = (words characters).map lowercase := by
  rw [List.map_map]
  refine List.map_congr_left fun word known => ?_
  exact lowercase_of_isSmallPlain fun character member =>
    isSmallPlain_of_mem_lowercase basic known member

theorem snakeCaseChars_snakeCaseChars :
    snakeCaseChars (snakeCaseChars characters) = snakeCaseChars characters := by
  rw [snakeCaseChars, words_snakeCaseChars basic, map_lowercase_words basic, snakeCaseChars]

theorem pascalCaseChars_snakeCaseChars :
    pascalCaseChars (snakeCaseChars characters) = pascalCaseChars characters := by
  have style : ∀ text, pascalCaseChars text = ((words text).map lowercase).flatMap capitalised :=
    fun text => (List.flatMap_map lowercase capitalised (words text)).symm
  rw [style, words_snakeCaseChars basic, map_lowercase_words basic, style]

/-- A name in snake case has small letters, digits and underscores. -/
theorem isSmallPlain_of_mem_snakeCaseChars {character : Char}
    (member : character ∈ snakeCaseChars characters) :
    IsSmallPlain character ∨ character = '_' := by
  rcases mem_intercalate member with separates | ⟨piece, listed, within⟩
  · exact .inr separates
  · obtain ⟨word, known, rfl⟩ := List.mem_map.mp listed
    exact .inl (isSmallPlain_of_mem_lowercase basic known within)

/-- A name in snake case begins with its first word, so not with an underscore. -/
theorem isSmallPlain_of_head?_snakeCaseChars {first : Char}
    (begins : first ∈ (snakeCaseChars characters).head?) : IsSmallPlain first := by
  rw [snakeCaseChars] at begins
  cases cut : words characters with
  | nil =>
      rw [cut] at begins
      cases begins
  | cons word others =>
      have known : word ∈ words characters := cut ▸ List.mem_cons_self
      rw [cut, List.map_cons, head?_intercalate_cons (small_of_mem_words known).1] at begins
      exact isSmallPlain_of_mem_lowercase basic known (List.mem_of_head? begins)

end Basic

end ServiceCatalog.Text
