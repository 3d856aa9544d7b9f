import ServiceCatalog.Proofs.Text.Lines
import ServiceCatalog.Proofs.Text.Words

/-!
# Where words meet

The words of a text lie one behind the other in it, with other characters before, behind and mostly
also between them.  A segmentation takes a text apart into words and the gaps around them
(`Segmentation.Segments`).  Where the gap between two words is empty, the words meet
(`Segmentation.MeetAt`).

Words meet exactly at the humps of their text (`HumpAt`): at a capital letter behind a small letter
or a digit, and at a capital letter between a capital and a small one.  No other segmentation has
this property (`words_meet_at_humps`).

Cutting goes by stretches of letters and numbers, and then by the neighbours within a stretch.  The
proof reads a text from one character to the next instead: words (`words_cons`), segmentations
(`Segmentation.Segments.cases`), meetings and humps all say what one character in front changes.
-/

namespace ServiceCatalog.Text

set_option autoImplicit false

/-! ## Capital and small letters are letters -/

/-- The code points of a stepped range. -/
def SteppedRange.codes (range : SteppedRange) : List Nat :=
  (List.range ((range.last - range.first) / range.step + 1)).map (range.first + range.step * ·)

/-- All that stepped ranges cover belongs to a table: a range lies in one of the table, or each of
its code points does.  Both lists are gone through once, in order. -/
def coversAll : List CodeRange → List SteppedRange → Bool
  | _, [] => true
  | table, range :: ranges =>
      match table.dropWhile fun wider => wider.2 < range.first with
      | [] => false
      | wider :: later =>
          (wider.1 ≤ range.first && range.last ≤ wider.2 ||
            range.codes.all (inRanges (wider :: later))) && coversAll (wider :: later) ranges

theorem SteppedRange.mem_codes {range : SteppedRange} {code : Nat}
    (covered : range.covers code = true) : code ∈ range.codes := by
  simp only [covers, Bool.and_eq_true, decide_eq_true_eq, beq_iff_eq] at covered
  obtain ⟨⟨first, last⟩, step⟩ := covered
  refine List.mem_map.mpr ⟨(code - range.first) / range.step, List.mem_range.mpr ?_, ?_⟩
  · exact Nat.lt_succ_of_le (Nat.div_le_div_right (Nat.sub_le_sub_right last _))
  · rw [Nat.mul_div_cancel' (Nat.dvd_of_mod_eq_zero step)]
    exact Nat.add_sub_cancel' first

theorem inRanges_of_covers {range : SteppedRange} {wider : CodeRange} {later : List CodeRange}
    (inside : (wider.1 ≤ range.first && range.last ≤ wider.2 ||
      range.codes.all (inRanges (wider :: later))) = true)
    {code : Nat} (covered : range.covers code = true) : inRanges (wider :: later) code = true := by
  rcases Bool.or_eq_true_iff.mp inside with whole | each
  · simp only [SteppedRange.covers, Bool.and_eq_true, decide_eq_true_eq] at whole covered
    refine List.any_eq_true.mpr ⟨wider, List.mem_cons_self, ?_⟩
    simp only [CodeRange.covers, Bool.and_eq_true, decide_eq_true_eq]
    omega
  · exact List.all_eq_true.mp each code (SteppedRange.mem_codes covered)

theorem inRanges_of_coversAll {table : List CodeRange} {ranges : List SteppedRange}
    (covers : coversAll table ranges = true) {code : Nat}
    (known : inSteppedRanges ranges code = true) : inRanges table code = true := by
  induction ranges generalizing table with
  | nil => cases known
  | cons range ranges ih =>
      rw [coversAll] at covers
      split at covers
      · cases covers
      · next wider later kept =>
          obtain ⟨inside, others⟩ := Bool.and_eq_true_iff.mp covers
          have within : inRanges (wider :: later) code = true := by
            rcases Bool.or_eq_true_iff.mp known with covered | further
            · exact inRanges_of_covers inside covered
            · exact ih others further
          obtain ⟨found, member, covered⟩ := List.any_eq_true.mp within
          have listed : found ∈ table := (List.dropWhile_suffix _).subset (kept ▸ member)
          exact List.any_eq_true.mpr ⟨found, listed, covered⟩

section Letters

variable {character : Char}

theorem isAlphanumeric_of_isUppercase (capital : isUppercase character = true) :
    isAlphanumeric character = true := by
  rw [isUppercase] at capital
  rw [isAlphanumeric]
  split_ifs at capital ⊢ with basic
  · exact isAlphanum_of_isUpper capital
  · exact inRanges_of_coversAll (by decide +kernel) capital

theorem isAlphanumeric_of_isLowercase (small : isLowercase character = true) :
    isAlphanumeric character = true := by
  rw [isLowercase] at small
  rw [isAlphanumeric]
  split_ifs at small ⊢ with basic
  · exact isAlphanum_of_isLower small
  · exact inRanges_of_coversAll (by decide +kernel) small

theorem isAlphanumeric_of_isDigit (numeral : character.isDigit = true) :
    isAlphanumeric character = true := by
  have plain : character.isAlphanum = true := isAlphanum_iff.mpr (.inr numeral)
  rw [isAlphanumeric, if_pos (isBasic_of_isAlphanum plain), plain]

/-- Both characters around the beginning of a word are letters or numbers. -/
theorem isAlphanumeric_of_beginsWord {previous current : Char} {next : Option Char}
    (begins : beginsWord previous current next = true) :
    isAlphanumeric previous = true ∧ isAlphanumeric current = true := by
  simp only [beginsWord, Bool.and_eq_true, Bool.or_eq_true] at begins
  obtain ⟨capital, (small | numeral) | ⟨_, run⟩⟩ := begins
  · exact ⟨isAlphanumeric_of_isLowercase small, isAlphanumeric_of_isUppercase capital⟩
  · exact ⟨isAlphanumeric_of_isDigit numeral, isAlphanumeric_of_isUppercase capital⟩
  · exact ⟨isAlphanumeric_of_isUppercase run, isAlphanumeric_of_isUppercase capital⟩

end Letters

/-! ## Words from one character to the next -/

/-- A capital letter that begins a word stands first in a text, behind a character. -/
def startsHump (previous : Char) : List Char → Bool
  | [] => false
  | current :: rest => beginsWord previous current rest.head?

/-- A letter or a number stands first in a text. -/
def startsAlphanumeric (characters : List Char) : Bool :=
  characters.head?.any isAlphanumeric

section Words

variable {character : Char} {characters text word : List Char} {others : List (List Char)}

@[simp]
theorem startsAlphanumeric_cons (character : Char) (characters : List Char) :
    startsAlphanumeric (character :: characters) = isAlphanumeric character :=
  rfl

theorem startsAlphanumeric_of_startsHump (hump : startsHump character characters = true) :
    isAlphanumeric character = true ∧ startsAlphanumeric characters = true := by
  cases characters with
  | nil => cases hump
  | cons current rest => exact isAlphanumeric_of_beginsWord hump

/-- What ends a stretch is no small letter, so the end of a stretch does not change where its last
word begins. -/
theorem beginsWord_takeWhile (previous current : Char) (rest : List Char) :
    beginsWord previous current (rest.takeWhile isAlphanumeric).head? =
      beginsWord previous current rest.head? := by
  have same : (rest.takeWhile isAlphanumeric).head?.any isLowercase =
      rest.head?.any isLowercase := by
    cases rest with
    | nil => rfl
    | cons next rest =>
        by_cases plain : isAlphanumeric next = true
        · rw [List.takeWhile_cons_of_pos plain]
          rfl
        · have other : isLowercase next = false :=
            Bool.eq_false_iff.mpr fun small => plain (isAlphanumeric_of_isLowercase small)
          rw [List.takeWhile_cons_of_neg plain]
          simp [other]
  rw [beginsWord, beginsWord, same]

/-- The words of a text are those of its first stretch and others that do not depend on it. -/
theorem exists_words_eq (characters : List Char) :
    ∃ later, words characters = camelWords (characters.takeWhile isAlphanumeric) ++ later ∧
      ∀ character, isAlphanumeric character = true →
        words (character :: characters) =
          camelWords (character :: characters.takeWhile isAlphanumeric) ++ later := by
  obtain ⟨pieces, split⟩ := exists_splitWhen_eq (fun other => !isAlphanumeric other) characters
  simp only [Bool.not_not] at split
  refine ⟨(pieces.filter (!·.isEmpty)).flatMap camelWords, ?_, fun character plain => ?_⟩
  · rw [words, stretches, split]
    cases characters.takeWhile isAlphanumeric with
    | nil => simp [camelWords]
    | cons first rest => simp
  · simp [words, stretches, splitWhen, plain, split]

theorem words_cons_of_gap (gap : isAlphanumeric character = false) (characters : List Char) :
    words (character :: characters) = words characters := by
  simp [words, stretches, splitWhen, gap]

theorem camelWords_cons_ne_nil (character : Char) (characters : List Char) :
    camelWords (character :: characters) ≠ [] := by
  intro none
  have whole := flatten_camelWords (character :: characters)
  rw [none] at whole
  cases whole

/-- Letters and numbers at the start of a text begin with a word. -/
theorem words_ne_nil (begins : startsAlphanumeric characters = true) : words characters ≠ [] := by
  cases characters with
  | nil => cases begins
  | cons character rest =>
      obtain ⟨later, -, front⟩ := exists_words_eq rest
      rw [front character begins]
      exact List.append_ne_nil_of_left_ne_nil (camelWords_cons_ne_nil _ _) _

theorem extendFirst_append {first : List (List Char)} (full : first ≠ [])
    (later : List (List Char)) :
    extendFirst character (first ++ later) = extendFirst character first ++ later := by
  obtain ⟨word, others, rfl⟩ := List.exists_cons_of_ne_nil full
  rfl

/-- **A letter or number in front of a text extends its first word or is a word.**  It is a word
where the text starts with a hump or with no letter or number at all. -/
theorem words_cons (plain : isAlphanumeric character = true) (characters : List Char) :
    words (character :: characters) =
      if startsAlphanumeric characters = true ∧ startsHump character characters = false then
        extendFirst character (words characters)
      else [character] :: words characters := by
  obtain ⟨later, own, front⟩ := exists_words_eq characters
  rw [front character plain, own]
  cases characters with
  | nil => rfl
  | cons current rest =>
      by_cases goesOn : isAlphanumeric current = true
      · rw [List.takeWhile_cons_of_pos goesOn, camelWords, beginsWord_takeWhile]
        by_cases hump : beginsWord character current rest.head? = true
        · rw [if_pos hump, if_neg (by simp [startsHump, hump])]
          rfl
        · rw [if_neg hump, if_pos (by simp [startsHump, goesOn, hump]),
            extendFirst_append (camelWords_cons_ne_nil _ _)]
      · rw [List.takeWhile_cons_of_neg goesOn, if_neg (by simp [goesOn])]
        rfl

theorem cons_eq_extendFirst_iff {known : List (List Char)} (full : known ≠ []) :
    (character :: word) :: others = extendFirst character known ↔ word :: others = known := by
  obtain ⟨first, rest, rfl⟩ := List.exists_cons_of_ne_nil full
  simp [extendFirst]

/-- A letter or number is the first word exactly where the next word begins right behind it or no
letter or number follows. -/
theorem singleton_cons_eq_words_iff (plain : isAlphanumeric character = true) :
    [character] :: others = words (character :: text) ↔
      (startsAlphanumeric text = true ↔ startsHump character text = true) ∧
        others = words text := by
  rw [words_cons plain]
  split_ifs with goesOn
  · obtain ⟨starts, flat⟩ := goesOn
    have longer : ¬ [character] :: others = extendFirst character (words text) := by
      rw [cons_eq_extendFirst_iff (words_ne_nil starts)]
      intro same
      exact ne_nil_of_mem_words (same ▸ List.mem_cons_self : [] ∈ words text) rfl
    exact iff_of_false longer (by simp [starts, flat])
  · have stops : startsAlphanumeric text = true ↔ startsHump character text = true := by
      refine ⟨fun starts => ?_, fun hump => (startsAlphanumeric_of_startsHump hump).2⟩
      by_contra flat
      exact goesOn ⟨starts, Bool.eq_false_iff.mpr flat⟩
    simp [stops]

/-- A letter or number goes on with the first word behind it exactly where no hump follows. -/
theorem cons_cons_eq_words_iff (plain : isAlphanumeric character = true)
    (starts : startsAlphanumeric text = true) (full : word ≠ []) :
    (character :: word) :: others = words (character :: text) ↔
      (False ↔ startsHump character text = true) ∧ word :: others = words text := by
  rw [words_cons plain]
  split_ifs with goesOn
  · simp [goesOn.2, cons_eq_extendFirst_iff (words_ne_nil starts)]
  · have hump : startsHump character text = true := by
      by_contra flat
      exact goesOn ⟨starts, Bool.eq_false_iff.mpr flat⟩
    simp [hump, full]

end Words

/-! ## Humps -/

/-- The position of a capital letter behind a small letter or a digit, or of one between a capital
and a small letter. -/
def HumpAt (text : List Char) (position : Nat) : Prop :=
  0 < position ∧ ∃ previous current,
    text[position - 1]? = some previous ∧ text[position]? = some current ∧
      isUppercase current = true ∧
      (isLowercase previous = true ∨ previous.isDigit = true ∨
        isUppercase previous = true ∧
          ∃ next, text[position + 1]? = some next ∧ isLowercase next = true)

theorem not_humpAt_zero (text : List Char) : ¬ HumpAt text 0 := by
  rintro ⟨positive, _⟩
  exact absurd positive (Nat.lt_irrefl 0)

theorem beginsWord_iff {previous current : Char} {next : Option Char} :
    beginsWord previous current next = true ↔
      isUppercase current = true ∧
        (isLowercase previous = true ∨ previous.isDigit = true ∨
          isUppercase previous = true ∧ ∃ small, next = some small ∧ isLowercase small = true) := by
  simp only [beginsWord, Bool.and_eq_true, Bool.or_eq_true, Option.any_eq_true]
  tauto

/-- The humps of a text with one more character in front. -/
theorem humpAt_cons {character : Char} {text : List Char} {position : Nat} :
    HumpAt (character :: text) (position + 1) ↔
      position = 0 ∧ startsHump character text = true ∨ HumpAt text position := by
  cases position with
  | zero =>
      cases text with
      | nil => simp [HumpAt, startsHump]
      | cons current rest =>
          simp [HumpAt, startsHump, beginsWord_iff, List.head?_eq_getElem?]
  | succ position => simp [HumpAt]

/-! ## Segmentations -/

/-- A text taken apart: the gap at its start, and words with the gaps behind them. -/
structure Segmentation where
  front : List Char
  parts : List (List Char × List Char)
  deriving DecidableEq, Repr

namespace Segmentation

/-- The words, in order. -/
def words (segmentation : Segmentation) : List (List Char) :=
  segmentation.parts.map Prod.fst

/-- The gaps, in order. -/
def gaps (segmentation : Segmentation) : List (List Char) :=
  segmentation.front :: segmentation.parts.map Prod.snd

/-- The text that is taken apart. -/
def text (segmentation : Segmentation) : List Char :=
  segmentation.front ++ segmentation.parts.flatMap fun (word, gap) => word ++ gap

/-- A segmentation of a text: the words are not empty and have letters and numbers only, and the
gaps have none. -/
structure Segments (segmentation : Segmentation) (text : List Char) : Prop where
  written : segmentation.text = text
  full : ∀ word ∈ segmentation.words, word ≠ []
  plain : ∀ word ∈ segmentation.words, ∀ character ∈ word, isAlphanumeric character = true
  apart : ∀ gap ∈ segmentation.gaps, ∀ character ∈ gap, isAlphanumeric character = false

/-- The position where a word ends and the next one begins. -/
def MeetAt (segmentation : Segmentation) (position : Nat) : Prop :=
  ∃ earlier word later, segmentation.parts = earlier ++ (word, []) :: later ∧ later ≠ [] ∧
    (Segmentation.mk segmentation.front (earlier ++ [(word, [])])).text.length = position

/-- A word stands at the start. -/
def StartsWithWord (segmentation : Segmentation) : Prop :=
  segmentation.front = [] ∧ segmentation.parts ≠ []

/-! ### One more character -/

variable {character : Char} {front word gap text : List Char}
  {parts : List (List Char × List Char)} {segmentation : Segmentation} {position : Nat}

theorem segments_gap_cons :
    Segments ⟨character :: front, parts⟩ (character :: text) ↔
      isAlphanumeric character = false ∧ Segments ⟨front, parts⟩ text := by
  constructor
  · rintro ⟨written, full, plain, apart⟩
    obtain ⟨own, others⟩ := List.forall_mem_cons.mp apart
    obtain ⟨first, rest⟩ := List.forall_mem_cons.mp own
    exact ⟨first, (List.cons.inj written).2, full, plain, List.forall_mem_cons.mpr ⟨rest, others⟩⟩
  · rintro ⟨first, written, full, plain, apart⟩
    obtain ⟨rest, others⟩ := List.forall_mem_cons.mp apart
    exact ⟨congrArg _ written, full, plain,
      List.forall_mem_cons.mpr ⟨List.forall_mem_cons.mpr ⟨first, rest⟩, others⟩⟩

theorem segments_singleton :
    Segments ⟨[], ([character], front) :: parts⟩ (character :: text) ↔
      isAlphanumeric character = true ∧ Segments ⟨front, parts⟩ text := by
  constructor
  · rintro ⟨written, full, plain, apart⟩
    obtain ⟨own, others⟩ := List.forall_mem_cons.mp plain
    exact ⟨own character List.mem_cons_self, (List.cons.inj written).2,
      (List.forall_mem_cons.mp full).2, others, (List.forall_mem_cons.mp apart).2⟩
  · rintro ⟨first, written, full, plain, apart⟩
    exact ⟨congrArg _ written, List.forall_mem_cons.mpr ⟨List.cons_ne_nil _ _, full⟩,
      List.forall_mem_cons.mpr ⟨List.forall_mem_singleton.mpr first, plain⟩,
      List.forall_mem_cons.mpr ⟨List.forall_mem_nil _, apart⟩⟩

theorem segments_word_cons (word_ne : word ≠ []) :
    Segments ⟨[], (character :: word, gap) :: parts⟩ (character :: text) ↔
      isAlphanumeric character = true ∧ Segments ⟨[], (word, gap) :: parts⟩ text := by
  constructor
  · rintro ⟨written, full, plain, apart⟩
    obtain ⟨own, others⟩ := List.forall_mem_cons.mp plain
    obtain ⟨first, rest⟩ := List.forall_mem_cons.mp own
    exact ⟨first, (List.cons.inj written).2,
      List.forall_mem_cons.mpr ⟨word_ne, (List.forall_mem_cons.mp full).2⟩,
      List.forall_mem_cons.mpr ⟨rest, others⟩, apart⟩
  · rintro ⟨first, written, full, plain, apart⟩
    obtain ⟨rest, others⟩ := List.forall_mem_cons.mp plain
    exact ⟨congrArg _ written,
      List.forall_mem_cons.mpr ⟨List.cons_ne_nil _ _, (List.forall_mem_cons.mp full).2⟩,
      List.forall_mem_cons.mpr ⟨List.forall_mem_cons.mpr ⟨first, rest⟩, others⟩, apart⟩

/-- **A character in front of a text is in the gap at its start, a word, or the first character of a
word.** -/
theorem Segments.cases (segments : segmentation.Segments (character :: text)) :
    (isAlphanumeric character = false ∧ ∃ front parts,
      segmentation = ⟨character :: front, parts⟩ ∧ Segments ⟨front, parts⟩ text) ∨
    (isAlphanumeric character = true ∧ ∃ gap parts,
      segmentation = ⟨[], ([character], gap) :: parts⟩ ∧ Segments ⟨gap, parts⟩ text) ∨
    (isAlphanumeric character = true ∧ ∃ word gap parts, word ≠ [] ∧
      segmentation = ⟨[], (character :: word, gap) :: parts⟩ ∧
        Segments ⟨[], (word, gap) :: parts⟩ text) := by
  obtain ⟨front, parts⟩ := segmentation
  cases front with
  | cons first front =>
      obtain rfl : first = character := (List.cons.inj segments.written).1
      obtain ⟨gap, rest⟩ := segments_gap_cons.mp segments
      exact .inl ⟨gap, front, parts, rfl, rest⟩
  | nil =>
      cases parts with
      | nil => cases segments.written
      | cons part parts =>
          obtain ⟨word, gap⟩ := part
          cases word with
          | nil => exact absurd rfl (segments.full [] List.mem_cons_self)
          | cons first word =>
              obtain rfl : first = character := (List.cons.inj segments.written).1
              by_cases single : word = []
              · subst single
                obtain ⟨plain, rest⟩ := segments_singleton.mp segments
                exact .inr (.inl ⟨plain, gap, parts, rfl, rest⟩)
              · obtain ⟨plain, rest⟩ := (segments_word_cons single).mp segments
                exact .inr (.inr ⟨plain, word, gap, parts, single, rfl, rest⟩)

theorem eq_of_segments_nil (segments : segmentation.Segments []) : segmentation = ⟨[], []⟩ := by
  obtain ⟨front, parts⟩ := segmentation
  obtain ⟨none, others⟩ := List.append_eq_nil_iff.mp segments.written
  cases parts with
  | nil => exact congrArg (Segmentation.mk · []) none
  | cons part parts =>
      obtain ⟨own, -⟩ := List.append_eq_nil_iff.mp others
      exact absurd (List.append_eq_nil_iff.mp own).1 (segments.full _ List.mem_cons_self)

/-- A text starts with a letter or number exactly if its segmentations start with a word. -/
theorem Segments.startsWithWord_iff (segments : segmentation.Segments text) :
    segmentation.StartsWithWord ↔ startsAlphanumeric text = true := by
  cases text with
  | nil =>
      obtain rfl := eq_of_segments_nil segments
      exact iff_of_false (fun starts => starts.2 rfl) Bool.false_ne_true
  | cons character text =>
      rw [startsAlphanumeric_cons]
      obtain ⟨gap, front, parts, rfl, -⟩ | ⟨plain, gap, parts, rfl, -⟩ |
        ⟨plain, word, gap, parts, -, rfl, -⟩ := segments.cases
      · exact iff_of_false (fun starts => List.cons_ne_nil _ _ starts.1) (by simp [gap])
      · exact iff_of_true ⟨rfl, List.cons_ne_nil _ _⟩ plain
      · exact iff_of_true ⟨rfl, List.cons_ne_nil _ _⟩ plain

/-! ### Meetings -/

/-- Nothing stands before the first word, so no words meet at the start. -/
theorem Segments.not_meetAt_zero (segments : segmentation.Segments text) :
    ¬ segmentation.MeetAt 0 := by
  rintro ⟨earlier, word, later, shape, -, none⟩
  have member : word ∈ segmentation.words := by simp [words, shape]
  refine segments.full word member ?_
  simp only [Segmentation.text, List.length_eq_zero_iff, List.append_eq_nil_iff,
    List.flatMap_append, List.flatMap_singleton] at none
  exact none.2.2.1

/-- Words meet behind the first word or at a meeting behind that. -/
theorem meetAt_cons :
    MeetAt ⟨front, (word, gap) :: parts⟩ position ↔
      front.length + word.length = position ∧ StartsWithWord ⟨gap, parts⟩ ∨
        ∃ further, front.length + word.length + further = position ∧
          MeetAt ⟨gap, parts⟩ further := by
  constructor
  · rintro ⟨earlier, other, later, shape, more, ends⟩
    obtain ⟨rfl, same⟩ | ⟨earlier, rfl, rfl⟩ := List.cons_eq_append_iff.mp shape
    · obtain ⟨⟨rfl, rfl⟩, rfl⟩ : (other = word ∧ [] = gap) ∧ later = parts := by simpa using same
      exact .inl ⟨by simpa [Segmentation.text] using ends, rfl, more⟩
    · refine .inr ⟨_, ?_, earlier, other, later, rfl, more, rfl⟩
      simpa [Segmentation.text, Nat.add_assoc] using ends
  · rintro (⟨ends, rfl, more⟩ | ⟨_, ends, earlier, other, later, rfl, more, rfl⟩)
    · exact ⟨[], word, parts, rfl, more, by simpa [Segmentation.text] using ends⟩
    · refine ⟨(word, gap) :: earlier, other, later, rfl, more, ?_⟩
      simpa [Segmentation.text, Nat.add_assoc] using ends

theorem not_meetAt_nil : ¬ MeetAt ⟨front, []⟩ position := by
  rintro ⟨earlier, word, later, shape, -, -⟩
  exact List.append_ne_nil_of_right_ne_nil _ (List.cons_ne_nil _ _) shape.symm

theorem meetAt_gap_cons :
    MeetAt ⟨character :: front, parts⟩ (position + 1) ↔ MeetAt ⟨front, parts⟩ position := by
  cases parts with
  | nil => exact iff_of_false not_meetAt_nil not_meetAt_nil
  | cons part parts =>
      obtain ⟨word, gap⟩ := part
      simp only [meetAt_cons, List.length_cons, Nat.add_right_comm _ 1, Nat.add_right_cancel_iff]

theorem meetAt_word_cons :
    MeetAt ⟨[], (character :: word, gap) :: parts⟩ (position + 1) ↔
      MeetAt ⟨[], (word, gap) :: parts⟩ position := by
  simp only [meetAt_cons, List.length_cons, ← Nat.add_assoc, Nat.add_right_comm _ 1,
    Nat.add_right_cancel_iff]

theorem meetAt_singleton :
    MeetAt ⟨[], ([character], gap) :: parts⟩ (position + 1) ↔
      position = 0 ∧ StartsWithWord ⟨gap, parts⟩ ∨ MeetAt ⟨gap, parts⟩ position := by
  have first : ∀ further, 0 + 1 + further = position + 1 ↔ further = position := by omega
  have start : 0 + 1 = position + 1 ↔ position = 0 := by omega
  simp only [meetAt_cons, List.length_nil, List.length_singleton, first, start, exists_eq_left]

end Segmentation

/-! ## Meetings and humps -/

/-- Where both sides of an equivalence say what one more character changes, it holds at all
positions exactly if it holds at the first one and at all that were there before. -/
theorem forall_iff_of_step {meet hump meetBehind humpBehind : Nat → Prop} {meets rises : Prop}
    (none : ¬ meet 0 ∧ ¬ hump 0) (noneBehind : ¬ meetBehind 0 ∧ ¬ humpBehind 0)
    (meetStep : ∀ position, meet (position + 1) ↔ position = 0 ∧ meets ∨ meetBehind position)
    (humpStep : ∀ position, hump (position + 1) ↔ position = 0 ∧ rises ∨ humpBehind position) :
    (∀ position, meet position ↔ hump position) ↔
      (meets ↔ rises) ∧ ∀ position, meetBehind position ↔ humpBehind position := by
  constructor
  · intro same
    have behind : ∀ position, (position = 0 ∧ meets ∨ meetBehind position) ↔
        (position = 0 ∧ rises ∨ humpBehind position) := by
      intro position
      rw [← meetStep, ← humpStep, same]
    refine ⟨by simpa [noneBehind] using behind 0, fun position => ?_⟩
    cases position with
    | zero => exact iff_of_false noneBehind.1 noneBehind.2
    | succ position => simpa using behind (position + 1)
  · rintro ⟨first, behind⟩ position
    cases position with
    | zero => exact iff_of_false none.1 none.2
    | succ position => rw [meetStep, humpStep, first, behind]

namespace Segmentation

variable {character : Char} {text : List Char} {segmentation : Segmentation}

/-- What one more character in front changes: a meeting right behind it, and what the first word
is. -/
theorem Segments.exists_behind (segments : segmentation.Segments (character :: text)) :
    ∃ (behind : Segmentation) (meets : Prop), behind.Segments text ∧
      (∀ position, segmentation.MeetAt (position + 1) ↔
        position = 0 ∧ meets ∨ behind.MeetAt position) ∧
      (segmentation.words = Text.words (character :: text) ↔
        (meets ↔ startsHump character text = true) ∧ behind.words = Text.words text) := by
  obtain ⟨gap, front, parts, rfl, rest⟩ | ⟨plain, gap, parts, rfl, rest⟩ |
    ⟨plain, word, gap, parts, full, rfl, rest⟩ := segments.cases
  · have flat : ¬ startsHump character text = true := fun hump =>
      Bool.eq_false_iff.mp gap (startsAlphanumeric_of_startsHump hump).1
    refine ⟨_, False, rest, fun position => ?_, ?_⟩
    · simp [meetAt_gap_cons]
    · simp [words_cons_of_gap gap, flat, words]
  · refine ⟨_, _, rest, fun position => meetAt_singleton, ?_⟩
    rw [rest.startsWithWord_iff]
    exact singleton_cons_eq_words_iff plain
  · have starts := rest.startsWithWord_iff.mp ⟨rfl, List.cons_ne_nil _ _⟩
    refine ⟨_, False, rest, fun position => ?_, cons_cons_eq_words_iff plain starts full⟩
    simp [meetAt_word_cons]

/-- **A segmentation has the words of its text exactly if its words meet at the humps.** -/
theorem Segments.words_eq_iff (segments : segmentation.Segments text) :
    segmentation.words = Text.words text ↔
      ∀ position, segmentation.MeetAt position ↔ HumpAt text position := by
  induction text generalizing segmentation with
  | nil =>
      obtain rfl := eq_of_segments_nil segments
      exact iff_of_true rfl fun position => iff_of_false not_meetAt_nil (by simp [HumpAt])
  | cons character text ih =>
      -- Meetings, humps and words lose the first character at once, so `ih` speaks of what is left.
      obtain ⟨behind, meets, rest, meetStep, wordsStep⟩ := segments.exists_behind
      have step := forall_iff_of_step
        ⟨segments.not_meetAt_zero, not_humpAt_zero (character :: text)⟩
        ⟨rest.not_meetAt_zero, not_humpAt_zero text⟩ meetStep fun position => humpAt_cons
      rw [wordsStep, step, ih rest]

end Segmentation

theorem segments_nil : Segmentation.Segments ⟨[], []⟩ [] where
  written := rfl
  full := List.forall_mem_nil _
  plain := List.forall_mem_nil _
  apart := List.forall_mem_singleton.mpr (List.forall_mem_nil _)

/-- **The words of a text lie in it**, one behind the other. -/
theorem exists_segments_words (text : List Char) :
    ∃ segmentation : Segmentation, segmentation.Segments text ∧
      segmentation.words = words text := by
  induction text with
  | nil => exact ⟨_, segments_nil, rfl⟩
  | cons character text ih =>
      obtain ⟨⟨front, parts⟩, segments, same⟩ := ih
      by_cases plain : isAlphanumeric character = true
      · rw [words_cons plain]
        split_ifs with goesOn
        · obtain ⟨rfl, more⟩ := segments.startsWithWord_iff.mpr goesOn.1
          obtain ⟨⟨word, gap⟩, later, rfl⟩ := List.exists_cons_of_ne_nil more
          have full : word ≠ [] := segments.full word List.mem_cons_self
          refine ⟨_, (Segmentation.segments_word_cons full).mpr ⟨plain, segments⟩, ?_⟩
          exact (cons_eq_extendFirst_iff (words_ne_nil goesOn.1)).mpr same
        · exact ⟨_, Segmentation.segments_singleton.mpr ⟨plain, segments⟩, congrArg _ same⟩
      · have gap := Bool.eq_false_iff.mpr plain
        exact ⟨_, Segmentation.segments_gap_cons.mpr ⟨gap, segments⟩,
          same.trans (words_cons_of_gap gap text).symm⟩

/-- **Words meet exactly at humps.**  The words of a text are not empty and have letters and numbers
only, and one behind the other they are all letters and numbers of the text.  They lie in the text
with gaps of other characters around them.  However a text is taken apart into such words and gaps,
the words are those of the text exactly if they meet at its humps and nowhere else. -/
theorem words_meet_at_humps (name : String) :
    (∀ word ∈ words name.toList, word ≠ [] ∧
        ∀ character ∈ word, isAlphanumeric character = true) ∧
      (words name.toList).flatten = name.toList.filter isAlphanumeric ∧
      (∃ segmentation : Segmentation, segmentation.Segments name.toList ∧
        segmentation.words = words name.toList) ∧
      ∀ segmentation : Segmentation, segmentation.Segments name.toList →
        (segmentation.words = words name.toList ↔
          ∀ position, segmentation.MeetAt position ↔ HumpAt name.toList position) := by
  refine ⟨fun word known => ⟨ne_nil_of_mem_words known, fun character within => ?_⟩,
    flatten_words name.toList, exists_segments_words name.toList,
    fun segmentation segments => segments.words_eq_iff⟩
  exact (mem_of_mem_words known within).2

/-- A run of capitals, a digit, a separator that doubles, and a letter that has no small form. -/
example : words "HTTPClient2Go--ÜberªX".toList =
    ["HTTP", "Client2", "Go", "Überª", "X"].map String.toList := by
  decide +kernel

end ServiceCatalog.Text
