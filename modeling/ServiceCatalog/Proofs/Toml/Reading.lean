import ServiceCatalog.Proofs.Text.Words
import ServiceCatalog.Text.Printable
import ServiceCatalog.Toml.Reading

/-!
# Reading what is quoted for messages

The strings of TOML and the quoted texts of messages have some escapes in common.  A text that is
quoted for messages is read back if all its characters are `isPortable`: those that are printed as
they are, and the tab and the line breaks.  Every other text is refused, since the null character
and the code points of messages are escaped in ways that TOML does not know
(`readString_quoted`).

Bare keys are read up to the sign behind them (`readKey_bare`), so a line that gives a bare key a
value is read if the value is (`readLine_pair`).
-/

namespace ServiceCatalog.Toml

set_option autoImplicit false

/-! ## Strings -/

/-- A character that is escaped alike in messages and in strings, or in neither. -/
def isPortable (character : Char) : Bool :=
  Text.isPrintable character || character == '\t' || character == '\n' || character == '\r'

theorem isVisible_of_isPrintable {character : Char}
    (printable : Text.isPrintable character = true) : isVisible character = true := by
  have range : 0x20 ≤ character.toNat ∧ character.toNat ≠ 0x7F := by
    rw [Text.isPrintable] at printable
    split_ifs at printable with basic
    · simp only [Bool.and_eq_true, decide_eq_true_eq] at printable
      omega
    · simp only [Text.isBasic, decide_eq_true_eq] at basic
      omega
  simp [isVisible, range]

theorem isPlain_of_isPrintable {character : Char} (printable : Text.isPrintable character = true)
    (noQuote : character ≠ '"') (noBackslash : character ≠ '\\') : isPlain character = true := by
  simp [isPlain, isVisible_of_isPrintable printable, noQuote, noBackslash]

/-- A plain character is read as it stands. -/
theorem readString_of_isPlain {character : Char} (plain : isPlain character = true)
    (rest : List Char) :
    readString .character (character :: rest) =
      (readString .character rest).map (putBefore character) := by
  have signs := plain
  simp only [isPlain, Bool.and_eq_true, bne_iff_ne] at signs
  rw [readString, if_neg signs.1.2, if_neg signs.2, if_pos plain]

/-- A short escape is read as its character. -/
theorem readString_of_escapedChar? {sign character : Char}
    (short : escapedChar? sign = some character) (rest : List Char) :
    readString .character ('\\' :: sign :: rest) =
      (readString .character rest).map (putBefore character) := by
  simp [readString, short]

/-- **A character that is quoted for messages is read back if it is portable**, and refused
otherwise. -/
theorem readString_quotedChar (character : Char) (rest : List Char) :
    readString .character (Text.quotedChar character ++ rest) =
      if isPortable character then (readString .character rest).map (putBefore character)
      else .error .invalid := by
  by_cases short : character = '"' ∨ character = '\\' ∨ character = '\n' ∨ character = '\t' ∨
      character = '\r'
  · rcases short with rfl | rfl | rfl | rfl | rfl <;>
      exact readString_of_escapedChar? (by decide) rest
  · obtain ⟨quote, backslash, feed, tab, carriage⟩ := by simpa only [not_or] using short
    rw [Text.quotedChar, if_neg quote, if_neg backslash, if_neg feed, if_neg tab, if_neg carriage]
    have portable : isPortable character = Text.isPrintable character := by
      rw [isPortable, beq_false_of_ne tab, beq_false_of_ne feed, beq_false_of_ne carriage]
      simp only [Bool.or_false]
    rw [portable]
    by_cases null : character = '\x00'
    · subst null
      rfl
    · rw [if_neg null]
      by_cases printable : Text.isPrintable character = true
      · rw [if_pos printable, if_pos printable]
        exact readString_of_isPlain (isPlain_of_isPrintable printable quote backslash) rest
      · rw [if_neg printable, if_neg printable]
        rfl

/-- **A text that is quoted for messages is read back if it is portable**, and refused
otherwise. -/
theorem readString_quoted (characters rest : List Char) :
    readString .character (characters.flatMap Text.quotedChar ++ '"' :: rest) =
      if characters.all isPortable then .ok (characters, rest) else .error .invalid := by
  induction characters with
  | nil => rfl
  | cons character characters ih =>
      rw [List.flatMap_cons, List.append_assoc, readString_quotedChar, ih, List.all_cons]
      cases isPortable character <;> cases characters.all isPortable <;> rfl

/-- Plain characters are read as they stand. -/
theorem readString_plain {characters : List Char}
    (plain : ∀ character ∈ characters, isPlain character = true) (rest : List Char) :
    readString .character (characters ++ '"' :: rest) = .ok (characters, rest) := by
  induction characters with
  | nil => rfl
  | cons character characters ih =>
      obtain ⟨own, others⟩ := List.forall_mem_cons.mp plain
      rw [List.cons_append, readString_of_isPlain own, ih others]
      rfl

/-- A string is a value, unless a quote behind an empty one makes it another. -/
theorem readText_of_readString {characters text rest : List Char}
    (done : readString .character characters = .ok (text, rest)) (behind : rest.head? ≠ some '"') :
    readText ('"' :: characters) = .ok (.text (String.ofList text), rest) := by
  rw [readText, done]
  exact if_neg fun both => behind both.2

/-- **A value that is quoted for messages is read back if it is portable**, and refused
otherwise. -/
theorem readText_quoted (characters : List Char) {sign : Char} (behind : sign ≠ '"')
    (rest : List Char) :
    readText ('"' :: (characters.flatMap Text.quotedChar ++ '"' :: sign :: rest)) =
      if characters.all isPortable then .ok (.text (String.ofList characters), sign :: rest)
      else .error .invalid := by
  have read := readString_quoted characters (sign :: rest)
  by_cases portable : characters.all isPortable = true
  · rw [if_pos portable] at read ⊢
    exact readText_of_readString read fun same => behind (Option.some.inj same)
  · rw [if_neg portable] at read ⊢
    rw [readText, read]
    rfl

/-! ## Keys -/

/-- The characters of bare keys are none of the other signs. -/
theorem ne_of_isBare {character sign : Char} (bare : isBare character = true)
    (other : isBare sign = false) : character ≠ sign := by
  rintro rfl
  exact Bool.false_ne_true (other.symm.trans bare)

theorem isPlain_of_isBare {character : Char} (bare : isBare character = true) :
    isPlain character = true := by
  have range : 0x20 ≤ character.toNat ∧ character.toNat ≠ 0x7F := by
    simp only [isBare, Bool.or_eq_true, beq_iff_eq] at bare
    rcases bare with (plain | rfl) | rfl
    · have code := Text.isAlphanum_iff_toNat.mp plain
      omega
    · decide
    · decide
  have quote : character ≠ '"' := ne_of_isBare bare (by decide)
  have backslash : character ≠ '\\' := ne_of_isBare bare (by decide)
  simp [isPlain, isVisible, range, quote, backslash]

theorem skipBlanks_of_isBare {character : Char} (bare : isBare character = true)
    (rest : List Char) : skipBlanks (character :: rest) = character :: rest := by
  have space : character ≠ ' ' := ne_of_isBare bare (by decide)
  have tab : character ≠ '\t' := ne_of_isBare bare (by decide)
  exact List.dropWhile_cons_of_neg (by simp [space, tab])

theorem readKeyCharacters_bare {key rest : List Char} {sign : Char} (full : key ≠ [])
    (bare : ∀ character ∈ key, isBare character = true) (ends : isBare sign = false) :
    readKeyCharacters (key ++ sign :: rest) = .ok (key, sign :: rest) := by
  have taken : (key ++ sign :: rest).takeWhile isBare = key := by
    rw [List.takeWhile_append_of_pos bare, List.takeWhile_cons_of_neg (by simp [ends]),
      List.append_nil]
  have dropped : (key ++ sign :: rest).dropWhile isBare = sign :: rest := by
    rw [List.dropWhile_append_of_pos bare, List.dropWhile_cons_of_neg (by simp [ends])]
  obtain ⟨first, others, rfl⟩ := List.exists_cons_of_ne_nil full
  have plain := bare first List.mem_cons_self
  rw [List.cons_append] at taken dropped ⊢
  unfold readKeyCharacters
  split
  · next quoted =>
      exact absurd (List.cons.inj quoted).1 (ne_of_isBare plain (by decide))
  · next quoted =>
      exact absurd (List.cons.inj quoted).1 (ne_of_isBare plain (by decide))
  · rw [taken, dropped, if_neg full]

/-- **A bare key is read up to the sign behind it.** -/
theorem readKey_bare {key rest : List Char} {sign : Char} (full : key ≠ [])
    (bare : ∀ character ∈ key, isBare character = true) (ends : isBare sign = false)
    (simple : (skipBlanks (sign :: rest)).head? ≠ some '.') :
    readKey (key ++ sign :: rest) = .ok (String.ofList key, skipBlanks (sign :: rest)) := by
  rw [readKey, readKeyCharacters_bare full bare ends]
  dsimp only [bind, Except.bind]
  split
  · next dotted => exact absurd (congrArg List.head? dotted) simple
  · rfl

/-- A pair with a bare key is read like its value. -/
theorem readPair_bare {key : List Char} (full : key ≠ [])
    (bare : ∀ character ∈ key, isBare character = true)
    (readValue : List Char → Except Refusal (Item × List Char)) (value : List Char) :
    readPair readValue (key ++ ' ' :: '=' :: ' ' :: value) =
      (readValue (skipBlanks value)).map fun (item, rest) => ((String.ofList key, item), rest) := by
  have read : readKey (key ++ ' ' :: '=' :: ' ' :: value) =
      .ok (String.ofList key, '=' :: ' ' :: value) := by
    refine readKey_bare full bare (by decide) ?_
    change some '=' ≠ some '.'
    decide
  rw [readPair, read]
  change (readValue (skipBlanks value) >>= _) = _
  cases readValue (skipBlanks value) <;> rfl

/-- A table in one line that does not end at once is read entry by entry. -/
theorem readValue_of_skipBlanks {characters behind : List Char} {sign : Char}
    (start : skipBlanks characters = sign :: behind) (more : sign ≠ '\x7d') :
    readValue ('\x7b' :: characters) = (do
      let (entries, rest) ← readEntries characters.length characters
      if areDistinct entries then return (.table entries, rest) else .error .invalid) := by
  rw [readValue, start]
  split
  · next ends => exact absurd (List.cons.inj ends).1 more
  · rfl

/-- **A table in one line that gives a bare key a quoted text is read back if the text is
portable**, and refused otherwise. -/
theorem readValue_entry {key : List Char} (full : key ≠ [])
    (bare : ∀ character ∈ key, isBare character = true) (characters rest : List Char) :
    readValue ('\x7b' :: ' ' :: (key ++ ' ' :: '=' :: ' ' :: '"' ::
        (characters.flatMap Text.quotedChar ++ '"' :: ' ' :: '\x7d' :: rest))) =
      if characters.all isPortable then
        .ok (.table [(String.ofList key, .text (String.ofList characters))], rest)
      else .error .invalid := by
  have pair := readPair_bare full bare readText
    ('"' :: (characters.flatMap Text.quotedChar ++ '"' :: ' ' :: '\x7d' :: rest))
  change _ = (readText ('"' :: (characters.flatMap Text.quotedChar ++ _))).map _ at pair
  rw [readText_quoted characters (by decide)] at pair
  obtain ⟨first, others, rfl⟩ := List.exists_cons_of_ne_nil full
  have plain := bare first List.mem_cons_self
  have start (behind : List Char) : skipBlanks (' ' :: first :: behind) = first :: behind :=
    skipBlanks_of_isBare plain behind
  rw [List.cons_append] at pair ⊢
  rw [readValue_of_skipBlanks (start _) (ne_of_isBare plain (by decide)), List.length_cons,
    readEntries, start, pair]
  cases characters.all isPortable <;> rfl

/-- **A line that gives a bare key a value is read like the value.** -/
theorem readLine_pair {key value : List Char} (full : key ≠ [])
    (bare : ∀ character ∈ key, isBare character = true) :
    readLine (key ++ ' ' :: '=' :: ' ' :: value) = do
      let (item, rest) ← readValue (skipBlanks value)
      readEnd rest
      return .pair (String.ofList key, item) := by
  have pair := readPair_bare full bare readValue value
  obtain ⟨first, others, rfl⟩ := List.exists_cons_of_ne_nil full
  have plain := bare first List.mem_cons_self
  rw [List.cons_append] at pair ⊢
  unfold readLine
  rw [skipBlanks_of_isBare plain]
  split
  · next none => exact absurd none (List.cons_ne_nil _ _)
  · next comment => exact absurd (List.cons.inj comment).1 (ne_of_isBare plain (by decide))
  · next header => exact absurd (List.cons.inj header).1 (ne_of_isBare plain (by decide))
  · next header => exact absurd (List.cons.inj header).1 (ne_of_isBare plain (by decide))
  · rw [pair]
    cases readValue (skipBlanks value) <;> rfl

end ServiceCatalog.Toml
