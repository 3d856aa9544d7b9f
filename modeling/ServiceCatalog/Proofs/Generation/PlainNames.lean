import ServiceCatalog.Proofs.Generation.Naming
import ServiceCatalog.Proofs.Text.Restyling
import ServiceCatalog.Source.Names

/-!
# Names of the basic range

A name of the basic range can be restyled again without harm: bringing it into snake case twice is
the same as once, and its structure is the same whether it is in snake case or not.  So names that
agree in snake case have the same structures, which is more than that they have the same fields and
methods.

The fields and methods themselves are plain names (`IsPlainName`): a small letter and then small
letters, digits and underscores, and no reserved word.
-/

namespace ServiceCatalog.Generation

set_option autoImplicit false

open Text

/-! ## Plain names -/

/-- A name of small letters, digits and underscores of the basic range that begins with a letter,
and that is no keyword and no word that nothing can be given as a name. -/
structure IsPlainName (name : String) : Prop where
  begins : name.toList.head?.any Char.isLower = true
  plain : ∀ character ∈ name.toList, IsSmallPlain character ∨ character = '_'
  identifier : isIdentifier name.toList = true
  noKeyword : name ∉ keywords
  unreserved : name ∉ Source.reservedWords

/-- Every reserved word but the underscore is a keyword. -/
theorem eq_or_mem_keywords_of_mem_reservedWords :
    ∀ word ∈ Source.reservedWords, word = "_" ∨ word ∈ keywords := by
  decide

section Escaping

variable {text : String}

theorem plain_of_mem_escaped
    (plain : ∀ character ∈ text.toList, IsSmallPlain character ∨ character = '_') :
    ∀ character ∈ (escaped text).toList, IsSmallPlain character ∨ character = '_' := by
  rw [escaped]
  split_ifs
  · simp [IsSmallPlain]
  · rw [String.toList_append, List.forall_mem_append]
    exact ⟨by simp [IsSmallPlain], plain⟩
  · rw [String.toList_append, List.forall_mem_append]
    exact ⟨plain, by simp [IsSmallPlain]⟩
  · exact plain

/-- An escaped text begins with a letter: a digit at its start gets letters in front. -/
theorem isLower_head?_escaped (begins : ∀ first ∈ text.toList.head?, IsSmallPlain first) :
    (escaped text).toList.head?.any Char.isLower = true := by
  cases characters : text.toList with
  | nil =>
      obtain rfl := String.toList_eq_nil_iff.mp characters
      rfl
  | cons first rest =>
      have letter : first.isDigit ≠ true → first.isLower = true :=
        (begins first (characters ▸ rfl)).resolve_right
      rw [escaped, isEmpty_of_toList characters, beginsWithDigit_of_toList characters,
        if_neg Bool.false_ne_true]
      split_ifs with numeral keyword
      · simp
      · simpa [characters] using letter numeral
      · simpa [characters] using letter numeral

/-- **Escaping makes a plain name** of every text of small letters, digits and underscores that does
not begin with an underscore. -/
theorem isPlainName_escaped
    (plain : ∀ character ∈ text.toList, IsSmallPlain character ∨ character = '_')
    (begins : ∀ first ∈ text.toList.head?, IsSmallPlain first) :
    IsPlainName (escaped text) := by
  have letter := isLower_head?_escaped begins
  have noKeyword : escaped text ∉ keywords := by
    have other := isKeyword_escaped text
    rwa [isKeyword, List.contains_eq_mem, decide_eq_false_iff_not] at other
  refine ⟨letter, plain_of_mem_escaped plain, ?identifier, noKeyword, ?unreserved⟩
  case identifier =>
    refine (isIdentifier_escaped_iff text).mpr (nameable_of_plain fun character member => ?_)
    exact (plain character member).imp_left IsSmallPlain.isAlphanum
  case unreserved =>
    intro member
    rcases eq_or_mem_keywords_of_mem_reservedWords _ member with underscore | keyword
    · rw [underscore] at letter
      cases letter
    · exact noKeyword keyword

end Escaping

/-! ## Restyling -/

/-- What a name of the basic range is in snake case becomes a plain name. -/
theorem isPlainName_escaped_snakeCase {name : String}
    (basic : ∀ character ∈ name.toList, isBasic character = true) :
    IsPlainName (escaped (snakeCase name)) := by
  apply isPlainName_escaped
  · rw [toList_snakeCase]
    exact fun character member => isSmallPlain_of_mem_snakeCaseChars basic member
  · rw [toList_snakeCase]
    exact fun first begins => isSmallPlain_of_head?_snakeCaseChars basic begins

theorem pascalCase_snakeCase {name : String}
    (basic : ∀ character ∈ name.toList, isBasic character = true) :
    pascalCase (snakeCase name) = pascalCase name := by
  rw [pascalCase, pascalCase, toList_snakeCase, pascalCaseChars_snakeCaseChars basic]

/-- **Names of the basic range are stable.**  Snake case does not change a second time, and words
are capitalised in the same way before and after it.  Fields and methods have plain names, and names
that agree in snake case have structures of the same name. -/
theorem basic_names_are_stable {name : String}
    (basic : ∀ character ∈ name.toList, isBasic character = true) :
    snakeCase (snakeCase name) = snakeCase name ∧
      pascalCase (snakeCase name) = pascalCase name ∧
      IsPlainName (fieldName name) ∧ IsPlainName (methodName name) ∧
      ∀ other : String, (∀ character ∈ other.toList, isBasic character = true) →
        snakeCase other = snakeCase name →
          pascalCase other = pascalCase name ∧
            ∀ suffix, structName other suffix = structName name suffix := by
  refine ⟨?again, pascalCase_snakeCase basic, isPlainName_escaped_snakeCase basic,
    isPlainName_escaped_snakeCase basic, fun other otherBasic same => ?agree⟩
  case again =>
    rw [snakeCase, toList_snakeCase, snakeCaseChars_snakeCaseChars basic, snakeCase]
  case agree =>
    have base : pascalCase other = pascalCase name := by
      rw [← pascalCase_snakeCase otherBasic, same, pascalCase_snakeCase basic]
    exact ⟨base, fun suffix => by rw [structName, base, structName]⟩

/-- A name with a run of capitals and a digit before one, and the same name in another style. -/
theorem http_client_names_are_stable :
    (∀ character ∈ "HTTPClient2Go".toList, isBasic character = true) ∧
      (∀ character ∈ "http.client2--GO".toList, isBasic character = true) ∧
      snakeCase "http.client2--GO" = snakeCase "HTTPClient2Go" ∧
      snakeCase "HTTPClient2Go" = "http_client2_go" ∧
      snakeCase "http_client2_go" = "http_client2_go" ∧
      pascalCase "http_client2_go" = "HttpClient2Go" ∧
      IsPlainName (fieldName "HTTPClient2Go") ∧ IsPlainName (methodName "HTTPClient2Go") ∧
      structName "http.client2--GO" "Params" = structName "HTTPClient2Go" "Params" := by
  have basic : ∀ character ∈ "HTTPClient2Go".toList, isBasic character = true :=
    List.all_eq_true.mp (by decide)
  have otherBasic : ∀ character ∈ "http.client2--GO".toList, isBasic character = true :=
    List.all_eq_true.mp (by decide)
  have style : snakeCase "HTTPClient2Go" = "http_client2_go" := by decide +kernel
  have same : snakeCase "http.client2--GO" = snakeCase "HTTPClient2Go" := by decide +kernel
  have capitalised : pascalCase "HTTPClient2Go" = "HttpClient2Go" := by decide +kernel
  obtain ⟨again, words, field, method, agree⟩ := basic_names_are_stable basic
  rw [style] at again words
  exact ⟨basic, otherBasic, same, style, again, words.trans capitalised, field, method,
    (agree _ otherBasic same).2 "Params"⟩

/-- Beyond the basic range a small form may hold a mark that separates words. -/
example : snakeCase "İd" ≠ snakeCase (snakeCase "İd") := by decide +kernel

end ServiceCatalog.Generation
