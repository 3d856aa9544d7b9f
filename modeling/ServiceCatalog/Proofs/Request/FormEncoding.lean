import Mathlib.Data.List.Basic
import ServiceCatalog.Proofs.Text.Utf8
import ServiceCatalog.Request.Basic

/-!
# Different pairs are written differently

What is written for an octet tells the octet, and where it ends (`writtenOctet_append_inj`): a
percent sign begins three characters, and every other character stands alone.  So what is written
for a name or a value tells the text (`component_injective`).  Neither separator occurs in it, nor
does a question mark, so a written list of pairs tells the pairs (`encode_injective`), and a full
address tells the address and the pairs of a request, if it is known how many question marks the
address holds (`Request.fullUrl_inj`).  Where no address holds one, full addresses agree exactly if
addresses and pairs do (`Request.fullUrl_eq_iff`), whatever characters the pairs are made of.
-/

namespace ServiceCatalog

set_option autoImplicit false

open ServiceCatalog.Numeric

/-- The last mark of a list cuts it in one way. -/
theorem append_cons_inj_of_notMem_last {α : Type} {mark : α} {first second rest others : List α}
    (last : mark ∉ rest) (lastToo : mark ∉ others)
    (same : first ++ mark :: rest = second ++ mark :: others) :
    first = second ∧ rest = others := by
  rcases List.append_eq_append_iff.mp same with ⟨between, rfl, cut⟩ | ⟨between, rfl, cut⟩
  · cases between with
    | nil => exact ⟨(List.append_nil _).symm, (List.cons.inj cut).2⟩
    | cons _ between =>
        have behind : rest = between ++ mark :: others := (List.cons.inj cut).2
        exact absurd (behind ▸ List.mem_append_right _ List.mem_cons_self) last
  · cases between with
    | nil => exact ⟨List.append_nil _, (List.cons.inj cut).2.symm⟩
    | cons _ between =>
        have behind : others = between ++ mark :: rest := (List.cons.inj cut).2
        exact absurd (behind ▸ List.mem_append_right _ List.mem_cons_self) lastToo

namespace FormEncoding

/-! ## Octets -/

/-- The code of a character that is made from a small code. -/
theorem toNat_ofNat {code : Nat} (small : code < 0xD800) : (Char.ofNat code).toNat = code := by
  rw [Char.ofNat, dif_pos (.inl small)]
  rfl

/-- Digits below sixteen are written differently. -/
theorem capitalHexDigit_inj : ∀ {first second : Nat}, first < 16 → second < 16 →
    capitalHexDigit first = capitalHexDigit second → first = second := by
  have digits : ∀ first second : Fin 16,
      capitalHexDigit first = capitalHexDigit second → first = second := by decide
  intro first second smallFirst smallSecond same
  exact congrArg Fin.val (digits ⟨first, smallFirst⟩ ⟨second, smallSecond⟩ same)

/-- The octets that stand for themselves are none of those that mean something else. -/
theorem standing_code {octet : UInt8} (stands : standsForItself octet = true) :
    octet.toNat < 0x80 ∧ octet.toNat ≠ 0x25 ∧ octet.toNat ≠ 0x2B ∧ octet.toNat ≠ 0x26 ∧
      octet.toNat ≠ 0x3D ∧ octet.toNat ≠ 0x3F := by
  simp only [standsForItself, Bool.or_eq_true, Bool.and_eq_true, decide_eq_true_eq,
    beq_iff_eq] at stands
  omega

/-- A character of an octet that stands for itself is no other mark. -/
theorem standing_ne {octet : UInt8} (stands : standsForItself octet = true) {mark : Char}
    (marked : mark.toNat ∈ [0x25, 0x2B, 0x26, 0x3D, 0x3F]) : Char.ofNat octet.toNat ≠ mark := by
  obtain ⟨small, facts⟩ := standing_code stands
  rintro rfl
  rw [toNat_ofNat (by omega)] at marked
  simp at marked
  omega

/-- The three ways in which an octet is written. -/
theorem writtenOctet_cases (octet : UInt8) :
    (standsForItself octet = true ∧ writtenOctet octet = [Char.ofNat octet.toNat]) ∨
      (octet.toNat = 0x20 ∧ writtenOctet octet = ['+']) ∨
      writtenOctet octet = ['%', capitalHexDigit (octet.toNat / 16),
        capitalHexDigit (octet.toNat % 16)] := by
  by_cases stands : standsForItself octet = true
  · exact .inl ⟨stands, by simp [writtenOctet, stands]⟩
  · by_cases space : octet.toNat = 0x20
    · exact .inr (.inl ⟨space, by simp [writtenOctet, stands, space]⟩)
    · exact .inr (.inr (by simp [writtenOctet, stands, space]))

/-- **What is written tells the octet and where it ends.** -/
theorem writtenOctet_append_inj {first second : UInt8} {rest others : List Char}
    (same : writtenOctet first ++ rest = writtenOctet second ++ others) :
    first = second ∧ rest = others := by
  rcases writtenOctet_cases first with ⟨stands, own⟩ | ⟨space, own⟩ | own <;>
    rcases writtenOctet_cases second with ⟨standsToo, other⟩ | ⟨spaceToo, other⟩ | other <;>
    rw [own, other] at same <;>
    simp only [List.cons_append, List.nil_append, List.cons.injEq] at same
  · have codes := congrArg Char.toNat same.1
    rw [toNat_ofNat (by have := (standing_code stands).1; omega),
      toNat_ofNat (by have := (standing_code standsToo).1; omega)] at codes
    exact ⟨UInt8.toNat_inj.mp codes, same.2⟩
  · exact absurd same.1 (standing_ne stands (by decide))
  · exact absurd same.1 (standing_ne stands (by decide))
  · exact absurd same.1.symm (standing_ne standsToo (by decide))
  · exact ⟨UInt8.toNat_inj.mp (space.trans spaceToo.symm), same.2⟩
  · exact absurd same.1 (by decide)
  · exact absurd same.1.symm (standing_ne standsToo (by decide))
  · exact absurd same.1 (by decide)
  · obtain ⟨-, high, low, rest⟩ := same
    have highs := capitalHexDigit_inj (by have := first.toNat_lt; omega)
      (by have := second.toNat_lt; omega) high
    have lows := capitalHexDigit_inj (by omega) (by omega) low
    exact ⟨UInt8.toNat_inj.mp (by omega), rest⟩

/-- The marks that keep written texts apart. -/
inductive IsMark : Char → Prop where
  | pair : IsMark '&'
  | value : IsMark '='
  | query : IsMark '?'

/-- No digit is a mark. -/
theorem capitalHexDigit_ne {digit : Nat} (small : digit < 16) {mark : Char}
    (marks : IsMark mark) : capitalHexDigit digit ≠ mark := by
  have digits : ∀ digit : Fin 16, capitalHexDigit digit ≠ '&' ∧ capitalHexDigit digit ≠ '=' ∧
      capitalHexDigit digit ≠ '?' := by decide
  obtain ⟨pair, value, query⟩ := digits ⟨digit, small⟩
  cases marks with
  | pair => exact pair
  | value => exact value
  | query => exact query

/-- No mark is written for an octet. -/
theorem notMem_writtenOctet {mark : Char} (marks : IsMark mark) (octet : UInt8) :
    mark ∉ writtenOctet octet := by
  obtain ⟨notPlus, notPercent, marked⟩ : mark ≠ '+' ∧ mark ≠ '%' ∧
      mark.toNat ∈ [0x25, 0x2B, 0x26, 0x3D, 0x3F] := by
    cases marks <;> decide
  rcases writtenOctet_cases octet with ⟨stands, own⟩ | ⟨-, own⟩ | own <;> rw [own]
  · simpa using (standing_ne stands marked).symm
  · simpa using notPlus
  · have small := octet.toNat_lt
    have high := capitalHexDigit_ne (by omega : octet.toNat / 16 < 16) marks
    have low := capitalHexDigit_ne (by omega : octet.toNat % 16 < 16) marks
    simpa using ⟨notPercent, high.symm, low.symm⟩

/-! ## Names and values -/

/-- Different octets are written differently. -/
theorem flatMap_writtenOctet_injective :
    Function.Injective fun octets : List UInt8 => octets.flatMap writtenOctet := by
  have nonempty : ∀ octet, writtenOctet octet ≠ [] := by
    intro octet
    rcases writtenOctet_cases octet with ⟨-, own⟩ | ⟨-, own⟩ | own <;> simp [own]
  intro first second same
  induction first generalizing second with
  | nil =>
      cases second with
      | nil => rfl
      | cons octet rest => exact absurd same.symm (by simp [nonempty])
  | cons octet rest ih =>
      cases second with
      | nil => exact absurd same (by simp [nonempty])
      | cons other others =>
          obtain ⟨rfl, later⟩ := writtenOctet_append_inj same
          rw [ih later]

/-- **Different texts are written differently.** -/
theorem component_injective : Function.Injective component := by
  intro first second same
  exact String.toList_injective (Text.encode_injective (flatMap_writtenOctet_injective same))

/-- No mark is written for a text. -/
theorem notMem_component {mark : Char} (marks : IsMark mark) (text : String) :
    mark ∉ component text := by
  simp only [component, List.mem_flatMap, not_exists, not_and]
  exact fun octet _ => notMem_writtenOctet marks octet

/-! ## Pairs -/

/-- Different pairs are written differently. -/
theorem written_injective : Function.Injective written := by
  rintro ⟨name, value⟩ ⟨otherName, otherValue⟩ same
  have apart : ∀ text, '=' ∉ component text := notMem_component .value
  obtain ⟨names, -, values⟩ :=
    (List.append_cons_inj_of_notMem (apart name) (apart value)).mp same
  rw [component_injective names, component_injective values]

/-- In a pair there is no mark but the one between name and value. -/
theorem notMem_written {mark : Char} (marks : IsMark mark) (different : mark ≠ '=')
    (pair : String × String) : mark ∉ written pair := by
  simp [written, notMem_component marks, different]

/-- Only for no pairs is nothing written. -/
theorem encodeChars_eq_nil {pairs : List (String × String)} :
    encodeChars pairs = [] ↔ pairs = [] := by
  rcases pairs with - | ⟨pair, - | ⟨next, rest⟩⟩
  · simp [encodeChars]
  · simp [encodeChars, written]
  · simp [encodeChars, written, List.intercalate_cons_cons]

/-- **Different lists of pairs are written differently.** -/
theorem encodeChars_injective : Function.Injective encodeChars := by
  intro first second same
  by_cases empty : second = []
  · subst empty
    exact encodeChars_eq_nil.mp same
  · have nonempty : first ≠ [] := by
      rintro rfl
      exact empty (encodeChars_eq_nil.mp same.symm)
    have apart : ∀ pairs : List (String × String), ∀ text ∈ pairs.map written, '&' ∉ text := by
      intro pairs text member
      obtain ⟨pair, -, rfl⟩ := List.mem_map.mp member
      exact notMem_written .pair (by decide) pair
    have cut := congrArg (List.splitOn '&') same
    rw [encodeChars, encodeChars, List.splitOn_intercalate '&' (apart first) (by simpa),
      List.splitOn_intercalate '&' (apart second) (by simpa)] at cut
    exact written_injective.list_map cut

/-- No question mark is written for pairs. -/
theorem notMem_encodeChars (pairs : List (String × String)) : '?' ∉ encodeChars pairs := by
  have apart : ∀ pair, '?' ∉ written pair := notMem_written .query (by decide)
  induction pairs with
  | nil => simp [encodeChars]
  | cons pair rest ih =>
      cases rest with
      | nil => simpa [encodeChars] using apart pair
      | cons next others =>
          have later : '?' ∉ ['&'].intercalate (written next :: others.map written) := ih
          simp [encodeChars, List.intercalate_cons_cons, apart pair, later]

end FormEncoding

namespace Request

/-! ## Full addresses -/

/-- A full address is the address, and behind a question mark the pairs, if there are any. -/
theorem fullUrl_toList (request : Request) :
    request.fullUrl.toList = request.url.toList ++
      if request.query = [] then [] else '?' :: FormEncoding.encodeChars request.query := by
  simp only [fullUrl, queryString?, List.isEmpty_iff]
  by_cases empty : request.query = []
  · simp [empty]
  · simp [empty, FormEncoding.encode]

/-- The question marks of a full address are those of the address, and one more if there are
pairs. -/
theorem count_fullUrl (request : Request) :
    request.fullUrl.toList.count '?' =
      request.url.toList.count '?' + if request.query = [] then 0 else 1 := by
  have none := List.count_eq_zero.mpr (FormEncoding.notMem_encodeChars request.query)
  rw [fullUrl_toList, List.count_append]
  by_cases empty : request.query = []
  · simp [empty]
  · simp [empty, none]

/-- **A full address tells the address and the pairs of a request**, if it is known how many
question marks the address holds. -/
theorem fullUrl_inj {first second : Request} (same : first.fullUrl = second.fullUrl)
    (marks : first.url.toList.count '?' = second.url.toList.count '?') :
    first.url = second.url ∧ first.query = second.query := by
  have counts := count_fullUrl first
  rw [same, count_fullUrl, marks] at counts
  have texts := fullUrl_toList first
  rw [same, fullUrl_toList] at texts
  by_cases empty : first.query = []
  · -- No pairs on one side: no pairs on the other, and the addresses are all there is.
    have emptyToo : second.query = [] := by
      by_contra pairs
      simp [empty, pairs] at counts
    simp only [empty, emptyToo, if_true, List.append_nil] at texts
    exact ⟨String.toList_injective texts.symm, empty.trans emptyToo.symm⟩
  · have pairs : second.query ≠ [] := by
      intro emptyToo
      simp [empty, emptyToo] at counts
    -- The pairs begin behind the last question mark.
    simp only [if_neg empty, if_neg pairs] at texts
    obtain ⟨urls, queries⟩ := append_cons_inj_of_notMem_last
      (FormEncoding.notMem_encodeChars second.query)
      (FormEncoding.notMem_encodeChars first.query) texts
    exact ⟨String.toList_injective urls.symm, (FormEncoding.encodeChars_injective queries).symm⟩

/-- A full address depends on the address and the pairs alone. -/
theorem fullUrl_congr {first second : Request} (url : first.url = second.url)
    (query : first.query = second.query) : first.fullUrl = second.fullUrl := by
  simp only [fullUrl, queryString?, url, query]

/-- **Addresses under which answers are kept do not collide.**  Two requests whose addresses hold
no question mark have the same full address exactly if they have the same address and the same
pairs in the same order. -/
theorem fullUrl_eq_iff {first second : Request} (plain : '?' ∉ first.url.toList)
    (plainToo : '?' ∉ second.url.toList) :
    first.fullUrl = second.fullUrl ↔ first.url = second.url ∧ first.query = second.query := by
  constructor
  · intro same
    have marks : first.url.toList.count '?' = second.url.toList.count '?' := by
      rw [List.count_eq_zero.mpr plain, List.count_eq_zero.mpr plainToo]
    exact fullUrl_inj same marks
  · rintro ⟨url, query⟩
    exact fullUrl_congr url query

/-- One pair whose value looks like another pair is told apart from the two pairs, and no pairs
from a pair of two empty texts. -/
theorem fullUrl_of_separators_differs :
    let listing : List (String × String) → Request := fun pairs =>
      { Request.bare .get "http://items.test/items" with query := pairs }
    '?' ∉ (listing []).url.toList ∧
      (listing [("view", "full&page=2")]).fullUrl ≠
        (listing [("view", "full"), ("page", "2")]).fullUrl ∧
      (listing []).fullUrl ≠ (listing [("", "")]).fullUrl := by
  intro listing
  have plain : ∀ pairs, '?' ∉ (listing pairs).url.toList := fun _ => by
    show '?' ∉ "http://items.test/items".toList
    decide
  refine ⟨plain [], fun same => ?_, fun same => ?_⟩
  · exact absurd ((fullUrl_eq_iff (plain _) (plain _)).mp same).2 (by decide)
  · exact absurd ((fullUrl_eq_iff (plain _) (plain _)).mp same).2 (by decide)

end Request

end ServiceCatalog
