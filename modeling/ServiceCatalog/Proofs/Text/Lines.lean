import Mathlib.Data.List.TakeDrop
import Mathlib.Tactic.SplitIfs
import ServiceCatalog.Text.Blank

/-!
# Cutting texts into pieces and lines

A text that is cut at separators falls into pieces without them, and pieces that are joined by a
separator are cut apart again (`splitWhen_intercalate`).  So are lines that are written one after
another, each with a line feed behind it (`lines_join`).

Dropping a mark from the end of a text leaves the text that does not end in the mark and becomes the
text again with marks behind it (`withoutEnd_dropEndWhile`).
-/

namespace ServiceCatalog.Text

set_option autoImplicit false

/-! ## Pieces -/

variable {separates : Char → Bool} {front characters : List Char} {separator : Char}

theorem splitWhen_ne_nil (characters : List Char) : splitWhen separates characters ≠ [] := by
  cases characters with
  | nil => exact List.cons_ne_nil _ _
  | cons character rest =>
      rw [splitWhen]
      split_ifs
      · exact List.cons_ne_nil _ _
      · cases splitWhen separates rest <;> exact List.cons_ne_nil _ _

theorem splitWhen_of_none (none : ∀ character ∈ characters, separates character = false) :
    splitWhen separates characters = [characters] := by
  induction characters with
  | nil => rfl
  | cons character rest ih =>
      obtain ⟨plain, others⟩ := List.forall_mem_cons.mp none
      simp [splitWhen, plain, ih others]

/-- The first piece ends before the first separator. -/
theorem exists_splitWhen_eq (separates : Char → Bool) (characters : List Char) :
    ∃ pieces, splitWhen separates characters =
      characters.takeWhile (fun character => !separates character) :: pieces := by
  induction characters with
  | nil => exact ⟨[], rfl⟩
  | cons character rest ih =>
      obtain ⟨pieces, split⟩ := ih
      by_cases cuts : separates character = true
      · exact ⟨splitWhen separates rest, by simp [splitWhen, cuts]⟩
      · exact ⟨pieces, by simp [splitWhen, cuts, split]⟩

/-- A separator cuts a text in two. -/
theorem splitWhen_append (cuts : separates separator = true) (front characters : List Char) :
    splitWhen separates (front ++ separator :: characters) =
      splitWhen separates front ++ splitWhen separates characters := by
  induction front with
  | nil => simp [splitWhen, cuts]
  | cons character front ih =>
      rw [List.cons_append, splitWhen, ih, splitWhen]
      split_ifs
      · rfl
      · cases pieces : splitWhen separates front with
        | nil => exact absurd pieces (splitWhen_ne_nil front)
        | cons piece pieces => rfl

theorem separates_of_mem_splitWhen {piece : List Char}
    (member : piece ∈ splitWhen separates characters) :
    ∀ character ∈ piece, separates character = false := by
  induction characters generalizing piece with
  | nil =>
      obtain rfl := List.mem_singleton.mp member
      exact List.forall_mem_nil _
  | cons first rest ih =>
      rw [splitWhen] at member
      split_ifs at member with cuts
      · rcases List.mem_cons.mp member with rfl | later
        · exact List.forall_mem_nil _
        · exact ih later
      · have plain : separates first = false := Bool.eq_false_iff.mpr cuts
        cases pieces : splitWhen separates rest with
        | nil => exact absurd pieces (splitWhen_ne_nil rest)
        | cons piece others =>
            rw [pieces] at member ih
            rcases List.mem_cons.mp member with rfl | later
            · exact List.forall_mem_cons.mpr ⟨plain, ih List.mem_cons_self⟩
            · exact ih (List.mem_cons_of_mem _ later)

/-- **Pieces that are joined by a separator are cut apart again.** -/
theorem splitWhen_intercalate (cuts : separates separator = true) {pieces : List (List Char)}
    (some : pieces ≠ [])
    (plain : ∀ piece ∈ pieces, ∀ character ∈ piece, separates character = false) :
    splitWhen separates (List.intercalate [separator] pieces) = pieces := by
  induction pieces with
  | nil => exact absurd rfl some
  | cons piece pieces ih =>
      obtain ⟨own, others⟩ := List.forall_mem_cons.mp plain
      cases pieces with
      | nil => rw [List.intercalate_singleton, splitWhen_of_none own]
      | cons next pieces =>
          rw [List.intercalate_cons_cons, List.append_assoc, List.singleton_append,
            splitWhen_append cuts, splitWhen_of_none own, ih (List.cons_ne_nil _ _) others]
          rfl

/-! ## The end of a text -/

theorem isPrefix_dropEndWhile {α : Type} {inClass : α → Bool} (elements : List α) :
    dropEndWhile inClass elements <+: elements := by
  rw [dropEndWhile, ← List.reverse_suffix, List.reverse_reverse]
  exact List.dropWhile_suffix inClass

/-- Where the last element is none of a class, nothing is dropped from the end. -/
theorem dropEndWhile_concat {α : Type} {inClass : α → Bool} {last : α}
    (kept : inClass last = false) (front : List α) :
    dropEndWhile inClass (front ++ [last]) = front ++ [last] := by
  simp [dropEndWhile, kept]

/-- What is dropped from the end is of the class, and what is left does not end in it. -/
theorem exists_dropEndWhile_append {α : Type} (inClass : α → Bool) (elements : List α) :
    (∃ dropped, elements = dropEndWhile inClass elements ++ dropped ∧
        ∀ element ∈ dropped, inClass element = true) ∧
      ∀ last, (dropEndWhile inClass elements).getLast? = some last → inClass last = false := by
  refine ⟨⟨(elements.reverse.takeWhile inClass).reverse, ?_, fun element member => ?_⟩,
    fun last ends => ?_⟩
  · rw [dropEndWhile, ← List.reverse_append, List.takeWhile_append_dropWhile, List.reverse_reverse]
  · exact List.all_eq_true.mp List.all_takeWhile element (List.mem_reverse.mp member)
  · rw [dropEndWhile, List.getLast?_reverse] at ends
    have kept := List.head?_dropWhile_not inClass elements.reverse
    rwa [ends] at kept

/-- A text without the marks at its end. -/
structure WithoutEnd (mark : Char) (text rest : String) : Prop where
  written : ∃ count, text = rest ++ String.ofList (List.replicate count mark)
  unmarked : rest.toList.getLast? ≠ some mark

/-- **Dropping a mark from the end leaves the text without the marks at its end.** -/
theorem withoutEnd_dropEndWhile (mark : Char) (text : String) :
    WithoutEnd mark text (String.ofList (dropEndWhile (· == mark) text.toList)) := by
  obtain ⟨⟨dropped, written, marks⟩, kept⟩ := exists_dropEndWhile_append (· == mark) text.toList
  refine ⟨⟨dropped.length, ?_⟩, fun ends => ?_⟩
  · rw [← List.eq_replicate_of_mem fun element member => beq_iff_eq.mp (marks element member),
      ← String.ofList_append, ← written, String.ofList_toList]
  · rw [String.toList_ofList] at ends
    simpa using kept mark ends

/-! ## Lines -/

/-- What is written line by line is cut before the empty piece at its end. -/
theorem splitWhen_flatMap_concat (cuts : separates separator = true) {pieces : List (List Char)}
    (plain : ∀ piece ∈ pieces, ∀ character ∈ piece, separates character = false) :
    splitWhen separates (pieces.flatMap (· ++ [separator])) = pieces ++ [[]] := by
  induction pieces with
  | nil => rfl
  | cons piece pieces ih =>
      obtain ⟨own, others⟩ := List.forall_mem_cons.mp plain
      rw [List.flatMap_cons, List.append_assoc, List.singleton_append, splitWhen_append cuts,
        splitWhen_of_none own, ih others]
      rfl

theorem withoutReturn_of_getLast? {line : List Char} (kept : line.getLast? ≠ some '\r') :
    withoutReturn line = line :=
  if_neg kept

theorem linesOfPieces_concat_nil {pieces : List (List Char)}
    (kept : ∀ piece ∈ pieces, piece.getLast? ≠ some '\r') :
    linesOfPieces (pieces ++ [[]]) = pieces := by
  induction pieces with
  | nil => rfl
  | cons piece pieces ih =>
      obtain ⟨own, others⟩ := List.forall_mem_cons.mp kept
      have more : pieces ++ [[]] ≠ [] := List.append_ne_nil_of_right_ne_nil _ (List.cons_ne_nil _ _)
      obtain ⟨next, rest, behind⟩ := List.exists_cons_of_ne_nil more
      rw [List.cons_append, behind, linesOfPieces, withoutReturn_of_getLast? own, ← behind,
        ih others]
      exact List.cons_ne_nil _ _

/-- **Lines that are written one after another are cut apart again.** -/
theorem lines_join {written : List String} (plain : ∀ line ∈ written, '\n' ∉ line.toList)
    (kept : ∀ line ∈ written, line.toList.getLast? ≠ some '\r') :
    lines (String.join (written.map (· ++ "\n"))) = written := by
  have whole : (String.join (written.map (· ++ "\n"))).toList =
      (written.map String.toList).flatMap (· ++ ['\n']) := by
    simp [String.toList_join, List.flatMap_map]
  have cut : splitWhen (· == '\n') ((written.map String.toList).flatMap (· ++ ['\n'])) =
      written.map String.toList ++ [[]] := by
    refine splitWhen_flatMap_concat rfl (List.forall_mem_map.mpr fun line member => ?_)
    rintro character within
    refine beq_eq_false_iff_ne.mpr ?_
    rintro rfl
    exact plain line member within
  rw [lines, whole, cut, linesOfPieces_concat_nil (List.forall_mem_map.mpr kept), List.map_map]
  simp

end ServiceCatalog.Text
