import ServiceCatalog.Files.Access
import ServiceCatalog.Proofs.Text.Lines

/-!
# The segments of paths

Segments hold no slash, and segments that are joined are the segments of the path
(`segments_joined`).  So a path below a directory has the segments of the directory and the name
(`segments_below`), and the path beside another one, at which its content is written first, has the
same segments but for the last (`segments_besidePath`).  The parent of a path has fewer segments, so
it is another path (`Path.parent?_ne`).
-/

namespace ServiceCatalog

set_option autoImplicit false

/-! ## Segments -/

namespace Path

theorem slash_notMem_of_mem_segments {path : String} {segment : List Char}
    (member : segment ∈ segments path) : '/' ∉ segment := by
  intro within
  have plain := Text.separates_of_mem_splitWhen member '/' within
  exact absurd plain (by decide)

/-- A path has a last segment. -/
theorem exists_segments (path : String) : ∃ front segment, segments path = front ++ [segment] :=
  ⟨_, _, (List.dropLast_concat_getLast (Text.splitWhen_ne_nil path.toList)).symm⟩

theorem segments_of_name {name : String} (plain : '/' ∉ name.toList) :
    segments name = [name.toList] := by
  refine Text.splitWhen_of_none fun character member => beq_eq_false_iff_ne.mpr ?_
  rintro rfl
  exact plain member

/-- A slash cuts a path in two. -/
theorem segments_append {path : String} {front characters : List Char}
    (whole : path.toList = front ++ '/' :: characters) :
    segments path = segments (String.ofList front) ++ segments (String.ofList characters) := by
  rw [segments, whole, segments, segments, String.toList_ofList, String.toList_ofList]
  exact Text.splitWhen_append rfl front characters

/-- Segments that are joined are the segments of the path. -/
theorem segments_joined {parts : List (List Char)} (some : parts ≠ []) (full : parts ≠ [[]])
    (plain : ∀ part ∈ parts, '/' ∉ part) : segments (joined parts) = parts := by
  rw [segments, joined, if_neg full, String.toList_ofList]
  refine Text.splitWhen_intercalate rfl some fun part member character within => ?_
  refine beq_eq_false_iff_ne.mpr ?_
  rintro rfl
  exact plain part member within

/-! ## Paths below a directory -/

/-- The segments of a directory, as they stand before those of a path below it. -/
def directorySegments (directory : String) : List (List Char) :=
  if directory.isEmpty then []
  else if directory.toList.getLast? = some '/' then (segments directory).dropLast
  else segments directory

/-- **A path below a directory has the segments of the directory and the name.** -/
theorem segments_below (directory : String) {name : String} (plain : '/' ∉ name.toList) :
    segments (below directory name) = directorySegments directory ++ [name.toList] := by
  rw [below, directorySegments, ← segments_of_name plain]
  split_ifs with empty slashed
  · rfl
  · obtain ⟨front, ends⟩ := List.getLast?_eq_some_iff.mp slashed
    have whole : (directory ++ name).toList = front ++ '/' :: name.toList := by simp [ends]
    rw [segments_append whole, segments_append ends, String.ofList_toList]
    exact congrArg (· ++ segments name) List.dropLast_concat.symm
  · have whole : (directory ++ "/" ++ name).toList = directory.toList ++ '/' :: name.toList := by
      simp
    rw [segments_append whole, String.ofList_toList, String.ofList_toList]

/-! ## Parents -/

theorem isPrefix_trimmed (parts : List (List Char)) : trimmed parts <+: parts := by
  cases parts with
  | nil => exact List.prefix_rfl
  | cons first rest =>
      exact (List.prefix_cons_inj first).mpr (Text.isPrefix_dropEndWhile rest)

/-- A path is not its own parent. -/
theorem parent?_ne {path parent : String} (above : parent? path = some parent) :
    parent ≠ path := by
  rintro rfl
  rw [parent?] at above
  generalize shape : trimmed (segments parent) = parts at above
  match parts with
  | [] => cases above
  | [[]] => cases above
  | [letter :: letters] =>
      obtain rfl := Option.some.inj above
      cases shape
  | first :: second :: rest =>
      -- The parent has fewer segments, so it is another text.
      have within : first :: second :: rest <+: segments parent := shape ▸ isPrefix_trimmed _
      have above : joined (trimmed (first :: second :: rest).dropLast) = parent := by
        cases first <;> exact Option.some.inj above
      have dropped := List.dropLast_prefix (first :: second :: rest)
      have shorter : trimmed (first :: second :: rest).dropLast <+: segments parent :=
        (isPrefix_trimmed _).trans (dropped.trans within)
      have fewer : (trimmed (first :: second :: rest).dropLast).length <
          (segments parent).length := by
        have kept := (isPrefix_trimmed (first :: second :: rest).dropLast).length_le
        have whole := within.length_le
        simp only [List.length_dropLast, List.length_cons] at kept whole ⊢
        omega
      by_cases root : trimmed (first :: second :: rest).dropLast = [[]]
      · rw [root] at above
        obtain rfl := above
        cases shape
      · have same : segments (joined (trimmed (first :: second :: rest).dropLast)) =
            trimmed (first :: second :: rest).dropLast :=
          segments_joined (List.cons_ne_nil _ _) root fun segment member =>
            slash_notMem_of_mem_segments (shorter.subset member)
        rw [above] at same
        exact absurd (congrArg List.length same) (Nat.ne_of_gt fewer)

/-! ## Paths beside another one -/

/-- A name that is cut loses what stands behind. -/
theorem prefix_cutName (name : List Char) : (cutName name).1 <+: name := by
  unfold cutName
  split
  · exact List.prefix_rfl
  · exact List.prefix_rfl
  · next back dot front _ cut =>
      rw [List.span_eq_takeWhile_dropWhile] at cut
      obtain ⟨-, behind⟩ := Prod.mk.inj cut
      have ends : front <:+ name.reverse :=
        (List.suffix_cons dot front).trans (behind ▸ List.dropWhile_suffix _)
      rw [← List.reverse_prefix, List.reverse_reverse] at ends
      exact ends

/-- Segments that end in one that says something are kept. -/
theorem trimmed_concat {front : List (List Char)} {name : List Char}
    (notIdle : isIdle name = false) : trimmed (front ++ [name]) = front ++ [name] := by
  cases front with
  | nil => rfl
  | cons first front =>
      exact congrArg (first :: ·) (Text.dropEndWhile_concat notIdle front)

/-- The name of a path is its last segment, where that is a name. -/
theorem name?_eq_some {path : String} {front : List (List Char)} {name : List Char}
    (cut : segments path = front ++ [name]) (notIdle : isIdle name = false)
    (notUp : name ≠ "..".toList) : name? path = some name := by
  rw [name?, cut, trimmed_concat notIdle, List.getLast?_concat, Option.filter_some, if_pos]
  rw [notIdle, Bool.not_false, Bool.true_and, bne_iff_ne]
  exact notUp

end Path

/-- The name under which the content of a file is written first. -/
def temporaryName (name : List Char) : List Char := (Path.cutName name).1 ++ '.' :: "tmp".toList

/-- **The path beside another one differs from it in its name only.** -/
theorem segments_besidePath {path : String} {front : List (List Char)} {name : List Char}
    (cut : Path.segments path = front ++ [name]) (notIdle : Path.isIdle name = false)
    (notUp : name ≠ "..".toList) :
    Path.segments (besidePath path) = front ++ [temporaryName name] := by
  have plain : ∀ segment ∈ front ++ [name], '/' ∉ segment := fun segment member =>
    Path.slash_notMem_of_mem_segments (cut ▸ member)
  have beside : besidePath path = Path.joined (front ++ [temporaryName name]) := by
    rw [besidePath, Path.withExtension, Path.name?_eq_some cut notIdle notUp, cut,
      Path.trimmed_concat notIdle, List.dropLast_concat]
    rfl
  rw [beside]
  refine Path.segments_joined (by simp) ?_ ?_
  · intro empty
    have last := congrArg List.getLast? empty
    simp [temporaryName] at last
  · rw [List.forall_mem_append, List.forall_mem_singleton] at plain ⊢
    refine ⟨plain.1, fun within => ?_⟩
    rcases List.mem_append.mp within with kept | further
    · exact plain.2 ((Path.prefix_cutName name).subset kept)
    · exact absurd further (by decide)

end ServiceCatalog
