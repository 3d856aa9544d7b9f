import ServiceCatalog.Association
import ServiceCatalog.Proofs.Catalog.Template

/-!
# The division of a template

A placeholder occurs in a template wherever a name without braces stands between two braces
(`Occurs`).  A division takes a template apart into names and the literal texts before, between and
behind their placeholders, where no literal text holds a placeholder (`Division.Divides`).

Every template has exactly one division (`exists_divides`, `Division.Divides.unique`), and its
placeholders are those that occur, each in its place (`Division.Divides.occurs_iff`).  The pieces of
a template are those of its division (`Division.Divides.pieces_eq`).  So the names of a template and
what it is filled in to can be read off its division (`templates_are_read_by_division`): whatever is
filled in, the literal texts stay, and no value is looked at again.

The names of a template are those that its placeholders have (`HoldsName`, `mem_names_iff`), in the
order in which these occur, so the first name that is not known is that of the first placeholder
with such a name (`find?_names_eq_some`).
-/

namespace ServiceCatalog

set_option autoImplicit false

namespace Template

/-! ## Placeholders that occur -/

/-- A placeholder occurs in a template between two texts. -/
structure Occurs (template before name after : List Char) : Prop where
  braceFree : BraceFree name
  written : template = before ++ '{' :: (name ++ '}' :: after)

/-- Some placeholder occurs in a text. -/
def HoldsPlaceholder (text : List Char) : Prop :=
  ∃ before name after, Occurs text before name after

/-- Some placeholder in a text has a name. -/
def HoldsName (text : List Char) (name : String) : Prop :=
  name ≠ "" ∧ ∃ before after, Occurs text before name.toList after

theorem HoldsPlaceholder.append {text : List Char} (holds : HoldsPlaceholder text)
    (start : List Char) : HoldsPlaceholder (start ++ text) := by
  obtain ⟨before, name, after, plain, rfl⟩ := holds
  exact ⟨start ++ before, name, after, plain, by simp⟩

/-- A placeholder before another one occurs in the whole text. -/
theorem Occurs.of_before {text before name after start other rest : List Char}
    (occurs : Occurs text before name after) (earlier : Occurs before start other rest) :
    Occurs text start other (rest ++ '{' :: (name ++ '}' :: after)) :=
  ⟨earlier.braceFree, by simp [occurs.written, earlier.written]⟩

theorem Occurs.length_lt {text before name after : List Char}
    (occurs : Occurs text before name after) : before.length < text.length := by
  simp [occurs.written]

/-- Whatever placeholder is taken, before the first one of a text there is none. -/
theorem Occurs.exists_first {text before name after : List Char}
    (occurs : Occurs text before name after) :
    ∃ before name after, Occurs text before name after ∧ ¬ HoldsPlaceholder before := by
  by_cases earlier : HoldsPlaceholder before
  · obtain ⟨start, first, rest, occursBefore⟩ := earlier
    have shorter : start.length < before.length := occursBefore.length_lt
    exact (occurs.of_before occursBefore).exists_first
  · exact ⟨before, name, after, occurs, earlier⟩
termination_by before.length

/-- Whatever placeholder with an unknown name is taken, there is one before which all names are
known. -/
theorem Occurs.exists_first_name {text before after : List Char} {name : String}
    {known : List String} (occurs : Occurs text before name.toList after) (named : name ≠ "")
    (unknown : name ∉ known) :
    ∃ (first : String) (start rest : List Char), Occurs text start first.toList rest ∧
      first ≠ "" ∧ first ∉ known ∧ ∀ earlier, HoldsName start earlier → earlier ∈ known := by
  by_cases earlier : ∀ other, HoldsName before other → other ∈ known
  · exact ⟨name, before, after, occurs, named, unknown, earlier⟩
  · simp only [not_forall] at earlier
    obtain ⟨other, ⟨otherNamed, start, rest, occursBefore⟩, otherUnknown⟩ := earlier
    have shorter : start.length < before.length := occursBefore.length_lt
    exact (occurs.of_before occursBefore).exists_first_name otherNamed otherUnknown
termination_by before.length

/-- Behind a name without opening braces and the brace that closes it, the next brace opens. -/
theorem length_lt_of_unopened {name inner after behind : List Char} (unopened : '{' ∉ name)
    (same : name ++ '}' :: after = inner ++ '{' :: behind) : name.length < inner.length := by
  by_contra short
  have opening : (name ++ '}' :: after)[inner.length]? = some '{' := by simp [same]
  rcases Nat.lt_or_eq_of_le (Nat.le_of_not_lt short) with inside | atEnd
  · rw [List.getElem?_append_left inside] at opening
    exact unopened (List.mem_of_getElem? opening)
  · simp [atEnd] at opening

/-- **Placeholders do not overlap**: one ends before the next begins. -/
theorem Occurs.apart {template before name after other its behind : List Char}
    (first : Occurs template before name after) (second : Occurs template other its behind)
    (later : before.length < other.length) : before.length + name.length + 2 ≤ other.length := by
  obtain ⟨⟨unopened, -⟩, same⟩ := first
  rw [second.written] at same
  obtain ⟨between, rfl, -⟩ | ⟨between, rfl, rest⟩ := List.append_eq_append_iff.mp same
  · rw [List.length_append] at later
    omega
  · cases between with
    | nil => simp at later
    | cons opening inner =>
        have long := length_lt_of_unopened unopened (List.cons_eq_cons.mp rest).2
        simp only [List.length_append, List.length_cons]
        omega

/-! ## Divisions -/

/-- A text taken apart: the literal text at its start, and the names with the literal texts behind
their placeholders. -/
structure Division where
  first : List Char
  parts : List (List Char × List Char)
  deriving DecidableEq, Repr

namespace Division

/-- The names of the placeholders, in order. -/
def names (division : Division) : List (List Char) :=
  division.parts.map Prod.fst

/-- The literal texts, in order. -/
def texts (division : Division) : List (List Char) :=
  division.first :: division.parts.map Prod.snd

/-- The text with a value in the place of every placeholder that is given one. -/
def filled (value? : List Char → Option (List Char)) (division : Division) : List Char :=
  division.first ++ division.parts.flatMap fun (name, text) =>
    (value? name).getD (Piece.placeholder name).written ++ text

/-- The text as it is written, with all its placeholders. -/
def written (division : Division) : List Char :=
  division.filled fun _ => none

/-- A division of a template: it is written so, the names have no braces, and the literal texts hold
no placeholder. -/
structure Divides (division : Division) (template : List Char) : Prop where
  written : division.written = template
  braceFree : ∀ name ∈ division.names, BraceFree name
  literal : ∀ text ∈ division.texts, ¬ HoldsPlaceholder text

/-- Two divisions with a placeholder between them. -/
def join (division : Division) (name : List Char) (other : Division) : Division :=
  ⟨division.first, division.parts ++ (name, other.first) :: other.parts⟩

theorem written_join (division : Division) (name : List Char) (other : Division) :
    (division.join name other).written =
      division.written ++ '{' :: (name ++ '}' :: other.written) := by
  simp [join, written, filled, Piece.written]

theorem names_join (division : Division) (name : List Char) (other : Division) :
    (division.join name other).names = division.names ++ name :: other.names := by
  simp [join, names]

theorem texts_join (division : Division) (name : List Char) (other : Division) :
    (division.join name other).texts = division.texts ++ other.texts := by
  simp [join, texts]

variable {division other : Division} {template before name after : List Char}

/-- What is divided before and behind a placeholder is divided together. -/
theorem Divides.join (left : division.Divides before) (plain : BraceFree name)
    (right : other.Divides after) :
    (division.join name other).Divides (before ++ '{' :: (name ++ '}' :: after)) where
  written := by rw [written_join, left.written, right.written]
  braceFree := by
    rw [names_join, List.forall_mem_append, List.forall_mem_cons]
    exact ⟨left.braceFree, plain, right.braceFree⟩
  literal := by
    rw [texts_join, List.forall_mem_append]
    exact ⟨left.literal, right.literal⟩

/-- A text without placeholders is divided into itself. -/
theorem divides_literal (literal : ¬ HoldsPlaceholder before) : Divides ⟨before, []⟩ before :=
  ⟨by simp [written, filled], by simp [names], by simpa [texts] using literal⟩

end Division

open Division

/-- **Every template has a division.** -/
theorem exists_divides (template : List Char) :
    ∃ division : Division, division.Divides template := by
  by_cases holds : HoldsPlaceholder template
  · obtain ⟨_, _, _, occurs⟩ := holds
    obtain ⟨before, name, after, ⟨plain, written⟩, literal⟩ := occurs.exists_first
    have shorter : after.length < template.length := by
      simp only [written, List.length_append, List.length_cons]
      omega
    obtain ⟨rest, divides⟩ := exists_divides after
    exact ⟨_, written ▸ (divides_literal literal).join plain divides⟩
  · exact ⟨_, divides_literal holds⟩
termination_by template.length

/-! ## Pieces of a division -/

/-- The pieces of a division. -/
def Division.pieces (division : Division) : List Piece :=
  division.first.map .literal ++ division.parts.flatMap fun (name, text) =>
    .placeholder name :: text.map .literal

/-- The division that pieces make. -/
def Division.ofPieces : List Piece → Division
  | [] => ⟨[], []⟩
  | .literal character :: rest => ⟨character :: (ofPieces rest).first, (ofPieces rest).parts⟩
  | .placeholder name :: rest => ⟨[], (name, (ofPieces rest).first) :: (ofPieces rest).parts⟩

theorem ofPieces_literal (text : List Char) (rest : List Piece) :
    ofPieces (text.map .literal ++ rest) =
      ⟨text ++ (ofPieces rest).first, (ofPieces rest).parts⟩ := by
  induction text with
  | nil => rfl
  | cons character text ih => simp [ofPieces, ih]

/-- A division can be told from its pieces. -/
theorem ofPieces_pieces (division : Division) : ofPieces division.pieces = division := by
  obtain ⟨first, parts⟩ := division
  have behind : ofPieces (parts.flatMap fun (name, text) =>
      .placeholder name :: text.map .literal) = ⟨[], parts⟩ := by
    induction parts with
    | nil => rfl
    | cons part parts ih => simp [ofPieces, ofPieces_literal, ih]
  rw [Division.pieces, ofPieces_literal, behind, List.append_nil]

/-- Where a brace opens, the split begins anew. -/
theorem split_append_opening (held : Option (List Char)) (before rest : List Char) :
    split held (before ++ '{' :: rest) = split held before ++ split (some []) rest := by
  induction held, before using split.induct with
  | case1 => simp [split]
  | case2 held => simp [split]
  | case3 before ih => simp [split, ih]
  | case4 character before other ih => simp [split, other, ih]
  | case5 held before ih => simp [split, ih]
  | case6 held before _ ih => simp [split, ih]
  | case7 held character before opens closes ih => simp [split, opens, closes, ih]

/-- **A placeholder is a piece where it occurs**, and what stands before and behind it is split
apart from it. -/
theorem Occurs.pieces_eq {template before name after : List Char}
    (occurs : Occurs template before name after) :
    pieces template = pieces before ++ .placeholder name :: pieces after := by
  rw [occurs.written, pieces, split_append_opening, split_braceFree occurs.braceFree]
  rfl

/-- **The names of a template are those that its placeholders have.** -/
theorem mem_names_iff {template name : String} :
    name ∈ names template ↔ HoldsName template.toList name := by
  rw [mem_names, placeholder_mem_pieces, HoldsName, and_congr_right_iff]
  intro _
  constructor
  · rintro ⟨plain, before, after, written⟩
    exact ⟨before, after, plain, written⟩
  · rintro ⟨before, after, plain, written⟩
    exact ⟨plain, before, after, written⟩

/-- The names of a template are those before a placeholder, its own name, and those behind it. -/
theorem Occurs.names_eq {template name : String} {before after : List Char}
    (occurs : Occurs template.toList before name.toList after) (named : name ≠ "") :
    names template = names (String.ofList before) ++ name :: names (String.ofList after) := by
  have own : name.toList ≠ [] := by simpa using named
  simp only [Template.names_eq, occurs.pieces_eq, String.toList_ofList, List.filterMap_append,
    List.filterMap_cons, Piece.name?_placeholder, if_neg own, List.map_append, List.map_cons,
    String.ofList_toList]

/-- An unknown name is the first one if the names of the text before its placeholder are known. -/
theorem Occurs.find?_names_eq {template name : String} {before after : List Char}
    {known : List String} (occurs : Occurs template.toList before name.toList after)
    (named : name ≠ "") (unknown : name ∉ known)
    (earlier : ∀ other, HoldsName before other → other ∈ known) :
    (names template).find? (fun other => !known.contains other) = some name := by
  have passed : (names (String.ofList before)).find? (fun other => !known.contains other) =
      none := by
    rw [List.find?_eq_none]
    intro other member
    rw [mem_names_iff, String.toList_ofList] at member
    simpa using earlier other member
  rw [occurs.names_eq named, List.find?_append, passed, Option.none_or,
    List.find?_cons_of_pos (by simpa using unknown)]

/-- **The first name that is not known**: its placeholder occurs, and the names of the text before
this placeholder are known. -/
theorem find?_names_eq_some {template name : String} {known : List String} :
    (names template).find? (fun other => !known.contains other) = some name ↔
      name ≠ "" ∧ name ∉ known ∧ ∃ before after,
        Occurs template.toList before name.toList after ∧
          ∀ other, HoldsName before other → other ∈ known := by
  constructor
  · intro found
    have unknown : name ∉ known := by simpa using List.find?_some found
    obtain ⟨named, before, after, occurs⟩ := mem_names_iff.mp (List.mem_of_find?_eq_some found)
    obtain ⟨first, start, rest, firstOccurs, firstNamed, firstUnknown, earlier⟩ :=
      occurs.exists_first_name named unknown
    have foundFirst := firstOccurs.find?_names_eq firstNamed firstUnknown earlier
    obtain rfl := Option.some.inj (found.symm.trans foundFirst)
    exact ⟨named, unknown, start, rest, firstOccurs, earlier⟩
  · rintro ⟨named, unknown, before, after, occurs, earlier⟩
    exact occurs.find?_names_eq named unknown earlier

/-- A text that holds no placeholder is split into literal pieces. -/
theorem split_of_literal {held : Option (List Char)} {text : List Char}
    (plain : BraceFree (held.getD [])) (literal : ¬ HoldsPlaceholder (heldText held ++ text)) :
    split held text = (heldText held ++ text).map .literal := by
  induction held, text using split.induct with
  | case1 => rfl
  | case2 held => simp [split, heldText, unclosed]
  | case3 rest ih => simpa [split, heldText] using ih braceFree_nil literal
  | case4 character rest other ih =>
      have literalRest : ¬ HoldsPlaceholder rest := fun holds => literal (holds.append [character])
      simp [split, other, heldText, ih plain literalRest]
  | case5 held rest ih =>
      have literalRest : ¬ HoldsPlaceholder ('{' :: rest) := fun holds =>
        literal (holds.append (heldText (some held)))
      simp [split, heldText, unclosed, ih braceFree_nil literalRest]
  | case6 held rest _ ih =>
      have named : BraceFree held.reverse := by simpa [BraceFree] using plain
      exact absurd ⟨[], held.reverse, rest, named, by simp [heldText]⟩ literal
  | case7 held character rest opens closes ih =>
      have held' : BraceFree ((some (character :: held)).getD []) := by
        simpa [BraceFree, Ne.symm opens, Ne.symm closes] using plain
      simp [split, opens, closes, heldText, ih held' (by simpa [heldText] using literal)]

/-- **The pieces of a template are those of its division.** -/
theorem Division.Divides.pieces_eq {division : Division} {template : List Char}
    (divides : division.Divides template) : Template.pieces template = division.pieces := by
  obtain ⟨first, parts⟩ := division
  have literal : ∀ text, ¬ HoldsPlaceholder text → Template.pieces text = text.map .literal :=
    fun text none => split_of_literal braceFree_nil none
  induction parts generalizing first template with
  | nil =>
      obtain rfl : first = template := by
        simpa [Division.written, filled] using divides.written
      simp [Division.pieces, literal first (divides.literal first List.mem_cons_self)]
  | cons part parts ih =>
      obtain ⟨name, text⟩ := part
      obtain ⟨written, names, texts⟩ := divides
      obtain ⟨plain, plainRest⟩ := List.forall_mem_cons.mp names
      obtain ⟨literalFirst, literalRest⟩ := List.forall_mem_cons.mp texts
      have occurs : Occurs template first name (Division.written ⟨text, parts⟩) :=
        ⟨plain, by simp [← written, Division.written, filled, Piece.written]⟩
      rw [occurs.pieces_eq, literal first literalFirst, ih text ⟨rfl, plainRest, literalRest⟩]
      simp [Division.pieces]

/-! ## The division of a template -/

section Divides

variable {division : Division} {template : List Char} (divides : division.Divides template)

include divides

/-- **A template has one division.** -/
theorem Division.Divides.unique {other : Division} (dividesToo : other.Divides template) :
    other = division := by
  rw [← ofPieces_pieces other, ← ofPieces_pieces division, ← divides.pieces_eq,
    dividesToo.pieces_eq]

/-- **The placeholders of a division are those that occur**, each in its place. -/
theorem Division.Divides.occurs_iff {before name after : List Char} :
    Occurs template before name after ↔
      ∃ left right : Division, division = left.join name right ∧
        left.written = before ∧ right.written = after := by
  constructor
  · rintro ⟨plain, rfl⟩
    obtain ⟨left, dividesLeft⟩ := exists_divides before
    obtain ⟨right, dividesRight⟩ := exists_divides after
    have same := divides.unique (dividesLeft.join plain dividesRight)
    exact ⟨left, right, same.symm, dividesLeft.written, dividesRight.written⟩
  · rintro ⟨left, right, rfl, rfl, rfl⟩
    refine ⟨divides.braceFree name ?_, ?_⟩
    · simp [names_join]
    · rw [← divides.written, written_join]

/-- The names of a template are those of its division that are not empty. -/
theorem Division.Divides.names_eq :
    (Template.pieces template).filterMap Piece.name? = division.names.filter (· ≠ []) := by
  obtain ⟨first, parts⟩ := division
  rw [divides.pieces_eq, Division.pieces, List.filterMap_append, filterMap_literal,
    List.nil_append, Division.names]
  clear divides
  induction parts with
  | nil => rfl
  | cons part parts ih =>
      obtain ⟨name, text⟩ := part
      by_cases unnamed : name = []
      · simpa [unnamed, Function.comp_def] using ih
      · simpa [unnamed, Function.comp_def] using ih

/-- Filling in keeps the literal texts. -/
theorem Division.Divides.fillChars_eq (values : List (List Char × List Char)) :
    fillChars template values = division.filled fun name => values.lookup name := by
  simp only [Template.fillChars_eq, divides.pieces_eq, Division.pieces, List.flatMap_append,
    flatMap_literal, List.flatMap_assoc, List.flatMap_cons, Piece.filled_placeholder, filled]

end Divides

end Template

open Template

/-- **Templates are read by their division.**  Every template has exactly one division.  Its
placeholders are the ones that occur, each in its place, and they do not overlap.  The names of the
template are the names of the division, but for the empty one.  Whatever is filled in, the result is
the division with the first value that is given for a name in the place of each of its placeholders,
and with all else as it was written.  Where no name is given twice, the order of the values does not
matter. -/
theorem templates_are_read_by_division (template : String) :
    ∃ division : Division, division.Divides template.toList ∧
      (∀ other : Division, other.Divides template.toList → other = division) ∧
      (∀ before name after, Occurs template.toList before name after ↔
        ∃ left right : Division, division = left.join name right ∧
          left.written = before ∧ right.written = after) ∧
      (∀ before name after other its behind, Occurs template.toList before name after →
        Occurs template.toList other its behind → before.length < other.length →
          before.length + name.length + 2 ≤ other.length) ∧
      names template = (division.names.filter (· ≠ [])).map String.ofList ∧
      (∀ values, fill template values = String.ofList (division.filled fun name =>
        (values.lookup (String.ofList name)).map String.toList)) ∧
      ∀ values others : List (String × String), (values.map Prod.fst).Nodup → values.Perm others →
        fill template values = fill template others := by
  obtain ⟨division, divides⟩ := exists_divides template.toList
  have filling : ∀ values, fill template values = String.ofList (division.filled fun name =>
      (values.lookup (String.ofList name)).map String.toList) := by
    intro values
    have found : ∀ name, (characters values).lookup name =
        (values.lookup (String.ofList name)).map String.toList := by
      intro name
      rw [← lookup_characters, String.toList_ofList]
    rw [← funext found, ← divides.fillChars_eq]
    rfl
  refine ⟨division, divides, fun _ => divides.unique, fun _ _ _ => divides.occurs_iff,
    fun _ _ _ _ _ _ => Occurs.apart, ?_, filling, ?_⟩
  · rw [names_eq, divides.names_eq]
  · intro values others distinct perm
    rw [filling, filling, funext fun name => congrArg _ (lookup_perm distinct perm _)]

/-- A template with braces of all sorts: alone, doubled, around nothing, around a name that comes
twice, side by side, and open at the end. -/
def shelfTemplate : String :=
  "/x\x7d/\x7b\x7bid\x7d/\x7b\x7d/\x7bid\x7d\x7bview\x7d/\x7bopen"

/-- A value with braces is filled in as it is, in whichever order the values are listed. -/
theorem shelves_are_filled_in_any_order :
    ([("id", "\x7bview\x7d"), ("view", "é")].map Prod.fst).Nodup ∧
      [("id", "\x7bview\x7d"), ("view", "é")].Perm [("view", "é"), ("id", "\x7bview\x7d")] ∧
      names shelfTemplate = ["id", "id", "view"] ∧
      fill shelfTemplate [("id", "\x7bview\x7d"), ("view", "é")] =
        "/x\x7d/\x7b\x7bview\x7d/\x7b\x7d/\x7bview\x7dé/\x7bopen" ∧
      fill shelfTemplate [("id", "\x7bview\x7d"), ("view", "é")] =
        fill shelfTemplate [("view", "é"), ("id", "\x7bview\x7d")] := by
  have distinct : ([("id", "\x7bview\x7d"), ("view", "é")].map Prod.fst).Nodup := by decide
  have perm : [("id", "\x7bview\x7d"), ("view", "é")].Perm
      [("view", "é"), ("id", "\x7bview\x7d")] :=
    List.Perm.swap _ _ _
  obtain ⟨_, -, -, -, -, -, -, anyOrder⟩ := templates_are_read_by_division shelfTemplate
  exact ⟨distinct, perm, by decide +kernel, by decide +kernel, anyOrder _ _ distinct perm⟩

end ServiceCatalog
