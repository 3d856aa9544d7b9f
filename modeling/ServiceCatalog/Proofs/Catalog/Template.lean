import Mathlib.Data.List.Basic
import ServiceCatalog.Catalog.Template

/-!
# What stands between braces

Every template splits in one way into placeholders and single literal characters (`pieces`).  The
split loses nothing, and its placeholders are exactly the texts without braces that stand between an
opening and a closing brace (`placeholder_mem_pieces`).

Both scans of a template can be read off its pieces: one gathers the names of the placeholders
(`namesFrom_eq`), the other writes every piece, filled in or as it was (`fillFrom_eq`).  Nothing
else is proved of the scans themselves.

So a text that is filled in can have names that the template does not have.  If what is filled in
has no braces, these names are known: they stand between two braces that are literal pieces of the
template (`Encloses`, `mem_names_fill`).
-/

namespace ServiceCatalog

set_option autoImplicit false

namespace Template

/-- A text without braces. -/
def BraceFree (text : List Char) : Prop := '{' ∉ text ∧ '}' ∉ text

instance (text : List Char) : Decidable (BraceFree text) :=
  inferInstanceAs (Decidable (_ ∧ _))

theorem braceFree_nil : BraceFree [] := by decide

/-! ## Splitting -/

/-- A piece of a template. -/
inductive Piece where
  | literal (character : Char)
  | placeholder (name : List Char)
  deriving DecidableEq, Repr

/-- A piece as the template writes it. -/
def Piece.written : Piece → List Char
  | .literal character => [character]
  | .placeholder name => '{' :: name ++ ['}']

/-- Literal pieces of an opening brace that found no partner, and of the characters behind it. -/
def unclosed (name : List Char) : List Piece :=
  .literal '{' :: name.map .literal

/-- Splits the characters of a template, behind what is held back. -/
def split : Option (List Char) → List Char → List Piece
  | none, [] => []
  | some held, [] => unclosed held.reverse
  | none, character :: rest =>
      if character = '{' then split (some []) rest
      else .literal character :: split none rest
  | some held, character :: rest =>
      if character = '{' then unclosed held.reverse ++ split (some []) rest
      else if character = '}' then .placeholder held.reverse :: split none rest
      else split (some (character :: held)) rest

/-- The pieces of a template. -/
def pieces (template : List Char) : List Piece := split none template

/-! ## The two scans -/

/-- The name of a placeholder that has one. -/
def Piece.name? : Piece → Option (List Char)
  | .literal _ => none
  | .placeholder name => if name = [] then none else some name

/-- A piece with its placeholder filled in, by the first value given for its name. -/
def Piece.filled (values : List (List Char × List Char)) : Piece → List Char
  | .literal character => [character]
  | .placeholder name =>
      match values.lookup name with
      | some value => value
      | none => (Piece.placeholder name).written

@[simp] theorem Piece.name?_literal (character : Char) : (literal character).name? = none := rfl

@[simp] theorem Piece.name?_placeholder (name : List Char) :
    (placeholder name).name? = if name = [] then none else some name := rfl

@[simp] theorem Piece.filled_literal (values : List (List Char × List Char)) (character : Char) :
    (literal character).filled values = [character] := rfl

theorem Piece.filled_placeholder (values : List (List Char × List Char)) (name : List Char) :
    (placeholder name).filled values =
      (values.lookup name).getD (placeholder name).written := by
  cases given : values.lookup name <;> simp [filled, given]

/-- Literal pieces have no name. -/
theorem filterMap_literal (text : List Char) :
    (text.map Piece.literal).filterMap Piece.name? = [] := by
  simp

/-- Literal pieces stay what they are. -/
theorem flatMap_literal (values : List (List Char × List Char)) (text : List Char) :
    (text.map Piece.literal).flatMap (Piece.filled values) = text := by
  simp [List.flatMap_map]

/-- **The names that the first scan gathers are those of the placeholders.** -/
theorem namesFrom_eq (held : Option (List Char)) (text : List Char) :
    namesFrom held text = (split held text).filterMap Piece.name? := by
  induction held, text using split.induct with
  | case1 => rfl
  | case2 held => simp [namesFrom, split, unclosed]
  | case3 rest ih => simp [namesFrom, split, ih]
  | case4 character rest other ih => simp [namesFrom, split, other, ih, List.filterMap_cons]
  | case5 held rest ih =>
      rw [namesFrom, if_pos rfl, split, if_pos rfl, ih, unclosed, List.filterMap_append,
        List.filterMap_cons_none (Piece.name?_literal _), filterMap_literal, List.nil_append]
  | case6 held rest _ ih =>
      by_cases unnamed : held = [] <;> simp [namesFrom, split, unnamed, ih]
  | case7 held character rest opens closes ih => simp [namesFrom, split, opens, closes, ih]

/-- **The second scan writes the pieces**, the placeholders filled in. -/
theorem fillFrom_eq (values : List (List Char × List Char)) (held : Option (List Char))
    (text : List Char) :
    fillFrom values held text = (split held text).flatMap (Piece.filled values) := by
  induction held, text using split.induct with
  | case1 => rfl
  | case2 held =>
      rw [fillFrom, split, unclosed, List.flatMap_cons, flatMap_literal, Piece.filled_literal,
        List.singleton_append]
  | case3 rest ih => simp [fillFrom, split, ih]
  | case4 character rest other ih => simp [fillFrom, split, other, ih]
  | case5 held rest ih =>
      rw [fillFrom, if_pos rfl, split, if_pos rfl, ih, unclosed, List.flatMap_append,
        List.flatMap_cons, flatMap_literal, Piece.filled_literal, List.singleton_append,
        List.cons_append]
  | case6 held rest _ ih =>
      simp [fillFrom, split, ih, Piece.filled_placeholder, Piece.written]
  | case7 held character rest opens closes ih => simp [fillFrom, split, opens, closes, ih]

/-- The names of a template, from its pieces. -/
theorem names_eq (template : String) :
    names template =
      ((pieces template.toList).filterMap Piece.name?).map String.ofList := by
  rw [names, namesFrom_eq, pieces]

/-- A template that is filled in, from its pieces. -/
theorem fillChars_eq (template : List Char) (values : List (List Char × List Char)) :
    fillChars template values = (pieces template).flatMap (Piece.filled values) :=
  fillFrom_eq values none template

/-! ## The pieces of a template -/

/-- What is held back, as the template writes it. -/
def heldText : Option (List Char) → List Char
  | none => []
  | some held => '{' :: held.reverse

/-- Literal pieces are written as they are. -/
theorem written_unclosed (name : List Char) :
    (unclosed name).flatMap Piece.written = '{' :: name := by
  induction name with
  | nil => rfl
  | cons character rest ih => simp_all [unclosed, Piece.written]

theorem written_split (held : Option (List Char)) (text : List Char) :
    (split held text).flatMap Piece.written = heldText held ++ text := by
  induction held, text using split.induct with
  | case1 => rfl
  | case2 held => simp [split, heldText, written_unclosed]
  | case3 rest ih => simp [split, ih, heldText]
  | case4 character rest other ih => simp [split, other, ih, heldText, Piece.written]
  | case5 held rest ih => simp [split, ih, heldText, written_unclosed]
  | case6 held rest _ ih => simp [split, ih, heldText, Piece.written]
  | case7 held character rest opens closes ih => simp [split, opens, closes, ih, heldText]

/-- **Splitting loses nothing.** -/
theorem written_pieces (template : List Char) :
    (pieces template).flatMap Piece.written = template :=
  written_split none template

theorem placeholder_notMem_unclosed {name held : List Char} :
    Piece.placeholder name ∉ unclosed held := by
  simp [unclosed]

/-- What is held back has no braces, so the names that come of it have none. -/
theorem braceFree_of_mem_split {name : List Char} {held : Option (List Char)} {text : List Char}
    (plain : BraceFree (held.getD [])) (member : .placeholder name ∈ split held text) :
    BraceFree name := by
  induction held, text using split.induct with
  | case1 => simp [split] at member
  | case2 held => exact absurd member placeholder_notMem_unclosed
  | case3 rest ih => exact ih plain (by simpa [split] using member)
  | case4 character rest other ih => exact ih plain (by simpa [split, other] using member)
  | case5 held rest ih =>
      rw [split, if_pos rfl, List.mem_append] at member
      exact ih braceFree_nil (member.resolve_left placeholder_notMem_unclosed)
  | case6 held rest _ ih =>
      rw [split, if_neg (by decide), if_pos rfl, List.mem_cons, Piece.placeholder.injEq] at member
      rcases member with rfl | later
      · simpa [BraceFree] using plain
      · exact ih braceFree_nil later
  | case7 held character rest opens closes ih =>
      rw [split, if_neg opens, if_neg closes] at member
      exact ih (by simpa [BraceFree, Ne.symm opens, Ne.symm closes] using plain) member

/-- A text without braces is held back as a whole, and a closing brace makes it a name. -/
theorem split_braceFree {name : List Char} (plain : BraceFree name) (held rest : List Char) :
    split (some held) (name ++ '}' :: rest) =
      .placeholder (held.reverse ++ name) :: split none rest := by
  induction name generalizing held with
  | nil => simp [split]
  | cons character name ih =>
      simp only [BraceFree, List.mem_cons, not_or] at plain
      obtain ⟨⟨opens, plainOpen⟩, closes, plainClose⟩ := plain
      rw [List.cons_append, split, if_neg (Ne.symm opens), if_neg (Ne.symm closes),
        ih ⟨plainOpen, plainClose⟩]
      simp

/-- Whatever comes before, a text without braces between two braces is a name. -/
theorem placeholder_mem_split {name : List Char} (plain : BraceFree name)
    (held : Option (List Char)) (before after : List Char) :
    .placeholder name ∈ split held (before ++ '{' :: (name ++ '}' :: after)) := by
  have opened : .placeholder name ∈ split (some []) (name ++ '}' :: after) := by
    simp [split_braceFree plain]
  induction held, before using split.induct with
  | case1 => simpa [split] using opened
  | case2 held => simpa [split] using .inr opened
  | case3 rest ih => simpa [split] using ih
  | case4 character rest other ih => simpa [split, other] using ih
  | case5 held rest ih => simpa [split] using .inr ih
  | case6 held rest _ ih => simpa [split] using .inr ih
  | case7 held character rest opens closes ih => simpa [split, opens, closes] using ih

/-- **The placeholders of a template are the texts without braces between two braces.** -/
theorem placeholder_mem_pieces {template name : List Char} :
    .placeholder name ∈ pieces template ↔
      BraceFree name ∧ ∃ before after, template = before ++ '{' :: (name ++ '}' :: after) := by
  constructor
  · intro member
    have plain : BraceFree ((none : Option (List Char)).getD []) := braceFree_nil
    refine ⟨braceFree_of_mem_split plain member, ?_⟩
    obtain ⟨before, after, pieces⟩ := List.append_of_mem member
    have written := written_pieces template
    rw [pieces] at written
    exact ⟨before.flatMap Piece.written, after.flatMap Piece.written,
      by simpa [Piece.written] using written.symm⟩
  · rintro ⟨plain, before, after, rfl⟩
    exact placeholder_mem_split plain none before after

theorem Piece.name?_eq_some {piece : Piece} {name : List Char} :
    piece.name? = some name ↔ piece = .placeholder name ∧ name ≠ [] := by
  cases piece with
  | literal character => simp [name?]
  | placeholder own =>
      by_cases unnamed : own = [] <;> simp [name?, unnamed]
      rintro rfl
      exact unnamed

/-- The names of a template are the names of its placeholders that have one. -/
theorem mem_names {template name : String} :
    name ∈ names template ↔ name ≠ "" ∧ .placeholder name.toList ∈ pieces template.toList := by
  constructor
  · rw [names_eq]
    intro member
    obtain ⟨characters, found, rfl⟩ := List.mem_map.mp member
    obtain ⟨piece, there, named⟩ := List.mem_filterMap.mp found
    obtain ⟨rfl, nonempty⟩ := Piece.name?_eq_some.mp named
    exact ⟨by simpa using nonempty, by simpa using there⟩
  · rintro ⟨nonempty, there⟩
    have named : (Piece.placeholder name.toList).name? = some name.toList :=
      Piece.name?_eq_some.mpr ⟨rfl, by simpa using nonempty⟩
    rw [names_eq]
    exact List.mem_map.mpr ⟨name.toList, List.mem_filterMap.mpr ⟨_, there, named⟩, by simp⟩

/-! ## Filling in -/

/-- Every placeholder that has a name is given a text without braces, and no text is given for the
empty name. -/
structure FillsPlainly (values : List (List Char × List Char)) (template : List Char) : Prop where
  named : ∀ name, name ≠ [] → .placeholder name ∈ pieces template →
    ∃ value, values.lookup name = some value ∧ BraceFree value
  unnamed : values.lookup [] = none

/-- Pieces of a template that stand between two braces which are literal pieces. -/
def Encloses (template : List Char) (inner : List Piece) : Prop :=
  ∃ before after, pieces template = before ++ .literal '{' :: (inner ++ .literal '}' :: after)

/-- A piece is a literal, or it is filled in without braces, or it is an empty pair of braces. -/
theorem FillsPlainly.piece_cases {values : List (List Char × List Char)} {template : List Char}
    (fills : FillsPlainly values template) {piece : Piece} (member : piece ∈ pieces template) :
    (∃ character, piece = .literal character) ∨ BraceFree (piece.filled values) ∨
      piece.filled values = ['{', '}'] := by
  cases piece with
  | literal character => exact .inl ⟨character, rfl⟩
  | placeholder name =>
      by_cases unnamed : name = []
      · subst unnamed
        exact .inr (.inr (by simp [Piece.filled, fills.unnamed, Piece.written]))
      · obtain ⟨value, given, plain⟩ := fills.named name unnamed member
        exact .inr (.inl (by simpa [Piece.filled, given] using plain))

/-- A piece with an opening brace is that brace, or an empty pair of braces. -/
theorem FillsPlainly.of_opening {values : List (List Char × List Char)} {template : List Char}
    (fills : FillsPlainly values template) {piece : Piece} (member : piece ∈ pieces template)
    {before after : List Char} (opens : piece.filled values = before ++ '{' :: after) :
    (piece = .literal '{' ∧ after = []) ∨ after = ['}'] := by
  obtain ⟨character, rfl⟩ | plain | empty := fills.piece_cases member
  · obtain ⟨rfl, same⟩ | ⟨-, nothing⟩ := List.singleton_eq_append_iff.mp opens
    · obtain ⟨rfl, rfl⟩ := List.cons_eq_cons.mp same
      exact .inl ⟨rfl, rfl⟩
    · cases nothing
  · exact absurd (by simp [opens]) plain.1
  · obtain ⟨-, same⟩ | ⟨tail, -, rest⟩ := List.cons_eq_append_iff.mp (empty.symm.trans opens)
    · exact .inr (List.cons_eq_cons.mp same).2
    · simp [List.singleton_eq_append_iff] at rest

/-- A piece with a closing brace is that brace, or an empty pair of braces. -/
theorem FillsPlainly.of_closing {values : List (List Char × List Char)} {template : List Char}
    (fills : FillsPlainly values template) {piece : Piece} (member : piece ∈ pieces template)
    {before after : List Char} (closes : piece.filled values = before ++ '}' :: after) :
    (piece = .literal '}' ∧ before = []) ∨ before = ['{'] := by
  obtain ⟨character, rfl⟩ | plain | empty := fills.piece_cases member
  · obtain ⟨rfl, same⟩ | ⟨-, nothing⟩ := List.singleton_eq_append_iff.mp closes
    · obtain ⟨rfl, rfl⟩ := List.cons_eq_cons.mp same
      exact .inl ⟨rfl, rfl⟩
    · cases nothing
  · exact absurd (by simp [closes]) plain.2
  · obtain ⟨-, same⟩ | ⟨tail, rfl, rest⟩ := List.cons_eq_append_iff.mp (empty.symm.trans closes)
    · simp at same
    · obtain ⟨rfl, -⟩ | ⟨-, nothing⟩ := List.singleton_eq_append_iff.mp rest
      · exact .inr rfl
      · cases nothing

/-- A mark in a text that is put together of parts is in one of the parts. -/
theorem flatMap_eq_append_cons {α β : Type} {part : α → List β} {items : List α}
    {before after : List β} {mark : β} (same : items.flatMap part = before ++ mark :: after) :
    ∃ earlier item later partBefore partAfter, items = earlier ++ item :: later ∧
      part item = partBefore ++ mark :: partAfter ∧
      before = earlier.flatMap part ++ partBefore ∧ after = partAfter ++ later.flatMap part := by
  induction items generalizing before with
  | nil => simp at same
  | cons first rest ih =>
      rw [List.flatMap_cons, List.append_eq_append_iff] at same
      obtain ⟨missing, rfl, ahead⟩ | ⟨missing, inside, behind⟩ := same
      · obtain ⟨earlier, item, later, partBefore, partAfter, rfl, parted, rfl, rfl⟩ := ih ahead
        exact ⟨first :: earlier, item, later, partBefore, partAfter, rfl, parted, by simp, rfl⟩
      · cases missing with
        | nil =>
            have ahead : rest.flatMap part = [] ++ mark :: after := behind.symm
            obtain ⟨earlier, item, later, partBefore, partAfter, rfl, parted, nothing, rfl⟩ :=
              ih ahead
            refine ⟨first :: earlier, item, later, partBefore, partAfter, rfl, parted, ?_, rfl⟩
            rw [List.flatMap_cons, inside, List.append_assoc, ← nothing, List.append_nil,
              List.append_nil]
        | cons mark missing =>
            obtain ⟨rfl, rfl⟩ := List.cons_eq_cons.mp behind
            exact ⟨[], first, rest, before, missing, rfl, inside, by simp, rfl⟩

/-- **What is filled in without braces leaves the names that literal braces make.** -/
theorem placeholder_mem_fillChars {values : List (List Char × List Char)}
    {template name : List Char} (fills : FillsPlainly values template) (named : name ≠ []) :
    .placeholder name ∈ pieces (fillChars template values) ↔
      BraceFree name ∧
        ∃ inner, Encloses template inner ∧ inner.flatMap (Piece.filled values) = name := by
  rw [placeholder_mem_pieces, and_congr_right_iff, fillChars_eq]
  rintro ⟨unopened, unclosed⟩
  constructor
  · rintro ⟨textBefore, textAfter, text⟩
    -- The brace before the name is in some piece, and this piece is a literal.
    obtain ⟨before, opening, behind, beforeOpen, afterOpen, split, opens, -, rest⟩ :=
      flatMap_eq_append_cons text
    have opening_mem : opening ∈ pieces template := by simp [split]
    obtain ⟨rfl, rfl⟩ | rfl := fills.of_opening opening_mem opens
    · -- So is the brace after the name; the pieces between them make the name.
      obtain ⟨inner, closing, after, beforeClose, afterClose, rfl, closes, name, -⟩ :=
        flatMap_eq_append_cons rest.symm
      have closing_mem : closing ∈ pieces template := by simp [split]
      obtain ⟨rfl, rfl⟩ | rfl := fills.of_closing closing_mem closes
      · exact ⟨inner, ⟨before, after, split⟩, by rw [name, List.append_nil]⟩
      · exact absurd (by simp [name]) unopened
    · cases name with
      | nil => exact absurd rfl named
      | cons character name =>
          obtain ⟨rfl, -⟩ := List.cons_eq_cons.mp rest
          exact absurd List.mem_cons_self unclosed
  · rintro ⟨inner, ⟨before, after, split⟩, rfl⟩
    exact ⟨before.flatMap (Piece.filled values), after.flatMap (Piece.filled values), by
      simp [split]⟩

/-! ## Filling in strings -/

/-- Names and values as characters. -/
def characters (values : List (String × String)) : List (List Char × List Char) :=
  values.map fun (name, value) => (name.toList, value.toList)

/-- The text that pieces of a template become. -/
def filledText (values : List (String × String)) (inner : List Piece) : String :=
  String.ofList (inner.flatMap (Piece.filled (characters values)))

theorem lookup_characters (values : List (String × String)) (name : String) :
    (characters values).lookup name.toList = (values.lookup name).map String.toList := by
  induction values with
  | nil => rfl
  | cons entry rest ih =>
      obtain ⟨given, value⟩ := entry
      simp only [characters, List.map_cons, List.lookup_cons] at ih ⊢
      by_cases same : name = given
      · simp [same]
      · have differs : name.toList ≠ given.toList := fun chars => same (String.toList_inj.mp chars)
        simp [beq_eq_false_iff_ne.mpr same, beq_eq_false_iff_ne.mpr differs, ih]

/-- It is enough to look at the names of the template. -/
theorem fillsPlainly_of_names {template : String} {values : List (String × String)}
    (named : ∀ name ∈ names template,
      ∃ value, values.lookup name = some value ∧ BraceFree value.toList)
    (unnamed : values.lookup "" = none) :
    FillsPlainly (characters values) template.toList where
  named name nonempty member := by
    have isName : String.ofList name ∈ names template :=
      mem_names.mpr ⟨by simpa using nonempty, by simpa using member⟩
    obtain ⟨value, given, plain⟩ := named _ isName
    have found := lookup_characters values (String.ofList name)
    rw [String.toList_ofList, given] at found
    exact ⟨value.toList, found, plain⟩
  unnamed := by
    have found := lookup_characters values ""
    rwa [unnamed] at found

/-- The names of a text that is filled in stand between literal braces of the template. -/
theorem mem_names_fill {template name : String} {values : List (String × String)}
    (fills : FillsPlainly (characters values) template.toList) :
    name ∈ names (fill template values) ↔
      name ≠ "" ∧ BraceFree name.toList ∧
        ∃ inner, Encloses template.toList inner ∧ filledText values inner = name := by
  have chars : (fill template values).toList = fillChars template.toList (characters values) :=
    String.toList_ofList
  have spelled (text : List Char) : text = name.toList ↔ String.ofList text = name :=
    ⟨fun same => by rw [same, String.ofList_toList],
      fun same => by rw [← same, String.toList_ofList]⟩
  rw [mem_names, chars, and_congr_right_iff]
  intro nonempty
  rw [placeholder_mem_fillChars fills (by simpa using nonempty)]
  simp only [filledText, spelled]

/-- Without a literal opening brace nothing stands between literal braces. -/
theorem not_encloses {template : List Char} (absent : .literal '{' ∉ pieces template)
    (inner : List Piece) : ¬ Encloses template inner := by
  rintro ⟨before, after, split⟩
  exact absent (by simp [split])

end Template

end ServiceCatalog
