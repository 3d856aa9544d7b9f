import Mathlib.Data.Set.Insert
import ServiceCatalog.Association
import ServiceCatalog.Files.Tree
import ServiceCatalog.Proofs.Files.Path
import ServiceCatalog.Proofs.Success

/-!
# File trees that grow

Making directories, writing files and moving them changes a tree in few places.  A tree grows
outside of some places if every directory stays a directory, and what is at any other place stays
as it is (`FileTree.Grows`).

Segments that lead to a directory lead to the same directory after the tree has grown
(`Grows.leads`), so a file can be read as before unless its own place was touched (`Grows.read`).

Making directories changes even less: nothing is lost, and all that is new are directories
(`FileTree.AddsDirectories`), so the files are the same (`AddsDirectories.sameFiles`).
-/

namespace ServiceCatalog.FileTree

set_option autoImplicit false

variable {tree middle after : FileTree} {place start directory : Place} {node : FileNode}

/-! ## Places -/

theorem node?_set (named : place ≠ []) (node : FileNode) (tree : FileTree) (other : Place) :
    (tree.set place node).node? other = if other = place then some node else tree.node? other := by
  cases other with
  | nil => rw [if_neg named.symm]; rfl
  | cons name names => exact lookup_assign place (name :: names) node tree.nodes

theorem node?_clear (named : place ≠ []) (tree : FileTree) (other : Place) :
    (tree.clear place).node? other = if other = place then none else tree.node? other := by
  cases other with
  | nil => rw [if_neg named.symm]; rfl
  | cons name names => exact lookup_unassign place (name :: names) tree.nodes

theorem isDirectoryAt_iff : tree.isDirectoryAt place = true ↔ tree.node? place = some .directory :=
  beq_iff_eq

/-! ## Walking -/

/-- Where a segment leads, if it leads anywhere. -/
def step (start : Place) (segment : List Char) : Place :=
  if Path.isIdle segment then start
  else if segment = "..".toList then start.dropLast
  else start ++ [String.ofList segment]

/-- A segment is a name that a file system takes. -/
structure IsName (segment : List Char) : Prop where
  notIdle : Path.isIdle segment = false
  notUp : segment ≠ "..".toList
  notLong : isTooLong segment = false

theorem step_name {segment : List Char} (named : IsName segment) (start : Place) :
    step start segment = start ++ [String.ofList segment] := by
  rw [step, if_neg (Bool.eq_false_iff.mp named.notIdle), if_neg named.notUp]

/-- A segment can be passed: where it is a name, something has that name. -/
def Passes (tree : FileTree) (start : Place) (segment : List Char) : Prop :=
  Path.isIdle segment = true ∨ segment = "..".toList ∨
    isTooLong segment = false ∧ (tree.node? (step start segment)).isSome = true

/-- **What one segment of a walk needs, and where it leads.** -/
theorem walk_cons_eq_ok {segment : List Char} {rest : List (List Char)} :
    tree.walk start (segment :: rest) = .ok place ↔
      tree.isDirectoryAt start = true ∧ tree.Passes start segment ∧
        tree.walk (step start segment) rest = .ok place := by
  rw [walk, Passes, step]
  cases tree.isDirectoryAt start with
  | false => simp
  | true =>
      by_cases idle : Path.isIdle segment = true
      · simp [idle]
      · by_cases up : segment = "..".toList
        · simp only [idle, if_pos up, if_false, Bool.not_true, Bool.false_eq_true]
          simp [up]
        · simp only [idle, up, if_false, Bool.not_true, Bool.false_eq_true]
          cases isTooLong segment <;>
            cases (tree.node? (start ++ [String.ofList segment])).isSome <;> simp

/-- A walk goes on where it was. -/
theorem walk_append (front rest : List (List Char)) (start : Place) :
    tree.walk start (front ++ rest) =
      tree.walk start front >>= fun place => tree.walk place rest := by
  induction front generalizing start with
  | nil => rfl
  | cons segment front ih =>
      simp only [List.cons_append, walk, ih]
      split_ifs <;> rfl

/-- A walk that leads to a directory starts from one. -/
theorem isDirectoryAt_of_walk {segments : List (List Char)}
    (walked : tree.walk start segments = .ok place) (ends : tree.isDirectoryAt place = true) :
    tree.isDirectoryAt start = true := by
  cases segments with
  | nil =>
      cases walked
      exact ends
  | cons segment rest => exact (walk_cons_eq_ok.mp walked).1

/-- Segments lead from the working directory to a directory. -/
structure Leads (tree : FileTree) (segments : List (List Char)) (directory : Place) : Prop where
  walk : tree.walk [] segments = .ok directory
  ends : tree.isDirectoryAt directory = true

theorem Leads.unique {segments : List (List Char)} {other : Place}
    (here : tree.Leads segments directory) (there : tree.Leads segments other) :
    directory = other :=
  Except.ok.inj (here.walk.symm.trans there.walk)

/-! ## Growing -/

/-- A tree grows outside of some places. -/
structure Grows (touched : Set Place) (tree after : FileTree) : Prop where
  directories : ∀ place, tree.isDirectoryAt place = true → after.isDirectoryAt place = true
  kept : ∀ place ∉ touched, ∀ node, tree.node? place = some node → after.node? place = some node

namespace Grows

variable {touched others : Set Place}

theorem refl (touched : Set Place) (tree : FileTree) : Grows touched tree tree :=
  ⟨fun _ there => there, fun _ _ _ there => there⟩

theorem mono (grows : Grows touched tree after) (within : touched ⊆ others) :
    Grows others tree after :=
  ⟨grows.directories, fun place untouched => grows.kept place fun member =>
    untouched (within member)⟩

theorem trans (first : Grows touched tree middle) (second : Grows touched middle after) :
    Grows touched tree after :=
  ⟨fun place there => second.directories place (first.directories place there),
    fun place untouched node there =>
      second.kept place untouched node (first.kept place untouched node there)⟩

/-- Segments that lead to a directory still do. -/
theorem walk (grows : Grows touched tree after) {segments : List (List Char)}
    (walked : tree.walk start segments = .ok place) (ends : tree.isDirectoryAt place = true) :
    after.walk start segments = .ok place := by
  induction segments generalizing start with
  | nil => exact walked
  | cons segment rest ih =>
      obtain ⟨starts, passes, further⟩ := walk_cons_eq_ok.mp walked
      -- The walk goes on to a directory, so the segment leads to one, which stays.
      have next := grows.directories _ (isDirectoryAt_of_walk further ends)
      refine walk_cons_eq_ok.mpr ⟨grows.directories _ starts, ?_, ih further⟩
      rcases passes with idle | up | ⟨short, -⟩
      · exact .inl idle
      · exact .inr (.inl up)
      · exact .inr (.inr ⟨short, by rw [isDirectoryAt_iff.mp next]; rfl⟩)

theorem leads (grows : Grows touched tree after) {segments : List (List Char)}
    (leads : tree.Leads segments directory) : after.Leads segments directory :=
  ⟨grows.walk leads.walk leads.ends, grows.directories _ leads.ends⟩

/-- A change at one place, where no directory is. -/
theorem of_node? (free : tree.isDirectoryAt place = false)
    (same : ∀ other, other ≠ place → after.node? other = tree.node? other) :
    Grows {place} tree after := by
  constructor
  · intro other there
    have elsewhere : other ≠ place := by
      rintro rfl
      exact absurd (free.symm.trans there) (by decide)
    rw [isDirectoryAt_iff, same other elsewhere]
    exact isDirectoryAt_iff.mp there
  · intro other untouched node there
    rw [same other untouched, there]

theorem set (named : place ≠ []) (free : tree.isDirectoryAt place = false) (node : FileNode) :
    Grows {place} tree (tree.set place node) :=
  of_node? free fun other elsewhere => by rw [node?_set named, if_neg elsewhere]

theorem clear (named : place ≠ []) (free : tree.isDirectoryAt place = false) :
    Grows {place} tree (tree.clear place) :=
  of_node? free fun other elsewhere => by rw [node?_clear named, if_neg elsewhere]

/-- Moving a file to where no directory is. -/
theorem move {old new : Place} {content : List UInt8} (fromNamed : old ≠ []) (toNamed : new ≠ [])
    (held : tree.node? old = some (.file content)) (free : tree.isDirectoryAt new = false) :
    Grows {old, new} tree ((tree.clear old).set new (.file content)) := by
  have plain : tree.isDirectoryAt old = false := by
    rw [isDirectoryAt, held]
    rfl
  have still : (tree.clear old).isDirectoryAt new = false := by
    rw [isDirectoryAt, node?_clear fromNamed]
    split_ifs
    · rfl
    · exact free
  have cleared : Grows {old, new} tree (tree.clear old) := (clear fromNamed plain).mono (by simp)
  exact cleared.trans ((set toNamed still _).mono (by simp))

end Grows

/-! ## Files -/

/-- The content of the file at a place. -/
def fileAt? (tree : FileTree) (place : Place) : Option (List UInt8) :=
  match tree.node? place with
  | some (.file content) => some content
  | _ => none

/-- Two trees have the same files with the same contents. -/
def SameFiles (tree after : FileTree) : Prop :=
  ∀ place, after.fileAt? place = tree.fileAt? place

theorem fileAt?_set (named : place ≠ []) (content : List UInt8) (tree : FileTree) (other : Place) :
    (tree.set place (.file content)).fileAt? other =
      if other = place then some content else tree.fileAt? other := by
  simp only [fileAt?, node?_set named]
  by_cases same : other = place
  · simp [same]
  · simp [same]

/-- All that is new in a tree are directories. -/
structure AddsDirectories (tree after : FileTree) : Prop where
  kept : ∀ place node, tree.node? place = some node → after.node? place = some node
  added : ∀ place, tree.node? place = none →
    after.node? place = none ∨ after.node? place = some .directory

namespace AddsDirectories

theorem refl (tree : FileTree) : AddsDirectories tree tree :=
  ⟨fun _ _ there => there, fun _ free => .inl free⟩

theorem trans (first : AddsDirectories tree middle) (second : AddsDirectories middle after) :
    AddsDirectories tree after := by
  constructor
  · intro place node there
    exact second.kept place node (first.kept place node there)
  · intro place free
    rcases first.added place free with still | made
    · exact second.added place still
    · exact .inr (second.kept place _ made)

/-- A directory is put where nothing is. -/
theorem setNew (named : place ≠ []) (free : tree.node? place = none) :
    AddsDirectories tree (tree.set place .directory) := by
  constructor
  · intro other node there
    rw [node?_set named, if_neg, there]
    rintro rfl
    cases free.symm.trans there
  · intro other freeOther
    rw [node?_set named]
    split_ifs
    · exact .inr rfl
    · exact .inl freeOther

theorem grows (adds : AddsDirectories tree after) (touched : Set Place) :
    Grows touched tree after := by
  constructor
  · intro place there
    rw [isDirectoryAt_iff] at there ⊢
    exact adds.kept place _ there
  · intro place _ node there
    exact adds.kept place node there

/-- **Where only directories are new, the files are the same.** -/
theorem sameFiles (adds : AddsDirectories tree after) : SameFiles tree after := by
  intro place
  rw [fileAt?, fileAt?]
  cases there : tree.node? place with
  | some node => rw [adds.kept place node there]
  | none => rcases adds.added place there with none | made <;> simp [*]

end AddsDirectories

/-! ## Operations -/

section Operations

variable {path : String} {front : List (List Char)} {segment : List Char} {content : List UInt8}

/-- A name is looked up in the directory that the segments before it lead to. -/
theorem walk_name_eq_ok (named : IsName segment) :
    tree.walk [] (front ++ [segment]) = .ok place ↔
      ∃ directory, tree.Leads front directory ∧ place = directory ++ [String.ofList segment] ∧
        (tree.node? place).isSome = true := by
  rw [walk_append, bind_eq_ok]
  constructor
  · rintro ⟨directory, walked, last⟩
    obtain ⟨ends, passes, same⟩ := walk_cons_eq_ok.mp last
    rw [step_name named] at same
    obtain rfl := Except.ok.inj same
    refine ⟨directory, ⟨walked, ends⟩, rfl, ?_⟩
    rcases passes with idle | up | ⟨-, there⟩
    · exact absurd idle (Bool.eq_false_iff.mp named.notIdle)
    · exact absurd up named.notUp
    · rwa [step_name named] at there
  · rintro ⟨directory, leads, rfl, there⟩
    refine ⟨directory, leads.walk, walk_cons_eq_ok.mpr ⟨leads.ends, ?_, ?_⟩⟩
    · exact .inr (.inr ⟨named.notLong, by rwa [step_name named]⟩)
    · rw [step_name named]
      rfl

theorem segmentsOf_eq_ok {segments : List (List Char)} (split : segmentsOf path = .ok segments) :
    segments = Path.segments path := by
  unfold segmentsOf at split
  split_ifs at split
  exact (Except.ok.inj split).symm

/-- **What reading a file needs.** -/
theorem read_eq_ok (cut : segmentsOf path = .ok (front ++ [segment])) (named : IsName segment) :
    tree.read path = .ok content ↔ ∃ directory, tree.Leads front directory ∧
      tree.node? (directory ++ [String.ofList segment]) = some (.file content) := by
  simp only [read, locate, cut, bind_eq_ok, Except.ok.injEq, exists_eq_left', walk_name_eq_ok named]
  constructor
  · rintro ⟨place, ⟨directory, leads, rfl, -⟩, there⟩
    refine ⟨directory, leads, ?_⟩
    split at there
    · next held =>
        cases there
        exact held
    · cases there
    · cases there
  · rintro ⟨directory, leads, there⟩
    refine ⟨_, ⟨directory, leads, rfl, by rw [there]; rfl⟩, ?_⟩
    rw [there]
    rfl

theorem isName_iff : IsName segment ↔
    (Path.isIdle segment || segment == "..".toList) = false ∧ isTooLong segment = false := by
  rw [Bool.or_eq_false_iff, beq_eq_false_iff_ne]
  exact ⟨fun named => ⟨⟨named.notIdle, named.notUp⟩, named.notLong⟩,
    fun ⟨⟨notIdle, notUp⟩, notLong⟩ => ⟨notIdle, notUp, notLong⟩⟩

/-- A new name stands in the directory that the segments before it lead to. -/
theorem locateNew_eq_ok {name : String} :
    tree.locateNew (front ++ [segment]) = .ok (directory, some name) ↔
      tree.Leads front directory ∧ IsName segment ∧ name = String.ofList segment := by
  simp only [locateNew, List.dropLast_concat, List.getLast?_concat, bind_eq_ok, isName_iff]
  constructor
  · rintro ⟨place, walked, found⟩
    cases here : tree.isDirectoryAt place with
    | false =>
        rw [here] at found
        cases found
    | true =>
        rw [here, if_neg (by decide)] at found
        split at found
        · cases found
        · next named =>
            split at found
            · cases found
            · next short =>
                cases found
                exact ⟨⟨walked, here⟩,
                  ⟨Bool.eq_false_iff.mpr named, Bool.eq_false_iff.mpr short⟩, rfl⟩
  · rintro ⟨leads, ⟨named, short⟩, rfl⟩
    refine ⟨directory, leads.walk, ?_⟩
    rw [leads.ends, named, short]
    rfl

/-- **What writing a file does.** -/
theorem of_write (cut : Path.segments path = front ++ [segment])
    (done : tree.write path content = .ok after) :
    segmentsOf path = .ok (front ++ [segment]) ∧ IsName segment ∧
      ∃ directory, tree.Leads front directory ∧
        tree.isDirectoryAt (directory ++ [String.ofList segment]) = false ∧
        after = tree.set (directory ++ [String.ofList segment]) (.file content) := by
  simp only [write, bind_eq_ok] at done
  obtain ⟨segments, split, ⟨directory, found⟩, located, done⟩ := done
  obtain rfl := (segmentsOf_eq_ok split).trans cut
  cases found with
  | none => cases done
  | some name =>
      obtain ⟨leads, named, rfl⟩ := locateNew_eq_ok.mp located
      dsimp only at done
      split at done
      · cases done
      · next free =>
          cases done
          exact ⟨split, named, directory, leads, Bool.eq_false_iff.mpr free, rfl⟩

/-- **What moving a file does.** -/
theorem of_rename {source : String} (cut : Path.segments path = front ++ [segment])
    (done : tree.rename source path = .ok after) :
    segmentsOf path = .ok (front ++ [segment]) ∧ IsName segment ∧
      ∃ old content directory, tree.locate source = .ok old ∧
        tree.node? old = some (.file content) ∧ tree.Leads front directory ∧
        tree.isDirectoryAt (directory ++ [String.ofList segment]) = false ∧
        after = if directory ++ [String.ofList segment] = old then tree
          else (tree.clear old).set (directory ++ [String.ofList segment]) (.file content) := by
  simp only [rename, bind_eq_ok] at done
  obtain ⟨old, located, segments, split, ⟨directory, found⟩, locatedNew, done⟩ := done
  obtain rfl := (segmentsOf_eq_ok split).trans cut
  split at done
  · next content directory name held same =>
      cases same
      split at done
      · cases done
      · next whole =>
          -- Nothing was dropped from the target, so its last segment is the name.
          rw [(Text.isPrefix_dropEndWhile _).eq_of_length_le (Nat.le_of_not_lt whole)] at locatedNew
          obtain ⟨leads, named, rfl⟩ := locateNew_eq_ok.mp locatedNew
          refine ⟨split, named, old, content, directory, located, held, leads, ?_⟩
          split at done
          · cases done
          · next free =>
              refine ⟨Bool.eq_false_iff.mpr free, ?_⟩
              split_ifs at done ⊢ <;> cases done <;> rfl
  · cases done
  · cases done

/-- A directory is made where nothing was. -/
theorem of_makeDirectory (made : tree.makeDirectory path = .ok after) :
    ∃ place, place ≠ [] ∧ tree.node? place = none ∧ after = tree.set place .directory := by
  simp only [makeDirectory, bind_eq_ok] at made
  obtain ⟨segments, -, ⟨directory, found⟩, -, done⟩ := made
  cases found with
  | none => cases done
  | some name =>
      dsimp only at done
      split at done
      · cases done
      · next free =>
          cases done
          exact ⟨directory ++ [name], by simp, Option.not_isSome_iff_eq_none.mp free, rfl⟩

/-! ## Writing beside and moving -/

/-- The places with one of some names. -/
def named (names : Set String) : Set Place :=
  {place | ∃ name ∈ names, place.getLast? = some name}

theorem mem_named {names : Set String} {name : String} :
    directory ++ [name] ∈ named names ↔ name ∈ names := by
  simp [named]

theorem singleton_subset_named {names : Set String} {name : String} (member : name ∈ names) :
    {directory ++ [name]} ⊆ named names :=
  Set.singleton_subset_iff.mpr (mem_named.mpr member)

/-- A file is read as before unless something of its name was touched. -/
theorem Grows.read {names : Set String} (grows : Grows (named names) tree after)
    (cut : segmentsOf path = .ok (front ++ [segment])) (isName : IsName segment)
    (other : String.ofList segment ∉ names) (held : tree.read path = .ok content) :
    after.read path = .ok content := by
  obtain ⟨directory, leads, there⟩ := (read_eq_ok cut isName).mp held
  exact (read_eq_ok cut isName).mpr ⟨directory, grows.leads leads,
    grows.kept _ (mt mem_named.mp other) _ there⟩

/-- **A file that is written under another name in its directory and then moved is there**, and
nothing of other names was touched. -/
theorem written_beside {beside : String} {temporary : List Char} {written : FileTree}
    (cut : Path.segments path = front ++ [segment])
    (cutBeside : Path.segments beside = front ++ [temporary])
    (wrote : tree.write beside content = .ok written)
    (moved : written.rename beside path = .ok after) :
    segmentsOf path = .ok (front ++ [segment]) ∧ IsName segment ∧
      after.read path = .ok content ∧
      Grows (named {String.ofList segment, String.ofList temporary}) tree after := by
  obtain ⟨splitBeside, isTemporary, directory, leads, free, rfl⟩ := of_write cutBeside wrote
  obtain ⟨split, isName, old, held, _, located, there, leadsNew, freeNew, rfl⟩ := of_rename cut moved
  have filled : directory ++ [String.ofList temporary] ≠ [] := by simp
  have wroteGrows := Grows.set filled free (.file content)
  -- The directory of both names is the same, and so the file that is moved is the one written.
  obtain rfl := (wroteGrows.leads leads).unique leadsNew
  rw [locate, splitBeside] at located
  obtain ⟨_, leadsOld, rfl, -⟩ := (walk_name_eq_ok isTemporary).mp located
  obtain rfl := leadsNew.unique leadsOld
  rw [node?_set filled, if_pos rfl] at there
  cases there
  have wroteNamed : Grows (named {String.ofList segment, String.ofList temporary}) tree _ :=
    wroteGrows.mono (singleton_subset_named (by simp))
  refine ⟨split, isName, ?_⟩
  rw [read_eq_ok split isName]
  split_ifs with same
  · refine ⟨⟨directory, leadsNew, ?_⟩, wroteNamed⟩
    rw [same, node?_set filled, if_pos rfl]
  · have target : directory ++ [String.ofList segment] ≠ [] := by simp
    have moves := Grows.move filled target (by rw [node?_set filled, if_pos rfl]) freeNew
    refine ⟨⟨directory, moves.leads leadsNew, ?_⟩, wroteNamed.trans (moves.mono ?_)⟩
    · rw [node?_set target, if_pos rfl]
    · exact Set.pair_subset (mem_named.mpr (by simp)) (mem_named.mpr (by simp))

end Operations

end ServiceCatalog.FileTree
