import ServiceCatalog.Proofs.Files.Path
import ServiceCatalog.Proofs.Files.Tree

/-!
# Programs on file trees

A program that runs on a file tree answers with a result and leaves a tree.  Making directories
only adds directories to the tree (`OnTree.addsDirectories_makeParent`), and writing a file as a
whole goes on by writing it beside its place and moving it (`runOn_writeWhole`).  So a file that was
written as a whole can be read, whatever the tree was, and nothing was touched but what has its name
or the name under which it was written first (`of_writeWhole`).
-/

namespace ServiceCatalog

set_option autoImplicit false

namespace OnTree

variable {ε α β : Type}

/-! ## Running programs -/

/-- What a program answers with on a tree, and the tree that it leaves. -/
def runOn (program : OnTree α) (tree : FileTree) : α × FileTree := program tree

theorem runOn_bind (first : OnTree α) (next : α → OnTree β) (tree : FileTree) :
    runOn (first >>= next) tree = runOn (next (runOn first tree).1) (runOn first tree).2 := rfl

theorem runOn_write (path : String) (content : List UInt8) (tree : FileTree) :
    runOn (FileAccess.write path content) tree =
      match tree.write path content with
      | .ok after => (.ok (), after)
      | .error cause => (.error cause, tree) := rfl

theorem runOn_rename (source target : String) (tree : FileTree) :
    runOn (FileAccess.rename source target) tree =
      match tree.rename source target with
      | .ok after => (.ok (), after)
      | .error cause => (.error cause, tree) := rfl

/-- A program that may fail goes on only if it did not. -/
theorem runOn_bind_except (first : ExceptT ε OnTree α) (next : α → ExceptT ε OnTree β)
    (tree : FileTree) :
    runOn (first >>= next).run tree =
      match runOn first.run tree with
      | (.ok value, middle) => runOn (next value).run middle
      | (.error cause, middle) => (.error cause, middle) := by
  have steps : runOn (first >>= next).run tree =
      runOn (ExceptT.bindCont next (runOn first.run tree).1) (runOn first.run tree).2 := rfl
  rw [steps]
  rcases runOn first.run tree with ⟨_ | _, middle⟩ <;> rfl

theorem runOn_bind_eq_ok {first : ExceptT ε OnTree α} {next : α → ExceptT ε OnTree β}
    {tree after : FileTree} {result : β} :
    runOn (first >>= next).run tree = (.ok result, after) ↔
      ∃ value middle, runOn first.run tree = (.ok value, middle) ∧
        runOn (next value).run middle = (.ok result, after) := by
  rw [runOn_bind_except]
  rcases runOn first.run tree with ⟨_ | value, middle⟩
  · simp
  · simp

theorem runOn_mk_pure (result : Except ε α) (tree : FileTree) :
    runOn (ExceptT.mk (pure result) : ExceptT ε OnTree α).run tree = (result, tree) := rfl

theorem runOn_adapt {δ : Type} (change : ε → δ) (program : ExceptT ε OnTree α) (tree : FileTree) :
    runOn (program.adapt change).run tree =
      ((runOn program.run tree).1.mapError change, (runOn program.run tree).2) := rfl

/-! ## Programs that make directories -/

/-- A program only adds directories to trees. -/
def AddsDirectories (program : OnTree α) : Prop :=
  ∀ tree, FileTree.AddsDirectories tree (runOn program tree).2

theorem addsDirectories_pure (value : α) : AddsDirectories (pure value : OnTree α) :=
  fun tree => .refl tree

theorem AddsDirectories.bind {first : OnTree α} {next : α → OnTree β}
    (starts : first.AddsDirectories) (others : ∀ value, (next value).AddsDirectories) :
    (first >>= next).AddsDirectories :=
  fun tree => (starts tree).trans (others (runOn first tree).1 (runOn first tree).2)

theorem addsDirectories_isDirectory (path : String) :
    AddsDirectories (FileAccess.isDirectory path : OnTree Bool) :=
  fun tree => .refl tree

theorem addsDirectories_makeDirectory (path : String) :
    AddsDirectories (FileAccess.makeDirectory path : OnTree (Except FileError Unit)) := by
  intro tree
  show FileTree.AddsDirectories tree (change (FileTree.makeDirectory path) tree).2
  unfold change
  split
  · next made =>
      obtain ⟨place, named, free, rfl⟩ := FileTree.of_makeDirectory made
      exact .setNew named free
  · exact .refl tree

theorem addsDirectories_ensureDirectory (path : String) :
    AddsDirectories (ensureDirectory path : OnTree (Except FileError Unit)) := by
  refine (addsDirectories_makeDirectory path).bind fun made => ?_
  cases made with
  | ok => exact addsDirectories_pure _
  | error cause =>
      refine (addsDirectories_isDirectory path).bind fun there => ?_
      cases there <;> exact addsDirectories_pure _

theorem addsDirectories_makeDirectoriesFrom (depth : Nat) (path : String) :
    AddsDirectories (makeDirectoriesFrom depth path : OnTree (Except FileError Unit)) := by
  induction depth generalizing path with
  | zero => exact addsDirectories_ensureDirectory path
  | succ depth ih =>
      rw [makeDirectoriesFrom]
      split
      · exact addsDirectories_pure _
      · refine (addsDirectories_makeDirectory path).bind fun made => ?_
        split
        · exact addsDirectories_pure _
        · -- The directory above is missing.
          split
          · exact addsDirectories_pure _
          · refine (ih _).bind fun above => ?_
            split
            · exact addsDirectories_ensureDirectory path
            · exact addsDirectories_pure _
        · refine (addsDirectories_isDirectory path).bind fun there => ?_
          cases there <;> exact addsDirectories_pure _

theorem addsDirectories_makeParent (path : String) :
    AddsDirectories (makeParent path : OnTree (Except WriteFailure Unit)) := by
  rw [makeParent]
  split
  · exact addsDirectories_pure _
  · split
    · exact addsDirectories_pure _
    · exact (addsDirectories_makeDirectoriesFrom _ _).bind fun _ => addsDirectories_pure _

end OnTree

/-! ## Files that are written as a whole -/

section Writing

variable {path content : String} {tree after : FileTree}

/-- Writing a file as a whole is making its directory, writing it beside its place and moving it
there, as far as nothing fails. -/
theorem runOn_writeWhole (path content : String) (tree : FileTree) :
    OnTree.runOn (writeWhole path content) tree =
      match OnTree.runOn (makeParent path) tree with
      | (.error failure, middle) => (.error failure, middle)
      | (.ok (), middle) =>
          match middle.write (besidePath path) (Text.encode content.toList) with
          | .error cause => (.error ⟨besidePath path, cause⟩, middle)
          | .ok written =>
              match written.rename (besidePath path) path with
              | .error cause => (.error ⟨path, cause⟩, written)
              | .ok after => (.ok (), after) := by
  rw [writeWhole, OnTree.runOn_bind]
  obtain ⟨_ | ⟨⟩, middle⟩ := OnTree.runOn (makeParent path) tree
  · rfl
  dsimp only
  rw [OnTree.runOn_bind, OnTree.runOn_write]
  cases middle.write (besidePath path) (Text.encode content.toList) with
  | error cause => rfl
  | ok written =>
      dsimp only
      rw [OnTree.runOn_bind, OnTree.runOn_rename]
      cases written.rename (besidePath path) path <;> rfl

/-- Writing a file as a whole is writing it beside its place and moving it there. -/
theorem steps_of_writeWhole
    (done : OnTree.runOn (writeWhole path content) tree = (.ok (), after)) :
    ∃ middle written, FileTree.AddsDirectories tree middle ∧
      middle.write (besidePath path) (Text.encode content.toList) = .ok written ∧
      written.rename (besidePath path) path = .ok after := by
  have adds := OnTree.addsDirectories_makeParent path tree
  rw [runOn_writeWhole] at done
  generalize OnTree.runOn (makeParent path) tree = made at adds done
  obtain ⟨_ | ⟨⟩, middle⟩ := made
  · cases done
  dsimp only at done
  split at done
  · cases done
  · next written wrote =>
      split at done
      · cases done
      · next moved =>
          cases done
          exact ⟨middle, written, adds, wrote, moved⟩

/-- **A file that was written as a whole is there**, and nothing was touched but what has its name
or the name under which it was written first. -/
theorem of_writeWhole {front : List (List Char)} {name : List Char}
    (cut : Path.segments path = front ++ [name])
    (done : OnTree.runOn (writeWhole path content) tree = (.ok (), after)) :
    FileTree.segmentsOf path = .ok (front ++ [name]) ∧ FileTree.IsName name ∧
      after.read path = .ok (Text.encode content.toList) ∧
      FileTree.Grows (FileTree.named {String.ofList name, String.ofList (temporaryName name)})
        tree after := by
  obtain ⟨middle, written, adds, wrote, moved⟩ := steps_of_writeWhole done
  obtain ⟨split, isName, -⟩ := FileTree.of_rename cut moved
  obtain ⟨-, -, there, touched⟩ := FileTree.written_beside cut
    (segments_besidePath cut isName.notIdle isName.notUp) wrote moved
  exact ⟨split, isName, there, (adds.grows _).trans touched⟩

end Writing

end ServiceCatalog
