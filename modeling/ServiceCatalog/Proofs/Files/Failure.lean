import ServiceCatalog.Proofs.Files.Access

/-!
# Files that cannot be written

Writing a file as a whole can fail at three steps: its directory cannot be made, its content cannot
be written beside its place, or it cannot be moved there.  Before the last step no file has changed.
But when the file cannot be moved, its content has been written beside its place, and stays there
(`failed_writes_leave_what_was_written_beside`).

A directory at the place of the file is enough for that (`failed_write_leaves_a_file`).
-/

namespace ServiceCatalog

set_option autoImplicit false

namespace FileTree

variable {tree after : FileTree} {path : String} {content : List UInt8}

/-- A path at which a file was written leads to that file. -/
theorem locate_of_write (wrote : tree.write path content = .ok after) :
    ∃ place, place ≠ [] ∧ after.locate path = .ok place ∧
      after = tree.set place (.file content) := by
  obtain ⟨front, segment, cut⟩ := Path.exists_segments path
  obtain ⟨split, named, directory, leads, free, rfl⟩ := of_write cut wrote
  have filled : directory ++ [String.ofList segment] ≠ [] := by simp
  refine ⟨_, filled, ?_, rfl⟩
  rw [locate, split]
  refine (walk_name_eq_ok named).mpr ⟨directory, (Grows.set filled free _).leads leads, rfl, ?_⟩
  rw [node?_set filled, if_pos rfl]
  rfl

/-- A file that was written can be moved to where it is. -/
theorem rename_self_of_write (wrote : tree.write path content = .ok after) :
    after.rename path path = .ok after := by
  obtain ⟨front, segment, cut⟩ := Path.exists_segments path
  obtain ⟨split, named, directory, leads, free, rfl⟩ := of_write cut wrote
  have filled : directory ++ [String.ofList segment] ≠ [] := by simp
  have leadsAfter := (Grows.set filled free (.file content)).leads leads
  have there : (tree.set (directory ++ [String.ofList segment]) (.file content)).node?
      (directory ++ [String.ofList segment]) = some (.file content) := by
    rw [node?_set filled, if_pos rfl]
  have full : segment.isEmpty = false := (Bool.or_eq_false_iff.mp named.notIdle).1
  have located := (walk_name_eq_ok named).mpr ⟨directory, leadsAfter, rfl, by rw [there]; rfl⟩
  have plain : (tree.set (directory ++ [String.ofList segment]) (.file content)).isDirectoryAt
      (directory ++ [String.ofList segment]) = false := by
    rw [isDirectoryAt, there]
    rfl
  simp only [rename, locate, split, bind, Except.bind, located, there,
    Text.dropEndWhile_concat full, locateNew_eq_ok.mpr ⟨leadsAfter, named, rfl⟩, plain,
    Nat.lt_irrefl, if_false, if_true]
  rfl

end FileTree

/-- A directory that cannot be made is another path than that of the file. -/
theorem path_ne_of_makeParent {path : String} {failure : WriteFailure} {tree after : FileTree}
    (failed : OnTree.runOn (makeParent path) tree = (.error failure, after)) :
    failure.path ≠ path := by
  rw [makeParent] at failed
  split at failed
  · cases failed
  · next parent above =>
      split at failed
      · cases failed
      · rw [OnTree.runOn_bind] at failed
        generalize OnTree.runOn (makeDirectories parent) tree = made at failed
        obtain ⟨_ | _, _⟩ := made
        · cases failed
          exact Path.parent?_ne above
        · cases failed

section Failing

variable {path content : String} {failure : WriteFailure} {tree after : FileTree}

/-- **A file that cannot be written leaves at most what was written beside its place.**

* When its directory cannot be made, or nothing can be written beside its place, all files are the
  same as before.
* When the file cannot be moved to its place, its content stands beside it, in place of what was
  there, and all other files are the same as before. -/
theorem failed_writes_leave_what_was_written_beside
    (failed : OnTree.runOn (writeWhole path content) tree = (.error failure, after)) :
    (failure.path ≠ path ∨ besidePath path = path → FileTree.SameFiles tree after) ∧
    (failure.path = path → besidePath path ≠ path →
      ∃ place, after.locate (besidePath path) = .ok place ∧
        ∀ other, after.fileAt? other =
          if other = place then some (Text.encode content.toList) else tree.fileAt? other) := by
  have adds := OnTree.addsDirectories_makeParent path tree
  rw [runOn_writeWhole] at failed
  generalize made : OnTree.runOn (makeParent path) tree = result at adds failed
  obtain ⟨cause | ⟨⟩, middle⟩ := result
  · -- The directory cannot be made.
    cases failed
    have elsewhere := path_ne_of_makeParent made
    exact ⟨fun _ => adds.sameFiles, fun same => absurd same elsewhere⟩
  dsimp only at failed
  split at failed
  · -- Nothing can be written beside the place.
    cases failed
    exact ⟨fun _ => adds.sameFiles, fun same differ => absurd same differ⟩
  · next written wrote =>
      split at failed
      · next cause unmoved =>
          cases failed
          have differ : besidePath path ≠ path := by
            intro same
            rw [same] at wrote unmoved
            cases (FileTree.rename_self_of_write wrote).symm.trans unmoved
          refine ⟨fun unlike => ?_, fun _ _ => ?_⟩
          · rcases unlike with elsewhere | same
            · exact absurd rfl elsewhere
            · exact absurd same differ
          · obtain ⟨place, named, located, rfl⟩ := FileTree.locate_of_write wrote
            refine ⟨place, located, fun other => ?_⟩
            rw [FileTree.fileAt?_set named, adds.sameFiles other]
      · cases failed

end Failing

/-- A tree with a file where the directory of sources should be. -/
def occupiedTree : FileTree := ⟨[(["src"], .file [0x61])]⟩

/-- A tree with a directory where the root file should be, and an old file beside it. -/
def blockedTree : FileTree :=
  ⟨[(["src"], .directory), (["src", "lib.rs"], .directory), (["src", "lib.tmp"], .file [0x61])]⟩

/-- Where the directory cannot be made, nothing changes.  Where the file cannot be moved, what was
beside it holds the new content. -/
theorem blocked_writes_leave_at_most_one_file :
    (∃ failure after, OnTree.runOn (writeWhole "src/lib.rs" "b") occupiedTree =
        (.error failure, after) ∧ failure.path = "src" ∧
        FileTree.SameFiles occupiedTree after) ∧
      ∃ failure after place, OnTree.runOn (writeWhole "src/lib.rs" "b") blockedTree =
        (.error failure, after) ∧ failure.path = "src/lib.rs" ∧
        after.locate "src/lib.tmp" = .ok place ∧
        ∀ other, after.fileAt? other =
          if other = place then some [0x62] else blockedTree.fileAt? other := by
  have unmade : OnTree.runOn (writeWhole "src/lib.rs" "b") occupiedTree =
      (.error ⟨"src", .alreadyExists⟩, occupiedTree) := rfl
  have unmoved : OnTree.runOn (writeWhole "src/lib.rs" "b") blockedTree =
      (.error ⟨"src/lib.rs", .isDirectory⟩, _) := rfl
  have unchanged := (failed_writes_leave_what_was_written_beside unmade).1 (.inl (by decide))
  obtain ⟨place, located, files⟩ :=
    (failed_writes_leave_what_was_written_beside unmoved).2 rfl (by decide +kernel)
  exact ⟨⟨_, _, unmade, rfl, unchanged⟩, _, _, place, unmoved, rfl, located, files⟩

/-- **A write that fails can leave a file behind.**  With a directory at the place of the file, the
write fails, and afterwards there is a file that was not there before. -/
theorem failed_write_leaves_a_file :
    ∃ tree failure after, OnTree.runOn (writeWhole "src/lib.rs" "b") tree =
        (.error failure, after) ∧
      tree.fileAt? ["src", "lib.tmp"] = none ∧ after.fileAt? ["src", "lib.tmp"] = some [0x62] ∧
      ¬ FileTree.SameFiles tree after := by
  refine ⟨⟨[(["src"], .directory), (["src", "lib.rs"], .directory)]⟩, _, _, rfl, rfl, rfl, ?_⟩
  intro same
  cases same ["src", "lib.tmp"]

end ServiceCatalog
