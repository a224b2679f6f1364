import Mathlib.Data.List.Basic
import Mathlib.Data.List.Infix

/-!
# Trees of files

A path is the list of the names on the way from the root.  Whatever exists stands in a
directory, and every directory knows the names in it, in the order in which they are read.
-/

namespace Skplat

/-- What stands at a path. -/
inductive Node (File : Type)
  | directory
  | file (file : File)
  deriving DecidableEq, Repr

/-- Files and directories, and the directory in which a program works. -/
structure FileTree (Name File : Type) where
  node : List Name → Option (Node File)
  names : List Name → List Name
  cwd : List Name
  root_isDirectory : node [] = some .directory
  cwd_isDirectory : node cwd = some .directory
  isDirectory_of_entry : ∀ dir name, node (dir ++ [name]) ≠ none → node dir = some .directory
  mem_names_iff : ∀ dir name, name ∈ names dir ↔ node (dir ++ [name]) ≠ none
  nodup_names : ∀ dir, (names dir).Nodup

namespace FileTree

variable {Name File : Type} {tree after : FileTree Name File} {path other : List Name}
variable {places : List (List Name)}

/-! ## What stands above a path -/

/-- Above whatever exists there are directories. -/
theorem isDirectory_of_prefix
    (above : other <+: path) (different : other ≠ path) (occurs : tree.node path ≠ none) :
    tree.node other = some .directory := by
  obtain ⟨rest, rfl⟩ := above
  induction rest using List.reverseRecOn with
  | nil => exact absurd (List.append_nil other).symm different
  | append_singleton rest name inductionHypothesis =>
      rw [← List.append_assoc] at occurs
      have parent := tree.isDirectory_of_entry _ _ occurs
      by_cases here : rest = []
      · rwa [here, List.append_nil] at parent
      · exact inductionHypothesis (by simpa using here) (by rw [parent]; exact nofun)

/-- A directory stands below directories. -/
theorem isDirectory_above
    (isDirectory : tree.node path = some .directory) (above : other <+: path) :
    tree.node other = some .directory := by
  by_cases same : other = path
  · rw [same, isDirectory]
  · exact isDirectory_of_prefix above same (by rw [isDirectory]; exact nofun)

/-- What exists at some places are directories. -/
def IsClear (tree : FileTree Name File) (places : List (List Name)) : Prop :=
  ∀ place ∈ places, tree.node place = none ∨ tree.node place = some .directory

/-- The missing directories among some places were made, and nothing else was changed. -/
structure Completes (tree after : FileTree Name File) (places : List (List Name)) : Prop where
  cwd : after.cwd = tree.cwd
  isDirectory : ∀ place ∈ places, ∀ other, other <+: place →
    after.node other = some .directory
  unchanged : ∀ other, other ∉ places → after.node other = tree.node other

/-- Nothing is missing where all are directories. -/
theorem completes_self
    (areDirectories : ∀ place ∈ places, tree.node place = some .directory) :
    tree.Completes tree places where
  cwd := rfl
  isDirectory place isPlace _ above := isDirectory_above (areDirectories place isPlace) above
  unchanged _ _ := rfl

/-- One more place at which a directory stands. -/
theorem Completes.append_directory
    (completes : tree.Completes after places)
    (isDirectory : after.node path = some .directory) :
    tree.Completes after (places ++ [path]) where
  cwd := completes.cwd
  isDirectory place isPlace other above := by
    rcases List.mem_append.mp isPlace with before | last
    · exact completes.isDirectory place before other above
    · rw [List.mem_singleton] at last
      exact isDirectory_above (last ▸ isDirectory) above
  unchanged other apart :=
    completes.unchanged other fun isPlace => apart (List.mem_append_left _ isPlace)

/-! ## Entries -/

variable [DecidableEq Name]

/-- The names in a directory after an entry was made or removed. -/
def namesAfter (names : List Name) (name : Name) (entry : Option (Node File)) : List Name :=
  match entry with
  | none => names.filter (· ≠ name)
  | some _ => if name ∈ names then names else names ++ [name]

theorem mem_namesAfter_iff {names : List Name} {name below : Name}
    {entry : Option (Node File)} :
    below ∈ namesAfter names name entry ↔
      if below = name then entry ≠ none else below ∈ names := by
  cases entry with
  | none =>
      rw [namesAfter, List.mem_filter]
      split
      · rename_i same
        simp [same]
      · rename_i different
        simp [different]
  | some node =>
      rw [namesAfter]
      by_cases present : name ∈ names
      · rw [if_pos present]
        split
        · rename_i same
          simp [same, present]
        · rfl
      · rw [if_neg present, List.mem_append, List.mem_singleton]
        split
        · rename_i same
          simp [same]
        · rename_i different
          exact or_iff_left different

theorem nodup_namesAfter {names : List Name} (nodup : names.Nodup) (name : Name)
    (entry : Option (Node File)) : (namesAfter names name entry).Nodup := by
  cases entry with
  | none => exact nodup.filter _
  | some node =>
      rw [namesAfter]
      split
      · exact nodup
      · rename_i absent
        refine List.nodup_append.mpr ⟨nodup, List.pairwise_singleton _ name, ?_⟩
        intro first isFirst second isSecond same
        rw [List.mem_singleton.mp isSecond] at same
        exact absent (same ▸ isFirst)

/-- An entry that is not a directory is made, replaced or removed. -/
def put (tree : FileTree Name File) (dir : List Name) (name : Name)
    (entry : Option (Node File)) (inDirectory : tree.node dir = some .directory)
    (notDirectory : tree.node (dir ++ [name]) ≠ some .directory) : FileTree Name File where
  node other := if other = dir ++ [name] then entry else tree.node other
  names other :=
    if other = dir then namesAfter (tree.names dir) name entry else tree.names other
  cwd := tree.cwd
  root_isDirectory := by
    rw [if_neg (by simp), tree.root_isDirectory]
  cwd_isDirectory := by
    have different : tree.cwd ≠ dir ++ [name] := fun same =>
      notDirectory (same ▸ tree.cwd_isDirectory)
    rw [if_neg different, tree.cwd_isDirectory]
  isDirectory_of_entry other below occurs := by
    have isDirectory : tree.node other = some .directory := by
      by_cases here : other ++ [below] = dir ++ [name]
      · rw [List.append_inj_left' here rfl, inDirectory]
      · rw [if_neg here] at occurs
        exact tree.isDirectory_of_entry other below occurs
    have different : other ≠ dir ++ [name] := fun same => notDirectory (same ▸ isDirectory)
    rw [if_neg different, isDirectory]
  mem_names_iff other below := by
    by_cases here : other = dir
    · subst here
      simp only [if_pos, mem_namesAfter_iff, List.append_cancel_left_eq,
        List.singleton_inj, tree.mem_names_iff]
      split
      · rfl
      · rfl
    · have different : other ++ [below] ≠ dir ++ [name] := fun same =>
        here (List.append_inj_left' same rfl)
      rw [if_neg here, if_neg different, tree.mem_names_iff]
  nodup_names other := by
    split
    · exact nodup_namesAfter (tree.nodup_names dir) name entry
    · exact tree.nodup_names other

variable [DecidableEq File]

/-- `mkdir`: a directory is made if nothing stands at its path and its parent exists. -/
def mkdir (tree : FileTree Name File) (path : List Name) : Option (FileTree Name File) :=
  if nonempty : path ≠ [] then
    if possible : tree.node path.dropLast = some .directory ∧ tree.node path = none then
      some (tree.put path.dropLast (path.getLast nonempty) (some .directory) possible.1
        (by rw [List.dropLast_append_getLast nonempty, possible.2]; exact nofun))
    else none
  else none

/-- A file is made, replaced or removed, unless a directory stands there. -/
def setFile (tree : FileTree Name File) (path : List Name) (file : Option File) :
    Option (FileTree Name File) :=
  if nonempty : path ≠ [] then
    if possible : tree.node path.dropLast = some .directory ∧
        tree.node path ≠ some .directory then
      some (tree.put path.dropLast (path.getLast nonempty) (file.map .file) possible.1
        (by rw [List.dropLast_append_getLast nonempty]; exact possible.2))
    else none
  else none

theorem isSome_mkdir_iff :
    (tree.mkdir path).isSome ↔
      tree.node path.dropLast = some .directory ∧ tree.node path = none := by
  rw [mkdir]
  split
  · split
    · rename_i possible
      exact iff_of_true rfl possible
    · rename_i impossible
      exact iff_of_false nofun impossible
  · rename_i empty
    refine iff_of_false nofun fun possible => ?_
    rw [not_not.mp empty, tree.root_isDirectory] at possible
    cases possible.2

/-- A directory is not made again. -/
theorem mkdir_of_directory (isDirectory : tree.node path = some .directory) :
    tree.mkdir path = none := by
  rw [← Option.not_isSome_iff_eq_none, isSome_mkdir_iff, isDirectory]
  exact fun possible => nomatch possible.2

/-- What stands where after a directory was made. -/
theorem node_of_mkdir (made : tree.mkdir path = some after) :
    after.cwd = tree.cwd ∧
      ∀ other, after.node other = if other = path then some .directory else tree.node other := by
  rw [mkdir] at made
  split at made
  · rename_i nonempty
    split at made
    · cases made
      refine ⟨rfl, fun other => ?_⟩
      rw [put]
      dsimp only
      simp only [List.dropLast_append_getLast nonempty]
    · cases made
  · cases made

/-- A directory is made after the others. -/
theorem Completes.mkdir
    {parents : FileTree Name File}
    (completes : tree.Completes parents places)
    (parent : parents.node path.dropLast = some .directory)
    (missing : parents.node path = none) :
    ∃ after, parents.mkdir path = some after ∧ tree.Completes after (places ++ [path]) := by
  obtain ⟨after, made⟩ := Option.isSome_iff_exists.mp (isSome_mkdir_iff.mpr ⟨parent, missing⟩)
  obtain ⟨cwd, node⟩ := node_of_mkdir made
  refine ⟨after, made, cwd.trans completes.cwd, fun place isPlace other above => ?_,
    fun other apart => ?_⟩
  · have atPlace : after.node place = some .directory := by
      rw [node]
      split
      · rfl
      · rename_i different
        rcases List.mem_append.mp isPlace with before | last
        · exact completes.isDirectory place before place (List.prefix_refl _)
        · exact absurd (List.mem_singleton.mp last) different
    exact isDirectory_above atPlace above
  · have different : other ≠ path := by
      rintro rfl
      exact apart (List.mem_append_right _ (List.mem_singleton_self _))
    rw [node, if_neg different]
    exact completes.unchanged other fun before => apart (List.mem_append_left _ before)

end FileTree
end Skplat
