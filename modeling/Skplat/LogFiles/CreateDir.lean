import Mathlib.Data.List.DropRight
import Skplat.LogFiles.Defs

/-!
# Creating a directory with its parents

`create_dir` makes the parent first and then the directory.  The parent of a path is what
stands before its last slash, after one slash at the end was removed.  The path of a parent
is shorter, so the calls end.
-/

namespace Skplat
namespace LogFiles

open CString

/-- `get_parent`: what stands before the last slash, or nothing. -/
def getParent (dir : List UInt8) : List UInt8 :=
  (dir.rdropWhile fun byte => byte != 47).dropLast

/-- A path without one slash at its end. -/
def withoutLastSlash (dir : List UInt8) : List UInt8 :=
  if dir.getLast? = some 47 then dir.dropLast else dir

theorem length_getParent_lt {dir : List UInt8} (nonempty : dir ≠ []) :
    (getParent (withoutLastSlash dir)).length < dir.length := by
  have positive := List.length_pos_iff.mpr nonempty
  have shorter : (withoutLastSlash dir).length ≤ dir.length := by
    rw [withoutLastSlash]
    split
    · exact (List.dropLast_sublist dir).length_le
    · exact Nat.le_refl _
  have prefixes := (List.rdropWhile_prefix (fun byte => byte != 47)
    (withoutLastSlash dir)).length_le
  rw [getParent, List.length_dropLast]
  omega

/-- `create_dir`. -/
def createDir (disk : Disk) (dir : List UInt8) : Disk × Bool :=
  if _ : dir = [] then (disk, false)
  else
    let ret := checkDir disk dir
    if ret = 0 then (disk, true)
    else if ret < 0 then
      -- what is returned for the parent plays no part
      let (disk, _) := createDir disk (getParent (withoutLastSlash dir))
      match mkdir disk dir with
      | none => (disk, false)
      | some disk => (disk, true)
    else (disk, false)
termination_by dir.length
decreasing_by exact length_getParent_lt ‹dir ≠ []›

/-! ## Path strings -/

/-- A path string is a front that is empty or ends in a slash, a last name, which may be
empty, and perhaps a slash.  Its parent is the front without its slash. -/
theorem exists_parts (dir : List UInt8) :
    ∃ front name slash, dir = front ++ (name ++ slash) ∧
      getParent (withoutLastSlash dir) = front.dropLast ∧
      (∀ byte ∈ name, (byte == 47) = false) ∧ (slash = [] ∨ slash = [47]) ∧
      (front = [] ∨ ∃ parent, front = parent ++ [47]) := by
  have body : ∃ slash, dir = withoutLastSlash dir ++ slash ∧ (slash = [] ∨ slash = [47]) := by
    rw [withoutLastSlash]
    split
    · rename_i ends
      obtain ⟨body, rfl⟩ := List.getLast?_eq_some_iff.mp ends
      exact ⟨[47], by rw [List.dropLast_concat], Or.inr rfl⟩
    · exact ⟨[], (List.append_nil dir).symm, Or.inl rfl⟩
  obtain ⟨slash, joined, isSlash⟩ := body
  refine ⟨(withoutLastSlash dir).rdropWhile fun byte => byte != 47,
    (withoutLastSlash dir).rtakeWhile fun byte => byte != 47, slash, ?_, rfl, ?_, isSlash, ?_⟩
  · rw [← List.append_assoc, List.rdropWhile_append_rtakeWhile]
    exact joined
  · intro byte present
    simpa using List.mem_rtakeWhile_imp present
  · rcases List.eq_nil_or_concat' ((withoutLastSlash dir).rdropWhile fun byte => byte != 47)
      with none | ⟨parent, last, isFront⟩
    · exact Or.inl none
    · refine Or.inr ⟨parent, ?_⟩
      have stops := List.rdropWhile_last_not (fun byte => byte != 47) (withoutLastSlash dir)
        (by rw [isFront]; exact List.concat_ne_nil _ _)
      simp only [isFront, List.getLast_concat] at stops
      rw [isFront, show last = 47 by simpa using stops]

/-- The first zero stands in a text or behind it. -/
theorem cstr_append (front rest : List UInt8) :
    (0 ∈ front ∧ cstr (front ++ rest) = cstr front) ∨
      (cstr front = front ∧ cstr (front ++ rest) = front ++ cstr rest) := by
  by_cases present : 0 ∈ front
  · refine Or.inl ⟨present, ?_⟩
    rw [cstr, cstr, List.takeWhile_append, if_neg fun whole => ?_]
    have same : cstr front = front := List.takeWhile_eq_self_iff.mpr fun byte isByte => by
      have prefixes := List.takeWhile_prefix (p := fun byte : UInt8 => decide (byte ≠ 0))
        (l := front)
      have equal := prefixes.eq_of_length whole
      exact (List.takeWhile_eq_self_iff.mp equal) byte isByte
    exact cstr_eq_self_iff.mp same present
  · refine Or.inr ⟨cstr_eq_self_iff.mpr present, ?_⟩
    rw [cstr, List.takeWhile_append_of_pos, cstr]
    intro byte isByte
    exact decide_eq_true fun zero => present (zero ▸ isByte)

/-- A text without slashes, but perhaps one at its end, has at most one name. -/
theorem words_part
    {name slash : List UInt8} (isName : ∀ byte ∈ name, (byte == 47) = false)
    (isSlash : slash = [] ∨ slash = [47]) :
    words (fun byte => byte == 47) (cstr (name ++ slash)) = [] ∨
      ∃ last, words (fun byte => byte == 47) (cstr (name ++ slash)) = [last] := by
  have single : ∀ part : List UInt8, (∀ byte ∈ part, (byte == 47) = false) →
      words (fun byte => byte == 47) part = [] ∨
        ∃ last, words (fun byte => byte == 47) part = [last] := by
    intro part isPart
    by_cases empty : part = []
    · exact Or.inl (empty ▸ rfl)
    · exact Or.inr ⟨part, words_of_clear empty isPart⟩
  rcases cstr_append name slash with ⟨-, cut⟩ | ⟨-, whole⟩
  · rw [cut]
    exact single _ fun byte present =>
      isName byte ((List.takeWhile_prefix _).subset present)
  · rw [whole]
    obtain rfl | rfl := isSlash
    · rw [show cstr ([] : List UInt8) = [] from rfl, List.append_nil]
      exact single name isName
    · rw [show cstr ([47] : List UInt8) = [47] from rfl, words_append_cons _ _ rfl, words_nil,
        List.append_nil]
      exact single name isName

/-- The parent of a path string has the same names, or one name less. -/
theorem namesOf_getParent (dir : List UInt8) :
    namesOf dir = namesOf (getParent (withoutLastSlash dir)) ∨
      ∃ last, namesOf dir = namesOf (getParent (withoutLastSlash dir)) ++ [last] := by
  obtain ⟨front, name, slash, joined, isParent, isName, isSlash, isFront⟩ := exists_parts dir
  have part := words_part isName isSlash
  rw [isParent]
  obtain rfl | ⟨parent, rfl⟩ := isFront
  · rw [namesOf, joined]
    exact part
  · rw [List.append_assoc] at joined
    rw [List.dropLast_concat, namesOf, namesOf, joined]
    rcases cstr_append parent ([47] ++ (name ++ slash)) with ⟨-, cut⟩ | ⟨whole, goesOn⟩
    · exact Or.inl (congrArg _ cut)
    · have afterSlash : cstr ([47] ++ (name ++ slash)) = 47 :: cstr (name ++ slash) := rfl
      rw [goesOn, whole, afterSlash, words_append_cons _ _ rfl]
      rcases part with none | ⟨last, one⟩
      · exact Or.inl (by rw [none, List.append_nil])
      · exact Or.inr ⟨last, by rw [one]⟩

/-- A part in front of a path string begins where the path string begins. -/
theorem base_of_prefix
    (cwd : List (List UInt8)) {front text : List UInt8} (nonempty : front ≠ [])
    (above : front <+: text) :
    base cwd front = base cwd text := by
  obtain ⟨rest, rfl⟩ := above
  obtain ⟨first, more, rfl⟩ := List.exists_cons_of_ne_nil nonempty
  have heads : ∀ text : List UInt8,
      (cstr (first :: text)).head? = if first = 0 then none else some first := by
    intro text
    rw [cstr, List.takeWhile_cons]
    by_cases zero : first = 0
    · simp [zero]
    · simp [zero]
  rw [base, base, List.cons_append, heads, heads]

/-- A parent begins where its path string begins. -/
theorem base_getParent
    (cwd : List (List UInt8)) {dir : List UInt8}
    (nonempty : getParent (withoutLastSlash dir) ≠ []) :
    base cwd (getParent (withoutLastSlash dir)) = base cwd dir := by
  obtain ⟨front, name, slash, joined, isParent, -, -, -⟩ := exists_parts dir
  apply base_of_prefix cwd nonempty
  rw [isParent]
  exact (List.dropLast_prefix front).trans ⟨_, joined.symm⟩

/-! ## Ways -/

variable {disk after : Disk} {dir : List UInt8}
variable {place last : List (List UInt8)} {names : List (List UInt8)}

theorem wayOf_append_singleton (place : List (List UInt8)) (names : List (List UInt8))
    (name : List UInt8) :
    wayOf place (names ++ [name]) =
      wayOf place names ++ [enter (names.foldl enter place) name] := by
  induction names generalizing place with
  | nil => rfl
  | cons first names inductionHypothesis =>
      rw [List.cons_append, wayOf, inductionHypothesis, wayOf, List.foldl_cons,
        List.cons_append]

theorem mem_wayOf_last (place : List (List UInt8)) (names : List (List UInt8)) :
    names.foldl enter place ∈ wayOf place names := by
  induction names generalizing place with
  | nil => exact List.mem_singleton_self _
  | cons first names inductionHypothesis =>
      exact List.mem_cons_of_mem _ (inductionHypothesis (enter place first))

/-- A walk leads to the last place of its way, and all others are directories. -/
theorem walk_eq_some (walked : walk disk place names = some last) :
    last = names.foldl enter place ∧
      ∀ other ∈ wayOf place names, other = last ∨ disk.node other = some .directory := by
  induction names generalizing place with
  | nil =>
      cases walked
      exact ⟨rfl, fun other isOther => Or.inl (List.mem_singleton.mp isOther)⟩
  | cons name names inductionHypothesis =>
      rw [walk] at walked
      split at walked
      · rename_i isDirectory
        obtain ⟨isLast, onWay⟩ := inductionHypothesis walked
        refine ⟨isLast, fun other isOther => ?_⟩
        cases isOther with
        | head => exact Or.inr isDirectory
        | tail _ isOther => exact onWay other isOther
      · cases walked

/-- A walk along directories does not stop. -/
theorem walk_append_singleton
    (areDirectories : ∀ other ∈ wayOf place names, disk.node other = some .directory)
    (name : List UInt8) :
    walk disk place (names ++ [name]) = some (enter (names.foldl enter place) name) := by
  induction names generalizing place with
  | nil =>
      rw [List.nil_append, walk, if_pos (areDirectories place (List.mem_singleton_self _))]
      rfl
  | cons first names inductionHypothesis =>
      rw [List.cons_append, walk, if_pos (areDirectories place List.mem_cons_self)]
      exact inductionHypothesis fun other isOther =>
        areDirectories other (List.mem_cons_of_mem _ isOther)

/-- Where a path string leads does not depend on the disk. -/
theorem resolve_of_find (found : find disk dir = some place) :
    place = resolve disk.cwd dir ∧
      ∀ other ∈ trail disk.cwd dir, other = place ∨ disk.node other = some .directory := by
  rw [find] at found
  split at found
  · cases found
  · exact walk_eq_some found

theorem lookup_eq_directory (isDirectory : lookup disk dir = some .directory) :
    ∀ other ∈ trail disk.cwd dir, disk.node other = some .directory := by
  obtain ⟨place, found, atPlace⟩ := Option.bind_eq_some_iff.mp isDirectory
  intro other isOther
  rcases (resolve_of_find found).2 other isOther with rfl | here
  · exact atPlace
  · exact here

/-- Where a directory stands none is made. -/
theorem mkdir_of_directory
    (isDirectory : disk.node (resolve disk.cwd dir) = some .directory) :
    mkdir disk dir = none := by
  rw [mkdir, Option.bind_eq_none_iff]
  intro place found
  rw [(resolve_of_find found).1]
  exact FileTree.mkdir_of_directory isDirectory

/-! ## What is created -/

/-- Where a path string begins. -/
theorem isDirectory_base (disk : Disk) (dir : List UInt8) :
    disk.node (base disk.cwd dir) = some .directory := by
  rw [base]
  split
  · exact disk.root_isDirectory
  · exact disk.cwd_isDirectory

theorem createDir_of_directory
    (nonempty : dir ≠ []) (isDirectory : lookup disk dir = some .directory) :
    createDir disk dir = (disk, true) := by
  rw [createDir, dif_neg nonempty]
  dsimp only
  rw [if_pos (checkDir_eq_zero_iff.mpr isDirectory)]

/-- A path that is no directory is made after its parent. -/
theorem createDir_of_missing
    (nonempty : dir ≠ []) (missing : lookup disk dir ≠ some .directory) :
    createDir disk dir =
      match mkdir (createDir disk (getParent (withoutLastSlash dir))).1 dir with
      | none => ((createDir disk (getParent (withoutLastSlash dir))).1, false)
      | some after => (after, true) := by
  have negative : checkDir disk dir = -1 := by
    rw [checkDir]
    split
    · rename_i isDirectory
      exact absurd isDirectory missing
    · rfl
  rw [createDir, dif_neg nonempty]
  dsimp only
  rw [negative, if_neg (by decide), if_pos (by decide)]

/-- The way of the parent, from where the path string begins. -/
def parentWay (cwd : List (List UInt8)) (dir : List UInt8) : List (List (List UInt8)) :=
  wayOf (base cwd dir) (namesOf (getParent (withoutLastSlash dir)))

theorem trail_getParent
    (cwd : List (List UInt8)) (nonempty : getParent (withoutLastSlash dir) ≠ []) :
    trail cwd (getParent (withoutLastSlash dir)) = parentWay cwd dir := by
  rw [trail, base_getParent cwd nonempty, parentWay]

/-- A path string leads to the end of the way of its parent, or to one place more. -/
theorem trail_cases (cwd : List (List UInt8)) (dir : List UInt8) :
    (trail cwd dir = parentWay cwd dir ∧ resolve cwd dir ∈ parentWay cwd dir) ∨
    ∃ name, namesOf dir = namesOf (getParent (withoutLastSlash dir)) ++ [name] ∧
      resolve cwd dir =
        enter ((namesOf (getParent (withoutLastSlash dir))).foldl enter (base cwd dir)) name ∧
      trail cwd dir = parentWay cwd dir ++ [resolve cwd dir] := by
  rcases namesOf_getParent dir with same | ⟨name, more⟩
  · refine Or.inl ⟨by rw [trail, same, parentWay], ?_⟩
    rw [resolve, same]
    exact mem_wayOf_last _ _
  · have isResolve : resolve cwd dir =
        enter ((namesOf (getParent (withoutLastSlash dir))).foldl enter (base cwd dir)) name := by
      rw [resolve, more, List.foldl_append, List.foldl_cons, List.foldl_nil]
    refine Or.inr ⟨name, more, isResolve, ?_⟩
    rw [trail, more, wayOf_append_singleton, ← isResolve, parentWay]

theorem mem_parentWay_trail {other : List (List UInt8)} {cwd : List (List UInt8)}
    (onWay : other ∈ parentWay cwd dir) : other ∈ trail cwd dir := by
  rcases trail_cases cwd dir with ⟨same, -⟩ | ⟨name, -, -, more⟩
  · exact same ▸ onWay
  · exact more ▸ List.mem_append_left _ onWay

/-- Where nothing stands yet, a place is on the way of the parent as seen from the path string
exactly if it is on the trail of the parent. -/
theorem mem_trail_getParent_iff
    {other : List (List UInt8)} (missing : disk.node other = none) :
    other ∈ trail disk.cwd (getParent (withoutLastSlash dir)) ↔
      other ∈ parentWay disk.cwd dir := by
  by_cases empty : getParent (withoutLastSlash dir) = []
  · rw [parentWay, empty]
    refine iff_of_false ?_ ?_
    · rintro isOther
      rw [List.mem_singleton.mp isOther, isDirectory_base] at missing
      cases missing
    · intro isOther
      rw [List.mem_singleton.mp isOther, isDirectory_base] at missing
      cases missing
  · rw [trail_getParent disk.cwd empty]

/-- The name of a place at which nothing stands is no dot. -/
theorem dropLast_of_missing
    {name : List UInt8} (inDirectory : disk.node place = some .directory)
    (missing : disk.node (enter place name) = none) :
    (enter place name).dropLast = place := by
  rw [enter] at missing ⊢
  split at missing
  · rw [inDirectory] at missing
    cases missing
  · split at missing
    · rw [FileTree.isDirectory_above inDirectory (List.dropLast_prefix place)] at missing
      cases missing
    · rename_i notDot notDots
      rw [if_neg notDot, if_neg notDots, List.dropLast_concat]

/-- The result for a path: it was a directory, or nothing stood where it leads to, and that
place is not on the way of its parent. -/
def Succeeds (disk : Disk) (dir : List UInt8) : Prop :=
  lookup disk dir = some .directory ∨
    (disk.node (resolve disk.cwd dir) = none ∧
      resolve disk.cwd dir ∉ trail disk.cwd (getParent (withoutLastSlash dir)))

instance (disk : Disk) (dir : List UInt8) : Decidable (Succeeds disk dir) :=
  inferInstanceAs (Decidable (_ ∨ _ ∧ _))

/-- One call, after the directories on the way of the parent were made. -/
theorem createDir_of_parent
    (nonempty : dir ≠ []) (clear : disk.IsClear (trail disk.cwd dir))
    (completes : lookup disk dir ≠ some .directory →
      disk.Completes (createDir disk (getParent (withoutLastSlash dir))).1
        (parentWay disk.cwd dir)) :
    disk.Completes (createDir disk dir).1 (trail disk.cwd dir) ∧
      ((createDir disk dir).2 = true ↔ Succeeds disk dir) := by
  by_cases isDirectory : lookup disk dir = some .directory
  · rw [createDir_of_directory nonempty isDirectory]
    exact ⟨FileTree.completes_self (lookup_eq_directory isDirectory),
      iff_of_true rfl (Or.inl isDirectory)⟩
  · have parents := completes isDirectory
    have onWay : ∀ other ∈ parentWay disk.cwd dir,
        (createDir disk (getParent (withoutLastSlash dir))).1.node other = some .directory :=
      fun other isOther => parents.isDirectory other isOther other (List.prefix_refl _)
    rw [createDir_of_missing nonempty isDirectory, Succeeds, or_iff_right isDirectory]
    -- Where a directory stands by now, none is made.
    have refused : (createDir disk (getParent (withoutLastSlash dir))).1.node
        (resolve disk.cwd dir) = some .directory →
        mkdir (createDir disk (getParent (withoutLastSlash dir))).1 dir = none := by
      intro made
      rw [← parents.cwd] at made
      exact mkdir_of_directory made
    by_cases known : resolve disk.cwd dir ∈ parentWay disk.cwd dir
    · have atPlace := onWay _ known
      rw [refused atPlace]
      refine ⟨?_, iff_of_false nofun ?_⟩
      · rcases trail_cases disk.cwd dir with ⟨same, -⟩ | ⟨name, -, -, more⟩
        · exact same ▸ parents
        · exact more ▸ parents.append_directory atPlace
      · rintro ⟨missing, notOnTrail⟩
        exact notOnTrail ((mem_trail_getParent_iff missing).mpr known)
    · obtain ⟨name, isNames, isResolve, more⟩ :=
        (trail_cases disk.cwd dir).resolve_left fun both => known both.2
      have sameNode := parents.unchanged _ known
      rw [more]
      have onTrail : resolve disk.cwd dir ∈ trail disk.cwd dir := by
        rw [more]
        exact List.mem_append_right _ (List.mem_singleton_self _)
      rcases clear _ onTrail with missing | stands
      · rw [missing] at sameNode
        have inDirectory := onWay _
          (mem_wayOf_last (base disk.cwd dir) (namesOf (getParent (withoutLastSlash dir))))
        have dropped := dropLast_of_missing inDirectory (isResolve ▸ sameNode)
        rw [← isResolve] at dropped
        obtain ⟨after, made, all⟩ :=
          parents.mkdir (dropped.symm ▸ inDirectory) sameNode
        have found : find (createDir disk (getParent (withoutLastSlash dir))).1 dir =
            some (resolve disk.cwd dir) := by
          have visible : cstr dir ≠ [] := by
            intro empty
            rw [namesOf, empty] at isNames
            exact List.concat_ne_nil _ _ isNames.symm
          rw [find, if_neg visible, parents.cwd, isNames, isResolve]
          exact walk_append_singleton onWay name
        rw [mkdir, found, Option.bind_some, made]
        refine ⟨all, iff_of_true rfl ⟨missing, ?_⟩⟩
        rw [mem_trail_getParent_iff missing]
        exact known
      · rw [stands] at sameNode
        rw [refused sameNode]
        refine ⟨parents.append_directory sameNode, iff_of_false nofun ?_⟩
        rintro ⟨missing, -⟩
        cases stands.symm.trans missing

/-- For a path on the way of which nothing stands but directories, all directories on the way
are made and nothing else.  The result says so if and only if the path was a directory before,
or nothing stood where it leads to and its parent does not lead through that place. -/
theorem createDir_iff
    (nonempty : dir ≠ []) (clear : disk.IsClear (trail disk.cwd dir)) :
    disk.Completes (createDir disk dir).1 (trail disk.cwd dir) ∧
      ((createDir disk dir).2 = true ↔ Succeeds disk dir) := by
  induction length : dir.length using Nat.strongRecOn generalizing dir with
  | _ bound inductionHypothesis =>
    refine createDir_of_parent nonempty clear fun _ => ?_
    by_cases empty : getParent (withoutLastSlash dir) = []
    · rw [parentWay, empty, createDir, dif_pos rfl]
      refine FileTree.completes_self fun other isOther => ?_
      rw [List.mem_singleton.mp isOther]
      exact isDirectory_base disk dir
    · have parentClear : disk.IsClear
          (trail disk.cwd (getParent (withoutLastSlash dir))) := by
        rw [trail_getParent disk.cwd empty]
        exact fun other isOther => clear other (mem_parentWay_trail isOther)
      have shorter := length ▸ length_getParent_lt nonempty
      rw [← trail_getParent disk.cwd empty]
      exact (inductionHypothesis _ shorter empty parentClear rfl).1

/-- Both directories of `a/b` are made. -/
theorem createDir_two_levels :
    (createDir emptyDisk (ascii "a/b")).2 = true ∧
      (createDir emptyDisk (ascii "a/b")).1.node [ascii "a", ascii "b"] =
        some .directory := by
  have created := createDir_iff (by decide : ascii "a/b" ≠ []) (isClear_emptyDisk _)
  exact ⟨created.2.mpr (by decide),
    created.1.isDirectory [ascii "a", ascii "b"] (by decide) _ (List.prefix_refl _)⟩

/-- A path for which `a` is made, although its result is false. -/
theorem createDir_of_parent_a {dir : List UInt8}
    (again : dir ≠ [] ∧ getParent (withoutLastSlash dir) = ascii "a" ∧
      parentWay emptyDisk.cwd dir = trail emptyDisk.cwd (ascii "a") ∧
      ¬Succeeds emptyDisk dir ∧ [ascii "a"] ∈ trail emptyDisk.cwd dir) :
    emptyDisk.IsClear (trail emptyDisk.cwd dir) ∧ (createDir emptyDisk dir).2 = false ∧
      (createDir emptyDisk dir).1.node [ascii "a"] = some .directory := by
  obtain ⟨nonempty, isParent, sameWay, fails, onTrail⟩ := again
  have parent := (createDir_of_parent (by decide : ascii "a" ≠ []) (isClear_emptyDisk _)
    fun _ => by
      rw [show getParent (withoutLastSlash (ascii "a")) = [] by decide, createDir, dif_pos rfl]
      exact FileTree.completes_self (by decide)).1
  have created := createDir_of_parent nonempty (isClear_emptyDisk _) fun _ => by
    rw [isParent, sameWay]
    exact parent
  refine ⟨isClear_emptyDisk _, ?_, created.1.isDirectory _ onTrail _ (List.prefix_refl _)⟩
  exact Bool.not_eq_true _ ▸ fun isTrue => fails (created.2.mp isTrue)

/-- For `a//` and for `a/.` the directory is made and the result is false. -/
theorem createDir_two_slashes :
    (emptyDisk.IsClear (trail emptyDisk.cwd (ascii "a//")) ∧
      (createDir emptyDisk (ascii "a//")).2 = false ∧
      (createDir emptyDisk (ascii "a//")).1.node [ascii "a"] = some .directory) ∧
    emptyDisk.IsClear (trail emptyDisk.cwd (ascii "a/.")) ∧
      (createDir emptyDisk (ascii "a/.")).2 = false ∧
      (createDir emptyDisk (ascii "a/.")).1.node [ascii "a"] = some .directory :=
  ⟨createDir_of_parent_a (by decide), createDir_of_parent_a (by decide)⟩

end LogFiles
end Skplat
