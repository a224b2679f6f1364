import Mathlib.Logic.Function.Basic
import Skplat.Data.FileBytes
import Skplat.RangeDownload.Partition

/-!
# Merging the part files

When all ranges are complete, `wait4Complete` copies every part file to the place of
its range in the merged file and deletes it.  The names of the part files are made in
a buffer of 1024 bytes, so long names are cut and can be the same.

The old merged file is deleted before the download begins.  Opening, reading and
writing regular files succeeds.
-/

namespace Skplat
namespace RangeManager

open FileBytes (pwrite)
open MachineInt (toInt32 toInt32_of_nonneg)

/-- A file name.  A character is one byte. -/
abbrev Path := List Char

/-- A number printed with `%ld`. -/
def number (value : Int) : Path :=
  if value < 0 then '-' :: Nat.toDigits 10 value.natAbs
  else Nat.toDigits 10 value.natAbs

/-- `getFilePathByRange()` with the buffer of `divdeContentLength`, whose `snprintf`
writes up to 1022 bytes and the terminator. -/
def partPath (path : Path) (range : Range) : Path :=
  (path ++ ['.', 'p', 'a', 'r', 't', '_'] ++ number range.begin ++
    '_' :: number range.last).take 1022

/-- The files while `wait4Complete` has the merged file open. -/
structure Disk where
  /-- The files with other names. -/
  files : Path → Option (List UInt8)
  /-- The content of the merged file. -/
  merged : List UInt8
  /-- The merged file still has its name. -/
  linked : Bool

namespace Disk

/-- Look a file up by its name. -/
def find (path : Path) (disk : Disk) (name : Path) : Option (List UInt8) :=
  if name = path then if disk.linked then some disk.merged else none
  else disk.files name

/-- `FileUtils::deleteFiles()` of a regular file. -/
def deleteFiles (path : Path) (disk : Disk) (name : Path) : Disk :=
  if name = path then { disk with linked := false }
  else { disk with files := Function.update disk.files name none }

end Disk

/-- The loop that copies a part file through `tmpBuff`.  Every round reads at least
one byte, so as many rounds as there are bytes are enough. -/
def copyLoop : (rounds pos : Nat) → (unread merged : List UInt8) → List UInt8
  | 0, _, _, merged => merged
  | rounds + 1, pos, unread, merged =>
      let tmpBuff := unread.take 1024
      if tmpBuff.isEmpty then merged
      else
        copyLoop rounds (pos + tmpBuff.length) (unread.drop 1024)
          (pwrite 0 merged pos tmpBuff)

/-- The body of the merge loop for a downloader with this part file and range
number.  Nothing is read from a file that does not exist.  Where the part file is the
merged file itself, it is copied onto itself. -/
def mergePart
    (path : Path) (ranges : List Range) (disk : Disk)
    (thread : Path × Nat) : Disk :=
  match ranges[thread.2]? with
  | none => disk
  | some range =>
      let content := (disk.find path thread.1).getD []
      { disk with
        merged := copyLoop content.length (toInt32 range.begin).toNat content
          disk.merged }.deleteFiles path thread.1

/-- `wait4Complete()` once all ranges are complete: the files that it leaves.  The
merged file is created unless it exists. -/
def wait4Complete
    (path : Path) (content : Nat)
    (files : Path → Option (List UInt8)) : Path → Option (List UInt8) :=
  let ranges := divdeContentLength content
  ((ranges.map fun range => (partPath path range, range.idx)).foldl
    (mergePart path ranges)
    { files := files, merged := (files path).getD [], linked := true }).find path

/-! ## What the merge is for -/

/-- The bytes of a range. -/
def slice (resource : List UInt8) (range : Range) : List UInt8 :=
  (resource.drop range.begin.toNat).take (range.last - range.begin + 1).toNat

/-- Each part file holds exactly the bytes of its range.  The merged file is not
there, unless a part file has its name. -/
structure PartsComplete
    (resource : List UInt8) (path : Path)
    (files : Path → Option (List UInt8)) : Prop where
  parts : ∀ range ∈ divdeContentLength resource.length,
    files (partPath path range) = some (slice resource range)
  removed : files path = none ∨
    ∃ range ∈ divdeContentLength resource.length, partPath path range = path

/-- The merge of complete part files is the resource. -/
def Merges (path : Path) (content : Nat) : Prop :=
  ∀ (resource : List UInt8) (files : Path → Option (List UInt8)),
    resource.length = content → PartsComplete resource path files →
    wait4Complete path content files path = some resource

/-- No range with bytes shares its part file with an earlier one, and no part file has
the name of the merged file. -/
def PartsApart (path : Path) (content : Nat) : Prop :=
  ((divdeContentLength content).Pairwise fun earlier later =>
    partPath path earlier = partPath path later → later.total = 0) ∧
  ∀ range ∈ divdeContentLength content, partPath path range ≠ path

instance (path : Path) (content : Nat) : Decidable (PartsApart path content) :=
  inferInstanceAs (Decidable (_ ∧ _))

/-- Two ranges of different lengths share a part file, which cannot hold the bytes of
both. -/
def PartsContradict (path : Path) (content : Nat) : Prop :=
  ∃ range ∈ divdeContentLength content, ∃ other ∈ divdeContentLength content,
    partPath path range = partPath path other ∧ range.total ≠ other.total

/-! ## Steps of the merge -/

/-- Copying through the buffer writes the whole file. -/
theorem copyLoop_eq
    {rounds : Nat} {unread : List UInt8} (enough : unread.length ≤ rounds)
    (pos : Nat) (merged : List UInt8) :
    copyLoop rounds pos unread merged = pwrite 0 merged pos unread := by
  induction rounds generalizing pos unread merged with
  | zero =>
      obtain rfl : unread = [] := List.eq_nil_of_length_eq_zero (by omega)
      rfl
  | succ rounds inductionHypothesis =>
      rw [copyLoop]
      split
      · rename_i empty
        have nothing : unread = [] := by
          cases unread with
          | nil => rfl
          | cons byte rest => simp at empty
        rw [nothing, FileBytes.pwrite_nil]
      · rename_i nonempty
        have positive : 0 < (unread.take 1024).length :=
          List.length_pos_of_ne_nil (by simpa using nonempty)
        rw [List.length_take] at positive
        rw [inductionHypothesis (by rw [List.length_drop]; omega),
          FileBytes.pwrite_append, List.take_append_drop]

/-- The ranges have their numbers and positions that an `int` holds, and their part
files are not the merged file. -/
def Regular (path : Path) (ranges rest : List Range) : Prop :=
  ∀ range ∈ rest, ranges[range.idx]? = some range ∧
    toInt32 range.begin = range.begin ∧ partPath path range ≠ path

/-- The merge step of a range. -/
def mergeRange (path : Path) (disk : Disk) (range : Range) : Disk where
  files := Function.update disk.files (partPath path range) none
  merged := pwrite 0 disk.merged range.begin.toNat
    ((disk.files (partPath path range)).getD [])
  linked := disk.linked

/-- Only the part file of the range is removed. -/
theorem files_mergeRange (path : Path) (disk : Disk) (range : Range) (name : Path) :
    (mergeRange path disk range).files name =
      if name = partPath path range then none else disk.files name :=
  Function.update_apply _ _ _ _

theorem merged_mergeRange (path : Path) (disk : Disk) (range : Range) :
    (mergeRange path disk range).merged =
      pwrite 0 disk.merged range.begin.toNat
        ((disk.files (partPath path range)).getD []) := rfl

theorem foldl_mergePart
    {path : Path} {ranges rest : List Range} (regular : Regular path ranges rest)
    (disk : Disk) :
    (rest.map fun range => (partPath path range, range.idx)).foldl
        (mergePart path ranges) disk =
      rest.foldl (mergeRange path) disk := by
  induction rest generalizing disk with
  | nil => rfl
  | cons range rest inductionHypothesis =>
      obtain ⟨place, small, other⟩ := regular range List.mem_cons_self
      have step : mergePart path ranges disk (partPath path range, range.idx) =
          mergeRange path disk range := by
        simp only [mergePart, place, Disk.find, if_neg other, Disk.deleteFiles,
          small, copyLoop_eq le_rfl, mergeRange]
      rw [List.map_cons, List.foldl_cons, List.foldl_cons, step]
      exact inductionHypothesis
        (fun later present => regular later (List.mem_cons_of_mem range present))
        _

theorem linked_foldl_mergeRange
    (path : Path) (rest : List Range) (disk : Disk) :
    (rest.foldl (mergeRange path) disk).linked = disk.linked := by
  induction rest generalizing disk with
  | nil => rfl
  | cons range rest inductionHypothesis =>
      rw [List.foldl_cons, inductionHypothesis]
      rfl

/-! ## Part files that are apart -/

/-- The merge writes one slice behind the other. -/
theorem merged_foldl_mergeRange
    {resource : List UInt8} {path : Path} {rest : List Range} {low : Int}
    (nonneg : 0 ≤ low) (tiles : Tiles low rest resource.length)
    (apart : rest.Pairwise fun earlier later =>
      partPath path earlier = partPath path later → later.total = 0)
    {disk : Disk}
    (parts : ∀ range ∈ rest,
      (disk.files (partPath path range)).getD [] = slice resource range)
    (merged : disk.merged = resource.take low.toNat) :
    (rest.foldl (mergeRange path) disk).merged = resource := by
  induction rest generalizing low disk with
  | nil =>
      obtain rfl : low = resource.length := tiles
      rw [List.foldl_nil, merged]
      simp
  | cons range rest inductionHypothesis =>
      obtain ⟨begins, grows, total, later⟩ := tiles
      have reaches := later.le
      obtain ⟨headApart, restApart⟩ := List.pairwise_cons.mp apart
      rw [List.foldl_cons]
      refine inductionHypothesis (by omega) later restApart ?_ ?_
      · intro other present
        rw [files_mergeRange]
        by_cases same : partPath path other = partPath path range
        · have empty := headApart other present same.symm
          have otherTotal := later.total other present
          simp [same, slice, show other.last - other.begin + 1 = 0 by omega]
        · rw [if_neg same]
          exact parts other (List.mem_cons_of_mem range present)
      · rw [merged_mergeRange, parts range List.mem_cons_self, merged, slice, begins,
          FileBytes.pwrite_take _ _ _ (by omega)]
        congr 1
        omega

/-! ## Part files that are shared -/

/-- A byte in front of the remaining ranges does not become one. -/
theorem foldl_mergeRange_ne
    {path : Path} {rest : List Range} {low high : Int}
    (nonneg : 0 ≤ low) (tiles : Tiles low rest high)
    {disk : Disk} {k : Nat} (front : (k : Int) < low)
    (missing : disk.merged[k]? ≠ some 1) :
    (rest.foldl (mergeRange path) disk).merged[k]? ≠ some 1 := by
  induction rest generalizing low disk with
  | nil => exact missing
  | cons range rest inductionHypothesis =>
      obtain ⟨begins, grows, _, later⟩ := tiles
      rw [List.foldl_cons]
      refine inductionHypothesis (by omega) later (by omega) ?_
      rw [merged_mergeRange]
      by_cases empty : (disk.files (partPath path range)).getD [] = []
      · rw [empty, FileBytes.pwrite_nil]
        exact missing
      · rw [FileBytes.getElem?_pwrite empty, if_neg (by omega)]
        split
        · exact missing
        · split <;> simp

/-- Every part file is at most as long as its range. -/
def PartsFit (path : Path) (disk : Disk) (rest : List Range) : Prop :=
  ∀ range ∈ rest,
    (((disk.files (partPath path range)).getD []).length : Int) ≤ range.total

theorem PartsFit.mergeRange
    {path : Path} {disk : Disk} {range : Range} {rest : List Range}
    (fits : PartsFit path disk (range :: rest))
    (totals : ∀ range ∈ rest, 0 ≤ range.total) :
    PartsFit path (mergeRange path disk range) rest := by
  intro other present
  rw [files_mergeRange]
  split
  · exact totals other present
  · exact fits other (List.mem_cons_of_mem range present)

theorem length_merged_mergeRange
    {path : Path} {disk : Disk} {range : Range}
    (fits : (((disk.files (partPath path range)).getD []).length : Int) ≤
      range.total)
    (nonneg : 0 ≤ range.begin) (total : range.total = range.last - range.begin + 1)
    (grows : range.begin ≤ range.last + 1)
    (short : (disk.merged.length : Int) ≤ range.begin) :
    ((mergeRange path disk range).merged.length : Int) ≤ range.last + 1 := by
  rw [merged_mergeRange]
  by_cases empty : (disk.files (partPath path range)).getD [] = []
  · rw [empty, FileBytes.pwrite_nil]
    omega
  · rw [FileBytes.length_pwrite empty]
    omega

theorem totals_nonneg
    {rest : List Range} {low high : Int} (tiles : Tiles low rest high) :
    ∀ range ∈ rest, 0 ≤ range.total := by
  intro range present
  have inside := tiles.inside range present
  have total := tiles.total range present
  omega

/-- A range whose part file is gone is not written. -/
theorem exists_missing_of_gone
    {path : Path} {rest : List Range} {low high : Int}
    (nonneg : 0 ≤ low) (tiles : Tiles low rest high)
    {disk : Disk} (fits : PartsFit path disk rest)
    (short : (disk.merged.length : Int) ≤ low)
    (gone : ∃ range ∈ rest, range.total ≠ 0 ∧
      disk.files (partPath path range) = none) :
    ∃ k : Nat, (k : Int) < high ∧
      (rest.foldl (mergeRange path) disk).merged[k]? ≠ some 1 := by
  induction rest generalizing low disk with
  | nil => simp at gone
  | cons range rest inductionHypothesis =>
      have totals := totals_nonneg tiles
      obtain ⟨begins, grows, total, later⟩ := tiles
      have reaches := later.le
      rw [List.foldl_cons]
      by_cases isGone : range.total ≠ 0 ∧ disk.files (partPath path range) = none
      · refine ⟨low.toNat, by omega, foldl_mergeRange_ne (by omega) later
          (by omega) ?_⟩
        rw [merged_mergeRange, isGone.2, Option.getD_none, FileBytes.pwrite_nil,
          List.getElem?_eq_none (by omega)]
        simp
      · rw [List.exists_mem_cons_iff] at gone
        obtain ⟨other, present, nonempty, otherGone⟩ := gone.resolve_left isGone
        refine inductionHypothesis (by omega) later
          (fits.mergeRange fun range present =>
            totals range (List.mem_cons_of_mem _ present))
          (length_merged_mergeRange (fits range List.mem_cons_self) (by omega)
            total (by omega) (by omega)) ⟨other, present, nonempty, ?_⟩
        rw [files_mergeRange]
        split
        · rfl
        · exact otherGone

/-- A range that shares its part file with an earlier one is not written. -/
theorem exists_missing_of_shared
    {path : Path} {rest : List Range} {low high : Int}
    (nonneg : 0 ≤ low) (tiles : Tiles low rest high)
    {disk : Disk} (fits : PartsFit path disk rest)
    (short : (disk.merged.length : Int) ≤ low)
    (shared : ¬ rest.Pairwise fun earlier later =>
      partPath path earlier = partPath path later → later.total = 0) :
    ∃ k : Nat, (k : Int) < high ∧
      (rest.foldl (mergeRange path) disk).merged[k]? ≠ some 1 := by
  induction rest generalizing low disk with
  | nil => exact absurd .nil shared
  | cons range rest inductionHypothesis =>
      have totals := totals_nonneg tiles
      obtain ⟨begins, grows, total, later⟩ := tiles
      have restFits := fits.mergeRange fun range present =>
        totals range (List.mem_cons_of_mem _ present)
      have restShort := length_merged_mergeRange (fits range List.mem_cons_self)
        (by omega) total (by omega) (by omega)
      rw [List.foldl_cons]
      rw [List.pairwise_cons, not_and_or] at shared
      rcases shared with withHead | inRest
      · simp only [not_forall] at withHead
        obtain ⟨other, present, same, nonempty⟩ := withHead
        exact exists_missing_of_gone (by omega) later restFits restShort
          ⟨other, present, nonempty, by rw [files_mergeRange, if_pos same.symm]⟩
      · exact inductionHypothesis (by omega) later restFits restShort inRest

/-! ## Names that are not cut -/

theorem number_injective {first second : Int}
    (same : number first = number second) : first = second := by
  have noSign : ∀ value : Nat, ∀ rest, Nat.toDigits 10 value ≠ '-' :: rest := by
    intro value rest isSigned
    have isDigit : ('-').isDigit = true :=
      Nat.isDigit_of_mem_toDigits (b := 10) (n := value) (by decide) (by decide)
        (by rw [isSigned]; exact List.mem_cons_self)
    exact absurd isDigit (by decide)
  have digits : Nat.toDigits 10 first.natAbs = Nat.toDigits 10 second.natAbs →
      first.natAbs = second.natAbs := by
    intro equal
    rw [← Nat.ofDigitChars_ten_toDigits (n := first.natAbs), equal,
      Nat.ofDigitChars_ten_toDigits]
  unfold number at same
  split at same
  · split at same
    · have absolute := digits (List.cons.inj same).2
      omega
    · exact absurd same.symm (noSign _ _)
  · split at same
    · exact absurd same (noSign _ _)
    · have absolute := digits same
      omega

theorem underscore_notMem_number (value : Int) : '_' ∉ number value := by
  unfold number
  split
  · simp
  · simp

theorem length_number_le {value : Int} (lower : -1 ≤ value) (upper : value < 2 ^ 31) :
    (number value).length ≤ 10 := by
  unfold number
  split
  · obtain rfl : value = -1 := by omega
    decide
  · exact (Nat.length_toDigits_le_iff (by decide) (by decide)).mpr (by omega)

/-- For a name of at most 995 bytes every part has a file of its own. -/
theorem partsApart_of_short
    {path : Path} {content : Nat} (short : path.length ≤ 995) (fits : Fits content) :
    PartsApart path content := by
  have tiles := tiles_divdeContentLength fits
  have whole : ∀ range ∈ divdeContentLength content,
      partPath path range = path ++ (['.', 'p', 'a', 'r', 't', '_'] ++
        (number range.begin ++ '_' :: number range.last)) := by
    intro range present
    have inside := tiles.inside range present
    unfold Fits at fits
    have beginLength := length_number_le (show -1 ≤ range.begin by omega) (by omega)
    have lastLength := length_number_le (show -1 ≤ range.last by omega) (by omega)
    rw [partPath, List.take_of_length_le]
    · simp
    · simp only [List.length_append, List.length_cons, List.length_nil]
      omega
  constructor
  · refine List.Pairwise.imp_of_mem ?_ tiles.disjoint
    intro earlier later earlierPresent laterPresent apart same
    rw [whole earlier earlierPresent, whole later laterPresent] at same
    have numbers := List.append_cancel_left (List.append_cancel_left same)
    obtain ⟨_, _, lasts⟩ := (List.append_cons_inj_of_notMem
      (underscore_notMem_number _) (underscore_notMem_number _)).mp numbers
    have last := number_injective lasts
    have laterInside := tiles.inside later laterPresent
    have total := tiles.total later laterPresent
    omega
  · intro range present same
    rw [whole range present] at same
    have lengths := congrArg List.length same
    simp only [List.length_append, List.length_cons] at lengths
    omega

/-! ## The whole merge -/

theorem regular_divdeContentLength
    {path : Path} {content : Nat} (fits : Fits content)
    (other : ∀ range ∈ divdeContentLength content, partPath path range ≠ path) :
    Regular path (divdeContentLength content) (divdeContentLength content) := by
  intro range present
  have inside := (tiles_divdeContentLength fits).inside range present
  unfold Fits at fits
  refine ⟨?_, toInt32_of_nonneg inside.1 (by omega), other range present⟩
  obtain ⟨k, place⟩ := List.mem_iff_getElem?.mp present
  rw [idx_divdeContentLength place]
  exact place

/-- The merged file of a merge whose part files are other files. -/
theorem wait4Complete_eq
    {path : Path} {content : Nat} (fits : Fits content)
    (other : ∀ range ∈ divdeContentLength content, partPath path range ≠ path)
    {files : Path → Option (List UInt8)} (removed : files path = none) :
    wait4Complete path content files path =
      some ((divdeContentLength content).foldl (mergeRange path)
        { files := files, merged := [], linked := true }).merged := by
  rw [wait4Complete, foldl_mergePart (regular_divdeContentLength fits other),
    Disk.find, if_pos rfl, linked_foldl_mergeRange, if_pos rfl, removed]
  rfl

theorem merges_of_partsApart
    {path : Path} {content : Nat} (fits : Fits content)
    (apart : PartsApart path content) :
    Merges path content := by
  rintro resource files rfl complete
  have removed : files path = none := by
    rcases complete.removed with removed | ⟨range, present, same⟩
    · exact removed
    · exact absurd same (apart.2 range present)
  rw [wait4Complete_eq fits apart.2 removed]
  have merged : ((divdeContentLength resource.length).foldl (mergeRange path)
      { files := files, merged := [], linked := true }).merged = resource :=
    merged_foldl_mergeRange (Int.le_refl 0) (tiles_divdeContentLength fits) apart.1
      (fun range present => congrArg (Option.getD · [])
        (complete.parts range present)) rfl
  rw [merged]

theorem merges_of_partsContradict
    {path : Path} {content : Nat} (fits : Fits content)
    (contradict : PartsContradict path content) :
    Merges path content := by
  rintro resource files rfl complete
  obtain ⟨range, present, other, otherPresent, same, different⟩ := contradict
  have tiles := tiles_divdeContentLength fits
  have size : ∀ range ∈ divdeContentLength resource.length,
      ((slice resource range).length : Int) = range.total := by
    intro range present
    have inside := tiles.inside range present
    have total := tiles.total range present
    rw [slice, List.length_take, List.length_drop]
    omega
  have both : some (slice resource range) = some (slice resource other) := by
    rw [← complete.parts range present, same, complete.parts other otherPresent]
  have lengths := congrArg List.length (Option.some.inj both)
  exact absurd (by rw [← size range present, ← size other otherPresent, lengths])
    different

/-- The part files of a resource of ones. -/
def onesParts (path : Path) (content : Nat) : Path → Option (List UInt8) :=
  fun name =>
    ((divdeContentLength content).find? fun range =>
      partPath path range == name).map fun range =>
        List.replicate range.total.toNat 1

theorem onesParts_partPath
    {path : Path} {content : Nat}
    (agree : ¬ PartsContradict path content)
    {range : Range} (present : range ∈ divdeContentLength content) :
    onesParts path content (partPath path range) =
      some (List.replicate range.total.toNat 1) := by
  cases found : (divdeContentLength content).find? fun other =>
      partPath path other == partPath path range with
  | none =>
      have absent := List.find?_eq_none.mp found range present
      simp at absent
  | some other =>
      have same : partPath path other = partPath path range := by
        simpa using List.find?_some found
      have otherPresent := List.mem_of_find?_eq_some found
      have totals : other.total = range.total := by
        by_contra different
        exact agree ⟨other, otherPresent, range, present, same, different⟩
      rw [onesParts, found, Option.map_some, totals]

theorem partsComplete_onesParts
    {path : Path} {content : Nat} (fits : Fits content)
    (agree : ¬ PartsContradict path content) :
    PartsComplete (List.replicate content 1) path (onesParts path content) where
  parts := by
    intro range present
    rw [List.length_replicate] at present
    have inside := (tiles_divdeContentLength fits).inside range present
    have total := (tiles_divdeContentLength fits).total range present
    rw [onesParts_partPath agree present, slice, List.drop_replicate,
      List.take_replicate, total]
    congr 2
    omega
  removed := by
    rw [List.length_replicate]
    by_cases isPart : ∃ range ∈ divdeContentLength content,
        partPath path range = path
    · exact Or.inr isPart
    · refine Or.inl ?_
      rw [onesParts, Option.map_eq_none_iff, List.find?_eq_none]
      intro range present same
      exact isPart ⟨range, present, by simpa using same⟩

/-- A part file with the name of the merged file takes that name away. -/
theorem linked_foldl_mergePart
    {path : Path} {ranges : List Range} {rest : List Range}
    (numbered : ∀ range ∈ rest, ranges[range.idx]? = some range)
    {disk : Disk}
    (isPart : disk.linked = false ∨ ∃ range ∈ rest, partPath path range = path) :
    ((rest.map fun range => (partPath path range, range.idx)).foldl
      (mergePart path ranges) disk).linked = false := by
  induction rest generalizing disk with
  | nil =>
      rcases isPart with unlinked | ⟨range, present, _⟩
      · exact unlinked
      · cases present
  | cons range rest inductionHypothesis =>
      rw [List.map_cons, List.foldl_cons]
      refine inductionHypothesis
        (fun later present => numbered later (List.mem_cons_of_mem range present)) ?_
      have place := numbered range List.mem_cons_self
      rw [List.exists_mem_cons_iff] at isPart
      simp only [mergePart, place, Disk.deleteFiles]
      split
      · exact Or.inl rfl
      · rename_i other
        rcases isPart with unlinked | same | later
        · exact Or.inl unlinked
        · exact absurd same other
        · exact Or.inr later

theorem not_merges
    {path : Path} {content : Nat} (fits : Fits content)
    (agree : ¬ PartsContradict path content) (shared : ¬ PartsApart path content) :
    ¬ Merges path content := by
  intro merges
  have merged := merges (List.replicate content 1) (onesParts path content)
    List.length_replicate (partsComplete_onesParts fits agree)
  by_cases isPart : ∃ range ∈ divdeContentLength content, partPath path range = path
  · rw [wait4Complete, Disk.find, if_pos rfl, linked_foldl_mergePart ?_ (Or.inr isPart)]
      at merged
    · simp at merged
    · intro range present
      obtain ⟨k, place⟩ := List.mem_iff_getElem?.mp present
      rw [idx_divdeContentLength place]
      exact place
  · have other : ∀ range ∈ divdeContentLength content, partPath path range ≠ path :=
      fun range present same => isPart ⟨range, present, same⟩
    have removed : onesParts path content path = none := by
      have complete := (partsComplete_onesParts fits agree).removed
      rw [List.length_replicate] at complete
      exact complete.resolve_right isPart
    rw [wait4Complete_eq fits other removed] at merged
    have tiles := tiles_divdeContentLength fits
    have totals := totals_nonneg tiles
    have partsFit : PartsFit path
        { files := onesParts path content, merged := [], linked := true }
        (divdeContentLength content) := by
      intro range present
      have total := totals range present
      dsimp only
      rw [onesParts_partPath agree present, Option.getD_some, List.length_replicate]
      omega
    obtain ⟨k, inside, missing⟩ := exists_missing_of_shared (Int.le_refl 0) tiles
      partsFit (by simp) fun pairwise => shared ⟨pairwise, other⟩
    rw [Option.some.inj merged] at missing
    exact missing (by rw [List.getElem?_replicate, if_pos (by omega)])

/-- The ranges divide the content exactly, and complete part files are merged to the
resource iff no range with bytes shares its part file with an earlier one or with the
merged file, unless part files cannot be complete because ranges of different lengths
share one. -/
theorem divides_and_merges_iff (path : Path) (content : Nat) (fits : Fits content) :
    Divides content (divdeContentLength content) ∧
      (Merges path content ↔
        PartsContradict path content ∨ PartsApart path content) := by
  refine ⟨divides_divdeContentLength fits, ?_, ?_⟩
  · intro merges
    by_contra neither
    obtain ⟨agree, shared⟩ := not_or.mp neither
    exact not_merges fits agree shared merges
  · rintro (contradict | apart)
    · exact merges_of_partsContradict fits contradict
    · exact merges_of_partsApart fits apart

/-- Ten bytes that are downloaded to a short name. -/
theorem divides_and_merges_shortName :
    Divides 10 (divdeContentLength 10) ∧ Merges ['f'] 10 := by
  obtain ⟨divides, merges⟩ := divides_and_merges_iff ['f'] 10 (by decide)
  exact ⟨divides, merges.mpr (Or.inr (partsApart_of_short (by decide) (by decide)))⟩

theorem partPath_of_long
    {path : Path} (long : 1022 ≤ path.length) (range : Range) :
    partPath path range = path.take 1022 := by
  rw [partPath, List.append_assoc, List.append_assoc,
    List.take_append_of_le_length long]

/-- A name of 1023 bytes, `././` and so on up to `abc`. -/
def longName : Path :=
  (List.replicate 510 ['.', '/']).flatten ++ ['a', 'b', 'c']

theorem length_longName : longName.length = 1023 := by
  decide +kernel

/-- The part file that both ranges of two bytes share. -/
def sharedPart : Path → Option (List UInt8) :=
  fun name => if name = longName.take 1022 then some [1] else none

/-- The first range takes the part file of the second one away, and the merged file
has one byte instead of two. -/
theorem merge_lost_shared :
    PartsComplete [1, 1] longName sharedPart ∧
      wait4Complete longName 2 sharedPart longName = some [1] ∧
      ¬ Merges longName 2 := by
  have cut := fun range => partPath_of_long
    (show 1022 ≤ longName.length by rw [length_longName]; decide) range
  have other : longName.take 1022 ≠ longName := by
    intro same
    have lengths := congrArg List.length same
    rw [List.length_take, length_longName] at lengths
    exact absurd lengths (by decide)
  have ranges : divdeContentLength 2 = [⟨0, 0, 1, 0⟩, ⟨1, 1, 1, 1⟩] := by decide
  have removed : sharedPart longName = none := by
    rw [sharedPart, if_neg other.symm]
  have complete : PartsComplete [1, 1] longName sharedPart := by
    refine ⟨?_, Or.inl removed⟩
    intro range present
    rw [cut range, sharedPart, if_pos rfl]
    simp only [List.length_cons, List.length_nil, Nat.zero_add, Nat.reduceAdd, ranges,
      List.mem_cons, List.not_mem_nil, or_false] at present
    rcases present with rfl | rfl <;> rfl
  have merged : wait4Complete longName 2 sharedPart longName = some [1] := by
    rw [wait4Complete_eq (by decide) (fun range _ => by rw [cut range]; exact other)
      removed, ranges]
    simp [mergeRange, cut, sharedPart, pwrite]
  refine ⟨complete, merged, ?_⟩
  intro merges
  have whole := merges [1, 1] sharedPart rfl complete
  rw [merged] at whole
  exact absurd whole (by decide)

end RangeManager
end Skplat
