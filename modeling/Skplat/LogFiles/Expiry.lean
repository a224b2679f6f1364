import Skplat.LogFiles.Defs

/-!
# Removing old log files

`check_dir` returns 0 for a directory.  `del_files` and `del_timeout_file` take that for a
failure, and what is no directory cannot be opened.
-/

namespace Skplat
namespace LogFiles

open CString

/-- `kMaxLogAliveTime`. -/
def kMaxLogAliveTime : Int := 60 * 60 * 24 * 3

/-- A pass of the loop of `del_files`, with `statbuf`. -/
def delFilesPass (folder : List UInt8) (state : Disk × Entry) (d_name : List UInt8) :
    Disk × Entry :=
  let (disk, statbuf) := state
  if isDot d_name then (disk, statbuf)
  else
    let file_path := folder ++ ascii "/" ++ d_name
    let statbuf := lstat disk file_path statbuf
    if isReg statbuf then (remove disk file_path, statbuf) else (disk, statbuf)

/-- `del_files`.  `garbage` is what `statbuf` holds before it is filled. -/
def delFiles (disk : Disk) (folder : List UInt8) (garbage : Entry) : Disk :=
  if folder = [] ∨ checkDir disk folder = 0 then disk
  else
    match readdir disk folder with
    | none => disk
    | some names => (names.foldl (delFilesPass folder) (disk, garbage)).1

/-- A pass of the loop of `del_timeout_file`.  No slash stands between the path and the
name. -/
def delTimeoutPass (log_path : List UInt8) (now_time : Int) (garbage : Entry)
    (state : Disk × Entry) (d_name : List UInt8) : Disk × Entry :=
  let (disk, statbuf) := state
  if isDot d_name then (disk, statbuf)
  else
    let file_path := log_path ++ d_name
    match lstat disk file_path statbuf with
    | .directory => (delFiles disk file_path garbage, .directory)
    | .file file =>
        if file.isRegular ∧ now_time > file.mtime ∧
            now_time - file.mtime > kMaxLogAliveTime then
          (remove disk file_path, .file file)
        else (disk, .file file)

/-- `del_timeout_file`. -/
def delTimeoutFile (disk : Disk) (log_path : List UInt8) (now_time : Int) (garbage : Entry) :
    Disk :=
  if log_path = [] ∨ checkDir disk log_path = 0 then disk
  else
    match readdir disk log_path with
    | none => disk
    | some names =>
        (names.foldl (delTimeoutPass log_path now_time garbage) (disk, garbage)).1

/-- Nothing is ever removed. -/
theorem delTimeoutFile_eq
    (disk : Disk) (log_path : List UInt8) (now_time : Int) (garbage : Entry) :
    delTimeoutFile disk log_path now_time garbage = disk := by
  rw [delTimeoutFile]
  split
  · rfl
  · rename_i goesOn
    rw [readdir_eq_none fun isDirectory =>
      goesOn (Or.inr (checkDir_eq_zero_iff.mpr isDirectory))]

/-- A regular file was not changed for too long. -/
def Expired (now_time : Int) (entry : Entry) : Prop :=
  ∃ file, entry = .file file ∧ file.isRegular = true ∧
    now_time - file.mtime > kMaxLogAliveTime

/-- Of the entries of a directory the expired files are removed and no others, and in its
sub-directories no file is removed that is not expired. -/
structure RemovesExpired
    (disk after : Disk) (dir : List (List UInt8)) (now_time : Int) : Prop where
  removed : ∀ name entry, disk.node (dir ++ [name]) = some entry →
    (after.node (dir ++ [name]) = none ↔ Expired now_time entry)
  kept : ∀ below file, 2 ≤ below.length → disk.node (dir ++ below) = some (.file file) →
    file.isRegular = true → ¬Expired now_time (.file file) →
    after.node (dir ++ below) = some (.file file)

/-- The expired files of a directory are removed if and only if there are none. -/
theorem delTimeoutFile_iff
    (disk : Disk) (log_path : List UInt8) (now_time : Int) (garbage : Entry) :
    RemovesExpired disk (delTimeoutFile disk log_path now_time garbage)
        (resolve disk.cwd log_path) now_time ↔
      ∀ name entry, disk.node (resolve disk.cwd log_path ++ [name]) = some entry →
        ¬Expired now_time entry := by
  rw [delTimeoutFile_eq]
  constructor
  · intro removes name entry stands expired
    rw [(removes.removed name entry stands).mpr expired] at stands
    cases stands
  · intro noneExpired
    refine ⟨fun name entry stands => ?_, fun below file _ stands _ _ => stands⟩
    rw [stands]
    exact iff_of_false nofun (noneExpired name entry stands)

/-- After four days the file is still there. -/
theorem delTimeoutFile_keeps :
    ¬RemovesExpired oneFileDisk
      (delTimeoutFile oneFileDisk (ascii "logs") (60 * 60 * 24 * 4) .directory)
      (resolve oneFileDisk.cwd (ascii "logs")) (60 * 60 * 24 * 4) := by
  intro removes
  rw [delTimeoutFile_eq] at removes
  have removed := (removes.removed (ascii "old.log") _ node_oneFileDisk).mpr
    ⟨_, rfl, rfl, by decide⟩
  exact absurd (removed.symm.trans node_oneFileDisk) nofun

end LogFiles
end Skplat
