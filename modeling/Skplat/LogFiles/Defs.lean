import Skplat.Data.CString
import Skplat.Data.FileTree
import Skplat.Data.Words

/-!
# The files that the log works with

A path string leads from the root, or from the working directory if it does not begin with a
slash, and ends at its first zero.  Slashes that follow each other count once, and one at the
end does not matter.  The name `.` stays in a directory, and `..` goes to the one above.
-/

namespace Skplat
namespace LogFiles

open CString

/-- A file that is not a directory.  All of it is read as it is if it is regular. -/
structure LogFile where
  isRegular : Bool
  content : List UInt8
  mtime : Int
  deriving DecidableEq, Repr

/-- The files and directories of a system. -/
abbrev Disk := FileTree (List UInt8) LogFile

/-- What stands at a path. -/
abbrev Entry := Node LogFile

/-- The names of a path string. -/
def namesOf (path : List UInt8) : List (List UInt8) :=
  words (fun byte => byte == 47) (cstr path)

/-- Where a path string begins. -/
def base (cwd : List (List UInt8)) (path : List UInt8) : List (List UInt8) :=
  if (cstr path).head? = some 47 then [] else cwd

/-- Where a name leads to in a directory. -/
def enter (place : List (List UInt8)) (name : List UInt8) : List (List UInt8) :=
  if name = ascii "." then place
  else if name = ascii ".." then place.dropLast
  else place ++ [name]

/-- Where a path string leads. -/
def resolve (cwd : List (List UInt8)) (path : List UInt8) : List (List UInt8) :=
  (namesOf path).foldl enter (base cwd path)

/-- The places on the way that names lead from a place. -/
def wayOf (place : List (List UInt8)) : List (List UInt8) → List (List (List UInt8))
  | [] => [place]
  | name :: rest => place :: wayOf (enter place name) rest

/-- The places on the way of a path string, up to where it leads. -/
def trail (cwd : List (List UInt8)) (path : List UInt8) : List (List (List UInt8)) :=
  wayOf (base cwd path) (namesOf path)

/-- Where names lead, if there is a directory for each of them. -/
def walk (disk : Disk) (place : List (List UInt8)) :
    List (List UInt8) → Option (List (List UInt8))
  | [] => some place
  | name :: rest =>
      if disk.node place = some .directory then walk disk (enter place name) rest else none

/-- Where a path string leads on a disk.  The empty one leads nowhere. -/
def find (disk : Disk) (path : List UInt8) : Option (List (List UInt8)) :=
  if cstr path = [] then none else walk disk (base disk.cwd path) (namesOf path)

/-- What a path string leads to. -/
def lookup (disk : Disk) (path : List UInt8) : Option Entry :=
  (find disk path).bind disk.node

/-- `mkdir`. -/
def mkdir (disk : Disk) (path : List UInt8) : Option Disk :=
  (find disk path).bind disk.mkdir

/-- `check_dir`. -/
def checkDir (disk : Disk) (dir : List UInt8) : Int :=
  match lookup disk dir with
  | some .directory => 0
  | _ => -1

/-- `lstat`, which leaves the buffer as it is if it fails. -/
def lstat (disk : Disk) (path : List UInt8) (statbuf : Entry) : Entry :=
  (lookup disk path).getD statbuf

/-- `S_ISREG`. -/
def isReg : Entry → Bool
  | .directory => false
  | .file file => file.isRegular

/-- `remove` of a file. -/
def remove (disk : Disk) (path : List UInt8) : Disk :=
  if lookup disk path = none then disk
  else (disk.setFile (resolve disk.cwd path) none).getD disk

/-- The names that `opendir` and `readdir` give. -/
def readdir (disk : Disk) (path : List UInt8) : Option (List (List UInt8)) :=
  match lookup disk path with
  | some .directory =>
      some (ascii "." :: ascii ".." :: disk.names (resolve disk.cwd path))
  | _ => none

/-- The entries that the loops pass over. -/
def isDot (d_name : List UInt8) : Bool :=
  d_name == ascii "." || d_name == ascii ".."

theorem checkDir_eq_zero_iff {disk : Disk} {dir : List UInt8} :
    checkDir disk dir = 0 ↔ lookup disk dir = some .directory := by
  rw [checkDir]
  split
  · rename_i isDirectory
    exact iff_of_true rfl isDirectory
  · rename_i noDirectory
    exact iff_of_false (by decide) noDirectory

/-- Only directories can be read. -/
theorem readdir_eq_none {disk : Disk} {path : List UInt8}
    (noDirectory : lookup disk path ≠ some .directory) : readdir disk path = none := by
  rw [readdir]
  split
  · rename_i isDirectory
    exact absurd isDirectory noDirectory
  · rfl

/-- A disk with nothing on it. -/
def emptyDisk : Disk where
  node path := if path = [] then some .directory else none
  names _ := []
  cwd := []
  root_isDirectory := rfl
  cwd_isDirectory := rfl
  isDirectory_of_entry _ _ occurs := absurd (if_neg (by simp)) occurs
  mem_names_iff _ _ := by simp
  nodup_names _ := List.nodup_nil

theorem isClear_emptyDisk (places : List (List (List UInt8))) : emptyDisk.IsClear places := by
  intro place _
  by_cases root : place = []
  · exact Or.inr (if_pos root)
  · exact Or.inl (if_neg root)

/-- A directory `logs` with the file `old.log`, which has three bytes and was changed at the
time 0. -/
def oneFileDisk : Disk :=
  (emptyDisk.put [] (ascii "logs") (some .directory) rfl (by decide)).put [ascii "logs"]
    (ascii "old.log")
    (some (.file { isRegular := true, content := ascii "abc", mtime := 0 })) rfl (by decide)

theorem node_oneFileDisk :
    oneFileDisk.node [ascii "logs", ascii "old.log"] =
      some (.file { isRegular := true, content := ascii "abc", mtime := 0 }) := by
  decide

end LogFiles
end Skplat
