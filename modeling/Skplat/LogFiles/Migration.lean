import Skplat.LogFiles.Defs

/-!
# Moving log files to another directory

`append_file` copies a file in pieces behind another one, through buffered streams.
`move_old_files` does that for each log file of a directory, unless `check_dir` finds the
directory, which it takes for a failure.

What each `fread` and `fwrite` does is an input.  What is passed to `fwrite` reaches the file
then, later, or when the stream is closed.
-/

namespace Skplat
namespace LogFiles

open CString

/-- `LOG_EXT`. -/
def LOG_EXT : List UInt8 :=
  ascii "log"

/-- What an `fread` does. -/
inductive ReadOutcome
  /-- It reads as much as there is. -/
  | full
  /-- It fails after some bytes. -/
  | short (count : Nat)
  deriving DecidableEq, Repr

/-- What an `fwrite` does. -/
structure WriteOutcome where
  /-- After how many bytes it fails, if it does. -/
  failsAfter : Option Nat
  /-- How much of what was passed so far reaches the file. -/
  flushed : Nat
  deriving DecidableEq, Repr

/-- What the calls do that are still to come.  Behind the ends of the lists they succeed. -/
structure Outcomes where
  reads : List ReadOutcome
  writes : List WriteOutcome
  deriving DecidableEq, Repr

/-- The disk, the calls to come, and whether one of the calls that were made has failed. -/
structure Run where
  disk : Disk
  outcomes : Outcomes
  failed : Bool

/-- The content of a file, where a missing file has none. -/
def contentOf : Option Entry → List UInt8
  | some (.file file) => file.content
  | _ => []

/-- The files are changed at the time `now`. -/
def writeContent (disk : Disk) (now : Int) (path content : List UInt8) : Disk :=
  (disk.setFile (resolve disk.cwd path)
    (some { isRegular := true, content := content, mtime := now })).getD disk

/-- Bytes reach the end of a file. -/
def appendContent (disk : Disk) (now : Int) (path bytes : List UInt8) : Disk :=
  writeContent disk now path (contentOf (lookup disk path) ++ bytes)

/-- `fopen(path, "ab")`: a missing file is created in an existing directory. -/
def openAppend (disk : Disk) (now : Int) (path : List UInt8) : Option Disk :=
  match lookup disk path with
  | some (.file _) => some disk
  | some .directory => none
  | none =>
      (find disk path).bind fun place =>
        disk.setFile place (some { isRegular := true, content := [], mtime := now })

/-- The two streams of `append_file`. -/
structure Copy where
  run : Run
  /-- The position in the first stream. -/
  position : Nat
  /-- `feof(src_file)`. -/
  eof : Bool
  /-- What was passed to the second stream and is not in its file. -/
  buffered : List UInt8
  /-- `ftell(dest_file)`. -/
  told : Nat

/-- `fwrite`, and whether it succeeds. -/
def Copy.write (copy : Copy) (now : Int) (dst_file chunk : List UInt8) : Copy × Bool :=
  let outcome := copy.run.outcomes.writes.headD { failsAfter := none, flushed := 0 }
  let accepted := match outcome.failsAfter with
    | none => chunk
    | some count => chunk.take (min count (chunk.length - 1))
  let pending := copy.buffered ++ accepted
  ({ copy with
      run := {
        disk := appendContent copy.run.disk now dst_file (pending.take outcome.flushed)
        outcomes := { copy.run.outcomes with writes := copy.run.outcomes.writes.tail }
        failed := copy.run.failed || outcome.failsAfter.isSome }
      buffered := pending.drop outcome.flushed
      told := copy.told + accepted.length },
    outcome.failsAfter.isNone)

/-- The loop of `append_file`, for at most as many passes as `fuel` says. -/
def copyLoop (now : Int) (src_file dst_file : List UInt8) : Nat → Copy → Option Copy
  | 0, _ => none
  | fuel + 1, copy =>
      if copy.eof then some copy
      else
        let there := (contentOf (lookup copy.run.disk src_file)).drop copy.position
        match copy.run.outcomes.reads.headD .full with
        -- no bytes or `ferror(src_file)`
        | .short count =>
            some { copy with
              run := { copy.run with
                outcomes := { copy.run.outcomes with reads := copy.run.outcomes.reads.tail }
                failed := true }
              position := copy.position + min count there.length }
        | .full =>
            let chunk := there.take 4096
            let copy := { copy with
              run := { copy.run with
                outcomes := { copy.run.outcomes with reads := copy.run.outcomes.reads.tail } }
              position := copy.position + chunk.length
              eof := decide (chunk.length < 4096) }
            if chunk = [] then some copy
            else
              match copy.write now dst_file chunk with
              | (copy, true) => copyLoop now src_file dst_file fuel copy
              | (copy, false) => some copy

/-- `append_file`. -/
def appendFile (fuel : Nat) (now : Int) (run : Run) (src_file dst_file : List UInt8) :
    Option (Run × Bool) :=
  if src_file = dst_file then some (run, false)
  else
    match lookup run.disk src_file with
    | none => some (run, false)
    -- a directory has a size and cannot be read
    | some .directory => some (run, false)
    | some (.file file) =>
        if file.content.length = 0 then some (run, true)
        else
          match openAppend run.disk now dst_file with
          | none => some (run, false)
          | some disk =>
              let src_file_len := (contentOf (lookup disk src_file)).length
              let dst_file_len := (contentOf (lookup disk dst_file)).length
              let copy : Copy := {
                run := { run with disk := disk }
                position := 0
                eof := false
                buffered := []
                told := dst_file_len }
              (copyLoop now src_file dst_file fuel copy).map fun copy =>
                let run := copy.run
                if dst_file_len + src_file_len > copy.told then
                  -- the file is cut while some bytes may still be in the buffer
                  let cut := writeContent run.disk now dst_file
                    ((contentOf (lookup run.disk dst_file)).take dst_file_len)
                  ({ run with disk := appendContent cut now dst_file copy.buffered }, false)
                else
                  ({ run with disk := appendContent run.disk now dst_file copy.buffered }, true)

/-- The names of log files: `StartsWith` and `EndsWith`. -/
def isLogName (nameStart name : List UInt8) : Bool :=
  decide (nameStart <+: name) && decide (LOG_EXT <:+ name)

/-- The loop of `move_old_files`. -/
def moveLoop (fuel : Nat) (now : Int) (src_path dest_path nameStart : List UInt8) :
    List (List UInt8) → Run → Option Run
  | [], run => some run
  | d_name :: rest, run =>
      if isDot d_name || !isLogName nameStart d_name then
        moveLoop fuel now src_path dest_path nameStart rest run
      else do
        let file_path := src_path ++ d_name
        let des_file_name := dest_path ++ ascii "/" ++ d_name
        let (run, appended) ← appendFile fuel now run file_path des_file_name
        if appended then
          moveLoop fuel now src_path dest_path nameStart rest
            { run with disk := remove run.disk file_path }
        else some run

/-- `move_old_files`, or none if a copy needs more passes than `fuel` says. -/
def moveOldFiles (fuel : Nat) (now : Int) (disk : Disk) (outcomes : Outcomes)
    (src_path dest_path nameStart : List UInt8) : Option Run :=
  let run : Run := { disk := disk, outcomes := outcomes, failed := false }
  if src_path = dest_path then some run
  else if src_path = [] ∨ checkDir disk src_path = 0 then some run
  else
    match readdir disk src_path with
    | none => some run
    | some names => moveLoop fuel now src_path dest_path nameStart names run

/-- Nothing is ever moved. -/
theorem moveOldFiles_eq
    (fuel : Nat) (now : Int) (disk : Disk) (outcomes : Outcomes)
    (src_path dest_path nameStart : List UInt8) :
    moveOldFiles fuel now disk outcomes src_path dest_path nameStart =
      some { disk := disk, outcomes := outcomes, failed := false } := by
  rw [moveOldFiles]
  split
  · rfl
  · split
    · rfl
    · rename_i goesOn
      rw [readdir_eq_none fun isDirectory =>
        goesOn (Or.inr (checkDir_eq_zero_iff.mpr isDirectory))]

/-- A file was appended to another one and removed. -/
def Moved (disk after : Disk) (source destination : List (List UInt8)) : Prop :=
  after.node source = none ∧
    contentOf (after.node destination) =
      contentOf (disk.node destination) ++ contentOf (disk.node source)

/-- A file and another one are as they were. -/
def Kept (disk after : Disk) (source destination : List (List UInt8)) : Prop :=
  after.node source = disk.node source ∧ after.node destination = disk.node destination

/-- Each log file of a directory is moved as a whole or kept, and all are moved if no call
has failed. -/
structure MovesWhole (disk : Disk) (after : Run) (source destination : List (List UInt8))
    (nameStart : List UInt8) : Prop where
  each : ∀ name file, isLogName nameStart name = true →
    disk.node (source ++ [name]) = some (.file file) →
    Moved disk after.disk (source ++ [name]) (destination ++ [name]) ∨
      Kept disk after.disk (source ++ [name]) (destination ++ [name])
  all : after.failed = false → ∀ name file, isLogName nameStart name = true →
    disk.node (source ++ [name]) = some (.file file) →
    Moved disk after.disk (source ++ [name]) (destination ++ [name])

/-- The log files of a directory are moved if and only if there are none. -/
theorem moveOldFiles_iff
    (fuel : Nat) (now : Int) (disk : Disk) (outcomes : Outcomes)
    (src_path dest_path nameStart : List UInt8) :
    (∃ after,
      moveOldFiles fuel now disk outcomes src_path dest_path nameStart = some after ∧
        MovesWhole disk after (resolve disk.cwd src_path) (resolve disk.cwd dest_path)
          nameStart) ↔
      ∀ name file, isLogName nameStart name = true →
        disk.node (resolve disk.cwd src_path ++ [name]) ≠ some (.file file) := by
  rw [moveOldFiles_eq]
  constructor
  · rintro ⟨after, isAfter, moves⟩ name file isLog stands
    cases isAfter
    have moved := (moves.all rfl name file isLog stands).1
    rw [stands] at moved
    cases moved
  · intro noLog
    refine ⟨_, rfl, fun name file isLog stands => ?_, fun _ name file isLog stands => ?_⟩
    · exact absurd stands (noLog name file isLog)
    · exact absurd stands (noLog name file isLog)

/-- Although no call has failed, the file is still where it was. -/
theorem moveOldFiles_keeps :
    ¬∃ after,
      moveOldFiles 2 0 oneFileDisk { reads := [], writes := [] } (ascii "logs")
          (ascii "old") (ascii "old") = some after ∧
        MovesWhole oneFileDisk after (resolve oneFileDisk.cwd (ascii "logs"))
          (resolve oneFileDisk.cwd (ascii "old")) (ascii "old") := by
  rintro ⟨after, isAfter, moves⟩
  rw [moveOldFiles_eq] at isAfter
  cases isAfter
  have moved := (moves.all rfl (ascii "old.log") _ (by decide) node_oneFileDisk).1
  exact absurd (moved.symm.trans node_oneFileDisk) nofun

end LogFiles
end Skplat
