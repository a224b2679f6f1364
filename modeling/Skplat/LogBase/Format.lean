import Skplat.Data.CString
import Skplat.Data.Numeral
import Skplat.LogBase.BufferIo

/-!
# A log line

`log_write` puts a line together in an array of zeros and prints it as a C string.
`log_formater` prints a header with `snprintf`, which writes at most 1024 bytes and returns
how many it would have written.  The cursor goes on by what it returns.
-/

namespace Skplat
namespace LogBase

open CString
open Numeral (decimal)

/-- `LogLevel`. -/
inductive LogLevel
  | kLevelVerbose
  | kLevelDebug
  | kLevelInfo
  | kLevelWarn
  | kLevelError
  | kLevelFatal
  | kLevelNone
  deriving DecidableEq, Repr

/-- `levelStrings[level]`, which has no string for `kLevelNone`. -/
def levelStrings : LogLevel → Option (List UInt8)
  | .kLevelVerbose => some (ascii "V")
  | .kLevelDebug => some (ascii "D")
  | .kLevelInfo => some (ascii "I")
  | .kLevelWarn => some (ascii "W")
  | .kLevelError => some (ascii "E")
  | .kLevelFatal => some (ascii "F")
  | .kLevelNone => none

/-- `LogInfo_t`. -/
structure LogInfo where
  level : LogLevel
  tag : Option (List UInt8)
  filename : Option (List UInt8)
  funcName : Option (List UInt8)
  line : Int
  sec : Int
  usec : Int
  pid : Int
  tid : Int
  maintid : Int
  deriving DecidableEq, Repr

/-- What the platform tells. -/
structure Platform where
  getPid : Int
  getTid : Int
  getMainTid : Int
  /-- The local time, as it is printed for seconds and microseconds.  For a year that is not
  an `int` there is none, and `localtime` returns `NULL`. -/
  localtime : Int → Int → Option (List UInt8)

/-- `MAX_LINE_LEN`. -/
def MAX_LINE_LEN : Nat := 2 * 1024

/-! ## The parts of the header -/

/-- What stands behind the last occurrence of a byte. -/
def strrchr (byte : UInt8) (text : List UInt8) : Option (List UInt8) :=
  if byte ∈ text then some (text.reverse.takeWhile (· ≠ byte)).reverse else none

/-- `extract_file_name`. -/
def extractFileName : Option (List UInt8) → List UInt8
  | none => []
  | some path =>
      match (strrchr 92 (cstr path)).or (strrchr 47 (cstr path)) with
      | none => cstr path
      | some name => if name = [] then cstr path else name

/-- The loop of `extract_function_name`, which moves `start` and `end` to positions of the
text. -/
def scanFunctionName (start : Nat) (stop : Option Nat) (pos : Nat) :
    List UInt8 → Nat × Option Nat
  | [] => (start, stop)
  | 58 :: 58 :: rest => scanFunctionName (pos + 2) stop (pos + 2) rest
  | byte :: rest =>
      if stop = none ∧ byte = 32 then scanFunctionName (pos + 1) stop (pos + 1) rest
      else if byte = 40 then scanFunctionName start (some pos) (pos + 1) rest
      else if byte = 58 ∨ byte = 93 then (start, some pos)
      else scanFunctionName start stop (pos + 1) rest

/-- `extract_function_name`, for an array of the size `len`. -/
def extractFunctionName (len : Nat) : Option (List UInt8) → List UInt8
  | none => []
  | some func =>
      match scanFunctionName 0 none 0 (cstr func) with
      | (_, none) => (cstr func).take (len - 1)
      | (start, some stop) =>
          if stop ≤ start + 1 then (cstr func).take (len - 1)
          else ((cstr func).drop start).take (min (len - 1) (stop - start))

/-- `temp_time`, an array of 64 bytes.  There is no result where `NULL` is read. -/
def timeText (platform : Platform) (info : LogInfo) : Option (List UInt8) :=
  if info.sec = 0 then some []
  else (platform.localtime info.sec info.usec).map fun time => (cstr time).take 63

/-- The tag that is printed. -/
def tagText (info : LogInfo) : List UInt8 :=
  match info.tag with
  | none => ascii "sklog"
  | some tag => cstr tag

/-- The letter of the level that is printed. -/
def levelText (info : LogInfo) (logbody : Option (List UInt8)) : Option (List UInt8) :=
  match logbody with
  | none => levelStrings .kLevelFatal
  | some _ => levelStrings info.level

/-- What `"[%s][%s][%d %d][%s][%s,%s,%d] "` prints. -/
def header (time : List UInt8) (info : LogInfo) (level : List UInt8) : List UInt8 :=
  ascii "[" ++ level ++ ascii "][" ++ time ++ ascii "][" ++
    decimal info.pid ++ ascii " " ++ decimal info.tid ++ ascii "][" ++ tagText info ++
    ascii "][" ++ extractFileName info.filename ++ ascii "," ++
    extractFunctionName 128 info.funcName ++ ascii "," ++ decimal info.line ++ ascii "] "

/-- What is written as the body. -/
def bodyText : Option (List UInt8) → List UInt8
  | none => ascii "error!! NULL==_logbody"
  | some logbody => (cstr logbody).take MAX_LINE_LEN

/-! ## The line -/

/-- The header is printed, and the cursor goes on by what `snprintf` returns.  There is no
result where a string or the time is missing or an assertion fails. -/
def writeHeader
    (platform : Platform) (info : LogInfo) (logbody : Option (List UInt8)) (log : BufferIo)
    (room : log.pos + 1024 ≤ log.cap) : Option BufferIo :=
  match timeText platform info, levelText info logbody with
  | none, _ => none
  | some _, none => none
  | some time, some level =>
      let text := header time info level
      -- a length that no `int` holds makes `snprintf` fail
      if 2 ^ 31 ≤ text.length then none
      else
        let log := (log.print 1024 text room (Nat.succ_pos 1023)).updateCursor
          (log.pos + text.length) (log.length + text.length)
        if log.pos = log.length then some log else none

/-- The body and the newline.  There is no result where the byte in front of the array would
be read. -/
def writeBody (logbody : Option (List UInt8)) (log : BufferIo) : Option BufferIo :=
  let log := log.write (bodyText logbody)
  match log.lastByte with
  | none => none
  | some byte => if byte = 10 then some log else some (log.write [10])

/-- `log_formater`.  There is no result where an assertion fails. -/
def logFormater
    (platform : Platform) (info : Option LogInfo) (logbody : Option (List UInt8))
    (log : BufferIo) : Option BufferIo :=
  if atEnd : log.pos = log.length then
    if room : log.length + MAX_LINE_LEN < log.cap then
      match info with
      | none => writeBody logbody log
      | some info =>
          (writeHeader platform info logbody log (by rw [MAX_LINE_LEN] at room; omega)).bind
            (writeBody logbody)
    else none
  else none

/-- What `log_write` changes in the `LogInfo`. -/
def prepare (platform : Platform) (info : LogInfo) (logbody : Option (List UInt8)) : LogInfo :=
  let info := if logbody = none then { info with level := .kLevelFatal } else info
  if info.pid = -1 ∧ info.tid = -1 ∧ info.maintid = -1 then
    { info with
      pid := platform.getPid
      tid := platform.getTid
      maintid := platform.getMainTid }
  else info

/-- The array that `log_write` prints for a `LogInfo`. -/
def logWrite (platform : Platform) (info : LogInfo) (logbody : Option (List UInt8)) :
    Option BufferIo :=
  logFormater platform (some (prepare platform info logbody)) logbody (.new (4 * 1024))

/-! ## What a line should be -/

/-- The header as far as it is written, the body as far as it is taken, and a newline. -/
def lineText (header : List UInt8) (logbody : Option (List UInt8)) : List UInt8 :=
  let front := header.take 1023 ++ bodyText logbody
  if front.getLast? = some 10 then front else front ++ [10]

/-- A text was written, byte for byte, and a zero is left behind it. -/
structure IsLine (log : BufferIo) (text : List UInt8) : Prop where
  written : log.parray.take log.length = text.map some
  ends : ∃ index, log.length ≤ index ∧ ∃ cell, log.parray[index]? = some cell ∧
    cell.getD 0 = 0

/-- `log_write` puts the line together for a `LogInfo` and a body. -/
def Formats (platform : Platform) (info : LogInfo) (logbody : Option (List UInt8)) : Prop :=
  ∃ time level log, timeText platform info = some time ∧
    levelText (prepare platform info logbody) logbody = some level ∧
    logWrite platform info logbody = some log ∧
    IsLine log (lineText (header time (prepare platform info logbody) level) logbody)

/-- How many bytes the time, the numbers and the strings of a header have. -/
def partsLength (time : List UInt8) (info : LogInfo) : Nat :=
  time.length + (decimal info.pid).length + (decimal info.tid).length +
    (tagText info).length + (extractFileName info.filename).length +
    (extractFunctionName 128 info.funcName).length + (decimal info.line).length

variable {platform : Platform} {info : LogInfo} {logbody : Option (List UInt8)}
variable {time level : List UInt8} {log result : BufferIo} {text : List UInt8}

theorem tag_prepare (platform : Platform) (info : LogInfo) (logbody : Option (List UInt8)) :
    (prepare platform info logbody).tag = info.tag := by
  cases logbody with
  | none =>
      simp only [prepare, if_true]
      split
      · rfl
      · rfl
  | some body =>
      simp only [prepare, reduceCtorEq, if_false]
      split
      · rfl
      · rfl

/-- The time is the one that the caller has put in. -/
theorem timeText_prepare (platform : Platform) (info : LogInfo)
    (logbody : Option (List UInt8)) :
    timeText platform (prepare platform info logbody) = timeText platform info := by
  cases logbody with
  | none =>
      simp only [prepare, if_true]
      split
      · rfl
      · rfl
  | some body =>
      simp only [prepare, reduceCtorEq, if_false]
      split
      · rfl
      · rfl

/-- Only the time 0 is not looked up. -/
theorem exists_timeText :
    (∃ time, timeText platform info = some time) ↔
      info.sec = 0 ∨ platform.localtime info.sec info.usec ≠ none := by
  unfold timeText
  by_cases noTime : info.sec = 0
  · rw [if_pos noTime]
    exact iff_of_true ⟨[], rfl⟩ (Or.inl noTime)
  · rw [if_neg noTime, or_iff_right noTime]
    cases platform.localtime info.sec info.usec with
    | none => simp
    | some time => simp

/-- A level is one letter, and only `kLevelNone` has none. -/
theorem levelText_prepare (platform : Platform) (info : LogInfo)
    (logbody : Option (List UInt8)) :
    (∃ level, levelText (prepare platform info logbody) logbody = some level) ↔
      logbody = none ∨ info.level ≠ .kLevelNone := by
  cases logbody with
  | none => exact iff_of_true ⟨ascii "F", rfl⟩ (Or.inl rfl)
  | some body =>
      have isLevel : (prepare platform info (some body)).level = info.level := by
        simp only [prepare, reduceCtorEq, if_false]
        split
        · rfl
        · rfl
      rw [levelText, isLevel]
      cases info.level <;> simp [levelStrings]

theorem length_of_levelText (isLevel : levelText info logbody = some level) :
    level.length = 1 := by
  have letters : ∀ letterOf, levelStrings letterOf = some level → level.length = 1 := by
    intro letterOf isString
    cases letterOf with
    | kLevelNone => cases isString
    | _ =>
        cases isString
        rfl
  cases logbody with
  | none => exact letters .kLevelFatal isLevel
  | some body => exact letters info.level isLevel

theorem length_header
    (time : List UInt8) (info : LogInfo) (isLevel : level.length = 1) :
    (header time info level).length = partsLength time info + 15 := by
  have one (byte : String) (isOne : byte.toList.length = 1) : (ascii byte).length = 1 := by
    rw [ascii, List.length_map, isOne]
  have two (bytes : String) (isTwo : bytes.toList.length = 2) : (ascii bytes).length = 2 := by
    rw [ascii, List.length_map, isTwo]
  simp only [header, partsLength, List.length_append, isLevel, one "[" rfl, one " " rfl,
    one "," rfl, two "][" rfl, two "] " rfl]
  omega

theorem length_tag_le
    (platform : Platform) (time : List UInt8) (info : LogInfo)
    (logbody : Option (List UInt8)) {tag : List UInt8} (hasTag : info.tag = some tag) :
    (cstr tag).length ≤ partsLength time (prepare platform info logbody) := by
  rw [partsLength, tagText, tag_prepare, hasTag]
  dsimp only
  omega

theorem length_bodyText (logbody : Option (List UInt8)) :
    (bodyText logbody).length ≤ MAX_LINE_LEN := by
  cases logbody with
  | none => decide
  | some body => exact List.length_take_le _ _

/-- A line is a header that may be cut, a body and a newline, unless there is one. -/
theorem lineText_eq (header : List UInt8) (logbody : Option (List UInt8)) :
    ∃ ending, lineText header logbody = header.take 1023 ++ (bodyText logbody ++ ending) ∧
      (ending = [] ∨ ending = [10]) := by
  rw [lineText]
  split
  · exact ⟨[], by rw [List.append_nil], Or.inl rfl⟩
  · exact ⟨[10], by rw [List.append_assoc], Or.inr rfl⟩

theorem length_lineText_le (header : List UInt8) (logbody : Option (List UInt8)) :
    (lineText header logbody).length ≤ 1024 + MAX_LINE_LEN := by
  obtain ⟨ending, isLine, isEnding⟩ := lineText_eq header logbody
  have bodyShort := length_bodyText logbody
  have endingShort : ending.length ≤ 1 := by
    obtain rfl | rfl := isEnding
    · exact Nat.zero_le 1
    · exact Nat.le_refl 1
  rw [isLine, List.length_append, List.length_append, List.length_take]
  omega

/-- A body is written as a C string. -/
theorem zero_notMem_bodyText (logbody : Option (List UInt8)) : 0 ∉ bodyText logbody := by
  cases logbody with
  | none => decide
  | some body => exact fun present => zero_notMem_cstr body (List.mem_of_mem_take present)

/-! ## A header that fits -/

/-- A header of at most 1023 bytes is written whole, and the cursor stands behind it. -/
theorem contains_writeHeader
    (isTime : timeText platform info = some time)
    (isLevel : levelText info logbody = some level)
    (contains : log.Contains []) (room : log.pos + 1024 ≤ log.cap)
    (fits : (header time info level).length ≤ 1023) :
    ∃ result, writeHeader platform info logbody log room = some result ∧
      result.cap = log.cap ∧ result.Contains (header time info level) := by
  have printed := contains.print room (Nat.succ_pos 1023) (Nat.lt_succ_of_le fits)
  rw [List.nil_append] at printed
  refine ⟨_, ?_, ?_, printed⟩
  · rw [writeHeader, isTime, isLevel]
    dsimp only
    rw [if_neg (by omega), if_pos (printed.pos_eq.trans printed.length_eq.symm)]
  · rw [BufferIo.cap_updateCursor, BufferIo.cap_print]

/-- The body and the newline are written behind a text if there is room for them. -/
theorem contains_writeBody
    (logbody : Option (List UInt8)) (contains : log.Contains text) (nonempty : text ≠ [])
    (room : text.length + MAX_LINE_LEN < log.cap) :
    ∃ result, writeBody logbody log = some result ∧ result.cap = log.cap ∧
      result.Contains
        (if (text ++ bodyText logbody).getLast? = some 10 then text ++ bodyText logbody
        else text ++ bodyText logbody ++ [10]) := by
  have short := length_bodyText logbody
  have withBody : (log.write (bodyText logbody)).Contains (text ++ bodyText logbody) :=
    contains.write (by omega)
  have isLast : (text ++ bodyText logbody).getLast? =
      some ((text ++ bodyText logbody).getLast (by simp [nonempty])) :=
    List.getLast?_eq_some_getLast _
  rw [writeBody, withBody.lastByte, isLast]
  dsimp only
  by_cases isNewline : (text ++ bodyText logbody).getLast (by simp [nonempty]) = 10
  · rw [if_pos isNewline, if_pos (congrArg some isNewline)]
    exact ⟨_, rfl, BufferIo.cap_write log _, withBody⟩
  · rw [if_neg isNewline, if_neg fun same => isNewline (Option.some.inj same)]
    refine ⟨_, rfl, ?_, withBody.write ?_⟩
    · rw [BufferIo.cap_write, BufferIo.cap_write]
    · rw [BufferIo.cap_write, List.length_append, List.length_singleton]
      omega

/-- A buffer that holds a text and is not full is a line. -/
theorem isLine_of_contains (contains : log.Contains text) (notFull : text.length < log.cap) :
    IsLine log text := by
  obtain ⟨⟨behind, isArray, zeros⟩, -, isLength⟩ := contains
  constructor
  · rw [isLength, isArray, ← List.length_map (f := some), List.take_left]
  · rw [BufferIo.cap, isArray, List.length_append, List.length_map] at notFull
    obtain ⟨cell, rest, rfl⟩ := List.exists_cons_of_length_pos (l := behind) (by omega)
    refine ⟨text.length, by omega, cell, ?_, zeros cell List.mem_cons_self⟩
    rw [isArray, List.getElem?_append_right (by rw [List.length_map]), List.length_map,
      Nat.sub_self, List.getElem?_cons_zero]

/-- Whenever the header fits, the line is right. -/
theorem formats_of_fits
    (isTime : timeText platform info = some time)
    (hasLevel : logbody = none ∨ info.level ≠ .kLevelNone)
    (fits : partsLength time (prepare platform info logbody) ≤ 1008) :
    Formats platform info logbody := by
  obtain ⟨level, isLevel⟩ := (levelText_prepare platform info logbody).mpr hasLevel
  have isHeader := length_header time (prepare platform info logbody)
    (length_of_levelText isLevel)
  have empty := BufferIo.contains_new (4 * 1024)
  obtain ⟨printed, isPrinted, capPrinted, containsHeader⟩ :=
    contains_writeHeader ((timeText_prepare platform info logbody).trans isTime) isLevel
      empty (by rw [empty.pos_eq, BufferIo.cap_new]; decide) (by omega)
  rw [BufferIo.cap_new] at capPrinted
  obtain ⟨line, isLine, capLine, containsLine⟩ := contains_writeBody logbody
    containsHeader (List.ne_nil_of_length_pos (by omega))
    (by rw [capPrinted, MAX_LINE_LEN]; omega)
  refine ⟨time, level, line, isTime, isLevel, ?_, ?_⟩
  · rw [logWrite, logFormater, dif_pos (empty.pos_eq.trans empty.length_eq.symm),
      dif_pos (by rw [empty.length_eq, BufferIo.cap_new]; decide)]
    dsimp only
    rw [isPrinted]
    exact isLine
  · have whole : (header time (prepare platform info logbody) level).take 1023 =
        header time (prepare platform info logbody) level :=
      List.take_of_length_le (by omega)
    have short := length_lineText_le
      (header time (prepare platform info logbody) level) logbody
    rw [lineText, whole] at short ⊢
    rw [MAX_LINE_LEN] at short
    exact isLine_of_contains containsLine (by omega)

/-! ## A header that does not fit -/

/-- A header of more bytes is cut, and the cursor goes on behind the zero at its end. -/
theorem writeHeader_of_long
    (isTime : timeText platform info = some time)
    (isLevel : levelText info logbody = some level)
    (room : log.pos + 1024 ≤ log.cap)
    (long : 1023 < (header time info level).length)
    (written : writeHeader platform info logbody log room = some result) :
    result.parray[log.pos + 1023]? = some (some 0) ∧ log.pos + 1023 < result.pos := by
  rw [writeHeader, isTime, isLevel] at written
  dsimp only at written
  split at written
  · cases written
  · split at written
    · cases written
      have posLe := log.bounds.1
      rw [BufferIo.parray_updateCursor, BufferIo.pos_updateCursor, BufferIo.cap_print]
      have cut := BufferIo.print_cuts room (Nat.succ_pos 1023) long
      exact ⟨cut, by omega⟩
    · cases written

/-- The body and the newline do not change what stands before the cursor. -/
theorem getElem?_writeBody {index : Nat}
    (written : writeBody logbody log = some result) (before : index < log.pos) :
    result.parray[index]? = log.parray[index]? ∧ index < result.pos := by
  obtain ⟨sameBody, further⟩ := BufferIo.getElem?_write before (bodyText logbody)
  rw [writeBody] at written
  split at written
  · cases written
  · split at written
    · cases written
      exact ⟨sameBody, by omega⟩
    · cases written
      obtain ⟨sameNewline, onward⟩ := BufferIo.getElem?_write
        (Nat.lt_of_lt_of_le before further) [10]
      exact ⟨sameNewline.trans sameBody, by omega⟩

/-- Behind the header a line has no zeros. -/
theorem getElem?_lineText_ne (header : List UInt8) (logbody : Option (List UInt8)) :
    (lineText header logbody)[1023]? ≠ some 0 := by
  obtain ⟨ending, isLine, isEnding⟩ := lineText_eq header logbody
  have front : (header.take 1023).length ≤ 1023 := List.length_take_le _ _
  rw [isLine, List.getElem?_append_right front]
  intro isZero
  have present := List.mem_of_getElem? isZero
  obtain present | present := List.mem_append.mp present
  · exact zero_notMem_bodyText logbody present
  · obtain rfl | rfl := isEnding
    · cases present
    · exact absurd present (by decide)

/-- Whenever the header does not fit, a zero stands in the line. -/
theorem not_formats_of_long
    (long : ∀ time, timeText platform info = some time →
      1008 < partsLength time (prepare platform info logbody)) :
    ¬ Formats platform info logbody := by
  rintro ⟨time, level, log, isTime, isLevel, isLog, isLine⟩
  have isHeader := length_header time (prepare platform info logbody)
    (length_of_levelText isLevel)
  have tooLong := long time isTime
  rw [logWrite, logFormater] at isLog
  split at isLog
  · split at isLog
    · obtain ⟨printed, isPrinted, isLog⟩ := Option.bind_eq_some_iff.mp isLog
      obtain ⟨zero, further⟩ := writeHeader_of_long
        ((timeText_prepare platform info logbody).trans isTime) isLevel _ (by omega) isPrinted
      obtain ⟨same, onward⟩ := getElem?_writeBody isLog further
      have isFirst : (BufferIo.new (4 * 1024)).pos + 1023 = 1023 := rfl
      rw [isFirst] at same onward zero
      have posLe := log.bounds.1
      have written := congrArg (·[1023]?) isLine.written
      rw [List.getElem?_take_of_lt (by omega), same, zero, List.getElem?_map] at written
      obtain ⟨byte, isByte, isZero⟩ := Option.map_eq_some_iff.mp written.symm
      rw [Option.some.inj isZero] at isByte
      exact getElem?_lineText_ne _ _ isByte
    · cases isLog
  · cases isLog

/-! ## The line that `log_write` prints -/

/-- For every `LogInfo` and every body, the line is the header as far as it is written, the
body as far as it is taken, and a newline, with a zero behind it, if and only if the level
has a letter, the time is 0 or has a local time, and the parts of the header have at most
1008 bytes, so that nothing of the header is cut. -/
theorem logWrite_iff (platform : Platform) (info : LogInfo) (logbody : Option (List UInt8)) :
    Formats platform info logbody ↔
      (logbody = none ∨ info.level ≠ .kLevelNone) ∧
        (info.sec = 0 ∨ platform.localtime info.sec info.usec ≠ none) ∧
        ∀ time, timeText platform info = some time →
          partsLength time (prepare platform info logbody) ≤ 1008 := by
  constructor
  · intro formats
    obtain ⟨time, level, log, isTime, isLevel, -⟩ := id formats
    refine ⟨(levelText_prepare platform info logbody).mp ⟨level, isLevel⟩,
      exists_timeText.mp ⟨time, isTime⟩, fun other isOther => ?_⟩
    cases isTime.symm.trans isOther
    refine Nat.le_of_not_lt fun long => not_formats_of_long (fun other isOther => ?_) formats
    cases isTime.symm.trans isOther
    exact long
  · rintro ⟨hasLevel, hasTime, fits⟩
    obtain ⟨time, isTime⟩ := exists_timeText.mpr hasTime
    exact formats_of_fits isTime hasLevel (fits time isTime)

/-- A long tag: the header is cut in it, and the body stands behind the zero and behind bytes
that were not written.  And a time without a local time. -/
theorem logWrite_long_tag :
    ¬ Formats ⟨7, 7, 7, fun _ _ => some (ascii "now")⟩
      { level := .kLevelInfo, tag := some (List.replicate 1100 97), filename := none,
        funcName := none, line := 1, sec := 0, usec := 0, pid := 7, tid := 7, maintid := 7 }
      (some (ascii "hello")) ∧
    ¬ Formats ⟨7, 7, 7, fun sec _ => if sec < 2 ^ 56 then some (ascii "now") else none⟩
      { level := .kLevelInfo, tag := none, filename := none, funcName := none, line := 1,
        sec := 2 ^ 60, usec := 0, pid := 7, tid := 7, maintid := 7 }
      (some (ascii "hello")) := by
  have isTag : cstr (List.replicate 1100 97) = List.replicate 1100 97 := by
    refine cstr_eq_self_iff.mpr fun present => ?_
    cases List.eq_of_mem_replicate present
  constructor
  · refine not_formats_of_long fun time _ =>
      Nat.lt_of_lt_of_le ?_ (length_tag_le _ time _ _ rfl)
    rw [isTag, List.length_replicate]
    decide
  · rintro ⟨time, level, log, isTime, -⟩
    cases isTime

end LogBase
end Skplat
