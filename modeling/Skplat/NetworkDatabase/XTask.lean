import Skplat.BasicHashtable.KeyedHash
import Skplat.Sqlite.XTask

/-!
# Tasks in the table `xtask` of `NetworkDatabase`

`xTaskInsert` formats a task into an `insert` statement, and `xTaskGetTasks` reads the
columns by their names.  The text `NULL` stands for an empty file name, and is read as a
null pointer in every column.

SQLite is taken to execute a statement as it reads, as for the table of the C library.
-/

namespace Skplat
namespace NetworkDatabase

open CString Sql

/-- The fields of `TaskInfo` that are stored. -/
structure TaskFields where
  mTaskId : List UInt8
  mUrl : List UInt8
  mRecvFile : List UInt8
  mSendFile : List UInt8
  mSendData : List UInt8
  mSendOnly : Bool
  mMethod : Int32
  mRetryTimes : Int32
  mTaskType : Int32
  mConnTimeout : Int64
  mTaskTimeout : Int64
  deriving DecidableEq

/-- The fields of `TaskInfo` that are read. -/
structure TaskInfo extends TaskFields where
  mTaskState : Int32
  mStartTime : Int64
  mStartConnTime : Int64
  mTryTimes : Int32

/-- The columns of `xtask`. -/
inductive TaskColumn
  | taskId | url | method | sendData | taskType | sendOnly | recvFile | sendFile | retryTimes
  | connTimeout | taskTimeout | taskState | startTime | connTime | tryTimes
  deriving DecidableEq, Repr

namespace TaskColumn

/-- The defaults of the columns. -/
def default : TaskColumn → Value
  | .taskState | .startTime | .connTime | .tryTimes => .integer 0
  | _ => .null

/-- The columns of the statement for a task with data. -/
def withData : List TaskColumn :=
  [.taskId, .url, .method, .recvFile, .sendFile, .sendData, .sendOnly, .retryTimes, .taskType,
    .connTimeout, .taskTimeout]

/-- The columns of the statement for a task without data. -/
def withoutData : List TaskColumn :=
  [.taskId, .url, .method, .recvFile, .sendFile, .sendOnly, .retryTimes, .taskType,
    .connTimeout, .taskTimeout]

end TaskColumn

/-- What is stored for the name of a file. -/
def fileOrNull (file : List UInt8) : List UInt8 :=
  if file = [] then ascii "NULL" else cstr file

/-- The format string of `xTaskInsert` for a task with data. -/
def insertDataSql (task : TaskFields) : Template where
  pieces := [.text (ascii "insert into xtask(task_id,url,method,recv_file,"),
    .text (ascii "send_file,send_data,send_only,retry_times,task_type,"),
    .text (ascii "conn_timeout,task_timeout)  values ("),
    .literal (cstr task.mTaskId), .text (ascii ","),
    .literal (cstr task.mUrl), .text (ascii ","),
    .number task.mMethod.toInt, .text (ascii ","),
    .literal (fileOrNull task.mRecvFile), .text (ascii ","),
    .literal (fileOrNull task.mSendFile), .text (ascii ",?,"),
    .number (if task.mSendOnly then 1 else 0), .text (ascii ","),
    .number task.mRetryTimes.toInt, .text (ascii ","),
    .number task.mTaskType.toInt, .text (ascii ","),
    .number task.mConnTimeout.toInt, .text (ascii ","),
    .number task.mTaskTimeout.toInt, .text (ascii ")")]
  terminator := ascii ";"
  plain := plain_of_all rfl
  separated := of_decide_eq_true rfl
  starts := ⟨105, _, _, rfl, rfl⟩
  ends := of_decide_eq_true rfl
  terminated := terminates_semicolon

/-- The format string of `xTaskInsert` for a task without data. -/
def insertSql (task : TaskFields) : Template where
  pieces := [.text (ascii "insert into xtask(task_id,url,method,recv_file,"),
    .text (ascii "send_file,send_only,retry_times,task_type,"),
    .text (ascii "conn_timeout,task_timeout)  values ("),
    .literal (cstr task.mTaskId), .text (ascii ","),
    .literal (cstr task.mUrl), .text (ascii ","),
    .number task.mMethod.toInt, .text (ascii ","),
    .literal (fileOrNull task.mRecvFile), .text (ascii ","),
    .literal (fileOrNull task.mSendFile), .text (ascii ","),
    .number (if task.mSendOnly then 1 else 0), .text (ascii ","),
    .number task.mRetryTimes.toInt, .text (ascii ","),
    .number task.mTaskType.toInt, .text (ascii ","),
    .number task.mConnTimeout.toInt, .text (ascii ","),
    .number task.mTaskTimeout.toInt, .text (ascii ")")]
  terminator := ascii ";"
  plain := plain_of_all rfl
  separated := of_decide_eq_true rfl
  starts := ⟨105, _, _, rfl, rfl⟩
  ends := of_decide_eq_true rfl
  terminated := terminates_semicolon

/-- The format string that is used for a task. -/
def taskSql (task : TaskFields) : Template :=
  if task.mSendData.length > 0 then insertDataSql task else insertSql task

/-- `ColumnEntry::getString`, where nothing is a null pointer.  A blob is compared with the
memory behind it. -/
def ColumnEntry.getString (beyond : List UInt8) : Value → Option (List UInt8)
  | .text bytes => if cstr bytes = ascii "NULL" then none else some (cstr bytes)
  | .blob bytes => if cstr (bytes ++ beyond) = ascii "NULL" then none else some bytes
  | _ => none

/-- `ColumnEntry::getLong`, for numbers and null values. -/
def ColumnEntry.getLong : Value → Option Int64
  | .null => some 0
  | .integer value => some (Int64.ofInt value)
  | _ => none

/-- The data of a column with its size, which counts the zero behind a text. -/
def ColumnEntry.getData (beyond : List UInt8) (value : Value) : List UInt8 :=
  match ColumnEntry.getString beyond value, value with
  | some bytes, .text _ => bytes ++ [0]
  | some bytes, _ => bytes
  | none, _ => []

/-- `xTaskInfoVCallback`; a null pointer for the id or the URL ends the program. -/
def xTaskInfoVCallback (beyond : List UInt8) (colEntries : TaskColumn → Value) :
    Option TaskInfo := do
  return {
    mTaskId := ← ColumnEntry.getString beyond (colEntries .taskId)
    mUrl := ← ColumnEntry.getString beyond (colEntries .url)
    mMethod := (← ColumnEntry.getLong (colEntries .method)).toInt32
    mSendData := ColumnEntry.getData beyond (colEntries .sendData)
    mTaskType := (← ColumnEntry.getLong (colEntries .taskType)).toInt32
    mSendOnly := (← ColumnEntry.getLong (colEntries .sendOnly)) ≠ 0
    mRecvFile := (ColumnEntry.getString beyond (colEntries .recvFile)).getD []
    mSendFile := (ColumnEntry.getString beyond (colEntries .sendFile)).getD []
    mRetryTimes := (← ColumnEntry.getLong (colEntries .retryTimes)).toInt32
    mConnTimeout := ← ColumnEntry.getLong (colEntries .connTimeout)
    mTaskTimeout := ← ColumnEntry.getLong (colEntries .taskTimeout)
    mTaskState := (← ColumnEntry.getLong (colEntries .taskState)).toInt32
    mStartTime := ← ColumnEntry.getLong (colEntries .startTime)
    mStartConnTime := ← ColumnEntry.getLong (colEntries .connTime)
    mTryTimes := (← ColumnEntry.getLong (colEntries .tryTimes)).toInt32 }

/-! ## The table of a row -/

section Row

open BasicHashtable hiding Table

variable {Column : Type} [DecidableEq Column] {hashOf : Column → ℕ} {columns : List Column}
variable {colEntries : BasicHashtable.Table (Column × Value)}

/-- `getRowData`, where a column stands for its name. -/
def getRowData (hashOf : Column → ℕ) (columns : List Column)
    (colEntries : BasicHashtable.Table (Column × Value)) (row : Column → Value) :
    Except Failure (BasicHashtable.Table (Column × Value)) :=
  KeyedHash.addAll Prod.fst hashOf colEntries
    (columns.map fun column => (column, row column))

theorem foldl_put_row
    (row : Column → Value) (map : Column → Option (Column × Value))
    {column : Column}
    (present : column ∈ columns) :
    (columns.map fun column => (column, row column)).foldl
      (KeyedHash.put Prod.fst) map column = some (column, row column) := by
  induction columns using List.reverseRecOn with
  | nil => cases present
  | append_singleton columns last inductionHypothesis =>
      rw [List.map_append, List.foldl_append, List.map_singleton, List.foldl_cons,
        List.foldl_nil, KeyedHash.put]
      by_cases same : column = last
      · rw [same, Function.update_self]
      · rw [Function.update_of_ne same]
        have before : column ∈ columns :=
          (List.mem_append.mp present).resolve_right (by simpa using same)
        exact inductionHypothesis before

/-- The callback finds the values of the row in the hash table, which is filled again for each
row, unless it is refused its memory. -/
theorem get_getRowData
    {entrySize nCol : ℕ}
    (isNew : KeyedHash.new entrySize nCol = .ok colEntries)
    (rows : List (Column → Value)) (row : Column → Value) :
    (∃ failure, (rows ++ [row]).foldlM (getRowData hashOf columns) colEntries =
        .error failure ∧ failure.IsRefusal) ∨
    ∃ result, (rows ++ [row]).foldlM (getRowData hashOf columns) colEntries = .ok result ∧
      ∀ column ∈ columns, KeyedHash.get Prod.fst hashOf result column =
        .ok (some (column, row column)) := by
  obtain ⟨mirrors, addedOnly⟩ : KeyedHash.Mirrors Prod.fst hashOf colEntries (fun _ => none) ∧
      KeyedHash.AddedOnly colEntries := KeyedHash.mirrors_new isNew
  clear isNew
  generalize (fun _ => none : Column → Option (Column × Value)) = map at mirrors
  induction rows generalizing colEntries map with
  | nil =>
      rw [List.nil_append, List.foldlM_cons, getRowData]
      obtain ⟨failure, fails, refuses⟩ | ⟨result, adds, filled, -⟩ :=
        KeyedHash.addAll_cases mirrors addedOnly (columns.map fun column => (column, row column))
      · rw [fails]
        exact Or.inl ⟨failure, rfl, refuses⟩
      · rw [adds]
        refine Or.inr ⟨result, rfl, fun column present => ?_⟩
        rw [KeyedHash.get_eq filled, foldl_put_row row map present]
  | cons first rows inductionHypothesis =>
      rw [List.cons_append, List.foldlM_cons, getRowData]
      obtain ⟨failure, fails, refuses⟩ | ⟨next, adds, filled, nextOnly⟩ :=
        KeyedHash.addAll_cases mirrors addedOnly (columns.map fun column => (column, first column))
      · rw [fails]
        exact Or.inl ⟨failure, rfl, refuses⟩
      · rw [adds]
        exact inductionHypothesis nextOnly _ filled

end Row

/-- `xTaskGetTasks`. -/
def xTaskGetTasks (beyond : List UInt8) (taskState : Int32)
    (table : List (TaskColumn → Value)) : Option (List TaskInfo) :=
  (table.filter fun row => row .taskState = .integer taskState.toInt).mapM
    (xTaskInfoVCallback beyond)

/-- `xTaskInsert` and its result, `OK` or `BAD_VALUE`.  The state is not used. -/
def xTaskInsert
    (otherwise : List (List Elem) → List (TaskColumn → Value) → List (TaskColumn → Value))
    (task : TaskFields) (_taskState : Int32) (table : List (TaskColumn → Value)) :
    Int × List (TaskColumn → Value) :=
  if task.mTaskId = [] then (-6, table)
  else if task.mSendData.length > 0 then
    (0, runInsert otherwise TaskColumn.default TaskColumn.withData (insertDataSql task) 4095
      (.blob task.mSendData) table)
  else
    (0, runInsert otherwise TaskColumn.default TaskColumn.withoutData (insertSql task) 4095
      .null table)

/-- What `xTaskInsert` is meant for. -/
structure Accepted (task : TaskFields) : Prop where
  taskId : task.mTaskId ≠ []
  quoteFree : QuoteFree (taskSql task).pieces
  fits : (taskSql task).core.length ≤ 4095

/-- The task is read back behind the tasks that were there in this state. -/
def RoundTrips
    (otherwise : List (List Elem) → List (TaskColumn → Value) → List (TaskColumn → Value))
    (beyond : List UInt8) (task : TaskFields) (taskState : Int32) : Prop :=
  ∀ table before, xTaskGetTasks beyond taskState table = some before →
    ∃ found, xTaskGetTasks beyond taskState (xTaskInsert otherwise task taskState table).2 =
        some (before ++ [found]) ∧
      found.toTaskFields = task

/-- The state is `TASK_STATE_IDLE`, the strings have no zeros and are not `NULL`, and the
data is not read as `NULL`. -/
structure Storable (beyond : List UInt8) (task : TaskFields) (taskState : Int32) : Prop where
  idle : taskState = 0
  taskId : 0 ∉ task.mTaskId ∧ task.mTaskId ≠ ascii "NULL"
  url : 0 ∉ task.mUrl ∧ task.mUrl ≠ ascii "NULL"
  recvFile : 0 ∉ task.mRecvFile ∧ task.mRecvFile ≠ ascii "NULL"
  sendFile : 0 ∉ task.mSendFile ∧ task.mSendFile ≠ ascii "NULL"
  sendData : task.mSendData ≠ [] → cstr (task.mSendData ++ beyond) ≠ ascii "NULL"

/-- The row of a task. -/
def taskRow (task : TaskFields) : TaskColumn → Value
  | .taskId => .text (cstr task.mTaskId)
  | .url => .text (cstr task.mUrl)
  | .method => .integer task.mMethod.toInt
  | .sendData => if task.mSendData.length > 0 then .blob task.mSendData else .null
  | .taskType => .integer task.mTaskType.toInt
  | .sendOnly => .integer (if task.mSendOnly then 1 else 0)
  | .recvFile => .text (fileOrNull task.mRecvFile)
  | .sendFile => .text (fileOrNull task.mSendFile)
  | .retryTimes => .integer task.mRetryTimes.toInt
  | .connTimeout => .integer task.mConnTimeout.toInt
  | .taskTimeout => .integer task.mTaskTimeout.toInt
  | .taskState | .startTime | .connTime | .tryTimes => .integer 0

variable {task : TaskFields} {taskState : Int32} {beyond : List UInt8}
variable {otherwise : List (List Elem) → List (TaskColumn → Value) → List (TaskColumn → Value)}

/-- The values of the statement with data. -/
theorem values_insertDataSql
    (bound : Value) :
    (insertDataSql task).values bound =
      [.text (cstr task.mTaskId), .text (cstr task.mUrl), .integer task.mMethod.toInt,
        .text (fileOrNull task.mRecvFile), .text (fileOrNull task.mSendFile), bound,
        .integer (if task.mSendOnly then 1 else 0), .integer task.mRetryTimes.toInt,
        .integer task.mTaskType.toInt, .integer task.mConnTimeout.toInt,
        .integer task.mTaskTimeout.toInt] := by
  rfl

/-- The values of the statement without data. -/
theorem values_insertSql
    (bound : Value) :
    (insertSql task).values bound =
      [.text (cstr task.mTaskId), .text (cstr task.mUrl), .integer task.mMethod.toInt,
        .text (fileOrNull task.mRecvFile), .text (fileOrNull task.mSendFile),
        .integer (if task.mSendOnly then 1 else 0), .integer task.mRetryTimes.toInt,
        .integer task.mTaskType.toInt, .integer task.mConnTimeout.toInt,
        .integer task.mTaskTimeout.toInt] := by
  rfl

/-- The row of the statement with data. -/
theorem insertRow_withData
    (data : task.mSendData.length > 0) :
    insertRow TaskColumn.default TaskColumn.withData
      ((insertDataSql task).values (.blob task.mSendData)) = taskRow task := by
  rw [values_insertDataSql]
  funext column
  cases column with
  | sendData => exact (if_pos data).symm
  | _ => rfl

/-- The row of the statement without data. -/
theorem insertRow_withoutData
    (noData : ¬task.mSendData.length > 0) :
    insertRow TaskColumn.default TaskColumn.withoutData ((insertSql task).values .null) =
      taskRow task := by
  rw [values_insertSql]
  funext column
  cases column with
  | sendData => exact (if_neg noData).symm
  | _ => rfl

/-- What `xTaskInsert` adds. -/
theorem xTaskInsert_eq
    (accepted : Accepted task) (taskState : Int32) (table : List (TaskColumn → Value)) :
    (xTaskInsert otherwise task taskState table).2 = table ++ [taskRow task] := by
  have quoteFree := accepted.quoteFree
  have fits := accepted.fits
  rw [xTaskInsert, if_neg accepted.taskId]
  by_cases data : task.mSendData.length > 0
  · rw [taskSql, if_pos data] at quoteFree fits
    rw [if_pos data, runInsert_of_fits (by decide) quoteFree fits, insertRow_withData data]
  · rw [taskSql, if_neg data] at quoteFree fits
    rw [if_neg data, runInsert_of_fits (by decide) quoteFree fits, insertRow_withoutData data]

/-- What is read back for the name of a file. -/
def fileRead (file : List UInt8) : List UInt8 :=
  if cstr file = ascii "NULL" then [] else cstr file

/-- A text is read, unless it is the text that stands for nothing. -/
theorem getString_text
    (text : List UInt8) :
    ColumnEntry.getString beyond (.text (cstr text)) =
      if cstr text = ascii "NULL" then none else some (cstr text) := by
  rw [ColumnEntry.getString, cstr_cstr]

/-- The name of a file is read back. -/
theorem getString_fileOrNull
    (file : List UInt8) :
    (ColumnEntry.getString beyond (.text (fileOrNull file))).getD [] = fileRead file := by
  unfold fileOrNull fileRead
  by_cases empty : file = []
  · rw [if_pos empty, empty]
    rfl
  · rw [if_neg empty, getString_text]
    by_cases null : cstr file = ascii "NULL"
    · rw [if_pos null, if_pos null]
      rfl
    · rw [if_neg null, if_neg null]
      rfl

/-- The name of a file is read back as it was exactly if it has no zeros and is not the
text that stands for no file. -/
theorem fileRead_eq_self_iff
    (file : List UInt8) :
    fileRead file = file ↔ 0 ∉ file ∧ file ≠ ascii "NULL" := by
  unfold fileRead
  by_cases null : cstr file = ascii "NULL"
  · rw [if_pos null]
    refine iff_of_false ?_ ?_
    · intro empty
      rw [← empty] at null
      revert null
      decide
    · rintro ⟨nonzero, different⟩
      rw [cstr_eq_self_iff.mpr nonzero] at null
      exact different null
  · rw [if_neg null, cstr_eq_self_iff, iff_self_and]
    intro nonzero same
    rw [cstr_eq_self_iff.mpr nonzero] at null
    exact null same

/-- The data is read back as it was exactly if it is not read as a null pointer. -/
theorem getData_eq_self_iff :
    ColumnEntry.getData beyond (taskRow task .sendData) = task.mSendData ↔
      (task.mSendData ≠ [] → cstr (task.mSendData ++ beyond) ≠ ascii "NULL") := by
  by_cases empty : task.mSendData = []
  · simp [taskRow, ColumnEntry.getData, ColumnEntry.getString, empty]
  · have data : task.mSendData.length > 0 := List.length_pos_iff.mpr empty
    by_cases null : cstr (task.mSendData ++ beyond) = ascii "NULL"
    · simp [taskRow, ColumnEntry.getData, ColumnEntry.getString, data, null, empty]
    · simp [taskRow, ColumnEntry.getData, ColumnEntry.getString, data, null]

/-- What is read back for a task. -/
def TaskFields.stored (task : TaskFields) (beyond : List UInt8) : TaskInfo :=
  { task with
    mTaskId := cstr task.mTaskId
    mUrl := cstr task.mUrl
    mRecvFile := fileRead task.mRecvFile
    mSendFile := fileRead task.mSendFile
    mSendData := ColumnEntry.getData beyond (taskRow task .sendData)
    mTaskState := 0
    mStartTime := 0
    mStartConnTime := 0
    mTryTimes := 0 }

/-- The fields that are read back are those of the task. -/
theorem stored_eq_self_iff :
    (task.stored beyond).toTaskFields = task ↔
      0 ∉ task.mTaskId ∧ 0 ∉ task.mUrl ∧
        (0 ∉ task.mRecvFile ∧ task.mRecvFile ≠ ascii "NULL") ∧
        (0 ∉ task.mSendFile ∧ task.mSendFile ≠ ascii "NULL") ∧
        (task.mSendData ≠ [] → cstr (task.mSendData ++ beyond) ≠ ascii "NULL") := by
  constructor
  · intro same
    exact ⟨cstr_eq_self_iff.mp (congrArg TaskFields.mTaskId same),
      cstr_eq_self_iff.mp (congrArg TaskFields.mUrl same),
      (fileRead_eq_self_iff _).mp (congrArg TaskFields.mRecvFile same),
      (fileRead_eq_self_iff _).mp (congrArg TaskFields.mSendFile same),
      getData_eq_self_iff.mp (congrArg TaskFields.mSendData same)⟩
  · rintro ⟨taskId, url, recvFile, sendFile, sendData⟩
    rw [TaskFields.stored, cstr_eq_self_iff.mpr taskId, cstr_eq_self_iff.mpr url,
      (fileRead_eq_self_iff _).mpr recvFile, (fileRead_eq_self_iff _).mpr sendFile,
      getData_eq_self_iff.mpr sendData]

theorem getLong_int32 (value : Int32) :
    ColumnEntry.getLong (.integer value.toInt) = some value.toInt64 :=
  rfl

theorem getLong_int64 (value : Int64) :
    ColumnEntry.getLong (.integer value.toInt) = some value :=
  congrArg some (Int64.ofInt_toInt value)

/-- The row is read back as it was stored, unless the id or the URL is read as a null
pointer. -/
theorem xTaskInfoVCallback_taskRow :
    xTaskInfoVCallback beyond (taskRow task) =
      if cstr task.mTaskId = ascii "NULL" ∨ cstr task.mUrl = ascii "NULL" then none
      else some (task.stored beyond) := by
  have sendOnly : ColumnEntry.getLong (.integer (if task.mSendOnly then 1 else 0)) =
      some (if task.mSendOnly then 1 else 0) := by
    cases task.mSendOnly with
    | false => rfl
    | true => rfl
  have flag : decide ((if task.mSendOnly then (1 : Int64) else 0) ≠ 0) = task.mSendOnly := by
    cases task.mSendOnly with
    | false => rfl
    | true => rfl
  unfold xTaskInfoVCallback
  by_cases noId : cstr task.mTaskId = ascii "NULL"
  · have read : ColumnEntry.getString beyond (taskRow task .taskId) = none := by
      rw [taskRow, getString_text, if_pos noId]
    rw [read, if_pos (Or.inl noId)]
    rfl
  · have readId : ColumnEntry.getString beyond (taskRow task .taskId) =
        some (cstr task.mTaskId) := by
      rw [taskRow, getString_text, if_neg noId]
    rw [readId]
    by_cases noUrl : cstr task.mUrl = ascii "NULL"
    · have read : ColumnEntry.getString beyond (taskRow task .url) = none := by
        rw [taskRow, getString_text, if_pos noUrl]
      rw [read, if_pos (Or.inr noUrl)]
      rfl
    · have readUrl : ColumnEntry.getString beyond (taskRow task .url) =
          some (cstr task.mUrl) := by
        rw [taskRow, getString_text, if_neg noUrl]
      rw [readUrl, if_neg (not_or.mpr ⟨noId, noUrl⟩)]
      have zero : ColumnEntry.getLong (.integer 0) = some 0 := rfl
      simp only [taskRow, getLong_int32, getLong_int64, sendOnly, zero, getString_fileOrNull,
        Option.bind_eq_bind, Option.bind_some, Int32.toInt32_toInt64, flag]
      rfl

/-- A row that is in the state comes behind the others. -/
theorem xTaskGetTasks_concat
    {table : List (TaskColumn → Value)} {before : List TaskInfo}
    (read : xTaskGetTasks beyond 0 table = some before) :
    xTaskGetTasks beyond 0 (table ++ [taskRow task]) =
      (xTaskInfoVCallback beyond (taskRow task)).map fun found => before ++ [found] := by
  rw [xTaskGetTasks] at read
  have isIdle : taskRow task .taskState = .integer (Int32.toInt 0) := rfl
  rw [xTaskGetTasks, List.filter_append, List.mapM_append, read]
  cases called : xTaskInfoVCallback beyond (taskRow task) with
  | none => simp [isIdle, called]
  | some found => simp [isIdle, called]

/-- A task is not found in another state than the first. -/
theorem not_roundTrips
    (accepted : Accepted task)
    (notIdle : taskState ≠ 0) :
    ¬RoundTrips otherwise beyond task taskState := by
  intro roundTrips
  obtain ⟨found, read, -⟩ := roundTrips [] [] rfl
  have other : ¬taskRow task .taskState = .integer taskState.toInt := by
    intro same
    have zero : (0 : Int) = taskState.toInt := Value.integer.inj same
    exact notIdle (Int32.toInt_inj.mp zero.symm)
  rw [xTaskInsert_eq accepted, xTaskGetTasks, List.nil_append,
    List.filter_cons_of_neg (by simpa using other)] at read
  cases read

/-- When a task that is accepted round trips. -/
theorem roundTrips_iff
    (accepted : Accepted task) :
    RoundTrips otherwise beyond task taskState ↔ Storable beyond task taskState := by
  by_cases idle : taskState = 0
  · subst idle
    constructor
    · intro roundTrips
      obtain ⟨found, read, isTask⟩ := roundTrips [] [] rfl
      rw [xTaskInsert_eq accepted, xTaskGetTasks_concat rfl, xTaskInfoVCallback_taskRow,
        Option.map_eq_some_iff] at read
      obtain ⟨stored, isStored, isFound⟩ := read
      rw [Option.ite_none_left_eq_some, not_or] at isStored
      obtain ⟨⟨idRead, urlRead⟩, isStored⟩ := isStored
      rw [List.nil_append] at isFound
      cases isStored
      cases isFound
      obtain ⟨taskId, url, recvFile, sendFile, sendData⟩ := stored_eq_self_iff.mp isTask
      rw [cstr_eq_self_iff.mpr taskId] at idRead
      rw [cstr_eq_self_iff.mpr url] at urlRead
      exact ⟨rfl, ⟨taskId, idRead⟩, ⟨url, urlRead⟩, recvFile, sendFile, sendData⟩
    · intro storable table before read
      refine ⟨task.stored beyond, ?_, stored_eq_self_iff.mpr ⟨storable.taskId.1,
        storable.url.1, storable.recvFile, storable.sendFile, storable.sendData⟩⟩
      have idRead := storable.taskId.2
      have urlRead := storable.url.2
      rw [← cstr_eq_self_iff.mpr storable.taskId.1] at idRead
      rw [← cstr_eq_self_iff.mpr storable.url.1] at urlRead
      rw [xTaskInsert_eq accepted, xTaskGetTasks_concat read, xTaskInfoVCallback_taskRow,
        if_neg (not_or.mpr ⟨idRead, urlRead⟩)]
      rfl
  · exact iff_of_false (not_roundTrips accepted idle) fun storable => idle storable.idle

/-- A task without data. -/
def plainTask : TaskFields where
  mTaskId := [49]
  mUrl := [50]
  mRecvFile := []
  mSendFile := []
  mSendData := []
  mSendOnly := false
  mMethod := 0
  mRetryTimes := 1
  mTaskType := 0
  mConnTimeout := 10
  mTaskTimeout := 20

theorem accepted_plainTask : Accepted plainTask where
  taskId := by decide
  quoteFree := quoteFree_of_all (by decide +kernel)
  fits := by decide +kernel

/-- For every task that is accepted, whatever the table holds and SQLite does with other
texts: a task of the C library is read back as it was exactly if its strings have no
zeros, its path and file names are not empty and its two timeouts are the same; a task
of `NetworkDatabase` exactly if it is stored in the idle state, its strings have no zeros
and none of them, nor its data, is read as the text for nothing. -/
theorem persisted_iff_storable
    {entry : Sqlite.TaskInfo} {task : TaskFields}
    (entryAccepted : Sqlite.Accepted entry)
    (taskAccepted : Accepted task)
    (entryOtherwise : List (List Elem) → List (Sqlite.TaskColumn → Value) →
      List (Sqlite.TaskColumn → Value))
    (taskOtherwise : List (List Elem) → List (TaskColumn → Value) →
      List (TaskColumn → Value))
    (beyond : List UInt8) (taskState : Int32) :
    (Sqlite.RoundTrips entryOtherwise entry ↔ Sqlite.Storable entry) ∧
    (RoundTrips taskOtherwise beyond task taskState ↔ Storable beyond task taskState) :=
  ⟨Sqlite.roundTrips_iff entryOtherwise entryAccepted, roundTrips_iff taskAccepted⟩

/-- A task of the C library is kept if it has a path and one timeout, and another is not; a task
without data is kept in the idle state. -/
theorem persisted_plainTask :
    Sqlite.RoundTrips (fun _ table => table) Sqlite.fullTask ∧
    ¬Sqlite.RoundTrips (fun _ table => table) Sqlite.plainTask ∧
    RoundTrips (fun _ table => table) [] plainTask 0 := by
  have fullTask : Sqlite.Storable Sqlite.fullTask :=
    ⟨by decide, by decide, by decide, by decide, by decide, by decide, rfl⟩
  have idle : Storable [] plainTask 0 :=
    ⟨rfl, by decide, by decide, by decide, by decide, by decide⟩
  have full := persisted_iff_storable Sqlite.accepted_fullTask accepted_plainTask
    (fun _ table => table) (fun _ table => table) [] 0
  have plain := persisted_iff_storable Sqlite.accepted_plainTask accepted_plainTask
    (fun _ table => table) (fun _ table => table) [] 0
  exact ⟨full.1.mpr fullTask, fun kept => (plain.1.mp kept).accessPath.2 rfl, full.2.mpr idle⟩

/-- An empty path is read back as `NULL` and one timeout as the other, and a task that was
stored with another state than the idle one is not found. -/
theorem changed_and_not_found :
    Sqlite.Accepted Sqlite.plainTask ∧
    Sqlite.xtaskGetTodoTasks
        (Sqlite.xtaskInsertTask (fun _ table => table) Sqlite.plainTask []).2 =
      some [{ Sqlite.plainTask with accessPath := ascii "NULL", taskTimeout := 10 }] ∧
    ¬Sqlite.RoundTrips (fun _ table => table) Sqlite.plainTask ∧
    Accepted plainTask ∧
    xTaskGetTasks [] 1 (xTaskInsert (fun _ table => table) plainTask 1 []).2 = some [] ∧
    ¬RoundTrips (fun _ table => table) [] plainTask 1 := by
  refine ⟨Sqlite.accepted_plainTask, ?_, ?_, accepted_plainTask, ?_, ?_⟩
  · have empty : Sqlite.xtaskGetTodoTasks [] = some [] := rfl
    rw [Sqlite.xtaskGetTodoTasks_insert Sqlite.accepted_plainTask empty]
    rfl
  · rw [Sqlite.roundTrips_iff _ Sqlite.accepted_plainTask]
    intro storable
    exact storable.accessPath.2 rfl
  · rw [xTaskInsert_eq accepted_plainTask]
    rfl
  · exact not_roundTrips accepted_plainTask (by decide)

end NetworkDatabase
end Skplat
