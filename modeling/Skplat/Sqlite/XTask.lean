import Skplat.Data.CString
import Skplat.Sql.Table

/-!
# Tasks in the table `xtask` of the C library

`xtask_insert_task` formats a task into an `insert` statement with a place for the data,
and `xtask_get_todo_tasks` reads the columns by their position in a `select` statement.

SQLite is taken to execute a statement as it reads: the row that is added has the values
of the statement.
-/

namespace Skplat
namespace Sqlite

open CString Sql

/-- `task_info`. -/
structure TaskInfo where
  taskId : List UInt8
  moduleName : List UInt8
  host : List UInt8
  accessPath : List UInt8
  saveFile : List UInt8
  sendFile : List UInt8
  sendData : List UInt8
  port : Int16
  sendOnly : Bool
  retryTimes : Int32
  taskType : Int32
  connTimeout : Int64
  taskTimeout : Int64
  deriving DecidableEq

/-- The columns of `xtask`. -/
inductive TaskColumn
  | taskId | moduleName | host | port | path | sendData | taskType | sendOnly | saveFile
  | sendFile | retryTimes | connTimeout | taskTimeout | process
  deriving DecidableEq, Repr

namespace TaskColumn

/-- The defaults of the columns. -/
def default : TaskColumn → Value
  | .process => .integer 0
  | _ => .null

/-- The columns that `xtask_insert_task` names. -/
def inserted : List TaskColumn :=
  [.taskId, .moduleName, .host, .path, .saveFile, .sendFile, .sendData, .port, .sendOnly,
    .retryTimes, .taskType, .connTimeout, .taskTimeout]

/-- The columns that `xtask_get_todo_tasks` selects. -/
def selected : List TaskColumn :=
  [.taskId, .moduleName, .host, .path, .saveFile, .sendFile, .sendData, .port, .sendOnly,
    .retryTimes, .taskType, .connTimeout, .taskTimeout]

end TaskColumn

/-- `RETRY_DEFAULT_TIMES`. -/
def retryDefaultTimes : Int32 := 5

/-- `CONNECT_DEFAULT_TIMEOUT`. -/
def connectDefaultTimeout : Int64 := 15000

/-- `TASK_DEFAULT_TIMEOUT`. -/
def taskDefaultTimeout : Int64 := 60000

/-- What is stored for a string that may be empty. -/
def orNull (text : List UInt8) : List UInt8 :=
  if text ≠ [] then cstr text else ascii "NULL"

/-- The format string of `xtask_insert_task`. -/
def insertTaskSql (entry : TaskInfo) : Template where
  pieces := [.text (ascii "insert into xtask(task_id,module_name,host,path,save_file, "),
    .text (ascii "            send_file,send_data,port,send_only, retry_times,"),
    .text (ascii "task_type,conn_timeout,task_timeout)            values ("),
    .literal (cstr entry.taskId), .text (ascii ","),
    .literal (cstr entry.moduleName), .text (ascii ","),
    .literal (cstr entry.host), .text (ascii ","),
    .literal (orNull entry.accessPath), .text (ascii ","),
    .literal (orNull entry.saveFile), .text (ascii ","),
    .literal (orNull entry.sendFile), .text (ascii ",?,"),
    .number entry.port.toInt, .text (ascii ","),
    .number (if entry.sendOnly then 1 else 0), .text (ascii ","),
    .number (if entry.retryTimes > 0 then entry.retryTimes else retryDefaultTimes).toInt,
    .text (ascii ","),
    .number entry.taskType.toInt, .text (ascii ","),
    .number (if entry.connTimeout > 0 then entry.connTimeout
      else connectDefaultTimeout).toInt,
    .text (ascii ","),
    .number (if entry.taskTimeout > 0 then entry.connTimeout
      else taskDefaultTimeout).toInt,
    .text (ascii ")")]
  terminator := ascii ";"
  plain := plain_of_all rfl
  separated := of_decide_eq_true rfl
  starts := ⟨105, _, _, rfl, rfl⟩
  ends := of_decide_eq_true rfl
  terminated := terminates_semicolon

/-- `sqlite3_bind_blob`. -/
def bindBlob (data : List UInt8) : Value :=
  if data = [] then .null else .blob data

/-- `sqlite3_column_text` and the constructor of `std::string`, which does not take a null
pointer. -/
def columnText : Value → Option (List UInt8)
  | .null => none
  | .integer value => some (decimal value)
  | .text bytes => some (cstr bytes)
  | .blob bytes => some (cstr bytes)

/-- `sqlite3_column_blob` with `sqlite3_column_bytes`. -/
def columnBlob : Value → List UInt8
  | .null => []
  | .integer value => decimal value
  | .text bytes => bytes
  | .blob bytes => bytes

/-- `sqlite3_column_int64`, for values that need no conversion. -/
def columnInt64 : Value → Option Int64
  | .null => some 0
  | .integer value => some (Int64.ofInt value)
  | _ => none

/-- `sqlite3_column_int`, for values that need no conversion. -/
def columnInt : Value → Option Int32
  | .null => some 0
  | .integer value => some (Int32.ofInt value)
  | _ => none

/-- `xtask_table_callback`. -/
def xtaskTableCallback : List Value → Option TaskInfo
  | [taskId, moduleName, host, path, saveFile, sendFile, sendData, port, sendOnly, retryTimes,
      taskType, connTimeout, taskTimeout] => do
    return {
      taskId := ← columnText taskId
      moduleName := ← columnText moduleName
      host := ← columnText host
      accessPath := ← columnText path
      saveFile := ← columnText saveFile
      sendFile := ← columnText sendFile
      sendData := columnBlob sendData
      port := (← columnInt port).toInt16
      sendOnly := (← columnInt sendOnly) ≠ 0
      retryTimes := ← columnInt retryTimes
      taskType := ← columnInt taskType
      connTimeout := ← columnInt64 connTimeout
      taskTimeout := ← columnInt64 taskTimeout }
  | _ => none

/-- `xtask_get_todo_tasks`. -/
def xtaskGetTodoTasks (table : List (TaskColumn → Value)) : Option (List TaskInfo) :=
  (selectRows TaskColumn.selected (fun row => row .process = .integer 0) table).mapM
    xtaskTableCallback

/-- `xtask_insert_task` and its result. -/
def xtaskInsertTask
    (otherwise : List (List Elem) → List (TaskColumn → Value) → List (TaskColumn → Value))
    (entry : TaskInfo) (table : List (TaskColumn → Value)) :
    Int × List (TaskColumn → Value) :=
  if entry.taskId = [] ∨ entry.host = [] ∨ entry.moduleName = [] then (-1, table)
  else (0, runInsert otherwise TaskColumn.default TaskColumn.inserted (insertTaskSql entry) 8191
    (bindBlob entry.sendData) table)

/-- What `xtask_insert_task` is meant for. -/
structure Accepted (entry : TaskInfo) : Prop where
  taskId : entry.taskId ≠ []
  host : entry.host ≠ []
  moduleName : entry.moduleName ≠ []
  quoteFree : QuoteFree (insertTaskSql entry).pieces
  fits : (insertTaskSql entry).core.length ≤ 8191
  retryTimes : entry.retryTimes > 0
  connTimeout : entry.connTimeout > 0
  taskTimeout : entry.taskTimeout > 0

/-- The task is read back behind the tasks that were there. -/
def RoundTrips
    (otherwise : List (List Elem) → List (TaskColumn → Value) → List (TaskColumn → Value))
    (entry : TaskInfo) : Prop :=
  ∀ table before, xtaskGetTodoTasks table = some before →
    xtaskGetTodoTasks (xtaskInsertTask otherwise entry table).2 = some (before ++ [entry])

/-- What is read back for a task. -/
def TaskInfo.stored (entry : TaskInfo) : TaskInfo :=
  { entry with
    taskId := cstr entry.taskId
    moduleName := cstr entry.moduleName
    host := cstr entry.host
    accessPath := orNull entry.accessPath
    saveFile := orNull entry.saveFile
    sendFile := orNull entry.sendFile
    taskTimeout := entry.connTimeout }

/-- The strings have no zeros, the path and the file names are not empty, and the two
timeouts are the same. -/
structure Storable (entry : TaskInfo) : Prop where
  taskId : 0 ∉ entry.taskId
  moduleName : 0 ∉ entry.moduleName
  host : 0 ∉ entry.host
  accessPath : 0 ∉ entry.accessPath ∧ entry.accessPath ≠ []
  saveFile : 0 ∉ entry.saveFile ∧ entry.saveFile ≠ []
  sendFile : 0 ∉ entry.sendFile ∧ entry.sendFile ≠ []
  taskTimeout : entry.taskTimeout = entry.connTimeout

/-- The row that is added. -/
def taskRow (entry : TaskInfo) : TaskColumn → Value :=
  insertRow TaskColumn.default TaskColumn.inserted
    ((insertTaskSql entry).values (bindBlob entry.sendData))

@[simp] theorem cstr_orNull (text : List UInt8) : cstr (orNull text) = orNull text := by
  unfold orNull
  split
  · exact cstr_cstr text
  · decide

/-- A string that may be empty is stored as it is exactly if it is not. -/
theorem orNull_eq_self_iff
    (text : List UInt8) :
    orNull text = text ↔ 0 ∉ text ∧ text ≠ [] := by
  unfold orNull
  by_cases empty : text = []
  · simp [empty, ascii]
  · rw [if_pos empty, cstr_eq_self_iff]
    exact (and_iff_left empty).symm

variable {entry : TaskInfo}

/-- What is read back is the task. -/
theorem stored_eq_self_iff :
    entry.stored = entry ↔ Storable entry := by
  constructor
  · intro same
    exact {
      taskId := cstr_eq_self_iff.mp (congrArg TaskInfo.taskId same)
      moduleName := cstr_eq_self_iff.mp (congrArg TaskInfo.moduleName same)
      host := cstr_eq_self_iff.mp (congrArg TaskInfo.host same)
      accessPath := (orNull_eq_self_iff _).mp (congrArg TaskInfo.accessPath same)
      saveFile := (orNull_eq_self_iff _).mp (congrArg TaskInfo.saveFile same)
      sendFile := (orNull_eq_self_iff _).mp (congrArg TaskInfo.sendFile same)
      taskTimeout := (congrArg TaskInfo.taskTimeout same).symm }
  · intro storable
    rw [TaskInfo.stored, cstr_eq_self_iff.mpr storable.taskId,
      cstr_eq_self_iff.mpr storable.moduleName, cstr_eq_self_iff.mpr storable.host,
      (orNull_eq_self_iff _).mpr storable.accessPath,
      (orNull_eq_self_iff _).mpr storable.saveFile,
      (orNull_eq_self_iff _).mpr storable.sendFile]
    exact congrArg (fun timeout => { entry with taskTimeout := timeout })
      storable.taskTimeout.symm

/-- The values of the statement, in the order of the columns that it names. -/
theorem values_insertTaskSql
    (bound : Value) :
    (insertTaskSql entry).values bound =
      [.text (cstr entry.taskId), .text (cstr entry.moduleName), .text (cstr entry.host),
        .text (orNull entry.accessPath), .text (orNull entry.saveFile),
        .text (orNull entry.sendFile), bound, .integer entry.port.toInt,
        .integer (if entry.sendOnly then 1 else 0),
        .integer (if entry.retryTimes > 0 then entry.retryTimes else retryDefaultTimes).toInt,
        .integer entry.taskType.toInt,
        .integer (if entry.connTimeout > 0 then entry.connTimeout
          else connectDefaultTimeout).toInt,
        .integer (if entry.taskTimeout > 0 then entry.connTimeout
          else taskDefaultTimeout).toInt] := by
  rfl

/-- The columns of the row that `xtask_get_todo_tasks` reads. -/
theorem selected_taskRow :
    TaskColumn.selected.map (taskRow entry) =
      (insertTaskSql entry).values (bindBlob entry.sendData) := by
  rw [taskRow, values_insertTaskSql]
  rfl

/-- The row is to be done. -/
theorem process_taskRow : taskRow entry .process = .integer 0 := by
  rw [taskRow, values_insertTaskSql]
  rfl

@[simp] theorem columnBlob_bindBlob (data : List UInt8) : columnBlob (bindBlob data) = data := by
  unfold bindBlob
  split
  · rename_i empty
    exact empty.symm
  · rfl

@[simp] theorem columnInt_toInt (value : Int32) : columnInt (.integer value.toInt) = some value :=
  congrArg some (Int32.ofInt_toInt value)

@[simp] theorem columnInt64_toInt (value : Int64) :
    columnInt64 (.integer value.toInt) = some value :=
  congrArg some (Int64.ofInt_toInt value)

/-- The row is read back as it was stored. -/
theorem callback_taskRow
    (accepted : Accepted entry) :
    xtaskTableCallback (TaskColumn.selected.map (taskRow entry)) = some entry.stored := by
  have port : columnInt (.integer entry.port.toInt) = some entry.port.toInt32 := rfl
  have sendOnly : columnInt (.integer (if entry.sendOnly then 1 else 0)) =
      some (if entry.sendOnly then 1 else 0) := by
    cases entry.sendOnly with
    | false => rfl
    | true => rfl
  rw [selected_taskRow, values_insertTaskSql, if_pos accepted.retryTimes,
    if_pos accepted.connTimeout, if_pos accepted.taskTimeout]
  simp only [xtaskTableCallback, columnText, cstr_cstr, cstr_orNull, columnBlob_bindBlob,
    columnInt_toInt, columnInt64_toInt, port, sendOnly, Option.bind_eq_bind, Option.bind_some,
    Int16.toInt16_toInt32]
  have flag : decide ((if entry.sendOnly then (1 : Int32) else 0) ≠ 0) = entry.sendOnly := by
    cases entry.sendOnly with
    | false => rfl
    | true => rfl
  rw [flag]
  rfl

/-- A row that is to be done comes behind the others. -/
theorem xtaskGetTodoTasks_concat
    {table : List (TaskColumn → Value)} {row : TaskColumn → Value} {before : List TaskInfo}
    {task : TaskInfo}
    (read : xtaskGetTodoTasks table = some before)
    (isTodo : row .process = .integer 0)
    (isTask : xtaskTableCallback (TaskColumn.selected.map row) = some task) :
    xtaskGetTodoTasks (table ++ [row]) = some (before ++ [task]) := by
  rw [xtaskGetTodoTasks] at read
  rw [xtaskGetTodoTasks, selectRows_concat (by simpa using isTodo), List.mapM_append, read]
  simp [isTask]

/-- A task that is accepted is read back as it was stored. -/
theorem xtaskGetTodoTasks_insert
    {otherwise : List (List Elem) → List (TaskColumn → Value) → List (TaskColumn → Value)}
    {table : List (TaskColumn → Value)} {before : List TaskInfo}
    (accepted : Accepted entry)
    (read : xtaskGetTodoTasks table = some before) :
    xtaskGetTodoTasks (xtaskInsertTask otherwise entry table).2 =
      some (before ++ [entry.stored]) := by
  have valid : ¬(entry.taskId = [] ∨ entry.host = [] ∨ entry.moduleName = []) := by
    simp [accepted.taskId, accepted.host, accepted.moduleName]
  rw [xtaskInsertTask, if_neg valid,
    runInsert_of_fits (by decide) accepted.quoteFree accepted.fits]
  exact xtaskGetTodoTasks_concat read process_taskRow (callback_taskRow accepted)

/-- When a task that is accepted round trips. -/
theorem roundTrips_iff
    (otherwise : List (List Elem) → List (TaskColumn → Value) → List (TaskColumn → Value))
    (accepted : Accepted entry) :
    RoundTrips otherwise entry ↔ Storable entry := by
  rw [← stored_eq_self_iff]
  constructor
  · intro roundTrips
    have read := roundTrips [] [] rfl
    rw [xtaskGetTodoTasks_insert accepted rfl] at read
    simpa using read
  · intro same table before read
    rw [xtaskGetTodoTasks_insert accepted read, same]

/-- A task without a path and with two timeouts. -/
def plainTask : TaskInfo where
  taskId := [49]
  moduleName := [50]
  host := [51]
  accessPath := []
  saveFile := [52]
  sendFile := [53]
  sendData := []
  port := 80
  sendOnly := false
  retryTimes := 1
  taskType := 0
  connTimeout := 10
  taskTimeout := 20

theorem accepted_plainTask : Accepted plainTask where
  taskId := by decide
  host := by decide
  moduleName := by decide
  quoteFree := quoteFree_of_all (by decide +kernel)
  fits := by decide +kernel
  retryTimes := by decide
  connTimeout := by decide
  taskTimeout := by decide

/-- It has a path, and one timeout. -/
def fullTask : TaskInfo where
  taskId := [49]
  moduleName := [50]
  host := [51]
  accessPath := [54]
  saveFile := [52]
  sendFile := [53]
  sendData := [0, 39]
  port := 80
  sendOnly := false
  retryTimes := 1
  taskType := 0
  connTimeout := 10
  taskTimeout := 10

theorem accepted_fullTask : Accepted fullTask where
  taskId := by decide
  host := by decide
  moduleName := by decide
  quoteFree := quoteFree_of_all (by decide +kernel)
  fits := by decide +kernel
  retryTimes := by decide
  connTimeout := by decide
  taskTimeout := by decide

end Sqlite
end Skplat
