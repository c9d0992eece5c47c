import Onlyboxes.Console.RouteStore

/-!
# The persisted tasks

The `tasks` table of SQLite and the statements of `queries/tasks.sql` and
`queries/maintenance.sql`. The primary key is the task id, so the table is a map from
it to the other columns; a unique index covers owner and request id where the request
id is not empty.

As in `RouteStore`, a statement takes effect and succeeds or fails without effect.
-/

namespace Onlyboxes.Console

inductive TaskStatus where
  | queued
  | dispatched
  | running
  | succeeded
  | failed
  | timeout
  | canceled
  deriving DecidableEq, Repr

/-- `isTaskTerminal`. The others are the statuses that the updates require. -/
def isTaskTerminal : TaskStatus → Bool
  | .succeeded | .failed | .timeout | .canceled => true
  | .queued | .dispatched | .running => false

/-- The columns of `tasks` beside the primary key. -/
structure TaskRow where
  ownerID : String
  requestID : String
  capability : String
  inputJSON : String
  status : TaskStatus := .queued
  commandID : String := ""
  resultJSON : String := ""
  errorCode : String := ""
  errorMessage : String := ""
  createdAtUnixMs : Int
  updatedAtUnixMs : Int
  deadlineAtUnixMs : Int
  completedAtUnixMs : Int := 0
  expiresAtUnixMs : Int := 0
  deriving DecidableEq, Repr

/-- `tasks`, by `task_id`. -/
abbrev TaskRows := GoMap String TaskRow

/-- `sqlc.MarkTaskTerminalParams` beside the task id. -/
structure MarkTaskTerminalParams where
  status : TaskStatus
  resultJSON : String
  errorCode : String
  errorMessage : String
  updatedAtUnixMs : Int
  completedAtUnixMs : Int
  expiresAtUnixMs : Int
  deriving DecidableEq, Repr

namespace TaskRow

/-- `SET` of `MarkTaskDispatched`. -/
def setDispatched (updatedAt : Int) (row : TaskRow) : TaskRow :=
  { row with status := .dispatched, updatedAtUnixMs := updatedAt }

/-- `SET` of `MarkTaskRunning`. -/
def setRunning (commandID : String) (updatedAt : Int) (row : TaskRow) : TaskRow :=
  { row with status := .running, commandID := commandID, updatedAtUnixMs := updatedAt }

/-- `SET` of `MarkTaskTerminal`. -/
def setTerminal (params : MarkTaskTerminalParams) (row : TaskRow) : TaskRow :=
  { row with
    status := params.status
    resultJSON := params.resultJSON
    errorCode := params.errorCode
    errorMessage := params.errorMessage
    updatedAtUnixMs := params.updatedAtUnixMs
    completedAtUnixMs := params.completedAtUnixMs
    expiresAtUnixMs := params.expiresAtUnixMs }

/-- `SET` of `MarkNonTerminalTasksFailedOnStartup`. -/
def setRestarted (now taskRetentionMs : Int) (row : TaskRow) : TaskRow :=
  { row with
    status := .failed
    errorCode := "console_restarted"
    errorMessage := "task interrupted by console restart"
    updatedAtUnixMs := now
    completedAtUnixMs := now
    expiresAtUnixMs := now + taskRetentionMs }

/-- `WHERE` of `DeleteExpiredTerminalTasks`. -/
def expired (now : Int) (row : TaskRow) : Bool :=
  isTaskTerminal row.status && decide (0 < row.expiresAtUnixMs ∧ row.expiresAtUnixMs ≤ now)

end TaskRow

namespace TaskRows

/-- The rows of an owner's request. -/
def ofRequest (ownerID requestID : String) (row : TaskRow) : Bool :=
  row.ownerID = ownerID && row.requestID = requestID

/-- `InsertTask`, with the primary key and `idx_tasks_owner_request_unique`. -/
def insertTask (rows : TaskRows) (taskID : String) (row : TaskRow) (fault : StoreFault) :
    Except String TaskRows :=
  match fault with
  | some err => .error err
  | none =>
    if (rows.lookup taskID).isSome then .error "UNIQUE constraint failed: tasks.task_id"
    else if row.requestID ≠ "" ∧ rows.entries.any (fun e => ofRequest row.ownerID row.requestID e.2)
    then .error "UNIQUE constraint failed: tasks.owner_id, tasks.request_id"
    else .ok (rows.insert taskID row)

/-- `GetTaskByID`; a row that cannot be read counts as missing. -/
def getTaskByID (rows : TaskRows) (taskID : String) (fault : StoreFault) : Option TaskRow :=
  match fault with
  | some _ => none
  | none => rows.lookup taskID

/-- `GetTaskByOwnerAndRequest`: the task id and the row. -/
def getTaskByOwnerAndRequest (rows : TaskRows) (ownerID requestID : String) (fault : StoreFault) :
    Option (String × TaskRow) :=
  match fault with
  | some _ => none
  | none => (rows.entries.find? fun e => ofRequest ownerID requestID e.2).map fun e => (e.1, e.2)

/-- `UPDATE tasks SET … WHERE task_id = ? AND status IN ('queued', 'dispatched', 'running')`:
    the table and the number of rows. -/
def updateNonTerminal (rows : TaskRows) (taskID : String) (set : TaskRow → TaskRow)
    (fault : StoreFault) : TaskRows × Except String Nat :=
  match fault with
  | some err => (rows, .error err)
  | none =>
    match rows.lookup taskID with
    | none => (rows, .ok 0)
    | some row =>
      if isTaskTerminal row.status then (rows, .ok 0) else (rows.insert taskID (set row), .ok 1)

def markTaskDispatched (rows : TaskRows) (taskID : String) (updatedAt : Int) (fault : StoreFault) :
    TaskRows × Except String Nat :=
  rows.updateNonTerminal taskID (.setDispatched updatedAt) fault

def markTaskRunning (rows : TaskRows) (taskID commandID : String) (updatedAt : Int)
    (fault : StoreFault) : TaskRows × Except String Nat :=
  rows.updateNonTerminal taskID (.setRunning commandID updatedAt) fault

def markTaskTerminal (rows : TaskRows) (taskID : String) (params : MarkTaskTerminalParams)
    (fault : StoreFault) : TaskRows × Except String Nat :=
  rows.updateNonTerminal taskID (.setTerminal params) fault

def deleteExpiredTerminalTasks (rows : TaskRows) (now : Int) (fault : StoreFault) :
    TaskRows × Except String Nat :=
  match fault with
  | some err => (rows, .error err)
  | none =>
    (rows.filter fun _ row => !row.expired now, .ok (rows.entries.countP fun e => e.2.expired now))

def markNonTerminalTasksFailedOnStartup (rows : TaskRows) (now taskRetentionMs : Int) : TaskRows :=
  rows.mapValues fun row =>
    if isTaskTerminal row.status then row else row.setRestarted now taskRetentionMs

end TaskRows

end Onlyboxes.Console
