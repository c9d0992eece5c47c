import Onlyboxes.Console.Dispatch
import Onlyboxes.Console.RandomID
import Onlyboxes.Console.TaskStore

/-!
# The atomic operations of tasks

What `SubmitTask`, `CancelTask`, the goroutines of `executeTask` and the pruners share
(`task.go`), and the operations on it that a mutex, a store call or an atomic variable
makes indivisible. The fields `cancel` of task records are read and written without a
lock, so every access to them is an operation of its own.

Dispatching is part of it: the operations of `ServiceOp` are operations here. What
`prepareTaskInput` and `scopeTaskInputByOwner` make of an input, the contexts of callers
and the answers of workers come from outside.
-/

namespace Onlyboxes.Console

open Text

/-- The parts of Go's library and of the configuration that tasks rely on. -/
structure TaskLib extends GoLib where
  jsonValid : String → Bool
  buildEchoPayload : String → String
  parseEchoPayload : String → Option String
  terminalSessionIntentForTaskInput : String → String → TerminalSessionIntent
  /-- `restoreTaskResultOwnerScope` by owner, capability and payload. -/
  restoreTaskResultOwnerScope : String → String → String → Option String
  /-- Which context error the error of a closed connection is or wraps; a status with the
      code `DeadlineExceeded` counts as a deadline. -/
  closedErrorContext : String → Option ContextError
  /-- `taskRetention`, in milliseconds. -/
  taskRetentionMs : Int
  taskRetentionMs_pos : 0 < taskRetentionMs

inductive TaskMode where
  | sync
  | async
  | auto
  deriving DecidableEq, Repr

/-- `SubmitTaskRequest`, times in milliseconds. -/
structure SubmitTaskRequest where
  capability : String
  inputJSON : String := ""
  mode : String := ""
  wait : Int := 0
  timeout : Int := 0
  requestID : String := ""
  ownerID : String
  deriving DecidableEq, Repr

structure PreparedTaskInput where
  inputJSON : String
  dispatchCapability : String
  targetNodeID : String := ""
  immediateResult : Option String := none
  deriving DecidableEq, Repr

structure TaskSnapshot where
  taskID : String
  requestID : String
  commandID : String
  capability : String
  status : TaskStatus
  resultJSON : String
  errorCode : String
  errorMessage : String
  createdAt : Int
  updatedAt : Int
  deadlineAt : Int
  completedAt : Option Int
  deriving DecidableEq, Repr

/-- `snapshotTask` of `convertDBTask`. -/
def snapshotTask (taskID : String) (row : TaskRow) : TaskSnapshot where
  taskID := taskID
  requestID := row.requestID
  commandID := row.commandID
  capability := row.capability
  status := row.status
  resultJSON := row.resultJSON
  errorCode := row.errorCode
  errorMessage := row.errorMessage
  createdAt := row.createdAtUnixMs
  updatedAt := row.updatedAtUnixMs
  deadlineAt := row.deadlineAtUnixMs
  completedAt := if 0 < row.completedAtUnixMs then some row.completedAtUnixMs else none

structure SubmitTaskResult where
  task : TaskSnapshot
  completed : Bool
  deriving DecidableEq, Repr

/-- The errors of tasks. -/
inductive TaskError where
  | status (err : StatusError)
  /-- `ErrTaskNotFound`. -/
  | notFound
  /-- `ErrTaskTerminal`. -/
  | terminal
  /-- `ErrTaskRequestInProgress`. -/
  | requestInProgress
  /-- `ErrTaskTransitionNotApplied`, with what it is wrapped with. -/
  | transitionNotApplied (what : String)
  | dispatch (err : DispatchError)
  | context (err : ContextError)
  | other (message : String)
  deriving DecidableEq, Repr

/-- `taskRecord`: whether `cancel` is set, what the two `sync.Once` have done, whether the
    context is cancelled and the channel closed. -/
structure TaskRecord where
  id : String
  cancel : Bool := true
  cancelOnce : Bool := false
  canceled : Bool := false
  doneOnce : Bool := false
  done : Bool := false
  deriving DecidableEq, Repr

/-- `doneOnce.Do` with the closing of the channel. -/
def TaskRecord.close (r : TaskRecord) : TaskRecord :=
  if r.doneOnce then r else { r with doneOnce := true, done := true }

/-- The arguments of `executeTask`. -/
structure ExecuteTaskArgs where
  taskID : String
  ownerID : String
  capability : String
  inputJSON : String
  intent : TerminalSessionIntent
  targetNodeID : String
  deriving DecidableEq, Repr

/-- What the `select` of a waiting submission takes. -/
inductive Wake where
  | contextDone (err : ContextError)
  | done
  | timer
  deriving DecidableEq, Repr

/-- The result of `CancelTask`: some errors come with a snapshot. -/
abbrev CancelTaskResult := Except (TaskError × Option TaskSnapshot) TaskSnapshot

/-- The atomic operations. -/
inductive TaskOp where
  | service (o : ServiceOp)
  | nowFn
  | newTaskID
  | prepareTaskInput (capability ownerID inputJSON : String)
  | scopeTaskInputByOwner (capability ownerID inputJSON : String)
  /-- The compare-and-swap on `lastInlineTaskPruneUnixMs`. -/
  | claimInlinePrune (now : Int)
  | deleteExpiredTerminalTasks (now : Int)
  | reserveRequest (requestKey : String)
  | releaseRequest (requestKey : String)
  | insertTask (taskID : String) (row : TaskRow)
  | getTaskByID (taskID : String)
  | getTaskByOwnerAndRequest (ownerID requestID : String)
  | markTaskDispatched (taskID : String) (updatedAt : Int)
  | markTaskRunning (taskID commandID : String) (updatedAt : Int)
  | markTaskTerminal (taskID : String) (params : MarkTaskTerminalParams)
  /-- `setTaskRuntime` of a new record. -/
  | setTaskRuntime (taskID : String)
  | getTaskRuntime (taskID : String)
  /-- The critical section of `completeTaskRuntime`. -/
  | takeTaskRuntime (taskID : String)
  /-- Read `record.cancel`: whether it is set. -/
  | loadCancel (record : Nat)
  /-- `record.cancel = nil`. -/
  | clearCancel (record : Nat)
  /-- `record.cancelOnce.Do(cancel)`, for a `cancel` that is set or nil. -/
  | cancelOnceDo (record : Nat) (cancel : Bool)
  /-- `record.doneOnce.Do` with the closing of the channel. -/
  | doneOnceDo (record : Nat)
  /-- `go s.executeTask(…)`. -/
  | goExecuteTask (args : ExecuteTaskArgs)
  /-- The goroutine begins to run. -/
  | startExecuteTask (goroutine : Nat)
  | newTimer (wait : Int)
  | waitDone (record : Nat) (timer : Option Int)
  /-- The caller gets the result. -/
  | returnSubmit (result : Except TaskError SubmitTaskResult)
  | returnCancel (result : CancelTaskResult)

/-- What an operation returns. -/
@[reducible] def TaskOp.Res : TaskOp → Type
  | .service o => o.Res
  | .nowFn | .newTimer _ => Int
  | .newTaskID => Except String String
  | .prepareTaskInput .. => Except StatusError PreparedTaskInput
  | .scopeTaskInputByOwner .. => Except StatusError String
  | .claimInlinePrune _ | .reserveRequest _ | .loadCancel _ => Bool
  | .deleteExpiredTerminalTasks _ | .markTaskDispatched .. | .markTaskRunning ..
  | .markTaskTerminal .. => Except String Nat
  | .insertTask .. => Except String Unit
  | .getTaskByID _ => Option TaskRow
  | .getTaskByOwnerAndRequest .. => Option (String × TaskRow)
  | .setTaskRuntime _ => Nat
  | .getTaskRuntime _ | .takeTaskRuntime _ => Option Nat
  | .startExecuteTask _ => ExecuteTaskArgs
  | .waitDone .. => Wake
  | .releaseRequest _ | .clearCancel _ | .cancelOnceDo .. | .doneOnceDo _ | .goExecuteTask _
  | .returnSubmit _ | .returnCancel _ => Unit

/-- A program of the task layer. -/
abbrev Task := Prog TaskOp TaskOp.Res

/-- One atomic operation. -/
abbrev invoke (o : TaskOp) : Task o.Res := Prog.call o

/-- What the outside world contributes to one operation. -/
inductive TaskAnswer where
  | none
  | service (ans : Answer)
  | store (fault : StoreFault)
  /-- The bytes of `rand.Read`, or its error. -/
  | random (raw : Except String (Fin 16 → Fin 256))
  | prepared (result : Except StatusError PreparedTaskInput)
  | scoped (result : Except StatusError String)
  | wake (wake : Wake)

/-- The shared state. -/
structure TaskState where
  /-- The part that dispatches work on. -/
  service : ServiceState
  rows : TaskRows := ∅
  /-- `tasks`: the record of each task that is under way. -/
  tasks : GoMap String Nat := ∅
  /-- The task records made so far. -/
  records : List TaskRecord := []
  taskRequestReservations : GoSet String := ∅
  lastInlineTaskPruneUnixMs : Int := 0
  clock : Int
  /-- The ids `newTaskIDFn` has given out; it never repeats one. -/
  issued : List String := []
  /-- The goroutines launched so far, by all processes. -/
  goroutines : List ExecuteTaskArgs := []
  /-- Those that began to run. -/
  started : List Nat := []
  /-- How many were launched by earlier processes. -/
  bygone : Nat := 0
  /-- A goroutine panicked, which ends the process. -/
  panicked : Bool := false

/-- `inlineTaskPruneMinInterval`, in milliseconds. -/
def inlineTaskPruneMinIntervalMs : Int := 15000

namespace TaskState

/-- An operation on the table. -/
def onRows {ρ : Type} (s : TaskState) (result : TaskRows × ρ) : Option (TaskState × ρ) :=
  some ({ s with rows := result.1 }, result.2)

/-- An operation on a record. -/
def onRecord (s : TaskState) (record : Nat) (f : TaskRecord → TaskRecord) :
    Option (TaskState × Unit) :=
  match s.records[record]? with
  | none => none
  | some r => some ({ s with records := s.records.set record (f r) }, ())

/-- `cancelOnce.Do(cancel)`: calling a nil function panics. -/
def cancelOnceDo (s : TaskState) (record : Nat) (cancel : Bool) : Option (TaskState × Unit) :=
  match s.records[record]? with
  | none => none
  | some r =>
    if r.cancelOnce then some (s, ())
    else if cancel then
      some ({ s with records := s.records.set record { r with cancelOnce := true, canceled := true } },
        ())
    else some ({ s with panicked := true }, ())

/-- What the `select` of a waiting submission can take. -/
def canWake (s : TaskState) (record : Nat) (timer : Option Int) : Wake → Bool
  | .contextDone _ => true
  | .done => (s.records[record]?).any (·.done)
  | .timer => timer.any (· ≤ s.clock)

/-- The effect and the result of one operation of a running process. -/
def perform (lib : TaskLib) (s : TaskState) : (o : TaskOp) → TaskAnswer → Option (TaskState × o.Res)
  | .service o, .service ans =>
    match s.service.exec lib.caseMap o ans with
    | none => none
    | some (service, r) => some ({ s with service := service }, r)
  | .nowFn, .none => some (s, s.clock)
  | .newTaskID, .random (.error err) => some (s, .error err)
  | .newTaskID, .random (.ok raw) =>
    if generateUUIDv4 raw ∈ s.issued then none
    else some ({ s with issued := generateUUIDv4 raw :: s.issued }, .ok (generateUUIDv4 raw))
  | .prepareTaskInput .., .prepared result => some (s, result)
  | .scopeTaskInputByOwner .., .scoped result => some (s, result)
  | .claimInlinePrune now, .none =>
    if 0 < s.lastInlineTaskPruneUnixMs ∧
        now - s.lastInlineTaskPruneUnixMs < inlineTaskPruneMinIntervalMs then some (s, false)
    else some ({ s with lastInlineTaskPruneUnixMs := now }, true)
  | .deleteExpiredTerminalTasks now, .store fault =>
    s.onRows (s.rows.deleteExpiredTerminalTasks now fault)
  | .reserveRequest requestKey, .none =>
    if (s.taskRequestReservations.lookup requestKey).isSome then some (s, false)
    else some ({ s with
      taskRequestReservations := s.taskRequestReservations.insert requestKey () }, true)
  | .releaseRequest requestKey, .none =>
    some ({ s with taskRequestReservations := s.taskRequestReservations.erase requestKey }, ())
  | .insertTask taskID row, .store fault =>
    match s.rows.insertTask taskID row fault with
    | .error err => some (s, .error err)
    | .ok rows => some ({ s with rows := rows }, .ok ())
  | .getTaskByID taskID, .store fault => some (s, s.rows.getTaskByID taskID fault)
  | .getTaskByOwnerAndRequest ownerID requestID, .store fault =>
    some (s, s.rows.getTaskByOwnerAndRequest ownerID requestID fault)
  | .markTaskDispatched taskID updatedAt, .store fault =>
    s.onRows (s.rows.markTaskDispatched taskID updatedAt fault)
  | .markTaskRunning taskID commandID updatedAt, .store fault =>
    s.onRows (s.rows.markTaskRunning taskID commandID updatedAt fault)
  | .markTaskTerminal taskID params, .store fault =>
    s.onRows (s.rows.markTaskTerminal taskID params fault)
  | .setTaskRuntime taskID, .none =>
    some ({ s with
      tasks := s.tasks.insert taskID s.records.length
      records := s.records ++ [{ id := taskID }] }, s.records.length)
  | .getTaskRuntime taskID, .none => some (s, s.tasks.lookup taskID)
  | .takeTaskRuntime taskID, .none =>
    some ({ s with tasks := s.tasks.erase taskID }, s.tasks.lookup taskID)
  | .loadCancel record, .none =>
    match s.records[record]? with
    | none => none
    | some r => some (s, r.cancel)
  | .clearCancel record, .none => s.onRecord record fun r => { r with cancel := false }
  | .cancelOnceDo record cancel, .none => s.cancelOnceDo record cancel
  | .doneOnceDo record, .none => s.onRecord record .close
  | .goExecuteTask args, .none => some ({ s with goroutines := s.goroutines ++ [args] }, ())
  | .startExecuteTask goroutine, .none =>
    if goroutine < s.bygone ∨ goroutine ∈ s.started then none
    else match s.goroutines[goroutine]? with
      | none => none
      | some args => some ({ s with started := goroutine :: s.started }, args)
  | .newTimer wait, .none => some (s, s.clock + wait)
  | .waitDone record timer, .wake wake =>
    if s.canWake record timer wake then some (s, wake) else none
  | .returnSubmit _, .none => some (s, ())
  | .returnCancel _, .none => some (s, ())
  | _, _ => none

/-- The effect and the result of one operation. -/
def exec (lib : TaskLib) (s : TaskState) (o : TaskOp) (ans : TaskAnswer) :
    Option (TaskState × o.Res) :=
  if s.panicked then none else s.perform lib o ans

end TaskState

/-- What happens besides the calls: what happens on the connections, and time passes. -/
inductive TaskEvent where
  | service (e : ServiceEvent)
  | tick (now : Int)

namespace TaskState

/-- One step of the environment. -/
def occurs (lib : TaskLib) (s : TaskState) : TaskEvent → Option TaskState
  | .service e =>
    match s.service.occurs lib.caseMap e with
    | none => none
    | some service => some { s with service := service }
  | .tick now => if s.clock ≤ now then some { s with clock := now } else none

/-- The first process of a new database. -/
def Started (s : TaskState) : Prop :=
  ∃ service clock, service.Started ∧ s = { service := service, clock := clock }

/-- The process ends and the next one opens the database: the task rows are closed by
    `MarkNonTerminalTasksFailedOnStartup` and the route table is restored. -/
def restart (lib : TaskLib) (s : TaskState) (now : Int) : Option TaskState :=
  let routes := s.service.routes.state
  match (newRouteState routes.terminalRouteTTL routes.rows).restoreTerminalSessionRoutes now none none with
  | (_, .error _) => none
  | (routes, .ok ()) =>
    if s.clock ≤ now then
      some
        { service := { routes := { state := routes, opened := [] } }
          rows := s.rows.markNonTerminalTasksFailedOnStartup now lib.taskRetentionMs
          clock := now
          issued := s.issued
          goroutines := s.goroutines
          started := s.started
          bygone := s.goroutines.length }
    else none

end TaskState

end Onlyboxes.Console
