import Onlyboxes.Console.TaskOps
import Onlyboxes.ForStd.Processes

/-!
# Tasks

`SubmitTask`, `CancelTask`, `GetTask`, `executeTask` and the pruning of expired tasks
(`task.go`), as programs over the atomic operations of tasks. A task is a row of the
table, which any of them may move to a terminal status, and a record of the process that
waiting submissions are woken by.

Log lines, `criticalPersistenceFailureFn` and a console without a database are left out.
-/

namespace Onlyboxes.Console

open Text

/-! ## Texts of errors -/

/-- `codes.Code.String`. -/
def Code.name : Code → String
  | .invalidArgument => "InvalidArgument"
  | .deadlineExceeded => "DeadlineExceeded"
  | .notFound => "NotFound"
  | .permissionDenied => "PermissionDenied"
  | .unauthenticated => "Unauthenticated"
  | .failedPrecondition => "FailedPrecondition"
  | .internal => "Internal"
  | .unavailable => "Unavailable"

/-- The text of a status error. -/
def StatusError.error (err : StatusError) : String :=
  "rpc error: code = " ++ err.code.name ++ " desc = " ++ err.message

def CommandExecutionError.error (err : CommandExecutionError) : String :=
  let trimmedCode := trimSpace err.code
  let trimmedMessage := trimSpace err.message
  if trimmedCode = "" ∧ trimmedMessage = "" then "command execution failed"
  else if trimmedCode = "" then trimmedMessage
  else if trimmedMessage = "" then trimmedCode
  else trimmedCode ++ ": " ++ trimmedMessage

/-- The text of a context error. -/
def ContextError.error : ContextError → String
  | .deadlineExceeded => "context deadline exceeded"
  | .canceled => "context canceled"

def errTargetWorkerOffline : String := "target worker-sys is offline"
def errTargetWorkerCapabilityUnavailable : String :=
  "target worker-sys does not support capability"

/-- The text of an error of `dispatchCommand`. -/
def DispatchError.error : DispatchError → String
  | .noCapabilityWorker => "no online worker supports capability"
  | .noWorkerCapacity => "no online worker capacity for capability"
  | .targetWorkerOffline => errTargetWorkerOffline
  | .targetWorkerCapabilityUnavailable => errTargetWorkerCapabilityUnavailable
  | .terminalSessionRetryRouteConflict => "terminal session route points to an attempted worker"
  | .execution err => err.error
  | .context err => err.error
  | .status err => err.error
  | .other message => message

/-- The text of an error of a task. -/
def TaskError.error : TaskError → String
  | .status err => err.error
  | .notFound => "task not found"
  | .terminal => "task already completed"
  | .requestInProgress => "task request already in progress"
  | .transitionNotApplied what => "task state transition was not applied: " ++ what
  | .dispatch err => err.error
  | .context err => err.error
  | .other message => message

/-! ## The end of a task -/

def defaultTaskNoWorkerCode : String := "no_worker"
def defaultTaskNoCapacityCode : String := "no_capacity"
def defaultTaskCanceledCode : String := "canceled"
def defaultTaskTimeoutCode : String := "timeout"
def defaultTaskDispatchErrCode : String := "dispatch_failed"
def defaultTaskPersistErrCode : String := "persistence_error"

/-- What a task ends with. -/
structure TaskEnd where
  status : TaskStatus
  resultJSON : String := ""
  errorCode : String := ""
  errorMessage : String := ""
  deriving DecidableEq, Repr

def closeTaskRuntimeRecord : Option Nat → Task Unit
  | none => return ()
  | some record => do
    if ← invoke (.loadCancel record) then
      let cancel ← invoke (.loadCancel record)
      invoke (.clearCancel record)
      invoke (.cancelOnceDo record cancel)
      invoke (.doneOnceDo record)
    else invoke (.doneOnceDo record)

def completeTaskRuntime (taskID : String) : Task Unit := do
  let record ← invoke (.takeTaskRuntime taskID)
  closeTaskRuntimeRecord record

/-- The error of an update by the number of rows it changed. -/
def transitionError (what : String) : Except String Nat → Option TaskError
  | .error err => some (.other err)
  | .ok 0 => some (.transitionNotApplied what)
  | .ok (_ + 1) => none

/-- The write of `finishTask` at a completion time. -/
def finishTaskAt (lib : TaskLib) (taskID : String) (fin : TaskEnd) (completedAt : Int) :
    Task (Option TaskError) := do
  let rows ← invoke (.markTaskTerminal taskID
    { status := fin.status
      resultJSON := fin.resultJSON
      errorCode := trimSpace fin.errorCode
      errorMessage := trimSpace fin.errorMessage
      updatedAtUnixMs := completedAt
      completedAtUnixMs := completedAt
      expiresAtUnixMs := completedAt + lib.taskRetentionMs })
  completeTaskRuntime taskID
  return transitionError ("task " ++ taskID ++ " terminal transition") rows

/-- `finishTask`: a completion time of `none` is the zero time. -/
def finishTask (lib : TaskLib) (taskID : String) (fin : TaskEnd) (completedAt : Option Int) :
    Task (Option TaskError) :=
  if trimSpace taskID = "" then return some (.other "task_id is required")
  else match completedAt with
    | some completedAt => finishTaskAt lib (trimSpace taskID) fin completedAt
    | none => do
      let now ← invoke .nowFn
      finishTaskAt lib (trimSpace taskID) fin now

/-- A task that timed out. -/
def timedOut : TaskEnd := ⟨.timeout, "", defaultTaskTimeoutCode, "task timed out"⟩

/-- A cancelled task. -/
def taskCanceled : TaskEnd := ⟨.canceled, "", defaultTaskCanceledCode, "task canceled"⟩

/-- What `finishTaskWithError` writes for a context error. -/
def contextEnd : ContextError → TaskEnd
  | .deadlineExceeded => timedOut
  | .canceled => taskCanceled

/-- What it writes for the error a worker answered with. -/
def executionEnd (err : CommandExecutionError) : TaskEnd :=
  ⟨.failed, "", if trimSpace err.code = "" then defaultTaskDispatchErrCode else trimSpace err.code,
    err.message⟩

/-- What it writes for an error that may be one of the context. -/
def closedEnd (lib : TaskLib) (message : String) : TaskEnd :=
  match lib.closedErrorContext message with
  | some err => contextEnd err
  | none => ⟨.failed, "", defaultTaskDispatchErrCode, message⟩

/-- The cases of `finishTaskWithError` for the errors of `dispatchCommand`. -/
def dispatchErrorEnd (lib : TaskLib) : DispatchError → TaskEnd
  | .noCapabilityWorker => ⟨.failed, "", defaultTaskNoWorkerCode, "no online worker supports capability"⟩
  | .targetWorkerOffline => ⟨.failed, "", defaultTaskNoWorkerCode, errTargetWorkerOffline⟩
  | .targetWorkerCapabilityUnavailable =>
    ⟨.failed, "", defaultTaskNoWorkerCode, errTargetWorkerCapabilityUnavailable⟩
  | .noWorkerCapacity =>
    ⟨.failed, "", defaultTaskNoCapacityCode, "no online worker capacity for capability"⟩
  | .context err => contextEnd err
  | .execution err => executionEnd err
  | .status err =>
    if err.code = .deadlineExceeded then timedOut
    else ⟨.failed, "", defaultTaskDispatchErrCode, err.error⟩
  | .other message => closedEnd lib message
  | .terminalSessionRetryRouteConflict =>
    ⟨.failed, "", defaultTaskDispatchErrCode, DispatchError.terminalSessionRetryRouteConflict.error⟩

/-- The cases of `finishTaskWithError` for the errors of outcomes. -/
def outcomeErrorEnd (lib : TaskLib) : OutcomeError → TaskEnd
  | .execution err => executionEnd err
  | .closed message => closedEnd lib message

def finishTaskWithError (lib : TaskLib) (taskID : String) (fin : TaskEnd) :
    Task (Option TaskError) := do
  let now ← invoke .nowFn
  finishTask lib taskID fin (some now)

def failTaskOnPersistenceError (lib : TaskLib) (taskID stage : String) (cause : TaskError) :
    Task (Option TaskError) := do
  let stage := if trimSpace stage = "" then "unknown_stage" else trimSpace stage
  let now ← invoke .nowFn
  match ← finishTask lib taskID
      ⟨.failed, "", defaultTaskPersistErrCode,
        "failed to persist task state at " ++ stage ++ ": " ++ cause.error⟩ (some now) with
  | none => return none
  | some err =>
    return some (.other ("task " ++ taskID ++ " persistence fallback failed at " ++ stage ++
      ": original=" ++ cause.error ++ " fallback=" ++ err.error))

/-! ## Execution -/

def markTaskDispatched (taskID : String) : Task (Option TaskError) := do
  if trimSpace taskID = "" then return some (.other "task_id is required")
  else
    let now ← invoke .nowFn
    let rows ← invoke (.markTaskDispatched taskID now)
    return transitionError ("task " ++ taskID ++ " transition to dispatched") rows

def markTaskRunning (taskID commandID : String) : Task (Option TaskError) := do
  if trimSpace taskID = "" then return some (.other "task_id is required")
  else
    let now ← invoke .nowFn
    let rows ← invoke (.markTaskRunning taskID (trimSpace commandID) now)
    return transitionError ("task " ++ taskID ++ " transition to running") rows

/-- The cancellation in the callback `onDispatched` of `executeTask`: `runtime.cancel` is
    read twice. -/
def cancelTaskRuntime (taskID : String) : Task Unit := do
  match ← invoke (.getTaskRuntime taskID) with
  | none => return ()
  | some record =>
    if ← invoke (.loadCancel record) then
      let cancel ← invoke (.loadCancel record)
      invoke (.cancelOnceDo record cancel)
    else return ()

/-- The callback `onDispatched` of `executeTask`: `markRunningErr`. -/
def taskDispatched (taskID commandID : String) : Task (Option TaskError) := do
  match ← markTaskRunning taskID commandID with
  | none => return none
  | some markRunningErr =>
    cancelTaskRuntime taskID
    return some markRunningErr

/-- The operations of `dispatchCommand` on behalf of a task, with `markRunningErr`. -/
def taskServiceOp (taskID : String) :
    (o : ServiceOp) → Option TaskError → Task (o.Res × Option TaskError)
  | .onDispatched commandID, _ => do
    match ← taskDispatched taskID commandID with
    | none => return (.ok (), none)
    | some err => return (.error err.error, some err)
  | .nowFn, markRunningErr => do
    let now ← invoke .nowFn
    return (now, markRunningErr)
  | o, markRunningErr => do
    let r ← invoke (.service o)
    return (r, markRunningErr)

/-- The end of every branch of `executeTask`: a terminal write that failed for another
    reason than a terminal row is replaced by one that says so. -/
def finishOrFail (lib : TaskLib) (taskID stage : String) (finish : Task (Option TaskError)) :
    Task Unit := do
  match ← finish with
  | none => return ()
  | some (.transitionNotApplied _) => return ()
  | some err =>
    let _ ← failTaskOnPersistenceError lib taskID stage err
    return ()

def taskOwnerScopeInvalidPayloadCode : String := "invalid_payload"
def taskOwnerScopeInvalidPayloadMessage : String := "session_id owner mismatch"

/-- `resultPayload` of `executeTask`. -/
def resultPayload (lib : TaskLib) (outcome : CommandOutcome) : String :=
  let payload :=
    if outcome.payloadJSON = "" ∧ trimSpace outcome.message ≠ "" then
      lib.buildEchoPayload outcome.message
    else outcome.payloadJSON
  if lib.jsonValid payload then payload else lib.buildEchoPayload payload

/-- `executeTask` after a result without an error. -/
def finishOutcome (lib : TaskLib) (args : ExecuteTaskArgs) (outcome : CommandOutcome)
    (completedAt : Int) : Task Unit :=
  match lib.restoreTaskResultOwnerScope args.ownerID args.capability (resultPayload lib outcome) with
  | none =>
    finishOrFail lib args.taskID "finish_invalid_payload" (finishTask lib args.taskID
      ⟨.failed, "", taskOwnerScopeInvalidPayloadCode, taskOwnerScopeInvalidPayloadMessage⟩
      (some completedAt))
  | some scopedResultPayload =>
    finishOrFail lib args.taskID "finish_succeeded" (finishTask lib args.taskID
      ⟨.succeeded, scopedResultPayload, "", ""⟩ (some completedAt))

/-- `executeTask` after `dispatchCommand`. -/
def settleTask (lib : TaskLib) (args : ExecuteTaskArgs)
    (result : Except DispatchError CommandOutcome) (markRunningErr : Option TaskError) :
    Task Unit := do
  match markRunningErr with
  | some (.transitionNotApplied _) => return ()
  | some err =>
    let _ ← failTaskOnPersistenceError lib args.taskID "mark_running" err
    return ()
  | none =>
    match result with
    | .error err =>
      finishOrFail lib args.taskID "finish_error"
        (finishTaskWithError lib args.taskID (dispatchErrorEnd lib err))
    | .ok outcome =>
      match outcome.err with
      | some err =>
        finishOrFail lib args.taskID "finish_error"
          (finishTaskWithError lib args.taskID (outcomeErrorEnd lib err))
      | none =>
        match outcome.completedAt with
        | some completedAt => finishOutcome lib args outcome completedAt
        | none =>
          let now ← invoke .nowFn
          finishOutcome lib args outcome now

def executeTask (lib : TaskLib) (args : ExecuteTaskArgs) : Task Unit := do
  match ← markTaskDispatched args.taskID with
  | some (.transitionNotApplied _) => return ()
  | some err =>
    let _ ← failTaskOnPersistenceError lib args.taskID "mark_dispatched" err
    return ()
  | none =>
    let (result, markRunningErr) ←
      (dispatchCommand lib.toGoLib args.capability args.inputJSON
        { ownerID := args.ownerID
          terminalSessionIntent := args.intent
          targetNodeID := args.targetNodeID
          onDispatched := true }).translate (taskServiceOp args.taskID) none
    settleTask lib args result markRunningErr

/-! ## Submission -/

def parseTaskMode (m : CaseMap) (raw : String) : Except String TaskMode :=
  let trimmed := trimSpace (m.toLower raw)
  if trimmed = "" then .ok .auto
  else if trimmed = "sync" then .ok .sync
  else if trimmed = "async" then .ok .async
  else if trimmed = "auto" then .ok .auto
  else .error "mode must be one of sync|async|auto"

def taskCapabilityTerminalProxy : String := "terminalproxy"

/-- A request that passed the first checks of `SubmitTask`. -/
structure CheckedRequest where
  capability : String
  ownerID : String
  mode : TaskMode
  inputJSON : String
  deriving DecidableEq, Repr

/-- The first checks of `SubmitTask`. -/
def checkSubmitTaskRequest (lib : TaskLib) (req : SubmitTaskRequest) :
    Except StatusError CheckedRequest :=
  let capability := normalizeCapability lib.caseMap req.capability
  let ownerID := normalizeTaskOwnerID req.ownerID
  let inputJSON := if req.inputJSON = "" then "\x7b\x7d" else req.inputJSON
  if capability = "" then .error ⟨.invalidArgument, "capability is required"⟩
  else if capability = taskCapabilityTerminalProxy ∨ capability = taskCapabilityTerminalLeaseRenew
  then .error ⟨.permissionDenied, "capability is internal"⟩
  else if ownerID = "" then .error ⟨.invalidArgument, "owner_id is required"⟩
  else match parseTaskMode lib.caseMap req.mode with
    | .error err => .error ⟨.invalidArgument, err⟩
    | .ok mode =>
      if lib.jsonValid inputJSON then .ok ⟨capability, ownerID, mode, inputJSON⟩
      else .error ⟨.invalidArgument, "input must be valid JSON"⟩

def defaultTaskWaitMs : Int := 1500
def defaultTaskTimeoutMs : Int := 60000
def maxTaskWaitMs : Int := 60000
def maxTaskTimeoutMs : Int := 600000

/-- The timeout of a request. -/
def taskTimeout (req : SubmitTaskRequest) : Int :=
  if req.timeout ≤ 0 then defaultTaskTimeoutMs else req.timeout

/-- How long a request waits in auto mode. -/
def taskWait (mode : TaskMode) (req : SubmitTaskRequest) : Int :=
  let wait := if req.wait ≤ 0 then defaultTaskWaitMs else req.wait
  if mode = .auto ∧ taskTimeout req < wait then taskTimeout req else wait

/-- The checks of timeout and wait. -/
def checkSubmitTaskDurations (req : SubmitTaskRequest) : Option StatusError :=
  if maxTaskTimeoutMs < taskTimeout req then
    some ⟨.invalidArgument, "timeout exceeds maximum allowed value"⟩
  else if maxTaskWaitMs < (if req.wait ≤ 0 then defaultTaskWaitMs else req.wait) then
    some ⟨.invalidArgument, "wait exceeds maximum allowed value"⟩
  else none

def taskRequestScopeSeparator : String := "\x00"

def taskRequestScopeKey (ownerID requestID : String) : String :=
  normalizeTaskOwnerID ownerID ++ taskRequestScopeSeparator ++ trimSpace requestID

def maybePruneExpiredTasks (now : Int) : Task Unit := do
  if ← invoke (.claimInlinePrune now) then
    let _ ← invoke (.deleteExpiredTerminalTasks now)
    return ()
  else return ()

/-- `snapshotNow` of `resolveSubmitTaskResult`. -/
def snapshotNow (taskID : String) : Task (Except TaskError SubmitTaskResult) := do
  match ← invoke (.getTaskByID taskID) with
  | none => return .error .notFound
  | some row => return .ok ⟨snapshotTask taskID row, isTaskTerminal row.status⟩

/-- `waitDone` of `resolveSubmitTaskResult`: the error of the caller's context. -/
def waitDone (runtime : Option Nat) (waitDuration : Int) : Task (Option ContextError) := do
  match runtime with
  | none => return none
  | some record =>
    let timer ← if waitDuration ≤ 0 then pure none else some <$> invoke (.newTimer waitDuration)
    match ← invoke (.waitDone record timer) with
    | .contextDone err => return some err
    | .done | .timer => return none

/-- `waitDone` followed by `snapshotNow`. -/
def waitAndSnapshot (taskID : String) (runtime : Option Nat) (waitDuration : Int) :
    Task (Except TaskError SubmitTaskResult) := do
  match ← waitDone runtime waitDuration with
  | some err => return .error (.context err)
  | none => snapshotNow taskID

def resolveSubmitTaskResult (taskID : String) (runtime : Option Nat) (mode : TaskMode)
    (wait : Int) : Task (Except TaskError SubmitTaskResult) := do
  if trimSpace taskID = "" then return .error .notFound
  else match ← snapshotNow taskID with
    | .error err => return .error err
    | .ok snap =>
      if mode = .async ∨ snap.completed = true then return .ok snap
      else match mode with
        | .sync => waitAndSnapshot taskID runtime 0
        | .auto => waitAndSnapshot taskID runtime wait
        | .async => return .error (.status ⟨.invalidArgument, "unsupported mode"⟩)

/-- The loop of `checkCapabilityAvailability`: whether a connection has a free slot. -/
def anyFreeSlot (capability : String) : List String → Service Bool
  | [] => return false
  | nodeID :: nodeIDs => do
    match ← atomic (.getSession nodeID) with
    | none => anyFreeSlot capability nodeIDs
    | some session =>
      if ← atomic (.hasCapability session capability) then
        match ← atomic (.inflightSnapshot session capability) with
        | none => anyFreeSlot capability nodeIDs
        | some (inflight, maxInflight) =>
          if inflight < maxInflight then return true else anyFreeSlot capability nodeIDs
      else anyFreeSlot capability nodeIDs

def checkCapabilityAvailability (lib : GoLib) (capability ownerID : String) :
    Service (Option DispatchError) := do
  let nodeIDs ← listOnlineNodeIDsForCapability lib capability ownerID
  if nodeIDs = [] then return some .noCapabilityWorker
  else if ← anyFreeSlot capability nodeIDs then return none
  else return some .noWorkerCapacity

/-- The operations of code that is not specific to tasks. -/
def plainServiceOp : (o : ServiceOp) → Unit → Task (o.Res × Unit)
  | .nowFn, _ => do
    let now ← invoke .nowFn
    return (now, ())
  | o, _ => do
    let r ← invoke (.service o)
    return (r, ())

/-- The availability check of `SubmitTask`, left out for immediate results. -/
def checkAvailability (lib : TaskLib) (prepared : PreparedTaskInput) (ownerID : String) :
    Task (Option DispatchError) := do
  if prepared.immediateResult.isSome then return none
  else if prepared.targetNodeID ≠ "" then
    let (err, ()) ← (checkTargetCapabilityAvailability prepared.targetNodeID
      prepared.dispatchCapability).translate plainServiceOp ()
    return err
  else
    let (err, ()) ← (checkCapabilityAvailability lib.toGoLib prepared.dispatchCapability
      ownerID).translate plainServiceOp ()
    return err

def isTaskOwnerRequestConflict (m : CaseMap) (err : String) : Bool :=
  let lower := m.toLower err
  contains lower "idx_tasks_owner_request_unique" || contains lower "tasks.owner_id"

/-- A submission that is ready to be recorded. -/
structure Submission where
  request : CheckedRequest
  requestID : String
  prepared : PreparedTaskInput
  /-- `scopedInputJSON`. -/
  inputJSON : String
  intent : TerminalSessionIntent
  timeout : Int
  wait : Int
  deriving DecidableEq, Repr

/-- What the part of `SubmitTask` up to the registration ends with. -/
inductive Creation where
  | failed (err : TaskError)
  /-- The request was submitted before. -/
  | existing (taskID : String) (runtime : Option Nat)
  /-- The result was there at once. -/
  | completed (taskID : String)
  | created (taskID : String) (record : Nat)

/-- The task of the request, if there is one. -/
def findTask (sub : Submission) : Task (Option Creation) := do
  match ← invoke (.getTaskByOwnerAndRequest sub.request.ownerID sub.requestID) with
  | none => return none
  | some (taskID, _) =>
    let runtime ← invoke (.getTaskRuntime taskID)
    return some (.existing taskID runtime)

/-- The row of a new task. -/
def newTaskRow (sub : Submission) (now : Int) : TaskRow where
  ownerID := sub.request.ownerID
  requestID := sub.requestID
  capability := sub.request.capability
  inputJSON := sub.inputJSON
  createdAtUnixMs := now
  updatedAtUnixMs := now
  deadlineAtUnixMs := now + sub.timeout

/-- `SubmitTask` after a failed insertion. -/
def resolveConflict (lib : TaskLib) (sub : Submission) (insertErr : String) : Task Creation := do
  if sub.requestID ≠ "" ∧ isTaskOwnerRequestConflict lib.caseMap insertErr then
    match ← findTask sub with
    | some existing => return existing
    | none => return .failed (.status ⟨.internal, "failed to create task"⟩)
  else return .failed (.status ⟨.internal, "failed to create task"⟩)

/-- `SubmitTask` after the insertion. -/
def registerTask (lib : TaskLib) (sub : Submission) (taskID : String) (now : Int) :
    Task Creation := do
  match sub.prepared.immediateResult with
  | some result =>
    match ← finishTask lib taskID ⟨.succeeded, result, "", ""⟩ (some now) with
    | some _ => return .failed (.status ⟨.internal, "failed to complete task"⟩)
    | none => return .completed taskID
  | none =>
    let record ← invoke (.setTaskRuntime taskID)
    return .created taskID record

/-- `SubmitTask` from the availability check to the registration. -/
def createTask (lib : TaskLib) (sub : Submission) : Task Creation := do
  match ← checkAvailability lib sub.prepared sub.request.ownerID with
  | some err => return .failed (.dispatch err)
  | none =>
    match ← invoke .newTaskID with
    | .error _ => return .failed (.status ⟨.internal, "failed to create task_id"⟩)
    | .ok taskID =>
      let now ← invoke .nowFn
      match ← invoke (.insertTask taskID (newTaskRow sub now)) with
      | .error insertErr => resolveConflict lib sub insertErr
      | .ok () => registerTask lib sub taskID now

/-- `delete(s.taskRequestReservations, requestKey)`, if the request was reserved. -/
def releaseRequest (reserved : Option String) : Task Unit := do
  match reserved with
  | none => return ()
  | some requestKey => invoke (.releaseRequest requestKey)

/-- `SubmitTask` after the registration. The reservation ends before the task is launched,
    but only with the call if the request was submitted before. -/
def answerSubmission (sub : Submission) (reserved : Option String) (creation : Creation) :
    Task (Except TaskError SubmitTaskResult) := do
  match creation with
  | .failed err =>
    releaseRequest reserved
    return .error err
  | .existing taskID runtime =>
    let result ← resolveSubmitTaskResult taskID runtime sub.request.mode sub.wait
    releaseRequest reserved
    return result
  | .completed taskID =>
    releaseRequest reserved
    match ← invoke (.getTaskByID taskID) with
    | none => return .error (.status ⟨.internal, "failed to load completed task"⟩)
    | some row => return .ok ⟨snapshotTask taskID row, true⟩
  | .created taskID record =>
    releaseRequest reserved
    invoke (.goExecuteTask
      { taskID := taskID
        ownerID := sub.request.ownerID
        capability := sub.prepared.dispatchCapability
        inputJSON := sub.inputJSON
        intent := sub.intent
        targetNodeID := sub.prepared.targetNodeID })
    resolveSubmitTaskResult taskID (some record) sub.request.mode sub.wait

/-- `SubmitTask` with its reservation. -/
def submitReserved (lib : TaskLib) (sub : Submission) (requestKey : String) :
    Task (Except TaskError SubmitTaskResult) := do
  match ← findTask sub with
  | some existing => answerSubmission sub (some requestKey) existing
  | none =>
    let creation ← createTask lib sub
    answerSubmission sub (some requestKey) creation

/-- `SubmitTask` after its checks. -/
def submitChecked (lib : TaskLib) (sub : Submission) : Task (Except TaskError SubmitTaskResult) := do
  let now ← invoke .nowFn
  maybePruneExpiredTasks now
  if sub.requestID ≠ "" then
    let requestKey := taskRequestScopeKey sub.request.ownerID sub.requestID
    if ← invoke (.reserveRequest requestKey) then submitReserved lib sub requestKey
    else return .error .requestInProgress
  else
    let creation ← createTask lib sub
    answerSubmission sub none creation

def submitTask (lib : TaskLib) (req : SubmitTaskRequest) :
    Task (Except TaskError SubmitTaskResult) := do
  match checkSubmitTaskRequest lib req with
  | .error err => return .error (.status err)
  | .ok request =>
    match ← invoke (.prepareTaskInput request.capability request.ownerID request.inputJSON) with
    | .error err => return .error (.status err)
    | .ok prepared =>
      match ← invoke (.scopeTaskInputByOwner prepared.dispatchCapability request.ownerID
          prepared.inputJSON) with
      | .error err => return .error (.status err)
      | .ok inputJSON =>
        match checkSubmitTaskDurations req with
        | some err => return .error (.status err)
        | none =>
          submitChecked lib
            { request := request
              requestID := trimSpace req.requestID
              prepared := prepared
              inputJSON := inputJSON
              intent := lib.terminalSessionIntentForTaskInput request.capability request.inputJSON
              timeout := taskTimeout req
              wait := taskWait request.mode req }

/-! ## Reading and cancelling -/

def getTask (taskID ownerID : String) : Task (Option TaskSnapshot) := do
  let taskID := trimSpace taskID
  if taskID = "" then return none
  else match ← invoke (.getTaskByID taskID) with
    | none => return none
    | some row =>
      if row.ownerID ≠ normalizeTaskOwnerID ownerID then return none
      else return some (snapshotTask taskID row)

/-- `CancelTask` after its write was not applied. -/
def cancelNotApplied (taskID ownerID : String) (err : TaskError) : Task CancelTaskResult := do
  match ← invoke (.getTaskByID taskID) with
  | none => return .error (.notFound, none)
  | some latest =>
    if latest.ownerID ≠ ownerID then return .error (.notFound, none)
    else if isTaskTerminal latest.status then
      return .error (.terminal, some (snapshotTask taskID latest))
    else return .error (err, none)

/-- `CancelTask` of a task that is not over. -/
def cancelActive (lib : TaskLib) (taskID ownerID : String) : Task CancelTaskResult := do
  let now ← invoke .nowFn
  match ← finishTask lib taskID taskCanceled (some now) with
  | some (.transitionNotApplied what) => cancelNotApplied taskID ownerID (.transitionNotApplied what)
  | some err => return .error (err, none)
  | none =>
    match ← invoke (.getTaskByID taskID) with
    | none => return .error (.notFound, none)
    | some updated => return .ok (snapshotTask taskID updated)

def cancelTask (lib : TaskLib) (taskID ownerID : String) : Task CancelTaskResult := do
  let taskID := trimSpace taskID
  if taskID = "" then return .error (.notFound, none)
  else match ← invoke (.getTaskByID taskID) with
    | none => return .error (.notFound, none)
    | some current =>
      if current.ownerID ≠ normalizeTaskOwnerID ownerID then return .error (.notFound, none)
      else if isTaskTerminal current.status then
        return .error (.terminal, some (snapshotTask taskID current))
      else cancelActive lib taskID (normalizeTaskOwnerID ownerID)

/-! ## The system -/

/-- The calls, and the goroutines they launch. -/
inductive TaskCall where
  | submit (req : SubmitTaskRequest)
  | cancel (taskID ownerID : String)
  | get (taskID ownerID : String)
  /-- A goroutine of `executeTask`. -/
  | execute (goroutine : Nat)
  /-- `PruneExpiredTasks`, as the ticker calls it. -/
  | prune (now : Int)
  deriving DecidableEq, Repr

/-- The program of a call. -/
def TaskCall.body (lib : TaskLib) : TaskCall → Task Unit
  | .submit req => do
    let result ← submitTask lib req
    invoke (.returnSubmit result)
  | .cancel taskID ownerID => do
    let result ← cancelTask lib taskID ownerID
    invoke (.returnCancel result)
  | .get taskID ownerID => do
    let _ ← getTask taskID ownerID
  | .execute goroutine => do
    let args ← invoke (.startExecuteTask goroutine)
    executeTask lib args
  | .prune now => do
    let _ ← invoke (.deleteExpiredTerminalTasks now)

/-- The tasks of one console process: any number of calls, interleaved with each other and
    with what happens on the connections. -/
def taskSystem (lib : TaskLib) :
    ThreadSystem TaskState TaskCall TaskOp TaskOp.Res Unit TaskAnswer TaskEvent where
  init := TaskState.Started
  body := TaskCall.body lib
  exec := TaskState.exec lib
  env := TaskState.occurs lib
  stamp _ := ()

/-- A call, running or finished. -/
abbrev TaskThread := Thread TaskCall TaskOp TaskOp.Res Unit

abbrev TaskPool := Pool TaskState TaskCall TaskOp TaskOp.Res Unit

/-- A step of a process, or its end and the start of the next one at a time. -/
abbrev TaskAction := ProcessAction TaskCall TaskAnswer TaskEvent Int

/-- The console over all its processes. -/
def taskMachine (lib : TaskLib) : Machine TaskPool TaskAction :=
  (taskSystem lib).processes (TaskState.restart lib)

end Onlyboxes.Console
