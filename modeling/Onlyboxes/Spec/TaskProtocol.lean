import Onlyboxes.Console.Tasks

/-!
# What a task call has done so far

The phase of a submission, a cancellation or an execution as far as its own operations
tell: the id it drew and how far the task of that id is set up, what it has to close, and
what it knows of the row it answers with. `taskProtocol` says what the code of the calls
does in which phase.

## Key results

- `meets_finishTask`: a terminal write is followed by the closing of the record
- `meets_executeTask`: an execution ends when the task is over, or the store failed
- `meets_submitTask`: a submission answers with the row that it found or made
- `taskKeeps`: all calls of all processes keep to the protocol
-/

namespace Onlyboxes.Console

open Text

/-- How far the task of an id that a submission drew is set up. -/
inductive OwnStage where
  | fresh
  | inserted
  | registered
  | launched
  deriving DecidableEq, Repr

/-- How far the closing of a record has come: what was read of `record.cancel`. -/
inductive CloseStage where
  | taken
  | loaded
  | reloaded (cancel : Bool)
  | cleared (cancel : Bool)
  | cancelled
  /-- There was nothing to cancel. -/
  | skipped
  deriving DecidableEq, Repr

/-- A record that was taken out of the map and is being closed. -/
structure Closing where
  taskID : String
  record : Nat
  stage : CloseStage := .taken
  deriving DecidableEq, Repr

namespace Closing

/-- `record.cancel` was read. -/
def load (cancel : Bool) (c : Closing) : Closing :=
  match c.stage with
  | .taken => { c with stage := if cancel then .loaded else .skipped }
  | .loaded => { c with stage := .reloaded cancel }
  | _ => c

/-- `record.cancel` was set to nil. -/
def clear (c : Closing) : Closing :=
  match c.stage with
  | .reloaded cancel => { c with stage := .cleared cancel }
  | _ => c

end Closing

/-- A row as a call read it: its status, and whether the call knew before that the row is
    terminal. -/
structure ReadRow where
  taskID : String
  status : TaskStatus
  known : Bool
  deriving DecidableEq, Repr

/-- The phase of a call. -/
structure TaskPhase where
  call : TaskCall
  /-- The reservation it holds. -/
  key : Option String := none
  /-- The prepared input has a result already. -/
  immediate : Bool := false
  own : Option (String × OwnStage) := none
  /-- A terminal write whose record is not taken yet. -/
  owes : Option String := none
  closing : Option Closing := none
  /-- The task an execution is about. -/
  executing : Option String := none
  /-- The last clock reading. -/
  reading : Option Int := none
  /-- The row it found or made. -/
  target : Option String := none
  runtime : Option (String × Nat) := none
  /-- The task whose row it takes to be terminal. -/
  known : Option String := none
  read : Option ReadRow := none
  timer : Option Int := none
  /-- The timer fired. -/
  elapsed : Bool := false
  /-- Its last terminal write, with the answer. -/
  written : Option (String × Except String Nat) := none
  /-- A write told that the row is terminal or gone. -/
  ended : Bool := false
  /-- The last write failed. -/
  failed : Bool := false

abbrev TaskCallEvent := Event TaskOp TaskOp.Res Unit

/-- The owner and request id a submission is about. -/
def TaskCall.request : TaskCall → Option (String × String)
  | .submit req => some (normalizeTaskOwnerID req.ownerID, trimSpace req.requestID)
  | _ => none

namespace TaskPhase

variable (lib : TaskLib)

/-- An update of the row was answered. -/
def marked (g : TaskPhase) (rows : Except String Nat) : TaskPhase :=
  { g with
    failed := match rows with
      | .error _ => true
      | .ok _ => false
    ended := match rows with
      | .ok 0 => true
      | _ => g.ended }

/-- A terminal write was answered. -/
def wrote (g : TaskPhase) (taskID : String) (rows : Except String Nat) : TaskPhase :=
  { g with
    known := some taskID
    written := some (taskID, rows)
    failed := match rows with
      | .error _ => true
      | .ok _ => false
    ended := match rows with
      | .error _ => g.ended
      | .ok _ => true }

/-- How an event changes the phase. -/
def next (g : TaskPhase) : TaskCallEvent → TaskPhase
  | ⟨.nowFn, now, _⟩ => { g with reading := some now }
  | ⟨.prepareTaskInput .., .ok prepared, _⟩ =>
    { g with immediate := prepared.immediateResult.isSome }
  | ⟨.reserveRequest requestKey, true, _⟩ => { g with key := some requestKey }
  | ⟨.releaseRequest _, _, _⟩ => { g with key := none }
  | ⟨.newTaskID, .ok taskID, _⟩ => { g with own := some (taskID, .fresh) }
  | ⟨.insertTask taskID _, .ok (), _⟩ =>
    { g with own := some (taskID, .inserted), target := some taskID }
  | ⟨.getTaskByOwnerAndRequest .., found, _⟩ =>
    { g with
      target := match found with
        | none => g.target
        | some task => some task.1 }
  | ⟨.getTaskByID taskID, found, _⟩ =>
    { g with
      target := match found with
        | none => g.target
        | some _ => some taskID
      read := match found with
        | none => g.read
        | some row => some ⟨taskID, row.status, g.known = some (trimSpace taskID)⟩ }
  | ⟨.getTaskRuntime taskID, runtime, _⟩ =>
    { g with
      known := match g.executing, runtime with
        | none, none => some (trimSpace taskID)
        | _, _ => g.known
      runtime := match g.executing, runtime with
        | none, some record => some (taskID, record)
        | _, _ => g.runtime }
  | ⟨.setTaskRuntime taskID, record, _⟩ =>
    { g with own := some (taskID, .registered), runtime := some (taskID, record) }
  | ⟨.goExecuteTask args, _, _⟩ => { g with own := some (args.taskID, .launched) }
  | ⟨.startExecuteTask _, args, _⟩ => { g with executing := some args.taskID }
  | ⟨.markTaskDispatched .., rows, _⟩ => g.marked rows
  | ⟨.markTaskRunning .., rows, _⟩ => g.marked rows
  | ⟨.markTaskTerminal taskID _, rows, _⟩ => { g.wrote taskID rows with owes := some taskID }
  | ⟨.takeTaskRuntime taskID, record, _⟩ =>
    { g with
      owes := none
      closing := record.map fun record => { taskID := taskID, record := record } }
  | ⟨.loadCancel _, cancel, _⟩ => { g with closing := g.closing.map (.load cancel) }
  | ⟨.clearCancel _, _, _⟩ => { g with closing := g.closing.map .clear }
  | ⟨.cancelOnceDo .., _, _⟩ => { g with closing := g.closing.map ({ · with stage := .cancelled }) }
  | ⟨.doneOnceDo _, _, _⟩ => { g with closing := none }
  | ⟨.newTimer _, deadline, _⟩ => { g with timer := some deadline }
  | ⟨.waitDone .., wake, _⟩ =>
    { g with
      known := match wake with
        | .done => g.target.map trimSpace
        | _ => g.known
      elapsed := match wake with
        | .timer => true
        | _ => g.elapsed }
  | _ => g

/-- The row is there: the call found or made it, or executes its task. -/
def Present (g : TaskPhase) (taskID : String) : Prop :=
  ∃ id, (g.target = some id ∨ g.executing = some id) ∧ taskID = trimSpace id

/-- The id it drew has no row that nobody else knows of. -/
def Unowned (g : TaskPhase) : Prop := ∀ id, g.own ≠ some (id, .inserted)

/-- If it inserted a row and registered nothing, it wrote the end of the task. -/
def Ended (g : TaskPhase) : Prop :=
  ∀ id, g.own = some (id, .inserted) → ∃ rows, g.written = some (trimSpace id, rows)

/-- It is a submission that holds the reservation of its request. -/
def Reserves (g : TaskPhase) : Prop :=
  ∃ ownerID requestID, g.call.request = some (ownerID, requestID) ∧ requestID ≠ "" ∧
    g.key = some (taskRequestScopeKey ownerID requestID)

/-- Every terminal write was followed by the closing of the record. -/
def Settled (g : TaskPhase) : Prop := g.owes = none ∧ g.closing = none

/-- What a submission may answer. -/
def Answers (g : TaskPhase) (result : SubmitTaskResult) : Prop :=
  ∃ req request row, g.call = .submit req ∧ checkSubmitTaskRequest lib req = .ok request ∧
    g.read = some row ∧ g.target = some row.taskID ∧ result.task.taskID = row.taskID ∧
    result.task.status = row.status ∧
    (result.completed = isTaskTerminal row.status ∨ result.completed = true ∧ row.known = true) ∧
    (request.mode = .sync → isTaskTerminal row.status = true ∨ row.known = true) ∧
    (request.mode = .auto → isTaskTerminal row.status = true ∨ row.known = true ∨ g.elapsed = true)

/-- Which operations a call performs. -/
def Allowed (g : TaskPhase) : TaskOp → Prop
  | .prepareTaskInput .. => g.own = none
  | .reserveRequest _ => g.key = none
  | .releaseRequest requestKey =>
    g.key = some requestKey ∧ g.Ended
  | .newTaskID => g.own = none
  | .insertTask taskID row =>
    g.own = some (taskID, .fresh) ∧ g.call.request = some (row.ownerID, row.requestID) ∧
      (row.requestID ≠ "" → g.key = some (taskRequestScopeKey row.ownerID row.requestID)) ∧
      row.status = .queued ∧ g.reading = some row.createdAtUnixMs ∧
      row.updatedAtUnixMs = row.createdAtUnixMs ∧ row.completedAtUnixMs = 0
  | .getTaskByOwnerAndRequest ownerID requestID =>
    g.call.request = some (ownerID, requestID) ∧ requestID ≠ "" ∧ g.executing = none
  | .getTaskByID taskID =>
    g.executing = none ∧ ∀ req, g.call = .submit req → g.target = some taskID
  | .getTaskRuntime taskID =>
    g.executing = some taskID ∨
      g.executing = none ∧ g.target = some taskID ∧ g.Unowned ∧ g.Reserves
  | .setTaskRuntime taskID => g.own = some (taskID, .inserted) ∧ g.immediate = false
  | .goExecuteTask args => g.own = some (args.taskID, .registered)
  | .startExecuteTask goroutine => g = { call := .execute goroutine }
  | .markTaskDispatched taskID updatedAt =>
    g.executing = some taskID ∧ g.reading = some updatedAt
  | .markTaskRunning taskID _ updatedAt => g.executing = some taskID ∧ g.reading = some updatedAt
  | .markTaskTerminal taskID params =>
    g.Present taskID ∧ g.owes = none ∧ g.closing = none ∧ isTaskTerminal params.status = true ∧
      params.updatedAtUnixMs = params.completedAtUnixMs ∧
      params.expiresAtUnixMs = params.completedAtUnixMs + lib.taskRetentionMs
  | .takeTaskRuntime taskID => g.owes = some taskID ∧ g.closing = none
  | .loadCancel record =>
    g.closing = none ∧ g.executing.isSome ∨
      ∃ id, g.closing = some ⟨id, record, .taken⟩ ∨ g.closing = some ⟨id, record, .loaded⟩
  | .clearCancel record => ∃ id cancel, g.closing = some ⟨id, record, .reloaded cancel⟩
  | .cancelOnceDo record cancel =>
    g.closing = none ∧ g.executing.isSome ∨ ∃ id, g.closing = some ⟨id, record, .cleared cancel⟩
  | .doneOnceDo record =>
    ∃ id, g.closing = some ⟨id, record, .cancelled⟩ ∨ g.closing = some ⟨id, record, .skipped⟩
  | .newTimer wait => ∃ req, g.call = .submit req ∧ wait = taskWait .auto req
  | .waitDone record timer =>
    (∃ id, g.target = some id ∧ g.runtime = some (id, record)) ∧ (timer.isSome → timer = g.timer)
  | .returnSubmit (.ok result) => g.Answers lib result
  | .returnCancel (.ok task) => ∃ n, g.written = some (task.taskID, .ok (n + 1))
  | _ => True

/-- What the shared state answers: new ids are trimmed, and only a timer that was set
    fires. -/
def Answered : TaskCallEvent → Prop
  | ⟨.newTaskID, .ok taskID, _⟩ => trimSpace taskID = taskID ∧ taskID ≠ ""
  | ⟨.waitDone _ none, .timer, _⟩ => False
  | _ => True

end TaskPhase

/-- The protocol of the calls. -/
def taskProtocol (lib : TaskLib) : Protocol TaskOp TaskOp.Res Unit TaskPhase where
  allowed := TaskPhase.Allowed lib
  answers _ e := TaskPhase.Answered e
  next := TaskPhase.next

/-- From `g`, the program keeps to the protocol and ends as `Q` says. -/
abbrev TaskMeets (lib : TaskLib) {α : Type} (g : TaskPhase) (p : Task α)
    (Q : α → TaskPhase → Prop) : Prop :=
  Prog.Meets (taskProtocol lib) g p Q

/-- How a call starts. -/
def TaskCall.start (c : TaskCall) : TaskPhase := { call := c }

/-! ## The end of a task -/

variable {Q : Unit → TaskPhase → Prop} {fin : TaskEnd}

section End

variable {lib : TaskLib} {g : TaskPhase} {id : String}

theorem meets_closeTaskRuntimeRecord {record : Nat} (h : g.closing = some ⟨id, record, .taken⟩) (hQ : Q () { g with closing := none }) :
    TaskMeets lib g (closeTaskRuntimeRecord (some record)) Q := by
  obtain ⟨call, key, immediate, own, owes, closing, executing, reading, target, runtime, known,
    read, timer, elapsed, written, ended, failed⟩ := g
  obtain rfl : closing = some ⟨id, record, .taken⟩ := h
  refine .call (.inr ⟨id, .inl rfl⟩) fun cancel _ _ => ?_
  cases cancel with
  | false => exact .last ⟨id, .inr rfl⟩ fun _ _ _ => hQ
  | true =>
    refine .call (.inr ⟨id, .inr rfl⟩) fun cancel _ _ => ?_
    refine .call ⟨id, cancel, rfl⟩ fun _ _ _ => ?_
    refine .call (.inr ⟨id, rfl⟩) fun _ _ _ => ?_
    exact .last ⟨id, .inl rfl⟩ fun _ _ _ => hQ

theorem meets_completeTaskRuntime (howes : g.owes = some id)
    (hclosing : g.closing = none) (hQ : Q () { g with owes := none, closing := none }) :
    TaskMeets lib g (completeTaskRuntime id) Q := by
  refine .call ⟨howes, hclosing⟩ fun record _ _ => ?_
  cases record with
  | none => exact .pure hQ
  | some record => exact meets_closeTaskRuntimeRecord rfl hQ

/-- A terminal write is followed by the closing of the record. -/
theorem meets_finishTaskAt (hpresent : g.Present id) (howes : g.owes = none)
    (hclosing : g.closing = none) (hend : isTaskTerminal fin.status = true) (completedAt : Int)
    {Q : Option TaskError → TaskPhase → Prop}
    (hQ : ∀ rows, Q (transitionError ("task " ++ id ++ " terminal transition") rows) (g.wrote id rows)) :
    TaskMeets lib g (finishTaskAt lib id fin completedAt) Q := by
  refine .call ⟨hpresent, howes, hclosing, hend, rfl, rfl⟩ fun rows _ _ => ?_
  refine .bind (meets_completeTaskRuntime rfl hclosing (.pure ?_))
  have hwrote : g.wrote id rows = { g.wrote id rows with owes := none, closing := none } := by
    unfold TaskPhase.wrote
    rw [howes, hclosing]
  exact hwrote ▸ hQ rows

/-- The same for an id as the caller gives it. -/
theorem meets_finishTask (hpresent : g.Present (trimSpace id)) (howes : g.owes = none)
    (hclosing : g.closing = none) (hend : isTaskTerminal fin.status = true) (completedAt : Int)
    {Q : Option TaskError → TaskPhase → Prop}
    (hempty : trimSpace id = "" → Q (some (.other "task_id is required")) g)
    (hQ : ∀ rows, Q (transitionError ("task " ++ trimSpace id ++ " terminal transition") rows) (g.wrote (trimSpace id) rows)) :
    TaskMeets lib g (finishTask lib id fin (some completedAt)) Q := by
  unfold finishTask
  split
  · rename_i hid
    exact .pure (hempty hid)
  · exact meets_finishTaskAt hpresent howes hclosing hend completedAt hQ

end End

/-! ## Execution -/

/-- A call that executes a task and has nothing to close. -/
structure Executes (id : String) (g : TaskPhase) : Prop where
  executing : g.executing = some id
  owes : g.owes = none
  closing : g.closing = none

/-- The task is over as far as a call can tell, or its last write failed. -/
def Executed (id : String) (g : TaskPhase) : Prop :=
  trimSpace id = "" ∨ g.ended = true ∨ g.failed = true

/-- An execution that has come to its end. -/
abbrev Concludes (id : String) (g : TaskPhase) : Prop := Executes id g ∧ Executed id g

/-- An execution that knows its task to be over if an update was not applied. -/
abbrev Marked (id : String) (err : Option TaskError) (g : TaskPhase) : Prop :=
  Executes id g ∧ ∀ what, err = some (.transitionNotApplied what) → g.ended = true

section Execution

variable {lib : TaskLib} {g : TaskPhase} {id : String}

namespace Executes

theorem present (h : Executes id g) : g.Present (trimSpace id) := ⟨id, .inr h.executing, rfl⟩

/-- The clock was read. -/
theorem read (h : Executes id g) (now : Int) : Executes id { g with reading := some now } :=
  ⟨h.executing, h.owes, h.closing⟩

theorem wrote (h : Executes id g) (taskID : String) (rows : Except String Nat) :
    Executes id (g.wrote taskID rows) := ⟨h.executing, h.owes, h.closing⟩

theorem marked (h : Executes id g) (rows : Except String Nat) : Executes id (g.marked rows) :=
  ⟨h.executing, h.owes, h.closing⟩

end Executes

theorem executed_wrote (taskID : String) (rows : Except String Nat) :
    Executed id (g.wrote taskID rows) := by
  cases rows with
  | error err => exact .inr (.inr rfl)
  | ok n => exact .inr (.inl rfl)

theorem transitionError_eq_notApplied {what what' : String} {rows : Except String Nat}
    (h : transitionError what rows = some (.transitionNotApplied what')) : rows = .ok 0 := by
  unfold transitionError at h
  split at h
  · nomatch h
  · rfl
  · nomatch h

section

variable (h : Executes id g)

include h

/-- A terminal write of an execution, at the time it reads. -/
theorem meets_finishTask_of_executes (hend : isTaskTerminal fin.status = true) (completedAt : Int) :
    TaskMeets lib g (finishTask lib id fin (some completedAt)) fun _ g' => Concludes id g' :=
  meets_finishTask h.present h.owes h.closing hend completedAt (fun hid => ⟨h, .inl hid⟩)
    fun rows => ⟨h.wrote _ rows, executed_wrote _ rows⟩

theorem meets_finishTaskWithError (hend : isTaskTerminal fin.status = true) :
    TaskMeets lib g (finishTaskWithError lib id fin) fun _ g' => Concludes id g' :=
  .call trivial fun now _ _ => meets_finishTask_of_executes (h.read now) hend now

theorem meets_failTaskOnPersistenceError (stage : String) (cause : TaskError) :
    TaskMeets lib g (failTaskOnPersistenceError lib id stage cause) fun _ g' => Concludes id g' := by
  refine .call trivial fun now _ _ => ?_
  refine .seq (meets_finishTask_of_executes (h.read now) rfl now)
    fun err g' hg' => ?_
  cases err with
  | none | some err => exact .pure hg'

omit h in
theorem meets_finishOrFail (stage : String) {finish : Task (Option TaskError)}
    (hfinish : TaskMeets lib g finish fun _ g' => Concludes id g') :
    TaskMeets lib g (finishOrFail lib id stage finish) fun _ g' => Concludes id g' := by
  refine .seq hfinish fun err g' hg' => ?_
  split
  · exact .pure hg'
  · exact .pure hg'
  · rename_i err _
    exact .seq (meets_failTaskOnPersistenceError hg'.1 stage err)
      fun _ _ hg'' => .pure hg''

/-- The outcome of an update to a status that is not terminal. -/
theorem Executes.updated (now : Int) (what : String) (rows : Except String Nat) :
    Marked id (transitionError what rows) ({ g with reading := some now }.marked rows) := by
  refine ⟨(h.read now).marked rows, fun what herr => ?_⟩
  obtain rfl := transitionError_eq_notApplied herr
  rfl

theorem meets_markTaskDispatched :
    TaskMeets lib g (markTaskDispatched id) (Marked id) := by
  unfold markTaskDispatched
  split
  · exact .pure ⟨h, nofun⟩
  · exact .call trivial fun now _ _ => .call ⟨h.executing, rfl⟩ fun rows _ _ =>
      .pure (h.updated now _ rows)

theorem meets_markTaskRunning (commandID : String) :
    TaskMeets lib g (markTaskRunning id commandID) (Marked id) := by
  unfold markTaskRunning
  split
  · exact .pure ⟨h, nofun⟩
  · exact .call trivial fun now _ _ => .call ⟨h.executing, rfl⟩ fun rows _ _ =>
      .pure (h.updated now _ rows)

/-- Nothing is being closed, so reading and cancelling leave the phase as it is. -/
theorem meets_cancelTaskRuntime (hQ : Q () g) :
    TaskMeets lib g (cancelTaskRuntime id) Q := by
  have hsome : g.executing.isSome := by rw [h.executing]; rfl
  -- None of the three operations changes the phase of an execution.
  have hlookup : ∀ r, g.next ⟨.getTaskRuntime id, r, ()⟩ = g := by
    intro r
    simp only [TaskPhase.next, h.executing]
    rw [← h.executing]
  have hload : ∀ record cancel, g.next ⟨.loadCancel record, cancel, ()⟩ = g := by
    intro record cancel
    simp only [TaskPhase.next, h.closing, Option.map_none]
    rw [← h.closing]
  have hcancel : ∀ record cancel, g.next ⟨.cancelOnceDo record cancel, (), ()⟩ = g := by
    intro record cancel
    simp only [TaskPhase.next, h.closing, Option.map_none]
    rw [← h.closing]
  refine .call (.inl h.executing) fun runtime _ _ => ?_
  change Prog.Meets _ (g.next ⟨.getTaskRuntime id, runtime, ()⟩) _ _
  rw [hlookup]
  cases runtime with
  | none => exact .pure hQ
  | some record =>
    refine .call (.inl ⟨h.closing, hsome⟩) fun cancel _ _ => ?_
    change Prog.Meets _ (g.next ⟨.loadCancel record, cancel, ()⟩) _ _
    rw [hload]
    cases cancel with
    | false => exact .pure hQ
    | true =>
      refine .call (.inl ⟨h.closing, hsome⟩) fun cancel _ _ => ?_
      change Prog.Meets _ (g.next ⟨.loadCancel record, cancel, ()⟩) _ _
      rw [hload]
      refine .last (.inl ⟨h.closing, hsome⟩) fun _ _ _ => ?_
      change Q () (g.next ⟨.cancelOnceDo record cancel, (), ()⟩)
      rw [hcancel]
      exact hQ

theorem meets_taskDispatched (commandID : String) :
    TaskMeets lib g (taskDispatched id commandID) (Marked id) := by
  refine .seq (meets_markTaskRunning h commandID) fun err g' hg' => ?_
  cases err with
  | none => exact .pure hg'
  | some err =>
    exact .bind (meets_cancelTaskRuntime hg'.1 (.pure hg'))

end

/-- One operation of a dispatch. -/
theorem meets_taskServiceOp (o : ServiceOp) (markRunningErr : Option TaskError)
    (h : Marked id markRunningErr g) :
    TaskMeets lib g (taskServiceOp id o markRunningErr) fun x g' => Marked id x.2 g' := by
  obtain ⟨hexec, hover⟩ := h
  unfold taskServiceOp
  split
  · refine .seq (meets_taskDispatched hexec _) fun err g' hg' => ?_
    cases err with
    | none | some err => exact .pure hg'
  · exact .call trivial fun now _ _ =>
      .pure ⟨hexec.read now, hover⟩
  · exact .call trivial fun r _ _ => .pure ⟨hexec, hover⟩

theorem isTaskTerminal_contextEnd (err : ContextError) :
    isTaskTerminal (contextEnd err).status = true := by
  cases err <;> rfl

theorem isTaskTerminal_closedEnd (message : String) :
    isTaskTerminal (closedEnd lib message).status = true := by
  unfold closedEnd
  split
  · exact isTaskTerminal_contextEnd _
  · rfl

theorem isTaskTerminal_dispatchErrorEnd (err : DispatchError) :
    isTaskTerminal (dispatchErrorEnd lib err).status = true := by
  unfold dispatchErrorEnd
  split
  all_goals first
    | rfl
    | exact isTaskTerminal_contextEnd _
    | exact isTaskTerminal_closedEnd _
    | (split <;> rfl)

theorem isTaskTerminal_outcomeErrorEnd (err : OutcomeError) :
    isTaskTerminal (outcomeErrorEnd lib err).status = true := by
  cases err with
  | execution err => rfl
  | closed message => exact isTaskTerminal_closedEnd message

variable {args : ExecuteTaskArgs}

theorem meets_finishOutcome (h : Executes args.taskID g) (outcome : CommandOutcome)
    (completedAt : Int) :
    TaskMeets lib g (finishOutcome lib args outcome completedAt) fun _ g' => Concludes args.taskID g' := by
  unfold finishOutcome
  split
  · apply meets_finishOrFail
    exact meets_finishTask_of_executes h rfl completedAt
  · apply meets_finishOrFail
    exact meets_finishTask_of_executes h rfl completedAt

theorem meets_settleTask (result : Except DispatchError CommandOutcome)
    {markRunningErr : Option TaskError} (hmarked : Marked args.taskID markRunningErr g) :
    TaskMeets lib g (settleTask lib args result markRunningErr) fun _ g' => Concludes args.taskID g' := by
  obtain ⟨h, hover⟩ := hmarked
  unfold settleTask
  split
  · rename_i what
    exact .pure ⟨h, .inr (.inl (hover what rfl))⟩
  · rename_i err _
    exact .seq (meets_failTaskOnPersistenceError h "mark_running" err)
      fun _ _ hg' => .pure hg'
  · split
    · exact meets_finishOrFail _ (meets_finishTaskWithError h (isTaskTerminal_dispatchErrorEnd _))
    · split
      · exact meets_finishOrFail _ (meets_finishTaskWithError h (isTaskTerminal_outcomeErrorEnd _))
      · split
        · exact meets_finishOutcome h _ _
        · exact .call trivial fun now _ _ => meets_finishOutcome (h.read now) _ now

/-- An execution ends when the task is over, or the store failed. -/
theorem meets_executeTask (h : Executes args.taskID g) :
    TaskMeets lib g (executeTask lib args) fun _ g' => Concludes args.taskID g' := by
  refine .seq (meets_markTaskDispatched h) fun err g' hg' => ?_
  split
  · rename_i what
    exact .pure ⟨hg'.1, .inr (.inl (hg'.2 what rfl))⟩
  · rename_i err _
    exact .seq (meets_failTaskOnPersistenceError hg'.1 "mark_dispatched" err)
      fun _ _ hg'' => .pure hg''
  · have hstart : Marked args.taskID none g' := ⟨hg'.1, nofun⟩
    exact .seq (Prog.Meets.translate (I := Marked args.taskID)
      (fun o s g hg => meets_taskServiceOp o s hg) _ hstart) fun x _ => meets_settleTask x.1

end Execution

/-! ## Submission -/

/-- A submission that has nothing to close. -/
structure Submits (req : SubmitTaskRequest) (g : TaskPhase) : Prop where
  call : g.call = .submit req
  owes : g.owes = none
  closing : g.closing = none
  executing : g.executing = none

/-- A submission went on with the same reservation, task and row. -/
structure Continues (g g' : TaskPhase) : Prop where
  call : g'.call = g.call
  key : g'.key = g.key
  own : g'.own = g.own
  owes : g'.owes = g.owes
  closing : g'.closing = g.closing
  executing : g'.executing = g.executing
  target : g'.target = g.target

theorem Continues.submits {req : SubmitTaskRequest} {g g' : TaskPhase} (h : Continues g g')
    (hg : Submits req g) : Submits req g' where
  call := h.call.trans hg.call
  owes := h.owes.trans hg.owes
  closing := h.closing.trans hg.closing
  executing := h.executing.trans hg.executing

theorem Continues.trans {g g' g'' : TaskPhase} (h : Continues g g') (h' : Continues g' g'') :
    Continues g g'' where
  call := h'.call.trans h.call
  key := h'.key.trans h.key
  own := h'.own.trans h.own
  owes := h'.owes.trans h.owes
  closing := h'.closing.trans h.closing
  executing := h'.executing.trans h.executing
  target := h'.target.trans h.target

/-- What the record of a row tells the submission that looked it up: without a record the
    row is taken to be terminal. -/
def HasRuntime (g : TaskPhase) (id : String) : Option Nat → Prop
  | none => g.known = some (trimSpace id)
  | some record => g.runtime = some (id, record)

/-- A checked submission of a request. -/
structure SubmissionOf (lib : TaskLib) (req : SubmitTaskRequest) (sub : Submission) : Prop where
  checked : checkSubmitTaskRequest lib req = .ok sub.request
  requestID : sub.requestID = trimSpace req.requestID
  wait : sub.wait = taskWait sub.request.mode req

theorem checkSubmitTaskRequest_ownerID {lib : TaskLib} {req : SubmitTaskRequest}
    {request : CheckedRequest} (h : checkSubmitTaskRequest lib req = .ok request) :
    request.ownerID = normalizeTaskOwnerID req.ownerID := by
  unfold checkSubmitTaskRequest at h
  dsimp only at h
  generalize (if req.inputJSON = "" then _ else req.inputJSON) = inputJSON at h
  split at h
  · nomatch h
  split at h
  · nomatch h
  split at h
  · nomatch h
  split at h
  · nomatch h
  split at h
  · exact Except.ok.inj h ▸ rfl
  · nomatch h

section Submission

variable {lib : TaskLib} {g : TaskPhase} {req : SubmitTaskRequest} {sub : Submission} {id : String}

theorem SubmissionOf.request (hsub : SubmissionOf lib req sub) (hg : Submits req g) :
    g.call.request = some (sub.request.ownerID, sub.requestID) := by
  rw [hg.call, TaskCall.request, checkSubmitTaskRequest_ownerID hsub.checked, hsub.requestID]

/-- The call ended with nothing left to close, and with the row that it answers. -/
abbrev Replies (lib : TaskLib) (r : Except TaskError SubmitTaskResult) (g : TaskPhase) : Prop :=
  g.Settled ∧ ∀ result, r = .ok result → g.Answers lib result

/-! ### The answer -/

/-- A row was read. -/
theorem meets_snapshotNow (hexec : g.executing = none) (htarget : g.target = some id)
    {Q : Except TaskError SubmitTaskResult → TaskPhase → Prop} (hnone : Q (.error .notFound) g)
    (hsome : ∀ row : TaskRow, Q (.ok ⟨snapshotTask id row, isTaskTerminal row.status⟩)
      { g with
        target := some id
        read := some ⟨id, row.status, g.known = some (trimSpace id)⟩ }) :
    TaskMeets lib g (snapshotNow id) Q := by
  refine .call ⟨hexec, fun _ _ => htarget⟩ fun row _ _ => ?_
  cases row with
  | none => exact .pure hnone
  | some row => exact .pure (hsome row)

variable {runtime : Option Nat}

/-- A submission waits until the record is closed, the timer fires or its context is over. -/
theorem meets_waitDone (hg : Submits req g) (htarget : g.target = some id)
    (hruntime : HasRuntime g id runtime) (waitDuration : Int)
    (hwait : 0 < waitDuration → waitDuration = taskWait .auto req) :
    TaskMeets lib g (waitDone runtime waitDuration) fun err g' => Continues g g' ∧
      (err = none → g'.known = some (trimSpace id) ∨ 0 < waitDuration ∧ g'.elapsed = true) := by
  cases runtime with
  | none => exact .pure ⟨⟨rfl, rfl, rfl, rfl, rfl, rfl, rfl⟩, fun _ => .inl hruntime⟩
  | some record =>
    unfold waitDone
    simp only
    split
    · refine .call ⟨⟨id, htarget, hruntime⟩, nofun⟩ fun wake _ hans => ?_
      cases wake with
      | contextDone err =>
        exact .pure ⟨⟨rfl, rfl, rfl, rfl, rfl, rfl, rfl⟩, nofun⟩
      | done =>
        refine .pure ⟨⟨rfl, rfl, rfl, rfl, rfl, rfl, rfl⟩, fun _ => .inl ?_⟩
        exact congrArg (Option.map trimSpace) htarget
      | timer => exact hans.elim
    · rename_i hpos
      have hpos : 0 < waitDuration := by omega
      refine .call ⟨req, hg.call, hwait hpos⟩ fun deadline _ _ => ?_
      refine .call ⟨⟨id, htarget, hruntime⟩, fun _ => rfl⟩ fun wake _ _ => ?_
      cases wake with
      | contextDone err =>
        exact .pure ⟨⟨rfl, rfl, rfl, rfl, rfl, rfl, rfl⟩, nofun⟩
      | done =>
        refine .pure ⟨⟨rfl, rfl, rfl, rfl, rfl, rfl, rfl⟩, fun _ => .inl ?_⟩
        exact congrArg (Option.map trimSpace) htarget
      | timer =>
        exact .pure ⟨⟨rfl, rfl, rfl, rfl, rfl, rfl, rfl⟩, fun _ => .inr ⟨hpos, rfl⟩⟩

/-- What a read after the wait may answer. -/
theorem answers_of_read (hg : Submits req g) {request : CheckedRequest}
    (hchecked : checkSubmitTaskRequest lib req = .ok request) (row : TaskRow)
    (hsync : request.mode = .sync → isTaskTerminal row.status = true ∨ g.known = some (trimSpace id))
    (hauto : request.mode = .auto → isTaskTerminal row.status = true ∨
      g.known = some (trimSpace id) ∨ g.elapsed = true) :
    TaskPhase.Answers lib
      { g with
        target := some id
        read := some ⟨id, row.status, g.known = some (trimSpace id)⟩ }
      ⟨snapshotTask id row, isTaskTerminal row.status⟩ :=
  ⟨req, request, _, hg.call, hchecked, rfl, rfl, rfl, rfl, .inl rfl,
    fun hmode => (hsync hmode).imp_right decide_eq_true,
    fun hmode => (hauto hmode).imp_right (Or.imp_left decide_eq_true)⟩

section

variable (hg : Submits req g) (hsub : SubmissionOf lib req sub)

include hg hsub

theorem meets_waitAndSnapshot (htarget : g.target = some id) (hruntime : HasRuntime g id runtime)
    {waitDuration : Int}
    (hsync : sub.request.mode = .sync → waitDuration = 0)
    (hwait : 0 < waitDuration → waitDuration = taskWait .auto req) :
    TaskMeets lib g (waitAndSnapshot id runtime waitDuration) fun r g' => Continues g g' ∧
      ∀ result, r = .ok result → g'.Answers lib result := by
  refine .seq (meets_waitDone hg htarget hruntime waitDuration hwait)
    fun err g' hg' => ?_
  obtain ⟨hcont, hwoken⟩ := hg'
  cases err with
  | some err => exact .pure ⟨hcont, nofun⟩
  | none =>
    have hg' := hcont.submits hg
    refine meets_snapshotNow hg'.executing (hcont.target.trans htarget)
      ⟨hcont, nofun⟩ fun row => ⟨?_, ?_⟩
    · refine hcont.trans ⟨rfl, rfl, rfl, rfl, rfl, rfl, ?_⟩
      rw [hcont.target, htarget]
    · rintro _ ⟨⟩
      refine answers_of_read hg' hsub.checked row (fun hmode => .inr ?_) (fun _ => .inr ?_)
      · -- No timer is set in sync mode.
        rcases hwoken rfl with hknown | ⟨hpos, -⟩
        · exact hknown
        · rw [hsync hmode] at hpos
          exact absurd hpos (lt_irrefl 0)
      · exact (hwoken rfl).imp_right And.right

/-- A submission answers with the row it resolves. -/
theorem meets_resolveSubmitTaskResult (htarget : g.target = some id)
    (hruntime : HasRuntime g id runtime) :
    TaskMeets lib g (resolveSubmitTaskResult id runtime sub.request.mode sub.wait)
      fun r g' => Continues g g' ∧ ∀ result, r = .ok result → g'.Answers lib result := by
  have hrefl : Continues g g := ⟨rfl, rfl, rfl, rfl, rfl, rfl, rfl⟩
  unfold resolveSubmitTaskResult
  split
  · exact .pure ⟨hrefl, nofun⟩
  · refine .bind (meets_snapshotNow hg.executing htarget
      (.pure ⟨hrefl, nofun⟩) fun row => ?_)
    have hcont : Continues g
        { g with
          target := some id
          read := some ⟨id, row.status, g.known = some (trimSpace id)⟩ } :=
      ⟨rfl, rfl, rfl, rfl, rfl, rfl, htarget.symm⟩
    have hg' := hcont.submits hg
    dsimp only
    split
    · rename_i hreturn
      refine .pure ⟨hcont, ?_⟩
      rintro _ ⟨⟩
      -- The first read is answered in async mode, or because the row is terminal.
      have hterminal : sub.request.mode ≠ .async → isTaskTerminal row.status = true :=
        fun hmode => hreturn.resolve_left hmode
      exact answers_of_read hg hsub.checked row (fun hmode => .inl (hterminal (hmode ▸ nofun)))
        (fun hmode => .inl (hterminal (hmode ▸ nofun)))
    · -- From here on the first read does not matter.
      have hwaited : ∀ waitDuration, (sub.request.mode = .sync → waitDuration = 0) →
          (0 < waitDuration → waitDuration = taskWait .auto req) →
          TaskMeets lib _ (waitAndSnapshot id runtime waitDuration)
            fun r g' => Continues g g' ∧ ∀ result, r = .ok result → g'.Answers lib result :=
        fun waitDuration hsync hwait =>
          (meets_waitAndSnapshot hg' hsub rfl
            (show HasRuntime _ id runtime by cases runtime <;> exact hruntime) hsync hwait).mono
            fun r g'' h => ⟨hcont.trans h.1, h.2⟩
      split
      · exact hwaited 0 (fun _ => rfl) (fun h => absurd h (lt_irrefl 0))
      · rename_i hmode
        exact hwaited sub.wait (fun h => nomatch hmode.symm.trans h) (fun _ => hmode ▸ hsub.wait)
      · rename_i hreturn _ hmode
        exact absurd (.inl hmode) hreturn

end

/-! ### Setting up the task -/

/-- Reading the clock and the connections leaves everything else as it is. -/
theorem meets_translate_plain {α : Type} (p : Service α) :
    TaskMeets lib g (p.translate plainServiceOp ())
      fun _ g' => ∃ reading, g' = { g with reading := reading } := by
  refine Prog.Meets.translate (I := fun _ g' => ∃ reading, g' = { g with reading := reading })
    (fun o _ g' hg' => ?_) p ⟨g.reading, rfl⟩
  obtain ⟨reading, rfl⟩ := hg'
  unfold plainServiceOp
  split
  · exact .call trivial fun now _ _ => .pure ⟨some now, rfl⟩
  · exact .call trivial fun _ _ _ => .pure ⟨reading, rfl⟩

theorem meets_checkAvailability (prepared : PreparedTaskInput) (ownerID : String) :
    TaskMeets lib g (checkAvailability lib prepared ownerID)
      fun _ g' => ∃ reading, g' = { g with reading := reading } := by
  unfold checkAvailability
  split
  · exact .pure ⟨g.reading, rfl⟩
  · split
    · exact .seq (meets_translate_plain _) fun _ _ h => .pure h
    · exact .seq (meets_translate_plain _) fun _ _ h => .pure h

/-- What a submission knows when its task is set up, or was before. -/
def Created (g : TaskPhase) : Creation → Prop
  | .failed _ => g.Ended
  | .existing id runtime => g.Unowned ∧ g.target = some id ∧ HasRuntime g id runtime
  | .completed id =>
    g.Ended ∧ g.target = some id ∧ g.known = some (trimSpace id)
  | .created id record =>
    g.own = some (id, .registered) ∧ g.target = some id ∧ g.runtime = some (id, record)

/-- A submission that found or set up its task, and has the reservation it had. -/
abbrev SetsUp (req : SubmitTaskRequest) (g : TaskPhase) (creation : Creation) (g' : TaskPhase) : Prop :=
  Submits req g' ∧ g'.key = g.key ∧ Created g' creation

/-- The reservation a submission needs. -/
def Reserved (g : TaskPhase) (sub : Submission) : Prop :=
  sub.requestID ≠ "" → g.key = some (taskRequestScopeKey sub.request.ownerID sub.requestID)

section

variable (hg : Submits req g) (hsub : SubmissionOf lib req sub)

include hg hsub

theorem meets_findTask (hne : sub.requestID ≠ "") (hkey : Reserved g sub) (hown : g.Unowned) :
    TaskMeets lib g (findTask sub) fun r g' =>
      match r with
      | none => g' = g
      | some creation => SetsUp req g creation g' := by
  refine .call ⟨hsub.request hg, hne, hg.executing⟩ fun found _ _ => ?_
  cases found with
  | none => exact .pure rfl
  | some found =>
    obtain ⟨id, row⟩ := found
    have hrequest : g.call.request = some (sub.request.ownerID, sub.requestID) := hsub.request hg
    refine .call (.inr ⟨hg.executing, rfl, hown, _, _, hrequest, hne, hkey hne⟩)
      fun runtime _ _ => ?_
    refine .pure ⟨⟨hg.call, hg.owes, hg.closing, hg.executing⟩, rfl, hown, rfl, ?_⟩
    -- A submission executes nothing, so the answer is remembered.
    cases runtime with
    | none | some record =>
      simp only [HasRuntime, taskProtocol, TaskPhase.next, hg.executing]

theorem meets_resolveConflict (hkey : Reserved g sub) (hown : g.Unowned) (insertErr : String) :
    TaskMeets lib g (resolveConflict lib sub insertErr) (SetsUp req g) := by
  have hfailed : ∀ err, Created g (.failed err) := fun _ id h => absurd h (hown id)
  unfold resolveConflict
  split
  · rename_i hconflict
    refine .seq (meets_findTask hg hsub hconflict.1 hkey hown) fun r g' hg' => ?_
    cases r with
    | some existing => exact .pure hg'
    | none =>
      obtain rfl : g' = g := hg'
      exact .pure ⟨hg, rfl, hfailed _⟩
  · exact .pure ⟨hg, rfl, hfailed _⟩

omit hsub in
theorem meets_registerTask (himmediate : g.immediate = sub.prepared.immediateResult.isSome)
    (hown : g.own = some (id, .inserted)) (htarget : g.target = some id) (hid : trimSpace id ≠ "")
    (now : Int) :
    TaskMeets lib g (registerTask lib sub id now) (SetsUp req g) := by
  unfold registerTask
  split
  · refine .bind (meets_finishTask ⟨id, .inl htarget, rfl⟩ hg.owes hg.closing rfl now
      (fun h => absurd h hid) fun rows => ?_)
    have hg' : Submits req (g.wrote (trimSpace id) rows) := ⟨hg.call, hg.owes, hg.closing, hg.executing⟩
    have hended : (g.wrote (trimSpace id) rows).Ended := by
      intro id' hid'
      have heq : some (id', OwnStage.inserted) = some (id, OwnStage.inserted) := hid'.symm.trans hown
      cases heq
      exact ⟨rows, rfl⟩
    cases transitionError _ rows with
    | some err => exact .pure ⟨hg', rfl, hended⟩
    | none => exact .pure ⟨hg', rfl, hended, htarget, rfl⟩
  · rename_i hnone
    rw [hnone] at himmediate
    exact .call ⟨hown, himmediate⟩ fun record _ _ =>
      .pure ⟨⟨hg.call, hg.owes, hg.closing, hg.executing⟩, rfl, rfl, htarget, rfl⟩

/-- A submission sets up the task of the id it draws. -/
theorem meets_createTask (hkey : Reserved g sub)
    (himmediate : g.immediate = sub.prepared.immediateResult.isSome) (hown : g.own = none) :
    TaskMeets lib g (createTask lib sub) (SetsUp req g) := by
  have hnothing : g.Ended := fun id h => nomatch hown.symm.trans h
  refine .seq (meets_checkAvailability sub.prepared sub.request.ownerID)
    fun err g' hg' => ?_
  obtain ⟨reading, rfl⟩ := hg'
  have hg' : Submits req { g with reading := reading } := ⟨hg.call, hg.owes, hg.closing, hg.executing⟩
  cases err with
  | some err => exact .pure ⟨hg', rfl, hnothing⟩
  | none =>
    refine .call hown fun taskID _ hans => ?_
    cases taskID with
    | error err => exact .pure ⟨hg', rfl, hnothing⟩
    | ok taskID =>
      obtain ⟨htrim, hne⟩ : trimSpace taskID = taskID ∧ taskID ≠ "" := hans
      refine .call trivial fun now _ _ => ?_
      have hfresh : Submits req { g with own := some (taskID, .fresh), reading := some now } :=
        ⟨hg.call, hg.owes, hg.closing, hg.executing⟩
      refine .call ⟨rfl, hsub.request hfresh, hkey, rfl, rfl, rfl, rfl⟩
        fun inserted _ _ => ?_
      cases inserted with
      | error err =>
        exact meets_resolveConflict hfresh hsub hkey nofun err
      | ok _ =>
        have hinserted : Submits req { g with
            own := some (taskID, .inserted), reading := some now, target := some taskID } :=
          ⟨hg.call, hg.owes, hg.closing, hg.executing⟩
        exact meets_registerTask hinserted himmediate rfl rfl (htrim.symm ▸ hne) now

/-! ### The call -/

omit hg hsub in
theorem meets_releaseRequest {reserved : Option String} (hkey : g.key = reserved) (hown : g.Ended) (hQ : Q () { g with key := none }) :
    TaskMeets lib g (releaseRequest reserved) Q := by
  cases reserved with
  | none =>
    refine .pure ?_
    rwa [← hkey] at hQ
  | some requestKey => exact .last ⟨hkey, hown⟩ fun _ _ _ => hQ

theorem meets_answerSubmission {reserved : Option String} (hkey : g.key = reserved)
    {creation : Creation} (hcreated : Created g creation) :
    TaskMeets lib g (answerSubmission sub reserved creation) (Replies lib) := by
  cases creation with
  | failed err =>
    exact .bind (meets_releaseRequest hkey hcreated
      (.pure ⟨⟨hg.owes, hg.closing⟩, nofun⟩))
  | existing id runtime =>
    obtain ⟨hown, htarget, hruntime⟩ := hcreated
    refine .seq (meets_resolveSubmitTaskResult hg hsub htarget hruntime)
      fun r g' hg' => ?_
    obtain ⟨hcont, hanswers⟩ := hg'
    refine .bind (meets_releaseRequest (hcont.key.trans hkey)
      (fun id h => absurd (hcont.own.symm.trans h) (hown id)) (.pure ?_))
    have hg' := hcont.submits hg
    exact ⟨⟨hg'.owes, hg'.closing⟩, hanswers⟩
  | completed id =>
    obtain ⟨hended, htarget, hknown⟩ := hcreated
    refine .bind (meets_releaseRequest hkey hended ?_)
    refine .call ⟨hg.executing, fun _ _ => htarget⟩ fun row _ _ => ?_
    cases row with
    | none => exact .pure ⟨⟨hg.owes, hg.closing⟩, nofun⟩
    | some row =>
      refine .pure ⟨⟨hg.owes, hg.closing⟩, ?_⟩
      rintro _ ⟨⟩
      -- The call wrote the end of the task itself.
      have hread : decide (g.known = some (trimSpace id)) = true := decide_eq_true hknown
      exact ⟨req, sub.request, _, hg.call, hsub.checked, rfl, rfl, rfl, rfl, .inr ⟨rfl, hread⟩,
        fun _ => .inr hread, fun _ => .inr (.inl hread)⟩
  | created id record =>
    obtain ⟨hown, htarget, hruntime⟩ := hcreated
    refine .bind (meets_releaseRequest hkey
      (fun id' h => nomatch (Prod.mk.inj (Option.mem_unique hown h)).2) ?_)
    refine .call hown fun _ _ _ => ?_
    have hg' : Submits req { g with key := none, own := some (id, .launched) } :=
      ⟨hg.call, hg.owes, hg.closing, hg.executing⟩
    have hrecord : HasRuntime { g with key := none, own := some (id, .launched) } id (some record) :=
      hruntime
    refine (meets_resolveSubmitTaskResult hg' hsub htarget hrecord).mono fun _ g'' h => ⟨?_, h.2⟩
    have hg'' := h.1.submits hg'
    exact ⟨hg''.owes, hg''.closing⟩

theorem meets_submitReserved (hne : sub.requestID ≠ "")
    (hkey : g.key = some (taskRequestScopeKey sub.request.ownerID sub.requestID))
    (himmediate : g.immediate = sub.prepared.immediateResult.isSome) (hown : g.own = none) :
    TaskMeets lib g
      (submitReserved lib sub (taskRequestScopeKey sub.request.ownerID sub.requestID)) (Replies lib) := by
  have hunowned : g.Unowned := fun id h => nomatch hown.symm.trans h
  refine .seq (meets_findTask hg hsub hne (fun _ => hkey) hunowned)
    fun r g' hg' => ?_
  cases r with
  | some creation => exact meets_answerSubmission hg'.1 hsub (hg'.2.1.trans hkey) hg'.2.2
  | none =>
    obtain rfl : g' = g := hg'
    exact .seq (meets_createTask hg hsub (fun _ => hkey) himmediate hown)
      fun creation g' hg' => meets_answerSubmission hg'.1 hsub (hg'.2.1.trans hkey) hg'.2.2

theorem meets_submitChecked (hkey : g.key = none)
    (himmediate : g.immediate = sub.prepared.immediateResult.isSome) (hown : g.own = none) :
    TaskMeets lib g (submitChecked lib sub) (Replies lib) := by
  have hgs : ∀ now, Submits req { g with reading := some now } :=
    fun _ => ⟨hg.call, hg.owes, hg.closing, hg.executing⟩
  -- What follows the pruning.
  have hrest : ∀ now, TaskMeets lib { g with reading := some now }
      (if sub.requestID ≠ "" then do
        if ← invoke (.reserveRequest (taskRequestScopeKey sub.request.ownerID sub.requestID)) then
          submitReserved lib sub (taskRequestScopeKey sub.request.ownerID sub.requestID)
        else return .error .requestInProgress
      else do
        let creation ← createTask lib sub
        answerSubmission sub none creation) (Replies lib) := by
    intro now
    split
    · rename_i hne
      refine .call hkey fun reserved _ _ => ?_
      cases reserved with
      | false => exact .pure ⟨⟨hg.owes, hg.closing⟩, nofun⟩
      | true =>
        exact meets_submitReserved ⟨hg.call, hg.owes, hg.closing, hg.executing⟩ hsub hne rfl
          himmediate hown
    · rename_i hempty
      refine .seq (meets_createTask (hgs now) hsub (fun hne => absurd hne hempty)
        himmediate hown) fun creation g' hg' => ?_
      exact meets_answerSubmission hg'.1 hsub (hg'.2.1.trans hkey) hg'.2.2
  refine .call trivial fun now _ _ => .bind ?_
  refine .call trivial fun due _ _ => ?_
  cases due with
  | false => exact .pure (hrest now)
  | true => exact .call trivial fun _ _ _ => .pure (hrest now)

end

/-- A submission answers with the row that it found or made. -/
theorem meets_submitTask (hg : Submits req g) (hkey : g.key = none) (hown : g.own = none) :
    TaskMeets lib g (submitTask lib req) (Replies lib) := by
  have hfailed : ∀ {g' : TaskPhase} (err : TaskError), g'.owes = g.owes → g'.closing = g.closing →
      TaskMeets lib g' (pure (Except.error err)) (Replies lib) :=
    fun _ howes hclosing =>
      .pure ⟨⟨howes.trans hg.owes, hclosing.trans hg.closing⟩, nofun⟩
  unfold submitTask
  split
  · exact hfailed _ rfl rfl
  · rename_i request hchecked
    refine .call hown fun prepared _ _ => ?_
    cases prepared with
    | error err => exact hfailed _ rfl rfl
    | ok prepared =>
      refine .call trivial fun inputJSON _ _ => ?_
      cases inputJSON with
      | error err => exact hfailed _ rfl rfl
      | ok inputJSON =>
        dsimp only
        split
        · exact hfailed _ rfl rfl
        · exact meets_submitChecked ⟨hg.call, hg.owes, hg.closing, hg.executing⟩
            ⟨hchecked, rfl, rfl⟩ hkey rfl hown

end Submission

/-! ## Cancelling, reading, and all calls -/

section Calls

variable {lib : TaskLib} {g : TaskPhase}

/-- What a cancellation answers, by its own write. -/
abbrev Cancels (r : CancelTaskResult) (g : TaskPhase) : Prop :=
  g.Settled ∧ ∀ task, r = .ok task → ∃ n, g.written = some (task.taskID, .ok (n + 1))

/-- A call that executes and submits nothing, and has nothing to close. -/
structure Plain (g : TaskPhase) : Prop where
  settled : g.Settled
  executing : g.executing = none
  call : ∀ req, g.call ≠ .submit req

/-- Such a call may read any row. -/
theorem Plain.reads (h : Plain g) (lib : TaskLib) (id : String) : g.Allowed lib (.getTaskByID id) :=
  ⟨h.executing, fun req hcall => absurd hcall (h.call req)⟩

theorem meets_cancelActive {id : String} (hid : trimSpace id = id) (htarget : g.target = some id)
    (hg : Plain g) (ownerID : String) : TaskMeets lib g (cancelActive lib id ownerID) Cancels := by
  refine .call trivial fun now _ _ => ?_
  have hpresent : TaskPhase.Present { g with reading := some now } (trimSpace id) :=
    ⟨id, .inl htarget, rfl⟩
  refine .bind (meets_finishTask hpresent hg.settled.1 hg.settled.2 rfl now ?_ fun rows => ?_)
  · exact fun _ => .pure ⟨hg.settled, nofun⟩
  cases rows with
  | error err => exact .pure ⟨hg.settled, nofun⟩
  | ok n =>
    cases n with
    | zero =>
      refine .call (hg.reads lib id) fun row _ _ => ?_
      cases row with
      | none => exact .pure ⟨hg.settled, nofun⟩
      | some row =>
        dsimp only
        split
        · exact .pure ⟨hg.settled, nofun⟩
        · split
          · exact .pure ⟨hg.settled, nofun⟩
          · exact .pure ⟨hg.settled, nofun⟩
    | succ n =>
      refine .call (hg.reads lib id) fun row _ _ => ?_
      cases row with
      | none => exact .pure ⟨hg.settled, nofun⟩
      | some row =>
        refine .pure ⟨hg.settled, ?_⟩
        rintro _ ⟨⟩
        -- The write was made under the trimmed id.
        have hwritten : some (trimSpace id, (Except.ok (n + 1) : Except String Nat)) =
            some ((snapshotTask id row).taskID, .ok (n + 1)) := by rw [hid]; rfl
        exact ⟨n, hwritten⟩

/-- A cancellation succeeds only by its own write. -/
theorem meets_cancelTask (hg : Plain g) (taskID ownerID : String) :
    TaskMeets lib g (cancelTask lib taskID ownerID) Cancels := by
  unfold cancelTask
  dsimp only
  split
  · exact .pure ⟨hg.settled, nofun⟩
  · refine .call (hg.reads lib _) fun row _ _ => ?_
    cases row with
    | none => exact .pure ⟨hg.settled, nofun⟩
    | some row =>
      dsimp only
      split
      · exact .pure ⟨hg.settled, nofun⟩
      · split
        · exact .pure ⟨hg.settled, nofun⟩
        · have hg' : Plain (g.next ⟨.getTaskByID (trimSpace taskID), some row, ()⟩) :=
            ⟨hg.settled, hg.executing, hg.call⟩
          exact meets_cancelActive (trimSpace_trimSpace taskID) rfl hg' _

theorem meets_getTask (hg : Plain g) (taskID ownerID : String) :
    TaskMeets lib g (getTask taskID ownerID) fun _ g' => g'.Settled := by
  unfold getTask
  dsimp only
  split
  · exact .pure hg.settled
  · refine .call (hg.reads lib _) fun row _ _ => ?_
    cases row with
    | none => exact .pure hg.settled
    | some row =>
      dsimp only
      split
      · exact .pure hg.settled
      · exact .pure hg.settled

/-- How a call ends. -/
def TaskCall.Finished (c : TaskCall) (g : TaskPhase) : Prop :=
  g.Settled ∧ ∀ goroutine, c = .execute goroutine → ∃ id, g.executing = some id ∧ Executed id g

/-- The code of every call keeps to the protocol. -/
theorem meets_taskBody (c : TaskCall) :
    TaskMeets lib c.start (c.body lib) fun _ g => c.Finished g := by
  cases c with
  | submit req =>
    refine .seq (meets_submitTask ⟨rfl, rfl, rfl, rfl⟩ rfl rfl) fun r g' hg' => ?_
    cases r with
    | error err => exact .last trivial fun _ _ _ => ⟨hg'.1, nofun⟩
    | ok result =>
      exact .last (hg'.2 result rfl) fun _ _ _ => ⟨hg'.1, nofun⟩
  | cancel taskID ownerID =>
    refine .seq (meets_cancelTask (g := (TaskCall.cancel taskID ownerID).start)
      ⟨⟨rfl, rfl⟩, rfl, nofun⟩ taskID ownerID) fun r g' hg' => ?_
    cases r with
    | error err => exact .last trivial fun _ _ _ => ⟨hg'.1, nofun⟩
    | ok task => exact .last (hg'.2 task rfl) fun _ _ _ => ⟨hg'.1, nofun⟩
  | get taskID ownerID =>
    exact .seq (meets_getTask (g := (TaskCall.get taskID ownerID).start)
      ⟨⟨rfl, rfl⟩, rfl, nofun⟩ taskID ownerID) fun _ _ h => .pure ⟨h, nofun⟩
  | execute goroutine =>
    refine .call rfl fun args _ _ => ?_
    have hstart : Executes args.taskID
        { (TaskCall.execute goroutine).start with executing := some args.taskID } :=
      ⟨rfl, rfl, rfl⟩
    exact (meets_executeTask hstart).mono fun _ _ h =>
      ⟨⟨h.1.owes, h.1.closing⟩, fun _ _ => ⟨args.taskID, h.1.executing, h.2⟩⟩
  | prune now =>
    exact .call trivial fun _ _ _ => .pure ⟨⟨rfl, rfl⟩, nofun⟩

/-- Only a timer that was set fires, and new ids are trimmed. -/
theorem answered_of_taskExec {s s' : TaskState} {o : TaskOp} {ans : TaskAnswer} {r : o.Res}
    (h : s.exec lib o ans = some (s', r)) : TaskPhase.Answered ⟨o, r, ()⟩ := by
  unfold TaskState.exec at h
  split at h
  · nomatch h
  · cases o with
    | newTaskID =>
      cases ans with
      | random raw =>
        cases raw with
        | error err =>
          obtain ⟨-, rfl⟩ := Prod.mk.inj (Option.some.inj h)
          trivial
        | ok raw =>
          simp only [TaskState.perform] at h
          split at h
          · nomatch h
          · obtain ⟨-, rfl⟩ := Prod.mk.inj (Option.some.inj h)
            exact ⟨trimSpace_generateUUIDv4 raw, generateUUIDv4_ne_empty raw⟩
      | _ => nomatch h
    | waitDone record timer =>
      cases ans with
      | wake wake =>
        simp only [TaskState.perform] at h
        split at h
        · rename_i hwake
          obtain ⟨-, rfl⟩ := Prod.mk.inj (Option.some.inj h)
          cases timer with
          | some deadline => trivial
          | none =>
            cases wake with
            | timer => nomatch hwake
            | _ => trivial
        · nomatch h
      | _ => nomatch h
    | _ => trivial

/-- All calls of all processes keep to the protocol. -/
theorem taskKeeps {ok : TaskPool → TaskAction → Prop} {p : TaskPool}
    (h : (taskMachine lib).ReachableWhere ok p) :
    ∀ t ∈ p.threads, ThreadSystem.Thread.Keeps (taskProtocol lib) TaskCall.start TaskCall.Finished t :=
  ThreadSystem.processes_keeps meets_taskBody (fun _ _ _ _ _ _ hexec => answered_of_taskExec hexec) h

end Calls

end Onlyboxes.Console
