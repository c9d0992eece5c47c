import Onlyboxes.Spec.ConsoleRuns
import Onlyboxes.Spec.TaskProtocol
import Onlyboxes.Spec.TaskRows

/-!
# What one operation of a task call does

`TaskEffect` says once what each operation does to the shared state and what it answers.
The invariants of the later modules are case analyses over it, in which the operations an
invariant is not about are all alike.

## Key results

- `effect_of_exec`: the operations have these effects
- `rowMove_of_step`: what a step does to the row of a task
- `task_cases`: what one step of the console is
-/

namespace Onlyboxes.Console

open Text TaskRows TaskState ThreadSystem

/-- The events that neither show nor change anything that tasks share. -/
def TaskOp.quiet : (o : TaskOp) → o.Res → Bool
  | .service _, _ | .prepareTaskInput .., _ | .scopeTaskInputByOwner .., _ | .claimInlinePrune _, _
  | .returnSubmit _, _ | .returnCancel _, _ => true
  | .newTaskID, .error _ | .insertTask .., .error _ => true
  | .reserveRequest _, reserved => !reserved
  | _, _ => false

/-- What an operation answers, and the state it leaves. -/
inductive TaskEffect (s : TaskState) : (o : TaskOp) → o.Res → TaskState → Prop
  | quiet {o : TaskOp} {r : o.Res} (hquiet : o.quiet r = true) (service : ServiceState) (last : Int) :
      TaskEffect s o r { s with service := service, lastInlineTaskPruneUnixMs := last }
  | now : TaskEffect s .nowFn s.clock s
  | drawn {taskID : String} (hfresh : taskID ∉ s.issued) (htrim : trimSpace taskID = taskID)
      (hne : taskID ≠ "") :
      TaskEffect s .newTaskID (.ok taskID) { s with issued := taskID :: s.issued }
  | reserved {requestKey : String} (hfree : s.taskRequestReservations.lookup requestKey = none) :
      TaskEffect s (.reserveRequest requestKey) true { s with
        taskRequestReservations := s.taskRequestReservations.insert requestKey () }
  | released (requestKey : String) :
      TaskEffect s (.releaseRequest requestKey) () { s with
        taskRequestReservations := s.taskRequestReservations.erase requestKey }
  | pruned {now : Int} {rows : TaskRows} {result : Except String Nat} {fault : StoreFault}
      (h : s.rows.deleteExpiredTerminalTasks now fault = (rows, result)) :
      TaskEffect s (.deleteExpiredTerminalTasks now) result { s with rows := rows }
  | inserted {taskID : String} {row : TaskRow} {rows : TaskRows} {fault : StoreFault}
      (h : s.rows.insertTask taskID row fault = .ok rows) :
      TaskEffect s (.insertTask taskID row) (.ok ()) { s with rows := rows }
  | read {taskID : String} {found : Option TaskRow}
      (h : ∀ row, found = some row → s.rows.lookup taskID = some row) :
      TaskEffect s (.getTaskByID taskID) found s
  | found {ownerID requestID : String} {found : Option (String × TaskRow)}
      (h : ∀ id row, found = some (id, row) → s.rows.lookup id = some row ∧ row.ownerID = ownerID ∧
        row.requestID = requestID) :
      TaskEffect s (.getTaskByOwnerAndRequest ownerID requestID) found s
  | dispatched {taskID : String} {updatedAt : Int} {rows : TaskRows} {result : Except String Nat}
      {fault : StoreFault}
      (h : s.rows.updateNonTerminal taskID (.setDispatched updatedAt) fault = (rows, result)) :
      TaskEffect s (.markTaskDispatched taskID updatedAt) result { s with rows := rows }
  | running {taskID commandID : String} {updatedAt : Int} {rows : TaskRows}
      {result : Except String Nat} {fault : StoreFault}
      (h : s.rows.updateNonTerminal taskID (.setRunning commandID updatedAt) fault = (rows, result)) :
      TaskEffect s (.markTaskRunning taskID commandID updatedAt) result { s with rows := rows }
  | terminal {taskID : String} {params : MarkTaskTerminalParams} {rows : TaskRows}
      {result : Except String Nat} {fault : StoreFault}
      (h : s.rows.updateNonTerminal taskID (.setTerminal params) fault = (rows, result)) :
      TaskEffect s (.markTaskTerminal taskID params) result { s with rows := rows }
  | registered (taskID : String) :
      TaskEffect s (.setTaskRuntime taskID) s.records.length { s with
        tasks := s.tasks.insert taskID s.records.length
        records := s.records ++ [{ id := taskID }] }
  | lookedUp (taskID : String) :
      TaskEffect s (.getTaskRuntime taskID) (s.tasks.lookup taskID) s
  | taken (taskID : String) :
      TaskEffect s (.takeTaskRuntime taskID) (s.tasks.lookup taskID)
        { s with tasks := s.tasks.erase taskID }
  | loaded {record : Nat} {r : TaskRecord} (h : s.records[record]? = some r) :
      TaskEffect s (.loadCancel record) r.cancel s
  | cleared {record : Nat} {r : TaskRecord} (h : s.records[record]? = some r) :
      TaskEffect s (.clearCancel record) ()
        { s with records := s.records.set record { r with cancel := false } }
  | cancelledBefore {record : Nat} {cancel : Bool} {r : TaskRecord}
      (h : s.records[record]? = some r) (honce : r.cancelOnce = true) :
      TaskEffect s (.cancelOnceDo record cancel) () s
  | cancelled {record : Nat} {r : TaskRecord} (h : s.records[record]? = some r) :
      TaskEffect s (.cancelOnceDo record true) ()
        { s with records := s.records.set record { r with cancelOnce := true, canceled := true } }
  | panicked (record : Nat) : TaskEffect s (.cancelOnceDo record false) () { s with panicked := true }
  | closed {record : Nat} {r : TaskRecord} (h : s.records[record]? = some r) :
      TaskEffect s (.doneOnceDo record) ()
        { s with records := s.records.set record r.close }
  | launched (args : ExecuteTaskArgs) :
      TaskEffect s (.goExecuteTask args) () { s with goroutines := s.goroutines ++ [args] }
  | began {goroutine : Nat} {args : ExecuteTaskArgs} (hnew : goroutine ∉ s.started)
      (h : s.goroutines[goroutine]? = some args) :
      TaskEffect s (.startExecuteTask goroutine) args { s with started := goroutine :: s.started }
  | timer (wait : Int) : TaskEffect s (.newTimer wait) (s.clock + wait) s
  | woken {record : Nat} {timer : Option Int} {wake : Wake} (h : s.canWake record timer wake = true) :
      TaskEffect s (.waitDone record timer) wake s

variable {lib : TaskLib} {s s' : TaskState} {o : TaskOp}

variable {r : o.Res}

/-- The operations have these effects. -/
theorem effect_of_exec {ans : TaskAnswer} (h : s.exec lib o ans = some (s', r)) :
    TaskEffect s o r s' := by
  unfold TaskState.exec at h
  split at h
  · nomatch h
  unfold TaskState.perform at h
  split at h
  case h_1 =>
    split at h
    · nomatch h
    · cases h
      exact .quiet rfl _ _
  case h_2 =>
    cases h
    exact .now
  case h_3 =>
    cases h
    exact .quiet rfl _ _
  case h_4 =>
    split at h
    · nomatch h
    · rename_i hfresh
      cases h
      exact .drawn hfresh (trimSpace_generateUUIDv4 _) (generateUUIDv4_ne_empty _)
  case h_5 =>
    cases h
    exact .quiet rfl _ _
  case h_6 =>
    cases h
    exact .quiet rfl _ _
  case h_7 =>
    split at h
    · cases h
      exact .quiet rfl _ _
    · cases h
      exact .quiet rfl _ _
  case h_8 =>
    cases h
    exact .pruned rfl
  case h_9 =>
    split at h
    · cases h
      exact .quiet rfl _ _
    · rename_i hfree
      cases h
      exact .reserved (Option.not_isSome_iff_eq_none.mp hfree)
  case h_10 =>
    cases h
    exact .released _
  case h_11 =>
    split at h
    · cases h
      exact .quiet rfl _ _
    · rename_i hinsert
      cases h
      exact .inserted hinsert
  case h_12 =>
    cases h
    exact .read fun row hrow => getTaskByID_eq_some hrow
  case h_13 =>
    cases h
    exact .found fun id row hrow => getTaskByOwnerAndRequest_eq_some hrow
  case h_14 =>
    cases h
    exact .dispatched rfl
  case h_15 =>
    cases h
    exact .running rfl
  case h_16 =>
    cases h
    exact .terminal rfl
  case h_17 =>
    cases h
    exact .registered _
  case h_18 =>
    cases h
    exact .lookedUp _
  case h_19 =>
    cases h
    exact .taken _
  case h_20 =>
    split at h
    · nomatch h
    · rename_i hr
      cases h
      exact .loaded hr
  case h_21 =>
    unfold TaskState.onRecord at h
    split at h
    · nomatch h
    · rename_i hr
      cases h
      exact .cleared hr
  case h_22 =>
    unfold TaskState.cancelOnceDo at h
    split at h
    · nomatch h
    rename_i hr
    split at h
    · rename_i honce
      cases h
      exact .cancelledBefore hr honce
    · split at h
      · rename_i hcancel
        obtain rfl := hcancel
        cases h
        exact .cancelled hr
      · rename_i hcancel
        obtain rfl := eq_false_of_ne_true hcancel
        cases h
        exact .panicked _
  case h_23 =>
    unfold TaskState.onRecord at h
    split at h
    · nomatch h
    · rename_i hr
      cases h
      exact .closed hr
  case h_24 =>
    cases h
    exact .launched _
  case h_25 =>
    split at h
    · nomatch h
    rename_i hnew
    split at h
    · nomatch h
    · rename_i hargs
      cases h
      exact .began (fun hmem => hnew (.inr hmem)) hargs
  case h_26 =>
    cases h
    exact .timer _
  case h_27 =>
    split at h
    · rename_i hwake
      cases h
      exact .woken hwake
    · nomatch h
  case h_28 =>
    cases h
    exact .quiet rfl _ _
  case h_29 =>
    cases h
    exact .quiet rfl _ _
  case h_30 => nomatch h

variable {g : TaskPhase}

/-- What an operation does to the row of an id. Only the call that drew the id inserts a
    row for it. -/
theorem rowMove_of_effect (hallowed : g.Allowed lib o) (heffect : TaskEffect s o r s') (id : String) :
    RowMove (s.rows.lookup id) (s'.rows.lookup id) ∧
      (g.own ≠ some (id, .fresh) → s.rows.lookup id = none → s'.rows.lookup id = none) := by
  have hsame : RowMove (s.rows.lookup id) (s.rows.lookup id) ∧
      (g.own ≠ some (id, .fresh) → s.rows.lookup id = none → s.rows.lookup id = none) :=
    ⟨.same _, fun _ h => h⟩
  cases heffect with
  | @inserted taskID row rows fault hinsert =>
    obtain ⟨hnone, rfl, -⟩ := insertTask_eq_ok hinsert
    obtain ⟨hown, -, -, hqueued, -⟩ := hallowed
    change RowMove _ (AList.lookup id (AList.insert taskID row s.rows)) ∧
      (_ → _ → AList.lookup id (AList.insert taskID row s.rows) = none)
    rw [AList.lookup_insert_ite]
    split
    · rename_i heq
      rw [heq, hnone]
      exact ⟨.inserted hqueued, fun hother => absurd hown hother⟩
    · exact hsame
  | pruned hrows =>
    exact ⟨rowMove_deleteExpired hrows id,
      fun _ h => (within_deleteExpired hrows).lookup_eq_none h⟩
  | dispatched hrows | running hrows | terminal hrows =>
    have hset : ∀ row : TaskRow, row.ownerID = row.ownerID ∧ row.requestID = row.requestID :=
      fun _ => ⟨rfl, rfl⟩
    exact ⟨rowMove_updateNonTerminal hrows hset id,
      fun _ h => (within_updateNonTerminal hrows hset).lookup_eq_none h⟩
  | _ => exact hsame

/-- No call moves the clock. -/
theorem TaskEffect.clock (h : TaskEffect s o r s') :
    s'.clock = s.clock := by
  cases h <;> rfl

/-- What happens besides the calls touches the connections or the clock. -/
theorem occurs_cases {e : TaskEvent} (h : s.occurs lib e = some s') :
    ∃ service now, s.clock ≤ now ∧ s' = { s with service := service, clock := now } := by
  cases e with
  | service e =>
    simp only [TaskState.occurs] at h
    split at h
    · nomatch h
    · exact ⟨_, _, Int.le_refl _, (Option.some.inj h).symm⟩
  | tick now =>
    simp only [TaskState.occurs] at h
    split at h
    · rename_i hle
      exact ⟨_, now, hle, (Option.some.inj h).symm⟩
    · nomatch h

/-- What a new process starts with. -/
abbrev TaskState.restarted (lib : TaskLib) (s : TaskState) (now : Int) (service : ServiceState) :
    TaskState :=
  { service := service
    rows := s.rows.markNonTerminalTasksFailedOnStartup now lib.taskRetentionMs
    clock := now
    issued := s.issued
    goroutines := s.goroutines
    started := s.started
    bygone := s.goroutines.length }

theorem restart_eq_some {now : Int} (h : s.restart lib now = some s') :
    s.clock ≤ now ∧ ∃ service, s' = s.restarted lib now service := by
  unfold TaskState.restart at h
  dsimp only at h
  split at h
  · nomatch h
  · split at h
    · rename_i hle
      exact ⟨hle, _, (Option.some.inj h).symm⟩
    · nomatch h

/-- The phases of all calls of the running process. -/
abbrev taskPhases (lib : TaskLib) (p : TaskPool) : List TaskPhase :=
  ThreadSystem.ghosts (taskProtocol lib) TaskCall.start p

variable {ok : TaskPool → TaskAction → Prop} {p p' : TaskPool} {a : TaskAction}

/-- What one step of the console is. -/
theorem task_cases (hreach : (taskMachine lib).ReachableWhere ok p)
    (hs : (taskMachine lib).step p a = some p') :
    (∃ c, a = .step (.spawn c) ∧ p'.shared = p.shared ∧
      taskPhases lib p' = taskPhases lib p ++ [c.start]) ∨
    (∃ i ans g o r, a = .step (.run i ans) ∧ (taskPhases lib p)[i]? = some g ∧
      p.nextOp i = some o ∧ g.Allowed lib o ∧ p.shared.exec lib o ans = some (p'.shared, r) ∧
      taskPhases lib p' = (taskPhases lib p).set i (g.next ⟨o, r, ()⟩)) ∨
    (∃ e service now, a = .step (.env e) ∧ p.shared.clock ≤ now ∧
      p'.shared = { p.shared with service := service, clock := now } ∧
      taskPhases lib p' = taskPhases lib p) ∨
    (∃ now service, a = .restart now ∧ p.shared.clock ≤ now ∧
      p'.shared = p.shared.restarted lib now service ∧ taskPhases lib p' = []) := by
  rcases processes_cases (taskKeeps hreach) hs with hspawn | hrun |
    ⟨e, ha, he, hphases⟩ | ⟨now, ha, hr, hphases⟩
  · exact .inl hspawn
  · exact .inr (.inl hrun)
  · obtain ⟨service, now, hle, heq⟩ := occurs_cases he
    exact .inr (.inr (.inl ⟨e, service, now, ha, hle, heq, hphases⟩))
  · obtain ⟨hle, service, heq⟩ := restart_eq_some hr
    exact .inr (.inr (.inr ⟨now, service, ha, hle, heq, hphases⟩))

/-- Quiet events leave everything but `immediate` as it is. -/
theorem TaskPhase.next_quiet (g : TaskPhase) (h : o.quiet r = true) :
    ∃ immediate, g.next ⟨o, r, ()⟩ = { g with immediate := immediate } ∧
      (immediate = g.immediate ∨ ∃ capability ownerID inputJSON,
        o = .prepareTaskInput capability ownerID inputJSON) := by
  cases o with
  | prepareTaskInput capability ownerID inputJSON =>
    cases r with
    | error err => exact ⟨g.immediate, rfl, .inl rfl⟩
    | ok prepared => exact ⟨_, rfl, .inr ⟨_, _, _, rfl⟩⟩
  | newTaskID =>
    cases r with
    | error err => exact ⟨g.immediate, rfl, .inl rfl⟩
    | ok taskID => nomatch h
  | insertTask taskID row =>
    cases r with
    | error err => exact ⟨g.immediate, rfl, .inl rfl⟩
    | ok _ => nomatch h
  | reserveRequest requestKey =>
    cases r with
    | false => exact ⟨g.immediate, rfl, .inl rfl⟩
    | true => nomatch h
  | service | scopeTaskInputByOwner | claimInlinePrune | returnSubmit | returnCancel =>
    exact ⟨g.immediate, rfl, .inl rfl⟩
  | _ => nomatch h

/-- So what does not depend on it holds after a quiet event. -/
@[elab_as_elim] theorem TaskPhase.of_quiet {motive : TaskPhase → Prop} (g : TaskPhase)
    (h : o.quiet r = true) (hsame : ∀ immediate, motive { g with immediate := immediate }) :
    motive (g.next ⟨o, r, ()⟩) := by
  obtain ⟨immediate, hnext, -⟩ := g.next_quiet h
  exact hnext ▸ hsame immediate

/-- A call stays the call it is. -/
theorem TaskPhase.next_call (g : TaskPhase) (e : TaskCallEvent) : (g.next e).call = g.call := by
  unfold TaskPhase.next
  split <;> rfl

theorem TaskPhase.after_call (g : TaskPhase) (log : List TaskCallEvent) :
    ((taskProtocol lib).after g log).call = g.call := by
  induction log with
  | nil => rfl
  | cons e log ih => exact (TaskPhase.next_call _ e).trans ih

variable {i : Nat}

/-- The phase of a call. -/
theorem taskPhase_of_thread {t : TaskThread} (ht : p.threads[i]? = some t) :
    (taskPhases lib p)[i]? = some ((taskProtocol lib).after t.call.start t.log) :=
  ghost_of_thread ht

/-- The next operation of a call is one its phase allows. -/
theorem task_allowed_of_nextOp (hreach : (taskMachine lib).ReachableWhere ok p)
    (hnext : p.nextOp i = some o) :
    ∃ t g, p.threads[i]? = some t ∧ g.call = t.call ∧ (taskPhases lib p)[i]? = some g ∧
      g.Allowed lib o := by
  obtain ⟨t, ht, hallowed⟩ := ThreadSystem.allowed_of_nextOp (taskKeeps hreach) hnext
  exact ⟨t, _, ht, TaskPhase.after_call t.call.start t.log, taskPhase_of_thread ht, hallowed⟩

/-- Invariants of the shared state and all calls together. -/
theorem task_invariant {I : TaskState → List TaskPhase → Prop}
    (hinit : ∀ s : TaskState, s.Started → I s [])
    (hspawn : ∀ s gs (c : TaskCall), I s gs → I s (gs ++ [c.start]))
    (hrun : ∀ p i ans g o s' r, (taskMachine lib).ReachableWhere ok p → ok p (.step (.run i ans)) →
      I p.shared (taskPhases lib p) → (taskPhases lib p)[i]? = some g → p.nextOp i = some o →
      g.Allowed lib o → p.shared.exec lib o ans = some (s', r) → TaskEffect p.shared o r s' →
      I s' ((taskPhases lib p).set i (g.next ⟨o, r, ()⟩)))
    (htick : ∀ (s : TaskState) gs service now, s.clock ≤ now → I s gs →
      I { s with service := service, clock := now } gs)
    (hrestart : ∀ (s : TaskState) gs now service, s.clock ≤ now → I s gs →
      I (s.restarted lib now service) [])
    {p : TaskPool} (h : (taskMachine lib).ReachableWhere ok p) : I p.shared (taskPhases lib p) := by
  apply h.invariant (P := fun p => I p.shared (taskPhases lib p))
  · intro p hp
    rw [taskPhases, ThreadSystem.ghosts, hp.2]
    exact hinit _ hp.1
  · intro p a p' hreach ih hok hs
    rcases task_cases hreach hs with ⟨c, rfl, hshared, hphases⟩ |
      ⟨i, ans, g, o, r, rfl, hg, hnext, hallowed, hexec, hphases⟩ |
      ⟨e, service, now, -, hle, heq, hphases⟩ | ⟨now, service, -, hle, heq, hphases⟩
    · rw [hphases, hshared]
      exact hspawn _ _ c ih
    · rw [hphases]
      exact hrun p i ans g o _ r hreach hok ih hg hnext hallowed hexec (effect_of_exec hexec)
    · rw [hphases, heq]
      exact htick _ _ service now hle ih
    · rw [hphases, heq]
      exact hrestart _ _ now service hle ih

/-- Invariants made of a condition on the shared state, one on each call, and one between
    every two calls. -/
theorem task_local {Base : TaskState → Prop}
    {Local : TaskState → TaskPhase → Prop} {D : TaskPhase → TaskPhase → Prop}
    (hinit : ∀ s : TaskState, s.Started → Base s)
    (hspawn : ∀ s (c : TaskCall), Base s → Local s c.start)
    (hnew : ∀ (c : TaskCall) g, D g c.start ∧ D c.start g)
    (hrun : ∀ p i ans g o s' r, (taskMachine lib).ReachableWhere ok p → ok p (.step (.run i ans)) →
      ThreadSystem.Locally Base Local D p.shared (taskPhases lib p) →
      (taskPhases lib p)[i]? = some g → p.nextOp i = some o → g.Allowed lib o →
      p.shared.exec lib o ans = some (s', r) → TaskEffect p.shared o r s' →
      ThreadSystem.Locally Base Local D s' ((taskPhases lib p).set i (g.next ⟨o, r, ()⟩)))
    (htick : ∀ (s : TaskState) service now, s.clock ≤ now → Base s →
      Base { s with service := service, clock := now } ∧
        ∀ g, Local s g → Local { s with service := service, clock := now } g)
    (hrestart : ∀ (s : TaskState) now service, s.clock ≤ now → Base s →
      Base (s.restarted lib now service))
    {p : TaskPool} (h : (taskMachine lib).ReachableWhere ok p) :
    ThreadSystem.Locally Base Local D p.shared (taskPhases lib p) := by
  refine task_invariant (fun s hs => .nil (hinit s hs))
    (fun s gs c h => h.spawn (hspawn s c h.base) (hnew c)) hrun ?_
    (fun s gs now service hle h => .nil (hrestart s now service hle h.base)) h
  intro s gs service now hle h
  obtain ⟨hbase, hlocal⟩ := htick s service now hle h.base
  exact h.mono hbase hlocal

variable {gs : List TaskPhase} {g' : TaskPhase} {P : TaskPhase → Prop}

/-- A call that has a property keeps it, or another one has it. -/
theorem exists_phase_set (hi : gs[i]? = some g) (hself : P g → P g') (h : ∃ g ∈ gs, P g) :
    ∃ g ∈ gs.set i g', P g := by
  obtain ⟨g₂, hmem, hP⟩ := h
  obtain ⟨j, hj⟩ := List.getElem?_of_mem hmem
  rcases List.getElem?_set_or g' hi hj with ⟨rfl, rfl, hg'⟩ | ⟨-, hg₂⟩
  · exact ⟨g', List.mem_of_getElem? hg', hself hP⟩
  · exact ⟨g₂, List.mem_of_getElem? hg₂, hP⟩

/-- If a call has a property after a step, one had it before. -/
theorem exists_of_phase_set (hi : gs[i]? = some g) (hself : P g' → P g) (h : ∃ g ∈ gs.set i g', P g) :
    ∃ g ∈ gs, P g := by
  obtain ⟨g₂, hmem, hP⟩ := h
  rcases List.mem_or_eq_of_mem_set hmem with hmem | rfl
  · exact ⟨g₂, hmem, hP⟩
  · exact ⟨g, List.mem_of_getElem? hi, hself hP⟩

/-- What a step does to the row of a task. -/
theorem rowMove_of_step (hreach : (taskMachine lib).ReachableWhere ok p)
    (hs : (taskMachine lib).step p a = some p') (id : String) :
    RowMove (p.shared.rows.lookup id) (p'.shared.rows.lookup id) := by
  rcases task_cases hreach hs with ⟨c, -, hshared, -⟩ |
    ⟨i, ans, g, o, r, -, -, -, hallowed, hexec, -⟩ | ⟨e, service, now, -, -, heq, -⟩ |
    ⟨now, service, -, -, heq, -⟩
  · rw [hshared]
    exact .same _
  · exact (rowMove_of_effect hallowed (effect_of_exec hexec) id).1
  · rw [heq]
    exact .same _
  · rw [heq]
    exact rowMove_startup now lib.taskRetentionMs id

/-! ## Runs on fixed inputs -/

/-- A library to execute runs with: every text is valid JSON, results are passed on as they
    are, and tasks are kept for a second. -/
def TaskLib.sample : TaskLib where
  toGoLib := .sample
  jsonValid _ := true
  buildEchoPayload message := message
  parseEchoPayload payload := some payload
  terminalSessionIntentForTaskInput _ _ := .unknown
  restoreTaskResultOwnerScope _ _ payload := some payload
  closedErrorContext _ := none
  taskRetentionMs := 1000
  taskRetentionMs_pos := by decide

/-- A console without workers and tasks. -/
def TaskPool.fresh : TaskPool :=
  { shared := { service := ConsolePool.fresh.shared, clock := 1 } }

theorem TaskPool.fresh_reachable (lib : TaskLib) :
    (taskMachine lib).ReachableWhere ok fresh :=
  .init ⟨⟨_, 1, ⟨_, .new 0 ∅, rfl⟩, rfl⟩, rfl⟩

/-- Calls run, one operation after the other. -/
def TaskAction.runs (i : Nat) (answers : List TaskAnswer) : List TaskAction :=
  answers.map fun ans => .step (.run i ans)

/-- The bytes of the sample id number `n`. -/
def sampleID (n : Fin 256) : TaskAnswer := .random (.ok fun _ => n)

/-- The first id that is drawn. -/
def firstID : TaskAnswer := sampleID 1

def firstTaskID : String := generateUUIDv4 fun _ => 1

/-- What a submission is answered up to its reservation, with a prepared input. -/
def submitToReserved (prepared : PreparedTaskInput) : List TaskAnswer :=
  [.prepared (.ok prepared), .scoped (.ok prepared.inputJSON), .none, .none, .store none, .none]

/-- A worker with four slots for echo is connected. -/
def workerOnline : List TaskAction :=
  [.step (.env (.service (.connect "n" [some ⟨"echo", 4⟩]))),
    .step (.env (.service (.recoveryComplete ⟨0, "n"⟩))), .step (.env (.service (.publish ⟨0, "n"⟩)))]

/-- An input for a worker. -/
def echoInput : PreparedTaskInput := { inputJSON := "1", dispatchCapability := "echo" }

/-- What a submission without a request id is answered up to the insertion of the row. -/
def submitToInserted : List TaskAnswer :=
  [.prepared (.ok echoInput), .scoped (.ok "1"), .none, .none, .store none, .service (.nodes ["n"]),
    .service .none, .service .none, .service .none, firstID, .none, .store none]

/-- An input whose result is there at once. -/
def immediateInput : PreparedTaskInput :=
  { inputJSON := "1", dispatchCapability := "echo", immediateResult := some "1" }

end Onlyboxes.Console
