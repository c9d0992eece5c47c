import Onlyboxes.Spec.TaskOwnership

/-!
# The states of a task

Executions, cancellations, time limits and restarts race to end a task. Whoever writes
first wins, by one `MarkTaskTerminal` that changes one row or by the start of a process;
from then on the row stays as it is until it is deleted, and every later attempt is told
so.

## Key results

- `terminal_leadsTo`: a terminal row stays as it is until it is deleted
- `ends_of_step`: how a row becomes terminal
- `finishTask_runs`: what an attempt to end a task returns
- `execution_ends`: a finished execution leaves a task that is over, or its last update
  failed
- `task_state_machine`: all of it
-/

namespace Onlyboxes.Console

open Text ThreadSystem TaskPhase TaskRows

variable {lib : TaskLib} {ok : TaskPool → TaskAction → Prop} {p p' q : TaskPool} {id : String}

/-! ## Rows along a run -/

variable {a : TaskAction} {row : TaskRow}

/-- The id of a task had its row: it was drawn, and no call still has to insert it. -/
def Spent (lib : TaskLib) (p : TaskPool) (id : String) : Prop :=
  id ∈ p.shared.issued ∧ ∀ g ∈ taskPhases lib p, g.own ≠ some (id, .fresh)

theorem spent_of_row (hreach : (taskMachine lib).ReachableWhere ok p)
    (hrow : p.shared.rows.lookup id = some row) : Spent lib p id := by
  have hids := ids_owned hreach
  refine ⟨hids.base.2.1 id row hrow, fun g hg hown => ?_⟩
  nomatch ((hids.each g hg id .fresh hown).2.1 rfl).symm.trans hrow

/-- A spent id stays spent, and has no row again after it was deleted. -/
theorem Spent.step (h : Spent lib p id) (hreach : (taskMachine lib).ReachableWhere ok p)
    (hs : (taskMachine lib).step p a = some p') :
    Spent lib p' id ∧ (p.shared.rows.lookup id = none → p'.shared.rows.lookup id = none) := by
  obtain ⟨hissued, hown⟩ := h
  rcases task_cases hreach hs with ⟨c, -, hshared, hphases⟩ |
    ⟨i, ans, g, o, r, -, hg, -, hallowed, hexec, hphases⟩ |
    ⟨e, service, now, -, -, heq, hphases⟩ | ⟨now, service, -, -, heq, hphases⟩
  · exact ⟨⟨hshared ▸ hissued, hphases ▸ List.forall_mem_concat hown nofun⟩, fun h => hshared ▸ h⟩
  · have heffect := (effect_of_exec hexec)
    have hg' := hown g (List.mem_of_getElem? hg)
    refine ⟨⟨issued_of_effect heffect hissued, hphases ▸ List.forall_mem_set hown fun hfresh => ?_⟩,
      (rowMove_of_effect hallowed heffect id).2 hg'⟩
    rcases own_fresh_next heffect hfresh with hfresh | hnew
    · exact hg' hfresh
    · exact hnew hissued
  · rw [Spent, hphases, heq]
    exact ⟨⟨hissued, hown⟩, fun h => h⟩
  · rw [Spent, hphases, heq]
    exact ⟨⟨hissued, fun _ h => (nomatch h)⟩,
      fun h => (within_startup _ _ _).lookup_eq_none h⟩

/-- A deleted row does not come back. -/
theorem deleted_leadsTo (hp : (taskMachine lib).ReachableWhere ok p) (hspent : Spent lib p id)
    (hnone : p.shared.rows.lookup id = none) (hrun : (taskMachine lib).LeadsTo ok p q) :
    Spent lib q id ∧ q.shared.rows.lookup id = none :=
  hrun.invariant (P := fun q => Spent lib q id ∧ q.shared.rows.lookup id = none) hp ⟨hspent, hnone⟩
    fun _ _ _ hreach h _ hs => ⟨(h.1.step hreach hs).1, (h.1.step hreach hs).2 h.2⟩

/-- From the end of a task on its row stays as it is until it is deleted, and is not
    inserted again. -/
theorem terminal_leadsTo (hp : (taskMachine lib).ReachableWhere ok p)
    (hrow : p.shared.rows.lookup id = some row) (hterminal : isTaskTerminal row.status = true)
    (hrun : (taskMachine lib).LeadsTo ok p q) :
    q.shared.rows.lookup id = some row ∨ Spent lib q id ∧ q.shared.rows.lookup id = none := by
  refine hrun.invariant (P := fun q => q.shared.rows.lookup id = some row ∨
    Spent lib q id ∧ q.shared.rows.lookup id = none) hp (.inl hrow) ?_
  rintro q a q' hreach (hrow | ⟨hspent, hnone⟩) - hs
  · rcases RowMove.terminal (hrow ▸ rowMove_of_step hreach hs id) hterminal with hsame | hgone
    · exact .inl hsame
    · exact .inr ⟨((spent_of_row hreach hrow).step hreach hs).1, hgone⟩
  · exact .inr ⟨(hspent.step hreach hs).1, (hspent.step hreach hs).2 hnone⟩

/-! ## How a task ends -/

/-- An active row stays, and becomes terminal by one terminal write that changes it, or by
    a restart. -/
theorem ends_of_step (hreach : (taskMachine lib).ReachableWhere ok p)
    (hs : (taskMachine lib).step p a = some p') (hrow : p.shared.rows.lookup id = some row)
    (hactive : isTaskTerminal row.status = false) :
    ∃ row', p'.shared.rows.lookup id = some row' ∧ (isTaskTerminal row'.status = true →
      (∃ now, a = .restart now) ∨
      ∃ i ans params, a = .step (.run i ans) ∧ p.nextOp i = some (.markTaskTerminal id params) ∧
        p.shared.exec lib (.markTaskTerminal id params) ans = some (p'.shared, .ok 1)) := by
  have hkeep : p'.shared.rows.lookup id = some row → ∃ row', p'.shared.rows.lookup id = some row' ∧
      (isTaskTerminal row'.status = true → (∃ now, a = .restart now) ∨
      ∃ i ans params, a = .step (.run i ans) ∧ p.nextOp i = some (.markTaskTerminal id params) ∧
        p.shared.exec lib (.markTaskTerminal id params) ans = some (p'.shared, .ok 1)) :=
    fun hsame => ⟨row, hsame, fun h => nomatch hactive.symm.trans h⟩
  rcases task_cases hreach hs with ⟨c, -, hshared, -⟩ |
    ⟨i, ans, g, o, r, rfl, -, hnext, -, hexec, -⟩ | ⟨e, service, now, -, -, heq, -⟩ |
    ⟨now, service, rfl, -, heq, -⟩
  · exact hkeep (hshared ▸ hrow)
  · have heffect := effect_of_exec hexec
    generalize hs' : p'.shared = s' at heffect hexec hkeep ⊢
    -- An update of a row that is not terminal.
    have hupdate : ∀ {taskID set rows result fault},
        p.shared.rows.updateNonTerminal taskID set fault = (rows, result) →
        rows.lookup id = some row ∨
          taskID = id ∧ result = .ok 1 ∧ rows.lookup id = some (set row) := by
      intro taskID set rows result fault hrows
      rcases updateNonTerminal_cases hrows with ⟨-, -, -, rfl⟩ | ⟨-, rfl, -⟩ |
        ⟨rfl, old, hold, -, rfl⟩
      · exact .inl hrow
      · exact .inl hrow
      · rw [AList.lookup_insert_ite]
        split
        · rename_i heq
          obtain rfl := heq
          obtain rfl := Option.mem_unique hrow hold
          exact .inr ⟨rfl, rfl, rfl⟩
        · exact .inl hrow
    cases heffect with
    | @inserted taskID new rows fault hinsert =>
      obtain ⟨hnone, rfl, -⟩ := insertTask_eq_ok hinsert
      refine hkeep ?_
      change AList.lookup id (AList.insert taskID new p.shared.rows) = _
      rw [AList.lookup_insert_ite]
      split
      · rename_i heq
        obtain rfl := heq
        nomatch hnone.symm.trans hrow
      · exact hrow
    | pruned hrows => exact hkeep (lookup_deleteExpired_active hrows hrow hactive)
    | dispatched hrows | running hrows =>
      rcases hupdate hrows with hsame | ⟨rfl, -, hset⟩
      · exact hkeep hsame
      · exact ⟨_, hset, nofun⟩
    | @terminal taskID params rows result fault hrows =>
      rcases hupdate hrows with hsame | ⟨rfl, rfl, hset⟩
      · exact hkeep hsame
      · exact ⟨_, hset, fun _ => .inr ⟨i, ans, params, rfl, hnext, hexec⟩⟩
    | _ => exact hkeep hrow
  · exact hkeep (heq ▸ hrow)
  · have hnew : p'.shared.rows.lookup id = some (row.setRestarted now lib.taskRetentionMs) := by
      rw [heq]
      change (p.shared.rows.markNonTerminalTasksFailedOnStartup _ _).lookup id = _
      rw [lookup_markNonTerminalTasksFailedOnStartup, hrow, Option.map_some, hactive]
      rfl
    exact ⟨_, hnew, fun _ => .inl ⟨now, rfl⟩⟩

/-- A restart ends every task. -/
theorem over_of_restart {now : Int} (hs : (taskMachine lib).step p (.restart now) = some p') :
    Over p'.shared id := by
  obtain ⟨s', hr, rfl⟩ := ThreadSystem.restart_cases hs
  obtain ⟨-, service, rfl⟩ := restart_eq_some hr
  intro row hrow
  change (p.shared.rows.markNonTerminalTasksFailedOnStartup _ _).lookup id = _ at hrow
  rw [lookup_markNonTerminalTasksFailedOnStartup, Option.map_eq_some_iff] at hrow
  obtain ⟨old, -, rfl⟩ := hrow
  split
  · rename_i hterminal
    exact hterminal
  · rfl

variable {s : TaskState} {rows : Except String Nat}

/-- What a terminal write can be answered. -/
theorem markTaskTerminal_cases {s' : TaskState} {ans : TaskAnswer} {params : MarkTaskTerminalParams}
    (h : s.exec lib (.markTaskTerminal id params) ans = some (s', rows)) :
    (∃ err, ans = .store (some err) ∧ rows = .error err ∧ s' = s) ∨
    (rows = .ok 0 ∧ s' = s ∧ Over s id) ∨
    (rows = .ok 1 ∧ ∃ row, s.rows.lookup id = some row ∧ isTaskTerminal row.status = false ∧
      s' = { s with rows := s.rows.insert id (row.setTerminal params) }) := by
  unfold TaskState.exec at h
  split at h
  · cases h
  cases ans with
  | store fault =>
    cases hresult : s.rows.updateNonTerminal id (.setTerminal params) fault with
    | mk rows' result =>
      simp only [TaskState.perform, TaskState.onRows, TaskRows.markTaskTerminal, hresult] at h
      cases h
      rcases updateNonTerminal_cases hresult with ⟨err, rfl, rfl, rfl⟩ | ⟨rfl, rfl, hover⟩ |
        ⟨rfl, row, hrow, hactive, rfl⟩
      · exact .inl ⟨err, rfl, rfl, rfl⟩
      · exact .inr (.inl ⟨rfl, rfl, hover⟩)
      · exact .inr (.inr ⟨rfl, row, hrow, hactive, rfl⟩)
  | _ => cases h

/-! ## What an attempt returns -/

/-- The terminal writes. -/
def TaskOp.endsTask : TaskOp → Bool
  | .markTaskTerminal .. => true
  | _ => false

variable {es : List ((o : TaskOp) × o.Res)}

/-- Closing a record writes nothing to the table. -/
theorem closeTaskRuntimeRecord_runs {record : Option Nat}
    (h : (closeTaskRuntimeRecord record).Runs es ()) : ∀ e ∈ es, e.1.endsTask = false := by
  cases record with
  | none =>
    cases h with
    | ret => exact fun e he => absurd he List.not_mem_nil
  | some record =>
    cases h with
    | @op o k es _ cancel h =>
      cases cancel with
      | false =>
        cases h with
        | op _ h =>
          cases h with
          | ret => simp [TaskOp.endsTask]
      | true =>
        cases h with
        | op _ h =>
          cases h with
          | op _ h =>
            cases h with
            | op _ h =>
              cases h with
              | op _ h =>
                cases h with
                | ret => simp [TaskOp.endsTask]

variable {fin : TaskEnd} {result : Option TaskError}

/-- An attempt at a completion time is one terminal write, whose answer it returns. -/
theorem finishTaskAt_runs {completedAt : Int}
    (h : (finishTaskAt lib id fin completedAt).Runs es result) :
    ∃ params rows, es.filter (·.1.endsTask) = [⟨.markTaskTerminal id params, rows⟩] ∧
      params.status = fin.status ∧
      result = transitionError ("task " ++ id ++ " terminal transition") rows := by
  cases h with
  | @op _ _ es _ rows h =>
    obtain ⟨es₁, es₂, ⟨⟩, rfl, hcomplete, hret⟩ :=
      Prog.Runs.bind_cases (p := completeTaskRuntime id) h
    cases hret with
    | ret =>
      cases hcomplete with
      | @op _ _ es₁ _ record hclose =>
        have hquiet := closeTaskRuntimeRecord_runs hclose
        refine ⟨_, rows, ?_, rfl, rfl⟩
        have hnone : es₁.filter (·.1.endsTask) = [] :=
          List.filter_eq_nil_iff.mpr fun e he => by rw [hquiet e he]; exact nofun
        rw [List.append_nil, List.filter_cons_of_pos rfl, List.filter_cons_of_neg (by exact nofun),
          hnone]

/-- An attempt to end a task is one terminal write, whose answer it returns. -/
theorem finishTask_runs {taskID : String} (hid : trimSpace taskID ≠ "") {completedAt : Option Int}
    (h : (finishTask lib taskID fin completedAt).Runs es result) :
    ∃ params rows, es.filter (·.1.endsTask) = [⟨.markTaskTerminal (trimSpace taskID) params, rows⟩] ∧
      params.status = fin.status ∧
      result = transitionError ("task " ++ trimSpace taskID ++ " terminal transition") rows := by
  unfold finishTask at h
  rw [if_neg hid] at h
  cases completedAt with
  | some completedAt => exact finishTaskAt_runs h
  | none =>
    cases h with
    | op now h =>
      obtain ⟨params, rows, hfilter, hrest⟩ := finishTaskAt_runs h
      refine ⟨params, rows, ?_, hrest⟩
      rw [List.filter_cons, if_neg (by exact nofun), hfilter]

variable {log : List TaskCallEvent} {c : TaskCall}

/-- The terminal write a call remembers is one it made. -/
theorem mem_log_of_written (h : ((taskProtocol lib).after c.start log).written = some (id, rows)) :
    ∃ params, (⟨.markTaskTerminal id params, rows, ()⟩ : TaskCallEvent) ∈ log := by
  induction log with
  | nil => nomatch h
  | cons e log ih =>
    by_cases hwrite : ∃ taskID params rows, e = ⟨.markTaskTerminal taskID params, rows, ()⟩
    · obtain ⟨taskID, params, rows', rfl⟩ := hwrite
      cases h
      exact ⟨params, List.mem_cons_self⟩
    · have hsame : ((taskProtocol lib).after c.start (e :: log)).written =
          ((taskProtocol lib).after c.start log).written := by
        change (TaskPhase.next _ e).written = _
        unfold TaskPhase.next
        split
        all_goals first
          | rfl
          | exact absurd ⟨_, _, _, rfl⟩ hwrite
      obtain ⟨params, hmem⟩ := ih (hsame.symm.trans h)
      exact ⟨params, List.mem_cons_of_mem _ hmem⟩

/-! ## Executions -/

/-- A call that executes a task is about no other row, and what it takes to be over is. -/
def ExecutesOver (s : TaskState) (g : TaskPhase) : Prop :=
  ∀ id, g.executing = some id → g.target = none ∧ (g.ended = true → Over s id)

/-- What an update of the row tells. -/
theorem over_of_updateNonTerminal {set : TaskRow → TaskRow} {rows : TaskRows} {n : Nat}
    {fault : StoreFault} (h : s.rows.updateNonTerminal id set fault = (rows, .ok n))
    (hset : n = 0 ∨ ∀ row, isTaskTerminal (set row).status = true) : Over { s with rows := rows } id := by
  rcases updateNonTerminal_cases h with ⟨err, herr, -⟩ | ⟨-, rfl, hover⟩ |
    ⟨hn, row, -, -, rfl⟩
  · nomatch herr
  · exact hover
  · cases hn
    intro row' hrow'
    rw [AList.lookup_insert] at hrow'
    exact Option.some.inj hrow' ▸ hset.resolve_left nofun row

/-- Executions know truly that their task is over. -/
theorem executes_over (h : (taskMachine lib).ReachableWhere ok p) :
    Locally (fun _ => True) ExecutesOver (fun _ _ => True) p.shared (taskPhases lib p) := by
  refine task_local (fun _ _ => trivial) (fun _ _ _ _ h => nomatch h) (fun _ _ => ⟨trivial, trivial⟩)
    ?_ (fun _ _ _ _ _ => ⟨trivial, fun _ h => h⟩) (fun _ _ _ _ _ => trivial) h
  intro p i ans g o s' r hreach _ h hi _ hallowed _ heffect
  have hgoroutines := goroutines_owned hreach
  have hkeep : ∀ {j : Nat} {g₂ : TaskPhase}, (taskPhases lib p)[j]? = some g₂ → ExecutesOver s' g₂ := by
    intro j g₂ hj id hexec
    obtain ⟨htarget, hover⟩ := h.at hj id hexec
    have hmem : id ∈ g₂.names := mem_names.mpr (.inr (.inl hexec))
    exact ⟨htarget, fun hg => (hover hg).named hreach hi hj hallowed heffect hmem⟩
  refine h.setAt hi trivial ?_ fun j g₂ _ hj _ _ _ => ⟨hkeep hj, trivial, trivial⟩
  -- The call itself.
  have hsame : ∀ {g' : TaskPhase}, g'.executing = g.executing → g'.target = g.target →
      g'.ended = g.ended → ExecutesOver s' g' := by
    intro g' hexec htarget hover id hid
    obtain ⟨hnone, hg⟩ := hkeep hi id (hexec ▸ hid)
    exact ⟨htarget.trans hnone, fun h => hg (hover ▸ h)⟩
  have hcall : ∀ {id}, g.executing = some id → ∀ req, g.call ≠ .submit req := by
    intro id hexec req hsubmit
    obtain ⟨n, args, hcall, -⟩ := hgoroutines.at hi id hexec
    nomatch hcall.symm.trans hsubmit
  cases heffect with
  | quiet hquiet service last =>
    exact g.of_quiet hquiet fun _ => hsame rfl rfl rfl
  | inserted hinsert =>
    intro id hexec
    obtain ⟨-, hrequest, -⟩ := hallowed
    cases hsubmit : g.call with
    | submit req => exact absurd hsubmit (hcall hexec req)
    | _ =>
      rw [hsubmit] at hrequest
      nomatch hrequest
  | read hfound => exact fun id hexec => nomatch hallowed.1.symm.trans hexec
  | found hfound => exact fun id hexec => nomatch hallowed.2.2.symm.trans hexec
  | @dispatched taskID updatedAt rows result fault hrows
  | @running taskID commandID updatedAt rows result fault hrows =>
    intro id hexec
    obtain rfl := Option.mem_unique hallowed.1 hexec
    obtain ⟨htarget, hover⟩ := hkeep hi taskID hexec
    refine ⟨htarget, fun hg => ?_⟩
    match result, hrows, hg with
    | .error _, _, hg | .ok (_ + 1), _, hg => exact hover hg
    | .ok 0, hrows, _ => exact over_of_updateNonTerminal hrows (.inl rfl)
  | @terminal taskID params rows result fault hrows =>
    intro id hexec
    obtain ⟨htarget, hover⟩ := hkeep hi id hexec
    refine ⟨htarget, fun hg => ?_⟩
    obtain ⟨⟨id', hid', htrim⟩, -, -, hend, -⟩ := hallowed
    -- The write is on the task it executes.
    have hid : taskID = id := by
      rcases hid' with htarget' | hexec'
      · nomatch htarget.symm.trans htarget'
      · obtain rfl := Option.mem_unique hexec' hexec
        rw [htrim]
        exact trimSpace_of_mem_names hreach hi (mem_names.mpr (.inr (.inl hexec)))
    obtain rfl := hid
    match result, hrows, hg with
    | .error _, _, hg => exact hover hg
    | .ok _, hrows, _ => exact over_of_updateNonTerminal hrows (.inr fun _ => hend)
  | began hnew hargs =>
    obtain rfl : g = _ := hallowed
    exact fun id hexec => ⟨rfl, nofun⟩
  | _ => exact hsame rfl rfl rfl

/-- The answer of an update of the row. -/
def TaskCallEvent.update : TaskCallEvent → Option (Except String Nat)
  | ⟨.markTaskDispatched .., rows, _⟩ => some rows
  | ⟨.markTaskRunning .., rows, _⟩ => some rows
  | ⟨.markTaskTerminal .., rows, _⟩ => some rows
  | _ => none

/-- The answer of the last update a call made. -/
def TaskThread.lastUpdate (t : TaskThread) : Option (Except String Nat) :=
  t.log.findSome? TaskCallEvent.update

theorem lastUpdate_of_failed (h : ((taskProtocol lib).after c.start log).failed = true) :
    ∃ err, log.findSome? TaskCallEvent.update = some (.error err) := by
  induction log with
  | nil => nomatch h
  | cons e log ih =>
    obtain ⟨o, r, st⟩ := e
    rw [List.findSome?_cons]
    change (TaskPhase.next _ ⟨o, r, st⟩).failed = true at h
    cases o with
    | markTaskDispatched | markTaskRunning | markTaskTerminal =>
      cases r with
      | error err => exact ⟨err, rfl⟩
      | ok n => nomatch h
    | newTaskID | prepareTaskInput | insertTask | reserveRequest =>
      refine ih ?_
      cases r <;> exact h
    | _ => exact ih h

/-- A finished execution leaves a task that is over, or its last update failed. -/
theorem execution_ends (h : (taskMachine lib).ReachableWhere ok p) {i n : Nat} {t : TaskThread}
    {args : ExecuteTaskArgs} (ht : p.threads[i]? = some t) (hcall : t.call = .execute n)
    (hargs : p.shared.goroutines[n]? = some args) (hfinished : t.prog = .ret ()) :
    Over p.shared args.taskID ∨ ∃ err, t.lastUpdate = some (.error err) := by
  have hmeets := (taskKeeps h t (List.mem_of_getElem? ht)).2
  rw [hfinished, Prog.meets_ret] at hmeets
  obtain ⟨id, hexec, hdone⟩ := hmeets.2 n hcall
  have hphase : (taskPhases lib p)[i]? = some _ := taskPhase_of_thread ht
  -- The call began the goroutine, so this is its task.
  obtain ⟨n', args', hcall', -, hargs', hid⟩ := (goroutines_owned h).at hphase id hexec
  rw [TaskPhase.after_call] at hcall'
  obtain rfl := TaskCall.execute.inj (hcall.symm.trans hcall')
  obtain rfl := Option.mem_unique hargs hargs'
  obtain rfl := hid
  rcases hdone with hempty | hover | hfailed
  · have hmem : args.taskID ∈ ((taskProtocol lib).after t.call.start t.log).names :=
      mem_names.mpr (.inr (.inl hexec))
    obtain ⟨hissued, -⟩ := (names_used h).at hphase _ hmem
    obtain ⟨htrim, hne⟩ := (ids_owned h).base.1 _ hissued
    exact absurd (htrim.symm.trans hempty) hne
  · exact .inl (((executes_over h).at hphase _ hexec).2 hover)
  · exact .inr (lastUpdate_of_failed hfailed)

/-! ## The state machine -/

/-- A cancellation that succeeds made the write that ended the task. -/
theorem cancel_applied (h : (taskMachine lib).ReachableWhere ok p) {i : Nat} {t : TaskThread}
    {task : TaskSnapshot} (ht : p.threads[i]? = some t)
    (hnext : p.nextOp i = some (.returnCancel (.ok task))) :
    ∃ params n, (⟨.markTaskTerminal task.taskID params, .ok (n + 1), ()⟩ : TaskCallEvent) ∈ t.log := by
  obtain ⟨t', g, ht', -, hg, hallowed⟩ := task_allowed_of_nextOp h hnext
  obtain rfl := Option.mem_unique ht ht'
  obtain rfl := Option.mem_unique (taskPhase_of_thread ht) hg
  obtain ⟨n, hwritten⟩ := hallowed
  obtain ⟨params, hmem⟩ := mem_log_of_written hwritten
  exact ⟨params, n, hmem⟩

/-- A task ends once, by one terminal write that changes one row or by a restart, and its
    row stays as it is from then on until it is deleted. Every other attempt changes
    nothing; it returns `ErrTaskTransitionNotApplied`, or the error of the store if its
    write failed. A cancellation succeeds only by its own write. -/
theorem task_state_machine (lib : TaskLib) (p : TaskPool) (hp : (taskMachine lib).Reachable p)
    (id : String) :
    (∀ row, p.shared.rows.lookup id = some row → isTaskTerminal row.status = true →
      ∀ q, (taskMachine lib).LeadsTo (fun _ _ => True) p q → q.shared.rows.lookup id = some row ∨
        ∀ q', (taskMachine lib).LeadsTo (fun _ _ => True) q q' → q'.shared.rows.lookup id = none) ∧
    (∀ row a p', p.shared.rows.lookup id = some row → isTaskTerminal row.status = false →
      (taskMachine lib).step p a = some p' → ∃ row', p'.shared.rows.lookup id = some row' ∧
        (isTaskTerminal row'.status = true → (∃ now, a = .restart now) ∨
          ∃ i ans params, a = .step (.run i ans) ∧ p.nextOp i = some (.markTaskTerminal id params) ∧
            p.shared.exec lib (.markTaskTerminal id params) ans = some (p'.shared, .ok 1))) ∧
    (∀ ans params s' rows, p.shared.exec lib (.markTaskTerminal id params) ans = some (s', rows) →
      (∃ err, ans = .store (some err) ∧ rows = .error err ∧ s' = p.shared) ∨
      (rows = .ok 0 ∧ s' = p.shared ∧ Over p.shared id) ∨
      (rows = .ok 1 ∧ ∃ row, p.shared.rows.lookup id = some row ∧ isTaskTerminal row.status = false ∧
        s' = { p.shared with rows := p.shared.rows.insert id (row.setTerminal params) })) ∧
    (trimSpace id ≠ "" → ∀ fin completedAt es result, (finishTask lib id fin completedAt).Runs es result →
      ∃ params rows, es.filter (·.1.endsTask) = [⟨.markTaskTerminal (trimSpace id) params, rows⟩] ∧
        params.status = fin.status ∧
        ((∃ err, rows = .error err ∧ result = some (.other err)) ∨
          (rows = .ok 0 ∧
            result = some (.transitionNotApplied ("task " ++ trimSpace id ++ " terminal transition"))) ∨
          (∃ n, rows = .ok (n + 1) ∧ result = none))) ∧
    (∀ i t task, p.threads[i]? = some t → p.nextOp i = some (.returnCancel (.ok task)) →
      ∃ params n,
        (⟨.markTaskTerminal task.taskID params, .ok (n + 1), ()⟩ : TaskCallEvent) ∈ t.log) ∧
    (∀ (i n : Nat) (t : TaskThread) (args : ExecuteTaskArgs), p.threads[i]? = some t →
      t.call = .execute n → p.shared.goroutines[n]? = some args → t.prog = .ret () →
      Over p.shared args.taskID ∨ ∃ err, t.lastUpdate = some (.error err)) ∧
    (∀ now p', (taskMachine lib).step p (.restart now) = some p' → Over p'.shared id) := by
  refine ⟨?_, fun row a p' hrow hactive hs => ends_of_step hp hs hrow hactive,
    fun ans params s' rows => markTaskTerminal_cases, ?_, fun i t task => cancel_applied hp,
    fun i n t args => execution_ends hp, fun now p' => over_of_restart⟩
  · intro row hrow hterminal q hrun
    refine (terminal_leadsTo hp hrow hterminal hrun).imp_right fun ⟨hspent, hnone⟩ q' hrun' => ?_
    exact (deleted_leadsTo (hp.leadsTo hrun) hspent hnone hrun').2
  · intro hid fin completedAt es result hruns
    obtain ⟨params, rows, hfilter, hstatus, rfl⟩ := finishTask_runs hid hruns
    refine ⟨params, rows, hfilter, hstatus, ?_⟩
    match rows with
    | .error err => exact .inl ⟨err, rfl, rfl⟩
    | .ok 0 => exact .inr (.inl ⟨rfl, rfl⟩)
    | .ok (n + 1) => exact .inr (.inr ⟨n, rfl, rfl⟩)

/-- A submission made the row of a task; two cancellations read it, and the first one
    ended the task. -/
def cancelledOnce : List TaskAction :=
  [.step (.spawn (.submit { capability := "echo", requestID := "r", ownerID := "o" })),
    .step (.spawn (.cancel firstTaskID "o")), .step (.spawn (.cancel firstTaskID "o"))] ++
  TaskAction.runs 0 (submitToReserved immediateInput ++ [.store none, firstID, .none, .store none]) ++
  TaskAction.runs 1 [.store none, .none] ++ TaskAction.runs 2 [.store none, .none] ++
  TaskAction.runs 1 [.store none, .none, .store none]

/-- The first cancellation succeeds by its own write. -/
theorem task_state_machine_cancelled :
    ∃ p task t, (taskMachine .sample).Reachable p ∧ p.threads[1]? = some t ∧
      p.nextOp 1 = some (.returnCancel (.ok task)) ∧ ∃ params n,
        (⟨.markTaskTerminal task.taskID params, .ok (n + 1), ()⟩ : TaskCallEvent) ∈ t.log := by
  have hrun := Machine.reachable_run cancelledOnce
    (TaskPool.fresh_reachable .sample) rfl
  refine ⟨_, _, _, hrun, rfl, rfl, ?_⟩
  exact (task_state_machine .sample _ hrun (generateUUIDv4 fun _ => 1)).2.2.2.2.1 1 _ _ rfl rfl

/-- The write of the second one fails: it gets the error of the store, although the task
    was over before. -/
theorem late_cancel_gets_store_error :
    ∃ p q row params, (taskMachine .sample).Reachable p ∧
      p.shared.rows.lookup (generateUUIDv4 fun _ => 1) = some row ∧ row.status = .canceled ∧
      p.nextOp 2 = some (.markTaskTerminal (generateUUIDv4 fun _ => 1) params) ∧
      (taskMachine .sample).LeadsTo (fun _ _ => True) p q ∧
      q.nextOp 2 = some (.returnCancel (.error (.other "disk full", none))) := by
  have hrun := Machine.reachable_run cancelledOnce
    (TaskPool.fresh_reachable .sample) rfl
  exact ⟨_, _, _, _, hrun, rfl, rfl, rfl, Machine.leadsTo_run (fun _ _ => trivial)
    (TaskAction.runs 2 [.store (some "disk full"), .none]) rfl, rfl⟩

end Onlyboxes.Console
