import Onlyboxes.Console.TaskStore

/-!
# What the task statements do

One lemma for each statement on the `tasks` table, by the row of a task id, and the
relation `RowMove` that sums them up: a row is inserted queued, updated as long as its
status is not terminal, and deleted when it is terminal and expired.

## Key results

- `RowMove.terminal`: a terminal row stays as it is until it is deleted
- `unique_insertTask`: no two rows have one owner and request id
-/

namespace Onlyboxes.Console

/-- What a statement can do to the row of a task id. -/
inductive RowMove : Option TaskRow → Option TaskRow → Prop
  | same (row : Option TaskRow) : RowMove row row
  | inserted {row : TaskRow} (hqueued : row.status = .queued) : RowMove none (some row)
  | updated {row row' : TaskRow} (hactive : isTaskTerminal row.status = false)
      (hrequest : row'.ownerID = row.ownerID ∧ row'.requestID = row.requestID) :
      RowMove (some row) (some row')
  | deleted {row : TaskRow} {now : Int} (hexpired : row.expired now = true) : RowMove (some row) none

/-- A terminal row stays as it is until it is deleted. -/
theorem RowMove.terminal {row : TaskRow} {new : Option TaskRow} (h : RowMove (some row) new)
    (hterminal : isTaskTerminal row.status = true) : new = some row ∨ new = none := by
  cases h with
  | same => exact .inl rfl
  | updated hactive => nomatch hactive.symm.trans hterminal
  | deleted => exact .inr rfl

namespace TaskRows

variable {rows rows' : TaskRows} {id : String} {fault : StoreFault}

variable {row : TaskRow}

/-- A row that is inserted is new, and so is its request. -/
theorem insertTask_eq_ok (h : rows.insertTask id row fault = .ok rows') :
    rows.lookup id = none ∧ rows' = rows.insert id row ∧
      (row.requestID ≠ "" → ∀ id' row', rows.lookup id' = some row' →
        ¬ (row'.ownerID = row.ownerID ∧ row'.requestID = row.requestID)) := by
  unfold insertTask at h
  split at h
  · nomatch h
  split at h
  · nomatch h
  rename_i hnone
  split at h
  · nomatch h
  rename_i hconflict
  cases h
  refine ⟨Option.not_isSome_iff_eq_none.mp hnone, rfl, fun hne id' row' hrow' hsame => hconflict ⟨hne, ?_⟩⟩
  rw [List.any_eq_true]
  refine ⟨⟨id', row'⟩, AList.mem_lookup_iff.mp hrow', ?_⟩
  simp only [ofRequest, hsame.1, hsame.2, decide_true, Bool.and_self]

/-- A row that is found under a request has its owner and request id. -/
theorem getTaskByOwnerAndRequest_eq_some {ownerID requestID : String}
    (h : rows.getTaskByOwnerAndRequest ownerID requestID fault = some (id, row)) :
    rows.lookup id = some row ∧ row.ownerID = ownerID ∧ row.requestID = requestID := by
  unfold getTaskByOwnerAndRequest at h
  split at h
  · nomatch h
  rw [Option.map_eq_some_iff] at h
  obtain ⟨⟨id', row'⟩, hfind, heq⟩ := h
  cases heq
  have hmem := List.mem_of_find?_eq_some hfind
  have hrequest := List.find?_some hfind
  simp only [ofRequest, Bool.and_eq_true, decide_eq_true_eq] at hrequest
  exact ⟨AList.mem_lookup_iff.mpr hmem, hrequest⟩

theorem getTaskByID_eq_some (h : rows.getTaskByID id fault = some row) :
    rows.lookup id = some row := by
  unfold getTaskByID at h
  split at h
  · nomatch h
  · exact h

variable {set : TaskRow → TaskRow} {result : Except String Nat}

section

variable (h : rows.updateNonTerminal id set fault = (rows', result))

include h

/-- An update fails, finds no active row, or changes it. -/
theorem updateNonTerminal_cases :
    (∃ err, result = .error err ∧ fault = some err ∧ rows' = rows) ∨
    (result = .ok 0 ∧ rows' = rows ∧
      ∀ row, rows.lookup id = some row → isTaskTerminal row.status = true) ∨
    (result = .ok 1 ∧ ∃ row, rows.lookup id = some row ∧ isTaskTerminal row.status = false ∧
      rows' = rows.insert id (set row)) := by
  unfold updateNonTerminal at h
  split at h
  · cases h
    exact .inl ⟨_, rfl, rfl, rfl⟩
  · split at h
    · rename_i hnone
      cases h
      exact .inr (.inl ⟨rfl, rfl, fun row hrow => nomatch hnone.symm.trans hrow⟩)
    · rename_i row hrow
      split at h
      · rename_i hterminal
        cases h
        exact .inr (.inl ⟨rfl, rfl, fun row' hrow' => Option.mem_unique hrow hrow' ▸ hterminal⟩)
      · rename_i hactive
        cases h
        exact .inr (.inr ⟨rfl, row, hrow, eq_false_of_ne_true hactive, rfl⟩)

/-- A row after an update is as it was, or was active and is updated. -/
theorem lookup_updateNonTerminal {id' : String} {row' : TaskRow}
    (hrow' : rows'.lookup id' = some row') :
    rows.lookup id' = some row' ∨ id' = id ∧ ∃ row, rows.lookup id = some row ∧
      isTaskTerminal row.status = false ∧ row' = set row := by
  rcases updateNonTerminal_cases h with ⟨err, -, -, rfl⟩ | ⟨-, rfl, -⟩ | ⟨-, row, hrow, hactive, rfl⟩
  · exact .inl hrow'
  · exact .inl hrow'
  · rcases AList.lookup_insert_cases hrow' with ⟨hid, hnew⟩ | ⟨-, hrow'⟩
    · exact .inr ⟨hid, row, hrow, hactive, hnew⟩
    · exact .inl hrow'

/-- What an update does to each row. -/
theorem rowMove_updateNonTerminal
    (hset : ∀ row, (set row).ownerID = row.ownerID ∧ (set row).requestID = row.requestID)
    (id' : String) :
    RowMove (rows.lookup id') (rows'.lookup id') := by
  rcases updateNonTerminal_cases h with ⟨err, -, -, rfl⟩ | ⟨-, rfl, -⟩ | ⟨-, row, hrow, hactive, rfl⟩
  · exact .same _
  · exact .same _
  · rw [AList.lookup_insert_ite]
    split
    · rename_i heq
      rw [heq, hrow]
      exact .updated hactive (hset row)
    · exact .same _

end

variable {now : Int}

/-- Pruning deletes exactly the terminal rows that expired. -/
theorem lookup_deleteExpired (h : rows.deleteExpiredTerminalTasks now none = (rows', result))
    (id : String) :
    rows'.lookup id = (rows.lookup id).filter fun row => !row.expired now := by
  cases h
  exact AList.lookup_filter _ _ id

section

variable (h : rows.deleteExpiredTerminalTasks now fault = (rows', result))

include h

theorem rowMove_deleteExpired (id : String) :
    RowMove (rows.lookup id) (rows'.lookup id) := by
  cases fault with
  | some err =>
    cases h
    exact .same _
  | none =>
    rw [lookup_deleteExpired h]
    cases rows.lookup id with
    | none => exact .same _
    | some row =>
      rw [Option.filter_some]
      split
      · exact .same _
      · rename_i hexpired
        rw [Bool.not_eq_true', Bool.not_eq_false] at hexpired
        exact .deleted hexpired

/-- The rows that pruning leaves are as they were. -/
theorem lookup_of_deleteExpired (hrow : rows'.lookup id = some row) :
    rows.lookup id = some row := by
  cases fault with
  | some err =>
    cases h
    exact hrow
  | none =>
    rw [lookup_deleteExpired h, Option.filter_eq_some_iff] at hrow
    exact hrow.1

/-- Pruning leaves active rows alone. -/
theorem lookup_deleteExpired_active (hrow : rows.lookup id = some row)
    (hactive : isTaskTerminal row.status = false) :
    rows'.lookup id = some row := by
  cases fault with
  | some err =>
    cases h
    exact hrow
  | none =>
    have hkept : row.expired now = false := by
      rw [TaskRow.expired, hactive, Bool.false_and]
    rw [lookup_deleteExpired h, hrow, Option.filter_some, hkept]
    rfl

end

/-- At the start of a process every active row fails. -/
theorem lookup_markNonTerminalTasksFailedOnStartup (now taskRetentionMs : Int) (id : String) :
    (rows.markNonTerminalTasksFailedOnStartup now taskRetentionMs).lookup id =
      (rows.lookup id).map fun row =>
        if isTaskTerminal row.status then row else row.setRestarted now taskRetentionMs :=
  AList.lookup_mapValues _ _ id

theorem rowMove_startup (now taskRetentionMs : Int) (id : String) :
    RowMove (rows.lookup id)
      ((rows.markNonTerminalTasksFailedOnStartup now taskRetentionMs).lookup id) := by
  rw [lookup_markNonTerminalTasksFailedOnStartup]
  cases rows.lookup id with
  | none => exact .same _
  | some row =>
    rw [Option.map_some]
    split
    · exact .same _
    · rename_i hactive
      exact .updated (eq_false_of_ne_true hactive) ⟨rfl, rfl⟩

/-! ## One row for each request -/

/-- No two rows have one owner and request id. -/
def Unique (rows : TaskRows) : Prop :=
  ∀ id id' row row', rows.lookup id = some row → rows.lookup id' = some row' → row.requestID ≠ "" →
    row'.ownerID = row.ownerID → row'.requestID = row.requestID → id = id'

theorem Unique.insertTask (h : Unique rows) (hinsert : rows.insertTask id row fault = .ok rows') :
    Unique rows' := by
  obtain ⟨-, rfl, hnew⟩ := insertTask_eq_ok hinsert
  intro id₁ id₂ row₁ row₂ h₁ h₂ hne howner hrequest
  rcases AList.lookup_insert_cases h₁ with ⟨heq₁, rfl⟩ | ⟨-, hold₁⟩
  · rcases AList.lookup_insert_cases h₂ with ⟨heq₂, -⟩ | ⟨-, hold₂⟩
    · exact heq₁.trans heq₂.symm
    · exact absurd ⟨howner, hrequest⟩ (hnew hne id₂ row₂ hold₂)
  · rcases AList.lookup_insert_cases h₂ with ⟨-, rfl⟩ | ⟨-, hold₂⟩
    · exact absurd ⟨howner.symm, hrequest.symm⟩ (hnew (hrequest ▸ hne) id₁ row₁ hold₁)
    · exact h id₁ id₂ row₁ row₂ hold₁ hold₂ hne howner hrequest

/-- Every row was there before, with the same owner and request id. -/
def Within (rows rows' : TaskRows) : Prop :=
  ∀ id row', rows'.lookup id = some row' → ∃ row, rows.lookup id = some row ∧
    row'.ownerID = row.ownerID ∧ row'.requestID = row.requestID

theorem Within.lookup_eq_none (h : Within rows rows') (hnone : rows.lookup id = none) :
    rows'.lookup id = none := by
  cases hrow : rows'.lookup id with
  | none => rfl
  | some row' =>
    obtain ⟨row, hrow, -⟩ := h id row' hrow
    nomatch hnone.symm.trans hrow

theorem Unique.within (h : Unique rows) (hrows : Within rows rows') : Unique rows' := by
  intro id₁ id₂ row₁ row₂ h₁ h₂ hne howner hrequest
  obtain ⟨old₁, hold₁, howner₁, hrequest₁⟩ := hrows id₁ row₁ h₁
  obtain ⟨old₂, hold₂, howner₂, hrequest₂⟩ := hrows id₂ row₂ h₂
  refine h id₁ id₂ old₁ old₂ hold₁ hold₂ (hrequest₁ ▸ hne) ?_ ?_
  · rw [← howner₁, ← howner₂, howner]
  · rw [← hrequest₁, ← hrequest₂, hrequest]

theorem within_updateNonTerminal (h : rows.updateNonTerminal id set fault = (rows', result))
    (hset : ∀ row, (set row).ownerID = row.ownerID ∧ (set row).requestID = row.requestID) :
    Within rows rows' := by
  intro id' row' hrow'
  rcases lookup_updateNonTerminal h hrow' with hrow | ⟨rfl, row, hrow, -, rfl⟩
  · exact ⟨row', hrow, rfl, rfl⟩
  · exact ⟨row, hrow, hset row⟩

theorem within_deleteExpired (h : rows.deleteExpiredTerminalTasks now fault = (rows', result)) :
    Within rows rows' :=
  fun _ row' hrow' => ⟨row', lookup_of_deleteExpired h hrow', rfl, rfl⟩

theorem within_startup (rows : TaskRows) (now taskRetentionMs : Int) :
    Within rows (rows.markNonTerminalTasksFailedOnStartup now taskRetentionMs) := by
  intro id row' hrow'
  rw [lookup_markNonTerminalTasksFailedOnStartup, Option.map_eq_some_iff] at hrow'
  obtain ⟨row, hrow, rfl⟩ := hrow'
  refine ⟨row, hrow, ?_⟩
  split
  · exact ⟨rfl, rfl⟩
  · exact ⟨rfl, rfl⟩

end TaskRows

end Onlyboxes.Console
