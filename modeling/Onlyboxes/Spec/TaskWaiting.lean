import Onlyboxes.Spec.TaskIdempotency
import Onlyboxes.Spec.TaskRecords
import Onlyboxes.Spec.TaskTransitions

/-!
# Waiting for the end of a task

A submission in sync mode waits for the record of its task to be closed, or finds no
record and does not wait; then it answers with the row. The record is closed after every
attempt to write the end of the task, also after one that failed, so the row may still be
active. If no terminal write fails, a closed record means a terminal row, and so does a
missing one: the submission that inserts a row holds the reservation of its request until
the record is registered or the end is written.

## Key results

- `ends_written`: if terminal writes succeed, closed records belong to tasks that are over
- `registering`: an active row without a record is being registered
- `known_over`: what a submission concludes about the row is true
- `submission_waits`: sync mode answers with the end of the task, auto mode only after
  the wait without one
- `sync_submission_unfinished`: a run with a failed write where sync mode does not
-/

namespace Onlyboxes.Console

open Text ThreadSystem

variable {lib : TaskLib} {p q : TaskPool}

/-- No terminal write fails. -/
def EndsPersist (p : TaskPool) (a : TaskAction) : Prop :=
  ∀ i ans id params err, a = .step (.run i ans) → p.nextOp i = some (.markTaskTerminal id params) →
    ans ≠ .store (some err)

variable {s s' : TaskState}

/-- A terminal write that does not fail ends the task. -/
theorem over_of_markTaskTerminal {ans : TaskAnswer} {id : String} {params : MarkTaskTerminalParams}
    {rows : Except String Nat} (h : s.exec lib (.markTaskTerminal id params) ans = some (s', rows))
    (hend : isTaskTerminal params.status = true) (hok : ∀ err, ans ≠ .store (some err)) :
    Over s' id := by
  rcases markTaskTerminal_cases h with ⟨err, hans, -⟩ | ⟨-, rfl, hover⟩ | ⟨-, row, -, -, rfl⟩
  · exact absurd hans (hok err)
  · exact hover
  · intro row' hrow'
    change AList.lookup id (AList.insert id _ s.rows) = _ at hrow'
    rw [AList.lookup_insert] at hrow'
    exact Option.some.inj hrow' ▸ hend

/-! ## Closed records -/

/-- Closed records belong to tasks that are over. -/
def DoneOver (s : TaskState) : Prop := ∀ r ∈ s.records, r.done = true → Over s r.id

/-- The tasks whose end a call has written, or whose record it closes. -/
def TaskPhase.Ends (g : TaskPhase) (id : String) : Prop :=
  g.owes = some id ∨ g.written.map Prod.fst = some id ∨ g.closing.map Closing.taskID = some id

variable {g : TaskPhase}

theorem TaskPhase.Ends.mem_names {id : String} (h : g.Ends id) : id ∈ g.names := by
  rcases h with h | h | h
  · exact TaskPhase.mem_names.mpr (.inr (.inr (.inr (.inl h))))
  · exact TaskPhase.mem_names.mpr (.inr (.inr (.inr (.inr (.inl h)))))
  · exact TaskPhase.mem_names.mpr (.inr (.inr (.inr (.inr (.inr h)))))

/-- The tasks whose end a call has written are over. -/
def EndsOver (s : TaskState) (g : TaskPhase) : Prop := ∀ id, g.Ends id → Over s id

/-- If terminal writes succeed, closed records belong to tasks that are over. -/
theorem ends_written (h : (taskMachine lib).ReachableWhere EndsPersist p) :
    Locally DoneOver EndsOver (fun _ _ => True) p.shared (taskPhases lib p) := by
  refine task_local ?_ ?_ (fun _ _ => ⟨trivial, trivial⟩) ?_
    (fun _ _ _ _ hbase => ⟨hbase, fun _ h => h⟩)
    (fun _ _ _ _ _ _ h => nomatch h) h
  · rintro s ⟨service, clock, -, rfl⟩ r hr
    cases hr
  · rintro s c - id (h | h | h)
    · cases h
    · cases h
    · cases h
  intro p i ans g o s' r hreach hok h hi hnext hallowed hexec heffect
  have hids := ids_owned hreach
  have howned := records_owned hreach
  -- What is over stays over.
  have hrecord : ∀ r ∈ p.shared.records, r.done = true → Over s' r.id := by
    intro r hr hdone
    refine (h.base r hr hdone).effect hallowed heffect fun hown => ?_
    exact ((hids.at hi _ _ hown).2.2.1 (.inl rfl)).2 r hr rfl
  have hothers : ∀ {j : Nat} {g₂ : TaskPhase}, (taskPhases lib p)[j]? = some g₂ → EndsOver s' g₂ :=
    fun hj id hid => (h.at hj id hid).named hreach hi hj hallowed heffect hid.mem_names
  have hstep : DoneOver s' → (∀ id, (g.next ⟨o, r, ()⟩).Ends id → g.Ends id ∨ Over s' id) →
      Locally DoneOver EndsOver (fun _ _ => True) s'
        ((taskPhases lib p).set i (g.next ⟨o, r, ()⟩)) := by
    intro hbase hself
    refine h.setAt hi hbase (fun id hid => ?_) fun j g₂ _ hj _ _ _ => ⟨hothers hj, trivial, trivial⟩
    rcases hself id hid with hid | hover
    · exact hothers hi id hid
    · exact hover
  -- A record that moved on, and is closed only if it was.
  have hset : ∀ {record : Nat} {r₀ r₁ : TaskRecord}, p.shared.records[record]? = some r₀ →
      r₁.id = r₀.id → (r₁.done = true → r₀.done = true) →
      ∀ x ∈ p.shared.records.set record r₁, x.done = true → Over s' x.id := by
    intro record r₀ r₁ hr₀ hid hdone
    exact List.forall_mem_set hrecord fun hxdone =>
      hid ▸ hrecord r₀ (List.mem_of_getElem? hr₀) (hdone hxdone)
  cases heffect with
  | quiet hquiet service last =>
    exact hstep hrecord fun id hid => .inl (g.of_quiet hquiet (fun _ h => h) hid)
  | @terminal taskID params rows result fault hrows =>
    have hover : Over { p.shared with rows := rows } taskID :=
      over_of_markTaskTerminal hexec hallowed.2.2.2.1 fun err => hok i ans taskID params err rfl hnext
    refine hstep hrecord ?_
    rintro id (hid | hid | hid)
    · exact .inr (Option.some.inj hid ▸ hover)
    · exact .inr (Option.some.inj hid ▸ hover)
    · exact .inl (.inr (.inr hid))
  | taken taskID =>
    refine hstep hrecord ?_
    rintro id (hid | hid | hid)
    · cases hid
    · exact .inl (.inr (.inl hid))
    · -- The record of the task whose end it wrote.
      refine .inl (.inl ?_)
      simp only [TaskPhase.next, Option.map_map, Option.map_eq_some_iff] at hid
      obtain ⟨record, -, rfl⟩ := hid
      exact hallowed.1
  | registered taskID =>
    exact hstep (List.forall_mem_concat hrecord fun hdone => by cases hdone) fun id hid => .inl hid
  | loaded hr =>
    refine hstep hrecord fun id hid => .inl ?_
    simp only [TaskPhase.Ends, TaskPhase.next, Option.map_map] at hid ⊢
    rwa [show Closing.taskID ∘ Closing.load _ = Closing.taskID from funext (Closing.load_taskID _)]
      at hid
  | cleared hr =>
    refine hstep (hset hr rfl fun h => h) fun id hid => .inl ?_
    simp only [TaskPhase.Ends, TaskPhase.next, Option.map_map] at hid ⊢
    rwa [show Closing.taskID ∘ Closing.clear = Closing.taskID from funext Closing.clear_taskID] at hid
  | cancelledBefore | panicked =>
    refine hstep hrecord fun id hid => .inl ?_
    simp only [TaskPhase.Ends, TaskPhase.next, Option.map_map] at hid ⊢
    exact hid
  | cancelled hr =>
    refine hstep (hset hr rfl fun h => h) fun id hid => .inl ?_
    simp only [TaskPhase.Ends, TaskPhase.next, Option.map_map] at hid ⊢
    exact hid
  | @closed record r hr =>
    refine hstep (List.forall_mem_set hrecord fun hdone => ?_) ?_
    · -- The call closes the record of a task whose end was written.
      obtain ⟨id, stage, hc⟩ : ∃ id stage, g.closing = some ⟨id, record, stage⟩ := by
        obtain ⟨id, hc | hc⟩ := hallowed
        · exact ⟨id, _, hc⟩
        · exact ⟨id, _, hc⟩
      obtain ⟨-, y, hy, hid, -⟩ := howned.at hi _ hc
      obtain rfl := Option.mem_unique hr hy
      rw [TaskRecord.close_id, hid]
      exact hothers hi id (.inr (.inr (by rw [hc]; rfl)))
    · rintro id (hid | hid | hid)
      · exact .inl (.inl hid)
      · exact .inl (.inr (.inl hid))
      · cases hid
  | _ => exact hstep hrecord fun id hid => .inl hid

/-! ## Rows without a record -/

/-- A submission has inserted a row, and holds the reservation of its request. -/
def TaskPhase.Inserts (g : TaskPhase) (id : String) (row : TaskRow) : Prop :=
  g.own = some (id, .inserted) ∧
    (row.requestID ≠ "" → g.key = some (taskRequestScopeKey row.ownerID row.requestID))

/-- An active row has a record, or is being registered. -/
def BeingRegistered (s : TaskState) (gs : List TaskPhase) : Prop :=
  ∀ id row, s.rows.lookup id = some row → isTaskTerminal row.status = false →
    s.tasks.lookup id ≠ none ∨ ∃ g ∈ gs, g.Inserts id row

/-- An active row without a record is being registered. -/
theorem registering (h : (taskMachine lib).ReachableWhere EndsPersist p) :
    BeingRegistered p.shared (taskPhases lib p) := by
  refine task_invariant ?_ ?_ ?_ (fun _ _ _ _ _ h => h) ?_ h
  · rintro s ⟨service, clock, -, rfl⟩ id row hrow
    nomatch hrow
  · intro s gs c h id row hrow hactive
    refine (h id row hrow hactive).imp_right ?_
    rintro ⟨g, hg, hinserts⟩
    exact ⟨g, List.mem_append_left _ hg, hinserts⟩
  · intro p i ans g o s' r hreach hok h hi hnext hallowed hexec heffect id row hrow hactive
    have hends := ends_written hreach
    have hids := ids_owned hreach
    -- The row was there before, and the map and the calls have not noticed.
    have hstep : ∀ {row₀ : TaskRow}, p.shared.rows.lookup id = some row₀ →
        isTaskTerminal row₀.status = false → row.ownerID = row₀.ownerID →
        row.requestID = row₀.requestID →
        (p.shared.tasks.lookup id ≠ none → s'.tasks.lookup id ≠ none) →
        (g.Inserts id row → (g.next ⟨o, r, ()⟩).Inserts id row ∨ s'.tasks.lookup id ≠ none) →
        s'.tasks.lookup id ≠ none ∨
          ∃ g₂ ∈ (taskPhases lib p).set i (g.next ⟨o, r, ()⟩), g₂.Inserts id row := by
      intro row₀ hrow₀ hactive₀ howner hrequest htasks hself
      rcases h id row₀ hrow₀ hactive₀ with hmap | hsome
      · exact .inl (htasks hmap)
      · by_cases hdone : s'.tasks.lookup id = none
        · refine .inr (exists_phase_set hi (fun hg => (hself hg).resolve_right fun h => h hdone) ?_)
          simpa only [TaskPhase.Inserts, howner, hrequest] using hsome
        · exact .inl hdone
    have hsame : p.shared.rows.lookup id = some row → s'.tasks.lookup id = p.shared.tasks.lookup id →
        (g.Inserts id row → (g.next ⟨o, r, ()⟩).Inserts id row) →
        s'.tasks.lookup id ≠ none ∨
          ∃ g₂ ∈ (taskPhases lib p).set i (g.next ⟨o, r, ()⟩), g₂.Inserts id row :=
      fun hrow htasks hself => hstep hrow hactive rfl rfl (fun h => htasks ▸ h) fun hg => .inl (hself hg)
    cases heffect with
    | quiet hquiet service last =>
      exact hsame hrow rfl fun hg => g.of_quiet hquiet fun _ => hg
    | drawn => exact hsame hrow rfl fun hg => nomatch (show g.own = none from hallowed).symm.trans hg.1
    | reserved =>
      refine hsame hrow rfl fun hg => ⟨hg.1, fun hne => ?_⟩
      nomatch (show g.key = none from hallowed).symm.trans (hg.2 hne)
    | released requestKey =>
      -- The call has written the end of the task it inserted.
      refine hsame hrow rfl fun hg => ?_
      obtain ⟨rows, hwritten⟩ := hallowed.2 id hg.1
      have htrim : trimSpace id = id := (hids.base.1 id (hids.at hi id _ hg.1).1).1
      rw [htrim] at hwritten
      have hover := hends.at hi id (.inr (.inl (by rw [hwritten]; rfl)))
      nomatch hactive.symm.trans (hover row hrow)
    | pruned hrows => exact hsame (TaskRows.lookup_of_deleteExpired hrows hrow) rfl fun hg => hg
    | @inserted taskID new rows fault hinsert =>
      obtain ⟨-, rfl, -⟩ := TaskRows.insertTask_eq_ok hinsert
      rcases AList.lookup_insert_cases hrow with ⟨rfl, rfl⟩ | ⟨-, hrow⟩
      · exact .inr ⟨_, List.mem_set (List.getElem?_eq_some_iff.mp hi).1 _, rfl, hallowed.2.2.1⟩
      · refine hsame hrow rfl fun hg => ?_
        nomatch (Prod.mk.inj (Option.mem_unique hallowed.1 hg.1)).2
    | dispatched hrows | running hrows | terminal hrows =>
      rcases TaskRows.lookup_updateNonTerminal hrows hrow with hrow | ⟨rfl, old, hold, hactive₀, rfl⟩
      · exact hstep hrow hactive rfl rfl (fun h => h) fun hg => .inl hg
      · exact hstep hold hactive₀ rfl rfl (fun h => h) fun hg => .inl hg
    | registered taskID =>
      refine hstep hrow hactive rfl rfl (fun hmap => ?_) fun hg => .inr ?_
      · change (p.shared.tasks.insert taskID _).lookup id ≠ none
        rw [AList.lookup_insert_ite]
        split
        · exact nofun
        · exact hmap
      · obtain ⟨rfl, -⟩ := Prod.mk.inj (Option.mem_unique hallowed.1 hg.1)
        change (p.shared.tasks.insert taskID _).lookup taskID ≠ none
        rw [AList.lookup_insert]
        exact nofun
    | taken taskID =>
      by_cases hid : id = taskID
      · -- Its end was written.
        obtain rfl := hid
        nomatch hactive.symm.trans (hends.at hi id (.inl hallowed.1) row hrow)
      · exact hsame hrow (AList.lookup_erase_ne hid) fun hg => hg
    | launched args =>
      refine hsame hrow rfl fun hg => ?_
      nomatch (Prod.mk.inj (Option.some.inj ((show g.own = _ from hallowed).symm.trans hg.1))).2
    | _ => exact hsame hrow rfl fun hg => hg
  · intro s gs now service _ _ id row hrow hactive
    change (s.rows.markNonTerminalTasksFailedOnStartup now _).lookup id = _ at hrow
    rw [TaskRows.lookup_markNonTerminalTasksFailedOnStartup, Option.map_eq_some_iff] at hrow
    obtain ⟨old, -, rfl⟩ := hrow
    split at hactive
    · rename_i hterminal
      nomatch hactive.symm.trans hterminal
    · nomatch hactive

/-! ## What a submission knows -/

/-- The row of a task, if there still is one, is of a request. -/
def TaskState.OfRequest (s : TaskState) (ownerID requestID id : String) : Prop :=
  ∀ row, s.rows.lookup id = some row → row.ownerID = ownerID ∧ row.requestID = requestID

/-- Rows stay of their request, unless they are only now inserted. -/
theorem ofRequest_effect {o : TaskOp} {r : o.Res} {ownerID requestID id : String}
    (h : s.OfRequest ownerID requestID id) (hallowed : g.Allowed lib o)
    (heffect : TaskEffect s o r s') (hown : g.own ≠ some (id, .fresh)) :
    s'.OfRequest ownerID requestID id := by
  intro row' hrow'
  obtain ⟨hmove, hnone⟩ := rowMove_of_effect hallowed heffect id
  cases hrow : s.rows.lookup id with
  | none => nomatch (hnone hown hrow).symm.trans hrow'
  | some row =>
    rw [hrow, hrow'] at hmove
    cases hmove with
    | same => exact h _ hrow
    | updated _ hsame => exact ⟨hsame.1.trans (h row hrow).1, hsame.2.trans (h row hrow).2⟩

variable {ok : TaskPool → TaskAction → Prop}

/-- The row a submission found or made is one of its request. -/
theorem targets_ofRequest (h : (taskMachine lib).ReachableWhere ok p) :
    Locally (fun _ => True)
      (fun s g => ∀ ownerID requestID, Targets (s.OfRequest ownerID requestID) ownerID requestID g)
      (fun _ _ => True) p.shared (taskPhases lib p) := by
  refine task_local (fun _ _ => trivial) (fun _ _ _ _ _ _ _ h => nomatch h)
    (fun _ _ => ⟨trivial, trivial⟩) ?_ (fun _ _ _ _ _ => ⟨trivial, fun _ h => h⟩)
    (fun _ _ _ _ _ => trivial) h
  intro p i ans g o s' r hreach _ h hi _ hallowed _ heffect
  have hused := names_used hreach
  refine h.setAt hi trivial (fun ownerID requestID => ?_) fun j g₂ hij hj h₂ _ _ => ⟨?_, trivial, trivial⟩
  · refine targets_next (h.at hi ownerID requestID) (fun id hmem hid => ?_) ?_ ?_ hallowed heffect
    · exact ofRequest_effect hid hallowed heffect (hused.at hi id hmem).2
    · rintro id ⟨row, hrow, hsame⟩
      refine ofRequest_effect (fun row' hrow' => ?_) hallowed heffect fun hown => ?_
      · exact Option.mem_unique hrow hrow' ▸ hsame
      · nomatch (((ids_owned hreach).at hi id _ hown).2.1 rfl).symm.trans hrow
    · rintro id ⟨row, hrow, hsame⟩ row' hrow'
      exact Option.mem_unique hrow hrow' ▸ hsame
  · intro ownerID requestID hcall id hid
    have hmem : id ∈ g₂.names := TaskPhase.mem_names.mpr (.inl hid)
    exact ofRequest_effect (h₂ ownerID requestID hcall id hid) hallowed heffect
      (hused.separate j i g₂ g (Ne.symm hij) hj hi id hmem)

/-- The record a submission waits for is the one of its task. -/
def HasRecord (s : TaskState) (g : TaskPhase) : Prop :=
  ∀ id record, g.runtime = some (id, record) → ∃ r, s.records[record]? = some r ∧ r.id = id

theorem runtimes_recorded (h : (taskMachine lib).ReachableWhere ok p) :
    Locally (fun _ => True) HasRecord (fun _ _ => True) p.shared (taskPhases lib p) := by
  refine task_local (fun _ _ => trivial) (fun _ _ _ _ _ h => nomatch h)
    (fun _ _ => ⟨trivial, trivial⟩) ?_ (fun _ _ _ _ _ => ⟨trivial, fun _ h => h⟩)
    (fun _ _ _ _ _ => trivial) h
  intro p i ans g o s' r hreach _ h hi _ hallowed _ heffect
  have hstep : ∀ {s' : TaskState} {g' : TaskPhase}, (∀ g, HasRecord p.shared g → HasRecord s' g) →
      (HasRecord s' g → HasRecord s' g') →
      Locally (fun _ => True) HasRecord (fun _ _ => True) s' ((taskPhases lib p).set i g') :=
    fun hlocal hself => h.step hi trivial hlocal hself fun _ _ _ => ⟨trivial, trivial⟩
  have hset : ∀ {record₀ : Nat} {r₀ r₁ : TaskRecord}, p.shared.records[record₀]? = some r₀ →
      r₁.id = r₀.id → ∀ g, HasRecord p.shared g →
      HasRecord { p.shared with records := p.shared.records.set record₀ r₁ } g := by
    intro record₀ r₀ r₁ hr₀ hid g hg id record hruntime
    obtain ⟨r, hr, hrid⟩ := hg id record hruntime
    rcases List.getElem?_set_or r₁ hr₀ hr with ⟨rfl, rfl, hr'⟩ | ⟨-, hr'⟩
    · exact ⟨r₁, hr', hid.trans hrid⟩
    · exact ⟨r, hr', hrid⟩
  cases heffect with
  | quiet hquiet service last =>
    exact g.of_quiet hquiet fun _ => hstep (fun _ h => h) fun h => h
  | registered taskID =>
    refine hstep (fun g hg id record hruntime => ?_) ?_
    · obtain ⟨r, hr, hrid⟩ := hg id record hruntime
      exact ⟨r, List.getElem?_concat_of_some hr, hrid⟩
    · rintro - id record hruntime
      cases hruntime
      exact ⟨_, List.getElem?_concat_length, rfl⟩
  | lookedUp taskID =>
    refine hstep (fun _ h => h) fun hg id record hruntime => ?_
    simp only [TaskPhase.next] at hruntime
    split at hruntime
    · rename_i hlookup
      cases hruntime
      obtain ⟨r, hr, hid, -⟩ := (records_owned hreach).base.1 _ _ hlookup
      exact ⟨r, hr, hid⟩
    · exact hg id record hruntime
  | cleared hr | cancelled hr => exact hstep (hset hr rfl) fun h => h
  | closed hr => exact hstep (hset hr (TaskRecord.close_id _)) fun h => h
  | _ => exact hstep (fun _ h => h) fun h => h

/-- What a submission concludes about the row is true. -/
def KnowsOver (s : TaskState) (g : TaskPhase) : Prop :=
  (∀ id, g.known = some id → Over s id) ∧
  ∀ read, g.read = some read → read.known = true → isTaskTerminal read.status = true

theorem known_over (h : (taskMachine lib).ReachableWhere EndsPersist p) :
    Locally (fun _ => True) KnowsOver (fun _ _ => True) p.shared (taskPhases lib p) := by
  refine task_local (fun _ _ => trivial)
    (fun _ _ _ => ⟨nofun, nofun⟩)
    (fun _ _ => ⟨trivial, trivial⟩) ?_ (fun _ _ _ _ _ => ⟨trivial, fun _ h => h⟩)
    (fun _ _ _ _ _ => trivial) h
  intro p i ans g o s' r hreach hok h hi hnext hallowed hexec heffect
  have hstay : ∀ {j : Nat} {g₂ : TaskPhase}, (taskPhases lib p)[j]? = some g₂ → KnowsOver s' g₂ := by
    intro j g₂ hj
    refine ⟨fun id hid => ?_, (h.at hj).2⟩
    exact ((h.at hj).1 id hid).named hreach hi hj hallowed heffect
      (TaskPhase.mem_names.mpr (.inr (.inr (.inl hid))))
  have hself : KnowsOver s' g := hstay hi
  refine h.setAt hi trivial ?_ fun j g₂ _ hj _ _ _ => ⟨hstay hj, trivial, trivial⟩
  cases heffect with
  | quiet hquiet service last =>
    exact g.of_quiet hquiet fun _ => hself
  | @read taskID found hfound =>
    refine ⟨hself.1, fun read hread hknown => ?_⟩
    cases found with
    | none => exact hself.2 read hread hknown
    | some row =>
      cases hread
      have hrow := hfound row rfl
      -- The row it reads is over, so it is terminal.
      have htrim : trimSpace taskID = taskID :=
        ((ids_owned hreach).base.1 taskID ((ids_owned hreach).base.2.1 taskID row hrow)).1
      have hid : g.known = some taskID := by
        rw [← htrim]
        exact of_decide_eq_true hknown
      exact hself.1 taskID hid row hrow
  | @terminal taskID params rows result fault hrows =>
    refine ⟨fun id hid => ?_, hself.2⟩
    cases hid
    exact over_of_markTaskTerminal hexec hallowed.2.2.2.1
      fun err => hok i ans taskID params err rfl hnext
  | lookedUp taskID =>
    refine ⟨fun id hid => ?_, hself.2⟩
    simp only [TaskPhase.next] at hid
    split at hid
    · rename_i hexecuting hnone
      cases hid
      obtain ⟨-, htarget, hunowned, ownerID, requestID, hcall, hne, hkey⟩ :=
        hallowed.resolve_left fun h => by cases hexecuting.symm.trans h
      rw [trimSpace_of_mem_names hreach hi (TaskPhase.mem_names.mpr (.inl htarget))]
      intro row hrow
      -- An active row without a record is being registered by the holder of the reservation,
      -- which is this call.
      by_contra hactive
      obtain ⟨howner, hrequest⟩ :=
        (targets_ofRequest hreach).at hi ownerID requestID hcall taskID htarget row hrow
      rcases registering hreach taskID row hrow (eq_false_of_ne_true hactive) with hmap | ⟨g₂, hg₂, hown, hkey₂⟩
      · exact hmap hnone
      · obtain ⟨j, hj⟩ := List.getElem?_of_mem hg₂
        have hij : i ≠ j := by
          rintro rfl
          obtain rfl := Option.mem_unique hi hj
          exact hunowned taskID hown
        refine (requests_owned hreach).separate i j g g₂ hij hi hj _ hkey ?_
        rw [hkey₂ (hrequest ▸ hne), howner, hrequest]
    · exact hself.1 id hid
  | @woken record timer wake hwake =>
    refine ⟨fun id hid => ?_, hself.2⟩
    cases wake with
    | contextDone err | timer => exact hself.1 id hid
    | done =>
      obtain ⟨⟨id₀, htarget, hruntime⟩, -⟩ := hallowed
      obtain ⟨r, hr, hrid⟩ := (runtimes_recorded hreach).at hi id₀ record hruntime
      have hdone : r.done = true := by
        simp only [TaskState.canWake, hr, Option.any_some] at hwake
        exact hwake
      have hid : some (trimSpace id₀) = some id := by
        rw [← Option.map_some, ← htarget]
        exact hid
      cases hid
      rw [trimSpace_of_mem_names hreach hi (TaskPhase.mem_names.mpr (.inl htarget)), ← hrid]
      exact (ends_written hreach).base r (List.mem_of_getElem? hr) hdone
  | _ => exact hself

/-! ## How long a submission waits -/

/-- What a submission that began at `t` or later has waited for, at the time `clock`. -/
def TaskPhase.Waits (g : TaskPhase) (t clock : Int) : Prop :=
  ∀ req, g.call = .submit req →
    (∀ deadline, g.timer = some deadline → t + taskWait .auto req ≤ deadline) ∧
    (g.elapsed = true → t + taskWait .auto req ≤ clock)

/-- Timers are set for the wait of the submission and fire when it is over. -/
theorem TaskPhase.Waits.next {o : TaskOp} {r : o.Res} {t : Int} (h : g.Waits t s.clock)
    (ht : t ≤ s.clock) (hallowed : g.Allowed lib o) (heffect : TaskEffect s o r s') :
    (g.next ⟨o, r, ()⟩).Waits t s.clock := by
  cases heffect with
  | quiet hquiet service last =>
    exact g.of_quiet hquiet fun _ => h
  | timer wait =>
    intro req hcall
    obtain ⟨req', hcall', rfl⟩ := hallowed
    obtain rfl := TaskCall.submit.inj (hcall'.symm.trans hcall)
    refine ⟨fun deadline hdeadline => ?_, (h req' hcall').2⟩
    cases hdeadline
    exact Int.add_le_add_right ht _
  | @woken record timer wake hwake =>
    intro req hcall
    refine ⟨(h req hcall).1, fun helapsed => ?_⟩
    cases wake with
    | contextDone err | done => exact (h req hcall).2 helapsed
    | timer =>
      -- The timer is the one it set.
      cases timer with
      | none => nomatch hwake
      | some deadline =>
        exact Int.le_trans ((h req hcall).1 deadline (hallowed.2 rfl).symm) (of_decide_eq_true hwake)
  | _ => exact h

theorem TaskPhase.Waits.mono {t clock clock' : Int} (h : g.Waits t clock) (hle : clock ≤ clock') :
    g.Waits t clock' :=
  fun req hcall => ⟨(h req hcall).1, fun helapsed => Int.le_trans ((h req hcall).2 helapsed) hle⟩

/-- A submission that began after `p` and gave up waiting did so after its wait. -/
theorem waits_leadsTo (hp : (taskMachine lib).ReachableWhere ok p)
    (hrun : (taskMachine lib).LeadsTo ok p q) :
    p.shared.clock ≤ q.shared.clock ∧
    ∀ i g, p.threads.length ≤ i → (taskPhases lib q)[i]? = some g →
      g.Waits p.shared.clock q.shared.clock := by
  apply hrun.invariant (P := fun q => p.shared.clock ≤ q.shared.clock ∧
    ∀ i g, p.threads.length ≤ i → (taskPhases lib q)[i]? = some g →
      g.Waits p.shared.clock q.shared.clock) hp
  · refine ⟨Int.le_refl _, fun i g hi hg => ?_⟩
    have hlt := (List.getElem?_eq_some_iff.mp hg).1
    rw [taskPhases, ThreadSystem.ghosts, List.length_map] at hlt
    omega
  · rintro q a q' hreach ⟨hclock, ih⟩ - hs
    rcases task_cases hreach hs with ⟨c, -, hshared, hphases⟩ |
      ⟨i, ans, g, o, r, -, hg, -, hallowed, hexec, hphases⟩ |
      ⟨e, service, now, -, hle, heq, hphases⟩ | ⟨now, service, -, hle, heq, hphases⟩
    · rw [hphases, hshared]
      refine ⟨hclock, fun j g₂ hj hg₂ => ?_⟩
      rcases List.getElem?_concat_cases hg₂ with ⟨-, hg₂⟩ | ⟨-, rfl⟩
      · exact ih j g₂ hj hg₂
      · exact fun req _ => ⟨fun _ h => (by cases h), fun h => by cases h⟩
    · have heffect := effect_of_exec hexec
      rw [hphases, heffect.clock]
      refine ⟨hclock, fun j g₂ hj hg₂ => ?_⟩
      rcases List.getElem?_set_cases hg₂ with ⟨rfl, rfl⟩ | ⟨-, hg₂⟩
      · exact (ih i g hj hg).next hclock hallowed heffect
      · exact ih j g₂ hj hg₂
    · rw [hphases, heq]
      exact ⟨Int.le_trans hclock hle, fun j g₂ hj hg₂ => (ih j g₂ hj hg₂).mono hle⟩
    · rw [hphases, heq]
      exact ⟨Int.le_trans hclock hle, fun _ _ _ h => by cases h⟩

/-- In sync mode a submission answers with the end of the task, and in auto mode with a
    task that has not ended only after the wait, in every run in which no terminal write
    fails. -/
theorem submission_waits (lib : TaskLib) (p q : TaskPool)
    (hp : (taskMachine lib).ReachableWhere EndsPersist p)
    (hrun : (taskMachine lib).LeadsTo EndsPersist p q) (i : Nat) (t : TaskThread)
    (hi : p.threads.length ≤ i) (ht : q.threads[i]? = some t) (req : SubmitTaskRequest)
    (hcall : t.call = .submit req) (request : CheckedRequest)
    (hrequest : checkSubmitTaskRequest lib req = .ok request) (result : SubmitTaskResult)
    (hnext : q.nextOp i = some (.returnSubmit (.ok result))) :
    (request.mode = .sync → isTaskTerminal result.task.status = true ∧ result.completed = true) ∧
    (request.mode = .auto → result.completed = false →
      p.shared.clock + taskWait .auto req ≤ q.shared.clock) := by
  have hq := hp.leadsTo hrun
  obtain ⟨t', g, ht', hgcall, hg, hallowed⟩ := task_allowed_of_nextOp hq hnext
  obtain rfl := Option.mem_unique ht' ht
  obtain ⟨req', request', row, hcall', hrequest', hread, -, -, hstatus, hcompleted, hsync, hauto⟩ :=
    hallowed
  obtain rfl := TaskCall.submit.inj (hcall'.symm.trans (hgcall.trans hcall))
  obtain rfl := Except.ok.inj (hrequest'.symm.trans hrequest)
  -- A row that is known to be terminal is.
  have hknown : row.known = true → isTaskTerminal row.status = true :=
    ((known_over hq).at hg).2 row hread
  have hends : isTaskTerminal row.status = true → result.completed = true := fun hend =>
    hcompleted.elim (fun h => h.trans hend) And.left
  refine ⟨fun hmode => ?_, fun hmode hunfinished => ?_⟩
  · have hend : isTaskTerminal row.status = true := (hsync hmode).elim id hknown
    exact ⟨hstatus ▸ hend, hends hend⟩
  · rcases hauto hmode with hend | hend | helapsed
    · nomatch hunfinished.symm.trans (hends hend)
    · nomatch hunfinished.symm.trans (hends (hknown hend))
    · exact ((waits_leadsTo hp hrun).2 i g hi hg req' hcall').2 helapsed

/-- `EndsPersist` of a step that is executed. -/
def endsPersist (p : TaskPool) : TaskAction → Bool
  | .step (.run i (.store (some _))) =>
    match p.nextOp i with
    | some (.markTaskTerminal ..) => false
    | _ => true
  | _ => true

theorem endsPersist_of_eq_true {a : TaskAction} (h : endsPersist p a = true) : EndsPersist p a := by
  rintro i ans id params err rfl hnext rfl
  simp only [endsPersist, hnext] at h
  nomatch h

/-- A submission in auto mode that gives up after its 1500 ms, and one in sync mode. -/
theorem submission_waits_both :
    ∃ q result result', (taskMachine .sample).LeadsTo EndsPersist .fresh q ∧
      q.nextOp 0 = some (.returnSubmit (.ok result)) ∧ result.completed = false ∧
      TaskPool.fresh.shared.clock + 1500 ≤ q.shared.clock ∧
      q.nextOp 1 = some (.returnSubmit (.ok result')) ∧ isTaskTerminal result'.task.status = true := by
  have hrun := Machine.reachableWhere_runWhere
    (M := { init := (· = TaskPool.fresh), step := (taskMachine .sample).step })
    endsPersist (fun _ _ => endsPersist_of_eq_true)
    (workerOnline ++
      [.step (.spawn (.submit { capability := "echo", ownerID := "o" })),
        .step (.spawn (.submit { capability := "echo", mode := "sync", ownerID := "o" }))] ++
      TaskAction.runs 0 (submitToInserted ++ [.none, .none, .store none, .none]) ++
      [.step (.env (.tick 1501))] ++ TaskAction.runs 0 [.wake .timer, .store none] ++
      TaskAction.runs 1 [.prepared (.ok immediateInput), .scoped (.ok "1"), .none, .none, sampleID 2,
        .none, .store none, .store none, .none, .store none])
    (.init rfl) rfl
  have hwaits := submission_waits .sample _ _ (TaskPool.fresh_reachable .sample) hrun
  exact ⟨_, _, _, hrun, rfl, rfl, (hwaits 0 _ (Nat.zero_le _) rfl _ rfl _ rfl _ rfl).2 rfl rfl, rfl,
    ((hwaits 1 _ (Nat.zero_le _) rfl _ rfl _ rfl _ rfl).1 rfl).1⟩

/-- A submission with an immediate result fails to write the end of its task, which leaves
    an active row without a record; the same request in sync mode is then answered with
    the queued task. -/
theorem sync_submission_unfinished :
    ∃ q t result, (taskMachine .sample).Reachable q ∧ q.threads[1]? = some t ∧
      t.call = .submit { capability := "echo", mode := "sync", requestID := "r", ownerID := "o" } ∧
      q.nextOp 1 = some (.returnSubmit (.ok result)) ∧ result.task.status = .queued ∧
      result.completed = false := by
  have hrun := Machine.reachable_run
    ([.step (.spawn (.submit { capability := "echo", requestID := "r", ownerID := "o" })),
      .step (.spawn (.submit
        { capability := "echo", mode := "sync", requestID := "r", ownerID := "o" }))] ++
      TaskAction.runs 0 (submitToReserved immediateInput ++
        [.store none, sampleID 1, .none, .store none, .store (some "database is locked"), .none, .none,
          .none]) ++
      TaskAction.runs 1 [.prepared (.ok immediateInput), .scoped (.ok "1"), .none, .none, .none,
        .store none, .none, .store none, .store none, .none])
    (TaskPool.fresh_reachable .sample) rfl
  exact ⟨_, _, _, hrun, rfl, rfl, rfl, rfl, rfl⟩

end Onlyboxes.Console
