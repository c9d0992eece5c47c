import Onlyboxes.Spec.TaskOwnership

/-!
# The records of tasks

A task record is in the map until a terminal write takes it out, and whoever took it
closes it: it cancels the context, then closes the channel. The field `cancel` is read and
written without a lock, but only by the one call that took the record; the other calls
that read it only read.

## Key results

- `records_owned`: the record that a call closes is its own, and still has to be cancelled
- `records_held`: every record is in the map, being closed, or closed and cancelled
-/

namespace Onlyboxes.Console

open ThreadSystem

variable {lib : TaskLib} {ok : TaskPool → TaskAction → Prop} {p p' : TaskPool}

/-- The records in the map can be cancelled, and the two `sync.Once` do what they are
    for. -/
def RecordsReady (s : TaskState) : Prop :=
  (∀ id record, s.tasks.lookup id = some record →
    ∃ r, s.records[record]? = some r ∧ r.id = id ∧ r.cancel = true) ∧
  ∀ r ∈ s.records, (r.cancelOnce = true → r.canceled = true) ∧ (r.doneOnce = true → r.done = true)

/-- What a call that closes a record has found and done. -/
def CloseStage.Of (r : TaskRecord) : CloseStage → Prop
  | .taken | .loaded => r.cancel = true
  | .reloaded cancel | .cleared cancel => cancel = true
  | .cancelled => r.canceled = true
  | .skipped => False

/-- The record that a call closes is not in the map. -/
def ClosesRecord (s : TaskState) (g : TaskPhase) : Prop :=
  ∀ c, g.closing = some c → s.tasks.lookup c.taskID ≠ some c.record ∧
    ∃ r, s.records[c.record]? = some r ∧ r.id = c.taskID ∧ c.stage.Of r

/-- Two calls close different records. -/
def ClosingApart (g g' : TaskPhase) : Prop :=
  ∀ c c', g.closing = some c → g'.closing = some c' → c.record ≠ c'.record

theorem ClosingApart.symm {g g' : TaskPhase} (h : ClosingApart g g') : ClosingApart g' g :=
  fun c c' hc hc' heq => h c' c hc' hc heq.symm

/-- A record moves on: it keeps its id and what it has reached. -/
structure TaskRecord.Grows (r r' : TaskRecord) : Prop where
  id : r'.id = r.id
  canceled : r.canceled = true → r'.canceled = true
  done : r.done = true → r'.done = true
  once : (r'.cancelOnce = true → r'.canceled = true) ∧ (r'.doneOnce = true → r'.done = true)

theorem TaskRecord.grows_close (r : TaskRecord) (h : r.cancelOnce = true → r.canceled = true)
    (h' : r.doneOnce = true → r.done = true) : r.Grows r.close := by
  unfold TaskRecord.close
  split
  · exact ⟨rfl, fun h => h, fun h => h, h, h'⟩
  · exact ⟨rfl, fun h => h, fun _ => rfl, h, fun _ => rfl⟩

theorem TaskRecord.close_cancel (r : TaskRecord) : r.close.cancel = r.cancel := by
  unfold TaskRecord.close
  split <;> rfl

/-- After it a record is closed. -/
theorem TaskRecord.done_close {r : TaskRecord} (h : r.doneOnce = true → r.done = true) :
    r.close.done = true := by
  unfold TaskRecord.close
  split
  · rename_i hdone
    exact h hdone
  · rfl

section

variable {s : TaskState} {gs : List TaskPhase} {i record : Nat} {g : TaskPhase} {r r' : TaskRecord}

/-- A record moves on that is not in the map, or keeps its `cancel`. -/
theorem RecordsReady.grow (h : RecordsReady s) (hr : s.records[record]? = some r) (hgrow : r.Grows r')
    (hcancel : r'.cancel = r.cancel ∨ s.tasks.lookup r.id ≠ some record) :
    RecordsReady { s with records := s.records.set record r' } := by
  refine ⟨fun id j hj => ?_, List.forall_mem_set h.2 hgrow.once⟩
  obtain ⟨x, hx, hid, hset⟩ := h.1 id j hj
  rcases List.getElem?_set_or r' hr hx with ⟨rfl, rfl, hr'⟩ | ⟨-, hx'⟩
  · rcases hcancel with hsame | hother
    · exact ⟨r', hr', hgrow.id.trans hid, hsame.trans hset⟩
    · exact absurd (hid ▸ hj) hother
  · exact ⟨x, hx', hid, hset⟩

/-- The calls that close another record, or do not care, do not notice. -/
theorem ClosesRecord.grow (h : ClosesRecord s g) (hr : s.records[record]? = some r)
    (hgrow : r.Grows r')
    (hcancel : r'.cancel = r.cancel ∨ ∀ c, g.closing = some c → c.record ≠ record) :
    ClosesRecord { s with records := s.records.set record r' } g := by
  intro c hc
  obtain ⟨hmap, x, hx, hid, hstage⟩ := h c hc
  refine ⟨hmap, ?_⟩
  rcases List.getElem?_set_or r' hr hx with ⟨rfl, rfl, hr'⟩ | ⟨-, hx'⟩
  · refine ⟨r', hr', hgrow.id.trans hid, ?_⟩
    have hsame : r'.cancel = x.cancel := hcancel.resolve_right fun h => h c hc rfl
    generalize c.stage = stage at hstage
    cases stage with
    | taken | loaded => exact hsame.trans hstage
    | reloaded cancel | cleared cancel | skipped => exact hstage
    | cancelled => exact hgrow.canceled hstage
  · exact ⟨x, hx', hid, hstage⟩

variable {g' : TaskPhase}

section

variable (h : Locally RecordsReady ClosesRecord ClosingApart s gs)

include h

/-- A call takes the record of a task out of the map. -/
theorem records_taken (hi : gs[i]? = some g) {id : String}
    (hclosing : g'.closing = (s.tasks.lookup id).map fun record => { taskID := id, record := record }) :
    Locally RecordsReady ClosesRecord ClosingApart { s with tasks := s.tasks.erase id } (gs.set i g') := by
  have hbase : RecordsReady { s with tasks := s.tasks.erase id } := by
    exact ⟨fun id' record hrecord => h.base.1 id' record (AList.lookup_of_erase hrecord).2, h.base.2⟩
  have hothers : ∀ g₂, ClosesRecord s g₂ → ClosesRecord { s with tasks := s.tasks.erase id } g₂ := by
    intro g₂ h₂ c hc
    obtain ⟨hmap, hrest⟩ := h₂ c hc
    refine ⟨?_, hrest⟩
    rw [AList.lookup_erase_ite]
    split
    · exact nofun
    · exact hmap
  cases hrecord : s.tasks.lookup id with
  | none =>
    rw [hrecord] at hclosing
    refine h.set hi hbase (fun c hc => nomatch hclosing.symm.trans hc) fun g₂ h₂ _ _ =>
      ⟨hothers g₂ h₂, fun c _ hc => (nomatch hclosing.symm.trans hc),
        fun _ c _ hc => (nomatch hclosing.symm.trans hc)⟩
  | some record =>
    rw [hrecord] at hclosing
    obtain ⟨r, hr, hid, hcancel⟩ := h.base.1 id record hrecord
    have hapart : ∀ g₂, ClosesRecord s g₂ → ClosingApart g' g₂ := by
      intro g₂ h₂ c c₂ hc hc₂ heq
      obtain rfl := Option.mem_unique hclosing hc
      obtain ⟨hmap, r₂, hr₂, hid₂, -⟩ := h₂ c₂ hc₂
      rw [← heq] at hr₂ hmap
      obtain rfl := Option.mem_unique hr hr₂
      rw [← hid₂, hid] at hmap
      exact hmap hrecord
    refine h.set hi hbase ?_ fun g₂ h₂ _ _ => ⟨hothers g₂ h₂, hapart g₂ h₂, (hapart g₂ h₂).symm⟩
    intro c hc
    obtain rfl := Option.mem_unique hclosing hc
    refine ⟨?_, r, hr, hid, hcancel⟩
    rw [AList.lookup_erase_ite, if_pos rfl]
    exact nofun

/-- A submission registers the record of its task. -/
theorem records_registered (hi : gs[i]? = some g) {id : String} (hclosing : g'.closing = g.closing) :
    Locally RecordsReady ClosesRecord ClosingApart
      { s with
        tasks := s.tasks.insert id s.records.length
        records := s.records ++ [{ id := id }] }
      (gs.set i g') := by
  have hold : ∀ {j : Nat} {r : TaskRecord}, s.records[j]? = some r →
      (s.records ++ [{ id := id }])[j]? = some r := List.getElem?_concat_of_some
  refine h.step hi ⟨fun id' record hrecord => ?_, List.forall_mem_concat h.base.2
      ⟨nofun, nofun⟩⟩ (fun g₂ h₂ c hc => ?_)
    (fun h c hc => h c (hclosing ▸ hc)) fun g₂ hd hd' =>
      ⟨fun c c₂ hc => hd c c₂ (hclosing ▸ hc), fun c₂ c hc₂ hc => hd' c₂ c hc₂ (hclosing ▸ hc)⟩
  · rcases AList.lookup_insert_cases hrecord with ⟨heq, rfl⟩ | ⟨-, hrecord⟩
    · exact ⟨_, List.getElem?_concat_length, heq.symm, rfl⟩
    · obtain ⟨r, hr, hrest⟩ := h.base.1 id' record hrecord
      exact ⟨r, hold hr, hrest⟩
  · obtain ⟨hmap, r, hr, hrest⟩ := h₂ c hc
    refine ⟨?_, r, hold hr, hrest⟩
    rw [AList.lookup_insert_ite]
    split
    · intro heq
      exact absurd (List.getElem?_eq_some_iff.mp hr).1 (Option.some.inj heq ▸ lt_irrefl _)
    · exact hmap

/-- A record moves on, and so does the call that closes it. -/
theorem records_grow (hi : gs[i]? = some g) (hr : s.records[record]? = some r) (hgrow : r.Grows r')
    (hclosing : g'.closing = g.closing ∨ g'.closing = none ∨ ∃ c c', g.closing = some c ∧ c.record = record ∧ g'.closing = some c' ∧ c'.taskID = c.taskID ∧ c'.record = record ∧ c'.stage.Of r')
    (hcancel : r'.cancel = r.cancel ∨ ∃ c, g.closing = some c ∧ c.record = record ∧ g'.closing ≠ g.closing) :
    Locally RecordsReady ClosesRecord ClosingApart { s with records := s.records.set record r' }
      (gs.set i g') := by
  have hself := h.at hi
  -- A call that changes `cancel` closes the record, so it is not in the map.
  have hmap : r'.cancel = r.cancel ∨ s.tasks.lookup r.id ≠ some record := by
    refine hcancel.imp_right fun ⟨c, hc, hrecord, _⟩ => ?_
    obtain ⟨hmap, x, hx, hid, -⟩ := hself c hc
    rw [hrecord] at hx hmap
    obtain rfl := Option.mem_unique hr hx
    exact hid ▸ hmap
  refine h.set hi (h.base.grow hr hgrow hmap) ?_ fun g₂ h₂ hd hd' => ⟨?_, ?_⟩
  · rcases hclosing with hsame | hnone | ⟨c, c', hc, hrecord, hc', hid, hrecord', hstage⟩
    · intro c hc
      have hcancel' : r'.cancel = r.cancel :=
        hcancel.resolve_right fun ⟨_, _, _, hne⟩ => hne hsame
      exact hself.grow hr hgrow (.inl hcancel') c (hsame ▸ hc)
    · exact fun c hc => nomatch hnone.symm.trans hc
    · intro x hx
      obtain rfl := Option.mem_unique hc' hx
      obtain ⟨hmap, y, hy, hidy, -⟩ := hself c hc
      rw [hrecord] at hy hmap
      obtain rfl := Option.mem_unique hr hy
      rw [hid, hrecord']
      exact ⟨hmap, r', List.getElem?_set_of_some hr, hgrow.id.trans hidy, hstage⟩
  · refine h₂.grow hr hgrow (hcancel.imp_right fun ⟨c, hc, hrecord, _⟩ c₂ hc₂ heq => ?_)
    exact hd c c₂ hc hc₂ (hrecord.trans heq.symm)
  · have hapart : ClosingApart g' g₂ := by
      intro c' c₂ hc' hc₂
      rcases hclosing with hsame | hnone | ⟨c, c'', hc, hrecord, hc'', -, hrecord', -⟩
      · exact hd c' c₂ (hsame ▸ hc') hc₂
      · nomatch hnone.symm.trans hc'
      · obtain rfl := Option.mem_unique hc'' hc'
        rw [hrecord', ← hrecord]
        exact hd c c₂ hc hc₂
    exact ⟨hapart, hapart.symm⟩

/-- The call that closes a record goes on, and the records stay as they are. -/
theorem records_stage (hi : gs[i]? = some g)
    (hclosing : g'.closing = g.closing ∨ ∃ c c', g.closing = some c ∧ g'.closing = some c' ∧ c'.taskID = c.taskID ∧ c'.record = c.record ∧ ∀ r, s.records[c.record]? = some r → c.stage.Of r → c'.stage.Of r) :
    Locally RecordsReady ClosesRecord ClosingApart s (gs.set i g') := by
  have hself := h.at hi
  refine h.set hi h.base ?_ fun g₂ h₂ hd _ => ⟨h₂, ?_⟩
  · intro x hx
    rcases hclosing with hsame | ⟨c, c', hc, hc', hid, hrecord, hstage⟩
    · exact hself x (hsame ▸ hx)
    · obtain rfl := Option.mem_unique hc' hx
      obtain ⟨hmap, r, hr, hrid, hof⟩ := hself c hc
      rw [hid, hrecord]
      exact ⟨hmap, r, hr, hrid, hstage r hr hof⟩
  · have hapart : ClosingApart g' g₂ := by
      intro x c₂ hx hc₂
      rcases hclosing with hsame | ⟨c, c', hc, hc', -, hrecord, -⟩
      · exact hd x c₂ (hsame ▸ hx) hc₂
      · obtain rfl := Option.mem_unique hc' hx
        exact hrecord ▸ hd c c₂ hc hc₂
    exact ⟨hapart, hapart.symm⟩

end

end

/-- The record that a call closes is its own, and still has to be cancelled. -/
theorem records_owned (h : (taskMachine lib).ReachableWhere ok p) :
    Locally RecordsReady ClosesRecord ClosingApart p.shared (taskPhases lib p) := by
  refine task_local ?_ (fun _ _ _ _ h => nomatch h)
    (fun _ _ => ⟨nofun, nofun⟩) ?_
    (fun _ _ _ _ hbase => ⟨hbase, fun _ h => h⟩)
    (fun _ _ _ _ _ => ⟨nofun, nofun⟩) h
  · rintro s ⟨service, clock, -, rfl⟩
    exact ⟨nofun, nofun⟩
  intro p i ans g o s' r _ _ h hi _ hallowed _ heffect
  have hsame : ∀ {s' : TaskState} {g' : TaskPhase}, s'.tasks = p.shared.tasks →
      s'.records = p.shared.records → g'.closing = g.closing →
      Locally RecordsReady ClosesRecord ClosingApart s' ((taskPhases lib p).set i g') := by
    intro s' g' htasks hrecords hclosing
    refine (records_stage h hi (.inl hclosing)).mono ?_ fun _ h => ?_
    · unfold RecordsReady
      rw [htasks, hrecords]
      exact h.base
    · unfold ClosesRecord
      rw [htasks, hrecords]
      exact h
  cases heffect with
  | quiet hquiet service last =>
    exact g.of_quiet hquiet fun _ => hsame rfl rfl rfl
  | taken taskID => exact records_taken h hi rfl
  | registered taskID => exact records_registered h hi rfl
  | @loaded record r hr =>
    rcases hallowed with ⟨hnone, -⟩ | ⟨id, hc | hc⟩
    · exact records_stage h hi (.inl (by simp only [TaskPhase.next, hnone, Option.map_none]))
    · obtain ⟨-, x, hx, -, hcancel⟩ := h.at hi _ hc
      obtain rfl := Option.mem_unique hr hx
      refine records_stage h hi (.inr ⟨_, ⟨id, record, .loaded⟩, hc, ?_, rfl, rfl, fun _ _ h => h⟩)
      simp only [TaskPhase.next, hc, Option.map_some, Closing.load, show r.cancel = true from hcancel,
        if_true]
    · obtain ⟨-, x, hx, -, hcancel⟩ := h.at hi _ hc
      obtain rfl := Option.mem_unique hr hx
      refine records_stage h hi (.inr ⟨_, ⟨id, record, .reloaded r.cancel⟩, hc, ?_, rfl, rfl,
        fun _ _ _ => hcancel⟩)
      simp only [TaskPhase.next, hc, Option.map_some, Closing.load]
  | @cleared record r hr =>
    obtain ⟨id, cancel, hc⟩ := hallowed
    obtain ⟨-, x, -, -, hcancel⟩ := h.at hi _ hc
    have hgrow : r.Grows { r with cancel := false } :=
      ⟨rfl, fun h => h, fun h => h, h.base.2 r (List.mem_of_getElem? hr)⟩
    have hnext : (g.next ⟨.clearCancel record, (), ()⟩).closing = some ⟨id, record, .cleared cancel⟩ := by
      simp only [TaskPhase.next, hc, Option.map_some, Closing.clear]
    refine records_grow h hi hr hgrow (.inr (.inr ⟨_, _, hc, rfl, hnext, rfl, rfl, hcancel⟩))
      (.inr ⟨_, hc, rfl, ?_⟩)
    rw [hnext, hc]
    exact fun heq => by cases heq
  | @cancelledBefore record cancel r hr honce =>
    rcases hallowed with ⟨hnone, -⟩ | ⟨id, hc⟩
    · exact records_stage h hi (.inl (by simp only [TaskPhase.next, hnone, Option.map_none]))
    · have hcanceled : r.canceled = true := (h.base.2 r (List.mem_of_getElem? hr)).1 honce
      refine records_stage h hi (.inr ⟨_, ⟨id, record, .cancelled⟩, hc, ?_, rfl, rfl, fun x hx _ => ?_⟩)
      · simp only [TaskPhase.next, hc, Option.map_some]
      · exact Option.mem_unique hr hx ▸ hcanceled
  | @cancelled record r hr =>
    have hgrow : r.Grows { r with cancelOnce := true, canceled := true } :=
      ⟨rfl, fun _ => rfl, fun h => h, fun _ => rfl, (h.base.2 r (List.mem_of_getElem? hr)).2⟩
    rcases hallowed with ⟨hnone, -⟩ | ⟨id, hc⟩
    · exact records_grow h hi hr hgrow
        (.inl (by simp only [TaskPhase.next, hnone, Option.map_none])) (.inl rfl)
    · refine records_grow h hi hr hgrow
        (.inr (.inr ⟨_, ⟨id, record, .cancelled⟩, hc, rfl, ?_, rfl, rfl, rfl⟩)) (.inl rfl)
      simp only [TaskPhase.next, hc, Option.map_some]
  | panicked record =>
    rcases hallowed with ⟨hnone, -⟩ | ⟨id, hc⟩
    · exact hsame rfl rfl (by simp only [TaskPhase.next, hnone, Option.map_none])
    · -- The call that closes the record has read a function.
      obtain ⟨-, x, -, -, hcancel⟩ := h.at hi _ hc
      cases hcancel
  | @closed record r hr =>
    have honce := h.base.2 r (List.mem_of_getElem? hr)
    exact records_grow h hi hr (r.grows_close honce.1 honce.2) (.inr (.inl rfl)) (.inl r.close_cancel)
  | _ => exact hsame rfl rfl rfl

/-- Some call closes the record. -/
def ClosedBySome (gs : List TaskPhase) (record : Nat) : Prop :=
  ∃ g ∈ gs, ∃ c, g.closing = some c ∧ c.record = record

/-- Every record is in the map, being closed, or closed and cancelled. -/
def RecordsHeld (s : TaskState) (gs : List TaskPhase) : Prop :=
  ∀ record r, s.records[record]? = some r → s.tasks.lookup r.id = some record ∨
    ClosedBySome gs record ∨ r.done = true ∧ r.canceled = true

/-- The record that a call closes stays the same until it has closed it. -/
theorem closedBySome_map {gs : List TaskPhase} {i record : Nat} {g g' : TaskPhase} {f : Closing → Closing}
    (hi : gs[i]? = some g) (hnext : g'.closing = g.closing.map f) (hf : ∀ c, (f c).record = c.record)
    (h : ClosedBySome gs record) : ClosedBySome (gs.set i g') record := by
  refine exists_phase_set hi ?_ h
  rintro ⟨c, hc, hrecord⟩
  exact ⟨f c, by rw [hnext, hc]; rfl, (hf c).trans hrecord⟩

/-- No record is lost. -/
theorem records_held (h : (taskMachine lib).ReachableWhere ok p) :
    RecordsHeld p.shared (taskPhases lib p) := by
  refine task_invariant ?_ ?_ ?_ (fun _ _ _ _ _ h => h)
    (fun _ _ _ _ _ _ _ _ h => nomatch h) h
  · rintro s ⟨service, clock, -, rfl⟩ record r hr
    cases hr
  · intro s gs c h record r hr
    refine (h record r hr).imp_right (Or.imp_left ?_)
    rintro ⟨g, hg, hc⟩
    exact ⟨g, List.mem_append_left _ hg, hc⟩
  intro p i ans g o s' r hreach _ h hi _ hallowed _ heffect
  have howned := records_owned hreach
  have hsame : ∀ {g' : TaskPhase}, g'.closing = g.closing →
      RecordsHeld p.shared ((taskPhases lib p).set i g') := by
    intro g' hclosing record r hr
    refine (h record r hr).imp_right (Or.imp_left fun hsome => ?_)
    exact closedBySome_map hi (hclosing.trans Option.map_id'.symm) (fun _ => rfl) hsome
  -- A record moves on, and is still in the map or being closed.
  have hgrow : ∀ {record₀ : Nat} {r₀ r₁ : TaskRecord} {g' : TaskPhase} {f : Closing → Closing},
      p.shared.records[record₀]? = some r₀ → r₀.Grows r₁ → g'.closing = g.closing.map f →
      (∀ c, (f c).record = c.record) →
      RecordsHeld { p.shared with records := p.shared.records.set record₀ r₁ }
        ((taskPhases lib p).set i g') := by
    intro record₀ r₀ r₁ g' f hr₀ hgrows hnext hf record r hr
    rcases List.getElem?_set_cases hr with ⟨rfl, rfl⟩ | ⟨-, hr⟩
    · rcases h record₀ r₀ hr₀ with hmap | hclosing | ⟨hdone, hcanceled⟩
      · exact .inl (hgrows.id ▸ hmap)
      · exact .inr (.inl (closedBySome_map hi hnext hf hclosing))
      · exact .inr (.inr ⟨hgrows.done hdone, hgrows.canceled hcanceled⟩)
    · exact (h record r hr).imp_right (Or.imp_left (closedBySome_map hi hnext hf))
  have hload : ∀ (cancel : Bool) (c : Closing), (c.load cancel).record = c.record := by
    intro cancel c
    unfold Closing.load
    split <;> rfl
  have hclear : ∀ c : Closing, c.clear.record = c.record := by
    intro c
    unfold Closing.clear
    split <;> rfl
  cases heffect with
  | quiet hquiet service last =>
    exact g.of_quiet hquiet fun _ => hsame rfl
  | registered taskID =>
    intro record r hr
    rcases List.getElem?_concat_cases hr with ⟨-, hr⟩ | ⟨rfl, rfl⟩
    · -- The id is new, so the other records keep their place.
      have hne : r.id ≠ taskID :=
        (((ids_owned hreach).at hi taskID .inserted hallowed.1).2.2.1 (.inr rfl)).2 r
          (List.mem_of_getElem? hr)
      have hheld : RecordsHeld p.shared ((taskPhases lib p).set i
          (g.next ⟨.setTaskRuntime taskID, p.shared.records.length, ()⟩)) := hsame rfl
      refine (hheld record r hr).imp_left fun hmap => ?_
      change (p.shared.tasks.insert taskID _).lookup r.id = _
      rw [AList.lookup_insert_ite, if_neg hne]
      exact hmap
    · exact .inl (AList.lookup_insert _)
  | taken taskID =>
    intro record r hr
    obtain ⟨-, hnone⟩ := hallowed
    by_cases hid : r.id = taskID ∧ p.shared.tasks.lookup taskID = some record
    · -- The call took this record.
      refine .inr (.inl ⟨_, List.mem_of_getElem? (List.getElem?_set_of_some hi), ⟨taskID, record, .taken⟩,
        ?_, rfl⟩)
      simp only [TaskPhase.next, hid.2, Option.map_some]
    · rcases h record r hr with hmap | hclosing | hdone
      · refine .inl ?_
        change (p.shared.tasks.erase taskID).lookup r.id = _
        rw [AList.lookup_erase_ite, if_neg fun heq => hid ⟨heq, heq ▸ hmap⟩]
        exact hmap
      · refine .inr (.inl (exists_phase_set hi ?_ hclosing))
        rintro ⟨c, hc, -⟩
        cases hnone.symm.trans hc
      · exact .inr (.inr hdone)
  | loaded hr =>
    intro record r hr
    exact (h record r hr).imp_right (Or.imp_left (closedBySome_map hi rfl (hload _)))
  | cleared hr =>
    have honce := howned.base.2 _ (List.mem_of_getElem? hr)
    exact hgrow hr ⟨rfl, fun h => h, fun h => h, honce⟩ rfl hclear
  | cancelledBefore hr honce | panicked record =>
    intro record r hr
    exact (h record r hr).imp_right (Or.imp_left (closedBySome_map hi rfl fun _ => rfl))
  | cancelled hr =>
    have honce := howned.base.2 _ (List.mem_of_getElem? hr)
    exact hgrow hr ⟨rfl, fun _ => rfl, fun h => h, fun _ => rfl, honce.2⟩ rfl fun _ => rfl
  | @closed record₀ r₀ hr₀ =>
    have honce := howned.base.2 r₀ (List.mem_of_getElem? hr₀)
    obtain ⟨id, hc⟩ := hallowed
    intro record r hr
    rcases List.getElem?_set_cases hr with ⟨rfl, rfl⟩ | ⟨hne, hr⟩
    · -- It was cancelled before it is closed.
      refine .inr (.inr ⟨TaskRecord.done_close honce.2, (r₀.grows_close honce.1 honce.2).canceled ?_⟩)
      rcases hc with hc | hc
      · obtain ⟨-, x, hx, -, hcanceled⟩ := howned.at hi _ hc
        exact Option.mem_unique hr₀ hx ▸ hcanceled
      · obtain ⟨-, x, -, -, hskipped⟩ := howned.at hi _ hc
        exact hskipped.elim
    · refine (h record r hr).imp_right (Or.imp_left fun hclosing => exists_phase_set hi ?_ hclosing)
      rintro ⟨c, hc', hrecord⟩
      rcases hc with hc | hc
      · exact absurd ((congrArg Closing.record (Option.mem_unique hc hc')).trans hrecord) hne
      · exact absurd ((congrArg Closing.record (Option.mem_unique hc hc')).trans hrecord) hne
  | _ => exact hsame rfl

end Onlyboxes.Console
