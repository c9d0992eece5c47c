import Onlyboxes.Spec.TaskSteps

/-!
# Who owns a task id, a request and a goroutine

Facts of every run of the console that the results on tasks rest on. The id of a task
belongs to the submission that drew it: until it inserts the row there is none, until it
registers the record there is none, and until it launches the goroutine there is none. A
reserved request belongs to one submission, and a goroutine to one execution.

## Key results

- `ids_owned`: task ids and their submissions
- `requests_owned`: reserved requests and their submissions
- `goroutines_owned`: goroutines and their executions
-/

namespace Onlyboxes.Console

open Text ThreadSystem TaskPhase TaskRows AList

variable {lib : TaskLib} {ok : TaskPool → TaskAction → Prop} {p : TaskPool}

/-! ## Task ids -/

/-- Everything that names a task names an id that was drawn, and no goroutine was launched
    twice for one. -/
def IDsDrawn (s : TaskState) : Prop :=
  (∀ id ∈ s.issued, trimSpace id = id ∧ id ≠ "") ∧
  (∀ id row, s.rows.lookup id = some row → id ∈ s.issued) ∧
  (∀ id record, s.tasks.lookup id = some record → id ∈ s.issued) ∧
  (∀ r ∈ s.records, r.id ∈ s.issued) ∧
  (∀ a ∈ s.goroutines, a.taskID ∈ s.issued) ∧
  (s.goroutines.map (·.taskID)).Nodup

/-- How far the task of the id that a submission drew is set up. -/
def OwnsID (s : TaskState) (g : TaskPhase) : Prop :=
  ∀ id stage, g.own = some (id, stage) → id ∈ s.issued ∧
    (stage = .fresh → s.rows.lookup id = none) ∧
    (stage = .fresh ∨ stage = .inserted → s.tasks.lookup id = none ∧ ∀ r ∈ s.records, r.id ≠ id) ∧
    (stage ≠ .launched → ∀ a ∈ s.goroutines, a.taskID ≠ id)

/-- Two submissions drew different ids. -/
def OwnApart (g g' : TaskPhase) : Prop :=
  ∀ id stage stage', g.own = some (id, stage) → g'.own ≠ some (id, stage')

variable {g' : TaskPhase}

theorem OwnApart.symm {g : TaskPhase} (h : OwnApart g g') : OwnApart g' g :=
  fun id stage stage' hg' hg => h id stage' stage hg hg'

variable {record : Nat} {r' : TaskRecord}

/-- The ids of records stay the same. -/
theorem record_id_of_mem_set {records : List TaskRecord} {r : TaskRecord}
    (hr : records[record]? = some r) (hid : r'.id = r.id) {x : TaskRecord}
    (hx : x ∈ records.set record r') : ∃ y ∈ records, x.id = y.id := by
  rcases List.mem_or_eq_of_mem_set hx with hx | rfl
  · exact ⟨x, hx, rfl⟩
  · exact ⟨r, List.mem_of_getElem? hr, hid⟩

theorem TaskRecord.close_id (r : TaskRecord) : r.close.id = r.id := by
  unfold TaskRecord.close
  split
  · rfl
  · rfl

section IDs

variable {s : TaskState} {gs : List TaskPhase} {i : Nat} {g : TaskPhase} {rows : TaskRows}

/-- The rows changed, and no row came in. -/
theorem IDsDrawn.within (h : IDsDrawn s) (hrows : s.rows.Within rows) :
    IDsDrawn { s with rows := rows } := by
  obtain ⟨htrim, hissued, hrest⟩ := h
  refine ⟨htrim, fun id row hrow => ?_, hrest⟩
  obtain ⟨row₀, hrow₀, -⟩ := hrows id row hrow
  exact hissued id row₀ hrow₀

theorem OwnsID.within (h : OwnsID s g) (hrows : s.rows.Within rows) :
    OwnsID { s with rows := rows } g := by
  intro id stage hstage
  obtain ⟨hissued, hfresh, hrest⟩ := h id stage hstage
  exact ⟨hissued, fun h => hrows.lookup_eq_none (hfresh h), hrest⟩

/-- A record changed, and none came in. -/
theorem IDsDrawn.records (h : IDsDrawn s) {r : TaskRecord} (hr : s.records[record]? = some r)
    (hid : r'.id = r.id) :
    IDsDrawn { s with records := s.records.set record r' } := by
  obtain ⟨htrim, hissued, htasks, hrecords, hrest⟩ := h
  refine ⟨htrim, hissued, htasks, fun x hx => ?_, hrest⟩
  obtain ⟨y, hy, heq⟩ := record_id_of_mem_set hr hid hx
  exact heq ▸ hrecords y hy

theorem OwnsID.records (h : OwnsID s g) {r : TaskRecord} (hr : s.records[record]? = some r)
    (hid : r'.id = r.id) :
    OwnsID { s with records := s.records.set record r' } g := by
  intro id stage hstage
  obtain ⟨hissued, hfresh, hearly, hrest⟩ := h id stage hstage
  refine ⟨hissued, hfresh, fun h => ⟨(hearly h).1, fun x hx => ?_⟩, hrest⟩
  obtain ⟨y, hy, heq⟩ := record_id_of_mem_set hr hid hx
  exact heq ▸ (hearly h).2 y hy

/-- A record was taken out of the map. -/
theorem IDsDrawn.taken (h : IDsDrawn s) (id : String) :
    IDsDrawn { s with tasks := s.tasks.erase id } := by
  obtain ⟨htrim, hissued, htasks, hrest⟩ := h
  exact ⟨htrim, hissued,
    fun id' record hrecord => htasks id' record (lookup_of_erase hrecord).2, hrest⟩

theorem OwnsID.taken (h : OwnsID s g) (id : String) :
    OwnsID { s with tasks := s.tasks.erase id } g := by
  intro id' stage hstage
  obtain ⟨hissued, hfresh, hearly, hrest⟩ := h id' stage hstage
  refine ⟨hissued, hfresh, fun h => ⟨?_, (hearly h).2⟩, hrest⟩
  rw [lookup_erase_ite]
  split
  · rfl
  · exact (hearly h).1

variable {id : String}

section

variable (h : Locally IDsDrawn OwnsID OwnApart s gs)

include h

/-- A new id belongs to nobody. -/
theorem ids_drawn (hi : gs[i]? = some g) (hfresh : id ∉ s.issued) (htrim : trimSpace id = id)
    (hne : id ≠ "") :
    Locally IDsDrawn OwnsID OwnApart { s with issued := id :: s.issued }
      (gs.set i { g with own := some (id, .fresh) }) := by
  obtain ⟨htrims, hrows, htasks, hrecords, hgoroutines, hnodup⟩ := h.base
  refine h.set hi ⟨?_, ?_, ?_, ?_, ?_, hnodup⟩ ?_ fun g₂ h₂ _ _ => ⟨?_, ?_, ?_⟩
  · intro x hx
    rcases List.mem_cons.mp hx with rfl | hx
    · exact ⟨htrim, hne⟩
    · exact htrims x hx
  · exact fun id row hrow => List.mem_cons_of_mem _ (hrows id row hrow)
  · exact fun id record hrecord => List.mem_cons_of_mem _ (htasks id record hrecord)
  · exact fun r hr => List.mem_cons_of_mem _ (hrecords r hr)
  · exact fun a ha => List.mem_cons_of_mem _ (hgoroutines a ha)
  · intro id' stage hstage
    cases hstage
    refine ⟨List.mem_cons_self, fun _ => ?_, fun _ => ⟨?_, fun r hr heq => ?_⟩, fun _ a ha heq => ?_⟩
    · exact Option.eq_none_iff_forall_ne_some.mpr fun row hrow => hfresh (hrows id row hrow)
    · exact Option.eq_none_iff_forall_ne_some.mpr fun record h => hfresh (htasks id record h)
    · exact hfresh (heq ▸ hrecords r hr)
    · exact hfresh (heq ▸ hgoroutines a ha)
  · intro id' stage hstage
    obtain ⟨hissued, hrest⟩ := h₂ id' stage hstage
    exact ⟨List.mem_cons_of_mem _ hissued, hrest⟩
  · intro id' stage stage' hstage hstage'
    cases hstage
    exact hfresh (h₂ id stage' hstage').1
  · intro id' stage stage' hstage hstage'
    cases hstage'
    exact hfresh (h₂ id stage hstage).1

omit h in
/-- Moving on to another stage keeps two submissions apart. -/
theorem OwnApart.restage {g g₂ : TaskPhase} {stage stage' : OwnStage} (h : OwnApart g g₂)
    (hown : g.own = some (id, stage)) (hown' : g'.own = some (id, stage')) :
    OwnApart g' g₂ := by
  intro id' st st' hst hst'
  obtain ⟨rfl, rfl⟩ := Prod.mk.inj (Option.mem_unique hown' hst)
  exact h id stage st' hown hst'

/-- The owner of an id inserts the row. -/
theorem ids_inserted (hi : gs[i]? = some g) (hown : g.own = some (id, .fresh)) {row : TaskRow}
    {fault : StoreFault} (hinsert : s.rows.insertTask id row fault = .ok rows) :
    Locally IDsDrawn OwnsID OwnApart { s with rows := rows }
      (gs.set i { g with own := some (id, .inserted), target := some id }) := by
  obtain ⟨htrims, hrows, hrest⟩ := h.base
  obtain ⟨-, rfl, -⟩ := insertTask_eq_ok hinsert
  obtain ⟨hissued, -, hearly, hlaunch⟩ := h.at hi id .fresh hown
  refine h.set hi ⟨htrims, fun id' row' hrow' => ?_, hrest⟩ ?_ fun g₂ h₂ hd hd' => ⟨?_, ?_, ?_⟩
  · rcases lookup_insert_cases hrow' with ⟨rfl, -⟩ | ⟨-, hrow'⟩
    · exact hissued
    · exact hrows id' row' hrow'
  · intro id' stage hstage
    cases hstage
    exact ⟨hissued, nofun, fun _ => hearly (.inl rfl), fun _ => hlaunch nofun⟩
  · intro id₂ stage hstage
    obtain ⟨hissued₂, hfresh₂, hrest₂⟩ := h₂ id₂ stage hstage
    refine ⟨hissued₂, fun hstage' => ?_, hrest₂⟩
    have hne : id₂ ≠ id := fun heq => hd id .fresh stage hown (heq ▸ hstage)
    rw [lookup_insert_ite, if_neg hne]
    exact hfresh₂ hstage'
  · exact hd.restage hown rfl
  · exact (hd.restage hown rfl).symm

/-- The owner of an id registers the record. -/
theorem ids_registered (hi : gs[i]? = some g) (hown : g.own = some (id, .inserted))
    (hown' : g'.own = some (id, .registered)) :
    Locally IDsDrawn OwnsID OwnApart
      { s with
        tasks := s.tasks.insert id s.records.length
        records := s.records ++ [{ id := id }] }
      (gs.set i g') := by
  obtain ⟨htrims, hrows, htasks, hrecords, hrest⟩ := h.base
  obtain ⟨hissued, -, -, hlaunch⟩ := h.at hi id .inserted hown
  refine h.set hi ⟨htrims, hrows, fun id' record hrecord => ?_,
    List.forall_mem_concat hrecords hissued, hrest⟩ ?_
    fun g₂ h₂ hd hd' => ⟨?_, hd.restage hown hown', (hd.restage hown hown').symm⟩
  · rcases lookup_insert_cases hrecord with ⟨rfl, -⟩ | ⟨-, hrecord⟩
    · exact hissued
    · exact htasks id' record hrecord
  · intro id' stage hstage
    obtain ⟨rfl, rfl⟩ := Prod.mk.inj (Option.mem_unique hown' hstage)
    exact ⟨hissued, nofun, nofun, fun _ => hlaunch nofun⟩
  · intro id₂ stage hstage
    obtain ⟨hissued₂, hfresh₂, hearly₂, hlaunch₂⟩ := h₂ id₂ stage hstage
    have hne : id₂ ≠ id := fun heq => hd id .inserted stage hown (heq ▸ hstage)
    refine ⟨hissued₂, hfresh₂, fun hstage' =>
      ⟨?_, List.forall_mem_concat (hearly₂ hstage').2 (Ne.symm hne)⟩, hlaunch₂⟩
    rw [lookup_insert_ite, if_neg hne]
    exact (hearly₂ hstage').1

/-- The owner of an id launches the goroutine. -/
theorem ids_launched (hi : gs[i]? = some g) {args : ExecuteTaskArgs}
    (hown : g.own = some (args.taskID, .registered)) :
    Locally IDsDrawn OwnsID OwnApart { s with goroutines := s.goroutines ++ [args] }
      (gs.set i { g with own := some (args.taskID, .launched) }) := by
  obtain ⟨htrims, hrows, htasks, hrecords, hgoroutines, hnodup⟩ := h.base
  obtain ⟨hissued, -, -, hlaunch⟩ := h.at hi _ .registered hown
  refine h.set hi ⟨htrims, hrows, htasks, hrecords, List.forall_mem_concat hgoroutines hissued, ?_⟩
    ?_ fun g₂ h₂ hd hd' => ⟨?_, hd.restage hown rfl, (hd.restage hown rfl).symm⟩
  · rw [List.map_append, List.map_singleton, List.nodup_append]
    refine ⟨hnodup, List.nodup_singleton _, fun x hx y hy => ?_⟩
    obtain ⟨a, ha, rfl⟩ := List.mem_map.mp hx
    obtain rfl := List.mem_singleton.mp hy
    exact hlaunch nofun a ha
  · intro id' stage hstage
    cases hstage
    exact ⟨hissued, nofun, nofun, fun h => absurd rfl h⟩
  · intro id₂ stage hstage
    obtain ⟨hissued₂, hfresh₂, hearly₂, hlaunch₂⟩ := h₂ id₂ stage hstage
    exact ⟨hissued₂, hfresh₂, hearly₂, fun hstage' => List.forall_mem_concat (hlaunch₂ hstage')
      fun heq => hd _ .registered stage hown (heq ▸ hstage)⟩

end

end IDs

section

variable (h : (taskMachine lib).ReachableWhere ok p)

include h

/-- Task ids and the submissions that drew them. -/
theorem ids_owned :
    Locally IDsDrawn OwnsID OwnApart p.shared (taskPhases lib p) := by
  refine task_local ?_ ?_ ?_ ?_ ?_ ?_ h
  · rintro s ⟨service, clock, -, rfl⟩
    exact ⟨nofun, nofun, nofun, nofun, nofun, List.nodup_nil⟩
  · exact nofun
  · exact fun _ _ => ⟨nofun, nofun⟩
  · intro p i ans g o s' r _ _ h hi _ hallowed _ heffect
    have hsame : ∀ {s' : TaskState} {g' : TaskPhase}, IDsDrawn s' →
        (∀ g, OwnsID p.shared g → OwnsID s' g) → g'.own = g.own →
        Locally IDsDrawn OwnsID OwnApart s' ((taskPhases lib p).set i g') := by
      intro s' g' hbase hlocal hown
      refine h.step hi hbase hlocal (fun h id stage hstage => h id stage (hown ▸ hstage))
        fun g₂ hd hd' => ⟨fun id st st' hst => hd id st st' (hown ▸ hst),
          fun id st st' hst hst' => hd' id st st' hst (hown ▸ hst')⟩
    cases heffect with
    | quiet hquiet service last =>
      exact g.of_quiet hquiet fun _ => hsame h.base (fun _ h => h) rfl
    | drawn hfresh htrim hne => exact ids_drawn h hi hfresh htrim hne
    | inserted hinsert => exact ids_inserted h hi hallowed.1 hinsert
    | pruned hrows =>
      have hwithin := within_deleteExpired hrows
      exact hsame (h.base.within hwithin) (fun _ h => h.within hwithin) rfl
    | dispatched hrows | running hrows | terminal hrows =>
      have hwithin := within_updateNonTerminal hrows fun _ => ⟨rfl, rfl⟩
      exact hsame (h.base.within hwithin) (fun _ h => h.within hwithin) rfl
    | registered taskID => exact ids_registered h hi hallowed.1 rfl
    | taken taskID => exact hsame (h.base.taken taskID) (fun _ h => h.taken taskID) rfl
    | cleared hr | cancelled hr =>
      exact hsame (h.base.records hr rfl) (fun _ h => h.records hr rfl) rfl
    | closed hr =>
      exact hsame (h.base.records hr (TaskRecord.close_id _))
        (fun _ h => h.records hr (TaskRecord.close_id _)) rfl
    | launched args => exact ids_launched h hi hallowed
    | _ => exact hsame h.base (fun _ h => h) rfl
  · exact fun s service now _ hbase => ⟨hbase, fun _ h => h⟩
  · rintro s now service - ⟨htrims, hrows, htasks, hrecords, hrest⟩
    refine ⟨htrims, fun id row hrow => ?_, nofun, nofun, hrest⟩
    obtain ⟨row₀, hrow₀, -⟩ := within_startup s.rows now lib.taskRetentionMs id row hrow
    exact hrows id row₀ hrow₀

/-! ## Rows and requests -/

/-- The reservation a submission holds is in the map. -/
def HoldsRequest (s : TaskState) (g : TaskPhase) : Prop :=
  ∀ requestKey, g.key = some requestKey →
    s.taskRequestReservations.lookup requestKey = some ()

/-- Two submissions hold different reservations. -/
def RequestApart (g g' : TaskPhase) : Prop :=
  ∀ requestKey, g.key = some requestKey → g'.key ≠ some requestKey

/-- Reserved requests and the submissions that reserved them. -/
theorem requests_owned :
    Locally (fun _ => True) HoldsRequest RequestApart p.shared (taskPhases lib p) := by
  refine task_local (fun _ _ => trivial) (fun _ _ _ _ h => nomatch h)
    (fun _ _ => ⟨nofun, nofun⟩) ?_
    (fun _ _ _ _ _ => ⟨trivial, fun _ h => h⟩) (fun _ _ _ _ _ => trivial) h
  intro p i ans g o s' r _ _ h hi _ hallowed _ heffect
  cases heffect with
  | quiet hquiet service last =>
    refine g.of_quiet hquiet fun _ => ?_
    exact h.step hi trivial (fun _ h => h) (fun h => h) fun _ hd hd' => ⟨hd, hd'⟩
  | @reserved requestKey hfree =>
    refine h.set hi trivial ?_ fun g₂ h₂ _ _ => ⟨?_, ?_, ?_⟩
    · rintro k ⟨⟩
      exact lookup_insert _
    · intro k hk
      change AList.lookup k (AList.insert _ _ _) = _
      rw [lookup_insert_ite]
      split
      · rfl
      · exact h₂ k hk
    · rintro k ⟨⟩ hk
      nomatch hfree.symm.trans (h₂ requestKey hk)
    · rintro k hk ⟨⟩
      nomatch hfree.symm.trans (h₂ requestKey hk)
  | released requestKey =>
    refine h.set hi trivial nofun fun g₂ h₂ hd _ => ⟨?_, nofun, nofun⟩
    intro k hk
    have hne : k ≠ requestKey := fun heq => hd requestKey hallowed.1 (heq ▸ hk)
    change AList.lookup k (AList.erase _ _) = _
    rw [lookup_erase_ite, if_neg hne]
    exact h₂ k hk
  | _ => exact h.step hi trivial (fun _ h => h) (fun h => h) fun _ hd hd' => ⟨hd, hd'⟩

/-! ## Goroutines -/

/-- No goroutine began twice. -/
def GoroutinesBegin (s : TaskState) : Prop :=
  s.started.Nodup ∧ ∀ n ∈ s.started, n < s.goroutines.length

/-- An execution runs the goroutine it began. -/
def RunsGoroutine (s : TaskState) (g : TaskPhase) : Prop :=
  ∀ id, g.executing = some id → ∃ n args, g.call = .execute n ∧ n ∈ s.started ∧
    s.goroutines[n]? = some args ∧ args.taskID = id

/-- Two executions run different goroutines. -/
def GoroutineApart (g g' : TaskPhase) : Prop :=
  g.executing.isSome → g'.executing.isSome → g.call ≠ g'.call

/-- Goroutines and their executions. -/
theorem goroutines_owned :
    Locally GoroutinesBegin RunsGoroutine GoroutineApart p.shared (taskPhases lib p) := by
  refine task_local ?_ (fun _ _ _ _ h => nomatch h)
    (fun _ _ => ⟨nofun, nofun⟩) ?_
    (fun _ _ _ _ hbase => ⟨hbase, fun _ h => h⟩)
    (fun _ _ _ _ hbase => hbase) h
  · rintro s ⟨service, clock, -, rfl⟩
    exact ⟨List.nodup_nil, nofun⟩
  intro p i ans g o s' r _ _ h hi _ hallowed _ heffect
  cases heffect with
  | quiet hquiet service last =>
    refine g.of_quiet hquiet fun _ => ?_
    exact h.step hi h.base (fun _ h => h) (fun h => h) fun _ hd hd' => ⟨hd, hd'⟩
  | launched args =>
    refine h.step hi ⟨h.base.1, fun n hn => ?_⟩ ?_ (fun h => h) fun _ hd hd' => ⟨hd, hd'⟩
    · rw [List.length_append]
      exact Nat.lt_add_right _ (h.base.2 n hn)
    · intro g₂ h₂ id hid
      obtain ⟨n, args₂, hcall, hstarted, hargs, hid⟩ := h₂ id hid
      refine ⟨n, args₂, hcall, hstarted, ?_, hid⟩
      rw [List.getElem?_append_left (h.base.2 n hstarted)]
      exact hargs
  | @began n args hnew hargs =>
    have hcall : g.call = .execute n := congrArg TaskPhase.call hallowed
    have hfresh : ∀ g₂, RunsGoroutine p.shared g₂ → g₂.executing.isSome → g₂.call ≠ .execute n := by
      intro g₂ h₂ hsome hcall
      obtain ⟨id, hid⟩ := Option.isSome_iff_exists.mp hsome
      obtain ⟨n', _, hcall', hstarted, -⟩ := h₂ id hid
      obtain rfl := TaskCall.execute.inj (hcall.symm.trans hcall')
      exact hnew hstarted
    refine h.set hi ⟨List.nodup_cons.mpr ⟨hnew, h.base.1⟩, fun m hm => ?_⟩ ?_
      fun g₂ h₂ _ _ => ⟨?_, ?_, ?_⟩
    · rcases List.mem_cons.mp hm with rfl | hm
      · exact (List.getElem?_eq_some_iff.mp hargs).1
      · exact h.base.2 m hm
    · rintro id ⟨⟩
      exact ⟨n, args, hcall, List.mem_cons_self, hargs, rfl⟩
    · intro id hid
      obtain ⟨n', args', hcall, hstarted, hrest⟩ := h₂ id hid
      exact ⟨n', args', hcall, List.mem_cons_of_mem _ hstarted, hrest⟩
    · exact fun _ hsome heq => hfresh g₂ h₂ hsome (heq.symm.trans hcall)
    · exact fun hsome _ heq => hfresh g₂ h₂ hsome (heq.trans hcall)
  | _ => exact h.step hi h.base (fun _ h => h) (fun h => h) fun _ hd hd' => ⟨hd, hd'⟩

end

variable {id : String}

/-- The tasks a call is about, apart from the id it drew. -/
def TaskPhase.names (g : TaskPhase) : List String :=
  g.target.toList ++ g.executing.toList ++ g.known.toList ++ g.owes.toList ++
    (g.written.map Prod.fst).toList ++ (g.closing.map Closing.taskID).toList

variable {g : TaskPhase}

theorem TaskPhase.mem_names :
    id ∈ g.names ↔ g.target = some id ∨ g.executing = some id ∨ g.known = some id ∨
      g.owes = some id ∨ g.written.map Prod.fst = some id ∨
      g.closing.map Closing.taskID = some id := by
  simp only [TaskPhase.names, List.mem_append, Option.mem_toList, or_assoc]

/-- A call is about tasks whose id was drawn and is not its own new one. -/
def NamesUsed (s : TaskState) (g : TaskPhase) : Prop :=
  ∀ id ∈ g.names, id ∈ s.issued ∧ g.own ≠ some (id, .fresh)

/-- Nor is it the new id of another call. -/
def NamesApart (g g' : TaskPhase) : Prop := ∀ id ∈ g.names, g'.own ≠ some (id, .fresh)

theorem Closing.load_taskID (cancel : Bool) (c : Closing) : (c.load cancel).taskID = c.taskID := by
  unfold Closing.load
  split <;> rfl

theorem Closing.clear_taskID (c : Closing) : c.clear.taskID = c.taskID := by
  unfold Closing.clear
  split <;> rfl

variable {s s' : TaskState} {o : TaskOp} {r : o.Res}

/-- Where a call gets the tasks it is about from: rows, goroutines, and its own insertion. -/
theorem names_next (htrim : ∀ id ∈ g.names, trimSpace id = id) (hallowed : g.Allowed lib o)
    (heffect : TaskEffect s o r s') (hid : id ∈ (g.next ⟨o, r, ()⟩).names) :
    id ∈ g.names ∨ (∃ row, s.rows.lookup id = some row) ∨ (∃ a ∈ s.goroutines, a.taskID = id) ∨
      g.own = some (id, .fresh) ∧ (g.next ⟨o, r, ()⟩).own = some (id, .inserted) := by
  have hold : _ → id ∈ g.names := mem_names.mpr
  cases heffect with
  | quiet hquiet service last =>
    exact .inl (g.of_quiet hquiet (fun _ h => h) hid)
  | @inserted taskID row rows fault hinsert =>
    rcases mem_names.mp hid with h | h
    · cases h
      exact .inr (.inr (.inr ⟨hallowed.1, rfl⟩))
    · exact .inl (hold (.inr h))
  | @read taskID found hfound =>
    rcases mem_names.mp hid with h | h
    · cases found with
      | none => exact .inl (hold (.inl h))
      | some row =>
        cases h
        exact .inr (.inl ⟨row, hfound row rfl⟩)
    · exact .inl (hold (.inr h))
  | @found ownerID requestID found hfound =>
    rcases mem_names.mp hid with h | h
    · cases found with
      | none => exact .inl (hold (.inl h))
      | some task =>
        cases h
        exact .inr (.inl ⟨task.2, (hfound task.1 task.2 rfl).1⟩)
    · exact .inl (hold (.inr h))
  | @terminal taskID params rows result fault hrows =>
    -- The id of the write is the trimmed id of a row that was found, or is being executed.
    have htask : taskID ∈ g.names := by
      obtain ⟨id₀, hid₀, heq⟩ := hallowed.1
      have hmem : id₀ ∈ g.names := mem_names.mpr (hid₀.imp_right .inl)
      rw [heq, htrim id₀ hmem]
      exact hmem
    rcases mem_names.mp hid with h | h | h | h | h | h
    · exact .inl (hold (.inl h))
    · exact .inl (hold (.inr (.inl h)))
    · exact .inl (Option.some.inj h ▸ htask)
    · exact .inl (Option.some.inj h ▸ htask)
    · exact .inl (Option.some.inj h ▸ htask)
    · exact .inl (hold (.inr (.inr (.inr (.inr (.inr h))))))
  | lookedUp taskID =>
    rcases mem_names.mp hid with h | h | h | h
    · exact .inl (hold (.inl h))
    · exact .inl (hold (.inr (.inl h)))
    · simp only [TaskPhase.next] at h
      split at h
      · rename_i hexec hnone
        cases h
        rcases hallowed with hexec' | ⟨-, htarget, -⟩
        · cases hexec.symm.trans hexec'
        · have hmem : taskID ∈ g.names := mem_names.mpr (.inl htarget)
          exact .inl ((htrim taskID hmem).symm ▸ hmem)
      · exact .inl (hold (.inr (.inr (.inl h))))
    · exact .inl (hold (.inr (.inr (.inr h))))
  | taken taskID =>
    rcases mem_names.mp hid with h | h | h | h | h | h
    · exact .inl (hold (.inl h))
    · exact .inl (hold (.inr (.inl h)))
    · exact .inl (hold (.inr (.inr (.inl h))))
    · cases h
    · exact .inl (hold (.inr (.inr (.inr (.inr (.inl h))))))
    · -- The record of the task whose end was written.
      have hmem : taskID ∈ g.names := mem_names.mpr (.inr (.inr (.inr (.inl hallowed.1))))
      revert h
      cases s.tasks.lookup taskID with
      | none => exact fun h => by cases h
      | some record => exact fun h => .inl (Option.some.inj h ▸ hmem)
  | loaded hr =>
    refine .inl ?_
    simp only [mem_names, TaskPhase.next, Option.map_map] at hid ⊢
    rwa [show Closing.taskID ∘ Closing.load _ = Closing.taskID from funext (Closing.load_taskID _)] at hid
  | cleared hr =>
    refine .inl ?_
    simp only [mem_names, TaskPhase.next, Option.map_map] at hid ⊢
    rwa [show Closing.taskID ∘ Closing.clear = Closing.taskID from funext Closing.clear_taskID] at hid
  | cancelledBefore | cancelled | panicked =>
    refine .inl ?_
    simp only [mem_names, TaskPhase.next, Option.map_map] at hid ⊢
    exact hid
  | closed hr =>
    have h := mem_names.mp hid
    simp only [TaskPhase.next, Option.map_none, reduceCtorEq, or_false] at h
    exact .inl (hold (by tauto))
  | @began n args hnew hargs =>
    rcases mem_names.mp hid with h | h | h
    · exact .inl (hold (.inl h))
    · cases h
      exact .inr (.inr (.inl ⟨args, List.mem_of_getElem? hargs, rfl⟩))
    · exact .inl (hold (.inr (.inr h)))
  | @woken record timer wake hwake =>
    rcases mem_names.mp hid with h | h | h | h
    · exact .inl (hold (.inl h))
    · exact .inl (hold (.inr (.inl h)))
    · cases wake with
      | done =>
        obtain ⟨id₀, htarget, rfl⟩ := Option.map_eq_some_iff.mp h
        have hmem : id₀ ∈ g.names := mem_names.mpr (.inl htarget)
        exact .inl ((htrim id₀ hmem).symm ▸ hmem)
      | _ => exact .inl (hold (.inr (.inr (.inl h))))
    · exact .inl (hold (.inr (.inr (.inr h))))
  | _ => exact .inl hid

/-- Drawn ids stay drawn. -/
theorem issued_of_effect (heffect : TaskEffect s o r s') (hid : id ∈ s.issued) :
    id ∈ s'.issued := by
  cases heffect with
  | drawn => exact List.mem_cons_of_mem _ hid
  | _ => exact hid

/-- A call has a new id only by drawing one. -/
theorem own_fresh_next (heffect : TaskEffect s o r s')
    (hown : (g.next ⟨o, r, ()⟩).own = some (id, .fresh)) :
    g.own = some (id, .fresh) ∨ id ∉ s.issued := by
  cases heffect with
  | quiet hquiet service last =>
    exact .inl (g.of_quiet hquiet (fun _ h => h) hown)
  | drawn hfresh =>
    cases hown
    exact .inr hfresh
  | inserted | registered | launched => nomatch hown
  | _ => exact .inl hown

/-- Calls are about tasks that were inserted. -/
theorem names_used (h : (taskMachine lib).ReachableWhere ok p) :
    Locally (fun _ => True) NamesUsed NamesApart p.shared (taskPhases lib p) := by
  refine task_local (fun _ _ => trivial) (fun _ _ _ _ h => nomatch h)
    (fun _ _ => ⟨nofun, nofun⟩) ?_
    (fun _ _ _ _ _ => ⟨trivial, fun _ h => h⟩) (fun _ _ _ _ _ => trivial) h
  intro p i ans g o s' r hreach _ h hi _ hallowed _ heffect
  have hids := ids_owned hreach
  obtain ⟨htrim, hrows, -, -, hgoroutines, -⟩ := hids.base
  have hused := h.at hi
  -- What has a row or a goroutine is nobody's new id.
  have hrow : ∀ {g₂ : TaskPhase} {id row}, OwnsID p.shared g₂ → p.shared.rows.lookup id = some row →
      g₂.own ≠ some (id, .fresh) :=
    fun h₂ hrow hown => nomatch ((h₂ _ _ hown).2.1 rfl).symm.trans hrow
  have hgoroutine : ∀ {g₂ : TaskPhase} {id}, OwnsID p.shared g₂ →
      (∃ a ∈ p.shared.goroutines, a.taskID = id) → g₂.own ≠ some (id, .fresh) := by
    rintro g₂ id h₂ ⟨a, ha, hid⟩ hown
    exact (h₂ _ _ hown).2.2.2 nofun a ha hid
  have hnames : ∀ {id}, id ∈ (g.next ⟨o, r, ()⟩).names → id ∈ g.names ∨
      (∃ row, p.shared.rows.lookup id = some row) ∨ (∃ a ∈ p.shared.goroutines, a.taskID = id) ∨
      g.own = some (id, .fresh) ∧ (g.next ⟨o, r, ()⟩).own = some (id, .inserted) :=
    names_next (fun id hid => (htrim id (hused id hid).1).1) hallowed heffect
  refine h.setAt hi trivial ?_ fun j g₂ hij hj h₂ hd hd' => ⟨?_, ?_, ?_⟩
  · intro id hid
    have hissued : id ∈ p.shared.issued := by
      rcases hnames hid with hmem | ⟨row, hid⟩ | ⟨a, ha, rfl⟩ | ⟨hown, -⟩
      · exact (hused id hmem).1
      · exact hrows id row hid
      · exact hgoroutines a ha
      · exact (hids.at hi id _ hown).1
    refine ⟨issued_of_effect heffect hissued, fun hown' => ?_⟩
    rcases own_fresh_next heffect hown' with hown | hnew
    · rcases hnames hid with hmem | ⟨row, hid⟩ | hid | ⟨-, hinserted⟩
      · exact (hused id hmem).2 hown
      · exact hrow (hids.at hi) hid hown
      · exact hgoroutine (hids.at hi) hid hown
      · nomatch (Prod.mk.inj (Option.mem_unique hinserted hown')).2
    · exact hnew hissued
  · exact fun id hid => ⟨issued_of_effect heffect (h₂ id hid).1, (h₂ id hid).2⟩
  · intro id hid
    rcases hnames hid with hmem | ⟨row, hid⟩ | hid | ⟨hown, -⟩
    · exact hd id hmem
    · exact hrow (hids.at hj) hid
    · exact hgoroutine (hids.at hj) hid
    · exact hids.separate i j g g₂ hij hi hj id _ _ hown
  · intro id hid hown'
    rcases own_fresh_next heffect hown' with hown | hnew
    · exact hd' id hid hown
    · exact hnew (h₂ id hid).1

/-- A task that a call is about has a trimmed id. -/
theorem trimSpace_of_mem_names (h : (taskMachine lib).ReachableWhere ok p) {i : Nat}
    (hi : (taskPhases lib p)[i]? = some g) (hid : id ∈ g.names) :
    trimSpace id = id :=
  ((ids_owned h).base.1 id ((names_used h).at hi id hid).1).1

/-! ## Tasks that are over -/

/-- The row of the task is terminal or gone. -/
def Over (s : TaskState) (id : String) : Prop :=
  ∀ row, s.rows.lookup id = some row → isTaskTerminal row.status = true

/-- A task that is over stays so, unless its row is only now inserted. -/
theorem Over.effect (h : Over s id) (hallowed : g.Allowed lib o) (heffect : TaskEffect s o r s')
    (hown : g.own ≠ some (id, .fresh)) : Over s' id := by
  intro row' hrow'
  obtain ⟨hmove, hnone⟩ := rowMove_of_effect hallowed heffect id
  cases hrow : s.rows.lookup id with
  | none => nomatch (hnone hown hrow).symm.trans hrow'
  | some row =>
    rw [hrow] at hmove
    rcases hmove.terminal (h row hrow) with hsame | hgone
    · exact Option.mem_unique hrow' hsame ▸ h row hrow
    · nomatch hgone.symm.trans hrow'

/-- A task that a call is about stays over. -/
theorem Over.named (hreach : (taskMachine lib).ReachableWhere ok p) {i j : Nat} {g g₂ : TaskPhase}
    (hi : (taskPhases lib p)[i]? = some g) (hj : (taskPhases lib p)[j]? = some g₂) {s' : TaskState}
    (hallowed : g.Allowed lib o) (heffect : TaskEffect p.shared o r s') (hmem : id ∈ g₂.names)
    (h : Over p.shared id) : Over s' id := by
  have hused := names_used hreach
  refine h.effect hallowed heffect ?_
  by_cases hij : j = i
  · obtain rfl := hij
    obtain rfl := Option.mem_unique hi hj
    exact (hused.at hi id hmem).2
  · exact hused.separate j i g₂ g hij hj hi id hmem

end Onlyboxes.Console
