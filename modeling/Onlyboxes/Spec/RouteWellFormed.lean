import Onlyboxes.Spec.RouteOps

/-!
# Well-formedness of the route table

The two maps of the route table describe one relation between sessions and nodes,
and the fields of a route agree with each other. Both are invariants of every
sequence of operations, proved once per atomic change of the table.

## Key results

- `WellFormed.changes`: every change keeps the table well-formed
- `wellFormed_of_started`: the console starts well-formed
- `route_table_well_formed`: every reachable table is well-formed, and reservation
  ids identify incarnations
-/

namespace Onlyboxes.Console

namespace RouteState

open Text

/-- The index is the inverse image of the route map, without empty sets. -/
structure IndexOK (s : RouteState) : Prop where
  mem_iff : ∀ n k, k ∈ s.indexed n ↔ ∃ r, s.route k = some r ∧ r.nodeID = n
  nonempty : ∀ n index, s.terminalNodeToSessionIDIndex.lookup n = some index → index.keys ≠ []

/-- The fields of a route agree with each other. -/
structure RouteOK (k : String) (r : TerminalSessionRoute) : Prop where
  key : trimSpace k = k ∧ k ≠ ""
  node : trimSpace r.nodeID = r.nodeID ∧ r.nodeID ≠ ""
  provisional : r.reservationID ≠ 0 → r.leaseExpiresUnixMs = 0 ∧ 1 ≤ r.provisionalUses ∧
    r.confirmedReservationID = 0 ∧ r.recoveryState = .ready
  confirmed : r.reservationID = 0 → r.provisionalUses = 0

/-- A table whose maps agree and whose routes are consistent. -/
structure WellFormed (s : RouteState) : Prop extends IndexOK s where
  routes : ∀ k r, s.route k = some r → RouteOK k r

/-! ## Primitive updates -/

variable {s : RouteState} {k : String} {r r' : TerminalSessionRoute}

theorem IndexOK.putRoute (h : IndexOK s) (hr : s.route k = some r) (hn : r'.nodeID = r.nodeID) :
    IndexOK (s.putRoute k r') := by
  refine ⟨fun n k' => ?_, h.nonempty⟩
  rw [indexed_putRoute, h.mem_iff, route_putRoute]
  split
  · rename_i hk
    subst hk
    simp only [hr, Option.some.injEq, exists_eq_left', hn]
  · rfl

theorem IndexOK.insert (h : IndexOK s) (r : TerminalSessionRoute) (hnone : s.route k = none) :
    IndexOK ((s.putRoute k r).indexRoute r.nodeID k) := by
  refine ⟨fun n k' => ?_, fun n index hindex => ?_⟩
  · rw [mem_indexed_indexRoute, indexed_putRoute, h.mem_iff, route_indexRoute, route_putRoute]
    by_cases hk : k' = k
    · subst hk
      simp only [hnone, if_pos, Option.some.injEq, exists_eq_left', reduceCtorEq, false_and,
        exists_false, or_false, and_true]
      exact eq_comm
    · simp [hk]
  · rcases AList.lookup_insert_cases hindex with ⟨-, rfl⟩ | ⟨-, hindex⟩
    · rw [AList.keys_insert]
      exact List.cons_ne_nil _ _
    · exact h.nonempty n index hindex

theorem IndexOK.delete (h : IndexOK s) {r : TerminalSessionRoute} (hr : s.route k = some r) :
    IndexOK (s.deleteTerminalSessionRouteLocked k r) := by
  refine ⟨fun n k' => ?_, fun n index hindex => ?_⟩
  · rw [mem_indexed_delete, h.mem_iff, route_delete]
    by_cases hk : k' = k
    · subst hk
      simp only [hr, Option.some.injEq, exists_eq_left', and_true, if_pos, reduceCtorEq, false_and,
        exists_false, iff_false, not_and, not_not]
      exact Eq.symm
    · simp [hk]
  · rw [lookup_index_delete] at hindex
    split at hindex
    · obtain ⟨old, -, hold⟩ := Option.bind_eq_some_iff.mp hindex
      split at hold
      · nomatch hold
      · rename_i hne
        cases hold
        exact hne
    · exact h.nonempty n index hindex

theorem WellFormed.putRoute (h : WellFormed s) (hr : s.route k = some r) (hn : r'.nodeID = r.nodeID)
    (hok : RouteOK k r') : WellFormed (s.putRoute k r') := by
  refine ⟨h.toIndexOK.putRoute hr hn, fun k' r₁ hr₁ => ?_⟩
  rw [route_putRoute] at hr₁
  split at hr₁
  · rename_i hk
    cases hr₁
    exact hk ▸ hok
  · exact h.routes k' r₁ hr₁

theorem WellFormed.insert (h : WellFormed s) {r : TerminalSessionRoute} (hnone : s.route k = none)
    (hok : RouteOK k r) :
    WellFormed ((s.putRoute k r).indexRoute r.nodeID k) := by
  refine ⟨h.toIndexOK.insert r hnone, fun k' r₁ hr₁ => ?_⟩
  rw [route_indexRoute, route_putRoute] at hr₁
  split at hr₁
  · rename_i hk
    cases hr₁
    exact hk ▸ hok
  · exact h.routes k' r₁ hr₁

theorem WellFormed.delete (h : WellFormed s) {r : TerminalSessionRoute} (hr : s.route k = some r) :
    WellFormed (s.deleteTerminalSessionRouteLocked k r) := by
  refine ⟨h.toIndexOK.delete hr, fun k' r₁ hr₁ => ?_⟩
  rw [route_delete] at hr₁
  split at hr₁
  · nomatch hr₁
  · exact h.routes k' r₁ hr₁

/-! ## Changes -/

theorem RouteOK.settles (h : RouteOK k r) (hs : Settles r r') : RouteOK k r' := by
  obtain ⟨hkey, hnode, hprov, hconf⟩ := h
  cases hs with
  | touch t => exact ⟨hkey, hnode, hprov, hconf⟩
  | join t hres =>
    refine ⟨hkey, hnode, fun _ => ?_, fun h0 => absurd h0 hres⟩
    obtain ⟨hl, _, hc, hst⟩ := hprov hres
    exact ⟨hl, Nat.le_add_left 1 _, hc, hst⟩
  | confirm t id hid hown | commit t lease created id hown hpos hle =>
    exact ⟨hkey, hnode, fun h => absurd rfl h, fun _ => rfl⟩
  | release hres huses =>
    refine ⟨hkey, hnode, fun _ => ?_, fun h0 => absurd h0 hres⟩
    obtain ⟨hl, _, hc, hst⟩ := hprov hres
    exact ⟨hl, by dsimp only; omega, hc, hst⟩

theorem RouteOK.drifts (h : RouteOK k r) (hd : Drifts r r') : RouteOK k r' := by
  obtain ⟨hkey, hnode, hprov, hconf⟩ := h
  cases hd with
  | reconcile lease h0 | disconnect h0 => exact ⟨hkey, hnode, fun hne => absurd h0 hne, hconf⟩
  | recover t =>
    refine ⟨hkey, hnode, fun hne => ?_, hconf⟩
    obtain ⟨hl, hu, hc, -⟩ := hprov hne
    exact ⟨hl, hu, hc, rfl⟩

/-- The counter skips zero. -/
theorem nextReservationSeq_ne_zero (seq : Nat) : nextReservationSeq seq ≠ 0 := by
  unfold nextReservationSeq
  dsimp only
  split <;> omega

theorem routeOK_provisionalRoute {k n : String} (t : Int) (seq : Nat)
    (hk : trimSpace k = k ∧ k ≠ "") (hn : trimSpace n = n ∧ n ≠ "") :
    RouteOK k (provisionalRoute n t (nextReservationSeq seq)) :=
  ⟨hk, hn, fun _ => ⟨rfl, Nat.le_refl 1, rfl, rfl⟩,
    fun h => absurd h (nextReservationSeq_ne_zero seq)⟩

theorem WellFormed.change {s s' : RouteState} (h : WellFormed s) (hc : Change s s') :
    WellFormed s' := by
  cases hc with
  | update hu =>
    cases hu with
    | quiet hq =>
      cases hq with
      | drift k r r' hr hd =>
        exact h.putRoute hr hd.sameIncarnation.node ((h.routes k r hr).drifts hd)
      | delete k r hr => exact h.delete hr
      | rows rows | pruned t => exact ⟨⟨h.mem_iff, h.nonempty⟩, h.routes⟩
    | settle k r r' hr hs =>
      exact h.putRoute hr hs.sameIncarnation.node ((h.routes k r hr).settles hs)
  | opened k n t hnone hk hn =>
    have hseq : WellFormed { s with
        terminalRouteReservationSeq := nextReservationSeq s.terminalRouteReservationSeq } :=
      ⟨⟨h.mem_iff, h.nonempty⟩, h.routes⟩
    exact hseq.insert hnone (routeOK_provisionalRoute t _ hk hn)

/-- Every sequence of changes keeps the table well-formed. -/
theorem WellFormed.changes {s s' : RouteState} (h : WellFormed s) (hc : Changes s s') :
    WellFormed s' := by
  induction hc with
  | refl => exact h
  | tail _ hstep ih => exact ih.change hstep

/-! ## Start-up -/

theorem wellFormed_empty (ttl : Int) (rows : TerminalSessionRows) :
    WellFormed (newRouteState ttl rows) := by
  refine ⟨⟨fun n k => ?_, fun n index h => ?_⟩, fun k r h => ?_⟩
  · simp [newRouteState, indexed, route]
  · simp [newRouteState] at h
  · simp [newRouteState, route] at h

/-- The loop of `RestoreTerminalSessionRoutes` builds a well-formed table without
    reservations, one insertion per row. -/
theorem wellFormed_restoreRows {now : Int} {persisted : List (String × TerminalSessionRow)}
    {acc s : RouteState} (h : restoreRows now persisted acc = .ok s) (hwf : WellFormed acc)
    (hids : ∀ k r, acc.route k = some r → r.reservationID = 0 ∧ r.confirmedReservationID = 0) :
    WellFormed s ∧
      ∀ k r, s.route k = some r → r.reservationID = 0 ∧ r.confirmedReservationID = 0 := by
  induction persisted generalizing acc with
  | nil =>
    cases h
    exact ⟨hwf, hids⟩
  | cons e rest ih =>
    obtain ⟨key, row⟩ := e
    simp only [restoreRows] at h
    split at h
    · nomatch h
    · rename_i hvalid
      simp only [not_or] at hvalid
      split at h
      · nomatch h
      · rename_i hnone
        rw [not_not] at hnone
        refine ih h (hwf.insert hnone ?_) ?_
        · have hne : trimSpace _ ≠ "" := fun hempty => hvalid.1 (hempty ▸ by decide)
          exact ⟨⟨trimSpace_trimSpace _, hne⟩,
            ⟨trimSpace_trimSpace _, hvalid.2.1⟩, fun h => absurd rfl h, fun _ => rfl⟩
        · intro k r hr
          rw [route_indexRoute, route_putRoute] at hr
          split at hr
          · cases hr
            exact ⟨rfl, rfl⟩
          · exact hids k r hr

/-- What a successful restore leaves: the loaded maps over the unexpired rows. -/
theorem restore_eq_ok {s s' : RouteState} {now : Int} {f₁ f₂ : StoreFault}
    (h : s.restoreTerminalSessionRoutes now f₁ f₂ = (s', .ok ())) :
    ∃ rows persisted loaded,
      s.rows.deleteExpiredTerminalSessionRoutes now f₁ = .ok rows ∧
      rows.loadActiveTerminalSessionRoutes now f₂ = .ok persisted ∧
      restoreRows now persisted {} = .ok loaded ∧
      s' = { s with
        rows := rows
        terminalSessionToNode := loaded.terminalSessionToNode
        terminalNodeToSessionIDIndex := loaded.terminalNodeToSessionIDIndex } := by
  unfold restoreTerminalSessionRoutes at h
  split at h
  · simp at h
  · rename_i rows hrows
    dsimp only at h
    split at h
    · simp at h
    · rename_i persisted hload
      split at h
      · simp at h
      · rename_i loaded hloaded
        split at h
        · simp at h
        · simp only [Prod.mk.injEq, and_true] at h
          exact ⟨rows, persisted, loaded, hrows, hload, hloaded, h.symm⟩

/-- The console starts with a well-formed table, in which no route has a
    reservation and no id was issued yet. -/
theorem wellFormed_of_started (h : RouteStarted s) :
    WellFormed s ∧ s.terminalRouteReservationSeq = 0 ∧
      ∀ k r, s.route k = some r → r.reservationID = 0 ∧ r.confirmedReservationID = 0 := by
  cases h with
  | new ttl rows =>
    refine ⟨wellFormed_empty ttl rows, rfl, fun k r h => ?_⟩
    simp [newRouteState, route] at h
  | restored h =>
    obtain ⟨rows, persisted, loaded, -, -, hloaded, rfl⟩ := restore_eq_ok h
    have hempty : ∀ k r, ({} : RouteState).route k = some r →
        r.reservationID = 0 ∧ r.confirmedReservationID = 0 := by
      intro k r h
      simp [route] at h
    obtain ⟨hwf, hids⟩ := wellFormed_restoreRows hloaded (wellFormed_empty _ _) hempty
    exact ⟨⟨⟨hwf.mem_iff, hwf.nonempty⟩, hwf.routes⟩, rfl, hids⟩

end RouteState

/-! ## Every run -/

namespace RouteLog

open RouteState

/-- What the log of a run says about the ids in the table. -/
structure IdsOK (log : RouteLog) : Prop where
  current : ∀ k r, log.state.route k = some r →
    (r.reservationID ≠ 0 → log.opened.lookup k = some r.reservationID) ∧
    (r.confirmedReservationID ≠ 0 → log.opened.lookup k = some r.confirmedReservationID)
  fresh : log.opened.length < 2 ^ 64 →
    log.state.terminalRouteReservationSeq = log.opened.length ∧
    (log.opened.map Prod.snd).Nodup ∧
    ∀ e ∈ log.opened, 1 ≤ e.2 ∧ e.2 ≤ log.opened.length

variable {log : RouteLog}

/-- Updates hand no id from one incarnation to another. -/
theorem IdsOK.updates (h : IdsOK log) {s' : RouteState} (hu : Updates log.state s') :
    IdsOK { log with state := s' } := by
  refine ⟨fun k r' hr' => ?_, fun hlen => ?_⟩
  · obtain ⟨r, hr, hsame⟩ := hu.sameIncarnation hr'
    obtain ⟨hres, hconf⟩ := h.current k r hr
    refine ⟨fun hne => ?_, fun hne => ?_⟩
    · have heq := hsame.reservation.resolve_left hne
      rw [heq] at hne ⊢
      exact hres hne
    · rcases hsame.confirmed.resolve_left hne with heq | heq
      · rw [heq] at hne ⊢
        exact hres hne
      · rw [heq] at hne ⊢
        exact hconf hne
  · rw [hu.seq_eq]
    exact h.fresh hlen

/-- A fresh reservation takes the next number, which no incarnation had. -/
theorem IdsOK.opened (h : IdsOK log) (k n : String) (t : Int) :
    IdsOK { state := log.state.openRoute k n t,
            opened := (k, nextReservationSeq log.state.terminalRouteReservationSeq) ::
              log.opened } := by
  refine ⟨fun k' r hr => ?_, fun hlen => ?_⟩
  · rw [route_openRoute] at hr
    split at hr
    · rename_i hk
      subst hk
      cases hr
      exact ⟨fun _ => by simp [provisionalRoute], fun hne => absurd rfl hne⟩
    · rename_i hk
      have hbeq : (k' == k) = false := by simpa using hk
      simpa only [List.lookup_cons, hbeq] using h.current k' r hr
  · simp only [List.length_cons] at hlen ⊢
    obtain ⟨hseq, hnd, hrange⟩ := h.fresh (by omega)
    have hnext : nextReservationSeq log.state.terminalRouteReservationSeq =
        log.opened.length + 1 := by
      unfold nextReservationSeq
      rw [hseq, Nat.mod_eq_of_lt hlen]
      rfl
    refine ⟨hnext, ?_, ?_⟩
    · rw [List.map_cons, List.nodup_cons]
      refine ⟨fun hmem => ?_, hnd⟩
      obtain ⟨e, he, heq⟩ := List.mem_map.mp hmem
      have hle := (hrange e he).2
      rw [heq, hnext] at hle
      omega
    · intro e he
      rcases List.mem_cons.mp he with rfl | he
      · rw [hnext]
        omega
      · have := hrange e he
        omega

/-- What holds of the table and its history. -/
structure Inv (log : RouteLog) : Prop where
  wf : WellFormed log.state
  ids : IdsOK log

theorem Inv.started {s : RouteState} (h : RouteStarted s) : Inv { state := s, opened := [] } := by
  obtain ⟨hwf, hseq, hids⟩ := wellFormed_of_started h
  refine ⟨hwf, fun k r hr => ?_, fun _ => ⟨hseq, by simp, by simp⟩⟩
  obtain ⟨hres, hconf⟩ := hids k r hr
  exact ⟨fun hne => absurd hres hne, fun hne => absurd hconf hne⟩

theorem Inv.updates (h : Inv log) {s' : RouteState} (hu : Updates log.state s') :
    Inv (log.advance s') := by
  rw [advance_updates hu]
  exact ⟨h.wf.changes hu.changes, h.ids.updates hu⟩

/-- Every operation keeps it. -/
theorem Inv.exec (h : Inv log) (op : RouteOp) :
    Inv (log.advance (op.exec log.state)) := by
  obtain ⟨sessionID, nodeID, now, -, -, -, hnone, heq⟩ | hu := op.cases log.state
  · refine ⟨h.wf.changes (op.changes log.state), ?_⟩
    rw [heq, advance_openRoute _ now hnone]
    exact h.ids.opened _ _ now
  · exact h.updates hu

/-- Every run keeps the table well-formed and the ids in step with the log. -/
theorem Inv.of_reachable (h : routeMachine.Reachable log) : Inv log := by
  apply h.invariant (P := Inv)
  · intro log hinit
    obtain ⟨s, opened⟩ := log
    obtain ⟨hstart, hopened⟩ := hinit
    dsimp only at hstart hopened
    subst hopened
    exact .started hstart
  · intro log op log' _ hinv _ hstep
    cases hstep
    exact hinv.exec op

end RouteLog

/-- Every sequence of production operations, with any arguments and any store
    failures, keeps the index and the routes consistent; and the first `2 ^ 64 - 1`
    reservations get pairwise distinct non-zero ids, each of which only ever occurs
    in the route of the incarnation it was issued for. -/
theorem route_table_well_formed (log : RouteLog) (h : routeMachine.Reachable log) :
    (∀ n k, k ∈ log.state.indexed n ↔ ∃ r, log.state.route k = some r ∧ r.nodeID = n) ∧
    (∀ n index, log.state.terminalNodeToSessionIDIndex.lookup n = some index →
      index.keys ≠ []) ∧
    (∀ k r, log.state.route k = some r →
      (r.reservationID ≠ 0 → r.leaseExpiresUnixMs = 0 ∧ 1 ≤ r.provisionalUses ∧
        r.confirmedReservationID = 0 ∧ r.recoveryState = .ready) ∧
      (r.reservationID = 0 → r.provisionalUses = 0)) ∧
    (log.opened.length ≤ 2 ^ 64 - 1 →
      (log.opened.map Prod.snd).Nodup ∧ (∀ e ∈ log.opened, e.2 ≠ 0) ∧
      ∀ k r, log.state.route k = some r →
        (r.reservationID ≠ 0 → log.opened.lookup k = some r.reservationID) ∧
        (r.confirmedReservationID ≠ 0 → log.opened.lookup k = some r.confirmedReservationID)) := by
  obtain ⟨hwf, hids⟩ := RouteLog.Inv.of_reachable h
  refine ⟨hwf.mem_iff, hwf.nonempty, fun k r hr => ?_, fun hlen => ?_⟩
  · exact ⟨(hwf.routes k r hr).provisional, (hwf.routes k r hr).confirmed⟩
  · obtain ⟨-, hnd, hrange⟩ := hids.fresh (by omega)
    exact ⟨hnd, fun e he => Nat.one_le_iff_ne_zero.mp (hrange e he).1, hids.current⟩

/-- Two dispatches that reserve one new session share its first reservation. -/
theorem route_table_well_formed_two_reservations :
    ∃ log, routeMachine.run ⟨newRouteState 0 ∅, []⟩
        [.reserve "obx:o:s" "n1" 5, .reserve " obx:o:s" "n2" 6] = some log ∧
      log.opened = [("obx:o:s", 1)] ∧
      log.state.route "obx:o:s" = some
        { nodeID := "n1", lastUsedUnixMs := 6, recoveryState := .ready, reservationID := 1,
          provisionalUses := 2 } ∧
      (∀ n k, k ∈ log.state.indexed n ↔ ∃ r, log.state.route k = some r ∧ r.nodeID = n) := by
  refine ⟨_, rfl, by decide, by decide, ?_⟩
  exact (route_table_well_formed _ (Machine.reachable_run
    [.reserve "obx:o:s" "n1" 5, .reserve " obx:o:s" "n2" 6] (.init ⟨.new 0 ∅, rfl⟩) rfl)).1

end Onlyboxes.Console
