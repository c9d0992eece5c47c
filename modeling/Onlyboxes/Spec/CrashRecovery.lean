import Onlyboxes.Spec.RoutePersistence

/-!
# Crashes and restarts

The console with its database over any number of process lifetimes. A lifetime
starts with `RestoreTerminalSessionRoutes`, serves any sequence of operations and
ends with a crash, which loses everything but the rows.

## Key results

- `restore_spec`: what a successful restore leaves
- `restore_succeeds`: a restore of scoped rows succeeds
- `rows_agree_with_routes`: rows and routes agree in every state of every lifetime,
  and a crash followed by a restore gives back exactly the persisted routes
-/

namespace Onlyboxes.Console

open Text

variable {now ttl : Int} {f₁ f₂ : StoreFault}

namespace RouteState

/-- What every row of the store satisfies, because `UpsertConfirmedTerminalSessionRoute`
    checks it. -/
structure RowOK (k : String) (w : TerminalSessionRow) : Prop where
  key : trimSpace k = k ∧ k ≠ ""
  node : trimSpace w.nodeID = w.nodeID ∧ w.nodeID ≠ ""
  lease : 0 < w.leaseExpiresUnixMs

def RowsOK (rows : TerminalSessionRows) : Prop :=
  ∀ k w, rows.lookup k = some w → RowOK k w

variable {s : RouteState}

/-- The rows of a table that agrees with its routes are in order. -/
theorem Agrees.rowsOK {fallback : List String} (h : Agrees s fallback) (hwf : WellFormed s) :
    RowsOK s.rows := by
  intro k w hw
  obtain ⟨r, hr, -, hpos, hn, hl⟩ := (h k).route_of_row w hw
  have hok := hwf.routes k r hr
  exact ⟨hok.key, hn ▸ hok.node, hl ▸ hpos⟩

/-! ## The restore loop -/

/-- A restore that succeeds inserts every loaded row, under distinct new keys. -/
theorem restoreRows_spec {persisted : List (String × TerminalSessionRow)} {acc s : RouteState}
    (h : restoreRows now persisted acc = .ok s) :
    (∀ e ∈ persisted, acc.route (trimSpace e.1) = none) ∧
    (∀ e ∈ persisted,
      s.route (trimSpace e.1) = some (restoredRoute (trimSpace e.2.nodeID) e.2)) ∧
    (∀ k, (∀ e ∈ persisted, trimSpace e.1 ≠ k) → s.route k = acc.route k) := by
  induction persisted generalizing acc with
  | nil =>
    cases h
    simp
  | cons e rest ih =>
    obtain ⟨key, row⟩ := e
    simp only [restoreRows] at h
    split at h
    · cases h
    · split at h
      · cases h
      · rename_i hnone
        rw [not_not] at hnone
        obtain ⟨hnew, hin, hout⟩ := ih h
        simp only [route_indexRoute, route_putRoute] at hnew hout
        -- A later row with the key of this one would have been a duplicate.
        have hne : ∀ e ∈ rest, trimSpace e.1 ≠ trimSpace key := by
          intro e he heq
          have := hnew e he
          rw [if_pos heq] at this
          cases this
        refine ⟨fun e he => ?_, fun e he => ?_, fun k hk => ?_⟩
        · rcases List.mem_cons.mp he with rfl | he
          · exact hnone
          · have := hnew e he
            rwa [if_neg (hne e he)] at this
        · rcases List.mem_cons.mp he with rfl | he
          · rw [hout _ hne, if_pos rfl]
          · exact hin e he
        · rw [hout k fun e he => hk e (List.mem_cons_of_mem _ he),
            if_neg (Ne.symm (hk _ List.mem_cons_self))]

variable {rows : TerminalSessionRows}

/-- The rows `LoadActiveTerminalSessionRoutes` returns. -/
theorem mem_loadActive {now : Int} {fault : StoreFault}
    {persisted : List (String × TerminalSessionRow)}
    (h : rows.loadActiveTerminalSessionRoutes now fault = .ok persisted) {k : String}
    {w : TerminalSessionRow} :
    (k, w) ∈ persisted ↔ rows.lookup k = some w ∧ now < w.leaseExpiresUnixMs := by
  unfold TerminalSessionRows.loadActiveTerminalSessionRoutes at h
  split at h
  · nomatch h
  · cases h
    rw [List.mem_mergeSort, List.mem_filter, decide_eq_true_eq, ← Option.mem_def,
      AList.mem_lookup_iff]
    refine and_congr_left fun _ => ?_
    simp only [List.mem_map, Prod.mk.injEq]
    constructor
    · rintro ⟨e, he, rfl, rfl⟩
      exact he
    · intro he
      exact ⟨⟨k, w⟩, he, rfl, rfl⟩

/-- What a successful restore leaves: the unexpired rows, and a confirmed route for
    each of them. -/
theorem restore_spec (hrows : RowsOK rows)
    (h : (newRouteState ttl rows).restoreTerminalSessionRoutes now f₁ f₂ = (s, .ok ())) (k : String) :
    s.rows.lookup k = (rows.lookup k).filter (fun w => decide (now < w.leaseExpiresUnixMs)) ∧
    s.route k = (s.rows.lookup k).map fun w => restoredRoute w.nodeID w := by
  obtain ⟨rows', persisted, loaded, hdel, hload, hloaded, rfl⟩ := restore_eq_ok h
  have hlookup : ∀ k, rows'.lookup k =
      (rows.lookup k).filter (fun w => decide (now < w.leaseExpiresUnixMs)) := by
    intro k
    rw [deleteExpiredTerminalSessionRoutes_eq_ok hdel]
    exact AList.lookup_filter _ _ k
  refine ⟨hlookup k, ?_⟩
  change loaded.route k = (rows'.lookup k).map _
  obtain ⟨-, hin, hout⟩ := restoreRows_spec hloaded
  -- Loaded keys and nodes are trimmed already.
  have hok : ∀ k w, rows'.lookup k = some w → RowOK k w ∧ now < w.leaseExpiresUnixMs := by
    intro k w hw
    rw [hlookup, Option.filter_eq_some_iff, decide_eq_true_eq] at hw
    exact ⟨hrows k w hw.1, hw.2⟩
  cases hw : rows'.lookup k with
  | some w =>
    obtain ⟨hrow, hlt⟩ := hok k w hw
    have := hin (k, w) ((mem_loadActive hload).mpr ⟨hw, hlt⟩)
    rwa [hrow.key.1, hrow.node.1] at this
  | none =>
    rw [hout k ?_]
    · rfl
    · rintro ⟨k', w⟩ he
      obtain ⟨hw', -⟩ := (mem_loadActive hload).mp he
      rw [(hok k' w hw').1.key.1]
      rintro rfl
      rw [hw] at hw'
      nomatch hw'

/-- Rows with valid and distinct keys are restored without an error. -/
theorem restoreRows_succeeds (now : Int) (persisted : List (String × TerminalSessionRow))
    (acc : RouteState)
    (hvalid : ∀ e ∈ persisted, isValidPersistedTerminalSessionID (trimSpace e.1) = true ∧
      trimSpace e.2.nodeID ≠ "" ∧ now < e.2.leaseExpiresUnixMs)
    (hnd : (persisted.map fun e => trimSpace e.1).Nodup)
    (hnew : ∀ e ∈ persisted, acc.route (trimSpace e.1) = none) :
    ∃ s, restoreRows now persisted acc = .ok s := by
  induction persisted generalizing acc with
  | nil => exact ⟨acc, rfl⟩
  | cons e rest ih =>
    obtain ⟨key, row⟩ := e
    rw [List.map_cons, List.nodup_cons] at hnd
    obtain ⟨hkey, hnode, hlease⟩ := hvalid _ List.mem_cons_self
    have hok : ¬ (isValidPersistedTerminalSessionID (trimSpace key) = false ∨
        trimSpace row.nodeID = "" ∨ row.leaseExpiresUnixMs ≤ now) := by
      simp only [hkey, Bool.true_eq_false, false_or, not_or]
      exact ⟨hnode, Int.not_le.mpr hlease⟩
    simp only [restoreRows]
    rw [if_neg hok, if_neg (not_not.mpr (hnew _ List.mem_cons_self))]
    refine ih _ (fun e he => hvalid e (List.mem_cons_of_mem _ he)) hnd.2 fun e he => ?_
    rw [route_indexRoute, route_putRoute, if_neg]
    · exact hnew e (List.mem_cons_of_mem _ he)
    · intro heq
      exact hnd.1 (List.mem_map.mpr ⟨e, he, heq⟩)

/-- A restore of rows under scoped session ids succeeds. -/
theorem restore_succeeds (ttl now : Int) (hrows : RowsOK rows)
    (hscoped : ∀ k w, rows.lookup k = some w → isValidPersistedTerminalSessionID k = true) :
    ∃ s, (newRouteState ttl rows).restoreTerminalSessionRoutes now none none = (s, .ok ()) := by
  let rows' : TerminalSessionRows := rows.filter fun _ w => decide (now < w.leaseExpiresUnixMs)
  have hok : ∀ k w, rows'.lookup k = some w → RowOK k w ∧
      isValidPersistedTerminalSessionID k = true := by
    intro k w hw
    rw [AList.lookup_filter, Option.filter_eq_some_iff] at hw
    exact ⟨hrows k w hw.1, hscoped k w hw.1⟩
  obtain ⟨persisted, hload⟩ : ∃ persisted,
      rows'.loadActiveTerminalSessionRoutes now none = .ok persisted := ⟨_, rfl⟩
  have hmem := @mem_loadActive rows' now none persisted hload
  have hnd : (persisted.map fun e => trimSpace e.1).Nodup := by
    have hkeys : persisted.map (fun e => trimSpace e.1) = persisted.map Prod.fst := by
      refine List.map_congr_left fun e he => ?_
      exact (hok e.1 e.2 (hmem.mp he).1).1.key.1
    have hperm : (persisted.map Prod.fst).Nodup := by
      cases hload
      refine (((List.mergeSort_perm _ _).map Prod.fst).nodup_iff).mpr ?_
      have hfst : (rows'.entries.map fun e => (e.1, e.2)).map Prod.fst = rows'.keys := by
        simp [AList.keys, List.keys]
      exact (hfst ▸ AList.keys_nodup rows').sublist ((List.filter_sublist).map Prod.fst)
    rw [hkeys]
    exact hperm
  obtain ⟨loaded, hloaded⟩ := restoreRows_succeeds now persisted {} (fun e he => by
    obtain ⟨hw, hlt⟩ := hmem.mp (show (e.1, e.2) ∈ persisted from he)
    obtain ⟨hrow, hvalid⟩ := hok e.1 e.2 hw
    rw [hrow.key.1, hrow.node.1]
    exact ⟨hvalid, hrow.node.2, hlt⟩) hnd fun e _ => rfl
  have hdel : (newRouteState ttl rows).rows.deleteExpiredTerminalSessionRoutes now none =
      .ok rows' := rfl
  refine ⟨{ newRouteState ttl rows' with
    terminalSessionToNode := loaded.terminalSessionToNode
    terminalNodeToSessionIDIndex := loaded.terminalNodeToSessionIDIndex }, ?_⟩
  simp only [restoreTerminalSessionRoutes, hdel, hload, hloaded]
  rfl

/-- The first start, over an empty database. -/
theorem restore_empty (ttl now : Int) :
    (newRouteState ttl ∅).restoreTerminalSessionRoutes now none none =
      (newRouteState ttl ∅, .ok ()) := by
  have hdel : TerminalSessionRows.deleteExpiredTerminalSessionRoutes ∅ now none = .ok ∅ := rfl
  have hload : TerminalSessionRows.loadActiveTerminalSessionRoutes ∅ now none = .ok [] :=
    congrArg Except.ok (List.mergeSort_nil ..)
  simp only [restoreTerminalSessionRoutes, newRouteState, hdel, hload]
  rfl

/-- A failed restore leaves the process without routes. -/
theorem restore_eq_error {err : String}
    (h : (newRouteState ttl rows).restoreTerminalSessionRoutes now f₁ f₂ = (s, .error err)) :
    ∃ rows', s = newRouteState ttl rows' ∧
      ∀ k w, rows'.lookup k = some w → rows.lookup k = some w := by
  have hsub : ∀ {rows'}, rows.deleteExpiredTerminalSessionRoutes now f₁ = .ok rows' →
      ∀ k w, rows'.lookup k = some w → rows.lookup k = some w := by
    intro rows' hdel k w hw
    rw [deleteExpiredTerminalSessionRoutes_eq_ok hdel] at hw
    exact RowsDeleted.filter rows _ k w hw
  unfold restoreTerminalSessionRoutes at h
  split at h
  · simp only [Prod.mk.injEq] at h
    exact ⟨rows, h.1.symm, fun _ _ hw => hw⟩
  · rename_i rows' hdel
    refine ⟨rows', ?_, hsub hdel⟩
    dsimp only at h
    split at h
    · simp only [Prod.mk.injEq] at h
      exact h.1.symm
    · split at h
      · simp only [Prod.mk.injEq] at h
        exact h.1.symm
      · split at h
        · simp only [Prod.mk.injEq] at h
          exact h.1.symm
        · simp at h

end RouteState

open RouteState

/-! ## Process lifetimes -/

/-- The sessions whose lease in memory is made up, after an operation. -/
def RouteOp.fallback (s : RouteState) (fallback : List String) : RouteOp → List String
  | .commit sessionID nodeID id lease now fault =>
    commitFallback sessionID
      (s.commitConfirmedTerminalSessionRoute sessionID nodeID id lease now fault).2 fallback
  | .beginRecovery nodeID now fault =>
    beginFallback s (s.beginTerminalSessionRecovery nodeID now fault).1 ++ fallback
  | _ => fallback

/-- A console process and its database. `fallback` lists the sessions for which
    `beginTerminalSessionRecovery` made up a lease since their last commit. -/
structure ConsoleProcess where
  serving : Bool
  state : RouteState
  fallback : List String

inductive ProcessAction where
  | op (op : RouteOp)
  | crash (ttl : Int)
  | restore (now : Int) (deleteFault loadFault : StoreFault)

/-- Lifetimes of the console over one database that starts out empty. -/
def processMachine : Machine ConsoleProcess ProcessAction where
  init p := ∃ ttl, p = ⟨false, newRouteState ttl ∅, []⟩
  step p
    | .op op =>
      if p.serving then some ⟨true, op.exec p.state, op.fallback p.state p.fallback⟩ else none
    | .crash ttl => some ⟨false, newRouteState ttl p.state.rows, []⟩
    | .restore now f₁ f₂ =>
      if p.serving then none
      else match p.state.restoreTerminalSessionRoutes now f₁ f₂ with
        | (s, .ok ()) => some ⟨true, s, []⟩
        | (s, .error _) => some ⟨false, s, []⟩

/-- Reservations are made under scoped session ids, as `scopeTerminalSessionID` and
    the task input rules produce them. -/
def ProcessAction.scoped : ProcessAction → Prop
  | .op (.reserve sessionID _ _) => isValidPersistedTerminalSessionID sessionID = true
  | _ => True

/-- Every operation keeps rows and routes in agreement. -/
theorem RouteOp.agrees {s : RouteState} {fallback : List String} (h : Agrees s fallback)
    (hwf : WellFormed s) (op : RouteOp) : Agrees (op.exec s) (op.fallback s fallback) := by
  cases op with
  | reserve sessionID nodeID now => exact h.reserve sessionID nodeID now
  | claim sessionID now => exact h.claim sessionID now
  | confirm sessionID nodeID id now => exact h.confirm hwf sessionID nodeID id now
  | commit sessionID nodeID id lease now fault => exact h.commit sessionID nodeID id lease now fault
  | snapshot sessionID now fault => exact h.snapshot hwf sessionID now fault
  | beginRecovery nodeID now fault => exact h.beginRecovery hwf nodeID now fault
  | markUnavailable nodeID => exact h.markUnavailable hwf nodeID
  | applyReport nodeID candidates report now fault =>
    exact h.applyReport hwf nodeID candidates report now fault
  | clearReservation sessionID nodeID id => exact h.clearReservation sessionID nodeID id
  | clearRoute sessionID nodeID fault => exact h.clearRoute hwf sessionID nodeID fault
  | deleteByNode nodeID fault => exact h.deleteByNode hwf nodeID fault
  | prune now fault => exact h.prune now fault
  | maybePrune now fault => exact h.maybePrune now fault
  | list ownerID now pruneFault fault => exact h.list hwf ownerID now pruneFault fault
  | delete ownerID sessionID now f₁ f₂ => exact h.delete hwf ownerID sessionID now f₁ f₂

namespace ConsoleProcess

/-- While a process serves, its table is well-formed and agrees with the rows;
    otherwise the rows alone are in order. -/
structure Inv (p : ConsoleProcess) : Prop where
  up : p.serving = true → WellFormed p.state ∧ Agrees p.state p.fallback
  down : p.serving = false → ∃ ttl rows, p.state = newRouteState ttl rows
  rows : RowsOK p.state.rows

theorem agrees_of_restore {rows : TerminalSessionRows} {s : RouteState} (hrows : RowsOK rows)
    (h : (newRouteState ttl rows).restoreTerminalSessionRoutes now f₁ f₂ = (s, .ok ())) :
    Agrees s [] := by
  intro k
  obtain ⟨hrow, hroute⟩ := restore_spec hrows h k
  rw [hroute]
  cases hw : s.rows.lookup k with
  | none => exact .absent _
  | some w =>
    rw [hw, eq_comm, Option.filter_eq_some_iff] at hrow
    refine ⟨fun w' hw' => ?_, fun r hr _ _ => by simp⟩
    cases hw'
    exact ⟨_, rfl, rfl, (hrows k w hrow.1).lease, rfl, rfl⟩

variable {p : ConsoleProcess} {ok : ConsoleProcess → ProcessAction → Prop}

theorem reachable_inv (h : processMachine.ReachableWhere ok p) : Inv p := by
  refine h.invariant ?_ ?_
  · rintro p ⟨ttl, rfl⟩
    exact ⟨fun h => (by cases h), fun _ => ⟨ttl, ∅, rfl⟩, fun k w hw => by simp [newRouteState] at hw⟩
  · rintro p a p' - hinv - hstep
    cases a with
    | op op =>
      simp only [processMachine] at hstep
      split at hstep
      · rename_i hserving
        cases hstep
        obtain ⟨hwf, hag⟩ := hinv.up hserving
        have hwf' := hwf.changes (op.changes p.state)
        have hag' := op.agrees hag hwf
        exact ⟨fun _ => ⟨hwf', hag'⟩, fun h => (by cases h), hag'.rowsOK hwf'⟩
      · cases hstep
    | crash ttl =>
      cases hstep
      exact ⟨fun h => (by cases h), fun _ => ⟨ttl, _, rfl⟩, hinv.rows⟩
    | restore now f₁ f₂ =>
      simp only [processMachine] at hstep
      split at hstep
      · cases hstep
      · rename_i hdown
        obtain ⟨ttl, rows, hstate⟩ := hinv.down (Bool.eq_false_iff.mpr hdown)
        have hrows : RowsOK rows := by
          have := hinv.rows
          rwa [hstate] at this
        rw [hstate] at hstep
        split at hstep
        · rename_i s hrestore
          cases hstep
          have hwf := (wellFormed_of_started (.restored hrestore)).1
          have hag := agrees_of_restore hrows hrestore
          exact ⟨fun _ => ⟨hwf, hag⟩, fun h => (by cases h), hag.rowsOK hwf⟩
        · rename_i s err hrestore
          cases hstep
          obtain ⟨rows', rfl, hsub⟩ := restore_eq_error hrestore
          exact ⟨fun h => (by cases h), fun _ => ⟨ttl, rows', rfl⟩,
            fun k w hw => hrows k w (hsub k w hw)⟩

/-- The first start leads to a serving process. -/
theorem started (hok : ∀ p now, ok p (.restore now none none)) :
    processMachine.ReachableWhere ok ⟨true, newRouteState 1800000000000 ∅, []⟩ :=
  .step (.restore 0 none none) (.init ⟨1800000000000, rfl⟩) (hok _ 0) (by
    simp only [processMachine, restore_empty]
    rfl)

/-- All session ids the process knows are scoped. -/
def Scoped (p : ConsoleProcess) : Prop :=
  (∀ k r, p.state.route k = some r → isValidPersistedTerminalSessionID k = true) ∧
  (∀ k w, p.state.rows.lookup k = some w → isValidPersistedTerminalSessionID k = true)

/-- Validity of a session id does not depend on surrounding white space. -/
theorem isValidPersisted_trimSpace (k : String) :
    isValidPersistedTerminalSessionID (trimSpace k) = isValidPersistedTerminalSessionID k := by
  unfold isValidPersistedTerminalSessionID
  rw [trimSpace_trimSpace]

theorem scoped_of_reachable (h : processMachine.ReachableWhere (fun _ a => a.scoped) p) :
    Scoped p := by
  refine h.invariant ?_ ?_
  · rintro p ⟨ttl, rfl⟩
    exact ⟨fun k r h => by simp [newRouteState, route] at h,
      fun k w h => by simp [newRouteState] at h⟩
  · rintro p a p' hreach ⟨hroutes, hrows⟩ hscoped hstep
    have hinv' := reachable_inv (hreach.step a hscoped hstep)
    have hinv := reachable_inv hreach
    -- While the process serves, rows only exist for routes.
    have hup : p'.serving = true →
        (∀ k r, p'.state.route k = some r → isValidPersistedTerminalSessionID k = true) →
        Scoped p' := by
      intro hserving hr
      refine ⟨hr, fun k w hw => ?_⟩
      obtain ⟨r, hroute, -⟩ := ((hinv'.up hserving).2 k).route_of_row w hw
      exact hr k r hroute
    cases a with
    | op op =>
      simp only [processMachine] at hstep
      split at hstep
      · cases hstep
        refine hup rfl fun k r hr => ?_
        obtain ⟨sessionID, nodeID, now, rfl, -, -, -, heq⟩ | hu := op.cases p.state
        · dsimp only at hr
          rw [heq, route_openRoute] at hr
          split at hr
          · rename_i hk
            rw [hk, isValidPersisted_trimSpace]
            exact hscoped
          · exact hroutes k r hr
        · obtain ⟨r₀, hr₀, -⟩ := hu.sameIncarnation hr
          exact hroutes k r₀ hr₀
      · cases hstep
    | crash ttl =>
      cases hstep
      exact ⟨fun k r h => by simp [newRouteState, route] at h, hrows⟩
    | restore now f₁ f₂ =>
      simp only [processMachine] at hstep
      split at hstep
      · cases hstep
      · rename_i hdown
        obtain ⟨ttl, rows, hstate⟩ := hinv.down (Bool.eq_false_iff.mpr hdown)
        have hrowsOK := hinv.rows
        rw [hstate] at hstep hrows hrowsOK
        split at hstep
        · rename_i s hrestore
          cases hstep
          refine hup rfl fun k r hr => ?_
          obtain ⟨hrow, hroute⟩ := restore_spec hrowsOK hrestore k
          rw [hroute, Option.map_eq_some_iff] at hr
          obtain ⟨w, hw, -⟩ := hr
          rw [hw, eq_comm, Option.filter_eq_some_iff] at hrow
          exact hrows k w hrow.1
        · rename_i s err hrestore
          cases hstep
          obtain ⟨rows', rfl, hsub⟩ := restore_eq_error hrestore
          exact ⟨fun k r h => by simp [newRouteState, route] at h,
            fun k w hw => hrows k w (hsub k w hw)⟩

end ConsoleProcess

/-- In every state of every lifetime, a row exists exactly when its session has a
    confirmed route with a lease that was not made up by
    `beginTerminalSessionRecovery`, and then both name the same node and lease. A crash
    followed by a restore at time `t` gives back exactly the persisted routes whose
    lease is after `t`. -/
theorem rows_agree_with_routes :
    (∀ p, processMachine.Reachable p → p.serving = true →
      (∀ k n lease, (∃ w, p.state.rows.lookup k = some w ∧ w.nodeID = n ∧
          w.leaseExpiresUnixMs = lease) ↔
        ∃ r, p.state.route k = some r ∧ r.reservationID = 0 ∧ 0 < r.leaseExpiresUnixMs ∧
          k ∉ p.fallback ∧ r.nodeID = n ∧ r.leaseExpiresUnixMs = lease)) ∧
    (∀ p, processMachine.ReachableWhere (fun _ a => a.scoped) p → p.serving = true →
      ∀ ttl t, ∃ s,
        (newRouteState ttl p.state.rows).restoreTerminalSessionRoutes t none none = (s, .ok ()) ∧
        ∀ k n lease, (∃ r, s.route k = some r ∧ r.reservationID = 0 ∧ r.nodeID = n ∧
            r.leaseExpiresUnixMs = lease) ↔
          t < lease ∧ ∃ r, p.state.route k = some r ∧ r.reservationID = 0 ∧
            0 < r.leaseExpiresUnixMs ∧ k ∉ p.fallback ∧ r.nodeID = n ∧
            r.leaseExpiresUnixMs = lease) := by
  have hrows : ∀ p : ConsoleProcess, Agrees p.state p.fallback → ∀ k n lease,
      (∃ w, p.state.rows.lookup k = some w ∧ w.nodeID = n ∧ w.leaseExpiresUnixMs = lease) ↔
        ∃ r, p.state.route k = some r ∧ r.reservationID = 0 ∧ 0 < r.leaseExpiresUnixMs ∧
          k ∉ p.fallback ∧ r.nodeID = n ∧ r.leaseExpiresUnixMs = lease := by
    intro p hag k n lease
    constructor
    · rintro ⟨w, hw, rfl, rfl⟩
      obtain ⟨r, hr, hres, hpos, hn, hl⟩ := (hag k).route_of_row w hw
      refine ⟨r, hr, hres, hpos, fun hmem => ?_, hn.symm, hl.symm⟩
      rw [((hag k).row_of_route r hr hres hpos).mpr hmem] at hw
      nomatch hw
    · rintro ⟨r, hr, hres, hpos, hnot, rfl, rfl⟩
      have hsome : p.state.rows.lookup k ≠ none :=
        fun hnone => hnot (((hag k).row_of_route r hr hres hpos).mp hnone)
      obtain ⟨w, hw⟩ := Option.ne_none_iff_exists'.mp hsome
      have hcell := hag k
      rw [hr] at hcell
      exact ⟨w, hw, hcell.node_eq hw⟩
  refine ⟨fun p h hserving => hrows p ((ConsoleProcess.reachable_inv h).up hserving).2,
    fun p h hserving ttl t => ?_⟩
  have hinv := ConsoleProcess.reachable_inv h
  obtain ⟨s, hs⟩ := restore_succeeds ttl t hinv.rows (ConsoleProcess.scoped_of_reachable h).2
  refine ⟨s, hs, fun k n lease => ?_⟩
  rw [← hrows p (hinv.up hserving).2]
  obtain ⟨hrow, hroute⟩ := restore_spec hinv.rows hs k
  rw [hroute, hrow]
  constructor
  · rintro ⟨r, hr, -, rfl, rfl⟩
    obtain ⟨w, hw, rfl⟩ := Option.map_eq_some_iff.mp hr
    rw [Option.filter_eq_some_iff, decide_eq_true_eq] at hw
    exact ⟨hw.2, w, hw.1, rfl, rfl⟩
  · rintro ⟨hlt, w, hw, rfl, rfl⟩
    refine ⟨restoredRoute w.nodeID w, ?_, rfl, rfl, rfl⟩
    rw [hw, Option.filter_some, if_pos (decide_eq_true hlt)]
    rfl

/-- A committed session has its row, and survives a crash until its lease is over. -/
theorem rows_agree_with_routes_committed :
    ∃ p, processMachine.ReachableWhere (fun _ a => a.scoped) p ∧ p.serving = true ∧
      (p.state.route "obx:o:s").map TerminalSessionRoute.leaseExpiresUnixMs = some 90 ∧
      (∃ w, p.state.rows.lookup "obx:o:s" = some w ∧ w.nodeID = "n1" ∧
        w.leaseExpiresUnixMs = 90) ∧
      ∃ s, (newRouteState 0 p.state.rows).restoreTerminalSessionRoutes 80 none none =
          (s, .ok ()) ∧
        ∃ r, s.route "obx:o:s" = some r ∧ r.reservationID = 0 ∧ r.nodeID = "n1" ∧
          r.leaseExpiresUnixMs = 90 := by
  have hstart : processMachine.ReachableWhere (fun _ a => a.scoped)
      ⟨true, newRouteState 1800000000000 ∅, []⟩ := ConsoleProcess.started fun _ _ => trivial
  have hscoped : isValidPersistedTerminalSessionID "obx:o:s" = true := by decide
  have hreserve := hstart.step (ProcessAction.op (.reserve "obx:o:s" "n1" 5)) hscoped rfl
  have hcommit :=
    hreserve.step (ProcessAction.op (.commit "obx:o:s" "n1" 1 90 6 none)) trivial rfl
  obtain ⟨s, hs, hroutes⟩ := rows_agree_with_routes.2 _ hcommit rfl 0 80
  refine ⟨_, hcommit, rfl, rfl, ?_, s, hs, ?_⟩
  · exact (rows_agree_with_routes.1 _ (hcommit.mono fun _ _ _ => trivial) rfl _ _ _).mpr
      ⟨_, rfl, rfl, by decide, by decide, rfl, rfl⟩
  · exact (hroutes "obx:o:s" "n1" 90).mpr
      ⟨by decide, _, rfl, rfl, by decide, by decide, rfl, rfl⟩

/-- A confirmed route that never got a lease from its worker is offered for recovery
    with a lease made up from the route TTL, which has no row: the first reservation
    of a session is confirmed in memory by a cancelled dispatch, and then its worker
    reconnects. -/
theorem recovery_lease_without_row :
    ∃ p r, processMachine.Reachable p ∧ p.serving = true ∧
      p.state.route "obx:o:s" = some r ∧ r.reservationID = 0 ∧ 0 < r.leaseExpiresUnixMs ∧
      p.state.rows.lookup "obx:o:s" = none := by
  refine ⟨_, _, Machine.reachable_run
    [.op (.reserve "obx:o:s" "n1" 5), .op (.confirm "obx:o:s" "n1" 1 6),
      .op (.beginRecovery "n1" 7 none)] (ConsoleProcess.started fun _ _ => trivial) rfl, rfl, rfl, rfl, ?_, rfl⟩
  decide

end Onlyboxes.Console
