import Onlyboxes.Spec.RouteFates

/-!
# Routes in memory and in the store

The store holds the rows of confirmed routes with a lease. Every operation that
changes both sides changes them together, also when its store call fails, so the
two agree after every sequence of operations. The one place where they part is
`beginTerminalSessionRecovery`: a confirmed route that never got a lease is offered
for recovery with a lease made up from the route TTL, which is not persisted.

## Key results

- `Agrees`: what the rows say about the routes, up to the made-up leases
- `Agrees.reserve` ... `Agrees.delete`: every operation keeps the agreement
-/

namespace Onlyboxes.Console

open Text

namespace RouteState

/-- The row and the route of one session agree. `fallback` says that the lease in
    memory was made up when a recovery began. -/
structure Coherent (row : Option TerminalSessionRow) (route : Option TerminalSessionRoute)
    (fallback : Prop) : Prop where
  route_of_row : ∀ w, row = some w → ∃ r, route = some r ∧ r.reservationID = 0 ∧
    0 < r.leaseExpiresUnixMs ∧ w.nodeID = r.nodeID ∧ w.leaseExpiresUnixMs = r.leaseExpiresUnixMs
  row_of_route : ∀ r, route = some r → r.reservationID = 0 → 0 < r.leaseExpiresUnixMs →
    (row = none ↔ fallback)

/-- Rows and routes agree, apart from the made-up leases of the sessions in
    `fallback`. -/
def Agrees (s : RouteState) (fallback : List String) : Prop :=
  ∀ k, Coherent (s.rows.lookup k) (s.route k) (k ∈ fallback)

section Coherent

variable {row : Option TerminalSessionRow} {r r' : TerminalSessionRoute} {fallback : Prop}

theorem Coherent.absent (fallback : Prop) : Coherent none none fallback :=
  ⟨nofun, nofun⟩

/-- A session without a route has no row. -/
theorem Coherent.row_eq_none (h : Coherent row none fallback) : row = none := by
  cases hw : row with
  | none => rfl
  | some w =>
    obtain ⟨r, hr, -⟩ := h.route_of_row w hw
    nomatch hr

section

variable (h : Coherent row (some r) fallback)

include h

/-- A route without a lease has no row. -/
theorem Coherent.row_eq_none_of_lease (hl : r.leaseExpiresUnixMs ≤ 0) : row = none := by
  cases hw : row with
  | none => rfl
  | some w =>
    obtain ⟨r', hr', -, hpos, -⟩ := h.route_of_row w hw
    cases hr'
    omega

/-- A provisional route has no row. -/
theorem Coherent.row_eq_none_of_reservation (hres : r.reservationID ≠ 0) : row = none := by
  cases hw : row with
  | none => rfl
  | some w =>
    obtain ⟨r', hr', hzero, -⟩ := h.route_of_row w hw
    cases hr'
    exact absurd hzero hres

/-- A row names the node of the route. -/
theorem Coherent.node_eq {w : TerminalSessionRow} (hw : row = some w) :
    w.nodeID = r.nodeID ∧ w.leaseExpiresUnixMs = r.leaseExpiresUnixMs := by
  obtain ⟨r', hr', -, -, hn, hl⟩ := h.route_of_row w hw
  cases hr'
  exact ⟨hn, hl⟩

/-- Updates that leave node and lease alone keep the agreement; a provisional route
    may be confirmed as long as it has no lease. -/
theorem Coherent.renew (hn : r'.nodeID = r.nodeID)
    (hl : r'.leaseExpiresUnixMs = r.leaseExpiresUnixMs)
    (hres : r'.reservationID = r.reservationID ∨ r.leaseExpiresUnixMs ≤ 0) :
    Coherent row (some r') fallback := by
  refine ⟨fun w hw => ?_, fun r₁ hr₁ hzero hpos => ?_⟩
  · obtain ⟨r₀, hr₀, hzero, hpos, hwn, hwl⟩ := h.route_of_row w hw
    cases hr₀
    rcases hres with hres | hres
    · exact ⟨r', rfl, hres.trans hzero, hl ▸ hpos, hwn.trans hn.symm, hwl.trans hl.symm⟩
    · omega
  · cases hr₁
    rcases hres with hres | hres
    · exact h.row_of_route r rfl (hres ▸ hzero) (hl ▸ hpos)
    · omega

end

end Coherent

section Ops

variable {s : RouteState} {fallback : List String} {k : String} {r : TerminalSessionRoute}

variable (h : Agrees s fallback)

include h

theorem Agrees.putRoute {r' : TerminalSessionRoute}
    (hr : s.route k = some r) (hn : r'.nodeID = r.nodeID)
    (hl : r'.leaseExpiresUnixMs = r.leaseExpiresUnixMs)
    (hres : r'.reservationID = r.reservationID ∨ r.leaseExpiresUnixMs ≤ 0) :
    Agrees (s.putRoute k r') fallback := by
  intro k'
  rw [rows_putRoute, route_putRoute]
  split
  · rename_i hk
    subst hk
    have hcell := h k'
    rw [hr] at hcell
    exact hcell.renew hn hl hres
  · exact h k'

/-- A route without a row is deleted from memory only. -/
theorem Agrees.deleteRoute (hr : s.route k = some r)
    (hrow : s.rows.lookup k = none) :
    Agrees (s.deleteTerminalSessionRouteLocked k r) fallback := by
  intro k'
  rw [rows_delete, route_delete]
  split
  · rename_i hk
    subst hk
    rw [hrow]
    exact .absent _
  · exact h k'

/-- A route with a row is deleted from the store and from memory. -/
theorem Agrees.deleteRowAndRoute (hok : RouteOK k r)
    (hr : s.route k = some r) :
    Agrees ({ s with rows := s.rows.deleteBySessionAndNode ⟨k, r.nodeID⟩
      }.deleteTerminalSessionRouteLocked k r) fallback := by
  intro k'
  rw [rows_delete, route_delete, TerminalSessionRows.lookup_deleteBySessionAndNode, hok.key.1,
    hok.node.1]
  have hcell := h k'
  by_cases hk : k' = k
  · subst hk
    rw [hr] at hcell
    rw [if_pos rfl]
    cases hw : s.rows.lookup k' with
    | none => exact .absent _
    | some w =>
      rw [Option.filter_some, (hcell.node_eq hw).1]
      simp only [beq_self_eq_true, Bool.and_self, Bool.not_true, Bool.false_eq_true, if_false]
      exact .absent _
  · have hbeq : (k' == k) = false := by simpa using hk
    rw [if_neg hk]
    simp only [hbeq, Bool.false_and, Bool.not_false, Option.filter_const_true]
    exact hcell

/-! ## Operations on one session -/

theorem Agrees.claim (sessionID : String) (now : Int) :
    Agrees (s.claimTerminalSessionRoute sessionID now).1 fallback := by
  obtain ⟨r, hr, heq⟩ | heq := claim_cases s sessionID now
  · rw [heq]
    exact h.putRoute hr rfl rfl (.inl rfl)
  · rw [heq]
    exact h

theorem Agrees.confirm (hwf : WellFormed s) (sessionID nodeID : String)
    (id : Nat) (now : Int) :
    Agrees (s.confirmTerminalSessionRoute sessionID nodeID id now).1 fallback := by
  obtain ⟨r, hr, -, -, heq⟩ | ⟨-, heq⟩ := confirm_cases s sessionID nodeID id now
  · rw [heq]
    unfold confirmed
    split
    · refine h.putRoute hr rfl rfl ?_
      -- Confirming keeps a confirmed route, and a provisional one has no lease.
      by_cases hres : r.reservationID = 0
      · exact .inl hres.symm
      · exact .inr (Int.le_of_eq ((hwf.routes _ r hr).provisional hres).1)
    · exact h.putRoute hr rfl rfl (.inl rfl)
  · rw [heq]
    exact h

theorem Agrees.clearReservation (sessionID nodeID : String) (id : Nat) :
    Agrees (s.clearTerminalSessionRouteReservation sessionID nodeID id).1 fallback := by
  obtain ⟨-, heq⟩ | ⟨r, hr, hid, -, hres, ⟨-, heq⟩ | ⟨-, heq⟩⟩ :=
    clearReservation_cases s sessionID nodeID id
  · rw [heq]
    exact h
  · rw [heq]
    exact h.putRoute hr rfl rfl (.inl rfl)
  · have hcell := h (trimSpace sessionID)
    rw [hr] at hcell
    rw [heq]
    exact h.deleteRoute hr (hcell.row_eq_none_of_reservation (hres ▸ hid))

variable {fault : StoreFault}

theorem Agrees.clearRoute (hwf : WellFormed s) (sessionID nodeID : String)
    (fault : StoreFault) :
    Agrees (s.clearTerminalSessionRoute sessionID nodeID fault).1 fallback := by
  obtain ⟨r, rows, hr, -, rfl | ⟨hlease, rfl⟩, heq⟩ | ⟨-, result, heq⟩ :=
    clearRoute_cases s sessionID nodeID fault
  · rw [heq]
    exact h.deleteRowAndRoute (hwf.routes _ r hr) hr
  · have hcell := h (trimSpace sessionID)
    rw [hr] at hcell
    rw [heq]
    exact h.deleteRoute hr (hcell.row_eq_none_of_lease hlease)
  · rw [heq]
    exact h

theorem Agrees.snapshot (hwf : WellFormed s) (sessionID : String)
    (now : Int) (fault : StoreFault) :
    Agrees (s.terminalSessionRouteSnapshot sessionID now fault).1 fallback := by
  obtain ⟨result, -, heq⟩ | ⟨r, hr, -, heq⟩ := snapshot_cases s sessionID now fault
  · rw [heq]
    exact h
  · rw [heq]
    exact h.deleteRowAndRoute (hwf.routes _ r hr) hr

theorem Agrees.delete (hwf : WellFormed s) (ownerID sessionID : String)
    (now : Int) (f₁ f₂ : StoreFault) :
    Agrees (s.deleteTerminalSession ownerID sessionID now f₁ f₂).1 fallback := by
  unfold deleteTerminalSession
  dsimp only
  split
  · exact h
  · generalize hkey : scopeTerminalSessionID (normalizeTaskOwnerID ownerID) (trimSpace sessionID) = key
    have hsnap := h.snapshot hwf key now f₁
    have hwf' := hwf.changes (removes_snapshot s key now f₁).quiets.updates.changes
    generalize s.terminalSessionRouteSnapshot key now f₁ = snap at hsnap hwf' ⊢
    obtain ⟨s', _ | r⟩ := snap
    · exact hsnap
    · dsimp only
      split
      · exact hsnap
      · have hclear := hsnap.clearRoute hwf' key r.nodeID f₂
        generalize s'.clearTerminalSessionRoute key r.nodeID f₂ = cleared at hclear ⊢
        obtain ⟨s'', _ | _⟩ := cleared <;> exact hclear

theorem Agrees.reserve (sessionID nodeID : String) (now : Int) :
    Agrees (s.reserveTerminalSessionRoute sessionID nodeID now).1 fallback := by
  obtain ⟨-, heq⟩ | ⟨r, hr, heq⟩ | ⟨-, -, hnone, heq⟩ := reserve_cases s sessionID nodeID now
  · rw [heq]
    exact h
  · rw [heq]
    exact h.putRoute hr rfl rfl (.inl rfl)
  · rw [heq]
    intro k
    have hrow : ((s.openRoute (trimSpace sessionID) (trimSpace nodeID) now)).rows = s.rows := rfl
    dsimp only
    rw [hrow, route_openRoute]
    split
    · rename_i hk
      -- A session without a route has no row, and a fresh reservation no lease.
      have hcell := h k
      rw [hk, hnone] at hcell
      rw [hk, hcell.row_eq_none]
      refine ⟨nofun, fun r hr _ hpos => ?_⟩
      cases hr
      exact absurd hpos (Int.lt_irrefl 0)
    · exact h k

omit h in
/-- What a successful upsert writes. -/
theorem upsert_eq_ok {rows rows' : TerminalSessionRows} {k : String} {row : TerminalSessionRow}
    (h : rows.upsertConfirmedTerminalSessionRoute k row fault = .ok rows') :
    ∃ w, rows' = rows.insert (trimSpace k) w ∧ w.nodeID = trimSpace row.nodeID ∧
      (rows.lookup (trimSpace k) = none ∧ w.leaseExpiresUnixMs = row.leaseExpiresUnixMs ∨
        ∃ e, rows.lookup (trimSpace k) = some e ∧
          w.leaseExpiresUnixMs = max e.leaseExpiresUnixMs row.leaseExpiresUnixMs) := by
  unfold TerminalSessionRows.upsertConfirmedTerminalSessionRoute at h
  dsimp only at h
  split at h
  · nomatch h
  · split at h
    · nomatch h
    · split at h
      · rename_i hnone
        exact ⟨_, (Except.ok.inj h).symm, rfl, .inl ⟨hnone, rfl⟩⟩
      · rename_i e he
        split at h
        · rename_i hn
          exact ⟨_, (Except.ok.inj h).symm, hn, .inr ⟨e, he, rfl⟩⟩
        · nomatch h

/-- A commit takes the session out of the made-up leases, unless it fails. -/
def commitFallback (sessionID : String) (result : Except String Bool) (fallback : List String) :
    List String :=
  match result with
  | .ok true => fallback.filter (· ≠ trimSpace sessionID)
  | _ => fallback

theorem Agrees.commit (sessionID nodeID : String)
    (id : Nat) (lease now : Int) (fault : StoreFault) :
    Agrees (s.commitConfirmedTerminalSessionRoute sessionID nodeID id lease now fault).1
      (commitFallback sessionID
        (s.commitConfirmedTerminalSessionRoute sessionID nodeID id lease now fault).2 fallback) := by
  obtain ⟨r, rows, hlease, hr, hnode, -, hrows, heq⟩ | ⟨-, heq⟩ | ⟨err, heq⟩ :=
    commit_cases s sessionID nodeID id lease now fault
  · rw [heq]
    obtain ⟨w, rfl, hwn, hwl⟩ := upsert_eq_ok hrows
    intro k
    have hcell := h k
    simp only [rows_putRoute, route_putRoute, trimSpace_trimSpace,
      AList.lookup_insert_ite, commitFallback, List.mem_filter, decide_eq_true_eq]
    by_cases hk : k = trimSpace sessionID
    · subst hk
      rw [hr] at hcell
      have hrl : w.leaseExpiresUnixMs = (committed id lease now r).leaseExpiresUnixMs := by
        rw [trimSpace_trimSpace] at hwl
        rcases hwl with ⟨-, hwl⟩ | ⟨e, he, hwl⟩
        · exact hwl
        · dsimp only [committed] at hwl ⊢
          rw [hwl, (hcell.node_eq he).2]
          split <;> omega
      simp only [if_true, ne_eq, not_true_eq_false, and_false]
      refine ⟨fun w' hw' => ?_, fun _ _ _ _ => by simp⟩
      cases hw'
      refine ⟨_, rfl, rfl, ?_, ?_, hrl⟩
      · dsimp only [committed]
        split <;> omega
      · rw [hwn, trimSpace_trimSpace]
        exact hnode.symm
    · simp only [hk, if_false, ne_eq, not_false_eq_true, and_true]
      exact hcell
  · rw [heq]
    exact h
  · rw [heq]
    exact h

/-! ## Batch operations -/

/-- References to routes of a well-formed table name them exactly. -/
def RefsOK (refs : List TerminalSessionRouteRef) : Prop :=
  ∀ ref ∈ refs, trimSpace ref.scopedSessionID = ref.scopedSessionID ∧
    trimSpace ref.nodeID = ref.nodeID

variable {refs : List TerminalSessionRouteRef}

omit h in
/-- The rows a batch deletion leaves. -/
theorem lookup_deleteRows (hrefs : RefsOK refs) {rows : TerminalSessionRows}
    (h : s.deleteRows refs fault = .ok rows) (k : String) :
    rows.lookup k = (s.rows.lookup k).filter fun w => decide (⟨k, w.nodeID⟩ ∉ refs) := by
  unfold deleteRows at h
  split at h
  · rename_i hnil
    cases h
    simp [hnil, Option.filter_const_true]
  · unfold TerminalSessionRows.deleteTerminalSessionRoutes at h
    split at h
    · nomatch h
    · cases h
      rw [TerminalSessionRows.lookup_deleteTerminalSessionRoutes]
      congr 1
      funext w
      rw [Bool.eq_iff_iff]
      simp only [Bool.not_eq_true', List.any_eq_false, Bool.and_eq_true, beq_iff_eq,
        decide_eq_true_eq]
      constructor
      · intro hall hmem
        obtain ⟨hk, hn⟩ := hrefs _ hmem
        exact hall _ hmem ⟨hk.symm, hn.symm⟩
      · rintro hnot ref href ⟨hk, hn⟩
        obtain ⟨hk', hn'⟩ := hrefs ref href
        rw [hk'] at hk
        rw [hk, hn, hn'] at hnot
        exact hnot href

variable {s' : RouteState}

/-- A batch deletes the rows of `refs` and gives every route its fate. The two sides
    stay in agreement if exactly the referenced routes with a lease are deleted. -/
theorem Agrees.batch (hrefs : RefsOK refs) {rows : TerminalSessionRows}
    (hrows : s.deleteRows refs fault = .ok rows)
    (fate : String → TerminalSessionRoute → Option TerminalSessionRoute) {fallback' : List String}
    (hrows' : s'.rows = rows) (hroute : ∀ k, s'.route k = (s.route k).bind (fate k))
    (hdelete : ∀ k r, s.route k = some r → fate k r = none → ⟨k, r.nodeID⟩ ∈ refs ∨ r.leaseExpiresUnixMs ≤ 0)
    (hkeep : ∀ k r r', s.route k = some r → fate k r = some r' → ⟨k, r.nodeID⟩ ∉ refs ∧ (Coherent (s.rows.lookup k) (some r) (k ∈ fallback) → Coherent (s.rows.lookup k) (some r') (k ∈ fallback'))) :
    Agrees s' fallback' := by
  intro k
  have hcell := h k
  rw [hrows', lookup_deleteRows hrefs hrows, hroute]
  cases hr : s.route k with
  | none =>
    rw [hr] at hcell
    rw [hcell.row_eq_none]
    exact .absent _
  | some r =>
    rw [hr] at hcell
    cases hf : fate k r with
    | none =>
      rw [Option.bind_some, hf]
      have hgone : (s.rows.lookup k).filter (fun w => decide (⟨k, w.nodeID⟩ ∉ refs)) = none := by
        cases hw : s.rows.lookup k with
        | none => rfl
        | some w =>
          rw [Option.filter_some, (hcell.node_eq hw).1]
          rcases hdelete k r hr hf with hmem | hl
          · simp [hmem]
          · rw [hcell.row_eq_none_of_lease hl] at hw
            nomatch hw
      rw [hgone]
      exact .absent _
    | some r' =>
      rw [Option.bind_some, hf]
      obtain ⟨hnot, hcoh⟩ := hkeep k r r' hr hf
      have hstay : (s.rows.lookup k).filter (fun w => decide (⟨k, w.nodeID⟩ ∉ refs)) =
          s.rows.lookup k := by
        cases hw : s.rows.lookup k with
        | none => rfl
        | some w =>
          rw [Option.filter_some, (hcell.node_eq hw).1]
          simp [hnot]
      rw [hstay]
      exact hcoh hcell

omit h in
/-- References collected from the table name its routes. -/
theorem refsOK_of_routes (hwf : WellFormed s)
    (h : ∀ ref ∈ refs, ∃ r, s.route ref.scopedSessionID = some r ∧ ref.nodeID = r.nodeID) :
    RefsOK refs := by
  intro ref href
  obtain ⟨r, hr, hn⟩ := h ref href
  have hok := hwf.routes _ r hr
  exact ⟨hok.key.1, hn ▸ hok.node.1⟩

theorem Agrees.listLocked (hwf : WellFormed s) (ownerID : String)
    (now : Int) (fault : StoreFault) :
    Agrees (s.listTerminalSessionsLocked ownerID now fault).1 fallback := by
  unfold listTerminalSessionsLocked
  dsimp only
  split
  · exact h
  · rename_i rows hrows
    have hrefs : RefsOK (s.listExpired now) := refsOK_of_routes hwf fun ref href => by
      obtain ⟨r, hr, hn, -⟩ := mem_listExpired.mp href
      exact ⟨r, hr, hn⟩
    refine h.batch hrefs hrows (fun k r => if ⟨k, r.nodeID⟩ ∈ s.listExpired now
      then none else some r) (rows_deleteRefs _ _) (fun k => ?_) (fun k r hr hf => ?_)
      fun k r r' hr hf => ?_
    · rw [route_deleteRefs]
      change (s.route k).filter _ = _
      cases s.route k with
      | none => rfl
      | some r => by_cases hmem : (⟨k, r.nodeID⟩ : TerminalSessionRouteRef) ∈ s.listExpired now <;>
          simp [Option.filter_some, hmem]
    · by_contra hcon
      rw [not_or] at hcon
      rw [if_neg hcon.1] at hf
      nomatch hf
    · split at hf
      · nomatch hf
      · rename_i hnot
        cases hf
        exact ⟨hnot, id⟩

/-- The sessions whose lease a recovery makes up. -/
def beginFallback (s s' : RouteState) : List String :=
  s'.terminalSessionToNode.keys.filter fun k =>
    match s.route k, s'.route k with
    | some r, some r' => decide (r.leaseExpiresUnixMs ≤ 0) && decide (0 < r'.leaseExpiresUnixMs)
    | _, _ => false

omit h in
@[simp] theorem beginFallback_self (s : RouteState) : beginFallback s s = [] := by
  unfold beginFallback
  rw [List.filter_eq_nil_iff]
  intro k _
  split
  · rename_i r r' hr hr'
    obtain rfl : r = r' := Option.mem_unique hr hr'
    simp only [Bool.and_eq_true, decide_eq_true_eq, not_and]
    omega
  · simp

theorem Agrees.beginRecovery (hwf : WellFormed s) (nodeID : String)
    (now : Int) (fault : StoreFault) :
    Agrees (s.beginTerminalSessionRecovery nodeID now fault).1
      (beginFallback s (s.beginTerminalSessionRecovery nodeID now fault).1 ++ fallback) := by
  unfold beginTerminalSessionRecovery
  dsimp only
  split
  · rw [beginFallback_self]
    exact h
  · split
    · rw [beginFallback_self]
      exact h
    · rename_i rows hrows
      dsimp only
      generalize hs' : (s.recoveryCandidates (trimSpace nodeID) now).foldl
        (markReconciling (trimSpace nodeID)) ((s.recoveryExpired (trimSpace nodeID) now).foldl
          deleteRef { s with rows := rows }) = s'
      have hroute : ∀ k, s'.route k = (s.route k).bind (beginFate s (trimSpace nodeID) now) := by
        intro k
        rw [← hs']
        exact route_beginOK hwf.toIndexOK _ now rows k
      have hrefs : RefsOK (s.recoveryExpired (trimSpace nodeID) now) :=
        refsOK_of_routes hwf fun ref href => by
          obtain ⟨r, hr, hn, -⟩ := (mem_recoveryExpired hwf.toIndexOK).mp href
          exact ⟨r, hr, hn⟩
      refine h.batch hrefs hrows (fun _ => beginFate s (trimSpace nodeID) now) ?_ hroute
        (fun k r hr hf => ?_) fun k r r' hr hf => ?_
      · rw [← hs', rows_markReconcilings, rows_deleteRefs]
      · -- Only routes with a lease that are not recoverable are deleted.
        unfold beginFate at hf
        split at hf
        · nomatch hf
        · rename_i hn
          split at hf
          · rename_i hrec
            split at hf
            · rename_i hl
              exact .inl ((mem_recoveryExpired hwf.toIndexOK).mpr
                ⟨r, hr, rfl, not_not.mp hn, hrec, hl⟩)
            · nomatch hf
          · nomatch hf
      · have hr' : s'.route k = some r' := by rw [hroute, hr, Option.bind_some, hf]
        have hfallback : k ∈ beginFallback s s' ↔ r.leaseExpiresUnixMs ≤ 0 ∧ 0 < r'.leaseExpiresUnixMs := by
          simp [beginFallback, hr, hr', AList.mem_keys_of_lookup hr']
        simp only [mem_recoveryExpired hwf.toIndexOK, hr, Option.some.injEq, exists_eq_left',
          true_and, List.mem_append, hfallback]
        unfold beginFate at hf
        split at hf
        · rename_i hn
          cases hf
          refine ⟨fun hcon => hn hcon.1, fun hcell => ?_⟩
          rw [or_iff_right (by omega)]
          exact hcell
        · split at hf
          · split at hf
            · nomatch hf
            · rename_i hl
              cases hf
              refine ⟨fun hcon => hl hcon.2.2, fun hcell => ?_⟩
              rw [or_iff_right (by omega)]
              exact hcell
          · rename_i hrec
            refine ⟨fun hcon => hrec hcon.2.1, fun hcell => ?_⟩
            cases hf
            dsimp only
            by_cases hl : r.leaseExpiresUnixMs ≤ 0
            · -- The offered lease is made up unless the route TTL is off.
              rw [hcell.row_eq_none_of_lease hl]
              exact ⟨nofun, fun r₁ hr₁ _ hpos => by
                cases hr₁
                simp only [true_iff]
                exact .inl ⟨hl, hpos⟩⟩
            · have hlease : s.recoveryLease r = r.leaseExpiresUnixMs := by
                unfold recoveryLease
                rw [if_neg (fun hcon => hl hcon.1)]
              rw [or_iff_right (fun hcon => hl hcon.1)]
              exact hcell.renew rfl hlease (.inl rfl)

theorem Agrees.applyReport (hwf : WellFormed s) (nodeID : String)
    (candidates : GoMap String Int) (report : List (Option RecoveryResult)) (now : Int)
    (fault : StoreFault) :
    Agrees (s.applyTerminalSessionRecoveryReport nodeID candidates report now fault).1 fallback := by
  unfold applyTerminalSessionRecoveryReport
  split
  · exact h
  · rename_i results _
    split
    · exact h
    · split
      · exact h
      · dsimp only
        split
        · exact h
        · rename_i rows hrows
          have hrefs : RefsOK (s.reportDeleteRefs nodeID (candidateList candidates) results now) :=
            refsOK_of_routes hwf fun ref href => by
              obtain ⟨r, hr, hn, -⟩ := mem_reportDeleteRefs.mp href
              exact ⟨r, hr, hn⟩
          refine h.batch hrefs hrows (applyFate nodeID candidates results now)
            (Sweeps.foldl _ _ (sweeps_applyRecoveryResult _ _ _)).rows_eq (route_applyOK _ _ _ _ _)
            (fun k r hr hf => ?_) fun k r r' hr hf => ?_
          · unfold applyFate candidateFate at hf
            split at hf
            · nomatch hf
            · rename_i lease hlease
              split at hf
              · nomatch hf
              · rename_i hn
                split at hf
                · rename_i hfailed
                  by_cases hl : r.leaseExpiresUnixMs ≤ 0
                  · exact .inr hl
                  · exact .inl (mem_reportDeleteRefs.mpr
                      ⟨r, hr, rfl, not_not.mp hn, ⟨lease, hlease, hfailed⟩, by omega⟩)
                · nomatch hf
          · simp only [mem_reportDeleteRefs, hr, Option.some.injEq, exists_eq_left', true_and]
            unfold applyFate candidateFate at hf
            split at hf
            · rename_i hnone
              cases hf
              refine ⟨?_, id⟩
              rintro ⟨-, ⟨lease, hlease, -⟩, -⟩
              rw [hnone] at hlease
              nomatch hlease
            · rename_i lease hlease
              split at hf
              · rename_i hn
                cases hf
                exact ⟨fun hcon => hn hcon.1, id⟩
              · split at hf
                · nomatch hf
                · rename_i hok
                  cases hf
                  refine ⟨?_, fun hcell => hcell.renew rfl rfl (.inl rfl)⟩
                  rintro ⟨-, ⟨lease', hlease', hfailed⟩, -⟩
                  obtain rfl : lease = lease' := Option.mem_unique hlease hlease'
                  exact hok hfailed

/-- An operation without a store call that gives every route its fate. -/
theorem Agrees.fates
    {fate : TerminalSessionRoute → Option TerminalSessionRoute} (hrows : s'.rows = s.rows)
    (hroute : ∀ k, s'.route k = (s.route k).bind fate)
    (hdelete : ∀ r, fate r = none → r.reservationID ≠ 0 ∨ r.leaseExpiresUnixMs ≤ 0)
    (hkeep : ∀ r r', fate r = some r' → r'.nodeID = r.nodeID ∧ r'.leaseExpiresUnixMs = r.leaseExpiresUnixMs ∧ r'.reservationID = r.reservationID) :
    Agrees s' fallback := by
  intro k
  have hcell := h k
  rw [hrows, hroute]
  cases hr : s.route k with
  | none =>
    rw [hr] at hcell
    exact hcell
  | some r =>
    rw [hr] at hcell
    rw [Option.bind_some]
    cases hf : fate r with
    | none =>
      rcases hdelete r hf with hres | hl
      · rw [hcell.row_eq_none_of_reservation hres]
        exact .absent _
      · rw [hcell.row_eq_none_of_lease hl]
        exact .absent _
    | some r' =>
      obtain ⟨hn, hl, hres⟩ := hkeep r r' hf
      exact hcell.renew hn hl (.inl hres)

theorem Agrees.markUnavailable (hwf : WellFormed s) (nodeID : String) :
    Agrees (s.markTerminalSessionRoutesUnavailable nodeID).1 fallback := by
  by_cases hn : trimSpace nodeID = ""
  · unfold markTerminalSessionRoutesUnavailable
    rw [if_pos hn]
    exact h
  · refine h.fates ((sweeps_markUnavailable _ _).rows_eq) (route_markUnavailable hwf.toIndexOK hn)
      (fun r hf => ?_) fun r r' hf => ?_
    · unfold unavailableFate at hf
      split at hf
      · nomatch hf
      · split at hf
        · rename_i hres
          exact .inl hres
        · nomatch hf
    · unfold unavailableFate at hf
      split at hf
      · cases hf
        exact ⟨rfl, rfl, rfl⟩
      · split at hf
        · nomatch hf
        · cases hf
          exact ⟨rfl, rfl, rfl⟩

/-- An operation that keeps the rows with `p` and removes the routes without `keep`
    agrees with itself if the two say the same about a route and its row. -/
theorem Agrees.filterRows (p : TerminalSessionRow → Bool)
    (keep : TerminalSessionRoute → Prop) [DecidablePred keep]
    (hrows : ∀ k, s'.rows.lookup k = (s.rows.lookup k).filter p)
    (hroute : ∀ k, s'.route k = (s.route k).bind fun r => if keep r then some r else none)
    (hp : ∀ (r : TerminalSessionRoute) (w : TerminalSessionRow), 0 < r.leaseExpiresUnixMs → w.nodeID = r.nodeID → w.leaseExpiresUnixMs = r.leaseExpiresUnixMs → (p w = true ↔ keep r)) :
    Agrees s' fallback := by
  intro k
  have hcell := h k
  rw [hrows, hroute]
  cases hr : s.route k with
  | none =>
    rw [hr] at hcell
    rw [hcell.row_eq_none]
    exact .absent _
  | some r =>
    rw [hr] at hcell
    rw [Option.bind_some]
    cases hw : s.rows.lookup k with
    | none =>
      rw [hw] at hcell
      split
      · exact hcell
      · exact .absent _
    | some w =>
      rw [hw] at hcell
      obtain ⟨r', hr', -, hpos, hn, hl⟩ := hcell.route_of_row w rfl
      cases hr'
      have hiff := hp r w hpos hn hl
      rw [Option.filter_some]
      by_cases hkeep : keep r
      · rw [if_pos hkeep, if_pos (hiff.mpr hkeep)]
        exact hcell
      · rw [if_neg hkeep, if_neg (fun hpw => hkeep (hiff.mp hpw))]
        exact .absent _

theorem Agrees.deleteByNode (hwf : WellFormed s) (nodeID : String)
    (fault : StoreFault) :
    Agrees (s.deleteTerminalSessionRoutesByNode nodeID fault).1 fallback := by
  unfold deleteTerminalSessionRoutesByNode
  dsimp only
  split
  · exact h
  · split
    · exact h
    · rename_i rows hrows
      obtain rfl := deleteTerminalSessionRoutesByNode_eq_ok hrows
      refine h.filterRows (fun w => w.nodeID != trimSpace (trimSpace nodeID))
        (fun r => r.nodeID ≠ trimSpace nodeID) (fun k => ?_)
        (route_deleteOfNodes hwf.toIndexOK _ _) fun r w _ hn _ => ?_
      · dsimp only
        rw [rows_deleteOfNodes, AList.lookup_filter]
      · rw [trimSpace_trimSpace, hn, bne_iff_ne]

theorem Agrees.prune (now : Int) (fault : StoreFault) :
    Agrees (s.pruneExpiredTerminalSessionRoutes now fault).1 fallback := by
  have hroute := route_prune s now fault
  have hfate : ∀ ok, pruneFate s.terminalRouteTTL now ok = fun r =>
      if pruneDue s.terminalRouteTTL now ok r = false then some r else none := by
    intro ok
    funext r
    unfold pruneFate
    cases pruneDue s.terminalRouteTTL now ok r <;> rfl
  rw [hfate] at hroute
  cases hcall : s.rows.deleteExpiredTerminalSessionRoutes now fault with
  | error err =>
    -- The rows stay, and so does every route with a lease.
    rw [hcall] at hroute
    refine h.filterRows (fun _ => true) _ (fun k => ?_) hroute fun r w hpos _ _ => ?_
    · simp only [pruneExpiredTerminalSessionRoutes, hcall, rows_pruneRoutes,
        Option.filter_const_true]
    · simp [pruneDue, hpos, Except.toBool]
  | ok rows =>
    rw [hcall] at hroute
    refine h.filterRows (fun w => decide (now < w.leaseExpiresUnixMs)) _ (fun k => ?_) hroute
      fun r w hpos _ hl => ?_
    · simp only [pruneExpiredTerminalSessionRoutes, hcall, rows_pruneRoutes]
      rw [deleteExpiredTerminalSessionRoutes_eq_ok hcall]
      exact AList.lookup_filter _ _ k
    · simp [pruneDue, hpos, hl, Except.toBool]

theorem Agrees.maybePrune (now : Int) (fault : StoreFault) :
    Agrees (s.maybePruneTerminalSessionRoutes now fault) fallback := by
  unfold maybePruneTerminalSessionRoutes
  split
  · exact h
  · exact Agrees.prune (s := { s with lastTerminalRoutePruneUnixMs := now }) h now fault

theorem Agrees.list (hwf : WellFormed s) (ownerID : String) (now : Int)
    (pruneFault fault : StoreFault) :
    Agrees (s.listTerminalSessions ownerID now pruneFault fault).1 fallback :=
  (h.maybePrune now pruneFault).listLocked
    (hwf.changes (removes_maybePrune s now pruneFault).quiets.updates.changes) _ now fault

end Ops

end RouteState

end Onlyboxes.Console
