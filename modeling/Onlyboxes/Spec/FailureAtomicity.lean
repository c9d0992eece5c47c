import Onlyboxes.ForStd.List
import Onlyboxes.Spec.CrashRecovery

/-!
# Failing store calls

`RouteOp.storeCall` is the call an operation makes to the store, with its result.
When that call fails, the operation leaves every persisted route as it was and
says so: it returns an error, or a result without the route. All operations but
pruning even leave the whole table as it was; pruning still drops routes that have
no lease, and so no row.

## Key results

- `RouteOp.kept_of_storeCall_error`: a failed call changes nothing, pruning apart
- `prune_keeps_leased`: a prune whose call failed
- `failed_store_call_keeps_routes`: the statement for all operations
-/

namespace Onlyboxes.Console

open Text RouteState

/-- The call to the store inside an operation and its result, or `none` if the
    operation does not get as far as calling the store. -/
def RouteOp.storeCall (s : RouteState) : RouteOp → Option (Except String TerminalSessionRows)
  | .commit sessionID nodeID id lease now fault =>
    if lease ≤ 0 then none
    else if trimSpace sessionID = "" ∨ trimSpace nodeID = "" then none
    else match s.route (trimSpace sessionID) with
      | none => none
      | some route =>
        if ownsReservation route (trimSpace nodeID) id = false then none
        else some (s.rows.upsertConfirmedTerminalSessionRoute (trimSpace sessionID)
          { nodeID := trimSpace nodeID
            leaseExpiresUnixMs := if route.leaseExpiresUnixMs < lease then lease
              else route.leaseExpiresUnixMs
            lastUsedUnixMs := now
            createdAtUnixMs := if route.createdAtUnixMs ≤ 0 then now else route.createdAtUnixMs
            updatedAtUnixMs := now } fault)
  | .snapshot sessionID now fault =>
    if trimSpace sessionID = "" then none
    else match s.route (trimSpace sessionID) with
      | none => none
      | some route =>
        if leaseExpired route now then
          some (s.rows.deleteTerminalSessionRoute (trimSpace sessionID) route.nodeID fault)
        else none
  | .clearRoute sessionID nodeID fault =>
    if trimSpace sessionID = "" then none
    else match s.route (trimSpace sessionID) with
      | none => none
      | some route =>
        if trimSpace nodeID ≠ "" ∧ route.nodeID ≠ trimSpace nodeID then none
        else if 0 < route.leaseExpiresUnixMs then
          some (s.rows.deleteTerminalSessionRoute (trimSpace sessionID) route.nodeID fault)
        else none
  | .deleteByNode nodeID fault =>
    if trimSpace nodeID = "" then none
    else some (s.rows.deleteTerminalSessionRoutesByNode (trimSpace nodeID) fault)
  | .beginRecovery nodeID now fault =>
    if trimSpace nodeID = "" then none
    else batchCall s (s.recoveryExpired (trimSpace nodeID) now) fault
  | .applyReport nodeID candidates report now fault =>
    match collectRecoveryResults candidates report ∅ with
    | .error _ => none
    | .ok results =>
      if results.keys.length ≠ candidates.keys.length then none
      else if (candidateList candidates).any (s.candidateMoved nodeID) then none
      else batchCall s (s.reportDeleteRefs nodeID (candidateList candidates) results now) fault
  | .prune now fault => some (s.rows.deleteExpiredTerminalSessionRoutes now fault)
  | .maybePrune now fault =>
    if 0 < s.lastTerminalRoutePruneUnixMs ∧
        now - s.lastTerminalRoutePruneUnixMs < terminalRoutePruneMinIntervalMs then none
    else some (s.rows.deleteExpiredTerminalSessionRoutes now fault)
  | .list _ now pruneFault fault =>
    batchCall (s.maybePruneTerminalSessionRoutes now pruneFault)
      ((s.maybePruneTerminalSessionRoutes now pruneFault).listExpired now) fault
  | .delete ownerID sessionID now snapshotFault clearFault =>
    if normalizeTaskOwnerID ownerID = "" ∨ trimSpace sessionID = "" then none
    else deleteCall s
      (scopeTerminalSessionID (normalizeTaskOwnerID ownerID) (trimSpace sessionID)) now
      snapshotFault clearFault
  | .reserve .. | .claim .. | .confirm .. | .markUnavailable .. | .clearReservation .. => none
where
  /-- A batch deletion is not called for an empty batch. -/
  batchCall (s : RouteState) (refs : List TerminalSessionRouteRef) (fault : StoreFault) :
      Option (Except String TerminalSessionRows) :=
    if refs = [] then none else some (s.rows.deleteTerminalSessionRoutes refs fault)
  /-- `DeleteTerminalSession` deletes the row of an expired route or of an active one. -/
  deleteCall (s : RouteState) (key : String) (now : Int) (snapshotFault clearFault : StoreFault) :
      Option (Except String TerminalSessionRows) :=
    match s.route (trimSpace key) with
    | none => none
    | some route =>
      if leaseExpired route now then
        some (s.rows.deleteTerminalSessionRoute (trimSpace key) route.nodeID snapshotFault)
      else if isConfirmedActiveTerminalSessionRoute route now = false then none
      else if 0 < route.leaseExpiresUnixMs then
        some (s.rows.deleteTerminalSessionRoute (trimSpace key) route.nodeID clearFault)
      else none

/-- How an operation reports that its store call failed: with an error, or with a
    result that leaves out the routes the call was for. -/
def RouteOp.ReportsFailure (s : RouteState) : RouteOp → Prop
  | .commit sessionID nodeID id lease now fault =>
    ∃ err, (s.commitConfirmedTerminalSessionRoute sessionID nodeID id lease now fault).2 = .error err
  | .snapshot sessionID now fault => (s.terminalSessionRouteSnapshot sessionID now fault).2 = none
  | .clearRoute sessionID nodeID fault =>
    ∃ err, (s.clearTerminalSessionRoute sessionID nodeID fault).2 = .error err
  | .deleteByNode nodeID fault =>
    ∃ err, (s.deleteTerminalSessionRoutesByNode nodeID fault).2 = .error err
  | .beginRecovery nodeID now fault =>
    ∃ err, (s.beginTerminalSessionRecovery nodeID now fault).2 = .error err
  | .applyReport nodeID candidates report now fault =>
    ∃ err, (s.applyTerminalSessionRecoveryReport nodeID candidates report now fault).2 = .error err
  | .prune now fault =>
    -- The count is the number of routes that are gone.
    (s.pruneExpiredTerminalSessionRoutes now fault).2 +
      (s.pruneExpiredTerminalSessionRoutes now fault).1.terminalSessionToNode.keys.length =
      s.terminalSessionToNode.keys.length
  | .maybePrune .. => True
  | .list ownerID now pruneFault fault =>
    ∀ v ∈ (s.listTerminalSessions ownerID now pruneFault fault).2, ∃ k r,
      (s.listTerminalSessions ownerID now pruneFault fault).1.route k = some r ∧
        leaseExpired r now = false ∧ listView (normalizeTaskOwnerID ownerID) now k r = some v
  | .delete ownerID sessionID now snapshotFault clearFault =>
    (s.deleteTerminalSession ownerID sessionID now snapshotFault clearFault).2 = .ok false ∨
      ∃ err, (s.deleteTerminalSession ownerID sessionID now snapshotFault clearFault).2 = .error err
  | .reserve .. | .claim .. | .confirm .. | .markUnavailable .. | .clearReservation .. => True

/-! ## Operations that change nothing -/

section Unchanged

variable {s : RouteState} {err : String}

variable {fault : StoreFault}

theorem commit_of_storeCall_error {sessionID nodeID : String} {id : Nat} {lease now : Int}
    (h : (RouteOp.commit sessionID nodeID id lease now fault).storeCall s = some (.error err)) :
    s.commitConfirmedTerminalSessionRoute sessionID nodeID id lease now fault =
      (s, .error ("persist terminal session route: " ++ err)) := by
  simp only [RouteOp.storeCall] at h
  obtain ⟨hlease, h⟩ := Option.ite_none_left_eq_some.mp h
  obtain ⟨hblank, h⟩ := Option.ite_none_left_eq_some.mp h
  unfold commitConfirmedTerminalSessionRoute
  dsimp only
  rw [if_neg hlease, if_neg hblank]
  split at h
  · nomatch h
  · rename_i r hr
    obtain ⟨hown, h⟩ := Option.ite_none_left_eq_some.mp h
    simp only [hr, if_neg hown]
    rw [Option.some.inj h]

variable {now : Int}

theorem snapshot_of_storeCall_error {sessionID : String}
    (h : (RouteOp.snapshot sessionID now fault).storeCall s = some (.error err)) :
    s.terminalSessionRouteSnapshot sessionID now fault = (s, none) := by
  simp only [RouteOp.storeCall] at h
  obtain ⟨hblank, h⟩ := Option.ite_none_left_eq_some.mp h
  unfold terminalSessionRouteSnapshot
  dsimp only
  rw [if_neg hblank]
  split at h
  · nomatch h
  · rename_i r hr
    obtain ⟨hexp, h⟩ := Option.ite_none_right_eq_some.mp h
    simp only [hr, if_pos hexp]
    rw [Option.some.inj h]

theorem clearRoute_of_storeCall_error {sessionID nodeID : String}
    (h : (RouteOp.clearRoute sessionID nodeID fault).storeCall s = some (.error err)) :
    s.clearTerminalSessionRoute sessionID nodeID fault =
      (s, .error ("delete terminal session route: " ++ err)) := by
  simp only [RouteOp.storeCall] at h
  obtain ⟨hblank, h⟩ := Option.ite_none_left_eq_some.mp h
  unfold clearTerminalSessionRoute
  dsimp only
  rw [if_neg hblank]
  split at h
  · nomatch h
  · rename_i r hr
    obtain ⟨hnode, h⟩ := Option.ite_none_left_eq_some.mp h
    obtain ⟨hlease, h⟩ := Option.ite_none_right_eq_some.mp h
    simp only [hr, if_neg hnode, if_pos hlease]
    rw [Option.some.inj h]

variable {nodeID : String}

theorem deleteByNode_of_storeCall_error
    (h : (RouteOp.deleteByNode nodeID fault).storeCall s = some (.error err)) :
    s.deleteTerminalSessionRoutesByNode nodeID fault =
      (s, .error ("delete terminal session routes for worker: " ++ err)) := by
  simp only [RouteOp.storeCall] at h
  obtain ⟨hblank, h⟩ := Option.ite_none_left_eq_some.mp h
  unfold RouteState.deleteTerminalSessionRoutesByNode
  dsimp only
  rw [if_neg hblank, Option.some.inj h]

/-- A failed batch call is a failed `deleteRows`. -/
theorem deleteRows_of_batchCall_error {refs : List TerminalSessionRouteRef}
    (h : RouteOp.storeCall.batchCall s refs fault = some (.error err)) :
    refs ≠ [] ∧ s.deleteRows refs fault = .error err := by
  obtain ⟨hne, h⟩ := Option.ite_none_left_eq_some.mp h
  refine ⟨hne, ?_⟩
  unfold deleteRows
  rw [if_neg hne, Option.some.inj h]

theorem begin_of_storeCall_error
    (h : (RouteOp.beginRecovery nodeID now fault).storeCall s = some (.error err)) :
    s.beginTerminalSessionRecovery nodeID now fault =
      (s, .error ("delete expired recovery candidates: " ++ err)) := by
  simp only [RouteOp.storeCall] at h
  obtain ⟨hblank, h⟩ := Option.ite_none_left_eq_some.mp h
  unfold beginTerminalSessionRecovery
  dsimp only
  rw [if_neg hblank, (deleteRows_of_batchCall_error h).2]

theorem apply_of_storeCall_error {candidates : GoMap String Int}
    {report : List (Option RecoveryResult)}
    (h : (RouteOp.applyReport nodeID candidates report now fault).storeCall s = some (.error err)) :
    s.applyTerminalSessionRecoveryReport nodeID candidates report now fault =
      (s, .error ("persist terminal session recovery report: " ++ err)) := by
  simp only [RouteOp.storeCall] at h
  unfold applyTerminalSessionRecoveryReport
  split at h
  · nomatch h
  · rename_i results hcollect
    obtain ⟨hlen, h⟩ := Option.ite_none_left_eq_some.mp h
    obtain ⟨hnode, h⟩ := Option.ite_none_left_eq_some.mp h
    simp only [hcollect]
    rw [if_neg hlen, if_neg hnode, (deleteRows_of_batchCall_error h).2]

theorem delete_of_storeCall_error (hwf : WellFormed s) {ownerID sessionID : String}
    {f₁ f₂ : StoreFault}
    (h : (RouteOp.delete ownerID sessionID now f₁ f₂).storeCall s = some (.error err)) :
    (s.deleteTerminalSession ownerID sessionID now f₁ f₂).1 = s ∧
      ((s.deleteTerminalSession ownerID sessionID now f₁ f₂).2 = .ok false ∨
        ∃ err, (s.deleteTerminalSession ownerID sessionID now f₁ f₂).2 = .error err) := by
  simp only [RouteOp.storeCall] at h
  obtain ⟨hblank, h⟩ := Option.ite_none_left_eq_some.mp h
  unfold RouteState.deleteTerminalSession
  dsimp only
  rw [if_neg hblank]
  generalize scopeTerminalSessionID (normalizeTaskOwnerID ownerID) (trimSpace sessionID) = key at h ⊢
  unfold RouteOp.storeCall.deleteCall at h
  split at h
  · nomatch h
  · rename_i r hr
    have hok := hwf.routes _ r hr
    split at h
    · -- The row of an expired route could not be deleted: the session is not found.
      rename_i hexp
      have hcall : (RouteOp.snapshot key now f₁).storeCall s = some (.error err) := by
        simp only [RouteOp.storeCall, if_neg hok.key.2, hr, if_pos hexp, h]
      rw [snapshot_of_storeCall_error hcall]
      exact ⟨rfl, .inl rfl⟩
    · rename_i hexp
      obtain ⟨hactive, h⟩ := Option.ite_none_left_eq_some.mp h
      obtain ⟨hlease, h⟩ := Option.ite_none_right_eq_some.mp h
      have hsnap : s.terminalSessionRouteSnapshot key now f₁ = (s, some r) := by
        unfold terminalSessionRouteSnapshot
        simp only [if_neg hok.key.2, hr, if_neg hexp]
      have hcall : (RouteOp.clearRoute key r.nodeID f₂).storeCall s = some (.error err) := by
        simp only [RouteOp.storeCall, if_neg hok.key.2, hr, hok.node.1, ne_eq,
          not_true_eq_false, and_false, if_false, if_pos hlease, h]
      rw [hsnap]
      dsimp only
      rw [if_neg hactive, clearRoute_of_storeCall_error hcall]
      exact ⟨rfl, .inr ⟨_, rfl⟩⟩

end Unchanged

/-! ## Pruning -/

section Prune

variable {s : RouteState}

/-- What the prune loop has done so far: routes are only removed, the removed ones are
    counted and revoked, and all of them were due. -/
structure PruneProgress (s : RouteState) (ttl now : Int) (ok : Bool) (acc : RouteState × Nat) :
    Prop where
  sub : ∀ k r, acc.1.route k = some r → s.route k = some r
  revoked : ∃ gone, acc.1.revoked = s.revoked ++ gone ∧
    ∀ k ∈ gone, ∃ r, s.route k = some r ∧ pruneDue ttl now ok r = true
  count : acc.2 + acc.1.terminalSessionToNode.keys.length = s.terminalSessionToNode.keys.length

theorem PruneProgress.step {ttl now : Int} {ok : Bool} {acc : RouteState × Nat}
    (h : PruneProgress s ttl now ok acc) (k : String) :
    PruneProgress s ttl now ok (pruneRoute ttl now ok acc k) := by
  unfold pruneRoute
  split
  · exact h
  · rename_i r hr
    split
    · rename_i hdue
      refine ⟨fun k' r' hr' => ?_, ?_, ?_⟩
      · rw [route_delete] at hr'
        split at hr'
        · nomatch hr'
        · exact h.sub k' r' hr'
      · obtain ⟨gone, hgone, hall⟩ := h.revoked
        refine ⟨gone ++ [k], ?_, List.forall_mem_concat hall ⟨r, h.sub _ r hr, hdue⟩⟩
        rw [revoked_delete, hgone, List.append_assoc]
      · have hmem : k ∈ acc.1.terminalSessionToNode.keys := AList.mem_keys_of_lookup hr
        have hlen := List.length_erase_of_mem hmem
        have hpos := List.length_pos_of_mem hmem
        have hcount := h.count
        dsimp only
        rw [terminalSessionToNode_delete, AList.keys_erase, hlen]
        omega
    · exact h

/-- A prune whose store call failed only removes routes without a lease. -/
theorem prune_keeps_leased {now : Int} {fault : StoreFault} {err : String}
    (h : s.rows.deleteExpiredTerminalSessionRoutes now fault = .error err) :
    PruneProgress s s.terminalRouteTTL now false (s.pruneExpiredTerminalSessionRoutes now fault) ∧
    (s.pruneExpiredTerminalSessionRoutes now fault).1.rows = s.rows ∧
    ∀ k r, s.route k = some r → 0 < r.leaseExpiresUnixMs →
      (s.pruneExpiredTerminalSessionRoutes now fault).1.route k = some r := by
  refine ⟨?_, ?_, fun k r hr hpos => ?_⟩
  · simp only [pruneExpiredTerminalSessionRoutes, h]
    refine List.foldl_invariant (P := PruneProgress s s.terminalRouteTTL now false) _ ?_
      fun acc k _ hacc => hacc.step k
    exact ⟨fun _ _ h => h, ⟨[], by simp, by simp⟩, Nat.zero_add _⟩
  · simp only [pruneExpiredTerminalSessionRoutes, h, rows_pruneRoutes]
  · rw [route_prune, h, hr, Option.bind_some]
    simp [pruneFate, pruneDue, hpos, Except.toBool]

/-- A prune whose store call succeeded leaves no route with a lease that is over. -/
theorem listExpired_prune {now : Int} {fault : StoreFault} {rows : TerminalSessionRows}
    (h : s.rows.deleteExpiredTerminalSessionRoutes now fault = .ok rows) :
    (s.pruneExpiredTerminalSessionRoutes now fault).1.listExpired now = [] := by
  rw [List.eq_nil_iff_forall_not_mem]
  intro ref href
  obtain ⟨r, hr, -, hexp⟩ := mem_listExpired.mp href
  rw [route_prune, h, Option.bind_eq_some_iff] at hr
  obtain ⟨r₀, -, hfate⟩ := hr
  unfold pruneFate at hfate
  split at hfate
  · nomatch hfate
  · rename_i hdue
    cases hfate
    simp only [leaseExpired, Bool.and_eq_true, decide_eq_true_eq] at hexp
    exact hdue (by simp [pruneDue, hexp, Except.toBool])

end Prune

/-! ## All operations -/

/-- Nothing that is persisted changed: the rows are the same, and so are the routes of
    persisted sessions, with their index entries and their proxy routes. -/
structure PersistedKept (s s' : RouteState) : Prop where
  rows : s'.rows = s.rows
  routes : ∀ k w, s.rows.lookup k = some w →
    s'.route k = s.route k ∧ ∀ n, k ∈ s'.indexed n ↔ k ∈ s.indexed n
  revoked : ∃ gone, s'.revoked = s.revoked ++ gone ∧ ∀ k w, s.rows.lookup k = some w → k ∉ gone

theorem PersistedKept.refl (s : RouteState) : PersistedKept s s :=
  ⟨rfl, fun _ _ _ => ⟨rfl, fun _ => Iff.rfl⟩, [], by simp, by simp⟩

variable {s : RouteState} {fallback : List String} {now : Int} {fault : StoreFault} {err : String}

/-- A failed prune keeps what is persisted, because persisted routes have a lease. -/
theorem PersistedKept.prune (hwf : WellFormed s) (hag : Agrees s fallback)
    (h : s.rows.deleteExpiredTerminalSessionRoutes now fault = .error err) :
    PersistedKept s (s.pruneExpiredTerminalSessionRoutes now fault).1 := by
  obtain ⟨hprogress, hrows, hkeep⟩ := prune_keeps_leased h
  have hwf' := hwf.changes (removes_prune s now fault).quiets.updates.changes
  refine ⟨hrows, fun k w hw => ?_, ?_⟩
  · obtain ⟨r, hr, -, hpos, -⟩ := (hag k).route_of_row w hw
    have hroute : (s.pruneExpiredTerminalSessionRoutes now fault).1.route k = s.route k := by
      rw [hkeep k r hr hpos, hr]
    refine ⟨hroute, fun n => ?_⟩
    rw [hwf'.mem_iff, hwf.mem_iff, hroute]
  · obtain ⟨gone, hgone, hall⟩ := hprogress.revoked
    refine ⟨gone, hgone, fun k w hw hk => ?_⟩
    obtain ⟨r, hr, -, hpos, -⟩ := (hag k).route_of_row w hw
    obtain ⟨r', hr', hdue⟩ := hall k hk
    obtain rfl : r' = r := Option.mem_unique hr' hr
    simp [pruneDue, hpos] at hdue

theorem PersistedKept.maybePrune (hwf : WellFormed s) (hag : Agrees s fallback)
    (h : s.rows.deleteExpiredTerminalSessionRoutes now fault = .error err) :
    PersistedKept s (s.maybePruneTerminalSessionRoutes now fault) := by
  unfold RouteState.maybePruneTerminalSessionRoutes
  split
  · exact .refl s
  · have hwf₁ : WellFormed { s with lastTerminalRoutePruneUnixMs := now } :=
      ⟨⟨hwf.mem_iff, hwf.nonempty⟩, hwf.routes⟩
    have hkept := PersistedKept.prune (s := { s with lastTerminalRoutePruneUnixMs := now })
      hwf₁ hag h
    exact ⟨hkept.rows, hkept.routes, hkept.revoked⟩

/-- If the listing still finds expired routes after its prune, the prune did not
    delete their rows: it was not due, or its own call failed. -/
theorem PersistedKept.maybePrune_of_expired (hwf : WellFormed s) (hag : Agrees s fallback)
    (h : (s.maybePruneTerminalSessionRoutes now fault).listExpired now ≠ []) :
    PersistedKept s (s.maybePruneTerminalSessionRoutes now fault) := by
  cases hcall : s.rows.deleteExpiredTerminalSessionRoutes now fault with
  | error err => exact .maybePrune hwf hag hcall
  | ok rows =>
    unfold RouteState.maybePruneTerminalSessionRoutes at h ⊢
    split
    · exact .refl s
    · rename_i hdue
      rw [if_neg hdue] at h
      exact absurd (listExpired_prune (s := { s with lastTerminalRoutePruneUnixMs := now }) hcall) h

/-- The views of a listing come from routes that are not expired. -/
theorem listViews_not_expired {ownerID : String} {v : TerminalSessionView}
    (h : v ∈ s.listViews ownerID now) :
    ∃ k r, s.route k = some r ∧ leaseExpired r now = false ∧ listView ownerID now k r = some v := by
  unfold listViews at h
  rw [List.mem_mergeSort, List.mem_filterMap] at h
  obtain ⟨k, -, hv⟩ := h
  obtain ⟨r, hr, hview⟩ := Option.bind_eq_some_iff.mp hv
  refine ⟨k, r, hr, ?_, hview⟩
  unfold listView at hview
  split at hview
  · nomatch hview
  · rename_i hcond
    rw [not_or, Bool.not_eq_true] at hcond
    exact hcond.1

/-- A failed store call keeps what is persisted, and is reported. -/
theorem RouteOp.kept_of_storeCall_error (hwf : WellFormed s) (hag : Agrees s fallback)
    {op : RouteOp} (h : op.storeCall s = some (.error err)) :
    PersistedKept s (op.exec s) ∧ op.ReportsFailure s := by
  cases op with
  | reserve sessionID nodeID now | claim sessionID now | confirm sessionID nodeID id now
  | markUnavailable nodeID | clearReservation sessionID nodeID id => cases h
  | commit sessionID nodeID id lease now fault =>
    simp only [exec, ReportsFailure, commit_of_storeCall_error h]
    exact ⟨.refl s, _, rfl⟩
  | snapshot sessionID now fault =>
    simp only [exec, ReportsFailure, snapshot_of_storeCall_error h]
    exact ⟨.refl s, trivial⟩
  | beginRecovery nodeID now fault =>
    simp only [exec, ReportsFailure, begin_of_storeCall_error h]
    exact ⟨.refl s, _, rfl⟩
  | applyReport nodeID candidates report now fault =>
    simp only [exec, ReportsFailure, apply_of_storeCall_error h]
    exact ⟨.refl s, _, rfl⟩
  | clearRoute sessionID nodeID fault =>
    simp only [exec, ReportsFailure, clearRoute_of_storeCall_error h]
    exact ⟨.refl s, _, rfl⟩
  | deleteByNode nodeID fault =>
    simp only [exec, ReportsFailure, deleteByNode_of_storeCall_error h]
    exact ⟨.refl s, _, rfl⟩
  | prune now fault =>
    have hcall := Option.some.inj h
    exact ⟨.prune hwf hag hcall, (prune_keeps_leased hcall).1.count⟩
  | maybePrune now fault =>
    simp only [storeCall] at h
    split at h
    · cases h
    · exact ⟨.maybePrune hwf hag (Option.some.inj h), trivial⟩
  | list ownerID now pruneFault fault =>
    obtain ⟨hne, hrows⟩ := deleteRows_of_batchCall_error h
    have hkept := PersistedKept.maybePrune_of_expired hwf hag hne
    simp only [exec, ReportsFailure, listTerminalSessions, listTerminalSessionsLocked, hrows]
    exact ⟨hkept, fun v hv => listViews_not_expired hv⟩
  | delete ownerID sessionID now f₁ f₂ =>
    obtain ⟨hstate, hreply⟩ := delete_of_storeCall_error hwf h
    simp only [exec, ReportsFailure, hstate]
    exact ⟨.refl s, hreply⟩

/-- `beginTerminalSessionRecovery` changes all of its routes or none. -/
theorem begin_all_or_none (hidx : IndexOK s) (nodeID : String) (now : Int) (fault : StoreFault) :
    (s.beginTerminalSessionRecovery nodeID now fault).1 = s ∨
    ∀ k, (s.beginTerminalSessionRecovery nodeID now fault).1.route k =
      (s.route k).bind (beginFate s (trimSpace nodeID) now) := by
  unfold beginTerminalSessionRecovery
  dsimp only
  split
  · exact .inl rfl
  · split
    · exact .inl rfl
    · exact .inr (route_beginOK hidx _ now _)

/-- `applyTerminalSessionRecoveryReport` changes all of its routes or none. -/
theorem apply_all_or_none (s : RouteState) (nodeID : String) (candidates : GoMap String Int)
    (report : List (Option RecoveryResult)) (now : Int) (fault : StoreFault) :
    (s.applyTerminalSessionRecoveryReport nodeID candidates report now fault).1 = s ∨
    ∃ results, (s.applyTerminalSessionRecoveryReport nodeID candidates report now fault).2 =
        .ok results ∧
      ∀ k, (s.applyTerminalSessionRecoveryReport nodeID candidates report now fault).1.route k =
        (s.route k).bind (applyFate nodeID candidates results now k) := by
  unfold applyTerminalSessionRecoveryReport
  split
  · exact .inl rfl
  · split
    · exact .inl rfl
    · split
      · exact .inl rfl
      · dsimp only
        split
        · exact .inl rfl
        · exact .inr ⟨_, rfl, route_applyOK _ _ _ _ _⟩

/-- In every reachable state, when the store call inside an operation fails, every
    route with a row keeps all its fields and its index entry, none of their proxy
    routes is revoked, no row changes, and the operation reports an error or leaves the
    route out of its result. The two steps of the recovery handshake change all of
    their routes or none. -/
theorem failed_store_call_keeps_routes (p : ConsoleProcess) (h : processMachine.Reachable p)
    (hserving : p.serving = true) :
    (∀ (op : RouteOp) (err : String), op.storeCall p.state = some (.error err) →
      (op.exec p.state).rows = p.state.rows ∧
      (∀ k w, p.state.rows.lookup k = some w →
        (op.exec p.state).route k = p.state.route k ∧
        ∀ n, k ∈ (op.exec p.state).indexed n ↔ k ∈ p.state.indexed n) ∧
      (∃ gone, (op.exec p.state).revoked = p.state.revoked ++ gone ∧
        ∀ k w, p.state.rows.lookup k = some w → k ∉ gone) ∧
      op.ReportsFailure p.state) ∧
    (∀ nodeID now fault,
      (p.state.beginTerminalSessionRecovery nodeID now fault).1 = p.state ∨
      ∀ k, (p.state.beginTerminalSessionRecovery nodeID now fault).1.route k =
        (p.state.route k).bind (beginFate p.state (trimSpace nodeID) now)) ∧
    (∀ nodeID candidates report now fault,
      (p.state.applyTerminalSessionRecoveryReport nodeID candidates report now fault).1 =
        p.state ∨
      ∃ results, (p.state.applyTerminalSessionRecoveryReport nodeID candidates report now
          fault).2 = .ok results ∧
        ∀ k, (p.state.applyTerminalSessionRecoveryReport nodeID candidates report now
          fault).1.route k = (p.state.route k).bind (applyFate nodeID candidates results now k)) := by
  obtain ⟨hwf, hag⟩ := (ConsoleProcess.reachable_inv h).up hserving
  refine ⟨fun op err herr => ?_, begin_all_or_none hwf.toIndexOK, apply_all_or_none p.state⟩
  obtain ⟨hkept, hreport⟩ := RouteOp.kept_of_storeCall_error hwf hag herr
  exact ⟨hkept.rows, hkept.routes, hkept.revoked, hreport⟩

/-- The row of an expired session cannot be deleted: the prune leaves its route and
    drops a confirmed session that never got a lease. -/
theorem failed_store_call_keeps_routes_prune :
    ∃ p, processMachine.Reachable p ∧ p.serving = true ∧
      (RouteOp.prune 2000000 (some "disk")).storeCall p.state = some (.error "disk") ∧
      p.state.route "obx:o:t" ≠ none ∧
      ((RouteOp.prune 2000000 (some "disk")).exec p.state).route "obx:o:t" = none ∧
      ((RouteOp.prune 2000000 (some "disk")).exec p.state).route "obx:o:s" =
        p.state.route "obx:o:s" := by
  have hreach := Machine.reachable_run (M := processMachine)
    [.op (.reserve "obx:o:s" "n1" 5), .op (.commit "obx:o:s" "n1" 1 90 6 none),
      .op (.reserve "obx:o:t" "n1" 7), .op (.confirm "obx:o:t" "n1" 2 8)]
    (ConsoleProcess.started fun _ _ => trivial) rfl
  have hfailed := (failed_store_call_keeps_routes _ hreach rfl).1 (.prune 2000000 (some "disk"))
    "disk" rfl
  exact ⟨_, hreach, rfl, rfl, by decide, by decide, (hfailed.2.1 "obx:o:s" _ rfl).1⟩

end Onlyboxes.Console
