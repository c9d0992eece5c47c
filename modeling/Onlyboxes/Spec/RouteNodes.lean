import Onlyboxes.Spec.RoutePersistence

/-!
# Routes of one worker

When neither the table nor the store has a route of a worker, only a reservation on that
worker can give it one: confirmations, commits and recovery reports work on the routes
there are.

## Key results

- `rows_exec`: where the rows of the store come from
- `NodeFree.exec`: a worker without routes stays without them
- `nodeFree_deleteByNode`: deleting the routes of a worker deletes them all
-/

namespace Onlyboxes.Console

open Text

/-! ## Rows -/

namespace RouteState

variable (s : RouteState) {fault : StoreFault}

theorem rows_clearReservation (sessionID nodeID : String) (id : Nat) :
    (s.clearTerminalSessionRouteReservation sessionID nodeID id).1.rows = s.rows := by
  obtain ⟨-, h⟩ | ⟨r, -, -, -, -, ⟨-, h⟩ | ⟨-, h⟩⟩ := clearReservation_cases s sessionID nodeID id
  · rw [h]
  · rw [h]
    rfl
  · rw [h]
    exact rows_delete _ _ _

/-- The row a commit writes is one of the worker its route names. -/
theorem rows_commit (sessionID nodeID : String) (id : Nat) (lease now : Int) (fault : StoreFault)
    {k : String} {w : TerminalSessionRow}
    (hw : (s.commitConfirmedTerminalSessionRoute sessionID nodeID id lease now
      fault).1.rows.lookup k = some w) :
    s.rows.lookup k = some w ∨ ∃ r, s.route k = some r ∧ w.nodeID = r.nodeID := by
  obtain ⟨r, rows, -, hr, hn, -, hrows, h⟩ | ⟨-, h⟩ | ⟨err, h⟩ :=
    commit_cases s sessionID nodeID id lease now fault
  · rw [h] at hw
    obtain ⟨w', rfl, hnode, -⟩ := upsert_eq_ok hrows
    rcases AList.lookup_insert_cases hw with ⟨hk, rfl⟩ | ⟨-, hw⟩
    · rw [trimSpace_trimSpace] at hk hnode
      rw [hk]
      exact .inr ⟨r, hr, hnode.trans hn.symm⟩
    · exact .inl hw
  · rw [h] at hw
    exact .inl hw
  · rw [h] at hw
    exact .inl hw

/-- A row was there before, or it is the row of a route that a result confirms. -/
theorem rows_exec (op : RouteOp) {k : String} {w : TerminalSessionRow}
    (hw : (op.exec s).rows.lookup k = some w) :
    s.rows.lookup k = some w ∨ ∃ r, s.route k = some r ∧ w.nodeID = r.nodeID := by
  cases op with
  | reserve sessionID preferredNodeID now =>
    obtain ⟨-, h⟩ | ⟨r, -, h⟩ | ⟨-, -, -, h⟩ := reserve_cases s sessionID preferredNodeID now
    all_goals
      simp only [RouteOp.exec, h] at hw
      exact .inl hw
  | claim sessionID now =>
    obtain ⟨r, -, h⟩ | h := claim_cases s sessionID now
    all_goals
      simp only [RouteOp.exec, h] at hw
      exact .inl hw
  | confirm sessionID nodeID id now =>
    obtain ⟨r, -, -, -, h⟩ | ⟨-, h⟩ := confirm_cases s sessionID nodeID id now
    all_goals
      simp only [RouteOp.exec, h] at hw
      exact .inl hw
  | commit sessionID nodeID id lease now fault =>
    simp only [RouteOp.exec] at hw
    exact rows_commit s sessionID nodeID id lease now fault hw
  | clearReservation sessionID nodeID id =>
    simp only [RouteOp.exec, rows_clearReservation] at hw
    exact .inl hw
  | _ => exact .inl ((RouteOp.removes s rfl).rows k w hw)

/-! ## Workers without routes -/

/-- Neither the table nor the store names the worker. -/
structure NodeFree (s : RouteState) (n : String) : Prop where
  routes : ∀ k r, s.route k = some r → r.nodeID ≠ n
  rows : ∀ k w, s.rows.lookup k = some w → w.nodeID ≠ n

variable {s} {n : String}

/-- A worker without routes stays without them unless a dispatch reserves one on it. -/
theorem NodeFree.exec (h : NodeFree s n) (op : RouteOp)
    (hop : ∀ sessionID nodeID now, op = .reserve sessionID nodeID now →
      trimSpace sessionID ≠ "" → s.route (trimSpace sessionID) = none → trimSpace nodeID ≠ n) :
    NodeFree (op.exec s) n where
  routes k r hr := by
    obtain ⟨sessionID, nodeID, now, rfl, hk, -, hnone, hopen⟩ | hupdates := op.cases s
    · rw [hopen, route_openRoute] at hr
      split at hr
      · cases hr
        exact hop sessionID nodeID now rfl hk hnone
      · exact h.routes k r hr
    · obtain ⟨r₀, hr₀, hsame⟩ := hupdates.sameIncarnation hr
      rw [hsame.node]
      exact h.routes k r₀ hr₀
  rows k w hw := by
    rcases s.rows_exec op hw with hold | ⟨r, hr, hnode⟩
    · exact h.rows k w hold
    · rw [hnode]
      exact h.routes k r hr

/-- After its routes were deleted, a worker has none. -/
theorem nodeFree_deleteByNode (hidx : IndexOK s) (hn : trimSpace n ≠ "") {removed : Nat}
    (h : (s.deleteTerminalSessionRoutesByNode n fault).2 = .ok removed) :
    NodeFree (s.deleteTerminalSessionRoutesByNode n fault).1 (trimSpace n) := by
  unfold deleteTerminalSessionRoutesByNode at h ⊢
  dsimp only at h ⊢
  rw [if_neg hn] at h ⊢
  split at h
  · nomatch h
  · rename_i rows hrows
    obtain rfl := deleteTerminalSessionRoutesByNode_eq_ok hrows
    rw [trimSpace_trimSpace]
    constructor
    · intro k r hr
      dsimp only at hr
      rw [route_deleteOfNodes hidx] at hr
      obtain ⟨r₀, -, hfate⟩ := Option.bind_eq_some_iff.mp hr
      unfold removalFate at hfate
      split at hfate
      · rename_i hother
        cases hfate
        exact hother
      · nomatch hfate
    · intro k w hw
      dsimp only at hw
      rw [rows_deleteOfNodes] at hw
      dsimp only at hw
      rw [AList.lookup_filter, Option.filter_eq_some_iff] at hw
      simpa using hw.2

end RouteState

end Onlyboxes.Console
