import Onlyboxes.Spec.RouteLifecycle
import Onlyboxes.ForStd.Machine

/-!
# Runs of the route table

The operations that production code performs on the route table, as the actions
of a transition system. Arguments, clock readings and store failures are part of
the action, so a run is any sequence of calls under any pattern of failures.

A run starts where the console starts: with empty maps over whatever the store
holds, before or after a successful `RestoreTerminalSessionRoutes`.

## Key results

- `RouteOp.cases`: an operation opens one route or only updates
- `RouteOp.changes`: every operation refines the life cycle of routes
-/

namespace Onlyboxes.Console

open Text RouteState

/-- One production operation on the route table, with its store failures. -/
inductive RouteOp where
  | reserve (sessionID preferredNodeID : String) (now : Int)
  | claim (sessionID : String) (now : Int)
  | confirm (sessionID nodeID : String) (reservationID : Nat) (now : Int)
  | commit (sessionID nodeID : String) (reservationID : Nat) (lease now : Int) (fault : StoreFault)
  | snapshot (sessionID : String) (now : Int) (fault : StoreFault)
  | beginRecovery (nodeID : String) (now : Int) (fault : StoreFault)
  | markUnavailable (nodeID : String)
  | applyReport (nodeID : String) (candidates : GoMap String Int)
      (report : List (Option RecoveryResult)) (now : Int) (fault : StoreFault)
  | clearReservation (sessionID nodeID : String) (reservationID : Nat)
  | clearRoute (sessionID nodeID : String) (fault : StoreFault)
  | deleteByNode (nodeID : String) (fault : StoreFault)
  | prune (now : Int) (fault : StoreFault)
  | maybePrune (now : Int) (fault : StoreFault)
  | list (ownerID : String) (now : Int) (pruneFault fault : StoreFault)
  | delete (ownerID sessionID : String) (now : Int) (snapshotFault clearFault : StoreFault)

/-- The table after an operation. -/
def RouteOp.exec (s : RouteState) : RouteOp → RouteState
  | .reserve sessionID preferredNodeID now =>
    (s.reserveTerminalSessionRoute sessionID preferredNodeID now).1
  | .claim sessionID now => (s.claimTerminalSessionRoute sessionID now).1
  | .confirm sessionID nodeID reservationID now =>
    (s.confirmTerminalSessionRoute sessionID nodeID reservationID now).1
  | .commit sessionID nodeID reservationID lease now fault =>
    (s.commitConfirmedTerminalSessionRoute sessionID nodeID reservationID lease now fault).1
  | .snapshot sessionID now fault => (s.terminalSessionRouteSnapshot sessionID now fault).1
  | .beginRecovery nodeID now fault => (s.beginTerminalSessionRecovery nodeID now fault).1
  | .markUnavailable nodeID => (s.markTerminalSessionRoutesUnavailable nodeID).1
  | .applyReport nodeID candidates report now fault =>
    (s.applyTerminalSessionRecoveryReport nodeID candidates report now fault).1
  | .clearReservation sessionID nodeID reservationID =>
    (s.clearTerminalSessionRouteReservation sessionID nodeID reservationID).1
  | .clearRoute sessionID nodeID fault => (s.clearTerminalSessionRoute sessionID nodeID fault).1
  | .deleteByNode nodeID fault => (s.deleteTerminalSessionRoutesByNode nodeID fault).1
  | .prune now fault => (s.pruneExpiredTerminalSessionRoutes now fault).1
  | .maybePrune now fault => s.maybePruneTerminalSessionRoutes now fault
  | .list ownerID now pruneFault fault => (s.listTerminalSessions ownerID now pruneFault fault).1
  | .delete ownerID sessionID now snapshotFault clearFault =>
    (s.deleteTerminalSession ownerID sessionID now snapshotFault clearFault).1

/-- The operations by which a dispatch opens and settles a route. -/
def RouteOp.settles : RouteOp → Bool
  | .reserve .. | .claim .. | .confirm .. | .commit .. | .clearReservation .. => true
  | _ => false

theorem RouteOp.removes (s : RouteState) {op : RouteOp} (h : op.settles = false) :
    Removes s (op.exec s) := by
  cases op with
  | snapshot sessionID now fault => exact removes_snapshot s sessionID now fault
  | beginRecovery nodeID now fault => exact removes_begin s nodeID now fault
  | markUnavailable nodeID => exact (sweeps_markUnavailable s nodeID).removes
  | applyReport nodeID candidates report now fault =>
    exact removes_apply s nodeID candidates report now fault
  | clearRoute sessionID nodeID fault => exact removes_clearRoute s sessionID nodeID fault
  | deleteByNode nodeID fault => exact removes_deleteByNode s nodeID fault
  | prune now fault => exact removes_prune s now fault
  | maybePrune now fault => exact removes_maybePrune s now fault
  | list ownerID now pruneFault fault => exact removes_list s ownerID now pruneFault fault
  | delete ownerID sessionID now snapshotFault clearFault =>
    exact removes_delete s ownerID sessionID now snapshotFault clearFault
  | _ => nomatch h

/-- An operation opens one route or only updates the table. -/
theorem RouteOp.cases (s : RouteState) (op : RouteOp) :
    (∃ sessionID nodeID now, op = .reserve sessionID nodeID now ∧
      trimSpace sessionID ≠ "" ∧ trimSpace nodeID ≠ "" ∧ s.route (trimSpace sessionID) = none ∧
      op.exec s = s.openRoute (trimSpace sessionID) (trimSpace nodeID) now) ∨
    Updates s (op.exec s) := by
  cases op with
  | reserve sessionID preferredNodeID now =>
    simp only [exec]
    obtain ⟨-, h⟩ | ⟨r, hr, h⟩ | ⟨hk, hn, hnone, h⟩ :=
      reserve_cases s sessionID preferredNodeID now
    · rw [h]
      exact .inr .refl
    · rw [h]
      exact .inr (.single (.settle s _ r _ hr (settles_joined r now)))
    · rw [h]
      exact .inl ⟨sessionID, preferredNodeID, now, rfl, hk, hn, hnone, rfl⟩
  | claim sessionID now => exact .inr (updates_claim s sessionID now)
  | confirm sessionID nodeID id now => exact .inr (updates_confirm s sessionID nodeID id now)
  | commit sessionID nodeID id lease now fault =>
    exact .inr (updates_commit s sessionID nodeID id lease now fault)
  | clearReservation sessionID nodeID id =>
    exact .inr (updates_clearReservation s sessionID nodeID id)
  | _ => exact .inr (removes s rfl).quiets.updates

/-- Every operation is a sequence of changes. -/
theorem RouteOp.changes (s : RouteState) (op : RouteOp) : Changes s (op.exec s) := by
  obtain ⟨sessionID, nodeID, now, -, hk, hn, hnone, h⟩ | h := op.cases s
  · rw [h]
    exact .single (.opened s _ _ now hnone ⟨trimSpace_trimSpace _, hk⟩ ⟨trimSpace_trimSpace _, hn⟩)
  · exact h.changes

/-! ## Start-up -/

/-- The table of a new console over the rows of its store. -/
def newRouteState (ttl : Int) (rows : TerminalSessionRows) : RouteState :=
  { terminalRouteTTL := ttl, rows := rows }

/-- The tables a console starts to serve with. -/
inductive RouteStarted : RouteState → Prop
  | new (ttl : Int) (rows : TerminalSessionRows) : RouteStarted (newRouteState ttl rows)
  | restored {ttl : Int} {rows : TerminalSessionRows} {now : Int} {f₁ f₂ : StoreFault}
      {s : RouteState}
      (h : (newRouteState ttl rows).restoreTerminalSessionRoutes now f₁ f₂ = (s, .ok ())) :
      RouteStarted s

/-- What a run is observed by: the table and, newest first, the reservations that
    started an incarnation of a session. -/
structure RouteLog where
  state : RouteState
  opened : List (String × Nat)

/-- The sessions that got a route between two tables, with its reservation id. -/
def openedBetween (s s' : RouteState) : List (String × Nat) :=
  s'.terminalSessionToNode.keys.filterMap fun k =>
    match s.route k, s'.route k with
    | none, some r => some (k, r.reservationID)
    | _, _ => none

/-- The route table moves on. -/
def RouteLog.advance (log : RouteLog) (state : RouteState) : RouteLog :=
  { state := state, opened := openedBetween log.state state ++ log.opened }

/-- The route table as a transition system. -/
def routeMachine : Machine RouteLog RouteOp where
  init log := RouteStarted log.state ∧ log.opened = []
  step log op := some (log.advance (op.exec log.state))

/-- Updates start no incarnation. -/
theorem openedBetween_updates {s s' : RouteState} (h : Updates s s') : openedBetween s s' = [] := by
  unfold openedBetween
  rw [List.filterMap_eq_nil_iff]
  intro k _
  split
  · rename_i r hnone hr
    obtain ⟨r₀, hr₀, -⟩ := h.sameIncarnation hr
    rw [hnone] at hr₀
    nomatch hr₀
  · rfl

theorem RouteLog.advance_updates {log : RouteLog} {s' : RouteState} (h : Updates log.state s') :
    log.advance s' = { log with state := s' } := by
  unfold advance
  rw [openedBetween_updates h]
  rfl

/-- The lookup in the table a fresh reservation leaves. -/
theorem route_openRoute (s : RouteState) (k n k' : String) (t : Int) :
    (s.openRoute k n t).route k' =
      if k' = k then
        some (provisionalRoute n t (nextReservationSeq s.terminalRouteReservationSeq))
      else s.route k' := by
  unfold openRoute
  rw [route_indexRoute, route_putRoute]
  rfl

/-- A fresh reservation starts one incarnation. -/
theorem openedBetween_openRoute {s : RouteState} {k : String} (n : String) (t : Int)
    (hnone : s.route k = none) :
    openedBetween s (s.openRoute k n t) =
      [(k, nextReservationSeq s.terminalRouteReservationSeq)] := by
  have hkeys : (s.openRoute k n t).terminalSessionToNode.keys =
      k :: s.terminalSessionToNode.keys := by
    change (s.terminalSessionToNode.insert k _).keys = _
    rw [AList.keys_insert, List.erase_of_not_mem]
    exact AList.not_mem_keys_of_lookup hnone
  unfold openedBetween
  rw [hkeys, List.filterMap_cons_some (b := (k, nextReservationSeq s.terminalRouteReservationSeq))]
  · congr 1
    rw [List.filterMap_eq_nil_iff]
    intro k' hk'
    -- Every other key had a route before.
    obtain ⟨r, hr⟩ := AList.exists_lookup_of_mem_keys hk'
    have hr : s.route k' = some r := hr
    rw [hr]
  · rw [hnone, route_openRoute, if_pos rfl]
    rfl

theorem RouteLog.advance_openRoute {log : RouteLog} {k : String} (n : String) (t : Int)
    (hnone : log.state.route k = none) :
    log.advance (log.state.openRoute k n t) =
      { state := log.state.openRoute k n t
        opened := (k, nextReservationSeq log.state.terminalRouteReservationSeq) :: log.opened } := by
  unfold advance
  rw [openedBetween_openRoute n t hnone]
  rfl

end Onlyboxes.Console
