import Onlyboxes.ForStd.GoMap
import Onlyboxes.ForStd.Text

/-!
# The persisted terminal session routes

The `terminal_session_routes` table of SQLite and the statements of
`queries/terminal_session_routes.sql` as `registry.Store` runs them. The primary
key is the scoped session id, so the table is a map from it to the other columns.

A store call either takes effect and succeeds or fails without effect. Which of
the two happens is decided from outside: every operation that calls the store
takes a `StoreFault`.
-/

namespace Onlyboxes.Console

open Text

/-- The columns of `terminal_session_routes` beside the primary key. -/
structure TerminalSessionRow where
  nodeID : String
  leaseExpiresUnixMs : Int
  lastUsedUnixMs : Int
  createdAtUnixMs : Int
  updatedAtUnixMs : Int
  deriving DecidableEq, Repr

/-- `terminal_session_routes`, by `scoped_session_id`. -/
abbrev TerminalSessionRows := GoMap String TerminalSessionRow

structure TerminalSessionRouteRef where
  scopedSessionID : String
  nodeID : String
  deriving DecidableEq, Repr

/-- The error a store call fails with, or `none` when the call succeeds. -/
abbrev StoreFault := Option String

namespace TerminalSessionRows

/-- `ON CONFLICT(scoped_session_id) DO UPDATE`: times only move forward and the
    creation time stays. -/
def mergeOnConflict (existing excluded : TerminalSessionRow) : TerminalSessionRow :=
  { existing with
    leaseExpiresUnixMs := max existing.leaseExpiresUnixMs excluded.leaseExpiresUnixMs
    lastUsedUnixMs := max existing.lastUsedUnixMs excluded.lastUsedUnixMs
    updatedAtUnixMs := max existing.updatedAtUnixMs excluded.updatedAtUnixMs }

/-- `UpsertConfirmedTerminalSessionRoute`. A row of another worker is not
    overwritten: the statement then changes no row, which is an error. -/
def upsertConfirmedTerminalSessionRoute (rows : TerminalSessionRows)
    (scopedSessionID : String) (row : TerminalSessionRow) (fault : StoreFault) :
    Except String TerminalSessionRows :=
  let scopedSessionID := trimSpace scopedSessionID
  let row := { row with nodeID := trimSpace row.nodeID }
  if scopedSessionID = "" ∨ row.nodeID = "" ∨ row.leaseExpiresUnixMs ≤ 0 then
    .error "invalid terminal session route"
  else match fault with
    | some err => .error err
    | none =>
      match rows.lookup scopedSessionID with
      | none => .ok (rows.insert scopedSessionID row)
      | some existing =>
        if existing.nodeID = row.nodeID then
          .ok (rows.insert scopedSessionID (mergeOnConflict existing row))
        else .error "terminal session route belongs to another worker"

/-- `DELETE ... WHERE scoped_session_id = ? AND node_id = ?`. -/
def deleteBySessionAndNode (rows : TerminalSessionRows) (ref : TerminalSessionRouteRef) :
    TerminalSessionRows :=
  rows.filter fun sessionID row =>
    !(sessionID == trimSpace ref.scopedSessionID && row.nodeID == trimSpace ref.nodeID)

def deleteTerminalSessionRoute (rows : TerminalSessionRows) (scopedSessionID expectedNodeID : String)
    (fault : StoreFault) : Except String TerminalSessionRows :=
  match fault with
  | some err => .error err
  | none => .ok (rows.deleteBySessionAndNode ⟨scopedSessionID, expectedNodeID⟩)

/-- `DeleteTerminalSessionRoutes`: the listed rows, in one transaction. -/
def deleteTerminalSessionRoutes (rows : TerminalSessionRows) (refs : List TerminalSessionRouteRef)
    (fault : StoreFault) : Except String TerminalSessionRows :=
  match fault with
  | some err => .error err
  | none => .ok (refs.foldl deleteBySessionAndNode rows)

def deleteTerminalSessionRoutesByNode (rows : TerminalSessionRows) (nodeID : String)
    (fault : StoreFault) : Except String TerminalSessionRows :=
  match fault with
  | some err => .error err
  | none => .ok (rows.filter fun _ row => row.nodeID != trimSpace nodeID)

def deleteExpiredTerminalSessionRoutes (rows : TerminalSessionRows) (nowUnixMs : Int)
    (fault : StoreFault) : Except String TerminalSessionRows :=
  match fault with
  | some err => .error err
  | none => .ok (rows.filter fun _ row => decide (nowUnixMs < row.leaseExpiresUnixMs))

/-- `LoadActiveTerminalSessionRoutes`, ordered by node and session id. -/
def loadActiveTerminalSessionRoutes (rows : TerminalSessionRows) (nowUnixMs : Int)
    (fault : StoreFault) : Except String (List (String × TerminalSessionRow)) :=
  match fault with
  | some err => .error err
  | none =>
    let active := (rows.entries.map fun e => (e.1, e.2)).filter
      fun e => decide (nowUnixMs < e.2.leaseExpiresUnixMs)
    .ok (active.mergeSort fun a b =>
      decide (a.2.nodeID < b.2.nodeID) || (a.2.nodeID == b.2.nodeID && decide (a.1 ≤ b.1)))

end TerminalSessionRows

end Onlyboxes.Console
