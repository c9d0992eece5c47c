import Mathlib.Algebra.Group.Nat.Defs
import Onlyboxes.Console.RouteStore
import Onlyboxes.Console.TaskOwnerScope

/-!
# Terminal session routes

The route table of `RegistryService` (`terminal_session_routes.go`): which worker
a scoped terminal session lives on. Every operation runs under
`terminalRoutesMu`, so it is one function on `RouteState`: the two in-memory maps,
the reservation counter, the rows of the store and the log of proxy revocations.

A route starts *provisional* (`reservationID ≠ 0`) while the dispatches that
share its reservation wait for the worker, and becomes *confirmed*
(`reservationID = 0`) with the first answer that may have created the session.
-/

namespace Onlyboxes.Console

open Text

/-- `terminalSessionRecoveryState`. -/
inductive RecoveryState where
  | ready
  | unavailable
  | reconciling
  deriving DecidableEq, Repr

structure TerminalSessionRoute where
  nodeID : String
  lastUsedUnixMs : Int
  leaseExpiresUnixMs : Int := 0
  createdAtUnixMs : Int := 0
  recoveryState : RecoveryState
  /-- Non-zero only while the first dispatch is provisional. -/
  reservationID : Nat := 0
  confirmedReservationID : Nat := 0
  provisionalUses : Nat := 0
  deriving DecidableEq, Repr

/-- `TerminalSessionRecoveryResult_Status`; a peer may send a number without a name. -/
inductive RecoveryStatus where
  | unspecified
  | recovered
  | missing
  | invalid
  | unknown (value : Int)
  deriving DecidableEq, Repr

/-- `TerminalSessionRecoveryCandidate`. -/
structure RecoveryCandidate where
  sessionID : String
  leaseExpiresUnixMs : Int
  deriving DecidableEq, Repr

/-- `TerminalSessionRecoveryResult`. -/
structure RecoveryResult where
  sessionID : String
  status : RecoveryStatus
  deriving DecidableEq, Repr

structure TerminalSessionView where
  accountID : String
  sessionID : String
  workerID : String
  status : String
  leaseExpiresUnixMs : Int
  lastUsedUnixMs : Int
  createdAtUnixMs : Int
  deriving DecidableEq, Repr

/-- `routeReservationReleaseResult`. -/
inductive ReleaseResult where
  | notOwned
  | stillInUse
  | removed
  deriving DecidableEq, Repr

/-- The fields of `RegistryService` behind `terminalRoutesMu`, with the rows of
    its `terminalRouteStore` and the session ids passed to the proxy route revoker
    so far. -/
structure RouteState where
  terminalSessionToNode : GoMap String TerminalSessionRoute := ∅
  terminalNodeToSessionIDIndex : GoMap String (GoSet String) := ∅
  terminalRouteReservationSeq : Nat := 0
  /-- `terminalRouteTTL`, in nanoseconds as `time.Duration` counts. -/
  terminalRouteTTL : Int := 1800000000000
  lastTerminalRoutePruneUnixMs : Int := 0
  rows : TerminalSessionRows := ∅
  revoked : List String := []
  deriving DecidableEq

/-- `time.Duration.Milliseconds`: truncated towards zero. -/
def milliseconds (d : Int) : Int := d.tdiv 1000000

/-- `terminalRoutePruneMinInterval`, in milliseconds. -/
def terminalRoutePruneMinIntervalMs : Int := 60000

namespace RouteState

/-- The route of a session. -/
def route (s : RouteState) (sessionID : String) : Option TerminalSessionRoute :=
  s.terminalSessionToNode.lookup sessionID

/-- The sessions indexed under a node, in iteration order. -/
def indexed (s : RouteState) (nodeID : String) : List String :=
  match s.terminalNodeToSessionIDIndex.lookup nodeID with
  | none => []
  | some index => index.keys

/-- `s.terminalSessionToNode[sessionID] = route`. -/
def putRoute (s : RouteState) (sessionID : String) (route : TerminalSessionRoute) : RouteState :=
  { s with terminalSessionToNode := s.terminalSessionToNode.insert sessionID route }

/-- Adds a session to the index set of a node, creating the set on demand. -/
def indexRoute (s : RouteState) (nodeID sessionID : String) : RouteState :=
  let index := (s.terminalNodeToSessionIDIndex.lookup nodeID).getD ∅
  { s with terminalNodeToSessionIDIndex :=
      s.terminalNodeToSessionIDIndex.insert nodeID (index.insert sessionID ()) }

def deleteTerminalSessionRouteLocked (s : RouteState) (sessionID : String)
    (route : TerminalSessionRoute) : RouteState :=
  let s := { s with
    terminalSessionToNode := s.terminalSessionToNode.erase sessionID
    revoked := s.revoked ++ [sessionID] }
  match s.terminalNodeToSessionIDIndex.lookup route.nodeID with
  | none => s
  | some index =>
    let index := index.erase sessionID
    if index.keys = [] then
      { s with terminalNodeToSessionIDIndex := s.terminalNodeToSessionIDIndex.erase route.nodeID }
    else
      { s with terminalNodeToSessionIDIndex :=
          s.terminalNodeToSessionIDIndex.insert route.nodeID index }

/-- `s.terminalRouteReservationSeq++`, skipping zero when the counter wraps. -/
def nextReservationSeq (seq : Nat) : Nat :=
  let next := (seq + 1) % 2 ^ 64
  if next = 0 then (next + 1) % 2 ^ 64 else next

/-- The route a fresh reservation inserts. -/
def provisionalRoute (nodeID : String) (nowUnixMs : Int) (reservationID : Nat) :
    TerminalSessionRoute :=
  { nodeID := nodeID
    lastUsedUnixMs := nowUnixMs
    recoveryState := .ready
    reservationID := reservationID
    provisionalUses := 1 }

/-- `reserveTerminalSessionRoute`: the node the session is bound to and the
    reservation joined or opened. -/
def reserveTerminalSessionRoute (s : RouteState) (sessionID preferredNodeID : String)
    (nowUnixMs : Int) : RouteState × String × Nat :=
  let normalizedSessionID := trimSpace sessionID
  let normalizedNodeID := trimSpace preferredNodeID
  if normalizedSessionID = "" ∨ normalizedNodeID = "" then (s, "", 0)
  else match s.route normalizedSessionID with
    | some existing =>
      let existing := { existing with lastUsedUnixMs := nowUnixMs }
      if existing.reservationID ≠ 0 then
        let existing := { existing with provisionalUses := existing.provisionalUses + 1 }
        (s.putRoute normalizedSessionID existing, existing.nodeID, existing.reservationID)
      else
        (s.putRoute normalizedSessionID existing, existing.nodeID, 0)
    | none =>
      let reservationID := nextReservationSeq s.terminalRouteReservationSeq
      let s := { s with terminalRouteReservationSeq := reservationID }
      let s := s.putRoute normalizedSessionID
        (provisionalRoute normalizedNodeID nowUnixMs reservationID)
      (s.indexRoute normalizedNodeID normalizedSessionID, normalizedNodeID, reservationID)

/-- `claimTerminalSessionRoute` refreshes a route and joins its provisional
    reservation when the first dispatch has not completed yet. -/
def claimTerminalSessionRoute (s : RouteState) (sessionID : String) (nowUnixMs : Int) :
    RouteState × Option (String × Nat) :=
  let normalizedSessionID := trimSpace sessionID
  if normalizedSessionID = "" then (s, none)
  else match s.route normalizedSessionID with
    | none => (s, none)
    | some route =>
      if trimSpace route.nodeID = "" then (s, none)
      else
        let route := { route with lastUsedUnixMs := nowUnixMs }
        if route.reservationID ≠ 0 then
          let route := { route with provisionalUses := route.provisionalUses + 1 }
          (s.putRoute normalizedSessionID route, some (route.nodeID, route.reservationID))
        else
          (s.putRoute normalizedSessionID route, some (route.nodeID, 0))

/-- The ownership test of `confirm` and `commit`: the reservation is the current
    one or the one the route was confirmed with. -/
def ownsReservation (route : TerminalSessionRoute) (nodeID : String) (reservationID : Nat) : Bool :=
  route.nodeID == nodeID &&
    (route.reservationID == reservationID || route.confirmedReservationID == reservationID)

def confirmTerminalSessionRoute (s : RouteState) (sessionID expectedNodeID : String)
    (reservationID : Nat) (nowUnixMs : Int) : RouteState × Bool :=
  let normalizedSessionID := trimSpace sessionID
  let normalizedNodeID := trimSpace expectedNodeID
  if normalizedSessionID = "" ∨ normalizedNodeID = "" then (s, false)
  else match s.route normalizedSessionID with
    | none => (s, false)
    | some route =>
      if ownsReservation route normalizedNodeID reservationID = false then (s, false)
      else
        let route := { route with lastUsedUnixMs := nowUnixMs }
        if reservationID ≠ 0 then
          (s.putRoute normalizedSessionID { route with
            reservationID := 0
            confirmedReservationID := reservationID
            provisionalUses := 0 }, true)
        else
          (s.putRoute normalizedSessionID route, true)

/-- `commitConfirmedTerminalSessionRoute`: the row is written first, and only a
    written row changes the route. -/
def commitConfirmedTerminalSessionRoute (s : RouteState) (sessionID expectedNodeID : String)
    (reservationID : Nat) (leaseExpiresUnixMs nowUnixMs : Int) (fault : StoreFault) :
    RouteState × Except String Bool :=
  let normalizedSessionID := trimSpace sessionID
  let normalizedNodeID := trimSpace expectedNodeID
  if leaseExpiresUnixMs ≤ 0 then
    (s, .error "terminal session result is missing a valid lease")
  else if normalizedSessionID = "" ∨ normalizedNodeID = "" then
    (s, .error "terminal session route identity is required")
  else match s.route normalizedSessionID with
    | none => (s, .ok false)
    | some route =>
      if ownsReservation route normalizedNodeID reservationID = false then (s, .ok false)
      else
        let route := { route with
          leaseExpiresUnixMs := if route.leaseExpiresUnixMs < leaseExpiresUnixMs
            then leaseExpiresUnixMs else route.leaseExpiresUnixMs
          createdAtUnixMs := if route.createdAtUnixMs ≤ 0 then nowUnixMs else route.createdAtUnixMs }
        match s.rows.upsertConfirmedTerminalSessionRoute normalizedSessionID
            { nodeID := normalizedNodeID
              leaseExpiresUnixMs := route.leaseExpiresUnixMs
              lastUsedUnixMs := nowUnixMs
              createdAtUnixMs := route.createdAtUnixMs
              updatedAtUnixMs := nowUnixMs } fault with
        | .error err => (s, .error ("persist terminal session route: " ++ err))
        | .ok rows =>
          let s := { s with rows := rows }
          (s.putRoute normalizedSessionID { route with
            lastUsedUnixMs := nowUnixMs
            recoveryState := .ready
            reservationID := 0
            confirmedReservationID :=
              if reservationID ≠ 0 then reservationID else route.confirmedReservationID
            provisionalUses := 0 }, .ok true)

/-- A route whose lease is set and over. -/
def leaseExpired (route : TerminalSessionRoute) (nowUnixMs : Int) : Bool :=
  decide (0 < route.leaseExpiresUnixMs) && decide (route.leaseExpiresUnixMs ≤ nowUnixMs)

/-- `terminalSessionRouteSnapshot`: the route, unless its lease is over, in which
    case it is deleted from the store and then from memory. -/
def terminalSessionRouteSnapshot (s : RouteState) (sessionID : String) (nowUnixMs : Int)
    (fault : StoreFault) : RouteState × Option TerminalSessionRoute :=
  let normalizedSessionID := trimSpace sessionID
  if normalizedSessionID = "" then (s, none)
  else match s.route normalizedSessionID with
    | none => (s, none)
    | some route =>
      if leaseExpired route nowUnixMs then
        match s.rows.deleteTerminalSessionRoute normalizedSessionID route.nodeID fault with
        | .error _ => (s, none)
        | .ok rows =>
          ({ s with rows := rows }.deleteTerminalSessionRouteLocked normalizedSessionID route, none)
      else (s, some route)

/-! ## Recovery handshake -/

/-- The lease a route is offered for recovery with. A route that never got a
    lease from its worker falls back to the route TTL. -/
def recoveryLease (s : RouteState) (route : TerminalSessionRoute) : Int :=
  if route.leaseExpiresUnixMs ≤ 0 ∧ 0 < s.terminalRouteTTL then
    route.lastUsedUnixMs + milliseconds s.terminalRouteTTL
  else route.leaseExpiresUnixMs

/-- A route that is not offered: still provisional, or its lease is over. -/
def notRecoverable (s : RouteState) (route : TerminalSessionRoute) (nowUnixMs : Int) : Bool :=
  route.reservationID != 0 || decide (s.recoveryLease route ≤ nowUnixMs)

/-- The candidates `beginTerminalSessionRecoveryWithError` collects over the index. -/
def recoveryCandidates (s : RouteState) (nodeID : String) (nowUnixMs : Int) :
    List RecoveryCandidate :=
  (s.indexed nodeID).filterMap fun sessionID =>
    match s.route sessionID with
    | none => none
    | some route =>
      if route.nodeID ≠ nodeID ∨ s.notRecoverable route nowUnixMs then none
      else some ⟨sessionID, s.recoveryLease route⟩

/-- The routes the same loop finds expired. Only routes with a lease have a row. -/
def recoveryExpired (s : RouteState) (nodeID : String) (nowUnixMs : Int) :
    List TerminalSessionRouteRef :=
  (s.indexed nodeID).filterMap fun sessionID =>
    match s.route sessionID with
    | none => none
    | some route =>
      if route.nodeID = nodeID ∧ s.notRecoverable route nowUnixMs ∧ 0 < route.leaseExpiresUnixMs
      then some ⟨sessionID, route.nodeID⟩
      else none

/-- Deletes one referenced route if it still belongs to the referenced node. -/
def deleteRef (s : RouteState) (ref : TerminalSessionRouteRef) : RouteState :=
  match s.route ref.scopedSessionID with
  | none => s
  | some route =>
    if route.nodeID = ref.nodeID then
      s.deleteTerminalSessionRouteLocked ref.scopedSessionID route
    else s

/-- Gives a candidate its offered lease and holds it until the worker reports. -/
def markReconciling (nodeID : String) (s : RouteState) (candidate : RecoveryCandidate) :
    RouteState :=
  match s.route candidate.sessionID with
  | none => s
  | some route =>
    if route.nodeID ≠ nodeID then s
    else s.putRoute candidate.sessionID { route with
      leaseExpiresUnixMs := candidate.leaseExpiresUnixMs
      recoveryState := .reconciling }

/-- The store call shared by the batch deletions: none at all for no reference. -/
def deleteRows (s : RouteState) (refs : List TerminalSessionRouteRef) (fault : StoreFault) :
    Except String TerminalSessionRows :=
  if refs = [] then .ok s.rows else s.rows.deleteTerminalSessionRoutes refs fault

/-- `beginTerminalSessionRecoveryWithError`. -/
def beginTerminalSessionRecovery (s : RouteState) (nodeID : String) (nowUnixMs : Int)
    (fault : StoreFault) : RouteState × Except String (List RecoveryCandidate) :=
  let normalizedNodeID := trimSpace nodeID
  if normalizedNodeID = "" then (s, .ok [])
  else
    let candidates := s.recoveryCandidates normalizedNodeID nowUnixMs
    let expired := s.recoveryExpired normalizedNodeID nowUnixMs
    match s.deleteRows expired fault with
    | .error err => (s, .error ("delete expired recovery candidates: " ++ err))
    | .ok rows =>
      let s := expired.foldl deleteRef { s with rows := rows }
      let s := candidates.foldl (markReconciling normalizedNodeID) s
      (s, .ok (candidates.mergeSort fun a b => decide (a.sessionID ≤ b.sessionID)))

/-- The loop body of `markTerminalSessionRoutesUnavailable`, with its counter. -/
def markUnavailable (nodeID : String) (acc : RouteState × Nat) (sessionID : String) :
    RouteState × Nat :=
  match acc.1.route sessionID with
  | none => acc
  | some route =>
    if route.nodeID ≠ nodeID then acc
    else if route.reservationID ≠ 0 then
      (acc.1.deleteTerminalSessionRouteLocked sessionID route, acc.2)
    else
      (acc.1.putRoute sessionID { route with recoveryState := .unavailable }, acc.2 + 1)

def markTerminalSessionRoutesUnavailable (s : RouteState) (nodeID : String) : RouteState × Nat :=
  let normalizedNodeID := trimSpace nodeID
  if normalizedNodeID = "" then (s, 0)
  else (s.indexed normalizedNodeID).foldl (markUnavailable normalizedNodeID) (s, 0)

/-- The validation loop of `applyTerminalSessionRecoveryReport`. -/
def collectRecoveryResults (candidates : GoMap String Int) :
    List (Option RecoveryResult) → GoMap String RecoveryStatus →
      Except String (GoMap String RecoveryStatus)
  | [], results => .ok results
  | none :: rest, results => collectRecoveryResults candidates rest results
  | some result :: rest, results =>
    let sessionID := trimSpace result.sessionID
    if candidates.lookup sessionID = none then .error "recovery result is not a candidate"
    else if results.lookup sessionID ≠ none then .error "duplicate recovery result"
    else if result.status ≠ .recovered ∧ result.status ≠ .missing ∧ result.status ≠ .invalid then
      .error "invalid recovery status"
    else collectRecoveryResults candidates rest (results.insert sessionID result.status)

/-- A candidate whose route does not survive the report. -/
def recoveryFailed (results : GoMap String RecoveryStatus) (nowUnixMs : Int)
    (candidate : RecoveryCandidate) : Bool :=
  results.lookup candidate.sessionID != some .recovered ||
    (decide (0 < candidate.leaseExpiresUnixMs) &&
      decide (candidate.leaseExpiresUnixMs ≤ nowUnixMs))

/-- The rows to delete for a report. -/
def reportDeleteRefs (s : RouteState) (nodeID : String) (candidates : List RecoveryCandidate)
    (results : GoMap String RecoveryStatus) (nowUnixMs : Int) : List TerminalSessionRouteRef :=
  candidates.filterMap fun candidate =>
    match s.route candidate.sessionID with
    | none => none
    | some route =>
      if route.nodeID = nodeID ∧ recoveryFailed results nowUnixMs candidate ∧
          0 < route.leaseExpiresUnixMs
      then some ⟨candidate.sessionID, route.nodeID⟩
      else none

/-- The final loop body of `applyTerminalSessionRecoveryReport`. -/
def applyRecoveryResult (nodeID : String) (results : GoMap String RecoveryStatus)
    (nowUnixMs : Int) (s : RouteState) (candidate : RecoveryCandidate) : RouteState :=
  match s.route candidate.sessionID with
  | none => s
  | some route =>
    if route.nodeID ≠ nodeID then s
    else if recoveryFailed results nowUnixMs candidate then
      s.deleteTerminalSessionRouteLocked candidate.sessionID route
    else
      s.putRoute candidate.sessionID { route with
        recoveryState := .ready
        lastUsedUnixMs := nowUnixMs }

/-- A candidate whose route belongs to another worker by now. -/
def candidateMoved (s : RouteState) (nodeID : String) (candidate : RecoveryCandidate) : Bool :=
  match s.route candidate.sessionID with
  | none => false
  | some route => route.nodeID != nodeID

/-- The candidate map of a connection, as the list the loops range over. -/
def candidateList (candidates : GoMap String Int) : List RecoveryCandidate :=
  candidates.entries.map fun e => ⟨e.1, e.2⟩

/-- `applyTerminalSessionRecoveryReport` for a connection with node id `nodeID` and
    the candidates it was offered. -/
def applyTerminalSessionRecoveryReport (s : RouteState) (nodeID : String)
    (candidates : GoMap String Int) (report : List (Option RecoveryResult)) (nowUnixMs : Int)
    (fault : StoreFault) : RouteState × Except String (GoMap String RecoveryStatus) :=
  match collectRecoveryResults candidates report ∅ with
  | .error err => (s, .error err)
  | .ok results =>
    if results.keys.length ≠ candidates.keys.length then
      (s, .error "recovery report must cover every candidate")
    else if (candidateList candidates).any (s.candidateMoved nodeID) then
      (s, .error "recovery candidate no longer belongs to worker")
    else
      let refs := s.reportDeleteRefs nodeID (candidateList candidates) results nowUnixMs
      match s.deleteRows refs fault with
      | .error err => (s, .error ("persist terminal session recovery report: " ++ err))
      | .ok rows =>
        ((candidateList candidates).foldl (applyRecoveryResult nodeID results nowUnixMs)
          { s with rows := rows }, .ok results)

/-! ## Release and removal -/

/-- `clearTerminalSessionRouteReservation` releases one provisional dispatch. -/
def clearTerminalSessionRouteReservation (s : RouteState) (sessionID expectedNodeID : String)
    (reservationID : Nat) : RouteState × ReleaseResult :=
  let normalizedSessionID := trimSpace sessionID
  let normalizedNodeID := trimSpace expectedNodeID
  if reservationID = 0 ∨ normalizedSessionID = "" ∨ normalizedNodeID = "" then (s, .notOwned)
  else match s.route normalizedSessionID with
    | none => (s, .notOwned)
    | some route =>
      if route.nodeID ≠ normalizedNodeID ∨ route.reservationID ≠ reservationID then (s, .notOwned)
      else if 1 < route.provisionalUses then
        (s.putRoute normalizedSessionID
          { route with provisionalUses := route.provisionalUses - 1 }, .stillInUse)
      else (s.deleteTerminalSessionRouteLocked normalizedSessionID route, .removed)

/-- `clearTerminalSessionRoute`: removal by session and node. -/
def clearTerminalSessionRoute (s : RouteState) (sessionID expectedNodeID : String)
    (fault : StoreFault) : RouteState × Except String Unit :=
  let normalizedSessionID := trimSpace sessionID
  let normalizedExpectedNodeID := trimSpace expectedNodeID
  if normalizedSessionID = "" then (s, .ok ())
  else match s.route normalizedSessionID with
    | none => (s, .ok ())
    | some route =>
      if normalizedExpectedNodeID ≠ "" ∧ route.nodeID ≠ normalizedExpectedNodeID then (s, .ok ())
      else if 0 < route.leaseExpiresUnixMs then
        match s.rows.deleteTerminalSessionRoute normalizedSessionID route.nodeID fault with
        | .error err => (s, .error ("delete terminal session route: " ++ err))
        | .ok rows =>
          ({ s with rows := rows }.deleteTerminalSessionRouteLocked normalizedSessionID route, .ok ())
      else (s.deleteTerminalSessionRouteLocked normalizedSessionID route, .ok ())

/-- The loop body of `deleteTerminalSessionRoutesByNode`, with its counter. -/
def deleteOfNode (nodeID : String) (acc : RouteState × Nat) (sessionID : String) :
    RouteState × Nat :=
  match acc.1.route sessionID with
  | none => acc
  | some route =>
    if route.nodeID ≠ nodeID then acc
    else (acc.1.deleteTerminalSessionRouteLocked sessionID route, acc.2 + 1)

def deleteTerminalSessionRoutesByNode (s : RouteState) (nodeID : String) (fault : StoreFault) :
    RouteState × Except String Nat :=
  let normalizedNodeID := trimSpace nodeID
  if normalizedNodeID = "" then (s, .ok 0)
  else match s.rows.deleteTerminalSessionRoutesByNode normalizedNodeID fault with
    | .error err => (s, .error ("delete terminal session routes for worker: " ++ err))
    | .ok rows =>
      let (s', removed) := (s.indexed normalizedNodeID).foldl (deleteOfNode normalizedNodeID)
        ({ s with rows := rows }, 0)
      (s', .ok removed)

/-- Which routes a prune removes: a lease that is over once its row is gone, or,
    without a lease, a last use older than the route TTL. -/
def pruneDue (ttl nowUnixMs : Int) (persistedDeleteSucceeded : Bool)
    (route : TerminalSessionRoute) : Bool :=
  if 0 < route.leaseExpiresUnixMs then
    decide (route.leaseExpiresUnixMs ≤ nowUnixMs) && persistedDeleteSucceeded
  else decide (0 < ttl) && decide (route.lastUsedUnixMs ≤ nowUnixMs - milliseconds ttl)

/-- The loop body of `PruneExpiredTerminalSessionRoutes`, with its counter. -/
def pruneRoute (ttl nowUnixMs : Int) (persistedDeleteSucceeded : Bool)
    (acc : RouteState × Nat) (sessionID : String) : RouteState × Nat :=
  match acc.1.route sessionID with
  | none => acc
  | some route =>
    if pruneDue ttl nowUnixMs persistedDeleteSucceeded route then
      (acc.1.deleteTerminalSessionRouteLocked sessionID route, acc.2 + 1)
    else acc

def pruneExpiredTerminalSessionRoutes (s : RouteState) (nowUnixMs : Int) (fault : StoreFault) :
    RouteState × Nat :=
  match s.rows.deleteExpiredTerminalSessionRoutes nowUnixMs fault with
  | .error _ =>
    s.terminalSessionToNode.keys.foldl (pruneRoute s.terminalRouteTTL nowUnixMs false) (s, 0)
  | .ok rows =>
    s.terminalSessionToNode.keys.foldl (pruneRoute s.terminalRouteTTL nowUnixMs true)
      ({ s with rows := rows }, 0)

/-- `maybePruneTerminalSessionRoutes`: at most one prune per interval. -/
def maybePruneTerminalSessionRoutes (s : RouteState) (nowUnixMs : Int) (fault : StoreFault) :
    RouteState :=
  if 0 < s.lastTerminalRoutePruneUnixMs ∧
      nowUnixMs - s.lastTerminalRoutePruneUnixMs < terminalRoutePruneMinIntervalMs then s
  else
    ({ s with lastTerminalRoutePruneUnixMs := nowUnixMs }.pruneExpiredTerminalSessionRoutes
      nowUnixMs fault).1

/-! ## The session API -/

def terminalSessionStatusName : RecoveryState → String
  | .unavailable => "unavailable"
  | .reconciling => "reconciling"
  | .ready => "ready"

def terminalSessionViewFromRoute (accountID sessionID : String) (route : TerminalSessionRoute) :
    TerminalSessionView :=
  { accountID := accountID
    sessionID := sessionID
    workerID := route.nodeID
    status := terminalSessionStatusName route.recoveryState
    leaseExpiresUnixMs := route.leaseExpiresUnixMs
    lastUsedUnixMs := route.lastUsedUnixMs
    createdAtUnixMs :=
      if route.createdAtUnixMs ≤ 0 then route.lastUsedUnixMs else route.createdAtUnixMs }

def isConfirmedActiveTerminalSessionRoute (route : TerminalSessionRoute) (nowUnixMs : Int) : Bool :=
  route.reservationID == 0 && decide (nowUnixMs < route.leaseExpiresUnixMs)

/-- The view of one route in a listing for `ownerID` (`""` lists every owner). -/
def listView (ownerID : String) (nowUnixMs : Int) (scopedSessionID : String)
    (route : TerminalSessionRoute) : Option TerminalSessionView :=
  if leaseExpired route nowUnixMs ∨ isConfirmedActiveTerminalSessionRoute route nowUnixMs = false
  then none
  else match parseScopedTerminalSessionID scopedSessionID with
    | none => none
    | some (accountID, externalSessionID) =>
      if ownerID ≠ "" ∧ accountID ≠ ownerID then none
      else some (terminalSessionViewFromRoute accountID externalSessionID route)

/-- Newest first, then by account and session. -/
def viewBefore (a b : TerminalSessionView) : Bool :=
  if a.createdAtUnixMs ≠ b.createdAtUnixMs then decide (b.createdAtUnixMs < a.createdAtUnixMs)
  else if a.accountID ≠ b.accountID then decide (a.accountID < b.accountID)
  else decide (a.sessionID ≤ b.sessionID)

/-- The routes a listing finds expired. -/
def listExpired (s : RouteState) (nowUnixMs : Int) : List TerminalSessionRouteRef :=
  s.terminalSessionToNode.keys.filterMap fun sessionID =>
    match s.route sessionID with
    | none => none
    | some route =>
      if leaseExpired route nowUnixMs then some ⟨sessionID, route.nodeID⟩ else none

/-- The views a listing returns. -/
def listViews (s : RouteState) (ownerID : String) (nowUnixMs : Int) : List TerminalSessionView :=
  (s.terminalSessionToNode.keys.filterMap fun sessionID =>
    (s.route sessionID).bind (listView ownerID nowUnixMs sessionID)).mergeSort viewBefore

/-- The part of `ListTerminalSessions` under `terminalRoutesMu`. -/
def listTerminalSessionsLocked (s : RouteState) (ownerID : String) (nowUnixMs : Int)
    (fault : StoreFault) : RouteState × List TerminalSessionView :=
  let expired := s.listExpired nowUnixMs
  let views := s.listViews ownerID nowUnixMs
  match s.deleteRows expired fault with
  | .error _ => (s, views)
  | .ok rows => (expired.foldl deleteRef { s with rows := rows }, views)

def listTerminalSessions (s : RouteState) (ownerID : String) (nowUnixMs : Int)
    (pruneFault fault : StoreFault) : RouteState × List TerminalSessionView :=
  (s.maybePruneTerminalSessionRoutes nowUnixMs pruneFault).listTerminalSessionsLocked
    (normalizeTaskOwnerID ownerID) nowUnixMs fault

def getTerminalSession (s : RouteState) (ownerID sessionID : String) (nowUnixMs : Int)
    (fault : StoreFault) : RouteState × Option TerminalSessionView :=
  let normalizedOwnerID := normalizeTaskOwnerID ownerID
  let normalizedSessionID := trimSpace sessionID
  if normalizedOwnerID = "" ∨ normalizedSessionID = "" then (s, none)
  else
    let scopedSessionID := scopeTerminalSessionID normalizedOwnerID normalizedSessionID
    match s.terminalSessionRouteSnapshot scopedSessionID nowUnixMs fault with
    | (s, none) => (s, none)
    | (s, some route) =>
      if isConfirmedActiveTerminalSessionRoute route nowUnixMs = false then (s, none)
      else (s, some (terminalSessionViewFromRoute normalizedOwnerID normalizedSessionID route))

/-- `DeleteTerminalSession` with no other operation between its two steps. -/
def deleteTerminalSession (s : RouteState) (ownerID sessionID : String) (nowUnixMs : Int)
    (snapshotFault clearFault : StoreFault) : RouteState × Except String Bool :=
  let normalizedOwnerID := normalizeTaskOwnerID ownerID
  let normalizedSessionID := trimSpace sessionID
  if normalizedOwnerID = "" ∨ normalizedSessionID = "" then (s, .ok false)
  else
    let scopedSessionID := scopeTerminalSessionID normalizedOwnerID normalizedSessionID
    match s.terminalSessionRouteSnapshot scopedSessionID nowUnixMs snapshotFault with
    | (s, none) => (s, .ok false)
    | (s, some route) =>
      if isConfirmedActiveTerminalSessionRoute route nowUnixMs = false then (s, .ok false)
      else match s.clearTerminalSessionRoute scopedSessionID route.nodeID clearFault with
        | (s, .error err) => (s, .error err)
        | (s, .ok ()) => (s, .ok true)

/-! ## Start-up -/

/-- The route a persisted row is restored to. -/
def restoredRoute (nodeID : String) (row : TerminalSessionRow) : TerminalSessionRoute :=
  { nodeID := nodeID
    lastUsedUnixMs := row.lastUsedUnixMs
    leaseExpiresUnixMs := row.leaseExpiresUnixMs
    createdAtUnixMs := row.createdAtUnixMs
    recoveryState := .unavailable }

/-- The loop of `RestoreTerminalSessionRoutes`, filling the maps of `acc`. -/
def restoreRows (nowUnixMs : Int) :
    List (String × TerminalSessionRow) → RouteState → Except String RouteState
  | [], acc => .ok acc
  | (scopedSessionID, row) :: rest, acc =>
    let sessionID := trimSpace scopedSessionID
    let nodeID := trimSpace row.nodeID
    if isValidPersistedTerminalSessionID sessionID = false ∨ nodeID = "" ∨
        row.leaseExpiresUnixMs ≤ nowUnixMs then
      .error "persisted terminal session route is invalid"
    else if acc.route sessionID ≠ none then
      .error "persisted terminal session route is duplicated"
    else
      restoreRows nowUnixMs rest
        ((acc.putRoute sessionID (restoredRoute nodeID row)).indexRoute nodeID sessionID)

/-- `RestoreTerminalSessionRoutes`: expired rows are deleted, the others loaded. -/
def restoreTerminalSessionRoutes (s : RouteState) (nowUnixMs : Int)
    (deleteFault loadFault : StoreFault) : RouteState × Except String Unit :=
  match s.rows.deleteExpiredTerminalSessionRoutes nowUnixMs deleteFault with
  | .error err => (s, .error ("delete expired terminal session routes: " ++ err))
  | .ok rows =>
    let s := { s with rows := rows }
    match s.rows.loadActiveTerminalSessionRoutes nowUnixMs loadFault with
    | .error err => (s, .error ("load terminal session routes: " ++ err))
    | .ok persisted =>
      match restoreRows nowUnixMs persisted {} with
      | .error err => (s, .error err)
      | .ok loaded =>
        if s.terminalSessionToNode.keys ≠ [] ∨ s.terminalNodeToSessionIDIndex.keys ≠ [] then
          (s, .error "terminal session routes are already initialized")
        else
          ({ s with
            terminalSessionToNode := loaded.terminalSessionToNode
            terminalNodeToSessionIDIndex := loaded.terminalNodeToSessionIDIndex }, .ok ())

end RouteState

end Onlyboxes.Console
