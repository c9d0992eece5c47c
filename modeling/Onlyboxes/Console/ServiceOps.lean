import Onlyboxes.Console.SessionRuntime
import Onlyboxes.ForStd.Threads
import Onlyboxes.Spec.RouteOps

/-!
# The atomic operations of the service

What the goroutines of `RegistryService` share, and the operations on it that a mutex
or an atomic variable makes indivisible. Code that combines several of them is written
as a program over `ServiceOp`; between two operations anything else may happen.

Clock readings, listings of online workers, the contexts of calls and the answers of
workers come from outside: an `Answer` supplies them, any value at any time.
-/

namespace Onlyboxes.Console

open Text

/-- `*activeSession`: which connection, with its node id, which never changes. -/
structure SessionRef where
  id : Nat
  nodeID : String
  deriving DecidableEq, Repr

/-- The errors of a context that is over. -/
inductive ContextError where
  | deadlineExceeded
  | canceled
  deriving DecidableEq, Repr

/-- The errors of `enqueueCommand`: from the context, or what the connection was
    closed with. -/
inductive EnqueueError where
  | context (err : ContextError)
  | status (err : StatusError)
  | other (message : String)
  deriving DecidableEq, Repr

/-- `terminalSessionCapacitySnapshot`. -/
structure TerminalSessionCapacity where
  known : Bool := false
  maxActiveSessions : Int := 0
  activeSessionCount : Int := 0
  deriving DecidableEq, Repr

/-- What the final `select` of a dispatch takes. -/
inductive Awaited where
  | contextDone (err : ContextError)
  | closed
  | outcome (outcome : CommandOutcome)
  deriving DecidableEq, Repr

/-- The atomic operations. -/
inductive ServiceOp where
  | nowFn
  | contextErr
  | listOnlineNodeIDs (capability ownerID : String)
  | nextRoundRobin
  | getSession (nodeID : String)
  | isReady (session : SessionRef)
  | hasCapability (session : SessionRef) (capability : String)
  | inflightSnapshot (session : SessionRef) (capability : String)
  | terminalSessionCapacity (session : SessionRef)
  | tryAcquireCapability (session : SessionRef) (capability : String)
  | releaseCapability (session : SessionRef) (capability : String)
  | newCommandID
  | registerPending (session : SessionRef) (commandID capability : String)
  | takePending (session : SessionRef) (commandID : String)
  | enqueueCommand (session : SessionRef) (commandID : String)
  | onDispatched (commandID : String)
  | await (session : SessionRef) (commandID : String)
  /-- The compare-and-swap on `lastTerminalRoutePruneUnixMs`. -/
  | claimPrune (now : Int)
  | prune (now : Int)
  | snapshot (sessionID : String) (now : Int)
  | claim (sessionID : String) (now : Int)
  | reserve (sessionID preferredNodeID : String) (now : Int)
  | confirm (sessionID nodeID : String) (reservationID : Nat) (now : Int)
  | commit (sessionID nodeID : String) (reservationID : Nat) (lease now : Int)
  | clearReservation (sessionID nodeID : String) (reservationID : Nat)
  | clearRoute (sessionID nodeID : String)
  deriving DecidableEq, Repr

/-- What an operation returns. -/
@[reducible] def ServiceOp.Res : ServiceOp → Type
  | .nowFn => Int
  | .contextErr => Option ContextError
  | .listOnlineNodeIDs _ _ => List String
  | .nextRoundRobin => Nat
  | .getSession _ => Option SessionRef
  | .isReady _ => Bool
  | .hasCapability _ _ => Bool
  | .inflightSnapshot _ _ => Option (Int × Int)
  | .terminalSessionCapacity _ => TerminalSessionCapacity
  | .tryAcquireCapability _ _ => Bool
  | .releaseCapability _ _ => Unit
  | .newCommandID => Except String String
  | .registerPending _ _ _ => Except String Unit
  | .takePending _ _ => Option PendingCommand
  | .enqueueCommand _ _ => Except EnqueueError Unit
  | .onDispatched _ => Except String Unit
  | .await _ _ => Awaited
  | .claimPrune _ => Bool
  | .prune _ => Nat
  | .snapshot _ _ => Option TerminalSessionRoute
  | .claim _ _ => Option (String × Nat)
  | .reserve _ _ _ => String × Nat
  | .confirm _ _ _ _ => Bool
  | .commit _ _ _ _ _ => Except String Bool
  | .clearReservation _ _ _ => ReleaseResult
  | .clearRoute _ _ => Except String Unit

/-- A program of the service. -/
abbrev Service := Prog ServiceOp ServiceOp.Res

/-- One atomic operation. -/
abbrev atomic (o : ServiceOp) : Service o.Res := Prog.call o

/-- What the outside world contributes to one operation. -/
inductive Answer where
  | none
  | store (fault : StoreFault)
  | now (unixMs : Int)
  | context (err : Option ContextError)
  | nodes (nodeIDs : List String)
  | capacity (capacity : TerminalSessionCapacity)
  | commandID (result : Except String String)
  | enqueued (result : Except EnqueueError Unit)
  | dispatched (result : Except String Unit)
  | awaited (result : Awaited)

/-- The shared state of `RegistryService`. -/
structure ServiceState where
  /-- The route table, and which incarnations its reservations started. -/
  routes : RouteLog
  /-- `sessions`: the current connection of each node. -/
  sessions : GoMap String SessionRef := ∅
  /-- Every connection made so far, by the identity of its `activeSession`. -/
  connections : GoMap Nat ActiveSession := ∅
  nextConnection : Nat := 0
  roundRobin : Nat := 0

namespace ServiceState

variable (m : CaseMap)

/-- An operation on the route table. -/
def onRoutes {ρ : Type} (s : ServiceState) (result : RouteState × ρ) : Option (ServiceState × ρ) :=
  some ({ s with routes := s.routes.advance result.1 }, result.2)

/-- An operation on a connection. -/
def onSession {ρ : Type} (s : ServiceState) (session : SessionRef)
    (f : ActiveSession → ActiveSession × ρ) : Option (ServiceState × ρ) :=
  match s.connections.lookup session.id with
  | none => none
  | some connection =>
    some ({ s with connections := s.connections.insert session.id (f connection).1 },
      (f connection).2)

/-- The compare-and-swap of `maybePruneTerminalSessionRoutes`: whether a prune is due. -/
def claimPrune (s : RouteState) (nowUnixMs : Int) : RouteState × Bool :=
  if 0 < s.lastTerminalRoutePruneUnixMs ∧
      nowUnixMs - s.lastTerminalRoutePruneUnixMs < terminalRoutePruneMinIntervalMs then (s, false)
  else ({ s with lastTerminalRoutePruneUnixMs := nowUnixMs }, true)

/-- The effect and the result of one operation. -/
def exec (s : ServiceState) : (o : ServiceOp) → Answer → Option (ServiceState × o.Res)
  | .nowFn, .now unixMs => some (s, unixMs)
  | .contextErr, .context err => some (s, err)
  | .listOnlineNodeIDs _ _, .nodes nodeIDs => some (s, nodeIDs)
  | .nextRoundRobin, .none =>
    some ({ s with roundRobin := (s.roundRobin + 1) % 2 ^ 64 }, s.roundRobin)
  | .getSession nodeID, .none => some (s, s.sessions.lookup nodeID)
  | .isReady session, .none => s.onSession session fun c => (c, c.isReady)
  | .hasCapability session capability, .none =>
    s.onSession session fun c => (c, c.hasCapability m capability)
  | .inflightSnapshot session capability, .none =>
    s.onSession session fun c => c.inflightSnapshot m capability
  | .terminalSessionCapacity _, .capacity capacity => some (s, capacity)
  | .tryAcquireCapability session capability, .none =>
    s.onSession session fun c => c.tryAcquireCapability m capability
  | .releaseCapability session capability, .none =>
    s.onSession session fun c => (c.releaseCapability m capability, ())
  | .newCommandID, .commandID result => some (s, result)
  | .registerPending session commandID capability, .none =>
    s.onSession session fun c =>
      match c.registerPending m commandID capability with
      | .error err => (c, .error err)
      | .ok c' => (c', .ok ())
  | .takePending session commandID, .none => s.onSession session fun c => c.takePending commandID
  | .enqueueCommand _ _, .enqueued result => some (s, result)
  | .onDispatched _, .dispatched result => some (s, result)
  | .await _ _, .awaited result => some (s, result)
  | .claimPrune now, .none => s.onRoutes (claimPrune s.routes.state now)
  | .prune now, .store fault =>
    s.onRoutes (s.routes.state.pruneExpiredTerminalSessionRoutes now fault)
  | .snapshot sessionID now, .store fault =>
    s.onRoutes (s.routes.state.terminalSessionRouteSnapshot sessionID now fault)
  | .claim sessionID now, .none => s.onRoutes (s.routes.state.claimTerminalSessionRoute sessionID now)
  | .reserve sessionID preferredNodeID now, .none =>
    s.onRoutes (s.routes.state.reserveTerminalSessionRoute sessionID preferredNodeID now)
  | .confirm sessionID nodeID reservationID now, .none =>
    s.onRoutes (s.routes.state.confirmTerminalSessionRoute sessionID nodeID reservationID now)
  | .commit sessionID nodeID reservationID lease now, .store fault =>
    s.onRoutes (s.routes.state.commitConfirmedTerminalSessionRoute sessionID nodeID reservationID
      lease now fault)
  | .clearReservation sessionID nodeID reservationID, .none =>
    s.onRoutes (s.routes.state.clearTerminalSessionRouteReservation sessionID nodeID reservationID)
  | .clearRoute sessionID nodeID, .store fault =>
    s.onRoutes (s.routes.state.clearTerminalSessionRoute sessionID nodeID fault)
  | _, _ => none

end ServiceState

/-- What happens besides the calls: workers connect, recover, answer and disconnect,
    and the table is pruned, listed and reconciled. -/
inductive ServiceEvent where
  /-- `newActiveSessionAt` in `Connect`. -/
  | connect (nodeID : String) (declared : List (Option DeclaredCapability))
  /-- `claimSessionIfAvailable` or `swapSession`. -/
  | publish (session : SessionRef)
  /-- `markRecoveryComplete`. -/
  | recoveryComplete (session : SessionRef)
  /-- `resolvePending`, or the part of `close` about one command. -/
  | resolve (session : SessionRef) (commandID : String)
  | close (session : SessionRef) (err : Option String)
  /-- The critical section of `removeSession`. -/
  | removeSession (session : SessionRef)
  | routes (op : RouteOp)

/-- The operations on the route table that are not made on behalf of a call. -/
def RouteOp.background : RouteOp → Bool
  | .beginRecovery .. | .markUnavailable .. | .applyReport .. | .deleteByNode .. | .prune ..
  | .maybePrune .. | .list .. => true
  | .reserve .. | .claim .. | .confirm .. | .commit .. | .snapshot .. | .clearReservation ..
  | .clearRoute .. | .delete .. => false

namespace ServiceState

/-- One step of the environment. -/
def occurs (m : CaseMap) (s : ServiceState) : ServiceEvent → Option ServiceState
  | .connect nodeID declared =>
    if trimSpace nodeID = "" then none
    else some { s with
      connections := s.connections.insert s.nextConnection (ActiveSession.new m nodeID declared)
      nextConnection := s.nextConnection + 1 }
  | .publish session =>
    match s.connections.lookup session.id with
    | none => none
    | some connection =>
      if connection.nodeID = session.nodeID then
        some { s with sessions := s.sessions.insert session.nodeID session }
      else none
  | .recoveryComplete session =>
    (s.onSession session fun c => ({ c with recoveryComplete := true }, ())).map Prod.fst
  | .resolve session commandID =>
    (s.onSession session fun c =>
      match c.takePending commandID with
      | (c, none) => (c, ())
      | (c, some pending) => (c.releaseCapability m pending.capability, ())).map Prod.fst
  | .close session err => (s.onSession session fun c => (c.closeDone err, ())).map Prod.fst
  | .removeSession session =>
    if s.sessions.lookup session.nodeID = some session then
      some { s with sessions := s.sessions.erase session.nodeID }
    else some s
  | .routes op =>
    if op.background then some { s with routes := s.routes.advance (op.exec s.routes.state) }
    else none

/-- A console that starts to serve. -/
def Started (s : ServiceState) : Prop :=
  ∃ routes, RouteStarted routes ∧ s = { routes := { state := routes, opened := [] } }

end ServiceState

end Onlyboxes.Console
