import Onlyboxes.Console.ServiceOps
import Onlyboxes.Console.WorkerStore
import Onlyboxes.Console.RandomID

/-!
# The atomic operations of the registry

`RegistryService` seen from its worker connections: what `Connect`, the provisioning of
workers and their deletion share, and the operations on it that a mutex, a store call or
an atomic variable makes indivisible. It extends the state the dispatches work on
(`ServiceState`): every operation here that touches that part is one of its events, so a
registry run is a run of the environment that dispatches see.

The dispatches themselves are the environment of this file: they perform the operations
of `ServiceOp` at any time and with any arguments. The writer goroutine of a connection
is an automaton that another part of the environment drives.
-/

namespace Onlyboxes.Console

open Text

/-- What the code relies on besides the case mapping: a stored secret is compared with
    the one a worker presents, and hashed when it is stored. -/
structure RegistryLib where
  caseMap : CaseMap
  lower_hyphen : caseMap.lower '-' = '-'
  /-- `hasher.Equal`, or the constant time comparison without a hasher. -/
  secretMatches : String → String → Bool
  /-- `hasher.Hash`, or the secret itself without a hasher. -/
  hashSecret : String → String

/-- `WorkerConnectionConflictPolicy`. -/
inductive ConflictPolicy where
  | replace
  | reject
  deriving DecidableEq, Repr

/-- The settings of the service. -/
structure RegistryConfig where
  workerConnectionPolicy : ConflictPolicy
  offlineTTLSec : Int
  heartbeatIntervalSec : Int
  deriving DecidableEq, Repr

structure ConnectHello where
  nodeID : String
  nodeName : String := ""
  labels : Labels := ∅
  capabilities : List (Option DeclaredCapability) := []
  workerSecret : String := ""
  /-- `TerminalSessionCapacity`: the maximum and the count of active sessions. -/
  terminalSessionCapacity : Option (Int × Int) := none
  deriving DecidableEq

structure HeartbeatFrame where
  nodeID : String
  sessionID : String
  activeSessionCount : Int
  deriving DecidableEq, Repr

/-- `ConnectResponse`: the frames the console sends. -/
inductive ConnectResponse where
  | connectAck (sessionID : String) (heartbeatIntervalSec : Int)
      (recoveryCandidates : List RecoveryCandidate)
  | heartbeatAck (heartbeatIntervalSec : Int)
  | terminalSessionRecoveryAck
  | commandDispatch (commandID : String)
  deriving DecidableEq, Repr

/-- What the `select` of the receive loop takes. -/
inductive Received where
  /-- `session.done` is closed. -/
  | done
  | contextDone (err : StatusError)
  | writerEnded (err : Option String)
  /-- `Recv` failed; `none` is `io.EOF`. -/
  | ended (err : Option String)
  | heartbeat (frame : HeartbeatFrame)
  | commandResult (result : CommandResult)
  | recoveryReport (results : List (Option RecoveryResult))
  /-- Any other frame. -/
  | other
  deriving DecidableEq, Repr

/-- Where the writer goroutine of a connection is. -/
inductive Writer where
  | notStarted
  | firstSelect
  | secondSelect
  | stopped
  deriving DecidableEq, Repr

/-- The fields of `activeSession` that `Connect` and its goroutines use; the others are
    in `ActiveSession`. -/
structure ConnectionDetail where
  sessionID : String
  lastHeartbeatUnixMs : Int
  terminalCapacity : TerminalSessionCapacity := {}
  recoveryCandidates : GoMap String Int := ∅
  recoveryResults : GoMap String RecoveryStatus := ∅
  /-- Whether a dispatch has found the connection ready. -/
  picked : Bool := false
  controlOutbound : List ConnectResponse := []
  commandOutbound : List ConnectResponse := []
  writer : Writer := .notStarted
  /-- The frames `stream.Send` was given, oldest first. -/
  sent : List ConnectResponse := []
  deriving DecidableEq

def controlOutboundBufferSize : Nat := 32
def commandOutboundBufferSize : Nat := 128

/-- `setRecoveryCandidates`: the candidate map of a connection. -/
def setRecoveryCandidates (candidates : List RecoveryCandidate) : GoMap String Int :=
  candidates.foldl (fun offered candidate =>
    let sessionID := trimSpace candidate.sessionID
    if sessionID = "" then offered
    else offered.insert sessionID candidate.leaseExpiresUnixMs) ∅

/-- The loop of `matchesRecoveryResults`, with the sessions seen so far. -/
def matchRecoveryResults (accepted : GoMap String RecoveryStatus) :
    List (Option RecoveryResult) → GoSet String → Bool
  | [], _ => true
  | none :: _, _ => false
  | some result :: rest, seen =>
    let sessionID := trimSpace result.sessionID
    if accepted.lookup sessionID ≠ some result.status then false
    else if (seen.lookup sessionID).isSome then false
    else matchRecoveryResults accepted rest (seen.insert sessionID ())

/-- `matchesRecoveryResults`: whether a report repeats the accepted results. -/
def matchesRecoveryResults (accepted : GoMap String RecoveryStatus)
    (report : List (Option RecoveryResult)) : Bool :=
  if report.length ≠ accepted.keys.length then false else matchRecoveryResults accepted report ∅

/-! ## State -/

/-- The state of `RegistryService`. -/
structure RegistryState where
  /-- The part that dispatches work on: routes, session map and connections. -/
  service : ServiceState
  details : GoMap Nat ConnectionDetail := ∅
  /-- The cached credentials. -/
  credentials : GoMap String String := ∅
  nodes : WorkerNodes := ∅
  /-- The ids `generateUUIDv4` has given out; it never repeats one. -/
  issued : List String := []
  /-- Owner and type each worker was provisioned with, until it is deleted: a history
      of the seeds and deletions, which nothing reads. -/
  provisionedAs : GoMap String (String × String) := ∅

/-- The atomic operations. -/
inductive RegistryOp where
  | nowFn
  | newID
  | newSecret
  /-- `s.credentials[nodeID]`. -/
  | cachedCredential (nodeID : String)
  | cacheCredential (nodeID secret : String)
  | putCredentialIfAbsent (nodeID secret : String)
  | deleteCredential (nodeID : String)
  | getCredentialHash (nodeID : String)
  | putCredentialHashIfAbsent (nodeID secretHash : String)
  | storeDeleteCredential (nodeID : String)
  | labelsByNodeID (nodeID : String)
  | getWorkerNode (nodeID : String)
  | listWorkerLabels (nodeID : String)
  | upsertWorkerNode (registration : WorkerNodes.Registration)
  | seedProvisionedWorker (nodeID : String) (labels : Labels) (now offlineTTLMs : Int)
  | storeDelete (nodeID : String)
  | updateHeartbeat (nodeID sessionID : String) (now : Int)
  | clearSession (nodeID sessionID : String)
  | clearSessionByNode (nodeID : String)
  | newActiveSession (hello : ConnectHello) (sessionID : String) (now : Int)
  | configureSessionProxy (session : SessionRef)
  | claimSessionIfAvailable (session : SessionRef)
  | swapSession (session : SessionRef)
  /-- The critical section of `removeSession`: whether the session was removed. -/
  | removeSession (session : SessionRef)
  /-- The critical section of `disconnectWorker`. -/
  | takeSession (nodeID : String)
  | close (session : SessionRef) (err : Option String)
  | beginRecovery (nodeID : String) (now : Int)
  | setRecoveryCandidates (session : SessionRef) (candidates : List RecoveryCandidate)
  | applyReport (session : SessionRef) (report : List (Option RecoveryResult)) (now : Int)
  | isReady (session : SessionRef)
  | matchesRecoveryResults (session : SessionRef) (report : List (Option RecoveryResult))
  | markRecoveryComplete (session : SessionRef)
  | markUnavailable (nodeID : String)
  | deleteRoutesByNode (nodeID : String)
  | startWriter (session : SessionRef)
  | enqueueControl (session : SessionRef) (response : ConnectResponse)
  | receive (session : SessionRef)
  | resolvePending (session : SessionRef) (commandID : String)
  | recordHeartbeat (session : SessionRef) (now activeSessionCount : Int)
  deriving DecidableEq

/-- What an operation returns. -/
@[reducible] def RegistryOp.Res : RegistryOp → Type
  | .nowFn => Int
  | .newID | .newSecret => Except String String
  | .cachedCredential _ | .getCredentialHash _ => Option String
  | .putCredentialIfAbsent .. | .deleteCredential _ | .putCredentialHashIfAbsent ..
  | .storeDeleteCredential _ | .seedProvisionedWorker .. | .storeDelete _ => Bool
  | .labelsByNodeID _ => Labels
  | .getWorkerNode _ => Except String (Option WorkerNode)
  | .listWorkerLabels _ => Except String Labels
  | .upsertWorkerNode _ | .clearSession .. | .clearSessionByNode _ | .deleteRoutesByNode _
  | .applyReport .. | .enqueueControl .. => Except String Unit
  | .updateHeartbeat .. => Except String Bool
  | .newActiveSession .. => SessionRef
  | .configureSessionProxy _ => Option String
  | .claimSessionIfAvailable _ | .removeSession _ | .isReady _ | .matchesRecoveryResults .. => Bool
  | .swapSession _ | .takeSession _ => Option SessionRef
  | .beginRecovery .. => Except String (List RecoveryCandidate)
  | .receive _ => Received
  | .cacheCredential .. | .close .. | .setRecoveryCandidates .. | .markRecoveryComplete _
  | .markUnavailable _ | .startWriter _ | .resolvePending .. | .recordHeartbeat .. => Unit

/-- A program of the registry. -/
abbrev Registry := Prog RegistryOp RegistryOp.Res

/-- One atomic operation. -/
abbrev perform (o : RegistryOp) : Registry o.Res := Prog.call o

/-- What the outside world contributes to one operation. -/
inductive RegistryAnswer where
  | none
  | store (fault : StoreFault)
  | now (unixMs : Int)
  /-- A clock reading in nanoseconds. -/
  | instant (unixNano : Int)
  /-- The bytes of `rand.Read`, or its error. -/
  | random (raw : Except String (Fin 16 → Fin 256))
  | secret (result : Except String String)
  | proxy (err : Option String)
  | enqueued (err : Option String)
  | received (frame : Received)

namespace RegistryState

variable (m : CaseMap)

/-- Something that dispatches see. -/
def onService (s : RegistryState) (e : ServiceEvent) : Option RegistryState :=
  (s.service.occurs m e).map fun service => { s with service := service }

/-- A change of the details of a connection, and what it returns. -/
def onDetail {ρ : Type} (s : RegistryState) (session : SessionRef)
    (f : ConnectionDetail → ConnectionDetail × ρ) : Option (RegistryState × ρ) :=
  match s.details.lookup session.id with
  | none => none
  | some detail =>
    some ({ s with details := s.details.insert session.id (f detail).1 }, (f detail).2)

/-- `newActiveSessionAt`. -/
def newActiveSession (s : RegistryState) (hello : ConnectHello) (sessionID : String) (now : Int) :
    Option (RegistryState × SessionRef) :=
  let detail : ConnectionDetail :=
    { sessionID := sessionID
      lastHeartbeatUnixMs := now
      terminalCapacity :=
        match hello.terminalSessionCapacity with
        | none => {}
        | some (maxActiveSessions, activeSessionCount) =>
          { known := true
            maxActiveSessions := maxActiveSessions
            activeSessionCount := activeSessionCount } }
  (s.onService m (.connect hello.nodeID hello.capabilities)).map fun s' =>
    ({ s' with details := s'.details.insert s.service.nextConnection detail },
      ⟨s.service.nextConnection, hello.nodeID⟩)

/-- `claimSessionIfAvailable`: the current connection gives way once it is closed, or its
    last heartbeat is older than the offline TTL. -/
def claimSessionIfAvailable (s : RegistryState) (offlineTTLSec : Int) (session : SessionRef)
    (unixNano : Int) : Option (RegistryState × Bool) :=
  let publish (s : RegistryState) := (s.onService m (.publish session)).map fun s => (s, true)
  match s.service.sessions.lookup session.nodeID with
  | none => publish s
  | some current =>
    match s.service.connections.lookup current.id, s.details.lookup current.id with
    | some connection, some detail =>
      if connection.done then publish s
      else if unixNano - detail.lastHeartbeatUnixMs * 1000000 ≤ offlineTTLSec * 1000000000 then
        some (s, false)
      else (s.onService m (.close current (some "session heartbeat expired"))).bind publish
    | _, _ => none

/-- The critical section of `removeSession`. -/
def removeSession (s : RegistryState) (session : SessionRef) : Option (RegistryState × Bool) :=
  match s.service.sessions.lookup session.nodeID with
  | none => some (s, false)
  | some current =>
    match s.details.lookup current.id, s.details.lookup session.id with
    | some currentDetail, some detail =>
      if currentDetail.sessionID ≠ detail.sessionID then some (s, false)
      else (s.onService m (.removeSession current)).map fun s => (s, true)
    | _, _ => none

/-- The critical section of `disconnectWorker`. -/
def takeSession (s : RegistryState) (nodeID : String) :
    Option (RegistryState × Option SessionRef) :=
  match s.service.sessions.lookup nodeID with
  | none => some (s, none)
  | some session => (s.onService m (.removeSession session)).map fun s => (s, some session)

/-- The part of `applyTerminalSessionRecoveryReport` that records the accepted results. -/
def applyReport (s : RegistryState) (session : SessionRef) (report : List (Option RecoveryResult))
    (now : Int) (fault : StoreFault) : Option (RegistryState × Except String Unit) :=
  match s.details.lookup session.id with
  | none => none
  | some detail =>
    match s.onService m
        (.routes (.applyReport session.nodeID detail.recoveryCandidates report now fault)) with
    | none => none
    | some s' =>
      match (s.service.routes.state.applyTerminalSessionRecoveryReport session.nodeID
          detail.recoveryCandidates report now fault).2 with
      | .error err => some (s', .error err)
      | .ok results =>
        some ({ s' with details :=
            s'.details.insert session.id { detail with recoveryResults := results } }, .ok ())

/-- A seed that adds a worker starts its history. -/
def seedProvisionedWorker (s : RegistryState) (nodeID : String) (labels : Labels)
    (now offlineTTLMs : Int) (fault : StoreFault) : RegistryState × Bool :=
  let (nodes, added) := s.nodes.seedProvisionedWorker nodeID labels now offlineTTLMs fault
  let provisionedAs :=
    match added, labels.lookup labelOwnerIDKey, labels.lookup labelWorkerTypeKey with
    | true, some ownerID, some workerType =>
      s.provisionedAs.insert (trimSpace nodeID) (ownerID, workerType)
    | _, _, _ => s.provisionedAs
  ({ s with nodes := nodes, provisionedAs := provisionedAs }, added)

/-- A deletion that takes effect ends the history of a worker. -/
def storeDelete (s : RegistryState) (nodeID : String) (fault : StoreFault) : RegistryState × Bool :=
  let (nodes, deleted) := s.nodes.delete nodeID fault
  ({ s with
      nodes := nodes
      provisionedAs :=
        if trimSpace nodeID ≠ "" ∧ fault = none then s.provisionedAs.erase (trimSpace nodeID)
        else s.provisionedAs },
    deleted)

/-- The effect and the result of one operation. -/
def exec (cfg : RegistryConfig) (s : RegistryState) :
    (o : RegistryOp) → RegistryAnswer → Option (RegistryState × o.Res)
  | .nowFn, .now unixMs => some (s, unixMs)
  | .newID, .random (.error err) => some (s, .error err)
  | .newID, .random (.ok raw) =>
    let id := generateUUIDv4 raw
    if id ∈ s.issued then none else some ({ s with issued := id :: s.issued }, .ok id)
  | .newSecret, .secret result => some (s, result)
  | .cachedCredential nodeID, .none => some (s, s.credentials.lookup nodeID)
  | .cacheCredential nodeID secret, .none =>
    some ({ s with credentials := s.credentials.insert nodeID secret }, ())
  | .putCredentialIfAbsent nodeID secret, .none =>
    if trimSpace nodeID = "" ∨ trimSpace secret = "" then some (s, false)
    else if (s.credentials.lookup (trimSpace nodeID)).isSome then some (s, false)
    else some ({ s with
      credentials := s.credentials.insert (trimSpace nodeID) (trimSpace secret) }, true)
  | .deleteCredential nodeID, .none =>
    if trimSpace nodeID = "" then some (s, false)
    else some ({ s with credentials := s.credentials.erase (trimSpace nodeID) },
      (s.credentials.lookup (trimSpace nodeID)).isSome)
  | .getCredentialHash nodeID, .store fault => some (s, s.nodes.getCredentialHash nodeID fault)
  | .putCredentialHashIfAbsent nodeID secretHash, .store fault =>
    let (nodes, added) := s.nodes.putCredentialHashIfAbsent nodeID secretHash fault
    some ({ s with nodes := nodes }, added)
  | .storeDeleteCredential nodeID, .store fault =>
    let (nodes, deleted) := s.nodes.deleteCredential nodeID fault
    some ({ s with nodes := nodes }, deleted)
  | .labelsByNodeID nodeID, .store fault => some (s, s.nodes.labelsByNodeID nodeID fault)
  | .getWorkerNode nodeID, .store fault => some (s, s.nodes.getWorkerNodeByID nodeID fault)
  | .listWorkerLabels nodeID, .store fault => some (s, s.nodes.listWorkerLabelsByNode nodeID fault)
  | .upsertWorkerNode registration, .store fault =>
    match s.nodes.upsertWorkerNode registration fault with
    | .error err => some (s, .error err)
    | .ok nodes => some ({ s with nodes := nodes }, .ok ())
  | .seedProvisionedWorker nodeID labels now offlineTTLMs, .store fault =>
    some (s.seedProvisionedWorker nodeID labels now offlineTTLMs fault)
  | .storeDelete nodeID, .store fault => some (s.storeDelete nodeID fault)
  | .updateHeartbeat nodeID sessionID now, .store fault =>
    let (nodes, result) := s.nodes.updateWorkerHeartbeatBySession nodeID sessionID now fault
    some ({ s with nodes := nodes }, result)
  | .clearSession nodeID sessionID, .store fault =>
    let (nodes, result) := s.nodes.clearSession nodeID sessionID fault
    some ({ s with nodes := nodes }, result)
  | .clearSessionByNode nodeID, .store fault =>
    let (nodes, result) := s.nodes.clearSessionByNode nodeID fault
    some ({ s with nodes := nodes }, result)
  | .newActiveSession hello sessionID now, .none => s.newActiveSession m hello sessionID now
  | .configureSessionProxy _, .proxy err => some (s, err)
  | .claimSessionIfAvailable session, .instant unixNano =>
    s.claimSessionIfAvailable m cfg.offlineTTLSec session unixNano
  | .swapSession session, .none =>
    (s.onService m (.publish session)).map fun s' =>
      (s', s.service.sessions.lookup session.nodeID)
  | .removeSession session, .none => s.removeSession m session
  | .takeSession nodeID, .none => s.takeSession m nodeID
  | .close session err, .none => (s.onService m (.close session err)).map fun s => (s, ())
  | .beginRecovery nodeID now, .store fault =>
    (s.onService m (.routes (.beginRecovery nodeID now fault))).map fun s' =>
      (s', (s.service.routes.state.beginTerminalSessionRecovery nodeID now fault).2)
  | .setRecoveryCandidates session candidates, .none =>
    s.onDetail session fun detail =>
      ({ detail with recoveryCandidates := Console.setRecoveryCandidates candidates }, ())
  | .applyReport session report now, .store fault => s.applyReport m session report now fault
  | .isReady session, .none =>
    match s.service.connections.lookup session.id with
    | none => none
    | some connection => some (s, connection.isReady)
  | .matchesRecoveryResults session report, .none =>
    s.onDetail session fun detail =>
      (detail, Console.matchesRecoveryResults detail.recoveryResults report)
  | .markRecoveryComplete session, .none =>
    (s.onService m (.recoveryComplete session)).map fun s => (s, ())
  | .markUnavailable nodeID, .none =>
    (s.onService m (.routes (.markUnavailable nodeID))).map fun s => (s, ())
  | .deleteRoutesByNode nodeID, .store fault =>
    (s.onService m (.routes (.deleteByNode nodeID fault))).map fun s' =>
      (s', (s.service.routes.state.deleteTerminalSessionRoutesByNode nodeID fault).2.map fun _ => ())
  | .startWriter session, .none =>
    s.onDetail session fun detail => ({ detail with writer := .firstSelect }, ())
  | .enqueueControl _ _, .enqueued (some err) => some (s, .error err)
  | .enqueueControl session response, .enqueued none =>
    match s.details.lookup session.id with
    | none => none
    | some detail =>
      if detail.controlOutbound.length < controlOutboundBufferSize then
        let detail := { detail with controlOutbound := detail.controlOutbound ++ [response] }
        some ({ s with details := s.details.insert session.id detail }, .ok ())
      else none
  | .receive session, .received frame =>
    match s.service.connections.lookup session.id with
    | none => none
    | some connection =>
      -- The case of the `done` channel is ready only once the connection is closed.
      if frame = .done ∧ connection.done = false then none else some (s, frame)
  | .resolvePending session commandID, .none =>
    (s.onService m (.resolve session commandID)).map fun s => (s, ())
  | .recordHeartbeat session now activeSessionCount, .none =>
    s.onDetail session fun detail =>
      ({ detail with
          lastHeartbeatUnixMs := now
          terminalCapacity :=
            { detail.terminalCapacity with activeSessionCount := activeSessionCount } }, ())
  | _, _ => none

end RegistryState

/-! ## The environment -/

/-- The case a `select` of `writerLoop` takes. -/
inductive WriterChoice where
  | done
  | control
  | command
  | default
  deriving DecidableEq, Repr

/-- What happens besides `Connect` and the provisioning calls. -/
inductive RegistryEvent where
  /-- An operation of a dispatch. -/
  | call (o : ServiceOp) (ans : Answer)
  /-- Pruning and listing of routes. -/
  | routes (op : RouteOp)
  /-- A step of `writerLoop`; `sends` says whether `stream.Send` succeeds. -/
  | writer (session : SessionRef) (choice : WriterChoice) (sends : Bool)
  | pruneOffline (cutoffUnixMs : Int) (fault : StoreFault)

/-- The operations on the route table that neither a call nor a connection makes. -/
def RouteOp.maintenance : RouteOp → Bool
  | .prune .. | .maybePrune .. | .list .. => true
  | _ => false

namespace ConnectionDetail

/-- Sends the next frame, or stops when `stream.Send` fails. -/
def send (detail : ConnectionDetail) (response : ConnectResponse) (sends : Bool) (next : Writer) :
    ConnectionDetail :=
  if sends then { detail with sent := detail.sent ++ [response], writer := next }
  else { detail with writer := .stopped }

/-- One `select` of `writerLoop`. The first one has a default case and leaves commands
    alone; the second one takes any case that is ready. -/
def writerStep (detail : ConnectionDetail) (done : Bool) (choice : WriterChoice) (sends : Bool) :
    Option ConnectionDetail :=
  match detail.writer, choice with
  | .firstSelect, .done | .secondSelect, .done =>
    if done then some { detail with writer := .stopped } else none
  | .firstSelect, .control =>
    match detail.controlOutbound with
    | [] => none
    | response :: rest =>
      some ({ detail with controlOutbound := rest }.send response sends .secondSelect)
  | .firstSelect, .default =>
    if done = false ∧ detail.controlOutbound = [] then
      some { detail with writer := .secondSelect }
    else none
  | .secondSelect, .control =>
    match detail.controlOutbound with
    | [] => none
    | response :: rest =>
      some ({ detail with controlOutbound := rest }.send response sends .firstSelect)
  | .secondSelect, .command =>
    match detail.commandOutbound with
    | [] => none
    | response :: rest =>
      some ({ detail with commandOutbound := rest }.send response sends .firstSelect)
  | _, _ => none

end ConnectionDetail

namespace RegistryState

variable (m : CaseMap)

/-- An operation of a dispatch. It sends commands only on connections that a dispatch
    has found ready. -/
def dispatches (s : RegistryState) (o : ServiceOp) (ans : Answer) : Option RegistryState :=
  match s.service.exec m o ans with
  | none => none
  | some (service, r) =>
    let s' := { s with service := service }
    match o, r with
    | .isReady session, true =>
      (s'.onDetail session fun detail => ({ detail with picked := true }, ())).map Prod.fst
    | .enqueueCommand session commandID, .ok () =>
      match s'.details.lookup session.id with
      | none => none
      | some detail =>
        if detail.picked ∧ detail.commandOutbound.length < commandOutboundBufferSize then
          let detail := { detail with
            commandOutbound := detail.commandOutbound ++ [.commandDispatch commandID] }
          some { s' with details := s'.details.insert session.id detail }
        else none
    | _, _ => some s'

/-- One step of the environment. -/
def occurs (s : RegistryState) : RegistryEvent → Option RegistryState
  | .call o ans => s.dispatches m o ans
  | .routes op => if op.maintenance then s.onService m (.routes op) else none
  | .writer session choice sends =>
    match s.service.connections.lookup session.id, s.details.lookup session.id with
    | some connection, some detail =>
      (detail.writerStep connection.done choice sends).map fun detail =>
        { s with details := s.details.insert session.id detail }
    | _, _ => none
  | .pruneOffline cutoffUnixMs fault =>
    some { s with nodes := s.nodes.pruneOffline cutoffUnixMs fault }

/-- A console that starts to serve: no worker is connected, the stored credentials are
    cached, and every known worker has an id that was given out before. -/
structure Started (s : RegistryState) : Prop where
  service : s.service.Started
  details : s.details = ∅
  disconnected : ∀ n node, s.nodes.lookup n = some node → node.sessionID = ""
  credentials : ∀ n hash, s.credentials.lookup n = some hash ↔
    s.nodes.getCredentialHash n none = some hash ∧ trimSpace n = n
  issued : ∀ n node, s.nodes.lookup n = some node → n ∈ s.issued
  provisioned : ∀ n ownerID workerType, s.provisionedAs.lookup n = some (ownerID, workerType) ↔
    ∃ node, s.nodes.lookup n = some node ∧ node.provisioned = true ∧
      node.labels.lookup labelOwnerIDKey = some ownerID ∧
      node.labels.lookup labelWorkerTypeKey = some workerType

end RegistryState

end Onlyboxes.Console
