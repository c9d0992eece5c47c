import Mathlib.Data.List.Sort
import Onlyboxes.Console.ServiceOps

/-!
# Dispatching commands

`dispatchCommand` and everything below it (`service_dispatch.go`), the lease renewal
(`terminal_session_lease.go`) and `DeleteTerminalSession`, as programs over the atomic
operations of the service. A terminal session is pinned to a worker by its route: a
dispatch claims or reserves the route, sends the command to that worker and settles
the reservation by what comes back.

Log lines, deadlines in frames and the echo text of outcomes are left out.
-/

namespace Onlyboxes.Console

open Text

/-- The parts of Go's library that the code relies on. Nothing below depends on more
    than that a renewal payload is not empty and reads back as the session it was made
    for. -/
structure GoLib where
  caseMap : CaseMap
  /-- `strings.EqualFold`. -/
  equalFold : String → String → Bool
  /-- `json.Unmarshal` into the payload struct of a terminal capability: the session id. -/
  payloadSessionID : String → String → Option String
  /-- `json.Unmarshal` of a result: `lease_expires_unix_ms`. -/
  resultLeaseExpiresUnixMS : String → Option Int
  /-- `json.Unmarshal` of a renewal result: session id and lease. -/
  renewResult : String → Option (String × Int)
  /-- `json.Marshal` of `terminalLeaseRenewPayload`. -/
  renewPayload : String → Int → String
  renewPayload_ne : ∀ sessionID leaseTTLSec, renewPayload sessionID leaseTTLSec ≠ ""
  payloadSessionID_renewPayload : ∀ sessionID leaseTTLSec,
    payloadSessionID "terminalleaserenew" (renewPayload sessionID leaseTTLSec) = some sessionID

def taskCapabilityTerminalLeaseRenew : String := "terminalleaserenew"
def taskCapabilityTerminalResource : String := "terminalresource"
def echoCapabilityName : String := "echo"
def computerUseCapabilityName : String := "computeruse"
def readImageCapabilityName : String := "readimage"

def terminalSessionNotFoundCode : String := "session_not_found"
def terminalSessionCapacityExceededCode : String := "session_capacity_exceeded"
def terminalSessionUnavailableCode : String := "session_unavailable"

/-- The errors of `dispatchCommand`. -/
inductive DispatchError where
  | noCapabilityWorker
  | noWorkerCapacity
  | targetWorkerOffline
  | targetWorkerCapabilityUnavailable
  | terminalSessionRetryRouteConflict
  | execution (err : CommandExecutionError)
  | context (err : ContextError)
  | status (err : StatusError)
  | other (message : String)
  deriving DecidableEq, Repr

def terminalSessionUnavailableError : DispatchError :=
  .execution ⟨terminalSessionUnavailableCode, "terminal session is temporarily unavailable"⟩

inductive TerminalSessionIntent where
  | unknown
  | knownNew
  deriving DecidableEq, Repr

/-- `dispatchOptions`; `onDispatched` says whether a callback is given. -/
structure DispatchOptions where
  ownerID : String := ""
  terminalSessionIntent : TerminalSessionIntent := .unknown
  targetNodeID : String := ""
  onDispatched : Bool := false
  deriving DecidableEq, Repr

/-! ## Reading payloads and results -/

namespace GoLib

variable (lib : GoLib)

def terminalSessionIDFromPayload (capability payload : String) : String :=
  if capability = taskCapabilityTerminalExec ∨ capability = taskCapabilityTerminalLeaseRenew ∨
      capability = taskCapabilityTerminalResource then
    match lib.payloadSessionID capability payload with
    | none => ""
    | some sessionID => trimSpace sessionID
  else ""

/-- `terminalSessionLeaseExpiresUnixMs`: 0 for a lease that is missing or not positive. -/
def terminalSessionLeaseExpiresUnixMs (payload : String) : Int :=
  match lib.resultLeaseExpiresUnixMS payload with
  | none => 0
  | some lease => if lease ≤ 0 then 0 else lease

def isCommandErrorCode (err : OutcomeError) (code : String) : Bool :=
  match err with
  | .execution err => lib.equalFold (trimSpace err.code) code
  | .closed _ => false

def isSessionNotFoundCommandError (err : OutcomeError) : Bool :=
  lib.isCommandErrorCode err terminalSessionNotFoundCode

def isSessionCapacityCommandError (err : OutcomeError) : Bool :=
  lib.isCommandErrorCode err terminalSessionCapacityExceededCode

end GoLib

/-! ## Picking a connection -/

def isNodeExcluded (nodeID : String) (excludedNodeIDs : GoSet String) : Bool :=
  (excludedNodeIDs.lookup (trimSpace nodeID)).isSome

/-- `session.isReady() && session.hasCapability(capability)`. -/
def readyFor (session : SessionRef) (capability : String) : Service Bool := do
  if ← atomic (.isReady session) then atomic (.hasCapability session capability) else return false

def pickSessionForNodeAndCapability (nodeID capability : String) :
    Service (Except DispatchError SessionRef) := do
  let normalizedNodeID := trimSpace nodeID
  if normalizedNodeID = "" then return .error .noCapabilityWorker
  else match ← atomic (.getSession normalizedNodeID) with
    | none => return .error .noCapabilityWorker
    | some session =>
      if ← readyFor session capability then
        if ← atomic (.tryAcquireCapability session capability) then return .ok session
        else return .error .noWorkerCapacity
      else return .error .noCapabilityWorker

/-- `listOnlineNodeIDsForCapability`: the system capabilities are listed per owner. -/
def listOnlineNodeIDsForCapability (lib : GoLib) (capability ownerID : String) :
    Service (List String) :=
  let normalizedCapability := normalizeCapability lib.caseMap capability
  if normalizedCapability = computerUseCapabilityName ∨
      normalizedCapability = readImageCapabilityName then
    if normalizeTaskOwnerID ownerID = "" then return []
    else atomic (.listOnlineNodeIDs normalizedCapability (normalizeTaskOwnerID ownerID))
  else atomic (.listOnlineNodeIDs normalizedCapability "")

/-- The capacity groups of `pickSessionForCapability`, in the order they are tried. -/
inductive CapacityGroup where
  | knownAvailable
  | unknown
  | reportedFull
  deriving DecidableEq, Repr

/-- `candidate` of `pickSessionForCapability`, with its group. -/
structure Candidate where
  session : SessionRef
  inflight : Int
  group : CapacityGroup
  deriving DecidableEq, Repr

def capacityGroup (capacityAware : Bool) (capacity : TerminalSessionCapacity) : CapacityGroup :=
  if capacityAware = false then .knownAvailable
  else if capacity.known = false then .unknown
  else if 0 < capacity.maxActiveSessions ∧ capacity.maxActiveSessions ≤ capacity.activeSessionCount
  then .reportedFull
  else .knownAvailable

/-- The first loop of `pickSessionForCapability`: the connections with a free slot, and
    whether there was a usable connection at all. -/
def collectCandidates (capability : String) (excludedNodeIDs : GoSet String)
    (capacityAware : Bool) : List String → List Candidate → Bool →
      Service (List Candidate × Bool)
  | [], candidates, hasSession => return (candidates, hasSession)
  | nodeID :: nodeIDs, candidates, hasSession => do
    if isNodeExcluded nodeID excludedNodeIDs then
      collectCandidates capability excludedNodeIDs capacityAware nodeIDs candidates hasSession
    else match ← atomic (.getSession nodeID) with
      | none => collectCandidates capability excludedNodeIDs capacityAware nodeIDs candidates hasSession
      | some session =>
        if ← readyFor session capability then
          match ← atomic (.inflightSnapshot session capability) with
          | none => collectCandidates capability excludedNodeIDs capacityAware nodeIDs candidates true
          | some (inflight, maxInflight) =>
            if maxInflight ≤ inflight then
              collectCandidates capability excludedNodeIDs capacityAware nodeIDs candidates true
            else
              let capacity ← atomic (.terminalSessionCapacity session)
              collectCandidates capability excludedNodeIDs capacityAware nodeIDs
                (candidates ++ [⟨session, inflight, capacityGroup capacityAware capacity⟩]) true
        else collectCandidates capability excludedNodeIDs capacityAware nodeIDs candidates hasSession

/-- The candidates in the order they are tried: group by group, and within a group by
    how many commands are in flight. -/
def inTryOrder (candidates : List Candidate) : List Candidate :=
  [.knownAvailable, .unknown, .reportedFull].flatMap fun group =>
    (candidates.filter fun c => c.group = group).insertionSort fun a b => a.inflight ≤ b.inflight

/-- The second loop of `pickSessionForCapability`. -/
def acquireFirst (capability : String) : List Candidate → Service (Option SessionRef)
  | [] => return none
  | candidate :: candidates => do
    if ← atomic (.tryAcquireCapability candidate.session capability) then
      return some candidate.session
    else acquireFirst capability candidates

def pickSessionForCapability (lib : GoLib) (capability ownerID : String)
    (intent : TerminalSessionIntent) (excludedNodeIDs : GoSet String) :
    Service (Except DispatchError SessionRef) := do
  let nodeIDs ← listOnlineNodeIDsForCapability lib capability ownerID
  if nodeIDs = [] then return .error .noCapabilityWorker
  else
    let start ← atomic .nextRoundRobin
    let capacityAware :=
      normalizeCapability lib.caseMap capability = taskCapabilityTerminalExec ∧ intent = .knownNew
    let (candidates, hasSession) ←
      collectCandidates capability excludedNodeIDs capacityAware (nodeIDs.rotate start) [] false
    match ← acquireFirst capability (inTryOrder candidates) with
    | some session => return .ok session
    | none =>
      if hasSession then return .error .noWorkerCapacity else return .error .noCapabilityWorker

def checkTargetCapabilityAvailability (nodeID capability : String) :
    Service (Option DispatchError) := do
  match ← atomic (.getSession (trimSpace nodeID)) with
  | none => return some .targetWorkerOffline
  | some session =>
    if ← atomic (.isReady session) then
      if ← atomic (.hasCapability session capability) then
        match ← atomic (.inflightSnapshot session capability) with
        | none => return some .noWorkerCapacity
        | some (inflight, maxInflight) =>
          if maxInflight ≤ inflight then return some .noWorkerCapacity else return none
      else return some .targetWorkerCapabilityUnavailable
    else return some .targetWorkerOffline

/-- `tryReserveAndPickTerminalSession`, with the number of attempts left. -/
def tryReserveAndPickTerminalSession (lib : GoLib) (capability ownerID sessionID : String)
    (now : Int) (intent : TerminalSessionIntent) (excludedNodeIDs : GoSet String) :
    Nat → Service (Except DispatchError (SessionRef × Nat))
  | 0 => return .error .noCapabilityWorker
  | attempts + 1 => do
    match ← pickSessionForCapability lib capability ownerID intent excludedNodeIDs with
    | .error err => return .error err
    | .ok session =>
      let (resolvedNodeID, reservationID) ← atomic (.reserve sessionID session.nodeID now)
      if resolvedNodeID = session.nodeID then return .ok (session, reservationID)
      else
        -- Another request reserved this session first: follow its node.
        atomic (.releaseCapability session capability)
        if isNodeExcluded resolvedNodeID excludedNodeIDs then
          if reservationID ≠ 0 then
            let _ ← atomic (.clearReservation sessionID resolvedNodeID reservationID)
            return .error .terminalSessionRetryRouteConflict
          else return .error .terminalSessionRetryRouteConflict
        else match ← pickSessionForNodeAndCapability resolvedNodeID capability with
          | .ok session => return .ok (session, reservationID)
          | .error .noCapabilityWorker =>
            -- The reserved route became stale: clear it and retry.
            let _ ← atomic (.clearRoute sessionID resolvedNodeID)
            tryReserveAndPickTerminalSession lib capability ownerID sessionID now intent
              excludedNodeIDs attempts
          | .error err =>
            let _ ← atomic (.clearReservation sessionID resolvedNodeID reservationID)
            return .error err

def maybePruneTerminalSessionRoutes (now : Int) : Service Unit := do
  if ← atomic (.claimPrune now) then
    let _ ← atomic (.prune now)
    return ()
  else return ()

/-- The check of `pickSessionForDispatch` that a confirmed route can be served: whether
    the session is unavailable. -/
def confirmedRouteUnavailable (sessionID : String) (now : Int) : Service Bool := do
  match ← atomic (.snapshot sessionID now) with
  | none => return false
  | some route =>
    if route.reservationID ≠ 0 then return false
    else match ← atomic (.getSession route.nodeID) with
      | none => return true
      | some boundSession =>
        if route.recoveryState ≠ .ready then return true
        else
          let ready ← atomic (.isReady boundSession)
          return !ready

/-- `pickSessionForDispatch`: a connection with a slot acquired, and the reservation. -/
def pickSessionForDispatch (lib : GoLib) (capability terminalSessionID : String)
    (options : DispatchOptions) (excludedNodeIDs : GoSet String) :
    Service (Except DispatchError (SessionRef × Nat)) := do
  if trimSpace options.targetNodeID ≠ "" then
    match ← pickSessionForNodeAndCapability (trimSpace options.targetNodeID) capability with
    | .ok session => return .ok (session, 0)
    | .error .noCapabilityWorker =>
      match ← checkTargetCapabilityAvailability (trimSpace options.targetNodeID) capability with
      | some err => return .error err
      | none => return .error .noCapabilityWorker
    | .error err => return .error err
  else if trimSpace terminalSessionID = "" then
    match ← pickSessionForCapability lib capability options.ownerID options.terminalSessionIntent
        excludedNodeIDs with
    | .ok session => return .ok (session, 0)
    | .error err => return .error err
  else
    let sessionID := trimSpace terminalSessionID
    let now ← atomic .nowFn
    maybePruneTerminalSessionRoutes now
    if ← confirmedRouteUnavailable sessionID now then return .error terminalSessionUnavailableError
    else match ← atomic (.claim sessionID now) with
      | none =>
        tryReserveAndPickTerminalSession lib capability options.ownerID sessionID now
          options.terminalSessionIntent excludedNodeIDs 2
      | some (nodeID, reservationID) =>
        if isNodeExcluded nodeID excludedNodeIDs then
          if reservationID ≠ 0 then
            let _ ← atomic (.clearReservation sessionID nodeID reservationID)
            return .error .terminalSessionRetryRouteConflict
          else return .error .terminalSessionRetryRouteConflict
        else match ← pickSessionForNodeAndCapability nodeID capability with
          | .ok session => return .ok (session, reservationID)
          | .error .noCapabilityWorker =>
            if reservationID = 0 then return .error terminalSessionUnavailableError
            else
              let _ ← atomic (.clearRoute sessionID nodeID)
              tryReserveAndPickTerminalSession lib capability options.ownerID sessionID now
                options.terminalSessionIntent excludedNodeIDs 2
          | .error err =>
            let _ ← atomic (.clearReservation sessionID nodeID reservationID)
            return .error err

/-! ## One attempt -/

structure DispatchAttemptResult where
  outcome : CommandOutcome
  capacityRetryable : Bool := false
  deriving DecidableEq, Repr

section Attempt

variable (lib : GoLib) (capability terminalSessionID : String) (session : SessionRef)
  (terminalRouteReservationID : Nat)

def rollbackTerminalRouteReservation : Service ReleaseResult :=
  if terminalRouteReservationID = 0 ∨ terminalSessionID = "" then return .notOwned
  else atomic (.clearReservation terminalSessionID session.nodeID terminalRouteReservationID)

def confirmTerminalRouteInMemory : Service Unit := do
  if terminalSessionID ≠ "" then
    let now ← atomic .nowFn
    let _ ← atomic (.confirm terminalSessionID session.nodeID terminalRouteReservationID now)
    return ()
  else return ()

/-- `commitTerminalRoute`: the error, if any. -/
def commitTerminalRoute (resultPayload : String) : Service (Option String) := do
  if terminalSessionID = "" then return none
  else
    let now ← atomic .nowFn
    match ← atomic (.commit terminalSessionID session.nodeID terminalRouteReservationID
        (lib.terminalSessionLeaseExpiresUnixMs resultPayload) now) with
    | .error err => return some err
    | .ok true => return none
    | .ok false => return some "terminal session route changed before persistence"

/-- `unregisterPending`, whose critical section and slot release are separate. -/
def unregisterPending (commandID : String) : Service Unit := do
  match ← atomic (.takePending session commandID) with
  | none => return ()
  | some pending => atomic (.releaseCapability session pending.capability)

/-- What `dispatchCommandAttempt` makes of an error of `enqueueCommand`. -/
def enqueueFailure : EnqueueError → DispatchError
  | .context err => .context err
  | .status err => .status err
  | .other _ => .status ⟨.unavailable, "worker session unavailable"⟩

/-- The worker answered with an error. -/
def settleWorkerError (outcome : CommandOutcome) (err : OutcomeError) :
    Service (Except DispatchError DispatchAttemptResult) := do
  if lib.isSessionNotFoundCommandError err then
    if terminalRouteReservationID ≠ 0 then
      let _ ← rollbackTerminalRouteReservation terminalSessionID session terminalRouteReservationID
      return .ok { outcome := outcome }
    else match ← atomic (.clearRoute terminalSessionID session.nodeID) with
      | .error err => return .error (.status ⟨.internal, "delete terminal session route: " ++ err⟩)
      | .ok () => return .ok { outcome := outcome }
  else if lib.isSessionCapacityCommandError err then
    let releaseResult ←
      rollbackTerminalRouteReservation terminalSessionID session terminalRouteReservationID
    return .ok
      { outcome := outcome
        capacityRetryable := decide (capability = taskCapabilityTerminalExec ∧
          terminalRouteReservationID ≠ 0 ∧ releaseResult = .removed) }
  else if terminalRouteReservationID ≠ 0 then
    -- Other execution errors do not prove that session creation failed.
    confirmTerminalRouteInMemory terminalSessionID session terminalRouteReservationID
    return .ok { outcome := outcome }
  else return .ok { outcome := outcome }

/-- The worker answered. -/
def settleOutcome (outcome : CommandOutcome) :
    Service (Except DispatchError DispatchAttemptResult) := do
  if terminalSessionID = "" then return .ok { outcome := outcome }
  else match outcome.err with
    | some err =>
      settleWorkerError lib capability terminalSessionID session terminalRouteReservationID
        outcome err
    | none =>
      if capability = taskCapabilityTerminalExec ∨
          capability = taskCapabilityTerminalLeaseRenew then
        match ← commitTerminalRoute lib terminalSessionID session terminalRouteReservationID
            outcome.payloadJSON with
        | some err =>
          return .error (.status ⟨.internal, "persist terminal session route: " ++ err⟩)
        | none => return .ok { outcome := outcome }
      else
        confirmTerminalRouteInMemory terminalSessionID session terminalRouteReservationID
        return .ok { outcome := outcome }

/-- `onDispatched`, if it is given: its error. -/
def callOnDispatched (commandID : String) (onDispatched : Bool) : Service (Option String) := do
  if onDispatched then
    match ← atomic (.onDispatched commandID) with
    | .error err => return some err
    | .ok () => return none
  else return none

/-- From `enqueueCommand` to the end of the `select`. -/
def sendAndAwait (commandID : String) (onDispatched : Bool) :
    Service (Except DispatchError DispatchAttemptResult) := do
  match ← atomic (.enqueueCommand session commandID) with
  | .error err =>
    let _ ← rollbackTerminalRouteReservation terminalSessionID session terminalRouteReservationID
    return .error (enqueueFailure err)
  | .ok () =>
    match ← callOnDispatched commandID onDispatched with
    | some err =>
      if terminalRouteReservationID ≠ 0 then
        confirmTerminalRouteInMemory terminalSessionID session terminalRouteReservationID
        return .error (.other err)
      else return .error (.other err)
    | none =>
      match ← atomic (.await session commandID) with
      | .contextDone err =>
        if terminalRouteReservationID ≠ 0 ∧ terminalSessionID ≠ "" then
          -- The dispatch reached the worker stream, so cancellation does not prove that
          -- session creation failed.
          confirmTerminalRouteInMemory terminalSessionID session terminalRouteReservationID
          return .error (.context err)
        else return .error (.context err)
      | .closed =>
        let _ ←
          rollbackTerminalRouteReservation terminalSessionID session terminalRouteReservationID
        return .error (.status ⟨.unavailable, "worker session closed before command result"⟩)
      | .outcome outcome =>
        settleOutcome lib capability terminalSessionID session terminalRouteReservationID outcome

def dispatchCommandAttempt (onDispatched : Bool) :
    Service (Except DispatchError DispatchAttemptResult) := do
  match ← atomic .newCommandID with
  | .error _ =>
    atomic (.releaseCapability session capability)
    let _ ← rollbackTerminalRouteReservation terminalSessionID session terminalRouteReservationID
    return .error (.status ⟨.internal, "failed to create command_id"⟩)
  | .ok commandID =>
    match ← atomic (.registerPending session commandID capability) with
    | .error err =>
      atomic (.releaseCapability session capability)
      let _ ← rollbackTerminalRouteReservation terminalSessionID session terminalRouteReservationID
      return .error (.other err)
    | .ok () =>
      let result ← sendAndAwait lib capability terminalSessionID session terminalRouteReservationID
        commandID onDispatched
      unregisterPending session commandID
      return result

end Attempt

/-! ## The calls -/

/-- The loop of `dispatchCommand`, with the number of attempts left. -/
def dispatchAttempts (lib : GoLib) (capability terminalSessionID : String)
    (options : DispatchOptions) :
    Nat → GoSet String → Option CommandOutcome → Service (Except DispatchError CommandOutcome)
  | 0, _, lastCapacityOutcome =>
    match lastCapacityOutcome with
    | some outcome => return .ok outcome
    | none => return .error .noCapabilityWorker
  | attempts + 1, attemptedNodeIDs, lastCapacityOutcome => do
    match ← atomic .contextErr with
    | some err => return .error (.context err)
    | none =>
      match ← pickSessionForDispatch lib capability terminalSessionID options attemptedNodeIDs with
      | .error err =>
        match ← atomic .contextErr with
        | some err => return .error (.context err)
        | none =>
          match lastCapacityOutcome with
          | some outcome => return .ok outcome
          | none => return .error err
      | .ok (session, terminalRouteReservationID) =>
        match ← dispatchCommandAttempt lib capability terminalSessionID session
            terminalRouteReservationID options.onDispatched with
        | .error err => return .error err
        | .ok attemptResult =>
          if attemptResult.capacityRetryable = false then return .ok attemptResult.outcome
          else if attempts = 0 then return .ok attemptResult.outcome
          else
            dispatchAttempts lib capability terminalSessionID options attempts
              (attemptedNodeIDs.insert session.nodeID ()) (some attemptResult.outcome)

/-- `maxAttempts` of `dispatchCommand`. -/
def maxDispatchAttempts (lib : GoLib) (capability terminalSessionID ownerID : String) :
    Service Nat := do
  if capability = taskCapabilityTerminalExec ∧ terminalSessionID ≠ "" then
    let nodeIDs ← listOnlineNodeIDsForCapability lib capability ownerID
    return if nodeIDs.length < 1 then 1 else nodeIDs.length
  else return 1

def dispatchCommand (lib : GoLib) (capability payloadJSON : String) (options : DispatchOptions) :
    Service (Except DispatchError CommandOutcome) := do
  let capability := normalizeCapability lib.caseMap capability
  if capability = "" then return .error (.status ⟨.invalidArgument, "capability is required"⟩)
  else
    let payloadJSON := if payloadJSON = "" then "\x7b\x7d" else payloadJSON
    let terminalSessionID := lib.terminalSessionIDFromPayload capability payloadJSON
    let maxAttempts ← maxDispatchAttempts lib capability terminalSessionID options.ownerID
    dispatchAttempts lib capability terminalSessionID options maxAttempts ∅ none

def getTerminalSession (ownerID sessionID : String) (now : Int) :
    Service (Option TerminalSessionView) := do
  let normalizedOwnerID := normalizeTaskOwnerID ownerID
  let normalizedSessionID := trimSpace sessionID
  if normalizedOwnerID = "" ∨ normalizedSessionID = "" then return none
  else match ← atomic (.snapshot (scopeTerminalSessionID normalizedOwnerID normalizedSessionID) now) with
    | none => return none
    | some route =>
      if RouteState.isConfirmedActiveTerminalSessionRoute route now then
        return some (RouteState.terminalSessionViewFromRoute normalizedOwnerID normalizedSessionID
          route)
      else return none

/-- The errors of `RenewTerminalSessionLease`. -/
inductive RenewError where
  | notFound
  | unavailable
  | leaseInvalid
  | dispatch (err : DispatchError)
  | outcome (err : OutcomeError)
  | invalidResult
  | routeUnavailable
  deriving DecidableEq, Repr

/-- The errors of a renewal's dispatch, as its caller reports them. -/
def renewDispatchError : DispatchError → RenewError
  | .targetWorkerOffline | .targetWorkerCapabilityUnavailable | .noCapabilityWorker
  | .noWorkerCapacity => .unavailable
  | err => .dispatch err

/-- The errors a worker answers a renewal with, as the caller reports them. -/
def renewOutcomeError (lib : GoLib) (err : OutcomeError) : RenewError :=
  if lib.isSessionNotFoundCommandError err then .notFound
  else if lib.isCommandErrorCode err "invalid_payload" then .leaseInvalid
  else .outcome err

def renewTerminalSessionLease (lib : GoLib) (ownerID sessionID : String) (leaseTTLSec : Int) :
    Service (Except RenewError TerminalSessionView) := do
  let normalizedOwnerID := normalizeTaskOwnerID ownerID
  let normalizedSessionID := trimSpace sessionID
  if normalizedOwnerID = "" ∨ normalizedSessionID = "" then return .error .notFound
  else if leaseTTLSec ≤ 0 then return .error .leaseInvalid
  else
    let now ← atomic .nowFn
    match ← getTerminalSession normalizedOwnerID normalizedSessionID now with
    | none => return .error .notFound
    | some view =>
      if view.status ≠ RouteState.terminalSessionStatusName .ready then return .error .unavailable
      else
        let scopedSessionID := scopeTerminalSessionID normalizedOwnerID normalizedSessionID
        match ← dispatchCommand lib taskCapabilityTerminalLeaseRenew
            (lib.renewPayload scopedSessionID leaseTTLSec)
            { ownerID := normalizedOwnerID, targetNodeID := view.workerID } with
        | .error err => return .error (renewDispatchError err)
        | .ok outcome =>
          match outcome.err with
          | some err => return .error (renewOutcomeError lib err)
          | none =>
            match lib.renewResult outcome.payloadJSON with
            | none => return .error .invalidResult
            | some (resultSessionID, lease) =>
              if trimSpace resultSessionID ≠ scopedSessionID ∨ lease ≤ 0 then
                return .error .invalidResult
              else
                let now ← atomic .nowFn
                match ← getTerminalSession normalizedOwnerID normalizedSessionID now with
                | none => return .error .routeUnavailable
                | some updated => return .ok updated

/-- `DeleteTerminalSession`: whether a session was deleted. -/
def deleteTerminalSession (ownerID sessionID : String) (now : Int) :
    Service (Except String Bool) := do
  let normalizedOwnerID := normalizeTaskOwnerID ownerID
  let normalizedSessionID := trimSpace sessionID
  if normalizedOwnerID = "" ∨ normalizedSessionID = "" then return .ok false
  else
    let scopedSessionID := scopeTerminalSessionID normalizedOwnerID normalizedSessionID
    match ← atomic (.snapshot scopedSessionID now) with
    | none => return .ok false
    | some route =>
      if RouteState.isConfirmedActiveTerminalSessionRoute route now then
        match ← atomic (.clearRoute scopedSessionID route.nodeID) with
        | .error err => return .error err
        | .ok () => return .ok true
      else return .ok false

/-- The system capabilities, whose tasks are sent to a given worker. -/
inductive SysCapability where
  | computerUse
  | readImage
  deriving DecidableEq, Repr

def SysCapability.name : SysCapability → String
  | .computerUse => computerUseCapabilityName
  | .readImage => readImageCapabilityName

/-- The calls that dispatch commands or touch routes. -/
inductive ServiceCall where
  /-- `executeTask` without a target worker. -/
  | task (capability payloadJSON ownerID : String) (intent : TerminalSessionIntent)
  /-- `DispatchEcho`, with the payload it builds. -/
  | echo (payloadJSON : String)
  /-- `executeTask` with the target worker of a system capability. -/
  | sysTask (capability : SysCapability) (payloadJSON ownerID targetNodeID : String)
  | renew (ownerID sessionID : String) (leaseTTLSec : Int)
  | delete (ownerID sessionID : String) (now : Int)
  deriving DecidableEq, Repr

/-- The program of a call; what it returns is not looked at. -/
def ServiceCall.body (lib : GoLib) : ServiceCall → Service Unit
  | .task capability payloadJSON ownerID intent => do
    let _ ← dispatchCommand lib capability payloadJSON
      { ownerID := ownerID, terminalSessionIntent := intent, onDispatched := true }
  | .echo payloadJSON => do
    let _ ← dispatchCommand lib echoCapabilityName payloadJSON {}
  | .sysTask capability payloadJSON ownerID targetNodeID => do
    let _ ← dispatchCommand lib capability.name payloadJSON
      { ownerID := ownerID, targetNodeID := targetNodeID, onDispatched := true }
  | .renew ownerID sessionID leaseTTLSec => do
    let _ ← renewTerminalSessionLease lib ownerID sessionID leaseTTLSec
  | .delete ownerID sessionID now => do
    let _ ← deleteTerminalSession ownerID sessionID now

/-- The console: any number of calls, interleaved with each other and with what happens
    on the connections. -/
def consoleSystem (lib : GoLib) :
    ThreadSystem ServiceState ServiceCall ServiceOp ServiceOp.Res (List (String × Nat)) Answer
      ServiceEvent where
  init := ServiceState.Started
  body := ServiceCall.body lib
  exec := ServiceState.exec lib.caseMap
  env := ServiceState.occurs lib.caseMap
  stamp s := s.routes.opened

/-- A call of the console, running or finished. -/
abbrev ConsoleThread := Thread ServiceCall ServiceOp ServiceOp.Res (List (String × Nat))

abbrev ConsolePool := Pool ServiceState ServiceCall ServiceOp ServiceOp.Res (List (String × Nat))

abbrev ConsoleAction := PoolAction ServiceCall Answer ServiceEvent

end Onlyboxes.Console
