import Onlyboxes.Console.Dispatch
import Onlyboxes.Console.RegistryOps

/-!
# Worker connections

`Connect` and everything below it (`service_connect.go`), and the provisioning and
deletion of workers (`service_credentials_runtime.go`), as programs over the atomic
operations of the registry.

A `Connect` call first authenticates its worker, then publishes the connection, writes
the worker row, and serves frames until the stream ends; what it deferred takes the
connection out of the map again. The receive loop is given the number of frames it
handles at most, so that a run of any length is a run for a large enough number.

Log lines, the settings of the sandbox proxy and the deadline of a heartbeat ack are
left out.
-/

namespace Onlyboxes.Console

open Text

def maxNodeIDLength : Nat := 128
def maxProvisioningCreateAttempts : Nat := 8
def computerUseCapabilityDeclared : String := "computerUse"
def readImageCapabilityDeclared : String := "readImage"
def defaultWorkerOwnerID : String := "system"

/-- The errors `Connect` returns: a status, or an error of the stream as it came. -/
inductive ConnectError where
  | status (err : StatusError)
  | stream (message : String)
  deriving DecidableEq, Repr

def ConnectError.message : ConnectError → String
  | .status err => err.message
  | .stream message => message

/-- `status.Error(code, message)` as an error of `Connect`. -/
def connectStatus (code : Code) (message : String) : Option ConnectError :=
  some (.status ⟨code, message⟩)

/-! ## The hello frame -/

def validateNodeID (nodeID : String) : Option StatusError :=
  if trimSpace nodeID = "" then some ⟨.invalidArgument, "node_id is required"⟩
  else if maxNodeIDLength < nodeID.utf8ByteSize then
    some ⟨.invalidArgument, "node_id is too long"⟩
  else none

def validateHello (hello : ConnectHello) : Option StatusError :=
  match validateNodeID hello.nodeID with
  | some err => some err
  | none =>
    match hello.terminalSessionCapacity with
    | none => none
    | some (maxActiveSessions, activeSessionCount) =>
      if maxActiveSessions < 0 then
        some ⟨.invalidArgument,
          "terminal_session_capacity.max_active_sessions must be non-negative"⟩
      else if activeSessionCount < 0 then
        some ⟨.invalidArgument,
          "terminal_session_capacity.active_session_count must be non-negative"⟩
      else none

/-- `workerSysAllowedCapabilities`: the name on the wire of an allowed capability. -/
def workerSysAllowedCapabilities (name : String) : Option String :=
  if name = computerUseCapabilityName then some computerUseCapabilityDeclared
  else if name = readImageCapabilityName then some readImageCapabilityDeclared
  else none

def sysCapabilityMaxInflight (declared : Int) : Int := if declared ≤ 0 then 1 else declared

/-- The loop of `resolveHelloByWorkerType` over the declared capabilities. -/
def collectAllowedCapabilities (m : CaseMap) :
    List (Option DeclaredCapability) → GoMap String Int → Except StatusError (GoMap String Int)
  | [], allowedMaxInflight => .ok allowedMaxInflight
  | none :: rest, allowedMaxInflight => collectAllowedCapabilities m rest allowedMaxInflight
  | some capability :: rest, allowedMaxInflight =>
    let name := normalizeCapability m capability.name
    if workerSysAllowedCapabilities name = none then
      .error ⟨.permissionDenied, "worker-sys supports only " ++ computerUseCapabilityDeclared ++
        " and " ++ readImageCapabilityDeclared ++ " capabilities"⟩
    else
      collectAllowedCapabilities m rest (allowedMaxInflight.insert name capability.maxInflight)

/-- What `resolveHelloByWorkerType` makes of the hello of a worker-sys. -/
def restrictHello (m : CaseMap) (hello : ConnectHello) : Except StatusError ConnectHello :=
  match collectAllowedCapabilities m hello.capabilities ∅ with
  | .error err => .error err
  | .ok allowedMaxInflight =>
    if allowedMaxInflight.keys = [] then
      .error ⟨.permissionDenied,
        "worker-sys requires at least one of computerUse or readImage capabilities"⟩
    else
      let resolvedCapabilities :=
        [computerUseCapabilityName, readImageCapabilityName].filterMap fun name =>
          (allowedMaxInflight.lookup name).map fun maxInflight =>
            some (DeclaredCapability.mk ((workerSysAllowedCapabilities name).getD "")
              (sysCapabilityMaxInflight maxInflight))
      .ok { hello with capabilities := resolvedCapabilities, terminalSessionCapacity := none }

/-- The hello of a worker with these labels: a worker-sys is restricted. -/
def resolvedHello (m : CaseMap) (hello : ConnectHello) (labels : Labels) :
    Except StatusError ConnectHello :=
  if resolveWorkerType m labels ≠ workerTypeSys then .ok hello else restrictHello m hello

def resolveHelloByWorkerType (m : CaseMap) (hello : ConnectHello) :
    Registry (Except StatusError ConnectHello) := do
  let labels ← perform (.labelsByNodeID hello.nodeID)
  return resolvedHello m hello labels

/-! ## Credentials -/

def getCredential (nodeID : String) : Registry (Option String) := do
  let trimmedNodeID := trimSpace nodeID
  if trimmedNodeID = "" then return none
  else match ← perform (.cachedCredential trimmedNodeID) with
    | some secret => return some secret
    | none =>
      match ← perform (.getCredentialHash trimmedNodeID) with
      | none => return none
      | some hash =>
        perform (.cacheCredential trimmedNodeID hash)
        return some hash

/-! ## The worker row -/

/-- The labels `Upsert` writes: a provisioned worker keeps its owner and its type. -/
def upsertLabels (nodeID : String) (labels : Labels) (existing : Option WorkerNode) :
    Registry (Except String Labels) := do
  match existing with
  | none => return .ok labels
  | some node =>
    if node.provisioned then
      match ← perform (.listWorkerLabels nodeID) with
      | .error err => return .error err
      | .ok base =>
        return .ok (mergeLabelsPreserveKeys base labels [labelOwnerIDKey, labelWorkerTypeKey])
    else return .ok labels

/-- The name `Upsert` writes. -/
def upsertNodeName (nodeName : String) (existing : Option WorkerNode) : String :=
  if trimSpace nodeName = "" then
    match existing with
    | none => ""
    | some node => node.nodeName
  else trimSpace nodeName

def upsert (hello : ConnectHello) (sessionID : String) (now : Int) :
    Registry (Except String Unit) := do
  let nodeID := trimSpace hello.nodeID
  if nodeID = "" then return .error "node_id is required"
  else if trimSpace sessionID = "" then return .error "session_id is required"
  else match ← perform (.getWorkerNode nodeID) with
    | .error err => return .error err
    | .ok existing =>
      match ← upsertLabels nodeID hello.labels existing with
      | .error err => return .error err
      | .ok labels =>
        perform (.upsertWorkerNode
          { nodeID := nodeID
            sessionID := trimSpace sessionID
            provisioned := existing.any WorkerNode.provisioned
            nodeName := upsertNodeName hello.nodeName existing
            labels := labels
            nowUnixMs := now })

/-- The errors of `TouchWithSession`. -/
inductive TouchError where
  | nodeNotFound
  | sessionMismatch
  | store (err : String)
  deriving DecidableEq, Repr

def touchWithSession (nodeID sessionID : String) (now : Int) : Registry (Option TouchError) := do
  match ← perform (.updateHeartbeat (trimSpace nodeID) (trimSpace sessionID) now) with
  | .error err => return some (.store err)
  | .ok true => return none
  | .ok false =>
    match ← perform (.getWorkerNode (trimSpace nodeID)) with
    | .error err => return some (.store err)
    | .ok none => return some .nodeNotFound
    | .ok (some node) =>
      if node.sessionID ≠ trimSpace sessionID then return some .sessionMismatch else return none

/-! ## Serving a connection -/

section Serve

variable (lib : RegistryLib) (cfg : RegistryConfig)

/-- What `handleHeartbeat` answers to a worker whose row was not updated. -/
def touchFailure : TouchError → Option ConnectError
  | .nodeNotFound => connectStatus .notFound "node not found"
  | .sessionMismatch => connectStatus .failedPrecondition "session is outdated"
  | .store _ => connectStatus .internal "failed to update heartbeat"

def handleHeartbeat (session : SessionRef) (heartbeat : HeartbeatFrame) :
    Registry (Option ConnectError) := do
  if trimSpace heartbeat.sessionID = "" then
    return connectStatus .invalidArgument "session_id is required"
  else if heartbeat.nodeID ≠ session.nodeID then
    return connectStatus .invalidArgument "node_id mismatch"
  else if heartbeat.activeSessionCount < 0 then
    return connectStatus .invalidArgument "active_session_count must be non-negative"
  else
    let now ← perform .nowFn
    match ← touchWithSession heartbeat.nodeID heartbeat.sessionID now with
    | some err => return touchFailure err
    | none =>
      perform (.recordHeartbeat session now heartbeat.activeSessionCount)
      match ← perform (.enqueueControl session (.heartbeatAck cfg.heartbeatIntervalSec)) with
      | .error err => return some (.stream err)
      | .ok () => return none

def handleCommandResult (session : SessionRef) (result : CommandResult) :
    Registry (Option ConnectError) := do
  if trimSpace result.commandID = "" then
    return connectStatus .invalidArgument "command_id is required"
  else
    perform (.resolvePending session result.commandID)
    return none

/-- A recovery report: the first one is applied, later ones have to repeat it. -/
def handleRecoveryReport (recoveryRequired : Bool) (session : SessionRef)
    (report : List (Option RecoveryResult)) : Registry (Option ConnectError) := do
  if recoveryRequired = false then
    return connectStatus .invalidArgument "terminal session recovery is not supported by this worker"
  else if ← perform (.isReady session) then
    if ← perform (.matchesRecoveryResults session report) then
      match ← perform (.enqueueControl session .terminalSessionRecoveryAck) with
      | .error _ => return connectStatus .internal "failed to resend terminal session recovery ack"
      | .ok () => return none
    else
      return connectStatus .failedPrecondition
        "terminal session recovery report changed after completion"
  else
    let now ← perform .nowFn
    match ← perform (.applyReport session report now) with
    | .error err => return connectStatus .invalidArgument err
    | .ok () =>
      match ← perform (.enqueueControl session .terminalSessionRecoveryAck) with
      | .error _ => return connectStatus .internal "failed to send terminal session recovery ack"
      | .ok () =>
        perform (.markRecoveryComplete session)
        return none

/-- The receive loop of `Connect`, with the number of frames it still handles: the error
    it returns with, `none` for the end of the stream. -/
def receiveLoop (recoveryRequired : Bool) (session : SessionRef) :
    Nat → Registry (Option ConnectError)
  | 0 => return none
  | frames + 1 => do
    match ← perform (.receive session) with
    -- The error a closed connection ends with changes nothing: it is closed already.
    | .done => return some (.stream "session closed")
    | .contextDone err => return some (.status err)
    | .writerEnded none => return some (.stream "session closed")
    | .writerEnded (some err) => return some (.stream err)
    | .ended none => return none
    | .ended (some err) => return some (.stream err)
    | .heartbeat heartbeat =>
      match ← handleHeartbeat cfg session heartbeat with
      | some err => return some err
      | none => receiveLoop recoveryRequired session frames
    | .commandResult result =>
      match ← handleCommandResult session result with
      | some err => return some err
      | none => receiveLoop recoveryRequired session frames
    | .recoveryReport report =>
      match ← handleRecoveryReport recoveryRequired session report with
      | some err => return some err
      | none => receiveLoop recoveryRequired session frames
    | .other => return connectStatus .invalidArgument "unsupported frame type"

/-- Under the replacing policy: publish the connection and close the one it replaces. -/
def replaceSession (session : SessionRef) : Registry Unit := do
  if cfg.workerConnectionPolicy = .reject then return ()
  else match ← perform (.swapSession session) with
    | none => return ()
    | some replaced =>
      perform (.close replaced (some "session replaced by a newer connection"))

/-- `recoveryRequired` of a connection: it declares terminalExec. -/
def requiresRecovery (hello : ConnectHello) : Bool :=
  (ActiveSession.new lib.caseMap hello.nodeID hello.capabilities).recoveryRequired

/-- The body of `Connect` from `Upsert` on. -/
def serveRegistered (hello : ConnectHello) (session : SessionRef) (sessionID : String)
    (recoveryCandidates : List RecoveryCandidate) (now : Int) (frames : Nat) :
    Registry (Option ConnectError) := do
  match ← upsert hello sessionID now with
  | .error _ => return connectStatus .internal "failed to persist worker registration"
  | .ok () =>
    perform (.startWriter session)
    match ← perform (.enqueueControl session
        (.connectAck sessionID cfg.heartbeatIntervalSec recoveryCandidates)) with
    | .error _ => return connectStatus .internal "failed to send connect ack"
    | .ok () => receiveLoop cfg (requiresRecovery lib hello) session frames

/-- The body of `Connect` after the deferred function. -/
def serveConnection (hello : ConnectHello) (session : SessionRef) (sessionID : String)
    (now : Int) (frames : Nat) : Registry (Option ConnectError) := do
  match ← perform (.beginRecovery session.nodeID now) with
  | .error err => return connectStatus .internal ("prepare terminal session recovery: " ++ err)
  | .ok recoveryCandidates =>
    perform (.setRecoveryCandidates session recoveryCandidates)
    replaceSession cfg session
    serveRegistered lib cfg hello session sessionID recoveryCandidates now frames

def removeSession (session : SessionRef) (sessionID : String) : Registry Unit := do
  if ← perform (.removeSession session) then
    perform (.markUnavailable session.nodeID)
    let _ ← perform (.clearSession session.nodeID sessionID)
    return ()
  else return ()

/-- Under the rejecting policy: whether the connection could be published. -/
def claimSession (session : SessionRef) : Registry Bool := do
  if cfg.workerConnectionPolicy = .reject then perform (.claimSessionIfAvailable session)
  else return true

/-- `Connect` once the worker is authenticated. -/
def connectAuthenticated (hello : ConnectHello) (frames : Nat) :
    Registry (Option ConnectError) := do
  let now ← perform .nowFn
  match ← perform .newID with
  | .error _ => return connectStatus .internal "failed to create session_id"
  | .ok sessionID =>
    let session ← perform (.newActiveSession hello sessionID now)
    match ← perform (.configureSessionProxy session) with
    | some err => return connectStatus .invalidArgument ("invalid proxy endpoint: " ++ err)
    | none =>
      if ← claimSession cfg session then
        let retErr ← serveConnection lib cfg hello session sessionID now frames
        removeSession session sessionID
        perform (.close session (retErr.map ConnectError.message))
        return retErr
      else return connectStatus .failedPrecondition "worker already has an active connection"

/-- `Connect`, by its first frame: an error of the stream, no hello, or a hello. -/
def connect (first : Except ConnectError (Option ConnectHello)) (frames : Nat) :
    Registry (Option ConnectError) := do
  match first with
  | .error err => return some err
  | .ok none => return connectStatus .invalidArgument "first frame must be hello"
  | .ok (some hello) =>
    match validateHello hello with
    | some err => return some (.status err)
    | none =>
      match ← getCredential hello.nodeID with
      | none => return connectStatus .unauthenticated "unknown worker_id"
      | some secret =>
        if trimSpace hello.workerSecret = "" then
          return connectStatus .unauthenticated "worker_secret is required"
        else if lib.secretMatches secret (trimSpace hello.workerSecret) = false then
          return connectStatus .unauthenticated "invalid worker credential"
        else match ← resolveHelloByWorkerType lib.caseMap hello with
          | .error err => return some (.status err)
          | .ok hello => connectAuthenticated lib cfg hello frames

end Serve

/-! ## Provisioning -/

def disconnectWorker (nodeID reason : String) : Registry Unit := do
  let trimmedNodeID := trimSpace nodeID
  if trimmedNodeID = "" then return ()
  else
    let session ← perform (.takeSession trimmedNodeID)
    let _ ← perform (.clearSessionByNode trimmedNodeID)
    match session with
    | none => return ()
    | some session => perform (.close session (some reason))

/-- `DeleteProvisionedWorker`: whether the worker was known. -/
def deleteProvisionedWorker (nodeID : String) : Registry (Except String Bool) := do
  let trimmedNodeID := trimSpace nodeID
  if trimmedNodeID = "" then return .ok false
  else match ← perform (.deleteRoutesByNode trimmedNodeID) with
    | .error err => return .error err
    | .ok () =>
      let deletedCredentialInMemory ← perform (.deleteCredential trimmedNodeID)
      let deletedCredentialInDB ← perform (.storeDeleteCredential trimmedNodeID)
      let deletedNode ← perform (.storeDelete trimmedNodeID)
      if deletedCredentialInMemory = false ∧ deletedCredentialInDB = false ∧
          deletedNode = false then return .ok false
      else
        disconnectWorker trimmedNodeID "worker credential revoked"
        return .ok true

/-- `normalizeProvisioningWorkerType`; `none` is the empty string. -/
def normalizeProvisioningWorkerType (m : CaseMap) (workerType : String) : Option String :=
  let normalized := normalizeWorkerType m workerType
  if normalized = workerTypeNormal then some workerTypeNormal
  else if normalized = workerTypeSys then some workerTypeSys
  else none

/-- The errors of `CreateProvisionedWorkerForOwner`. -/
inductive CreateError where
  | ownerIDRequired
  | invalidWorkerType
  | random (err : String)
  | noUniqueWorkerID
  deriving DecidableEq, Repr

/-- The labels a worker is provisioned with. -/
def provisionedLabels (ownerID workerType : String) : Labels :=
  (((∅ : Labels).insert "source" "console-ui").insert labelOwnerIDKey ownerID).insert
    labelWorkerTypeKey workerType

/-- The loop of `CreateProvisionedWorkerForOwner`, with the number of attempts left: the
    id and the secret of the new worker. -/
def createAttempts (lib : RegistryLib) (ownerID workerType : String) (now offlineTTLMs : Int) :
    Nat → Registry (Except CreateError (String × String))
  | 0 => return .error .noUniqueWorkerID
  | attempts + 1 => do
    match ← perform .newID with
    | .error err => return .error (.random err)
    | .ok workerID =>
      match ← perform .newSecret with
      | .error err => return .error (.random err)
      | .ok workerSecret =>
        if ← perform (.seedProvisionedWorker workerID (provisionedLabels ownerID workerType) now
            offlineTTLMs) then
          if ← perform (.putCredentialIfAbsent workerID (lib.hashSecret workerSecret)) then
            if ← perform (.putCredentialHashIfAbsent workerID (lib.hashSecret workerSecret)) then
              return .ok (workerID, workerSecret)
            else
              let _ ← perform (.deleteCredential workerID)
              let _ ← perform (.storeDelete workerID)
              createAttempts lib ownerID workerType now offlineTTLMs attempts
          else
            let _ ← perform (.storeDelete workerID)
            createAttempts lib ownerID workerType now offlineTTLMs attempts
        else createAttempts lib ownerID workerType now offlineTTLMs attempts

def createProvisionedWorkerForOwner (lib : RegistryLib) (ownerID workerType : String)
    (now offlineTTLMs : Int) : Registry (Except CreateError (String × String)) := do
  let normalizedOwnerID := trimSpace ownerID
  if normalizedOwnerID = "" then return .error .ownerIDRequired
  else match normalizeProvisioningWorkerType lib.caseMap workerType with
    | none => return .error .invalidWorkerType
    | some normalizedWorkerType =>
      createAttempts lib normalizedOwnerID normalizedWorkerType now offlineTTLMs
        maxProvisioningCreateAttempts

/-! ## The system -/

/-- The calls of the registry. -/
inductive RegistryCall where
  | connect (first : Except ConnectError (Option ConnectHello)) (frames : Nat)
  | deleteWorker (nodeID : String)
  | createWorker (ownerID workerType : String) (now offlineTTLMs : Int)

/-- The program of a call; what it returns is not looked at. -/
def RegistryCall.body (lib : RegistryLib) (cfg : RegistryConfig) : RegistryCall → Registry Unit
  | .connect first frames => do
    let _ ← Console.connect lib cfg first frames
  | .deleteWorker nodeID => do
    let _ ← deleteProvisionedWorker nodeID
  | .createWorker ownerID workerType now offlineTTLMs => do
    let _ ← createProvisionedWorkerForOwner lib ownerID workerType now offlineTTLMs

/-- The registry: any number of connections and provisioning calls, interleaved with each
    other, with dispatches and with the writers of the connections. -/
def registrySystem (lib : RegistryLib) (cfg : RegistryConfig) :
    ThreadSystem RegistryState RegistryCall RegistryOp RegistryOp.Res Unit RegistryAnswer
      RegistryEvent where
  init := RegistryState.Started
  body := RegistryCall.body lib cfg
  exec := RegistryState.exec lib.caseMap cfg
  env := RegistryState.occurs lib.caseMap
  stamp _ := ()

/-- A call of the registry, running or finished. -/
abbrev RegistryThread := Thread RegistryCall RegistryOp RegistryOp.Res Unit

abbrev RegistryPool := Pool RegistryState RegistryCall RegistryOp RegistryOp.Res Unit

abbrev RegistryAction := PoolAction RegistryCall RegistryAnswer RegistryEvent

end Onlyboxes.Console
