import Onlyboxes.ForStd.GoMap
import Onlyboxes.ForStd.Threads
import Onlyboxes.Worker.Process

/-!
# The session manager of the Docker worker

The state of `terminalSessionManager` (`terminal_exec.go`, `session_recovery.go`) and of
the containers it works with, and the atomic operations on them: the critical sections of
its mutex, the channel of a session, and single `docker` commands. A session object is
known by its place in the list of all objects made so far, so that a later object with
the same session id is another one.

The timers of leases may fire at any time, since `expireSessionLease` looks at the lease
again. `Close` is left out. Of what Docker itself prints about containers (`inspect`,
`ps`) the model has what the code reads from it; the output of `exec` and `cp` is any
sequence of bytes.
-/

namespace Onlyboxes.Docker

open Text Worker

/-! ## Settings -/

/-- `terminalSessionManagerConfig`. -/
structure ManagerConfig where
  leaseMinSec : Int := 0
  leaseMaxSec : Int := 0
  leaseDefaultSec : Int := 0
  outputLimitBytes : Int := 0
  exportMaxBytes : Int := 0
  dockerNetwork : String := ""
  sessionMaxInflight : Int := 0
  maxActiveSessions : Int := 0
  deriving DecidableEq, Repr

/-- The settings of a manager, as `newTerminalSessionManager` leaves them. -/
structure ManagerSettings where
  leaseMinSec : Int
  leaseMaxSec : Int
  leaseDefaultSec : Int
  outputLimitBytes : Int
  exportMaxBytes : Int
  dockerNetwork : String
  sessionMaxInflight : Int
  maxActiveSessions : Int
  leaseMinSec_pos : 0 < leaseMinSec
  leaseMinSec_le : leaseMinSec ≤ leaseDefaultSec
  leaseDefaultSec_le : leaseDefaultSec ≤ leaseMaxSec
  outputLimitBytes_pos : 0 < outputLimitBytes
  sessionMaxInflight_pos : 0 < sessionMaxInflight
  maxActiveSessions_nonneg : 0 ≤ maxActiveSessions

/-- A setting that is not positive is replaced by its default. -/
def orDefault (value dflt : Int) : Int := if value ≤ 0 then dflt else value

theorem orDefault_pos {value dflt : Int} (h : 0 < dflt) : 0 < orDefault value dflt := by
  unfold orDefault
  split <;> omega

def newTerminalSessionManager (cfg : ManagerConfig) : ManagerSettings :=
  let leaseMinSec := orDefault cfg.leaseMinSec 60
  let leaseMaxSec := max (orDefault cfg.leaseMaxSec 1800) leaseMinSec
  { leaseMinSec := leaseMinSec
    leaseMaxSec := leaseMaxSec
    leaseDefaultSec := min (max (orDefault cfg.leaseDefaultSec 60) leaseMinSec) leaseMaxSec
    outputLimitBytes := orDefault cfg.outputLimitBytes (1024 * 1024)
    exportMaxBytes := cfg.exportMaxBytes
    dockerNetwork := trimSpace cfg.dockerNetwork
    sessionMaxInflight := orDefault cfg.sessionMaxInflight 1
    maxActiveSessions := if cfg.maxActiveSessions < 0 then 0 else cfg.maxActiveSessions
    leaseMinSec_pos := orDefault_pos (by decide)
    leaseMinSec_le := Int.le_min.mpr ⟨Int.le_max_right _ _, Int.le_max_right _ _⟩
    leaseDefaultSec_le := Int.min_le_right _ _
    outputLimitBytes_pos := orDefault_pos (by decide)
    sessionMaxInflight_pos := orDefault_pos (by decide)
    maxActiveSessions_nonneg := by split <;> omega }

/-- `terminalResourceProbeResult`. -/
structure ProbeResult where
  error : String := ""
  message : String := ""
  mimeType : String := ""
  size : Int := 0
  blob : String := ""
  deriving DecidableEq, Repr

/-- The parts of Go's library that the manager relies on. -/
structure DockerLib where
  /-- `strings.ToLower` on bytes. -/
  toLower : Bytes → Bytes
  caseMap : CaseMap
  /-- `terminalSessionIDHash` of a trimmed id. -/
  sessionIDHash : String → String
  /-- `strings.TrimSpace` of an output. -/
  trimOutput : Bytes → Bytes
  /-- An output as a part of a message. -/
  text : Bytes → String
  /-- `decodeTerminalResourceProbeOutput`: the result, or the error. -/
  decodeProbeOutput : Bytes → Except String ProbeResult
  /-- `base64.StdEncoding.DecodeString`. -/
  decodeBase64 : String → Except String Bytes
  /-- The address of a proxy target, if `netip.ParseAddr` accepts it and it is not
      unspecified. -/
  proxyAddress : String → Option String
  /-- The address that `docker inspect` prints, if `netip.ParseAddr` accepts it and it is
      a global unicast one. -/
  inspectedAddress : Bytes → Option String
  /-- `strconv.Itoa`. -/
  itoa : Int → String

def terminalExecContainerPrefix : String := "onlyboxes-terminal-v1-"

def terminalSessionResourceName (lib : DockerLib) (sessionID : String) : String :=
  terminalExecContainerPrefix ++ lib.sessionIDHash (trimSpace sessionID)

/-! ## Errors -/

def terminalExecNoSessionMessage : String := "session not found"
def terminalExecBusyMessage : String := "session is busy"
def terminalExecCapacityMessage : String := "terminal session capacity exceeded"

def terminalExecCodeSessionNotFound : String := "session_not_found"
def terminalExecCodeSessionBusy : String := "session_busy"
def terminalExecCodeSessionCapacityExceeded : String := "session_capacity_exceeded"
def terminalExecCodeInvalidPayload : String := "invalid_payload"

/-- The errors of the manager. -/
inductive ManagerError where
  /-- `*terminalExecError`. -/
  | terminal (code message : String)
  /-- An error of a command or a context, with the text it is wrapped with. -/
  | command (stage : String) (err : CommandError)
  | other (message : String)
  deriving DecidableEq, Repr

namespace ManagerError

def newTerminalExecError (code message : String) : ManagerError :=
  .terminal (trimSpace code) (trimSpace message)

/-- The error for a session that is not there. -/
def sessionNotFound : ManagerError :=
  newTerminalExecError terminalExecCodeSessionNotFound terminalExecNoSessionMessage

/-- Which context error `errors.Is` finds. -/
def contextError : ManagerError → Option ContextError
  | .command _ (.context err) => some err
  | _ => none

/-- Whether `errors.As` finds a `*terminalExecError` with a code. -/
def hasCode (err : ManagerError) (code : String) : Bool :=
  match err with
  | .terminal code' _ => code' = code
  | _ => false

end ManagerError

/-! ## State -/

structure TerminalSession where
  sessionID : String
  containerName : String
  containerIP : String := ""
  leaseExpiresAt : Int
  inflight : Nat := 0
  destroying : Bool := false
  /-- The channel `ready` is closed. -/
  ready : Bool := false
  initErr : Option ManagerError := none
  capacityReserved : Bool := true
  deriving DecidableEq, Repr

/-- A container: whether it runs, and for which session object it was created by this
    process. -/
structure Container where
  running : Bool := false
  creator : Option Nat := none
  deriving DecidableEq, Repr

/-- The shared state. -/
structure ManagerState where
  /-- `sessions`: the session object of each id. -/
  sessions : GoMap String Nat := ∅
  /-- The session objects made so far. -/
  objects : List TerminalSession := []
  activeSessionReservations : Nat := 0
  /-- The containers, by name. -/
  containers : GoMap String Container := ∅
  clock : Int

/-- `TerminalSessionRecoveryResult_Status`. -/
inductive RecoveryStatus where
  | recovered
  | missing
  | invalid
  deriving DecidableEq, Repr

/-- A session that a call claimed: the fields of it that never change, and whether the
    call has to create the container. -/
structure Claim where
  session : Nat
  sessionID : String
  containerName : String
  created : Bool
  deriving DecidableEq, Repr

/-- A session that was taken out of the map and is to be cleaned up. -/
structure Retired where
  session : Nat
  containerName : String
  deriving DecidableEq, Repr

/-- What `recoverOneAttempt` reads from `docker inspect`. -/
inductive InspectOutcome where
  /-- The command failed; whether it says that there is no such container. -/
  | failed (noSuchContainer : Bool)
  /-- The output has not two parts. -/
  | malformed
  /-- The labels cannot be read or are not those of the session. -/
  | foreign
  | labeled (status : String)
  deriving DecidableEq, Repr

/-- What `ResolveProxyTarget` finds. -/
inductive ProxyOutcome where
  | notFound
  /-- The lease is over: the session was taken out of the map. -/
  | expired (session : Retired)
  | found (ip : String)
  deriving DecidableEq, Repr

structure TerminalExecRunResult where
  sessionID : String
  created : Bool
  stdout : Bytes
  stderr : Bytes
  exitCode : Int
  stdoutTruncated : Bool
  stderrTruncated : Bool
  leaseExpiresUnixMS : Int
  deriving DecidableEq, Repr

structure TerminalResourceRunResult where
  sessionID : String
  filePath : String
  mimeType : String
  sizeBytes : Int
  blob : Bytes := []
  deriving DecidableEq, Repr

/-- `TerminalSessionRecoveryResult`. -/
structure RecoveryResult where
  sessionID : String
  status : RecoveryStatus
  deriving DecidableEq, Repr

/-- The atomic operations. -/
inductive ManagerOp where
  /-- `time.Now`, in milliseconds. -/
  | timeNow
  | claimSession (sessionID : String) (leaseTarget : Int) (createIfMissing : Bool)
  | dockerCreate (session : Nat) (containerName : String)
  | dockerStart (containerName : String)
  /-- The command of `inspectTerminalContainerIP`. -/
  | dockerInspectIP (containerName : String)
  | dockerExec (containerName command : String)
  | dockerProbe (containerName action filePath : String) (maxReadBytes : Int)
  | createTemp
  | dockerCopy (containerName filePath : String)
  | putFileToSignedURL (signedURL : String) (headers : List (String × String))
  /-- `docker rm -f`, on behalf of a session object if it is not recovery. -/
  | dockerRemove (owner : Option Nat) (containerName : String)
  /-- Set `containerIP` and `initErr` and close `ready`. -/
  | publishReady (session : Nat) (containerIP : String) (initErr : Option ManagerError)
  /-- The `select` on `ready` and the context. -/
  | awaitReady (session : Nat)
  | loadInitErr (session : Nat)
  | sessionIsActive (session : Nat)
  /-- The critical section of `cleanupInactiveCreatedSession`: whether the session was in
      the map. -/
  | detachCreated (session : Nat)
  /-- The critical section of `releaseSession`: the lease and the session it retires. -/
  | releaseSession (sessionID : String)
  /-- The critical section of `releaseAndDestroySession`: the session it retires. -/
  | releaseAndDestroySession (sessionID : String)
  | releaseCapacityReservation (session : Nat)
  | renewLease (sessionID : String) (leaseTarget now : Int)
  /-- The critical section of `cleanupExpiredSessions`. -/
  | takeExpired (now : Int)
  /-- The critical section of `expireSessionLease`: the session, if it expired. -/
  | expireSessionLease (session : Nat) (now : Int)
  | lookupProxySession (sessionID : String)
  | resolveProxyTarget (sessionID : String) (session : Nat) (now : Int)
  /-- The first critical section of `recoverOneAttempt`. -/
  | recoverExisting (sessionID : String) (leaseExpiresAt : Int)
  | dockerInspect (containerName : String)
  /-- `docker ps` with the labels of a session: the names, unless it failed. -/
  | dockerPsSession (sessionID : String)
  /-- The last critical section of `recoverOneAttempt`. -/
  | recoverInsert (sessionID containerName containerIP : String) (leaseExpiresAt : Int)
  /-- `waitTerminalRecoveryRetry`. -/
  | waitRetry
  /-- `docker ps` with the label of all sessions: the names, unless it failed. -/
  | dockerPsAll
  /-- The caller gets the result. -/
  | returnExecute (result : Except ManagerError TerminalExecRunResult)
  | returnResource (result : Except ManagerError TerminalResourceRunResult)
  | returnRenew (result : Except ManagerError Int)
  | returnProxy (result : Except (Option ContextError) String)
  | returnRecover (results : List RecoveryResult)

/-- What an operation returns. -/
@[reducible] def ManagerOp.Res : ManagerOp → Type
  | .timeNow => Int
  | .claimSession .. => Except ManagerError Claim
  | .dockerCreate .. | .dockerStart _ | .dockerInspectIP _ | .dockerExec .. | .dockerProbe ..
  | .dockerCopy .. | .dockerRemove .. => DockerCommandResult
  | .createTemp => Option String
  | .putFileToSignedURL .. => Option CommandError
  | .loadInitErr _ => Option ManagerError
  | .awaitReady _ => Option ContextError
  | .sessionIsActive _ | .detachCreated _ | .recoverExisting .. | .waitRetry => Bool
  | .releaseSession _ => Option (Int × Option Retired)
  | .releaseAndDestroySession _ | .expireSessionLease .. => Option Retired
  | .lookupProxySession _ => Option Nat
  | .renewLease .. => Except ManagerError Int
  | .takeExpired _ => List Retired
  | .resolveProxyTarget .. => ProxyOutcome
  | .dockerInspect _ => InspectOutcome
  | .dockerPsSession _ | .dockerPsAll => Option (List String)
  | .recoverInsert .. => RecoveryStatus
  | .publishReady .. | .releaseCapacityReservation _ | .returnExecute _ | .returnResource _
  | .returnRenew _ | .returnProxy _ | .returnRecover _ => Unit

/-- A program of the manager. -/
abbrev Manager := Prog ManagerOp ManagerOp.Res

/-- One atomic operation. -/
abbrev perform (o : ManagerOp) : Manager o.Res := Prog.call o

/-- What the outside world contributes to one operation. -/
inductive ManagerAnswer where
  | none
  /-- `uuid.NewString`. -/
  | uuid (id : String)
  /-- How a `docker` command ran, and whether it took effect although it failed. -/
  | docker (run : CommandRun) (effect : Bool)
  | temp (err : Option String)
  | put (err : Option CommandError)
  /-- The context is over. -/
  | contextDone (err : ContextError)
  /-- The order in which the map is walked. -/
  | order (sessions : List Retired)
  | inspected (outcome : InspectOutcome)
  | listed (names : Option (List String))
  | retry (goOn : Bool)

namespace ManagerState

variable (lib : DockerLib) (cfg : ManagerSettings)

/-- The session object of an id. -/
def current (s : ManagerState) (sessionID : String) : Option (Nat × TerminalSession) :=
  match s.sessions.lookup sessionID with
  | none => none
  | some session => (s.objects[session]?).map fun obj => (session, obj)

/-- An update of a session object. -/
def modify (s : ManagerState) (session : Nat) (f : TerminalSession → TerminalSession) : ManagerState :=
  { s with objects := s.objects.modify session f }

def newSessionLocked (s : ManagerState) (sessionID : String) (leaseTarget : Int) :
    ManagerState × Except ManagerError Claim :=
  if 0 < cfg.maxActiveSessions ∧ cfg.maxActiveSessions ≤ s.activeSessionReservations then
    (s, .error (.newTerminalExecError terminalExecCodeSessionCapacityExceeded
      terminalExecCapacityMessage))
  else
    let containerName := terminalSessionResourceName lib sessionID
    ({ s with
      sessions := s.sessions.insert sessionID s.objects.length
      objects := s.objects ++
        [{ sessionID := sessionID
           containerName := containerName
           leaseExpiresAt := leaseTarget
           inflight := 1 }]
      activeSessionReservations := s.activeSessionReservations + 1 },
      .ok ⟨s.objects.length, sessionID, containerName, true⟩)

/-- A lease that is extended to a target, if that is later. -/
def extendLease (leaseTarget : Int) (obj : TerminalSession) : TerminalSession :=
  { obj with leaseExpiresAt := if obj.leaseExpiresAt < leaseTarget then leaseTarget else obj.leaseExpiresAt }

/-- `claimSession` with an id. -/
def claimSession (s : ManagerState) (sessionID : String) (leaseTarget : Int)
    (createIfMissing : Bool) : ManagerState × Except ManagerError Claim :=
  match s.current sessionID with
  | some (session, existing) =>
    if existing.destroying then (s, .error .sessionNotFound)
    else if cfg.sessionMaxInflight ≤ existing.inflight then
      (s, .error (.newTerminalExecError terminalExecCodeSessionBusy terminalExecBusyMessage))
    else
      (s.modify session fun obj => extendLease leaseTarget { obj with inflight := obj.inflight + 1 },
        .ok ⟨session, sessionID, existing.containerName, false⟩)
  | none =>
    if createIfMissing then s.newSessionLocked lib cfg sessionID leaseTarget
    else (s, .error .sessionNotFound)

def sessionIsActive (s : ManagerState) (session : Nat) (obj : TerminalSession) : Bool :=
  s.sessions.lookup obj.sessionID = some session && !obj.destroying

/-- The session is being destroyed. -/
def destroy (obj : TerminalSession) : TerminalSession := { obj with destroying := true }

/-- A session leaves the map and is destroyed. -/
def detach (s : ManagerState) (session : Nat) (obj : TerminalSession) : ManagerState :=
  { s.modify session destroy with sessions := s.sessions.erase obj.sessionID }

/-- `cleanupInactiveCreatedSession`, its critical section. -/
def detachCreated (s : ManagerState) (session : Nat) (obj : TerminalSession) : ManagerState × Bool :=
  if s.sessions.lookup obj.sessionID = some session then (s.detach session obj, true) else (s, false)

/-- One slot less. -/
def releaseSlot (obj : TerminalSession) : TerminalSession := { obj with inflight := obj.inflight - 1 }

/-- `releaseSession`, its critical section. -/
def releaseSession (s : ManagerState) (sessionID : String) :
    ManagerState × Option (Int × Option Retired) :=
  match s.current sessionID with
  | none => (s, none)
  | some (session, obj) =>
    if obj.destroying ∧ (releaseSlot obj).inflight = 0 then
      ({ s.modify session releaseSlot with sessions := s.sessions.erase sessionID },
        some (obj.leaseExpiresAt, some ⟨session, obj.containerName⟩))
    else (s.modify session releaseSlot, some (obj.leaseExpiresAt, none))

/-- `releaseAndDestroySession`, its critical section. -/
def releaseAndDestroySession (s : ManagerState) (sessionID : String) :
    ManagerState × Option Retired :=
  match s.current sessionID with
  | none => (s, none)
  | some (session, obj) =>
    let s' := s.modify session fun obj => releaseSlot (destroy obj)
    if (releaseSlot obj).inflight = 0 then
      ({ s' with sessions := s.sessions.erase sessionID }, some ⟨session, obj.containerName⟩)
    else (s', none)

def releaseCapacityReservation (s : ManagerState) (session : Nat) (obj : TerminalSession) :
    ManagerState :=
  if obj.capacityReserved then
    { s.modify session ({ · with capacityReserved := false }) with
      activeSessionReservations := s.activeSessionReservations - 1 }
  else s

/-- The critical section of `RenewLease`. -/
def renewLease (s : ManagerState) (sessionID : String) (leaseTarget now : Int) :
    ManagerState × Except ManagerError Int :=
  match s.current sessionID with
  | none => (s, .error .sessionNotFound)
  | some (session, obj) =>
    if obj.destroying ∨ obj.leaseExpiresAt ≤ now then (s, .error .sessionNotFound)
    else (s.modify session (extendLease leaseTarget), .ok (extendLease leaseTarget obj).leaseExpiresAt)

/-- The session that `cleanupExpiredSessions` takes, if it is one. -/
def expires (s : ManagerState) (now : Int) (session : Nat) : Option Retired :=
  match s.objects[session]? with
  | none => none
  | some obj =>
    if obj.destroying = false ∧ obj.leaseExpiresAt ≤ now then some ⟨session, obj.containerName⟩
    else none

/-- The sessions that `cleanupExpiredSessions` takes, in some order. -/
def expired (s : ManagerState) (now : Int) : List Retired :=
  (s.sessions.entries.map (·.2)).filterMap (s.expires now)

/-- `cleanupExpiredSessions`, its critical section. -/
def takeExpired (s : ManagerState) (now : Int) : ManagerState :=
  { s with
    sessions := s.sessions.filter fun _ session => (s.expires now session).isNone
    objects := (s.expired now).foldl (fun objects r => objects.modify r.session destroy) s.objects }

/-- `expireSessionLease`, its critical section. -/
def expireSessionLease (s : ManagerState) (session : Nat) (obj : TerminalSession) (now : Int) :
    ManagerState × Option Retired :=
  if s.sessions.lookup obj.sessionID = some session ∧ obj.destroying = false ∧
      obj.leaseExpiresAt ≤ now then
    (s.detach session obj, some ⟨session, obj.containerName⟩)
  else (s, none)

/-- The last critical section of `ResolveProxyTarget`. -/
def resolveProxyTarget (s : ManagerState) (session : Nat) (obj : TerminalSession) (sessionID : String)
    (now : Int) : ManagerState × ProxyOutcome :=
  if s.sessions.lookup sessionID ≠ some session ∨ obj.destroying ∨ obj.initErr.isSome then
    (s, .notFound)
  else if obj.leaseExpiresAt ≤ now then
    (s.detach session obj, .expired ⟨session, obj.containerName⟩)
  else match lib.proxyAddress obj.containerIP with
    | none => (s, .notFound)
    | some ip => (s, .found ip)

/-- The first critical section of `recoverOneAttempt`. -/
def recoverExisting (s : ManagerState) (sessionID : String) (leaseExpiresAt : Int) :
    ManagerState × Bool :=
  match s.current sessionID with
  | none => (s, false)
  | some (session, obj) =>
    if obj.destroying then (s, false)
    else (s.modify session ({ · with leaseExpiresAt := leaseExpiresAt }), true)

/-- The last critical section of `recoverOneAttempt`. -/
def recoverInsert (s : ManagerState) (sessionID containerName containerIP : String)
    (leaseExpiresAt : Int) : ManagerState × RecoveryStatus :=
  match s.current sessionID with
  | some (session, obj) =>
    if obj.containerName ≠ containerName ∨ obj.destroying then (s, .invalid)
    else (s.modify session ({ · with leaseExpiresAt := leaseExpiresAt }), .recovered)
  | none =>
    ({ s with
      sessions := s.sessions.insert sessionID s.objects.length
      objects := s.objects ++
        [{ sessionID := sessionID
           containerName := containerName
           containerIP := containerIP
           leaseExpiresAt := leaseExpiresAt
           ready := true }]
      activeSessionReservations := s.activeSessionReservations + 1 }, .recovered)

/-! ### Containers -/

/-- The command exited with 0. -/
def succeeded (result : DockerCommandResult) : Bool := result.err = none && result.exitCode = 0

/-- `docker create`: a name is used once. -/
def dockerCreate (s : ManagerState) (session : Nat) (containerName : String)
    (result : DockerCommandResult) (effect : Bool) : Option (ManagerState × DockerCommandResult) :=
  if (s.containers.lookup containerName).isSome then
    if succeeded result then none else some (s, result)
  else if succeeded result || effect then
    some ({ s with containers := s.containers.insert containerName { creator := some session } }, result)
  else some (s, result)

/-- `docker start`. -/
def dockerStart (s : ManagerState) (containerName : String) (result : DockerCommandResult)
    (effect : Bool) : Option (ManagerState × DockerCommandResult) :=
  match s.containers.lookup containerName with
  | none => if succeeded result then none else some (s, result)
  | some container =>
    if succeeded result || effect then
      some ({ s with
        containers := s.containers.insert containerName { container with running := true } }, result)
    else some (s, result)

/-- `docker rm -f`. -/
def dockerRemove (s : ManagerState) (containerName : String) (result : DockerCommandResult)
    (effect : Bool) : ManagerState × DockerCommandResult :=
  if succeeded result || effect then
    ({ s with containers := s.containers.erase containerName }, result)
  else (s, result)

/-- An operation on a session object. -/
def onObject {ρ : Type} (s : ManagerState) (session : Nat)
    (f : TerminalSession → ManagerState × ρ) : Option (ManagerState × ρ) :=
  (s.objects[session]?).map f

/-- A new session id is a uuid that no session had before. -/
def freshID (s : ManagerState) (id : String) : Bool :=
  id ≠ "" && trimSpace id = id && s.objects.all fun obj => obj.sessionID ≠ id

/-- The effect and the result of one operation. -/
def exec (s : ManagerState) : (o : ManagerOp) → ManagerAnswer → Option (ManagerState × o.Res)
  | .timeNow, .none => some (s, s.clock)
  | .claimSession sessionID leaseTarget createIfMissing, ans =>
    if sessionID = "" then
      match ans with
      | .uuid id => if s.freshID id then some (s.newSessionLocked lib cfg id leaseTarget) else none
      | _ => none
    else
      match ans with
      | .none => some (s.claimSession lib cfg sessionID leaseTarget createIfMissing)
      | _ => none
  | .dockerCreate session containerName, .docker run effect =>
    s.dockerCreate session containerName (runDockerCommandCLI run) effect
  | .dockerStart containerName, .docker run effect =>
    s.dockerStart containerName (runDockerCommandCLI run) effect
  | .dockerInspectIP _, .docker run _ => some (s, runDockerCommandCLI run)
  | .dockerExec .., .docker run _ => some (s, runDockerCommandCLI run)
  | .dockerProbe .., .docker run _ => some (s, runDockerCommandCLI run)
  | .createTemp, .temp err => some (s, err)
  | .dockerCopy .., .docker run _ => some (s, runDockerCommandCLI run)
  | .putFileToSignedURL .., .put err => some (s, err)
  | .dockerRemove _ containerName, .docker run effect =>
    some (s.dockerRemove containerName (runDockerCommandCLI run) effect)
  | .publishReady session containerIP initErr, .none =>
    s.onObject session fun _ => (s.modify session fun obj =>
      { obj with containerIP := containerIP, initErr := initErr, ready := true }, ())
  | .awaitReady session, .none =>
    if (s.objects[session]?).any (·.ready) then some (s, none) else none
  | .awaitReady _, .contextDone err => some (s, some err)
  | .loadInitErr session, .none => s.onObject session fun obj => (s, obj.initErr)
  | .sessionIsActive session, .none =>
    s.onObject session fun obj => (s, s.sessionIsActive session obj)
  | .detachCreated session, .none => s.onObject session (s.detachCreated session)
  | .releaseSession sessionID, .none => some (s.releaseSession sessionID)
  | .releaseAndDestroySession sessionID, .none => some (s.releaseAndDestroySession sessionID)
  | .releaseCapacityReservation session, .none =>
    s.onObject session fun obj => (s.releaseCapacityReservation session obj, ())
  | .renewLease sessionID leaseTarget now, .none => some (s.renewLease sessionID leaseTarget now)
  | .takeExpired now, .order sessions =>
    if sessions.isPerm (s.expired now) then some (s.takeExpired now, sessions) else none
  | .expireSessionLease session now, .none =>
    s.onObject session fun obj => s.expireSessionLease session obj now
  | .lookupProxySession sessionID, .none =>
    some (s, (s.current sessionID).bind fun x => if x.2.destroying then none else some x.1)
  | .resolveProxyTarget sessionID session now, .none =>
    s.onObject session fun obj => s.resolveProxyTarget lib session obj sessionID now
  | .recoverExisting sessionID leaseExpiresAt, .none => some (s.recoverExisting sessionID leaseExpiresAt)
  | .dockerInspect containerName, .inspected outcome =>
    match outcome with
    | .failed _ => some (s, outcome)
    | _ => if (s.containers.lookup containerName).isSome then some (s, outcome) else none
  | .dockerPsSession _, .listed names =>
    if (names.getD []).all fun name => (s.containers.lookup name).isSome then some (s, names) else none
  | .recoverInsert sessionID containerName containerIP leaseExpiresAt, .none =>
    some (s.recoverInsert sessionID containerName containerIP leaseExpiresAt)
  | .waitRetry, .retry goOn => some (s, goOn)
  | .dockerPsAll, .listed names =>
    if (names.getD []).all fun name => (s.containers.lookup name).isSome then some (s, names) else none
  | .returnExecute _, .none => some (s, ())
  | .returnResource _, .none => some (s, ())
  | .returnRenew _, .none => some (s, ())
  | .returnProxy _, .none => some (s, ())
  | .returnRecover _, .none => some (s, ())
  | _, _ => none

/-- A new process: containers may be there from before. -/
def Started (s : ManagerState) : Prop :=
  ∃ containers clock, (∀ name c, containers.lookup name = some c → c.creator = none) ∧
    s = { containers := containers, clock := clock }

end ManagerState

/-- What happens besides the calls: time passes, and containers are lost. -/
inductive ManagerEvent where
  | tick (now : Int)
  | containerLost (containerName : String)

/-- One step of the environment. -/
def ManagerState.occurs (s : ManagerState) : ManagerEvent → Option ManagerState
  | .tick now => if s.clock ≤ now then some { s with clock := now } else none
  | .containerLost containerName =>
    some { s with containers := s.containers.erase containerName }

end Onlyboxes.Docker
