import Onlyboxes.Docker.Terminal

/-!
# The session manager of the E2B worker

The state of `terminalSessionManager` of `worker-bridge-e2b` (`terminal_exec.go`,
`session_recovery.go`) and of the sandboxes at the backend, and the atomic operations on
them: the critical sections of its mutex, the lock and the channel of a session, and single
calls of the backend. As for Docker, a session object is known by its place in the list of
all objects made so far. A sandbox is known by its id.

The backend is honest: a `Create` that fails leaves no sandbox, ids are not given twice,
and the expiry of a sandbox is what `Create`, `SetTimeout` or `Connect` set last. `Close` is
left out. The texts and types that this worker shares with the Docker worker are those of
`Onlyboxes.Docker`.
-/

namespace Onlyboxes.E2B

open Text Worker
open Docker (orDefault orDefault_pos terminalExecNoSessionMessage terminalExecBusyMessage
  terminalExecCapacityMessage terminalExecCodeSessionNotFound terminalExecCodeSessionBusy
  terminalExecCodeSessionCapacityExceeded terminalExecCodeInvalidPayload zeroTimeUnixMs
  RecoveryStatus RecoveryResult ResourceAction)

/-! ## Settings -/

/-- `terminalSessionManagerConfig`. -/
structure ManagerConfig where
  leaseMinSec : Int := 0
  leaseMaxSec : Int := 0
  leaseDefaultSec : Int := 0
  outputLimitBytes : Int := 0
  exportMaxBytes : Int := 0
  exportMode : String := ""
  sessionMaxInflight : Int := 0
  maxActiveSessions : Int := 0
  deriving DecidableEq, Repr

/-- The export modes. -/
inductive ExportMode where
  | worker
  | sandbox
  deriving DecidableEq, Repr

/-- The settings of a manager, as `newTerminalSessionManager` leaves them. -/
structure ManagerSettings where
  leaseMinSec : Int
  leaseMaxSec : Int
  leaseDefaultSec : Int
  outputLimitBytes : Int
  exportMaxBytes : Int
  exportMode : ExportMode
  sessionMaxInflight : Int
  maxActiveSessions : Int
  /-- The backend is an `e2bRecoveryBackend`. -/
  recovers : Bool
  leaseMinSec_pos : 0 < leaseMinSec
  leaseMinSec_le : leaseMinSec ≤ leaseDefaultSec
  leaseDefaultSec_le : leaseDefaultSec ≤ leaseMaxSec
  outputLimitBytes_pos : 0 < outputLimitBytes
  sessionMaxInflight_pos : 0 < sessionMaxInflight
  maxActiveSessions_nonneg : 0 ≤ maxActiveSessions

/-- The parts of the libraries that the manager relies on. -/
structure E2BLib where
  caseMap : CaseMap
  /-- `strings.EqualFold`. -/
  equalFold : String → String → Bool
  /-- `terminalSessionIDHash` of a trimmed id. -/
  sessionIDHash : String → String
  /-- `json.Unmarshal` of the metadata of a resource. -/
  decodeProbe : String → Except String Docker.ProbeResult
  /-- `Sandbox.ProxyURL`: the URL and the token, or the error. -/
  proxyURL : String → Int → Except String (String × String)
  /-- `strconv.Itoa`. -/
  itoa : Int → String

def normalizeTerminalExportMode (lib : E2BLib) (mode : String) : ExportMode :=
  if lib.equalFold (trimSpace mode) "worker" then .worker else .sandbox

def newTerminalSessionManager (lib : E2BLib) (cfg : ManagerConfig) (recovers : Bool) :
    ManagerSettings :=
  let leaseMinSec := orDefault cfg.leaseMinSec 60
  let leaseMaxSec := max (orDefault cfg.leaseMaxSec 1800) leaseMinSec
  { leaseMinSec := leaseMinSec
    leaseMaxSec := leaseMaxSec
    leaseDefaultSec := min (max (orDefault cfg.leaseDefaultSec 300) leaseMinSec) leaseMaxSec
    outputLimitBytes := orDefault cfg.outputLimitBytes (1024 * 1024)
    exportMaxBytes := cfg.exportMaxBytes
    exportMode := normalizeTerminalExportMode lib cfg.exportMode
    sessionMaxInflight := orDefault cfg.sessionMaxInflight 128
    maxActiveSessions := if cfg.maxActiveSessions < 0 then 0 else cfg.maxActiveSessions
    recovers := recovers
    leaseMinSec_pos := orDefault_pos (by decide)
    leaseMinSec_le := Int.le_min.mpr ⟨Int.le_max_right _ _, Int.le_max_right _ _⟩
    leaseDefaultSec_le := Int.min_le_right _ _
    outputLimitBytes_pos := orDefault_pos (by decide)
    sessionMaxInflight_pos := orDefault_pos (by decide)
    maxActiveSessions_nonneg := by split <;> omega }

/-! ## Errors -/

/-- The errors of the backend. -/
inductive BackendError where
  | context (err : ContextError)
  /-- `ErrSandboxNotFound`. -/
  | sandboxNotFound
  /-- `ErrFileNotFound`. -/
  | fileNotFound
  /-- `ErrFileTooLarge`. -/
  | fileTooLarge
  | other (message : String)
  deriving DecidableEq, Repr

/-- The errors of the manager. -/
inductive SessionError where
  /-- `*terminalExecError`. -/
  | terminal (code message : String)
  /-- An error of the backend, with the text it is wrapped with. -/
  | backend (stage : String) (err : BackendError)
  | other (message : String)
  deriving DecidableEq, Repr

namespace SessionError

def newTerminalExecError (code message : String) : SessionError :=
  .terminal (trimSpace code) (trimSpace message)

/-- The error for a session that is not there. -/
def sessionNotFound : SessionError :=
  newTerminalExecError terminalExecCodeSessionNotFound terminalExecNoSessionMessage

/-- `errors.Is` finds the end of the context. -/
def isContext : SessionError → Bool
  | .backend _ (.context _) => true
  | _ => false

/-- `errors.Is` finds `ErrSandboxNotFound`. -/
def isSandboxNotFound : SessionError → Bool
  | .backend _ .sandboxNotFound => true
  | _ => false

end SessionError

/-! ## State -/

structure TerminalSession where
  sessionID : String
  /-- The id of `sandbox`. -/
  sandbox : Option String := none
  desiredLeaseExpiresAt : Int
  confirmedLeaseExpiresAt : Int := zeroTimeUnixMs
  remoteTimeoutExpiresAt : Int := zeroTimeUnixMs
  /-- `leaseSyncMu` is taken. -/
  leaseSyncLocked : Bool := false
  inflight : Nat := 0
  destroying : Bool := false
  capacityReserved : Bool := true
  /-- The channel `ready` is closed. -/
  ready : Bool := false
  initErr : Option BackendError := none
  deriving DecidableEq, Repr

/-- The metadata of a sandbox, as far as it is looked at. -/
structure SandboxMetadata where
  worker : String := ""
  sessionIDHash : String := ""
  schemaVersion : String := ""
  deriving DecidableEq, Repr

def terminalSessionMetadata (lib : E2BLib) (sessionID : String) : SandboxMetadata where
  worker := "worker-bridge-e2b"
  sessionIDHash := lib.sessionIDHash (trimSpace sessionID)
  schemaVersion := "1"

/-- The metadata that `Create` gives a sandbox. -/
def createMetadata : SandboxMetadata where
  worker := "worker-bridge-e2b"

/-- A sandbox at the backend. -/
structure RemoteSandbox where
  metadata : SandboxMetadata
  expiresAt : Int
  /-- It was created by this process. -/
  created : Bool := false
  /-- How often it was passed to `Kill`. -/
  kills : Nat := 0
  deriving DecidableEq, Repr

structure SandboxInfo where
  id : String
  metadata : SandboxMetadata
  deriving DecidableEq, Repr

/-- The shared state. -/
structure ManagerState where
  /-- `sessions`: the session object of each id. -/
  sessions : GoMap String Nat := ∅
  /-- The session objects made so far. -/
  objects : List TerminalSession := []
  activeSessionReservations : Nat := 0
  /-- The sandboxes of the backend, by id. -/
  remote : GoMap String RemoteSandbox := ∅
  clock : Int

/-- A session that a call claimed, and whether the call has to create the sandbox. -/
structure Claim where
  session : Nat
  sessionID : String
  created : Bool
  deriving DecidableEq, Repr

/-- `retiredTerminalSession`. -/
structure Retired where
  sandbox : Option String
  capacityReserved : Bool
  deriving DecidableEq, Repr

/-- What is left to clean up of a session. -/
def TerminalSession.retire (obj : TerminalSession) : Retired := ⟨obj.sandbox, obj.capacityReserved⟩

/-- What the first critical section of `syncSandboxTimeout` decides. -/
inductive SyncPlan where
  /-- The timeout of the sandbox is late enough. -/
  | done
  | extend (leaseExpires targetExpires : Int) (sandbox : Option String)
  deriving DecidableEq, Repr

/-- What is run in a sandbox. -/
inductive SandboxCommand where
  | user (command : String)
  /-- The script of `probeResource`. -/
  | probe (filePath : String)
  /-- `buildSandboxExportCommand`. -/
  | export (filePath signedURL : String) (headers : List (String × String)) (maxBytes : Int)
  deriving DecidableEq, Repr

structure CommandResult where
  stdout : String := ""
  stderr : String := ""
  exitCode : Int := 0
  stdoutTruncated : Bool := false
  stderrTruncated : Bool := false
  deriving DecidableEq, Repr

structure File where
  content : Bytes
  mimeType : String
  size : Int
  deriving DecidableEq, Repr

/-- How the upload of `exportResourceThroughWorker` ends. -/
inductive UploadOutcome where
  /-- `http.NewRequestWithContext` fails. -/
  | badRequest (message : String)
  /-- The limit of the reader was exceeded. -/
  | tooLarge
  | failed (err : BackendError)
  /-- The status, its text and the beginning of the body. -/
  | answered (statusCode : Int) (status body : String)
  deriving DecidableEq, Repr

structure TerminalExecRunResult where
  sessionID : String
  created : Bool
  result : CommandResult
  leaseExpiresUnixMS : Int
  deriving DecidableEq, Repr

/-- The atomic operations. -/
inductive ManagerOp where
  /-- `time.Now`, in milliseconds. -/
  | timeNow
  /-- The critical section of `claimSession`: the claim or the error, and the session that it
      retires. -/
  | claimSession (sessionID : String) (leaseTarget : Int) (createIfMissing : Bool)
  | loadDesiredLease (session : Nat)
  /-- `Create` or `CreateWithMetadata`. -/
  | createSandbox (session : Nat) (timeoutSec : Int) (metadata : SandboxMetadata)
  /-- The second critical section of `awaitSessionReady`. -/
  | publishSandbox (session : Nat) (created : Except BackendError String) (leaseExpiresAt : Int)
  | closeReady (session : Nat)
  /-- The `select` on `ready` and the context. -/
  | awaitReady (session : Nat)
  | loadInitErr (session : Nat)
  | lockLeaseSync (session : Nat)
  | unlockLeaseSync (session : Nat)
  /-- The first critical section of `syncSandboxTimeout`. -/
  | planSync (session : Nat) (deadline : Option Int)
  | setTimeout (sandbox : String) (timeoutSec : Int)
  /-- The second critical section of `syncSandboxTimeout`. -/
  | recordSync (session : Nat) (leaseExpires targetExpires : Int)
  /-- The sandbox of a session that is ready. -/
  | loadSandbox (session : Nat)
  | runCommand (sandbox : Option String) (command : SandboxCommand) (limit : Int)
  | readFile (sandbox : Option String) (filePath : String) (maxBytes : Int)
  /-- `OpenFile`: the size. -/
  | openFile (sandbox : Option String) (filePath : String)
  | upload (signedURL : String) (headers : List (String × String)) (size : Int)
  /-- `Kill` of the sandbox of a retired session. -/
  | kill (sandbox : String)
  /-- The critical section of `cleanupRetiredSession`. -/
  | releaseReservation
  /-- The critical section of `releaseSession`: the lease and the session it retires. -/
  | releaseSession (sessionID : String)
  /-- The critical section of `releaseAndDestroySession`: the session it retires. -/
  | releaseAndDestroySession (sessionID : String)
  /-- The critical section of `RenewLease`. -/
  | claimRenewal (sessionID : String) (leaseTarget now : Int)
  /-- The critical section of `cleanupExpiredSessions`. -/
  | takeExpired (now : Int)
  /-- The critical section of `ResolveProxy`: the sandbox. -/
  | lookupProxy (sessionID : String) (now : Int)
  /-- The first critical section of `recoverOne`. -/
  | recoverExisting (sessionID : String) (leaseExpiresAt : Int)
  | listSandboxes (metadata : SandboxMetadata)
  /-- `Kill` by recovery. -/
  | killListed (sandbox : String)
  | connectSandbox (sandbox : String) (timeoutSec : Int)
  /-- The last critical section of `recoverOne`. -/
  | recoverInsert (sessionID sandbox : String) (leaseExpiresAt : Int)
  /-- The caller gets the result. -/
  | returnExecute (result : Except SessionError TerminalExecRunResult)
  | returnResource (result : Except SessionError Docker.TerminalResourceRunResult)
  | returnRenew (result : Except SessionError Int)
  | returnProxy (result : Except SessionError (String × String))
  | returnRecover (results : List RecoveryResult)

/-- What an operation returns. -/
@[reducible] def ManagerOp.Res : ManagerOp → Type
  | .timeNow | .loadDesiredLease _ => Int
  | .claimSession .. => Except SessionError Claim × Option Retired
  | .createSandbox .. => Except BackendError String
  | .awaitReady _ => Option ContextError
  | .loadInitErr _ | .setTimeout .. => Option BackendError
  | .planSync .. => SyncPlan
  | .loadSandbox _ => Option String
  | .runCommand .. => Except BackendError CommandResult
  | .readFile .. => Except BackendError File
  | .openFile .. => Except BackendError Int
  | .upload .. => UploadOutcome
  | .releaseSession _ => Option (Int × Option Retired)
  | .releaseAndDestroySession _ => Option Retired
  | .claimRenewal .. => Except SessionError Claim
  | .takeExpired _ => List Retired
  | .lookupProxy .. => Option String
  | .recoverExisting .. => Bool
  | .listSandboxes _ => Option (List SandboxInfo)
  | .connectSandbox .. => Except BackendError String
  | .recoverInsert .. => RecoveryStatus
  | .publishSandbox .. | .closeReady _ | .lockLeaseSync _ | .unlockLeaseSync _ | .recordSync ..
  | .kill _ | .releaseReservation | .killListed _ | .returnExecute _ | .returnResource _
  | .returnRenew _ | .returnProxy _ | .returnRecover _ => Unit

/-- A program of the manager. -/
abbrev Manager := Prog ManagerOp ManagerOp.Res

/-- One atomic operation. -/
abbrev perform (o : ManagerOp) : Manager o.Res := Prog.call o

/-- What the outside world contributes to one operation. -/
inductive ManagerAnswer where
  | none
  /-- `uuid.NewString`. -/
  | uuid (id : String)
  | created (sandbox : Except BackendError String)
  /-- The error of a call of the backend, if any, and whether it took effect nevertheless. -/
  | backend (err : Option BackendError) (effect : Bool)
  | ran (result : Except BackendError CommandResult)
  | read (file : Except BackendError File)
  | opened (size : Except BackendError Int)
  | uploaded (outcome : UploadOutcome)
  /-- The context is over. -/
  | contextDone (err : ContextError)
  /-- The order in which the map is walked. -/
  | order (sessions : List Nat)
  | listed (infos : Option (List SandboxInfo))

namespace ManagerState

variable (cfg : ManagerSettings)

/-- The session object of an id. -/
def current (s : ManagerState) (sessionID : String) : Option (Nat × TerminalSession) :=
  match s.sessions.lookup sessionID with
  | none => none
  | some session => (s.objects[session]?).map fun obj => (session, obj)

/-- An update of a session object. -/
def modify (s : ManagerState) (session : Nat) (f : TerminalSession → TerminalSession) : ManagerState :=
  { s with objects := s.objects.modify session f }

/-- A session object that enters the map. -/
def insertSession (s : ManagerState) (obj : TerminalSession) : ManagerState :=
  { s with
    sessions := s.sessions.insert obj.sessionID s.objects.length
    objects := s.objects ++ [obj] }

/-- A session leaves the map. -/
def removeSession (s : ManagerState) (sessionID : String) : ManagerState :=
  { s with sessions := s.sessions.erase sessionID }

/-- One active session more. -/
def reserve (s : ManagerState) : ManagerState :=
  { s with activeSessionReservations := s.activeSessionReservations + 1 }

def capacityAvailableLocked (s : ManagerState) : Bool :=
  cfg.maxActiveSessions ≤ 0 ∨ (s.activeSessionReservations : Int) < cfg.maxActiveSessions

/-- The object that `newSessionWithReservationLocked` makes. -/
def newSession (sessionID : String) (leaseTarget : Int) : TerminalSession where
  sessionID := sessionID
  desiredLeaseExpiresAt := leaseTarget
  inflight := 1

/-- `newSessionWithReservationLocked` with `capacityReserved`. -/
def newSessionWithReservationLocked (s : ManagerState) (sessionID : String) (leaseTarget : Int)
    (incrementReservation : Bool) : ManagerState × Claim :=
  let s' := s.insertSession (newSession sessionID leaseTarget)
  (if incrementReservation then s'.reserve else s', ⟨s.objects.length, sessionID, true⟩)

def capacityExceeded : SessionError :=
  .newTerminalExecError terminalExecCodeSessionCapacityExceeded terminalExecCapacityMessage

def newSessionLocked (s : ManagerState) (sessionID : String) (leaseTarget : Int) :
    ManagerState × Except SessionError Claim :=
  if s.capacityAvailableLocked cfg then
    let (s', claim) := s.newSessionWithReservationLocked sessionID leaseTarget true
    (s', .ok claim)
  else (s, .error capacityExceeded)

/-- The lease that is wanted is extended to a target, if that is later. -/
def extendLease (leaseTarget : Int) (obj : TerminalSession) : TerminalSession :=
  { obj with
    desiredLeaseExpiresAt :=
      if obj.desiredLeaseExpiresAt < leaseTarget then leaseTarget else obj.desiredLeaseExpiresAt }

/-- A call takes a slot. -/
def takeSlot (leaseTarget : Int) (obj : TerminalSession) : TerminalSession :=
  extendLease leaseTarget { obj with inflight := obj.inflight + 1 }

/-- `claimSession` of a session whose lease is over and that nobody uses. -/
def claimExpired (s : ManagerState) (existing : TerminalSession) (sessionID : String)
    (leaseTarget : Int) (createIfMissing : Bool) :
    ManagerState × Except SessionError Claim × Option Retired :=
  if createIfMissing = false then
    (s.removeSession sessionID, .error .sessionNotFound, some existing.retire)
  else if existing.capacityReserved = false ∧ s.capacityAvailableLocked cfg = false then
    (s, .error capacityExceeded, none)
  else
    let (s', claim) := (s.removeSession sessionID).newSessionWithReservationLocked sessionID
      leaseTarget (!existing.capacityReserved)
    (s', .ok claim, some ⟨existing.sandbox, false⟩)

/-- `claimSession` with an id. -/
def claimSession (s : ManagerState) (sessionID : String) (leaseTarget : Int)
    (createIfMissing : Bool) : ManagerState × Except SessionError Claim × Option Retired :=
  match s.current sessionID with
  | some (session, existing) =>
    if existing.destroying then (s, .error .sessionNotFound, none)
    else if existing.inflight = 0 ∧ existing.confirmedLeaseExpiresAt ≤ s.clock then
      s.claimExpired cfg existing sessionID leaseTarget createIfMissing
    else if cfg.sessionMaxInflight ≤ existing.inflight then
      (s, .error (.newTerminalExecError terminalExecCodeSessionBusy terminalExecBusyMessage), none)
    else (s.modify session (takeSlot leaseTarget), .ok ⟨session, sessionID, false⟩, none)
  | none =>
    if createIfMissing then
      let (s', claim) := s.newSessionLocked cfg sessionID leaseTarget
      (s', claim, none)
    else (s, .error .sessionNotFound, none)

/-- The second critical section of `awaitSessionReady`. -/
def publish (created : Except BackendError String) (leaseExpiresAt : Int) (obj : TerminalSession) :
    TerminalSession :=
  match created with
  | .error err => { obj with sandbox := none, initErr := some err }
  | .ok sandbox =>
    { obj with
      sandbox := some sandbox
      initErr := none
      confirmedLeaseExpiresAt := leaseExpiresAt
      remoteTimeoutExpiresAt := leaseExpiresAt }

/-- A lease is confirmed. -/
def confirm (leaseExpires : Int) (obj : TerminalSession) : TerminalSession :=
  { obj with
    confirmedLeaseExpiresAt :=
      if obj.confirmedLeaseExpiresAt < leaseExpires then leaseExpires
      else obj.confirmedLeaseExpiresAt }

/-- The expiry that `syncSandboxTimeout` wants. -/
def targetExpires (deadline : Option Int) (leaseExpires : Int) : Int :=
  match deadline with
  | none => leaseExpires
  | some deadline => if leaseExpires < deadline then deadline else leaseExpires

/-- The first critical section of `syncSandboxTimeout`. -/
def planSync (s : ManagerState) (session : Nat) (obj : TerminalSession) (deadline : Option Int) :
    ManagerState × SyncPlan :=
  let leaseExpires := obj.desiredLeaseExpiresAt
  let target := targetExpires deadline leaseExpires
  if obj.remoteTimeoutExpiresAt < target then (s, .extend leaseExpires target obj.sandbox)
  else (s.modify session (confirm leaseExpires), .done)

/-- The second critical section of `syncSandboxTimeout`. -/
def recordSync (leaseExpires target : Int) (obj : TerminalSession) : TerminalSession :=
  confirm leaseExpires
    { obj with
      remoteTimeoutExpiresAt :=
        if obj.remoteTimeoutExpiresAt < target then target else obj.remoteTimeoutExpiresAt }

/-- One slot less. -/
def releaseSlot (obj : TerminalSession) : TerminalSession := { obj with inflight := obj.inflight - 1 }

/-- The session is being destroyed. -/
def destroy (obj : TerminalSession) : TerminalSession := { obj with destroying := true }

/-- `releaseSession`, its critical section. -/
def releaseSession (s : ManagerState) (sessionID : String) :
    ManagerState × Option (Int × Option Retired) :=
  match s.current sessionID with
  | none => (s, none)
  | some (session, obj) =>
    let s' := s.modify session releaseSlot
    if obj.destroying ∧ (releaseSlot obj).inflight = 0 then
      (s'.removeSession sessionID, some (obj.confirmedLeaseExpiresAt, some obj.retire))
    else (s', some (obj.confirmedLeaseExpiresAt, none))

/-- `releaseAndDestroySession`, its critical section. -/
def releaseAndDestroySession (s : ManagerState) (sessionID : String) :
    ManagerState × Option Retired :=
  match s.current sessionID with
  | none => (s, none)
  | some (session, obj) =>
    let s' := s.modify session fun obj => releaseSlot (destroy obj)
    if (releaseSlot obj).inflight = 0 then (s'.removeSession sessionID, some obj.retire)
    else (s', none)

/-- The critical section of `RenewLease`. -/
def claimRenewal (s : ManagerState) (sessionID : String) (leaseTarget now : Int) :
    ManagerState × Except SessionError Claim :=
  match s.current sessionID with
  | none => (s, .error .sessionNotFound)
  | some (session, obj) =>
    if obj.destroying ∨ obj.sandbox = none ∨ obj.confirmedLeaseExpiresAt ≤ now then
      (s, .error .sessionNotFound)
    else (s.modify session (takeSlot leaseTarget), .ok ⟨session, sessionID, false⟩)

/-- `cleanupExpiredSessions` takes the session. -/
def expires (s : ManagerState) (now : Int) (session : Nat) : Bool :=
  (s.objects[session]?).any fun obj =>
    !obj.destroying && obj.inflight = 0 && obj.confirmedLeaseExpiresAt ≤ now

/-- The sessions that `cleanupExpiredSessions` takes, in some order. -/
def expired (s : ManagerState) (now : Int) : List Nat :=
  (s.sessions.entries.map (·.2)).filter (s.expires now)

/-- `cleanupExpiredSessions`, its critical section. -/
def takeExpired (s : ManagerState) (now : Int) : ManagerState :=
  { s with sessions := s.sessions.filter fun _ session => !s.expires now session }

/-- What is left to clean up of sessions. -/
def retireAll (s : ManagerState) (sessions : List Nat) : List Retired :=
  sessions.filterMap fun session => (s.objects[session]?).map TerminalSession.retire

/-- Recovery gives a session a lease. -/
def adopt (leaseExpiresAt : Int) (obj : TerminalSession) : TerminalSession :=
  { obj with
    desiredLeaseExpiresAt := leaseExpiresAt
    confirmedLeaseExpiresAt := leaseExpiresAt
    remoteTimeoutExpiresAt := leaseExpiresAt }

/-- The first critical section of `recoverOne`. -/
def recoverExisting (s : ManagerState) (sessionID : String) (leaseExpiresAt : Int) :
    ManagerState × Bool :=
  match s.current sessionID with
  | none => (s, false)
  | some (session, obj) =>
    if obj.destroying then (s, false) else (s.modify session (adopt leaseExpiresAt), true)

/-- The object that recovery makes. -/
def recoveredSession (sessionID sandbox : String) (leaseExpiresAt : Int) : TerminalSession where
  sessionID := sessionID
  sandbox := some sandbox
  desiredLeaseExpiresAt := leaseExpiresAt
  confirmedLeaseExpiresAt := leaseExpiresAt
  remoteTimeoutExpiresAt := leaseExpiresAt
  ready := true

/-- The last critical section of `recoverOne`. -/
def recoverInsert (s : ManagerState) (sessionID sandbox : String) (leaseExpiresAt : Int) :
    ManagerState × RecoveryStatus :=
  match s.current sessionID with
  | some (session, obj) =>
    if obj.sandbox ≠ some sandbox ∨ obj.destroying then (s, .invalid)
    else (s.modify session (adopt leaseExpiresAt), .recovered)
  | none => ((s.insertSession (recoveredSession sessionID sandbox leaseExpiresAt)).reserve, .recovered)

/-- The critical section of `ResolveProxy`. -/
def lookupProxy (s : ManagerState) (sessionID : String) (now : Int) : Option String :=
  match s.current sessionID with
  | none => none
  | some (_, obj) =>
    if obj.destroying ∨ obj.confirmedLeaseExpiresAt ≤ now then none else obj.sandbox

/-! ### Sandboxes -/

/-- `Create`: ids are not given twice. -/
def createSandbox (s : ManagerState) (timeoutSec : Int) (metadata : SandboxMetadata)
    (created : Except BackendError String) : Option (ManagerState × Except BackendError String) :=
  match created with
  | .error err => some (s, .error err)
  | .ok sandbox =>
    if sandbox ≠ "" ∧ trimSpace sandbox = sandbox ∧ (s.remote.lookup sandbox).isNone then
      some ({ s with
        remote := s.remote.insert sandbox
          { metadata := metadata, expiresAt := s.clock + timeoutSec * 1000, created := true } },
        .ok sandbox)
    else none

/-- An update of a sandbox. -/
def modifyRemote (s : ManagerState) (sandbox : String) (f : RemoteSandbox → RemoteSandbox) :
    ManagerState :=
  match s.remote.lookup sandbox with
  | none => s
  | some r => { s with remote := s.remote.insert sandbox (f r) }

/-- The expiry of a sandbox is set. -/
def expireIn (s : ManagerState) (sandbox : String) (timeoutSec : Int) : ManagerState :=
  s.modifyRemote sandbox ({ · with expiresAt := s.clock + timeoutSec * 1000 })

def setTimeout (s : ManagerState) (sandbox : String) (timeoutSec : Int) (err : Option BackendError)
    (effect : Bool) : Option (ManagerState × Option BackendError) :=
  match err with
  | some err => some (if effect then s.expireIn sandbox timeoutSec else s, some err)
  | none =>
    if (s.remote.lookup sandbox).isSome then some (s.expireIn sandbox timeoutSec, none) else none

/-- `Connect`. -/
def connectSandbox (s : ManagerState) (sandbox : String) (timeoutSec : Int) (err : Option BackendError)
    (effect : Bool) : Option (ManagerState × Except BackendError String) :=
  match err with
  | some err => some (if effect then s.expireIn sandbox timeoutSec else s, .error err)
  | none =>
    if (s.remote.lookup sandbox).isSome then some (s.expireIn sandbox timeoutSec, .ok sandbox)
    else none

/-- `Kill`. -/
def killSandbox (s : ManagerState) (sandbox : String) : ManagerState :=
  s.modifyRemote sandbox fun r => { r with kills := r.kills + 1 }

/-- An operation on a session object. -/
def onObject {ρ : Type} (s : ManagerState) (session : Nat)
    (f : TerminalSession → ManagerState × ρ) : Option (ManagerState × ρ) :=
  (s.objects[session]?).map f

/-- A new session id is a uuid that no session had before. -/
def freshID (s : ManagerState) (id : String) : Bool :=
  id ≠ "" && trimSpace id = id && s.objects.all fun obj => obj.sessionID ≠ id

/-- The effect and the result of one operation. -/
def exec (s : ManagerState) : (o : ManagerOp) → ManagerAnswer → Option (ManagerState × o.Res)
  | .timeNow, .none => some (s, s.clock)
  | .claimSession sessionID leaseTarget createIfMissing, ans =>
    if sessionID = "" then
      match ans with
      | .uuid id =>
        if s.freshID id then
          let (s', claim) := s.newSessionLocked cfg id leaseTarget
          some (s', claim, none)
        else none
      | _ => none
    else
      match ans with
      | .none => some (s.claimSession cfg sessionID leaseTarget createIfMissing)
      | _ => none
  | .loadDesiredLease session, .none => s.onObject session fun obj => (s, obj.desiredLeaseExpiresAt)
  | .createSandbox _ timeoutSec metadata, .created sandbox =>
    s.createSandbox timeoutSec metadata sandbox
  | .publishSandbox session created leaseExpiresAt, .none =>
    s.onObject session fun _ => (s.modify session (publish created leaseExpiresAt), ())
  | .closeReady session, .none =>
    s.onObject session fun _ => (s.modify session ({ · with ready := true }), ())
  | .awaitReady session, .none =>
    if (s.objects[session]?).any (·.ready) then some (s, none) else none
  | .awaitReady _, .contextDone err => some (s, some err)
  | .loadInitErr session, .none => s.onObject session fun obj => (s, obj.initErr)
  | .lockLeaseSync session, .none =>
    if (s.objects[session]?).any (!·.leaseSyncLocked) then
      some (s.modify session ({ · with leaseSyncLocked := true }), ())
    else none
  | .unlockLeaseSync session, .none =>
    s.onObject session fun _ => (s.modify session ({ · with leaseSyncLocked := false }), ())
  | .planSync session deadline, .none =>
    s.onObject session fun obj => s.planSync session obj deadline
  | .setTimeout sandbox timeoutSec, .backend err effect => s.setTimeout sandbox timeoutSec err effect
  | .recordSync session leaseExpires target, .none =>
    s.onObject session fun _ => (s.modify session (recordSync leaseExpires target), ())
  | .loadSandbox session, .none => s.onObject session fun obj => (s, obj.sandbox)
  | .runCommand .., .ran result => some (s, result)
  | .readFile .., .read file => some (s, file)
  | .openFile .., .opened size => some (s, size)
  | .upload .., .uploaded outcome => some (s, outcome)
  | .kill sandbox, .none => some (s.killSandbox sandbox, ())
  | .releaseReservation, .none =>
    some ({ s with activeSessionReservations := s.activeSessionReservations - 1 }, ())
  | .releaseSession sessionID, .none => some (s.releaseSession sessionID)
  | .releaseAndDestroySession sessionID, .none => some (s.releaseAndDestroySession sessionID)
  | .claimRenewal sessionID leaseTarget now, .none => some (s.claimRenewal sessionID leaseTarget now)
  | .takeExpired now, .order sessions =>
    if sessions.isPerm (s.expired now) then some (s.takeExpired now, s.retireAll sessions) else none
  | .lookupProxy sessionID now, .none => some (s, s.lookupProxy sessionID now)
  | .recoverExisting sessionID leaseExpiresAt, .none => some (s.recoverExisting sessionID leaseExpiresAt)
  | .listSandboxes _, .listed infos =>
    -- What is listed is there, with its metadata.
    if (infos.getD []).all fun info => (s.remote.lookup info.id).any (·.metadata = info.metadata) then
      some (s, infos)
    else none
  | .killListed sandbox, .none => some (s.killSandbox sandbox, ())
  | .connectSandbox sandbox timeoutSec, .backend err effect =>
    s.connectSandbox sandbox timeoutSec err effect
  | .recoverInsert sessionID sandbox leaseExpiresAt, .none =>
    some (s.recoverInsert sessionID sandbox leaseExpiresAt)
  | .returnExecute _, .none => some (s, ())
  | .returnResource _, .none => some (s, ())
  | .returnRenew _, .none => some (s, ())
  | .returnProxy _, .none => some (s, ())
  | .returnRecover _, .none => some (s, ())
  | _, _ => none

/-- A new process: sandboxes may be there from before. -/
def Started (s : ManagerState) : Prop :=
  ∃ remote clock, (∀ sandbox r, remote.lookup sandbox = some r → r.created = false) ∧
    s = { remote := remote, clock := clock }

end ManagerState

/-- What happens besides the calls: time passes. -/
inductive ManagerEvent where
  | tick (now : Int)

/-- One step of the environment. -/
def ManagerState.occurs (s : ManagerState) : ManagerEvent → Option ManagerState
  | .tick now => if s.clock ≤ now then some { s with clock := now } else none

end Onlyboxes.E2B
