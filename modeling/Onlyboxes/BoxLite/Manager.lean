import Onlyboxes.Docker.Terminal

/-!
# The session manager of the BoxLite worker

The state of `TerminalSessionManager` of `worker-boxlite`
(`terminal_session_manager.rs`) and the atomic operations on it: what a future does between
two of its await points. A session is in the map under its id; the outcome of its creation is
in a `watch` channel that its waiters keep, known by its place in the list of all channels.
The guards that give back counters when they are dropped are operations of their own.

The backend gives every box a new id. Futures are not dropped. The janitor may wake up at any
time, also while the manager is being closed, and `close_inner` need not wait for it: this
allows more runs than the code has. The texts that this worker shares with the Docker worker
are those of `Onlyboxes.Docker`.
-/

namespace Onlyboxes.BoxLite

open Text Worker
open Docker (terminalExecNoSessionMessage terminalExecBusyMessage terminalExecCapacityMessage
  terminalExecCodeSessionNotFound terminalExecCodeSessionBusy terminalExecCodeSessionCapacityExceeded
  terminalExecCodeInvalidPayload ProbeResult TerminalResourceRunResult RecoveryStatus RecoveryResult)

/-! ## Settings -/

/-- `TerminalSessionManagerConfig`. -/
structure ManagerConfig where
  leaseMinSec : UInt32 := 0
  leaseMaxSec : UInt32 := 0
  leaseDefaultSec : UInt32 := 0
  outputLimitBytes : Nat := 0
  exportMaxBytes : Nat := 0
  sessionMaxInflight : UInt32 := 0
  maxActiveSessions : UInt32 := 0

/-- `positive_u32`, of what `parse` makes of the value. -/
def positiveU32 (parsed : Option UInt32) (defaultValue : UInt32) : UInt32 :=
  (parsed.filter (0 < ·)).getD defaultValue

/-- `clamp_u32`. -/
def clampU32 (value low high : UInt32) : UInt32 := min (max value low) high

/-- The lease bounds of `Config::load`, of the values that are set. -/
def ManagerConfig.loadLeases (cfg : ManagerConfig) (minSec maxSec defaultSec : Option UInt32) :
    ManagerConfig :=
  let leaseMinSec := positiveU32 minSec 60
  let leaseMaxSec := positiveU32 maxSec 1800
  let leaseMaxSec := if leaseMaxSec < leaseMinSec then leaseMinSec else leaseMaxSec
  { cfg with
    leaseMinSec := leaseMinSec
    leaseMaxSec := leaseMaxSec
    leaseDefaultSec := clampU32 (positiveU32 defaultSec 60) leaseMinSec leaseMaxSec }

/-- The settings of a manager, as `TerminalSessionManager::new` leaves them. -/
structure ManagerSettings where
  leaseMinSec : UInt32
  leaseMaxSec : UInt32
  leaseDefaultSec : UInt32
  outputLimitBytes : Nat
  exportMaxBytes : Nat
  sessionMaxInflight : UInt32
  maxActiveSessions : UInt32
  outputLimitBytes_pos : 0 < outputLimitBytes
  leaseDefaultSec_le : leaseDefaultSec ≤ leaseMaxSec

/-- `TerminalSessionManager::new`. -/
def ManagerSettings.new (cfg : ManagerConfig) : ManagerSettings :=
  let leaseMinSec := max cfg.leaseMinSec 1
  let leaseMaxSec := max cfg.leaseMaxSec leaseMinSec
  let leaseDefaultSec := max cfg.leaseDefaultSec leaseMinSec
  { leaseMinSec := leaseMinSec
    leaseMaxSec := leaseMaxSec
    leaseDefaultSec := if leaseMaxSec < leaseDefaultSec then leaseMaxSec else leaseDefaultSec
    outputLimitBytes := max cfg.outputLimitBytes 1
    exportMaxBytes := cfg.exportMaxBytes
    sessionMaxInflight := max cfg.sessionMaxInflight 1
    maxActiveSessions := cfg.maxActiveSessions
    outputLimitBytes_pos := Nat.lt_of_lt_of_le Nat.zero_lt_one (Nat.le_max_right _ _)
    leaseDefaultSec_le := by
      split
      · exact UInt32.le_refl _
      · rename_i hle
        exact UInt32.not_lt.mp hle }

/-- The parts of the libraries that the manager relies on. -/
structure BoxLiteLib where
  /-- `serde_json::from_str` of the output of a probe. -/
  decodeProbe : String → Except String ProbeResult
  /-- The standard base64 decoder. -/
  decodeBase64 : String → Except String Bytes
  /-- `terminal_session_resource_name`. -/
  resourceName : String → String
  /-- A number as text. -/
  itoa : Int → String

/-! ## Errors -/

inductive BoxliteCommandError where
  | deadlineExceeded
  | missingBox
  | executionFailed (message : String)
  deriving DecidableEq, Repr

/-- `TerminalOperationError`, with the code and the message of a `TerminalExecError`. -/
inductive OperationError where
  | deadlineExceeded
  | terminal (code message : String)
  | executionFailed (message : String)
  deriving DecidableEq, Repr

namespace OperationError

/-- The error for a session that is not there. -/
def sessionNotFound : OperationError :=
  .terminal terminalExecCodeSessionNotFound terminalExecNoSessionMessage

def sessionBusy : OperationError := .terminal terminalExecCodeSessionBusy terminalExecBusyMessage

def capacityExceeded : OperationError :=
  .terminal terminalExecCodeSessionCapacityExceeded terminalExecCapacityMessage

/-- The error of a manager that is closed. -/
def managerClosed : OperationError := .executionFailed "terminal session manager is closed"

end OperationError

inductive ProxyTargetError where
  | sessionNotFound
  | portNotEnabled (requestedPort : Nat) (enabledPorts : List Nat)
  deriving DecidableEq, Repr

/-! ## State -/

inductive SessionReadyState where
  | pending
  | ready (boxID : String)
  | failed (err : OperationError)
  deriving DecidableEq, Repr

structure TerminalSession where
  boxID : String := ""
  leaseExpiresAt : Int
  inflight : Nat := 0
  destroying : Bool := false
  capacityReserved : Bool := true
  /-- The channel of `ready_tx`. -/
  channel : Nat
  deriving DecidableEq, Repr

/-- `RetiredSession`. -/
structure Retired where
  boxID : String
  capacityReserved : Bool
  cleanupTracked : Bool
  deriving DecidableEq, Repr

/-- What is left to clean up of a session. -/
def TerminalSession.retire (session : TerminalSession) (cleanupTracked : Bool) : Retired :=
  ⟨session.boxID, session.capacityReserved, cleanupTracked⟩

/-- `ClaimedSession`. -/
structure Claim where
  sessionID : String
  channel : Nat
  created : Bool
  deriving DecidableEq, Repr

/-- The shared state. -/
structure ManagerState where
  sessions : GoMap String TerminalSession := ∅
  channels : List SessionReadyState := []
  activeSessionReservations : Nat := 0
  pendingCreations : Nat := 0
  pendingCleanups : Nat := 0
  closed : Bool := false
  /-- The boxes that were created, and those that were passed to `remove_box`. -/
  createdBoxes : List String := []
  removedBoxes : List String := []
  clock : Int

structure CollectedExecOutput where
  stdout : String := ""
  stderr : String := ""
  exitCode : Int := 0
  deriving DecidableEq, Repr

structure TerminalExecRunResult where
  sessionID : String
  created : Bool
  stdout : String
  stderr : String
  exitCode : Int
  stdoutTruncated : Bool
  stderrTruncated : Bool
  leaseExpiresUnixMs : Int
  deriving DecidableEq, Repr

/-- The atomic operations. -/
inductive ManagerOp where
  /-- `SystemTime::now`, in milliseconds. -/
  | timeNow
  | claimSessionForExec (sessionID : String) (createIfMissing : Bool) (leaseTarget : Int)
  | claimExistingSession (sessionID : String)
  | createSessionBoxForSession (sessionID : String) (deadlineUnixMs : Int)
  | publishSessionReady (sessionID boxID : String)
  | publishSessionFailed (sessionID : String) (err : OperationError)
  /-- A `PendingCreationGuard` is dropped. -/
  | dropCreationGuard
  /-- `wait_for` on a channel, with the deadline if it is positive. -/
  | waitReady (channel : Nat) (deadlineUnixMs : Int)
  | execShellCommand (boxID command : String) (deadlineUnixMs : Int)
  | execResourceProbe (boxID action filePath : String) (maxReadBytes : Nat) (deadlineUnixMs : Int)
  | copyOutFile (boxID filePath : String) (deadlineUnixMs : Int)
  /-- `put_file_to_signed_url` of the copy. -/
  | putFileToSignedURL (signedURL : String) (headers : List (String × String))
  /-- The locked part of `release_session`: the lease and the session it retires. -/
  | releaseSession (sessionID : String)
  /-- The locked part of `release_and_destroy_session`: the session it retires. -/
  | releaseAndDestroySession (sessionID : String)
  | removeBox (boxID : String)
  /-- A `RetiredCleanupGuard` is dropped. -/
  | dropCleanupGuard (capacityReserved cleanupTracked : Bool)
  /-- The locked part of `renew_lease`. -/
  | renewLease (sessionID : String) (leaseTarget now : Int)
  | resolveProxyTarget (sessionID : String) (guestPort : Nat) (now : Int)
  /-- The locked part of `cleanup_expired_sessions`. -/
  | takeExpired (now : Int)
  /-- The first locked part of `recover_one_session`: whether the session is there. -/
  | recoverExisting (sessionID : String) (leaseExpiresAt : Int)
  | recoverSessionBox (sessionID : String)
  /-- The second locked part of `recover_one_session`. -/
  | recoverInsert (sessionID boxID : String) (leaseExpiresAt : Int)
  | cleanupOrphanSessionBoxes (expectedNames : List String)
  /-- `closed` is set: whether it was set before. -/
  | swapClosed
  /-- `close_inner` waits for the janitor, and takes and releases the lock. -/
  | awaitJanitor
  /-- `wait_for_pending_creations`, or its timeout. -/
  | waitForPendingCreations
  | drainSessions
  | waitForPendingCleanups
  /-- `close_inner` gives back the place of a session that it preserves. -/
  | releaseReservation
  /-- The caller gets the result. -/
  | returnExecute (result : Except OperationError TerminalExecRunResult)
  | returnResource (result : Except OperationError TerminalResourceRunResult)
  | returnRenew (result : Except OperationError Int)
  | returnProxy (result : Except ProxyTargetError String)
  | returnRecover (results : List RecoveryResult)

/-- What an operation returns. -/
@[reducible] def ManagerOp.Res : ManagerOp → Type
  | .timeNow => Int
  | .claimSessionForExec .. | .claimExistingSession _ => Except OperationError Claim
  | .createSessionBoxForSession .. | .waitReady .. => Except OperationError String
  | .publishSessionReady .. | .swapClosed => Bool
  | .execShellCommand .. | .execResourceProbe .. => Except BoxliteCommandError CollectedExecOutput
  | .copyOutFile .. => Option BoxliteCommandError
  | .putFileToSignedURL .. => Option String
  | .releaseSession _ => Option (Int × Option Retired)
  | .releaseAndDestroySession _ => Option Retired
  | .renewLease .. => Except OperationError Int
  | .resolveProxyTarget .. => Except ProxyTargetError String
  | .takeExpired _ | .drainSessions => List Retired
  | .recoverExisting .. | .recoverInsert .. => Except OperationError Bool
  | .recoverSessionBox _ => Except OperationError (Option String)
  | .cleanupOrphanSessionBoxes _ => Nat
  | .publishSessionFailed .. | .dropCreationGuard | .removeBox _ | .dropCleanupGuard ..
  | .awaitJanitor | .waitForPendingCreations | .waitForPendingCleanups | .releaseReservation
  | .returnExecute _ | .returnResource _ | .returnRenew _ | .returnProxy _ | .returnRecover _ => Unit

/-- A program of the manager. -/
abbrev Manager := Prog ManagerOp ManagerOp.Res

/-- One atomic operation. -/
abbrev perform (o : ManagerOp) : Manager o.Res := Prog.call o

/-- What the outside world contributes to one operation. -/
inductive ManagerAnswer where
  | none
  /-- `Uuid::new_v4`. -/
  | uuid (id : String)
  | created (boxID : Except OperationError String)
  | ran (output : Except BoxliteCommandError CollectedExecOutput)
  | copied (err : Option BoxliteCommandError)
  | uploaded (err : Option String)
  | recovered (boxID : Except OperationError (Option String))
  | cleaned (count : Nat)
  /-- A timeout ends the operation. -/
  | timeout
  /-- The order in which the map is walked. -/
  | order (ids : List String)
  | proxyPorts (ports : List Nat)

namespace ManagerState

variable (cfg : ManagerSettings)

/-- The session of an id is updated. -/
def modify (s : ManagerState) (id : String) (f : TerminalSession → TerminalSession) : ManagerState :=
  match s.sessions.lookup id with
  | none => s
  | some session => { s with sessions := s.sessions.insert id (f session) }

def removeSession (s : ManagerState) (id : String) : ManagerState :=
  { s with sessions := s.sessions.erase id }

/-! ### Claims -/

/-- The session that `insert_pending_session` makes. -/
def pendingSession (s : ManagerState) (leaseTarget : Int) : TerminalSession where
  leaseExpiresAt := leaseTarget
  inflight := 1
  channel := s.channels.length

/-- `insert_pending_session`. -/
def insertPendingSession (s : ManagerState) (sessionID : String) (leaseTarget : Int) :
    ManagerState × Except OperationError Claim :=
  if 0 < cfg.maxActiveSessions ∧ cfg.maxActiveSessions.toNat ≤ s.activeSessionReservations then
    (s, .error .capacityExceeded)
  else
    ({ s with
        sessions := s.sessions.insert sessionID (s.pendingSession leaseTarget)
        channels := s.channels ++ [.pending]
        activeSessionReservations := s.activeSessionReservations + 1
        pendingCreations := s.pendingCreations + 1 },
      .ok ⟨sessionID, s.channels.length, true⟩)

/-- A call takes a slot. -/
def takeSlot (session : TerminalSession) : TerminalSession :=
  { session with inflight := session.inflight + 1 }

/-- A lease is extended to a target, if that is later. -/
def extendLease (leaseTarget : Int) (session : TerminalSession) : TerminalSession :=
  { session with
    leaseExpiresAt := if session.leaseExpiresAt < leaseTarget then leaseTarget else session.leaseExpiresAt }

/-- A claim of a session that is there: its slot and its lease. -/
def claimSession (s : ManagerState) (sessionID : String) (session : TerminalSession)
    (f : TerminalSession → TerminalSession) : ManagerState × Except OperationError Claim :=
  if session.destroying then (s, .error .sessionNotFound)
  else if cfg.sessionMaxInflight.toNat ≤ session.inflight then (s, .error .sessionBusy)
  else (s.modify sessionID f, .ok ⟨sessionID, session.channel, false⟩)

/-- `claim_session_for_exec` with an id. -/
def claimSessionForExec (s : ManagerState) (sessionID : String) (createIfMissing : Bool)
    (leaseTarget : Int) : ManagerState × Except OperationError Claim :=
  if s.closed then (s, .error .managerClosed)
  else match s.sessions.lookup sessionID with
    | some session =>
      s.claimSession cfg sessionID session fun session => extendLease leaseTarget (takeSlot session)
    | none =>
      if createIfMissing then s.insertPendingSession cfg sessionID leaseTarget
      else (s, .error .sessionNotFound)

/-- `claim_session_for_exec` without an id. -/
def claimNewSession (s : ManagerState) (id : String) (leaseTarget : Int) :
    ManagerState × Except OperationError Claim :=
  if s.closed then (s, .error .managerClosed) else s.insertPendingSession cfg id leaseTarget

/-- `claim_existing_session`. -/
def claimExistingSession (s : ManagerState) (sessionID : String) :
    ManagerState × Except OperationError Claim :=
  if s.closed then (s, .error .managerClosed)
  else match s.sessions.lookup sessionID with
    | some session => s.claimSession cfg sessionID session takeSlot
    | none => (s, .error .sessionNotFound)

/-! ### Creation -/

/-- A value is sent to a channel. -/
def send (s : ManagerState) (channel : Nat) (state : SessionReadyState) : ManagerState :=
  { s with channels := s.channels.set channel state }

/-- `publish_session_ready`. -/
def publishSessionReady (s : ManagerState) (sessionID boxID : String) : ManagerState × Bool :=
  match s.sessions.lookup sessionID with
  | none => (s, false)
  | some session =>
    ((s.modify sessionID ({ · with boxID := boxID })).send session.channel (.ready boxID), true)

/-- `publish_session_failed`. -/
def publishSessionFailed (s : ManagerState) (sessionID : String) (err : OperationError) : ManagerState :=
  match s.sessions.lookup sessionID with
  | none => s
  | some session => s.send session.channel (.failed err)

/-- The sender of a channel is there: the session that has it. -/
def senderAlive (s : ManagerState) (channel : Nat) : Bool :=
  s.sessions.entries.any fun e => e.2.channel = channel

/-- `wait_for`, if it does not wait. -/
def waitReady (s : ManagerState) (channel : Nat) : Option (Except OperationError String) :=
  match s.channels[channel]? with
  | none => none
  | some (.ready boxID) => some (.ok boxID)
  | some (.failed err) => some (.error err)
  | some .pending => if s.senderAlive channel then none else some (.error .sessionNotFound)

/-! ### Release -/

/-- One slot less. -/
def releaseSlot (session : TerminalSession) : TerminalSession :=
  { session with inflight := session.inflight - 1 }

/-- The session is being destroyed. -/
def destroy (session : TerminalSession) : TerminalSession := { session with destroying := true }

/-- A session is taken out of the map, and its cleanup is tracked. -/
def retireTracked (s : ManagerState) (sessionID : String) : ManagerState :=
  { s.removeSession sessionID with pendingCleanups := s.pendingCleanups + 1 }

/-- The locked part of `release_session`. -/
def releaseSession (s : ManagerState) (sessionID : String) :
    ManagerState × Option (Int × Option Retired) :=
  match s.sessions.lookup sessionID with
  | none => (s, none)
  | some session =>
    if session.destroying ∧ (releaseSlot session).inflight = 0 then
      (s.retireTracked sessionID, some (session.leaseExpiresAt, some (session.retire true)))
    else (s.modify sessionID releaseSlot, some (session.leaseExpiresAt, none))

/-- The locked part of `release_and_destroy_session`. -/
def releaseAndDestroySession (s : ManagerState) (sessionID : String) : ManagerState × Option Retired :=
  match s.sessions.lookup sessionID with
  | none => (s, none)
  | some session =>
    if (releaseSlot session).inflight = 0 then
      (s.retireTracked sessionID, some (session.retire true))
    else (s.modify sessionID fun session => releaseSlot (destroy session), none)

/-- A `RetiredCleanupGuard` is dropped. -/
def dropCleanupGuard (s : ManagerState) (capacityReserved cleanupTracked : Bool) : ManagerState :=
  { s with
    activeSessionReservations :=
      if capacityReserved then s.activeSessionReservations - 1 else s.activeSessionReservations
    pendingCleanups := if cleanupTracked then s.pendingCleanups - 1 else s.pendingCleanups }

/-! ### Leases -/

/-- The locked part of `renew_lease`. -/
def renewLease (s : ManagerState) (sessionID : String) (leaseTarget now : Int) :
    ManagerState × Except OperationError Int :=
  if s.closed then (s, .error .managerClosed)
  else match s.sessions.lookup sessionID with
    | none => (s, .error .sessionNotFound)
    | some session =>
      if session.destroying ∨ session.leaseExpiresAt ≤ now then (s, .error .sessionNotFound)
      else (s.modify sessionID (extendLease leaseTarget),
        .ok (extendLease leaseTarget session).leaseExpiresAt)

/-- `resolve_proxy_target`. -/
def resolveProxyTarget (s : ManagerState) (sessionID : String) (guestPort : Nat) (now : Int)
    (enabledPorts : List Nat) : Except ProxyTargetError String :=
  match s.sessions.lookup (trimSpace sessionID) with
  | none => .error .sessionNotFound
  | some session =>
    if session.destroying ∨ trimSpace session.boxID = "" ∨ session.leaseExpiresAt ≤ now then
      .error .sessionNotFound
    else if guestPort ∈ enabledPorts then .ok session.boxID
    else .error (.portNotEnabled guestPort enabledPorts)

/-- `cleanup_expired_sessions` takes the session. -/
def expires (now : Int) (session : TerminalSession) : Bool :=
  session.inflight = 0 && !session.destroying && session.leaseExpiresAt ≤ now

/-- The sessions that `cleanup_expired_sessions` takes, in some order. -/
def expired (s : ManagerState) (now : Int) : List String :=
  (s.sessions.entries.filter fun e => expires now e.2).map (·.1)

/-- What is left to clean up of sessions. -/
def retireAll (s : ManagerState) (ids : List String) (cleanupTracked : Bool) : List Retired :=
  ids.filterMap fun id => (s.sessions.lookup id).map (·.retire cleanupTracked)

/-- The locked part of `cleanup_expired_sessions`. -/
def takeExpired (s : ManagerState) (now : Int) : ManagerState :=
  { s with
    sessions := s.sessions.filter fun _ session => !expires now session
    pendingCleanups := s.pendingCleanups + (s.expired now).length }

/-! ### Recovery -/

/-- The first locked part of `recover_one_session`. -/
def recoverExisting (s : ManagerState) (sessionID : String) (leaseExpiresAt : Int) :
    ManagerState × Except OperationError Bool :=
  match s.sessions.lookup sessionID with
  | none => (s, .ok false)
  | some session =>
    if session.destroying ∨ trimSpace session.boxID = "" then
      (s, .error (.executionFailed "terminal session is not recoverable"))
    else (s.modify sessionID ({ · with leaseExpiresAt := leaseExpiresAt }), .ok true)

/-- The session that recovery makes. -/
def recoveredSession (s : ManagerState) (boxID : String) (leaseExpiresAt : Int) : TerminalSession where
  boxID := boxID
  leaseExpiresAt := leaseExpiresAt
  channel := s.channels.length

/-- The second locked part of `recover_one_session`. -/
def recoverInsert (s : ManagerState) (sessionID boxID : String) (leaseExpiresAt : Int) :
    ManagerState × Except OperationError Bool :=
  if s.closed then (s, .error .managerClosed)
  else match s.sessions.lookup sessionID with
    | some _ => (s.modify sessionID ({ · with leaseExpiresAt := leaseExpiresAt }), .ok true)
    | none =>
      ({ s with
          sessions := s.sessions.insert sessionID (s.recoveredSession boxID leaseExpiresAt)
          channels := s.channels ++ [.ready boxID]
          activeSessionReservations := s.activeSessionReservations + 1 },
        .ok true)

/-! ### Operations -/

/-- The effect and the result of one operation. -/
def exec (s : ManagerState) : (o : ManagerOp) → ManagerAnswer → Option (ManagerState × o.Res)
  | .timeNow, .none => some (s, s.clock)
  | .claimSessionForExec sessionID createIfMissing leaseTarget, ans =>
    if sessionID = "" then
      match ans with
      | .uuid id =>
        if s.sessions.lookup id = none then some (s.claimNewSession cfg id leaseTarget) else none
      | _ => none
    else
      match ans with
      | .none => some (s.claimSessionForExec cfg sessionID createIfMissing leaseTarget)
      | _ => none
  | .claimExistingSession sessionID, .none => some (s.claimExistingSession cfg sessionID)
  | .createSessionBoxForSession .., .created (.error err) => some (s, .error err)
  | .createSessionBoxForSession .., .created (.ok boxID) =>
    if boxID ∈ s.createdBoxes then none
    else some ({ s with createdBoxes := s.createdBoxes ++ [boxID] }, .ok boxID)
  | .publishSessionReady sessionID boxID, .none => some (s.publishSessionReady sessionID boxID)
  | .publishSessionFailed sessionID err, .none => some (s.publishSessionFailed sessionID err, ())
  | .dropCreationGuard, .none => some ({ s with pendingCreations := s.pendingCreations - 1 }, ())
  | .waitReady channel _, .none => (s.waitReady channel).map fun result => (s, result)
  | .waitReady _ deadlineUnixMs, .timeout =>
    if 0 < deadlineUnixMs ∧ deadlineUnixMs ≤ s.clock then some (s, .error .deadlineExceeded) else none
  | .execShellCommand .., .ran output => some (s, output)
  | .execResourceProbe .., .ran output => some (s, output)
  | .copyOutFile .., .copied err => some (s, err)
  | .putFileToSignedURL .., .uploaded err => some (s, err)
  | .releaseSession sessionID, .none => some (s.releaseSession sessionID)
  | .releaseAndDestroySession sessionID, .none => some (s.releaseAndDestroySession sessionID)
  | .removeBox boxID, .none => some ({ s with removedBoxes := s.removedBoxes ++ [boxID] }, ())
  | .dropCleanupGuard capacityReserved cleanupTracked, .none =>
    some (s.dropCleanupGuard capacityReserved cleanupTracked, ())
  | .renewLease sessionID leaseTarget now, .none => some (s.renewLease sessionID leaseTarget now)
  | .resolveProxyTarget sessionID guestPort now, .proxyPorts ports =>
    some (s, s.resolveProxyTarget sessionID guestPort now ports)
  | .takeExpired now, .order ids =>
    if ids.isPerm (s.expired now) then some (s.takeExpired now, s.retireAll ids true) else none
  | .recoverExisting sessionID leaseExpiresAt, .none => some (s.recoverExisting sessionID leaseExpiresAt)
  | .recoverSessionBox _, .recovered boxID => some (s, boxID)
  | .recoverInsert sessionID boxID leaseExpiresAt, .none =>
    some (s.recoverInsert sessionID boxID leaseExpiresAt)
  | .cleanupOrphanSessionBoxes _, .cleaned count => some (s, count)
  | .swapClosed, .none => some ({ s with closed := true }, s.closed)
  | .awaitJanitor, .none => some (s, ())
  | .waitForPendingCreations, .none => if s.pendingCreations = 0 then some (s, ()) else none
  | .waitForPendingCreations, .timeout => some (s, ())
  | .drainSessions, .order ids =>
    if ids.isPerm s.sessions.keys then some ({ s with sessions := ∅ }, s.retireAll ids false) else none
  | .waitForPendingCleanups, .none => if s.pendingCleanups = 0 then some (s, ()) else none
  | .releaseReservation, .none =>
    some ({ s with activeSessionReservations := s.activeSessionReservations - 1 }, ())
  | .returnExecute _, .none => some (s, ())
  | .returnResource _, .none => some (s, ())
  | .returnRenew _, .none => some (s, ())
  | .returnProxy _, .none => some (s, ())
  | .returnRecover _, .none => some (s, ())
  | _, _ => none

/-- A new process. -/
def Started (s : ManagerState) : Prop := ∃ clock, s = { clock := clock }

end ManagerState

/-- What happens besides the calls: time passes. -/
inductive ManagerEvent where
  | tick (now : Int)

/-- One step of the environment. -/
def ManagerState.occurs (s : ManagerState) : ManagerEvent → Option ManagerState
  | .tick now => if s.clock ≤ now then some { s with clock := now } else none

end Onlyboxes.BoxLite
