import Mathlib.Algebra.Group.Int.Defs
import Onlyboxes.BoxLite.Manager

/-!
# The calls of the BoxLite session manager

`execute`, `renew_lease`, `resolve_resource`, `resolve_proxy_target`, `recover_sessions`,
`close_inner` and the janitor (`terminal_session_manager.rs`), as programs over the atomic
operations of the manager, and the system of any number of such calls. Log lines are left
out.
-/

namespace Onlyboxes.BoxLite

open Text Worker
open Docker (terminalExecCodeInvalidPayload terminalResourceCodeFileNotFound
  terminalResourceCodePathIsDir terminalResourceCodeFileTooLarge ProbeResult
  TerminalResourceRunResult ResourceAction RecoveryCandidate RecoveryResult RecoveryStatus)

variable (lib : BoxLiteLib) (cfg : ManagerSettings)

/-! ## Cleaning up -/

/-- `cleanup_retired_session`. -/
def cleanupRetiredSession (retired : Retired) : Manager Unit := do
  if trimSpace retired.boxID ≠ "" then
    perform (.removeBox retired.boxID)
    perform (.dropCleanupGuard retired.capacityReserved retired.cleanupTracked)
  else perform (.dropCleanupGuard retired.capacityReserved retired.cleanupTracked)

/-- `cleanup_retired_session`, if there is a session to clean up. -/
def cleanupRetired (retired : Option Retired) : Manager Unit :=
  match retired with
  | none => return ()
  | some retired => cleanupRetiredSession retired

/-- `cleanup_retired_session` of one session after the other. -/
def cleanupRetiredSessions : List Retired → Manager Unit
  | [] => return ()
  | retired :: rest => do
    cleanupRetiredSession retired
    cleanupRetiredSessions rest

/-- `release_session`: the lease, if there is a session. -/
def releaseSession (sessionID : String) : Manager (Option Int) := do
  match ← perform (.releaseSession sessionID) with
  | none => return none
  | some (lease, retired) =>
    cleanupRetired retired
    return some lease

/-- `release_and_destroy_session`. -/
def releaseAndDestroySession (sessionID : String) : Manager Unit := do
  let retired ← perform (.releaseAndDestroySession sessionID)
  cleanupRetired retired

/-- `cleanup_expired_sessions`. -/
def cleanupExpiredSessions : Manager Unit := do
  let now ← perform .timeNow
  let expired ← perform (.takeExpired now)
  cleanupRetiredSessions expired

/-! ## execute -/

structure TerminalExecRequest where
  command : String
  sessionID : String := ""
  createIfMissing : Bool := false
  leaseTTLSec : Option Int32 := none
  deadlineUnixMs : Int := 0

/-- `resolve_lease_duration`, in milliseconds; the cast to `u64` extends the sign. -/
def resolveLeaseDuration (leaseTTLSec : Option Int32) : Except OperationError Int :=
  let leaseSec := leaseTTLSec.getD cfg.leaseDefaultSec.toInt32
  if leaseSec < cfg.leaseMinSec.toInt32 ∨ cfg.leaseMaxSec.toInt32 < leaseSec then
    .error (.terminal terminalExecCodeInvalidPayload ("lease_ttl_sec must be between " ++
      lib.itoa cfg.leaseMinSec.toNat ++ " and " ++ lib.itoa cfg.leaseMaxSec.toNat))
  else .ok (leaseSec.toInt % 2 ^ 64 * 1000)

/-- `await_session_ready`. -/
def awaitSessionReady (claim : Claim) (deadlineUnixMs : Int) : Manager (Except OperationError String) := do
  let now ← perform .timeNow
  if 0 < deadlineUnixMs ∧ deadlineUnixMs ≤ now then return .error .deadlineExceeded
  else perform (.waitReady claim.channel deadlineUnixMs)

/-- The part of `execute` that creates the box of a new session: the box, or the error. -/
def createBox (claim : Claim) (deadlineUnixMs : Int) : Manager (Except OperationError String) := do
  match ← perform (.createSessionBoxForSession claim.sessionID deadlineUnixMs) with
  | .ok boxID =>
    if ← perform (.publishSessionReady claim.sessionID boxID) then
      perform .dropCreationGuard
      return .ok boxID
    else
      -- The session was retired by `close_inner` while its box was being created.
      perform (.removeBox boxID)
      perform .dropCreationGuard
      return .error .managerClosed
  | .error err =>
    perform (.publishSessionFailed claim.sessionID err)
    releaseAndDestroySession claim.sessionID
    perform .dropCreationGuard
    return .error err

/-- The part of `execute` that waits for the box of a session. -/
def joinBox (claim : Claim) (deadlineUnixMs : Int) : Manager (Except OperationError String) := do
  match ← awaitSessionReady claim deadlineUnixMs with
  | .ok boxID => return .ok boxID
  | .error err =>
    let _ ← releaseSession claim.sessionID
    return .error err

/-- As many characters as fit. -/
def takeBytes : Nat → List Char → List Char
  | _, [] => []
  | maxBytes, c :: cs => if c.utf8Size ≤ maxBytes then c :: takeBytes (maxBytes - c.utf8Size) cs else []

/-- `truncate_by_bytes`. -/
def truncateByBytes (value : String) (maxBytes : Nat) : String × Bool :=
  if maxBytes = 0 ∨ value.utf8ByteSize ≤ maxBytes then (value, false)
  else (String.ofList (takeBytes maxBytes value.toList), true)

/-- `to_unix_millis`. -/
def toUnixMillis (time : Int) : Int := if time < 0 then 0 else time

/-- The result of a command that was run. -/
def execResult (claim : Claim) (output : CollectedExecOutput) (lease : Int) : TerminalExecRunResult where
  sessionID := claim.sessionID
  created := claim.created
  stdout := (truncateByBytes output.stdout cfg.outputLimitBytes).1
  stderr := (truncateByBytes output.stderr cfg.outputLimitBytes).1
  exitCode := output.exitCode
  stdoutTruncated := (truncateByBytes output.stdout cfg.outputLimitBytes).2
  stderrTruncated := (truncateByBytes output.stderr cfg.outputLimitBytes).2
  leaseExpiresUnixMs := toUnixMillis lease

/-- The part of `execute` that runs the command. -/
def runInBox (claim : Claim) (boxID command : String) (deadlineUnixMs : Int) :
    Manager (Except OperationError TerminalExecRunResult) := do
  match ← perform (.execShellCommand boxID command deadlineUnixMs) with
  | .ok output =>
    match ← releaseSession claim.sessionID with
    | none => return .error .sessionNotFound
    | some lease => return .ok (execResult cfg claim output lease)
  | .error .deadlineExceeded =>
    releaseAndDestroySession claim.sessionID
    return .error .deadlineExceeded
  | .error .missingBox =>
    releaseAndDestroySession claim.sessionID
    return .error .sessionNotFound
  | .error (.executionFailed message) =>
    let _ ← releaseSession claim.sessionID
    return .error (.executionFailed message)

/-- `execute` with a session. -/
def execInSession (claim : Claim) (command : String) (deadlineUnixMs : Int) :
    Manager (Except OperationError TerminalExecRunResult) := do
  match ← (if claim.created then createBox claim deadlineUnixMs else joinBox claim deadlineUnixMs) with
  | .error err => return .error err
  | .ok boxID => runInBox cfg claim boxID command deadlineUnixMs

def execute (req : TerminalExecRequest) : Manager (Except OperationError TerminalExecRunResult) := do
  if trimSpace req.command = "" then
    return .error (.terminal terminalExecCodeInvalidPayload "command is required")
  else match resolveLeaseDuration lib cfg req.leaseTTLSec with
    | .error err => return .error err
    | .ok leaseDuration =>
      let now ← perform .timeNow
      match ← perform (.claimSessionForExec (trimSpace req.sessionID) req.createIfMissing
          (now + leaseDuration)) with
      | .error err => return .error err
      | .ok claim => execInSession cfg claim (trimSpace req.command) req.deadlineUnixMs

/-! ## renew_lease and resolve_proxy_target -/

/-- `renew_lease`. -/
def renewLease (sessionID : String) (leaseTTLSec : Int32) : Manager (Except OperationError Int) := do
  if trimSpace sessionID = "" then
    return .error (.terminal terminalExecCodeInvalidPayload "session_id is required")
  else match resolveLeaseDuration lib cfg (some leaseTTLSec) with
    | .error err => return .error err
    | .ok leaseDuration =>
      let now ← perform .timeNow
      match ← perform (.renewLease (trimSpace sessionID) (now + leaseDuration) now) with
      | .error err => return .error err
      | .ok lease => return .ok (toUnixMillis lease)

/-! ## resolve_resource -/

structure TerminalResourceRequest where
  sessionID : String
  filePath : String
  action : String := ""
  signedURL : String := ""
  headers : List (String × String) := []
  deadlineUnixMs : Int := 0

/-- `normalize_terminal_resource_action`. -/
def normalizeTerminalResourceAction (action : String) : Option ResourceAction :=
  let action := (trimSpace action).toLower
  if action = "" ∨ action = ResourceAction.validate.text then some .validate
  else if action = ResourceAction.read.text then some .read
  else if action = ResourceAction.export.text then some .export
  else none

def terminalResourceCodePathNotAllowed : String := "path_not_allowed"

/-- `is_terminal_resource_export_path_disallowed`. -/
def isTerminalResourceExportPathDisallowed (filePath : String) : Bool :=
  trimSpace filePath = "/tmp" ∨ hasPrefix (trimSpace filePath) "/tmp/"

/-- `terminal_resource_error_message`. -/
def terminalResourceErrorMessage (code fallback : String) : String :=
  if trimSpace fallback ≠ "" then trimSpace fallback
  else if trimSpace code = terminalResourceCodeFileNotFound then "file not found"
  else if trimSpace code = terminalResourceCodePathIsDir then "path is directory"
  else if trimSpace code = terminalResourceCodePathNotAllowed then "file path is not allowed"
  else if trimSpace code = terminalResourceCodeFileTooLarge then "file exceeds read limit"
  else "terminal resource operation failed"

structure ResourceFailure where
  error : OperationError
  destroy : Bool
  deriving DecidableEq, Repr

namespace ResourceFailure

/-- `ResourceFailure::retain`. -/
def retain (error : OperationError) : ResourceFailure := ⟨error, false⟩

/-- `ResourceFailure::from_boxlite`. -/
def fromBoxlite : BoxliteCommandError → ResourceFailure
  | .deadlineExceeded => ⟨.deadlineExceeded, true⟩
  | .missingBox => ⟨.sessionNotFound, true⟩
  | .executionFailed message => ⟨.executionFailed message, false⟩

end ResourceFailure

/-- `decode_terminal_resource_probe_output`. -/
def decodeTerminalResourceProbeOutput (stdout : String) : Except String ProbeResult :=
  if trimSpace stdout = "" then .error "empty output" else lib.decodeProbe (trimSpace stdout)

/-- What a probe says. -/
def readProbe (output : CollectedExecOutput) : Except OperationError ProbeResult :=
  match decodeTerminalResourceProbeOutput lib output.stdout with
  | .error err => .error (.executionFailed ("invalid terminalResource result: " ++ err))
  | .ok probe =>
    if trimSpace probe.error ≠ "" then
      .error (.terminal (trimSpace probe.error) (terminalResourceErrorMessage probe.error probe.message))
    else if output.exitCode ≠ 0 then
      .error (.executionFailed ("terminalResource probe failed: exit_code=" ++ lib.itoa output.exitCode ++
        " stderr=" ++ trimSpace output.stderr))
    else .ok probe

/-- The result without its content. -/
def resourceResult (sessionID filePath : String) (probe : ProbeResult) : TerminalResourceRunResult where
  sessionID := sessionID
  filePath := filePath
  mimeType :=
    if trimSpace probe.mimeType = "" then "application/octet-stream" else trimSpace probe.mimeType
  sizeBytes := probe.size

/-- The result of a read. -/
def readBlob (result : TerminalResourceRunResult) (probe : ProbeResult) :
    Except ResourceFailure TerminalResourceRunResult :=
  if trimSpace probe.blob = "" then .ok result
  else match lib.decodeBase64 (trimSpace probe.blob) with
    | .error err => .error (.retain (.executionFailed ("decode resource blob: " ++ err)))
    | .ok decoded => .ok { result with blob := decoded }

/-- The export of a file that was probed. -/
def exportFile (boxID : String) (result : TerminalResourceRunResult) (signedURL : String)
    (headers : List (String × String)) (deadlineUnixMs : Int) :
    Manager (Except ResourceFailure TerminalResourceRunResult) := do
  match ← perform (.copyOutFile boxID result.filePath deadlineUnixMs) with
  | some err => return .error (.fromBoxlite err)
  | none =>
    match ← perform (.putFileToSignedURL signedURL headers) with
    | some err => return .error (.retain (.executionFailed err))
    | none => return .ok result

/-- `resolve_resource_in_session`. -/
def resolveResourceInSession (boxID sessionID filePath : String) (action : ResourceAction)
    (signedURL : String) (headers : List (String × String)) (deadlineUnixMs : Int) :
    Manager (Except ResourceFailure TerminalResourceRunResult) := do
  let probeAction := if action = .export then ResourceAction.validate else action
  match ← perform (.execResourceProbe boxID probeAction.text filePath cfg.outputLimitBytes
      deadlineUnixMs) with
  | .error err => return .error (.fromBoxlite err)
  | .ok output =>
    match readProbe lib output with
    | .error err => return .error (.retain err)
    | .ok probe =>
      let result := resourceResult sessionID filePath probe
      match action with
      | .export =>
        if 0 < cfg.exportMaxBytes ∧ (cfg.exportMaxBytes : Int) < probe.size then
          return .error (.retain (.terminal terminalResourceCodeFileTooLarge "file exceeds export limit"))
        else exportFile boxID result signedURL headers deadlineUnixMs
      | .read => return readBlob lib result probe
      | .validate => return .ok result

/-- `resolve_resource` after the resource was read. -/
def settleResource (sessionID : String) (result : Except ResourceFailure TerminalResourceRunResult) :
    Manager (Except OperationError TerminalResourceRunResult) := do
  match result with
  | .ok result =>
    let _ ← releaseSession sessionID
    return .ok result
  | .error failure =>
    if failure.destroy then
      releaseAndDestroySession sessionID
      return .error failure.error
    else
      let _ ← releaseSession sessionID
      return .error failure.error

/-- `resolve_resource` with its arguments checked. -/
def resolveChecked (req : TerminalResourceRequest) (sessionID filePath : String)
    (action : ResourceAction) : Manager (Except OperationError TerminalResourceRunResult) := do
  match ← perform (.claimExistingSession sessionID) with
  | .error err => return .error err
  | .ok claim =>
    match ← joinBox claim req.deadlineUnixMs with
    | .error err => return .error err
    | .ok boxID =>
      let result ← resolveResourceInSession lib cfg boxID sessionID filePath action
        (trimSpace req.signedURL) req.headers req.deadlineUnixMs
      settleResource sessionID result

/-- `resolve_resource`. -/
def resolveResource (req : TerminalResourceRequest) :
    Manager (Except OperationError TerminalResourceRunResult) := do
  if trimSpace req.sessionID = "" ∨ trimSpace req.filePath = "" then
    return .error (.terminal terminalExecCodeInvalidPayload "session_id and file_path are required")
  else match normalizeTerminalResourceAction req.action with
    | none =>
      return .error (.terminal terminalExecCodeInvalidPayload "action must be validate, read, or export")
    | some action =>
      if action = .export ∧ trimSpace req.signedURL = "" then
        return .error (.terminal terminalExecCodeInvalidPayload "signed_url is required for export")
      else if action = .export ∧ isTerminalResourceExportPathDisallowed (trimSpace req.filePath) then
        return .error (.terminal terminalResourceCodePathNotAllowed
          "paths under /tmp are not allowed for export")
      else resolveChecked lib cfg req (trimSpace req.sessionID) (trimSpace req.filePath) action

/-! ## recover_sessions -/

/-- `recover_one_session`: whether there is such a session. -/
def recoverOneSession (sessionID : String) (leaseExpiresAt : Int) : Manager (Except OperationError Bool) := do
  match ← perform (.recoverExisting sessionID leaseExpiresAt) with
  | .error err => return .error err
  | .ok true => return .ok true
  | .ok false =>
    match ← perform (.recoverSessionBox sessionID) with
    | .error err => return .error err
    | .ok none => return .ok false
    | .ok (some boxID) => perform (.recoverInsert sessionID boxID leaseExpiresAt)

/-- The status of a candidate that is looked for. -/
def recoveryStatus : Except OperationError Bool → RecoveryStatus
  | .ok true => .recovered
  | .ok false => .missing
  | .error _ => .invalid

/-- The status of a candidate. -/
def recoverCandidate (now : Int) (candidate : RecoveryCandidate) : Manager RecoveryStatus := do
  if trimSpace candidate.sessionID = "" ∨ candidate.leaseExpiresUnixMs ≤ 0 ∨
      candidate.leaseExpiresUnixMs ≤ now then return .invalid
  else
    let found ← recoverOneSession (trimSpace candidate.sessionID) candidate.leaseExpiresUnixMs
    return recoveryStatus found

/-- The loop of `recover_sessions`: the results, and the names of what was recovered. -/
def recoverCandidates (now : Int) : List RecoveryCandidate → Manager (List RecoveryResult × List String)
  | [] => return ([], [])
  | candidate :: candidates => do
    let status ← recoverCandidate now candidate
    let (results, names) ← recoverCandidates now candidates
    return (⟨candidate.sessionID, status⟩ :: results,
      if status = .recovered then lib.resourceName (trimSpace candidate.sessionID) :: names else names)

/-- `recover_sessions`. -/
def recoverSessions (candidates : List RecoveryCandidate) : Manager (List RecoveryResult) := do
  let now ← perform .timeNow
  let (results, names) ← recoverCandidates lib now candidates
  let _ ← perform (.cleanupOrphanSessionBoxes names)
  return results

/-! ## close_inner -/

/-- `close_inner` gives back the places of the sessions that it preserves. -/
def releaseReservations : List Retired → Manager Unit
  | [] => return ()
  | retired :: rest => do
    if retired.capacityReserved then
      perform .releaseReservation
      releaseReservations rest
    else releaseReservations rest

/-- `close_inner`. -/
def closeInner (preserve : Bool) : Manager Unit := do
  if ← perform .swapClosed then return ()
  else
    perform .awaitJanitor
    perform .waitForPendingCreations
    let sessions ← perform .drainSessions
    perform .waitForPendingCleanups
    if preserve then releaseReservations sessions else cleanupRetiredSessions sessions

/-! ## The system -/

/-- The calls of the manager. -/
inductive ManagerCall where
  | execute (req : TerminalExecRequest)
  | resolveResource (req : TerminalResourceRequest)
  | renewLease (sessionID : String) (leaseTTLSec : Int32)
  | resolveProxyTarget (sessionID : String) (guestPort : Nat) (now : Int)
  | recover (candidates : List RecoveryCandidate)
  /-- The janitor wakes up. -/
  | janitor
  | close (preserve : Bool)

/-- The program of a call. -/
def ManagerCall.body : ManagerCall → Manager Unit
  | .execute req => do
    let result ← BoxLite.execute lib cfg req
    perform (.returnExecute result)
  | .resolveResource req => do
    let result ← BoxLite.resolveResource lib cfg req
    perform (.returnResource result)
  | .renewLease sessionID leaseTTLSec => do
    let result ← BoxLite.renewLease lib cfg sessionID leaseTTLSec
    perform (.returnRenew result)
  | .resolveProxyTarget sessionID guestPort now => do
    let result ← perform (.resolveProxyTarget sessionID guestPort now)
    perform (.returnProxy result)
  | .recover candidates => do
    let results ← recoverSessions lib candidates
    perform (.returnRecover results)
  | .janitor => cleanupExpiredSessions
  | .close preserve => closeInner preserve

/-- The manager: any number of its calls. -/
def managerSystem : ThreadSystem ManagerState ManagerCall ManagerOp ManagerOp.Res Unit ManagerAnswer
    ManagerEvent where
  init := ManagerState.Started
  body := ManagerCall.body lib cfg
  exec := ManagerState.exec cfg
  env := ManagerState.occurs
  stamp _ := ()

abbrev ManagerPool := Pool ManagerState ManagerCall ManagerOp ManagerOp.Res Unit
abbrev ManagerThread := Thread ManagerCall ManagerOp ManagerOp.Res Unit
abbrev ManagerAction := PoolAction ManagerCall ManagerAnswer ManagerEvent

/-- The runs of the manager. -/
abbrev managerMachine : Machine ManagerPool ManagerAction := (managerSystem lib cfg).machine

end Onlyboxes.BoxLite
