import Onlyboxes.E2B.Manager

/-!
# The calls of the E2B session manager

`Execute`, `ResolveResource`, `RenewLease`, `Recover`, `ResolveProxy` and the janitor
(`terminal_exec.go`, `terminal_resource.go`, `session_recovery.go`), as programs over the
atomic operations of the manager, and the system of any number of such calls. Log lines are
left out.
-/

namespace Onlyboxes.E2B

open Text Worker
open Docker (terminalExecCodeInvalidPayload terminalResourceCodeFileNotFound
  terminalResourceCodePathIsDir terminalResourceCodeFileTooLarge TerminalExecRequest
  TerminalResourceRequest TerminalResourceRunResult ResourceAction RecoveryCandidate RecoveryResult
  RecoveryStatus zeroTimeUnixMs)

variable (lib : E2BLib) (cfg : ManagerSettings)

/-! ## Cleaning up -/

def killSandbox (sandbox : Option String) : Manager Unit := do
  match sandbox with
  | none => return ()
  | some sandbox => perform (.kill sandbox)

def cleanupRetiredSession (retired : Retired) : Manager Unit := do
  killSandbox retired.sandbox
  if retired.capacityReserved then perform .releaseReservation
  else return ()

/-- `cleanupRetiredSession`, if there is a session to clean up. -/
def cleanupRetired (retired : Option Retired) : Manager Unit := do
  match retired with
  | none => return ()
  | some retired => cleanupRetiredSession retired

/-- `cleanupRetiredSession` of one session after the other. -/
def cleanupRetiredSessions : List Retired → Manager Unit
  | [] => return ()
  | retired :: rest => do
    cleanupRetiredSession retired
    cleanupRetiredSessions rest

/-- `releaseSession`: the lease, if there is a session. -/
def releaseSession (sessionID : String) : Manager (Option Int) := do
  match ← perform (.releaseSession sessionID) with
  | none => return none
  | some (expires, retired) =>
    cleanupRetired retired
    return some expires

def releaseAndDestroySession (sessionID : String) : Manager Unit := do
  let retired ← perform (.releaseAndDestroySession sessionID)
  cleanupRetired retired

def cleanupExpiredSessions : Manager Unit := do
  let now ← perform .timeNow
  let expired ← perform (.takeExpired now)
  cleanupRetiredSessions expired

/-! ## Getting a session -/

/-- `secondsUntil`, at a time. -/
def secondsUntil (target now : Int) : Int :=
  let seconds := (target - now).tdiv 1000 + 1
  if seconds < 1 then 1 else seconds

def claimSession (sessionID : String) (leaseTarget : Int) (createIfMissing : Bool) :
    Manager (Except SessionError Claim) := do
  let (result, retired) ← perform (.claimSession sessionID leaseTarget createIfMissing)
  cleanupRetired retired
  return result

/-- The metadata of the sandbox of a new session. -/
def sandboxMetadata (sessionID : String) : SandboxMetadata :=
  if cfg.recovers then terminalSessionMetadata lib sessionID else createMetadata

/-- `awaitSessionReady` of the call that creates the session. -/
def createSession (claim : Claim) : Manager (Option SessionError) := do
  let leaseExpiresAt ← perform (.loadDesiredLease claim.session)
  let now ← perform .timeNow
  let created ← perform (.createSandbox claim.session (secondsUntil leaseExpiresAt now)
    (sandboxMetadata lib cfg claim.sessionID))
  perform (.publishSandbox claim.session created leaseExpiresAt)
  perform (.closeReady claim.session)
  match created with
  | .error err =>
    releaseAndDestroySession claim.sessionID
    return some (.backend "create E2B terminal sandbox" err)
  | .ok _ => return none

/-- `awaitSessionReady` of the other calls. -/
def joinSession (claim : Claim) : Manager (Option SessionError) := do
  match ← perform (.awaitReady claim.session) with
  | some err =>
    let _ ← releaseSession claim.sessionID
    return some (.backend "" (.context err))
  | none =>
    match ← perform (.loadInitErr claim.session) with
    | some err =>
      let _ ← releaseSession claim.sessionID
      return some (.backend "" err)
    | none => return none

def awaitSessionReady (claim : Claim) : Manager (Option SessionError) :=
  if claim.created then createSession lib cfg claim else joinSession claim

/-- `syncSandboxTimeout` with its lock taken. -/
def syncLocked (session : Nat) (deadline : Option Int) : Manager (Option SessionError) := do
  match ← perform (.planSync session deadline) with
  | .done => return none
  | .extend _ _ none => return some (.other "E2B sandbox is unavailable")
  | .extend leaseExpires targetExpires (some sandbox) =>
    let now ← perform .timeNow
    match ← perform (.setTimeout sandbox (secondsUntil targetExpires now)) with
    | some err => return some (.backend "" err)
    | none =>
      perform (.recordSync session leaseExpires targetExpires)
      return none

/-- `syncSandboxTimeout`: the error, if any. -/
def syncSandboxTimeout (session : Nat) (deadline : Option Int) : Manager (Option SessionError) := do
  perform (.lockLeaseSync session)
  let err ← syncLocked session deadline
  perform (.unlockLeaseSync session)
  return err

/-- The error of `syncSandboxTimeout`, wrapped. -/
def extendFailed : SessionError → SessionError
  | .backend _ err => .backend "extend E2B sandbox timeout" err
  | .other message => .other ("extend E2B sandbox timeout: " ++ message)
  | .terminal code message => .terminal code message

/-- A call that has a session fails: the session is destroyed if the context is over or the
    sandbox is gone. -/
def releaseFailed (sessionID : String) (err reported : SessionError) : Manager SessionError := do
  if err.isContext then
    releaseAndDestroySession sessionID
    return err
  else if err.isSandboxNotFound then
    releaseAndDestroySession sessionID
    return .sessionNotFound
  else
    let _ ← releaseSession sessionID
    return reported

/-! ## Execute and RenewLease -/

/-- `resolveLeaseDuration`, in milliseconds. -/
def resolveLeaseDuration (value : Option Int) : Except SessionError Int :=
  let seconds := value.getD cfg.leaseDefaultSec
  if seconds < cfg.leaseMinSec ∨ cfg.leaseMaxSec < seconds then
    .error (.newTerminalExecError terminalExecCodeInvalidPayload
      ("lease_ttl_sec must be between " ++ lib.itoa cfg.leaseMinSec ++ " and " ++
        lib.itoa cfg.leaseMaxSec))
  else .ok (seconds * 1000)

/-- `Execute` with a session whose sandbox is there for long enough. -/
def runInSession (claim : Claim) (command : String) :
    Manager (Except SessionError TerminalExecRunResult) := do
  let sandbox ← perform (.loadSandbox claim.session)
  match ← perform (.runCommand sandbox (.user command) cfg.outputLimitBytes) with
  | .error err =>
    let err ← releaseFailed claim.sessionID (.backend "" err) (.backend "" err)
    return .error err
  | .ok result =>
    match ← releaseSession claim.sessionID with
    | none => return .error .sessionNotFound
    | some leaseExpires => return .ok ⟨claim.sessionID, claim.created, result, leaseExpires⟩

/-- `Execute` with a session. -/
def execInSession (claim : Claim) (command : String) (deadline : Option Int) :
    Manager (Except SessionError TerminalExecRunResult) := do
  match ← awaitSessionReady lib cfg claim with
  | some err => return .error err
  | none =>
    match ← syncSandboxTimeout claim.session deadline with
    | some err =>
      let err ← releaseFailed claim.sessionID err (extendFailed err)
      return .error err
    | none => runInSession cfg claim command

def execute (req : TerminalExecRequest) (deadline : Option Int) :
    Manager (Except SessionError TerminalExecRunResult) := do
  if trimSpace req.command = "" then
    return .error (.newTerminalExecError terminalExecCodeInvalidPayload "command is required")
  else match resolveLeaseDuration lib cfg req.leaseTTLSec with
    | .error err => return .error err
    | .ok leaseDuration =>
      let now ← perform .timeNow
      match ← claimSession (trimSpace req.sessionID) (now + leaseDuration) req.createIfMissing with
      | .error err => return .error err
      | .ok claim => execInSession lib cfg claim (trimSpace req.command) deadline

/-- `RenewLease` with a session. -/
def renewInSession (claim : Claim) (deadline : Option Int) : Manager (Except SessionError Int) := do
  match ← syncSandboxTimeout claim.session deadline with
  | some err =>
    if err.isSandboxNotFound then
      releaseAndDestroySession claim.sessionID
      return .error .sessionNotFound
    else
      let _ ← releaseSession claim.sessionID
      return .error (extendFailed err)
  | none =>
    match ← releaseSession claim.sessionID with
    | none => return .error .sessionNotFound
    | some expiresAt => return .ok expiresAt

def renewLease (sessionID : String) (leaseTTLSec : Int) (deadline : Option Int) :
    Manager (Except SessionError Int) := do
  if trimSpace sessionID = "" then
    return .error (.newTerminalExecError terminalExecCodeInvalidPayload "session_id is required")
  else match resolveLeaseDuration lib cfg (some leaseTTLSec) with
    | .error err => return .error err
    | .ok leaseDuration =>
      let now ← perform .timeNow
      match ← perform (.claimRenewal (trimSpace sessionID) (now + leaseDuration) now) with
      | .error err => return .error err
      | .ok claim => renewInSession claim deadline

/-! ## Resources -/

def normalizeTerminalResourceAction (action : String) : Option ResourceAction :=
  let action := lib.caseMap.toLower (trimSpace action)
  if action = "" ∨ action = ResourceAction.validate.text then some .validate
  else if action = ResourceAction.read.text then some .read
  else if action = ResourceAction.export.text then some .export
  else none

def terminalResourceErrorMessage (code fallback : String) : String :=
  if trimSpace fallback ≠ "" then trimSpace fallback
  else if code = terminalResourceCodeFileNotFound then "file not found"
  else if code = terminalResourceCodePathIsDir then "path is directory"
  else if code = terminalResourceCodeFileTooLarge then "file exceeds limit"
  else "terminal resource operation failed"

/-- The metadata of a resource: its type and its size. -/
structure ResourceMetadata where
  mimeType : String
  size : Int
  deriving DecidableEq, Repr

/-- `probeResource` after the command was run. -/
def readProbe (output : CommandResult) : Except SessionError ResourceMetadata :=
  if output.exitCode ≠ 0 then
    .error (.other ("probe resource failed: exit_code=" ++ lib.itoa output.exitCode ++ " stderr=" ++
      trimSpace output.stderr))
  else match lib.decodeProbe (trimSpace output.stdout) with
    | .error err => .error (.other ("decode resource metadata: " ++ err))
    | .ok probe =>
      if probe.error ≠ "" then
        .error (.newTerminalExecError probe.error
          (terminalResourceErrorMessage probe.error probe.message))
      else .ok
        { mimeType := if probe.mimeType = "" then "application/octet-stream" else probe.mimeType
          size := probe.size }

def exportTooLarge : SessionError :=
  .newTerminalExecError terminalResourceCodeFileTooLarge "file exceeds export limit"

/-- The error that an upload ends with, if any. -/
def uploadError : UploadOutcome → Option SessionError
  | .badRequest message => some (.other ("build export request: " ++ message))
  | .tooLarge => some exportTooLarge
  | .failed err => some (.backend "upload export file" err)
  | .answered statusCode status body =>
    if statusCode < 200 ∨ 300 ≤ statusCode then
      some (.other ("upload export file failed: " ++
        if trimSpace body = "" then status else trimSpace body))
    else none

/-- `exportResourceThroughWorker`: the error, if any. -/
def exportResourceThroughWorker (sandbox : Option String) (filePath signedURL : String)
    (headers : List (String × String)) : Manager (Option SessionError) := do
  match ← perform (.openFile sandbox filePath) with
  | .error .fileNotFound =>
    return some (.newTerminalExecError terminalResourceCodeFileNotFound "file not found")
  | .error err => return some (.backend "" err)
  | .ok size =>
    if 0 < cfg.exportMaxBytes ∧ cfg.exportMaxBytes < size then return some exportTooLarge
    else
      let outcome ← perform (.upload signedURL headers size)
      return uploadError outcome

def terminalExportLimitMarker : String := "ONLYBOXES_EXPORT_FILE_TOO_LARGE"

/-- What a failed export in the sandbox says. -/
def sandboxExportMessage (output : CommandResult) : String :=
  if trimSpace output.stderr ≠ "" then trimSpace output.stderr
  else if trimSpace output.stdout ≠ "" then trimSpace output.stdout
  else "upload command failed"

/-- `exportResourceFromSandbox`: the error, if any. -/
def exportResourceFromSandbox (sandbox : Option String) (filePath signedURL : String)
    (headers : List (String × String)) : Manager (Option SessionError) := do
  match ← perform (.runCommand sandbox (.export filePath signedURL headers cfg.exportMaxBytes)
      (64 * 1024)) with
  | .error err => return some (.backend "run sandbox export" err)
  | .ok output =>
    if output.exitCode ≠ 0 then
      if containsBytes (bytes (sandboxExportMessage output)) (bytes terminalExportLimitMarker) then
        return some exportTooLarge
      else
        return some (.other ("sandbox export failed: exit_code=" ++ lib.itoa output.exitCode ++ ": " ++
          sandboxExportMessage output))
    else return none

/-- `exportResource`: the error, if any. -/
def exportResource (sandbox : Option String) (filePath signedURL : String)
    (headers : List (String × String)) : Manager (Option SessionError) :=
  match cfg.exportMode with
  | .sandbox => exportResourceFromSandbox lib cfg sandbox filePath signedURL headers
  | .worker => exportResourceThroughWorker cfg sandbox filePath signedURL headers

/-- The result of a read. -/
def readResult (result : TerminalResourceRunResult) :
    Except BackendError File → Except SessionError TerminalResourceRunResult
  | .error .fileNotFound =>
    .error (.newTerminalExecError terminalResourceCodeFileNotFound "file not found")
  | .error .fileTooLarge =>
    .error (.newTerminalExecError terminalResourceCodeFileTooLarge "file exceeds read limit")
  | .error err => .error (.backend "" err)
  | .ok file => .ok { result with mimeType := file.mimeType, sizeBytes := file.size, blob := file.content }

/-- `resolveResource` after the resource was probed. -/
def actOnResource (sandbox : Option String) (result : TerminalResourceRunResult)
    (action : ResourceAction) (signedURL : String) (headers : List (String × String)) :
    Manager (Except SessionError TerminalResourceRunResult) := do
  match action with
  | .validate => return .ok result
  | .read =>
    let file ← perform (.readFile sandbox result.filePath cfg.outputLimitBytes)
    return readResult result file
  | .export =>
    if 0 < cfg.exportMaxBytes ∧ cfg.exportMaxBytes < result.sizeBytes then return .error exportTooLarge
    else match ← exportResource lib cfg sandbox result.filePath signedURL headers with
      | some err => return .error err
      | none => return .ok result

/-- `resolveResource`. -/
def resolveInSession (claim : Claim) (filePath : String) (action : ResourceAction)
    (signedURL : String) (headers : List (String × String)) :
    Manager (Except SessionError TerminalResourceRunResult) := do
  let sandbox ← perform (.loadSandbox claim.session)
  match ← perform (.runCommand sandbox (.probe filePath) (64 * 1024)) with
  | .error err => return .error (.backend "" err)
  | .ok output =>
    match readProbe lib output with
    | .error err => return .error err
    | .ok probe =>
      actOnResource lib cfg sandbox
        { sessionID := claim.sessionID
          filePath := filePath
          mimeType := probe.mimeType
          sizeBytes := probe.size }
        action signedURL headers

/-- `ResolveResource` after the resource was read. -/
def settleResource (sessionID : String) (result : Except SessionError TerminalResourceRunResult) :
    Manager (Except SessionError TerminalResourceRunResult) := do
  match result with
  | .error err =>
    let err ← releaseFailed sessionID err err
    return .error err
  | .ok result =>
    match ← releaseSession sessionID with
    | none => return .error .sessionNotFound
    | some _ => return .ok result

/-- `ResolveResource` with its arguments checked. -/
def resolveChecked (sessionID filePath : String) (action : ResourceAction) (signedURL : String)
    (headers : List (String × String)) (deadline : Option Int) :
    Manager (Except SessionError TerminalResourceRunResult) := do
  match ← claimSession sessionID zeroTimeUnixMs false with
  | .error err => return .error err
  | .ok claim =>
    match ← joinSession claim with
    | some err => return .error err
    | none =>
      match ← syncSandboxTimeout claim.session deadline with
      | some err =>
        let err ← releaseFailed sessionID err (extendFailed err)
        return .error err
      | none =>
        let result ← resolveInSession lib cfg claim filePath action signedURL headers
        settleResource sessionID result

def resolveResource (req : TerminalResourceRequest) (deadline : Option Int) :
    Manager (Except SessionError TerminalResourceRunResult) := do
  if trimSpace req.sessionID = "" ∨ trimSpace req.filePath = "" then
    return .error (.newTerminalExecError terminalExecCodeInvalidPayload
      "session_id and file_path are required")
  else match normalizeTerminalResourceAction lib req.action with
    | none =>
      return .error (.newTerminalExecError terminalExecCodeInvalidPayload
        "action must be validate, read, or export")
    | some action =>
      if action = .export ∧ trimSpace req.signedURL = "" then
        return .error (.newTerminalExecError terminalExecCodeInvalidPayload
          "signed_url is required for export")
      else
        resolveChecked lib cfg (trimSpace req.sessionID) (trimSpace req.filePath) action
          req.signedURL req.headers deadline

/-! ## Proxies -/

/-- `ResolveProxy` at a time. -/
def resolveProxyAt (sessionID : String) (port now : Int) :
    Manager (Except SessionError (String × String)) := do
  match ← perform (.lookupProxy sessionID now) with
  | none => return .error .sessionNotFound
  | some sandbox => return (lib.proxyURL sandbox port).mapError .other

/-- `ResolveProxy`: the URL and the token. -/
def resolveProxy (sessionID : String) (port : Int) (now : Option Int) :
    Manager (Except SessionError (String × String)) := do
  if port < 1 ∨ 65535 < port then
    return .error (.newTerminalExecError terminalExecCodeInvalidPayload
      "port must be between 1 and 65535")
  else if trimSpace sessionID = "" then
    return .error (.newTerminalExecError terminalExecCodeInvalidPayload "session_id is required")
  else match now with
    | some now => resolveProxyAt lib (trimSpace sessionID) port now
    | none =>
      let now ← perform .timeNow
      resolveProxyAt lib (trimSpace sessionID) port now

/-! ## Recovery -/

/-- `Kill` of one sandbox after the other, by recovery. -/
def killListed : List SandboxInfo → Manager Unit
  | [] => return ()
  | info :: infos => do
    if trimSpace info.id ≠ "" then perform (.killListed info.id)
    killListed infos

/-- `recoverOne` with the sandbox of the session. -/
def recoverSandbox (sessionID sandbox : String) (leaseExpiresAt : Int) : Manager RecoveryStatus := do
  let now ← perform .timeNow
  match ← perform (.connectSandbox sandbox (secondsUntil leaseExpiresAt now)) with
  | .error .sandboxNotFound => return .missing
  | .error _ => return .invalid
  | .ok sandbox =>
    if trimSpace sandbox = "" then return .invalid
    else perform (.recoverInsert sessionID sandbox leaseExpiresAt)

def recoverOne (sessionID : String) (leaseExpiresAt : Int) : Manager RecoveryStatus := do
  if ← perform (.recoverExisting sessionID leaseExpiresAt) then return .recovered
  else match ← perform (.listSandboxes (terminalSessionMetadata lib sessionID)) with
    | none => return .invalid
    | some [] => return .missing
    | some infos =>
      match infos.filter fun info => info.metadata = terminalSessionMetadata lib sessionID with
      | [] => return .invalid
      | [info] => recoverSandbox sessionID info.id leaseExpiresAt
      | matching =>
        killListed matching
        return .invalid

/-- The loop of `Recover`: the results. -/
def recoverCandidates (now : Int) : List (Option RecoveryCandidate) → Manager (List RecoveryResult)
  | [] => return []
  | none :: candidates => recoverCandidates now candidates
  | some candidate :: candidates => do
    let sessionID := trimSpace candidate.sessionID
    let status ←
      if sessionID ≠ "" ∧ 0 < candidate.leaseExpiresUnixMs ∧ now < candidate.leaseExpiresUnixMs then
        recoverOne lib sessionID candidate.leaseExpiresUnixMs
      else pure .invalid
    let results ← recoverCandidates now candidates
    return ⟨sessionID, status⟩ :: results

def missingTerminalRecoveryResults (candidates : List (Option RecoveryCandidate)) : List RecoveryResult :=
  candidates.filterMap fun candidate => candidate.map fun candidate => ⟨candidate.sessionID, .missing⟩

def recover (candidates : List (Option RecoveryCandidate)) : Manager (List RecoveryResult) := do
  if cfg.recovers = false then return missingTerminalRecoveryResults candidates
  else
    let now ← perform .timeNow
    recoverCandidates lib now candidates

/-! ## The system -/

/-- The calls of the manager, with the deadlines of their contexts. -/
inductive ManagerCall where
  | execute (req : TerminalExecRequest) (deadline : Option Int)
  | resolveResource (req : TerminalResourceRequest) (deadline : Option Int)
  | renewLease (sessionID : String) (leaseTTLSec : Int) (deadline : Option Int)
  | recover (candidates : List (Option RecoveryCandidate))
  | resolveProxy (sessionID : String) (port : Int) (now : Option Int)
  /-- The janitor wakes up. -/
  | janitor
  deriving DecidableEq, Repr

/-- The program of a call. -/
def ManagerCall.body : ManagerCall → Manager Unit
  | .execute req deadline => do
    let result ← E2B.execute lib cfg req deadline
    perform (.returnExecute result)
  | .resolveResource req deadline => do
    let result ← E2B.resolveResource lib cfg req deadline
    perform (.returnResource result)
  | .renewLease sessionID leaseTTLSec deadline => do
    let result ← E2B.renewLease lib cfg sessionID leaseTTLSec deadline
    perform (.returnRenew result)
  | .recover candidates => do
    let results ← E2B.recover lib cfg candidates
    perform (.returnRecover results)
  | .resolveProxy sessionID port now => do
    let result ← E2B.resolveProxy lib sessionID port now
    perform (.returnProxy result)
  | .janitor => cleanupExpiredSessions

/-- The manager: any number of calls, interleaved with each other and with the world. -/
def managerSystem : ThreadSystem ManagerState ManagerCall ManagerOp ManagerOp.Res Unit ManagerAnswer
    ManagerEvent where
  init := ManagerState.Started
  body := ManagerCall.body lib cfg
  exec := ManagerState.exec cfg
  env := ManagerState.occurs
  stamp _ := ()

abbrev ManagerPool := Pool ManagerState ManagerCall ManagerOp ManagerOp.Res Unit
abbrev ManagerThread := Thread ManagerCall ManagerOp ManagerOp.Res Unit
abbrev ManagerAction := PoolAction ManagerCall ManagerAnswer ManagerEvent

/-- The runs of the manager. -/
abbrev managerMachine : Machine ManagerPool ManagerAction := (managerSystem lib cfg).machine

end Onlyboxes.E2B
