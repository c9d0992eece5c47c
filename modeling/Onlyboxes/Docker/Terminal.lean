import Onlyboxes.Docker.Manager

/-!
# The calls of the Docker session manager

`Execute`, `ResolveResource`, `RenewLease`, `Recover`, `ResolveProxyTarget`, the janitor
and the expiry of a lease (`terminal_exec.go`, `terminal_resource.go`,
`session_recovery.go`), as programs over the atomic operations of the manager, and the
system of any number of such calls. Log lines are left out.
-/

namespace Onlyboxes.Docker

open Text Worker

variable (lib : DockerLib) (cfg : ManagerSettings)

/-! ## Cleaning up -/

def forceRemoveContainer (owner : Option Nat) (containerName : String) : Manager Unit := do
  if trimSpace containerName = "" then return ()
  else
    let _ ← perform (.dockerRemove owner (trimSpace containerName))
    return ()

def cleanupSession (retired : Retired) : Manager Unit := do
  forceRemoveContainer (some retired.session) retired.containerName
  perform (.releaseCapacityReservation retired.session)

/-- `releaseSession`: the lease, if there is a session. -/
def releaseSession (sessionID : String) : Manager (Option Int) := do
  if trimSpace sessionID = "" then return none
  else match ← perform (.releaseSession (trimSpace sessionID)) with
    | none => return none
    | some (leaseExpiresAt, none) => return some leaseExpiresAt
    | some (leaseExpiresAt, some retired) =>
      cleanupSession retired
      return some leaseExpiresAt

def releaseAndDestroySession (sessionID : String) : Manager Unit := do
  if trimSpace sessionID = "" then return ()
  else match ← perform (.releaseAndDestroySession (trimSpace sessionID)) with
    | none => return ()
    | some retired => cleanupSession retired

/-- `cleanupSession` of one session after the other. -/
def cleanupSessions : List Retired → Manager Unit
  | [] => return ()
  | retired :: rest => do
    cleanupSession retired
    cleanupSessions rest

def cleanupExpiredSessions : Manager Unit := do
  let now ← perform .timeNow
  let expired ← perform (.takeExpired now)
  cleanupSessions expired

def expireSessionLease (session : Nat) : Manager Unit := do
  let now ← perform .timeNow
  match ← perform (.expireSessionLease session now) with
  | none => return ()
  | some retired => cleanupSession retired

/-! ## The container of a session -/

def dockerCommandFailureMessage (value : Int) (stderr : Bytes) : String :=
  let message := "exit code=" ++ lib.itoa value
  if lib.trimOutput stderr ≠ [] then message ++ ", stderr=" ++ lib.text (lib.trimOutput stderr)
  else message

/-- The error of a command that has to exit with 0. -/
def commandFailure (stage : String) (result : DockerCommandResult) : Option ManagerError :=
  match result.err with
  | some err => some (.command stage err)
  | none =>
    if result.exitCode = 0 then none
    else some (.other (stage ++ ": " ++ dockerCommandFailureMessage lib result.exitCode result.stderr))

def inspectTerminalContainerIP (containerName : String) : Manager (Except ManagerError String) := do
  let result ← perform (.dockerInspectIP containerName)
  match commandFailure lib "docker inspect proxy target failed" result with
  | some err => return .error err
  | none =>
    match lib.inspectedAddress (lib.trimOutput result.stdout) with
    | none => return .error (.other "docker inspect returned an invalid proxy target IP")
    | some address => return .ok address

/-- `createAndStartContainer`: the address, or the error. -/
def createAndStartContainer (session : Nat) (containerName : String) :
    Manager (Except ManagerError String) := do
  let createResult ← perform (.dockerCreate session containerName)
  match commandFailure lib "docker create failed" createResult with
  | some err => return .error err
  | none =>
    let startResult ← perform (.dockerStart containerName)
    match commandFailure lib "docker start failed" startResult with
    | some err =>
      forceRemoveContainer (some session) containerName
      return .error err
    | none =>
      if cfg.dockerNetwork = "" then return .ok ""
      else match ← inspectTerminalContainerIP lib containerName with
        | .error err =>
          forceRemoveContainer (some session) containerName
          return .error err
        | .ok containerIP => return .ok containerIP

def cleanupInactiveCreatedSession (claim : Claim) : Manager Unit := do
  if ← perform (.detachCreated claim.session) then
    cleanupSession ⟨claim.session, claim.containerName⟩
  else
    -- An expiry cleanup may have run before docker create completed.
    forceRemoveContainer (some claim.session) claim.containerName

/-- `awaitSessionReady` of the call that creates the session. -/
def createSession (claim : Claim) : Manager (Option ManagerError) := do
  match ← createAndStartContainer lib cfg claim.session claim.containerName with
  | .error err =>
    perform (.publishReady claim.session "" (some err))
    releaseAndDestroySession claim.sessionID
    return some err
  | .ok containerIP =>
    perform (.publishReady claim.session containerIP none)
    if ← perform (.sessionIsActive claim.session) then return none
    else
      cleanupInactiveCreatedSession claim
      return some .sessionNotFound

/-- `awaitSessionReady` of the other calls. -/
def joinSession (claim : Claim) : Manager (Option ManagerError) := do
  match ← perform (.awaitReady claim.session) with
  | some err =>
    let _ ← releaseSession claim.sessionID
    return some (.command "" (.context err))
  | none =>
    match ← perform (.loadInitErr claim.session) with
    | some err =>
      let _ ← releaseSession claim.sessionID
      return some err
    | none =>
      if ← perform (.sessionIsActive claim.session) then return none
      else return some .sessionNotFound

def awaitSessionReady (claim : Claim) : Manager (Option ManagerError) :=
  if claim.created then createSession lib cfg claim else joinSession claim

/-! ## Execute -/

structure TerminalExecRequest where
  command : String
  sessionID : String := ""
  createIfMissing : Bool := false
  leaseTTLSec : Option Int := none
  deriving DecidableEq, Repr

/-- `resolveLeaseDuration`, in milliseconds. -/
def resolveLeaseDuration (leaseTTLSec : Option Int) : Except ManagerError Int :=
  let leaseSec := leaseTTLSec.getD cfg.leaseDefaultSec
  if leaseSec < cfg.leaseMinSec ∨ cfg.leaseMaxSec < leaseSec then
    .error (.newTerminalExecError terminalExecCodeInvalidPayload
      ("lease_ttl_sec must be between " ++ lib.itoa cfg.leaseMinSec ++ " and " ++
        lib.itoa cfg.leaseMaxSec))
  else .ok (leaseSec * 1000)

/-- `Execute` after the command was run. -/
def settleExec (claim : Claim) (execResult : DockerCommandResult) :
    Manager (Except ManagerError TerminalExecRunResult) := do
  match execResult.err with
  | some (.context err) =>
    releaseAndDestroySession claim.sessionID
    return .error (.command "" (.context err))
  | some (.other message) =>
    let _ ← releaseSession claim.sessionID
    return .error (.command "docker exec failed" (.other message))
  | none =>
    if isNoSuchContainerMessage lib.toLower execResult.stderr then
      releaseAndDestroySession claim.sessionID
      return .error .sessionNotFound
    else match ← releaseSession claim.sessionID with
      | none => return .error .sessionNotFound
      | some leaseExpiresAt =>
        return .ok
          { sessionID := claim.sessionID
            created := claim.created
            stdout := (truncateByBytes execResult.stdout cfg.outputLimitBytes).1
            stderr := (truncateByBytes execResult.stderr cfg.outputLimitBytes).1
            exitCode := execResult.exitCode
            stdoutTruncated := (truncateByBytes execResult.stdout cfg.outputLimitBytes).2
            stderrTruncated := (truncateByBytes execResult.stderr cfg.outputLimitBytes).2
            leaseExpiresUnixMS := leaseExpiresAt }

/-- `Execute` with a session. -/
def execInSession (claim : Claim) (command : String) :
    Manager (Except ManagerError TerminalExecRunResult) := do
  match ← awaitSessionReady lib cfg claim with
  | some err => return .error err
  | none =>
    let execResult ← perform (.dockerExec claim.containerName command)
    settleExec lib cfg claim execResult

def execute (req : TerminalExecRequest) : Manager (Except ManagerError TerminalExecRunResult) := do
  if trimSpace req.command = "" then
    return .error (.newTerminalExecError terminalExecCodeInvalidPayload "command is required")
  else match resolveLeaseDuration lib cfg req.leaseTTLSec with
    | .error err => return .error err
    | .ok leaseDuration =>
      let now ← perform .timeNow
      match ← perform (.claimSession (trimSpace req.sessionID) (now + leaseDuration)
          req.createIfMissing) with
      | .error err => return .error err
      | .ok claim => execInSession lib cfg claim (trimSpace req.command)

def renewLease (sessionID : String) (leaseTTLSec : Int) : Manager (Except ManagerError Int) := do
  if trimSpace sessionID = "" then
    return .error (.newTerminalExecError terminalExecCodeInvalidPayload "session_id is required")
  else match resolveLeaseDuration lib cfg (some leaseTTLSec) with
    | .error err => return .error err
    | .ok leaseDuration =>
      let now ← perform .timeNow
      perform (.renewLease (trimSpace sessionID) (now + leaseDuration) now)

/-! ## Resources -/

/-- The actions on resources. -/
inductive ResourceAction where
  | validate
  | read
  | export
  deriving DecidableEq, Repr

/-- The text of an action. -/
def ResourceAction.text : ResourceAction → String
  | .validate => "validate"
  | .read => "read"
  | .export => "export"

def normalizeTerminalResourceAction (action : String) : Option ResourceAction :=
  let action := trimSpace (lib.caseMap.toLower action)
  if action = "" ∨ action = ResourceAction.validate.text then some .validate
  else if action = ResourceAction.read.text then some .read
  else if action = ResourceAction.export.text then some .export
  else none

structure TerminalResourceRequest where
  sessionID : String
  filePath : String
  action : String := ""
  signedURL : String := ""
  headers : List (String × String) := []
  deriving DecidableEq, Repr

def terminalResourceCodeFileNotFound : String := "file_not_found"
def terminalResourceCodePathIsDir : String := "path_is_directory"
def terminalResourceCodeFileTooLarge : String := "file_too_large"

def terminalResourceErrorMessage (code fallback : String) : String :=
  if trimSpace fallback ≠ "" then trimSpace fallback
  else if trimSpace code = terminalResourceCodeFileNotFound then "file not found"
  else if trimSpace code = terminalResourceCodePathIsDir then "path is directory"
  else if trimSpace code = terminalResourceCodeFileTooLarge then "file exceeds read limit"
  else "terminal resource operation failed"

/-- The error that a probe reports. -/
def ProbeResult.reported (probe : ProbeResult) : Option ManagerError :=
  if trimSpace probe.error = "" then none
  else some (.newTerminalExecError (trimSpace probe.error)
    (terminalResourceErrorMessage (trimSpace probe.error) probe.message))

def terminalResourceDockerFailureMessage (value : Int) (stderr stdout : Bytes) : String :=
  let message := dockerCommandFailureMessage lib value stderr
  let trimmed := lib.trimOutput stdout
  if lib.trimOutput stderr ≠ [] then message
  else if trimmed = [] then message
  else if 256 < trimmed.length then message ++ ", stdout=" ++ (lib.text (trimmed.take 256) ++ "...")
  else message ++ ", stdout=" ++ lib.text trimmed

/-- `probeTerminalResource` after the command was run. -/
def readProbe (execResult : DockerCommandResult) : Except ManagerError ProbeResult :=
  match execResult.err with
  | some err => .error (.command "docker exec failed" err)
  | none =>
    if isNoSuchContainerMessage lib.toLower execResult.stderr then .error .sessionNotFound
    else
      let decoded := lib.decodeProbeOutput execResult.stdout
      if execResult.exitCode ≠ 0 then
        let failure : ManagerError := .other ("docker exec failed: " ++
          terminalResourceDockerFailureMessage lib execResult.exitCode execResult.stderr
            execResult.stdout)
        match decoded with
        | .error _ => .error failure
        | .ok probe => .error (probe.reported.getD failure)
      else match decoded with
        | .error err => .error (.other ("invalid terminalResource result: " ++ err))
        | .ok probe =>
          match probe.reported with
          | some err => .error err
          | none => .ok probe

/-- `exportTerminalResource`: the error, if any. -/
def exportTerminalResource (containerName filePath signedURL : String)
    (headers : List (String × String)) : Manager (Option ManagerError) := do
  match ← perform .createTemp with
  | some err => return some (.other ("create temp file: " ++ err))
  | none =>
    let copyResult ← perform (.dockerCopy containerName filePath)
    match copyResult.err with
    | some err => return some (.command "docker cp failed" err)
    | none =>
      if isNoSuchContainerMessage lib.toLower copyResult.stderr then return some .sessionNotFound
      else if copyResult.exitCode ≠ 0 then
        return some (.other ("docker cp failed: " ++
          dockerCommandFailureMessage lib copyResult.exitCode copyResult.stderr))
      else
        let err ← perform (.putFileToSignedURL signedURL headers)
        return err.map (.command "upload export file")

def buildTerminalResourceResult (sessionID filePath : String) (probe : ProbeResult) :
    TerminalResourceRunResult where
  sessionID := sessionID
  filePath := filePath
  mimeType :=
    if trimSpace probe.mimeType = "" then "application/octet-stream" else trimSpace probe.mimeType
  sizeBytes := probe.size

/-- The result of a read. -/
def readBlob (result : TerminalResourceRunResult) (probe : ProbeResult) :
    Except ManagerError TerminalResourceRunResult :=
  if trimSpace probe.blob = "" then .ok result
  else match lib.decodeBase64 (trimSpace probe.blob) with
    | .error err => .error (.other ("decode resource blob: " ++ err))
    | .ok decoded => .ok { result with blob := decoded }

def resolveResourceInSession (containerName sessionID filePath : String) (action : ResourceAction)
    (signedURL : String) (headers : List (String × String)) :
    Manager (Except ManagerError TerminalResourceRunResult) := do
  let probeAction := if action = .export then ResourceAction.validate else action
  let execResult ← perform (.dockerProbe containerName probeAction.text filePath cfg.outputLimitBytes)
  match readProbe lib execResult with
  | .error err => return .error err
  | .ok probe =>
    let result := buildTerminalResourceResult sessionID filePath probe
    match action with
    | .export =>
      if 0 < cfg.exportMaxBytes ∧ cfg.exportMaxBytes < probe.size then
        return .error (.newTerminalExecError terminalResourceCodeFileTooLarge
          "file exceeds export limit")
      else match ← exportTerminalResource lib containerName filePath signedURL headers with
        | some err => return .error err
        | none => return .ok result
    | .read => return readBlob lib result probe
    | .validate => return .ok result

/-- `ResolveResource` after the resource was read. -/
def settleResource (sessionID : String) (result : Except ManagerError TerminalResourceRunResult) :
    Manager (Except ManagerError TerminalResourceRunResult) := do
  match result with
  | .error err =>
    if err.contextError.isSome then
      releaseAndDestroySession sessionID
      return .error err
    else if err.hasCode terminalExecCodeSessionNotFound then
      releaseAndDestroySession sessionID
      return .error err
    else
      let _ ← releaseSession sessionID
      return .error err
  | .ok result =>
    match ← releaseSession sessionID with
    | none => return .error .sessionNotFound
    | some _ => return .ok result

/-- `time.Time{}`, in milliseconds. -/
def zeroTimeUnixMs : Int := -62135596800000

/-- `ResolveResource` with its arguments checked. -/
def resolveChecked (sessionID filePath : String) (action : ResourceAction) (signedURL : String)
    (headers : List (String × String)) : Manager (Except ManagerError TerminalResourceRunResult) := do
  match ← perform (.claimSession sessionID zeroTimeUnixMs false) with
  | .error err => return .error err
  | .ok claim =>
    match ← joinSession claim with
    | some err => return .error err
    | none =>
      let result ← resolveResourceInSession lib cfg claim.containerName sessionID filePath action
        signedURL headers
      settleResource sessionID result

def resolveResource (req : TerminalResourceRequest) :
    Manager (Except ManagerError TerminalResourceRunResult) := do
  if trimSpace req.sessionID = "" ∨ trimSpace req.filePath = "" then
    return .error (.newTerminalExecError terminalExecCodeInvalidPayload
      "session_id and file_path are required")
  else match normalizeTerminalResourceAction lib req.action with
    | none =>
      return .error (.newTerminalExecError terminalExecCodeInvalidPayload
        "action must be validate, read, or export")
    | some action =>
      if action = .export ∧ trimSpace req.signedURL = "" then
        return .error (.newTerminalExecError terminalExecCodeInvalidPayload
          "signed_url is required for export")
      else
        resolveChecked lib cfg (trimSpace req.sessionID) (trimSpace req.filePath) action
          (trimSpace req.signedURL) req.headers

/-! ## Proxy targets -/

/-- The end of `ResolveProxyTarget`. The cleanup of a session that expired goes on after the
    answer. -/
def resolveReadyTarget (sessionID : String) (session : Nat) (now : Int) : Manager Unit := do
  match ← perform (.resolveProxyTarget sessionID session now) with
  | .notFound => perform (.returnProxy (.error none))
  | .found ip => perform (.returnProxy (.ok ip))
  | .expired retired =>
    perform (.returnProxy (.error none))
    cleanupSession retired

/-- `ResolveProxyTarget`: the address, or the error, which is one of the context or
    `errTerminalProxySessionNotFound`. -/
def resolveProxyTarget (sessionID : String) (now : Option Int) : Manager Unit := do
  if trimSpace sessionID = "" then perform (.returnProxy (.error none))
  else match ← perform (.lookupProxySession (trimSpace sessionID)) with
    | none => perform (.returnProxy (.error none))
    | some session =>
      match ← perform (.awaitReady session) with
      | some err => perform (.returnProxy (.error (some err)))
      | none =>
        match now with
        | some now => resolveReadyTarget (trimSpace sessionID) session now
        | none =>
          let now ← perform .timeNow
          resolveReadyTarget (trimSpace sessionID) session now

/-! ## Recovery -/

/-- `TerminalSessionRecoveryCandidate`. -/
structure RecoveryCandidate where
  sessionID : String
  leaseExpiresUnixMs : Int
  deriving DecidableEq, Repr

def terminalRecoveryDockerMaxAttempts : Nat := 3

/-- `forceRemoveContainer` of one container after the other, by recovery. -/
def removeContainers : List String → Manager Unit
  | [] => return ()
  | name :: names => do
    forceRemoveContainer none name
    removeContainers names

/-- `recoverOneAttempt` with a container that runs: the status, and whether to retry. -/
def recoverRunning (sessionID containerName : String) (leaseExpiresAt : Int) :
    Manager (RecoveryStatus × Bool) := do
  if cfg.dockerNetwork = "" then
    let status ← perform (.recoverInsert sessionID containerName "" leaseExpiresAt)
    return (status, false)
  else match ← inspectTerminalContainerIP lib containerName with
    | .error _ => return (.invalid, true)
    | .ok containerIP =>
      let status ← perform (.recoverInsert sessionID containerName containerIP leaseExpiresAt)
      return (status, false)

/-- `recoverOneAttempt` with a container that has the labels of the session. -/
def recoverLabeled (sessionID containerName : String) (leaseExpiresAt : Int) (status : String) :
    Manager (RecoveryStatus × Bool) := do
  match ← perform (.dockerPsSession sessionID) with
  | none => return (.invalid, true)
  | some matchingNames =>
    if matchingNames ≠ [containerName] then
      removeContainers matchingNames
      return (.invalid, false)
    else
      let status := trimSpace (lib.caseMap.toLower status)
      if status = "running" then recoverRunning lib cfg sessionID containerName leaseExpiresAt
      else if status = "created" ∨ status = "exited" ∨ status = "stopped" then
        let start ← perform (.dockerStart containerName)
        match commandFailure lib "docker start failed" start with
        | some _ => return (.invalid, true)
        | none => recoverRunning lib cfg sessionID containerName leaseExpiresAt
      else
        forceRemoveContainer none containerName
        return (.invalid, false)

def recoverOneAttempt (sessionID containerName : String) (leaseExpiresAt : Int) :
    Manager (RecoveryStatus × Bool) := do
  if ← perform (.recoverExisting sessionID leaseExpiresAt) then return (.recovered, false)
  else match ← perform (.dockerInspect containerName) with
    | .failed noSuchContainer => return (.missing, !noSuchContainer)
    | .malformed => return (.invalid, false)
    | .foreign =>
      forceRemoveContainer none containerName
      return (.invalid, false)
    | .labeled status => recoverLabeled lib cfg sessionID containerName leaseExpiresAt status

/-- `recoverOne`, with the number of attempts left. -/
def recoverOne (sessionID containerName : String) (leaseExpiresAt : Int) : Nat → Manager RecoveryStatus
  | 0 => return .invalid
  | attempts + 1 => do
    let (status, retryable) ← recoverOneAttempt lib cfg sessionID containerName leaseExpiresAt
    if retryable = false ∨ attempts = 0 then return status
    else if ← perform .waitRetry then recoverOne sessionID containerName leaseExpiresAt attempts
    else return status

/-- The status of a candidate. -/
def recoverCandidate (now : Int) (candidate : RecoveryCandidate) : Manager RecoveryStatus := do
  let sessionID := trimSpace candidate.sessionID
  let containerName := terminalSessionResourceName lib sessionID
  if sessionID ≠ "" ∧ 0 < candidate.leaseExpiresUnixMs ∧ now < candidate.leaseExpiresUnixMs then
    recoverOne lib cfg sessionID containerName candidate.leaseExpiresUnixMs
      terminalRecoveryDockerMaxAttempts
  else if sessionID ≠ "" then
    forceRemoveContainer none containerName
    return .invalid
  else return .invalid

/-- The loop of `Recover`: the results. -/
def recoverCandidates (now : Int) : List (Option RecoveryCandidate) → Manager (List RecoveryResult)
  | [] => return []
  | none :: candidates => recoverCandidates now candidates
  | some candidate :: candidates => do
    let status ← recoverCandidate lib cfg now candidate
    let results ← recoverCandidates now candidates
    return ⟨trimSpace candidate.sessionID, status⟩ :: results

/-- `expectedNames` of `Recover`. -/
def expectedNames (results : List RecoveryResult) : List String :=
  (results.filter (·.status = .recovered)).map fun result =>
    terminalSessionResourceName lib result.sessionID

def cleanupOrphanContainers (expected : List String) : Manager Unit := do
  match ← perform .dockerPsAll with
  | none => return ()
  | some names =>
    removeContainers (names.filter fun name =>
      hasPrefix name terminalExecContainerPrefix && !expected.contains name)

def recover (candidates : List (Option RecoveryCandidate)) : Manager (List RecoveryResult) := do
  let now ← perform .timeNow
  let results ← recoverCandidates lib cfg now candidates
  cleanupOrphanContainers (expectedNames lib results)
  return results

/-! ## The system -/

/-- The calls of the manager. -/
inductive ManagerCall where
  | execute (req : TerminalExecRequest)
  | resolveResource (req : TerminalResourceRequest)
  | renewLease (sessionID : String) (leaseTTLSec : Int)
  | recover (candidates : List (Option RecoveryCandidate))
  | resolveProxyTarget (sessionID : String) (now : Option Int)
  /-- The janitor wakes up. -/
  | janitor
  /-- The timer of a session fires. -/
  | expire (session : Nat)
  deriving DecidableEq, Repr

/-- The program of a call. -/
def ManagerCall.body : ManagerCall → Manager Unit
  | .execute req => do
    let result ← Docker.execute lib cfg req
    perform (.returnExecute result)
  | .resolveResource req => do
    let result ← Docker.resolveResource lib cfg req
    perform (.returnResource result)
  | .renewLease sessionID leaseTTLSec => do
    let result ← Docker.renewLease lib cfg sessionID leaseTTLSec
    perform (.returnRenew result)
  | .recover candidates => do
    let results ← Docker.recover lib cfg candidates
    perform (.returnRecover results)
  | .resolveProxyTarget sessionID now => Docker.resolveProxyTarget sessionID now
  | .janitor => cleanupExpiredSessions
  | .expire session => expireSessionLease session

/-- The manager: any number of calls, interleaved with each other and with the world. -/
def managerSystem : ThreadSystem ManagerState ManagerCall ManagerOp ManagerOp.Res Unit ManagerAnswer
    ManagerEvent where
  init := ManagerState.Started
  body := ManagerCall.body lib cfg
  exec := ManagerState.exec lib cfg
  env := ManagerState.occurs
  stamp _ := ()

abbrev ManagerPool := Pool ManagerState ManagerCall ManagerOp ManagerOp.Res Unit
abbrev ManagerThread := Thread ManagerCall ManagerOp ManagerOp.Res Unit
abbrev ManagerAction := PoolAction ManagerCall ManagerAnswer ManagerEvent

/-- The runs of the manager. -/
abbrev managerMachine : Machine ManagerPool ManagerAction := (managerSystem lib cfg).machine

end Onlyboxes.Docker
