import Onlyboxes.ForStd.GoMap
import Onlyboxes.ForStd.Text

/-!
# One worker connection

The state of an `activeSession` (`session_runtime.go`): the in-flight slots of each
capability behind `capabilitiesMu`, the pending commands behind `pendingMu`, the
`done` channel and the result channel of each command. Every function here is one
critical section, or the part of a method up to the next one.
-/

namespace Onlyboxes.Console

open Text

def normalizeCapability (m : CaseMap) (capability : String) : String :=
  trimSpace (m.toLower capability)

theorem normalizeCapability_idem (m : CaseMap) (capability : String) :
    normalizeCapability m (normalizeCapability m capability) = normalizeCapability m capability := by
  unfold normalizeCapability
  rw [m.toLower_trimSpace_toLower, trimSpace_trimSpace]

def defaultCapabilityMaxInflight : Int := 4

structure SessionCapability where
  maxInflight : Int
  inflight : Int := 0
  deriving DecidableEq, Repr

structure CommandExecutionError where
  code : String
  message : String
  deriving DecidableEq, Repr

/-- The errors an outcome carries: from the worker, or the error the connection was
    closed with. -/
inductive OutcomeError where
  | execution (err : CommandExecutionError)
  | closed (message : String)
  deriving DecidableEq, Repr

/-- `commandOutcome`; a completion time of `none` is the zero time. -/
structure CommandOutcome where
  payloadJSON : String := ""
  message : String := ""
  err : Option OutcomeError := none
  completedAt : Option Int := none
  deriving DecidableEq, Repr

/-- `CommandResult`, as a worker sends it. -/
structure CommandResult where
  commandID : String
  error : Option CommandExecutionError := none
  payloadJSON : String := ""
  completedUnixMs : Int := 0
  deriving DecidableEq, Repr

/-- The payload and error `resolvePending` makes of a result. -/
def CommandResult.outcome (result : CommandResult) : CommandOutcome :=
  match result.error with
  | some err => { err := some (.execution err) }
  | none =>
    if result.payloadJSON ≠ "" then { payloadJSON := result.payloadJSON }
    else { err := some (.execution ⟨"empty_result", "worker returned empty command result"⟩) }

/-- `pendingCommand`. Its result channel is kept by command id. -/
structure PendingCommand where
  capability : String
  deriving DecidableEq, Repr

/-- A result channel with its `closeOnce`: what was sent on it and how often it was
    closed. -/
structure ResultChannel where
  sent : List CommandOutcome := []
  closes : Nat := 0
  closeOnce : Bool := false
  deriving DecidableEq, Repr

/-- `pendingCommand.closeResult`. The channel has room for one outcome. -/
def ResultChannel.closeResult (ch : ResultChannel) (outcome : Option CommandOutcome) :
    ResultChannel :=
  if ch.closeOnce then ch
  else
    { sent := match outcome with
        | none => ch.sent
        | some o => if ch.sent.length < 1 then ch.sent ++ [o] else ch.sent
      closes := ch.closes + 1
      closeOnce := true }

/-- A capability declared in `ConnectHello`. -/
structure DeclaredCapability where
  name : String
  maxInflight : Int
  deriving DecidableEq, Repr

def capabilitiesFromHello (m : CaseMap) (declared : List (Option DeclaredCapability)) :
    GoMap String SessionCapability :=
  declared.foldl (fun capabilitySet capability =>
    match capability with
    | none => capabilitySet
    | some capability =>
      let name := normalizeCapability m capability.name
      if name = "" then capabilitySet
      else capabilitySet.insert name
        { maxInflight := if capability.maxInflight ≤ 0 then defaultCapabilityMaxInflight
            else capability.maxInflight }) ∅

/-- `activeSession`: the fields that dispatching reads and writes. -/
structure ActiveSession where
  nodeID : String
  capabilities : GoMap String SessionCapability
  pending : GoMap String PendingCommand := ∅
  done : Bool := false
  closedErr : Option String := none
  recoveryRequired : Bool := false
  recoveryComplete : Bool := true
  deriving DecidableEq

def taskCapabilityTerminalExec : String := "terminalexec"

namespace ActiveSession

/-- `newActiveSessionAt`. Connections that declare terminalExec have to recover their
    sessions first. -/
def new (m : CaseMap) (nodeID : String) (declared : List (Option DeclaredCapability)) :
    ActiveSession :=
  let capabilities := capabilitiesFromHello m declared
  let recoveryRequired := (capabilities.lookup taskCapabilityTerminalExec).isSome
  { nodeID := nodeID
    capabilities := capabilities
    recoveryRequired := recoveryRequired
    recoveryComplete := !recoveryRequired }

def isReady (s : ActiveSession) : Bool := !s.recoveryRequired || s.recoveryComplete

def hasCapability (m : CaseMap) (s : ActiveSession) (capability : String) : Bool :=
  let normalized := normalizeCapability m capability
  if normalized = "" then false else (s.capabilities.lookup normalized).isSome

/-- The limit in force: an unset one is replaced by the default on first use. -/
def effectiveMax (state : SessionCapability) : Int :=
  if state.maxInflight ≤ 0 then defaultCapabilityMaxInflight else state.maxInflight

/-- The state behind the pointer `s.capabilities[name]` is updated. -/
def setCapability (s : ActiveSession) (name : String) (state : SessionCapability) :
    ActiveSession :=
  { s with capabilities := s.capabilities.insert name state }

/-- `inflightSnapshot`: in flight and limit. -/
def inflightSnapshot (m : CaseMap) (s : ActiveSession) (capability : String) :
    ActiveSession × Option (Int × Int) :=
  let normalized := normalizeCapability m capability
  if normalized = "" then (s, none)
  else match s.capabilities.lookup normalized with
    | none => (s, none)
    | some state =>
      (s.setCapability normalized { state with maxInflight := effectiveMax state },
        some (state.inflight, effectiveMax state))

def tryAcquireCapability (m : CaseMap) (s : ActiveSession) (capability : String) :
    ActiveSession × Bool :=
  let normalized := normalizeCapability m capability
  if normalized = "" then (s, false)
  else match s.capabilities.lookup normalized with
    | none => (s, false)
    | some state =>
      let state := { state with maxInflight := effectiveMax state }
      if state.maxInflight ≤ state.inflight then
        (s.setCapability normalized state, false)
      else
        (s.setCapability normalized { state with inflight := state.inflight + 1 }, true)

def releaseCapability (m : CaseMap) (s : ActiveSession) (capability : String) : ActiveSession :=
  let normalized := normalizeCapability m capability
  if normalized = "" then s
  else match s.capabilities.lookup normalized with
    | none => s
    | some state =>
      if 0 < state.inflight then
        s.setCapability normalized { state with inflight := state.inflight - 1 }
      else s

def sessionError (s : ActiveSession) : String := s.closedErr.getD "session closed"

/-- `registerPending`: `done` is checked under `pendingMu`. -/
def registerPending (m : CaseMap) (s : ActiveSession) (commandID capability : String) :
    Except String ActiveSession :=
  let commandID := trimSpace commandID
  if commandID = "" then .error "command_id is required"
  else if s.done then .error s.sessionError
  else .ok { s with
    pending := s.pending.insert commandID ⟨normalizeCapability m capability⟩ }

/-- The critical section of `unregisterPending` and `resolvePending`: take a command
    out of the pending map. -/
def takePending (s : ActiveSession) (commandID : String) : ActiveSession × Option PendingCommand :=
  let commandID := trimSpace commandID
  if commandID = "" then (s, none)
  else match s.pending.lookup commandID with
    | none => (s, none)
    | some pending => ({ s with pending := s.pending.erase commandID }, some pending)

/-- The start of `close`: later calls do nothing. -/
def closeDone (s : ActiveSession) (err : Option String) : ActiveSession :=
  if s.done then s
  else { s with done := true, closedErr := some (err.getD "session closed") }

/-- The critical section of `close`: all pending commands are taken at once. -/
def closeSwap (s : ActiveSession) : ActiveSession × List (String × PendingCommand) :=
  ({ s with pending := ∅ }, s.pending.entries.map fun e => (e.1, e.2))

end ActiveSession

end Onlyboxes.Console
