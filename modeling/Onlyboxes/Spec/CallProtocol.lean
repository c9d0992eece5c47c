import Onlyboxes.Console.Dispatch

/-!
# What a call has done so far

The state of a call as far as its own operations tell: which worker and reservation it
obtained for its session, whether it has settled that reservation, which workers it
sent the command to and what came back. `callProtocol` says what the code of the calls
does with it: a reservation is settled by its holder only, under the id it was obtained
with, and a command is only sent to the worker the session is pinned to.
-/

namespace Onlyboxes.Console

open Text

/-- A worker and a reservation (0 for a confirmed route) obtained for a session, and
    the incarnation of the session's route they belong to. -/
structure Obtained where
  nodeID : String
  reservationID : Nat
  incarnation : Nat
  deriving DecidableEq, Repr

inductive CallKind where
  | dispatch
  | renew
  | delete
  deriving DecidableEq, Repr

/-- The state of a call. -/
structure CallState where
  kind : CallKind
  /-- The scoped session the call is about; empty if none. -/
  sessionID : String
  /-- What the call obtained and did not settle. -/
  obtained : Option Obtained := none
  /-- The call counts as a use of a provisional reservation. -/
  held : Bool := false
  obtainedIDs : List Nat := []
  settledIDs : List Nat := []
  commitFailed : Bool := false
  /-- The connection of the obtained worker was missing, not ready or without the
      capability. -/
  lost : Bool := false
  /-- The worker answered `session_not_found`. -/
  notFound : Bool := false
  /-- How many workers were online when the call listed them first. -/
  listed : Option Nat := none
  /-- The workers the command was enqueued to, the last one first. -/
  enqueued : List String := []
  /-- The worker the command was enqueued to and has not answered. -/
  inflight : Option String := none
  /-- The reservation it was enqueued under. -/
  attempt : Option Nat := none
  /-- The last worker answered `session_capacity_exceeded`. -/
  capacity : Bool := false
  /-- The reservation of that attempt was released, and this removed the route. -/
  removed : Bool := false
  deriving DecidableEq, Repr

abbrev ServiceCallEvent := Event ServiceOp ServiceOp.Res (List (String × Nat))

/-- The incarnation of a session: how often its route was opened. -/
def incarnation (opened : List (String × Nat)) (sessionID : String) : Nat :=
  opened.countP fun e => e.1 = sessionID

namespace CallState

variable (lib : GoLib)

/-- A connection that cannot serve the command was seen. -/
def miss (g : CallState) : CallState :=
  if g.obtained.isSome then { g with lost := true } else g

/-- A worker and a reservation were obtained. -/
def obtain (g : CallState) (nodeID : String) (reservationID : Nat) (opened : List (String × Nat)) :
    CallState :=
  { g with
    obtained := some ⟨nodeID, reservationID, incarnation opened g.sessionID⟩
    held := reservationID ≠ 0
    obtainedIDs := if reservationID ≠ 0 then reservationID :: g.obtainedIDs else g.obtainedIDs
    lost := false
    notFound := false }

/-- The reservation held, if any. -/
def heldID (g : CallState) : Option Nat :=
  match g.obtained with
  | none => none
  | some o => if g.held then some o.reservationID else none

/-- The call is done with what it obtained. -/
def settle (g : CallState) : CallState :=
  { g with
    obtained := none
    held := false
    settledIDs := g.heldID.toList ++ g.settledIDs }

/-- The worker answered. -/
def answered (g : CallState) (outcome : CommandOutcome) : CallState :=
  { g with
    inflight := none
    notFound := outcome.err.any lib.isSessionNotFoundCommandError
    capacity := outcome.err.any lib.isSessionCapacityCommandError }

/-- How an event changes the state. -/
def next (g : CallState) : ServiceCallEvent → CallState
  | ⟨.listOnlineNodeIDs _ _, nodeIDs, _⟩ => { g with listed := some (g.listed.getD nodeIDs.length) }
  | ⟨.getSession _, none, _⟩ => g.miss
  | ⟨.isReady _, false, _⟩ => g.miss
  | ⟨.hasCapability _ _, false, _⟩ => g.miss
  | ⟨.enqueueCommand session _, .ok (), _⟩ =>
    { g with
      enqueued := session.nodeID :: g.enqueued
      inflight := some session.nodeID
      attempt := g.heldID
      capacity := false
      removed := false }
  | ⟨.await _ _, .outcome outcome, _⟩ => g.answered lib outcome
  | ⟨.await _ _, .closed, _⟩ => { g with inflight := none }
  | ⟨.snapshot _ _, some route, opened⟩ =>
    if g.kind = .dispatch then g else g.obtain route.nodeID 0 opened
  | ⟨.claim _ _, some (nodeID, reservationID), opened⟩ => g.obtain nodeID reservationID opened
  | ⟨.reserve _ _ _, (nodeID, reservationID), opened⟩ => g.obtain nodeID reservationID opened
  | ⟨.confirm _ _ _ _, _, _⟩ => g.settle
  | ⟨.commit _ _ _ _ _, .ok _, _⟩ => g.settle
  | ⟨.commit _ _ _ _ _, .error _, _⟩ => { g with commitFailed := true }
  | ⟨.clearReservation _ _ reservationID, result, _⟩ =>
    { g.settle with
      removed := g.removed ||
        (g.capacity && result == .removed && g.attempt == some reservationID) }
  | ⟨.clearRoute _ _, _, _⟩ => g.settle
  | _ => g

/-- What the call obtained is used under its own session, worker and reservation, and
    only while it is held. -/
def Owns (g : CallState) (sessionID nodeID : String) (reservationID : Nat) : Prop :=
  sessionID = g.sessionID ∧ ∃ o, g.obtained = some o ∧ trimSpace nodeID = o.nodeID ∧
    reservationID = o.reservationID ∧ (reservationID ≠ 0 → g.held)

/-- Which operations a call performs, among workers whose ids are as `W` says. -/
def Allowed (W : String → Prop) (g : CallState) : ServiceOp → Prop
  | .claim sessionID _ => g.kind = .dispatch ∧ sessionID = g.sessionID ∧ g.obtained = none
  | .reserve sessionID preferredNodeID _ =>
    g.kind = .dispatch ∧ sessionID = g.sessionID ∧ g.obtained = none ∧
      trimSpace sessionID ≠ "" ∧ trimSpace preferredNodeID ≠ ""
  | .snapshot sessionID _ => sessionID = g.sessionID
  | .confirm sessionID nodeID reservationID _ => g.Owns sessionID nodeID reservationID
  | .commit sessionID nodeID reservationID _ _ => g.Owns sessionID nodeID reservationID
  | .clearReservation sessionID nodeID reservationID =>
    g.Owns sessionID nodeID reservationID ∧ g.inflight = none
  | .clearRoute sessionID nodeID => ∃ reservationID, g.Owns sessionID nodeID reservationID ∧
      (g.kind = .delete ∨ g.lost ∨ g.notFound ∧ reservationID = 0)
  | .registerPending _ _ _ => g.inflight = none
  | .await session _ => g.inflight = some session.nodeID
  | .enqueueCommand session _ =>
    W session.nodeID ∧
    (trimSpace session.nodeID = session.nodeID → session.nodeID ∉ g.enqueued) ∧
    (g.enqueued ≠ [] → g.capacity ∧ g.removed) ∧
    g.enqueued.length < max 1 (g.listed.getD 0) ∧
    (g.sessionID ≠ "" → ∃ o, g.obtained = some o ∧ session.nodeID = o.nodeID)
  | _ => True

/-- What the shared state answers: connections are filed under their node id, and
    routes name a worker. -/
def Answered (W : String → Prop) : ServiceCallEvent → Prop
  | ⟨.getSession nodeID, some session, _⟩ =>
    session.nodeID = nodeID ∧ trimSpace nodeID ≠ "" ∧ W nodeID
  | ⟨.snapshot _ _, some route, _⟩ => trimSpace route.nodeID = route.nodeID ∧ route.nodeID ≠ ""
  | ⟨.claim _ _, some (nodeID, _), _⟩ => trimSpace nodeID = nodeID ∧ nodeID ≠ ""
  | ⟨.reserve sessionID preferredNodeID _, (nodeID, _), _⟩ =>
    trimSpace nodeID = nodeID ∧
      (trimSpace sessionID ≠ "" → trimSpace preferredNodeID ≠ "" → nodeID ≠ "")
  | _ => True

end CallState

/-- The protocol of the calls, among workers whose ids are as `W` says. -/
def callProtocol (lib : GoLib) (W : String → Prop) :
    Protocol ServiceOp ServiceOp.Res (List (String × Nat)) CallState where
  allowed := CallState.Allowed W
  answers _ e := CallState.Answered W e
  next := CallState.next lib

/-- The session a dispatch is about. -/
def dispatchSessionID (lib : GoLib) (capability payloadJSON : String) : String :=
  lib.terminalSessionIDFromPayload (normalizeCapability lib.caseMap capability)
    (if payloadJSON = "" then "\x7b\x7d" else payloadJSON)

/-- How a call starts. -/
def ServiceCall.start (lib : GoLib) : ServiceCall → CallState
  | .task capability payloadJSON _ _ =>
    { kind := .dispatch, sessionID := dispatchSessionID lib capability payloadJSON }
  | .echo _ => { kind := .dispatch, sessionID := "" }
  | .sysTask _ _ _ _ => { kind := .dispatch, sessionID := "" }
  | .renew ownerID sessionID _ =>
    { kind := .renew, sessionID := scopeTerminalSessionID ownerID sessionID }
  | .delete ownerID sessionID _ =>
    { kind := .delete, sessionID := scopeTerminalSessionID ownerID sessionID }

end Onlyboxes.Console
