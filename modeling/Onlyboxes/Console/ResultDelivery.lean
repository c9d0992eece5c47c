import Onlyboxes.Console.Dispatch

/-!
# Delivery of command results

`Dispatch` leaves open what the final `select` of a dispatch takes. Here it is what was
sent on the result channel of the command: the outcome of a result the worker sent, the
error the connection was closed with, or nothing if the command was unregistered. The
channel belongs to the call that registered the command; the pending map decides who may
still send on it.
-/

namespace Onlyboxes.Console

open Text

/-- The console with the result channels of its calls. -/
structure DeliveryState where
  pool : ConsolePool
  /-- The call whose `pendingCommand` is or was in the pending map of a connection, by
      connection and command id. -/
  owners : GoMap (Nat × String) Nat := ∅
  /-- The channel of the command that a call registered last. -/
  channels : GoMap Nat ResultChannel := ∅

/-- What happens to the console and to the result channels. -/
inductive DeliveryAction where
  /-- A step of the console that resolves no command. -/
  | console (action : ConsoleAction)
  /-- `resolvePending`. -/
  | result (session : SessionRef) (result : CommandResult)
  /-- The rest of `close`: all pending commands are taken at once, and fail. Their slots are
      given back in the same step: no command is registered on a closed connection. -/
  | closeSwap (session : SessionRef)

namespace DeliveryState

variable (lib : GoLib)

/-- The channel a call waits on. -/
def channel (s : DeliveryState) (i : Nat) : ResultChannel := (s.channels.lookup i).getD {}

/-- `closeResult` of a pending command. -/
def deliver (s : DeliveryState) (connection : Nat) (commandID : String)
    (outcome : Option CommandOutcome) : DeliveryState :=
  match s.owners.lookup (connection, commandID) with
  | none => s
  | some i => { s with channels := s.channels.insert i ((s.channel i).closeResult outcome) }

/-- The pending command under an id, if it is still in the map. -/
def isPending (s : DeliveryState) (session : SessionRef) (commandID : String) : Bool :=
  match s.pool.shared.connections.lookup session.id with
  | none => false
  | some c => (c.pending.lookup (trimSpace commandID)).isSome

/-- The operation of a call finds its channel as the answer says. -/
def answers (s : DeliveryState) (i : Nat) (ans : Answer) : Bool :=
  match s.pool.nextOp i, ans with
  | some (.await ..), .awaited (.outcome outcome) => (s.channel i).sent = [outcome]
  | some (.await ..), .awaited .closed => (s.channel i).sent = [] && (s.channel i).closeOnce
  | _, _ => true

/-- What the operation of a call does to the channels: `registerPending` makes one, and
    `unregisterPending` closes the one it takes. -/
def observes (s : DeliveryState) (i : Nat) : DeliveryState :=
  match s.pool.nextOp i with
  | some (.registerPending session commandID capability) =>
    match s.pool.shared.connections.lookup session.id with
    | none => s
    | some c =>
      match c.registerPending lib.caseMap commandID capability with
      | .error _ => s
      | .ok _ => { s with
          owners := s.owners.insert (session.id, trimSpace commandID) i
          channels := s.channels.insert i {} }
  | some (.takePending session commandID) =>
    if s.isPending session commandID then s.deliver session.id (trimSpace commandID) none else s
  | _ => s

/-- One step. -/
def step (s : DeliveryState) : DeliveryAction → Option DeliveryState
  | .console (.env (.resolve ..)) => none
  | .console (.run i ans) =>
    if s.answers i ans then
      ((consoleSystem lib).machine.step s.pool (.run i ans)).map fun p =>
        { s.observes lib i with pool := p }
    else none
  | .console action => ((consoleSystem lib).machine.step s.pool action).map fun p =>
      { s with pool := p }
  | .result session result =>
    ((consoleSystem lib).machine.step s.pool (.env (.resolve session result.commandID))).map fun p =>
      { (if s.isPending session result.commandID then
          s.deliver session.id (trimSpace result.commandID) (some result.outcome) else s) with
        pool := p }
  | .closeSwap session =>
    match s.pool.shared.connections.lookup session.id with
    | none => none
    | some c =>
      if c.done then
        ((consoleSystem lib).machine.run s.pool
          (c.pending.keys.map fun commandID => .env (.resolve session commandID))).map fun p =>
          { c.pending.keys.foldl (fun s commandID =>
              s.deliver session.id commandID
                (some { err := some (.closed c.sessionError) })) s with
            pool := p }
      else none

end DeliveryState

end Onlyboxes.Console
