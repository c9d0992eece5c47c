import Onlyboxes.E2B.Terminal

/-!
# What a call of the E2B manager has done so far

The phase of a call as far as its own operations tell: the session it claimed and whether
it still has its slot, the sandbox it created and did not yet put into its session, the
sandboxes and places it still has to give back, and how far it is with the timeout of a
sandbox. `managerProtocol` says what the code of the calls does in which phase.

## Key results

- `meets_awaitSessionReady`, `meets_syncSandboxTimeout`: a call that goes on has its slot,
  its session is ready and it has no lock
- `meets_body`: all calls keep to the protocol, and give everything back
-/

namespace Onlyboxes.E2B

open Text Worker
open Docker (RecoveryCandidate RecoveryStatus TerminalResourceRunResult ResourceAction)

/-- The sandboxes of retired sessions. -/
def retiredKills (retired : List Retired) : List String := retired.filterMap (·.sandbox)

/-- The places of retired sessions. -/
def retiredFrees (retired : List Retired) : Nat := retired.countP (·.capacityReserved)

/-- The timeout of a sandbox that is to be set. -/
structure Extension where
  session : Nat
  leaseExpires : Int
  targetExpires : Int
  sandbox : String
  /-- `SetTimeout` succeeded. -/
  set : Bool := false
  deriving DecidableEq, Repr

/-- The phase of a call. -/
structure Phase where
  /-- It is a call of `Recover`. -/
  recovering : Bool := false
  /-- The session it claimed. -/
  claim : Option Claim := none
  /-- It has a slot of that session. -/
  holds : Bool := false
  /-- The sandboxes of retired sessions that it has to kill. -/
  kills : List String := []
  /-- The number of places of retired sessions that it has to give back. -/
  frees : Nat := 0
  /-- It has to make its session ready. -/
  creating : Bool := false
  /-- The sandbox that it created for its session, and until when it lives at least. -/
  hand : Option (String × Int) := none
  /-- The session whose `leaseSyncMu` it has. -/
  locked : Option Nat := none
  extension : Option Extension := none
  /-- The sandbox that it connected to, and until when it lives at least. -/
  adopting : Option (String × Int) := none
  /-- The time it read last. -/
  read : Option Int := none
  /-- It is a call of `Execute` or `ResolveResource`. -/
  command : Bool := false

abbrev CallEvent := Event ManagerOp ManagerOp.Res Unit

namespace Phase

variable (lib : E2BLib) (cfg : ManagerSettings)

/-- It has retired these sessions. -/
def retire (g : Phase) (retired : List Retired) : Phase :=
  { g with kills := retiredKills retired, frees := retiredFrees retired }

/-- It got a slot of a session. -/
def take (g : Phase) (claim : Claim) : Phase :=
  { g with claim := some claim, holds := true, creating := claim.created }

/-- Until when a sandbox lives at least whose timeout it sets: it has read the time before. -/
def promise (g : Phase) (timeoutSec : Int) : Int := g.read.getD 0 + timeoutSec * 1000

/-- How an event changes the phase. -/
def next (g : Phase) : CallEvent → Phase
  | ⟨.timeNow, now, _⟩ => { g with read := some now }
  | ⟨.claimSession .., (.ok claim, retired), _⟩ => (g.take claim).retire retired.toList
  | ⟨.claimSession .., (.error _, retired), _⟩ => g.retire retired.toList
  | ⟨.claimRenewal .., .ok claim, _⟩ => g.take claim
  | ⟨.createSandbox _ timeoutSec _, .ok sandbox, _⟩ =>
    { g with hand := some (sandbox, g.promise timeoutSec) }
  | ⟨.publishSandbox .., _, _⟩ => { g with creating := false, hand := none }
  | ⟨.lockLeaseSync session, _, _⟩ => { g with locked := some session }
  | ⟨.unlockLeaseSync _, _, _⟩ => { g with locked := none, extension := none }
  | ⟨.planSync session _, .extend leaseExpires targetExpires (some sandbox), _⟩ =>
    { g with extension := some { session, leaseExpires, targetExpires, sandbox } }
  | ⟨.setTimeout .., none, _⟩ => { g with extension := g.extension.map ({ · with set := true }) }
  | ⟨.recordSync .., _, _⟩ => { g with extension := none }
  | ⟨.kill _, _, _⟩ => { g with kills := g.kills.tail }
  | ⟨.releaseReservation, _, _⟩ => { g with frees := g.frees - 1 }
  | ⟨.releaseSession _, answer, _⟩ =>
    { g with holds := false }.retire (answer.bind Prod.snd).toList
  | ⟨.releaseAndDestroySession _, retired, _⟩ => { g with holds := false }.retire retired.toList
  | ⟨.takeExpired _, expired, _⟩ => g.retire expired
  | ⟨.connectSandbox _ timeoutSec, .ok sandbox, _⟩ =>
    { g with adopting := if trimSpace sandbox = "" then none else some (sandbox, g.promise timeoutSec) }
  | ⟨.recoverInsert .., _, _⟩ => { g with adopting := none }
  | _ => g

/-- It has a slot of the session it claimed. -/
def Holds (g : Phase) (claim : Claim) : Prop := g.claim = some claim ∧ g.holds = true

/-- It has nothing to clean up. -/
def Clean (g : Phase) : Prop := g.kills = [] ∧ g.frees = 0

/-- It has neither a sandbox in its hands nor a lock. -/
structure Idle (g : Phase) : Prop where
  creating : g.creating = false
  hand : g.hand = none
  locked : g.locked = none
  extension : g.extension = none

/-- It has no session and nothing to clean up. -/
structure Free (g : Phase) : Prop where
  claim : g.claim = none
  holds : g.holds = false
  clean : g.Clean
  idle : g.Idle
  adopting : g.adopting = none

/-- It has a slot of a session that is ready, as far as it has to care. -/
structure Ready (claim : Claim) (g : Phase) : Prop where
  holds : g.Holds claim
  clean : g.Clean
  idle : g.Idle
  adopting : g.adopting = none

/-- It holds the session. -/
def HoldsSession (g : Phase) (session : Nat) : Prop := ∃ claim, g.Holds claim ∧ claim.session = session

/-- What the call publishes is what it created. -/
def Publishes (g : Phase) (created : Except BackendError String) (leaseExpiresAt : Int) : Prop :=
  match created with
  | .error _ => g.hand = none
  | .ok sandbox => ∃ now, g.hand = some (sandbox, now + secondsUntil leaseExpiresAt now * 1000)

/-- Which operations a call performs. -/
def Allowed (g : Phase) : ManagerOp → Prop
  | .claimSession .. => g.Free ∧ g.recovering = false
  | .claimRenewal .. => g.Free ∧ g.recovering = false ∧ g.command = false
  | .takeExpired _ => g.Free ∧ g.recovering = false
  | .createSandbox session timeoutSec _ =>
    g.HoldsSession session ∧ g.creating = true ∧ g.hand = none ∧ g.locked = none ∧
      g.extension = none ∧ ∃ now lease, g.read = some now ∧ timeoutSec = secondsUntil lease now
  | .publishSandbox session created leaseExpiresAt =>
    g.HoldsSession session ∧ g.creating = true ∧ g.locked = none ∧ g.extension = none ∧
      g.Publishes created leaseExpiresAt
  | .lockLeaseSync session => g.HoldsSession session ∧ g.Idle
  | .unlockLeaseSync session => g.locked = some session
  | .planSync session _ => g.HoldsSession session ∧ g.locked = some session ∧ g.extension = none
  | .setTimeout sandbox timeoutSec =>
    ∃ e now, g.extension = some e ∧ e.set = false ∧ e.sandbox = sandbox ∧ g.read = some now ∧
      timeoutSec = secondsUntil e.targetExpires now
  | .recordSync session leaseExpires targetExpires =>
    ∃ e, g.extension = some e ∧ e.set = true ∧ e.session = session ∧
      e.leaseExpires = leaseExpires ∧ e.targetExpires = targetExpires
  | .kill sandbox => ∃ rest, g.kills = sandbox :: rest
  | .releaseReservation => 0 < g.frees
  | .releaseSession sessionID => ∃ claim, g.Ready claim ∧ claim.sessionID = sessionID
  | .releaseAndDestroySession sessionID => ∃ claim, g.Ready claim ∧ claim.sessionID = sessionID
  | .recoverExisting .. => g.Free ∧ g.recovering = true
  | .killListed _ => g.recovering = true
  | .connectSandbox _ timeoutSec =>
    g.Free ∧ g.recovering = true ∧ ∃ now lease, g.read = some now ∧ timeoutSec = secondsUntil lease now
  | .recoverInsert _ sandbox leaseExpiresAt =>
    g.recovering = true ∧ g.claim = none ∧ g.holds = false ∧ g.Clean ∧ g.Idle ∧
      ∃ now, g.adopting = some (sandbox, now + secondsUntil leaseExpiresAt now * 1000)
  | _ => True

/-- What the shared state answers. -/
def Answered : CallEvent → Prop
  | ⟨.claimSession sessionID _ createIfMissing, (.ok claim, _), _⟩ =>
    sessionID ≠ "" → claim.sessionID = sessionID ∧ (createIfMissing = false → claim.created = false)
  | ⟨.claimRenewal .., .ok claim, _⟩ => claim.created = false
  | _ => True

/-- A call that is over has given everything back. -/
structure Finished (g : Phase) : Prop where
  holds : g.holds = false
  clean : g.Clean
  idle : g.Idle

end Phase

/-- The protocol of the calls. -/
def managerProtocol : Protocol ManagerOp ManagerOp.Res Unit Phase where
  allowed := Phase.Allowed
  answers _ e := Phase.Answered e
  next := Phase.next

/-- From `g`, the program keeps to the protocol and ends as `Q` says. -/
abbrev ManagerMeets {α : Type} (g : Phase) (p : Manager α) (Q : α → Phase → Prop) : Prop :=
  Prog.Meets managerProtocol g p Q

/-- How a call starts. -/
def ManagerCall.start : ManagerCall → Phase
  | .execute .. | .resolveResource .. => { command := true }
  | .recover _ => { recovering := true }
  | _ => {}

variable {lib : E2BLib} {cfg : ManagerSettings} {g : Phase}

/-! ## Cleaning up -/

section CleaningUp

variable {Q : Unit → Phase → Prop}

theorem Phase.retire_clean (hclean : g.Clean) : g.retire [] = g := by
  obtain ⟨recovering, claim, holds, kills, frees⟩ := g
  obtain ⟨rfl, rfl⟩ : kills = [] ∧ frees = 0 := hclean
  rfl

theorem meets_cleanupRetiredSession {r : Retired} {rest : List Retired}
    (hkills : g.kills = retiredKills (r :: rest)) (hfrees : g.frees = retiredFrees (r :: rest))
    (hQ : Q () (g.retire rest)) : ManagerMeets g (cleanupRetiredSession r) Q := by
  obtain ⟨recovering, claim, holds, kills, frees⟩ := g
  obtain ⟨sandbox, capacityReserved⟩ := r
  obtain rfl : kills = _ := hkills
  -- The place is given back after the sandbox was killed.
  have hfree : ∀ g' : Phase, g'.frees = frees → Q () (g'.retire rest) →
      { g' with frees := retiredFrees rest } = g'.retire rest →
      ManagerMeets g' (if capacityReserved then perform .releaseReservation else pure ()) Q := by
    rintro ⟨recovering', claim', holds', kills', frees'⟩ rfl hQ' hsame
    obtain rfl : frees' = _ := hfrees
    rw [← hsame] at hQ'
    cases capacityReserved with
    | true =>
      rw [retiredFrees, List.countP_cons_of_pos rfl]
      exact .last (Nat.succ_pos _) fun _ _ _ => hQ'
    | false =>
      rw [retiredFrees, List.countP_cons_of_neg Bool.false_ne_true]
      exact .pure hQ'
  cases sandbox with
  | none => exact .bind (.pure (hfree _ rfl hQ rfl))
  | some sandbox =>
    exact .bind (.last ⟨_, rfl⟩ fun _ _ _ => hfree _ rfl hQ rfl)

theorem meets_cleanupRetired {retired : Option Retired} (hclean : g.Clean) (hQ : Q () g) :
    ManagerMeets (g.retire retired.toList) (cleanupRetired retired) Q := by
  rw [← Phase.retire_clean hclean] at hQ
  cases retired with
  | none => exact .pure hQ
  | some r => exact meets_cleanupRetiredSession rfl rfl hQ

theorem meets_cleanupRetiredSessions {retired : List Retired} (hclean : g.Clean) (hQ : Q () g) :
    ManagerMeets (g.retire retired) (cleanupRetiredSessions retired) Q := by
  rw [← Phase.retire_clean hclean] at hQ
  induction retired with
  | nil => exact .pure hQ
  | cons r rest ih => exact .bind (meets_cleanupRetiredSession rfl rfl ih)

end CleaningUp

variable {claim : Claim}

/-- A call that gave back its slot. -/
theorem Phase.Ready.finished (h : g.Ready claim) :
    Phase.Finished { g with holds := false } :=
  ⟨rfl, h.clean, ⟨h.idle.creating, h.idle.hand, h.idle.locked, h.idle.extension⟩⟩

theorem Phase.Free.finished (h : g.Free) : g.Finished := ⟨h.holds, h.clean, h.idle⟩

/-- A call that only reads the clock stays free. -/
theorem Phase.Free.read (h : g.Free) (now : Int) : Phase.Free { g with read := some now } :=
  ⟨h.claim, h.holds, h.clean, ⟨h.idle.creating, h.idle.hand, h.idle.locked, h.idle.extension⟩, h.adopting⟩

variable {sessionID : String}

/-- Giving back the slot, and cleaning up if it was the last one. -/
theorem meets_releaseSession (h : g.Ready claim) (hid : claim.sessionID = sessionID) :
    ManagerMeets g (releaseSession sessionID) fun _ g' => g'.Finished := by
  refine .call ⟨claim, h, hid⟩ fun answer _ _ => ?_
  have hclean : Phase.Clean { g with holds := false } := h.clean
  match answer with
  | none =>
    have hfinished := h.finished
    rw [← Phase.retire_clean hclean] at hfinished
    exact .pure hfinished
  | some (lease, retired) =>
    exact .bind (meets_cleanupRetired hclean (.pure h.finished))

/-- Giving back the slot of a session that is destroyed. -/
theorem meets_releaseAndDestroySession (h : g.Ready claim) (hid : claim.sessionID = sessionID) :
    ManagerMeets g (releaseAndDestroySession sessionID) fun _ g' => g'.Finished := by
  have hclean : Phase.Clean { g with holds := false } := h.clean
  exact .call ⟨claim, h, hid⟩ fun retired _ _ => meets_cleanupRetired hclean h.finished

theorem meets_releaseFailed {err reported : SessionError} (h : g.Ready claim)
    (hid : claim.sessionID = sessionID) :
    ManagerMeets g (releaseFailed sessionID err reported) fun _ g' => g'.Finished := by
  have hdestroy : ∀ err' : SessionError, ManagerMeets g (do
      releaseAndDestroySession sessionID
      return err') fun _ g' => g'.Finished := fun _ =>
    .seq (meets_releaseAndDestroySession h hid) fun _ _ hdone => .pure hdone
  unfold releaseFailed
  split
  · exact hdestroy err
  · split
    · exact hdestroy .sessionNotFound
    · exact .seq (meets_releaseSession h hid) fun _ _ hdone => .pure hdone

/-! ## Getting a session -/

/-- What `claimSession` leaves behind. -/
def Phase.Claimed (sessionID : String) (createIfMissing : Bool) (result : Except SessionError Claim)
    (g : Phase) : Prop :=
  match result with
  | .error _ => g.Finished
  | .ok claim => g.Holds claim ∧ g.Clean ∧ g.creating = claim.created ∧ g.hand = none ∧
      g.locked = none ∧ g.extension = none ∧ g.adopting = none ∧
      (sessionID ≠ "" → claim.sessionID = sessionID ∧ (createIfMissing = false → claim.created = false))

variable {createIfMissing : Bool}

theorem meets_claimSession {leaseTarget : Int} (h : g.Free) (hnot : g.recovering = false) :
    ManagerMeets g (claimSession sessionID leaseTarget createIfMissing)
      (Phase.Claimed sessionID createIfMissing) := by
  refine .call ⟨h, hnot⟩ fun answer _ hanswer => ?_
  match answer with
  | (.error err, retired) =>
    exact .bind (meets_cleanupRetired h.clean (.pure h.finished))
  | (.ok claim, retired) =>
    have hclean : Phase.Clean (g.take claim) := h.clean
    refine .bind (meets_cleanupRetired hclean (.pure ?_))
    exact ⟨⟨rfl, rfl⟩, h.clean, rfl, h.idle.hand, h.idle.locked, h.idle.extension, h.adopting, hanswer⟩

/-- What `awaitSessionReady` leaves behind. -/
def Phase.Awaited (claim : Claim) (err : Option SessionError) (g : Phase) : Prop :=
  match err with
  | none => g.Ready claim
  | some _ => g.Finished

theorem meets_createSession (hholds : g.Holds claim) (hclean : g.Clean)
    (hcreating : g.creating = true) (hhand : g.hand = none) (hlocked : g.locked = none)
    (hextension : g.extension = none) (hadopting : g.adopting = none) :
    ManagerMeets g (createSession lib cfg claim) (Phase.Awaited claim) := by
  have hsession : g.HoldsSession claim.session := ⟨claim, hholds, rfl⟩
  refine .call trivial fun lease _ _ => .call trivial fun now _ _ => ?_
  refine .call ⟨hsession, hcreating, hhand, hlocked, hextension, now, lease, rfl, rfl⟩
    fun created _ _ => ?_
  cases created with
  | error err =>
    refine .call ⟨hsession, hcreating, hlocked, hextension, hhand⟩ fun _ _ _ => ?_
    refine .call trivial fun _ _ _ => .bind ?_
    have hready : Phase.Ready claim { g with read := some now, creating := false, hand := none } :=
      ⟨hholds, hclean, ⟨rfl, rfl, hlocked, hextension⟩, hadopting⟩
    exact (meets_releaseAndDestroySession hready rfl).mono fun _ _ hdone => .pure hdone
  | ok sandbox =>
    refine .call ⟨hsession, hcreating, hlocked, hextension, now, rfl⟩ fun _ _ _ => ?_
    refine .call trivial fun _ _ _ => .pure ?_
    exact ⟨hholds, hclean, ⟨rfl, rfl, hlocked, hextension⟩, hadopting⟩

theorem meets_joinSession (h : g.Ready claim) :
    ManagerMeets g (joinSession claim) (Phase.Awaited claim) := by
  refine .call trivial fun answer _ _ => ?_
  cases answer with
  | some err =>
    exact .seq (meets_releaseSession h rfl) fun _ _ hdone => .pure hdone
  | none =>
    refine .call trivial fun initErr _ _ => ?_
    cases initErr with
    | some err =>
      exact .seq (meets_releaseSession h rfl) fun _ _ hdone => .pure hdone
    | none => exact .pure h

/-- A call that did not have to create its session. -/
theorem Phase.Claimed.ready (h : Phase.Claimed sessionID createIfMissing (.ok claim) g)
    (hcreated : claim.created = false) :
    g.Ready claim := by
  obtain ⟨hholds, hclean, hcreating, hhand, hlocked, hextension, hadopting, -⟩ := h
  exact ⟨hholds, hclean, ⟨hcreating.trans hcreated, hhand, hlocked, hextension⟩, hadopting⟩

theorem meets_awaitSessionReady (h : Phase.Claimed sessionID createIfMissing (.ok claim) g) :
    ManagerMeets g (awaitSessionReady lib cfg claim) (Phase.Awaited claim) := by
  unfold awaitSessionReady
  split
  · rename_i hcreated
    obtain ⟨hholds, hclean, hcreating, hhand, hlocked, hextension, hadopting, -⟩ := h
    exact meets_createSession hholds hclean (hcreating.trans hcreated) hhand hlocked hextension hadopting
  · rename_i hjoined
    exact meets_joinSession (h.ready (eq_false_of_ne_true hjoined))

/-- A call that has the lock of its session. -/
structure Phase.Syncs (claim : Claim) (g : Phase) : Prop where
  holds : g.Holds claim
  clean : g.Clean
  creating : g.creating = false
  hand : g.hand = none
  locked : g.locked = some claim.session
  adopting : g.adopting = none

variable {deadline : Option Int}

theorem meets_syncLocked (h : g.Syncs claim) (hextension : g.extension = none) :
    ManagerMeets g (syncLocked claim.session deadline) fun _ g' => g'.Syncs claim := by
  refine .call ⟨⟨claim, h.holds, rfl⟩, h.locked, hextension⟩ fun plan _ _ => ?_
  match plan with
  | .done | .extend _ _ none => exact .pure h
  | .extend leaseExpires targetExpires (some sandbox) =>
    refine .call trivial fun now _ _ => ?_
    refine .call ⟨_, now, rfl, rfl, rfl, rfl, rfl⟩ fun err _ _ => ?_
    cases err with
    | some err => exact .pure ⟨h.holds, h.clean, h.creating, h.hand, h.locked, h.adopting⟩
    | none =>
      refine .call ⟨_, rfl, rfl, rfl, rfl, rfl⟩ fun _ _ _ => .pure ?_
      exact ⟨h.holds, h.clean, h.creating, h.hand, h.locked, h.adopting⟩

theorem meets_syncSandboxTimeout (h : g.Ready claim) :
    ManagerMeets g (syncSandboxTimeout claim.session deadline) fun _ g' => g'.Ready claim := by
  refine .call ⟨⟨claim, h.holds, rfl⟩, h.idle⟩ fun _ _ _ => .bind ?_
  have hsyncs : Phase.Syncs claim { g with locked := some claim.session } :=
    ⟨h.holds, h.clean, h.idle.creating, h.idle.hand, rfl, h.adopting⟩
  refine (meets_syncLocked hsyncs h.idle.extension).mono fun err g' h' => ?_
  refine .call h'.locked fun _ _ _ => .pure ?_
  exact ⟨h'.holds, h'.clean, ⟨h'.creating, h'.hand, rfl, rfl⟩, h'.adopting⟩

/-! ## Execute and RenewLease -/

theorem meets_runInSession {command : String} (h : g.Ready claim) :
    ManagerMeets g (runInSession cfg claim command) fun _ g' => g'.Finished := by
  refine .call trivial fun sandbox _ _ => .call trivial fun result _ _ => ?_
  cases result with
  | error err =>
    exact .seq (meets_releaseFailed h rfl) fun _ _ hdone => .pure hdone
  | ok result =>
    refine .seq (meets_releaseSession h rfl) fun lease _ hdone => ?_
    cases lease <;> exact .pure hdone

theorem meets_execInSession {command : String}
    (h : Phase.Claimed sessionID createIfMissing (.ok claim) g) :
    ManagerMeets g (execInSession lib cfg claim command deadline) fun _ g' => g'.Finished := by
  refine .seq (meets_awaitSessionReady h) fun err g' h' => ?_
  cases err with
  | some err => exact .pure h'
  | none =>
    refine .seq (meets_syncSandboxTimeout h') fun err g'' h'' => ?_
    cases err with
    | some err =>
      exact .seq (meets_releaseFailed h'' rfl) fun _ _ hdone => .pure hdone
    | none => exact meets_runInSession h''

theorem meets_execute {req : Docker.TerminalExecRequest} (h : g.Free) (hnot : g.recovering = false) :
    ManagerMeets g (execute lib cfg req deadline) fun _ g' => g'.Finished := by
  unfold execute
  split
  · exact .pure h.finished
  · cases resolveLeaseDuration lib cfg req.leaseTTLSec with
    | error err => exact .pure h.finished
    | ok leaseDuration =>
      refine .call trivial fun now _ _ => ?_
      refine .seq (meets_claimSession (h.read now) hnot) fun result g' h' => ?_
      cases result with
      | error err => exact .pure h'
      | ok claim => exact meets_execInSession h'

theorem meets_renewInSession (h : g.Ready claim) :
    ManagerMeets g (renewInSession claim deadline) fun _ g' => g'.Finished := by
  refine .seq (meets_syncSandboxTimeout h) fun err g' h' => ?_
  cases err with
  | some err =>
    dsimp only
    split
    · exact .seq (meets_releaseAndDestroySession h' rfl) fun _ _ hdone =>
        .pure hdone
    · exact .seq (meets_releaseSession h' rfl) fun _ _ hdone => .pure hdone
  | none =>
    refine .seq (meets_releaseSession h' rfl) fun lease _ hdone => ?_
    cases lease <;> exact .pure hdone

theorem meets_renewLease {leaseTTLSec : Int} (h : g.Free)
    (hnot : g.recovering = false ∧ g.command = false) :
    ManagerMeets g (renewLease lib cfg sessionID leaseTTLSec deadline) fun _ g' => g'.Finished := by
  unfold renewLease
  split
  · exact .pure h.finished
  · cases resolveLeaseDuration lib cfg (some leaseTTLSec) with
    | error err => exact .pure h.finished
    | ok leaseDuration =>
      refine .call trivial fun now _ _ => ?_
      refine .call ⟨h.read now, hnot⟩ fun result _ hans => ?_
      cases result with
      | error err => exact .pure (h.read now).finished
      | ok claim =>
        refine meets_renewInSession ⟨⟨rfl, rfl⟩, h.clean, ?_, h.adopting⟩
        exact ⟨hans, h.idle.hand, h.idle.locked, h.idle.extension⟩

/-! ## Resources -/

variable {headers : List (String × String)} {filePath : String} {sandbox : Option String}

/-- What a program that only looks at the sandbox leaves alone. -/
theorem meets_exportResource {signedURL : String} (h : g.Ready claim) :
    ManagerMeets g (exportResource lib cfg sandbox filePath signedURL headers)
      fun _ g' => g'.Ready claim := by
  unfold exportResource
  split
  · refine .call trivial fun output _ _ => ?_
    cases output with
    | error err => exact .pure h
    | ok output =>
      dsimp only
      split
      · split <;> exact .pure h
      · exact .pure h
  · refine .call trivial fun opened _ _ => ?_
    match opened with
    | .error .fileNotFound | .error (.context _) | .error .sandboxNotFound
    | .error .fileTooLarge | .error (.other _) => exact .pure h
    | .ok size =>
      dsimp only
      split
      · exact .pure h
      · exact .call trivial fun outcome _ _ => .pure h

variable {action : ResourceAction} {signedURL : String}

theorem meets_actOnResource {result : TerminalResourceRunResult} (h : g.Ready claim) :
    ManagerMeets g (actOnResource lib cfg sandbox result action signedURL headers)
      fun _ g' => g'.Ready claim := by
  cases action with
  | validate => exact .pure h
  | read => exact .call trivial fun file _ _ => .pure h
  | «export» =>
    unfold actOnResource
    dsimp only
    split
    · exact .pure h
    · refine .seq (meets_exportResource h) fun err _ h' => ?_
      cases err <;> exact .pure h'

theorem meets_resolveInSession (h : g.Ready claim) :
    ManagerMeets g (resolveInSession lib cfg claim filePath action signedURL headers)
      fun _ g' => g'.Ready claim := by
  refine .call trivial fun sandbox _ _ => .call trivial fun output _ _ => ?_
  cases output with
  | error err => exact .pure h
  | ok output =>
    dsimp only
    cases readProbe lib output with
    | error err => exact .pure h
    | ok probe => exact meets_actOnResource h

theorem meets_settleResource {result : Except SessionError TerminalResourceRunResult}
    (h : g.Ready claim) (hid : claim.sessionID = sessionID) :
    ManagerMeets g (settleResource sessionID result) fun _ g' => g'.Finished := by
  cases result with
  | error err =>
    exact .seq (meets_releaseFailed h hid) fun _ _ hdone => .pure hdone
  | ok result =>
    refine .seq (meets_releaseSession h hid) fun lease _ hdone => ?_
    cases lease <;> exact .pure hdone

section

variable (h : g.Free)

include h

theorem meets_resolveChecked {sessionID : String} (hnot : g.recovering = false)
    (hsessionID : sessionID ≠ "") :
    ManagerMeets g (resolveChecked lib cfg sessionID filePath action signedURL headers deadline)
      fun _ g' => g'.Finished := by
  refine .seq (meets_claimSession h hnot) fun result g' h' => ?_
  cases result with
  | error err => exact .pure h'
  | ok claim =>
    obtain ⟨hid, hcreated⟩ := h'.2.2.2.2.2.2.2 hsessionID
    refine .seq (meets_joinSession (h'.ready (hcreated rfl))) fun err g' h' => ?_
    cases err with
    | some err => exact .pure h'
    | none =>
      refine .seq (meets_syncSandboxTimeout h') fun err g' h' => ?_
      cases err with
      | some err =>
        exact .seq (meets_releaseFailed h' hid) fun _ _ hdone => .pure hdone
      | none =>
        exact .seq (meets_resolveInSession h') fun result _ h'' =>
          meets_settleResource h'' hid

theorem meets_resolveResource {req : Docker.TerminalResourceRequest} (hnot : g.recovering = false) :
    ManagerMeets g (resolveResource lib cfg req deadline) fun _ g' => g'.Finished := by
  unfold resolveResource
  split
  · exact .pure h.finished
  · rename_i hargs
    cases normalizeTerminalResourceAction lib req.action with
    | none => exact .pure h.finished
    | some action =>
      dsimp only
      split
      · exact .pure h.finished
      · exact meets_resolveChecked h hnot fun hempty => hargs (.inl hempty)

/-! ## Recovery and the rest -/

theorem meets_killListed {infos : List SandboxInfo} (hrec : g.recovering = true) :
    ManagerMeets g (killListed infos) fun _ g' => g'.Free ∧ g'.recovering = true := by
  induction infos with
  | nil => exact .pure ⟨h, hrec⟩
  | cons info infos ih =>
    unfold killListed
    dsimp only
    split
    · exact .call hrec fun _ _ _ => ih
    · exact .bind (.pure ih)

theorem meets_recoverSandbox {sessionID sandbox : String} {leaseExpiresAt : Int}
    (hrec : g.recovering = true) :
    ManagerMeets g (recoverSandbox sessionID sandbox leaseExpiresAt)
      fun _ g' => g'.Free ∧ g'.recovering = true := by
  refine .call trivial fun now _ _ => ?_
  have hidle' : ∀ adopting, Phase.Idle { g with read := some now, adopting := adopting } := fun _ =>
    ⟨h.idle.creating, h.idle.hand, h.idle.locked, h.idle.extension⟩
  refine .call ⟨h.read now, hrec, now, leaseExpiresAt, rfl, rfl⟩ fun result _ _ => ?_
  match result with
  | .error .sandboxNotFound | .error (.context _) | .error .fileNotFound | .error .fileTooLarge
  | .error (.other _) => exact .pure ⟨h.read now, hrec⟩
  | .ok connected =>
    change Prog.Meets managerProtocol (Phase.next { g with read := some now }
      ⟨.connectSandbox sandbox (secondsUntil leaseExpiresAt now), .ok connected, ()⟩)
      (if trimSpace connected = "" then pure RecoveryStatus.invalid
        else perform (.recoverInsert sessionID connected leaseExpiresAt)) _
    simp only [Phase.next]
    split
    · exact .pure ⟨⟨h.claim, h.holds, h.clean, hidle' _, rfl⟩, hrec⟩
    · refine .last ⟨hrec, h.claim, h.holds, h.clean, hidle' _, now, rfl⟩ fun _ _ _ => ?_
      exact ⟨⟨h.claim, h.holds, h.clean, hidle' _, rfl⟩, hrec⟩

theorem meets_recoverOne {leaseExpiresAt : Int} (hrec : g.recovering = true) :
    ManagerMeets g (recoverOne lib sessionID leaseExpiresAt)
      fun _ g' => g'.Free ∧ g'.recovering = true := by
  refine .call ⟨h, hrec⟩ fun existing _ _ => ?_
  cases existing with
  | true => exact .pure ⟨h, hrec⟩
  | false =>
    refine .call trivial fun infos _ _ => ?_
    match infos with
    | none | some [] => exact .pure ⟨h, hrec⟩
    | some (info :: infos) =>
      dsimp only
      split
      · exact .pure ⟨h, hrec⟩
      · exact meets_recoverSandbox h hrec
      · exact .seq (meets_killListed h hrec) fun _ _ hdone => .pure hdone

variable {candidates : List (Option RecoveryCandidate)}

theorem meets_recoverCandidates {now : Int} (hrec : g.recovering = true) :
    ManagerMeets g (recoverCandidates lib now candidates)
      fun _ g' => g'.Free ∧ g'.recovering = true := by
  induction candidates generalizing g with
  | nil => exact .pure ⟨h, hrec⟩
  | cons candidate candidates ih =>
    cases candidate with
    | none => exact ih h hrec
    | some candidate =>
      have hrest : ∀ (status : RecoveryStatus) g', g'.Free ∧ g'.recovering = true → ManagerMeets g' (do
          let results ← recoverCandidates lib now candidates
          return ⟨trimSpace candidate.sessionID, status⟩ :: results)
          fun _ g' => g'.Free ∧ g'.recovering = true := fun status g' h' =>
        .seq (ih h'.1 h'.2) fun _ _ hdone => .pure hdone
      unfold recoverCandidates
      dsimp only
      split
      · exact .seq (meets_recoverOne h hrec) hrest
      · exact hrest .invalid g ⟨h, hrec⟩

theorem meets_recover (hrec : g.recovering = true) :
    ManagerMeets g (recover lib cfg candidates) fun _ g' => g'.Finished := by
  unfold recover
  split
  · exact .pure h.finished
  · refine .call trivial fun now _ _ => ?_
    exact (meets_recoverCandidates (h.read now) hrec).mono fun _ _ hdone => hdone.1.finished

theorem meets_resolveProxy {port : Int} {now : Option Int} :
    ManagerMeets g (resolveProxy lib sessionID port now) fun _ g' => g'.Finished := by
  have hlookup : ∀ (now : Int) g', Phase.Finished g' →
      ManagerMeets g' (resolveProxyAt lib (trimSpace sessionID) port now) fun _ g' => g'.Finished := by
    intro now g' h'
    refine .call trivial fun sandbox _ _ => ?_
    cases sandbox <;> exact .pure h'
  unfold resolveProxy
  split
  · exact .pure h.finished
  · split
    · exact .pure h.finished
    · cases now with
      | some now => exact hlookup now g h.finished
      | none =>
        exact .call trivial fun now _ _ => hlookup now _ (h.read now).finished

theorem meets_cleanupExpiredSessions (hnot : g.recovering = false) :
    ManagerMeets g cleanupExpiredSessions fun _ g' => g'.Finished := by
  refine .call trivial fun now _ _ => ?_
  exact .call ⟨h.read now, hnot⟩ fun expired _ _ =>
    meets_cleanupRetiredSessions h.clean (h.read now).finished

end

/-- A call has nothing at its start. -/
theorem free_start (c : ManagerCall) : c.start.Free := by
  cases c <;> exact ⟨rfl, rfl, ⟨rfl, rfl⟩, ⟨rfl, rfl, rfl, rfl⟩, rfl⟩

/-- All calls keep to the protocol, and give everything back. -/
theorem meets_body (c : ManagerCall) :
    ManagerMeets c.start (c.body lib cfg) fun _ g' => g'.Finished := by
  have hfree := free_start c
  cases c with
  | execute req deadline =>
    exact .seq (meets_execute hfree rfl) fun _ _ hdone =>
      .last trivial fun _ _ _ => hdone
  | resolveResource req deadline =>
    exact .seq (meets_resolveResource hfree rfl) fun _ _ hdone =>
      .last trivial fun _ _ _ => hdone
  | renewLease sessionID leaseTTLSec deadline =>
    exact .seq (meets_renewLease hfree ⟨rfl, rfl⟩) fun _ _ hdone =>
      .last trivial fun _ _ _ => hdone
  | recover candidates =>
    exact .seq (meets_recover hfree rfl) fun _ _ hdone =>
      .last trivial fun _ _ _ => hdone
  | resolveProxy sessionID port now =>
    exact .seq (meets_resolveProxy hfree) fun _ _ hdone =>
      .last trivial fun _ _ _ => hdone
  | janitor => exact meets_cleanupExpiredSessions hfree rfl

end Onlyboxes.E2B
