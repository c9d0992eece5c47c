import Onlyboxes.Docker.Terminal

/-!
# What a call of the Docker manager has done so far

The phase of a call as far as its own operations tell: the session it claimed and whether
it still has its slot, the sessions it took out of the map and has to clean up, and what
the commands it ran answered. `managerProtocol` says what the code of the calls does in
which phase.

## Key results

- `meets_awaitSessionReady`: a call that goes on has its slot, one that does not has not
- `meets_execute`, `meets_resolveResource`: what is answered, by what was run
- `managerKeeps`: all calls keep to the protocol
-/

namespace Onlyboxes.Docker

open Text Worker

/-- The phase of a call. -/
structure Phase where
  /-- The session it claimed. -/
  claim : Option Claim := none
  /-- It has a slot of that session. -/
  holds : Bool := false
  /-- The sessions it took out of the map, whose capacity it has to give back. -/
  cleaning : List Retired := []
  /-- It has to remove the container of a session that left the map meanwhile. -/
  removing : Bool := false
  /-- What the commands it ran for its caller answered, the last one first. -/
  ran : List DockerCommandResult := []
  /-- What the command of the caller answered. -/
  exec : Option DockerCommandResult := none
  probe : Option DockerCommandResult := none
  copied : Option DockerCommandResult := none
  /-- What it was told when it gave back its slot. -/
  released : Option (Option Int) := none
  /-- It marked the session to be destroyed. -/
  destroyed : Bool := false

abbrev CallEvent := Event ManagerOp ManagerOp.Res Unit

namespace Phase

variable (lib : DockerLib) (cfg : ManagerSettings)

/-- A command of the caller was run. -/
def run (g : Phase) (result : DockerCommandResult) : Phase := { g with ran := result :: g.ran }

/-- How an event changes the phase. -/
def next (g : Phase) : CallEvent → Phase
  | ⟨.claimSession .., .ok claim, _⟩ => { g with claim := some claim, holds := true }
  | ⟨.dockerCreate .., result, _⟩ => g.run result
  | ⟨.dockerStart _, result, _⟩ => g.run result
  | ⟨.dockerInspectIP _, result, _⟩ => g.run result
  | ⟨.dockerExec .., result, _⟩ => { g.run result with exec := some result }
  | ⟨.dockerProbe .., result, _⟩ => { g.run result with probe := some result }
  | ⟨.dockerCopy .., result, _⟩ => { g.run result with copied := some result }
  | ⟨.dockerRemove .., _, _⟩ => { g with removing := false }
  | ⟨.sessionIsActive _, active, _⟩ =>
    { g with holds := g.holds && (active || g.claim.any (·.created)) }
  | ⟨.detachCreated session, owned, _⟩ =>
    { g with
      holds := false
      cleaning := if owned then (g.claim.map fun claim => ⟨session, claim.containerName⟩).toList else []
      removing := !owned }
  | ⟨.releaseSession _, answer, _⟩ =>
    { g with
      holds := false
      released := some (answer.map Prod.fst)
      cleaning := (answer.bind Prod.snd).toList }
  | ⟨.releaseAndDestroySession _, retired, _⟩ =>
    { g with holds := false, destroyed := true, cleaning := retired.toList }
  | ⟨.takeExpired _, expired, _⟩ => { g with cleaning := expired }
  | ⟨.expireSessionLease .., retired, _⟩ => { g with cleaning := retired.toList }
  | ⟨.resolveProxyTarget .., .expired retired, _⟩ => { g with cleaning := [retired] }
  | ⟨.releaseCapacityReservation _, _, _⟩ => { g with cleaning := g.cleaning.tail }
  | _ => g

/-- It has a slot of the session it claimed. -/
def Holds (g : Phase) (claim : Claim) : Prop := g.claim = some claim ∧ g.holds = true

/-- It has to clean up this session next. -/
def Cleans (g : Phase) (session : Nat) : Prop := ∃ r rest, g.cleaning = r :: rest ∧ r.session = session

/-- It has nothing to clean up. -/
def Clean (g : Phase) : Prop := g.cleaning = [] ∧ g.removing = false

/-- All commands it ran succeeded. -/
def AllSucceeded (g : Phase) : Prop := ∀ result ∈ g.ran, ManagerState.succeeded result = true

/-- The result is an error of the context. -/
def isContext {α : Type} : Except ManagerError α → Bool
  | .error err => err.contextError.isSome
  | .ok _ => false

/-- What is said about the end of the context: it is reported if a command reports it, and
    not if one exits with another code than 0. -/
def Tells (g : Phase) (context : Bool) : Prop :=
  ∀ r ∈ g.ran, (∀ err, r.err = some (.context err) → context = true) ∧
    (r.err = none → r.exitCode ≠ 0 → context = false)

/-- The same for the answer to the caller: the session is to be destroyed then. -/
def Reports (g : Phase) (context : Bool) : Prop :=
  g.Tells context ∧ ∀ r ∈ g.ran, ∀ err, r.err = some (.context err) → g.destroyed = true

/-- The result of a command that ran to its end. -/
def execRunResult (claim : Claim) (execResult : DockerCommandResult) (leaseExpiresAt : Int) :
    TerminalExecRunResult where
  sessionID := claim.sessionID
  created := claim.created
  stdout := (truncateByBytes execResult.stdout cfg.outputLimitBytes).1
  stderr := (truncateByBytes execResult.stderr cfg.outputLimitBytes).1
  exitCode := execResult.exitCode
  stdoutTruncated := (truncateByBytes execResult.stdout cfg.outputLimitBytes).2
  stderrTruncated := (truncateByBytes execResult.stderr cfg.outputLimitBytes).2
  leaseExpiresUnixMS := leaseExpiresAt

/-- What `Execute` answers after a command that ran to its end. -/
def ExecAnswers (g : Phase) (result : Except ManagerError TerminalExecRunResult) : Prop :=
  ∀ r, g.exec = some r → r.err = none →
    if isNoSuchContainerMessage lib.toLower r.stderr then
      result = .error .sessionNotFound ∧ g.destroyed = true
    else g.destroyed = false ∧ ((∃ claim lease, g.claim = some claim ∧ g.released = some (some lease) ∧
      result = .ok (execRunResult cfg claim r lease)) ∨
      (g.released = some none ∧ result = .error .sessionNotFound))

/-- Whether a probe that ran to its end says that there is no session. -/
def probeLost (r : DockerCommandResult) : Bool :=
  isNoSuchContainerMessage lib.toLower r.stderr ||
    match lib.decodeProbeOutput r.stdout with
    | .error _ => false
    | .ok probe => decide (trimSpace probe.error = terminalExecCodeSessionNotFound)

/-- The result is that there is no session. -/
def isLost {α : Type} : Except ManagerError α → Bool
  | .error err => err.hasCode terminalExecCodeSessionNotFound
  | .ok _ => false

/-- Commands that ran to their end decide whether there is a session. -/
def ResourceDecided (g : Phase) (result : Except ManagerError TerminalResourceRunResult) : Prop :=
  ∀ r, g.probe = some r → r.err = none → (∀ c, g.copied = some c → c.err = none) →
    isLost result = (probeLost lib r ||
      g.copied.any fun c => isNoSuchContainerMessage lib.toLower c.stderr)

/-- What `ResolveResource` answers after commands that ran to their end, unless the session
    was gone when the slot was given back. -/
def ResourceAnswers (g : Phase) (result : Except ManagerError TerminalResourceRunResult) : Prop :=
  g.released ≠ some none → g.ResourceDecided lib result

/-- It has no session and nothing to clean up. -/
structure Free (g : Phase) : Prop where
  claim : g.claim = none
  holds : g.holds = false
  clean : g.Clean

/-- Which operations a call performs. -/
def Allowed (g : Phase) : ManagerOp → Prop
  | .claimSession .. => g.Free ∧ g.ran = []
  | .dockerCreate session _ => ∃ claim, g.Holds claim ∧ claim.created = true ∧ claim.session = session
  | .dockerExec .. => g.exec = none
  | .dockerProbe .. => g.probe = none ∧ g.copied = none
  | .dockerCopy .. => g.copied = none
  | .dockerRemove (some session) _ =>
    (∃ claim, g.claim = some claim ∧ claim.session = session ∧ (g.holds = true ∨ g.removing = true)) ∨
      g.Cleans session
  | .sessionIsActive session => ∃ claim, g.Holds claim ∧ claim.session = session
  | .detachCreated session => g.Clean ∧ ∃ claim, g.Holds claim ∧ claim.session = session
  | .releaseSession sessionID => g.Clean ∧ ∃ claim, g.Holds claim ∧ claim.sessionID = sessionID
  | .releaseAndDestroySession sessionID =>
    g.Clean ∧ ∃ claim, g.Holds claim ∧ claim.sessionID = sessionID
  | .releaseCapacityReservation session => g.Cleans session
  | .recoverInsert sessionID containerName .. =>
    g.Free ∧ containerName = terminalSessionResourceName lib sessionID
  | .takeExpired _ => g.Free
  | .expireSessionLease .. => g.Free
  | .resolveProxyTarget .. => g.Free
  | .renewLease .. => g.Free
  | .recoverExisting .. => g.Free
  | .returnExecute result => g.Reports (isContext result) ∧ g.ExecAnswers lib cfg result
  | .returnResource result => g.Reports (isContext result) ∧ g.ResourceAnswers lib result
  | _ => True

/-- A session that was claimed: its id is trimmed, and its container has the name for it. -/
structure Named (claim : Claim) : Prop where
  sessionID : trimSpace claim.sessionID = claim.sessionID
  nonempty : claim.sessionID ≠ ""
  containerName : claim.containerName = terminalSessionResourceName lib claim.sessionID

/-- What the shared state answers. -/
def Answered : CallEvent → Prop
  | ⟨.claimSession sessionID _ createIfMissing, .ok claim, _⟩ =>
    (sessionID = trimSpace sessionID → Named lib claim) ∧
      (sessionID ≠ "" → claim.sessionID = sessionID ∧ (createIfMissing = false → claim.created = false))
  | _ => True

/-- A call that is over has given everything back. -/
def Finished (g : Phase) : Prop := g.holds = false ∧ g.Clean

end Phase

/-- The protocol of the calls. -/
def managerProtocol (lib : DockerLib) (cfg : ManagerSettings) :
    Protocol ManagerOp ManagerOp.Res Unit Phase where
  allowed := Phase.Allowed lib cfg
  answers _ e := Phase.Answered lib e
  next := Phase.next

/-- From `g`, the program keeps to the protocol and ends as `Q` says. -/
abbrev ManagerMeets (lib : DockerLib) (cfg : ManagerSettings) {α : Type} (g : Phase) (p : Manager α)
    (Q : α → Phase → Prop) : Prop :=
  Prog.Meets (managerProtocol lib cfg) g p Q

/-- How a call starts. -/
def ManagerCall.start (_ : ManagerCall) : Phase := {}

variable {lib : DockerLib} {cfg : ManagerSettings} {g : Phase}

/-- A container has a name. -/
theorem trimSpace_terminalSessionResourceName (sessionID : String) :
    trimSpace (terminalSessionResourceName lib sessionID) ≠ "" := by
  unfold terminalSessionResourceName
  exact trimSpace_ne_empty (by rw [String.toList_append]; rfl) rfl

/-! ## Cleaning up -/

section CleaningUp

variable {Q : Unit → Phase → Prop}

theorem meets_forceRemoveContainer {owner : Option Nat} {containerName : String}
    (hallowed : ∀ name, g.Allowed lib cfg (.dockerRemove owner name))
    (hname : g.removing = false ∨ trimSpace containerName ≠ "") (hQ : Q () { g with removing := false }) :
    ManagerMeets lib cfg g (forceRemoveContainer owner containerName) Q := by
  unfold forceRemoveContainer
  split
  · rename_i hempty
    have hremoving := hname.resolve_right (not_not.mpr hempty)
    obtain ⟨_, _, _, removing⟩ := g
    obtain rfl : removing = false := hremoving
    exact .pure hQ
  · exact .call (hallowed _) fun _ _ _ => .pure hQ

theorem meets_cleanupSession {retired : Retired} {rest : List Retired}
    (hcleaning : g.cleaning = retired :: rest) (hremoving : g.removing = false)
    (hQ : Q () { g with cleaning := rest }) :
    ManagerMeets lib cfg g (cleanupSession retired) Q := by
  obtain ⟨claim, holds, cleaning, removing, ran, exec, probe, copied, released, destroyed⟩ := g
  obtain rfl : cleaning = retired :: rest := hcleaning
  obtain rfl : removing = false := hremoving
  refine .bind (meets_forceRemoveContainer (fun _ => .inr ⟨_, _, rfl, rfl⟩) (.inl rfl) ?_)
  exact .last ⟨_, _, rfl, rfl⟩ fun _ _ _ => hQ

theorem meets_cleanupSessions {retired : List Retired} (hcleaning : g.cleaning = retired)
    (hremoving : g.removing = false) (hQ : Q () { g with cleaning := [] }) :
    ManagerMeets lib cfg g (cleanupSessions retired) Q := by
  induction retired generalizing g with
  | nil =>
    rw [← hcleaning] at hQ
    exact .pure hQ
  | cons r rest ih =>
    exact .bind (meets_cleanupSession hcleaning hremoving (ih rfl hremoving hQ))

end CleaningUp

/-- Giving back the slot, and cleaning up if it was the last one. -/
theorem meets_releaseSession {claim : Claim} (hid : Phase.Named lib claim) (hclean : g.Clean)
    (hholds : g.Holds claim) {Q : Option Int → Phase → Prop}
    (hQ : ∀ lease, Q lease { g with holds := false, released := some lease }) :
    ManagerMeets lib cfg g (releaseSession claim.sessionID) Q := by
  obtain ⟨claim', holds, cleaning, removing, ran, exec, probe, copied, released, destroyed⟩ := g
  obtain ⟨hcleaning, hremoving⟩ := hclean
  obtain rfl : cleaning = [] := hcleaning
  obtain rfl : removing = false := hremoving
  unfold releaseSession
  rw [hid.sessionID, if_neg hid.nonempty]
  refine .call ⟨⟨rfl, rfl⟩, claim, hholds, rfl⟩ fun answer _ _ => ?_
  match answer with
  | none => exact .pure (hQ none)
  | some (lease, none) => exact .pure (hQ (some lease))
  | some (lease, some retired) =>
    exact .bind (meets_cleanupSession rfl rfl (.pure (hQ (some lease))))

/-- Giving back the slot of a session that is destroyed. -/
theorem meets_releaseAndDestroySession {claim : Claim} (hid : Phase.Named lib claim)
    (hclean : g.Clean) (hholds : g.Holds claim) {Q : Unit → Phase → Prop}
    (hQ : Q () { g with holds := false, destroyed := true }) :
    ManagerMeets lib cfg g (releaseAndDestroySession claim.sessionID) Q := by
  obtain ⟨claim', holds, cleaning, removing, ran, exec, probe, copied, released, destroyed⟩ := g
  obtain ⟨hcleaning, hremoving⟩ := hclean
  obtain rfl : cleaning = [] := hcleaning
  obtain rfl : removing = false := hremoving
  unfold releaseAndDestroySession
  rw [hid.sessionID, if_neg hid.nonempty]
  refine .call ⟨⟨rfl, rfl⟩, claim, hholds, rfl⟩ fun retired _ _ => ?_
  cases retired with
  | none => exact .pure hQ
  | some retired => exact meets_cleanupSession rfl rfl hQ

/-! ## Getting a session -/

variable {context : Bool}

namespace Phase

/-- A call with a session that can be used, before it does anything with it. -/
structure Joined (claim : Claim) (g : Phase) : Prop where
  holds : g.Holds claim
  clean : g.Clean
  succeeded : g.AllSucceeded
  exec : g.exec = none
  probe : g.probe = none
  copied : g.copied = none
  released : g.released = none
  destroyed : g.destroyed = false

/-- A call that could not have the session. -/
structure Refused (context : Bool) (g : Phase) : Prop where
  finished : g.Finished
  reports : g.Reports context
  exec : g.exec = none
  probe : g.probe = none

/-- What `awaitSessionReady` leaves behind. -/
def Awaited (claim : Claim) (err : Option ManagerError) (g : Phase) : Prop :=
  match err with
  | none => g.Joined claim
  | some err => g.Refused err.contextError.isSome

/-- Commands that succeeded do not speak of the context. -/
theorem AllSucceeded.reports (h : g.AllSucceeded) (context : Bool) : g.Reports context := by
  have hsucceeded : ∀ r ∈ g.ran, r.err = none ∧ r.exitCode = 0 := by
    intro r hr
    have := h r hr
    simpa [ManagerState.succeeded] using this
  refine ⟨fun r hr => ⟨fun err herr => ?_, fun _ hexit => ?_⟩, fun r hr err herr => ?_⟩
  · rw [(hsucceeded r hr).1] at herr
    nomatch herr
  · exact absurd (hsucceeded r hr).2 hexit
  · rw [(hsucceeded r hr).1] at herr
    nomatch herr

variable {r : DockerCommandResult}

/-- The last command decides. -/
theorem AllSucceeded.tells_run (h : g.AllSucceeded)
    (hcontext : ∀ err, r.err = some (.context err) → context = true)
    (hexit : r.err = none → r.exitCode ≠ 0 → context = false) : (g.run r).Tells context := by
  intro r' hr'
  rcases List.mem_cons.mp hr' with rfl | hr'
  · exact ⟨hcontext, hexit⟩
  · exact (h.reports context).1 r' hr'

theorem AllSucceeded.run (h : g.AllSucceeded) (hr : ManagerState.succeeded r = true) :
    (g.run r).AllSucceeded := by
  intro r' hr'
  rcases List.mem_cons.mp hr' with rfl | hr'
  · exact hr
  · exact h r' hr'

/-- What is told is reported once the session is marked. -/
theorem Tells.reports (h : g.Tells context) (hdestroyed : context = true → g.destroyed = true) :
    g.Reports context :=
  ⟨h, fun r hr err herr => hdestroyed ((h r hr).1 err herr)⟩

theorem Joined.run {claim : Claim} (h : g.Joined claim) (hr : ManagerState.succeeded r = true) :
    (g.run r).Joined claim :=
  ⟨h.holds, h.clean, h.succeeded.run hr, h.exec, h.probe, h.copied, h.released, h.destroyed⟩

end Phase

/-- A command that has to exit with 0 and did. -/
theorem succeeded_of_commandFailure {stage : String} {r : DockerCommandResult}
    (h : commandFailure lib stage r = none) : ManagerState.succeeded r = true := by
  unfold commandFailure at h
  split at h
  · nomatch h
  · rename_i herr
    split at h
    · rename_i hexit
      simp [ManagerState.succeeded, herr, hexit]
    · nomatch h

variable {err : ManagerError}

/-- The error of a command that has to exit with 0. -/
theorem tells_of_commandFailure {stage : String} {r : DockerCommandResult} (hg : g.AllSucceeded)
    (h : commandFailure lib stage r = some err) :
    (g.run r).Tells err.contextError.isSome := by
  unfold commandFailure at h
  split at h
  · rename_i err' herr
    cases h
    refine hg.tells_run (fun e he => ?_) (fun hnone => ?_)
    · obtain rfl := Option.mem_unique herr he
      rfl
    · nomatch hnone.symm.trans herr
  · rename_i herr
    refine hg.tells_run (fun e he => nomatch herr.symm.trans he) fun _ _ => ?_
    split at h
    · nomatch h
    · cases h
      rfl

section GettingASession

variable {claim : Claim}

/-- The container could not be created. -/
structure Phase.Failed (claim : Claim) (context : Bool) (g : Phase) : Prop where
  holds : g.Holds claim
  clean : g.Clean
  tells : g.Tells context
  exec : g.exec = none
  probe : g.probe = none

theorem Phase.Joined.failed (h : g.Joined claim) {r : DockerCommandResult}
    (htells : (g.run r).Tells context) : (g.run r).Failed claim context :=
  ⟨h.holds, h.clean, htells, h.exec, h.probe⟩

theorem meets_removeFailed {α : Type} {Q : Except ManagerError α → Phase → Prop}
    (h : g.Failed claim context) (hQ : Q (.error err) g) :
    ManagerMeets lib cfg g
      (forceRemoveContainer (some claim.session) claim.containerName >>= fun _ => pure (.error err)) Q := by
  refine .bind (meets_forceRemoveContainer
    (fun _ => .inl ⟨claim, h.holds.1, rfl, .inl h.holds.2⟩) (.inl h.clean.2) (.pure ?_))
  have hsame : { g with removing := false } = g := by
    rw [← h.clean.2]
  exact hsame ▸ hQ

theorem meets_inspectTerminalContainerIP (h : g.Joined claim) :
    ManagerMeets lib cfg g (inspectTerminalContainerIP lib claim.containerName) fun result g' =>
      match result with
      | .error err => g'.Failed claim err.contextError.isSome
      | .ok _ => g'.Joined claim := by
  refine .call trivial fun r _ _ => ?_
  cases hfailure : commandFailure lib "docker inspect proxy target failed" r with
  | some err => exact .pure (h.failed (tells_of_commandFailure h.succeeded hfailure))
  | none =>
    have hjoined := h.run (succeeded_of_commandFailure hfailure)
    cases lib.inspectedAddress (lib.trimOutput r.stdout) with
    | none => exact .pure (h.failed (hjoined.succeeded.reports _).1)
    | some address => exact .pure hjoined

/-- Until the container runs, the call has its slot. -/
theorem meets_createAndStartContainer (h : g.Joined claim) (hcreated : claim.created = true) :
    ManagerMeets lib cfg g (createAndStartContainer lib cfg claim.session claim.containerName)
      fun result g' =>
        match result with
        | .error err => g'.Failed claim err.contextError.isSome
        | .ok _ => g'.Joined claim := by
  refine .call ⟨claim, h.holds, hcreated, rfl⟩ fun create _ _ => ?_
  cases hcreate : commandFailure lib "docker create failed" create with
  | some err => exact .pure (h.failed (tells_of_commandFailure h.succeeded hcreate))
  | none =>
    have h := h.run (succeeded_of_commandFailure hcreate)
    refine .call trivial fun start _ _ => ?_
    cases hstart : commandFailure lib "docker start failed" start with
    | some err =>
      have hfailed := h.failed (tells_of_commandFailure h.succeeded hstart)
      exact meets_removeFailed hfailed hfailed
    | none =>
      have h := h.run (succeeded_of_commandFailure hstart)
      dsimp only
      split
      · exact .pure h
      · refine .seq (meets_inspectTerminalContainerIP h) fun result g' hg' => ?_
        cases result with
        | error err => exact meets_removeFailed hg' hg'
        | ok containerIP => exact .pure hg'

/-- The creator leaves a session that is not active. -/
theorem meets_cleanupInactiveCreatedSession (hnamed : Phase.Named lib claim) (h : g.Joined claim) :
    ManagerMeets lib cfg g (cleanupInactiveCreatedSession claim) fun _ g' => g'.Refused false := by
  refine .call ⟨h.clean, claim, h.holds, rfl⟩ fun owned _ _ => ?_
  have hclaim := h.holds.1
  cases owned with
  | true =>
    have hcleaning : Phase.cleaning (g.next ⟨.detachCreated claim.session, true, ()⟩) =
        [⟨claim.session, claim.containerName⟩] := by
      simp [Phase.next, hclaim]
    exact meets_cleanupSession hcleaning rfl
      ⟨⟨rfl, rfl, rfl⟩, h.succeeded.reports _, h.exec, h.probe⟩
  | false =>
    refine meets_forceRemoveContainer (fun _ => .inl ⟨claim, hclaim, rfl, .inr rfl⟩) (.inr ?_) ?_
    · rw [hnamed.containerName]
      exact trimSpace_terminalSessionResourceName _
    · exact ⟨⟨rfl, rfl, rfl⟩, h.succeeded.reports _, h.exec, h.probe⟩

theorem meets_createSession (hnamed : Phase.Named lib claim) (h : g.Joined claim)
    (hcreated : claim.created = true) :
    ManagerMeets lib cfg g (createSession lib cfg claim) (Phase.Awaited claim) := by
  refine .seq (meets_createAndStartContainer h hcreated) fun result g' hg' => ?_
  cases result with
  | error err =>
    refine .call trivial fun _ _ _ => ?_
    refine .bind (meets_releaseAndDestroySession hnamed hg'.clean hg'.holds
      (.pure ?_))
    have htells : Phase.Tells { g' with holds := false, destroyed := true } err.contextError.isSome :=
      hg'.tells
    exact ⟨⟨rfl, hg'.clean⟩, htells.reports fun _ => rfl, hg'.exec, hg'.probe⟩
  | ok containerIP =>
    refine .call trivial fun _ _ _ => ?_
    refine .call ⟨claim, hg'.holds, rfl⟩ fun active _ _ => ?_
    -- The creator keeps its slot whatever it finds.
    have hsame : g'.next ⟨.sessionIsActive claim.session, active, ()⟩ = g' := by
      simp only [Phase.next, hg'.holds.1, hg'.holds.2, Option.any_some, hcreated, Bool.or_true,
        Bool.and_true]
      rw [← hg'.holds.1, ← hg'.holds.2]
    change Prog.Meets _ (g'.next ⟨.sessionIsActive claim.session, active, ()⟩) _ _
    rw [hsame]
    cases active with
    | true => exact .pure hg'
    | false =>
      exact .seq (meets_cleanupInactiveCreatedSession hnamed hg')
        fun _ _ hrefused => .pure hrefused

theorem meets_joinSession (hnamed : Phase.Named lib claim) (h : g.Joined claim)
    (hcreated : claim.created = false) :
    ManagerMeets lib cfg g (joinSession claim) (Phase.Awaited claim) := by
  have hreleased : ∀ lease context,
      Phase.Refused context { g with holds := false, released := some lease } := fun _ _ =>
    ⟨⟨rfl, h.clean⟩, h.succeeded.reports _, h.exec, h.probe⟩
  refine .call trivial fun err _ _ => ?_
  cases err with
  | some err =>
    exact .bind (meets_releaseSession hnamed h.clean h.holds
      fun lease => .pure (hreleased lease _))
  | none =>
    refine .call trivial fun err _ _ => ?_
    cases err with
    | some err =>
      exact .bind (meets_releaseSession hnamed h.clean h.holds
        fun lease => .pure (hreleased lease _))
    | none =>
      refine .call ⟨claim, h.holds, rfl⟩ fun active _ _ => ?_
      cases active with
      | true =>
        refine .pure ⟨⟨h.holds.1, ?_⟩, h.clean, h.succeeded, h.exec, h.probe, h.copied,
          h.released, h.destroyed⟩
        simp [managerProtocol, Phase.next, h.holds.2]
      | false =>
        -- It goes without giving back its slot.
        refine .pure ⟨⟨?_, h.clean⟩, h.succeeded.reports _, h.exec, h.probe⟩
        simp [managerProtocol, Phase.next, h.holds.1, hcreated]

/-- A call that goes on has its slot, one that does not has not. -/
theorem meets_awaitSessionReady (hnamed : Phase.Named lib claim) (h : g.Joined claim) :
    ManagerMeets lib cfg g (awaitSessionReady lib cfg claim) (Phase.Awaited claim) := by
  unfold awaitSessionReady
  cases hcreated : claim.created with
  | true => exact meets_createSession hnamed h hcreated
  | false => exact meets_joinSession hnamed h hcreated

end GettingASession

/-! ## Execute -/

section Execute

variable {claim : Claim}

/-- An answer that fits what was run. -/
structure Phase.Answers (lib : DockerLib) (cfg : ManagerSettings)
    (result : Except ManagerError TerminalExecRunResult) (g : Phase) : Prop where
  finished : g.Finished
  reports : g.Reports (isContext result)
  exec : g.ExecAnswers lib cfg result

/-- The slot is given back, and the answer is what the command left. -/
theorem meets_settleExec (hnamed : Phase.Named lib claim) (h : g.Joined claim)
    (r : DockerCommandResult) :
    ManagerMeets lib cfg { g.run r with exec := some r } (settleExec lib cfg claim r)
      (Phase.Answers lib cfg) := by
  have hholds : Phase.Holds { g.run r with exec := some r } claim := h.holds
  have hclean : Phase.Clean { g.run r with exec := some r } := h.clean
  unfold settleExec
  cases herr : r.err with
  | some err =>
    cases err with
    | context err =>
      refine .bind (meets_releaseAndDestroySession hnamed hclean hholds (.pure
        ⟨⟨rfl, h.clean⟩, ⟨?_, fun _ _ _ _ => rfl⟩, ?_⟩))
      · exact h.succeeded.tells_run (fun _ _ => rfl) fun hnone => nomatch hnone.symm.trans herr
      · intro r' hr'
        cases hr'
        exact fun hnone => nomatch hnone.symm.trans herr
    | other message =>
      refine .bind (meets_releaseSession hnamed hclean hholds fun lease => .pure
        ⟨⟨rfl, h.clean⟩, Phase.Tells.reports ?_ nofun, ?_⟩)
      · exact h.succeeded.tells_run (fun _ hcontext => nomatch herr.symm.trans hcontext)
          fun hnone => nomatch hnone.symm.trans herr
      · intro r' hr'
        cases hr'
        exact fun hnone => nomatch hnone.symm.trans herr
  | none =>
    have htells : (g.run r).Tells false :=
      h.succeeded.tells_run (fun _ hcontext => nomatch herr.symm.trans hcontext) fun _ _ => rfl
    dsimp only
    split
    · rename_i hmessage
      refine .bind (meets_releaseAndDestroySession hnamed hclean hholds (.pure
        ⟨⟨rfl, h.clean⟩, Phase.Tells.reports htells nofun, ?_⟩))
      intro r' hr' _
      cases hr'
      rw [if_pos hmessage]
      exact ⟨rfl, rfl⟩
    · rename_i hmessage
      refine .bind (meets_releaseSession hnamed hclean hholds fun lease => ?_)
      cases lease with
      | none =>
        refine .pure
          ⟨⟨rfl, h.clean⟩, Phase.Tells.reports htells nofun, ?_⟩
        intro r' hr' _
        cases hr'
        rw [if_neg hmessage]
        exact ⟨h.destroyed, .inr ⟨rfl, rfl⟩⟩
      | some lease =>
        refine .pure
          ⟨⟨rfl, h.clean⟩, Phase.Tells.reports htells nofun, ?_⟩
        intro r' hr' _
        cases hr'
        rw [if_neg hmessage]
        exact ⟨h.destroyed, .inl ⟨claim, lease, h.holds.1, rfl, rfl⟩⟩

theorem Phase.Refused.answers (h : g.Refused err.contextError.isSome) :
    g.Answers lib cfg (.error err) :=
  ⟨h.finished, h.reports, fun _ hr => nomatch h.exec.symm.trans hr⟩

theorem meets_execInSession (hnamed : Phase.Named lib claim) (h : g.Joined claim) (command : String) :
    ManagerMeets lib cfg g (execInSession lib cfg claim command) (Phase.Answers lib cfg) := by
  refine .seq (meets_awaitSessionReady hnamed h) fun err g' hg' => ?_
  cases err with
  | some err => exact .pure (Phase.Refused.answers hg')
  | none => exact .call hg'.exec fun r _ _ => meets_settleExec hnamed hg' r

/-- Nothing was run. -/
theorem answers_start (err : ManagerError) : Phase.Answers lib cfg (.error err) {} :=
  ⟨⟨rfl, rfl, rfl⟩, ⟨nofun, nofun⟩, nofun⟩

/-- The phase of a call that claimed a session. -/
theorem joined_start (claim : Claim) : Phase.Joined claim { claim := some claim, holds := true } :=
  ⟨⟨rfl, rfl⟩, ⟨rfl, rfl⟩, nofun, rfl, rfl, rfl, rfl, rfl⟩

theorem meets_execute (req : TerminalExecRequest) :
    ManagerMeets lib cfg {} (execute lib cfg req) (Phase.Answers lib cfg) := by
  unfold execute
  split
  · exact .pure (answers_start _)
  · split
    · exact .pure (answers_start _)
    · refine .call trivial fun now _ _ => ?_
      refine .call ⟨⟨rfl, rfl, rfl, rfl⟩, rfl⟩ fun result _ hanswer => ?_
      cases result with
      | error err => exact .pure (answers_start _)
      | ok claim =>
        exact meets_execInSession (hanswer.1 (trimSpace_trimSpace _).symm) (joined_start claim) _

end Execute

/-! ## ResolveResource -/

section ResolveResource

variable {claim : Claim}

/-- What is told about a resource before the slot is given back. -/
structure Phase.Read (lib : DockerLib) (claim : Claim)
    (result : Except ManagerError TerminalResourceRunResult) (g : Phase) : Prop where
  holds : g.Holds claim
  clean : g.Clean
  tells : g.Tells (isContext result)
  resource : g.ResourceDecided lib result

variable {r : DockerCommandResult}

/-- The error of a probe. -/
theorem isLost_readProbe (herr : r.err = none) :
    Phase.isLost (readProbe lib r) = Phase.probeLost lib r := by
  have hreported : ∀ probe : ProbeResult, ∀ dflt : ManagerError,
      dflt.hasCode terminalExecCodeSessionNotFound = false →
      (probe.reported.getD dflt).hasCode terminalExecCodeSessionNotFound =
        decide (trimSpace probe.error = terminalExecCodeSessionNotFound) := by
    intro probe dflt hdflt
    unfold ProbeResult.reported
    split
    · rename_i hempty
      rw [Option.getD_none, hdflt, hempty]
      rfl
    · simp [ManagerError.newTerminalExecError, ManagerError.hasCode]
  unfold readProbe Phase.probeLost
  rw [herr]
  dsimp only
  split
  · rename_i hmessage
    rw [hmessage]
    rfl
  · rename_i hmessage
    rw [eq_false_of_ne_true hmessage, Bool.false_or]
    split
    · cases lib.decodeProbeOutput r.stdout with
      | error err => rfl
      | ok probe => exact hreported probe _ rfl
    · cases lib.decodeProbeOutput r.stdout with
      | error err => rfl
      | ok probe =>
        have hcode := hreported probe (.other "") rfl
        dsimp only
        cases hprobe : probe.reported with
        | none | some err =>
          rw [hprobe] at hcode
          exact hcode

/-- A probe that can be read succeeded. -/
theorem succeeded_of_readProbe {probe : ProbeResult} (h : readProbe lib r = .ok probe) :
    ManagerState.succeeded r = true := by
  unfold readProbe at h
  split at h
  · nomatch h
  · rename_i herr
    split at h
    · nomatch h
    · dsimp only at h
      split at h
      · split at h <;> nomatch h
      · rename_i hexit
        simp [ManagerState.succeeded, herr, not_not.mp hexit]

theorem contextError_reported {probe : ProbeResult} {dflt : ManagerError}
    (h : dflt.contextError = none) : (probe.reported.getD dflt).contextError = none := by
  unfold ProbeResult.reported
  split
  · exact h
  · rfl

/-- The error of a probe tells of the context. -/
theorem tells_of_readProbe (hg : g.AllSucceeded) (h : readProbe lib r = .error err) :
    (g.run r).Tells err.contextError.isSome := by
  unfold readProbe at h
  split at h
  · rename_i err' herr
    cases h
    refine hg.tells_run (fun e he => ?_) fun hnone => nomatch hnone.symm.trans herr
    obtain rfl := Option.mem_unique herr he
    rfl
  · rename_i herr
    -- A probe that ran to its end never tells of the context.
    suffices err.contextError = none by
      rw [this]
      exact hg.tells_run (fun _ hcontext => nomatch herr.symm.trans hcontext) fun _ _ => rfl
    split at h
    · cases h
      rfl
    · dsimp only at h
      split at h
      · split at h
        · cases h
          rfl
        · cases h
          exact contextError_reported rfl
      · split at h
        · cases h
          rfl
        · split at h
          · rename_i probe _ _ err' hprobe
            cases h
            have hnone : (probe.reported.getD (.other "")).contextError = none :=
              contextError_reported rfl
            rwa [hprobe] at hnone
          · nomatch h

/-- The resource was probed. -/
structure Phase.Probed (claim : Claim) (r : DockerCommandResult) (g : Phase) : Prop where
  holds : g.Holds claim
  clean : g.Clean
  succeeded : g.AllSucceeded
  probe : g.probe = some r
  copied : g.copied = none

/-- What is told about an export. -/
structure Phase.Exported (lib : DockerLib) (claim : Claim) (r : DockerCommandResult)
    (err : Option ManagerError) (g : Phase) : Prop where
  holds : g.Holds claim
  clean : g.Clean
  tells : g.Tells (err.any (·.contextError.isSome))
  probe : g.probe = some r
  lost : (∀ c, g.copied = some c → c.err = none) →
    (err.any (·.hasCode terminalExecCodeSessionNotFound)) =
      g.copied.any fun c => isNoSuchContainerMessage lib.toLower c.stderr

theorem meets_exportTerminalResource (h : g.Probed claim r) (filePath signedURL : String)
    (headers : List (String × String)) :
    ManagerMeets lib cfg g (exportTerminalResource lib claim.containerName filePath signedURL headers)
      (Phase.Exported lib claim r) := by
  refine .call trivial fun temp _ _ => ?_
  cases temp with
  | some err =>
    refine .pure ⟨h.holds, h.clean, (h.succeeded.reports _).1, h.probe, fun _ => ?_⟩
    change false = g.copied.any _
    rw [h.copied, Option.any_none]
  | none =>
    refine .call h.copied fun copy _ _ => ?_
    cases herr : copy.err with
    | some err =>
      refine .pure ⟨h.holds, h.clean, ?_, h.probe, fun hnone => ?_⟩
      · refine h.succeeded.tells_run (fun e he => ?_) fun hnone => nomatch hnone.symm.trans herr
        obtain rfl := Option.mem_unique herr he
        rfl
      · nomatch (hnone copy rfl).symm.trans herr
    | none =>
      dsimp only
      have htells : (g.run copy).Tells false :=
        h.succeeded.tells_run (fun _ hcontext => nomatch herr.symm.trans hcontext) fun _ _ => rfl
      split
      · rename_i hmessage
        exact .pure ⟨h.holds, h.clean, htells, h.probe, fun _ => hmessage.symm⟩
      · rename_i hmessage
        have hmessage := eq_false_of_ne_true hmessage
        split
        · exact .pure ⟨h.holds, h.clean, htells, h.probe, fun _ => hmessage.symm⟩
        · rename_i hexit
          have hsucceeded : (g.run copy).AllSucceeded :=
            h.succeeded.run (by simp [ManagerState.succeeded, herr, not_not.mp hexit])
          refine .call trivial fun err _ _ => .pure
            ⟨h.holds, h.clean, (hsucceeded.reports _).1, h.probe, fun _ => ?_⟩
          refine Eq.trans ?_ hmessage.symm
          cases err <;> rfl

/-- Until the slot is given back, the commands decide the answer. -/
theorem meets_resolveResourceInSession (h : g.Joined claim) (sessionID filePath : String)
    (action : ResourceAction) (signedURL : String) (headers : List (String × String)) :
    ManagerMeets lib cfg g (resolveResourceInSession lib cfg claim.containerName sessionID filePath
      action signedURL headers) (Phase.Read lib claim) := by
  refine .call ⟨h.probe, h.copied⟩ fun r _ _ => ?_
  cases hread : readProbe lib r with
  | error err =>
    refine .pure ⟨h.holds, h.clean, tells_of_readProbe h.succeeded hread, ?_⟩
    intro r' hr' herr _
    cases hr'
    have hlost : Phase.isLost (readProbe lib r) = _ := isLost_readProbe herr
    rw [hread] at hlost
    change _ = (_ || g.copied.any _)
    rw [h.copied, Option.any_none, Bool.or_false]
    exact hlost
  | ok probe =>
    have hsucceeded := succeeded_of_readProbe hread
    have herr : r.err = none := by
      have := hsucceeded
      simp only [ManagerState.succeeded, Bool.and_eq_true, decide_eq_true_eq] at this
      exact this.1
    have hlost : Phase.probeLost lib r = false := by
      rw [← isLost_readProbe herr, hread]
      rfl
    have hprobed : Phase.Probed claim r { g.run r with probe := some r } :=
      ⟨h.holds, h.clean, h.succeeded.run hsucceeded, rfl, h.copied⟩
    -- Without an export only the probe was run.
    have honly : ∀ result, Phase.isLost result = false →
        Phase.Read lib claim result { g.run r with probe := some r } := by
      refine fun result hresult => ⟨h.holds, h.clean, (hprobed.succeeded.reports _).1, ?_⟩
      intro r' hr' _ _
      cases hr'
      rw [hresult, hlost, hprobed.copied]
      rfl
    change Prog.Meets _ { g.run r with probe := some r } _ _
    generalize { g.run r with probe := some r } = g₁ at hprobed honly ⊢
    cases action with
    | «export» =>
      dsimp only
      split
      · exact .pure (honly _ rfl)
      · refine .seq (meets_exportTerminalResource hprobed filePath signedURL headers)
          fun err g' hg' => ?_
        have hanswers : ∀ result, Phase.isLost result =
            err.any (·.hasCode terminalExecCodeSessionNotFound) → g'.ResourceDecided lib result := by
          intro result hresult r' hr' _ hcopied
          obtain rfl := Option.mem_unique hg'.probe hr'
          rw [hresult, hg'.lost hcopied, hlost, Bool.false_or]
        cases err with
        | some err | none => exact .pure ⟨hg'.holds, hg'.clean, hg'.tells, hanswers _ rfl⟩
    | read =>
      refine .pure (honly _ ?_)
      unfold readBlob
      split
      · rfl
      · split <;> rfl
    | validate => exact .pure (honly _ rfl)

/-- An answer that fits what was run. -/
structure Phase.AnswersResource (lib : DockerLib)
    (result : Except ManagerError TerminalResourceRunResult) (g : Phase) : Prop where
  finished : g.Finished
  reports : g.Reports (isContext result)
  resource : g.ResourceAnswers lib result

theorem meets_settleResource (hnamed : Phase.Named lib claim)
    {result : Except ManagerError TerminalResourceRunResult} (h : g.Read lib claim result) :
    ManagerMeets lib cfg g (settleResource claim.sessionID result) (Phase.AnswersResource lib) := by
  have hdestroyed : Phase.AnswersResource lib result { g with holds := false, destroyed := true } :=
    ⟨⟨rfl, h.clean⟩, ⟨h.tells, fun _ _ _ _ => rfl⟩, fun _ => h.resource⟩
  have hreleased : Phase.isContext result = false → ∀ lease,
      Phase.AnswersResource lib result { g with holds := false, released := some lease } := by
    intro hcontext lease
    have htells : Phase.Tells { g with holds := false, released := some lease }
      (Phase.isContext result) := h.tells
    exact ⟨⟨rfl, h.clean⟩, htells.reports (fun htrue => nomatch hcontext.symm.trans htrue),
      fun _ => h.resource⟩
  cases result with
  | error err =>
    unfold settleResource
    dsimp only
    split
    · exact .bind (meets_releaseAndDestroySession hnamed h.clean h.holds
        (.pure hdestroyed))
    · rename_i hcontext
      split
      · exact .bind (meets_releaseAndDestroySession hnamed h.clean h.holds
          (.pure hdestroyed))
      · exact .bind (meets_releaseSession hnamed h.clean h.holds
          fun lease => .pure (hreleased (eq_false_of_ne_true hcontext) lease))
  | ok result =>
    refine .bind (meets_releaseSession hnamed h.clean h.holds fun lease => ?_)
    cases lease with
    | none =>
      -- The session is gone, whatever the commands said.
      exact .pure ⟨⟨rfl, h.clean⟩, (hreleased rfl none).reports, fun hne => absurd rfl hne⟩
    | some lease => exact .pure (hreleased rfl (some lease))

/-- Nothing was read. -/
theorem answersResource_of_refused (h : g.Refused err.contextError.isSome) :
    g.AnswersResource lib (.error err) :=
  ⟨h.finished, h.reports, fun _ _ hr => nomatch h.probe.symm.trans hr⟩

theorem refused_start (context : Bool) : Phase.Refused context {} :=
  ⟨⟨rfl, rfl, rfl⟩, ⟨nofun, nofun⟩, rfl, rfl⟩

theorem meets_resolveChecked {sessionID : String} (hid : sessionID = trimSpace sessionID)
    (hne : sessionID ≠ "") (filePath : String) (action : ResourceAction) (signedURL : String)
    (headers : List (String × String)) :
    ManagerMeets lib cfg {} (resolveChecked lib cfg sessionID filePath action signedURL headers)
      (Phase.AnswersResource lib) := by
  refine .call ⟨⟨rfl, rfl, rfl, rfl⟩, rfl⟩ fun result _ hanswer => ?_
  cases result with
  | error err => exact .pure (answersResource_of_refused (refused_start _))
  | ok claim =>
    obtain ⟨hnamed, hexisting⟩ := hanswer
    obtain ⟨rfl, hcreated⟩ := hexisting hne
    refine .seq (meets_joinSession (hnamed hid) (joined_start claim) (hcreated rfl))
      fun err g' hg' => ?_
    cases err with
    | some err => exact .pure (answersResource_of_refused hg')
    | none =>
      exact .seq (meets_resolveResourceInSession hg' _ filePath action signedURL
        headers) fun result g'' hg'' => meets_settleResource (hnamed hid) hg''

theorem meets_resolveResource (req : TerminalResourceRequest) :
    ManagerMeets lib cfg {} (resolveResource lib cfg req) (Phase.AnswersResource lib) := by
  have herror : ∀ err, Phase.AnswersResource lib (.error err) {} := fun err =>
    answersResource_of_refused (refused_start _)
  unfold resolveResource
  split
  · exact .pure (herror _)
  · rename_i hrequired
    split
    · exact .pure (herror _)
    · split
      · exact .pure (herror _)
      · exact meets_resolveChecked (trimSpace_trimSpace _).symm (fun h => hrequired (.inl h)) _ _ _ _

end ResolveResource

/-! ## The other calls -/

section OtherCalls

section

variable (h : g.Free)

include h

/-- The cleanup of a session that a call took. -/
theorem meets_cleanupTaken {retired : Retired} :
    ManagerMeets lib cfg { g with cleaning := [retired] } (cleanupSession retired)
      fun _ g' => g'.Finished :=
  meets_cleanupSession rfl h.clean.2 ⟨h.holds, rfl, h.clean.2⟩

theorem meets_cleanupExpiredSessions :
    ManagerMeets lib cfg g cleanupExpiredSessions fun _ g' => g'.Finished := by
  refine .call trivial fun now _ _ => ?_
  refine .call h fun expired _ _ => ?_
  exact meets_cleanupSessions rfl h.clean.2 ⟨h.holds, rfl, h.clean.2⟩

theorem meets_expireSessionLease (session : Nat) :
    ManagerMeets lib cfg g (expireSessionLease session) fun _ g' => g'.Finished := by
  refine .call trivial fun now _ _ => ?_
  refine .call h fun retired _ _ => ?_
  cases retired with
  | none => exact .pure ⟨h.holds, rfl, h.clean.2⟩
  | some retired => exact meets_cleanupTaken h

theorem meets_renewLease (sessionID : String) (leaseTTLSec : Int) :
    ManagerMeets lib cfg g (renewLease lib cfg sessionID leaseTTLSec) fun _ g' => g'.Finished := by
  have hfinished : g.Finished := ⟨h.holds, h.clean⟩
  unfold renewLease
  split
  · exact .pure hfinished
  · split
    · exact .pure hfinished
    · refine .call trivial fun now _ _ => ?_
      exact .last h fun _ _ _ => hfinished

theorem meets_resolveProxyTarget (sessionID : String) (now : Option Int) :
    ManagerMeets lib cfg g (resolveProxyTarget sessionID now) fun _ g' => g'.Finished := by
  have hanswer : ∀ result, ManagerMeets lib cfg g (perform (.returnProxy result))
      fun _ g' => g'.Finished := fun result =>
    .last trivial fun _ _ _ => ⟨h.holds, h.clean⟩
  have hfind : ∀ session now, ManagerMeets lib cfg g
      (resolveReadyTarget (trimSpace sessionID) session now) fun _ g' => g'.Finished := by
    intro session now
    refine .call h fun outcome _ _ => ?_
    cases outcome with
    | notFound | found ip => exact hanswer _
    | expired retired => exact .call trivial fun _ _ _ => meets_cleanupTaken h
  unfold resolveProxyTarget
  split
  · exact hanswer _
  · refine .call trivial fun session _ _ => ?_
    cases session with
    | none => exact hanswer _
    | some session =>
      refine .call trivial fun err _ _ => ?_
      cases err with
      | some err => exact hanswer _
      | none =>
        cases now with
        | some now => exact hfind session now
        | none => exact .call trivial fun now _ _ => hfind session now

theorem Phase.Free.finished : g.Finished := ⟨h.holds, h.clean⟩

/-- Recovery removes containers without a session. -/
theorem meets_forceRemoveContainer_of_free (containerName : String) :
    ManagerMeets lib cfg g (forceRemoveContainer none containerName) fun _ g' => g'.Free :=
  meets_forceRemoveContainer (fun _ => trivial) (.inl h.clean.2) ⟨h.claim, h.holds, h.clean.1, rfl⟩

theorem meets_removeContainers (names : List String) :
    ManagerMeets lib cfg g (removeContainers names) fun _ g' => g'.Free := by
  induction names generalizing g with
  | nil => exact .pure h
  | cons name names ih =>
    exact .seq (meets_forceRemoveContainer_of_free h name) fun _ _ hg' => ih hg'

theorem Phase.Free.run (r : DockerCommandResult) : (g.run r).Free :=
  ⟨h.claim, h.holds, h.clean⟩

end

section Recovery

variable {sessionID containerName : String} {leaseExpiresAt : Int}
  (hname : containerName = terminalSessionResourceName lib sessionID)

include hname

theorem meets_recoverRunning (h : g.Free) :
    ManagerMeets lib cfg g (recoverRunning lib cfg sessionID containerName leaseExpiresAt)
      fun _ g' => g'.Free := by
  unfold recoverRunning
  split
  · exact .call ⟨h, hname⟩ fun _ _ _ => .pure h
  · refine .bind (.call trivial fun r _ _ => ?_)
    have h := h.run r
    cases commandFailure lib "docker inspect proxy target failed" r with
    | some err => exact .pure (.pure h)
    | none =>
      cases lib.inspectedAddress (lib.trimOutput r.stdout) with
      | none => exact .pure (.pure h)
      | some containerIP =>
        exact .pure (.call ⟨h, hname⟩ fun _ _ _ => .pure h)

theorem meets_recoverLabeled (h : g.Free) (status : String) :
    ManagerMeets lib cfg g (recoverLabeled lib cfg sessionID containerName leaseExpiresAt status)
      fun _ g' => g'.Free := by
  refine .call trivial fun names _ _ => ?_
  cases names with
  | none => exact .pure h
  | some names =>
    dsimp only
    split
    · exact .seq (meets_removeContainers h names) fun _ _ hg' => .pure hg'
    · split
      · exact meets_recoverRunning hname h
      · split
        · refine .call trivial fun r _ _ => ?_
          cases commandFailure lib "docker start failed" r with
          | some err => exact .pure (h.run r)
          | none => exact meets_recoverRunning hname (h.run r)
        · exact .seq (meets_forceRemoveContainer_of_free h _)
            fun _ _ hg' => .pure hg'

theorem meets_recoverOneAttempt (h : g.Free) :
    ManagerMeets lib cfg g (recoverOneAttempt lib cfg sessionID containerName leaseExpiresAt)
      fun _ g' => g'.Free := by
  refine .call h fun existing _ _ => ?_
  cases existing with
  | true => exact .pure h
  | false =>
    refine .call trivial fun outcome _ _ => ?_
    cases outcome with
    | failed noSuchContainer | malformed => exact .pure h
    | foreign =>
      exact .seq (meets_forceRemoveContainer_of_free h _)
        fun _ _ hg' => .pure hg'
    | labeled status => exact meets_recoverLabeled hname h status

theorem meets_recoverOne (h : g.Free) (attempts : Nat) :
    ManagerMeets lib cfg g (recoverOne lib cfg sessionID containerName leaseExpiresAt attempts)
      fun _ g' => g'.Free := by
  induction attempts generalizing g with
  | zero => exact .pure h
  | succ attempts ih =>
    refine .seq (meets_recoverOneAttempt hname h) fun answer g' hg' => ?_
    dsimp only
    split
    · exact .pure hg'
    · refine .call trivial fun goOn _ _ => ?_
      cases goOn with
      | true => exact ih hg'
      | false => exact .pure hg'

end Recovery

theorem meets_recoverCandidate (h : g.Free) (now : Int) (candidate : RecoveryCandidate) :
    ManagerMeets lib cfg g (recoverCandidate lib cfg now candidate) fun _ g' => g'.Free := by
  unfold recoverCandidate
  dsimp only
  split
  · exact meets_recoverOne rfl h _
  · split
    · exact .seq (meets_forceRemoveContainer_of_free h _)
        fun _ _ hg' => .pure hg'
    · exact .pure h

theorem meets_recoverCandidates (h : g.Free) (now : Int)
    (candidates : List (Option RecoveryCandidate)) :
    ManagerMeets lib cfg g (recoverCandidates lib cfg now candidates) fun _ g' => g'.Free := by
  induction candidates generalizing g with
  | nil => exact .pure h
  | cons candidate candidates ih =>
    cases candidate with
    | none => exact ih h
    | some candidate =>
      refine .seq (meets_recoverCandidate h now candidate) fun _ _ hg' => ?_
      exact .seq (ih hg') fun _ _ hg'' => .pure hg''

theorem meets_cleanupOrphanContainers (h : g.Free) (expected : List String) :
    ManagerMeets lib cfg g (cleanupOrphanContainers expected) fun _ g' => g'.Free := by
  refine .call trivial fun names _ _ => ?_
  cases names with
  | none => exact .pure h
  | some names => exact meets_removeContainers h _

theorem meets_recover (h : g.Free) (candidates : List (Option RecoveryCandidate)) :
    ManagerMeets lib cfg g (recover lib cfg candidates) fun _ g' => g'.Free := by
  refine .call trivial fun now _ _ => ?_
  refine .seq (meets_recoverCandidates h now candidates) fun results _ hg' => ?_
  exact .seq (meets_cleanupOrphanContainers hg' _)
    fun _ _ hg'' => .pure hg''

end OtherCalls

/-- Every call keeps to the protocol. -/
theorem meets_body (c : ManagerCall) :
    ManagerMeets lib cfg c.start (c.body lib cfg) fun _ g => g.Finished := by
  have hfree : Phase.Free {} := ⟨rfl, rfl, rfl, rfl⟩
  cases c with
  | execute req =>
    refine .seq (meets_execute req) fun result g hg => ?_
    exact .last ⟨hg.reports, hg.exec⟩ fun _ _ _ => hg.finished
  | resolveResource req =>
    refine .seq (meets_resolveResource req) fun result g hg => ?_
    exact .last ⟨hg.reports, hg.resource⟩ fun _ _ _ => hg.finished
  | renewLease sessionID leaseTTLSec =>
    refine .seq (meets_renewLease hfree sessionID leaseTTLSec) fun result g hg => ?_
    exact .last trivial fun _ _ _ => hg
  | recover candidates =>
    refine .seq (meets_recover hfree candidates) fun results g hg => ?_
    exact .last trivial fun _ _ _ => hg.finished
  | resolveProxyTarget sessionID now => exact meets_resolveProxyTarget hfree sessionID now
  | janitor => exact meets_cleanupExpiredSessions hfree
  | expire session => exact meets_expireSessionLease hfree session

end Onlyboxes.Docker
