import Onlyboxes.Console.Connect

/-!
# How far a registry call has come

The phase of a `Connect` call, of a deletion and of a provisioning call, as far as its own
operations tell, and the operations each phase allows. A `Connect` call authenticates,
opens a connection, publishes it, writes its worker row, serves frames, and takes the
connection down again.

## Key results

- `meets_body`: the code of every call keeps to the protocol
- `keepsProtocol`: so does every call of every reachable state
-/

namespace Onlyboxes.Console

open Text

/-- A connection as its `Connect` call knows it. -/
structure Connection where
  hello : ConnectHello
  session : SessionRef
  sessionID : String
  /-- What its recovery began with. -/
  begun : Option (List RecoveryCandidate) := none

/-- How far `Upsert` has come: what it has read of the existing row. -/
inductive Registering where
  | pending
  | row (existing : Option WorkerNode)
  | labelled (base : Labels)

/-- How far a connection that is registered has come. -/
inductive Serving where
  | registered
  | started
  /-- Frames are received; `complete` says whether the recovery is. -/
  | receiving (complete : Bool)
  /-- A recovery report is applied, its ack not queued yet. -/
  | applied
  | reported
  deriving DecidableEq

/-- How far a deletion has come: what it does next. -/
inductive Deleting where
  | routes
  | cache
  | credential
  | row
  | session
  | clear (session : Option SessionRef)
  | close (session : SessionRef)
  | done

/-- The phase of a call. -/
inductive RegistryPhase where
  | idle
  | opening (hello : ConnectHello)
  /-- A credential of the worker was found. -/
  | authenticated (hello : ConnectHello)
  /-- The hello as the type of the worker allows it. -/
  | resolved (hello : ConnectHello)
  | named (hello : ConnectHello) (sessionID : String)
  | opened (c : Connection)
  /-- The worker has an active connection, and this one is given up. -/
  | refused (c : Connection)
  /-- Published in place of another connection, which is not closed yet. -/
  | replacing (c : Connection) (replaced : SessionRef)
  /-- Published, the worker row not written yet. -/
  | published (c : Connection) (registering : Registering)
  | serving (c : Connection) (stage : Serving)
  /-- Taken out of the session map, its routes not marked yet. -/
  | withdrawn (c : Connection)
  /-- Its routes are marked, the worker row is not cleared yet. -/
  | marked (c : Connection)
  | left (c : Connection)
  | creating
  /-- An id was drawn for a new worker. -/
  | allocated (workerID : String)
  | seeded (workerID : String)
  | deleting (nodeID : String) (stage : Deleting)

abbrev RegistryCallEvent := Event RegistryOp RegistryOp.Res Unit

namespace RegistryPhase

/-- The phase after the label lookup. -/
def afterLabels (m : CaseMap) (hello : ConnectHello) (labels : Labels) : RegistryPhase :=
  match resolvedHello m hello labels with
  | .ok hello => .resolved hello
  | .error _ => .authenticated hello

/-- The phase after an attempt to remove the connection. -/
def removal (c : Connection) (removed : Bool) : RegistryPhase :=
  if removed then .withdrawn c else .left c

/-- How an event changes the phase of a connection that is not published. -/
def nextOpened (c : Connection) : RegistryCallEvent → RegistryPhase
  | ⟨.claimSessionIfAvailable _, true, _⟩ => .published c .pending
  | ⟨.claimSessionIfAvailable _, false, _⟩ => .refused c
  | ⟨.beginRecovery .., .ok candidates, _⟩ => .opened { c with begun := some candidates }
  | ⟨.swapSession _, none, _⟩ => .published c .pending
  | ⟨.swapSession _, some replaced, _⟩ => .replacing c replaced
  | ⟨.removeSession _, removed, _⟩ => removal c removed
  | _ => .opened c

/-- How an event changes the phase of a connection that is published. -/
def nextPublished (c : Connection) (registering : Registering) :
    RegistryCallEvent → RegistryPhase
  | ⟨.beginRecovery .., .ok candidates, _⟩ =>
    .published { c with begun := some candidates } registering
  | ⟨.getWorkerNode _, .ok existing, _⟩ => .published c (.row existing)
  | ⟨.listWorkerLabels _, .ok base, _⟩ => .published c (.labelled base)
  | ⟨.upsertWorkerNode _, .ok (), _⟩ => .serving c .registered
  | ⟨.removeSession _, removed, _⟩ => removal c removed
  | _ => .published c registering

/-- How an event changes the phase of a connection that is registered. -/
def nextServing (c : Connection) (stage : Serving) : RegistryCallEvent → RegistryPhase
  | ⟨.startWriter _, _, _⟩ => .serving c .started
  | ⟨.enqueueControl .., .ok (), _⟩ =>
    match stage with
    | .started => .serving c (.receiving false)
    | .applied => .serving c .reported
    | _ => .serving c stage
  | ⟨.applyReport .., .ok (), _⟩ => .serving c .applied
  | ⟨.markRecoveryComplete _, _, _⟩ => .serving c (.receiving true)
  | ⟨.removeSession _, removed, _⟩ => removal c removed
  | _ => .serving c stage

/-- How an event changes the phase of a provisioning call. -/
def nextCreating (g : RegistryPhase) : RegistryCallEvent → RegistryPhase
  | ⟨.newID, .ok workerID, _⟩ => .allocated workerID
  | ⟨.seedProvisionedWorker workerID _ _ _, true, _⟩ => .seeded workerID
  | _ => g

/-- How an event changes the phase of a deletion. -/
def nextDeleting (nodeID : String) (stage : Deleting) : RegistryCallEvent → RegistryPhase
  | ⟨.deleteRoutesByNode _, .ok (), _⟩ => .deleting nodeID .cache
  | ⟨.deleteCredential _, _, _⟩ => .deleting nodeID .credential
  | ⟨.storeDeleteCredential _, _, _⟩ => .deleting nodeID .row
  | ⟨.storeDelete _, _, _⟩ => .deleting nodeID .session
  | ⟨.takeSession _, session, _⟩ => .deleting nodeID (.clear session)
  | ⟨.clearSessionByNode _, _, _⟩ =>
    match stage with
    | .clear (some session) => .deleting nodeID (.close session)
    | _ => .deleting nodeID .done
  | ⟨.close .., _, _⟩ => .deleting nodeID .done
  | _ => .deleting nodeID stage

/-- How an event changes the phase. -/
def next (m : CaseMap) (g : RegistryPhase) (e : RegistryCallEvent) : RegistryPhase :=
  match g with
  | .idle => .idle
  | .opening hello =>
    match e with
    | ⟨.cachedCredential _, some _, _⟩ => .authenticated hello
    | ⟨.getCredentialHash _, some _, _⟩ => .authenticated hello
    | _ => .opening hello
  | .authenticated hello =>
    match e with
    | ⟨.labelsByNodeID _, labels, _⟩ => afterLabels m hello labels
    | _ => .authenticated hello
  | .resolved hello =>
    match e with
    | ⟨.newID, .ok sessionID, _⟩ => .named hello sessionID
    | _ => .resolved hello
  | .named hello sessionID =>
    match e with
    | ⟨.newActiveSession .., session, _⟩ => .opened ⟨hello, session, sessionID, none⟩
    | _ => .named hello sessionID
  | .opened c => nextOpened c e
  | .refused c => .refused c
  | .replacing c _ => .published c .pending
  | .published c registering => nextPublished c registering e
  | .serving c stage => nextServing c stage e
  | .withdrawn c => .marked c
  | .marked c => .left c
  | .left c => .left c
  | .creating => nextCreating .creating e
  | .allocated workerID => nextCreating (.allocated workerID) e
  | .seeded workerID => nextCreating (.seeded workerID) e
  | .deleting nodeID stage => nextDeleting nodeID stage e

/-- The registration `Upsert` writes is made of the hello and of what it has read: the
    owner and the type of a provisioned worker stay. -/
def Registers (c : Connection) (registration : WorkerNodes.Registration) : Registering → Prop
  | .pending => False
  | .row existing =>
    existing.any WorkerNode.provisioned = false ∧ registration.provisioned = false
  | .labelled base =>
    registration.provisioned = true ∧ registration.labels =
      mergeLabelsPreserveKeys base c.hello.labels [labelOwnerIDKey, labelWorkerTypeKey]

/-- The operations on a connection that serves frames. -/
def AllowedServing (c : Connection) : Serving → RegistryOp → Prop
  | .registered, .startWriter session => session = c.session
  | .started, .enqueueControl session response =>
    session = c.session ∧ ∃ interval candidates, response = .connectAck c.sessionID interval candidates
  | .receiving _, .enqueueControl session response =>
    session = c.session ∧ ∀ sessionID interval candidates,
      response ≠ .connectAck sessionID interval candidates
  | .receiving _, .nowFn => True
  | .receiving _, .receive session => session = c.session
  | .receiving _, .updateHeartbeat nodeID _ _ => nodeID = trimSpace c.session.nodeID
  | .receiving _, .getWorkerNode _ => True
  | .receiving _, .recordHeartbeat session _ _ => session = c.session
  | .receiving _, .resolvePending session _ => session = c.session
  | .receiving _, .isReady session => session = c.session
  | .receiving _, .matchesRecoveryResults session _ => session = c.session
  | .receiving _, .applyReport session _ _ => session = c.session
  | .applied, .enqueueControl session response =>
    session = c.session ∧ response = .terminalSessionRecoveryAck
  | .reported, .markRecoveryComplete session => session = c.session
  | _, .removeSession session => session = c.session
  | _, _ => False

/-- The operations of a deletion. -/
def AllowedDeleting (nodeID : String) : Deleting → RegistryOp → Prop
  | .routes, .deleteRoutesByNode n => n = nodeID ∧ n ≠ ""
  | .cache, .deleteCredential n => n = nodeID
  | .credential, .storeDeleteCredential n => n = nodeID
  | .row, .storeDelete n => n = nodeID
  | .session, .takeSession n => n = nodeID
  | .clear _, .clearSessionByNode n => n = nodeID
  | .close session, .close session' _ => session' = session
  | _, _ => False

/-- The operations on a connection that is not published. -/
def AllowedOpened (cfg : RegistryConfig) (c : Connection) : RegistryOp → Prop
  | .configureSessionProxy session => session = c.session
  | .claimSessionIfAvailable session =>
    session = c.session ∧ cfg.workerConnectionPolicy = .reject
  | .beginRecovery nodeID _ =>
    nodeID = c.session.nodeID ∧ cfg.workerConnectionPolicy ≠ .reject
  | .setRecoveryCandidates session candidates =>
    session = c.session ∧ c.begun = some candidates
  | .swapSession session => session = c.session ∧ cfg.workerConnectionPolicy ≠ .reject
  | .removeSession session => session = c.session ∧ cfg.workerConnectionPolicy ≠ .reject
  | _ => False

/-- The operations on a connection that is published and not registered. -/
def AllowedPublished (c : Connection) (registering : Registering) : RegistryOp → Prop
  | .beginRecovery nodeID _ => nodeID = c.session.nodeID
  | .setRecoveryCandidates session candidates =>
    session = c.session ∧ c.begun = some candidates
  | .getWorkerNode nodeID => nodeID = trimSpace c.hello.nodeID
  | .listWorkerLabels nodeID => nodeID = trimSpace c.hello.nodeID
  | .upsertWorkerNode registration =>
    registration.nodeID = trimSpace c.hello.nodeID ∧
      registration.sessionID = trimSpace c.sessionID ∧ Registers c registration registering
  | .removeSession session => session = c.session
  | _ => False

/-- Which operations a call performs in which phase. -/
def Allowed (cfg : RegistryConfig) (g : RegistryPhase) (o : RegistryOp) : Prop :=
  match g with
  | .idle => False
  | .opening hello =>
    match o with
    | .cachedCredential nodeID => nodeID = trimSpace hello.nodeID ∧ nodeID ≠ ""
    | .getCredentialHash nodeID => nodeID = trimSpace hello.nodeID ∧ nodeID ≠ ""
    | _ => False
  | .authenticated hello =>
    match o with
    | .cacheCredential nodeID _ => nodeID = trimSpace hello.nodeID
    | .labelsByNodeID nodeID => nodeID = hello.nodeID
    | _ => False
  | .resolved _ => o = .nowFn ∨ o = .newID
  | .named hello sessionID => ∃ now, o = .newActiveSession hello sessionID now
  | .opened c => AllowedOpened cfg c o
  | .refused _ => False
  | .replacing _ replaced => o = .close replaced (some "session replaced by a newer connection")
  | .published c registering => AllowedPublished c registering o
  | .serving c stage => AllowedServing c stage o
  | .withdrawn c => o = .markUnavailable c.session.nodeID
  | .marked c => o = .clearSession c.session.nodeID c.sessionID
  | .left c => ∃ err, o = .close c.session err
  | .creating => o = .newID
  | .allocated workerID =>
    match o with
    | .newID => True
    | .newSecret => True
    | .seedProvisionedWorker nodeID _ _ _ => nodeID = workerID
    | _ => False
  | .seeded workerID =>
    match o with
    | .newID => True
    | .putCredentialIfAbsent nodeID _ => nodeID = workerID
    | .putCredentialHashIfAbsent nodeID _ => nodeID = workerID
    | .deleteCredential nodeID => nodeID = workerID
    | .storeDelete nodeID => nodeID = workerID
    | _ => False
  | .deleting nodeID stage => AllowedDeleting nodeID stage o

/-- The phases in which a call may return. -/
def Finished : RegistryPhase → Prop
  | .replacing .. | .published .. | .serving .. | .withdrawn _ | .marked _ => False
  | .deleting _ stage => stage = .routes ∨ stage = .session ∨ stage = .done
  | _ => True

end RegistryPhase

/-- The protocol of the registry calls. -/
def registryProtocol (m : CaseMap) (cfg : RegistryConfig) :
    Protocol RegistryOp RegistryOp.Res Unit RegistryPhase where
  allowed := RegistryPhase.Allowed cfg
  answers _ _ := True
  next := RegistryPhase.next m

/-- How a call starts. -/
def RegistryCall.start : RegistryCall → RegistryPhase
  | .connect (.ok (some hello)) _ => .opening hello
  | .connect .. => .idle
  | .deleteWorker nodeID => .deleting (trimSpace nodeID) .routes
  | .createWorker .. => .creating

section

variable {lib : RegistryLib} {cfg : RegistryConfig} {m : CaseMap}

/-- `Prog.Meets` for the registry calls. -/
abbrev RegistryMeets {α : Type} (m : CaseMap) (cfg : RegistryConfig) (g : RegistryPhase)
    (p : Registry α) (Q : α → RegistryPhase → Prop) : Prop :=
  Prog.Meets (registryProtocol m cfg) g p Q

open RegistryPhase

/-! ## Serving frames -/

/-- The phase of a connection that receives frames, or that is about to leave. -/
def AtService (c : Connection) (g : RegistryPhase) : Prop := ∃ stage, g = .serving c stage

theorem meets_touchWithSession (c : Connection) (complete : Bool) (sessionID : String) (now : Int) :
    RegistryMeets m cfg (.serving c (.receiving complete))
      (touchWithSession c.session.nodeID sessionID now)
      fun _ g => g = .serving c (.receiving complete) := by
  apply Prog.Meets.call rfl
  intro r st _
  rcases r with err | updated
  · exact .pure rfl
  cases updated with
  | true => exact .pure rfl
  | false =>
    apply Prog.Meets.call trivial
    intro r st _
    rcases r with err | _ | node
    · exact .pure rfl
    · exact .pure rfl
    · dsimp only
      split
      · exact .pure rfl
      · exact .pure rfl

theorem meets_handleHeartbeat (c : Connection) (complete : Bool) (heartbeat : HeartbeatFrame) :
    RegistryMeets m cfg (.serving c (.receiving complete))
      (handleHeartbeat cfg c.session heartbeat)
      fun _ g => g = .serving c (.receiving complete) := by
  unfold handleHeartbeat
  split
  · exact .pure rfl
  split
  · exact .pure rfl
  rename_i hnode
  split
  · exact .pure rfl
  rw [not_not.mp hnode]
  apply Prog.Meets.call trivial
  intro now st _
  refine .seq (meets_touchWithSession c complete heartbeat.sessionID now) ?_
  rintro r g rfl
  cases r with
  | some err => exact .pure rfl
  | none =>
    apply Prog.Meets.call rfl
    intro _ st _
    refine .call ⟨rfl, nofun⟩ ?_
    intro r st _
    rcases r with err | ⟨⟩
    · exact .pure rfl
    · exact .pure rfl

theorem meets_handleCommandResult (c : Connection) (complete : Bool) (result : CommandResult) :
    RegistryMeets m cfg (.serving c (.receiving complete)) (handleCommandResult c.session result)
      fun _ g => g = .serving c (.receiving complete) := by
  unfold handleCommandResult
  split
  · exact .pure rfl
  · apply Prog.Meets.call rfl
    intro _ st _
    exact .pure rfl

/-- A report that is handled leaves the connection receiving. -/
theorem meets_handleRecoveryReport (c : Connection) (complete recoveryRequired : Bool)
    (report : List (Option RecoveryResult)) :
    RegistryMeets m cfg (.serving c (.receiving complete))
      (handleRecoveryReport recoveryRequired c.session report)
      fun r g => AtService c g ∧ (r = none → ∃ complete', g = .serving c (.receiving complete')) := by
  unfold handleRecoveryReport
  split
  · exact .pure ⟨⟨_, rfl⟩, nofun⟩
  apply Prog.Meets.call rfl
  intro ready st _
  cases ready with
  | true =>
    apply Prog.Meets.call rfl
    intro repeated st _
    cases repeated with
    | false => exact .pure ⟨⟨_, rfl⟩, nofun⟩
    | true =>
      refine .call ⟨rfl, nofun⟩ ?_
      intro r st _
      rcases r with err | ⟨⟩
      · exact .pure ⟨⟨_, rfl⟩, nofun⟩
      · exact .pure ⟨⟨_, rfl⟩, fun _ => ⟨_, rfl⟩⟩
  | false =>
    apply Prog.Meets.call trivial
    intro now st _
    apply Prog.Meets.call rfl
    intro r st _
    rcases r with err | ⟨⟩
    · exact .pure ⟨⟨_, rfl⟩, nofun⟩
    refine .call ⟨rfl, rfl⟩ ?_
    intro r st _
    rcases r with err | ⟨⟩
    · exact .pure ⟨⟨_, rfl⟩, nofun⟩
    apply Prog.Meets.call rfl
    intro _ st _
    exact .pure ⟨⟨_, rfl⟩, fun _ => ⟨_, rfl⟩⟩

theorem meets_receiveLoop (c : Connection) (recoveryRequired : Bool) (frames : Nat)
    (complete : Bool) :
    RegistryMeets m cfg (.serving c (.receiving complete))
      (receiveLoop cfg recoveryRequired c.session frames) fun _ g => AtService c g := by
  induction frames generalizing complete with
  | zero => exact .pure ⟨_, rfl⟩
  | succ frames ih =>
    apply Prog.Meets.call rfl
    intro frame st _
    cases frame with
    | done | contextDone err | other => exact .pure ⟨_, rfl⟩
    | writerEnded err | ended err =>
      cases err with
      | none | some err => exact .pure ⟨_, rfl⟩
    | heartbeat heartbeat =>
      refine .seq (meets_handleHeartbeat c complete heartbeat) ?_
      rintro r g rfl
      cases r with
      | some err => exact .pure ⟨_, rfl⟩
      | none => exact ih complete
    | commandResult result =>
      refine .seq (meets_handleCommandResult c complete result) ?_
      rintro r g rfl
      cases r with
      | some err => exact .pure ⟨_, rfl⟩
      | none => exact ih complete
    | recoveryReport report =>
      refine .seq (meets_handleRecoveryReport c complete recoveryRequired report) ?_
      rintro r g ⟨hg, hnone⟩
      cases r with
      | some err => exact .pure hg
      | none =>
        obtain ⟨complete', rfl⟩ := hnone rfl
        exact ih complete'

/-! ## Publishing and registering -/

/-- The same connection, whatever its recovery began with. -/
def Connection.Same (c c' : Connection) : Prop :=
  c'.hello = c.hello ∧ c'.session = c.session ∧ c'.sessionID = c.sessionID

/-- A connection whose deferred function can run: it may be in the session map. -/
inductive Leaving (cfg : RegistryConfig) (c : Connection) : RegistryPhase → Prop
  | opened {c' : Connection} (h : c.Same c') (hreplace : cfg.workerConnectionPolicy ≠ .reject) :
      Leaving cfg c (.opened c')
  | published {c' : Connection} (h : c.Same c') (registering : Registering) :
      Leaving cfg c (.published c' registering)
  | serving {c' : Connection} (h : c.Same c') (stage : Serving) : Leaving cfg c (.serving c' stage)

theorem Connection.Same.refl (c : Connection) : c.Same c := ⟨rfl, rfl, rfl⟩

variable {g : RegistryPhase}

theorem Leaving.of_begun {c : Connection} {begun : Option (List RecoveryCandidate)}
    (h : Leaving cfg { c with begun := begun } g) : Leaving cfg c g := by
  cases h with
  | opened h hreplace => exact Leaving.opened (c := c) h hreplace
  | published h registering => exact Leaving.published (c := c) h registering
  | serving h stage => exact Leaving.serving (c := c) h stage

/-- What `Upsert` leaves behind. -/
def Upserted (c : Connection) (g : RegistryPhase) : Except String Unit → Prop
  | .ok () => g = .serving c .registered
  | .error _ => ∃ registering, g = .published c registering

theorem meets_upsert (c : Connection) (now : Int) :
    RegistryMeets m cfg (.published c .pending) (upsert c.hello c.sessionID now)
      fun r g => Upserted c g r := by
  unfold upsert
  dsimp only
  split
  · exact .pure ⟨_, rfl⟩
  split
  · exact .pure ⟨_, rfl⟩
  apply Prog.Meets.call rfl
  intro r st _
  rcases r with err | existing
  · exact .pure ⟨_, rfl⟩
  -- A worker that is not provisioned is written with the labels of its hello.
  have hplain : existing.any WorkerNode.provisioned = false →
      RegistryMeets m cfg (.published c (.row existing))
        (perform (.upsertWorkerNode
          { nodeID := trimSpace c.hello.nodeID
            sessionID := trimSpace c.sessionID
            provisioned := existing.any WorkerNode.provisioned
            nodeName := upsertNodeName c.hello.nodeName existing
            labels := c.hello.labels
            nowUnixMs := now })) fun r g => Upserted c g r := by
    intro hprov
    refine .last ⟨rfl, rfl, hprov, hprov⟩ ?_
    intro r st _
    rcases r with err | ⟨⟩
    · exact ⟨_, rfl⟩
    · rfl
  apply Prog.Meets.bind
  cases existing with
  | none => exact .pure (hplain rfl)
  | some node =>
    unfold upsertLabels
    dsimp only
    split
    · rename_i hprov
      apply Prog.Meets.call rfl
      intro r st _
      rcases r with err | base
      · exact .pure (.pure ⟨_, rfl⟩)
      · apply Prog.Meets.pure
        refine .last ⟨rfl, rfl, hprov, rfl⟩ ?_
        intro r st _
        rcases r with err | ⟨⟩
        · exact ⟨_, rfl⟩
        · rfl
    · rename_i hprov
      exact .pure (hplain (Bool.eq_false_iff.mpr hprov))

/-- Publishing under the replacing policy, from a connection whose recovery began. -/
theorem meets_replaceSession (c : Connection) (hpolicy : cfg.workerConnectionPolicy ≠ .reject) :
    RegistryMeets m cfg (.opened c) (replaceSession cfg c.session)
      fun _ g => g = .published c .pending := by
  unfold replaceSession
  rw [if_neg hpolicy]
  refine .call ⟨rfl, hpolicy⟩ ?_
  intro r st _
  cases r with
  | none => exact .pure rfl
  | some replaced =>
    apply Prog.Meets.last rfl
    intro _ st _
    rfl

/-- Registering a published connection and serving it. -/
theorem meets_serveRegistered (c : Connection) (candidates : List RecoveryCandidate) (now : Int)
    (frames : Nat) :
    RegistryMeets m cfg (.published c .pending)
      (serveRegistered lib cfg c.hello c.session c.sessionID candidates now frames)
      fun _ g => Leaving cfg c g := by
  refine .seq (meets_upsert c now) fun r g hg => ?_
  rcases r with err | ⟨⟩
  · obtain ⟨registering, rfl⟩ := hg
    exact .pure (.published (.refl c) registering)
  · obtain rfl : g = _ := hg
    apply Prog.Meets.call rfl
    intro _ st _
    refine .call ⟨rfl, _, _, rfl⟩ ?_
    intro r st _
    rcases r with err | ⟨⟩
    · exact .pure (.serving (.refl c) _)
    · apply (meets_receiveLoop c _ frames false).mono
      rintro r g ⟨stage, rfl⟩
      exact .serving (.refl c) stage

/-- The phase `Connect` serves a connection from: under the rejecting policy it is in the
    session map already. -/
def served (cfg : RegistryConfig) (c : Connection) : RegistryPhase :=
  if cfg.workerConnectionPolicy = .reject then .published c .pending else .opened c

theorem meets_serveConnection (c : Connection) (now : Int) (frames : Nat) :
    RegistryMeets m cfg (served cfg c)
      (serveConnection lib cfg c.hello c.session c.sessionID now frames)
      fun _ g => Leaving cfg c g := by
  unfold serveConnection served
  by_cases hpolicy : cfg.workerConnectionPolicy = .reject
  · rw [if_pos hpolicy]
    apply Prog.Meets.call rfl
    intro r st _
    rcases r with err | candidates
    · exact .pure (.published (.refl c) _)
    refine .call ⟨rfl, rfl⟩ ?_
    intro _ st _
    unfold replaceSession
    rw [if_pos hpolicy]
    apply Prog.Meets.bind
    apply Prog.Meets.pure
    exact (meets_serveRegistered { c with begun := some candidates } candidates now frames).mono
      fun _ _ hg => hg.of_begun
  · rw [if_neg hpolicy]
    refine .call ⟨rfl, hpolicy⟩ ?_
    intro r st _
    rcases r with err | candidates
    · exact .pure (.opened (.refl c) hpolicy)
    refine .call ⟨rfl, rfl⟩ ?_
    intro _ st _
    refine .seq (meets_replaceSession { c with begun := some candidates } hpolicy) ?_
    rintro _ g rfl
    exact (meets_serveRegistered { c with begun := some candidates } candidates now frames).mono
      fun _ _ hg => hg.of_begun

/-! ## Leaving -/

theorem meets_removal {c c' : Connection} (hsame : c.Same c') (removed : Bool) :
    RegistryMeets m cfg (removal c' removed) (do
      if removed then
        perform (.markUnavailable c.session.nodeID)
        let _ ← perform (.clearSession c.session.nodeID c.sessionID)
        return ()
      else return ()) fun _ g => ∃ c', c.Same c' ∧ g = .left c' := by
  cases removed with
  | false => exact .pure ⟨c', hsame, rfl⟩
  | true =>
    have hnode : c.session.nodeID = c'.session.nodeID := by rw [hsame.2.1]
    have hid : c.sessionID = c'.sessionID := hsame.2.2.symm
    refine .call (congrArg RegistryOp.markUnavailable hnode) ?_
    intro _ st _
    refine .call (congr (congrArg RegistryOp.clearSession hnode) hid) ?_
    intro _ st _
    exact .pure ⟨c', hsame, rfl⟩

theorem meets_removeSession {c : Connection} (hg : Leaving cfg c g) :
    RegistryMeets m cfg g (removeSession c.session c.sessionID)
      fun _ g => ∃ c', c.Same c' ∧ g = .left c' := by
  cases hg with
  | opened h hreplace =>
    exact .call ⟨h.2.1.symm, hreplace⟩ fun removed _ _ => meets_removal h removed
  | published h registering =>
    exact .call h.2.1.symm fun removed _ _ => meets_removal h removed
  | serving h stage =>
    refine .call ?_ fun removed _ _ => meets_removal h removed
    cases stage <;> exact h.2.1.symm

/-! ## `Connect` -/

theorem meets_connectAuthenticated (hello : ConnectHello) (frames : Nat) :
    RegistryMeets m cfg (.resolved hello) (connectAuthenticated lib cfg hello frames)
      fun _ g => g.Finished := by
  refine .call (.inl rfl) ?_
  intro now st _
  refine .call (.inr rfl) ?_
  intro r st _
  rcases r with err | sessionID
  · exact .pure trivial
  refine .call ⟨now, rfl⟩ ?_
  intro session st _
  apply Prog.Meets.call rfl
  intro r st _
  cases r with
  | some err => exact .pure trivial
  | none =>
    apply Prog.Meets.bind
    have hserve : RegistryMeets m cfg (served cfg ⟨hello, session, sessionID, none⟩)
        (do let retErr ← serveConnection lib cfg hello session sessionID now frames
            removeSession session sessionID
            perform (.close session (retErr.map ConnectError.message))
            return retErr) fun _ g => g.Finished := by
      refine .seq (meets_serveConnection ⟨hello, session, sessionID, none⟩ now frames)
        fun retErr g hg => ?_
      refine .seq (meets_removeSession hg) ?_
      rintro _ _ ⟨c', hsame, rfl⟩
      refine .call ⟨_, congrArg (RegistryOp.close · _) hsame.2.1.symm⟩ ?_
      intro _ st _
      exact .pure trivial
    unfold claimSession
    by_cases hpolicy : cfg.workerConnectionPolicy = .reject
    · rw [if_pos hpolicy]
      refine .last ⟨rfl, hpolicy⟩ ?_
      intro claimed st _
      cases claimed with
      | false => exact .pure trivial
      | true =>
        unfold served at hserve
        rw [if_pos hpolicy] at hserve
        exact hserve
    · rw [if_neg hpolicy]
      unfold served at hserve
      rw [if_neg hpolicy] at hserve
      exact .pure hserve

theorem meets_getCredential (hello : ConnectHello) :
    RegistryMeets m cfg (.opening hello) (getCredential hello.nodeID)
      fun r g => g.Finished ∧ (r.isSome → g = .authenticated hello) := by
  unfold getCredential
  dsimp only
  split
  · exact .pure ⟨trivial, nofun⟩
  rename_i hne
  refine .call ⟨rfl, hne⟩ ?_
  intro r st _
  cases r with
  | some secret => exact .pure ⟨trivial, fun _ => rfl⟩
  | none =>
    refine .call ⟨rfl, hne⟩ ?_
    intro r st _
    cases r with
    | none => exact .pure ⟨trivial, nofun⟩
    | some hash =>
      apply Prog.Meets.call rfl
      intro _ st _
      exact .pure ⟨trivial, fun _ => rfl⟩

-- What the labels of a worker make of its hello does not matter for the phases.
attribute [local irreducible] resolvedHello

theorem meets_resolveHelloByWorkerType (hello : ConnectHello) :
    RegistryMeets m cfg (.authenticated hello) (resolveHelloByWorkerType m hello)
      fun r g => g.Finished ∧ ∀ hello', r = .ok hello' → g = .resolved hello' := by
  apply Prog.Meets.call rfl
  intro labels st _
  refine .pure ⟨?_, fun hello' h => ?_⟩
  · change (afterLabels m hello labels).Finished
    unfold afterLabels
    split
    · trivial
    · trivial
  · change afterLabels m hello labels = _
    rw [afterLabels, h]

theorem meets_connect (first : Except ConnectError (Option ConnectHello)) (frames : Nat) :
    RegistryMeets lib.caseMap cfg (RegistryCall.connect first frames).start
      (connect lib cfg first frames) fun _ g => g.Finished := by
  rcases first with err | _ | hello
  · exact .pure trivial
  · exact .pure trivial
  unfold connect
  dsimp only
  split
  · exact .pure trivial
  refine .seq (meets_getCredential hello) ?_
  rintro r g ⟨hfinished, hg⟩
  cases r with
  | none => exact .pure hfinished
  | some secret =>
    obtain rfl := hg rfl
    dsimp only
    split
    · exact .pure trivial
    split
    · exact .pure trivial
    refine .seq (meets_resolveHelloByWorkerType hello) ?_
    rintro r g ⟨hfinished, hg⟩
    rcases r with err | hello'
    · exact .pure hfinished
    · obtain rfl := hg hello' rfl
      exact meets_connectAuthenticated hello' frames

/-! ## Provisioning and deletion -/

/-- The phases of a provisioning call. -/
inductive Provisioning : RegistryPhase → Prop
  | creating : Provisioning .creating
  | allocated (workerID : String) : Provisioning (.allocated workerID)
  | seeded (workerID : String) : Provisioning (.seeded workerID)

theorem Provisioning.finished (h : Provisioning g) : g.Finished := by
  cases h <;> trivial

theorem meets_createAttempts (ownerID workerType : String) (now offlineTTLMs : Int) (attempts : Nat)
    (hg : Provisioning g) :
    RegistryMeets m cfg g (createAttempts lib ownerID workerType now offlineTTLMs attempts)
      fun _ g => g.Finished := by
  induction attempts generalizing g with
  | zero => exact .pure hg.finished
  | succ attempts ih =>
    have hallowed : RegistryPhase.Allowed cfg g .newID := by
      cases hg with
      | creating => rfl
      | allocated | seeded => trivial
    have hstays : ∀ err st, (registryProtocol m cfg).next g ⟨.newID, .error err, st⟩ = g := by
      cases hg <;> exact fun _ _ => rfl
    have hnext : ∀ id st, (registryProtocol m cfg).next g ⟨.newID, .ok id, st⟩ = .allocated id := by
      cases hg <;> exact fun _ _ => rfl
    apply Prog.Meets.call hallowed
    intro r st _
    rcases r with err | workerID
    · rw [hstays]
      exact .pure hg.finished
    rw [hnext]
    apply Prog.Meets.call trivial
    intro r st _
    rcases r with err | workerSecret
    · exact .pure trivial
    apply Prog.Meets.call rfl
    intro added st _
    cases added with
    | false => exact ih (.allocated workerID)
    | true =>
      apply Prog.Meets.call rfl
      intro cached st _
      cases cached with
      | false =>
        apply Prog.Meets.call rfl
        intro _ st _
        exact ih (.seeded workerID)
      | true =>
        apply Prog.Meets.call rfl
        intro stored st _
        cases stored with
        | true => exact .pure trivial
        | false =>
          apply Prog.Meets.call rfl
          intro _ st _
          apply Prog.Meets.call rfl
          intro _ st _
          exact ih (.seeded workerID)

theorem meets_createProvisionedWorkerForOwner (ownerID workerType : String)
    (now offlineTTLMs : Int) :
    RegistryMeets m cfg .creating
      (createProvisionedWorkerForOwner lib ownerID workerType now offlineTTLMs)
      fun _ g => g.Finished := by
  unfold createProvisionedWorkerForOwner
  dsimp only
  split
  · exact .pure trivial
  split
  · exact .pure trivial
  · exact meets_createAttempts _ _ now offlineTTLMs _ .creating

theorem meets_disconnectWorker {nodeID : String} (htrim : trimSpace nodeID = nodeID)
    (reason : String) :
    RegistryMeets m cfg (.deleting nodeID .session) (disconnectWorker nodeID reason)
      fun _ g => g.Finished := by
  unfold disconnectWorker
  dsimp only
  split
  · exact .pure (.inr (.inl rfl))
  apply Prog.Meets.call htrim
  intro session st _
  apply Prog.Meets.call htrim
  intro _ st _
  cases session with
  | none => exact .pure (.inr (.inr rfl))
  | some session =>
    apply Prog.Meets.last rfl
    intro _ st _
    exact .inr (.inr rfl)

theorem meets_deleteProvisionedWorker (nodeID : String) :
    RegistryMeets m cfg (.deleting (trimSpace nodeID) .routes) (deleteProvisionedWorker nodeID)
      fun _ g => g.Finished := by
  unfold deleteProvisionedWorker
  dsimp only
  split
  · exact .pure (.inl rfl)
  rename_i hne
  refine .call ⟨rfl, hne⟩ ?_
  intro r st _
  rcases r with err | ⟨⟩
  · exact .pure (.inl rfl)
  apply Prog.Meets.call rfl
  intro cached st _
  apply Prog.Meets.call rfl
  intro stored st _
  apply Prog.Meets.call rfl
  intro deleted st _
  split
  · exact .pure (.inr (.inl rfl))
  · refine .seq (meets_disconnectWorker (trimSpace_trimSpace nodeID) _) fun _ g hg => ?_
    exact .pure hg

/-- The code of every call keeps to the protocol. -/
theorem meets_body (c : RegistryCall) :
    RegistryMeets lib.caseMap cfg c.start (c.body lib cfg) fun _ g => g.Finished := by
  cases c with
  | connect first frames =>
    exact .seq (meets_connect first frames) fun _ _ hg => .pure hg
  | deleteWorker nodeID =>
    exact .bind
      ((meets_deleteProvisionedWorker nodeID).mono fun _ _ hg => .pure hg)
  | createWorker ownerID workerType now offlineTTLMs =>
    exact .bind
      ((meets_createProvisionedWorkerForOwner ownerID workerType now offlineTTLMs).mono
        fun _ _ hg => .pure hg)

end

/-! ## Threads -/

/-- The phase a call has reached. -/
def phaseOf (m : CaseMap) (cfg : RegistryConfig) (t : RegistryThread) : RegistryPhase :=
  (registryProtocol m cfg).after t.call.start t.log

/-- In every reachable state every call has kept to the protocol and will. -/
theorem keepsProtocol {lib : RegistryLib} {cfg : RegistryConfig}
    {ok : RegistryPool → RegistryAction → Prop} {p : RegistryPool}
    (h : (registrySystem lib cfg).machine.ReachableWhere ok p) :
    ∀ t ∈ p.threads, ThreadSystem.Thread.Keeps (registryProtocol lib.caseMap cfg)
      RegistryCall.start (fun _ g => g.Finished) t :=
  ThreadSystem.keeps (registryProtocol lib.caseMap cfg) RegistryCall.start (fun _ g => g.Finished)
    meets_body (fun _ _ _ _ _ _ _ _ _ _ _ _ _ _ => trivial) h

end Onlyboxes.Console
