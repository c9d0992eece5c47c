import Onlyboxes.Spec.RegistrySteps

/-!
# Runs of the registry

What holds between the stored workers, the connections and the calls in every run of the
registry. Ids are drawn by one call each; workers are known under ids that were drawn;
every connection belongs to one `Connect` call, and a connection in the session map to
one that has not left yet.

## Key results

- `WorkerIds.of_reachable`: where the ids of workers and connections come from
- `Connections.of_reachable`: which call a connection in the session map belongs to
-/

namespace Onlyboxes.Console

open Text RegistryState RegistryPhase ThreadSystem AList

/-! ## What a phase tells -/

variable {hello : ConnectHello} {labels : Labels}

namespace RegistryPhase

/-- The connection of a call. -/
def connection : RegistryPhase → Option Connection
  | .opened c | .refused c | .replacing c _ | .published c _ | .serving c _ | .withdrawn c
  | .marked c | .left c => some c
  | _ => none

/-- The connection of a call that may be in the session map. -/
def live : RegistryPhase → Option Connection
  | .replacing c _ | .published c _ | .serving c _ => some c
  | _ => none

/-- The worker a call has authenticated as. -/
def identity : RegistryPhase → Option String
  | .authenticated hello | .resolved hello | .named hello _ => some (trimSpace hello.nodeID)
  | g => g.connection.map fun c => trimSpace c.hello.nodeID

/-- The id a call has drawn, for its connection or for a new worker. -/
def drawnID : RegistryPhase → Option String
  | .named _ id | .allocated id | .seeded id => some id
  | g => g.connection.map Connection.sessionID

variable {m : CaseMap} {cfg : RegistryConfig} {g : RegistryPhase} {c : Connection}

theorem connection_of_live (h : g.live = some c) : g.connection = some c := by
  cases g <;> first | exact h | nomatch h

theorem identity_of_connection (h : g.connection = some c) :
    g.identity = some (trimSpace c.hello.nodeID) := by
  cases g <;> first | (obtain rfl := Option.some.inj h; rfl) | nomatch h

theorem drawnID_of_connection (h : g.connection = some c) : g.drawnID = some c.sessionID := by
  cases g <;> first | (obtain rfl := Option.some.inj h; rfl) | nomatch h

variable {n : String}

theorem trimSpace_identity (h : g.identity = some n) : trimSpace n = n := by
  cases g <;> first | (obtain rfl := Option.some.inj h; exact trimSpace_trimSpace _) | nomatch h

/-! ## How events move a phase -/

theorem nodeID_of_resolvedHello {hello' : ConnectHello}
    (h : resolvedHello m hello labels = .ok hello') : hello'.nodeID = hello.nodeID := by
  unfold resolvedHello restrictHello at h
  split at h
  · cases h
    rfl
  · split at h
    · nomatch h
    · split at h
      · nomatch h
      · cases h
        rfl

theorem afterLabels_cases (m : CaseMap) (hello : ConnectHello) (labels : Labels) :
    afterLabels m hello labels = .authenticated hello ∨
      ∃ hello', resolvedHello m hello labels = .ok hello' ∧
        afterLabels m hello labels = .resolved hello' := by
  unfold afterLabels
  split
  · rename_i hello' h
    exact .inr ⟨hello', h, rfl⟩
  · exact .inl rfl

/-- The event is a credential of worker `n`. -/
def Authenticates (n : String) (e : RegistryCallEvent) : Prop :=
  n ≠ "" ∧ ∃ v, e = ⟨.cachedCredential n, some v, ()⟩ ∨ e = ⟨.getCredentialHash n, some v, ()⟩

/-- How an event moves the deletion of worker `n`. -/
inductive DeletionMoves (n : String) : Deleting → RegistryCallEvent → Deleting → Prop
  | stays (stage : Deleting) (e : RegistryCallEvent) : DeletionMoves n stage e stage
  | routes (hn : n ≠ "") : DeletionMoves n .routes ⟨.deleteRoutesByNode n, .ok (), ()⟩ .cache
  | cache (deleted : Bool) : DeletionMoves n .cache ⟨.deleteCredential n, deleted, ()⟩ .credential
  | credential (deleted : Bool) :
      DeletionMoves n .credential ⟨.storeDeleteCredential n, deleted, ()⟩ .row
  | row (deleted : Bool) : DeletionMoves n .row ⟨.storeDelete n, deleted, ()⟩ .session
  | session (session : Option SessionRef) :
      DeletionMoves n .session ⟨.takeSession n, session, ()⟩ (.clear session)
  | clearNone (r : Except String Unit) :
      DeletionMoves n (.clear none) ⟨.clearSessionByNode n, r, ()⟩ .done
  | clear (session : SessionRef) (r : Except String Unit) :
      DeletionMoves n (.clear (some session)) ⟨.clearSessionByNode n, r, ()⟩ (.close session)
  | close (session : SessionRef) (err : Option String) :
      DeletionMoves n (.close session) ⟨.close session err, (), ()⟩ .done

/-- How an event that its phase allows moves a call. -/
inductive Moves (m : CaseMap) : RegistryPhase → RegistryCallEvent → RegistryPhase → Prop
  | stays (g : RegistryPhase) (e : RegistryCallEvent) : Moves m g e g
  | authenticates (hello : ConnectHello) (e : RegistryCallEvent)
      (he : Authenticates (trimSpace hello.nodeID) e) :
      Moves m (.opening hello) e (.authenticated hello)
  | resolves (hello hello' : ConnectHello) (labels : Labels)
      (h : resolvedHello m hello labels = .ok hello') :
      Moves m (.authenticated hello) ⟨.labelsByNodeID hello.nodeID, labels, ()⟩ (.resolved hello')
  | names (hello : ConnectHello) (sessionID : String) :
      Moves m (.resolved hello) ⟨.newID, .ok sessionID, ()⟩ (.named hello sessionID)
  | opens (hello : ConnectHello) (sessionID : String) (now : Int) (session : SessionRef) :
      Moves m (.named hello sessionID) ⟨.newActiveSession hello sessionID now, session, ()⟩
        (.opened ⟨hello, session, sessionID, none⟩)
  | begins (c : Connection) (now : Int) (candidates : List RecoveryCandidate) :
      Moves m (.opened c) ⟨.beginRecovery c.session.nodeID now, .ok candidates, ()⟩
        (.opened { c with begun := some candidates })
  | claims (c : Connection) :
      Moves m (.opened c) ⟨.claimSessionIfAvailable c.session, true, ()⟩ (.published c .pending)
  | refuses (c : Connection) :
      Moves m (.opened c) ⟨.claimSessionIfAvailable c.session, false, ()⟩ (.refused c)
  | swaps (c : Connection) :
      Moves m (.opened c) ⟨.swapSession c.session, none, ()⟩ (.published c .pending)
  | replaces (c : Connection) (replaced : SessionRef) :
      Moves m (.opened c) ⟨.swapSession c.session, some replaced, ()⟩ (.replacing c replaced)
  | closesReplaced (c : Connection) (replaced : SessionRef) (e : RegistryCallEvent) :
      Moves m (.replacing c replaced) e (.published c .pending)
  | beginsPublished (c : Connection) (registering : Registering) (now : Int)
      (candidates : List RecoveryCandidate) :
      Moves m (.published c registering) ⟨.beginRecovery c.session.nodeID now, .ok candidates, ()⟩
        (.published { c with begun := some candidates } registering)
  | readsRow (c : Connection) (registering : Registering) (existing : Option WorkerNode) :
      Moves m (.published c registering)
        ⟨.getWorkerNode (trimSpace c.hello.nodeID), .ok existing, ()⟩ (.published c (.row existing))
  | readsLabels (c : Connection) (registering : Registering) (base : Labels) :
      Moves m (.published c registering)
        ⟨.listWorkerLabels (trimSpace c.hello.nodeID), .ok base, ()⟩ (.published c (.labelled base))
  | registers (c : Connection) (registering : Registering)
      (registration : WorkerNodes.Registration) :
      Moves m (.published c registering) ⟨.upsertWorkerNode registration, .ok (), ()⟩
        (.serving c .registered)
  | serves (c : Connection) (stage stage' : Serving) (e : RegistryCallEvent) :
      Moves m (.serving c stage) e (.serving c stage')
  | withdraws (g : RegistryPhase) (c : Connection) (hg : g = .opened c ∨ g.live = some c) :
      Moves m g ⟨.removeSession c.session, true, ()⟩ (.withdrawn c)
  | leaves (g : RegistryPhase) (c : Connection) (hg : g = .opened c ∨ g.live = some c) :
      Moves m g ⟨.removeSession c.session, false, ()⟩ (.left c)
  | marks (c : Connection) (e : RegistryCallEvent) : Moves m (.withdrawn c) e (.marked c)
  | clears (c : Connection) (e : RegistryCallEvent) : Moves m (.marked c) e (.left c)
  | draws (g : RegistryPhase) (workerID : String)
      (hg : g = .creating ∨ ∃ id, g = .allocated id ∨ g = .seeded id) :
      Moves m g ⟨.newID, .ok workerID, ()⟩ (.allocated workerID)
  | seeds (workerID : String) (labels : Labels) (now offlineTTLMs : Int) :
      Moves m (.allocated workerID)
        ⟨.seedProvisionedWorker workerID labels now offlineTTLMs, true, ()⟩ (.seeded workerID)
  | deletes (nodeID : String) (stage stage' : Deleting) (e : RegistryCallEvent)
      (h : DeletionMoves nodeID stage e stage') :
      Moves m (.deleting nodeID stage) e (.deleting nodeID stage')

/-- Removing a connection. -/
theorem moves_removal (hg : g = .opened c ∨ g.live = some c) {session : SessionRef}
    (hsession : session = c.session) (removed : Bool) :
    Moves m g ⟨.removeSession session, removed, ()⟩ (removal c removed) := by
  subst hsession
  cases removed with
  | true => exact .withdraws g c hg
  | false => exact .leaves g c hg

variable {e : RegistryCallEvent}

theorem moves_nextOpened (h : AllowedOpened cfg c e.op) :
    Moves m (.opened c) e (nextOpened c e) := by
  unfold nextOpened
  split
  · obtain ⟨rfl, -⟩ := h
    exact .claims c
  · obtain ⟨rfl, -⟩ := h
    exact .refuses c
  · obtain ⟨rfl, -⟩ := h
    exact .begins c _ _
  · obtain ⟨rfl, -⟩ := h
    exact .swaps c
  · obtain ⟨rfl, -⟩ := h
    exact .replaces c _
  · exact moves_removal (.inl rfl) h.1 _
  · exact .stays _ _

theorem moves_nextPublished {registering : Registering} (h : AllowedPublished c registering e.op) :
    Moves m (.published c registering) e (nextPublished c registering e) := by
  unfold nextPublished
  split
  · obtain rfl : _ = c.session.nodeID := h
    exact .beginsPublished c registering _ _
  · obtain rfl : _ = trimSpace c.hello.nodeID := h
    exact .readsRow c registering _
  · obtain rfl : _ = trimSpace c.hello.nodeID := h
    exact .readsLabels c registering _
  · exact .registers c registering _
  · exact moves_removal (.inr rfl) h _
  · exact .stays _ _

theorem moves_nextServing {stage : Serving} (h : AllowedServing c stage e.op) :
    Moves m (.serving c stage) e (nextServing c stage e) := by
  unfold nextServing
  split
  · exact .serves c stage _ _
  · split
    · exact .serves c _ _ _
    · exact .serves c _ _ _
    · exact .serves c _ _ _
  · exact .serves c stage _ _
  · exact .serves c stage _ _
  · rename_i session removed st
    have hsession : session = c.session := by cases stage <;> exact h
    exact moves_removal (.inr rfl) hsession _
  · exact .stays _ _

theorem moves_nextCreating (hg : g = .creating ∨ ∃ id, g = .allocated id ∨ g = .seeded id)
    (h : g.Allowed cfg e.op) :
    Moves m g e (nextCreating g e) := by
  unfold nextCreating
  split
  · exact .draws g _ hg
  · rename_i workerID labels now offlineTTLMs st
    rcases hg with rfl | ⟨id, rfl | rfl⟩
    · nomatch h
    · obtain rfl : workerID = id := h
      exact .seeds workerID labels now offlineTTLMs
    · nomatch h
  · exact .stays g _

theorem moves_nextDeleting {stage : Deleting} (h : AllowedDeleting n stage e.op) :
    Moves m (.deleting n stage) e (nextDeleting n stage e) := by
  unfold nextDeleting
  split
  · cases stage with
    | routes =>
      obtain ⟨rfl, hne⟩ := h
      exact .deletes _ _ _ _ (.routes hne)
    | _ => nomatch h
  · cases stage with
    | cache =>
      obtain rfl : _ = n := h
      exact .deletes _ _ _ _ (.cache _)
    | _ => nomatch h
  · cases stage with
    | credential =>
      obtain rfl : _ = n := h
      exact .deletes _ _ _ _ (.credential _)
    | _ => nomatch h
  · cases stage with
    | row =>
      obtain rfl : _ = n := h
      exact .deletes _ _ _ _ (.row _)
    | _ => nomatch h
  · cases stage with
    | session =>
      obtain rfl : _ = n := h
      exact .deletes _ _ _ _ (.session _)
    | _ => nomatch h
  · cases stage with
    | clear session =>
      obtain rfl : _ = n := h
      cases session with
      | none => exact .deletes _ _ _ _ (.clearNone _)
      | some session => exact .deletes _ _ _ _ (.clear session _)
    | _ => nomatch h
  · cases stage with
    | close session =>
      obtain rfl : _ = session := h
      exact .deletes _ _ _ _ (.close _ _)
    | _ => nomatch h
  · exact .stays _ _

/-- What the events of a call do to its phase. -/
theorem moves_next {o : RegistryOp} {r : o.Res} (h : g.Allowed cfg o) :
    Moves m g ⟨o, r, ()⟩ (next m g ⟨o, r, ()⟩) := by
  generalize he : (⟨o, r, ()⟩ : RegistryCallEvent) = e
  replace h : g.Allowed cfg e.op := by rw [← he]; exact h
  cases g with
  | opening hello =>
    unfold next
    dsimp only
    split
    · rename_i nodeID v st
      obtain ⟨rfl, hne⟩ := h
      exact .authenticates hello _ ⟨hne, v, .inl rfl⟩
    · rename_i nodeID v st
      obtain ⟨rfl, hne⟩ := h
      exact .authenticates hello _ ⟨hne, v, .inr rfl⟩
    · exact .stays _ _
  | authenticated hello =>
    unfold next
    dsimp only
    split
    · rename_i nodeID labels st
      obtain rfl : nodeID = hello.nodeID := h
      rcases afterLabels_cases m hello labels with heq | ⟨hello', hres, heq⟩
      · rw [heq]
        exact .stays _ _
      · rw [heq]
        exact .resolves hello hello' labels hres
    · exact .stays _ _
  | resolved hello =>
    unfold next
    dsimp only
    split
    · exact .names hello _
    · exact .stays _ _
  | named hello sessionID =>
    unfold next
    dsimp only
    split
    · obtain ⟨now, heq⟩ := h
      cases heq
      exact .opens hello sessionID _ _
    · exact .stays _ _
  | opened c => exact moves_nextOpened h
  | replacing c replaced => exact .closesReplaced c replaced e
  | published c registering => exact moves_nextPublished h
  | serving c stage => exact moves_nextServing h
  | withdrawn c => exact .marks c e
  | marked c => exact .clears c e
  | creating => exact moves_nextCreating (.inl rfl) h
  | allocated workerID => exact moves_nextCreating (.inr ⟨workerID, .inl rfl⟩) h
  | seeded workerID => exact moves_nextCreating (.inr ⟨workerID, .inr rfl⟩) h
  | deleting nodeID stage => exact moves_nextDeleting h
  | idle | refused c | left c => exact .stays _ e

variable {g' : RegistryPhase}

/-- A call that has a connection had one, or has just opened it. -/
theorem Moves.opened (h : Moves m g e g') (hc : g'.connection = some c) :
    (∃ c₀, g.connection = some c₀ ∧ c₀.Same c) ∨
      ∃ hello sessionID now session, g = .named hello sessionID ∧
        e = ⟨.newActiveSession hello sessionID now, session, ()⟩ ∧
        c = ⟨hello, session, sessionID, none⟩ := by
  cases h with
  | opens hello sessionID now session =>
    exact .inr ⟨hello, sessionID, now, session, rfl, rfl, (Option.some.inj hc).symm⟩
  | begins c₀ | beginsPublished c₀ =>
    obtain rfl := Option.some.inj hc
    exact .inl ⟨c₀, rfl, rfl, rfl, rfl⟩
  | withdraws _ c₀ hg | leaves _ c₀ hg =>
    obtain rfl := Option.some.inj hc
    rcases hg with rfl | hg
    · exact .inl ⟨c₀, rfl, .refl c₀⟩
    · exact .inl ⟨c₀, connection_of_live hg, .refl c₀⟩
  | _ => first | exact .inl ⟨c, hc, .refl c⟩ | exact nomatch hc

/-- A connection stays live until its call removes it. -/
theorem Moves.live (h : Moves m g e g') (hc : g.live = some c) :
    (∃ c', g'.live = some c' ∧ c.Same c') ∨ e.op = .removeSession c.session := by
  cases h with
  | beginsPublished c₀ =>
    obtain rfl := Option.some.inj hc
    exact .inl ⟨_, rfl, rfl, rfl, rfl⟩
  | withdraws _ c₀ hg | leaves _ c₀ hg =>
    rcases hg with rfl | hg
    · exact nomatch hc
    · obtain rfl := Option.mem_unique hg hc
      exact .inr rfl
  | draws _ workerID hg =>
    rcases hg with rfl | ⟨id, rfl | rfl⟩ <;> exact nomatch hc
  | registers c₀ =>
    obtain rfl := Option.some.inj hc
    exact .inl ⟨c₀, rfl, .refl c₀⟩
  | _ => first | exact .inl ⟨c, hc, .refl c⟩ | exact nomatch hc

/-- A call authenticates when it finds a credential. -/
theorem Moves.identity (h : Moves m g e g') (hn : g'.identity = some n) :
    g.identity = some n ∨ Authenticates n e := by
  cases h with
  | authenticates hello _ he =>
    obtain rfl : trimSpace hello.nodeID = n := Option.some.inj hn
    exact .inr he
  | resolves hello hello' labels hres =>
    refine .inl (Eq.trans ?_ hn)
    change _ = some (trimSpace hello'.nodeID)
    rw [nodeID_of_resolvedHello hres]
    rfl
  | withdraws _ c hg | leaves _ c hg =>
    rcases hg with rfl | hg
    · exact .inl hn
    · exact .inl ((identity_of_connection (connection_of_live hg)).trans hn)
  | _ => first | exact .inl hn | nomatch hn

/-- A call gets a new id when it draws one. -/
theorem Moves.drawnID (h : Moves m g e g') {id : String} (hid : g'.drawnID = some id) :
    g.drawnID = some id ∨ e = ⟨.newID, .ok id, ()⟩ := by
  cases h with
  | names hello sessionID | draws _ workerID =>
    cases hid
    exact .inr rfl
  | withdraws _ c hg | leaves _ c hg =>
    rcases hg with rfl | hg
    · exact .inl hid
    · exact .inl ((drawnID_of_connection (connection_of_live hg)).trans hid)
  | _ => exact .inl hid

/-- A call is about to seed a worker only with an id it has just drawn. -/
theorem Moves.allocated {id : String} (h : Moves m g e (.allocated id)) :
    g = .allocated id ∨ e = ⟨.newID, .ok id, ()⟩ := by
  cases h with
  | stays => exact .inl rfl
  | draws => exact .inr rfl

/-! ## Which calls write the stored workers -/

/-- The calls that write stored workers, cached credentials or ids, by their phase. -/
inductive RowWriter : RegistryPhase → RegistryOp → Prop
  | draws (g : RegistryPhase) : RowWriter g .newID
  | caches (hello : ConnectHello) (secret : String) :
      RowWriter (.authenticated hello) (.cacheCredential (trimSpace hello.nodeID) secret)
  | registers (c : Connection) (registering : Registering)
      (registration : WorkerNodes.Registration)
      (hnode : registration.nodeID = trimSpace c.hello.nodeID)
      (hid : registration.sessionID = trimSpace c.sessionID)
      (hreg : Registers c registration registering) :
      RowWriter (.published c registering) (.upsertWorkerNode registration)
  | heartbeats (c : Connection) (complete : Bool) (sessionID : String) (now : Int) :
      RowWriter (.serving c (.receiving complete))
        (.updateHeartbeat (trimSpace c.session.nodeID) sessionID now)
  | clears (c : Connection) : RowWriter (.marked c) (.clearSession c.session.nodeID c.sessionID)
  | seeds (workerID : String) (labels : Labels) (now offlineTTLMs : Int) :
      RowWriter (.allocated workerID) (.seedProvisionedWorker workerID labels now offlineTTLMs)
  | puts (workerID secret : String) :
      RowWriter (.seeded workerID) (.putCredentialIfAbsent workerID secret)
  | putsHash (workerID secretHash : String) :
      RowWriter (.seeded workerID) (.putCredentialHashIfAbsent workerID secretHash)
  | takesBack (workerID : String) : RowWriter (.seeded workerID) (.deleteCredential workerID)
  | unseeds (workerID : String) : RowWriter (.seeded workerID) (.storeDelete workerID)
  | uncaches (nodeID : String) : RowWriter (.deleting nodeID .cache) (.deleteCredential nodeID)
  | revokes (nodeID : String) :
      RowWriter (.deleting nodeID .credential) (.storeDeleteCredential nodeID)
  | deletes (nodeID : String) : RowWriter (.deleting nodeID .row) (.storeDelete nodeID)
  | disconnects (nodeID : String) (session : Option SessionRef) :
      RowWriter (.deleting nodeID (.clear session)) (.clearSessionByNode nodeID)

theorem rowWriter_of_allowed {o : RegistryOp} (h : g.Allowed cfg o) (ho : o.onRows = true) :
    RowWriter g o := by
  cases g with
  | idle | refused c => nomatch h
  | opening hello | opened c => cases o <;> first | exact absurd ho Bool.false_ne_true | nomatch h
  | authenticated hello =>
    cases o with
    | cacheCredential nodeID secret =>
      obtain rfl : nodeID = trimSpace hello.nodeID := h
      exact .caches hello secret
    | _ => first | exact absurd ho Bool.false_ne_true | nomatch h
  | resolved hello =>
    rcases h with rfl | rfl
    · nomatch ho
    · exact .draws _
  | named hello sessionID =>
    obtain ⟨now, rfl⟩ := h
    nomatch ho
  | replacing c replaced | withdrawn c =>
    obtain rfl : o = _ := h
    nomatch ho
  | published c registering =>
    cases o with
    | upsertWorkerNode registration => exact .registers c registering registration h.1 h.2.1 h.2.2
    | _ => first | exact absurd ho Bool.false_ne_true | nomatch h
  | serving c stage =>
    cases o with
    | updateHeartbeat nodeID sessionID now =>
      cases stage with
      | receiving complete =>
        obtain rfl : nodeID = trimSpace c.session.nodeID := h
        exact .heartbeats c complete sessionID now
      | _ => nomatch h
    | _ => first | exact absurd ho Bool.false_ne_true | (cases stage <;> nomatch h)
  | marked c =>
    obtain rfl : o = _ := h
    exact .clears c
  | left c =>
    obtain ⟨err, rfl⟩ := h
    nomatch ho
  | creating =>
    obtain rfl : o = _ := h
    exact .draws _
  | allocated workerID =>
    cases o with
    | newID => exact .draws _
    | seedProvisionedWorker nodeID labels now ttl =>
      obtain rfl : nodeID = workerID := h
      exact .seeds nodeID labels now ttl
    | _ => first | exact absurd ho Bool.false_ne_true | nomatch h
  | seeded workerID =>
    cases o with
    | newID => exact .draws _
    | putCredentialIfAbsent nodeID secret =>
      obtain rfl : nodeID = workerID := h
      exact .puts nodeID secret
    | putCredentialHashIfAbsent nodeID secretHash =>
      obtain rfl : nodeID = workerID := h
      exact .putsHash nodeID secretHash
    | deleteCredential nodeID =>
      obtain rfl : nodeID = workerID := h
      exact .takesBack nodeID
    | storeDelete nodeID =>
      obtain rfl : nodeID = workerID := h
      exact .unseeds nodeID
    | _ => first | exact absurd ho Bool.false_ne_true | nomatch h
  | deleting nodeID stage =>
    cases o with
    | deleteCredential n =>
      cases stage with
      | cache =>
        obtain rfl : n = nodeID := h
        exact .uncaches n
      | _ => nomatch h
    | storeDeleteCredential n =>
      cases stage with
      | credential =>
        obtain rfl : n = nodeID := h
        exact .revokes n
      | _ => nomatch h
    | storeDelete n =>
      cases stage with
      | row =>
        obtain rfl : n = nodeID := h
        exact .deletes n
      | _ => nomatch h
    | clearSessionByNode n =>
      cases stage with
      | clear session =>
        obtain rfl : n = nodeID := h
        exact .disconnects n session
      | _ => nomatch h
    | _ => first | exact absurd ho Bool.false_ne_true | (cases stage <;> nomatch h)

end RegistryPhase

/-- The phases of all calls. -/
abbrev phases (m : CaseMap) (cfg : RegistryConfig) (p : RegistryPool) : List RegistryPhase :=
  ThreadSystem.ghosts (registryProtocol m cfg) RegistryCall.start p

variable {ok : RegistryPool → RegistryAction → Prop}

/-- A call that has not returned is about to perform an operation its phase allows. -/
theorem nextOp_of_phase {lib : RegistryLib} {cfg : RegistryConfig} {p : RegistryPool}
    (h : (registrySystem lib cfg).machine.ReachableWhere ok p) {i : Nat} {g : RegistryPhase}
    (hg : (phases lib.caseMap cfg p)[i]? = some g) :
    p.nextOp i = none ∧ g.Finished ∨ ∃ o, p.nextOp i = some o ∧ g.Allowed cfg o := by
  rw [phases, ThreadSystem.ghosts, List.getElem?_map, Option.map_eq_some_iff] at hg
  obtain ⟨t, ht, rfl⟩ := hg
  exact nextOp_of_thread (keepsProtocol h) ht

section

variable {lib : RegistryLib} {cfg : RegistryConfig} {p : RegistryPool}

variable {t : RegistryThread} {i : Nat} {o : RegistryOp}

/-- A call keeps its phase in the list of phases. -/
theorem phases_set (lib : RegistryLib) (cfg : RegistryConfig) (s' : RegistryState) (r : o.Res)
    (k : o.Res → Registry Unit) (ht : p.threads[i]? = some t) :
    (phases lib.caseMap cfg ⟨s', p.threads.set i ⟨t.call, ⟨o, r, ()⟩ :: t.log, k r⟩⟩)[i]? =
      some ((phaseOf lib.caseMap cfg t).next lib.caseMap ⟨o, r, ()⟩) := by
  rw [phases, ThreadSystem.ghosts, List.getElem?_map, List.getElem?_set_of_some ht]
  rfl

theorem phase_of_thread (lib : RegistryLib) (cfg : RegistryConfig) (ht : p.threads[i]? = some t) :
    (phases lib.caseMap cfg p)[i]? = some (phaseOf lib.caseMap cfg t) :=
  ghost_of_thread ht

/-- The operation a call is about to perform is one its phase allows. -/
theorem allowed_of_nextOp (h : (registrySystem lib cfg).machine.ReachableWhere ok p)
    (ht : p.threads[i]? = some t) (hnext : p.nextOp i = some o) :
    (phaseOf lib.caseMap cfg t).Allowed cfg o := by
  rcases nextOp_of_phase h (phase_of_thread lib cfg ht) with ⟨hnone, -⟩ | ⟨o', ho', hallowed⟩
  · nomatch hnone.symm.trans hnext
  · obtain rfl := Option.mem_unique ho' hnext
    exact hallowed

/-- The connection a claim or a swap publishes is the call's own. -/
theorem opened_of_publish {g : RegistryPhase} {session : SessionRef}
    (ho : o = .swapSession session ∨ o = .claimSessionIfAvailable session)
    (hallowed : g.Allowed cfg o) : ∃ c, g = .opened c ∧ c.session = session := by
  cases g with
  | opened c => rcases ho with rfl | rfl <;> exact ⟨c, rfl, hallowed.1.symm⟩
  | serving c stage | deleting nodeID stage =>
    rcases ho with rfl | rfl <;> cases stage <;> nomatch hallowed
  | resolved hello => rcases ho with rfl | rfl <;> rcases hallowed with h | h <;> nomatch h
  | named hello sessionID =>
    obtain ⟨now, h⟩ := hallowed
    rcases ho with rfl | rfl <;> nomatch h
  | left c =>
    obtain ⟨err, h⟩ := hallowed
    rcases ho with rfl | rfl <;> nomatch h
  | _ => rcases ho with rfl | rfl <;> nomatch hallowed

/-- Closing closes. -/
theorem exec_close {m : CaseMap} {s s' : RegistryState} {session : SessionRef}
    {err : Option String} {ans : RegistryAnswer}
    (h : s.exec m cfg (.close session err) ans = some (s', ())) :
    ∃ c, s'.service.connections.lookup session.id = some c ∧ c.done = true := by
  cases ans with
  | none =>
    obtain ⟨s₁, hs₁, heq⟩ := Option.map_eq_some_iff.mp h
    cases heq
    obtain ⟨service, hservice, rfl⟩ := onService_eq_some hs₁
    obtain ⟨⟨service', u⟩, hon, rfl⟩ := Option.map_eq_some_iff.mp hservice
    unfold ServiceState.onSession at hon
    split at hon
    · nomatch hon
    · rename_i c hc
      cases hon
      refine ⟨_, lookup_insert _, ?_⟩
      dsimp only
      unfold ActiveSession.closeDone
      split
      · assumption
      · rfl
  | _ => nomatch h

end

/-! ## Ids -/

/-- Where ids come from: each was drawn by one call, workers are known under drawn ids,
    and an id that a call is about to seed a worker under is not used yet. -/
structure WorkerIds (s : RegistryState) (gs : List RegistryPhase) : Prop where
  rows : ∀ n node, s.nodes.lookup n = some node → n ∈ s.issued
  credentials : ∀ n v, s.credentials.lookup n = some v → n ∈ s.issued
  provisioned : ∀ n v, s.provisionedAs.lookup n = some v → n ∈ s.issued
  known : ∀ g ∈ gs, ∀ n, g.identity = some n → n ∈ s.issued
  drawn : ∀ g ∈ gs, ∀ id, g.drawnID = some id → id ∈ s.issued ∧ trimSpace id = id ∧ id ≠ ""
  distinct : Separate (fun g g' => ∀ id, g.drawnID = some id → g'.drawnID ≠ some id) gs
  unused : ∀ id, .allocated id ∈ gs → s.nodes.lookup id = none ∧ s.credentials.lookup id = none ∧
    s.provisionedAs.lookup id = none ∧ ∀ g ∈ gs, g.identity ≠ some id

/-- A stored credential belongs to a worker row. -/
theorem WorkerNodes.row_of_getCredentialHash {nodes : WorkerNodes} {n v : String}
    {fault : StoreFault} (h : nodes.getCredentialHash n fault = some v) :
    ∃ node, nodes.lookup (trimSpace n) = some node ∧ node.secretHash.isSome := by
  unfold WorkerNodes.getCredentialHash at h
  dsimp only at h
  split at h
  · nomatch h
  · split at h
    · nomatch h
    · split at h
      · nomatch h
      · rename_i hash hhash
        obtain ⟨node, hnode, hsecret⟩ := Option.bind_eq_some_iff.mp hhash
        exact ⟨node, hnode, by rw [hsecret]; rfl⟩

namespace WorkerIds

variable {lib : RegistryLib} {cfg : RegistryConfig} {s s' : RegistryState} {gs : List RegistryPhase}

theorem started (h : s.Started) : WorkerIds s [] where
  rows := h.issued
  credentials n v hv := by
    obtain ⟨hhash, htrim⟩ := (h.credentials n v).mp hv
    obtain ⟨node, hnode, -⟩ := WorkerNodes.row_of_getCredentialHash hhash
    rw [htrim] at hnode
    exact h.issued n node hnode
  provisioned n v hv := by
    obtain ⟨node, hn, -⟩ := (h.provisioned n v.1 v.2).mp hv
    exact h.issued n node hn
  known _ hg := nomatch hg
  drawn _ hg := nomatch hg
  distinct := .nil
  unused _ hg := nomatch hg

theorem spawn (h : WorkerIds s gs) (call : RegistryCall) : WorkerIds s (gs ++ [call.start]) := by
  have hstart : call.start.identity = none ∧ call.start.drawnID = none ∧
      ∀ id, call.start ≠ .allocated id := by
    rcases call with ⟨err | _ | hello, frames⟩ | nodeID | ⟨owner, type, now, ttl⟩ <;>
      exact ⟨rfl, rfl, nofun⟩
  refine { h with known := ?_, drawn := ?_, distinct := ?_, unused := ?_ }
  · exact List.forall_mem_concat h.known fun n hn => nomatch hstart.1.symm.trans hn
  · exact List.forall_mem_concat h.drawn fun id hid => nomatch hstart.2.1.symm.trans hid
  · apply h.distinct.append_singleton
    intro g hg
    rw [hstart.2.1]
    exact ⟨fun _ _ => nofun, nofun⟩
  · intro id hid
    rcases List.mem_append.mp hid with hid | hid
    · obtain ⟨hn, hc, hp, hg⟩ := h.unused id hid
      refine ⟨hn, hc, hp, List.forall_mem_concat hg ?_⟩
      rw [hstart.1]
      exact nofun
    · exact absurd (List.mem_singleton.mp hid).symm (hstart.2.2 id)

theorem environment (h : WorkerIds s gs) {e : RegistryEvent}
    (hs : s.occurs lib.caseMap e = some s') : WorkerIds s' gs := by
  obtain ⟨hcred, hissued, hprov, hnodes⟩ := occurs_rows hs
  have hold : ∀ n node, s'.nodes.lookup n = some node → s.nodes.lookup n = some node := by
    intro n node hn
    rcases hnodes n with heq | ⟨hnone, -⟩
    · exact heq ▸ hn
    · nomatch hnone.symm.trans hn
  constructor
  · intro n node hn
    rw [hissued]
    exact h.rows n node (hold n node hn)
  · rw [hcred, hissued]
    exact h.credentials
  · rw [hprov, hissued]
    exact h.provisioned
  · rw [hissued]
    exact h.known
  · rw [hissued]
    exact h.drawn
  · exact h.distinct
  · intro id hid
    obtain ⟨hn, hc, hp, hg⟩ := h.unused id hid
    rw [hcred, hprov]
    refine ⟨?_, hc, hp, hg⟩
    exact Option.eq_none_iff_forall_ne_some.mpr fun node hn' => nomatch hn.symm.trans (hold id node hn')

section

variable {g : RegistryPhase} {o : RegistryOp} {ans : RegistryAnswer} {r : o.Res} {i : Nat}

variable {n : String} (hallowed : g.Allowed cfg o)
  (hexec : s.exec lib.caseMap cfg o ans = some (s', r))

include hallowed hexec

section

variable (h : WorkerIds s gs) (hg : g ∈ gs)

include h hg

/-- A new row is written by a call that has authenticated as the worker, or seeds it. -/
theorem newRow {node : WorkerNode} (hn : s'.nodes.lookup n = some node) :
    (∃ old, s.nodes.lookup n = some old) ∨ g.identity = some n ∨
      g = .allocated n ∧ ∃ labels now ttl, o = .seedProvisionedWorker n labels now ttl := by
  rcases exec_nodes hexec hn with hold | ⟨registration, rfl, rfl⟩ |
    ⟨nodeID, labels, now, ttl, rfl, rfl⟩
  · exact .inl hold
  · cases rowWriter_of_allowed hallowed rfl with
    | registers c registering _ hnode =>
      rw [hnode]
      exact .inr (.inl rfl)
  · cases rowWriter_of_allowed hallowed rfl with
    | seeds =>
      rw [(h.drawn _ hg nodeID rfl).2.1]
      exact .inr (.inr ⟨rfl, labels, now, ttl, rfl⟩)

/-- A new credential is cached by a call that has authenticated as the worker, or has
    seeded it. -/
theorem newCredential {v : String} (hv : s'.credentials.lookup n = some v) :
    s.credentials.lookup n = some v ∨ g.identity = some n ∨ g = .seeded n := by
  rcases exec_credentials hexec hv with hold | ⟨secret, rfl⟩ | ⟨nodeID, secret, rfl, rfl⟩
  · exact .inl hold
  · cases rowWriter_of_allowed hallowed rfl with
    | caches => exact .inr (.inl rfl)
  · cases rowWriter_of_allowed hallowed rfl with
    | puts =>
      rw [(h.drawn _ hg nodeID rfl).2.1]
      exact .inr (.inr rfl)

/-- The history of a worker starts with its seed. -/
theorem newHistory {v : String × String} (hv : s'.provisionedAs.lookup n = some v) :
    s.provisionedAs.lookup n = some v ∨
      g = .allocated n ∧ ∃ labels now ttl, o = .seedProvisionedWorker n labels now ttl := by
  rcases exec_provisionedAs hexec hv with hold | ⟨nodeID, labels, now, ttl, rfl, rfl⟩
  · exact .inl hold
  · cases rowWriter_of_allowed hallowed rfl with
    | seeds =>
      rw [(h.drawn _ hg nodeID rfl).2.1]
      exact .inr ⟨rfl, labels, now, ttl, rfl⟩

/-- An id that no worker has stays so, unless the call has authenticated as the worker or
    seeds it. -/
theorem unused_kept (hunused : s.nodes.lookup n = none ∧ s.credentials.lookup n = none ∧
      s.provisionedAs.lookup n = none) (hident : g.identity ≠ some n) (hseeded : g ≠ .seeded n)
    (hseeds : g = .allocated n → ∀ labels now ttl, o = .seedProvisionedWorker n labels now ttl → s' = s) :
    s'.nodes.lookup n = none ∧ s'.credentials.lookup n = none ∧ s'.provisionedAs.lookup n = none := by
  obtain ⟨hn, hc, hp⟩ := hunused
  simp only [Option.eq_none_iff_forall_ne_some]
  refine ⟨fun node hn' => ?_, fun v hc' => ?_, fun v hp' => ?_⟩
  · rcases h.newRow hallowed hexec hg hn' with ⟨old, hold⟩ | hnew | ⟨hg, labels, now, ttl, ho⟩
    · nomatch hn.symm.trans hold
    · exact hident hnew
    · rw [hseeds hg labels now ttl ho] at hn'
      nomatch hn.symm.trans hn'
  · rcases h.newCredential hallowed hexec hg hc' with hold | hnew | hnew
    · nomatch hc.symm.trans hold
    · exact hident hnew
    · exact hseeded hnew
  · rcases h.newHistory hallowed hexec hg hp' with hold | ⟨hg, labels, now, ttl, ho⟩
    · nomatch hp.symm.trans hold
    · rw [hseeds hg labels now ttl ho] at hp'
      nomatch hp.symm.trans hp'

end

/-- A call that authenticates finds a credential of a known worker. -/
theorem newIdentity (hn : (g.next lib.caseMap ⟨o, r, ()⟩).identity = some n) :
    g.identity = some n ∨ (∃ v, s.credentials.lookup n = some v) ∨
      ∃ node, s.nodes.lookup n = some node := by
  rcases (moves_next hallowed).identity hn with hold | ⟨-, v, heq | heq⟩
  · exact .inl hold
  · cases heq
    cases ans with
    | none =>
      have hv := (Prod.mk.inj (Option.some.inj hexec)).2
      exact .inr (.inl ⟨v, hv⟩)
    | _ => nomatch hexec
  · cases heq
    cases ans with
    | store fault =>
      have hv : s.nodes.getCredentialHash n fault = some v :=
        (Prod.mk.inj (Option.some.inj hexec)).2
      obtain ⟨node, hnode, -⟩ := WorkerNodes.row_of_getCredentialHash hv
      rw [trimSpace_identity hn] at hnode
      exact .inr (.inr ⟨node, hnode⟩)
    | _ => nomatch hexec

omit hallowed hexec in
/-- A seed that adds no worker changes nothing. -/
theorem exec_seed_false {m : CaseMap} {nodeID : String} {now ttl : Int}
    (h : s.exec m cfg (.seedProvisionedWorker nodeID labels now ttl) ans = some (s', false)) :
    s' = s := by
  cases ans with
  | store fault =>
    have heq : s.seedProvisionedWorker nodeID labels now ttl fault = (s', false) :=
      Option.some.inj h
    unfold RegistryState.seedProvisionedWorker WorkerNodes.seedProvisionedWorker at heq
    dsimp only at heq
    split at heq
    · exact (Prod.mk.inj heq).1.symm
    · split at heq
      · exact (Prod.mk.inj heq).1.symm
      · split at heq
        · exact (Prod.mk.inj heq).1.symm
        · nomatch (Prod.mk.inj heq).2
  | _ => nomatch h

variable {id : String}

/-- A drawn id is new. -/
theorem newDrawn (hid : (g.next lib.caseMap ⟨o, r, ()⟩).drawnID = some id) :
    g.drawnID = some id ∨
      id ∉ s.issued ∧ s' = { s with issued := id :: s.issued } ∧ trimSpace id = id ∧ id ≠ "" := by
  rcases (moves_next hallowed).drawnID hid with hold | heq
  · exact .inl hold
  · cases heq
    rcases exec_newID hexec with ⟨-, err, herr⟩ | ⟨raw, hraw, hfresh, rfl⟩
    · nomatch herr
    · cases hraw
      exact .inr ⟨hfresh, rfl, trimSpace_generateUUIDv4 raw, generateUUIDv4_ne_empty raw⟩

/-- An id that a call still holds for a new worker stays unused by everyone else. -/
theorem unused_run (h : WorkerIds s gs) (hg : gs[i]? = some g) {j : Nat} (hij : i ≠ j)
    (hj : gs[j]? = some (.allocated id)) :
    (s'.nodes.lookup id = none ∧ s'.credentials.lookup id = none ∧
      s'.provisionedAs.lookup id = none) ∧ (g.next lib.caseMap ⟨o, r, ()⟩).identity ≠ some id := by
  have hmem := List.mem_of_getElem? hg
  obtain ⟨hn, hc, hp, hid⟩ := h.unused id (List.mem_of_getElem? hj)
  have hown : g.drawnID ≠ some id := fun hd => h.distinct i j _ _ hij hg hj id hd rfl
  refine ⟨h.unused_kept hallowed hexec hmem ⟨hn, hc, hp⟩ (hid g hmem) (fun hseeded => ?_)
    (fun hallocated => ?_), fun hident => ?_⟩
  · exact hown (hseeded ▸ rfl)
  · exact absurd (hallocated ▸ rfl) hown
  · rcases newIdentity hallowed hexec hident with hold | ⟨v, hv⟩ | ⟨node, hnode⟩
    · exact hid g hmem hold
    · nomatch hc.symm.trans hv
    · nomatch hn.symm.trans hnode

/-- The same for the call that holds it. -/
theorem unused_self (h : WorkerIds s gs) (hg : gs[i]? = some g)
    (hnext : g.next lib.caseMap ⟨o, r, ()⟩ = .allocated id) :
    (s'.nodes.lookup id = none ∧ s'.credentials.lookup id = none ∧
      s'.provisionedAs.lookup id = none) ∧ ∀ g' ∈ gs, g'.identity ≠ some id := by
  have hmem := List.mem_of_getElem? hg
  have hmove := moves_next (m := lib.caseMap) (r := r) hallowed
  rw [hnext] at hmove
  rcases hmove.allocated with rfl | heq
  · obtain ⟨hn, hc, hp, hid⟩ := h.unused id hmem
    -- The call may have tried to seed a worker under the id, but the seed failed.
    refine ⟨h.unused_kept hallowed hexec hmem ⟨hn, hc, hp⟩ (hid _ hmem) nofun ?_, hid⟩
    rintro - labels now ttl rfl
    cases r with
    | false => exact exec_seed_false hexec
    | true => nomatch hnext
  · cases heq
    rcases exec_newID hexec with ⟨-, err, herr⟩ | ⟨raw, hraw, hfresh, rfl⟩
    · nomatch herr
    · cases hraw
      simp only [Option.eq_none_iff_forall_ne_some]
      exact ⟨⟨fun node hn => hfresh (h.rows _ node hn), fun v hc => hfresh (h.credentials _ v hc),
        fun v hp => hfresh (h.provisioned _ v hp)⟩, fun g' hg' hident => hfresh (h.known g' hg' _ hident)⟩

/-- An operation of a call. -/
theorem run (h : WorkerIds s gs) (hg : gs[i]? = some g) :
    WorkerIds s' (gs.set i (g.next lib.caseMap ⟨o, r, ()⟩)) := by
  have hmem := List.mem_of_getElem? hg
  have hmono : ∀ {id}, id ∈ s.issued → id ∈ s'.issued := exec_issued_mono hexec
  constructor
  · intro n node hn
    rcases h.newRow hallowed hexec hmem hn with ⟨old, hold⟩ | hident | ⟨rfl, -⟩
    · exact hmono (h.rows n old hold)
    · exact hmono (h.known g hmem n hident)
    · exact hmono (h.drawn _ hmem n rfl).1
  · intro n v hv
    rcases h.newCredential hallowed hexec hmem hv with hold | hident | rfl
    · exact hmono (h.credentials n v hold)
    · exact hmono (h.known g hmem n hident)
    · exact hmono (h.drawn _ hmem n rfl).1
  · intro n v hv
    rcases h.newHistory hallowed hexec hmem hv with hold | ⟨rfl, -⟩
    · exact hmono (h.provisioned n v hold)
    · exact hmono (h.drawn _ hmem n rfl).1
  · refine List.forall_mem_set (fun g' hg' n hn => hmono (h.known g' hg' n hn)) fun n hn => ?_
    rcases newIdentity hallowed hexec hn with hold | ⟨v, hv⟩ | ⟨node, hnode⟩
    · exact hmono (h.known g hmem n hold)
    · exact hmono (h.credentials n v hv)
    · exact hmono (h.rows n node hnode)
  · refine List.forall_mem_set (fun g' hg' id hid => (h.drawn g' hg' id hid).imp_left hmono)
      fun id hid => ?_
    rcases newDrawn hallowed hexec hid with hold | ⟨-, rfl, htrim⟩
    · exact (h.drawn g hmem id hold).imp_left hmono
    · exact ⟨List.mem_cons_self, htrim⟩
  · apply h.distinct.set
    intro j b hj hb
    have hnew : ∀ id, (g.next lib.caseMap ⟨o, r, ()⟩).drawnID = some id → b.drawnID ≠ some id := by
      intro id hid hbid
      rcases newDrawn hallowed hexec hid with hold | ⟨hfresh, -⟩
      · exact h.distinct i j g b hj.symm hg hb id hold hbid
      · exact hfresh (h.drawn b (List.mem_of_getElem? hb) id hbid).1
    exact ⟨hnew, fun id hbid hid => hnew id hid hbid⟩
  · intro id hid
    rcases List.mem_set_cases hid with hnext | ⟨j, hij, hj⟩
    · obtain ⟨⟨hn, hc, hp⟩, hothers⟩ := h.unused_self hallowed hexec hg hnext.symm
      refine ⟨hn, hc, hp, List.forall_mem_set hothers ?_⟩
      rw [← hnext]
      exact nofun
    · obtain ⟨⟨hn, hc, hp⟩, hself⟩ := h.unused_run hallowed hexec hg hij hj
      exact ⟨hn, hc, hp, List.forall_mem_set (h.unused id (List.mem_of_getElem? hj)).2.2.2 hself⟩

end

/-- Ids come from where they should in every run. -/
theorem of_reachable {p : RegistryPool} (h : (registrySystem lib cfg).machine.ReachableWhere ok p) :
    WorkerIds p.shared (phases lib.caseMap cfg p) := by
  apply ghost_invariant (I := WorkerIds) (fun _ h => keepsProtocol h) _ _ _ _ h
  · exact fun s hs => .started hs
  · exact fun p c _ _ hinv => hinv.spawn c
  · exact fun p i ans g o s' r _ _ hinv hg _ hallowed hexec => hinv.run hallowed hexec hg
  · exact fun p e s' _ _ hinv henv => hinv.environment henv

end WorkerIds

/-! ## Connections -/

/-- What is recorded of a connection agrees with what its call knows. -/
structure Connection.Opened (m : CaseMap) (s : RegistryState) (c : Connection) : Prop where
  nodeID : c.session.nodeID = c.hello.nodeID
  detail : ∃ d, s.details.lookup c.session.id = some d ∧ d.sessionID = c.sessionID
  session : ∃ session, s.service.connections.lookup c.session.id = some session ∧
    ActiveSession.Continues (ActiveSession.new m c.hello.nodeID c.hello.capabilities) session

theorem Connection.Opened.kept {m : CaseMap} {s s' : RegistryState} {c : Connection}
    (h : c.Opened m s) (hkept : LinksKept s s') : c.Opened m s' where
  nodeID := h.nodeID
  detail := by
    obtain ⟨d, hd, hid⟩ := h.detail
    obtain ⟨d', hd', hsame⟩ := hkept.details _ d hd
    exact ⟨d', hd', Eq.trans hsame hid⟩
  session := by
    obtain ⟨session, hsession, hcont⟩ := h.session
    obtain ⟨session', hsession', hcont'⟩ := hkept.connections _ session hsession
    exact ⟨session', hsession', hcont.trans hcont'⟩

theorem Connection.Opened.same {m : CaseMap} {s : RegistryState} {c c' : Connection}
    (h : c.Opened m s) (hsame : c.Same c') : c'.Opened m s where
  nodeID := by rw [hsame.1, hsame.2.1]; exact h.nodeID
  detail := by rw [hsame.2.1, hsame.2.2]; exact h.detail
  session := by rw [hsame.1, hsame.2.1]; exact h.session

/-- Every connection belongs to one call, and a connection in the session map to one that
    has not left. -/
structure Connections (m : CaseMap) (s : RegistryState) (gs : List RegistryPhase) : Prop where
  service : s.service.Inv
  details : ∀ id d, s.details.lookup id = some d → id < s.service.nextConnection
  opened : ∀ g ∈ gs, ∀ c, g.connection = some c → c.Opened m s
  separate : Separate (fun g g' => ∀ c c', g.connection = some c → g'.connection = some c' →
    c.session.id ≠ c'.session.id) gs
  sessions : ∀ n session, s.service.sessions.lookup n = some session →
    ∃ g ∈ gs, ∃ c, g.live = some c ∧ c.session = session

namespace Connections

variable {lib : RegistryLib} {cfg : RegistryConfig} {m : CaseMap} {s s' : RegistryState}
  {gs : List RegistryPhase}

theorem started (h : s.Started) : Connections m s [] where
  service := .started h.service
  details id d hd := by
    rw [h.details] at hd
    nomatch hd
  opened _ hg := nomatch hg
  separate := .nil
  sessions n session hn := by
    obtain ⟨routes, -, heq⟩ := h.service
    rw [heq] at hn
    nomatch hn

theorem spawn (h : Connections m s gs) (call : RegistryCall) :
    Connections m s (gs ++ [call.start]) := by
  have hstart : call.start.connection = none := by
    rcases call with ⟨err | _ | hello, frames⟩ | nodeID | ⟨owner, type, now, ttl⟩ <;> rfl
  refine { h with opened := ?_, separate := ?_, sessions := ?_ }
  · exact List.forall_mem_concat h.opened fun c hc => nomatch hstart.symm.trans hc
  · apply h.separate.append_singleton
    intro g hg
    rw [hstart]
    exact ⟨nofun, nofun⟩
  · intro n session hn
    obtain ⟨g, hg, hlive⟩ := h.sessions n session hn
    exact ⟨g, List.mem_append_left _ hg, hlive⟩

theorem environment (h : Connections lib.caseMap s gs) {e : RegistryEvent}
    (hs : s.occurs lib.caseMap e = some s') : Connections lib.caseMap s' gs := by
  obtain ⟨hinv, hkept, hsessions, hnext⟩ := occurs_links h.service hs
  refine ⟨hinv, fun id d hd => ?_, fun g hg c hc => (h.opened g hg c hc).kept hkept, h.separate, ?_⟩
  · rcases hkept.known id d hd with ⟨d₀, hd₀⟩ | hlt
    · rw [hnext]
      exact h.details id d₀ hd₀
    · exact hlt
  · rw [hsessions]
    exact h.sessions

section

variable {g : RegistryPhase} {o : RegistryOp} {ans : RegistryAnswer} {r : o.Res} {i : Nat}

/-- An operation keeps the connections there are. -/
theorem kept (h : Connections m s gs) (hexec : s.exec m cfg o ans = some (s', r)) :
    LinksKept s s' ∧ s'.service.Inv := by
  cases ho : o.onRows with
  | true =>
    have hsame := (exec_row hexec ho).sameLinks
    refine ⟨⟨.of_eq (by rw [hsame.service]), by rw [hsame.service], ?_, ?_⟩, ?_⟩
    · rw [hsame.details]
      exact fun _ d hd => ⟨d, hd, rfl⟩
    · rw [hsame.details]
      exact fun _ d hd => .inl ⟨d, hd⟩
    · rw [hsame.service]
      exact h.service
  | false =>
    have hlink := exec_link hexec ho
    exact ⟨hlink.kept h.service h.details, hlink.inv h.service⟩

/-- What becomes of an entry of the session map. -/
theorem entry (h : Connections m s gs) (hexec : s.exec m cfg o ans = some (s', r)) (n : String) :
    EntryStep s o n (s'.service.sessions.lookup n) := by
  cases ho : o.onRows with
  | true =>
    rw [(exec_row hexec ho).sameLinks.service]
    exact .same
  | false => exact (exec_link hexec ho).entry h.service n

variable {session : SessionRef}

/-- A connection that is opened is recorded under a new number. -/
theorem newOpened {sessionID : String} {now : Int}
    (hexec : s.exec m cfg (.newActiveSession hello sessionID now) ans = some (s', session)) :
    (⟨hello, session, sessionID, none⟩ : Connection).Opened m s' ∧
      session.id = s.service.nextConnection := by
  cases ans with
  | none =>
    obtain ⟨hlink, rfl⟩ := newActiveSession_link hexec
    refine ⟨?_, rfl⟩
    obtain ⟨s₁, hs₁, heq⟩ := Option.map_eq_some_iff.mp hexec
    cases heq
    exact ⟨rfl, ⟨_, lookup_insert _, rfl⟩,
      ⟨_, (onService_connect hs₁).2, .refl _⟩⟩
  | _ => nomatch hexec

/-- The connection of a call after one of its operations: the one it had, or a new one. -/
theorem newConnection (hallowed : g.Allowed cfg o) (hexec : s.exec m cfg o ans = some (s', r))
    {c : Connection} (hc : (g.next m ⟨o, r, ()⟩).connection = some c) :
    (∃ c₀, g.connection = some c₀ ∧ c₀.Same c) ∨
      c.Opened m s' ∧ c.session.id = s.service.nextConnection := by
  rcases (moves_next hallowed).opened hc with hold |
    ⟨hello, sessionID, now, session, rfl, heq, rfl⟩
  · exact .inl hold
  · cases heq
    exact .inr (newOpened hexec)

/-- A connection that its call removes is not in the session map afterwards. -/
theorem removed_self (h : Connections m s gs) {ans : RegistryAnswer} {r : Bool}
    (hexec : s.exec m cfg (.removeSession session) ans = some (s', r)) {n : String} :
    s'.service.sessions.lookup n ≠ some session := by
  intro hn
  have hinv' := (h.kept hexec).2
  obtain rfl : session.nodeID = n := (hinv'.sessions n _ hn).1
  cases ans with
  | none =>
    have hexec : s.removeSession m session = some (s', r) := hexec
    unfold RegistryState.removeSession at hexec
    split at hexec
    · rename_i hnone
      cases hexec
      nomatch hnone.symm.trans hn
    · rename_i current hcurrent
      split at hexec
      · rename_i d d' hd hd'
        split at hexec
        · rename_i hne
          cases hexec
          obtain rfl := Option.mem_unique hcurrent hn
          exact hne (by rw [Option.mem_unique hd hd'])
        · obtain ⟨s₁, hs₁, heq⟩ := Option.map_eq_some_iff.mp hexec
          cases heq
          have hnode := (h.service.sessions _ current hcurrent).1
          obtain ⟨service, hservice, rfl⟩ := onService_eq_some hs₁
          rw [ServiceState.occurs_removeSession hservice (by rw [hnode]; exact hcurrent)] at hn
          dsimp only at hn
          rw [hnode, lookup_erase] at hn
          nomatch hn
      · nomatch hexec
  | _ => nomatch hexec

/-- A claim that fails changes nothing. -/
theorem exec_claim_false {ans : RegistryAnswer}
    (hexec : s.exec m cfg (.claimSessionIfAvailable session) ans = some (s', false)) : s' = s := by
  have hpublish : ∀ {s₁ : RegistryState},
      ((s₁.onService m (.publish session)).map fun s => (s, true)) ≠ some (s', false) := by
    intro s₁ h
    obtain ⟨s₂, -, heq⟩ := Option.map_eq_some_iff.mp h
    nomatch (Prod.mk.inj heq).2
  cases ans with
  | instant unixNano =>
    have hexec : s.claimSessionIfAvailable m cfg.offlineTTLSec session unixNano =
      some (s', false) := hexec
    unfold RegistryState.claimSessionIfAvailable at hexec
    dsimp only at hexec
    split at hexec
    · exact absurd hexec hpublish
    · split at hexec
      · split at hexec
        · exact absurd hexec hpublish
        · split at hexec
          · exact (Prod.mk.inj (Option.some.inj hexec)).1.symm
          · obtain ⟨s₁, -, h⟩ := Option.bind_eq_some_iff.mp hexec
            exact absurd h hpublish
      · nomatch hexec
  | _ => nomatch hexec

/-- A connection that is put into the session map belongs to a call that is live then. -/
theorem newLive (hallowed : g.Allowed cfg o)
    (ho : o = .swapSession session ∨ o = .claimSessionIfAvailable session)
    (hexec : s.exec m cfg o ans = some (s', r)) :
    (∃ c, (g.next m ⟨o, r, ()⟩).live = some c ∧ c.session = session) ∨ s' = s := by
  obtain ⟨c, rfl, rfl⟩ := opened_of_publish ho hallowed
  rcases ho with rfl | rfl
  · cases r with
    | none | some replaced => exact .inl ⟨c, rfl, rfl⟩
  · cases r with
    | true => exact .inl ⟨c, rfl, rfl⟩
    | false => exact .inr (exec_claim_false hexec)

/-- An operation of a call. -/
theorem run (h : Connections m s gs) (hg : gs[i]? = some g) (hallowed : g.Allowed cfg o)
    (hexec : s.exec m cfg o ans = some (s', r)) :
    Connections m s' (gs.set i (g.next m ⟨o, r, ()⟩)) := by
  have hmem := List.mem_of_getElem? hg
  have hlt : i < gs.length := (List.getElem?_eq_some_iff.mp hg).1
  obtain ⟨hkept, hinv⟩ := h.kept hexec
  have hold : ∀ n session, s.service.sessions.lookup n = some session →
      s'.service.sessions.lookup n = some session →
      ∃ g' ∈ gs.set i (g.next m ⟨o, r, ()⟩), ∃ c, g'.live = some c ∧ c.session = session := by
    intro n session hn hn'
    obtain ⟨g', hg', c, hlive, rfl⟩ := h.sessions n session hn
    obtain ⟨j, hj⟩ := List.mem_iff_getElem?.mp hg'
    rcases List.getElem?_set_or (g.next m ⟨o, r, ()⟩) hg hj with ⟨rfl, rfl, hnext⟩ | ⟨-, hg'⟩
    · rcases (moves_next (m := m) (r := r) hallowed).live hlive with
        ⟨c', hc', hsame⟩ | ho
      · exact ⟨_, List.mem_of_getElem? hnext, c', hc', hsame.2.1⟩
      · obtain rfl : o = _ := ho
        exact absurd hn' (h.removed_self hexec)
    · exact ⟨g', List.mem_of_getElem? hg', c, hlive, rfl⟩
  refine ⟨hinv, fun id d hd => ?_,
    List.forall_mem_set (fun g' hg' c hc => (h.opened g' hg' c hc).kept hkept) fun c hc => ?_, ?_,
    fun n session hn => ?_⟩
  · rcases hkept.known id d hd with ⟨d₀, hd₀⟩ | hlt
    · exact Nat.lt_of_lt_of_le (h.details id d₀ hd₀) hkept.nextConnection
    · exact hlt
  · rcases newConnection hallowed hexec hc with ⟨c₀, hc₀, hsame⟩ | ⟨hopened, -⟩
    · exact ((h.opened g hmem c₀ hc₀).same hsame).kept hkept
    · exact hopened
  · apply h.separate.set
    intro j b hj hb
    have hnew : ∀ c c', (g.next m ⟨o, r, ()⟩).connection = some c → b.connection = some c' →
        c.session.id ≠ c'.session.id := by
      intro c c' hc hc'
      rcases newConnection hallowed hexec hc with ⟨c₀, hc₀, hsame⟩ | ⟨-, hid⟩
      · rw [hsame.2.1]
        exact h.separate i j g b hj.symm hg hb c₀ c' hc₀ hc'
      · obtain ⟨d, hd, -⟩ := (h.opened b (List.mem_of_getElem? hb) c' hc').detail
        rw [hid]
        exact Nat.ne_of_gt (h.details _ d hd)
    exact ⟨hnew, fun c c' hc hc' heq => hnew c' c hc' hc heq.symm⟩
  · have hentry := h.entry hexec n
    generalize hx : s'.service.sessions.lookup n = x at hentry
    cases hentry with
    | same => exact hold n session (hx.symm.trans hn) hn
    | published session' hnode ho =>
      obtain rfl : session' = session := Option.mem_unique hx hn
      rcases newLive hallowed ho hexec with ⟨c, hc, hsession⟩ | rfl
      · exact ⟨_, List.mem_set hlt _, c, hc, hsession⟩
      · exact hold n session' hn hn
    | removed current hcurrent ho => nomatch hx.symm.trans hn

end

/-- Every connection in the session map belongs to a live call, in every run. -/
theorem of_reachable {p : RegistryPool} (h : (registrySystem lib cfg).machine.ReachableWhere ok p) :
    Connections lib.caseMap p.shared (phases lib.caseMap cfg p) := by
  apply ghost_invariant (I := Connections lib.caseMap) (fun _ h => keepsProtocol h)
    _ _ _ _ h
  · exact fun s hs => .started hs
  · exact fun p c _ _ hinv => hinv.spawn c
  · exact fun p i ans g o s' r _ _ hinv hg _ hallowed hexec => hinv.run hg hallowed hexec
  · exact fun p e s' _ _ hinv henv => hinv.environment henv

end Connections

/-! ## Runs on fixed inputs -/

/-- A library to execute runs with: any secret that is the stored one. -/
def RegistryLib.sample : RegistryLib where
  caseMap := .ascii
  lower_hyphen := rfl
  secretMatches secret workerSecret := secret = workerSecret
  hashSecret := id

theorem lookup_provisionedLabels (ownerID workerType : String) :
    (provisionedLabels ownerID workerType).lookup labelOwnerIDKey = some ownerID ∧
      (provisionedLabels ownerID workerType).lookup labelWorkerTypeKey = some workerType := by
  unfold provisionedLabels
  refine ⟨?_, lookup_insert _⟩
  rw [lookup_insert_ne (by decide), lookup_insert]

/-- A console that knows one worker. -/
def RegistryState.oneWorker (workerType : String) : RegistryState where
  service := { routes := { state := newRouteState 0 ∅, opened := [] } }
  credentials := (∅ : GoMap String String).insert "a" "key"
  nodes := (∅ : WorkerNodes).insert "a"
    { provisioned := true
      nodeName := "worker-a"
      lastSeenAtUnixMs := 0
      labels := provisionedLabels "alice" workerType
      secretHash := some "key" }
  issued := ["a"]
  provisionedAs := (∅ : GoMap String (String × String)).insert "a" ("alice", workerType)

theorem RegistryState.oneWorker_started (workerType : String) : (oneWorker workerType).Started where
  service := ⟨_, .new 0 ∅, rfl⟩
  details := rfl
  disconnected n node h := by
    simp only [oneWorker, lookup_insert_ite, lookup_empty] at h
    split at h
    · cases h
      rfl
    · nomatch h
  credentials n hash := by
    simp only [oneWorker, WorkerNodes.getCredentialHash, lookup_insert_ite, lookup_empty]
    by_cases hn : n = "a"
    · subst hn
      have htrim : trimSpace "a" = "a" := by decide
      rw [htrim, if_pos rfl, if_neg (by decide), if_pos rfl]
      simp [show trimSpace "key" = "key" from by decide]
    · rw [if_neg hn]
      constructor
      · exact nofun
      · rintro ⟨h, htrim⟩
        rw [htrim, if_neg hn] at h
        split at h <;> nomatch h
  issued n node h := by
    simp only [oneWorker, lookup_insert_ite, lookup_empty] at h
    split at h
    · rename_i hn
      rw [hn]
      exact List.mem_singleton_self "a"
    · nomatch h
  provisioned n ownerID type := by
    simp only [oneWorker, lookup_insert_ite, lookup_empty]
    by_cases hn : n = "a"
    · rw [if_pos hn, if_pos hn]
      constructor
      · intro h
        cases h
        exact ⟨_, rfl, rfl, lookup_provisionedLabels _ _⟩
      · rintro ⟨node, hnode, -, howner, htype⟩
        cases hnode
        obtain ⟨howner', htype'⟩ := lookup_provisionedLabels "alice" workerType
        rw [Option.mem_unique howner' howner, Option.mem_unique htype' htype]
    · rw [if_neg hn, if_neg hn]
      constructor
      · exact nofun
      · rintro ⟨node, hnode, -⟩
        nomatch hnode

/-- The same console as a pool without calls. -/
def RegistryPool.oneWorker (workerType : String) : RegistryPool :=
  { shared := RegistryState.oneWorker workerType }

theorem RegistryPool.oneWorker_reachable (lib : RegistryLib) (cfg : RegistryConfig)
    (workerType : String) :
    (registrySystem lib cfg).machine.ReachableWhere ok (oneWorker workerType) :=
  .init ⟨oneWorker_started workerType, rfl⟩

end Onlyboxes.Console
