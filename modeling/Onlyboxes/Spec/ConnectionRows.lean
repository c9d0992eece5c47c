import Onlyboxes.Spec.WorkerIdentity

/-!
# The worker row names the connection in the session map

A `Connect` call publishes its connection and writes its session id into the worker row
in two steps, and heartbeats are only accepted for the id in the row. The two agree as
long as no row is overwritten while the session map holds another connection of the
worker. `Connect` does not see to that: a call that was replaced after it published still
writes its row, and if it is late the row names the connection that is gone.

## Key results

- `RowsNamed.of_reachable`: the row of a connection that is registered names it
- `connection_row_agrees`: the result about runs
-/

namespace Onlyboxes.Console

open Text RegistryState RegistryPhase

/-! ## Overwriting the row of a connected worker -/

/-- The session map holds a connection of worker `n` with another session id. -/
def RegistryState.connectedElse (s : RegistryState) (n sessionID : String) : Bool :=
  s.service.sessions.entries.any fun e =>
    trimSpace e.1 = n && (s.details.lookup e.2.id).map ConnectionDetail.sessionID ≠ some sessionID

theorem RegistryState.sessionID_of_connectedElse {s : RegistryState} {n sessionID k : String}
    {session : SessionRef} {d : ConnectionDetail} (h : s.connectedElse n sessionID = false)
    (hk : s.service.sessions.lookup k = some session) (hn : trimSpace k = n)
    (hd : s.details.lookup session.id = some d) : d.sessionID = sessionID := by
  have hmem : (⟨k, session⟩ : Sigma fun _ => SessionRef) ∈ s.service.sessions.entries :=
    AList.mem_lookup_iff.mp hk
  have hentry := List.any_eq_false.mp h _ hmem
  simp only [hn, hd, decide_true, Bool.true_and, Option.map_some, ne_eq, Option.some.injEq,
    decide_not, Bool.not_eq_true', decide_eq_false_iff_not, not_not] at hentry
  exact hentry

/-- The worker whose row an operation writes, and the session id it leaves there. -/
def RegistryOp.rowWritten : RegistryOp → Option (String × String)
  | .upsertWorkerNode registration => some (registration.nodeID, registration.sessionID)
  | .clearSessionByNode nodeID | .storeDelete nodeID => some (trimSpace nodeID, "")
  | _ => none

/-- The step overwrites the row of a worker that has another connection. -/
def overwritesRow (p : RegistryPool) : RegistryAction → Bool
  | .run i _ =>
    match (p.nextOp i).bind RegistryOp.rowWritten with
    | some (n, sessionID) => p.shared.connectedElse n sessionID
    | none => false
  | .env (.pruneOffline cutoffUnixMs fault) =>
    p.shared.service.sessions.entries.any fun e =>
      (p.shared.nodes.pruneOffline cutoffUnixMs fault).lookup (trimSpace e.1) ≠
        p.shared.nodes.lookup (trimSpace e.1)
  | _ => false

/-! ## Registered connections -/

/-- The row of a worker names the connection that is registered and in the session map. -/
def RowsNamed (s : RegistryState) (gs : List RegistryPhase) : Prop :=
  ∀ c stage, .serving c stage ∈ gs → s.service.sessions.lookup c.session.nodeID = some c.session →
    ∃ node, s.nodes.lookup (trimSpace c.hello.nodeID) = some node ∧ node.sessionID = c.sessionID

namespace RowsNamed

variable {lib : RegistryLib} {cfg : RegistryConfig} {m : CaseMap} {s s' : RegistryState}
  {gs : List RegistryPhase} {g : RegistryPhase} {o : RegistryOp} {ans : RegistryAnswer}
  {r : o.Res} {i j : Nat} {c : Connection} {stage : Serving}

theorem spawn (h : RowsNamed s gs) (call : RegistryCall) : RowsNamed s (gs ++ [call.start]) := by
  intro c stage hg
  rcases List.mem_append.mp hg with hg | hg
  · exact h c stage hg
  · have heq := List.mem_singleton.mp hg
    rcases call with ⟨err | _ | hello, frames⟩ | nodeID | ⟨owner, type, now, ttl⟩ <;>
      nomatch heq

/-- A registered connection that is in the session map was there before. -/
theorem entry_kept (hconn : Connections m s gs) (hg : gs[i]? = some g)
    (hallowed : g.Allowed cfg o) (hexec : s.exec m cfg o ans = some (s', r))
    (hj : gs[j]? = some (.serving c stage))
    (hentry : s'.service.sessions.lookup c.session.nodeID = some c.session) :
    s.service.sessions.lookup c.session.nodeID = some c.session := by
  have hstep := hconn.entry hexec c.session.nodeID
  generalize hx : s'.service.sessions.lookup c.session.nodeID = x at hstep
  cases hstep with
  | same => exact hx.symm.trans hentry
  | published session hn ho =>
    obtain rfl : session = c.session := Option.mem_unique hx hentry
    obtain ⟨c', rfl, hsession⟩ := opened_of_publish ho hallowed
    have hij : i ≠ j := by
      rintro rfl
      nomatch hg.symm.trans hj
    exact absurd (congrArg SessionRef.id hsession) (hconn.separate i j _ _ hij hg hj c' c rfl rfl)
  | removed => nomatch hx.symm.trans hentry

/-- The row of a connection that is in the session map is not overwritten. -/
theorem row_kept (h : RowsNamed s gs) (hids : WorkerIds s gs) (hconn : Connections m s gs)
    (hg : gs[i]? = some g) (hallowed : g.Allowed cfg o)
    (hexec : s.exec m cfg o ans = some (s', r))
    (hok : ∀ n sessionID, o.rowWritten = some (n, sessionID) → s.connectedElse n sessionID = false)
    (hj : gs[j]? = some (.serving c stage))
    (hentry : s'.service.sessions.lookup c.session.nodeID = some c.session) :
    ∃ node, s'.nodes.lookup (trimSpace c.hello.nodeID) = some node ∧
      node.sessionID = c.sessionID := by
  have hmem := List.mem_of_getElem? hj
  have hold := entry_kept hconn hg hallowed hexec hj hentry
  obtain ⟨node, hnode, hid⟩ := h c stage hmem hold
  obtain ⟨hnodeID, ⟨d, hd, hdid⟩, -⟩ := hconn.opened _ hmem c rfl
  obtain ⟨-, -, hne⟩ := hids.drawn _ hmem c.sessionID rfl
  -- Whoever writes the row leaves the session id of the connection there.
  have hwritten : ∀ sessionID, o.rowWritten = some (trimSpace c.hello.nodeID, sessionID) →
      sessionID = c.sessionID := by
    intro sessionID hw
    have hsame := sessionID_of_connectedElse (hok _ sessionID hw) hold
      (by rw [hnodeID]) hd
    exact hsame.symm.trans hdid
  cases ho : o.onRows with
  | false =>
    rw [(exec_link hexec ho).sameRows.nodes]
    exact ⟨node, hnode, hid⟩
  | true =>
    have hwriter := rowWriter_of_allowed hallowed ho
    cases exec_row hexec ho with
    | upserted registration =>
      dsimp only
      rw [AList.lookup_insert_ite]
      split
      · rename_i heq
        exact ⟨_, rfl, hwritten _ (by rw [heq]; rfl)⟩
      · exact ⟨node, hnode, hid⟩
    | seeded nodeID labels now ttl node' provisionedAs habsent =>
      have hother : trimSpace c.hello.nodeID ≠ trimSpace nodeID := by
        intro heq
        rw [heq] at hnode
        nomatch habsent.symm.trans hnode
      dsimp only
      rw [AList.lookup_insert_ite, if_neg hother]
      exact ⟨node, hnode, hid⟩
    | deleted nodeID =>
      dsimp only
      rw [AList.lookup_erase_ite]
      split
      · rename_i heq
        exact absurd (hwritten "" (by rw [heq]; rfl)).symm hne
      · exact ⟨node, hnode, hid⟩
    | altered n old node' hlookup halter =>
      dsimp only
      rw [AList.lookup_insert_ite]
      split
      · rename_i heq
        rw [heq] at hnode
        obtain rfl := Option.mem_unique hnode hlookup
        refine ⟨node', rfl, ?_⟩
        cases hwriter with
        | heartbeats =>
          rw [halter.2.2]
          exact hid
        | putsHash | revokes =>
          rw [halter.2]
          exact hid
        | clears c' =>
          -- A call that leaves clears its own session id only.
          have hij : i ≠ j := by
            rintro rfl
            nomatch hg.symm.trans hj
          have hother : node.sessionID ≠ trimSpace c'.sessionID := by
            rw [(hids.drawn _ (List.mem_of_getElem? hg) c'.sessionID rfl).2.1, hid]
            exact fun heq => hids.distinct i j _ _ hij hg hj c'.sessionID rfl (congrArg some heq)
          rw [halter.2, if_neg hother]
          exact hid
        | disconnects nodeID session =>
          exact absurd (hwritten "" (by rw [heq, halter.1]; rfl)).symm hne
        | _ => nomatch halter
      · exact ⟨node, hnode, hid⟩
    | _ => exact ⟨node, hnode, hid⟩

/-- A successful registration writes the session id of its connection. -/
theorem exec_registers {registration : WorkerNodes.Registration}
    (hexec : s.exec m cfg (.upsertWorkerNode registration) ans = some (s', .ok ())) :
    ∃ node, s'.nodes.lookup registration.nodeID = some node ∧
      node.sessionID = registration.sessionID := by
  cases ans with
  | store fault =>
    cases fault with
    | some err => nomatch (Prod.mk.inj (Option.some.inj hexec)).2
    | none =>
      cases hexec
      exact ⟨_, AList.lookup_insert _, rfl⟩
  | _ => nomatch hexec

/-- An operation of a call. -/
theorem run (h : RowsNamed s gs) (hids : WorkerIds s gs) (hconn : Connections m s gs)
    (hg : gs[i]? = some g) (hallowed : g.Allowed cfg o)
    (hexec : s.exec m cfg o ans = some (s', r))
    (hok : ∀ n sessionID, o.rowWritten = some (n, sessionID) →
      s.connectedElse n sessionID = false) :
    RowsNamed s' (gs.set i (g.next m ⟨o, r, ()⟩)) := by
  intro c stage hmem hentry
  rcases List.mem_set_cases hmem with hself | ⟨j, -, hj⟩
  · have hmove := moves_next (m := m) (r := r) hallowed
    rw [← hself] at hmove
    cases hmove with
    | stays | serves => exact h.row_kept hids hconn hg hallowed hexec hok hg hentry
    | registers c registering registration =>
      obtain ⟨hnode, hid, -⟩ := hallowed
      rw [(hids.drawn _ (List.mem_of_getElem? hg) c.sessionID rfl).2.1] at hid
      obtain ⟨node, hlookup, hrow⟩ := exec_registers hexec
      exact ⟨node, hnode ▸ hlookup, hrow.trans hid⟩
  · exact h.row_kept hids hconn hg hallowed hexec hok hj hentry

theorem environment (h : RowsNamed s gs) (hconn : Connections lib.caseMap s gs) {e : RegistryEvent}
    (hs : s.occurs lib.caseMap e = some s')
    (hok : ∀ cutoffUnixMs fault, e = .pruneOffline cutoffUnixMs fault → ∀ k session,
      s.service.sessions.lookup k = some session →
      (s.nodes.pruneOffline cutoffUnixMs fault).lookup (trimSpace k) =
        s.nodes.lookup (trimSpace k)) :
    RowsNamed s' gs := by
  intro c stage hmem hentry
  rw [(occurs_links hconn.service hs).2.2.1] at hentry
  have hold := h c stage hmem hentry
  rcases occurs_sameRows hs with hsame | ⟨cutoffUnixMs, fault, rfl, rfl⟩
  · rw [hsame.nodes]
    exact hold
  · have hrow := hok cutoffUnixMs fault rfl _ _ hentry
    rw [(hconn.opened _ hmem c rfl).nodeID] at hrow
    dsimp only
    rw [hrow]
    exact hold

/-- In runs that do not overwrite the rows of connected workers, the row of a registered
    connection names it. -/
theorem of_reachable {p : RegistryPool}
    (h : (registrySystem lib cfg).machine.ReachableWhere (fun p a => overwritesRow p a = false) p) :
    RowsNamed p.shared (phases lib.caseMap cfg p) := by
  apply ThreadSystem.ghost_invariant (I := RowsNamed) (fun _ h => keepsProtocol h) _ _ _ _ h
  · exact fun s hs c stage hmem => nomatch hmem
  · exact fun p call _ _ hinv => hinv.spawn call
  · intro p i ans g o s' r hreach hok hinv hg hnext hallowed hexec
    refine hinv.run (WorkerIds.of_reachable hreach) (Connections.of_reachable hreach) hg hallowed
      hexec fun n sessionID hw => ?_
    unfold overwritesRow at hok
    dsimp only at hok
    rw [hnext, Option.bind_some, hw] at hok
    exact hok
  · intro p e s' hreach hok hinv henv
    refine hinv.environment (Connections.of_reachable hreach) henv ?_
    rintro cutoffUnixMs fault rfl k session hk
    have hentry := List.any_eq_false.mp hok _ (AList.mem_lookup_iff.mp hk)
    simpa using hentry

end RowsNamed

/-! ## The result -/

/-- The connection of a call that has published it and not written its row yet. -/
def RegistryPhase.registering : RegistryPhase → Option Connection
  | .replacing c _ | .published c _ => some c
  | _ => none

/-- In runs that do not overwrite the row of a worker while it has another connection:
    unless a call of the worker is between publishing its connection and writing its row,
    the row names the connection in the session map, and its heartbeats are accepted. -/
theorem connection_row_agrees (lib : RegistryLib) (cfg : RegistryConfig) (p : RegistryPool)
    (h : (registrySystem lib cfg).machine.ReachableWhere (fun p a => overwritesRow p a = false) p)
    (k : String) (session : SessionRef)
    (hk : p.shared.service.sessions.lookup k = some session)
    (hquiet : ∀ g ∈ phases lib.caseMap cfg p, ∀ c, g.registering = some c →
      trimSpace c.hello.nodeID ≠ trimSpace k) :
    ∃ node d, p.shared.nodes.lookup (trimSpace k) = some node ∧
      p.shared.details.lookup session.id = some d ∧ node.sessionID = d.sessionID ∧
      ∀ now, (p.shared.nodes.updateWorkerHeartbeatBySession (trimSpace k) (trimSpace d.sessionID)
        now none).2 = .ok true := by
  have hconn := Connections.of_reachable h
  obtain ⟨g, hg, c, hlive, rfl⟩ := hconn.sessions k session hk
  have hc := connection_of_live hlive
  have hopened := hconn.opened g hg c hc
  have hnode : c.session.nodeID = k := (hconn.service.sessions k _ hk).1
  have hid : trimSpace c.hello.nodeID = trimSpace k := by rw [← hopened.nodeID, hnode]
  obtain ⟨d, hd, hdid⟩ := hopened.detail
  have hdrawn := (WorkerIds.of_reachable h).drawn g hg c.sessionID
    (drawnID_of_connection hc)
  -- The call is past its registration.
  cases g with
  | serving c₀ stage =>
    obtain rfl := Option.some.inj hlive
    obtain ⟨node, hrow, hrowid⟩ := RowsNamed.of_reachable h c₀ stage hg (hnode ▸ hk)
    rw [hid] at hrow
    refine ⟨node, d, hrow, hd, hrowid.trans hdid.symm, fun now => ?_⟩
    unfold WorkerNodes.updateWorkerHeartbeatBySession
    dsimp only
    rw [hrow]
    dsimp only
    rw [if_pos (by rw [hdid, hdrawn.2.1]; exact hrowid)]
  | replacing c₀ replaced | published c₀ registering =>
    obtain rfl := Option.some.inj hlive
    exact absurd hid (hquiet _ hg c₀ rfl)
  | _ => exact nomatch hlive

/-- How a `Connect` call under the replacing policy goes on to publish its connection. -/
def openedToPublished (i : Nat) : List RegistryAction :=
  [.run i (.store none), .run i .none, .run i .none]

/-- How it goes on to write its row and to receive frames. -/
def publishedToReceiving (i : Nat) : List RegistryAction :=
  [.run i (.store none), .run i (.store none), .run i (.store none), .run i .none,
    .run i (.enqueued none)]

/-- The row of a worker that has connected once names its connection. -/
theorem connection_row_agrees_once :
    ∃ p, (registrySystem .sample ⟨.replace, 60, 5⟩).machine.ReachableWhere
        (fun p a => overwritesRow p a = false) p ∧
      p.shared.service.sessions.lookup "a" = some ⟨0, "a"⟩ ∧
      ∃ node d, p.shared.nodes.lookup "a" = some node ∧ p.shared.details.lookup 0 = some d ∧
        node.sessionID = d.sessionID ∧
        ∀ now, (p.shared.nodes.updateWorkerHeartbeatBySession "a" (trimSpace d.sessionID)
          now none).2 = .ok true := by
  have hrun := Machine.reachableWhere_runWhere (fun p a => !overwritesRow p a)
    (fun _ _ h => Bool.eq_false_of_not_eq_true' h)
    ([.spawn (.connect (.ok (some (sampleHello "a"))) 9)] ++ connectToOpened 0 (fun _ => 0) ++
      openedToPublished 0 ++ publishedToReceiving 0)
    (RegistryPool.oneWorker_reachable .sample ⟨.replace, 60, 5⟩ "normal") rfl
  refine ⟨_, hrun, rfl, connection_row_agrees .sample ⟨.replace, 60, 5⟩ _ hrun "a" _ rfl ?_⟩
  intro g hg c hc
  rw [List.mem_singleton.mp hg] at hc
  nomatch hc

/-- A call that was replaced after it had published writes its row late: the call has
    returned, the other one receives frames, and the heartbeats of its connection are
    refused. -/
theorem late_registration_overwrites :
    ∃ p, (registrySystem .sample ⟨.replace, 60, 5⟩).machine.Reachable p ∧
      p.threads.length = 2 ∧ p.nextOp 0 = none ∧ p.nextOp 1 = some (.receive ⟨1, "a"⟩) ∧
      p.shared.service.sessions.lookup "a" = some ⟨1, "a"⟩ ∧
      ∃ node d, p.shared.nodes.lookup "a" = some node ∧ p.shared.details.lookup 1 = some d ∧
        node.sessionID ≠ d.sessionID ∧
        (p.shared.nodes.updateWorkerHeartbeatBySession "a" (trimSpace d.sessionID) 0 none).2 =
          .ok false := by
  have hrun := Machine.reachable_run
    ([.spawn (.connect (.ok (some (sampleHello "a"))) 9),
      .spawn (.connect (.ok (some (sampleHello "a"))) 9)] ++
      connectToOpened 0 (fun _ => 0) ++ openedToPublished 0 ++
      connectToOpened 1 (fun _ => 1) ++ openedToPublished 1 ++ [.run 1 .none] ++
      publishedToReceiving 1 ++ publishedToReceiving 0 ++
      [.run 0 (.received .done), .run 0 .none, .run 0 .none])
    (RegistryPool.oneWorker_reachable .sample ⟨.replace, 60, 5⟩ "normal") rfl
  exact ⟨_, hrun, rfl, rfl, rfl, rfl, _, _, rfl, rfl, by decide, rfl⟩

end Onlyboxes.Console
