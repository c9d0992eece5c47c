import Onlyboxes.Spec.RegistryRuns

/-!
# One connection per worker

A worker authenticates under its trimmed id, and so do its row and its routes, but the
session map is keyed by the id as the hello has it. Workers whose hellos are not padded
have at most one connection: under the rejecting policy a second `Connect` is refused and
changes nothing the first one depends on, under the replacing policy the first connection
is closed. A padded hello gives the same worker a second one.

## Key results

- `hello_unpadded`: in runs with unpadded hellos the session map is keyed by identity
- `refused_harmless`: a `Connect` that has not claimed the worker leaves it alone
- `one_connection_per_worker`: the result about runs
-/

namespace Onlyboxes.Console

open Text RegistryState RegistryPhase

namespace RegistryPhase

/-- The hello of a call. -/
def hello : RegistryPhase → Option ConnectHello
  | .opening hello | .authenticated hello | .resolved hello | .named hello _ => some hello
  | g => g.connection.map Connection.hello

variable {m : CaseMap} {cfg : RegistryConfig} {g : RegistryPhase}

theorem hello_of_connection {c : Connection} (h : g.connection = some c) :
    g.hello = some c.hello := by
  cases g <;> first | (obtain rfl := Option.some.inj h; rfl) | nomatch h

/-- A call keeps the node id of its hello. -/
theorem Moves.hello {g' : RegistryPhase} {e : RegistryCallEvent} (h : Moves m g e g')
    {hello : ConnectHello} (hhello : g'.hello = some hello) :
    ∃ hello₀, g.hello = some hello₀ ∧ hello.nodeID = hello₀.nodeID := by
  cases h with
  | resolves hello₀ hello' labels hres =>
    cases hhello
    exact ⟨hello₀, rfl, nodeID_of_resolvedHello hres⟩
  | withdraws _ c hg | leaves _ c hg =>
    rcases hg with rfl | hg
    · exact ⟨hello, hhello, rfl⟩
    · exact ⟨hello, (hello_of_connection (connection_of_live hg)).trans hhello, rfl⟩
  | _ => first | exact ⟨hello, hhello, rfl⟩ | nomatch hhello

end RegistryPhase

/-! ## The session map -/

/-- Hellos name their worker without surrounding white space. -/
def unpaddedHellos : RegistryAction → Bool
  | .spawn (.connect (.ok (some hello)) _) => trimSpace hello.nodeID = hello.nodeID
  | _ => true

variable {lib : RegistryLib} {cfg : RegistryConfig} {p : RegistryPool}

/-- The calls of a run with unpadded hellos have unpadded hellos. -/
theorem hello_unpadded
    (h : (registrySystem lib cfg).machine.ReachableWhere (fun _ a => unpaddedHellos a = true) p) :
    ∀ g ∈ phases lib.caseMap cfg p, ∀ hello, g.hello = some hello →
      trimSpace hello.nodeID = hello.nodeID := by
  apply ThreadSystem.ghost_invariant (I := fun _ gs => ∀ g ∈ gs, ∀ hello, g.hello = some hello →
    trimSpace hello.nodeID = hello.nodeID) (fun _ h => keepsProtocol h) _ _ _ _ h
  · exact fun s _ g hg => nomatch hg
  · refine fun p c _ hok hinv => List.forall_mem_concat hinv fun hello hhello => ?_
    rcases c with ⟨err | _ | hello', frames⟩ | nodeID | ⟨owner, type, now, ttl⟩
    · nomatch hhello
    · nomatch hhello
    · cases hhello
      exact of_decide_eq_true hok
    · nomatch hhello
    · nomatch hhello
  · intro p i ans g o s' r _ _ hinv hg _ hallowed _
    refine List.forall_mem_set hinv fun hello hhello => ?_
    obtain ⟨hello₀, hhello₀, hnode⟩ := (moves_next hallowed).hello hhello
    rw [hnode]
    exact hinv g (List.mem_of_getElem? hg) hello₀ hhello₀
  · exact fun p e s' _ _ hinv _ => hinv

variable {session : SessionRef}

/-- The session map is keyed by the identity of workers. -/
theorem sessions_trimmed
    (h : (registrySystem lib cfg).machine.ReachableWhere (fun _ a => unpaddedHellos a = true) p)
    {k : String} (hk : p.shared.service.sessions.lookup k = some session) :
    trimSpace k = k := by
  have hconn := Connections.of_reachable h
  obtain ⟨g, hg, c, hlive, rfl⟩ := hconn.sessions k session hk
  have hc := connection_of_live hlive
  have hnode := (hconn.opened g hg c hc).nodeID
  rw [← (hconn.service.sessions k _ hk).1, hnode]
  exact hello_unpadded h g hg c.hello (hello_of_connection hc)

/-! ## Refused calls -/

/-- The event is a successful claim of the worker. -/
def Claims : RegistryCallEvent → Prop
  | ⟨.claimSessionIfAvailable _, true, _⟩ => True
  | _ => False

namespace RegistryPhase

/-- The phases of a `Connect` call that has not published its connection. -/
inductive Unpublished : RegistryPhase → Prop
  | idle : Unpublished .idle
  | opening (hello : ConnectHello) : Unpublished (.opening hello)
  | authenticated (hello : ConnectHello) : Unpublished (.authenticated hello)
  | resolved (hello : ConnectHello) : Unpublished (.resolved hello)
  | named (hello : ConnectHello) (sessionID : String) : Unpublished (.named hello sessionID)
  | opened (c : Connection) : Unpublished (.opened c)
  | refused (c : Connection) : Unpublished (.refused c)

variable {m : CaseMap} {cfg : RegistryConfig} {g : RegistryPhase}

/-- Under the rejecting policy only a successful claim publishes. -/
theorem Unpublished.next (h : Unpublished g) (hpolicy : cfg.workerConnectionPolicy = .reject)
    {e : RegistryCallEvent} (hallowed : g.Allowed cfg e.op) (he : ¬ Claims e) :
    Unpublished (g.next m e) := by
  cases h with
  | idle => exact .idle
  | opening hello =>
    unfold RegistryPhase.next
    dsimp only
    split
    · exact .authenticated hello
    · exact .authenticated hello
    · exact .opening hello
  | authenticated hello =>
    unfold RegistryPhase.next
    dsimp only
    split
    · rename_i nodeID labels st
      rcases afterLabels_cases m hello labels with heq | ⟨hello', -, heq⟩
      · rw [heq]
        exact .authenticated hello
      · rw [heq]
        exact .resolved hello'
    · exact .authenticated hello
  | resolved hello =>
    unfold RegistryPhase.next
    dsimp only
    split
    · exact .named hello _
    · exact .resolved hello
  | named hello sessionID =>
    unfold RegistryPhase.next
    dsimp only
    split
    · exact .opened _
    · exact .named hello sessionID
  | opened c =>
    change Unpublished (nextOpened c e)
    unfold nextOpened
    split
    · exact absurd trivial he
    · exact .refused c
    · exact .opened _
    · exact absurd hpolicy hallowed.2
    · exact absurd hpolicy hallowed.2
    · exact absurd hpolicy hallowed.2
    · exact .opened c
  | refused c => exact .refused c

theorem Unpublished.of_log (hpolicy : cfg.workerConnectionPolicy = .reject)
    {first : Except ConnectError (Option ConnectHello)} {frames : Nat}
    {log : List RegistryCallEvent}
    (hkept : (registryProtocol m cfg).Kept (RegistryCall.connect first frames).start log)
    (hlog : ∀ e ∈ log, ¬ Claims e) :
    Unpublished ((registryProtocol m cfg).after (RegistryCall.connect first frames).start log) := by
  induction log with
  | nil =>
    rcases first with err | _ | hello
    · exact .idle
    · exact .idle
    · exact .opening hello
  | cons e log ih =>
    have hold := ih hkept.1 fun e' he' => hlog e' (List.mem_cons_of_mem _ he')
    exact hold.next hpolicy hkept.2.1 (hlog e List.mem_cons_self)

end RegistryPhase

/-- The connection a worker has, its routes and its row are as they were. -/
structure Unharmed (s s' : RegistryState) : Prop where
  sessions : s'.service.sessions = s.service.sessions
  routes : s'.service.routes = s.service.routes
  nodes : s'.nodes = s.nodes
  connections : ∀ k current, s.service.sessions.lookup k = some current →
    s'.service.connections.lookup current.id = s.service.connections.lookup current.id ∧
      s'.details.lookup current.id = s.details.lookup current.id

theorem Unharmed.refl (s : RegistryState) : Unharmed s s := ⟨rfl, rfl, rfl, fun _ _ _ => ⟨rfl, rfl⟩⟩

variable {m : CaseMap} {s s' : RegistryState}

/-- Opening a connection leaves the others alone. -/
theorem unharmed_newActiveSession {gs : List RegistryPhase} (hconn : Connections m s gs)
    {hello : ConnectHello} {sessionID : String} {now : Int}
    (h : s.newActiveSession m hello sessionID now = some (s', session)) : Unharmed s s' := by
  unfold RegistryState.newActiveSession at h
  obtain ⟨s₁, hs₁, heq⟩ := Option.map_eq_some_iff.mp h
  cases heq
  obtain ⟨service, hservice, rfl⟩ := onService_eq_some hs₁
  unfold ServiceState.occurs at hservice
  dsimp only at hservice
  split at hservice
  · nomatch hservice
  · cases hservice
    refine ⟨rfl, rfl, rfl, fun k current hk => ?_⟩
    obtain ⟨-, c, hc, -⟩ := hconn.service.sessions k current hk
    have hne := Nat.ne_of_lt (hconn.service.connections _ c hc).2
    dsimp only
    rw [AList.lookup_insert_ite, AList.lookup_insert_ite, if_neg hne, if_neg hne]
    exact ⟨rfl, rfl⟩

variable {i : Nat} {o : RegistryOp} {ans : RegistryAnswer}

/-- A `Connect` call that has not published its connection leaves the worker alone. -/
theorem refused_harmless {gs : List RegistryPhase} {g : RegistryPhase} {r : o.Res}
    (hconn : Connections lib.caseMap s gs) (hg : gs[i]? = some g) (hallowed : g.Allowed cfg o)
    (hpolicy : cfg.workerConnectionPolicy = .reject) (hun : g.Unpublished)
    (hclaims : ¬ Claims ⟨o, r, ()⟩) (hexec : s.exec lib.caseMap cfg o ans = some (s', r)) :
    Unharmed s s' := by
  have hsame : ∀ {r' : o.Res}, some (s, r') = some (s', r) → Unharmed s s' := by
    intro r' h
    cases h
    exact .refl s
  cases hun with
  | idle | refused c => nomatch hallowed
  | opening hello =>
    cases o with
    | cachedCredential nodeID =>
      cases ans with
      | none => exact hsame hexec
      | _ => nomatch hexec
    | getCredentialHash nodeID =>
      cases ans with
      | store fault => exact hsame hexec
      | _ => nomatch hexec
    | _ => nomatch hallowed
  | authenticated hello =>
    cases o with
    | cacheCredential nodeID secret =>
      have hrow := exec_row hexec rfl
      cases hrow with
      | same => exact .refl s
      | cached => exact ⟨rfl, rfl, rfl, fun _ _ _ => ⟨rfl, rfl⟩⟩
      | altered n node node' hold halter => nomatch halter
    | labelsByNodeID nodeID =>
      cases ans with
      | store fault => exact hsame hexec
      | _ => nomatch hexec
    | _ => nomatch hallowed
  | resolved hello =>
    rcases hallowed with rfl | rfl
    · cases ans with
      | now unixMs => exact hsame hexec
      | _ => nomatch hexec
    · rcases exec_newID hexec with ⟨rfl, -⟩ | ⟨raw, -, -, rfl⟩
      · exact .refl s'
      · exact ⟨rfl, rfl, rfl, fun _ _ _ => ⟨rfl, rfl⟩⟩
  | named hello sessionID =>
    obtain ⟨now, rfl⟩ := hallowed
    cases ans with
    | none => exact unharmed_newActiveSession hconn hexec
    | _ => nomatch hexec
  | opened c =>
    cases o with
    | configureSessionProxy session =>
      cases ans with
      | proxy err => exact hsame hexec
      | _ => nomatch hexec
    | claimSessionIfAvailable session =>
      cases r with
      | true => exact absurd trivial hclaims
      | false =>
        rw [Connections.exec_claim_false hexec]
        exact .refl s
    | setRecoveryCandidates session candidates =>
      cases ans with
      | none =>
        obtain ⟨d, hd, rfl, -⟩ := onDetail_eq_some hexec
        obtain rfl : session = c.session := hallowed.1
        refine ⟨rfl, rfl, rfl, fun k current hk => ⟨rfl, ?_⟩⟩
        -- The connection in the map belongs to another call.
        obtain ⟨g', hg', c', hlive, rfl⟩ := hconn.sessions k current hk
        obtain ⟨j, hj⟩ := List.mem_iff_getElem?.mp hg'
        have hij : i ≠ j := by
          rintro rfl
          obtain rfl := Option.mem_unique hg hj
          nomatch hlive
        have hne := hconn.separate i j _ _ hij hg hj c c' rfl
          (connection_of_live hlive)
        dsimp only
        rw [AList.lookup_insert_ite, if_neg hne.symm]
      | _ => nomatch hexec
    | beginRecovery nodeID now | swapSession session | removeSession session =>
      exact absurd hpolicy hallowed.2
    | _ => nomatch hallowed

/-! ## The result -/

/-- Replacing answers with the connection that was there. -/
theorem exec_swap {r : Option SessionRef}
    (h : s.exec m cfg (.swapSession session) ans = some (s', r)) :
    r = s.service.sessions.lookup session.nodeID := by
  cases ans with
  | none =>
    obtain ⟨s₁, -, heq⟩ := Option.map_eq_some_iff.mp h
    exact (Prod.mk.inj heq).2.symm
  | _ => nomatch h

/-- A call that publishes under an unpadded id looks at the connection of its worker. -/
theorem current_of_identity
    (h : (registrySystem lib cfg).machine.ReachableWhere (fun _ a => unpaddedHellos a = true) p)
    {t : RegistryThread} {session current : SessionRef} {k : String} (ht : p.threads[i]? = some t)
    (hnext : p.nextOp i = some o)
    (ho : o = .swapSession session ∨ o = .claimSessionIfAvailable session)
    (hk : p.shared.service.sessions.lookup k = some current)
    (hid : trimSpace k = trimSpace session.nodeID) :
    p.shared.service.sessions.lookup session.nodeID = some current := by
  obtain ⟨c, hg, rfl⟩ := opened_of_publish ho (allowed_of_nextOp h ht hnext)
  have hmem := List.mem_of_getElem? (phase_of_thread lib cfg ht)
  rw [hg] at hmem
  have hnode := ((Connections.of_reachable h).opened _ hmem c rfl).nodeID
  have htrim := hello_unpadded h _ hmem c.hello rfl
  rw [sessions_trimmed h hk, hnode, htrim] at hid
  rw [hnode, ← hid]
  exact hk

/-- In runs whose hellos are not padded, a worker has at most one connection that is not
    closed. Under the rejecting policy, a `Connect` for a worker that heartbeated within
    the TTL returns without any effect on that worker. Under the replacing policy, the
    next step of a `Connect` that replaced a connection closes it. -/
theorem one_connection_per_worker (lib : RegistryLib) (cfg : RegistryConfig) (p : RegistryPool)
    (h : (registrySystem lib cfg).machine.ReachableWhere (fun _ a => unpaddedHellos a = true) p) :
    (∀ k k' session session', p.shared.service.sessions.lookup k = some session →
      p.shared.service.sessions.lookup k' = some session' → trimSpace k = trimSpace k' →
      k = k' ∧ session = session') ∧
    (∀ i session unixNano k current c d, p.nextOp i = some (.claimSessionIfAvailable session) →
      p.shared.service.sessions.lookup k = some current →
      trimSpace k = trimSpace session.nodeID →
      p.shared.service.connections.lookup current.id = some c → c.done = false →
      p.shared.details.lookup current.id = some d →
      unixNano - d.lastHeartbeatUnixMs * 1000000 ≤ cfg.offlineTTLSec * 1000000000 →
      ∃ p', (registrySystem lib cfg).machine.step p (.run i (.instant unixNano)) = some p' ∧
        p'.shared = p.shared ∧ p'.nextOp i = none) ∧
    (∀ i ans p' t, cfg.workerConnectionPolicy = .reject →
      (registrySystem lib cfg).machine.step p (.run i ans) = some p' →
      p'.threads[i]? = some t → (∃ first frames, t.call = .connect first frames) →
      (∀ e ∈ t.log, ¬ Claims e) → Unharmed p.shared p'.shared) ∧
    (∀ i ans p' session k current, p.nextOp i = some (.swapSession session) →
      (registrySystem lib cfg).machine.step p (.run i ans) = some p' →
      p.shared.service.sessions.lookup k = some current →
      trimSpace k = trimSpace session.nodeID →
      p'.nextOp i = some (.close current (some "session replaced by a newer connection"))) ∧
    ∀ i ans p' current err, p.nextOp i = some (.close current err) →
      (registrySystem lib cfg).machine.step p (.run i ans) = some p' →
      ∃ c, p'.shared.service.connections.lookup current.id = some c ∧ c.done = true := by
  have hconn := Connections.of_reachable h
  refine ⟨?_, ?_, ?_, ?_, ?_⟩
  · intro k k' session session' hk hk' hid
    rw [sessions_trimmed h hk, sessions_trimmed h hk'] at hid
    subst hid
    exact ⟨rfl, Option.mem_unique hk hk'⟩
  · intro i session unixNano k current c d hnext hk hid hc hdone hd hbeat
    obtain ⟨t, cont, ht, hprog⟩ := ThreadSystem.exists_of_nextOp hnext
    have hcurrent := current_of_identity h ht hnext (.inr rfl) hk hid
    obtain ⟨c', hg, -⟩ := opened_of_publish (.inr rfl) (allowed_of_nextOp h ht hnext)
    have hexec : (registrySystem lib cfg).exec p.shared (.claimSessionIfAvailable session)
        (.instant unixNano) = some (p.shared, false) := by
      change p.shared.claimSessionIfAvailable lib.caseMap cfg.offlineTTLSec session unixNano = _
      unfold RegistryState.claimSessionIfAvailable
      simp only [hcurrent, hc, hd, hdone, hbeat, if_true, Bool.false_eq_true, if_false]
    have hstep := ThreadSystem.step_run ht hprog hexec
    refine ⟨_, hstep, rfl, ?_⟩
    -- The call is refused: no operation is left to it.
    have hphase := phases_set lib cfg p.shared (o := .claimSessionIfAvailable session) false cont ht
    rw [hg] at hphase
    rcases nextOp_of_phase (.step _ h rfl hstep) hphase with ⟨hnone, -⟩ | ⟨o, -, hallowed⟩
    · exact hnone
    · nomatch hallowed
  · intro i ans p' t hpolicy hs ht hcall hlog
    rcases ThreadSystem.step_cases hs with ⟨call, heq, -⟩ |
      ⟨i', ans', t₀, o, cont, s', r, heq, ht₀, hprog, hexec, rfl⟩ | ⟨e, s', heq, -⟩
    · nomatch heq
    · obtain ⟨rfl, rfl⟩ := PoolAction.run.inj heq
      obtain rfl : _ = t := Option.mem_unique (List.getElem?_set_of_some ht₀) ht
      obtain ⟨first, frames, hcall⟩ := hcall
      have hkeeps := keepsProtocol h t₀ (List.mem_of_getElem? ht₀)
      have hun : (phaseOf lib.caseMap cfg t₀).Unpublished := by
        unfold phaseOf
        have hkept := hkeeps.1
        rw [show t₀.call = _ from hcall] at hkept ⊢
        exact .of_log hpolicy hkept fun e he => hlog e (List.mem_cons_of_mem _ he)
      have hnext : p.nextOp i = some o := by
        unfold Pool.nextOp
        simp only [ht₀, hprog]
      exact refused_harmless hconn (phase_of_thread lib cfg ht₀) (allowed_of_nextOp h ht₀ hnext) hpolicy hun
        (hlog _ List.mem_cons_self) hexec
    · nomatch heq
  · intro i ans p' session k current hnext hs hk hid
    obtain ⟨t, cont, s', r, ht, hprog, hexec, rfl⟩ := ThreadSystem.run_cases hnext hs
    obtain ⟨c, hg, -⟩ := opened_of_publish (.inl rfl) (allowed_of_nextOp h ht hnext)
    have hr : r = some current :=
      (exec_swap hexec).trans (current_of_identity h ht hnext (.inl rfl) hk hid)
    subst hr
    have hphase := phases_set lib cfg s' (o := .swapSession session) (some current) cont ht
    rw [hg] at hphase
    rcases nextOp_of_phase (.step _ h rfl hs) hphase with ⟨-, hfinished⟩ | ⟨o, hnext', hallowed⟩
    · nomatch hfinished
    · exact hnext'.trans (congrArg some hallowed)
  · intro i ans p' current err hnext hs
    obtain ⟨t, cont, s', r, ht, hprog, hexec, rfl⟩ := ThreadSystem.run_cases hnext hs
    exact exec_close hexec

/-- A `Connect` call of the sample worker, up to the point where its connection is
    opened. -/
def connectToOpened (i : Nat) (raw : Fin 16 → Fin 256) : List RegistryAction :=
  [.run i .none, .run i (.store none), .run i (.now 0), .run i (.random (.ok raw)), .run i .none,
    .run i (.proxy none)]

/-- The hello of the sample worker, under the id it gives. -/
def sampleHello (nodeID : String) : ConnectHello :=
  { nodeID := nodeID, workerSecret := "key", capabilities := [some ⟨"terminalExec", 4⟩] }

/-- A second `Connect` of a connected worker is refused. -/
theorem one_connection_per_worker_refused :
    ∃ p, (registrySystem .sample ⟨.reject, 60, 5⟩).machine.ReachableWhere
        (fun _ a => unpaddedHellos a = true) p ∧
      p.nextOp 1 = some (.claimSessionIfAvailable ⟨1, "a"⟩) ∧
      ∃ p', (registrySystem .sample ⟨.reject, 60, 5⟩).machine.step p (.run 1 (.instant 0)) = some p' ∧
        p'.shared = p.shared ∧ p'.nextOp 1 = none := by
  have hrun := Machine.reachableWhere_runWhere (fun _ a => unpaddedHellos a) (fun _ _ h => h)
    ([.spawn (.connect (.ok (some (sampleHello "a"))) 9),
      .spawn (.connect (.ok (some (sampleHello "a"))) 9)] ++
      connectToOpened 0 (fun _ => 0) ++ [.run 0 (.instant 0)] ++ connectToOpened 1 fun _ => 1)
    (RegistryPool.oneWorker_reachable .sample ⟨.reject, 60, 5⟩ "normal") rfl
  refine ⟨_, hrun, rfl, ?_⟩
  exact (one_connection_per_worker .sample ⟨.reject, 60, 5⟩ _ hrun).2.1 1 ⟨1, "a"⟩ 0 "a" _ _ _ rfl rfl
    rfl rfl rfl rfl (by decide)

/-- A worker whose second hello is padded gets a second connection, even under the
    rejecting policy. -/
theorem padded_hello_connects_twice :
    ∃ p, (registrySystem .sample ⟨.reject, 60, 5⟩).machine.Reachable p ∧
      ∃ session session' c c', p.shared.service.sessions.lookup "a" = some session ∧
        p.shared.service.sessions.lookup " a" = some session' ∧ trimSpace " a" = "a" ∧
        p.shared.service.connections.lookup session.id = some c ∧ c.done = false ∧
        p.shared.service.connections.lookup session'.id = some c' ∧ c'.done = false := by
  have hrun := Machine.reachable_run
    ([.spawn (.connect (.ok (some (sampleHello "a"))) 9),
      .spawn (.connect (.ok (some (sampleHello " a"))) 9)] ++
      connectToOpened 0 (fun _ => 0) ++ [.run 0 (.instant 0)] ++ connectToOpened 1 (fun _ => 1) ++
      [.run 1 (.instant 0)])
    (RegistryPool.oneWorker_reachable .sample ⟨.reject, 60, 5⟩ "normal") rfl
  exact ⟨_, hrun, _, _, _, _, rfl, rfl, rfl, rfl, rfl, rfl, rfl⟩

end Onlyboxes.Console
