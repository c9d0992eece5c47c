import Onlyboxes.Spec.CallDiscipline
import Onlyboxes.Spec.RouteWellFormed

/-!
# Runs of the console

Any number of calls, interleaved with each other and with everything else that happens
to the console, keep the state they share consistent. Connections are never taken back:
the ready ones stay ready and keep the capabilities they declared.

## Key results

- `ServiceState.exec_aside`: what the operations of the calls leave alone
- `ServiceState.Inv.of_reachable`: the shared state is consistent in every run
-/

namespace Onlyboxes.Console

open Text RouteState

/-! ## Connections -/

/-- What never changes on a connection, and what is never taken back: the capabilities it
    declared, its readiness and that it is closed. -/
structure ActiveSession.Continues (c c' : ActiveSession) : Prop where
  nodeID : c'.nodeID = c.nodeID
  recoveryRequired : c'.recoveryRequired = c.recoveryRequired
  ready : c.isReady → c'.isReady
  closed : c.done → c'.done
  declares : ∀ name, (c'.capabilities.lookup name).isSome = (c.capabilities.lookup name).isSome

variable {c' : ActiveSession}

namespace ActiveSession

theorem Continues.refl (c : ActiveSession) : Continues c c := ⟨rfl, rfl, id, id, fun _ => rfl⟩

theorem continues_setCapability (c : ActiveSession) {name : String} {old : SessionCapability}
    (hold : c.capabilities.lookup name = some old) (state : SessionCapability) :
    Continues c (c.setCapability name state) := by
  refine ⟨rfl, rfl, id, id, fun name' => ?_⟩
  unfold setCapability
  rw [AList.lookup_insert_ite]
  split
  · rename_i hname
    rw [hname, hold]
    rfl
  · rfl

variable (m : CaseMap) (c : ActiveSession)

theorem continues_inflightSnapshot (capability : String) :
    Continues c (c.inflightSnapshot m capability).1 := by
  unfold inflightSnapshot
  generalize normalizeCapability m capability = name
  dsimp only
  split
  · exact .refl c
  · split
    · exact .refl c
    · rename_i hstate
      exact continues_setCapability c hstate _

theorem continues_tryAcquireCapability (capability : String) :
    Continues c (c.tryAcquireCapability m capability).1 := by
  unfold tryAcquireCapability
  generalize normalizeCapability m capability = name
  dsimp only
  split
  · exact .refl c
  · split
    · exact .refl c
    · rename_i hstate
      split
      · exact continues_setCapability c hstate _
      · exact continues_setCapability c hstate _

theorem continues_releaseCapability (capability : String) :
    Continues c (c.releaseCapability m capability) := by
  unfold releaseCapability
  generalize normalizeCapability m capability = name
  dsimp only
  split
  · exact .refl c
  · split
    · exact .refl c
    · rename_i hstate
      split
      · exact continues_setCapability c hstate _
      · exact .refl c

theorem continues_registerPending {commandID capability : String}
    (h : c.registerPending m commandID capability = .ok c') : Continues c c' := by
  unfold registerPending at h
  dsimp only at h
  split at h
  · nomatch h
  · split at h
    · nomatch h
    · cases h
      exact ⟨rfl, rfl, id, id, fun _ => rfl⟩

theorem continues_takePending (commandID : String) : Continues c (c.takePending commandID).1 := by
  unfold takePending
  dsimp only
  split
  · exact .refl c
  · split
    · exact .refl c
    · exact ⟨rfl, rfl, id, id, fun _ => rfl⟩

theorem continues_closeDone (err : Option String) : Continues c (c.closeDone err) := by
  unfold closeDone
  split
  · exact .refl c
  · exact ⟨rfl, rfl, id, fun _ => rfl, fun _ => rfl⟩

theorem Continues.trans {c c'' : ActiveSession} (h : Continues c c') (h' : Continues c' c'') :
    Continues c c'' where
  nodeID := h'.nodeID.trans h.nodeID
  recoveryRequired := h'.recoveryRequired.trans h.recoveryRequired
  ready := fun hr => h'.ready (h.ready hr)
  closed := fun hc => h'.closed (h.closed hc)
  declares := fun n => (h'.declares n).trans (h.declares n)

theorem continues_recoveryComplete (c : ActiveSession) :
    Continues c { c with recoveryComplete := true } := by
  refine ⟨rfl, rfl, fun _ => ?_, id, fun _ => rfl⟩
  unfold isReady
  exact Bool.or_true _

theorem continues_resolve (m : CaseMap) (commandID : String) (c : ActiveSession) :
    Continues c
      (match c.takePending commandID with
      | (c, none) => (c, ())
      | (c, some pending) => (c.releaseCapability m pending.capability, ())).1 := by
  have htake := continues_takePending c commandID
  generalize c.takePending commandID = taken at htake ⊢
  obtain ⟨c', _ | pending⟩ := taken
  · exact htake
  · dsimp only
    exact htake.trans (continues_releaseCapability m c' pending.capability)

end ActiveSession

namespace ServiceState

open ActiveSession

/-- Connections stay, and only what `Continues` allows changes on them. -/
def ConnectionsKept (s s' : ServiceState) : Prop :=
  ∀ id c, s.connections.lookup id = some c →
    ∃ c', s'.connections.lookup id = some c' ∧ Continues c c'

variable {s s' : ServiceState}

theorem ConnectionsKept.of_eq (h : s'.connections = s.connections) :
    ConnectionsKept s s' := fun id c hc => ⟨c, by rw [h]; exact hc, .refl c⟩

variable {session : SessionRef}

/-- An operation on a connection that keeps what `Continues` says. -/
theorem onSession_spec {ρ : Type} {f : ActiveSession → ActiveSession × ρ} {r : ρ}
    (hf : ∀ c, Continues c (f c).1) (h : s.onSession session f = some (s', r)) :
    s'.routes = s.routes ∧ s'.sessions = s.sessions ∧ s'.nextConnection = s.nextConnection ∧
      ConnectionsKept s s' ∧ ∃ c, s.connections.lookup session.id = some c ∧ r = (f c).2 ∧
        s'.connections = s.connections.insert session.id (f c).1 := by
  unfold onSession at h
  split at h
  · nomatch h
  · rename_i c hc
    cases h
    refine ⟨rfl, rfl, rfl, fun id c₀ hc₀ => ?_, c, hc, rfl, rfl⟩
    dsimp only
    rw [AList.lookup_insert_ite]
    split
    · rename_i hid
      subst hid
      rw [hc] at hc₀
      cases hc₀
      exact ⟨_, rfl, hf c⟩
    · exact ⟨c₀, hc₀, .refl c₀⟩

/-- What an operation leaves alone besides the routes. -/
structure Aside (s s' : ServiceState) : Prop where
  sessions : s'.sessions = s.sessions
  nextConnection : s'.nextConnection = s.nextConnection
  connections : ConnectionsKept s s'
  known : ∀ id c', s'.connections.lookup id = some c' →
    ∃ c, s.connections.lookup id = some c ∧ Continues c c'

theorem Aside.refl (s : ServiceState) : Aside s s :=
  ⟨rfl, rfl, .of_eq rfl, fun _ c hc => ⟨c, hc, .refl c⟩⟩

theorem Aside.onRoutes (s : ServiceState) (routes : RouteLog) : Aside s { s with routes := routes } :=
  ⟨rfl, rfl, .of_eq rfl, fun _ c hc => ⟨c, hc, .refl c⟩⟩

theorem Aside.onSession {ρ : Type} {f : ActiveSession → ActiveSession × ρ} {r : ρ}
    (hf : ∀ c, Continues c (f c).1) (h : s.onSession session f = some (s', r)) :
    s'.routes = s.routes ∧ Aside s s' := by
  obtain ⟨hroutes, hsessions, hnext, hkept, c, hc, -, heq⟩ := onSession_spec hf h
  refine ⟨hroutes, hsessions, hnext, hkept, fun id c' hc' => ?_⟩
  rw [heq] at hc'
  rcases AList.lookup_insert_cases hc' with ⟨rfl, rfl⟩ | ⟨-, hc'⟩
  · exact ⟨c, hc, hf c⟩
  · exact ⟨c', hc', .refl c'⟩

end ServiceState

/-- The events on one connection that `Connect` and its goroutines cause. -/
def ServiceEvent.onConnection : ServiceEvent → Bool
  | .recoveryComplete _ | .resolve .. | .close .. => true
  | _ => false

/-! ## The operations on the route table -/

/-- The operations that a call makes on the route table. -/
def ServiceOp.onTable : ServiceOp → Bool
  | .claimPrune _ | .prune _ | .snapshot _ _ | .claim _ _ | .reserve _ _ _ | .confirm _ _ _ _
  | .commit _ _ _ _ _ | .clearReservation _ _ _ | .clearRoute _ _ => true
  | _ => false

namespace ServiceState

open ActiveSession

variable {s s' : ServiceState}

theorem exec_onRoutes {ρ : Type} {result : RouteState × ρ} {r : ρ}
    (h : s.onRoutes result = some (s', r)) :
    s' = { s with routes := s.routes.advance result.1 } ∧ r = result.2 := by
  cases h
  exact ⟨rfl, rfl⟩

variable {m : CaseMap} {o : ServiceOp} {ans : Answer} {r : o.Res}

/-- Operations elsewhere do not touch the routes, and operations on the routes nothing
    else. -/
theorem exec_aside (h : s.exec m o ans = some (s', r)) :
    Aside s s' ∧ (o.onTable = false → s'.routes = s.routes) := by
  have hsession : ∀ {ρ : Type} {session : SessionRef} {f : ActiveSession → ActiveSession × ρ} {r : ρ},
      s.onSession session f = some (s', r) → (∀ c, Continues c (f c).1) →
      Aside s s' ∧ (o.onTable = false → s'.routes = s.routes) := by
    intro ρ session f r h hf
    obtain ⟨hroutes, haside⟩ := Aside.onSession hf h
    exact ⟨haside, fun _ => hroutes⟩
  have htable : ∀ {ρ : Type} {result : RouteState × ρ} {r : ρ}, o.onTable = true →
      s.onRoutes result = some (s', r) → Aside s s' ∧ (o.onTable = false → s'.routes = s.routes) := by
    intro ρ result r ho h
    obtain ⟨rfl, -⟩ := exec_onRoutes h
    exact ⟨.onRoutes s _, fun hfalse => nomatch ho.symm.trans hfalse⟩
  have hsame : ∀ {r' : o.Res}, some (s, r') = some (s', r) →
      Aside s s' ∧ (o.onTable = false → s'.routes = s.routes) := by
    intro r' h
    cases h
    exact ⟨.refl s, fun _ => rfl⟩
  unfold exec at h
  split at h
  all_goals try exact hsame h
  all_goals try exact htable rfl h
  · cases h
    exact ⟨⟨rfl, rfl, .of_eq rfl, fun _ c hc => ⟨c, hc, .refl c⟩⟩, fun _ => rfl⟩
  · exact hsession h Continues.refl
  · exact hsession h Continues.refl
  · exact hsession h fun c => continues_inflightSnapshot m c _
  · exact hsession h fun c => continues_tryAcquireCapability m c _
  · rename_i session capability
    apply hsession h
    intro c
    dsimp only
    exact continues_releaseCapability m c capability
  · apply hsession h
    intro c
    split
    · exact .refl c
    · rename_i c' hc'
      exact continues_registerPending m c hc'
  · exact hsession h fun c => continues_takePending c _
  · nomatch h

/-- What a call does to the routes: nothing, the swap before a prune, or an operation of
    the table. -/
theorem exec_routes (h : s.exec m o ans = some (s', r)) :
    s'.routes = s.routes ∨
    (∃ now, s'.routes = s.routes.advance (claimPrune s.routes.state now).1) ∨
    ∃ op : RouteOp, (∀ sessionID nodeID now, op = .reserve sessionID nodeID now →
        o = .reserve sessionID nodeID now) ∧
      s'.routes = s.routes.advance (op.exec s.routes.state) := by
  cases ho : o.onTable with
  | false => exact .inl ((exec_aside h).2 ho)
  | true =>
    unfold exec at h
    split at h
    all_goals try exact absurd ho Bool.false_ne_true
    case h_27 => nomatch h
    all_goals obtain ⟨rfl, -⟩ := exec_onRoutes h
    · exact .inr (.inl ⟨_, rfl⟩)
    · exact .inr (.inr ⟨.prune _ _, nofun, rfl⟩)
    · exact .inr (.inr ⟨.snapshot _ _ _, nofun, rfl⟩)
    · exact .inr (.inr ⟨.claim _ _, nofun, rfl⟩)
    · refine .inr (.inr ⟨.reserve _ _ _, fun _ _ _ heq => ?_, rfl⟩)
      cases heq
      rfl
    · exact .inr (.inr ⟨.confirm _ _ _ _, nofun, rfl⟩)
    · exact .inr (.inr ⟨.commit _ _ _ _ _ _, nofun, rfl⟩)
    · exact .inr (.inr ⟨.clearReservation _ _ _, nofun, rfl⟩)
    · exact .inr (.inr ⟨.clearRoute _ _ _, nofun, rfl⟩)

theorem quiet_claimPrune (s : RouteState) (now : Int) : Quiets s (claimPrune s now).1 := by
  unfold claimPrune
  split
  · exact .refl
  · exact .single (.pruned s now)

/-! ## Consistency -/

/-- What holds of the shared state in every run. -/
structure Inv (s : ServiceState) : Prop where
  routes : s.routes.Inv
  sessions : ∀ n ref, s.sessions.lookup n = some ref →
    ref.nodeID = n ∧ ∃ c, s.connections.lookup ref.id = some c ∧ c.nodeID = n
  connections : ∀ id c, s.connections.lookup id = some c →
    trimSpace c.nodeID ≠ "" ∧ id < s.nextConnection

theorem Inv.started {s : ServiceState} (h : s.Started) : s.Inv := by
  obtain ⟨routes, hroutes, rfl⟩ := h
  exact ⟨.started hroutes, nofun, nofun⟩

/-- Connections that go on keep the rest of the state consistent. -/
theorem Inv.aside (h : s.Inv) (hroutes : s'.routes.Inv) (haside : Aside s s') : s'.Inv := by
  refine ⟨hroutes, fun n ref href => ?_, fun id c' hc' => ?_⟩
  · rw [haside.sessions] at href
    obtain ⟨hn, c, hc, hnode⟩ := h.sessions n ref href
    obtain ⟨c', hc', hcont⟩ := haside.connections _ c hc
    exact ⟨hn, c', hc', hcont.nodeID.trans hnode⟩
  · obtain ⟨c, hc, hcont⟩ := haside.known id c' hc'
    rw [haside.nextConnection, hcont.nodeID]
    exact h.connections id c hc

/-- The routes after an operation of a call. -/
theorem exec_routes_inv (h : s.exec m o ans = some (s', r)) (hinv : s.routes.Inv) :
    s'.routes.Inv := by
  rcases exec_routes h with hsame | ⟨now, hprune⟩ | ⟨op, -, hop⟩
  · exact hsame ▸ hinv
  · exact hprune ▸ hinv.updates (quiet_claimPrune _ _).updates
  · exact hop ▸ hinv.exec op

theorem Inv.exec (hinv : s.Inv) (h : s.exec m o ans = some (s', r)) : s'.Inv :=
  hinv.aside (exec_routes_inv h hinv.routes) (exec_aside h).1

/-- What an event does. -/
inductive EventStep (s : ServiceState) : ServiceEvent → ServiceState → Prop
  | connect (nodeID : String) (connection : ActiveSession)
      (declared : List (Option DeclaredCapability)) (hblank : trimSpace nodeID ≠ "")
      (hnode : connection.nodeID = nodeID) :
      EventStep s (.connect nodeID declared)
        { s with
          connections := s.connections.insert s.nextConnection connection
          nextConnection := s.nextConnection + 1 }
  | publish (session : SessionRef) (connection : ActiveSession)
      (hc : s.connections.lookup session.id = some connection)
      (hnode : connection.nodeID = session.nodeID) :
      EventStep s (.publish session)
        { s with sessions := s.sessions.insert session.nodeID session }
  | connection {s' : ServiceState} (e : ServiceEvent) (he : e.onConnection = true)
      (hroutes : s'.routes = s.routes) (haside : Aside s s') : EventStep s e s'
  | removed (session : SessionRef) (h : s.sessions.lookup session.nodeID = some session) :
      EventStep s (.removeSession session)
        { s with sessions := s.sessions.erase session.nodeID }
  | notRemoved (session : SessionRef) (h : s.sessions.lookup session.nodeID ≠ some session) :
      EventStep s (.removeSession session) s
  | routes (op : RouteOp) (hop : op.background = true) :
      EventStep s (.routes op) { s with routes := s.routes.advance (op.exec s.routes.state) }

variable {e : ServiceEvent}

theorem occurs_step (h : s.occurs m e = some s') : EventStep s e s' := by
  have hsession : ∀ {session : SessionRef} {f : ActiveSession → ActiveSession × Unit},
      e.onConnection = true → (∀ c, Continues c (f c).1) →
      (s.onSession session f).map Prod.fst = some s' → EventStep s e s' := by
    intro session f he hf h
    obtain ⟨⟨s₁, u⟩, hs₁, rfl⟩ := Option.map_eq_some_iff.mp h
    obtain ⟨hroutes, haside⟩ := Aside.onSession hf hs₁
    exact .connection e he hroutes haside
  unfold occurs at h
  split at h
  · rename_i nodeID declared
    split at h
    · nomatch h
    · rename_i hblank
      cases h
      exact .connect nodeID _ declared hblank rfl
  · rename_i session
    split at h
    · nomatch h
    · rename_i connection hc
      split at h
      · rename_i hnode
        cases h
        exact .publish session connection hc hnode
      · nomatch h
  · exact hsession rfl continues_recoveryComplete h
  · exact hsession rfl (continues_resolve m _) h
  · refine hsession rfl (fun c => ?_) h
    dsimp only
    exact continues_closeDone c _
  · rename_i session
    split at h
    · rename_i hcurrent
      cases h
      exact .removed session hcurrent
    · rename_i hcurrent
      cases h
      exact .notRemoved session hcurrent
  · rename_i op
    split at h
    · rename_i hop
      cases h
      exact .routes op hop
    · nomatch h

/-- Every connection is there from before or just made. -/
theorem occurs_known (h : s.occurs m e = some s') {id : Nat}
    (hc' : s'.connections.lookup id = some c') :
    (∃ c, s.connections.lookup id = some c ∧ Continues c c') ∨
      ∃ declared, e = .connect c'.nodeID declared := by
  cases occurs_step h with
  | connect nodeID connection declared hblank hnode =>
    rcases AList.lookup_insert_cases hc' with ⟨-, rfl⟩ | ⟨-, hc'⟩
    · exact .inr ⟨declared, by rw [hnode]⟩
    · exact .inl ⟨c', hc', .refl c'⟩
  | connection _ _ _ haside => exact .inl (haside.known id c' hc')
  | _ => exact .inl ⟨c', hc', .refl c'⟩

theorem Inv.occurs (hinv : s.Inv) (h : s.occurs m e = some s') : s'.Inv := by
  cases occurs_step h with
  | connect nodeID connection declared hblank hnode =>
    refine ⟨hinv.routes, fun n ref href => ?_, fun id c hc => ?_⟩
    · obtain ⟨hn, c, hc, hnode⟩ := hinv.sessions n ref href
      have hlt := (hinv.connections _ c hc).2
      dsimp only
      rw [AList.lookup_insert_ite, if_neg (Nat.ne_of_lt hlt)]
      exact ⟨hn, c, hc, hnode⟩
    · dsimp only
      rcases AList.lookup_insert_cases hc with ⟨hid, rfl⟩ | ⟨-, hc⟩
      · exact ⟨by rw [hnode]; exact hblank, by omega⟩
      · have hold := hinv.connections id c hc
        exact ⟨hold.1, by omega⟩
  | publish session connection hc hnode =>
    refine ⟨hinv.routes, fun n ref href => ?_, hinv.connections⟩
    rcases AList.lookup_insert_cases href with ⟨hn, rfl⟩ | ⟨-, href⟩
    · exact ⟨hn.symm, connection, hc, hnode.trans hn.symm⟩
    · exact hinv.sessions n ref href
  | connection _ _ hroutes haside => exact hinv.aside (by rw [hroutes]; exact hinv.routes) haside
  | removed session hcurrent =>
    exact ⟨hinv.routes, fun n ref href => hinv.sessions n ref (AList.lookup_of_erase href).2,
      hinv.connections⟩
  | notRemoved => exact hinv
  | routes op => exact ⟨hinv.routes.exec op, hinv.sessions, hinv.connections⟩

end ServiceState

variable {ok : ConsolePool → ConsoleAction → Prop}

/-- The shared state is consistent in every run. -/
theorem ServiceState.Inv.of_reachable {lib : GoLib} {p : ConsolePool}
    (h : (consoleSystem lib).machine.ReachableWhere ok p) : p.shared.Inv := by
  apply h.invariant (P := fun p => p.shared.Inv)
  · intro p hinit
    exact .started hinit.1
  · intro p a p' _ hinv _ hs
    rcases ThreadSystem.step_cases hs with ⟨c, rfl, rfl⟩ |
      ⟨i, ans, t, o, k, s', r, rfl, -, -, hexec, rfl⟩ | ⟨e, s', rfl, henv, rfl⟩
    · exact hinv
    · exact hinv.exec hexec
    · exact hinv.occurs henv

/-! ## Runs on fixed inputs -/

/-- A library to execute runs with: a payload is the session id after its first
    character, and every result but the empty one carries a lease. -/
def GoLib.sample : GoLib where
  caseMap := ⟨id, fun _ => rfl, fun _ _ => rfl⟩
  equalFold a b := a = b
  payloadSessionID _ payload := some (String.ofList (payload.toList.drop 1))
  resultLeaseExpiresUnixMS payload := if payload = "" then none else some 5000
  renewResult _ := none
  renewPayload sessionID _ := "-" ++ sessionID
  renewPayload_ne sessionID _ h := by
    have hlist := congrArg String.toList h
    rw [String.toList_append] at hlist
    exact nomatch hlist
  payloadSessionID_renewPayload sessionID _ := by
    rw [String.toList_append]
    exact congrArg some String.ofList_toList

/-- A console without workers and routes. -/
def ConsolePool.fresh : ConsolePool :=
  { shared := { routes := { state := newRouteState 0 ∅, opened := [] } } }

theorem ConsolePool.fresh_reachable (lib : GoLib) :
    (consoleSystem lib).machine.ReachableWhere ok fresh :=
  .init ⟨⟨_, .new 0 ∅, rfl⟩, rfl⟩

end Onlyboxes.Console
