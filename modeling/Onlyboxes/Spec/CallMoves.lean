import Onlyboxes.Spec.ConsoleRuns

/-!
# The moves of a call

Every call keeps to `callProtocol` in every interleaving, and each of its operations is
one of a few moves on the route of its session.

## Key results

- `calls_keep`: every call keeps to the protocol in every run
- `CallState.Wf.of_kept`: the bookkeeping of a call is consistent
- `moves_of_exec`: what an operation does to the routes and to its call
-/

namespace Onlyboxes.Console

open Text RouteState

/-! ## Calls keep to the protocol -/

variable {fault : StoreFault}

/-- A route that is looked up is in the table. -/
theorem snapshot_eq_some {s : RouteState} {sessionID : String} {now : Int}
    {r : TerminalSessionRoute} (h : (s.terminalSessionRouteSnapshot sessionID now fault).2 = some r) :
    s.route (trimSpace sessionID) = some r ∧
      (s.terminalSessionRouteSnapshot sessionID now fault).1 = s := by
  obtain ⟨result, hroute, heq⟩ | ⟨r, -, -, heq⟩ := snapshot_cases s sessionID now fault
  · rw [heq] at h ⊢
    exact ⟨hroute r h, rfl⟩
  · rw [heq] at h
    nomatch h

variable {W : String → Prop} {o : ServiceOp} {r : o.Res} {m : CaseMap}

/-- A consistent state answers as the protocol expects. -/
theorem answered_of_exec {s s' : ServiceState} {ans : Answer} (hinv : s.Inv)
    (hW : ∀ n ref, s.sessions.lookup n = some ref → W n) (h : s.exec m o ans = some (s', r))
    (st : List (String × Nat)) :
    CallState.Answered W ⟨o, r, st⟩ := by
  have hnode := fun k route hr => (hinv.routes.wf.routes k route hr).node
  cases o with
  | getSession nodeID =>
    cases ans with
    | none =>
      cases h
      cases hlookup : s.sessions.lookup nodeID with
      | none => exact trivial
      | some ref =>
        obtain ⟨hn, c, hc, hcn⟩ := hinv.sessions nodeID ref hlookup
        have hblank := (hinv.connections _ c hc).1
        rw [hcn] at hblank
        exact ⟨hn, hblank, hW nodeID ref hlookup⟩
    | _ => nomatch h
  | snapshot sessionID now =>
    cases ans with
    | store fault =>
      obtain ⟨-, rfl⟩ := ServiceState.exec_onRoutes h
      cases hr : (s.routes.state.terminalSessionRouteSnapshot sessionID now fault).2 with
      | none => exact trivial
      | some route => exact hnode _ route (snapshot_eq_some hr).1
    | _ => nomatch h
  | claim sessionID now =>
    cases ans with
    | none =>
      obtain ⟨-, rfl⟩ := ServiceState.exec_onRoutes h
      obtain ⟨route, hr, heq⟩ | heq := claim_cases s.routes.state sessionID now
      · rw [heq]
        exact hnode _ route hr
      · rw [heq]
        exact trivial
    | _ => nomatch h
  | reserve sessionID preferredNodeID now =>
    cases ans with
    | none =>
      obtain ⟨-, rfl⟩ := ServiceState.exec_onRoutes h
      obtain ⟨hblank, heq⟩ | ⟨route, hr, heq⟩ | ⟨-, hn, -, heq⟩ :=
        reserve_cases s.routes.state sessionID preferredNodeID now
      · rw [heq]
        exact ⟨rfl, fun hs hn => absurd hblank (not_or.mpr ⟨hs, hn⟩)⟩
      · rw [heq]
        exact ⟨(hnode _ route hr).1, fun _ _ => (hnode _ route hr).2⟩
      · rw [heq]
        exact ⟨trimSpace_trimSpace _, fun _ _ => hn⟩
    | _ => nomatch h
  | _ => exact trivial

/-- The state of a call in a pool. -/
def callState (lib : GoLib) (t : ConsoleThread) : CallState :=
  (callProtocol lib fun _ => True).after (t.call.start lib) t.log

/-- A call that has kept to the protocol and will. -/
abbrev CallKeeps (lib : GoLib) (W : String → Prop) (t : ConsoleThread) : Prop :=
  ThreadSystem.Thread.Keeps (callProtocol lib W) (ServiceCall.start lib)
    (fun _ g => ReturnsSettled g) t

variable {lib : GoLib} {ok : ConsolePool → ConsoleAction → Prop} {p : ConsolePool}

/-- Every call keeps to the protocol in every run, among the workers the run has. -/
theorem calls_keep_among
    (hW : ∀ p, (consoleSystem lib).machine.ReachableWhere ok p → ∀ n ref, p.shared.sessions.lookup n = some ref → W n)
    (h : (consoleSystem lib).machine.ReachableWhere ok p) : ∀ t ∈ p.threads, CallKeeps lib W t := by
  apply ThreadSystem.keeps _ _ _ (ServiceCall.meets_body lib) _ h
  intro p i ans t o k s' r hreach _ _ _ _ hexec
  exact answered_of_exec (ServiceState.Inv.of_reachable hreach) (hW p hreach) hexec _

/-- Every call keeps to the protocol in every run. -/
theorem calls_keep (h : (consoleSystem lib).machine.ReachableWhere ok p) :
    ∀ t ∈ p.threads, CallKeeps lib (fun _ => True) t :=
  calls_keep_among (fun _ _ _ _ _ => trivial) h

/-- The operation a call is about to perform is one its state allows. -/
theorem allowed_of_prog (h : (consoleSystem lib).machine.ReachableWhere ok p) {i : Nat}
    {t : ConsoleThread} {k : o.Res → Service Unit} (ht : p.threads[i]? = some t)
    (hprog : t.prog = .op o k) : (callState lib t).Allowed (fun _ => True) o := by
  have hmeets := (calls_keep h t (List.mem_of_getElem? ht)).2
  rw [hprog, Prog.meets_op] at hmeets
  exact hmeets.1

/-- The state of a call does not depend on which workers it may see. -/
theorem after_among (lib : GoLib) (W W' : String → Prop) (g : CallState)
    (log : List ServiceCallEvent) :
    (callProtocol lib W).after g log = (callProtocol lib W').after g log := by
  induction log with
  | nil => rfl
  | cons e log ih => exact congrArg (fun g => CallState.next lib g e) ih

/-! ## The bookkeeping of a call -/

/-- The operations that change what a call holds. -/
def ServiceOp.onHold : ServiceOp → Bool
  | .snapshot _ _ | .claim _ _ | .reserve _ _ _ | .confirm _ _ _ _
  | .commit _ _ _ _ _ | .clearReservation _ _ _ | .clearRoute _ _ => true
  | _ => false

namespace CallState

variable {lib : GoLib} {g g' g'' : CallState}

/-- The same session with the same worker and reservation. -/
structure SameHold (g g' : CallState) : Prop where
  kind : g'.kind = g.kind
  sessionID : g'.sessionID = g.sessionID
  obtained : g'.obtained = g.obtained
  held : g'.held = g.held
  obtainedIDs : g'.obtainedIDs = g.obtainedIDs
  settledIDs : g'.settledIDs = g.settledIDs

theorem SameHold.refl (g : CallState) : SameHold g g := ⟨rfl, rfl, rfl, rfl, rfl, rfl⟩

theorem SameHold.heldID (h : SameHold g g') : g'.heldID = g.heldID := by
  unfold CallState.heldID
  rw [h.obtained, h.held]

theorem SameHold.miss (g : CallState) : SameHold g g.miss := by
  unfold CallState.miss
  split
  · exact ⟨rfl, rfl, rfl, rfl, rfl, rfl⟩
  · exact .refl g

/-- Other operations leave what the call holds alone. -/
theorem sameHold_next (lib : GoLib) (g : CallState) (ho : o.onHold = false) (r : o.Res)
    (st : List (String × Nat)) : SameHold g (g.next lib ⟨o, r, st⟩) := by
  cases o with
  | listOnlineNodeIDs capability ownerID => exact ⟨rfl, rfl, rfl, rfl, rfl, rfl⟩
  | getSession nodeID =>
    cases r with
    | none => exact .miss g
    | some ref => exact .refl g
  | isReady session | hasCapability session capability =>
    cases r with
    | false => exact .miss g
    | true => exact .refl g
  | enqueueCommand session commandID =>
    cases r with
    | error err => exact .refl g
    | ok u => exact ⟨rfl, rfl, rfl, rfl, rfl, rfl⟩
  | await session commandID =>
    cases r with
    | outcome outcome | closed => exact ⟨rfl, rfl, rfl, rfl, rfl, rfl⟩
    | contextDone err => exact .refl g
  | snapshot | claim | reserve | confirm | commit | clearReservation | clearRoute => nomatch ho
  | _ => exact .refl g

/-- A call that counts as a use holds a reservation, only dispatches do, and every
    reservation obtained is held or settled. -/
structure Wf (g : CallState) : Prop where
  held : g.held → ∃ o, g.obtained = some o ∧ o.reservationID ≠ 0
  unheld : ∀ o, g.obtained = some o → o.reservationID ≠ 0 → g.held
  dispatch : g.kind ≠ .dispatch → g.held = false
  ids : g.obtainedIDs = g.heldID.toList ++ g.settledIDs

theorem Wf.start (c : ServiceCall) : Wf (c.start lib) := by
  cases c <;> exact ⟨nofun, nofun, fun _ => rfl, rfl⟩

theorem Wf.sameHold (h : Wf g) (hsame : SameHold g g') : Wf g' where
  held := by
    rw [hsame.held, hsame.obtained]
    exact h.held
  unheld := by
    rw [hsame.held, hsame.obtained]
    exact h.unheld
  dispatch := by
    rw [hsame.held, hsame.kind]
    exact h.dispatch
  ids := by
    rw [hsame.obtainedIDs, hsame.heldID, hsame.settledIDs]
    exact h.ids

theorem Wf.settle (h : Wf g) : Wf g.settle where
  held := nofun
  unheld := nofun
  dispatch := fun _ => rfl
  ids := h.ids

/-- A call obtains one worker at a time, and only dispatches obtain reservations. -/
theorem Wf.obtain (h : Wf g) {nodeID : String} {reservationID : Nat}
    (hfree : g.heldID = none) (hkind : g.kind ≠ .dispatch → reservationID = 0)
    (opened : List (String × Nat)) : Wf (g.obtain nodeID reservationID opened) where
  held := fun hheld => ⟨_, rfl, of_decide_eq_true hheld⟩
  unheld := by
    intro o ho hne
    cases ho
    exact decide_eq_true hne
  dispatch := fun hk => decide_eq_false (not_not.mpr (hkind hk))
  ids := by
    have hids : g.obtainedIDs = g.settledIDs := by
      rw [h.ids, hfree]
      rfl
    unfold CallState.obtain CallState.heldID
    dsimp only
    by_cases hzero : reservationID = 0
    · simp [hzero, hids]
    · simp [hzero, hids]

theorem heldID_of_obtained_none (h : g.obtained = none) : g.heldID = none := by
  unfold CallState.heldID
  rw [h]

/-- Every event a call is allowed keeps the bookkeeping consistent. -/
theorem Wf.next {W : String → Prop} (h : Wf g) {e : ServiceCallEvent}
    (hallowed : g.Allowed W e.op) : Wf (g.next lib e) := by
  obtain ⟨o, r, st⟩ := e
  by_cases ho : o.onHold = false
  · exact h.sameHold (sameHold_next lib g ho r st)
  · cases o with
    | snapshot sessionID now =>
      cases r with
      | none => exact h
      | some route =>
        show Wf (if g.kind = .dispatch then g else g.obtain route.nodeID 0 st)
        split
        · exact h
        · rename_i hkind
          have hunheld : g.heldID = none := by
            unfold CallState.heldID
            rw [h.dispatch hkind]
            cases g.obtained <;> rfl
          exact h.obtain hunheld (fun _ => rfl) st
    | claim sessionID now =>
      cases r with
      | none => exact h
      | some resolved =>
        obtain ⟨hkind, -, hnone⟩ := hallowed
        exact h.obtain (heldID_of_obtained_none hnone) (fun hk => absurd hkind hk) st
    | reserve sessionID preferredNodeID now =>
      obtain ⟨hkind, -, hnone, -⟩ := hallowed
      exact h.obtain (heldID_of_obtained_none hnone) (fun hk => absurd hkind hk) st
    | confirm sessionID nodeID reservationID now | clearRoute sessionID nodeID => exact h.settle
    | commit sessionID nodeID reservationID lease now =>
      cases r with
      | ok done => exact h.settle
      | error err => exact h.sameHold ⟨rfl, rfl, rfl, rfl, rfl, rfl⟩
    | clearReservation sessionID nodeID reservationID =>
      exact h.settle.sameHold ⟨rfl, rfl, rfl, rfl, rfl, rfl⟩
    | _ => exact absurd rfl ho

end CallState

/-- The bookkeeping of a call is consistent, and about one session with a trimmed id. -/
theorem CallState.Wf.of_kept (c : ServiceCall) {log : List ServiceCallEvent}
    (h : (callProtocol lib W).Kept (c.start lib) log) :
    CallState.Wf ((callProtocol lib W).after (c.start lib) log) := by
  induction log with
  | nil => exact .start c
  | cons e log ih => exact (ih h.1).next h.2.1

/-- A call is about a session with a trimmed id. -/
theorem ServiceCall.trimSpace_start (lib : GoLib) (c : ServiceCall) :
    trimSpace (c.start lib).sessionID = (c.start lib).sessionID := by
  cases c with
  | task capability payloadJSON options now =>
    dsimp only [ServiceCall.start]
    exact trimSpace_dispatchSessionID lib capability payloadJSON
  | echo options | sysTask capability payloadJSON options now => rfl
  | renew ownerID sessionID leaseTTLSec | delete ownerID sessionID now =>
    dsimp only [ServiceCall.start]
    exact trimSpace_scopeTerminalSessionID ownerID sessionID

/-- No event changes what a call is about. -/
theorem after_call (lib : GoLib) (W : String → Prop) (g : CallState)
    (log : List ServiceCallEvent) :
    ((callProtocol lib W).after g log).kind = g.kind ∧
      ((callProtocol lib W).after g log).sessionID = g.sessionID := by
  induction log with
  | nil => exact ⟨rfl, rfl⟩
  | cons e log ih =>
    have hnext := CallState.next_call lib ((callProtocol lib W).after g log) e
    exact ⟨hnext.1.trans ih.1, hnext.2.trans ih.2⟩

theorem trimSpace_callState (lib : GoLib) (t : ConsoleThread) :
    trimSpace (callState lib t).sessionID = (callState lib t).sessionID := by
  unfold callState
  rw [(after_call lib _ _ t.log).2]
  exact t.call.trimSpace_start lib

/-! ## Moves -/

/-- What an operation of a call does to the routes and to what the call holds. -/
inductive Moves (log : RouteLog) (g : CallState) : RouteLog → CallState → Prop
  | quiet {s' : RouteState} (h : Quiets log.state s') : Moves log g { log with state := s' } g
  | view {r : TerminalSessionRoute} (hkind : g.kind ≠ .dispatch)
      (hr : log.state.route g.sessionID = some r) :
      Moves log g log (g.obtain r.nodeID 0 log.opened)
  | join {r : TerminalSessionRoute} (now : Int) (hkind : g.kind = .dispatch)
      (hfree : g.obtained = none) (hr : log.state.route g.sessionID = some r) :
      Moves log g { log with state := log.state.putRoute g.sessionID (joined now r) }
        (g.obtain r.nodeID r.reservationID log.opened)
  | opened {n : String} {id : Nat} (now : Int) (hkind : g.kind = .dispatch)
      (hfree : g.obtained = none) (hn : trimSpace n = n ∧ n ≠ "")
      (hnone : log.state.route g.sessionID = none)
      (hid : id = nextReservationSeq log.state.terminalRouteReservationSeq) :
      Moves log g
        { state := log.state.openRoute g.sessionID n now
          opened := (g.sessionID, id) :: log.opened }
        (g.obtain n id ((g.sessionID, id) :: log.opened))
  | confirm {o : Obtained} {r : TerminalSessionRoute} (now : Int) (ho : g.obtained = some o)
      (hr : log.state.route g.sessionID = some r) (hnode : r.nodeID = o.nodeID)
      (hown : r.reservationID = o.reservationID ∨ r.confirmedReservationID = o.reservationID) :
      Moves log g
        { log with state := log.state.putRoute g.sessionID (confirmed o.reservationID now r) }
        g.settle
  | commit {o : Obtained} {r : TerminalSessionRoute} (rows : TerminalSessionRows) (lease now : Int)
      (ho : g.obtained = some o) (hr : log.state.route g.sessionID = some r)
      (hnode : r.nodeID = o.nodeID)
      (hown : r.reservationID = o.reservationID ∨ r.confirmedReservationID = o.reservationID) :
      Moves log g
        { log with
          state := { log.state with rows := rows }.putRoute g.sessionID
            (committed o.reservationID lease now r) }
        g.settle
  | release {o : Obtained} {r : TerminalSessionRoute} (ho : g.obtained = some o)
      (hr : log.state.route g.sessionID = some r) (hnode : r.nodeID = o.nodeID)
      (hid : r.reservationID = o.reservationID) (hne : o.reservationID ≠ 0)
      (huses : 1 < r.provisionalUses) :
      Moves log g
        { log with
          state := log.state.putRoute g.sessionID
            { r with provisionalUses := r.provisionalUses - 1 } }
        g.settle
  | remove {o : Obtained} {r : TerminalSessionRoute} (ho : g.obtained = some o)
      (hr : log.state.route g.sessionID = some r) (hnode : r.nodeID = o.nodeID)
      (hid : r.reservationID = o.reservationID) (hne : o.reservationID ≠ 0)
      (huses : r.provisionalUses ≤ 1) :
      Moves log g
        { log with state := log.state.deleteTerminalSessionRouteLocked g.sessionID r } g.settle
  | clear {o : Obtained} {r : TerminalSessionRoute} (rows : TerminalSessionRows)
      (ho : g.obtained = some o)
      (hwhy : g.kind = .delete ∨ g.lost ∨ g.notFound ∧ o.reservationID = 0)
      (hr : log.state.route g.sessionID = some r) (hnode : o.nodeID = "" ∨ r.nodeID = o.nodeID) :
      Moves log g
        { log with
          state := { log.state with rows := rows }.deleteTerminalSessionRouteLocked g.sessionID r }
        g.settle
  | vain {o : Obtained} (ho : g.obtained = some o)
      (h : o.reservationID ≠ 0 → ∀ r, log.state.route g.sessionID = some r →
        r.nodeID = o.nodeID → r.reservationID ≠ o.reservationID) :
      Moves log g log g.settle

namespace ServiceState

variable {lib : GoLib} {W : String → Prop} {s s' : ServiceState} {ans : Answer} {g : CallState}

/-- An operation of a call, as a move. -/
def MovesAs (lib : GoLib) (s s' : ServiceState) (g : CallState) (o : ServiceOp) (r : o.Res) : Prop :=
  ∃ g', Moves s.routes g s'.routes g' ∧
    CallState.SameHold g' (g.next lib ⟨o, r, s'.routes.opened⟩)

theorem moves_quiet {t : RouteState} (hq : Quiets s.routes.state t)
    (h : s' = { s with routes := s.routes.advance t })
    (hsame : CallState.SameHold g (g.next lib ⟨o, r, s'.routes.opened⟩)) :
    MovesAs lib s s' g o r := by
  have hlog : s'.routes = { s.routes with state := t } := by
    rw [h]
    exact RouteLog.advance_updates hq.updates
  refine ⟨g, ?_, hsame⟩
  rw [hlog]
  exact .quiet hq

section

variable {now : Int} (htrim : trimSpace g.sessionID = g.sessionID)

include htrim

theorem moves_claim {sessionID : String} {r : Option (String × Nat)}
    (hallowed : g.Allowed W (.claim sessionID now))
    (h : s.onRoutes (s.routes.state.claimTerminalSessionRoute sessionID now) = some (s', r)) :
    MovesAs lib s s' g (.claim sessionID now) r := by
  obtain ⟨hkind, rfl, hfree⟩ := hallowed
  obtain ⟨hs', rfl⟩ := exec_onRoutes h
  obtain ⟨route, hr, heq⟩ | heq := claim_cases s.routes.state g.sessionID now
  · rw [heq] at hs' ⊢
    rw [htrim] at hr hs'
    have hlog : s'.routes = { s.routes with
        state := s.routes.state.putRoute g.sessionID (joined now route) } := by
      rw [hs']
      exact RouteLog.advance_updates (.single (.settle _ _ route _ hr (settles_joined route now)))
    refine ⟨_, ?_, .refl _⟩
    rw [hlog]
    exact .join now hkind hfree hr
  · rw [heq] at hs' ⊢
    exact moves_quiet .refl hs' (.refl g)

theorem moves_reserve {sessionID preferredNodeID : String} {r : String × Nat}
    (hallowed : g.Allowed W (.reserve sessionID preferredNodeID now))
    (h : s.onRoutes (s.routes.state.reserveTerminalSessionRoute sessionID preferredNodeID now) = some (s', r)) :
    MovesAs lib s s' g (.reserve sessionID preferredNodeID now) r := by
  obtain ⟨hkind, rfl, hfree, hsession, hnode⟩ := hallowed
  obtain ⟨hs', rfl⟩ := exec_onRoutes h
  obtain ⟨hblank, -⟩ | ⟨route, hr, heq⟩ | ⟨hk, hn, hnone, heq⟩ :=
    reserve_cases s.routes.state g.sessionID preferredNodeID now
  · exact absurd hblank (not_or.mpr ⟨hsession, hnode⟩)
  · rw [heq] at hs' ⊢
    rw [htrim] at hr hs'
    have hlog : s'.routes = { s.routes with
        state := s.routes.state.putRoute g.sessionID (joined now route) } := by
      rw [hs']
      exact RouteLog.advance_updates (.single (.settle _ _ route _ hr (settles_joined route now)))
    refine ⟨_, ?_, .refl _⟩
    rw [hlog]
    exact .join now hkind hfree hr
  · rw [heq] at hs' ⊢
    rw [htrim] at hnone hs'
    have hlog := RouteLog.advance_openRoute (trimSpace preferredNodeID) now hnone
    refine ⟨_, ?_, .refl _⟩
    rw [hs']
    dsimp only
    rw [hlog]
    exact .opened now hkind hfree ⟨trimSpace_trimSpace _, hn⟩ hnone rfl

variable {sessionID nodeID : String} {id : Nat} (hwf : WellFormed s.routes.state)

include hwf

theorem moves_confirm {r : Bool} (hallowed : g.Allowed W (.confirm sessionID nodeID id now))
    (h : s.onRoutes (s.routes.state.confirmTerminalSessionRoute sessionID nodeID id now) = some (s', r)) :
    MovesAs lib s s' g (.confirm sessionID nodeID id now) r := by
  obtain ⟨rfl, o, ho, hnode, rfl, -⟩ := hallowed
  obtain ⟨hs', rfl⟩ := exec_onRoutes h
  have hupdates := updates_confirm s.routes.state g.sessionID nodeID o.reservationID now
  refine ⟨g.settle, ?_, .refl _⟩
  rw [hs']
  dsimp only
  rw [RouteLog.advance_updates hupdates]
  obtain ⟨route, hr, hnode', hown, heq⟩ | ⟨hother, heq⟩ :=
    confirm_cases s.routes.state g.sessionID nodeID o.reservationID now
  · rw [heq, htrim]
    rw [htrim] at hr
    exact .confirm now ho hr (hnode'.trans hnode) hown
  · rw [heq]
    refine .vain ho fun _ route hr hn => ?_
    have hok := hwf.routes _ route hr
    rw [htrim, hnode] at hother
    exact (hother hok.key.2 (hn ▸ hok.node.2) route hr hn).1

theorem moves_commit {lease now : Int} {r : Except String Bool}
    (hallowed : g.Allowed W (.commit sessionID nodeID id lease now))
    (h : s.onRoutes (s.routes.state.commitConfirmedTerminalSessionRoute sessionID nodeID id lease now fault) = some (s', r)) :
    MovesAs lib s s' g (.commit sessionID nodeID id lease now) r := by
  obtain ⟨rfl, o, ho, hnode, rfl, -⟩ := hallowed
  obtain ⟨hs', rfl⟩ := exec_onRoutes h
  have hupdates := updates_commit s.routes.state g.sessionID nodeID o.reservationID lease now fault
  have hlog : s'.routes = { s.routes with state := (s.routes.state.commitConfirmedTerminalSessionRoute
      g.sessionID nodeID o.reservationID lease now fault).1 } := by
    rw [hs']
    exact RouteLog.advance_updates hupdates
  unfold MovesAs
  rw [hlog]
  obtain ⟨route, rows, -, hr, hnode', hown, -, heq⟩ | ⟨hother, heq⟩ | ⟨err, heq⟩ :=
    commit_cases s.routes.state g.sessionID nodeID o.reservationID lease now fault
  · rw [heq, htrim]
    rw [htrim] at hr
    exact ⟨g.settle, .commit rows lease now ho hr (hnode'.trans hnode) hown, .refl _⟩
  · rw [heq]
    refine ⟨g.settle, .vain ho fun _ route hr hn => ?_, .refl _⟩
    have hok := hwf.routes _ route hr
    rw [htrim, hnode] at hother
    exact (hother hok.key.2 (hn ▸ hok.node.2) route hr hn).1
  · rw [heq]
    -- A failed commit settles nothing.
    exact ⟨g, .quiet .refl, ⟨rfl, rfl, rfl, rfl, rfl, rfl⟩⟩

theorem moves_clearReservation {r : ReleaseResult}
    (hallowed : g.Allowed W (.clearReservation sessionID nodeID id))
    (h : s.onRoutes (s.routes.state.clearTerminalSessionRouteReservation sessionID nodeID id) = some (s', r)) :
    MovesAs lib s s' g (.clearReservation sessionID nodeID id) r := by
  obtain ⟨⟨rfl, o, ho, hnode, rfl, -⟩, -⟩ := hallowed
  obtain ⟨hs', rfl⟩ := exec_onRoutes h
  have hupdates := updates_clearReservation s.routes.state g.sessionID nodeID o.reservationID
  refine ⟨g.settle, ?_, ⟨rfl, rfl, rfl, rfl, rfl, rfl⟩⟩
  rw [hs']
  dsimp only
  rw [RouteLog.advance_updates hupdates]
  obtain ⟨hother, heq⟩ | ⟨route, hr, hne, hnode', hid, ⟨huses, heq⟩ | ⟨huses, heq⟩⟩ :=
    clearReservation_cases s.routes.state g.sessionID nodeID o.reservationID
  · rw [heq]
    refine .vain ho fun hne route hr hn => ?_
    have hok := hwf.routes _ route hr
    rw [htrim, hnode] at hother
    exact hother hne hok.key.2 (hn ▸ hok.node.2) route hr hn
  · rw [heq, htrim]
    rw [htrim] at hr
    exact .release ho hr (hnode'.trans hnode) hid hne huses
  · rw [heq, htrim]
    rw [htrim] at hr
    exact .remove ho hr (hnode'.trans hnode) hid hne huses

theorem moves_clearRoute {r : Except String Unit}
    (hallowed : g.Allowed W (.clearRoute sessionID nodeID))
    (h : s.onRoutes (s.routes.state.clearTerminalSessionRoute sessionID nodeID fault) = some (s', r)) :
    MovesAs lib s s' g (.clearRoute sessionID nodeID) r := by
  obtain ⟨id, ⟨rfl, o, ho, hnode, rfl, -⟩, hwhy⟩ := hallowed
  obtain ⟨hs', rfl⟩ := exec_onRoutes h
  have hupdates := (removes_clearRoute s.routes.state g.sessionID nodeID fault).quiets.updates
  refine ⟨g.settle, ?_, .refl _⟩
  rw [hs']
  dsimp only
  rw [RouteLog.advance_updates hupdates]
  obtain ⟨route, rows, hr, hnode', -, heq⟩ | ⟨hkept, result, heq⟩ :=
    clearRoute_cases s.routes.state g.sessionID nodeID fault
  · rw [heq, htrim]
    rw [htrim] at hr
    rw [hnode] at hnode'
    exact .clear rows ho hwhy hr hnode'
  · rw [heq]
    refine .vain ho fun hne route hr hn hid => ?_
    have hok := hwf.routes _ route hr
    rw [htrim, hnode] at hkept
    -- A provisional route has no lease, so nothing kept it in the table.
    have hlease := (hok.provisional (hid ▸ hne)).1
    have hpos := hkept hok.key.2 route hr hn
    omega

end

/-- Every operation of a call is a move. -/
theorem moves_of_exec (hinv : s.Inv) (htrim : trimSpace g.sessionID = g.sessionID)
    (hallowed : g.Allowed W o) (h : s.exec lib.caseMap o ans = some (s', r)) :
    MovesAs lib s s' g o r := by
  cases ho : o.onTable with
  | false =>
    have hroutes := (exec_aside h).2 ho
    have hhold : o.onHold = false := by
      cases o <;> first | rfl | exact absurd ho.symm Bool.false_ne_true
    refine ⟨g, ?_, CallState.sameHold_next lib g hhold r _⟩
    rw [hroutes]
    exact .quiet .refl
  | true =>
    unfold exec at h
    split at h
    all_goals try exact absurd ho Bool.false_ne_true
    · obtain ⟨hs', -⟩ := exec_onRoutes h
      exact moves_quiet (quiet_claimPrune _ _) hs' (.refl g)
    · obtain ⟨hs', -⟩ := exec_onRoutes h
      exact moves_quiet (removes_prune _ _ _).quiets hs' (.refl g)
    · rename_i sessionID now fault
      obtain rfl : sessionID = g.sessionID := hallowed
      obtain ⟨hs', rfl⟩ := exec_onRoutes h
      cases hr : (s.routes.state.terminalSessionRouteSnapshot g.sessionID now fault).2 with
      | none => exact moves_quiet (removes_snapshot _ _ _ _).quiets hs' (.refl g)
      | some route =>
        obtain ⟨hroute, hstate⟩ := snapshot_eq_some hr
        rw [htrim] at hroute
        rw [hstate] at hs'
        by_cases hkind : g.kind = .dispatch
        · refine moves_quiet .refl hs' ?_
          show CallState.SameHold g (if g.kind = .dispatch then g else _)
          rw [if_pos hkind]
          exact .refl g
        · have hlog : s'.routes = s.routes := by
            rw [hs']
            exact RouteLog.advance_updates .refl
          refine ⟨g.obtain route.nodeID 0 s.routes.opened, ?_, ?_⟩
          · rw [hlog]
            exact .view hkind hroute
          · show CallState.SameHold _ (if g.kind = .dispatch then g else _)
            rw [if_neg hkind, hlog]
            exact .refl _
    · exact moves_claim htrim hallowed h
    · exact moves_reserve htrim hallowed h
    · exact moves_confirm htrim hinv.routes.wf hallowed h
    · exact moves_commit htrim hinv.routes.wf hallowed h
    · exact moves_clearReservation htrim hinv.routes.wf hallowed h
    · exact moves_clearRoute htrim hinv.routes.wf hallowed h
    · nomatch h

end ServiceState

/-- What happens besides the calls changes the routes quietly. -/
theorem ServiceState.quiets_of_occurs {s s' : ServiceState} {e : ServiceEvent}
    (h : s.occurs m e = some s') :
    ∃ t, Quiets s.routes.state t ∧ s'.routes = { s.routes with state := t } := by
  cases occurs_step h with
  | connection _ _ hroutes => exact ⟨s.routes.state, .refl, hroutes⟩
  | routes op hop =>
    have hq : Quiets s.routes.state (op.exec s.routes.state) := by
      refine (RouteOp.removes _ ?_).quiets
      cases op <;> first | rfl | exact absurd hop Bool.false_ne_true
    exact ⟨_, hq, RouteLog.advance_updates hq.updates⟩
  | _ => exact ⟨s.routes.state, .refl, rfl⟩

/-! ## Invariants of runs -/

/-- To show something about the routes and the calls of every run, show it for every
    move of one call and for every quiet change. -/
theorem ConsolePool.invariant (lib : GoLib) {P : RouteLog → List CallState → Prop}
    (hinit : ∀ s, RouteStarted s → P { state := s, opened := [] } [])
    (hspawn : ∀ log gs c, P log gs → P log (gs ++ [ServiceCall.start lib c]))
    (hquiet : ∀ log gs s', log.Inv → P log gs → Quiets log.state s' → P { log with state := s' } gs)
    (hmove : ∀ log gs log' i g g' g'', log.Inv → P log gs → gs[i]? = some g → g.Wf → Moves log g log' g' → CallState.SameHold g' g'' → P log' (gs.set i g''))
    (h : (consoleSystem lib).machine.ReachableWhere ok p) :
    P p.shared.routes (p.threads.map (callState lib)) := by
  apply h.invariant (P := fun p => P p.shared.routes (p.threads.map (callState lib)))
  · intro p hp
    obtain ⟨⟨routes, hstart, hshared⟩, hthreads⟩ := hp
    rw [hshared, hthreads]
    exact hinit routes hstart
  · intro p a p' hreach ih _ hs
    have hinv := ServiceState.Inv.of_reachable hreach
    rcases ThreadSystem.step_cases hs with ⟨c, rfl, rfl⟩ |
      ⟨i, ans, t, o, k, s', r, rfl, ht, hprog, hexec, rfl⟩ | ⟨e, s', rfl, henv, rfl⟩
    · rw [List.map_append]
      exact hspawn _ _ c ih
    · have hkeeps := calls_keep hreach t (List.mem_of_getElem? ht)
      obtain ⟨g', hmoves, hsame⟩ := ServiceState.moves_of_exec hinv (trimSpace_callState lib t)
        (allowed_of_prog hreach ht hprog) hexec
      rw [List.map_set]
      exact hmove _ _ _ i _ g' _ hinv.routes ih (by rw [List.getElem?_map, ht]; rfl)
        (.of_kept t.call hkeeps.1) hmoves hsame
    · obtain ⟨t, hq, heq⟩ := ServiceState.quiets_of_occurs henv
      dsimp only
      rw [heq]
      exact hquiet _ _ t hinv.routes ih hq

/-- One worker, and one terminalExec up to the answer of the worker. -/
def dispatchToAnswer (inputJSON : String) : List ConsoleAction :=
  [.env (.connect "n" [some ⟨"terminalexec", 4⟩]), .env (.recoveryComplete ⟨0, "n"⟩),
    .env (.publish ⟨0, "n"⟩), .spawn (.task "terminalexec" inputJSON "o" .unknown)] ++
  PoolAction.runs 0 [.nodes ["n"], .context none, .now 1, .none, .store none, .store none, .none,
    .nodes ["n"], .none, .none, .none, .none, .none, .capacity {}, .none, .none,
    .commandID (.ok "c"), .none, .enqueued (.ok ()), .dispatched (.ok ()),
    .awaited (.outcome { payloadJSON := "lease" }), .now 2]

end Onlyboxes.Console
