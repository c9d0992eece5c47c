import Onlyboxes.ForStd.List
import Onlyboxes.ForStd.Values
import Onlyboxes.Spec.BoxLiteProtocol

/-!
# What one operation of the BoxLite manager does

`ManagerEffect` says once what each operation does to the sessions, the counters, the boxes
and the phase of the call that performs it. What a whole run keeps is shown from it: the
accounts of `Onlyboxes.Spec.BoxLiteAccounts` are case analyses over the effects.

## Key results

- `effect_of_exec`: the operations have these effects
- `managerKeeps`: in every run all calls keep to the protocol
- `manager_cases`: what one step of a run is
-/

namespace Onlyboxes.BoxLite

open Text Worker

namespace ManagerState

/-- A session is put into the map. -/
def put (s : ManagerState) (id : String) (session : TerminalSession) : ManagerState :=
  { s with sessions := s.sessions.insert id session }

/-- A session is made, with a place and a creation guard. -/
def make (s : ManagerState) (id : String) (session : TerminalSession) : ManagerState :=
  { s with
    sessions := s.sessions.insert id session
    channels := s.channels ++ [.pending]
    activeSessionReservations := s.activeSessionReservations + 1
    pendingCreations := s.pendingCreations + 1 }

theorem modify_eq {s : ManagerState} {id : String} {session : TerminalSession}
    (hlookup : s.sessions.lookup id = some session) (f : TerminalSession → TerminalSession) :
    s.modify id f = s.put id (f session) := by
  unfold modify
  rw [hlookup]
  rfl

end ManagerState

open ManagerState

/-- The sessions have the same slots, boxes and places. -/
structure TerminalSession.SameAccounts (session session' : TerminalSession) : Prop where
  inflight : session'.inflight = session.inflight
  boxID : session'.boxID = session.boxID
  capacityReserved : session'.capacityReserved = session.capacityReserved

/-! ## Effects -/

/-- What an operation does, in a phase, to the phase and to the state. -/
inductive ManagerEffect (g : Phase) (s : ManagerState) : ManagerOp → Phase → ManagerState → Prop
  /-- It reads, waits or answers. -/
  | idle {o : ManagerOp} : ManagerEffect g s o g s
  | sent {o : ManagerOp} {channels : List SessionReadyState} :
    ManagerEffect g s o g { s with channels := channels }
  /-- A lease is changed. -/
  | touched {o : ManagerOp} {id : String} {session session' : TerminalSession}
    (hlookup : s.sessions.lookup id = some session) (hsame : session.SameAccounts session') :
    ManagerEffect g s o g (s.put id session')
  /-- A session is made for the call. -/
  | made {o : ManagerOp} {id : String} {leaseTarget : Int} (hfree : g.Free) (hopen : s.closed = false)
    (hnone : s.sessions.lookup id = none) :
    ManagerEffect g s o (g.take ⟨id, s.channels.length, true⟩) (s.make id (s.pendingSession leaseTarget))
  /-- The call takes a slot of a session. -/
  | joined {o : ManagerOp} {id : String} {session session' : TerminalSession} (hfree : g.Free)
    (hopen : s.closed = false) (hlookup : s.sessions.lookup id = some session)
    (hsame : (takeSlot session).SameAccounts session') :
    ManagerEffect g s o (g.take ⟨id, session.channel, false⟩) (s.put id session')
  | boxMade {sessionID boxID : String} {deadlineUnixMs : Int} {claim : Claim} (hready : g.Ready claim)
    (hfresh : boxID ∉ s.createdBoxes) :
    ManagerEffect g s (.createSessionBoxForSession sessionID deadlineUnixMs) { g with hand := some boxID }
      { s with createdBoxes := s.createdBoxes ++ [boxID] }
  /-- The box of the call is in its session. -/
  | published {sessionID boxID : String} {session : TerminalSession} {channels : List SessionReadyState}
    (hhand : g.hand = some boxID) (hlookup : s.sessions.lookup sessionID = some session) :
    ManagerEffect g s (.publishSessionReady sessionID boxID) { g with hand := none }
      { s.put sessionID { session with boxID := boxID } with channels := channels }
  /-- The session is gone when its box is there: the call has to remove the box. -/
  | late {sessionID boxID : String} {claim : Claim} (hholds : g.Holds claim)
    (hid : claim.sessionID = sessionID) (hhand : g.hand = some boxID) (hclean : g.Clean)
    (hnone : s.sessions.lookup sessionID = none) :
    ManagerEffect g s (.publishSessionReady sessionID boxID)
      { g with hand := none, holds := false, removes := [boxID] } s
  | guardDropped (hcreating : g.creating = true) :
    ManagerEffect g s .dropCreationGuard { g with creating := false }
      { s with pendingCreations := s.pendingCreations - 1 }
  /-- The call gives back its slot, and the session stays. -/
  | released {o : ManagerOp} {id : String} {claim : Claim} {session session' : TerminalSession}
    (hready : g.Ready claim) (hid : claim.sessionID = id) (hlookup : s.sessions.lookup id = some session)
    (hsame : (releaseSlot session).SameAccounts session') :
    ManagerEffect g s o { g with holds := false } (s.put id session')
  /-- The session whose slot is to be given back is gone. -/
  | gone {o : ManagerOp} {id : String} {claim : Claim} (hready : g.Ready claim)
    (hid : claim.sessionID = id) (hnone : s.sessions.lookup id = none) :
    ManagerEffect g s o { g with holds := false } s
  /-- The call gives back the last slot of a session that is to be destroyed. -/
  | retired {o : ManagerOp} {id : String} {claim : Claim} {session : TerminalSession}
    (hready : g.Ready claim) (hid : claim.sessionID = id) (hlookup : s.sessions.lookup id = some session)
    (hlast : session.inflight ≤ 1) :
    ManagerEffect g s o (Phase.retire { g with holds := false } [session.retire true]) (s.retireTracked id)
  | expired {now : Int} {ids : List String} (hfree : g.Free) (hperm : ids.Perm (s.expired now)) :
    ManagerEffect g s (.takeExpired now) (g.retire (s.retireAll ids true)) (s.takeExpired now)
  | boxRemoved {boxID : String} {rest : List String} (hremoves : g.removes = boxID :: rest) :
    ManagerEffect g s (.removeBox boxID) { g with removes := rest }
      { s with removedBoxes := s.removedBoxes ++ [boxID] }
  | cleaned {capacityReserved cleanupTracked : Bool} (hplaces : capacityReserved = true → 0 < g.places)
    (htracked : cleanupTracked = true → 0 < g.tracked) :
    ManagerEffect g s (.dropCleanupGuard capacityReserved cleanupTracked)
      { g with
        places := if capacityReserved then g.places - 1 else g.places
        tracked := if cleanupTracked then g.tracked - 1 else g.tracked }
      (s.dropCleanupGuard capacityReserved cleanupTracked)
  /-- A recovered session, with a place. -/
  | recovered {sessionID boxID : String} {leaseExpiresAt : Int} (hrec : g.recovering = true)
    (hopen : s.closed = false) (hnone : s.sessions.lookup sessionID = none) :
    ManagerEffect g s (.recoverInsert sessionID boxID leaseExpiresAt) g
      { s with
        sessions := s.sessions.insert sessionID (s.recoveredSession boxID leaseExpiresAt)
        channels := s.channels ++ [.ready boxID]
        activeSessionReservations := s.activeSessionReservations + 1 }
  | closed : ManagerEffect g s .swapClosed { g with closing := true } { s with closed := true }
  | drained {ids : List String} (hfree : g.Free) (hclosing : g.closing = true)
    (hperm : ids.Perm s.sessions.keys) :
    ManagerEffect g s .drainSessions (g.drain (s.retireAll ids false)) { s with sessions := ∅ }
  | placeFreed (hplaces : 0 < g.places) :
    ManagerEffect g s .releaseReservation { g with places := g.places - 1 }
      { s with activeSessionReservations := s.activeSessionReservations - 1 }

section Operations

variable {cfg : ManagerSettings} {g : Phase} {s s' : ManagerState} {o : ManagerOp} {id : String}

/-- How a claim changes the phase. -/
abbrev Phase.claimed (g : Phase) (r : Except OperationError Claim) : Phase :=
  match r with
  | .ok claim => g.take claim
  | .error _ => g

section Claims

variable {leaseTarget : Int}

/-- What a claim leaves and answers. -/
abbrev ClaimEffect (g : Phase) (s : ManagerState) (o : ManagerOp)
    (x : ManagerState × Except OperationError Claim) : Prop :=
  ManagerEffect g s o (g.claimed x.2) x.1

variable (hfree : g.Free)

include hfree

theorem effect_of_insertPendingSession (hopen : s.closed = false) (hnone : s.sessions.lookup id = none) :
    ClaimEffect g s o (s.insertPendingSession cfg id leaseTarget) := by
  unfold insertPendingSession
  split
  · exact .idle
  · exact .made hfree hopen hnone

theorem effect_of_claimSession {session : TerminalSession} {f : TerminalSession → TerminalSession}
    (hopen : s.closed = false) (hlookup : s.sessions.lookup id = some session)
    (hf : (takeSlot session).SameAccounts (f session)) :
    ClaimEffect g s o (s.claimSession cfg id session f) := by
  unfold claimSession
  split
  · exact .idle
  · split
    · exact .idle
    · rw [modify_eq hlookup]
      exact .joined hfree hopen hlookup hf

theorem effect_of_claimSessionForExec {createIfMissing : Bool} :
    ClaimEffect g s o (s.claimSessionForExec cfg id createIfMissing leaseTarget) := by
  unfold claimSessionForExec
  split
  · exact .idle
  · rename_i hopen
    split
    · rename_i session hlookup
      exact effect_of_claimSession hfree (eq_false_of_ne_true hopen) hlookup ⟨rfl, rfl, rfl⟩
    · rename_i hlookup
      split
      · exact effect_of_insertPendingSession hfree (eq_false_of_ne_true hopen) hlookup
      · exact .idle

theorem effect_of_claimNewSession (hnone : s.sessions.lookup id = none) :
    ClaimEffect g s o (s.claimNewSession cfg id leaseTarget) := by
  unfold claimNewSession
  split
  · exact .idle
  · rename_i hopen
    exact effect_of_insertPendingSession hfree (eq_false_of_ne_true hopen) hnone

theorem effect_of_claimExistingSession : ClaimEffect g s o (s.claimExistingSession cfg id) := by
  unfold claimExistingSession
  split
  · exact .idle
  · rename_i hopen
    split
    · rename_i session hlookup
      exact effect_of_claimSession hfree (eq_false_of_ne_true hopen) hlookup ⟨rfl, rfl, rfl⟩
    · exact .idle

end Claims

theorem effect_of_publishSessionReady {boxID : String}
    (hallowed : g.Allowed (.publishSessionReady id boxID)) :
    ManagerEffect g s (.publishSessionReady id boxID)
      (g.next ⟨.publishSessionReady id boxID, (s.publishSessionReady id boxID).2, ()⟩)
      (s.publishSessionReady id boxID).1 := by
  obtain ⟨claim, hholds, hid, -, hhand, hclean⟩ := hallowed
  unfold publishSessionReady
  split
  · rename_i hlookup
    exact .late hholds hid hhand hclean hlookup
  · rename_i session hlookup
    rw [modify_eq hlookup]
    exact .published hhand hlookup

theorem effect_of_publishSessionFailed {err : OperationError} :
    ManagerEffect g s o g (s.publishSessionFailed id err) := by
  unfold publishSessionFailed
  split
  · exact .idle
  · exact .sent

/-- A call that has nothing to clean up retires nothing. -/
theorem retire_released {claim : Claim} (h : g.Ready claim) :
    Phase.retire { g with holds := false } [] = { g with holds := false } :=
  Phase.retire_clean h.released.clean

theorem effect_of_releaseSession (hallowed : g.Allowed (.releaseSession id)) :
    ManagerEffect g s o
      (Phase.retire { g with holds := false } ((s.releaseSession id).2.bind Prod.snd).toList)
      (s.releaseSession id).1 := by
  obtain ⟨claim, hready, hid⟩ := hallowed
  unfold ManagerState.releaseSession
  split
  · rename_i hlookup
    exact (retire_released hready).symm ▸ .gone hready hid hlookup
  · rename_i session hlookup
    split
    · rename_i hlast
      exact .retired hready hid hlookup (Nat.sub_eq_zero_iff_le.mp hlast.2)
    · rw [modify_eq hlookup]
      exact (retire_released hready).symm ▸ .released hready hid hlookup ⟨rfl, rfl, rfl⟩

theorem effect_of_releaseAndDestroySession (hallowed : g.Allowed (.releaseAndDestroySession id)) :
    ManagerEffect g s o
      (Phase.retire { g with holds := false } (s.releaseAndDestroySession id).2.toList)
      (s.releaseAndDestroySession id).1 := by
  obtain ⟨claim, hready, hid⟩ := hallowed
  unfold ManagerState.releaseAndDestroySession
  split
  · rename_i hlookup
    exact (retire_released hready).symm ▸ .gone hready hid hlookup
  · rename_i session hlookup
    split
    · rename_i hlast
      exact .retired hready hid hlookup (Nat.sub_eq_zero_iff_le.mp hlast)
    · rw [modify_eq hlookup]
      exact (retire_released hready).symm ▸ .released hready hid hlookup ⟨rfl, rfl, rfl⟩

theorem effect_of_renewLease {leaseTarget now : Int} :
    ManagerEffect g s o g (s.renewLease id leaseTarget now).1 := by
  unfold ManagerState.renewLease
  split
  · exact .idle
  · split
    · exact .idle
    · rename_i session hlookup
      split
      · exact .idle
      · rw [modify_eq hlookup]
        exact .touched hlookup ⟨rfl, rfl, rfl⟩

theorem effect_of_recoverExisting {leaseExpiresAt : Int} :
    ManagerEffect g s o g (s.recoverExisting id leaseExpiresAt).1 := by
  unfold recoverExisting
  split
  · exact .idle
  · rename_i session hlookup
    split
    · exact .idle
    · rw [modify_eq hlookup]
      exact .touched hlookup ⟨rfl, rfl, rfl⟩

theorem effect_of_recoverInsert {boxID : String} {leaseExpiresAt : Int} (hrec : g.recovering = true) :
    ManagerEffect g s (.recoverInsert id boxID leaseExpiresAt) g
      (s.recoverInsert id boxID leaseExpiresAt).1 := by
  unfold recoverInsert
  split
  · exact .idle
  · rename_i hopen
    split
    · rename_i session hlookup
      rw [modify_eq hlookup]
      exact .touched hlookup ⟨rfl, rfl, rfl⟩
    · rename_i hlookup
      exact .recovered hrec (eq_false_of_ne_true hopen) hlookup

/-- The operations have these effects. -/
theorem effect_of_exec {ans : ManagerAnswer} {x : ManagerState × o.Res} (hallowed : g.Allowed o)
    (h : s.exec cfg o ans = some x) : ManagerEffect g s o (g.next ⟨o, x.2, ()⟩) x.1 := by
  unfold exec at h
  split at h
  case h_2 =>
    have hclaimed : g.next ⟨.claimSessionForExec _ _ _, x.2, ()⟩ = g.claimed x.2 := by cases x.2 <;> rfl
    rw [hclaimed]
    split at h
    · split at h
      · split at h
        · rename_i hfresh
          exact Option.some.inj h ▸ effect_of_claimNewSession hallowed hfresh
        · nomatch h
      · nomatch h
    · split at h
      · exact Option.some.inj h ▸ effect_of_claimSessionForExec hallowed
      · nomatch h
  case h_3 =>
    have hclaimed : g.next ⟨.claimExistingSession _, x.2, ()⟩ = g.claimed x.2 := by cases x.2 <;> rfl
    rw [hclaimed]
    exact Option.some.inj h ▸ effect_of_claimExistingSession hallowed
  case h_5 =>
    split at h
    · nomatch h
    · rename_i hfresh
      cases h
      obtain ⟨claim, hready, -⟩ := hallowed
      exact .boxMade hready hfresh
  case h_6 => exact Option.some.inj h ▸ effect_of_publishSessionReady hallowed
  case h_7 => exact Option.some.inj h ▸ effect_of_publishSessionFailed
  case h_8 =>
    cases h
    exact .guardDropped hallowed
  case h_9 =>
    obtain ⟨result, -, rfl⟩ := Option.map_eq_some_iff.mp h
    exact .idle
  case h_10 | h_28 | h_31 =>
    split at h
    · cases h
      exact .idle
    · nomatch h
  case h_15 => exact Option.some.inj h ▸ effect_of_releaseSession hallowed
  case h_16 => exact Option.some.inj h ▸ effect_of_releaseAndDestroySession hallowed
  case h_17 =>
    obtain ⟨rest, hremoves⟩ := hallowed
    cases h
    obtain rfl : g.removes.tail = rest := congrArg List.tail hremoves
    exact .boxRemoved hremoves
  case h_18 =>
    cases h
    exact .cleaned hallowed.1 hallowed.2
  case h_19 => exact Option.some.inj h ▸ effect_of_renewLease
  case h_21 =>
    split at h
    · rename_i hperm
      cases h
      exact .expired hallowed (List.isPerm_iff.mp hperm)
    · nomatch h
  case h_22 => exact Option.some.inj h ▸ effect_of_recoverExisting
  case h_24 => exact Option.some.inj h ▸ effect_of_recoverInsert hallowed
  case h_26 =>
    cases h
    cases hclosed : s.closed with
    | false => exact .closed
    | true =>
      have hsame : { s with closed := true } = s := by rw [← hclosed]
      rw [hsame]
      exact .idle
  case h_30 =>
    split at h
    · rename_i hperm
      cases h
      exact .drained hallowed.1 hallowed.2 (List.isPerm_iff.mp hperm)
    · nomatch h
  case h_32 =>
    cases h
    exact .placeFreed hallowed
  case h_38 => nomatch h
  all_goals
    cases h
    exact .idle

/-- The shared state answers as the calls expect. -/
theorem answered_of_exec {ans : ManagerAnswer} {r : o.Res} (h : s.exec cfg o ans = some (s', r)) :
    Phase.Answered ⟨o, r, ()⟩ := by
  cases o with
  | claimExistingSession sessionID =>
    cases r with
    | error err => trivial
    | ok claim =>
      cases ans with
      | none =>
        have h : (s.claimExistingSession cfg sessionID).2 = .ok claim :=
          congrArg Prod.snd (Option.some.inj h)
        unfold claimExistingSession at h
        split at h
        · nomatch h
        · split at h
          · unfold claimSession at h
            split at h
            · nomatch h
            · split at h
              · nomatch h
              · exact Except.ok.inj h ▸ ⟨rfl, rfl⟩
          · nomatch h
      | _ => nomatch h
  | drainSessions =>
    cases ans with
    | order ids =>
      simp only [exec] at h
      split at h
      · rw [← (Prod.mk.inj (Option.some.inj h)).2]
        intro r hr
        obtain ⟨id, -, hretire⟩ := List.mem_filterMap.mp hr
        obtain ⟨session, -, rfl⟩ := Option.map_eq_some_iff.mp hretire
        rfl
      · nomatch h
    | _ => nomatch h
  | _ => trivial

end Operations

/-! ## Runs -/

/-- A call that keeps to the protocol. -/
abbrev CallKeeps (t : ManagerThread) : Prop :=
  ThreadSystem.Thread.Keeps managerProtocol ManagerCall.start (fun _ g => g.Finished) t

/-- The phases of the calls. -/
abbrev phases (p : ManagerPool) : List Phase := ThreadSystem.ghosts managerProtocol ManagerCall.start p

section Runs

variable {lib : BoxLiteLib} {cfg : ManagerSettings} {ok : ManagerPool → ManagerAction → Prop}
  {p p' : ManagerPool} {a : ManagerAction} {o : ManagerOp}

/-- All calls keep to the protocol. -/
theorem managerKeeps (h : (managerMachine lib cfg).ReachableWhere ok p) : ∀ t ∈ p.threads, CallKeeps t :=
  ThreadSystem.keeps managerProtocol ManagerCall.start (fun _ g => g.Finished) meets_body
    (fun _ _ _ _ _ _ _ _ _ _ _ _ _ hexec => answered_of_exec hexec) h

theorem occurs_tick {e : ManagerEvent} (h : (managerSystem lib cfg).env s e = some s') :
    ∃ now, s' = { s with clock := now } := by
  obtain ⟨now⟩ := e
  change (if _ then some _ else none) = _ at h
  split at h
  · exact ⟨now, (Option.some.inj h).symm⟩
  · nomatch h

/-- What one step of the manager is. -/
theorem manager_cases (h : (managerMachine lib cfg).ReachableWhere ok p)
    (hs : (managerMachine lib cfg).step p a = some p') :
    (∃ c, a = .spawn c ∧ p'.shared = p.shared ∧ phases p' = phases p ++ [c.start]) ∨
    (∃ i ans g o g', a = .run i ans ∧ (phases p)[i]? = some g ∧ p.nextOp i = some o ∧
      ManagerEffect g p.shared o g' p'.shared ∧ phases p' = (phases p).set i g') ∨
    (∃ now, p'.shared = { p.shared with clock := now } ∧ phases p' = phases p) := by
  rcases ThreadSystem.ghost_cases (managerKeeps h) hs with ⟨c, hc, hshared, hphases⟩ |
    ⟨i, ans, g, o, r, ha, hg, hnext, hallowed, hexec, hphases⟩ | ⟨e, -, he, hphases⟩
  · exact .inl ⟨c, hc, hshared, hphases⟩
  · exact .inr (.inl ⟨i, ans, g, o, _, ha, hg, hnext, effect_of_exec hallowed hexec, hphases⟩)
  · obtain ⟨now, hsame⟩ := occurs_tick he
    exact .inr (.inr ⟨now, hsame, hphases⟩)

/-- Invariants of the sessions and the phases of all calls, one effect at a time. -/
theorem manager_invariant {I : ManagerState → List Phase → Prop}
    (hinit : ∀ s : ManagerState, s.Started → I s [])
    (hspawn : ∀ (p : ManagerPool) c, ok p (.spawn c) → I p.shared (phases p) →
      I p.shared (phases p ++ [c.start]))
    (hrun : ∀ s s' gs i g o g', I s gs → gs[i]? = some g → ManagerEffect g s o g' s' → I s' (gs.set i g'))
    (htick : ∀ s gs now, I s gs → I { s with clock := now } gs)
    (h : (managerMachine lib cfg).ReachableWhere ok p) : I p.shared (phases p) := by
  refine ThreadSystem.ghost_invariant (fun _ => managerKeeps) hinit (fun p c _ => hspawn p c) ?_ ?_ h
  · rintro p i ans g o s' r - - ih hg - hallowed hexec
    exact hrun _ _ _ i g o _ ih hg (effect_of_exec hallowed hexec)
  · rintro p e s' - - ih he
    obtain ⟨now, rfl⟩ := occurs_tick he
    exact htick _ _ _ ih

/-- The next operation of a call is one its phase allows. -/
theorem allowed_of_nextOp (h : (managerMachine lib cfg).ReachableWhere ok p) {i : Nat}
    (hnext : p.nextOp i = some o) : ∃ g, (phases p)[i]? = some g ∧ g.Allowed o := by
  obtain ⟨t, ht, hallowed⟩ := ThreadSystem.allowed_of_nextOp (managerKeeps h) hnext
  exact ⟨_, ThreadSystem.ghost_of_thread ht, hallowed⟩

end Runs

/-! ## A manager to run -/

/-- A library for the runs below. -/
def BoxLiteLib.sample : BoxLiteLib where
  decodeProbe _ := .error "no output"
  decodeBase64 _ := .error "no output"
  resourceName := id
  itoa _ := ""

/-- Settings for the runs below. -/
def ManagerSettings.sample : ManagerSettings := .new {}

/-- A manager that just started. -/
def ManagerPool.fresh : ManagerPool where
  shared := { clock := 0 }

theorem ManagerPool.fresh_reachable (lib : BoxLiteLib) (cfg : ManagerSettings)
    {ok : ManagerPool → ManagerAction → Prop} : (managerMachine lib cfg).ReachableWhere ok .fresh :=
  .init ⟨⟨0, rfl⟩, rfl⟩

/-- Steps of one call. -/
def ManagerAction.runs (i : Nat) (answers : List ManagerAnswer) : List ManagerAction :=
  answers.map (.run i)

end Onlyboxes.BoxLite
