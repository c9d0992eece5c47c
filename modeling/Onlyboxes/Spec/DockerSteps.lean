import Onlyboxes.ForStd.List
import Onlyboxes.ForStd.Processes
import Onlyboxes.Spec.DockerProtocol

/-!
# What one operation of the Docker manager does

`ManagerEffect` says once what each operation does to the sessions and to the phase of the
call that performs it. The invariants of the later modules are case analyses over it, in
which the operations that an invariant is not about are all alike.

## Key results

- `effect_of_exec`: the operations have these effects
- `sound_of_effect`: sessions are in the map under their own id, and the others are marked
- `managerKeeps`: all calls keep to the protocol, in every state that is reached
-/

namespace Onlyboxes.Docker

open Text Worker

/-! ## The sessions -/

namespace ManagerState

/-- A new session object is put into the map. -/
def insertSession (s : ManagerState) (obj : TerminalSession) : ManagerState :=
  { s with
    sessions := s.sessions.insert obj.sessionID s.objects.length
    objects := s.objects ++ [obj]
    activeSessionReservations := s.activeSessionReservations + 1 }

/-- The session is marked, if it is to be destroyed. -/
def mark (destroys : Bool) (obj : TerminalSession) : TerminalSession :=
  bif destroys then destroy obj else obj

/-- Nothing happened to the sessions. -/
structure SameSessions (s s' : ManagerState) : Prop where
  sessions : s'.sessions = s.sessions
  objects : s'.objects = s.objects
  reservations : s'.activeSessionReservations = s.activeSessionReservations

/-- What holds of the sessions in every state. -/
structure Sound (lib : DockerLib) (s : ManagerState) : Prop where
  /-- The map has sessions under their own ids. -/
  mapped : ∀ id session, s.sessions.lookup id = some session →
    ∃ obj, s.objects[session]? = some obj ∧ obj.sessionID = id
  /-- The name of a container is that of its session. -/
  named : ∀ obj ∈ s.objects, obj.containerName = terminalSessionResourceName lib obj.sessionID
  /-- A session that is not in the map was marked. -/
  unmapped : ∀ session obj, s.objects[session]? = some obj →
    s.sessions.lookup obj.sessionID ≠ some session → obj.destroying = true

theorem SameSessions.refl (s : ManagerState) : s.SameSessions s := ⟨rfl, rfl, rfl⟩

end ManagerState

open ManagerState

/-- The update leaves alone what other calls rely on. -/
def KeepsSlots (f : TerminalSession → TerminalSession) : Prop :=
  ∀ obj, (f obj).sessionID = obj.sessionID ∧ (f obj).containerName = obj.containerName ∧
    (f obj).inflight = obj.inflight ∧ (f obj).destroying = obj.destroying ∧
    (f obj).capacityReserved = obj.capacityReserved

/-- A session object as it is made, with this many slots taken. -/
structure TerminalSession.New (lib : DockerLib) (inflight : Nat) (obj : TerminalSession) : Prop where
  containerName : obj.containerName = terminalSessionResourceName lib obj.sessionID
  inflight : obj.inflight = inflight
  destroying : obj.destroying = false
  capacityReserved : obj.capacityReserved = true

/-- The id of the session whose slot the operation gives back, and whether it is to be
    destroyed. -/
def ManagerOp.releases : ManagerOp → Option (String × Bool)
  | .releaseSession sessionID => some (sessionID, false)
  | .releaseAndDestroySession sessionID => some (sessionID, true)
  | _ => none

namespace Phase

/-- The call has the same session and the same duties. -/
structure Same (g g' : Phase) : Prop where
  claim : g'.claim = g.claim
  holds : g'.holds = g.holds
  cleaning : g'.cleaning = g.cleaning
  destroyed : g'.destroyed = g.destroyed
  removing : g'.removing = true → g.removing = true

theorem Same.refl (g : Phase) : g.Same g := ⟨rfl, rfl, rfl, rfl, id⟩

/-- The slot was given back. -/
def release (g : Phase) (destroys : Bool) (released : Option (Option Int)) (cleaning : List Retired) :
    Phase :=
  { g with
    holds := false
    destroyed := bif destroys then true else g.destroyed
    released := released
    cleaning := cleaning }

end Phase

/-! ## The effects -/

/-- The state that an operation leaves, and the phase of the call. -/
inductive ManagerEffect (lib : DockerLib) (g : Phase) (s : ManagerState) :
    ManagerOp → Phase → ManagerState → Prop
  | quiet {o : ManagerOp} {g' : Phase} {s' : ManagerState} (hs : s.SameSessions s') (hg : g.Same g') :
      ManagerEffect lib g s o g' s'
  | touched {o : ManagerOp} {g' : Phase} (session : Nat) {f : TerminalSession → TerminalSession}
      (hf : KeepsSlots f) (hg : g.Same g')
      (hlease : g.claim = none ∨ ∀ obj, (f obj).leaseExpiresAt = obj.leaseExpiresAt) :
      ManagerEffect lib g s o g' (s.modify session f)
  | created {sessionID : String} {leaseTarget : Int} {createIfMissing : Bool} {obj : TerminalSession}
      (hfree : g.Free) (hnone : s.sessions.lookup obj.sessionID = none) (hnew : obj.New lib 1) :
      ManagerEffect lib g s (.claimSession sessionID leaseTarget createIfMissing)
        { g with
          claim := some ⟨s.objects.length, obj.sessionID, obj.containerName, true⟩
          holds := true } (s.insertSession obj)
  | joined {sessionID : String} {leaseTarget : Int} {createIfMissing : Bool} {session : Nat}
      {obj : TerminalSession} (hfree : g.Free) (hlookup : s.sessions.lookup sessionID = some session)
      (hobj : s.objects[session]? = some obj) (hactive : obj.destroying = false) :
      ManagerEffect lib g s (.claimSession sessionID leaseTarget createIfMissing)
        { g with
          claim := some ⟨session, sessionID, obj.containerName, false⟩
          holds := true }
        (s.modify session fun obj =>
          extendLease leaseTarget { obj with inflight := obj.inflight + 1 })
  | recovered {sessionID containerName containerIP : String} {leaseExpiresAt : Int}
      {obj : TerminalSession} (hfree : g.Free) (hnone : s.sessions.lookup obj.sessionID = none)
      (hnew : obj.New lib 0) :
      ManagerEffect lib g s (.recoverInsert sessionID containerName containerIP leaseExpiresAt) g
        (s.insertSession obj)
  /-- A call that does not create the session goes without giving back its slot. -/
  | left {session : Nat} {claim : Claim} {obj : TerminalSession} (hholds : g.Holds claim)
      (hsession : claim.session = session) (hcreated : claim.created = false)
      (hobj : s.objects[session]? = some obj) (hinactive : s.sessionIsActive session obj = false) :
      ManagerEffect lib g s (.sessionIsActive session) { g with holds := false } s
  /-- There is no session whose slot could be given back. -/
  | gone {o : ManagerOp} {sessionID : String} {destroys : Bool} {claim : Claim}
      {released : Option (Option Int)} (ho : o.releases = some (sessionID, destroys))
      (hholds : g.Holds claim) (hid : claim.sessionID = sessionID) (hclean : g.Clean)
      (hnone : s.sessions.lookup sessionID = none) :
      ManagerEffect lib g s o (g.release destroys released []) s
  | released {o : ManagerOp} {sessionID : String} {destroys : Bool} {claim : Claim}
      {released : Option (Option Int)} {session : Nat} {obj : TerminalSession}
      (ho : o.releases = some (sessionID, destroys)) (hholds : g.Holds claim)
      (hid : claim.sessionID = sessionID) (hclean : g.Clean)
      (hlookup : s.sessions.lookup sessionID = some session)
      (hobj : s.objects[session]? = some obj)
      (hstays : (mark destroys obj).destroying = true → obj.inflight - 1 ≠ 0) :
      ManagerEffect lib g s o (g.release destroys released [])
        (s.modify session fun obj => releaseSlot (mark destroys obj))
  | retired {o : ManagerOp} {sessionID : String} {destroys : Bool} {claim : Claim}
      {released : Option (Option Int)} {session : Nat} {obj : TerminalSession}
      (ho : o.releases = some (sessionID, destroys)) (hholds : g.Holds claim)
      (hid : claim.sessionID = sessionID) (hclean : g.Clean)
      (hlookup : s.sessions.lookup sessionID = some session)
      (hobj : s.objects[session]? = some obj)
      (hmarked : (mark destroys obj).destroying = true) :
      ManagerEffect lib g s o (g.release destroys released [⟨session, obj.containerName⟩])
        { s.modify session fun obj => releaseSlot (mark destroys obj) with
          sessions := s.sessions.erase sessionID }
  /-- The session is taken out of the map, by its creator or because its lease is over. -/
  | detached {o : ManagerOp} {session : Nat} {obj : TerminalSession} {containerName : String}
      (hclean : g.Clean) (howner : (∃ claim, g.Holds claim ∧ claim.session = session) ∨ g.Free)
      (hobj : s.objects[session]? = some obj)
      (hlookup : s.sessions.lookup obj.sessionID = some session) :
      ManagerEffect lib g s o
        { g with holds := false, cleaning := [⟨session, containerName⟩], removing := false }
        (s.detach session obj)
  /-- The creator finds that its session left the map. -/
  | stranded {session : Nat} {claim : Claim} {obj : TerminalSession} (hclean : g.Clean)
      (hholds : g.Holds claim) (hsession : claim.session = session)
      (hobj : s.objects[session]? = some obj)
      (hgone : s.sessions.lookup obj.sessionID ≠ some session) :
      ManagerEffect lib g s (.detachCreated session)
        { g with holds := false, cleaning := [], removing := true } s
  | expired {now : Int} {expired : List Retired} (hfree : g.Free) (hperm : expired.Perm (s.expired now)) :
      ManagerEffect lib g s (.takeExpired now) { g with cleaning := expired } (s.takeExpired now)
  | freed {session : Nat} {obj : TerminalSession} {r : Retired} {rest : List Retired}
      (hcleaning : g.cleaning = r :: rest) (hsession : r.session = session)
      (hobj : s.objects[session]? = some obj) :
      ManagerEffect lib g s (.releaseCapacityReservation session) { g with cleaning := rest }
        (s.releaseCapacityReservation session obj)

variable {lib : DockerLib} {cfg : ManagerSettings} {g g' : Phase} {s s' : ManagerState} {o : ManagerOp}

theorem ManagerEffect.idle : ManagerEffect lib g s o g s := .quiet (.refl s) (.refl g)

/-- The state and the answer that an operation of the call leaves. -/
abbrev OpEffect (lib : DockerLib) (g : Phase) (s : ManagerState) (o : ManagerOp)
    (x : ManagerState × o.Res) : Prop :=
  ManagerEffect lib g s o (g.next ⟨o, x.2, ()⟩) x.1

/-- The session of an id, in a sound state. -/
theorem current_cases (hsound : s.Sound lib) (id : String) :
    (s.current id = none ∧ s.sessions.lookup id = none) ∨
      ∃ session obj, s.current id = some (session, obj) ∧ s.sessions.lookup id = some session ∧
        s.objects[session]? = some obj ∧ obj.sessionID = id := by
  unfold current
  cases hlookup : s.sessions.lookup id with
  | none => exact .inl ⟨rfl, rfl⟩
  | some session =>
    obtain ⟨obj, hobj, hid⟩ := hsound.mapped id session hlookup
    refine .inr ⟨session, obj, ?_, rfl, hobj, hid⟩
    dsimp only
    rw [hobj, Option.map_some]

variable {session : Nat}

theorem onObject_eq_some {ρ : Type} {f : TerminalSession → ManagerState × ρ}
    {result : ManagerState × ρ} (h : s.onObject session f = some result) :
    ∃ obj, s.objects[session]? = some obj ∧ f obj = result := by
  unfold onObject at h
  exact Option.map_eq_some_iff.mp h

theorem keepsSlots_lease (lease : TerminalSession → Int) :
    KeepsSlots fun obj => { obj with leaseExpiresAt := lease obj } :=
  fun _ => ⟨rfl, rfl, rfl, rfl, rfl⟩

variable {leaseTarget : Int} {createIfMissing : Bool} {sessionID : String}

/-- A new session. -/
theorem effect_of_newSessionLocked {id : String} (hfree : g.Free)
    (hnone : s.sessions.lookup id = none) :
    OpEffect lib g s (.claimSession sessionID leaseTarget createIfMissing)
      (s.newSessionLocked lib cfg id leaseTarget) := by
  unfold newSessionLocked
  split
  · exact .idle
  · have hnew : TerminalSession.New lib 1
        { sessionID := id
          containerName := terminalSessionResourceName lib id
          leaseExpiresAt := leaseTarget
          inflight := 1 } := ⟨rfl, rfl, rfl, rfl⟩
    exact .created hfree hnone hnew

theorem effect_of_claimSession (hsound : s.Sound lib) (hfree : g.Free) :
    OpEffect lib g s (.claimSession sessionID leaseTarget createIfMissing)
      (s.claimSession lib cfg sessionID leaseTarget createIfMissing) := by
  unfold claimSession
  rcases current_cases hsound sessionID with ⟨hcurrent, hnone⟩ | ⟨session, obj, hcurrent, hlookup, hobj, -⟩
  · rw [hcurrent]
    dsimp only
    split
    · exact effect_of_newSessionLocked hfree hnone
    · exact .idle
  · rw [hcurrent]
    dsimp only
    split
    · exact .idle
    · rename_i hactive
      split
      · exact .idle
      · exact .joined hfree hlookup hobj (eq_false_of_ne_true hactive)

/-- No session ever had a fresh id. -/
theorem lookup_of_freshID {id : String} (hsound : s.Sound lib) (hfresh : s.freshID id = true) :
    s.sessions.lookup id = none := by
  cases hlookup : s.sessions.lookup id with
  | none => rfl
  | some session =>
    obtain ⟨obj, hobj, hid⟩ := hsound.mapped id session hlookup
    simp only [freshID, Bool.and_eq_true, List.all_eq_true, decide_eq_true_eq] at hfresh
    exact absurd hid (hfresh.2 obj (List.mem_of_getElem? hobj))

/-- Giving back a slot. -/
theorem effect_of_releaseSession (hsound : s.Sound lib)
    (hallowed : g.Allowed lib cfg (.releaseSession sessionID)) :
    OpEffect lib g s (.releaseSession sessionID) (s.releaseSession sessionID) := by
  obtain ⟨hclean, claim, hholds, hid⟩ := hallowed
  have ho : (ManagerOp.releaseSession sessionID).releases = some (sessionID, false) := rfl
  unfold ManagerState.releaseSession
  rcases current_cases hsound sessionID with ⟨hcurrent, hnone⟩ | ⟨session, obj, hcurrent, hlookup, hobj, -⟩
  · rw [hcurrent]
    exact .gone ho hholds hid hclean hnone
  · rw [hcurrent]
    dsimp only
    split
    · rename_i hlast
      exact .retired ho hholds hid hclean hlookup hobj hlast.1
    · rename_i hlast
      exact .released ho hholds hid hclean hlookup hobj fun hmarked hzero => hlast ⟨hmarked, hzero⟩

theorem effect_of_releaseAndDestroySession (hsound : s.Sound lib)
    (hallowed : g.Allowed lib cfg (.releaseAndDestroySession sessionID)) :
    OpEffect lib g s (.releaseAndDestroySession sessionID) (s.releaseAndDestroySession sessionID) := by
  obtain ⟨hclean, claim, hholds, hid⟩ := hallowed
  have ho : (ManagerOp.releaseAndDestroySession sessionID).releases = some (sessionID, true) := rfl
  unfold ManagerState.releaseAndDestroySession
  rcases current_cases hsound sessionID with ⟨hcurrent, hnone⟩ | ⟨session, obj, hcurrent, hlookup, hobj, -⟩
  · rw [hcurrent]
    exact .gone ho hholds hid hclean hnone
  · rw [hcurrent]
    dsimp only
    split
    · exact .retired ho hholds hid hclean hlookup hobj rfl
    · rename_i hlast
      exact .released ho hholds hid hclean hlookup hobj fun _ hzero => hlast hzero

/-- Leases are renewed and set. -/
theorem effect_of_renewLease {now : Int} (hfree : g.Free) :
    OpEffect lib g s (.renewLease sessionID leaseTarget now) (s.renewLease sessionID leaseTarget now) := by
  unfold ManagerState.renewLease
  split
  · exact .idle
  · split
    · exact .idle
    · exact .touched _ (keepsSlots_lease _) (.refl g) (.inl hfree.claim)

variable {leaseExpiresAt : Int}

theorem effect_of_recoverExisting (hfree : g.Free) :
    OpEffect lib g s (.recoverExisting sessionID leaseExpiresAt)
      (s.recoverExisting sessionID leaseExpiresAt) := by
  unfold recoverExisting
  split
  · exact .idle
  · split
    · exact .idle
    · exact .touched _ (keepsSlots_lease _) (.refl g) (.inl hfree.claim)

/-- Recovery of a session. -/
theorem effect_of_recoverInsert {containerName containerIP : String} (hsound : s.Sound lib)
    (hallowed : g.Allowed lib cfg (.recoverInsert sessionID containerName containerIP leaseExpiresAt)) :
    OpEffect lib g s (.recoverInsert sessionID containerName containerIP leaseExpiresAt)
      (s.recoverInsert sessionID containerName containerIP leaseExpiresAt) := by
  unfold recoverInsert
  rcases current_cases hsound sessionID with ⟨hcurrent, hnone⟩ | ⟨session, obj, hcurrent, -, -, -⟩
  · rw [hcurrent]
    have hnew : TerminalSession.New lib 0
        { sessionID := sessionID
          containerName := containerName
          containerIP := containerIP
          leaseExpiresAt := leaseExpiresAt
          ready := true } := ⟨hallowed.2, rfl, rfl, rfl⟩
    exact .recovered hallowed.1 hnone hnew
  · rw [hcurrent]
    dsimp only
    split
    · exact .idle
    · exact .touched session (keepsSlots_lease _) (.refl g) (.inl hallowed.1.claim)

variable {obj : TerminalSession} (hobj : s.objects[session]? = some obj)

include hobj

/-- A call without a session takes one out of the map. -/
theorem effect_of_detach (hfree : g.Free)
    (hlookup : s.sessions.lookup obj.sessionID = some session) :
    ManagerEffect lib g s o { g with cleaning := [⟨session, obj.containerName⟩] }
      (s.detach session obj) := by
  obtain ⟨claim, holds, cleaning, removing, ran, exec, probe, copied, released, destroyed⟩ := g
  obtain rfl : holds = false := hfree.holds
  obtain rfl : removing = false := hfree.clean.2
  exact .detached hfree.clean (.inr hfree) hobj hlookup

/-- The end of a lease. -/
theorem effect_of_expireSessionLease {now : Int} (hfree : g.Free) :
    OpEffect lib g s (.expireSessionLease session now) (s.expireSessionLease session obj now) := by
  unfold ManagerState.expireSessionLease
  split
  · rename_i hexpires
    exact effect_of_detach hobj hfree hexpires.1
  · exact .quiet (.refl s) ⟨rfl, rfl, hfree.clean.1.symm, rfl, id⟩

theorem effect_of_resolveProxyTarget {now : Int} (hsound : s.Sound lib) (hfree : g.Free) :
    OpEffect lib g s (.resolveProxyTarget sessionID session now)
      (s.resolveProxyTarget lib session obj sessionID now) := by
  unfold ManagerState.resolveProxyTarget
  split
  · exact .idle
  · rename_i hfound
    split
    · have hlookup : s.sessions.lookup sessionID = some session := not_not.mp fun hne => hfound (.inl hne)
      obtain ⟨obj', hobj', rfl⟩ := hsound.mapped sessionID session hlookup
      obtain rfl := Option.mem_unique hobj hobj'
      exact effect_of_detach hobj hfree hlookup
    · split
      · exact .idle
      · exact .idle

/-- The creator leaves its session. -/
theorem effect_of_detachCreated (hallowed : g.Allowed lib cfg (.detachCreated session)) :
    OpEffect lib g s (.detachCreated session) (s.detachCreated session obj) := by
  obtain ⟨hclean, claim, hholds, hsession⟩ := hallowed
  unfold detachCreated
  split
  · rename_i hlookup
    obtain ⟨claim', holds, cleaning, removing, ran, exec, probe, copied, released, destroyed⟩ := g
    obtain rfl : claim' = some claim := hholds.1
    exact .detached hclean (.inl ⟨claim, hholds, hsession⟩) hobj hlookup
  · rename_i hgone
    exact .stranded hclean hholds hsession hobj hgone

/-- Whether the session is active. -/
theorem effect_of_sessionIsActive (hallowed : g.Allowed lib cfg (.sessionIsActive session)) :
    OpEffect lib g s (.sessionIsActive session) (s, s.sessionIsActive session obj) := by
  obtain ⟨claim, hholds, hsession⟩ := hallowed
  unfold OpEffect Phase.next
  dsimp only
  rw [hholds.1, hholds.2, Option.any_some, Bool.true_and]
  cases hactive : s.sessionIsActive session obj || claim.created with
  | true => exact .quiet (.refl s) ⟨hholds.1.symm, hholds.2.symm, rfl, rfl, id⟩
  | false =>
    obtain ⟨hinactive, hcreated⟩ := Bool.or_eq_false_iff.mp hactive
    rw [← hholds.1]
    exact .left hholds hsession hcreated hobj hinactive

omit hobj

variable {containerName : String} {effect : Bool} {result : DockerCommandResult}
  {x : ManagerState × DockerCommandResult}

/-- Containers are not sessions. -/
theorem sameSessions_of_dockerCreate
    (h : s.dockerCreate session containerName result effect = some x) : s.SameSessions x.1 := by
  unfold dockerCreate at h
  split at h
  · split at h
    · nomatch h
    · cases h
      exact .refl s
  · split at h <;> cases h <;> exact ⟨rfl, rfl, rfl⟩

theorem sameSessions_of_dockerStart (h : s.dockerStart containerName result effect = some x) :
    s.SameSessions x.1 := by
  unfold dockerStart at h
  split at h
  · split at h
    · nomatch h
    · cases h
      exact .refl s
  · split at h <;> cases h <;> exact ⟨rfl, rfl, rfl⟩

theorem sameSessions_of_dockerRemove :
    s.SameSessions (s.dockerRemove containerName result effect).1 := by
  unfold dockerRemove
  split <;> exact ⟨rfl, rfl, rfl⟩

/-- Commands leave the phase alone as far as sessions go. -/
theorem same_run (g : Phase) (r : DockerCommandResult) : g.Same (g.run r) := ⟨rfl, rfl, rfl, rfl, id⟩

/-- The operations have these effects. -/
theorem effect_of_exec {ans : ManagerAnswer} {x : ManagerState × o.Res} (hsound : s.Sound lib)
    (hallowed : g.Allowed lib cfg o) (h : s.exec lib cfg o ans = some x) : OpEffect lib g s o x := by
  -- Most operations only read, and leave the phase as it is.
  have hquiet : ∀ {o : ManagerOp} {x y : ManagerState × o.Res}, some x = some y → x.1 = s →
      g.Same (g.next ⟨o, y.2, ()⟩) → OpEffect lib g s o y := by
    rintro o x _ ⟨⟩ hs hg
    exact .quiet (hs ▸ .refl s) hg
  unfold exec at h
  split at h
  case h_2 =>
    split at h
    · split at h
      · rename_i id
        split at h
        · rename_i hfresh
          exact Option.some.inj h ▸
            effect_of_newSessionLocked hallowed.1 (lookup_of_freshID hsound hfresh)
        · nomatch h
      · nomatch h
    · split at h
      · exact Option.some.inj h ▸ effect_of_claimSession hsound hallowed.1
      · nomatch h
  case h_3 => exact .quiet (sameSessions_of_dockerCreate h) (same_run g _)
  case h_4 => exact .quiet (sameSessions_of_dockerStart h) (same_run g _)
  case h_5 => exact hquiet h rfl (same_run g _)
  case h_6 | h_7 | h_9 => exact hquiet h rfl ⟨rfl, rfl, rfl, rfl, id⟩
  case h_11 =>
    exact Option.some.inj h ▸ .quiet sameSessions_of_dockerRemove ⟨rfl, rfl, rfl, rfl, nofun⟩
  case h_12 =>
    obtain ⟨obj, -, rfl⟩ := onObject_eq_some h
    exact .touched _ (fun _ => ⟨rfl, rfl, rfl, rfl, rfl⟩) (.refl g) (.inr fun _ => rfl)
  case h_13 | h_28 | h_31 =>
    split at h
    · exact hquiet h rfl (.refl g)
    · nomatch h
  case h_15 =>
    obtain ⟨obj, -, rfl⟩ := onObject_eq_some h
    exact .idle
  case h_16 =>
    obtain ⟨obj, hobj, rfl⟩ := onObject_eq_some h
    exact effect_of_sessionIsActive hobj hallowed
  case h_17 =>
    obtain ⟨obj, hobj, rfl⟩ := onObject_eq_some h
    exact effect_of_detachCreated hobj hallowed
  case h_18 => exact Option.some.inj h ▸ effect_of_releaseSession hsound hallowed
  case h_19 => exact Option.some.inj h ▸ effect_of_releaseAndDestroySession hsound hallowed
  case h_20 =>
    obtain ⟨obj, hobj, rfl⟩ := onObject_eq_some h
    obtain ⟨r, rest, hcleaning, hsession⟩ := hallowed
    unfold OpEffect Phase.next
    dsimp only
    rw [hcleaning]
    exact .freed hcleaning hsession hobj
  case h_21 => exact Option.some.inj h ▸ effect_of_renewLease hallowed
  case h_22 =>
    split at h
    · rename_i hperm
      cases h
      exact .expired hallowed (List.isPerm_iff.mp hperm)
    · nomatch h
  case h_23 =>
    obtain ⟨obj, hobj, rfl⟩ := onObject_eq_some h
    exact effect_of_expireSessionLease hobj hallowed
  case h_25 =>
    obtain ⟨obj, hobj, rfl⟩ := onObject_eq_some h
    exact effect_of_resolveProxyTarget hobj hsound hallowed
  case h_26 => exact Option.some.inj h ▸ effect_of_recoverExisting hallowed
  case h_27 =>
    split at h
    · exact hquiet h rfl (.refl g)
    · split at h
      · exact hquiet h rfl (.refl g)
      · nomatch h
  case h_29 => exact Option.some.inj h ▸ effect_of_recoverInsert hsound hallowed
  case h_37 => nomatch h
  all_goals exact hquiet h rfl (.refl g)

/-! ## Sound states -/

namespace ManagerState

theorem getElem?_modify (s : ManagerState) (session h : Nat) (f : TerminalSession → TerminalSession) :
    (s.modify session f).objects[h]? =
      (s.objects[h]?).map fun obj => if session = h then f obj else obj :=
  List.getElem?_modify f session s.objects h

/-- The members of a list of objects that was walked. -/
theorem getElem?_foldl_destroy (rs : List Retired) (objects : List TerminalSession) (h : Nat) :
    (rs.foldl (fun objects r => objects.modify r.session destroy) objects)[h]? =
      (objects[h]?).map fun obj => if ∃ r ∈ rs, r.session = h then destroy obj else obj := by
  induction rs generalizing objects with
  | nil => simp
  | cons r rs ih =>
    rw [List.foldl_cons, ih, List.getElem?_modify, Option.map_eq_map, Option.map_map]
    congr 1
    funext obj
    by_cases hr : r.session = h
    · simp [hr, destroy]
    · simp [hr]

variable {s : ManagerState} {now : Int} {session : Nat}

theorem session_of_expires {r : Retired} (h : s.expires now session = some r) :
    r.session = session := by
  unfold expires at h
  split at h
  · nomatch h
  · split at h
    · exact (Option.some.inj h) ▸ rfl
    · nomatch h

/-- The sessions that expire are those of the map whose lease is over. -/
theorem exists_mem_expired :
    (∃ r ∈ s.expired now, r.session = session) ↔
      (∃ id, s.sessions.lookup id = some session) ∧ (s.expires now session).isSome = true := by
  simp only [expired, List.mem_filterMap, List.mem_map]
  constructor
  · rintro ⟨r, ⟨session', ⟨e, he, rfl⟩, hr⟩, rfl⟩
    obtain hsession := session_of_expires hr
    refine ⟨⟨e.1, ?_⟩, ?_⟩
    · rw [hsession]
      exact AList.mem_lookup_iff.mpr he
    · rw [hsession, hr]
      rfl
  · rintro ⟨⟨id, hid⟩, hexpires⟩
    obtain ⟨r, hr⟩ := Option.isSome_iff_exists.mp hexpires
    exact ⟨r, ⟨session, ⟨⟨id, session⟩, AList.mem_lookup_iff.mp hid, rfl⟩, hr⟩, session_of_expires hr⟩

theorem lookup_takeExpired {id : String} :
    (s.takeExpired now).sessions.lookup id = some session ↔
      s.sessions.lookup id = some session ∧ ¬ ∃ r ∈ s.expired now, r.session = session := by
  unfold takeExpired
  rw [AList.lookup_filter, Option.filter_eq_some_iff, exists_mem_expired]
  refine and_congr_right fun hlookup => ?_
  rw [not_and, Bool.not_eq_true, Option.isSome_eq_false_iff]
  exact ⟨fun h _ => h, fun h => h ⟨id, hlookup⟩⟩

/-- Every session object is updated, and sessions leave the map. -/
structure Updates (s s' : ManagerState) (F : Nat → TerminalSession → TerminalSession) : Prop where
  objects : ∀ session, s'.objects[session]? = (s.objects[session]?).map (F session)
  sessions : ∀ id session, s'.sessions.lookup id = some session → s.sessions.lookup id = some session

/-- The update keeps the names and the marks. -/
def KeepsNames (F : Nat → TerminalSession → TerminalSession) : Prop :=
  ∀ session obj, (F session obj).sessionID = obj.sessionID ∧
    (F session obj).containerName = obj.containerName ∧
    (obj.destroying = true → (F session obj).destroying = true)

/-- The update of one object. -/
def one (session : Nat) (f : TerminalSession → TerminalSession) (h : Nat) (obj : TerminalSession) :
    TerminalSession :=
  if session = h then f obj else obj

section Updates

variable {s s' : ManagerState} {F : Nat → TerminalSession → TerminalSession}

theorem updates_congr (hs : s.SameSessions s') : s.Updates s' fun _ obj => obj where
  objects session := by rw [hs.objects, Option.map_id']
  sessions id session h := by rwa [hs.sessions] at h

theorem updates_modify (s : ManagerState) (session : Nat) (f : TerminalSession → TerminalSession) :
    s.Updates (s.modify session f) (one session f) :=
  ⟨fun h => s.getElem?_modify session h f, fun _ _ h => h⟩

theorem Updates.erase (h : s.Updates s' F) (id : String) :
    s.Updates { s' with sessions := s'.sessions.erase id } F where
  objects := h.objects
  sessions id' session hlookup := h.sessions id' session (AList.lookup_of_erase hlookup).2

theorem updates_takeExpired (s : ManagerState) (now : Int) :
    s.Updates (s.takeExpired now) fun session obj =>
      if ∃ r ∈ s.expired now, r.session = session then destroy obj else obj :=
  ⟨fun _ => getElem?_foldl_destroy _ _ _, fun _ _ h => (lookup_takeExpired.mp h).1⟩

/-- An update that keeps the names and the marks, and marks what leaves the map. -/
theorem Sound.updates {lib : DockerLib} (h : s.Sound lib) (hup : s.Updates s' F)
    (hF : KeepsNames F)
    (hgone : ∀ session obj, s.objects[session]? = some obj →
      s.sessions.lookup obj.sessionID = some session →
      s'.sessions.lookup obj.sessionID ≠ some session → (F session obj).destroying = true) :
    s'.Sound lib where
  mapped id session hlookup := by
    obtain ⟨obj, hobj, hid⟩ := h.mapped id session (hup.sessions id session hlookup)
    refine ⟨F session obj, ?_, (hF session obj).1.trans hid⟩
    rw [hup.objects, hobj, Option.map_some]
  named obj hobj := by
    obtain ⟨session, hsession⟩ := List.getElem?_of_mem hobj
    rw [hup.objects] at hsession
    obtain ⟨obj₀, hobj₀, rfl⟩ := Option.map_eq_some_iff.mp hsession
    obtain ⟨hid, hname, -⟩ := hF session obj₀
    rw [hid, hname]
    exact h.named obj₀ (List.mem_of_getElem? hobj₀)
  unmapped session obj hobj hlookup := by
    rw [hup.objects] at hobj
    obtain ⟨obj₀, hobj₀, rfl⟩ := Option.map_eq_some_iff.mp hobj
    obtain ⟨hid, -, hmark⟩ := hF session obj₀
    rw [hid] at hlookup
    by_cases hbefore : s.sessions.lookup obj₀.sessionID = some session
    · exact hgone session obj₀ hobj₀ hbefore hlookup
    · exact hmark (h.unmapped session obj₀ hobj₀ hbefore)

theorem keepsNames_one {session : Nat} {f : TerminalSession → TerminalSession}
    (hf : ∀ obj, (f obj).sessionID = obj.sessionID ∧ (f obj).containerName = obj.containerName ∧
      (obj.destroying = true → (f obj).destroying = true)) : KeepsNames (one session f) := by
  intro h obj
  unfold one
  split
  · exact hf obj
  · exact ⟨rfl, rfl, id⟩

end Updates

/-- A new session. -/
theorem Sound.insertSession {lib : DockerLib} (h : s.Sound lib) {obj : TerminalSession}
    (hnone : s.sessions.lookup obj.sessionID = none) {inflight : Nat} (hnew : obj.New lib inflight) :
    (s.insertSession obj).Sound lib where
  mapped id session hlookup := by
    rcases AList.lookup_insert_cases hlookup with ⟨hid, rfl⟩ | ⟨-, hlookup⟩
    · exact ⟨obj, List.getElem?_concat_length, hid.symm⟩
    · obtain ⟨obj', hobj', hid⟩ := h.mapped id session hlookup
      exact ⟨obj', List.getElem?_concat_of_some hobj', hid⟩
  named := List.forall_mem_concat h.named hnew.containerName
  unmapped session obj' hobj' hlookup := by
    rw [ManagerState.insertSession, AList.lookup_insert_ite] at hlookup
    rcases List.getElem?_concat_cases hobj' with ⟨-, hobj'⟩ | ⟨rfl, rfl⟩
    · -- An older session of the same id was not in the map before.
      refine h.unmapped session obj' hobj' fun hbefore => ?_
      split at hlookup
      · rename_i hid
        rw [hid, hnone] at hbefore
        nomatch hbefore
      · exact hlookup hbefore
    · rw [if_pos rfl] at hlookup
      exact absurd rfl hlookup

end ManagerState

/-- Marking and giving back a slot. -/
theorem keeps_release (destroys : Bool) (obj : TerminalSession) :
    (releaseSlot (mark destroys obj)).sessionID = obj.sessionID ∧
      (releaseSlot (mark destroys obj)).containerName = obj.containerName ∧
      (obj.destroying = true →
        (releaseSlot (mark destroys obj)).destroying = true) := by
  cases destroys with
  | false => exact ⟨rfl, rfl, id⟩
  | true => exact ⟨rfl, rfl, fun _ => rfl⟩

/-- The update leaves the places alone. -/
def KeepsPlaces (F : Nat → TerminalSession → TerminalSession) : Prop :=
  ∀ session obj, (F session obj).sessionID = obj.sessionID ∧
    (F session obj).capacityReserved = obj.capacityReserved

theorem keepsPlaces_one {f : TerminalSession → TerminalSession}
    (hf : ∀ obj, (f obj).sessionID = obj.sessionID ∧ (f obj).capacityReserved = obj.capacityReserved) :
    KeepsPlaces (one session f) := by
  intro h obj
  unfold one
  split
  · exact hf obj
  · exact ⟨rfl, rfl⟩

theorem keepsPlaces_release (destroys : Bool) (obj : TerminalSession) :
    (releaseSlot (mark destroys obj)).sessionID = obj.sessionID ∧
      (releaseSlot (mark destroys obj)).capacityReserved =
        obj.capacityReserved := by
  cases destroys <;> exact ⟨rfl, rfl⟩

/-- The entry that is erased is that of the session. -/
theorem erased_of_lookup {id id' : String} {session' : Nat}
    (hlookup : s.sessions.lookup id = some session) (h : s.sessions.lookup id' = some session') :
    (s.sessions.erase id).lookup id' = some session' ∨ session' = session := by
  rw [AList.lookup_erase_ite]
  split
  · rename_i heq
    rw [heq, hlookup] at h
    exact .inr (Option.some.inj h).symm
  · exact .inl h

/-- The sessions are updated, and those that leave the map are marked, and the call cleans
    them up. -/
structure Moves (g' : Phase) (s s' : ManagerState) (F : Nat → TerminalSession → TerminalSession) :
    Prop where
  updates : s.Updates s' F
  names : KeepsNames F
  gone : ∀ session obj, s.objects[session]? = some obj →
    s.sessions.lookup obj.sessionID = some session →
    s'.sessions.lookup obj.sessionID = some session ∨
      (F session obj).destroying = true ∧ ∃ r ∈ g'.cleaning, r.session = session

/-- The call gives back the place of the session that it cleans up. -/
def Frees (g g' : Phase) (s s' : ManagerState) : Prop :=
  ∃ session obj r rest, g.cleaning = r :: rest ∧ r.session = session ∧
    s.objects[session]? = some obj ∧ g' = { g with cleaning := rest } ∧
    s' = s.releaseCapacityReservation session obj

/-- An effect is a new session, or an update that marks what leaves the map and that leaves
    the places alone or gives back one. -/
theorem updates_of_effect (heffect : ManagerEffect lib g s o g' s') :
    (∃ obj inflight, s' = s.insertSession obj ∧ s.sessions.lookup obj.sessionID = none ∧
      obj.New lib inflight ∧ g'.cleaning = g.cleaning) ∨
    ∃ F, Moves g' s s' F ∧ (Frees g g' s s' ∨ KeepsPlaces F ∧
      s'.activeSessionReservations = s.activeSessionReservations ∧ ∀ r ∈ g.cleaning, r ∈ g'.cleaning) := by
  -- A call with nothing to clean up.
  have hnone : ∀ {l : List Retired}, g.Clean → ∀ r ∈ g.cleaning, r ∈ l :=
    fun hclean r hr => nomatch hclean.1 ▸ hr
  cases heffect with
  | quiet hs hg =>
    exact .inr ⟨_, ⟨updates_congr hs, fun _ _ => ⟨rfl, rfl, id⟩,
      fun _ _ _ h => .inl (hs.sessions ▸ h)⟩, .inr ⟨fun _ _ => ⟨rfl, rfl⟩, hs.reservations,
      fun r hr => hg.cleaning ▸ hr⟩⟩
  | touched session hf hg hlease =>
    refine .inr ⟨_, ⟨s.updates_modify session _, keepsNames_one fun obj => ?_,
      fun _ _ _ => .inl⟩, .inr ⟨keepsPlaces_one fun obj => ⟨(hf obj).1, (hf obj).2.2.2.2⟩, rfl,
      fun r hr => hg.cleaning ▸ hr⟩⟩
    obtain ⟨hid, hname, -, hdestroying, -⟩ := hf obj
    exact ⟨hid, hname, fun h => hdestroying.trans h⟩
  | @created _ _ _ obj hfree hnone hnew => exact .inl ⟨obj, 1, rfl, hnone, hnew, rfl⟩
  | @recovered _ _ _ _ obj hfree hnone hnew => exact .inl ⟨obj, 0, rfl, hnone, hnew, rfl⟩
  | joined hfree hlookup hobj hactive =>
    exact .inr ⟨_, ⟨s.updates_modify _ _, keepsNames_one fun obj => ⟨rfl, rfl, id⟩,
      fun _ _ _ => .inl⟩, .inr ⟨keepsPlaces_one fun _ => ⟨rfl, rfl⟩, rfl, fun _ hr => hr⟩⟩
  | left hholds hsession hcreated hobj hinactive =>
    exact .inr ⟨_, ⟨updates_congr (.refl s), fun _ _ => ⟨rfl, rfl, id⟩,
      fun _ _ _ => .inl⟩, .inr ⟨fun _ _ => ⟨rfl, rfl⟩, rfl, fun _ hr => hr⟩⟩
  | gone ho hholds hid hclean _ | stranded hclean hholds hsession hobj hgone =>
    exact .inr ⟨_, ⟨updates_congr (.refl s), fun _ _ => ⟨rfl, rfl, id⟩,
      fun _ _ _ => .inl⟩, .inr ⟨fun _ _ => ⟨rfl, rfl⟩, rfl, hnone hclean⟩⟩
  | released ho hholds hid hclean hlookup hobj hstays =>
    exact .inr ⟨_, ⟨s.updates_modify _ _, keepsNames_one (keeps_release _),
      fun _ _ _ => .inl⟩, .inr ⟨keepsPlaces_one (keepsPlaces_release _), rfl, hnone hclean⟩⟩
  | retired ho hholds hid hclean hlookup hobj hmarked =>
    refine .inr ⟨_, ⟨(s.updates_modify _ _).erase _, keepsNames_one (keeps_release _), ?_⟩,
      .inr ⟨keepsPlaces_one (keepsPlaces_release _), rfl, hnone hclean⟩⟩
    intro session' obj' hobj' hlookup'
    refine (erased_of_lookup hlookup hlookup').imp id ?_
    rintro rfl
    obtain rfl := Option.mem_unique hobj hobj'
    rw [one, if_pos rfl]
    exact ⟨hmarked, _, List.mem_singleton_self _, rfl⟩
  | detached hclean howner hobj hlookup =>
    refine .inr ⟨_, ⟨(s.updates_modify _ _).erase _,
      keepsNames_one fun _ => ⟨rfl, rfl, fun _ => rfl⟩, ?_⟩,
      .inr ⟨keepsPlaces_one fun _ => ⟨rfl, rfl⟩, rfl, hnone hclean⟩⟩
    intro session' obj' hobj' hlookup'
    refine (erased_of_lookup hlookup hlookup').imp id ?_
    rintro rfl
    rw [one, if_pos rfl]
    exact ⟨rfl, _, List.mem_singleton_self _, rfl⟩
  | @expired now expired hfree hperm =>
    refine .inr ⟨_, ⟨s.updates_takeExpired now, fun session obj => ?_, fun session obj hobj hlookup => ?_⟩,
      .inr ⟨fun session obj => ?_, rfl, hnone hfree.clean⟩⟩
    · split
      · exact ⟨rfl, rfl, fun _ => rfl⟩
      · exact ⟨rfl, rfl, id⟩
    · by_cases hexpired : ∃ r ∈ s.expired now, r.session = session
      · rw [if_pos hexpired]
        obtain ⟨r, hr, hsession⟩ := hexpired
        exact .inr ⟨rfl, r, hperm.mem_iff.mpr hr, hsession⟩
      · exact .inl (lookup_takeExpired.mpr ⟨hlookup, hexpired⟩)
    · dsimp only
      split <;> exact ⟨rfl, rfl⟩
  | @freed session obj r rest hcleaning hsession hobj =>
    have hfrees : Frees g _ s _ := ⟨session, obj, r, rest, hcleaning, hsession, hobj, rfl, rfl⟩
    by_cases hplace : obj.capacityReserved = true
    all_goals simp only [releaseCapacityReservation, hplace] at hfrees ⊢
    · exact .inr ⟨_, ⟨⟨(s.updates_modify _ _).objects, fun _ _ h => h⟩,
        keepsNames_one fun obj => ⟨rfl, rfl, id⟩, fun _ _ _ => .inl⟩, .inl hfrees⟩
    · exact .inr ⟨_, ⟨updates_congr (.refl s), fun _ _ => ⟨rfl, rfl, id⟩,
        fun _ _ _ => .inl⟩, .inl hfrees⟩

/-- Every effect keeps the sessions sound. -/
theorem sound_of_effect (h : s.Sound lib) (heffect : ManagerEffect lib g s o g' s') : s'.Sound lib := by
  rcases updates_of_effect heffect with ⟨obj, inflight, rfl, hnone, hnew, -⟩ | ⟨F, hmoves, -⟩
  · exact h.insertSession hnone hnew
  · exact h.updates hmoves.updates hmoves.names fun session obj hobj hlookup hgone =>
      ((hmoves.gone session obj hobj hlookup).resolve_left hgone).1

/-- Session objects stay, with their names and marks. -/
theorem object_of_effect (heffect : ManagerEffect lib g s o g' s')
    (hobj : s.objects[session]? = some obj) :
    ∃ obj', s'.objects[session]? = some obj' ∧ obj'.sessionID = obj.sessionID ∧
      (obj.destroying = true → obj'.destroying = true) := by
  rcases updates_of_effect heffect with ⟨new, inflight, rfl, -⟩ | ⟨F, ⟨hup, hF, -⟩, -⟩
  · exact ⟨obj, List.getElem?_concat_of_some hobj, rfl, id⟩
  · obtain ⟨hid, -, hmark⟩ := hF session obj
    refine ⟨F session obj, ?_, hid, hmark⟩
    rw [hup.objects, hobj, Option.map_some]

/-! ## Runs -/

/-- What the shared state answers, in a sound state. -/
theorem answered_of_newSessionLocked {sessionID id : String} (hne : id ≠ "")
    (htrim : sessionID = trimSpace sessionID → trimSpace id = id)
    (hid : sessionID ≠ "" → id = sessionID ∧ createIfMissing = true) :
    Phase.Answered lib ⟨.claimSession sessionID leaseTarget createIfMissing,
      (s.newSessionLocked lib cfg id leaseTarget).2, ()⟩ := by
  unfold newSessionLocked
  split
  · trivial
  · refine ⟨fun hgiven => ⟨htrim hgiven, hne, rfl⟩, fun hgiven => ?_⟩
    obtain ⟨hsame, hcreate⟩ := hid hgiven
    exact ⟨hsame, fun hfalse => nomatch hcreate.symm.trans hfalse⟩

theorem answered_of_claimSession (hsound : s.Sound lib) (hne : sessionID ≠ "") :
    Phase.Answered lib ⟨.claimSession sessionID leaseTarget createIfMissing,
      (s.claimSession lib cfg sessionID leaseTarget createIfMissing).2, ()⟩ := by
  unfold claimSession
  rcases current_cases hsound sessionID with ⟨hcurrent, -⟩ | ⟨session, obj, hcurrent, -, hobj, hid⟩
  · rw [hcurrent]
    dsimp only
    split
    · rename_i hcreate
      exact answered_of_newSessionLocked hne Eq.symm fun _ => ⟨rfl, hcreate⟩
    · trivial
  · rw [hcurrent]
    dsimp only
    split
    · trivial
    · split
      · trivial
      · refine ⟨fun htrim => ⟨htrim.symm, hne, ?_⟩, fun _ => ⟨rfl, fun _ => rfl⟩⟩
        rw [← hid]
        exact hsound.named obj (List.mem_of_getElem? hobj)

theorem answered_of_exec {ans : ManagerAnswer} {x : ManagerState × o.Res} (hsound : s.Sound lib)
    (h : s.exec lib cfg o ans = some x) : Phase.Answered lib ⟨o, x.2, ()⟩ := by
  cases o with
  | claimSession sessionID leaseTarget createIfMissing =>
    simp only [exec] at h
    split at h
    · rename_i hempty
      split at h
      · split at h
        · rename_i hfresh
          simp only [freshID, Bool.and_eq_true, decide_eq_true_eq] at hfresh
          exact Option.some.inj h ▸ answered_of_newSessionLocked hfresh.1.1 (fun _ => hfresh.1.2)
            fun hgiven => absurd hempty hgiven
        · nomatch h
      · nomatch h
    · rename_i hne
      split at h
      · exact Option.some.inj h ▸ answered_of_claimSession hsound hne
      · nomatch h
  | _ => trivial

/-- A step of the environment. -/
theorem sameSessions_of_occurs {e : ManagerEvent} (h : s.occurs e = some s') : s.SameSessions s' := by
  cases e with
  | tick now =>
    simp only [occurs] at h
    split at h
    · cases h
      exact ⟨rfl, rfl, rfl⟩
    · nomatch h
  | containerLost containerName =>
    cases h
    exact ⟨rfl, rfl, rfl⟩

theorem sound_of_started (h : s.Started) : s.Sound lib := by
  obtain ⟨containers, clock, -, rfl⟩ := h
  exact ⟨nofun, nofun, nofun⟩

/-- A call that keeps to the protocol. -/
abbrev CallKeeps (lib : DockerLib) (cfg : ManagerSettings) (t : ManagerThread) : Prop :=
  ThreadSystem.Thread.Keeps (managerProtocol lib cfg) ManagerCall.start (fun _ g => g.Finished) t

/-- The phases of the calls. -/
abbrev phases (lib : DockerLib) (cfg : ManagerSettings) (p : ManagerPool) : List Phase :=
  ThreadSystem.ghosts (managerProtocol lib cfg) ManagerCall.start p

section Runs

variable {ok : ManagerPool → ManagerAction → Prop} {p p' : ManagerPool} {a : ManagerAction}

section

variable (h : (managerMachine lib cfg).ReachableWhere ok p)

include h

/-- Calls keep to the protocol because the state is sound, and the state is sound because
    they do. -/
theorem managerRuns :
    (∀ t ∈ p.threads, CallKeeps lib cfg t) ∧ p.shared.Sound lib := by
  apply h.invariant (P := fun p => (∀ t ∈ p.threads, CallKeeps lib cfg t) ∧ p.shared.Sound lib)
  · intro p hinit
    refine ⟨fun t ht => ?_, sound_of_started hinit.1⟩
    rw [hinit.2] at ht
    nomatch ht
  · rintro p a p' - ⟨hkeeps, hsound⟩ - hs
    refine ⟨ThreadSystem.keeps_step meets_body hkeeps ?_ hs, ?_⟩
    · rintro i ans t o k s' r rfl ht hprog hexec
      exact answered_of_exec hsound hexec
    · rcases ThreadSystem.ghost_cases hkeeps hs with ⟨c, -, hshared, -⟩ |
        ⟨i, ans, g, o, r, -, -, -, hallowed, hexec, -⟩ | ⟨e, -, he, -⟩
      · rw [hshared]
        exact hsound
      · exact sound_of_effect hsound (effect_of_exec hsound hallowed hexec)
      · have hsame := sameSessions_of_occurs he
        exact hsound.updates (updates_congr hsame) (fun _ _ => ⟨rfl, rfl, id⟩)
          fun _ _ _ hlookup hgone => absurd (hsame.sessions ▸ hlookup) hgone

/-- All calls keep to the protocol. -/
theorem managerKeeps :
    ∀ t ∈ p.threads, CallKeeps lib cfg t := (managerRuns h).1

/-- The state is sound. -/
theorem managerSound : p.shared.Sound lib :=
  (managerRuns h).2

omit h in
/-- The phase of a call. -/
theorem phase_of_thread {i : Nat} {t : ManagerThread} (ht : p.threads[i]? = some t) :
    (phases lib cfg p)[i]? = some ((managerProtocol lib cfg).after t.call.start t.log) :=
  ThreadSystem.ghost_of_thread ht

/-- The next operation of a call is one its phase allows. -/
theorem allowed_of_nextOp {i : Nat} (hnext : p.nextOp i = some o) :
    ∃ t, p.threads[i]? = some t ∧
      ((managerProtocol lib cfg).after t.call.start t.log).Allowed lib cfg o :=
  ThreadSystem.allowed_of_nextOp (managerKeeps h) hnext

/-- What one step of the manager is. -/
theorem manager_cases (hs : (managerMachine lib cfg).step p a = some p') :
    (∃ c, a = .spawn c ∧ p'.shared = p.shared ∧ phases lib cfg p' = phases lib cfg p ++ [({} : Phase)]) ∨
    (∃ i ans g o g', a = .run i ans ∧ (phases lib cfg p)[i]? = some g ∧ p.nextOp i = some o ∧
      g.Allowed lib cfg o ∧ ManagerEffect lib g p.shared o g' p'.shared ∧
      phases lib cfg p' = (phases lib cfg p).set i g') ∨
    (p.shared.SameSessions p'.shared ∧ phases lib cfg p' = phases lib cfg p) := by
  rcases ThreadSystem.ghost_cases (managerKeeps h) hs with ⟨c, hc, hshared, hphases⟩ |
    ⟨i, ans, g, o, r, ha, hg, hnext, hallowed, hexec, hphases⟩ | ⟨e, -, he, hphases⟩
  · exact .inl ⟨c, hc, hshared, hphases⟩
  · exact .inr (.inl ⟨i, ans, g, o, _, ha, hg, hnext, hallowed,
      effect_of_exec (managerSound h) hallowed hexec, hphases⟩)
  · exact .inr (.inr ⟨sameSessions_of_occurs he, hphases⟩)

end

/-- Invariants of the sessions and the phases of all calls, one effect at a time. -/
theorem manager_invariant {I : ManagerState → List Phase → Prop}
    (hinit : ∀ s : ManagerState, s.Started → I s [])
    (hspawn : ∀ s gs, I s gs → I s (gs ++ [({} : Phase)]))
    (hrun : ∀ p i ans g o g' p', (managerMachine lib cfg).ReachableWhere ok p → ok p (.run i ans) →
      (managerMachine lib cfg).step p (.run i ans) = some p' →
      I p.shared (phases lib cfg p) → (phases lib cfg p)[i]? = some g → p.nextOp i = some o →
      ManagerEffect lib g p.shared o g' p'.shared → I p'.shared ((phases lib cfg p).set i g'))
    (hsame : ∀ s s' gs, SameSessions s s' → I s gs → I s' gs)
    (h : (managerMachine lib cfg).ReachableWhere ok p) : I p.shared (phases lib cfg p) := by
  apply h.invariant (P := fun p => I p.shared (phases lib cfg p))
  · intro p hp
    rw [phases, ThreadSystem.ghosts, hp.2]
    exact hinit _ hp.1
  · intro p a p' hreach ih hok hs
    rcases manager_cases hreach hs with ⟨c, -, hshared, hphases⟩ |
      ⟨i, ans, g, o, g', rfl, hg, hnext, -, heffect, hphases⟩ | ⟨hsessions, hphases⟩
    · rw [hphases, hshared]
      exact hspawn _ _ ih
    · rw [hphases]
      exact hrun p i ans g o g' p' hreach hok hs ih hg hnext heffect
    · rw [hphases]
      exact hsame _ _ _ hsessions ih

/-- The session that a call claimed is known under its id. -/
def Phase.Claimed (s : ManagerState) (g : Phase) : Prop :=
  ∀ claim, g.claim = some claim →
    ∃ obj, s.objects[claim.session]? = some obj ∧ obj.sessionID = claim.sessionID

theorem Phase.Claimed.mono {o₂ : ManagerOp} {g₁ g₂ g₃ : Phase} (h : g.Claimed s)
    (heffect : ManagerEffect lib g₁ s o₂ g₂ s') (hclaim : g₃.claim = g.claim) : g₃.Claimed s' := by
  intro claim hg
  obtain ⟨obj, hobj, hid⟩ := h claim (hclaim ▸ hg)
  obtain ⟨obj', hobj', hid', -⟩ := object_of_effect heffect hobj
  exact ⟨obj', hobj', hid'.trans hid⟩

/-- An effect keeps the claim of the call, or makes one that is known. -/
theorem claimed_of_effect (hsound : s.Sound lib) (h : g.Claimed s)
    (heffect : ManagerEffect lib g s o g' s') : g'.Claimed s' := by
  have hstay : ∀ g₃ : Phase, g₃.claim = g.claim → g₃.Claimed s' := fun _ => h.mono heffect
  have hobjects : ∀ (session : Nat) (obj : TerminalSession), s.objects[session]? = some obj →
      ∃ obj' : TerminalSession, s'.objects[session]? = some obj' ∧ obj'.sessionID = obj.sessionID ∧ _ :=
    fun _ _ => object_of_effect heffect
  cases heffect with
  | quiet hs hg | touched session hf hg hlease => exact hstay _ hg.claim
  | @created _ _ _ obj hfree hnone hnew =>
    rintro claim ⟨rfl⟩
    exact ⟨obj, List.getElem?_concat_length, rfl⟩
  | @joined sessionID _ _ session obj hfree hlookup hobj hactive =>
    rintro claim ⟨rfl⟩
    obtain ⟨obj', hobj', hid⟩ := hsound.mapped sessionID session hlookup
    obtain ⟨obj'', hobj'', hid'', -⟩ := hobjects session obj' hobj'
    exact ⟨obj'', hobj'', hid''.trans hid⟩
  | recovered hfree hnone hnew | left hholds hsession hcreated hobj hinactive
  | gone ho hholds hid hclean hnone | released ho hholds hid hclean hlookup hobj hstays
  | retired ho hholds hid hclean hlookup hobj hmarked | detached hclean howner hobj hlookup
  | stranded hclean hholds hsession hobj hgone | expired hfree hperm
  | freed hcleaning hsession hobj => exact hstay _ rfl

/-- All claims are known. -/
theorem claims_known (h : (managerMachine lib cfg).ReachableWhere ok p) :
    ∀ g ∈ phases lib cfg p, g.Claimed p.shared := by
  refine manager_invariant (I := fun s gs => ∀ g ∈ gs, Phase.Claimed s g) ?_ ?_ ?_ ?_ h
  · exact fun _ _ _ h => nomatch h
  · exact fun s gs ih => List.forall_mem_concat ih nofun
  · intro p i ans g o g' p' hreach _ _ ih hg _ heffect
    exact List.forall_mem_set (fun g₂ hg₂ => (ih g₂ hg₂).mono heffect rfl)
      (claimed_of_effect (managerSound hreach) (ih g (List.mem_of_getElem? hg)) heffect)
  · intro s s' gs hsame ih g hg claim hclaim
    rw [hsame.objects]
    exact ih g hg claim hclaim

end Runs

/-! ## A manager to run -/

/-- A library for the runs below. -/
def DockerLib.sample : DockerLib where
  toLower := id
  caseMap := .ascii
  sessionIDHash := id
  trimOutput := id
  text _ := ""
  decodeProbeOutput _ := .error "no output"
  decodeBase64 _ := .error "no base64"
  proxyAddress _ := none
  inspectedAddress _ := none
  itoa _ := ""

/-- Settings with two slots for each session. -/
def ManagerSettings.sample : ManagerSettings :=
  newTerminalSessionManager { sessionMaxInflight := 2 }

/-- A manager that just started, without containers. -/
def ManagerPool.fresh : ManagerPool where
  shared := { clock := 0 }

theorem ManagerPool.fresh_reachable (lib : DockerLib) (cfg : ManagerSettings)
    {ok : ManagerPool → ManagerAction → Prop} : (managerMachine lib cfg).ReachableWhere ok .fresh :=
  .init ⟨⟨∅, 0, nofun, rfl⟩, rfl⟩

/-- Steps of one call. -/
def ManagerAction.runs (i : Nat) (answers : List ManagerAnswer) : List ManagerAction :=
  answers.map (.run i)

/-- A command that did what it should. -/
def ManagerAnswer.success : ManagerAnswer := .docker {} false

end Onlyboxes.Docker
