import Onlyboxes.ForStd.Ledger
import Onlyboxes.ForStd.List
import Onlyboxes.Spec.E2BProtocol

/-!
# What one operation of the E2B manager does

`SlotEffect` and `LeaseEffect` say once what each operation does to the sessions, the
sandboxes and the phase of the call that performs it. A lease effect leaves alone who has
what; a slot effect leaves alone until when. The invariants of the later modules are case
analyses over the effects that they are about.

## Key results

- `effect_of_exec`: the operations have these effects
- `managerRuns`: in every run the calls keep to the protocol, and the slots of each session
  are those of the calls that hold it
-/

namespace Onlyboxes.E2B

open Text Worker
open Docker (RecoveryStatus)

/-! ## The sessions -/

namespace ManagerState

/-- The session is marked, if it is to be destroyed. -/
def mark (destroys : Bool) (obj : TerminalSession) : TerminalSession :=
  bif destroys then destroy obj else obj

/-- A slot is given back. -/
def giveBack (destroys : Bool) (obj : TerminalSession) : TerminalSession := releaseSlot (mark destroys obj)

/-- The map has sessions under their own ids. -/
def Sound (s : ManagerState) : Prop :=
  ∀ id session, s.sessions.lookup id = some session →
    ∃ obj, s.objects[session]? = some obj ∧ obj.sessionID = id

end ManagerState

open ManagerState

/-- The update leaves alone who has the session, and what it has. -/
def KeepsSlots (f : TerminalSession → TerminalSession) : Prop :=
  ∀ obj, (f obj).sessionID = obj.sessionID ∧ (f obj).inflight = obj.inflight ∧
    (f obj).destroying = obj.destroying ∧ (f obj).retire = obj.retire

/-- The id of the session whose slot the operation gives back, and whether it is to be
    destroyed. -/
def ManagerOp.releases : ManagerOp → Option (String × Bool)
  | .releaseSession sessionID => some (sessionID, false)
  | .releaseAndDestroySession sessionID => some (sessionID, true)
  | _ => none

/-! ## The effects -/

/-- What the operations on slots, places and sandboxes leave. -/
inductive SlotEffect (cfg : ManagerSettings) (g : Phase) (s : ManagerState) :
    ManagerOp → Phase → ManagerState → Prop
  | made {sessionID id : String} {leaseTarget : Int} {createIfMissing : Bool} (hfree : g.Free)
      (hnone : s.sessions.lookup id = none) (havailable : s.capacityAvailableLocked cfg = true) :
      SlotEffect cfg g s (.claimSession sessionID leaseTarget createIfMissing)
        (g.take ⟨s.objects.length, id, true⟩)
        (s.insertSession (newSession id leaseTarget)).reserve
  /-- A session whose lease is over makes room for a new one, which gets its place. -/
  | replaced {sessionID : String} {leaseTarget : Int} {createIfMissing : Bool} {session : Nat}
      {obj : TerminalSession} (hfree : g.Free) (hlookup : s.sessions.lookup sessionID = some session)
      (hobj : s.objects[session]? = some obj) (hunused : obj.inflight = 0)
      (hreserved : obj.capacityReserved = true) :
      SlotEffect cfg g s (.claimSession sessionID leaseTarget createIfMissing)
        ((g.take ⟨s.objects.length, sessionID, true⟩).retire [⟨obj.sandbox, false⟩])
        ((s.removeSession sessionID).insertSession (newSession sessionID leaseTarget))
  | dropped {sessionID : String} {leaseTarget : Int} {createIfMissing : Bool} {session : Nat}
      {obj : TerminalSession} (hfree : g.Free) (hlookup : s.sessions.lookup sessionID = some session)
      (hobj : s.objects[session]? = some obj) (hunused : obj.inflight = 0) :
      SlotEffect cfg g s (.claimSession sessionID leaseTarget createIfMissing) (g.retire [obj.retire])
        (s.removeSession sessionID)
  | joined {o : ManagerOp} {sessionID : String} {leaseTarget : Int} {session : Nat}
      {obj : TerminalSession} (hfree : g.Free) (hlookup : s.sessions.lookup sessionID = some session)
      (hobj : s.objects[session]? = some obj)
      (hlimit : g.command = true → (obj.inflight : Int) < cfg.sessionMaxInflight) :
      SlotEffect cfg g s o (g.take ⟨session, sessionID, false⟩)
        (s.modify session (takeSlot leaseTarget))
  | sandboxMade {session : Nat} {timeoutSec : Int} {metadata : SandboxMetadata} {sandbox : String}
      (hallowed : g.Allowed (.createSandbox session timeoutSec metadata))
      (hfresh : s.remote.lookup sandbox = none) :
      SlotEffect cfg g s (.createSandbox session timeoutSec metadata)
        { g with hand := some (sandbox, g.promise timeoutSec) }
        { s with
          remote := s.remote.insert sandbox
            { metadata := metadata, expiresAt := s.clock + timeoutSec * 1000, created := true } }
  | published {session : Nat} {created : Except BackendError String} {leaseExpiresAt : Int}
      {obj : TerminalSession} (hallowed : g.Allowed (.publishSandbox session created leaseExpiresAt))
      (hobj : s.objects[session]? = some obj) :
      SlotEffect cfg g s (.publishSandbox session created leaseExpiresAt)
        { g with creating := false, hand := none }
        (s.modify session (publish created leaseExpiresAt))
  | released {o : ManagerOp} {sessionID : String} (destroys : Bool) {claim : Claim}
      {obj : TerminalSession} (ho : o.releases = some (sessionID, destroys)) (hready : g.Ready claim)
      (hid : claim.sessionID = sessionID)
      (hlookup : s.sessions.lookup sessionID = some claim.session)
      (hobj : s.objects[claim.session]? = some obj)
      (hstays : (mark destroys obj).destroying = true → obj.inflight - 1 ≠ 0) :
      SlotEffect cfg g s o { g with holds := false }
        (s.modify claim.session (giveBack destroys))
  | retired {o : ManagerOp} {sessionID : String} (destroys : Bool) {claim : Claim}
      {obj : TerminalSession} (ho : o.releases = some (sessionID, destroys)) (hready : g.Ready claim)
      (hid : claim.sessionID = sessionID)
      (hlookup : s.sessions.lookup sessionID = some claim.session)
      (hobj : s.objects[claim.session]? = some obj) (hlast : obj.inflight - 1 = 0) :
      SlotEffect cfg g s o ({ g with holds := false }.retire [obj.retire])
        ((s.modify claim.session (giveBack destroys)).removeSession sessionID)
  | expired {now : Int} {sessions : List Nat} (hfree : g.Free) (hperm : sessions.Perm (s.expired now)) :
      SlotEffect cfg g s (.takeExpired now) (g.retire (s.retireAll sessions)) (s.takeExpired now)
  | freed (hfrees : 0 < g.frees) :
      SlotEffect cfg g s .releaseReservation { g with frees := g.frees - 1 }
        { s with activeSessionReservations := s.activeSessionReservations - 1 }
  | killed {sandbox : String} {rest : List String} (hkills : g.kills = sandbox :: rest) :
      SlotEffect cfg g s (.kill sandbox) { g with kills := rest } (s.killSandbox sandbox)
  | killedListed {sandbox : String} (hrec : g.recovering = true) :
      SlotEffect cfg g s (.killListed sandbox) g (s.killSandbox sandbox)
  | recovered {sessionID sandbox : String} {leaseExpiresAt : Int}
      (hallowed : g.Allowed (.recoverInsert sessionID sandbox leaseExpiresAt))
      (hnone : s.sessions.lookup sessionID = none) :
      SlotEffect cfg g s (.recoverInsert sessionID sandbox leaseExpiresAt) { g with adopting := none }
        (s.insertSession (recoveredSession sessionID sandbox leaseExpiresAt)).reserve

/-- What the other operations leave. -/
inductive LeaseEffect (g : Phase) (s : ManagerState) : ManagerOp → Phase → ManagerState → Prop
  | idle {o : ManagerOp} : LeaseEffect g s o g s
  | read {o : ManagerOp} : LeaseEffect g s o { g with read := some s.clock } s
  | readied {session : Nat} : LeaseEffect g s (.closeReady session) g
      (s.modify session ({ · with ready := true }))
  | locked {session : Nat} {obj : TerminalSession} (hallowed : g.Allowed (.lockLeaseSync session))
      (hobj : s.objects[session]? = some obj) (hfree : obj.leaseSyncLocked = false) :
      LeaseEffect g s (.lockLeaseSync session) { g with locked := some session }
        (s.modify session ({ · with leaseSyncLocked := true }))
  | unlocked {session : Nat} (hlocked : g.locked = some session) :
      LeaseEffect g s (.unlockLeaseSync session) { g with locked := none, extension := none }
        (s.modify session ({ · with leaseSyncLocked := false }))
  | confirmed {session : Nat} {deadline : Option Int} {obj : TerminalSession}
      (hallowed : g.Allowed (.planSync session deadline)) (hobj : s.objects[session]? = some obj)
      (hlate : targetExpires deadline obj.desiredLeaseExpiresAt ≤ obj.remoteTimeoutExpiresAt) :
      LeaseEffect g s (.planSync session deadline) g
        (s.modify session (confirm obj.desiredLeaseExpiresAt))
  | planned {session : Nat} {deadline : Option Int} {obj : TerminalSession} {sandbox : String}
      (hallowed : g.Allowed (.planSync session deadline)) (hobj : s.objects[session]? = some obj)
      (hearly : obj.remoteTimeoutExpiresAt < targetExpires deadline obj.desiredLeaseExpiresAt)
      (hsandbox : obj.sandbox = some sandbox) :
      LeaseEffect g s (.planSync session deadline)
        { g with
          extension := some
            { session := session
              leaseExpires := obj.desiredLeaseExpiresAt
              targetExpires := targetExpires deadline obj.desiredLeaseExpiresAt
              sandbox := sandbox } } s
  | extended {sandbox : String} {timeoutSec : Int} (hallowed : g.Allowed (.setTimeout sandbox timeoutSec))
      (hthere : (s.remote.lookup sandbox).isSome = true) :
      LeaseEffect g s (.setTimeout sandbox timeoutSec)
        { g with extension := g.extension.map ({ · with set := true }) }
        (s.expireIn sandbox timeoutSec)
  | extendFailed {sandbox : String} {timeoutSec : Int}
      (hallowed : g.Allowed (.setTimeout sandbox timeoutSec)) :
      LeaseEffect g s (.setTimeout sandbox timeoutSec) g (s.expireIn sandbox timeoutSec)
  | recorded {session : Nat} {leaseExpires targetExpires : Int}
      (hallowed : g.Allowed (.recordSync session leaseExpires targetExpires)) :
      LeaseEffect g s (.recordSync session leaseExpires targetExpires) { g with extension := none }
        (s.modify session (recordSync leaseExpires targetExpires))
  /-- Recovery gives a lease to a session that is there. -/
  | adopted {sessionID : String} {leaseExpiresAt : Int} {session : Nat} {obj : TerminalSession}
      (hlookup : s.sessions.lookup sessionID = some session) (hobj : s.objects[session]? = some obj)
      (hlive : obj.destroying = false) :
      LeaseEffect g s (.recoverExisting sessionID leaseExpiresAt) g
        (s.modify session (adopt leaseExpiresAt))
  /-- The session is there when recovery has connected to its sandbox. -/
  | readopted {sessionID sandbox : String} {leaseExpiresAt : Int} {session : Nat} {obj : TerminalSession}
      (hallowed : g.Allowed (.recoverInsert sessionID sandbox leaseExpiresAt))
      (hlookup : s.sessions.lookup sessionID = some session) (hobj : s.objects[session]? = some obj)
      (hsandbox : obj.sandbox = some sandbox) :
      LeaseEffect g s (.recoverInsert sessionID sandbox leaseExpiresAt) { g with adopting := none }
        (s.modify session (adopt leaseExpiresAt))
  | abandoned {o : ManagerOp} : LeaseEffect g s o { g with adopting := none } s
  | connected {sandbox : String} {timeoutSec : Int} {adopting : Option (String × Int)}
      (hallowed : g.Allowed (.connectSandbox sandbox timeoutSec))
      (hadopting : adopting = none ∨ adopting = some (sandbox, g.promise timeoutSec))
      (hthere : (s.remote.lookup sandbox).isSome = true) :
      LeaseEffect g s (.connectSandbox sandbox timeoutSec) { g with adopting := adopting }
        (s.expireIn sandbox timeoutSec)
  | connectFailed {sandbox : String} {timeoutSec : Int}
      (hallowed : g.Allowed (.connectSandbox sandbox timeoutSec)) :
      LeaseEffect g s (.connectSandbox sandbox timeoutSec) g (s.expireIn sandbox timeoutSec)

/-- The state that an operation leaves, and the phase of the call. -/
inductive ManagerEffect (cfg : ManagerSettings) (g : Phase) (s : ManagerState) (o : ManagerOp)
    (g' : Phase) (s' : ManagerState) : Prop
  | slot (h : SlotEffect cfg g s o g' s')
  | lease (h : LeaseEffect g s o g' s')

variable {lib : E2BLib} {cfg : ManagerSettings} {g g' : Phase} {s s' : ManagerState} {o : ManagerOp}

theorem ManagerEffect.idle : ManagerEffect cfg g s o g s := .lease .idle

theorem ManagerEffect.read : ManagerEffect cfg g s o { g with read := some s.clock } s := .lease .read

/-- A call that has nothing to clean up and is given nothing to. -/
theorem ManagerEffect.clean (hclean : g'.Clean) (h : ManagerEffect cfg g s o g' s') :
    ManagerEffect cfg g s o (g'.retire []) s' :=
  (Phase.retire_clean hclean).symm ▸ h

/-- The session of an id, in a sound state. -/
theorem current_cases (hsound : s.Sound) (id : String) :
    (s.current id = none ∧ s.sessions.lookup id = none) ∨
      ∃ session obj, s.current id = some (session, obj) ∧ s.sessions.lookup id = some session ∧
        s.objects[session]? = some obj ∧ obj.sessionID = id := by
  unfold current
  cases hlookup : s.sessions.lookup id with
  | none => exact .inl ⟨rfl, rfl⟩
  | some session =>
    obtain ⟨obj, hobj, hid⟩ := hsound id session hlookup
    refine .inr ⟨session, obj, ?_, rfl, hobj, hid⟩
    dsimp only
    rw [hobj, Option.map_some]

variable {session : Nat}

theorem onObject_eq_some {ρ : Type} {f : TerminalSession → ManagerState × ρ}
    {result : ManagerState × ρ} (h : s.onObject session f = some result) :
    ∃ obj, s.objects[session]? = some obj ∧ f obj = result := by
  unfold onObject at h
  exact Option.map_eq_some_iff.mp h

/-- All sessions have a place: the field is never cleared. -/
def ManagerState.AllReserved (s : ManagerState) : Prop :=
  ∀ (session : Nat) (obj : TerminalSession), s.objects[session]? = some obj → obj.capacityReserved = true

variable {claim : Claim} {now : Int} {ans : ManagerAnswer}

section Operations

variable {sessionID sandbox : String} {leaseTarget timeoutSec : Int} {createIfMissing effect : Bool}
  {obj : TerminalSession} {err : Option BackendError}

/-- What an operation leaves and answers. -/
abbrev OpEffect (cfg : ManagerSettings) (g : Phase) (s : ManagerState) (o : ManagerOp)
    (x : ManagerState × o.Res) : Prop :=
  ManagerEffect cfg g s o (g.next ⟨o, x.2, ()⟩) x.1

section Claims

variable (hfree : g.Free)

include hfree

/-- A new session. -/
theorem effect_of_newSessionLocked {id : String} (hnone : s.sessions.lookup id = none) :
    OpEffect cfg g s (.claimSession sessionID leaseTarget createIfMissing)
      ((s.newSessionLocked cfg id leaseTarget).1, (s.newSessionLocked cfg id leaseTarget).2, none) := by
  unfold newSessionLocked
  split
  · rename_i havailable
    exact .clean hfree.clean (.slot (.made hfree hnone havailable))
  · exact .clean hfree.clean .idle

theorem effect_of_claimExpired (hreserved : s.AllReserved)
    (hlookup : s.sessions.lookup sessionID = some session) (hobj : s.objects[session]? = some obj)
    (hunused : obj.inflight = 0) :
    OpEffect cfg g s (.claimSession sessionID leaseTarget createIfMissing)
      (s.claimExpired cfg obj sessionID leaseTarget createIfMissing) := by
  unfold claimExpired
  have hplace := hreserved session obj hobj
  split
  · exact .slot (.dropped hfree hlookup hobj hunused)
  · rw [hplace]
    exact .slot (.replaced hfree hlookup hobj hunused hplace)

theorem effect_of_claimSession (hsound : s.Sound) (hreserved : s.AllReserved) :
    OpEffect cfg g s (.claimSession sessionID leaseTarget createIfMissing)
      (s.claimSession cfg sessionID leaseTarget createIfMissing) := by
  have hrefused : ∀ err, OpEffect cfg g s (.claimSession sessionID leaseTarget createIfMissing)
      (s, .error err, none) := fun err => .clean hfree.clean .idle
  unfold ManagerState.claimSession
  rcases current_cases hsound sessionID with ⟨hcurrent, hnone⟩ |
    ⟨session, obj, hcurrent, hlookup, hobj, -⟩
  · rw [hcurrent]
    dsimp only
    split
    · exact effect_of_newSessionLocked hfree hnone
    · exact hrefused _
  · rw [hcurrent]
    dsimp only
    split
    · exact hrefused _
    · split
      · rename_i hexpired
        exact effect_of_claimExpired hfree hreserved hlookup hobj hexpired.1
      · split
        · exact hrefused _
        · rename_i hlimit
          exact .clean hfree.clean (.slot (.joined hfree hlookup hobj fun _ => Int.not_le.mp hlimit))

theorem effect_of_claimRenewal (hsound : s.Sound) (hrenewal : g.command = false) :
    OpEffect cfg g s (.claimRenewal sessionID leaseTarget now)
      (s.claimRenewal sessionID leaseTarget now) := by
  unfold claimRenewal
  rcases current_cases hsound sessionID with ⟨hcurrent, hnone⟩ |
    ⟨session, obj, hcurrent, hlookup, hobj, -⟩
  · rw [hcurrent]
    exact .idle
  · rw [hcurrent]
    dsimp only
    split
    · exact .idle
    · exact .slot (.joined hfree hlookup hobj fun hcommand => nomatch hrenewal.symm.trans hcommand)

end Claims

section

variable (hsound : s.Sound)

include hsound

/-- The call's own session is the one that has its id. -/
abbrev Phase.Held (s : ManagerState) (g : Phase) : Prop :=
  ∀ claim, g.Holds claim → s.sessions.lookup claim.sessionID = some claim.session

/-- The session of a call that holds one. -/
theorem Phase.Ready.current (h : g.Ready claim) (hheld : g.Held s) :
    ∃ obj, s.current claim.sessionID = some (claim.session, obj) ∧
      s.sessions.lookup claim.sessionID = some claim.session ∧
      s.objects[claim.session]? = some obj := by
  have hlookup := hheld claim h.holds
  obtain ⟨obj, hobj, -⟩ := hsound _ _ hlookup
  refine ⟨obj, ?_, hlookup, hobj⟩
  unfold ManagerState.current
  rw [hlookup]
  dsimp only
  rw [hobj, Option.map_some]

theorem effect_of_releaseSession (hheld : g.Held s) (hallowed : g.Allowed (.releaseSession sessionID)) :
    OpEffect cfg g s (.releaseSession sessionID) (s.releaseSession sessionID) := by
  obtain ⟨claim, hready, rfl⟩ := hallowed
  obtain ⟨obj, hcurrent, hlookup, hobj⟩ := hready.current hsound hheld
  unfold ManagerState.releaseSession
  rw [hcurrent]
  dsimp only
  split
  · rename_i hlast
    exact .slot (.retired false rfl hready rfl hlookup hobj hlast.2)
  · rename_i hstays
    exact .clean hready.clean (.slot (.released false rfl hready rfl hlookup hobj
      fun hmarked hlast => hstays ⟨hmarked, hlast⟩))

theorem effect_of_releaseAndDestroySession (hheld : g.Held s)
    (hallowed : g.Allowed (.releaseAndDestroySession sessionID)) :
    OpEffect cfg g s (.releaseAndDestroySession sessionID) (s.releaseAndDestroySession sessionID) := by
  obtain ⟨claim, hready, rfl⟩ := hallowed
  obtain ⟨obj, hcurrent, hlookup, hobj⟩ := hready.current hsound hheld
  unfold ManagerState.releaseAndDestroySession
  rw [hcurrent]
  dsimp only
  split
  · rename_i hlast
    exact .slot (.retired true rfl hready rfl hlookup hobj hlast)
  · rename_i hstays
    exact .clean hready.clean (.slot (.released true rfl hready rfl hlookup hobj
      fun _ hlast => hstays hlast))

theorem effect_of_recoverExisting {leaseExpiresAt : Int} :
    OpEffect cfg g s (.recoverExisting sessionID leaseExpiresAt)
      (s.recoverExisting sessionID leaseExpiresAt) := by
  unfold recoverExisting
  rcases current_cases hsound sessionID with ⟨hcurrent, -⟩ | ⟨session, obj, hcurrent, hlookup, hobj, -⟩
  · rw [hcurrent]
    exact .idle
  · rw [hcurrent]
    dsimp only
    split
    · exact .idle
    · rename_i hlive
      exact .lease (.adopted hlookup hobj (eq_false_of_ne_true hlive))

theorem effect_of_recoverInsert {leaseExpiresAt : Int}
    (hallowed : g.Allowed (.recoverInsert sessionID sandbox leaseExpiresAt)) :
    OpEffect cfg g s (.recoverInsert sessionID sandbox leaseExpiresAt)
      (s.recoverInsert sessionID sandbox leaseExpiresAt) := by
  unfold recoverInsert
  rcases current_cases hsound sessionID with ⟨hcurrent, hnone⟩ |
    ⟨session, obj, hcurrent, hlookup, hobj, -⟩
  · rw [hcurrent]
    exact .slot (.recovered hallowed hnone)
  · rw [hcurrent]
    dsimp only
    split
    · exact .lease .abandoned
    · rename_i hsame
      exact .lease (.readopted hallowed hlookup hobj (not_not.mp (not_or.mp hsame).1))

end

theorem effect_of_planSync {deadline : Option Int} (hallowed : g.Allowed (.planSync session deadline))
    (hobj : s.objects[session]? = some obj) :
    OpEffect cfg g s (.planSync session deadline) (s.planSync session obj deadline) := by
  unfold planSync
  dsimp only
  split
  · rename_i hearly
    cases hsandbox : obj.sandbox with
    | none => exact .idle
    | some sandbox => exact .lease (.planned hallowed hobj hearly hsandbox)
  · rename_i hlate
    exact .lease (.confirmed hallowed hobj (Int.not_lt.mp hlate))

theorem effect_of_setTimeout {x : ManagerState × Option BackendError}
    (hallowed : g.Allowed (.setTimeout sandbox timeoutSec))
    (h : s.setTimeout sandbox timeoutSec err effect = some x) :
    OpEffect cfg g s (.setTimeout sandbox timeoutSec) x := by
  unfold setTimeout at h
  cases err with
  | some err =>
    cases h
    cases effect with
    | true => exact .lease (.extendFailed hallowed)
    | false => exact .idle
  | none =>
    dsimp only at h
    split at h
    · rename_i hthere
      cases h
      exact .lease (.extended hallowed hthere)
    · nomatch h

theorem effect_of_connectSandbox {x : ManagerState × Except BackendError String}
    (hallowed : g.Allowed (.connectSandbox sandbox timeoutSec))
    (h : s.connectSandbox sandbox timeoutSec err effect = some x) :
    OpEffect cfg g s (.connectSandbox sandbox timeoutSec) x := by
  unfold connectSandbox at h
  cases err with
  | some err =>
    cases h
    cases effect with
    | true => exact .lease (.connectFailed hallowed)
    | false => exact .idle
  | none =>
    dsimp only at h
    split at h
    · rename_i hthere
      cases h
      refine .lease (.connected hallowed ?_ hthere)
      split
      · exact .inl rfl
      · exact .inr rfl
    · nomatch h

theorem effect_of_createSandbox {metadata : SandboxMetadata} {created : Except BackendError String}
    {x : ManagerState × Except BackendError String}
    (hallowed : g.Allowed (.createSandbox session timeoutSec metadata))
    (h : s.createSandbox timeoutSec metadata created = some x) :
    OpEffect cfg g s (.createSandbox session timeoutSec metadata) x := by
  unfold createSandbox at h
  cases created with
  | error err =>
    cases h
    exact .idle
  | ok sandbox =>
    dsimp only at h
    split at h
    · rename_i hid
      cases h
      exact .slot (.sandboxMade hallowed (Option.isNone_iff_eq_none.mp hid.2.2))
    · nomatch h

/-- No session ever had a fresh id. -/
theorem lookup_of_freshID {id : String} (hsound : s.Sound) (hfresh : s.freshID id = true) :
    s.sessions.lookup id = none := by
  cases hlookup : s.sessions.lookup id with
  | none => rfl
  | some session =>
    obtain ⟨obj, hobj, hid⟩ := hsound id session hlookup
    simp only [freshID, Bool.and_eq_true, List.all_eq_true, decide_eq_true_eq] at hfresh
    exact absurd hid (hfresh.2 obj (List.mem_of_getElem? hobj))

/-- The operations have these effects. -/
theorem effect_of_exec {x : ManagerState × o.Res} (hsound : s.Sound) (hreserved : s.AllReserved)
    (hheld : g.Held s) (hallowed : g.Allowed o) (h : s.exec cfg o ans = some x) : OpEffect cfg g s o x := by
  -- Most operations only read, and leave the phase as it is.
  have hidle : ∀ {o : ManagerOp} {x y : ManagerState × o.Res}, some x = some y → x.1 = s →
      g.next ⟨o, y.2, ()⟩ = g → OpEffect cfg g s o y := by
    rintro o x _ ⟨⟩ hs hg
    rw [OpEffect, hs, hg]
    exact .idle
  unfold exec at h
  split at h
  case h_1 =>
    cases h
    exact .read
  case h_2 sessionID leaseTarget createIfMissing =>
    split at h
    · split at h
      · split at h
        · rename_i hfresh
          exact Option.some.inj h ▸
            effect_of_newSessionLocked hallowed.1 (lookup_of_freshID hsound hfresh)
        · nomatch h
      · nomatch h
    · split at h
      · exact Option.some.inj h ▸ effect_of_claimSession hallowed.1 hsound hreserved
      · nomatch h
  case h_3 | h_9 | h_15 =>
    obtain ⟨obj, -, rfl⟩ := onObject_eq_some h
    exact .idle
  case h_4 => exact effect_of_createSandbox hallowed h
  case h_5 =>
    obtain ⟨obj, hobj, rfl⟩ := onObject_eq_some h
    exact .slot (.published hallowed hobj)
  case h_6 =>
    obtain ⟨obj, hobj, rfl⟩ := onObject_eq_some h
    exact .lease .readied
  case h_7 | h_28 =>
    split at h
    · exact hidle h rfl rfl
    · nomatch h
  case h_10 =>
    split at h
    · rename_i hfree
      obtain ⟨obj, hobj, hfree⟩ := (Option.any_eq_true _ _).mp hfree
      cases h
      exact .lease (.locked hallowed hobj ((Bool.not_eq_true' _).mp hfree))
    · nomatch h
  case h_11 =>
    obtain ⟨obj, hobj, rfl⟩ := onObject_eq_some h
    exact .lease (.unlocked hallowed)
  case h_12 =>
    obtain ⟨obj, hobj, rfl⟩ := onObject_eq_some h
    exact effect_of_planSync hallowed hobj
  case h_13 => exact effect_of_setTimeout hallowed h
  case h_14 =>
    obtain ⟨obj, hobj, rfl⟩ := onObject_eq_some h
    exact .lease (.recorded hallowed)
  case h_20 =>
    cases h
    obtain ⟨rest, hkills⟩ := hallowed
    change ManagerEffect cfg g s _ { g with kills := g.kills.tail } _
    rw [hkills]
    exact .slot (.killed hkills)
  case h_21 =>
    cases h
    exact .slot (.freed hallowed)
  case h_22 => exact Option.some.inj h ▸ effect_of_releaseSession hsound hheld hallowed
  case h_23 => exact Option.some.inj h ▸ effect_of_releaseAndDestroySession hsound hheld hallowed
  case h_24 => exact Option.some.inj h ▸ effect_of_claimRenewal hallowed.1 hsound hallowed.2.2
  case h_25 =>
    split at h
    · rename_i hperm
      cases h
      exact .slot (.expired hallowed.1 (List.isPerm_iff.mp hperm))
    · nomatch h
  case h_27 => exact Option.some.inj h ▸ effect_of_recoverExisting hsound
  case h_29 =>
    cases h
    exact .slot (.killedListed hallowed)
  case h_30 => exact effect_of_connectSandbox hallowed h
  case h_31 => exact Option.some.inj h ▸ effect_of_recoverInsert hsound hallowed
  case h_37 => nomatch h
  all_goals exact hidle h rfl rfl

end Operations

/-! ## Who holds what -/

/-- The call has a slot of the session. -/
def Phase.holdsSession (g : Phase) (session : Nat) : Bool :=
  g.holds && g.claim.any (·.session = session)

/-- One, if the call has a slot of the session. -/
abbrev Phase.slots (g : Phase) (session : Nat) : Nat := if g.holdsSession session = true then 1 else 0

/-- In every state: sessions are in the map under their own ids, each has a place, those
    that calls hold are in the map, and their slots are those of the calls. -/
structure Holding (s : ManagerState) (gs : List Phase) : Prop where
  sound : s.Sound
  reserved : s.AllReserved
  held : ∀ g ∈ gs, g.Held s
  inflight : ∀ id session obj, s.sessions.lookup id = some session → s.objects[session]? = some obj →
    obj.inflight = gs.countP (·.holdsSession session)

theorem holdsSession_iff :
    g.holdsSession session = true ↔ ∃ claim, g.Holds claim ∧ claim.session = session := by
  simp only [Phase.holdsSession, Bool.and_eq_true, Option.any_eq_true, decide_eq_true_eq, Phase.Holds]
  constructor
  · rintro ⟨hholds, claim, hclaim, hsession⟩
    exact ⟨claim, ⟨hclaim, hholds⟩, hsession⟩
  · rintro ⟨claim, ⟨hclaim, hholds⟩, hsession⟩
    exact ⟨hholds, claim, hclaim, hsession⟩

theorem slots_of_not (h : g.holds = false) : g.slots session = 0 := by
  rw [Phase.slots, Phase.holdsSession, h, Bool.false_and, if_neg Bool.false_ne_true]

theorem slots_congr (hclaim : g'.claim = g.claim) (hholds : g'.holds = g.holds) (session : Nat) :
    g'.slots session = g.slots session := by
  unfold Phase.slots Phase.holdsSession
  rw [hclaim, hholds]

theorem Phase.Holds.slots (h : g.Holds claim) (session : Nat) :
    g.slots session = if claim.session = session then 1 else 0 := by
  simp only [Phase.slots, Phase.holdsSession, h.1, h.2, Option.any_some, Bool.true_and, decide_eq_true_eq]

/-- Two ids do not share a session. -/
theorem ManagerState.Sound.id_eq (h : s.Sound) {id id' : String}
    (hlookup : s.sessions.lookup id = some session)
    (hlookup' : s.sessions.lookup id' = some session) :
    id = id' := by
  obtain ⟨obj, hobj, hid⟩ := h id session hlookup
  obtain ⟨obj', hobj', hid'⟩ := h id' session hlookup'
  obtain rfl := Option.mem_unique hobj hobj'
  exact hid.symm.trans hid'

section Holding

variable {gs : List Phase} {i : Nat}

section

variable (h : Holding s gs) (hg : gs[i]? = some g)

include h hg

/-- Objects are updated in place, and none enters the map: one that leaves it has only the
    slot of the call, which it gives back. -/
theorem Holding.updates {F : Nat → TerminalSession → TerminalSession}
    (hobjects : ∀ session : Nat, s'.objects[session]? = (s.objects[session]?).map (F session))
    (hF : ∀ session obj, (F session obj).sessionID = obj.sessionID ∧
      (F session obj).capacityReserved = obj.capacityReserved)
    (hsessions : ∀ id session, s'.sessions.lookup id = some session →
      s.sessions.lookup id = some session)
    (hheld : g'.Held s)
    (hslots : ∀ id session obj, s.sessions.lookup id = some session →
      s.objects[session]? = some obj →
      (s'.sessions.lookup id = some session →
        (F session obj).inflight + g.slots session = obj.inflight + g'.slots session) ∧
      (s'.sessions.lookup id ≠ some session → obj.inflight + g'.slots session = g.slots session)) :
    Holding s' (gs.set i g') := by
  -- The holders of a session, before and after.
  have hcount : ∀ session, (gs.set i g').countP (·.holdsSession session) + g.slots session =
      gs.countP (·.holdsSession session) + g'.slots session :=
    fun session => List.countP_set_add (·.holdsSession session) hg
  refine ⟨fun id session hlookup => ?_, fun session obj' hobj' => ?_, fun g₂ hg₂ claim hholds => ?_,
    fun id session obj' hlookup hobj' => ?_⟩
  · obtain ⟨obj, hobj, hid⟩ := h.sound id session (hsessions id session hlookup)
    exact ⟨F session obj, by rw [hobjects, hobj, Option.map_some], (hF session obj).1.trans hid⟩
  · rw [hobjects] at hobj'
    obtain ⟨obj, hobj, rfl⟩ := Option.map_eq_some_iff.mp hobj'
    exact (hF session obj).2.trans (h.reserved session obj hobj)
  · have hbefore : s.sessions.lookup claim.sessionID = some claim.session :=
      List.forall_mem_set h.held hheld g₂ hg₂ claim hholds
    by_contra hgone
    obtain ⟨obj, hobj, -⟩ := h.sound _ _ hbefore
    have hempty := (hslots _ _ obj hbefore hobj).2 hgone
    have hinflight := h.inflight _ _ obj hbefore hobj
    have hpos : 0 < (gs.set i g').countP (·.holdsSession claim.session) :=
      List.countP_pos_iff.mpr ⟨g₂, hg₂, holdsSession_iff.mpr ⟨claim, hholds, rfl⟩⟩
    have := hcount claim.session
    omega
  · rw [hobjects] at hobj'
    obtain ⟨obj, hobj, rfl⟩ := Option.map_eq_some_iff.mp hobj'
    have hbefore := hsessions id session hlookup
    have hinflight := h.inflight id session obj hbefore hobj
    have hstays := (hslots id session obj hbefore hobj).1 hlookup
    have := hcount session
    omega

/-- Nothing that matters for slots was changed. -/
theorem Holding.same (hsessions : s'.sessions = s.sessions) (hobjects : s'.objects = s.objects)
    (hclaim : g'.claim = g.claim) (hholds : g'.holds = g.holds) :
    Holding s' (gs.set i g') := by
  have hslots := slots_congr hclaim hholds
  refine h.updates (F := fun _ obj => obj) hg (fun session => ?_) (fun _ _ => ⟨rfl, rfl⟩)
    (fun id session hlookup => hsessions ▸ hlookup) (fun claim hc => ?_) fun id session obj hlookup _ => ?_
  · rw [hobjects]
    exact Option.map_id_fun'.symm ▸ rfl
  · exact h.held g (List.mem_of_getElem? hg) claim ⟨hclaim ▸ hc.1, hholds ▸ hc.2⟩
  · exact ⟨fun _ => by rw [hslots], fun hgone => absurd (hsessions ▸ hlookup) hgone⟩

omit h hg in
theorem getElem?_modify (session n : Nat) (f : TerminalSession → TerminalSession) :
    (s.modify session f).objects[n]? = (s.objects[n]?).map fun obj => if session = n then f obj else obj :=
  List.getElem?_modify f session s.objects n

variable {session : Nat} {obj : TerminalSession} {f : TerminalSession → TerminalSession}

/-- One session is updated. -/
theorem Holding.modify (hobj : s.objects[session]? = some obj)
    (hf : ∀ obj, (f obj).sessionID = obj.sessionID ∧ (f obj).capacityReserved = obj.capacityReserved)
    (hheld : g'.Held s) (hothers : ∀ n, n ≠ session → g'.slots n = g.slots n)
    (hself : (f obj).inflight + g.slots session = obj.inflight + g'.slots session) :
    Holding (s.modify session f) (gs.set i g') := by
  refine h.updates hg (getElem?_modify session · f) (fun n obj => ?_) (fun _ _ hlookup => hlookup)
    hheld fun id' n obj' hlookup' hobj' => ⟨fun _ => ?_, fun hgone => absurd hlookup' hgone⟩
  · split
    · exact hf obj
    · exact ⟨rfl, rfl⟩
  · split
    · rename_i heq
      subst heq
      obtain rfl := Option.mem_unique hobj hobj'
      exact hself
    · rename_i hne
      rw [hothers n (Ne.symm hne)]

/-- One session is updated, but not its slots. -/
theorem Holding.touch (session : Nat) (hf : KeepsSlots f) (hclaim : g'.claim = g.claim)
    (hholds : g'.holds = g.holds) :
    Holding (s.modify session f) (gs.set i g') := by
  have hslots := slots_congr hclaim hholds
  refine h.updates hg (getElem?_modify session · f) (fun n obj => ?_) (fun _ _ hlookup => hlookup)
    (fun claim hc => ?_) fun id n obj hlookup hobj =>
      ⟨fun _ => ?_, fun hgone => absurd hlookup hgone⟩
  · split
    · exact ⟨(hf obj).1, congrArg Retired.capacityReserved (hf obj).2.2.2⟩
    · exact ⟨rfl, rfl⟩
  · exact h.held g (List.mem_of_getElem? hg) claim ⟨hclaim ▸ hc.1, hholds ▸ hc.2⟩
  · rw [hslots]
    split
    · rw [(hf obj).2.1]
    · rfl

/-- A session that has at most the slot of the call is taken out of the map. -/
theorem Holding.remove {id : String} (hlookup : s.sessions.lookup id = some session)
    (hobj : s.objects[session]? = some obj)
    (hheld : g'.Held s) (hothers : ∀ n, n ≠ session → g'.slots n = g.slots n)
    (hself : obj.inflight + g'.slots session = g.slots session) :
    Holding (s.removeSession id) (gs.set i g') := by
  have herased : ∀ id', (s.removeSession id).sessions.lookup id' =
      if id' = id then none else s.sessions.lookup id' := fun id' => AList.lookup_erase_ite _ _ _
  refine h.updates (F := fun _ obj => obj) hg (fun n => Option.map_id_fun'.symm ▸ rfl)
    (fun _ _ => ⟨rfl, rfl⟩) (fun id' n hlookup' => ?_) hheld fun id' n obj' hlookup' hobj' => ?_
  · exact (AList.lookup_of_erase hlookup').2
  · rw [herased]
    split
    · rename_i heq
      subst heq
      obtain rfl := Option.mem_unique hlookup hlookup'
      obtain rfl := Option.mem_unique hobj hobj'
      exact ⟨nofun, fun _ => hself⟩
    · rename_i hne
      refine ⟨fun _ => ?_, fun hgone => absurd hlookup' hgone⟩
      rw [hothers n fun heq => hne (h.sound.id_eq hlookup' (heq ▸ hlookup))]

omit hg in
/-- Nobody has a slot of a session that is not there. -/
theorem Holding.unheld : gs.countP (·.holdsSession s.objects.length) = 0 := by
  rw [List.countP_eq_zero]
  intro g₂ hg₂ hholds
  obtain ⟨claim, hc, hsession⟩ := holdsSession_iff.mp hholds
  obtain ⟨obj₂, hobj₂, -⟩ := h.sound _ _ (h.held g₂ hg₂ claim hc)
  have := (List.getElem?_eq_some_iff.mp hobj₂).1
  omega

/-- A new session, with the slot of the call that made it or with none. -/
theorem Holding.insert (hnone : s.sessions.lookup obj.sessionID = none) (hreserved : obj.capacityReserved = true)
    (hnot : g.holds = false)
    (hclaim : ∀ claim, g'.Holds claim → claim.session = s.objects.length ∧ claim.sessionID = obj.sessionID)
    (hinflight : obj.inflight = g'.slots s.objects.length) :
    Holding (s.insertSession obj) (gs.set i g') := by
  have hcount : ∀ session, (gs.set i g').countP (·.holdsSession session) + g.slots session =
      gs.countP (·.holdsSession session) + g'.slots session :=
    fun session => List.countP_set_add (·.holdsSession session) hg
  have hlookups : ∀ id, (s.insertSession obj).sessions.lookup id =
      if id = obj.sessionID then some s.objects.length else s.sessions.lookup id :=
    fun id => AList.lookup_insert_ite _ _ _ _
  have hzero := h.unheld
  refine ⟨fun id session hlookup => ?_, fun session obj' hobj' => ?_, fun g₂ hg₂ claim hholds => ?_,
    fun id session obj' hlookup hobj' => ?_⟩
  · rw [hlookups] at hlookup
    split at hlookup
    · rename_i heq
      cases hlookup
      exact ⟨obj, List.getElem?_concat_length, heq.symm⟩
    · obtain ⟨obj₂, hobj₂, hid⟩ := h.sound id session hlookup
      exact ⟨obj₂, List.getElem?_concat_of_some hobj₂, hid⟩
  · rcases List.getElem?_concat_cases hobj' with ⟨-, hobj'⟩ | ⟨-, rfl⟩
    · exact h.reserved session obj' hobj'
    · exact hreserved
  · rw [hlookups]
    rcases List.mem_or_eq_of_mem_set hg₂ with hg₂ | rfl
    · have hbefore := h.held g₂ hg₂ claim hholds
      rw [if_neg fun heq => nomatch (heq ▸ hbefore).symm.trans hnone]
      exact hbefore
    · obtain ⟨hsession, hid⟩ := hclaim claim hholds
      rw [if_pos hid, hsession]
  · have hnew := hcount session
    rw [slots_of_not hnot] at hnew
    rw [hlookups] at hlookup
    rcases List.getElem?_concat_cases hobj' with ⟨hlt, hobj'⟩ | ⟨rfl, rfl⟩
    · split at hlookup
      · have := Option.some.inj hlookup
        omega
      · have hother : g'.slots session = 0 := by
          refine if_neg fun hholds => ?_
          obtain ⟨claim, hc, hsession⟩ := holdsSession_iff.mp hholds
          have := (hclaim claim hc).1
          omega
        have := h.inflight id session obj' hlookup hobj'
        omega
    · omega

end

theorem modifyRemote_rest (sandbox : String) (f : RemoteSandbox → RemoteSandbox) :
    (s.modifyRemote sandbox f).sessions = s.sessions ∧ (s.modifyRemote sandbox f).objects = s.objects ∧
      (s.modifyRemote sandbox f).activeSessionReservations = s.activeSessionReservations ∧
      (s.modifyRemote sandbox f).clock = s.clock := by
  unfold modifyRemote
  split <;> exact ⟨rfl, rfl, rfl, rfl⟩

theorem keepsSlots_confirm (lease : Int) : KeepsSlots (confirm lease) :=
  fun _ => ⟨rfl, rfl, rfl, rfl⟩

/-- Slots are kept by the operations on leases. -/
theorem Holding.lease (h : Holding s gs) (hg : gs[i]? = some g) (heffect : LeaseEffect g s o g' s') :
    Holding s' (gs.set i g') := by
  cases heffect with
  | idle | read | abandoned | planned => exact h.same hg rfl rfl rfl rfl
  | readied | locked | unlocked | recorded | adopted | readopted =>
    exact h.touch hg _ (fun _ => ⟨rfl, rfl, rfl, rfl⟩) rfl rfl
  | confirmed => exact h.touch hg _ (keepsSlots_confirm _) rfl rfl
  | extended | extendFailed | connected | connectFailed =>
    exact h.same hg (modifyRemote_rest _ _).1 (modifyRemote_rest _ _).2.1 rfl rfl

theorem take_slots (g : Phase) (claim : Claim) (session : Nat) :
    (g.take claim).slots session = if claim.session = session then 1 else 0 :=
  Phase.Holds.slots ⟨rfl, rfl⟩ session

theorem giveBack_inflight (destroys : Bool) (obj : TerminalSession) :
    (giveBack destroys obj).inflight = obj.inflight - 1 := by
  cases destroys <;> rfl

theorem publish_names (created : Except BackendError String) (lease : Int) (obj : TerminalSession) :
    (publish created lease obj).sessionID = obj.sessionID ∧
      (publish created lease obj).capacityReserved = obj.capacityReserved ∧
      (publish created lease obj).inflight = obj.inflight ∧
      (publish created lease obj).destroying = obj.destroying := by
  cases created <;> exact ⟨rfl, rfl, rfl, rfl⟩

/-- The call that gives back its slot has one. -/
theorem Holding.inflight_pos (h : Holding s gs) (hg : gs[i]? = some g) (hholds : g.Holds claim)
    (hobj : s.objects[claim.session]? = some obj) :
    0 < obj.inflight := by
  have hmem := List.mem_of_getElem? hg
  rw [h.inflight _ _ obj (h.held g hmem claim hholds) hobj]
  exact List.countP_pos_iff.mpr ⟨g, hmem, holdsSession_iff.mpr ⟨claim, hholds, rfl⟩⟩

/-- Which sessions `cleanupExpiredSessions` leaves. -/
theorem lookup_takeExpired {id : String} :
    (s.takeExpired now).sessions.lookup id = some session ↔
      s.sessions.lookup id = some session ∧ s.expires now session = false := by
  change (AList.filter _ s.sessions).lookup id = some session ↔ _
  rw [AList.lookup_filter, Option.filter_eq_some_iff, Bool.not_eq_true']

theorem expires_eq_true (h : s.expires now session = true) :
    ∃ obj, s.objects[session]? = some obj ∧ obj.destroying = false ∧ obj.inflight = 0 ∧
      obj.confirmedLeaseExpiresAt ≤ now := by
  obtain ⟨obj, hobj, h⟩ := (Option.any_eq_true _ _).mp h
  simp only [Bool.and_eq_true, Bool.not_eq_true', decide_eq_true_eq] at h
  exact ⟨obj, hobj, h.1.1, h.1.2, h.2⟩

/-- A slot is given back. -/
theorem Holding.giveBack (h : Holding s gs) (hg : gs[i]? = some g) (hholds : g.Holds claim)
    (hobj : s.objects[claim.session]? = some obj) (destroys : Bool) :
    Holding (s.modify claim.session (giveBack destroys))
      (gs.set i { g with holds := false }) := by
  have hpos := h.inflight_pos hg hholds hobj
  have hzero : ∀ n, Phase.slots { g with holds := false } n = 0 := fun n => slots_of_not rfl
  refine h.modify hg hobj (fun _ => by cases destroys <;> exact ⟨rfl, rfl⟩) (fun _ hc => nomatch hc.2) (fun n hne => ?_) ?_
  · rw [hzero, hholds.slots, if_neg (Ne.symm hne)]
  · rw [giveBack_inflight, hzero, hholds.slots, if_pos rfl]
    omega

/-- Slots are kept right by the operations on slots. -/
theorem Holding.slot (h : Holding s gs) (hg : gs[i]? = some g) (heffect : SlotEffect cfg g s o g' s') :
    Holding s' (gs.set i g') := by
  have hmem := List.mem_of_getElem? hg
  -- A call that has no session.
  have hunheld : ∀ {g₂ : Phase}, g₂.holds = false → g₂.Held s :=
    fun hnot claim hholds => nomatch hnot.symm.trans hholds.2
  have hset : gs.set i g = gs := by
    obtain ⟨hlt, rfl⟩ := List.getElem?_eq_some_iff.mp hg
    exact List.set_getElem_self hlt
  cases heffect with
  | @made sessionID id leaseTarget _ hfree hnone havailable =>
    have hinserted : Holding (s.insertSession (newSession id leaseTarget))
        (gs.set i (g.take ⟨s.objects.length, id, true⟩)) := by
      refine h.insert hg hnone rfl hfree.holds (fun claim hc => ?_) ?_
      · obtain rfl := Option.some.inj hc.1
        exact ⟨rfl, rfl⟩
      · rw [take_slots, if_pos rfl]
        rfl
    exact ⟨hinserted.sound, hinserted.reserved, hinserted.held, hinserted.inflight⟩
  | @replaced sessionID leaseTarget _ session obj hfree hlookup hobj hunused hreserved =>
    have hzero : ∀ n, g.slots n = 0 := fun n => slots_of_not hfree.holds
    have hremoved : Holding (s.removeSession sessionID) gs := by
      rw [← hset]
      refine h.remove hg hlookup hobj (h.held g hmem) (fun _ _ => rfl) ?_
      rw [hunused, Nat.zero_add]
    refine hremoved.insert hg (AList.lookup_erase _ _) rfl hfree.holds (fun claim hc => ?_) ?_
    · obtain rfl := Option.some.inj hc.1
      exact ⟨rfl, rfl⟩
    · exact ((take_slots g _ _).trans (if_pos rfl)).symm
  | dropped hfree hlookup hobj hunused =>
    refine h.remove hg hlookup hobj (hunheld hfree.holds) (fun n _ => slots_congr rfl rfl n) ?_
    rw [hunused, Nat.zero_add]
    exact slots_congr rfl rfl _
  | @joined _ sessionID leaseTarget session obj hfree hlookup hobj =>
    refine h.modify hg hobj (fun _ => ⟨rfl, rfl⟩) (fun claim hc => ?_) (fun n hne => ?_) ?_
    · obtain rfl := Option.some.inj hc.1
      exact hlookup
    · rw [take_slots, if_neg (Ne.symm hne), slots_of_not hfree.holds]
    · rw [take_slots, if_pos rfl, slots_of_not hfree.holds]
      rfl
  | sandboxMade | freed => exact h.same hg rfl rfl rfl rfl
  | @published session created leaseExpiresAt obj hallowed hobj =>
    refine h.modify hg hobj (fun obj => ?_) (h.held g hmem) (fun n _ => slots_congr rfl rfl n) ?_
    · exact ⟨(publish_names created leaseExpiresAt obj).1, (publish_names created leaseExpiresAt obj).2.1⟩
    · rw [(publish_names created leaseExpiresAt obj).2.2.1]
      exact congrArg _ (slots_congr rfl rfl session).symm
  | @released _ _ destroys claim obj ho hready hid hlookup hobj hstays =>
    exact h.giveBack hg hready.holds hobj destroys
  | @retired _ sessionID destroys claim obj ho hready hid hlookup hobj hlast =>
    -- The slot is given back, then the session leaves the map.
    have hgiven := h.giveBack hg hready.holds hobj destroys
    have hg' : (gs.set i { g with holds := false })[i]? = some { g with holds := false } :=
      List.getElem?_set_of_some hg
    have hobj' : (s.modify claim.session (ManagerState.giveBack destroys)).objects[claim.session]? =
        some (ManagerState.giveBack destroys obj) := by
      rw [getElem?_modify, hobj, Option.map_some, if_pos rfl]
    have hnot : ∀ claim, ¬ Phase.Holds ({ g with holds := false }.retire [obj.retire]) claim :=
      fun claim hc => Bool.false_ne_true hc.2
    rw [← List.set_set { g with holds := false }]
    refine hgiven.remove hg' hlookup hobj' (fun claim hc => absurd hc (hnot claim))
      (fun n _ => slots_congr rfl rfl n) ?_
    rw [giveBack_inflight, hlast, Nat.zero_add]
    exact slots_congr rfl rfl _
  | @expired now sessions hfree hperm =>
    refine h.updates (F := fun _ obj => obj) hg (fun n => Option.map_id_fun'.symm ▸ rfl)
      (fun _ _ => ⟨rfl, rfl⟩) (fun id n hlookup => (lookup_takeExpired.mp hlookup).1)
      (hunheld hfree.holds) fun id n obj hlookup hobj => ⟨fun _ => ?_, fun hgone => ?_⟩
    · exact congrArg _ (slots_congr rfl rfl n).symm
    · have hexpires : s.expires now n = true := by
        by_contra hnot
        exact hgone (lookup_takeExpired.mpr ⟨hlookup, eq_false_of_ne_true hnot⟩)
      obtain ⟨obj', hobj', -, hunused, -⟩ := expires_eq_true hexpires
      obtain rfl := Option.mem_unique hobj hobj'
      rw [hunused, Nat.zero_add]
      exact slots_congr rfl rfl n
  | killed | killedListed => exact h.same hg (modifyRemote_rest _ _).1 (modifyRemote_rest _ _).2.1 rfl rfl
  | @recovered sessionID sandbox leaseExpiresAt hallowed hnone =>
    have hnot : g.holds = false := hallowed.2.2.1
    have hinserted : Holding (s.insertSession (recoveredSession sessionID sandbox leaseExpiresAt))
        (gs.set i { g with adopting := none }) := by
      refine h.insert hg hnone rfl hnot (fun claim hc => nomatch hnot.symm.trans hc.2) ?_
      exact (slots_of_not hnot).symm
    exact ⟨hinserted.sound, hinserted.reserved, hinserted.held, hinserted.inflight⟩

/-- Slots are kept right by every effect. -/
theorem Holding.effect (h : Holding s gs) (hg : gs[i]? = some g)
    (heffect : ManagerEffect cfg g s o g' s') : Holding s' (gs.set i g') := by
  cases heffect with
  | slot heffect => exact h.slot hg heffect
  | lease heffect => exact h.lease hg heffect

end Holding

/-! ## Runs -/

theorem answered_of_claimSession {sessionID : String} {leaseTarget : Int} {createIfMissing : Bool}
    (hsound : s.Sound) (h : (s.claimSession cfg sessionID leaseTarget createIfMissing).2.1 = .ok claim) :
    claim.sessionID = sessionID ∧ (createIfMissing = false → claim.created = false) := by
  have hnew : ∀ {s₂ : ManagerState}, (s₂.newSessionLocked cfg sessionID leaseTarget).2 = .ok claim →
      claim.sessionID = sessionID := by
    intro s₂ hnew
    unfold newSessionLocked at hnew
    split at hnew
    · exact Except.ok.inj hnew ▸ rfl
    · nomatch hnew
  unfold ManagerState.claimSession at h
  rcases current_cases hsound sessionID with ⟨hcurrent, -⟩ | ⟨session, obj, hcurrent, -, -, -⟩
  · rw [hcurrent] at h
    dsimp only at h
    split at h
    · rename_i hcreate
      exact ⟨hnew h, fun hnot => nomatch hnot.symm.trans hcreate⟩
    · nomatch h
  · rw [hcurrent] at h
    dsimp only at h
    split at h
    · nomatch h
    · split at h
      · unfold claimExpired at h
        split at h
        · nomatch h
        · rename_i hcreate
          split at h
          · nomatch h
          · exact Except.ok.inj h ▸ ⟨rfl, fun hnot => absurd hnot hcreate⟩
      · split at h
        · nomatch h
        · exact Except.ok.inj h ▸ ⟨rfl, fun _ => rfl⟩

/-- The shared state answers as the calls expect. -/
theorem answered_of_exec {r : o.Res} (hsound : s.Sound) (h : s.exec cfg o ans = some (s', r)) :
    Phase.Answered ⟨o, r, ()⟩ := by
  cases o with
  | claimSession sessionID leaseTarget createIfMissing =>
    match r with
    | (.error err, retired) => trivial
    | (.ok claim, retired) =>
      intro hne
      simp only [exec, if_neg hne] at h
      split at h
      · exact answered_of_claimSession hsound (congrArg (·.2.1) (Option.some.inj h))
      · nomatch h
  | claimRenewal sessionID leaseTarget now =>
    cases r with
    | error err => trivial
    | ok claim =>
      cases ans with
      | none =>
        have h : (s.claimRenewal sessionID leaseTarget now).2 = .ok claim :=
          congrArg Prod.snd (Option.some.inj h)
        unfold claimRenewal at h
        split at h
        · nomatch h
        · split at h
          · nomatch h
          · exact Except.ok.inj h ▸ rfl
      | _ => nomatch h
  | _ => trivial

/-- A call that keeps to the protocol. -/
abbrev CallKeeps (t : ManagerThread) : Prop :=
  ThreadSystem.Thread.Keeps managerProtocol ManagerCall.start (fun _ g => g.Finished) t

/-- The phases of the calls. -/
abbrev phases (p : ManagerPool) : List Phase := ThreadSystem.ghosts managerProtocol ManagerCall.start p

section Runs

variable {ok : ManagerPool → ManagerAction → Prop} {p p' : ManagerPool} {a : ManagerAction}

/-- A new call holds nothing. -/
theorem Holding.spawn {gs : List Phase} (h : Holding s gs) (c : ManagerCall) :
    Holding s (gs ++ [c.start]) := by
  have hnot := (free_start c).holds
  refine ⟨h.sound, h.reserved, List.forall_mem_concat h.held fun claim hholds => ?_,
    fun id session obj hlookup hobj => ?_⟩
  · nomatch hnot.symm.trans hholds.2
  · rw [List.countP_concat]
    have hzero : c.start.slots session = 0 := slots_of_not hnot
    rw [show (if c.start.holdsSession session = true then 1 else 0) = 0 from hzero]
    exact h.inflight id session obj hlookup hobj

theorem occurs_tick {e : ManagerEvent} (h : s.occurs e = some s') :
    ∃ now, s.clock ≤ now ∧ s' = { s with clock := now } := by
  obtain ⟨now⟩ := e
  simp only [occurs] at h
  split at h
  · rename_i hle
    exact ⟨now, hle, (Option.some.inj h).symm⟩
  · nomatch h

section

variable (h : (managerMachine lib cfg).ReachableWhere ok p)

include h

/-- Calls keep to the protocol because slots are kept right, and slots are kept right
    because they do. -/
theorem managerRuns :
    (∀ t ∈ p.threads, CallKeeps t) ∧ Holding p.shared (phases p) := by
  apply h.invariant (P := fun p => (∀ t ∈ p.threads, CallKeeps t) ∧ Holding p.shared (phases p))
  · rintro p ⟨⟨remote, clock, -, hstarted⟩, hthreads⟩
    refine ⟨fun t ht => ?_, ?_⟩
    · rw [hthreads] at ht
      cases ht
    · rw [hstarted]
      refine ⟨(fun _ _ h => nomatch h), (fun _ _ h => nomatch h), fun g hg => ?_, (fun _ _ _ h => nomatch h)⟩
      rw [phases, ThreadSystem.ghosts, hthreads] at hg
      cases hg
  · rintro p a p' - ⟨hkeeps, hholding⟩ - hs
    refine ⟨ThreadSystem.keeps_step meets_body hkeeps ?_ hs, ?_⟩
    · rintro i ans t o k s' r rfl ht hprog hexec
      exact answered_of_exec hholding.sound hexec
    · rcases ThreadSystem.ghost_cases hkeeps hs with ⟨c, -, hshared, hphases⟩ |
        ⟨i, ans, g, o, r, -, hg, -, hallowed, hexec, hphases⟩ | ⟨e, -, he, hphases⟩
      · rw [hshared, show phases p' = _ from hphases]
        exact hholding.spawn c
      · rw [show phases p' = _ from hphases]
        exact hholding.effect hg (effect_of_exec hholding.sound hholding.reserved
          (hholding.held g (List.mem_of_getElem? hg)) hallowed hexec)
      · obtain ⟨now, -, hsame⟩ := occurs_tick he
        rw [show phases p' = _ from hphases, hsame]
        exact ⟨hholding.sound, hholding.reserved, hholding.held, hholding.inflight⟩

/-- All calls keep to the protocol. -/
theorem managerKeeps :
    ∀ t ∈ p.threads, CallKeeps t := (managerRuns h).1

/-- Slots are kept right. -/
theorem managerHolding :
    Holding p.shared (phases p) := (managerRuns h).2

/-- What one step of the manager is. -/
theorem manager_cases (hs : (managerMachine lib cfg).step p a = some p') :
    (∃ c, a = .spawn c ∧ p'.shared = p.shared ∧ phases p' = phases p ++ [c.start]) ∨
    (∃ i ans g o g', a = .run i ans ∧ (phases p)[i]? = some g ∧ p.nextOp i = some o ∧
      g.Allowed o ∧ ManagerEffect cfg g p.shared o g' p'.shared ∧ phases p' = (phases p).set i g') ∨
    (∃ now, p.shared.clock ≤ now ∧ p'.shared = { p.shared with clock := now } ∧
      phases p' = phases p) := by
  have hholding := managerHolding h
  rcases ThreadSystem.ghost_cases (managerKeeps h) hs with ⟨c, hc, hshared, hphases⟩ |
    ⟨i, ans, g, o, r, ha, hg, hnext, hallowed, hexec, hphases⟩ | ⟨e, -, he, hphases⟩
  · exact .inl ⟨c, hc, hshared, hphases⟩
  · refine .inr (.inl ⟨i, ans, g, o, _, ha, hg, hnext, hallowed, ?_, hphases⟩)
    exact effect_of_exec hholding.sound hholding.reserved (hholding.held g (List.mem_of_getElem? hg))
      hallowed hexec
  · obtain ⟨now, hle, hsame⟩ := occurs_tick he
    exact .inr (.inr ⟨now, hle, hsame, hphases⟩)

end

/-- Invariants of the sessions and the phases of all calls, one effect at a time. -/
theorem manager_invariant {I : ManagerState → List Phase → Prop}
    (hinit : ∀ s : ManagerState, s.Started → I s [])
    (hspawn : ∀ (p : ManagerPool) c, ok p (.spawn c) → I p.shared (phases p) → I p.shared (phases p ++ [c.start]))
    (hrun : ∀ (p : ManagerPool) i ans g o g' (p' : ManagerPool), (managerMachine lib cfg).ReachableWhere ok p → ok p (.run i ans) →
      I p.shared (phases p) → (phases p)[i]? = some g → p.nextOp i = some o →
      ManagerEffect cfg g p.shared o g' p'.shared → I p'.shared ((phases p).set i g'))
    (htick : ∀ s gs now, s.clock ≤ now → I s gs → I { s with clock := now } gs)
    (h : (managerMachine lib cfg).ReachableWhere ok p) : I p.shared (phases p) := by
  refine ThreadSystem.ghost_invariant (fun _ => managerKeeps) hinit (fun p c _ => hspawn p c) ?_ ?_ h
  · intro p i ans g o s' r hreach hok ih hg hnext hallowed hexec
    have hholding := managerHolding hreach
    exact hrun p i ans g o _ ⟨s', []⟩ hreach hok ih hg hnext (effect_of_exec hholding.sound
      hholding.reserved (hholding.held g (List.mem_of_getElem? hg)) hallowed hexec)
  · rintro p e s' - - ih he
    obtain ⟨now, hle, rfl⟩ := occurs_tick he
    exact htick _ _ _ hle ih

/-- The phase of a call. -/
theorem phase_of_thread {i : Nat} {t : ManagerThread} (ht : p.threads[i]? = some t) :
    (phases p)[i]? = some (managerProtocol.after t.call.start t.log) :=
  ThreadSystem.ghost_of_thread ht

/-- The next operation of a call is one its phase allows. -/
theorem allowed_of_nextOp (h : (managerMachine lib cfg).ReachableWhere ok p) {i : Nat}
    (hnext : p.nextOp i = some o) : ∃ g, (phases p)[i]? = some g ∧ g.Allowed o := by
  obtain ⟨t, ht, hallowed⟩ := ThreadSystem.allowed_of_nextOp (managerKeeps h) hnext
  exact ⟨_, phase_of_thread ht, hallowed⟩

end Runs

/-! ## A manager to run -/

/-- A library for the runs below. -/
def E2BLib.sample : E2BLib where
  caseMap := .ascii
  equalFold a b := a = b
  sessionIDHash := id
  decodeProbe _ := .error "no output"
  proxyURL _ _ := .error "no proxy"
  itoa _ := ""

/-- Settings for the runs below: a backend with recovery. -/
def ManagerSettings.sample : ManagerSettings := newTerminalSessionManager .sample {} true

/-- A manager that just started, without sandboxes. -/
def ManagerPool.fresh : ManagerPool where
  shared := { clock := 0 }

theorem ManagerPool.fresh_reachable (lib : E2BLib) (cfg : ManagerSettings)
    {ok : ManagerPool → ManagerAction → Prop} : (managerMachine lib cfg).ReachableWhere ok .fresh :=
  .init ⟨⟨∅, 0, nofun, rfl⟩, rfl⟩

/-- Steps of one call. -/
def ManagerAction.runs (i : Nat) (answers : List ManagerAnswer) : List ManagerAction :=
  answers.map (.run i)

end Onlyboxes.E2B
