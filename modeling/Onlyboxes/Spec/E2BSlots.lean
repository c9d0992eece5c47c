import Onlyboxes.ForStd.Values
import Onlyboxes.Spec.E2BSteps

/-!
# The slots, the places and the sandboxes of the E2B worker

A session takes and gives back a place among the active sessions, and owns a sandbox from
its creation to the call of `Kill`. Sessions that are replaced in place hand their place
over. Places and sandboxes move between the map, the hands of the call that creates a
session, and the calls that clean one up; each is counted where it is.

## Key results

- `places_counted`: places are counted right in every run
- `sandboxes_owned`: without recovery every sandbox has one owner until it is killed, and is
  killed once
- `sessions_accounted`: the two of them, with the slots
-/

namespace Onlyboxes.E2B

open Text Worker

open ManagerState

variable {lib : E2BLib} {cfg : ManagerSettings} {g g' : Phase} {s s' : ManagerState} {o : ManagerOp}
  {gs : List Phase} {i : Nat}

/-! ## Sessions in the map -/

/-- The number of sessions in the map that have something to clean up of a kind. -/
def mapped (R : Retired → Bool) (s : ManagerState) : Nat :=
  AList.countValues (fun session => (s.objects[session]?).any (R ·.retire)) s.sessions

variable {f : TerminalSession → TerminalSession}

section Mapped

variable {R : Retired → Bool} {id : String} {session : Nat} {obj : TerminalSession}

theorem mapped_remove (hlookup : s.sessions.lookup id = some session)
    (hobj : s.objects[session]? = some obj) :
    mapped R (s.removeSession id) + (if R obj.retire = true then 1 else 0) = mapped R s := by
  have herase := AList.countValues_erase (fun session => (s.objects[session]?).any (R ·.retire)) hlookup
  rw [hobj, Option.any_some] at herase
  exact herase

theorem mapped_insert (hsound : s.Sound) (hnone : s.sessions.lookup obj.sessionID = none) :
    mapped R (s.insertSession obj) = mapped R s + (if R obj.retire = true then 1 else 0) := by
  unfold mapped insertSession
  dsimp only
  rw [AList.countValues_insert _ hnone, List.getElem?_concat_length, Option.any_some]
  congr 1
  refine AList.countValues_congr fun id' session' hlookup => ?_
  obtain ⟨obj', hobj', -⟩ := hsound id' session' hlookup
  rw [List.getElem?_append_left (List.getElem?_eq_some_iff.mp hobj').1]

theorem mapped_modify (hsound : s.Sound) (hlookup : s.sessions.lookup id = some session)
    (hobj : s.objects[session]? = some obj) (f : TerminalSession → TerminalSession) :
    mapped R (s.modify session f) + (if R obj.retire = true then 1 else 0) =
      mapped R s + (if R (f obj).retire = true then 1 else 0) := by
  have hupdate := AList.countValues_update hlookup (fun id' hlookup' => hsound.id_eq hlookup' hlookup)
    (p := fun n => (s.objects[n]?).any (R ·.retire))
    (q := fun n => ((s.modify session f).objects[n]?).any (R ·.retire)) fun n hne => ?_
  · rw [getElem?_modify, hobj, Option.map_some, Option.any_some, Option.any_some, if_pos rfl] at hupdate
    exact hupdate
  · rw [getElem?_modify]
    simp only [if_neg (Ne.symm hne), Option.map_id_fun', id_eq]

/-- An update that leaves alone what is to be cleaned up. -/
theorem mapped_touch (hf : ∀ obj, (f obj).retire = obj.retire) :
    mapped R (s.modify session f) = mapped R s := by
  refine AList.countValues_congr fun id' n hlookup => ?_
  rw [getElem?_modify]
  cases s.objects[n]? with
  | none => rfl
  | some obj =>
    rw [Option.map_some, Option.any_some, Option.any_some]
    split
    · rw [hf]
    · rfl

/-- The sessions that `cleanupExpiredSessions` takes. -/
theorem mapped_takeExpired {now : Int} {sessions : List Nat} (hperm : sessions.Perm (s.expired now)) :
    mapped R (s.takeExpired now) + (s.retireAll sessions).countP R = mapped R s := by
  have hretired : (s.retireAll sessions).countP R =
      (s.expired now).countP fun n => (s.objects[n]?).any (R ·.retire) := by
    rw [retireAll, List.countP_filterMap, hperm.countP_eq]
    refine List.countP_congr fun n _ => ?_
    cases s.objects[n]? <;> exact Iff.rfl
  rw [hretired]
  exact AList.countValues_filter _ (s.expires now) s.sessions

end Mapped

theorem ManagerState.Sound.remove (h : s.Sound) (id : String) : (s.removeSession id).Sound :=
  fun id' session hlookup => h id' session (AList.lookup_of_erase hlookup).2

variable {obj : TerminalSession}

/-! ## Places -/

/-- The places that calls have to give back. -/
def pendingPlaces (gs : List Phase) : Nat := (gs.map (·.frees)).sum

theorem le_pendingPlaces (hg : gs[i]? = some g) : g.frees ≤ pendingPlaces gs :=
  List.le_sum_of_mem (List.mem_map_of_mem (List.mem_of_getElem? hg))

/-- The number of active sessions: those in the map with a place, and the places that are
    still to be given back. -/
def PlacesCounted (s : ManagerState) (gs : List Phase) : Prop :=
  s.activeSessionReservations = mapped Retired.capacityReserved s + pendingPlaces gs

/-- What operations on leases leave alone. -/
structure Phase.SameDuties (g g' : Phase) : Prop where
  recovering : g'.recovering = g.recovering
  claim : g'.claim = g.claim
  holds : g'.holds = g.holds
  kills : g'.kills = g.kills
  frees : g'.frees = g.frees
  creating : g'.creating = g.creating
  hand : g'.hand = g.hand

/-- The sandboxes are the same but for their expiry. -/
def SameSandboxes (s s' : ManagerState) : Prop :=
  ∀ sandbox, (s'.remote.lookup sandbox).map (fun r => (r.created, r.kills)) =
    (s.remote.lookup sandbox).map fun r => (r.created, r.kills)

theorem lookup_modifyRemote (sandbox sandbox' : String) (f : RemoteSandbox → RemoteSandbox) :
    (s.modifyRemote sandbox f).remote.lookup sandbox' =
      (s.remote.lookup sandbox').map fun r => if sandbox' = sandbox then f r else r := by
  unfold modifyRemote
  cases hlookup : s.remote.lookup sandbox with
  | none =>
    dsimp only
    by_cases heq : sandbox' = sandbox
    · rw [heq, hlookup, Option.map_none]
    · simp only [if_neg heq, Option.map_id_fun', id]
  | some r =>
    dsimp only
    rw [AList.lookup_insert_ite]
    by_cases heq : sandbox' = sandbox
    · rw [if_pos heq, heq, hlookup, Option.map_some, if_pos rfl]
    · simp only [if_neg heq, Option.map_id_fun', id]

theorem mapped_modifyRemote (R : Retired → Bool) (sandbox : String) (f : RemoteSandbox → RemoteSandbox) :
    mapped R (s.modifyRemote sandbox f) = mapped R s := by
  unfold mapped
  rw [(modifyRemote_rest sandbox f).1, (modifyRemote_rest sandbox f).2.1]

theorem mapped_killSandbox (R : Retired → Bool) (sandbox : String) :
    mapped R (s.killSandbox sandbox) = mapped R s ∧
      (s.killSandbox sandbox).activeSessionReservations = s.activeSessionReservations :=
  ⟨mapped_modifyRemote R _ _, (modifyRemote_rest _ _).2.2.1⟩

/-- What operations on leases leave. -/
theorem LeaseEffect.frame (h : LeaseEffect g s o g' s') :
    g.SameDuties g' ∧ s'.activeSessionReservations = s.activeSessionReservations ∧
      (∀ R, mapped R s' = mapped R s) ∧ SameSandboxes s s' := by
  have hsame : SameSandboxes s s := fun _ => rfl
  have hexpire : ∀ (sandbox : String) (timeoutSec : Int), SameSandboxes s (s.expireIn sandbox timeoutSec) := by
    intro sandbox timeoutSec sandbox'
    unfold expireIn
    rw [lookup_modifyRemote]
    cases s.remote.lookup sandbox' with
    | none => rfl
    | some r =>
      rw [Option.map_some, Option.map_some, Option.map_some]
      split <;> rfl
  cases h with
  | idle | read | abandoned | planned =>
    exact ⟨⟨rfl, rfl, rfl, rfl, rfl, rfl, rfl⟩, rfl, fun _ => rfl, hsame⟩
  | readied | locked | unlocked | confirmed | recorded | adopted | readopted =>
    exact ⟨⟨rfl, rfl, rfl, rfl, rfl, rfl, rfl⟩, rfl, fun _ => mapped_touch fun _ => rfl, hsame⟩
  | extended | extendFailed | connected | connectFailed =>
    exact ⟨⟨rfl, rfl, rfl, rfl, rfl, rfl, rfl⟩, (modifyRemote_rest _ _).2.2.1,
      fun R => mapped_modifyRemote R _ _, hexpire _ _⟩

/-- The session that a call holds is in the map. -/
theorem Holding.session (h : Holding s gs) (hg : gs[i]? = some g) {session : Nat}
    (hholds : g.HoldsSession session) :
    ∃ id obj, s.sessions.lookup id = some session ∧ s.objects[session]? = some obj := by
  obtain ⟨claim, hc, rfl⟩ := hholds
  have hlookup := h.held g (List.mem_of_getElem? hg) claim hc
  obtain ⟨obj, hobj, -⟩ := h.sound _ _ hlookup
  exact ⟨_, obj, hlookup, hobj⟩

theorem giveBack_retire (destroys : Bool) (obj : TerminalSession) :
    (giveBack destroys obj).retire = obj.retire := by
  cases destroys <;> rfl

/-- A session of a call that gives back the last slot leaves the map. -/
theorem mapped_retired {R : Retired → Bool} {id : String} {session : Nat} (destroys : Bool)
    (hlookup : s.sessions.lookup id = some session) (hobj : s.objects[session]? = some obj) :
    mapped R ((s.modify session (giveBack destroys)).removeSession id) +
      (if R obj.retire = true then 1 else 0) = mapped R s := by
  have hobj' : (s.modify session (giveBack destroys)).objects[session]? =
      some (giveBack destroys obj) := by
    rw [getElem?_modify, hobj, Option.map_some, if_pos rfl]
  have hremove := mapped_remove (R := R) (s := s.modify session (giveBack destroys))
    hlookup hobj'
  rw [giveBack_retire, mapped_touch (giveBack_retire destroys)] at hremove
  exact hremove

/-- A session makes room for a new one. -/
theorem mapped_replaced {R : Retired → Bool} {id : String} {session : Nat} (leaseTarget : Int)
    (hsound : s.Sound) (hlookup : s.sessions.lookup id = some session)
    (hobj : s.objects[session]? = some obj) :
    mapped R ((s.removeSession id).insertSession (newSession id leaseTarget)) +
      (if R obj.retire = true then 1 else 0) =
      mapped R s + (if R ⟨none, true⟩ = true then 1 else 0) := by
  have hremove := mapped_remove (R := R) hlookup hobj
  have hinsert : mapped R ((s.removeSession id).insertSession (newSession id leaseTarget)) =
      mapped R (s.removeSession id) + (if R ⟨none, true⟩ = true then 1 else 0) :=
    mapped_insert (hsound.remove id) (AList.lookup_erase _ _)
  omega

variable {p : ManagerPool} {ok : ManagerPool → ManagerAction → Prop}

/-! ## Sessions that are created -/

/-- Two calls do not create the same session. -/
def Phase.CreatesApart (g g₂ : Phase) : Prop :=
  g.creating = true → g₂.creating = true → ∀ claim claim₂ : Claim, g.claim = some claim →
    g₂.claim = some claim₂ → claim.session ≠ claim₂.session

/-- The session that a call creates has no sandbox yet, and no other call creates it. -/
structure Creating (s : ManagerState) (gs : List Phase) : Prop where
  empty : ∀ g ∈ gs, g.creating = true → ∃ claim obj, g.Holds claim ∧
    s.objects[claim.session]? = some obj ∧ obj.sandbox = none
  apart : Separate Phase.CreatesApart gs

/-- The session that a call creates has no sandbox. -/
theorem Creating.sandbox_eq_none (h : Creating s gs) (hg : gs[i]? = some g)
    (hcreates : g.creating = true) {session : Nat} (hholds : g.HoldsSession session)
    (hobj : s.objects[session]? = some obj) : obj.sandbox = none := by
  obtain ⟨claim, obj', hclaimed, hobj', hempty⟩ := h.empty g (List.mem_of_getElem? hg) hcreates
  obtain ⟨claim₂, hclaimed₂, rfl⟩ := hholds
  obtain rfl := Option.mem_unique hclaimed.1 hclaimed₂.1
  obtain rfl := Option.mem_unique hobj hobj'
  exact hempty

theorem Phase.CreatesApart.symm {g₂ : Phase} (h : g.CreatesApart g₂) : g₂.CreatesApart g :=
  fun hc hc₂ claim claim₂ hclaim hclaim₂ => (h hc₂ hc claim₂ claim hclaim₂ hclaim).symm

/-- The call creates nothing, or what it created before. -/
def Phase.CreatesSame (g g' : Phase) : Prop :=
  g'.creating = true → g.creating = true ∧ g'.claim = g.claim ∧ g'.holds = g.holds

section Creating

section

variable (h : Creating s gs)

include h

/-- Objects are updated in place: those that are created keep having no sandbox. -/
theorem Creating.updates (hg : gs[i]? = some g) (hself : g.CreatesSame g')
    (hobjects : ∀ (j : Nat) (g₂ : Phase) (claim : Claim) (obj : TerminalSession), gs[j]? = some g₂ →
      (i ≠ j ∨ g'.creating = true) → g₂.creating = true → g₂.claim = some claim →
      s.objects[claim.session]? = some obj → obj.sandbox = none →
      ∃ obj', s'.objects[claim.session]? = some obj' ∧ obj'.sandbox = none) :
    Creating s' (gs.set i g') := by
  refine ⟨fun g₂ hg₂ hcreating => ?_, h.apart.set fun j g₂ hji hj => ?_⟩
  · rcases List.mem_set_cases hg₂ with rfl | ⟨j, hij, hj⟩
    · obtain ⟨hc, hclaim, hholds⟩ := hself hcreating
      obtain ⟨claim, obj, hclaimed, hobj, hnone⟩ := h.empty g (List.mem_of_getElem? hg) hc
      obtain ⟨obj', hobj', hnone'⟩ := hobjects i g claim obj hg (.inr hcreating) hc hclaimed.1 hobj hnone
      exact ⟨claim, obj', ⟨hclaim.trans hclaimed.1, hholds.trans hclaimed.2⟩, hobj', hnone'⟩
    · obtain ⟨claim, obj, hclaimed, hobj, hnone⟩ := h.empty g₂ (List.mem_of_getElem? hj) hcreating
      obtain ⟨obj', hobj', hnone'⟩ := hobjects j g₂ claim obj hj (.inl hij) hcreating hclaimed.1 hobj hnone
      exact ⟨claim, obj', hclaimed, hobj', hnone'⟩
  · have hapart : g'.CreatesApart g₂ := fun hc hc₂ claim claim₂ hclaim hclaim₂ => by
      obtain ⟨hc', hsame, -⟩ := hself hc
      exact h.apart i j g g₂ (Ne.symm hji) hg hj hc' hc₂ claim claim₂ (hsame ▸ hclaim) hclaim₂
    exact ⟨hapart, hapart.symm⟩

/-- The objects are the same. -/
theorem Creating.same (hg : gs[i]? = some g) (hobjects : s'.objects = s.objects)
    (hself : g.CreatesSame g') : Creating s' (gs.set i g') :=
  h.updates hg hself fun _ _ _ obj _ _ _ _ hobj hnone => ⟨obj, hobjects ▸ hobj, hnone⟩

/-- One session is updated, but not its sandbox. -/
theorem Creating.touch (hg : gs[i]? = some g) (session : Nat)
    (hf : ∀ obj, (f obj).sandbox = obj.sandbox) (hself : g.CreatesSame g') :
    Creating (s.modify session f) (gs.set i g') := by
  refine h.updates hg hself fun _ _ claim obj _ _ _ _ hobj hnone => ?_
  rw [getElem?_modify, hobj, Option.map_some]
  refine ⟨_, rfl, ?_⟩
  split
  · exact (hf obj).trans hnone
  · exact hnone

/-- The call publishes the sandbox of its session. -/
theorem Creating.publish (hg : gs[i]? = some g) {session : Nat} (hcreating : g.creating = true)
    (hholds : g.HoldsSession session) (hnot : g'.creating = false) :
    Creating (s.modify session f) (gs.set i g') := by
  obtain ⟨claim, hclaimed, rfl⟩ := hholds
  refine h.updates hg (fun hc => nomatch hnot.symm.trans hc) fun j g₂ claim₂ obj hj hother hc₂ hclaim₂ hobj hnone => ?_
  have hij := hother.resolve_right fun hc => nomatch hnot.symm.trans hc
  have hne := h.apart i j g g₂ hij hg hj hcreating hc₂ claim claim₂ hclaimed.1 hclaim₂
  refine ⟨obj, ?_, hnone⟩
  rw [getElem?_modify, hobj, Option.map_some, if_neg hne]

/-- A new session, that the call creates or that has a sandbox. -/
theorem Creating.insert {obj : TerminalSession}
    (hnew : g'.creating = true → obj.sandbox = none ∧ ∃ claim, g'.Holds claim ∧
      claim.session = s.objects.length) : Creating (s.insertSession obj) (gs.set i g') := by
  have hkept : ∀ (session : Nat) obj', s.objects[session]? = some obj' →
      (s.insertSession obj).objects[session]? = some obj' := fun session obj' hobj' =>
    List.getElem?_concat_of_some hobj'
  refine ⟨List.forall_mem_set (fun g₂ hg₂ hcreating => ?_) fun hcreating => ?_,
    h.apart.set fun j g₂ hji hj => ?_⟩
  · obtain ⟨claim, obj', hclaimed, hobj', hsandbox⟩ := h.empty g₂ hg₂ hcreating
    exact ⟨claim, obj', hclaimed, hkept _ obj' hobj', hsandbox⟩
  · obtain ⟨hsandbox, claim, hclaimed, hsession⟩ := hnew hcreating
    refine ⟨claim, obj, hclaimed, ?_, hsandbox⟩
    rw [hsession]
    exact List.getElem?_concat_length
  · -- Sessions that others create were there before.
    have hapart : g'.CreatesApart g₂ := fun hc hc₂ claim claim₂ hclaim hclaim₂ => by
      obtain ⟨-, claim', hclaimed', hsession⟩ := hnew hc
      obtain rfl := Option.mem_unique hclaim hclaimed'.1
      obtain ⟨claim₂', obj₂, hclaimed₂, hobj₂, -⟩ := h.empty g₂ (List.mem_of_getElem? hj) hc₂
      obtain rfl := Option.mem_unique hclaim₂ hclaimed₂.1
      have := (List.getElem?_eq_some_iff.mp hobj₂).1
      omega
    exact ⟨hapart, hapart.symm⟩

/-- Every effect keeps apart what is created. -/
theorem Creating.effect (hg : gs[i]? = some g) (heffect : ManagerEffect cfg g s o g' s') :
    Creating s' (gs.set i g') := by
  have hsame : ∀ {g₂ : Phase}, g₂.creating = g.creating → g₂.claim = g.claim → g₂.holds = g.holds →
      g.CreatesSame g₂ := fun hc hclaim hholds hcreating => ⟨hc ▸ hcreating, hclaim, hholds⟩
  have hnever : ∀ {g₂ : Phase}, g₂.creating = false → g.CreatesSame g₂ :=
    fun hnot hcreating => nomatch hnot.symm.trans hcreating
  have hremote : ∀ (sandbox : String) (f : RemoteSandbox → RemoteSandbox),
      (s.modifyRemote sandbox f).objects = s.objects := fun sandbox f => (modifyRemote_rest sandbox f).2.1
  cases heffect with
  | lease heffect =>
    cases heffect with
    | idle | read | abandoned | planned => exact h.same hg rfl (hsame rfl rfl rfl)
    | readied | locked | unlocked | confirmed | recorded | adopted | readopted =>
      exact h.touch hg _ (fun _ => rfl) (hsame rfl rfl rfl)
    | extended | extendFailed | connected | connectFailed =>
      exact h.same hg (hremote _ _) (hsame rfl rfl rfl)
  | slot heffect =>
    cases heffect with
    | @made _ id leaseTarget =>
      have hinserted : Creating (s.insertSession (newSession id leaseTarget))
          (gs.set i (g.take ⟨s.objects.length, id, true⟩)) :=
        h.insert fun _ => ⟨rfl, _, ⟨rfl, rfl⟩, rfl⟩
      exact ⟨hinserted.empty, hinserted.apart⟩
    | @replaced sessionID _ _ _ _ hfree =>
      have hremoved : Creating (s.removeSession sessionID) gs := ⟨h.empty, h.apart⟩
      exact hremoved.insert fun _ => ⟨rfl, ⟨s.objects.length, sessionID, true⟩, ⟨rfl, rfl⟩, rfl⟩
    | dropped hfree | expired hfree => exact h.same hg rfl (hnever hfree.idle.creating)
    | joined => exact h.touch hg _ (fun _ => rfl) (hnever rfl)
    | sandboxMade | freed => exact h.same hg rfl (hsame rfl rfl rfl)
    | published hallowed => exact h.publish hg hallowed.2.1 hallowed.1 rfl
    | released destroys ho hready =>
      exact h.touch hg _ (fun obj => by cases destroys <;> rfl) (hnever hready.idle.creating)
    | @retired _ _ destroys claim obj ho hready =>
      have hgiven : Creating (s.modify claim.session (giveBack destroys))
          (gs.set i (Phase.retire { g with holds := false } [obj.retire])) :=
        h.touch hg _ (fun obj => by cases destroys <;> rfl) (hnever hready.idle.creating)
      exact ⟨hgiven.empty, hgiven.apart⟩
    | killed | killedListed => exact h.same hg (hremote _ _) (hsame rfl rfl rfl)
    | @recovered sessionID sandbox leaseExpiresAt hallowed =>
      have hidle : g.creating = false := hallowed.2.2.2.2.1.creating
      have hinserted :
          Creating (s.insertSession (recoveredSession sessionID sandbox leaseExpiresAt))
            (gs.set i { g with adopting := none }) :=
        h.insert fun hcreating => nomatch hidle.symm.trans hcreating
      exact ⟨hinserted.empty, hinserted.apart⟩

end

/-- What is created has no sandbox, and is created by one call. -/
theorem creations_apart (h : (managerMachine lib cfg).ReachableWhere ok p) :
    Creating p.shared (phases p) := by
  refine manager_invariant (I := Creating) ?_ ?_ ?_ ?_ h
  · exact fun _ _ => ⟨(fun _ hg => nomatch hg), .nil⟩
  · intro p c _ ih
    have hidle := (free_start c).idle.creating
    refine ⟨List.forall_mem_concat ih.empty fun hcreating => (nomatch hidle.symm.trans hcreating),
      ih.apart.append_singleton fun g _ => ?_⟩
    exact ⟨fun _ hc => (nomatch hidle.symm.trans hc), fun hc => nomatch hidle.symm.trans hc⟩
  · exact fun p i ans g o g' p' _ _ ih hg _ heffect => ih.effect hg heffect
  · exact fun _ _ _ _ ih => ⟨ih.empty, ih.apart⟩

end Creating

/-! ## Sandboxes -/

/-- The session has the sandbox. -/
def owns (sandbox : String) (r : Retired) : Bool := r.sandbox = some sandbox

/-- How often a call keeps a sandbox: in its hands, or to kill it. -/
def Phase.keeps (sandbox : String) (g : Phase) : Nat :=
  (if g.hand.any (·.1 = sandbox) = true then 1 else 0) + g.kills.count sandbox

/-- The number of owners of a sandbox: sessions in the map, calls that put it into such a
    session, and kills that are pending. -/
def sandboxOwners (sandbox : String) (s : ManagerState) (gs : List Phase) : Nat :=
  mapped (owns sandbox) s + (gs.map (·.keeps sandbox)).sum

theorem count_retiredKills (sandbox : String) (retired : List Retired) :
    (retiredKills retired).count sandbox = retired.countP (owns sandbox) := by
  rw [retiredKills, List.count, List.countP_filterMap]
  refine List.countP_congr fun r _ => ?_
  cases hr : r.sandbox <;> simp [owns, hr]

variable {sandbox : String}

theorem keeps_retire {retired : List Retired} (hhand : g.hand = none) :
    (g.retire retired).keeps sandbox = retired.countP (owns sandbox) := by
  change (if g.hand.any _ = true then 1 else 0) + (retiredKills retired).count sandbox = _
  rw [hhand, count_retiredKills]
  exact Nat.zero_add _

theorem keeps_clean (hclean : g.Clean) (hhand : g.hand = none) : g.keeps sandbox = 0 := by
  rw [← Phase.retire_clean hclean, keeps_retire hhand, List.countP_nil]

theorem keeps_congr (hhand : g'.hand = g.hand) (hkills : g'.kills = g.kills) :
    g'.keeps sandbox = g.keeps sandbox := by
  unfold Phase.keeps
  rw [hhand, hkills]

theorem sameSandboxes_refl (s : ManagerState) : SameSandboxes s s := fun _ => rfl

/-! ## What an effect moves -/

theorem keeps_hand {sandbox sandbox' : String} {promised : Int} (h : g.hand = some (sandbox, promised)) :
    g.keeps sandbox' = (if sandbox = sandbox' then 1 else 0) + g.kills.count sandbox' := by
  unfold Phase.keeps
  rw [h, Option.any_some]
  simp only [decide_eq_true_eq]

theorem keeps_empty (h : g.hand = none) : g.keeps sandbox = g.kills.count sandbox := by
  unfold Phase.keeps
  rw [h]
  exact Nat.zero_add _

/-- What came into the map was the call's, and what went is. -/
structure SlotMove (g g' : Phase) (s s' : ManagerState) (came gone : List Retired) : Prop where
  mapped : ∀ R, mapped R s' + gone.countP R = mapped R s + came.countP R
  places : g.frees ≤ s.activeSessionReservations →
    s'.activeSessionReservations + g.frees + gone.countP Retired.capacityReserved =
      s.activeSessionReservations + g'.frees + came.countP Retired.capacityReserved
  keeps : ∀ sandbox, g'.keeps sandbox + came.countP (owns sandbox) =
    g.keeps sandbox + gone.countP (owns sandbox)
  kills : ∀ sandbox, g.kills.count sandbox ≤ g'.kills.count sandbox
  adopting : g'.adopting = g.adopting
  recovering : g'.recovering = g.recovering
  remote : ∀ sandbox, s'.remote.lookup sandbox = none → s.remote.lookup sandbox = none
  same : g.recovering = false → SameSandboxes s s'

/-- A call retires sessions. -/
theorem slotMove_retire {k : Phase} {came gone retired : List Retired} (hclean : g.Clean) (hhand : g.hand = none)
    (hmapped : ∀ R, mapped R s' + gone.countP R = mapped R s + came.countP R)
    (hempty : ∀ sandbox, came.countP (owns sandbox) = 0)
    (howned : ∀ sandbox, retired.countP (owns sandbox) = gone.countP (owns sandbox))
    (hplaces : gone.countP Retired.capacityReserved = retiredFrees retired + came.countP Retired.capacityReserved)
    (hactive : s'.activeSessionReservations = s.activeSessionReservations)
    (hremote : s'.remote = s.remote) (hk : k.hand = g.hand ∧ k.adopting = g.adopting ∧ k.recovering = g.recovering) :
    SlotMove g (k.retire retired) s s' came gone where
  mapped := hmapped
  places _ := by
    have hfrees := hclean.2
    change _ + _ + _ = _ + retiredFrees retired + _
    omega
  keeps sandbox := by
    rw [keeps_retire (hk.1.trans hhand), keeps_clean hclean hhand, hempty, howned]
    omega
  kills sandbox := by
    rw [hclean.1]
    exact Nat.zero_le _
  adopting := hk.2.1
  recovering := hk.2.2
  remote _ hnone := hremote ▸ hnone
  same _ _ := by rw [hremote]

section

variable (hholding : Holding s gs) (hcreating : Creating s gs) (hg : gs[i]? = some g)

include hholding hcreating hg

/-- What an effect on slots moves, if it does not create, kill or adopt a sandbox. -/
theorem SlotEffect.moves (h : SlotEffect cfg g s o g' s') :
    (∃ came gone, SlotMove g g' s s' came gone) ∨
    (∃ sandbox promised r, g.hand = none ∧ s.remote.lookup sandbox = none ∧ r.created = true ∧ r.kills = 0 ∧
      g' = { g with hand := some (sandbox, promised) } ∧
      s' = { s with remote := s.remote.insert sandbox r }) ∨
    (∃ sandbox rest, g.kills = sandbox :: rest ∧ g' = { g with kills := rest } ∧ s' = s.killSandbox sandbox) ∨
    ∃ sessionID sandbox leaseExpiresAt,
      g.Allowed (.recoverInsert sessionID sandbox leaseExpiresAt) ∧ s.sessions.lookup sessionID = none ∧
      g' = { g with adopting := none } ∧
      s' = (s.insertSession (recoveredSession sessionID sandbox leaseExpiresAt)).reserve := by
  have hsame := sameSandboxes_refl s
  have hplace : ∀ {session : Nat} {obj : TerminalSession}, s.objects[session]? = some obj →
      [obj.retire].countP Retired.capacityReserved = 1 :=
    fun hobj => List.countP_singleton.trans (if_pos (hholding.reserved _ _ hobj))
  cases h with
  | @made _ id leaseTarget _ hfree hnone _ =>
    refine .inl ⟨[⟨none, true⟩], [], fun R => ?_, fun _ => ?_, fun _ => rfl, fun _ => Nat.le_refl _, rfl, rfl,
      fun _ hnone => hnone, fun _ => hsame⟩
    · exact (mapped_insert hholding.sound hnone).trans (congrArg _ List.countP_singleton.symm)
    · change s.activeSessionReservations + 1 + g.frees = s.activeSessionReservations + g.frees + 1
      omega
  | @replaced sessionID leaseTarget _ session obj hfree hlookup hobj hunused hreserved =>
    refine .inl ⟨[⟨none, true⟩], [obj.retire], slotMove_retire (k := g.take _) hfree.clean hfree.idle.hand
      (fun R => ?_) (fun _ => rfl) (fun _ => ?_) (hplace hobj) rfl rfl ⟨rfl, rfl, rfl⟩⟩
    · rw [List.countP_singleton, List.countP_singleton]
      exact mapped_replaced leaseTarget hholding.sound hlookup hobj
    · rw [List.countP_singleton, List.countP_singleton]
      rfl
  | @dropped sessionID _ _ session obj hfree hlookup hobj hunused =>
    refine .inl ⟨[], [obj.retire], slotMove_retire hfree.clean hfree.idle.hand (fun R => ?_) (fun _ => rfl)
      (fun _ => rfl) rfl rfl rfl ⟨rfl, rfl, rfl⟩⟩
    rw [List.countP_singleton]
    exact mapped_remove hlookup hobj
  | joined =>
    exact .inl ⟨[], [], fun _ => mapped_touch fun _ => rfl, fun _ => rfl, fun _ => rfl, fun _ => Nat.le_refl _,
      rfl, rfl, fun _ hnone => hnone, fun _ => hsame⟩
  | sandboxMade hallowed hfresh =>
    exact .inr (.inl ⟨_, _, _, hallowed.2.2.1, hfresh, rfl, rfl, rfl, rfl⟩)
  | @published session created leaseExpiresAt obj hallowed hobj =>
    obtain ⟨hholds, hcreates, -, -, hpublishes⟩ := hallowed
    obtain ⟨id, -, hlookup, -⟩ := hholding.session hg hholds
    have hempty := hcreating.sandbox_eq_none hg hcreates hholds hobj
    have hretire : (publish created leaseExpiresAt obj).retire =
        ⟨created.toOption, obj.capacityReserved⟩ := by cases created <;> rfl
    refine .inl ⟨[⟨created.toOption, obj.capacityReserved⟩], [obj.retire], fun R => ?_, fun _ => ?_,
      fun sandbox => ?_, fun _ => Nat.le_refl _, rfl, rfl, fun _ hnone => hnone, fun _ => hsame⟩
    · rw [List.countP_singleton, List.countP_singleton, ← hretire]
      exact mapped_modify hholding.sound hlookup hobj _
    · rw [List.countP_singleton, List.countP_singleton]
      rfl
    · rw [List.countP_singleton, List.countP_singleton, keeps_empty (g := { g with creating := false, hand := none }) rfl]
      cases created with
      | error err =>
        rw [keeps_empty hpublishes]
        simp [owns, TerminalSession.retire, hempty, Except.toOption]
      | ok created =>
        obtain ⟨now, hhand⟩ := hpublishes
        rw [keeps_hand hhand]
        simp [owns, TerminalSession.retire, hempty, Except.toOption]
        omega
  | released destroys =>
    exact .inl ⟨[], [], fun _ => mapped_touch (giveBack_retire destroys), fun _ => rfl, fun _ => rfl,
      fun _ => Nat.le_refl _, rfl, rfl, fun _ hnone => hnone, fun _ => hsame⟩
  | @retired _ sessionID destroys claim obj ho hready hid hlookup hobj hlast =>
    refine .inl ⟨[], [obj.retire], slotMove_retire (k := { g with holds := false }) hready.clean hready.idle.hand
      (fun R => ?_) (fun _ => rfl) (fun _ => rfl) rfl rfl rfl ⟨rfl, rfl, rfl⟩⟩
    rw [List.countP_singleton]
    exact mapped_retired destroys hlookup hobj
  | @expired now sessions hfree hperm =>
    exact .inl ⟨[], _, slotMove_retire hfree.clean hfree.idle.hand (fun R => mapped_takeExpired hperm) (fun _ => rfl)
      (fun _ => rfl) rfl rfl rfl ⟨rfl, rfl, rfl⟩⟩
  | freed hfrees =>
    refine .inl ⟨[], [], fun _ => rfl, fun hle => ?_, fun _ => rfl, fun _ => Nat.le_refl _, rfl, rfl,
      fun _ hnone => hnone, fun _ => hsame⟩
    change s.activeSessionReservations - 1 + g.frees = s.activeSessionReservations + (g.frees - 1)
    omega
  | killed hkills => exact .inr (.inr (.inl ⟨_, _, hkills, rfl, rfl⟩))
  | @killedListed sandbox hrec =>
    refine .inl ⟨[], [], fun R => (mapped_killSandbox R sandbox).1, fun _ => ?_, fun _ => rfl,
      fun _ => Nat.le_refl _, rfl, rfl, fun sandbox' hnone => ?_, fun hnot => nomatch hnot.symm.trans hrec⟩
    · rw [(mapped_killSandbox (fun _ => true) sandbox).2]
    · unfold ManagerState.killSandbox at hnone
      rwa [lookup_modifyRemote, Option.map_eq_none_iff] at hnone
  | recovered hallowed hnone => exact .inr (.inr (.inr ⟨_, _, _, hallowed, hnone, rfl, rfl⟩))

/-! ## Places in every run -/

/-- One effect on slots keeps the places counted. -/
theorem PlacesCounted.slot (h : PlacesCounted s gs) (heffect : SlotEffect cfg g s o g' s') :
    PlacesCounted s' (gs.set i g') := by
  have hsum : pendingPlaces (gs.set i g') + g.frees = pendingPlaces gs + g'.frees :=
    List.sum_map_set_add (·.frees) hg
  have hle := le_pendingPlaces hg
  unfold PlacesCounted at h ⊢
  rcases heffect.moves hholding hcreating hg with ⟨came, gone, hmove⟩ | ⟨sandbox, _, _, -, -, -, -, rfl, rfl⟩ |
    ⟨sandbox, rest, -, rfl, rfl⟩ | ⟨sessionID, sandbox, leaseExpiresAt, -, hnone, rfl, rfl⟩
  · have hmapped := hmove.mapped Retired.capacityReserved
    have hplaces := hmove.places (by omega)
    omega
  · change _ = _ + g.frees at hsum
    change s.activeSessionReservations = mapped Retired.capacityReserved s + _
    omega
  · obtain ⟨hmapped, hactive⟩ := mapped_killSandbox (s := s) Retired.capacityReserved sandbox
    change _ = _ + g.frees at hsum
    omega
  · have hinsert : mapped Retired.capacityReserved
        (s.insertSession (recoveredSession sessionID sandbox leaseExpiresAt)) =
        mapped Retired.capacityReserved s + 1 := mapped_insert hholding.sound hnone
    change _ = _ + g.frees at hsum
    change s.activeSessionReservations + 1 = mapped _ (s.insertSession _) + _
    omega

/-- One effect keeps the places counted. -/
theorem PlacesCounted.effect (h : PlacesCounted s gs) (heffect : ManagerEffect cfg g s o g' s') :
    PlacesCounted s' (gs.set i g') := by
  cases heffect with
  | slot heffect => exact h.slot hholding hcreating hg heffect
  | lease heffect =>
    obtain ⟨hduties, hactive, hmapped, -⟩ := heffect.frame
    have hsum : pendingPlaces (gs.set i g') + g.frees = pendingPlaces gs + g'.frees :=
      List.sum_map_set_add (·.frees) hg
    have hfrees := hduties.frees
    unfold PlacesCounted at h ⊢
    rw [hactive, hmapped]
    omega

end

/-- Places are counted right in every run. -/
theorem places_counted (h : (managerMachine lib cfg).ReachableWhere ok p) :
    PlacesCounted p.shared (phases p) := by
  refine manager_invariant (I := PlacesCounted) ?_ ?_ ?_ ?_ h
  · rintro s ⟨remote, clock, -, rfl⟩
    rfl
  · intro p c _ ih
    have hfrees : c.start.frees = 0 := (free_start c).clean.2
    unfold PlacesCounted pendingPlaces at ih ⊢
    rw [List.map_append, List.sum_append, List.map_singleton, List.sum_singleton, hfrees]
    exact ih
  · intro p i ans g o g' p' hreach _ ih hg _ heffect
    exact ih.effect (managerHolding hreach) (creations_apart hreach) hg heffect
  · exact fun _ _ _ _ ih => ih

/-! ## Owners -/

/-- No call recovers, and a sandbox that was created here has one owner until it is killed;
    others have none. -/
structure Owned (s : ManagerState) (gs : List Phase) : Prop where
  calls : ∀ g ∈ gs, g.recovering = false
  once : ∀ sandbox r, s.remote.lookup sandbox = some r → r.created = true →
    sandboxOwners sandbox s gs + r.kills = 1
  others : ∀ sandbox, (∀ r, s.remote.lookup sandbox = some r → r.created = false) →
    sandboxOwners sandbox s gs = 0

section Owned

variable {sandbox : String}

/-- What changes hands has as many owners as before. -/
theorem sandboxOwners_moves (hg : gs[i]? = some g)
    (hmoves : mapped (owns sandbox) s' + g'.keeps sandbox = mapped (owns sandbox) s + g.keeps sandbox) :
    sandboxOwners sandbox s' (gs.set i g') = sandboxOwners sandbox s gs := by
  have hsum := List.sum_map_set_add (fun g : Phase => g.keeps sandbox) hg (b := g')
  unfold sandboxOwners
  omega

section

variable (h : Owned s gs) (hg : gs[i]? = some g)

include h hg

theorem Owned.calls_set (hrec : g'.recovering = g.recovering) :
    ∀ g₂ ∈ gs.set i g', g₂.recovering = false :=
  List.forall_mem_set h.calls (hrec.trans (h.calls g (List.mem_of_getElem? hg)))

/-- Sandboxes change hands, but none is created or killed. -/
theorem Owned.moves (hrec : g'.recovering = g.recovering)
    (hmoves : ∀ sandbox, mapped (owns sandbox) s' + g'.keeps sandbox =
      mapped (owns sandbox) s + g.keeps sandbox)
    (hsame : SameSandboxes s s') : Owned s' (gs.set i g') := by
  refine ⟨h.calls_set hg hrec, fun sandbox r' hr' hcreated => ?_, fun sandbox hnot => ?_⟩
  · have hlookup := hsame sandbox
    rw [hr'] at hlookup
    obtain ⟨r, hr, hrr⟩ := Option.map_eq_some_iff.mp hlookup.symm
    obtain ⟨hcreated', hkills⟩ := Prod.mk.inj hrr
    rw [sandboxOwners_moves hg (hmoves sandbox), ← hkills]
    exact h.once sandbox r hr (hcreated'.trans hcreated)
  · rw [sandboxOwners_moves hg (hmoves sandbox)]
    refine h.others sandbox fun r hr => ?_
    have hlookup := hsame sandbox
    rw [hr] at hlookup
    obtain ⟨r', hr', hrr⟩ := Option.map_eq_some_iff.mp hlookup
    rw [← (Prod.mk.inj hrr).1]
    exact hnot r' hr'

/-- A sandbox is created, in the hands of the call. -/
theorem Owned.create {promised : Int} {r : RemoteSandbox}
    (hhand : g.hand = none) (hfresh : s.remote.lookup sandbox = none) (hcreated : r.created = true)
    (hkills : r.kills = 0) :
    Owned { s with remote := s.remote.insert sandbox r }
      (gs.set i { g with hand := some (sandbox, promised) }) := by
  have hsum : ∀ sandbox', sandboxOwners sandbox' { s with remote := s.remote.insert sandbox r }
      (gs.set i { g with hand := some (sandbox, promised) }) =
      sandboxOwners sandbox' s gs + (if sandbox = sandbox' then 1 else 0) := fun sandbox' => by
    have hadd := List.sum_map_set_add (fun g : Phase => g.keeps sandbox') hg
      (b := { g with hand := some (sandbox, promised) })
    rw [keeps_hand (g := { g with hand := some (sandbox, promised) }) rfl, keeps_empty hhand] at hadd
    change mapped (owns sandbox') s + _ = _
    unfold sandboxOwners
    dsimp only at hadd ⊢
    omega
  refine ⟨h.calls_set hg rfl, fun sandbox' r' hr' hcreated' => ?_, fun sandbox' hnot => ?_⟩
  · rw [hsum]
    rcases AList.lookup_insert_cases hr' with ⟨heq, rfl⟩ | ⟨hne, hr'⟩
    · rw [heq, if_pos rfl, hkills, h.others sandbox fun r hr => nomatch hfresh.symm.trans hr]
    · rw [if_neg (Ne.symm hne)]
      exact h.once sandbox' r' hr' hcreated'
  · have hne : sandbox' ≠ sandbox := fun heq => by
      have := hnot r (by rw [AList.lookup_insert_ite, if_pos heq])
      nomatch this.symm.trans hcreated
    rw [hsum, if_neg (Ne.symm hne)]
    refine h.others sandbox' fun r' hr' => hnot r' ?_
    rw [AList.lookup_insert_ite, if_neg hne]
    exact hr'

/-- A sandbox is killed by the call that has to. -/
theorem Owned.kill {rest : List String} (hkills : g.kills = sandbox :: rest) :
    Owned (s.killSandbox sandbox) (gs.set i { g with kills := rest }) := by
  have hsum : ∀ sandbox', sandboxOwners sandbox' (s.killSandbox sandbox) (gs.set i { g with kills := rest }) +
      (if sandbox = sandbox' then 1 else 0) = sandboxOwners sandbox' s gs := fun sandbox' => by
    have hadd := List.sum_map_set_add (fun g : Phase => g.keeps sandbox') hg (b := { g with kills := rest })
    have hkeeps : g.keeps sandbox' =
        Phase.keeps sandbox' { g with kills := rest } + (if sandbox = sandbox' then 1 else 0) := by
      unfold Phase.keeps
      rw [hkills, List.count_cons]
      simp only [beq_iff_eq]
      omega
    have hmapped := (mapped_killSandbox (s := s) (owns sandbox') sandbox).1
    unfold sandboxOwners
    omega
  have hlookup : ∀ sandbox', (s.killSandbox sandbox).remote.lookup sandbox' =
      (s.remote.lookup sandbox').map fun r => if sandbox' = sandbox then { r with kills := r.kills + 1 } else r :=
    fun sandbox' => lookup_modifyRemote _ _ _
  refine ⟨h.calls_set hg rfl, fun sandbox' r' hr' hcreated => ?_, fun sandbox' hnot => ?_⟩
  · have hbefore := hsum sandbox'
    rw [hlookup] at hr'
    obtain ⟨r, hr, rfl⟩ := Option.map_eq_some_iff.mp hr'
    split at hcreated
    · rename_i heq
      have honce := h.once sandbox' r hr hcreated
      rw [if_pos heq.symm] at hbefore
      rw [if_pos heq]
      change _ + (r.kills + 1) = 1
      omega
    · rename_i hne
      have honce := h.once sandbox' r hr hcreated
      rw [if_neg hne]
      rw [if_neg (Ne.symm hne)] at hbefore
      omega
  · have hzero := h.others sandbox' fun r hr => by
      have := hnot _ ((hlookup sandbox').trans (congrArg _ hr))
      split at this <;> exact this
    have := hsum sandbox'
    omega

/-- One effect on slots: sandboxes change hands. -/
theorem Owned.slot (hholding : Holding s gs) (hcreating : Creating s gs)
    (heffect : SlotEffect cfg g s o g' s') : Owned s' (gs.set i g') := by
  have hnot := h.calls g (List.mem_of_getElem? hg)
  rcases heffect.moves hholding hcreating hg with ⟨came, gone, hmove⟩ |
    ⟨sandbox, promised, r, hhand, hfresh, hcreated, hkills, rfl, rfl⟩ | ⟨sandbox, rest, hkills, rfl, rfl⟩ |
    ⟨sessionID, sandbox, leaseExpiresAt, hallowed, -⟩
  · refine h.moves hg hmove.recovering (fun sandbox => ?_) (hmove.same hnot)
    have hmapped := hmove.mapped (owns sandbox)
    have hkeeps := hmove.keeps sandbox
    omega
  · exact h.create hg hhand hfresh hcreated hkills
  · exact h.kill hg hkills
  · nomatch hnot.symm.trans hallowed.1

/-- One effect: sandboxes change hands. -/
theorem Owned.effect (hholding : Holding s gs) (hcreating : Creating s gs)
    (heffect : ManagerEffect cfg g s o g' s') : Owned s' (gs.set i g') := by
  cases heffect with
  | slot heffect => exact h.slot hg hholding hcreating heffect
  | lease heffect =>
    obtain ⟨hduties, -, hmapped, hsame⟩ := heffect.frame
    refine h.moves hg hduties.recovering (fun sandbox => ?_) hsame
    rw [hmapped, keeps_congr hduties.hand hduties.kills]

end

/-- Calls that have a sandbox in their hands have a session to put it into. -/
def HandsCreate (gs : List Phase) : Prop := ∀ g ∈ gs, g.hand ≠ none → g.creating = true

theorem HandsCreate.effect (h : HandsCreate gs) (hg : gs[i]? = some g)
    (heffect : ManagerEffect cfg g s o g' s') : HandsCreate (gs.set i g') := by
  have hbefore := h g (List.mem_of_getElem? hg)
  have hself : g'.hand ≠ none → g'.creating = true := by
    cases heffect with
    | lease heffect =>
      obtain ⟨hduties, -⟩ := heffect.frame
      rw [hduties.hand, hduties.creating]
      exact hbefore
    | slot heffect =>
      cases heffect with
      | made hfree | replaced hfree | dropped hfree | joined hfree | expired hfree =>
        exact fun hhand => absurd hfree.idle.hand hhand
      | sandboxMade hallowed => exact fun _ => hallowed.2.1
      | published => exact fun hhand => absurd rfl hhand
      | released _ _ hready | retired _ _ hready =>
        exact fun hhand => absurd hready.idle.hand hhand
      | freed | killed | killedListed | recovered => exact hbefore
  exact List.forall_mem_set h hself

/-- The step does not start a call of `Recover`. -/
def NoRecovery (_ : ManagerPool) (a : ManagerAction) : Prop :=
  ∀ candidates, a ≠ .spawn (.recover candidates)

/-- Without recovery every sandbox has one owner until it is killed, and is killed once. -/
theorem sandboxes_owned (h : (managerMachine lib cfg).ReachableWhere NoRecovery p) :
    Owned p.shared (phases p) := by
  refine manager_invariant (I := Owned) ?_ ?_ ?_ ?_ h
  · rintro s ⟨remote, clock, hnone, rfl⟩
    refine ⟨(fun _ hg => nomatch hg), fun sandbox r hr hcreated => ?_, fun _ _ => rfl⟩
    nomatch (hnone sandbox r hr).symm.trans hcreated
  · intro p c hok ih
    have hnot : c.start.recovering = false := by
      cases c with
      | recover candidates => exact absurd rfl (hok candidates)
      | _ => rfl
    have hsum : ∀ sandbox, sandboxOwners sandbox p.shared (phases p ++ [c.start]) =
        sandboxOwners sandbox p.shared (phases p) := fun sandbox => by
      unfold sandboxOwners
      rw [List.sum_map_concat, keeps_clean (free_start c).clean (free_start c).idle.hand, Nat.add_zero]
    refine ⟨List.forall_mem_concat ih.calls hnot, fun sandbox r hr hcreated => ?_,
      fun sandbox hnone => ?_⟩
    · rw [hsum]
      exact ih.once sandbox r hr hcreated
    · rw [hsum]
      exact ih.others sandbox hnone
  · intro p i ans g o g' p' hreach _ ih hg _ heffect
    exact ih.effect hg (managerHolding hreach) (creations_apart hreach) heffect
  · exact fun _ _ _ _ ih => ⟨ih.calls, ih.once, ih.others⟩

theorem hands_create (h : (managerMachine lib cfg).ReachableWhere ok p) :
    HandsCreate (phases p) := by
  refine manager_invariant (I := fun _ => HandsCreate) ?_ ?_ ?_ ?_ h
  · exact fun _ _ _ hg => nomatch hg
  · exact fun p c _ ih => List.forall_mem_concat ih fun hhand => absurd (free_start c).idle.hand hhand
  · exact fun p i ans g o g' p' _ _ ih hg _ heffect => ih.effect hg heffect
  · exact fun _ _ _ _ ih => ih

end Owned

/-- An operation other than the insertion of a recovered session makes no session beyond
    the limit. -/
theorem ManagerEffect.within_limit (h : ManagerEffect cfg g s o g' s')
    (hnot : ∀ sessionID sandbox leaseExpiresAt, o ≠ .recoverInsert sessionID sandbox leaseExpiresAt)
    (hraised : s.activeSessionReservations < s'.activeSessionReservations)
    (hlimit : 0 < cfg.maxActiveSessions) :
    (s'.activeSessionReservations : Int) ≤ cfg.maxActiveSessions := by
  cases h with
  | lease h =>
    obtain ⟨-, hsame, -⟩ := h.frame
    omega
  | slot h =>
    have hremote : ∀ sandbox f, (s.modifyRemote sandbox f).activeSessionReservations =
        s.activeSessionReservations := fun sandbox f => (modifyRemote_rest sandbox f).2.2.1
    cases h with
    | made hfree hnone havailable =>
      change ((s.activeSessionReservations + 1 : Nat) : Int) ≤ _
      rw [capacityAvailableLocked, decide_eq_true_eq] at havailable
      omega
    | recovered => exact absurd rfl (hnot _ _ _)
    | freed =>
      change s.activeSessionReservations < s.activeSessionReservations - 1 at hraised
      omega
    | killed | killedListed => exact absurd hraised (Nat.not_lt.mpr (Nat.le_of_eq (hremote _ _)))
    | replaced | dropped | joined | sandboxMade | published | released | retired | expired =>
      exact absurd hraised (Nat.lt_irrefl _)

/-! ## Accounts -/

/-- In every run: the slots of a session in the map are those of the calls that hold it, and
    the session of such a call is in the map. The active sessions are those in the map with
    a place and the places that are still to be given back; a place that is given back is
    there, and a claim takes none beyond the limit. Without recovery a sandbox that was
    created has one owner until it is killed, and is killed once: a session in the map, a
    pending kill, or, until it is published, the call that creates such a session. -/
theorem sessions_accounted (lib : E2BLib) (cfg : ManagerSettings) (p : ManagerPool)
    (h : (managerMachine lib cfg).Reachable p) :
    (∀ id session obj, p.shared.sessions.lookup id = some session →
      p.shared.objects[session]? = some obj →
      obj.inflight = (phases p).countP (·.holdsSession session)) ∧
    (∀ g ∈ phases p, ∀ claim, g.Holds claim →
      p.shared.sessions.lookup claim.sessionID = some claim.session) ∧
    p.shared.activeSessionReservations =
      mapped Retired.capacityReserved p.shared + pendingPlaces (phases p) ∧
    (∀ i, p.nextOp i = some .releaseReservation → 0 < p.shared.activeSessionReservations) ∧
    (∀ i ans o p', p.nextOp i = some o →
      (∀ sessionID sandbox leaseExpiresAt, o ≠ .recoverInsert sessionID sandbox leaseExpiresAt) →
      (managerMachine lib cfg).step p (.run i ans) = some p' →
      p.shared.activeSessionReservations < p'.shared.activeSessionReservations →
      0 < cfg.maxActiveSessions → (p'.shared.activeSessionReservations : Int) ≤ cfg.maxActiveSessions) ∧
    ((managerMachine lib cfg).ReachableWhere NoRecovery p →
      (∀ sandbox r, p.shared.remote.lookup sandbox = some r → r.created = true →
        sandboxOwners sandbox p.shared (phases p) + r.kills = 1) ∧
      ∀ g ∈ phases p, ∀ sandbox promised, g.hand = some (sandbox, promised) →
        ∃ claim obj, g.Holds claim ∧ p.shared.sessions.lookup claim.sessionID = some claim.session ∧
          p.shared.objects[claim.session]? = some obj ∧ obj.sandbox = none) := by
  have hholding := managerHolding h
  have hplaces := places_counted h
  refine ⟨hholding.inflight, hholding.held, hplaces, fun i hnext => ?_, fun i ans o p' hnext hnot hs => ?_,
    fun hno => ⟨(sandboxes_owned hno).once, fun g hg sandbox promised hhand => ?_⟩⟩
  · obtain ⟨g, hg, hfrees⟩ := allowed_of_nextOp h hnext
    have hfrees : 0 < g.frees := hfrees
    have hle := le_pendingPlaces hg
    rw [hplaces]
    omega
  · rcases manager_cases h hs with ⟨c, ha, -⟩ |
      ⟨i', ans', g, o', g', ha, -, hnext', -, heffect, -⟩ | ⟨now, -, hshared, -⟩
    · nomatch ha
    · obtain ⟨rfl, rfl⟩ := PoolAction.run.inj ha
      obtain rfl := Option.mem_unique hnext hnext'
      exact heffect.within_limit hnot
    · rw [hshared]
      exact fun hraised => absurd hraised (Nat.lt_irrefl _)
  · have hcreating := hands_create h g hg fun hnone => nomatch hnone.symm.trans hhand
    obtain ⟨claim, obj, hclaimed, hobj, hempty⟩ := (creations_apart h).empty g hg hcreating
    exact ⟨claim, obj, hclaimed, hholding.held g hg claim hclaimed, hobj, hempty⟩

/-! ## A run -/

/-- `NoRecovery`, as a test. -/
def noRecovery (_ : ManagerPool) : ManagerAction → Bool
  | .spawn (.recover _) => false
  | _ => true

theorem noRecovery_of_eq_true {a : ManagerAction} (h : noRecovery p a = true) :
    NoRecovery p a := by
  rintro candidates rfl
  nomatch h

/-- A call of `Execute` that creates the session "s" with the sandbox "b", and ends. -/
def executeSample : List ManagerAnswer :=
  [.none, .none, .none, .none, .created (.ok "b"), .none, .none, .none, .none, .none, .none,
    .ran (.ok {}), .none, .none]

/-- The lease of the session is over when a second call claims it: a new session has its
    place, and the second call has its sandbox to kill. -/
theorem sessions_accounted_replaced :
    ∃ p r, (managerMachine .sample .sample).ReachableWhere NoRecovery p ∧
      p.shared.sessions.lookup "s" = some 1 ∧ p.shared.remote.lookup "b" = some r ∧
      (phases p)[1]?.map Phase.kills = some ["b"] ∧ p.shared.activeSessionReservations = 1 ∧
      sandboxOwners "b" p.shared (phases p) + r.kills = 1 := by
  have hrun := Machine.reachableWhere_runWhere noRecovery (fun _ _ => noRecovery_of_eq_true)
    ([.spawn (.execute { command := "x", sessionID := "s", createIfMissing := true } none)] ++
      ManagerAction.runs 0 executeSample ++ [.env (.tick 400000),
      .spawn (.execute { command := "x", sessionID := "s", createIfMissing := true } none)] ++
      ManagerAction.runs 1 [.none, .none])
    (ManagerPool.fresh_reachable .sample .sample) rfl
  have haccounts := sessions_accounted .sample .sample _ (hrun.mono fun _ _ _ => trivial)
  exact ⟨_, _, hrun, rfl, rfl, rfl, rfl, (haccounts.2.2.2.2.2 hrun).1 "b" _ rfl rfl⟩

end Onlyboxes.E2B
