import Onlyboxes.Spec.DockerSteps

/-!
# The slots and the capacity of the Docker worker

Calls take and give back slots of sessions, and a session takes and gives back a place
among the active sessions. Slots are given back by the id of the session, and a call that
joined a session which is marked meanwhile goes without giving back its slot.

## Key results

- `reservations_counted`: places are counted right in every run, and each is that of a
  session in the map or of one that a call is cleaning up
- `slots_accounted`: if no call finds its session marked and each gives back the slot it
  took, slots are counted right too, and nothing stays behind
- `slot_leaks`: a run after which a session is marked for ever
-/

namespace Onlyboxes.Docker

open Text Worker

open ManagerState

variable {lib : DockerLib} {cfg : ManagerSettings} {g g' : Phase} {s s' : ManagerState} {o : ManagerOp}

/-! ## Places -/

/-- The number of active sessions is counted right, and each is in the map or being cleaned
    up by a call. -/
structure Reserved (s : ManagerState) (gs : List Phase) : Prop where
  count : s.activeSessionReservations = s.objects.countP (·.capacityReserved)
  owned : ∀ session obj, s.objects[session]? = some obj → obj.capacityReserved = true →
    s.sessions.lookup obj.sessionID = some session ∨ ∃ g ∈ gs, ∃ r ∈ g.cleaning, r.session = session

variable {F : Nat → TerminalSession → TerminalSession} {p : ManagerPool} {obj : TerminalSession}
  {id id' : String} {session' : Nat} {ok : ManagerPool → ManagerAction → Prop}

section Places

variable {gs : List Phase} {i : Nat}

/-- A session that loses its entry is one that the call cleans up then. -/
theorem Reserved.updates (h : Reserved s gs) (hg : gs[i]? = some g) (hup : s.Updates s' F)
    (hF : KeepsPlaces F) (hcount : s'.activeSessionReservations = s.activeSessionReservations)
    (hkept : ∀ r ∈ g.cleaning, r ∈ g'.cleaning)
    (hgone : ∀ session obj, s.objects[session]? = some obj →
      s.sessions.lookup obj.sessionID = some session →
      s'.sessions.lookup obj.sessionID = some session ∨ ∃ r ∈ g'.cleaning, r.session = session) :
    Reserved s' (gs.set i g') := by
  have hmem : g' ∈ gs.set i g' := List.mem_of_getElem? (List.getElem?_set_of_some hg)
  refine ⟨?_, fun session obj hobj hreserved => ?_⟩
  · rw [hcount, h.count]
    refine (List.countP_congr_getElem? _ fun session => ?_).symm
    rw [hup.objects, Option.map_map]
    exact congrArg (Option.map · _) (funext fun obj => (hF session obj).2)
  · rw [hup.objects] at hobj
    obtain ⟨obj₀, hobj₀, rfl⟩ := Option.map_eq_some_iff.mp hobj
    obtain ⟨hid, hsame⟩ := hF session obj₀
    rw [hid]
    rcases h.owned session obj₀ hobj₀ (hsame ▸ hreserved) with hlookup | ⟨g₂, hg₂, r, hr, hsession⟩
    · rcases hgone session obj₀ hobj₀ hlookup with hstill | ⟨r, hr, hsession⟩
      · exact .inl hstill
      · exact .inr ⟨g', hmem, r, hr, hsession⟩
    · obtain ⟨j, hj⟩ := List.getElem?_of_mem hg₂
      rcases List.getElem?_set_or g' hg hj with ⟨-, rfl, -⟩ | ⟨-, hj⟩
      · exact .inr ⟨g', hmem, r, hkept r hr, hsession⟩
      · exact .inr ⟨g₂, List.mem_of_getElem? hj, r, hr, hsession⟩

/-- A new session has a place and an entry. -/
theorem Reserved.insertSession (h : Reserved s gs) (hg : gs[i]? = some g)
    (hnone : s.sessions.lookup obj.sessionID = none) (hreserved : obj.capacityReserved = true)
    (hkept : ∀ r ∈ g.cleaning, r ∈ g'.cleaning) :
    Reserved (s.insertSession obj) (gs.set i g') := by
  -- The call moves first, then the session is put in.
  have h : Reserved s (gs.set i g') :=
    h.updates hg (updates_congr (.refl s)) (fun _ _ => ⟨rfl, rfl⟩) rfl hkept fun _ _ _ => .inl
  unfold ManagerState.insertSession
  refine ⟨?_, fun session obj' hobj' hreserved' => ?_⟩
  · rw [List.countP_append, List.countP_singleton, if_pos hreserved, h.count]
  · rw [AList.lookup_insert_ite]
    rcases List.getElem?_concat_cases hobj' with ⟨-, hobj'⟩ | ⟨rfl, rfl⟩
    · rcases h.owned session obj' hobj' hreserved' with hlookup | hcleans
      · have hne : obj'.sessionID ≠ obj.sessionID := fun heq => by
          rw [heq, hnone] at hlookup
          nomatch hlookup
        rw [if_neg hne]
        exact .inl hlookup
      · exact .inr hcleans
    · rw [if_pos rfl]
      exact .inl rfl

variable {session : Nat}

/-- The call gives back the place of the session it cleans up. -/
theorem Reserved.freed (h : Reserved s gs) (hg : gs[i]? = some g) {obj : TerminalSession}
    {r : Retired} {rest : List Retired} (hcleaning : g.cleaning = r :: rest)
    (hsession : r.session = session) (hobj : s.objects[session]? = some obj) :
    Reserved (s.releaseCapacityReservation session obj)
      (gs.set i { g with cleaning := rest }) := by
  -- Other sessions are still in the map, or being cleaned up as before.
  have hothers : ∀ session', session' ≠ session →
      (∃ g₂ ∈ gs, ∃ r ∈ g₂.cleaning, r.session = session') →
      ∃ g₂ ∈ gs.set i { g with cleaning := rest }, ∃ r ∈ g₂.cleaning, r.session = session' := by
    rintro session' hne ⟨g₂, hg₂, r', hr', hsession'⟩
    obtain ⟨j, hj⟩ := List.getElem?_of_mem hg₂
    rcases List.getElem?_set_or { g with cleaning := rest } hg hj with ⟨-, rfl, hj⟩ | ⟨-, hj⟩
    · rw [hcleaning] at hr'
      rcases List.mem_cons.mp hr' with rfl | hr'
      · exact absurd (hsession'.symm.trans hsession) hne
      · exact ⟨_, List.mem_of_getElem? hj, r', hr', hsession'⟩
    · exact ⟨g₂, List.mem_of_getElem? hj, r', hr', hsession'⟩
  unfold releaseCapacityReservation
  split
  · rename_i hreserved
    refine ⟨?_, fun session' obj' hobj' hreserved' => ?_⟩
    · have hset : s.objects.modify session ({ · with capacityReserved := false }) =
          s.objects.set session { obj with capacityReserved := false } := by
        rw [List.modify_eq_set_getElem?, hobj]
        rfl
      have hcount := List.countP_set_add (b := { obj with capacityReserved := false })
        (fun obj => obj.capacityReserved) hobj
      rw [if_pos hreserved, if_neg Bool.false_ne_true] at hcount
      change s.activeSessionReservations - 1 = (s.objects.modify session _).countP _
      rw [hset, h.count]
      omega
    · have hobj' : (s.modify session ({ · with capacityReserved := false })).objects[session']? = some obj' :=
        hobj'
      rw [getElem?_modify] at hobj'
      obtain ⟨obj₀, hobj₀, rfl⟩ := Option.map_eq_some_iff.mp hobj'
      split at hreserved'
      · nomatch hreserved'
      · rename_i hne
        rw [if_neg hne]
        exact (h.owned session' obj₀ hobj₀ hreserved').imp id (hothers session' (Ne.symm hne))
  · rename_i hfree
    refine ⟨h.count, fun session' obj' hobj' hreserved' => ?_⟩
    have hne : session' ≠ session := by
      rintro rfl
      obtain rfl := Option.mem_unique hobj hobj'
      exact hfree hreserved'
    exact (h.owned session' obj' hobj' hreserved').imp id (hothers session' hne)

/-- One effect keeps the places counted. -/
theorem reserved_of_effect (h : Reserved s gs) (hg : gs[i]? = some g)
    (heffect : ManagerEffect lib g s o g' s') : Reserved s' (gs.set i g') := by
  rcases updates_of_effect heffect with ⟨obj, inflight, rfl, hnone, hnew, hsame⟩ |
    ⟨F, hmoves, ⟨session, obj, r, rest, hcleaning, hsession, hobj, rfl, rfl⟩ | ⟨hF, hcount, hkept⟩⟩
  · exact h.insertSession hg hnone hnew.capacityReserved fun r hr => hsame ▸ hr
  · exact h.freed hg hcleaning hsession hobj
  · exact h.updates hg hmoves.updates hF hcount hkept fun session obj hobj hlookup =>
      (hmoves.gone session obj hobj hlookup).imp id (·.2)

/-- Places are counted right in every run. -/
theorem reservations_counted (h : (managerMachine lib cfg).ReachableWhere ok p) :
    Reserved p.shared (phases lib cfg p) := by
  refine manager_invariant (I := Reserved) ?_ ?_ ?_ ?_ h
  · rintro s ⟨containers, clock, -, rfl⟩
    exact ⟨rfl, nofun⟩
  · intro s gs ih
    refine ⟨ih.count, fun session obj hobj hreserved => ?_⟩
    exact (ih.owned session obj hobj hreserved).imp id
      fun ⟨g, hg, hcleans⟩ => ⟨g, List.mem_append_left _ hg, hcleans⟩
  · intro p i ans g o g' p' hreach _ _ ih hg _ heffect
    exact reserved_of_effect ih hg heffect
  · intro s s' gs hsame ih
    refine ⟨?_, fun session obj hobj hreserved => ?_⟩
    · rw [hsame.reservations, hsame.objects]
      exact ih.count
    · rw [hsame.objects] at hobj
      rw [hsame.sessions]
      exact ih.owned session obj hobj hreserved

end Places

/-! ## Slots -/

/-- The call has a slot of the session. -/
def Phase.holdsSession (g : Phase) (session : Nat) : Bool :=
  g.holds && g.claim.any (·.session = session)

/-- The number of calls that claimed the session and have not given it back. -/
def holders (lib : DockerLib) (cfg : ManagerSettings) (p : ManagerPool) (session : Nat) : Nat :=
  (phases lib cfg p).countP (·.holdsSession session)

/-- A call that joined the session finds that it was marked. -/
def Phase.JoinsMarked (s : ManagerState) (g : Phase) (o : ManagerOp) : Prop :=
  ∃ claim obj, g.claim = some claim ∧ claim.created = false ∧ o = .sessionIsActive claim.session ∧
    s.objects[claim.session]? = some obj ∧ s.sessions.lookup obj.sessionID = some claim.session ∧
    obj.destroying = true

/-- A call gives back a slot of another session than the one it claimed. -/
def Phase.ReleasesOther (s : ManagerState) (g : Phase) (o : ManagerOp) : Prop :=
  ∃ claim sessionID destroys session, g.claim = some claim ∧
    o.releases = some (sessionID, destroys) ∧ s.sessions.lookup sessionID = some session ∧
    session ≠ claim.session

/-- Each call gives back the slot that it took. -/
def SlotsReturned (lib : DockerLib) (cfg : ManagerSettings) (p : ManagerPool) (a : ManagerAction) : Prop :=
  ∀ i ans g o, a = .run i ans → (phases lib cfg p)[i]? = some g → p.nextOp i = some o →
    ¬ g.JoinsMarked p.shared o ∧ ¬ g.ReleasesOther p.shared o

section Slots

variable {gs : List Phase} {i : Nat}

theorem holdsSession_iff {session : Nat} :
    g.holdsSession session = true ↔ ∃ claim, g.Holds claim ∧ claim.session = session := by
  simp only [Phase.holdsSession, Bool.and_eq_true, Option.any_eq_true, decide_eq_true_eq, Phase.Holds]
  constructor
  · rintro ⟨hholds, claim, hclaim, hsession⟩
    exact ⟨claim, ⟨hclaim, hholds⟩, hsession⟩
  · rintro ⟨claim, ⟨hclaim, hholds⟩, hsession⟩
    exact ⟨hholds, claim, hclaim, hsession⟩

/-- The slots of the sessions in the map are those of the calls, and a marked session has
    one. -/
structure Counted (s : ManagerState) (gs : List Phase) : Prop where
  inflight : ∀ session obj, s.objects[session]? = some obj →
    s.sessions.lookup obj.sessionID = some session →
    obj.inflight = gs.countP (·.holdsSession session)
  marked : ∀ session obj, s.objects[session]? = some obj →
    s.sessions.lookup obj.sessionID = some session → obj.destroying = true → 0 < obj.inflight

/-- The update leaves alone the slots of the sessions that stay in the map. -/
theorem Counted.updates (h : Counted s gs) (hg : gs[i]? = some g) (hup : s.Updates s' F)
    (hF : KeepsNames F)
    (hstays : ∀ session obj, s.objects[session]? = some obj →
      s'.sessions.lookup obj.sessionID = some session →
      (F session obj).inflight + (if g.holdsSession session = true then 1 else 0) =
        obj.inflight + (if g'.holdsSession session = true then 1 else 0) ∧
      ((F session obj).destroying = true → (obj.destroying = true → 0 < obj.inflight) →
        0 < (F session obj).inflight)) :
    Counted s' (gs.set i g') := by
  refine ⟨fun session obj hobj hlookup => ?_, fun session obj hobj hlookup hmarked => ?_⟩
  all_goals
    rw [hup.objects] at hobj
    obtain ⟨obj₀, hobj₀, rfl⟩ := Option.map_eq_some_iff.mp hobj
    rw [(hF session obj₀).1] at hlookup
    have hbefore := hup.sessions _ _ hlookup
    obtain ⟨hcount, hpos⟩ := hstays session obj₀ hobj₀ hlookup
  · have hset := List.countP_set_add (b := g') (·.holdsSession session) hg
    have hinflight := h.inflight session obj₀ hobj₀ hbefore
    omega
  · exact hpos hmarked (h.marked session obj₀ hobj₀ hbefore)

/-- Sessions that stay in the map keep their slots, and the call has the same of them. -/
theorem Counted.still (h : Counted s gs) (hg : gs[i]? = some g) (hup : s.Updates s' F)
    (hF : KeepsNames F)
    (hstays : ∀ session obj, s.objects[session]? = some obj →
      s'.sessions.lookup obj.sessionID = some session →
      (F session obj).inflight = obj.inflight ∧ (F session obj).destroying = obj.destroying ∧
        g'.holdsSession session = g.holdsSession session) : Counted s' (gs.set i g') := by
  refine h.updates hg hup hF fun session obj hobj hlookup => ?_
  obtain ⟨hinflight, hdestroying, hholds⟩ := hstays session obj hobj hlookup
  rw [hinflight, hdestroying, hholds]
  exact ⟨rfl, fun hmarked hpos => hpos hmarked⟩

theorem Phase.Same.holdsSession (h : g.Same g') (session : Nat) :
    g'.holdsSession session = g.holdsSession session := by
  unfold Phase.holdsSession
  rw [h.holds, h.claim]

theorem holdsSession_of_not {session : Nat} (h : g.holds = false) : g.holdsSession session = false := by
  rw [Phase.holdsSession, h, Bool.false_and]

theorem Phase.Holds.holdsSession {claim : Claim} (h : g.Holds claim) (session : Nat) :
    g.holdsSession session = decide (claim.session = session) := by
  rw [Phase.holdsSession, h.1, h.2, Option.any_some, Bool.true_and]

/-- A call that loses its session, which is not in the map. -/
theorem Counted.lost (h : Counted s gs) (hg : gs[i]? = some g) {claim : Claim} (hholds : g.Holds claim)
    (hgone : ∀ obj, s.objects[claim.session]? = some obj →
      s.sessions.lookup obj.sessionID ≠ some claim.session) (hg' : g'.holds = false) :
    Counted s (gs.set i g') := by
  refine h.still hg (updates_congr (.refl s)) (fun _ _ => ⟨rfl, rfl, id⟩)
    fun session obj hobj hlookup => ⟨rfl, rfl, ?_⟩
  rw [holdsSession_of_not hg', hholds.holdsSession, eq_comm, decide_eq_false_iff_not]
  rintro rfl
  exact hgone obj hobj hlookup

/-- A new session has the slot of the call that made it, or none. -/
theorem Counted.insertSession (h : Counted s gs) (hg : gs[i]? = some g)
    (hknown : ∀ g ∈ gs, g.Claimed s) (hnone : s.sessions.lookup obj.sessionID = none)
    (hactive : obj.destroying = false) (hnot : g.holds = false)
    (hinflight : obj.inflight = if g'.holdsSession s.objects.length = true then 1 else 0)
    (hothers : ∀ session, session ≠ s.objects.length → g'.holdsSession session = false) :
    Counted (s.insertSession obj) (gs.set i g') := by
  -- Nobody has a slot of a session that was not there.
  have hzero : gs.countP (·.holdsSession s.objects.length) = 0 := by
    rw [List.countP_eq_zero]
    intro g₂ hg₂ hholds
    obtain ⟨claim, hclaim, hsession⟩ := holdsSession_iff.mp hholds
    obtain ⟨obj, hobj, -⟩ := hknown g₂ hg₂ claim hclaim.1
    have := (List.getElem?_eq_some_iff.mp hobj).1
    omega
  have hcases : ∀ session obj', (s.insertSession obj).objects[session]? = some obj' →
      (s.insertSession obj).sessions.lookup obj'.sessionID = some session →
      (session = s.objects.length ∧ obj' = obj) ∨
        (session ≠ s.objects.length ∧ s.objects[session]? = some obj' ∧
          s.sessions.lookup obj'.sessionID = some session) := by
    intro session obj' hobj' hlookup
    refine (List.getElem?_concat_cases hobj').symm.imp id fun ⟨hlt, hobj'⟩ => ?_
    rcases AList.lookup_insert_cases hlookup with ⟨-, hlast⟩ | ⟨-, hlookup⟩
    · omega
    · exact ⟨Nat.ne_of_lt hlt, hobj', hlookup⟩
  refine ⟨fun session obj' hobj' hlookup => ?_, fun session obj' hobj' hlookup hmarked => ?_⟩
  · have hset := List.countP_set_add (b := g') (·.holdsSession session) hg
    rw [holdsSession_of_not hnot, if_neg Bool.false_ne_true] at hset
    rcases hcases session obj' hobj' hlookup with ⟨rfl, rfl⟩ | ⟨hne, hobj', hlookup⟩
    · omega
    · rw [hothers session hne, if_neg Bool.false_ne_true] at hset
      have := h.inflight session obj' hobj' hlookup
      omega
  · rcases hcases session obj' hobj' hlookup with ⟨rfl, rfl⟩ | ⟨hne, hobj', hlookup⟩
    · nomatch hactive.symm.trans hmarked
    · exact h.marked session obj' hobj' hlookup hmarked

@[simp] theorem releaseSlot_inflight (obj : TerminalSession) :
    (releaseSlot obj).inflight = obj.inflight - 1 := rfl

@[simp] theorem mark_inflight (destroys : Bool) (obj : TerminalSession) :
    (mark destroys obj).inflight = obj.inflight := by
  cases destroys <;> rfl

/-- What is still in the map is not the session that was taken out. -/
theorem ne_of_lookup_erase (hsound : s.Sound lib) {session : Nat}
    (hlookup : s.sessions.lookup id = some session)
    (hlookup' : (s.sessions.erase id).lookup id' = some session') : session ≠ session' := by
  rintro rfl
  obtain ⟨hne, hlookup'⟩ := AList.lookup_of_erase hlookup'
  obtain ⟨obj, hobj, hid⟩ := hsound.mapped id session hlookup
  obtain ⟨obj₂, hobj₂, hid₂⟩ := hsound.mapped id' session hlookup'
  obtain rfl := Option.mem_unique hobj hobj₂
  exact hne (hid₂.symm.trans hid)

/-- One effect keeps the slots counted, if the call gives back what it took. -/
theorem counted_of_effect (hsound : s.Sound lib) (hknown : ∀ g ∈ gs, g.Claimed s)
    (h : Counted s gs) (hg : gs[i]? = some g) (heffect : ManagerEffect lib g s o g' s')
    (hjoins : ¬ g.JoinsMarked s o) (hreleases : ¬ g.ReleasesOther s o) :
    Counted s' (gs.set i g') := by
  cases heffect with
  | quiet hs hg' =>
    exact h.still hg (updates_congr hs) (fun _ _ => ⟨rfl, rfl, id⟩)
      fun session _ _ _ => ⟨rfl, rfl, hg'.holdsSession session⟩
  | touched session hf hg' hlease =>
    refine h.still hg (s.updates_modify session _) (keepsNames_one fun obj => ?_)
      fun session' obj _ _ => ?_
    · exact ⟨(hf obj).1, (hf obj).2.1, fun h => (hf obj).2.2.2.1.trans h⟩
    · unfold one
      split
      · exact ⟨(hf obj).2.2.1, (hf obj).2.2.2.1, hg'.holdsSession session'⟩
      · exact ⟨rfl, rfl, hg'.holdsSession session'⟩
  | created hfree hnone hnew =>
    refine h.insertSession hg hknown hnone hnew.destroying hfree.holds ?_ fun session hne => ?_
    · rw [hnew.inflight, Phase.Holds.holdsSession ⟨rfl, rfl⟩]
      simp
    · rw [Phase.Holds.holdsSession ⟨rfl, rfl⟩, decide_eq_false_iff_not]
      exact Ne.symm hne
  | recovered hfree hnone hnew =>
    have hnot : ∀ session, g.holdsSession session = false := fun _ => holdsSession_of_not hfree.holds
    refine h.insertSession hg hknown hnone hnew.destroying hfree.holds ?_ fun session _ => hnot session
    rw [hnew.inflight, hnot, if_neg Bool.false_ne_true]
  | @joined _ _ _ session obj hfree hlookup hobj hactive =>
    refine h.updates hg (s.updates_modify session _)
      (keepsNames_one fun _ => ⟨rfl, rfl, id⟩) fun session' obj' hobj' _ => ?_
    rw [holdsSession_of_not hfree.holds, Phase.Holds.holdsSession ⟨rfl, rfl⟩]
    unfold one
    split
    · rename_i heq
      simp [extendLease, heq]
    · rename_i hne
      rw [decide_eq_false hne]
      exact ⟨rfl, fun hmarked hpos => hpos hmarked⟩
  | @left session claim obj hholds hsession hcreated hobj hinactive =>
    subst hsession
    refine h.lost hg hholds (fun obj' hobj' hlookup => ?_) rfl
    obtain rfl := Option.mem_unique hobj hobj'
    have hmarked : obj.destroying = true := by
      simpa [sessionIsActive, hlookup] using hinactive
    exact hjoins ⟨claim, obj, hholds.1, hcreated, rfl, hobj, hlookup, hmarked⟩
  | gone ho hholds hid hclean hnone =>
    refine h.lost hg hholds (fun obj' hobj' hlookup => ?_) rfl
    obtain ⟨obj, hobj, hobjID⟩ := hknown g (List.mem_of_getElem? hg) _ hholds.1
    obtain rfl := Option.mem_unique hobj hobj'
    rw [hobjID, hid, hnone] at hlookup
    cases hlookup
  | @released _ sessionID destroys claim _ session obj ho hholds hid hclean hlookup hobj hstays =>
    obtain rfl : session = claim.session := by
      by_contra hne
      exact hreleases ⟨claim, sessionID, destroys, session, hholds.1, ho, hlookup, hne⟩
    refine h.updates hg (s.updates_modify _ _) (keepsNames_one (keeps_release _))
      fun session' obj' hobj' hlookup' => ?_
    rw [hholds.holdsSession, holdsSession_of_not rfl, if_neg Bool.false_ne_true]
    unfold one
    split
    · rename_i heq
      subst heq
      obtain rfl := Option.mem_unique hobj hobj'
      have hpos := List.countP_pos_of_getElem? (·.holdsSession claim.session) hg
        (holdsSession_iff.mpr ⟨claim, hholds, rfl⟩)
      have hinflight := h.inflight _ obj hobj hlookup'
      rw [releaseSlot_inflight, mark_inflight, decide_eq_true rfl, if_pos rfl]
      refine ⟨by omega, fun hmarked _ => ?_⟩
      have := hstays hmarked
      omega
    · rename_i hne
      simp only [hne, decide_false]
      exact ⟨rfl, fun hmarked hpos => hpos hmarked⟩
  | @retired _ sessionID destroys claim _ session obj ho hholds hid hclean hlookup hobj hmarked =>
    obtain rfl : session = claim.session := by
      by_contra hne
      exact hreleases ⟨claim, sessionID, destroys, session, hholds.1, ho, hlookup, hne⟩
    refine h.still hg ((s.updates_modify _ _).erase _) (keepsNames_one (keeps_release _))
      fun session' obj' hobj' hlookup' => ?_
    have hne : claim.session ≠ session' := ne_of_lookup_erase hsound hlookup hlookup'
    rw [one, if_neg hne, holdsSession_of_not rfl, hholds.holdsSession, decide_eq_false hne]
    exact ⟨rfl, rfl, rfl⟩
  | @detached _ session obj _ hclean howner hobj hlookup =>
    refine h.still hg ((s.updates_modify _ _).erase _)
      (keepsNames_one fun _ => ⟨rfl, rfl, fun _ => rfl⟩) fun session' obj' hobj' hlookup' => ?_
    have hne : session ≠ session' := ne_of_lookup_erase hsound hlookup hlookup'
    rw [one, if_neg hne, holdsSession_of_not rfl]
    refine ⟨rfl, rfl, (eq_false_of_ne_true fun hholds => ?_).symm⟩
    obtain ⟨claim, hholds, hsession⟩ := holdsSession_iff.mp hholds
    rcases howner with ⟨claim', hholds', hsession'⟩ | hfree
    · obtain rfl := Option.mem_unique hholds.1 hholds'.1
      exact hne (hsession'.symm.trans hsession)
    · cases hfree.holds.symm.trans hholds.2
  | stranded hclean hholds hsession hobj hgone =>
    refine h.lost hg hholds (fun obj' hobj' hlookup => ?_) rfl
    subst hsession
    obtain rfl := Option.mem_unique hobj hobj'
    exact hgone hlookup
  | @expired now expired hfree hperm =>
    refine h.still hg (s.updates_takeExpired now) (fun session obj => ?_) fun session obj _ hlookup => ?_
    · split
      · exact ⟨rfl, rfl, fun _ => rfl⟩
      · exact ⟨rfl, rfl, id⟩
    · rw [if_neg (lookup_takeExpired.mp hlookup).2]
      exact ⟨rfl, rfl, rfl⟩
  | @freed session obj r rest hcleaning hsession hobj =>
    unfold releaseCapacityReservation
    split
    · refine h.still hg ⟨(s.updates_modify _ _).objects, fun _ _ h => h⟩
        (keepsNames_one fun _ => ⟨rfl, rfl, id⟩) fun session' obj' _ _ => ?_
      unfold one
      split <;> exact ⟨rfl, rfl, rfl⟩
    · exact h.still hg (updates_congr (.refl s)) (fun _ _ => ⟨rfl, rfl, id⟩)
        fun _ _ _ _ => ⟨rfl, rfl, rfl⟩

/-- Slots are counted right, if each call gives back the slot that it took. -/
theorem slots_counted (h : (managerMachine lib cfg).ReachableWhere (SlotsReturned lib cfg) p) :
    Counted p.shared (phases lib cfg p) := by
  refine manager_invariant (I := Counted) ?_ ?_ ?_ ?_ h
  · rintro s ⟨containers, clock, -, rfl⟩
    exact ⟨nofun, nofun⟩
  · intro s gs ih
    refine ⟨fun session obj hobj hlookup => ?_, ih.marked⟩
    rw [List.countP_append, ih.inflight session obj hobj hlookup]
    rfl
  · intro p i ans g o g' p' hreach hok _ ih hg hnext heffect
    obtain ⟨hjoins, hreleases⟩ := hok i ans g o rfl hg hnext
    exact counted_of_effect (managerSound hreach) (claims_known hreach) ih hg heffect hjoins hreleases
  · intro s s' gs hsame ih
    refine ⟨fun session obj hobj hlookup => ?_, fun session obj hobj hlookup => ?_⟩
    all_goals
      rw [hsame.objects] at hobj
      rw [hsame.sessions] at hlookup
    · exact ih.inflight session obj hobj hlookup
    · exact ih.marked session obj hobj hlookup

/-- A call that is over has no slot and nothing to clean up. -/
theorem finished_of_idle (h : (managerMachine lib cfg).ReachableWhere ok p) (hidle : p.idle = true) :
    ∀ g ∈ phases lib cfg p, g.Finished := by
  intro g hg
  obtain ⟨t, ht, rfl⟩ := List.mem_map.mp hg
  have hover := List.all_eq_true.mp hidle t ht
  have hmeets := (managerKeeps h t ht).2
  cases hprog : t.prog with
  | ret u =>
    rw [hprog, Prog.meets_ret] at hmeets
    exact hmeets
  | op o k =>
    rw [hprog] at hover
    nomatch hover

end Slots

/-- If every call gives back the slot that it took, the slots and places of the sessions
    are those of the calls and sessions, and when all calls and cleanups are over no session
    in the map is marked, and no place belongs to a session that is not there. -/
theorem slots_accounted (lib : DockerLib) (cfg : ManagerSettings) (p : ManagerPool)
    (h : (managerMachine lib cfg).ReachableWhere (SlotsReturned lib cfg) p) :
    (∀ id session obj, p.shared.sessions.lookup id = some session →
      p.shared.objects[session]? = some obj → obj.inflight = holders lib cfg p session) ∧
    p.shared.activeSessionReservations = p.shared.objects.countP (·.capacityReserved) ∧
    (∀ session obj, p.shared.objects[session]? = some obj → obj.capacityReserved = true →
      p.shared.sessions.lookup obj.sessionID = some session ∨
        ∃ g ∈ phases lib cfg p, ∃ r ∈ g.cleaning, r.session = session) ∧
    (p.idle = true →
      (∀ id session obj, p.shared.sessions.lookup id = some session →
        p.shared.objects[session]? = some obj → obj.destroying = false) ∧
      ∀ session obj, p.shared.objects[session]? = some obj → obj.capacityReserved = true →
        p.shared.sessions.lookup obj.sessionID = some session) := by
  have hcounted := slots_counted h
  have hreserved := reservations_counted h
  have hsound := managerSound h
  have hown : ∀ id session obj, p.shared.sessions.lookup id = some session →
      p.shared.objects[session]? = some obj → obj.sessionID = id := by
    intro id session obj hlookup hobj
    obtain ⟨obj', hobj', hid⟩ := hsound.mapped id session hlookup
    obtain rfl := Option.mem_unique hobj hobj'
    exact hid
  refine ⟨fun id session obj hlookup hobj => ?_, hreserved.count, hreserved.owned, fun hidle => ?_⟩
  · obtain rfl := hown id session obj hlookup hobj
    exact hcounted.inflight session obj hobj hlookup
  · have hfinished := finished_of_idle h hidle
    refine ⟨fun id session obj hlookup hobj => eq_false_of_ne_true fun hmarked => ?_,
      fun session obj hobj hplace => ?_⟩
    · -- A marked session has a slot, but nobody has one.
      obtain rfl := hown id session obj hlookup hobj
      have hpos := hcounted.marked session obj hobj hlookup hmarked
      rw [hcounted.inflight session obj hobj hlookup, List.countP_pos_iff] at hpos
      obtain ⟨g, hg, hholds⟩ := hpos
      rw [holdsSession_of_not (hfinished g hg).1] at hholds
      nomatch hholds
    · rcases hreserved.owned session obj hobj hplace with hlookup | ⟨g, hg, r, hr, -⟩
      · exact hlookup
      · rw [(hfinished g hg).2.1] at hr
        nomatch hr

/-! ## Runs -/

/-- A call that creates the session "s" runs up to its command. -/
def createSample : List ManagerAnswer :=
  [.none, .none, .success, .success, .none]

/-- `SlotsReturned`, as a test. -/
def slotsReturned (lib : DockerLib) (cfg : ManagerSettings) (p : ManagerPool) : ManagerAction → Bool
  | .run i _ =>
    match (phases lib cfg p)[i]?, p.nextOp i with
    | some g, some (.sessionIsActive session) =>
      g.claim.all (·.created) || (p.shared.objects[session]?).all (!·.destroying)
    | some g, some o =>
      o.releases.all fun x => g.claim.all fun claim =>
        (p.shared.sessions.lookup x.1).all (· = claim.session)
    | _, _ => true
  | _ => true

theorem slotsReturned_of_eq_true {lib : DockerLib} {cfg : ManagerSettings} {a : ManagerAction}
    (h : slotsReturned lib cfg p a = true) : SlotsReturned lib cfg p a := by
  rintro i ans g o rfl hg hnext
  simp only [slotsReturned, hg, hnext] at h
  refine ⟨?_, ?_⟩
  · rintro ⟨claim, obj, hclaim, hcreated, rfl, hobj, -, hmarked⟩
    simp [hclaim, hcreated, hobj, hmarked] at h
  · rintro ⟨claim, sessionID, destroys, session, hclaim, ho, hlookup, hne⟩
    cases o with
    | releaseSession id | releaseAndDestroySession id =>
      cases ho
      simp [hclaim, ManagerOp.releases, hlookup, hne] at h
    | _ => nomatch ho

/-- Two calls use one session, one after the other has joined it. -/
theorem slots_accounted_shared :
    ∃ p, (managerMachine .sample .sample).ReachableWhere (SlotsReturned .sample .sample) p ∧
      p.shared.sessions.lookup "s" = some 0 ∧ holders .sample .sample p 0 = 2 ∧
      ∀ obj, p.shared.objects[0]? = some obj → obj.inflight = 2 := by
  have hrun := Machine.reachableWhere_runWhere (slotsReturned .sample .sample)
    (fun _ _ => slotsReturned_of_eq_true)
    ([.spawn (.execute { command := "x", sessionID := "s", createIfMissing := true }),
      .spawn (.execute { command := "x", sessionID := "s" })] ++
      ManagerAction.runs 0 createSample ++ ManagerAction.runs 1 [.none, .none, .none, .none, .none] ++
      ManagerAction.runs 0 [.none])
    (ManagerPool.fresh_reachable .sample .sample) rfl
  exact ⟨_, hrun, rfl, rfl, fun obj => (slots_accounted .sample .sample _ hrun).1 "s" 0 obj rfl⟩

/-- The first call creates the session and the second one joins it; the command of the
    first one reports the end of its context, so the session is marked. The second one
    finds it marked and goes: all calls are over, and the session is still in the map,
    marked, with a slot that nobody gives back. -/
theorem slot_leaks :
    ∃ p obj, (managerMachine .sample .sample).Reachable p ∧ p.idle = true ∧
      p.shared.sessions.lookup "s" = some 0 ∧ p.shared.objects[0]? = some obj ∧
      obj.destroying = true ∧ obj.inflight = 1 ∧ holders .sample .sample p 0 = 0 ∧
      p.shared.activeSessionReservations = 1 := by
  have hrun := Machine.reachable_run
    ([.spawn (.execute { command := "x", sessionID := "s", createIfMissing := true }),
      .spawn (.execute { command := "x", sessionID := "s" })] ++
      ManagerAction.runs 0 createSample ++ ManagerAction.runs 1 [.none, .none] ++
      ManagerAction.runs 0 [.none, .docker { err := some (.context .deadlineExceeded) } false, .none,
        .none] ++
      ManagerAction.runs 1 [.none, .none, .none, .none])
    (ManagerPool.fresh_reachable .sample .sample) rfl
  exact ⟨_, _, hrun, rfl, rfl, rfl, rfl, rfl, rfl, rfl⟩

end Onlyboxes.Docker
