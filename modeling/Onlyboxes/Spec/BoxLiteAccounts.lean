import Onlyboxes.Spec.BoxLiteSteps

/-!
# The accounts of the BoxLite worker

Slots, places, creation guards, tracked cleanups and boxes move between the map of the
manager and the calls. For each of them one effect changes what the map has and what the
call has by the same amount, so that the counters stay right in every run.

## Key results

- `accounts`: slots and counters are right in every run
- `boxes_removed_once`: without recovery no box is removed twice
- `sessions_balanced`: the two of them, and that no counter underflows
-/

namespace Onlyboxes.BoxLite

open Text Worker AList

open ManagerState

variable {lib : BoxLiteLib} {cfg : ManagerSettings} {g g' : Phase} {s s' : ManagerState} {o : ManagerOp}
  {gs : List Phase} {i : Nat} {id : String} {ids : List String}

/-! ## What the map has -/

/-- The slots in use of the session of an id: none, if there is no session. -/
def ManagerState.inflight (s : ManagerState) (id : String) : Nat :=
  ((s.sessions.lookup id).map (·.inflight)).getD 0

/-- The map was drained, and stays empty. -/
def ManagerState.Drained (s : ManagerState) : Prop :=
  s.closed = true ∧ ∀ id, s.sessions.lookup id = none

/-- The number of sessions in the map with a property. -/
abbrev ManagerState.mapped (p : TerminalSession → Bool) (s : ManagerState) : Nat :=
  AList.countValues p s.sessions

theorem inflight_none (h : s.sessions.lookup id = none) : s.inflight id = 0 := by
  rw [inflight, h]
  rfl

variable {session : TerminalSession}

theorem inflight_some (h : s.sessions.lookup id = some session) :
    s.inflight id = session.inflight := by
  rw [inflight, h]
  rfl

theorem inflight_insert (h : s'.sessions = s.sessions.insert id session) (id' : String) :
    s'.inflight id' = if id' = id then session.inflight else s.inflight id' := by
  unfold inflight
  rw [h, lookup_insert_ite]
  split <;> rfl

/-- Replacing a session changes what is counted by what it contributes. -/
theorem mapped_put {session' : TerminalSession} (p : TerminalSession → Bool)
    (hlookup : s.sessions.lookup id = some session) (hp : p session' = p session) :
    (s.put id session').mapped p = s.mapped p := by
  have hreplace := countValues_replace p hlookup (w := session')
  rw [hp] at hreplace
  exact Nat.add_right_cancel hreplace

/-- Sessions that are retired are counted one by one. -/
theorem countP_retireAll (R : Retired → Bool) (tracked : Bool) (ids : List String) :
    (s.retireAll ids tracked).countP R =
      ids.countP fun id => (s.sessions.lookup id).any fun session => R (session.retire tracked) := by
  rw [retireAll, List.countP_filterMap]
  refine List.countP_congr fun id _ => ?_
  cases s.sessions.lookup id <;> exact Iff.rfl

/-- The janitor takes what it retires out of the map. -/
theorem mapped_takeExpired {now : Int} (R : Retired → Bool) (tracked : Bool)
    (hperm : ids.Perm (s.expired now)) :
    (s.takeExpired now).mapped (fun session => R (session.retire tracked)) +
      (s.retireAll ids tracked).countP R = s.mapped fun session => R (session.retire tracked) := by
  have hfilter := countValues_filter (fun session : TerminalSession => R (session.retire tracked))
    (expires now) s.sessions
  rw [countP_retireAll, hperm.countP_eq, expired,
    countP_lookup _ fun e he => (List.mem_filter.mp he).1]
  rw [List.filter_map, List.countP_map] at hfilter
  exact hfilter

/-- The map is drained of what is retired. -/
theorem mapped_drained (R : Retired → Bool) (tracked : Bool) (hperm : ids.Perm s.sessions.keys) :
    (s.retireAll ids tracked).countP R = s.mapped fun session => R (session.retire tracked) := by
  rw [countP_retireAll, hperm.countP_eq]
  exact countP_lookup _ fun _ he => he

/-! ## Slots -/

/-- The call has a slot of the session. -/
def Phase.holdsSession (g : Phase) (id : String) : Bool := g.holds && g.claim.any (·.sessionID = id)

/-- One, if the call has a slot of the session. -/
abbrev Phase.slots (g : Phase) (id : String) : Nat := if g.holdsSession id = true then 1 else 0

theorem slots_of_not (h : g.holds = false) : g.slots id = 0 := by
  rw [Phase.slots, Phase.holdsSession, h, Bool.false_and, if_neg Bool.false_ne_true]

theorem Phase.Holds.slots {claim : Claim} (h : g.Holds claim) (id : String) :
    g.slots id = if claim.sessionID = id then 1 else 0 := by
  simp only [Phase.slots, Phase.holdsSession, h.1, h.2, Option.any_some, Bool.true_and, decide_eq_true_eq]

theorem slots_take (g : Phase) (claim : Claim) (id : String) :
    (g.take claim).slots id = if claim.sessionID = id then 1 else 0 :=
  Phase.Holds.slots ⟨rfl, rfl⟩ id

/-- A session that is put into the map has as many slots more as the call has. -/
theorem slots_insert (h : s'.sessions = s.sessions.insert id session)
    (hself : session.inflight + g.slots id = s.inflight id + g'.slots id)
    (hother : ∀ id', id ≠ id' → g'.slots id' = g.slots id') (id' : String) :
    s'.inflight id' + g.slots id' = s.inflight id' + g'.slots id' := by
  rw [inflight_insert h]
  split
  · rename_i heq
    exact heq ▸ hself
  · rename_i hne
    rw [hother id' (Ne.symm hne)]

/-- One effect changes the slots of sessions and of the call by the same amount; only when
    the map is drained, calls keep slots of sessions that are gone. -/
theorem ManagerEffect.slots (h : ManagerEffect g s o g' s') (hclosing : g.closing = true → s.closed = true)
    (hheld : ∀ id, g.slots id ≤ s.inflight id) :
    (o = .drainSessions ∧ s'.Drained) ∨ ∀ id, s'.inflight id + g.slots id = s.inflight id + g'.slots id := by
  -- A call that has a slot of a session that is gone contradicts `hheld`.
  have hgone : ∀ {claim : Claim} {id : String}, g.Holds claim → claim.sessionID = id →
      s.sessions.lookup id ≠ none := fun {claim id} hholds hid hnone => by
    have := hheld id
    rw [hholds.slots, if_pos hid, inflight_none hnone] at this
    exact Nat.not_succ_le_zero 0 this
  have hnot : ∀ id, Phase.slots { g with holds := false } id = 0 := fun id => slots_of_not rfl
  cases h with
  | idle | sent | boxMade | guardDropped | boxRemoved | cleaned | closed | placeFreed => exact .inr fun _ => rfl
  | touched hlookup hsame =>
    refine .inr (slots_insert rfl ?_ fun _ _ => rfl)
    rw [hsame.inflight, inflight_some hlookup]
  | @made _ id _ hfree _ hnone =>
    refine .inr (slots_insert rfl ?_ fun id' hne => ?_)
    · rw [slots_of_not hfree.holds, inflight_none hnone, slots_take, if_pos rfl]
      rfl
    · rw [slots_of_not hfree.holds, slots_take, if_neg hne]
  | @joined _ id session _ hfree _ hlookup hsame =>
    refine .inr (slots_insert rfl ?_ fun id' hne => ?_)
    · rw [slots_of_not hfree.holds, inflight_some hlookup, slots_take, if_pos rfl, hsame.inflight]
      rfl
    · rw [slots_of_not hfree.holds, slots_take, if_neg hne]
  | published _ hlookup =>
    refine .inr (slots_insert rfl ?_ fun _ _ => rfl)
    rw [inflight_some hlookup]
    rfl
  | late hholds hid _ _ hnone => exact absurd hnone (hgone hholds hid)
  | gone hready hid hnone => exact absurd hnone (hgone hready.holds hid)
  | @released _ id claim session _ hready hid hlookup hsame =>
    have hpos := hheld id
    rw [hready.holds.slots, if_pos hid, inflight_some hlookup] at hpos
    refine .inr (slots_insert rfl ?_ fun id' hne => ?_)
    · rw [hready.holds.slots, if_pos hid, inflight_some hlookup, hsame.inflight, hnot]
      exact Nat.sub_add_cancel hpos
    · rw [hready.holds.slots, if_neg fun heq => hne (hid.symm.trans heq), hnot]
  | @retired _ id claim session hready hid hlookup hlast =>
    have hpos := hheld id
    rw [hready.holds.slots, if_pos hid, inflight_some hlookup] at hpos
    refine .inr fun id' => ?_
    have hlookup' : (s.retireTracked id).sessions.lookup id' = if id' = id then none else _ :=
      lookup_erase_ite _ _ _
    have hslots : Phase.slots (Phase.retire { g with holds := false } [session.retire true]) id' = 0 :=
      slots_of_not rfl
    rw [hslots, hready.holds.slots, inflight, hlookup']
    by_cases heq : id' = id
    · subst heq
      rw [if_pos rfl, if_pos hid, inflight_some hlookup]
      exact Nat.le_antisymm hpos hlast
    · rw [if_neg heq, if_neg fun h => heq (h.symm.trans hid)]
      rfl
  | @expired now ids hfree =>
    refine .inr fun id' => ?_
    have hslots : (g.retire (s.retireAll ids true)).slots id' = g.slots id' := rfl
    rw [hslots, inflight, inflight, takeExpired, lookup_filter]
    -- Sessions that expire have no slots.
    cases s.sessions.lookup id' with
    | none => rfl
    | some session =>
      rw [Option.filter_some]
      split
      · rfl
      · rename_i hexpires
        simp only [expires, Bool.not_eq_true', Bool.and_eq_false_iff, not_or,
          Bool.not_eq_false, decide_eq_true_eq] at hexpires
        rw [Option.map_some, Option.getD_some, hexpires.1.1]
        rfl
  | recovered _ _ hnone =>
    refine .inr (slots_insert rfl ?_ fun _ _ => rfl)
    rw [inflight_none hnone]
    rfl
  | drained _ hcloses => exact .inl ⟨rfl, hclosing hcloses, fun _ => rfl⟩

/-- A drained map stays drained. -/
theorem ManagerEffect.drained_of_drained (h : ManagerEffect g s o g' s') (hd : s.Drained) : s'.Drained := by
  obtain ⟨hclosed, hnone⟩ := hd
  have hsome : ∀ {id : String} {session : TerminalSession} {P : Prop},
      s.sessions.lookup id = some session → P := fun h => nomatch (hnone _).symm.trans h
  cases h with
  | idle | sent | boxMade | late | guardDropped | gone | boxRemoved | cleaned | placeFreed =>
    exact ⟨hclosed, hnone⟩
  | touched hlookup | published _ hlookup | released _ _ hlookup | retired _ _ hlookup => exact hsome hlookup
  | made _ hopen | joined _ hopen | recovered _ hopen => nomatch hclosed.symm.trans hopen
  | closed => exact ⟨rfl, hnone⟩
  | expired =>
    refine ⟨hclosed, fun id => ?_⟩
    rw [takeExpired, lookup_filter, hnone]
    rfl
  | drained => exact ⟨hclosed, fun _ => rfl⟩

theorem ManagerEffect.closing (h : ManagerEffect g s o g' s') (hclosing : g.closing = true → s.closed = true) :
    (g'.closing = true → s'.closed = true) ∧ (s.closed = true → s'.closed = true) := by
  cases h with
  | closed => exact ⟨fun _ => rfl, fun _ => rfl⟩
  | _ => exact ⟨hclosing, id⟩

/-! ## Counters -/

/-- The call has places, tracked cleanups and a creation guard of its own. -/
structure Owes (g : Phase) (s : ManagerState) : Prop where
  places : g.places ≤ s.activeSessionReservations
  tracked : g.tracked ≤ s.pendingCleanups
  creating : (if g.creating = true then 1 else 0) ≤ s.pendingCreations

/-- Counters change by what the map and the call have more or less. -/
structure Balance (g : Phase) (s : ManagerState) (g' : Phase) (s' : ManagerState) : Prop where
  places : s'.activeSessionReservations + (s.mapped (·.capacityReserved) + g.places) =
    s.activeSessionReservations + (s'.mapped (·.capacityReserved) + g'.places)
  creations : s'.pendingCreations + (if g.creating = true then 1 else 0) =
    s.pendingCreations + if g'.creating = true then 1 else 0
  cleanups : s'.pendingCleanups + g.tracked = s.pendingCleanups + g'.tracked

theorem Balance.same {p : Nat} (h : s'.mapped (·.capacityReserved) = p)
    (hp : s.mapped (·.capacityReserved) = p)
    (hcounters : (s'.activeSessionReservations, s'.pendingCreations, s'.pendingCleanups) =
      (s.activeSessionReservations, s.pendingCreations, s.pendingCleanups))
    (hg : (g'.places, g'.creating, g'.tracked) = (g.places, g.creating, g.tracked)) : Balance g s g' s' := by
  simp only [Prod.mk.injEq] at hcounters hg
  refine ⟨?_, ?_, ?_⟩
  · rw [hcounters.1, h, hp, hg.1]
  · rw [hcounters.2.1, hg.2.1]
  · rw [hcounters.2.2, hg.2.2]

/-- The counters change with what they count. -/
theorem ManagerEffect.balance (h : ManagerEffect g s o g' s') (hown : Owes g s) : Balance g s g' s' := by
  cases h with
  | idle | sent | boxMade | late | gone | boxRemoved | closed => exact .same rfl rfl rfl rfl
  | touched hlookup hsame | released _ _ hlookup hsame =>
    exact .same (mapped_put _ hlookup hsame.capacityReserved) rfl rfl rfl
  | @published _ boxID session _ _ hlookup =>
    have hmapped : (s.put _ { session with boxID := boxID }).mapped (·.capacityReserved) = _ :=
      mapped_put _ hlookup rfl
    exact .same hmapped rfl rfl rfl
  | @joined _ _ session _ hfree _ hlookup hsame =>
    refine .same (mapped_put _ hlookup hsame.capacityReserved) rfl rfl ?_
    rw [hfree.creating]
    rfl
  | made hfree _ hnone =>
    refine ⟨?_, ?_, rfl⟩
    · rw [mapped, mapped, make, countValues_insert _ hnone]
      change s.activeSessionReservations + 1 + _ = _ + (_ + 1 + g.places)
      omega
    · rw [hfree.creating]
      rfl
  | recovered _ _ hnone =>
    refine ⟨?_, rfl, rfl⟩
    rw [mapped, mapped, countValues_insert _ hnone]
    change s.activeSessionReservations + 1 + _ = _ + (_ + 1 + g.places)
    omega
  | guardDropped hcreating =>
    have hpos := hown.creating
    rw [if_pos hcreating] at hpos
    refine ⟨rfl, ?_, rfl⟩
    rw [if_pos hcreating]
    exact Nat.sub_add_cancel hpos
  | @retired _ id claim session hready _ hlookup =>
    have herase := countValues_erase (fun session : TerminalSession => session.capacityReserved) hlookup
    obtain ⟨-, hplaces, htracked⟩ := hready.clean
    refine ⟨?_, rfl, ?_⟩
    · change s.activeSessionReservations + (AList.countValues _ s.sessions + g.places) =
        s.activeSessionReservations + (AList.countValues _ (s.sessions.erase id) + retiredPlaces [session.retire true])
      rw [← herase, hplaces, retiredPlaces, List.countP_singleton]
      rfl
    · rw [htracked]
      rfl
  | @expired now ids hfree hperm =>
    have hmapped : (s.takeExpired now).mapped (·.capacityReserved) + retiredPlaces (s.retireAll ids true) =
        s.mapped (·.capacityReserved) := mapped_takeExpired Retired.capacityReserved true hperm
    have htracked : retiredTracked (s.retireAll ids true) = (s.expired now).length := by
      rw [retiredTracked, countP_retireAll, hperm.countP_eq, ManagerState.expired,
        countP_lookup _ fun e he => (List.mem_filter.mp he).1, List.length_map]
      exact List.countP_eq_length.mpr fun _ _ => rfl
    obtain ⟨-, hplaces, htracked₀⟩ := hfree.clean
    refine ⟨?_, rfl, ?_⟩
    · change s.activeSessionReservations + _ = s.activeSessionReservations + (_ + retiredPlaces _)
      omega
    · rw [htracked₀]
      exact congrArg (s.pendingCleanups + ·) htracked.symm
  | @cleaned capacityReserved cleanupTracked hplaces htracked =>
    have hplaces₀ := hown.places
    have htracked₀ := hown.tracked
    refine ⟨?_, rfl, ?_⟩
    · change (if _ then _ else _) + (_ + g.places) = _ + (s.mapped (·.capacityReserved) + if _ then _ else _)
      cases capacityReserved with
      | false => rfl
      | true =>
        have := hplaces rfl
        rw [if_pos rfl, if_pos rfl]
        omega
    · change (if _ then _ else _) + g.tracked = _ + if _ then _ else _
      cases cleanupTracked with
      | false => rfl
      | true =>
        have := htracked rfl
        rw [if_pos rfl, if_pos rfl]
        omega
  | @drained ids hfree _ hperm =>
    have hmapped : retiredPlaces (s.retireAll ids false) = s.mapped (·.capacityReserved) :=
      mapped_drained Retired.capacityReserved false hperm
    have htracked : retiredTracked (s.retireAll ids false) = 0 := by
      rw [retiredTracked, mapped_drained _ _ hperm]
      exact List.countP_eq_zero.mpr fun _ _ h => by cases h
    obtain ⟨-, hplaces, htracked₀⟩ := hfree.clean
    refine ⟨?_, rfl, ?_⟩
    · change s.activeSessionReservations + _ = s.activeSessionReservations + (0 + retiredPlaces _)
      omega
    · rw [htracked₀]
      exact congrArg (s.pendingCleanups + ·) htracked.symm
  | placeFreed hplaces =>
    have := hown.places
    refine ⟨?_, rfl, rfl⟩
    change s.activeSessionReservations - 1 + (_ + g.places) = _ + (s.mapped (·.capacityReserved) + (g.places - 1))
    omega

/-! ## Runs -/

/-- The slots of sessions are those of the calls, unless the map was drained, and the
    counters are right. -/
structure Accounts (s : ManagerState) (gs : List Phase) : Prop where
  closing : ∀ g ∈ gs, g.closing = true → s.closed = true
  slots : s.Drained ∨ ∀ id, s.inflight id = gs.countP (·.holdsSession id)
  places : s.activeSessionReservations = s.mapped (·.capacityReserved) + (gs.map (·.places)).sum
  creations : s.pendingCreations = gs.countP (·.creating)
  cleanups : s.pendingCleanups = (gs.map (·.tracked)).sum

theorem Accounts.owes (h : Accounts s gs) (hg : gs[i]? = some g) : Owes g s := by
  have hmem := List.mem_of_getElem? hg
  have hle : ∀ f : Phase → Nat, f g ≤ (gs.map f).sum := fun f => List.le_sum_of_mem (List.mem_map_of_mem hmem)
  refine ⟨?_, ?_, ?_⟩
  · rw [h.places]
    exact Nat.le_add_left_of_le (hle _)
  · rw [h.cleanups]
    exact hle _
  · rw [h.creations]
    split
    · exact List.countP_pos_iff.mpr ⟨g, hmem, ‹_›⟩
    · exact Nat.zero_le _

theorem slots_le_inflight (h : ∀ id, s.inflight id = gs.countP (·.holdsSession id)) (hg : gs[i]? = some g)
    (id : String) : g.slots id ≤ s.inflight id := by
  rw [h]
  unfold Phase.slots
  split
  · exact List.countP_pos_iff.mpr ⟨g, List.mem_of_getElem? hg, ‹_›⟩
  · exact Nat.zero_le _

/-- The slots after one effect. -/
theorem slots_set (h : ∀ id, s.inflight id = gs.countP (·.holdsSession id)) (hg : gs[i]? = some g)
    (hstep : ∀ id, s'.inflight id + g.slots id = s.inflight id + g'.slots id) (id : String) :
    s'.inflight id = (gs.set i g').countP (·.holdsSession id) := by
  have hset := List.countP_set_add (b := g') (·.holdsSession id) hg
  have := hstep id
  have := h id
  unfold Phase.slots at *
  omega

theorem Accounts.effect (h : Accounts s gs) (hg : gs[i]? = some g) (heffect : ManagerEffect g s o g' s') :
    Accounts s' (gs.set i g') := by
  have hclosing := h.closing g (List.mem_of_getElem? hg)
  have hbalance := heffect.balance (h.owes hg)
  have hsum : ∀ f : Phase → Nat, ((gs.set i g').map f).sum + f g = (gs.map f).sum + f g' :=
    fun f => List.sum_map_set_add f hg
  refine ⟨List.forall_mem_set (fun g₂ hg₂ hc => ?_) (heffect.closing hclosing).1, ?_, ?_, ?_, ?_⟩
  · exact (heffect.closing hclosing).2 (h.closing g₂ hg₂ hc)
  · rcases h.slots with hd | hslots
    · exact .inl (heffect.drained_of_drained hd)
    · exact (heffect.slots hclosing (slots_le_inflight hslots hg)).imp And.right (slots_set hslots hg)
  · have := hsum (·.places)
    have := hbalance.places
    have := h.places
    omega
  · have := List.countP_set_add (b := g') (·.creating) hg
    have := hbalance.creations
    have := h.creations
    omega
  · have := hsum (·.tracked)
    have := hbalance.cleanups
    have := h.cleanups
    omega

variable {p : ManagerPool}

/-- Slots and counters are right in every run. -/
theorem accounts {ok : ManagerPool → ManagerAction → Prop}
    (h : (managerMachine lib cfg).ReachableWhere ok p) : Accounts p.shared (phases p) := by
  refine manager_invariant (I := Accounts) ?_ ?_ (fun _ _ _ _ _ _ _ => Accounts.effect) ?_ h
  · rintro s ⟨clock, rfl⟩
    exact ⟨nofun, .inr fun _ => rfl, rfl, rfl, rfl⟩
  · intro p c _ ih
    have hfree := free_start c
    obtain ⟨-, hplaces, htracked⟩ := hfree.clean
    refine ⟨List.forall_mem_concat ih.closing fun hc => ?_, ih.slots.imp_right fun hslots id => ?_,
      ?_, ?_, ?_⟩
    · cases c <;> nomatch hc
    · have hzero : c.start.slots id = 0 := slots_of_not hfree.holds
      rw [hslots, List.countP_concat]
      change _ = _ + c.start.slots id
      rw [hzero, Nat.add_zero]
    · rw [List.sum_map_concat, hplaces]
      exact ih.places
    · rw [List.countP_concat, hfree.creating]
      exact ih.creations
    · rw [List.map_append, List.sum_append, List.map_singleton, List.sum_singleton, htracked]
      exact ih.cleanups
  · exact fun _ _ _ ih => ⟨ih.closing, ih.slots, ih.places, ih.creations, ih.cleanups⟩

/-! ## Boxes -/

/-- The box of a retired session is removed, if there is one. -/
def Retired.hasBox (boxID : String) (r : Retired) : Bool := trimSpace r.boxID ≠ "" && r.boxID = boxID

/-- How often a call has a box: to publish it, or to remove it. -/
def Phase.boxes (boxID : String) (g : Phase) : Nat :=
  (g.hand.toList ++ g.removes).count boxID

/-- How often a box is in use: in the map, or by a call. -/
def boxUses (boxID : String) (s : ManagerState) (g : Phase) : Nat :=
  s.mapped (fun session => (session.retire true).hasBox boxID) + g.boxes boxID

theorem count_retiredBoxes (boxID : String) (retired : List Retired) :
    (retiredBoxes retired).count boxID = retired.countP (Retired.hasBox boxID) := by
  rw [retiredBoxes, List.count, List.countP_map, List.countP_filter]
  refine List.countP_congr fun r _ => ?_
  simp [Retired.hasBox, and_comm]

theorem boxes_retire {retired : List Retired} (hhand : g.hand = none) (boxID : String) :
    (g.retire retired).boxes boxID = retired.countP (Retired.hasBox boxID) := by
  change (g.hand.toList ++ retiredBoxes retired).count boxID = _
  rw [hhand]
  exact count_retiredBoxes boxID retired

theorem boxes_clean (hclean : g.Clean) (hhand : g.hand = none) (boxID : String) : g.boxes boxID = 0 := by
  rw [← Phase.retire_clean hclean, boxes_retire hhand, List.countP_nil]

/-- A box is used or removed more often only when it is created. -/
theorem ManagerEffect.boxUses_le (h : ManagerEffect g s o g' s') (hrec : g.recovering = false) (boxID : String) :
    boxUses boxID s' g' + s'.removedBoxes.count boxID + s.createdBoxes.count boxID ≤
      boxUses boxID s g + s.removedBoxes.count boxID + s'.createdBoxes.count boxID := by
  have hfresh : ∀ session : TerminalSession, session.boxID = "" → (session.retire true).hasBox boxID = false := by
    intro session hbox
    rw [Retired.hasBox, TerminalSession.retire, hbox]
    rfl
  unfold boxUses
  cases h with
  | idle | sent | guardDropped | gone | cleaned | closed | placeFreed => exact Nat.le_refl _
  | touched hlookup hsame | released _ _ hlookup hsame | joined _ _ hlookup hsame =>
    refine Nat.le_of_eq ?_
    rw [mapped_put _ hlookup (by rw [TerminalSession.retire, hsame.boxID]; rfl)]
    rfl
  | made _ _ hnone =>
    refine Nat.le_of_eq ?_
    rw [mapped, make, countValues_insert _ hnone, hfresh _ rfl]
    rfl
  | @boxMade _ boxID' _ claim hready =>
    have hboxes := boxes_clean hready.clean hready.hand boxID
    have hmade : Phase.boxes boxID { g with hand := some boxID' } = [boxID'].count boxID := by
      rw [Phase.boxes, hready.clean.1]
      rfl
    rw [hboxes, hmade, List.count_append]
    change AList.countValues _ s.sessions + _ + s.removedBoxes.count boxID + _ ≤
      AList.countValues _ s.sessions + _ + _ + _
    omega
  | @published _ boxID' session _ hhand hlookup =>
    have hreplace := countValues_replace
      (fun session : TerminalSession => (session.retire true).hasBox boxID) hlookup
      (w := { session with boxID := boxID' })
    have hhas : (if Retired.hasBox boxID (TerminalSession.retire { session with boxID := boxID' } true) = true
        then 1 else 0) ≤ [boxID'].count boxID := by
      split <;> rename_i hbox
      · simp only [Retired.hasBox, TerminalSession.retire, Bool.and_eq_true] at hbox
        rw [of_decide_eq_true hbox.2, List.count_singleton_self]
      · exact Nat.zero_le _
    have hbefore : g.boxes boxID = [boxID'].count boxID + g.removes.count boxID := by
      rw [Phase.boxes, hhand]
      exact List.count_append
    have hafter : Phase.boxes boxID { g with hand := none } = g.removes.count boxID := rfl
    rw [hbefore, hafter]
    change AList.countValues _ (s.sessions.insert _ _) + _ + s.removedBoxes.count boxID + _ ≤
      AList.countValues _ s.sessions + _ + _ + s.createdBoxes.count boxID
    omega
  | @late _ boxID' _ _ _ hhand hclean =>
    have hbefore : g.boxes boxID = [boxID'].count boxID := by
      rw [Phase.boxes, hhand, hclean.1]
      rfl
    rw [hbefore]
    exact Nat.le_refl _
  | @retired _ _ _ session hready _ hlookup =>
    have herase := countValues_erase
      (fun session : TerminalSession => (session.retire true).hasBox boxID) hlookup
    rw [boxes_retire (g := { g with holds := false }) hready.hand, boxes_clean hready.clean hready.hand,
      List.countP_singleton]
    change AList.countValues _ (s.sessions.erase _) + _ + s.removedBoxes.count boxID + _ ≤
      AList.countValues _ s.sessions + 0 + _ + s.createdBoxes.count boxID
    omega
  | expired hfree hperm =>
    have hmapped := mapped_takeExpired (Retired.hasBox boxID) true hperm
    rw [boxes_retire hfree.hand, boxes_clean hfree.clean hfree.hand, hmapped]
    exact Nat.le_refl _
  | @boxRemoved boxID' rest hremoves =>
    have hbefore : g.boxes boxID = Phase.boxes boxID { g with removes := rest } + [boxID'].count boxID := by
      simp only [Phase.boxes, hremoves, List.count_append, List.count_cons, List.count_nil]
      omega
    rw [hbefore, List.count_append]
    change AList.countValues _ s.sessions + _ + _ + _ ≤
      AList.countValues _ s.sessions + _ + _ + s.createdBoxes.count boxID
    omega
  | recovered hrec' => nomatch hrec.symm.trans hrec'
  | @drained ids hfree _ hperm =>
    have hdrain : (g.drain (s.retireAll ids false)).boxes boxID ≤ (g.retire (s.retireAll ids false)).boxes boxID := by
      change (g.hand.toList ++ if g.preserving = true then [] else _).count boxID ≤ (g.hand.toList ++ _).count boxID
      rw [List.count_append, List.count_append]
      refine Nat.add_le_add_left ?_ _
      split
      · exact Nat.zero_le _
      · exact Nat.le_refl _
    rw [boxes_retire hfree.hand, mapped_drained _ _ hperm] at hdrain
    rw [boxes_clean hfree.clean hfree.hand]
    change 0 + _ + s.removedBoxes.count boxID + _ ≤
      AList.countValues _ s.sessions + 0 + _ + s.createdBoxes.count boxID
    have hmapped : (s.mapped fun session => (session.retire false).hasBox boxID) =
      AList.countValues (fun session : TerminalSession => (session.retire true).hasBox boxID) s.sessions := rfl
    omega

/-- No call recovers, boxes are created once, and are not used or removed more often. -/
structure BoxesOwned (s : ManagerState) (gs : List Phase) : Prop where
  calls : ∀ g ∈ gs, g.recovering = false
  created : s.createdBoxes.Nodup
  owned : ∀ boxID, s.mapped (fun session => (session.retire true).hasBox boxID) +
    (gs.map (Phase.boxes boxID)).sum + s.removedBoxes.count boxID ≤ s.createdBoxes.count boxID

theorem ManagerEffect.created (h : ManagerEffect g s o g' s') :
    g'.recovering = g.recovering ∧ (s.createdBoxes.Nodup → s'.createdBoxes.Nodup) := by
  cases h with
  | boxMade _ hfresh =>
    exact ⟨rfl, fun hnodup => hnodup.append (List.nodup_singleton _) (List.disjoint_singleton.mpr hfresh)⟩
  | _ => exact ⟨rfl, id⟩

theorem BoxesOwned.effect (h : BoxesOwned s gs) (hg : gs[i]? = some g) (heffect : ManagerEffect g s o g' s') :
    BoxesOwned s' (gs.set i g') := by
  have hrec := h.calls g (List.mem_of_getElem? hg)
  refine ⟨List.forall_mem_set h.calls (heffect.created.1.trans hrec), heffect.created.2 h.created,
    fun boxID => ?_⟩
  have huses := heffect.boxUses_le hrec boxID
  have hsum := List.sum_map_set_add (Phase.boxes boxID) hg (b := g')
  have howned := h.owned boxID
  unfold boxUses at huses
  omega

/-- The step does not start a call of `recover_sessions`. -/
def NoRecovery (_ : ManagerPool) (a : ManagerAction) : Prop := ∀ candidates, a ≠ .spawn (.recover candidates)

/-- Without recovery no box is removed twice. -/
theorem boxes_removed_once (h : (managerMachine lib cfg).ReachableWhere NoRecovery p) :
    p.shared.removedBoxes.Nodup := by
  have howned : BoxesOwned p.shared (phases p) := by
    refine manager_invariant (I := BoxesOwned) ?_ ?_ (fun _ _ _ _ _ _ _ => BoxesOwned.effect) ?_ h
    · rintro s ⟨clock, rfl⟩
      exact ⟨nofun, List.nodup_nil, fun _ => Nat.le_refl 0⟩
    · intro p c hok ih
      refine ⟨List.forall_mem_concat ih.calls ?_, ih.created, fun boxID => ?_⟩
      · cases c with
        | recover candidates => exact absurd rfl (hok candidates)
        | _ => rfl
      · rw [List.sum_map_concat, boxes_clean (free_start c).clean (free_start c).hand]
        exact ih.owned boxID
    · exact fun _ _ _ ih => ⟨ih.calls, ih.created, ih.owned⟩
  refine List.nodup_iff_count_le_one.mpr fun boxID => ?_
  have hcreated := List.nodup_iff_count_le_one.mp howned.created boxID
  have := howned.owned boxID
  omega

/-! ## Everything together -/

/-- In every run: the slots of a session in the map are those of the calls that hold it, and
    such a session leaves the map only when `close_inner` drains it. The three counters are
    the sessions in the map with a place and the places still to be given back, the live
    creation guards, and the tracked sessions not yet cleaned up; what is subtracted from
    them is there. Without recovery no box is removed twice. -/
theorem sessions_balanced (lib : BoxLiteLib) (cfg : ManagerSettings) (p : ManagerPool)
    (h : (managerMachine lib cfg).Reachable p) :
    (∀ id session, p.shared.sessions.lookup id = some session →
      session.inflight = (phases p).countP (·.holdsSession id)) ∧
    (∀ a p' id, (managerMachine lib cfg).step p a = some p' → p.shared.sessions.lookup id ≠ none →
      p'.shared.sessions.lookup id = none → (phases p').countP (·.holdsSession id) = 0 ∨
        ∃ i ans, a = .run i ans ∧ p.nextOp i = some .drainSessions) ∧
    p.shared.activeSessionReservations =
      p.shared.mapped (·.capacityReserved) + ((phases p).map (·.places)).sum ∧
    p.shared.pendingCreations = (phases p).countP (·.creating) ∧
    p.shared.pendingCleanups = ((phases p).map (·.tracked)).sum ∧
    (∀ i, (p.nextOp i = some .dropCreationGuard → 0 < p.shared.pendingCreations) ∧
      (p.nextOp i = some .releaseReservation → 0 < p.shared.activeSessionReservations) ∧
      ∀ reserved tracked, p.nextOp i = some (.dropCleanupGuard reserved tracked) →
        (reserved = true → 0 < p.shared.activeSessionReservations) ∧
        (tracked = true → 0 < p.shared.pendingCleanups)) ∧
    ((managerMachine lib cfg).ReachableWhere NoRecovery p → p.shared.removedBoxes.Nodup) := by
  have hacc := accounts h
  have hslots : ∀ {id : String}, p.shared.sessions.lookup id ≠ none →
      ∀ id, p.shared.inflight id = (phases p).countP (·.holdsSession id) := fun hsome =>
    hacc.slots.resolve_left fun hd => hsome (hd.2 _)
  refine ⟨fun id session hlookup => ?_, fun a p' id hs hsome hnone => ?_, hacc.places, hacc.creations,
    hacc.cleanups, fun i => ⟨fun hnext => ?_, fun hnext => ?_, fun reserved tracked hnext => ?_⟩,
    boxes_removed_once⟩
  · rw [← hslots (fun hnone => nomatch hnone.symm.trans hlookup) id, inflight_some hlookup]
  · rcases manager_cases h hs with ⟨c, -, hshared, -⟩ |
      ⟨i, ans, g, o, g', ha, hg, hnext, heffect, hphases⟩ | ⟨now, hshared, -⟩
    · exact absurd (hshared ▸ hnone) hsome
    · rcases heffect.slots (hacc.closing g (List.mem_of_getElem? hg))
        (slots_le_inflight (hslots hsome) hg) with ⟨rfl, -⟩ | hstep
      · exact .inr ⟨i, ans, ha, hnext⟩
      · left
        rw [hphases, ← slots_set (hslots hsome) hg hstep, inflight_none hnone]
    · rw [hshared] at hnone
      exact absurd hnone hsome
  · obtain ⟨g, hg, hcreating⟩ := allowed_of_nextOp h hnext
    rw [hacc.creations]
    exact List.countP_pos_of_getElem? _ hg hcreating
  · obtain ⟨g, hg, hplaces⟩ := allowed_of_nextOp h hnext
    exact Nat.lt_of_lt_of_le hplaces (hacc.owes hg).places
  · obtain ⟨g, hg, hplaces, htracked⟩ := allowed_of_nextOp h hnext
    exact ⟨fun hr => Nat.lt_of_lt_of_le (hplaces hr) (hacc.owes hg).places,
      fun ht => Nat.lt_of_lt_of_le (htracked ht) (hacc.owes hg).tracked⟩

/-! ## A run -/

/-- `NoRecovery`, as a test. -/
def noRecovery (_ : ManagerPool) : ManagerAction → Bool
  | .spawn (.recover _) => false
  | _ => true

theorem noRecovery_of_eq_true {a : ManagerAction} (h : noRecovery p a = true) :
    NoRecovery p a := by
  rintro candidates rfl
  nomatch h

/-- The manager is closed while a box is created, and the wait for it times out: the call
    that created the box removes it, and the place of the session is with the call that
    closes. -/
theorem sessions_balanced_late :
    ∃ p, (managerMachine .sample .sample).ReachableWhere NoRecovery p ∧ p.shared.sessions = ∅ ∧
      p.shared.removedBoxes = ["b"] ∧ p.shared.removedBoxes.Nodup ∧ (phases p)[1]?.map Phase.places = some 1 ∧
      p.shared.activeSessionReservations = 1 ∧ p.nextOp 0 = some .dropCreationGuard ∧
      0 < p.shared.pendingCreations := by
  have hrun := Machine.reachableWhere_runWhere noRecovery (fun _ _ => noRecovery_of_eq_true)
    ([.spawn (.execute { command := "x", sessionID := "s", createIfMissing := true })] ++
      ManagerAction.runs 0 [.none, .none] ++ [.spawn (.close false)] ++
      ManagerAction.runs 1 [.none, .none, .timeout, .order ["s"]] ++
      ManagerAction.runs 0 [.created (.ok "b"), .none, .none])
    (ManagerPool.fresh_reachable .sample .sample) rfl
  obtain ⟨-, -, -, -, -, hcounters, honce⟩ :=
    sessions_balanced .sample .sample _ (hrun.mono fun _ _ _ => trivial)
  exact ⟨_, hrun, rfl, rfl, honce hrun, rfl, rfl, rfl, (hcounters 0).1 rfl⟩

end Onlyboxes.BoxLite
