import Onlyboxes.Spec.CallMoves

/-!
# Reservations are counted exactly

A provisional route counts the dispatches that use its reservation. The count is exact
in every run, whatever the interleaving: it is the number of dispatches that obtained
the reservation and have not confirmed, committed or released it. A dispatch returns
without having done so only after a commit failed.

## Key results

- `Counted.of_reachable`: the count is the number of holders
- `reservations_settled`: without failing commits every reservation is settled exactly
  once, and gone when its holders have returned
- `reservation_leaks`: after a failed commit it stays
-/

namespace Onlyboxes.Console

open Text RouteState

/-- The call holds reservation `id` of session `k`. -/
def CallState.Holds (k : String) (id : Nat) (g : CallState) : Prop :=
  g.sessionID = k ∧ g.heldID = some id

instance (k : String) (id : Nat) (g : CallState) : Decidable (g.Holds k id) := by
  unfold CallState.Holds
  infer_instance

open CallState

/-- Uses are counted: by the calls that hold the reservation, which was issued for their
    session, on the worker they obtained it for. -/
structure Counted (log : RouteLog) (gs : List CallState) : Prop where
  uses : ∀ k r, log.state.route k = some r → r.reservationID ≠ 0 →
    r.provisionalUses = gs.countP fun g => g.Holds k r.reservationID
  issued : ∀ g ∈ gs, ∀ id, g.heldID = some id → (g.sessionID, id) ∈ log.opened
  node : ∀ g ∈ gs, ∀ o, g.obtained = some o → g.held → ∀ r,
    log.state.route g.sessionID = some r → r.reservationID ≠ 0 →
      r.reservationID = o.reservationID → r.nodeID = o.nodeID

namespace Counted

variable {log log' : RouteLog} {gs : List CallState} {i : Nat} {g g' : CallState}

theorem heldID_eq_some {id : Nat} (h : g.heldID = some id) :
    ∃ o, g.obtained = some o ∧ g.held ∧ o.reservationID = id := by
  unfold CallState.heldID at h
  split at h
  · nomatch h
  · rename_i o ho
    split at h
    · rename_i hheld
      exact ⟨o, ho, hheld, Option.some.inj h⟩
    · nomatch h

/-- The holders after one call moved. -/
theorem countP_set {p : CallState → Prop} [DecidablePred p] (g' : CallState)
    (hg : gs[i]? = some g) :
    (gs.set i g').countP (fun x => p x) + (if p g then 1 else 0) =
      gs.countP (fun x => p x) + if p g' then 1 else 0 := by
  simpa only [decide_eq_true_eq] using List.countP_set_add (fun x => decide (p x)) hg

variable {s' : RouteState}

/-- A move in place: every provisional route stays with its id and worker, and gains or
    loses the moving call as a user. -/
theorem inPlace (h : Counted log gs) (hg : gs[i]? = some g) (hsession : g'.sessionID = g.sessionID)
    (hids : log.IdsOK)
    (huses : ∀ k r', s'.route k = some r' → r'.reservationID ≠ 0 → ∃ r, log.state.route k = some r ∧ r.nodeID = r'.nodeID ∧ r.reservationID = r'.reservationID ∧ r'.provisionalUses + (if g.Holds k r'.reservationID then 1 else 0) = r.provisionalUses + if g'.Holds k r'.reservationID then 1 else 0)
    (hnew : g'.obtained = g.obtained ∧ g'.held = g.held ∨ g'.held = false ∨ ∃ r o, log.state.route g.sessionID = some r ∧ g'.obtained = some o ∧ o.nodeID = r.nodeID ∧ o.reservationID = r.reservationID ∧ r.reservationID ≠ 0) :
    Counted { log with state := s' } (gs.set i g') where
  uses := by
    intro k r' hr' hne
    obtain ⟨r, hr, -, hid, hsum⟩ := huses k r' hr' hne
    have hold := h.uses k r hr (by rw [hid]; exact hne)
    rw [hid] at hold
    have hset := countP_set (p := Holds k r'.reservationID) g' hg
    omega
  issued := by
    refine List.forall_mem_set h.issued fun id hid => ?_
    obtain ⟨o, ho, hheld, rfl⟩ := heldID_eq_some hid
    rw [hsession]
    rcases hnew with ⟨hobtained, hheld'⟩ | hunheld | ⟨r, o', hr, ho', -, hid', hne⟩
    · have hgid : g.heldID = some o.reservationID := by
        unfold CallState.heldID
        rw [← hobtained, ho, ← hheld', hheld]
        rfl
      exact h.issued g (List.mem_of_getElem? hg) _ hgid
    · nomatch hunheld.symm.trans hheld
    · obtain rfl := Option.mem_unique ho ho'
      rw [hid']
      exact List.mem_of_lookup_eq_some ((hids.current _ r hr).1 hne)
  node := by
    intro x hx o ho hheld r' hr' hne hid
    rcases List.mem_or_eq_of_mem_set hx with hx | rfl
    · obtain ⟨r, hr, hnode, hid', -⟩ := huses _ r' hr' hne
      rw [← hnode]
      exact h.node x hx o ho hheld r hr (by rw [hid']; exact hne) (hid'.trans hid)
    · rw [hsession] at hr'
      obtain ⟨r, hr, hnode, hid', -⟩ := huses _ r' hr' hne
      rw [← hnode]
      rcases hnew with ⟨hobtained, hheld'⟩ | hunheld | ⟨r₀, o', hr₀, ho', hnode₀, -, -⟩
      · rw [hobtained] at ho
        rw [hheld'] at hheld
        exact h.node g (List.mem_of_getElem? hg) o ho hheld r hr (by rw [hid']; exact hne)
          (hid'.trans hid)
      · rw [hunheld] at hheld
        nomatch hheld
      · rw [ho] at ho'
        cases ho'
        rw [hr] at hr₀
        cases hr₀
        exact hnode₀.symm

/-- A call that opens a route is its only user. -/
theorem opened (h : Counted log gs) (hg : gs[i]? = some g) (hids : log.IdsOK)
    (hlen : log.opened.length + 1 < 2 ^ 64) {n : String} {id : Nat} (now : Int)
    (hid : id = nextReservationSeq log.state.terminalRouteReservationSeq)
    (hfree : g.obtained = none) (hsession : g'.sessionID = g.sessionID)
    (hobtained : ∃ inc, g'.obtained = some ⟨n, id, inc⟩) (hheld : g'.held) :
    Counted
      { state := log.state.openRoute g.sessionID n now
        opened := (g.sessionID, id) :: log.opened }
      (gs.set i g') := by
  obtain ⟨hseq, -, hrange⟩ := hids.fresh (by omega)
  have hnext : id = log.opened.length + 1 := by
    rw [hid, nextReservationSeq, hseq, Nat.mod_eq_of_lt hlen]
    rfl
  -- Nobody holds the new id.
  have hfresh : ∀ x ∈ gs, ∀ k, ¬ x.Holds k id := by
    intro x hx k hholds
    have hle := (hrange _ (h.issued x hx id hholds.2)).2
    dsimp only at hle
    omega
  obtain ⟨inc, hobtained⟩ := hobtained
  have hheldID : g'.heldID = some id := by
    unfold CallState.heldID
    rw [hobtained, hheld]
    rfl
  have hgID : g.heldID = none := heldID_of_obtained_none hfree
  refine ⟨fun k r hr hne => ?_, fun x hx id' hid' => ?_, fun x hx o ho hxheld r hr hne hro => ?_⟩
  · dsimp only at hr
    rw [route_openRoute] at hr
    have hset := countP_set (p := Holds k r.reservationID) g' hg
    have hnot : ¬ g.Holds k r.reservationID := fun hholds => by
      rw [Holds, hgID] at hholds
      nomatch hholds.2
    rw [if_neg hnot] at hset
    split at hr
    · rename_i hk
      cases hr
      have hres : (provisionalRoute n now (nextReservationSeq
          log.state.terminalRouteReservationSeq)).reservationID = id := hid.symm
      rw [hres] at hset ⊢
      have hnew : g'.Holds k id := ⟨hsession.trans hk.symm, hheldID⟩
      have hzero : gs.countP (fun x => x.Holds k id) = 0 :=
        List.countP_eq_zero.mpr fun x hx hholds => hfresh x hx k (of_decide_eq_true hholds)
      rw [if_pos hnew, hzero] at hset
      show 1 = _
      omega
    · rename_i hk
      have hother : ¬ g'.Holds k r.reservationID := fun hholds =>
        hk (hholds.1.symm.trans hsession)
      rw [if_neg hother] at hset
      exact (h.uses k r hr hne).trans hset.symm
  · rcases List.mem_or_eq_of_mem_set hx with hx | rfl
    · exact List.mem_cons_of_mem _ (h.issued x hx id' hid')
    · rw [hheldID] at hid'
      cases hid'
      rw [hsession]
      exact List.mem_cons_self
  · dsimp only at hr
    rw [route_openRoute] at hr
    rcases List.mem_or_eq_of_mem_set hx with hx | rfl
    · split at hr
      · cases hr
        have hxID : x.heldID = some id := by
          unfold CallState.heldID
          rw [ho, hxheld]
          exact congrArg some (hro.symm.trans hid.symm)
        exact absurd ⟨rfl, hxID⟩ (hfresh x hx x.sessionID)
      · exact h.node x hx o ho hxheld r hr hne hro
    · rw [if_pos hsession] at hr
      cases hr
      rw [hobtained] at ho
      cases ho
      rfl

/-- A move that only touches the route of the call's session. -/
theorem atSession (h : Counted log gs) (hg : gs[i]? = some g)
    (hsession : g'.sessionID = g.sessionID) (hids : log.IdsOK)
    (hother : ∀ k, k ≠ g.sessionID → s'.route k = log.state.route k)
    (huses : ∀ r', s'.route g.sessionID = some r' → r'.reservationID ≠ 0 → ∃ r, log.state.route g.sessionID = some r ∧ r.nodeID = r'.nodeID ∧ r.reservationID = r'.reservationID ∧ r'.provisionalUses + (if g.heldID = some r'.reservationID then 1 else 0) = r.provisionalUses + if g'.heldID = some r'.reservationID then 1 else 0)
    (hnew : g'.held = false ∨ ∃ r o, log.state.route g.sessionID = some r ∧ g'.obtained = some o ∧ o.nodeID = r.nodeID ∧ o.reservationID = r.reservationID ∧ r.reservationID ≠ 0) :
    Counted { log with state := s' } (gs.set i g') := by
  apply h.inPlace hg hsession hids _ (.inr hnew)
  intro k r' hr' hne
  by_cases hk : k = g.sessionID
  · subst hk
    simpa only [Holds, true_and, hsession] using huses r' hr' hne
  · rw [hother k hk] at hr'
    have hnot : ¬ g.Holds k r'.reservationID := fun hholds => hk hholds.1.symm
    have hnot' : ¬ g'.Holds k r'.reservationID := fun hholds => hk (hholds.1.symm.trans hsession)
    exact ⟨r', hr', rfl, rfl, by rw [if_neg hnot, if_neg hnot']⟩

theorem heldID_of_unheld (h : g.held = false) : g.heldID = none := by
  unfold CallState.heldID
  rw [h]
  cases g.obtained <;> rfl

/-- A move that settles what the call held: a provisional route it leaves there lost the
    call as a user. -/
theorem settled (h : Counted log gs) (hg : gs[i]? = some g) (hsession : g'.sessionID = g.sessionID)
    (hids : log.IdsOK) (hheld : g'.held = false)
    (hother : ∀ k, k ≠ g.sessionID → s'.route k = log.state.route k)
    (huses : ∀ r', s'.route g.sessionID = some r' → r'.reservationID ≠ 0 → ∃ r, log.state.route g.sessionID = some r ∧ r.nodeID = r'.nodeID ∧ r.reservationID = r'.reservationID ∧ r'.provisionalUses + (if g.heldID = some r'.reservationID then 1 else 0) = r.provisionalUses) :
    Counted { log with state := s' } (gs.set i g') := by
  apply h.atSession hg hsession hids hother _ (.inl hheld)
  intro r' hr' hne
  obtain ⟨r, hr, hnode, hid, hsum⟩ := huses r' hr' hne
  refine ⟨r, hr, hnode, hid, ?_⟩
  rw [hsum, heldID_of_unheld hheld]
  rfl

/-- Every move keeps the count exact. -/
theorem move (h : Counted log gs) (hinv : log.Inv) (hlen : log'.opened.length < 2 ^ 64)
    (hg : gs[i]? = some g) (hwf : g.Wf) {g₁ : CallState} (hmove : Moves log g log' g₁)
    (hsame : SameHold g₁ g') : Counted log' (gs.set i g') := by
  have hput : ∀ (s : RouteState) (r : TerminalSessionRoute) (k : String), k ≠ g.sessionID →
      (s.putRoute g.sessionID r).route k = s.route k := by
    intro s r k hk
    rw [route_putRoute, if_neg hk]
  have hdelete : ∀ (s : RouteState) (r : TerminalSessionRoute) (k : String), k ≠ g.sessionID →
      (s.deleteTerminalSessionRouteLocked g.sessionID r).route k = s.route k := by
    intro s r k hk
    rw [route_delete, if_neg hk]
  cases hmove with
  | quiet hq =>
    apply h.inPlace hg hsame.sessionID hinv.ids _ (.inl ⟨hsame.obtained, hsame.held⟩)
    intro k r' hr' hne
    obtain ⟨r, hr, hnode, hid, huses⟩ := hq.provisional hr' hne
    refine ⟨r, hr, hnode, hid, ?_⟩
    simp only [Holds, hsame.sessionID, hsame.heldID, huses]
  | view hkind hr =>
    have hgheld : g.heldID = none := heldID_of_unheld (hwf.dispatch hkind)
    apply h.settled hg hsame.sessionID hinv.ids hsame.held (fun _ _ => rfl)
    intro r' hr' _
    exact ⟨r', hr', rfl, rfl, by rw [hgheld]; rfl⟩
  | @join r now hkind hfree hr =>
    have hgheld : g.heldID = none := heldID_of_obtained_none hfree
    have hheldID : g'.heldID = if r.reservationID ≠ 0 then some r.reservationID else none := by
      rw [hsame.heldID]
      unfold CallState.heldID CallState.obtain
      dsimp only
      by_cases hzero : r.reservationID = 0 <;> simp [hzero]
    apply h.atSession hg hsame.sessionID hinv.ids (hput _ _)
    · intro r' hr' hne
      rw [route_putRoute, if_pos rfl] at hr'
      cases hr'
      have hne : r.reservationID ≠ 0 := hne
      refine ⟨r, hr, rfl, rfl, ?_⟩
      rw [hgheld, hheldID, if_pos hne]
      unfold joined
      dsimp only
      rw [if_pos hne, if_pos rfl]
      rfl
    · by_cases hzero : r.reservationID = 0
      · left
        rw [hsame.held]
        exact decide_eq_false (not_not.mpr hzero)
      · exact .inr ⟨r, _, hr, hsame.obtained, rfl, rfl, hzero⟩
  | @opened n id now hkind hfree hn hnone hid =>
    have hpos : id ≠ 0 := by
      rw [hid]
      exact nextReservationSeq_ne_zero _
    apply h.opened hg hinv.ids hlen now hid hfree hsame.sessionID ⟨_, hsame.obtained⟩
    rw [hsame.held]
    exact decide_eq_true hpos
  | @confirm o r now ho hr hnode hown =>
    apply h.settled hg hsame.sessionID hinv.ids hsame.held (hput _ _)
    intro r' hr' hne
    rw [route_putRoute, if_pos rfl] at hr'
    cases hr'
    unfold confirmed at hne ⊢
    split at hne
    · exact absurd rfl hne
    · rename_i hzero
      -- Under id 0 the route is only touched, and the call was no user of it.
      have hgheld : g.heldID ≠ some r.reservationID := fun hheld => by
        obtain ⟨o', ho', -, hid⟩ := heldID_eq_some hheld
        rw [ho] at ho'
        cases ho'
        exact hne (hid.symm.trans (not_not.mp hzero))
      rw [if_neg hzero]
      exact ⟨r, hr, rfl, rfl, by rw [if_neg hgheld]; rfl⟩
  | commit rows lease now ho hr hnode hown =>
    apply h.settled hg hsame.sessionID hinv.ids hsame.held (hput { log.state with rows := rows } _)
    intro r' hr' hne
    rw [route_putRoute, if_pos rfl] at hr'
    cases hr'
    exact absurd rfl hne
  | @release o r ho hr hnode hid hne huses =>
    apply h.settled hg hsame.sessionID hinv.ids hsame.held (hput _ _)
    intro r' hr' _
    rw [route_putRoute, if_pos rfl] at hr'
    cases hr'
    have hgheld : g.heldID = some r.reservationID := by
      unfold CallState.heldID
      rw [ho, hwf.unheld o ho hne, hid]
      rfl
    refine ⟨r, hr, rfl, rfl, ?_⟩
    rw [if_pos hgheld]
    dsimp only
    omega
  | remove ho hr hnode hid hne huses =>
    apply h.settled hg hsame.sessionID hinv.ids hsame.held (hdelete _ _)
    intro r' hr' _
    rw [route_delete, if_pos rfl] at hr'
    nomatch hr'
  | clear rows ho hwhy hr hnode =>
    apply h.settled hg hsame.sessionID hinv.ids hsame.held (hdelete { log.state with rows := rows } _)
    intro r' hr' _
    rw [route_delete, if_pos rfl] at hr'
    nomatch hr'
  | @vain o ho hvain =>
    apply h.settled hg hsame.sessionID hinv.ids hsame.held (fun _ _ => rfl)
    intro r hr hne
    -- The call was no user of this route: its worker would be the same.
    have hgheld : g.heldID ≠ some r.reservationID := fun hheld => by
      obtain ⟨o', ho', hgh, hid⟩ := heldID_eq_some hheld
      rw [ho] at ho'
      cases ho'
      have hnode := h.node g (List.mem_of_getElem? hg) o ho hgh r hr hne hid.symm
      exact hvain (by rw [hid]; exact hne) r hr hnode hid.symm
    exact ⟨r, hr, rfl, rfl, by rw [if_neg hgheld]; rfl⟩

/-- In every run with fewer than `2 ^ 64` reservations the count is exact. -/
theorem of_reachable {lib : GoLib} {ok : ConsolePool → ConsoleAction → Prop} {p : ConsolePool}
    (h : (consoleSystem lib).machine.ReachableWhere ok p)
    (hlen : p.shared.routes.opened.length < 2 ^ 64) :
    Counted p.shared.routes (p.threads.map (callState lib)) := by
  refine ConsolePool.invariant lib
    (P := fun log gs => log.opened.length < 2 ^ 64 → Counted log gs) ?_ ?_ ?_ ?_ h hlen
  · intro s hstart _
    obtain ⟨-, -, hids⟩ := wellFormed_of_started hstart
    refine ⟨fun k r hr hne => absurd (hids k r hr).1 hne, ?_, ?_⟩
    · intro g hg
      nomatch hg
    · intro g hg
      nomatch hg
  · intro log gs c ih hlen
    have hc := ih hlen
    have hnone : (ServiceCall.start lib c).obtained = none := by cases c <;> rfl
    have hheld := heldID_of_obtained_none hnone
    refine ⟨fun k r hr hne => ?_, List.forall_mem_concat hc.issued fun id hid => ?_,
      List.forall_mem_concat hc.node fun o ho => nomatch hnone.symm.trans ho⟩
    · rw [List.countP_concat, hc.uses k r hr hne, if_neg]
      · rfl
      · exact fun hholds => nomatch hheld.symm.trans (of_decide_eq_true hholds).2
    · nomatch hheld.symm.trans hid
  · intro log gs s' hinv ih hq hlen
    have hc := ih hlen
    refine ⟨fun k r' hr' hne => ?_, hc.issued, fun g hg o ho hheld r' hr' hne hid' => ?_⟩
    · obtain ⟨r, hr, -, hid, huses⟩ := hq.provisional hr' hne
      rw [← huses, ← hid]
      exact hc.uses k r hr (by rw [hid]; exact hne)
    · obtain ⟨r, hr, hnode, hid, -⟩ := hq.provisional hr' hne
      rw [← hnode]
      exact hc.node g hg o ho hheld r hr (by rw [hid]; exact hne) (hid.trans hid')
  · intro log gs log' i g g' g'' hinv ih hg hwf hmove hsame hlen
    have hle : log.opened.length ≤ log'.opened.length := by
      cases hmove <;> simp
    exact (ih (by omega)).move hinv hlen hg hwf hmove hsame

/-- Ids are issued once, so the holder of a route's reservation is a call for the same
    session. -/
theorem sessionID_eq (h : Counted log gs) (hids : log.IdsOK) (hlen : log.opened.length < 2 ^ 64)
    (hg : g ∈ gs) {k : String} {r : TerminalSessionRoute} (hr : log.state.route k = some r)
    (hne : r.reservationID ≠ 0) (hheld : g.heldID = some r.reservationID) : g.sessionID = k := by
  obtain ⟨-, hnodup, -⟩ := hids.fresh hlen
  have hmem := h.issued g hg _ hheld
  have hmem' := List.mem_of_lookup_eq_some ((hids.current k r hr).1 hne)
  exact congrArg Prod.fst (List.inj_on_of_nodup_map hnodup hmem hmem' rfl)

end Counted

/-! ## Settling -/

/-- The step is a commit that fails: its result carries no lease, or its write to the
    store fails. -/
def commitFails (lib : GoLib) (p : ConsolePool) : ConsoleAction → Bool
  | .run i ans =>
    match p.threads[i]? with
    | some ⟨_, _, .op (.commit sessionID nodeID id lease now) _⟩ =>
      match p.shared.exec lib.caseMap (.commit sessionID nodeID id lease now) ans with
      | some (_, .error _) => true
      | _ => false
    | _ => false
  | _ => false

/-- Only a failed commit is remembered as one. -/
theorem commitFailed_next (lib : GoLib) (g : CallState) (e : ServiceCallEvent)
    (h : ∀ sessionID nodeID id lease now err st,
      e ≠ ⟨.commit sessionID nodeID id lease now, .error err, st⟩) :
    (g.next lib e).commitFailed = g.commitFailed := by
  have hmiss : g.miss.commitFailed = g.commitFailed := by
    unfold CallState.miss
    split <;> rfl
  unfold CallState.next
  split <;> first | exact hmiss | rfl | skip
  · split <;> rfl
  · exact absurd rfl (h _ _ _ _ _ _ _)

/-- Without failing commits no call has seen one fail. -/
theorem commitFailed_eq_false {lib : GoLib} {p : ConsolePool}
    (h : (consoleSystem lib).machine.ReachableWhere (fun p a => commitFails lib p a = false) p) :
    ∀ t ∈ p.threads, (callState lib t).commitFailed = false := by
  apply h.invariant (P := fun p => ∀ t ∈ p.threads, (callState lib t).commitFailed = false)
  · intro p hinit t ht
    rw [hinit.2] at ht
    nomatch ht
  · intro p a p' _ ih hok hs
    rcases ThreadSystem.step_cases hs with ⟨c, rfl, rfl⟩ |
      ⟨i, ans, t, o, k, s', r, rfl, ht, hprog, hexec, rfl⟩ | ⟨e, s', rfl, -, rfl⟩
    · exact List.forall_mem_concat ih (by cases c <;> rfl)
    · refine List.forall_mem_set ih ?_
      have hnext := commitFailed_next lib (callState lib t) ⟨o, r, s'.routes.opened⟩
      rw [ih t (List.mem_of_getElem? ht)] at hnext
      apply hnext
      intro sessionID nodeID id lease now err st heq
      obtain ⟨rfl, hr, -⟩ := Event.mk.inj heq
      obtain rfl := eq_of_heq hr
      obtain ⟨call, log, prog⟩ := t
      dsimp only at hprog
      subst hprog
      have hexec : p.shared.exec lib.caseMap (.commit sessionID nodeID id lease now) ans =
          some (s', .error err) := hexec
      simp only [commitFails, ht, hexec] at hok
      nomatch hok
    · exact ih

/-- A call that returned holds nothing and settled everything it obtained, unless a
    commit of it failed. -/
theorem settled_of_returned {lib : GoLib} {t : ConsoleThread} (hkeeps : CallKeeps lib (fun _ => True) t)
    (hret : t.prog = .ret ()) (hcommit : (callState lib t).commitFailed = false) :
    (callState lib t).heldID = none ∧
      (callState lib t).settledIDs = (callState lib t).obtainedIDs := by
  have hwf : (callState lib t).Wf := .of_kept t.call hkeeps.1
  have hmeets := hkeeps.2
  rw [hret, Prog.meets_ret] at hmeets
  have hreturns : ReturnsSettled (callState lib t) := hmeets
  have hheld : (callState lib t).held = false := by
    by_cases hkind : (callState lib t).kind = .dispatch
    · rcases hreturns hkind with hheld | hfailed
      · exact hheld
      · rw [hcommit] at hfailed
        nomatch hfailed
    · exact hwf.dispatch hkind
  have hnone := Counted.heldID_of_unheld hheld
  exact ⟨hnone, by rw [hwf.ids, hnone]; rfl⟩

/-- In every run without failing commits and with fewer than `2 ^ 64` reservations,
    `ProvisionalUses` is the number of calls that obtained the reservation and have not
    settled it, every call that has returned settled exactly the reservations it
    obtained, and no route has the reservation of calls that have all returned. -/
theorem reservations_settled (lib : GoLib) (p : ConsolePool)
    (h : (consoleSystem lib).machine.ReachableWhere (fun p a => commitFails lib p a = false) p)
    (hlen : p.shared.routes.opened.length < 2 ^ 64) :
    (∀ k r, p.shared.routes.state.route k = some r → r.reservationID ≠ 0 →
      r.provisionalUses =
        p.threads.countP fun t => (callState lib t).heldID = some r.reservationID) ∧
    (∀ t ∈ p.threads, t.prog = .ret () → (callState lib t).heldID = none ∧
      (callState lib t).settledIDs = (callState lib t).obtainedIDs) ∧
    (∀ id, id ≠ 0 →
      (∀ t ∈ p.threads, id ∈ (callState lib t).obtainedIDs → t.prog = .ret ()) →
      ∀ k r, p.shared.routes.state.route k = some r → r.reservationID ≠ id) := by
  have hcounted := Counted.of_reachable h hlen
  have hinv := (ServiceState.Inv.of_reachable h).routes
  have hkeeps := calls_keep h
  have hcommit := commitFailed_eq_false h
  have huses : ∀ k r, p.shared.routes.state.route k = some r → r.reservationID ≠ 0 →
      r.provisionalUses =
        p.threads.countP fun t => (callState lib t).heldID = some r.reservationID := by
    intro k r hr hne
    rw [hcounted.uses k r hr hne, List.countP_map]
    apply List.countP_congr
    intro t ht
    rw [Function.comp_apply, decide_eq_true_iff, decide_eq_true_iff]
    refine ⟨fun hholds => hholds.2, fun hheld => ⟨?_, hheld⟩⟩
    exact hcounted.sessionID_eq hinv.ids hlen (List.mem_map_of_mem ht) hr hne hheld
  refine ⟨huses, fun t ht hret => settled_of_returned (hkeeps t ht) hret (hcommit t ht),
    fun id hid hreturned k r hr heq => ?_⟩
  subst heq
  -- A provisional route has a use, so one of the calls holds its reservation.
  have hpos := ((hinv.wf.routes k r hr).provisional hid).2.1
  rw [huses k r hr hid] at hpos
  obtain ⟨t, ht, hheld⟩ := List.countP_pos_iff.mp hpos
  rw [decide_eq_true_eq] at hheld
  have hwf : (callState lib t).Wf := .of_kept t.call (hkeeps t ht).1
  have hobtained : r.reservationID ∈ (callState lib t).obtainedIDs := by
    rw [hwf.ids, hheld]
    exact List.mem_cons_self
  have hnone := (settled_of_returned (hkeeps t ht) (hreturned t ht hobtained) (hcommit t ht)).1
  rw [hheld] at hnone
  nomatch hnone

/-- The dispatch commits, and settles the reservation it obtained. -/
theorem reservations_settled_committed :
    ∃ p, (consoleSystem .sample).machine.ReachableWhere
        (fun p a => commitFails .sample p a = false) p ∧
      (∃ t ∈ p.threads, t.prog = .ret () ∧ (callState .sample t).obtainedIDs = [1]) ∧
      ∀ k r, p.shared.routes.state.route k = some r → r.reservationID ≠ 1 := by
  have hrun := Machine.reachableWhere_runWhere (fun p a => !commitFails .sample p a)
    (fun _ _ h => (Bool.not_eq_true' _).mp h) (dispatchToAnswer "-s" ++ [.run 0 (.store none), .run 0 .none,
      .run 0 .none]) (ConsolePool.fresh_reachable .sample) rfl
  refine ⟨_, hrun, ⟨_, List.mem_singleton_self _, rfl, rfl⟩, ?_⟩
  apply (reservations_settled .sample _ hrun (by decide)).2.2 1 (by decide)
  intro t ht _
  obtain rfl := List.mem_singleton.mp ht
  rfl

/-- The write of the commit fails: the dispatch returns, and its reservation stays in
    the route table with no call left that would settle it. -/
theorem reservation_leaks :
    ∃ p, (consoleSystem .sample).machine.Reachable p ∧ (∀ t ∈ p.threads, t.prog = .ret ()) ∧
      (∃ t ∈ p.threads, (callState .sample t).obtainedIDs = [1] ∧
        (callState .sample t).settledIDs = []) ∧
      ∃ r, p.shared.routes.state.route "s" = some r ∧ r.reservationID = 1 ∧
        r.provisionalUses = 1 := by
  have hrun := Machine.reachable_run
    (dispatchToAnswer "-s" ++ [.run 0 (.store (some "disk full")), .run 0 .none, .run 0 .none])
    (ConsolePool.fresh_reachable .sample) rfl
  refine ⟨_, hrun, fun t ht => ?_, ⟨_, List.mem_singleton_self _, rfl, rfl⟩, _, rfl, rfl, rfl⟩
  obtain rfl := List.mem_singleton.mp ht
  rfl

end Onlyboxes.Console
