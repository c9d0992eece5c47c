import Onlyboxes.Spec.RouteSteps
import Mathlib.Logic.Relation

/-!
# The life cycle of a route

What the operations of the route table do to it, said once. A *call* on behalf of
a dispatch opens a route or settles it in place (`Settles`); connections, expiry
and the session API only let a route drift (`Drifts`) or delete it. `Change` is
one such atomic change of the table, `Update` one that opens no route and `Quiet`
one that no call is behind.

Every operation of `RouteState` is a sequence of changes, so an invariant of the
table only has to be checked against `Change`, and what a dispatch has to expect
from the rest of the console is `Quiet`.

## Key results

- `Quiets.provisional`: nothing but a dispatch changes a provisional route in place
- `updates_claim`, `updates_commit`, ...: the other operations of a dispatch
- `removes_snapshot`, `removes_begin`, ...: all others remove rows and change the table quietly
- `Updates.sameIncarnation`: what an update leaves of a route
-/

namespace Onlyboxes.Console.RouteState

open Text Relation

/-- Updates of a route in place on behalf of a dispatch. -/
inductive Settles : TerminalSessionRoute → TerminalSessionRoute → Prop
  | touch (r : TerminalSessionRoute) (t : Int) : Settles r { r with lastUsedUnixMs := t }
  | join (r : TerminalSessionRoute) (t : Int) (h : r.reservationID ≠ 0) :
      Settles r { r with lastUsedUnixMs := t, provisionalUses := r.provisionalUses + 1 }
  | confirm (r : TerminalSessionRoute) (t : Int) (id : Nat) (hid : id ≠ 0)
      (hown : r.reservationID = id ∨ r.confirmedReservationID = id) :
      Settles r { r with
        lastUsedUnixMs := t, reservationID := 0, confirmedReservationID := id, provisionalUses := 0 }
  | commit (r : TerminalSessionRoute) (t lease created : Int) (id : Nat)
      (hown : r.reservationID = id ∨ r.confirmedReservationID = id)
      (hpos : 0 < lease) (hle : r.leaseExpiresUnixMs ≤ lease) :
      Settles r { r with
        leaseExpiresUnixMs := lease, createdAtUnixMs := created, lastUsedUnixMs := t,
        recoveryState := .ready, reservationID := 0,
        confirmedReservationID := if id ≠ 0 then id else r.confirmedReservationID,
        provisionalUses := 0 }
  | release (r : TerminalSessionRoute) (hres : r.reservationID ≠ 0) (h : 1 < r.provisionalUses) :
      Settles r { r with provisionalUses := r.provisionalUses - 1 }

/-- Updates of a route in place by the recovery handshake. -/
inductive Drifts : TerminalSessionRoute → TerminalSessionRoute → Prop
  | reconcile (r : TerminalSessionRoute) (lease : Int) (h : r.reservationID = 0) :
      Drifts r { r with leaseExpiresUnixMs := lease, recoveryState := .reconciling }
  | disconnect (r : TerminalSessionRoute) (h : r.reservationID = 0) :
      Drifts r { r with recoveryState := .unavailable }
  | recover (r : TerminalSessionRoute) (t : Int) :
      Drifts r { r with recoveryState := .ready, lastUsedUnixMs := t }

/-- Changes of the table that no dispatch is behind. -/
inductive Quiet : RouteState → RouteState → Prop
  | drift (s : RouteState) (k : String) (r r' : TerminalSessionRoute) (hr : s.route k = some r)
      (h : Drifts r r') : Quiet s (s.putRoute k r')
  | delete (s : RouteState) (k : String) (r : TerminalSessionRoute) (hr : s.route k = some r) :
      Quiet s (s.deleteTerminalSessionRouteLocked k r)
  | rows (s : RouteState) (rows : TerminalSessionRows) : Quiet s { s with rows := rows }
  | pruned (s : RouteState) (t : Int) : Quiet s { s with lastTerminalRoutePruneUnixMs := t }

/-- Changes that open no route. -/
inductive Update : RouteState → RouteState → Prop
  | quiet {s s' : RouteState} (h : Quiet s s') : Update s s'
  | settle (s : RouteState) (k : String) (r r' : TerminalSessionRoute) (hr : s.route k = some r)
      (h : Settles r r') : Update s (s.putRoute k r')

/-- The atomic changes of the route table. -/
inductive Change : RouteState → RouteState → Prop
  | update {s s' : RouteState} (h : Update s s') : Change s s'
  | opened (s : RouteState) (k n : String) (t : Int) (hnone : s.route k = none)
      (hk : trimSpace k = k ∧ k ≠ "") (hn : trimSpace n = n ∧ n ≠ "") :
      Change s (s.openRoute k n t)

/-- A sequence of quiet changes. -/
abbrev Quiets := ReflTransGen Quiet

/-- A sequence of updates. -/
abbrev Updates := ReflTransGen Update

/-- A sequence of changes. -/
abbrev Changes := ReflTransGen Change

variable {s' : RouteState}

theorem Quiets.updates {s : RouteState} (h : Quiets s s') : Updates s s' :=
  ReflTransGen.mono (fun _ _ => Update.quiet) _ _ h

theorem Updates.changes {s : RouteState} (h : Updates s s') : Changes s s' :=
  ReflTransGen.mono (fun _ _ => Change.update) _ _ h

/-- Routes drift or are deleted, and no row is touched. -/
structure Sweeps (s s' : RouteState) : Prop where
  quiets : Quiets s s'
  rows_eq : s'.rows = s.rows

/-- Rows and routes are deleted, quietly. -/
structure Removes (s s' : RouteState) : Prop where
  quiets : Quiets s s'
  rows : RowsDeleted s.rows s'.rows

section

variable {s s'' : RouteState} {k : String} {r r' : TerminalSessionRoute}

theorem Sweeps.refl (s : RouteState) : Sweeps s s := ⟨.refl, rfl⟩

theorem Sweeps.trans (h : Sweeps s s') (h' : Sweeps s' s'') : Sweeps s s'' :=
  ⟨h.quiets.trans h'.quiets, h'.rows_eq.trans h.rows_eq⟩

theorem Sweeps.drift (hr : s.route k = some r) (h : Drifts r r') : Sweeps s (s.putRoute k r') :=
  ⟨.single (.drift s k r r' hr h), rfl⟩

theorem Sweeps.delete (hr : s.route k = some r) : Sweeps s (s.deleteTerminalSessionRouteLocked k r) :=
  ⟨.single (.delete s k r hr), rows_delete s k r⟩

/-- A loop over routes. -/
theorem Sweeps.foldl {ι : Type} {step : RouteState → ι → RouteState} (xs : List ι) (s : RouteState)
    (h : ∀ s x, Sweeps s (step s x)) : Sweeps s (xs.foldl step s) :=
  List.foldl_invariant (P := Sweeps s) xs (.refl s) fun s' x _ hs => hs.trans (h s' x)

/-- `Sweeps.foldl` for a loop that also counts. -/
theorem Sweeps.foldl_fst {ι : Type} {step : RouteState × Nat → ι → RouteState × Nat} (xs : List ι)
    (acc : RouteState × Nat) (h : ∀ acc x, Sweeps acc.1 (step acc x).1) :
    Sweeps acc.1 (xs.foldl step acc).1 :=
  List.foldl_invariant (P := fun acc' => Sweeps acc.1 acc'.1) xs (.refl _)
    fun acc' x _ hs => hs.trans (h acc' x)

theorem Removes.refl (s : RouteState) : Removes s s := ⟨.refl, .refl _⟩

theorem Removes.trans (h : Removes s s') (h' : Removes s' s'') : Removes s s'' :=
  ⟨h.quiets.trans h'.quiets, h.rows.trans h'.rows⟩

theorem Sweeps.removes (h : Sweeps s s') : Removes s s' := ⟨h.quiets, .of_eq h.rows_eq⟩

/-- The rows are deleted first, then the routes. -/
theorem Removes.rowsFirst {rows : TerminalSessionRows} (hrows : RowsDeleted s.rows rows)
    (h : Sweeps { s with rows := rows } s') : Removes s s' :=
  ⟨.head (.rows s rows) h.quiets, h.rows_eq ▸ hrows⟩

end

/-! ## The operations of a dispatch -/

variable (s : RouteState)

theorem settles_joined (r : TerminalSessionRoute) (now : Int) : Settles r (joined now r) := by
  unfold joined
  split
  · rename_i hres
    exact .join r now hres
  · exact .touch r now

theorem updates_claim (sessionID : String) (now : Int) :
    Updates s (s.claimTerminalSessionRoute sessionID now).1 := by
  obtain ⟨r, hr, h⟩ | h := claim_cases s sessionID now
  · rw [h]
    exact .single (.settle s _ r _ hr (settles_joined r now))
  · rw [h]

theorem updates_confirm (sessionID nodeID : String) (id : Nat) (now : Int) :
    Updates s (s.confirmTerminalSessionRoute sessionID nodeID id now).1 := by
  obtain ⟨r, hr, -, hown, h⟩ | ⟨-, h⟩ := confirm_cases s sessionID nodeID id now
  · rw [h]
    have hsettles : Settles r (confirmed id now r) := by
      unfold confirmed
      split
      · rename_i hid
        exact .confirm r now id hid hown
      · exact .touch r now
    exact .single (.settle s _ r _ hr hsettles)
  · rw [h]

theorem updates_commit (sessionID nodeID : String) (id : Nat) (lease now : Int)
    (fault : StoreFault) :
    Updates s (s.commitConfirmedTerminalSessionRoute sessionID nodeID id lease now fault).1 := by
  obtain ⟨r, rows, hpos, hr, -, hown, -, h⟩ | ⟨-, h⟩ | ⟨err, h⟩ :=
    commit_cases s sessionID nodeID id lease now fault
  · rw [h]
    have hsettles : Settles r (committed id lease now r) := by
      apply Settles.commit r now _ _ id hown
      · split <;> omega
      · split <;> omega
    -- The row is written first, then the route is settled.
    exact .head (.quiet (.rows s rows)) (.single (.settle _ _ r _ hr hsettles))
  · rw [h]
  · rw [h]

theorem updates_clearReservation (sessionID nodeID : String) (id : Nat) :
    Updates s (s.clearTerminalSessionRouteReservation sessionID nodeID id).1 := by
  obtain ⟨-, h⟩ | ⟨r, hr, hid, -, hres, ⟨huses, h⟩ | ⟨-, h⟩⟩ :=
    clearReservation_cases s sessionID nodeID id
  · rw [h]
  · rw [h]
    exact .single (.settle s _ r _ hr (.release r (by rw [hres]; exact hid) huses))
  · rw [h]
    exact .single (.quiet (.delete s _ r hr))

/-! ## Removal and expiry -/

theorem removes_clearRoute (sessionID nodeID : String) (fault : StoreFault) :
    Removes s (s.clearTerminalSessionRoute sessionID nodeID fault).1 := by
  obtain ⟨r, rows, hr, -, hrows, h⟩ | ⟨-, result, h⟩ := clearRoute_cases s sessionID nodeID fault
  · rw [h]
    refine .rowsFirst ?_ (.delete hr)
    rcases hrows with rfl | ⟨-, rfl⟩
    · exact deleteBySessionAndNode_deleted s.rows _
    · exact .refl _
  · rw [h]
    exact .refl s

theorem removes_snapshot (sessionID : String) (now : Int) (fault : StoreFault) :
    Removes s (s.terminalSessionRouteSnapshot sessionID now fault).1 := by
  obtain ⟨result, -, h⟩ | ⟨r, hr, -, h⟩ := snapshot_cases s sessionID now fault
  · rw [h]
    exact .refl s
  · rw [h]
    exact .rowsFirst (deleteBySessionAndNode_deleted s.rows _) (.delete hr)

theorem sweeps_deleteRef (ref : TerminalSessionRouteRef) : Sweeps s (s.deleteRef ref) := by
  unfold deleteRef
  split
  · exact .refl s
  · rename_i r hr
    split
    · exact .delete hr
    · exact .refl s

theorem sweeps_markUnavailable (nodeID : String) :
    Sweeps s (s.markTerminalSessionRoutesUnavailable nodeID).1 := by
  unfold markTerminalSessionRoutesUnavailable
  dsimp only
  split
  · exact .refl s
  · refine .foldl_fst _ (s, 0) fun acc k => ?_
    unfold markUnavailable
    split
    · exact .refl _
    · rename_i r hr
      split
      · exact .refl _
      · split
        · exact .delete hr
        · rename_i hres
          exact .drift hr (.disconnect r (not_not.mp hres))

theorem sweeps_deleteOfNode (n : String) (acc : RouteState × Nat) (k : String) :
    Sweeps acc.1 (deleteOfNode n acc k).1 := by
  unfold deleteOfNode
  split
  · exact .refl _
  · rename_i r hr
    split
    · exact .refl _
    · exact .delete hr

theorem removes_deleteByNode (nodeID : String) (fault : StoreFault) :
    Removes s (s.deleteTerminalSessionRoutesByNode nodeID fault).1 := by
  unfold deleteTerminalSessionRoutesByNode
  dsimp only
  split
  · exact .refl s
  · split
    · exact .refl s
    · rename_i rows hrows
      refine .rowsFirst ?_ (.foldl_fst _ ({ s with rows := rows }, 0) (sweeps_deleteOfNode _))
      rw [deleteTerminalSessionRoutesByNode_eq_ok hrows]
      exact .filter s.rows _

theorem sweeps_pruneRoute (ttl now : Int) (ok : Bool) (acc : RouteState × Nat) (k : String) :
    Sweeps acc.1 (pruneRoute ttl now ok acc k).1 := by
  unfold pruneRoute
  split
  · exact .refl _
  · rename_i r hr
    split
    · exact .delete hr
    · exact .refl _

theorem removes_prune (now : Int) (fault : StoreFault) :
    Removes s (s.pruneExpiredTerminalSessionRoutes now fault).1 := by
  unfold pruneExpiredTerminalSessionRoutes
  split
  · exact (Sweeps.foldl_fst _ (s, 0) (sweeps_pruneRoute _ _ _)).removes
  · rename_i rows hrows
    refine .rowsFirst ?_ (.foldl_fst _ ({ s with rows := rows }, 0) (sweeps_pruneRoute _ _ _))
    rw [deleteExpiredTerminalSessionRoutes_eq_ok hrows]
    exact .filter s.rows _

theorem removes_maybePrune (now : Int) (fault : StoreFault) :
    Removes s (s.maybePruneTerminalSessionRoutes now fault) := by
  unfold maybePruneTerminalSessionRoutes
  split
  · exact .refl s
  · exact .trans ⟨.single (.pruned s now), .refl _⟩ (removes_prune _ now fault)

theorem removes_list (ownerID : String) (now : Int) (pruneFault fault : StoreFault) :
    Removes s (s.listTerminalSessions ownerID now pruneFault fault).1 := by
  refine (removes_maybePrune s now pruneFault).trans ?_
  unfold listTerminalSessions listTerminalSessionsLocked
  dsimp only
  split
  · exact .refl _
  · rename_i rows hrows
    exact .rowsFirst (deleteRows_deleted hrows) (.foldl _ _ sweeps_deleteRef)

theorem removes_delete (ownerID sessionID : String) (now : Int) (snapshotFault clearFault : StoreFault) :
    Removes s (s.deleteTerminalSession ownerID sessionID now snapshotFault clearFault).1 := by
  unfold deleteTerminalSession
  dsimp only
  split
  · exact .refl s
  · have hsnap := removes_snapshot s (scopeTerminalSessionID (normalizeTaskOwnerID ownerID)
      (trimSpace sessionID)) now snapshotFault
    split
    · rename_i s' heq
      rw [heq] at hsnap
      exact hsnap
    · rename_i s' r heq
      rw [heq] at hsnap
      split
      · exact hsnap
      · have hclear := hsnap.trans (removes_clearRoute s' (scopeTerminalSessionID
          (normalizeTaskOwnerID ownerID) (trimSpace sessionID)) r.nodeID clearFault)
        split
        · rename_i heq'
          rw [heq'] at hclear
          exact hclear
        · rename_i heq'
          rw [heq'] at hclear
          exact hclear

/-! ## Recovery -/

/-- The candidates of a recovery are confirmed routes of the node. -/
theorem mem_recoveryCandidates {nodeID : String} {now : Int} {c : RecoveryCandidate} :
    c ∈ s.recoveryCandidates nodeID now ↔
      c.sessionID ∈ s.indexed nodeID ∧ ∃ r, s.route c.sessionID = some r ∧ r.nodeID = nodeID ∧
        s.notRecoverable r now = false ∧ c.leaseExpiresUnixMs = s.recoveryLease r := by
  obtain ⟨k, lease⟩ := c
  simp only [recoveryCandidates, List.mem_filterMap]
  constructor
  · rintro ⟨k', hk', h⟩
    split at h
    · nomatch h
    · rename_i r hr
      split at h
      · nomatch h
      · rename_i hne
        rw [not_or, not_not, Bool.not_eq_true] at hne
        cases h
        exact ⟨hk', r, hr, hne.1, hne.2, rfl⟩
  · rintro ⟨hk, r, hr, hn, hrec, rfl⟩
    refine ⟨k, hk, ?_⟩
    simp only [hr, hn, hrec, ne_eq, not_true_eq_false, Bool.false_eq_true, or_self, if_false]

/-- The loop that marks the candidates is quiet, because no candidate is provisional
    and marking one does not make another provisional. -/
private theorem sweeps_markReconciling (nodeID : String) (candidates : List RecoveryCandidate)
    (h : ∀ c ∈ candidates, ∀ r, s.route c.sessionID = some r → r.reservationID = 0) :
    Sweeps s (candidates.foldl (markReconciling nodeID) s) := by
  refine (List.foldl_invariant (P := fun s' => Sweeps s s' ∧
    ∀ c ∈ candidates, ∀ r, s'.route c.sessionID = some r → r.reservationID = 0)
    candidates ⟨.refl s, h⟩ ?_).1
  rintro s' c hc ⟨hsweeps, hres⟩
  unfold markReconciling
  split
  · exact ⟨hsweeps, hres⟩
  · rename_i r hr
    split
    · exact ⟨hsweeps, hres⟩
    · have hr0 := hres c hc r hr
      refine ⟨hsweeps.trans (.drift hr (.reconcile r _ hr0)), fun c' hc' r' hr' => ?_⟩
      rw [route_putRoute] at hr'
      split at hr'
      · cases hr'
        exact hr0
      · exact hres c' hc' r' hr'

variable {k : String} {r : TerminalSessionRoute}

/-- Deleting references only removes routes. -/
theorem route_foldl_deleteRef (refs : List TerminalSessionRouteRef)
    (h : (refs.foldl deleteRef s).route k = some r) :
    s.route k = some r := by
  revert r
  refine List.foldl_invariant (P := fun s' : RouteState => ∀ {r}, s'.route k = some r → s.route k = some r)
    refs id fun s' ref _ hs r hr => hs ?_
  unfold deleteRef at hr
  split at hr
  · exact hr
  · split at hr
    · rw [route_delete] at hr
      split at hr
      · nomatch hr
      · exact hr
    · exact hr

theorem removes_begin (nodeID : String) (now : Int) (fault : StoreFault) :
    Removes s (s.beginTerminalSessionRecovery nodeID now fault).1 := by
  unfold beginTerminalSessionRecovery
  dsimp only
  split
  · exact .refl s
  · split
    · exact .refl s
    · rename_i rows hrows
      refine .rowsFirst (deleteRows_deleted hrows) (.trans
        (.foldl (s.recoveryExpired (trimSpace nodeID) now) _ sweeps_deleteRef) ?_)
      refine sweeps_markReconciling _ _ _ fun c hc r hr => ?_
      obtain ⟨-, r', hr', -, hrec, -⟩ := (mem_recoveryCandidates s).mp hc
      have hr : s.route c.sessionID = some r := route_foldl_deleteRef { s with rows := rows } _ hr
      obtain rfl : r' = r := Option.mem_unique hr' hr
      simp only [notRecoverable, Bool.or_eq_false_iff, bne_eq_false_iff_eq] at hrec
      exact hrec.1

theorem sweeps_applyRecoveryResult (nodeID : String) (results : GoMap String RecoveryStatus)
    (now : Int) (s : RouteState) (c : RecoveryCandidate) :
    Sweeps s (applyRecoveryResult nodeID results now s c) := by
  unfold applyRecoveryResult
  split
  · exact .refl s
  · rename_i r hr
    split
    · exact .refl s
    · split
      · exact .delete hr
      · exact .drift hr (.recover r now)

theorem removes_apply (nodeID : String) (candidates : GoMap String Int)
    (report : List (Option RecoveryResult)) (now : Int) (fault : StoreFault) :
    Removes s (s.applyTerminalSessionRecoveryReport nodeID candidates report now fault).1 := by
  unfold applyTerminalSessionRecoveryReport
  split
  · exact .refl s
  · split
    · exact .refl s
    · split
      · exact .refl s
      · dsimp only
        split
        · exact .refl s
        · rename_i rows hrows
          exact .rowsFirst (deleteRows_deleted hrows) (.foldl _ _ (sweeps_applyRecoveryResult _ _ now))

/-! ## What an update leaves of a route -/

/-- A later state of the same incarnation of a route: it never moves to another
    node and never acquires a reservation id it did not have. -/
structure SameIncarnation (r r' : TerminalSessionRoute) : Prop where
  node : r'.nodeID = r.nodeID
  reservation : r'.reservationID = 0 ∨ r'.reservationID = r.reservationID
  confirmed : r'.confirmedReservationID = 0 ∨
    r'.confirmedReservationID = r.reservationID ∨
    r'.confirmedReservationID = r.confirmedReservationID

theorem SameIncarnation.rfl (r : TerminalSessionRoute) : SameIncarnation r r :=
  ⟨Eq.refl _, .inr (Eq.refl _), .inr (.inr (Eq.refl _))⟩

variable {r' : TerminalSessionRoute}

theorem SameIncarnation.trans {r'' : TerminalSessionRoute} (h : SameIncarnation r r')
    (h' : SameIncarnation r' r'') : SameIncarnation r r'' := by
  obtain ⟨hn, hr, hc⟩ := h
  obtain ⟨hn', hr', hc'⟩ := h'
  refine ⟨hn'.trans hn, by omega, by omega⟩

theorem Settles.sameIncarnation (h : Settles r r') :
    SameIncarnation r r' := by
  cases h with
  | touch t | join t hres | release hres h => exact ⟨rfl, .inr rfl, .inr (.inr rfl)⟩
  | confirm t id hid hown => exact ⟨rfl, .inl rfl, by dsimp only; omega⟩
  | commit t lease created id hown hpos hle =>
    refine ⟨rfl, .inl rfl, ?_⟩
    dsimp only
    split <;> omega

theorem Drifts.sameIncarnation (h : Drifts r r') :
    SameIncarnation r r' := by
  cases h <;> exact ⟨rfl, .inr rfl, .inr (.inr rfl)⟩

theorem Update.sameIncarnation {s : RouteState} (h : Update s s') (hr' : s'.route k = some r') :
    ∃ r, s.route k = some r ∧ SameIncarnation r r' := by
  -- Only the entry at one key changes, and it was there before.
  have hput : ∀ {k₀ : String} {r₀ r₁ : TerminalSessionRoute}, s.route k₀ = some r₀ →
      SameIncarnation r₀ r₁ → (s.putRoute k₀ r₁).route k = some r' →
      ∃ r, s.route k = some r ∧ SameIncarnation r r' := by
    intro k₀ r₀ r₁ hr₀ hsame h
    rw [route_putRoute] at h
    split at h
    · rename_i hk
      cases h
      exact ⟨r₀, hk ▸ hr₀, hsame⟩
    · exact ⟨r', h, .rfl r'⟩
  cases h with
  | quiet h =>
    cases h with
    | drift k₀ r₀ r₁ hr₀ hd => exact hput hr₀ hd.sameIncarnation hr'
    | delete k₀ r₀ hr₀ =>
      rw [route_delete] at hr'
      split at hr'
      · nomatch hr'
      · exact ⟨r', hr', .rfl r'⟩
    | rows rows | pruned t => exact ⟨r', hr', .rfl r'⟩
  | settle k₀ r₀ r₁ hr₀ hs => exact hput hr₀ hs.sameIncarnation hr'

/-- A route after a sequence of updates is a later state of an incarnation that was
    there before. -/
theorem Updates.sameIncarnation {s : RouteState} (h : Updates s s') (hr' : s'.route k = some r') :
    ∃ r, s.route k = some r ∧ SameIncarnation r r' := by
  induction h generalizing r' with
  | refl => exact ⟨r', hr', .rfl r'⟩
  | tail _ hstep ih =>
    obtain ⟨r₁, hr₁, hsame₁⟩ := hstep.sameIncarnation hr'
    obtain ⟨r, hr, hsame⟩ := ih hr₁
    exact ⟨r, hr, hsame.trans hsame₁⟩

/-- An update issues no reservation id. -/
theorem Updates.seq_eq {s : RouteState} (h : Updates s s') :
    s'.terminalRouteReservationSeq = s.terminalRouteReservationSeq := by
  induction h with
  | refl => rfl
  | tail _ hstep ih =>
    rw [← ih]
    cases hstep with
    | quiet h => cases h <;> simp [putRoute]
    | settle k r r' hr h => rfl

/-- A provisional route that other changes leave there is as it was. -/
theorem Quiet.provisional {s : RouteState} (h : Quiet s s') (hr' : s'.route k = some r')
    (hres : r'.reservationID ≠ 0) :
    ∃ r, s.route k = some r ∧ r.nodeID = r'.nodeID ∧ r.reservationID = r'.reservationID ∧
      r.provisionalUses = r'.provisionalUses := by
  cases h with
  | drift k₀ r₀ r₁ hr₀ hd =>
    rw [route_putRoute] at hr'
    split at hr'
    · rename_i hk
      cases hr'
      subst hk
      refine ⟨r₀, hr₀, ?_⟩
      cases hd with
      | reconcile lease hzero | disconnect hzero => exact absurd hzero hres
      | recover t => exact ⟨rfl, rfl, rfl⟩
    · exact ⟨r', hr', rfl, rfl, rfl⟩
  | delete k₀ r₀ hr₀ =>
    rw [route_delete] at hr'
    split at hr'
    · nomatch hr'
    · exact ⟨r', hr', rfl, rfl, rfl⟩
  | rows rows | pruned t => exact ⟨r', hr', rfl, rfl, rfl⟩

/-- `Quiet.provisional` for sequences. -/
theorem Quiets.provisional {s : RouteState} (h : Quiets s s') (hr' : s'.route k = some r')
    (hres : r'.reservationID ≠ 0) :
    ∃ r, s.route k = some r ∧ r.nodeID = r'.nodeID ∧ r.reservationID = r'.reservationID ∧
      r.provisionalUses = r'.provisionalUses := by
  induction h generalizing r' with
  | refl => exact ⟨r', hr', rfl, rfl, rfl⟩
  | tail _ hstep ih =>
    obtain ⟨r₁, hr₁, hnode, hid, huses⟩ := hstep.provisional hr' hres
    obtain ⟨r, hr, hnode', hid', huses'⟩ := ih hr₁ (by rw [hid]; exact hres)
    exact ⟨r, hr, hnode'.trans hnode, hid'.trans hid, huses'.trans huses⟩

end Onlyboxes.Console.RouteState
