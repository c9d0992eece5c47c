import Onlyboxes.Spec.RouteTable

/-!
# What a call does to one route

The operations that calls make under the lock, as what they do to the route of their
session: each one leaves the table as it is or replaces or removes this one route.

## Key results

- `claim_cases`, `reserve_cases`, `confirm_cases`, `commit_cases`,
  `clearReservation_cases`, `clearRoute_cases`, `snapshot_cases`: the outcomes of each
  operation
-/

namespace Onlyboxes.Console

open Text

/-! ## Rows -/

/-- Rows are only deleted. -/
def RowsDeleted (rows rows' : TerminalSessionRows) : Prop :=
  ∀ k w, rows'.lookup k = some w → rows.lookup k = some w

namespace RowsDeleted

variable {rows rows' rows'' : TerminalSessionRows}

theorem refl (rows : TerminalSessionRows) : RowsDeleted rows rows := fun _ _ h => h

theorem of_eq (h : rows' = rows) : RowsDeleted rows rows' := by
  rw [h]
  exact .refl rows

theorem trans (h : RowsDeleted rows rows') (h' : RowsDeleted rows' rows'') :
    RowsDeleted rows rows'' := fun k w hw => h k w (h' k w hw)

theorem filter (rows : TerminalSessionRows) (p : String → TerminalSessionRow → Bool) :
    RowsDeleted rows (rows.filter p) := by
  intro k w hw
  rw [AList.lookup_filter, Option.filter_eq_some_iff] at hw
  exact hw.1

end RowsDeleted

namespace RouteState

variable {rows rows' : TerminalSessionRows} {fault : StoreFault}

/-- A store deletion that succeeds has its effect. -/
theorem deleteTerminalSessionRoute_eq_ok {k n : String}
    (h : rows.deleteTerminalSessionRoute k n fault = .ok rows') :
    rows' = rows.deleteBySessionAndNode ⟨k, n⟩ := by
  unfold TerminalSessionRows.deleteTerminalSessionRoute at h
  split at h
  · nomatch h
  · exact (Except.ok.inj h).symm

theorem deleteTerminalSessionRoutesByNode_eq_ok {n : String}
    (h : rows.deleteTerminalSessionRoutesByNode n fault = .ok rows') :
    rows' = rows.filter fun _ row => row.nodeID != trimSpace n := by
  unfold TerminalSessionRows.deleteTerminalSessionRoutesByNode at h
  split at h
  · nomatch h
  · exact (Except.ok.inj h).symm

theorem deleteExpiredTerminalSessionRoutes_eq_ok {now : Int}
    (h : rows.deleteExpiredTerminalSessionRoutes now fault = .ok rows') :
    rows' = rows.filter fun _ row => decide (now < row.leaseExpiresUnixMs) := by
  unfold TerminalSessionRows.deleteExpiredTerminalSessionRoutes at h
  split at h
  · nomatch h
  · exact (Except.ok.inj h).symm

theorem deleteBySessionAndNode_deleted (rows : TerminalSessionRows) (ref : TerminalSessionRouteRef) :
    RowsDeleted rows (rows.deleteBySessionAndNode ref) := by
  unfold TerminalSessionRows.deleteBySessionAndNode
  exact .filter rows _

theorem deleteRows_deleted {s : RouteState} {refs : List TerminalSessionRouteRef}
    (h : s.deleteRows refs fault = .ok rows) :
    RowsDeleted s.rows rows := by
  unfold deleteRows TerminalSessionRows.deleteTerminalSessionRoutes at h
  split at h
  · exact .of_eq (Except.ok.inj h).symm
  · split at h
    · nomatch h
    · cases h
      refine List.foldl_invariant (P := fun rows => RowsDeleted s.rows rows) refs (.refl s.rows) ?_
      exact fun rows ref _ hrows => hrows.trans (deleteBySessionAndNode_deleted rows ref)

/-! ## Calls -/

/-- A fresh reservation of session `k` on node `n`. -/
def openRoute (s : RouteState) (k n : String) (t : Int) : RouteState :=
  ({ s with terminalRouteReservationSeq := nextReservationSeq s.terminalRouteReservationSeq }.putRoute
    k (provisionalRoute n t (nextReservationSeq s.terminalRouteReservationSeq))).indexRoute n k

/-- A route that a dispatch joins. -/
def joined (now : Int) (r : TerminalSessionRoute) : TerminalSessionRoute :=
  { r with
    lastUsedUnixMs := now
    provisionalUses := if r.reservationID ≠ 0 then r.provisionalUses + 1 else r.provisionalUses }

/-- A route that is confirmed in memory. -/
def confirmed (reservationID : Nat) (now : Int) (r : TerminalSessionRoute) : TerminalSessionRoute :=
  if reservationID ≠ 0 then
    { r with
      lastUsedUnixMs := now
      reservationID := 0
      confirmedReservationID := reservationID
      provisionalUses := 0 }
  else { r with lastUsedUnixMs := now }

/-- A route that is confirmed with the lease of its worker. -/
def committed (reservationID : Nat) (lease now : Int) (r : TerminalSessionRoute) :
    TerminalSessionRoute :=
  { r with
    leaseExpiresUnixMs := if r.leaseExpiresUnixMs < lease then lease else r.leaseExpiresUnixMs
    createdAtUnixMs := if r.createdAtUnixMs ≤ 0 then now else r.createdAtUnixMs
    lastUsedUnixMs := now
    recoveryState := .ready
    reservationID := 0
    confirmedReservationID := if reservationID ≠ 0 then reservationID else r.confirmedReservationID
    provisionalUses := 0 }

variable (s : RouteState)

theorem claim_cases (sessionID : String) (now : Int) :
    (∃ r, s.route (trimSpace sessionID) = some r ∧
      s.claimTerminalSessionRoute sessionID now =
        (s.putRoute (trimSpace sessionID) (joined now r), some (r.nodeID, r.reservationID))) ∨
    s.claimTerminalSessionRoute sessionID now = (s, none) := by
  unfold claimTerminalSessionRoute joined
  dsimp only
  split
  · exact .inr rfl
  · split
    · exact .inr rfl
    · rename_i r hr
      split
      · exact .inr rfl
      · left
        refine ⟨r, hr, ?_⟩
        split
        · rfl
        · rename_i hzero
          rw [not_not.mp hzero]

/-- The three outcomes of `reserveTerminalSessionRoute`, the only operation that opens
    a route. -/
theorem reserve_cases (sessionID nodeID : String) (now : Int) :
    ((trimSpace sessionID = "" ∨ trimSpace nodeID = "") ∧
      s.reserveTerminalSessionRoute sessionID nodeID now = (s, "", 0)) ∨
    (∃ r, s.route (trimSpace sessionID) = some r ∧
      s.reserveTerminalSessionRoute sessionID nodeID now =
        (s.putRoute (trimSpace sessionID) (joined now r), r.nodeID, r.reservationID)) ∨
    (trimSpace sessionID ≠ "" ∧ trimSpace nodeID ≠ "" ∧ s.route (trimSpace sessionID) = none ∧
      s.reserveTerminalSessionRoute sessionID nodeID now =
        (s.openRoute (trimSpace sessionID) (trimSpace nodeID) now, trimSpace nodeID,
          nextReservationSeq s.terminalRouteReservationSeq)) := by
  unfold reserveTerminalSessionRoute joined
  dsimp only
  split
  · rename_i hblank
    exact .inl ⟨hblank, rfl⟩
  · rename_i hne
    rw [not_or] at hne
    split
    · rename_i r hr
      split
      · rename_i hres
        exact .inr (.inl ⟨r, hr, by rw [if_pos hres]⟩)
      · rename_i hres
        exact .inr (.inl ⟨r, hr, by rw [if_neg hres, not_not.mp hres]⟩)
    · rename_i hnone
      exact .inr (.inr ⟨hne.1, hne.2, hnone, rfl⟩)

/-- What the ownership test of `confirm` and `commit` says. -/
theorem ownsReservation_iff (r : TerminalSessionRoute) (n : String) (id : Nat) :
    ownsReservation r n id = true ↔
      r.nodeID = n ∧ (r.reservationID = id ∨ r.confirmedReservationID = id) := by
  simp [ownsReservation]

theorem confirm_cases (sessionID nodeID : String) (id : Nat) (now : Int) :
    (∃ r, s.route (trimSpace sessionID) = some r ∧ r.nodeID = trimSpace nodeID ∧
      (r.reservationID = id ∨ r.confirmedReservationID = id) ∧
      s.confirmTerminalSessionRoute sessionID nodeID id now =
        (s.putRoute (trimSpace sessionID) (confirmed id now r), true)) ∨
    ((trimSpace sessionID ≠ "" → trimSpace nodeID ≠ "" → ∀ r,
        s.route (trimSpace sessionID) = some r → r.nodeID = trimSpace nodeID →
          r.reservationID ≠ id ∧ r.confirmedReservationID ≠ id) ∧
      s.confirmTerminalSessionRoute sessionID nodeID id now = (s, false)) := by
  unfold confirmTerminalSessionRoute confirmed
  dsimp only
  split
  · rename_i hblank
    exact .inr ⟨fun hs hn => absurd hblank (not_or.mpr ⟨hs, hn⟩), rfl⟩
  · split
    · rename_i hnone
      exact .inr ⟨fun _ _ r hr => (nomatch hnone.symm.trans hr), rfl⟩
    · rename_i r hr
      split
      · rename_i hown
        refine .inr ⟨fun _ _ r' hr' hnode => ?_, rfl⟩
        rw [hr] at hr'
        cases hr'
        have hnot := Bool.eq_false_iff.mp hown
        rw [Ne, ownsReservation_iff, not_and, not_or] at hnot
        exact hnot hnode
      · rename_i hown
        rw [Bool.not_eq_false, ownsReservation_iff] at hown
        refine .inl ⟨r, hr, hown.1, hown.2, ?_⟩
        split
        · rfl
        · rfl

theorem commit_cases (sessionID nodeID : String) (id : Nat) (lease now : Int)
    (fault : StoreFault) :
    (∃ r rows, 0 < lease ∧ s.route (trimSpace sessionID) = some r ∧
      r.nodeID = trimSpace nodeID ∧ (r.reservationID = id ∨ r.confirmedReservationID = id) ∧
      s.rows.upsertConfirmedTerminalSessionRoute (trimSpace sessionID)
        { nodeID := trimSpace nodeID
          leaseExpiresUnixMs := (committed id lease now r).leaseExpiresUnixMs
          lastUsedUnixMs := now
          createdAtUnixMs := (committed id lease now r).createdAtUnixMs
          updatedAtUnixMs := now } fault = .ok rows ∧
      s.commitConfirmedTerminalSessionRoute sessionID nodeID id lease now fault =
        ({ s with rows := rows }.putRoute (trimSpace sessionID) (committed id lease now r),
          .ok true)) ∨
    ((trimSpace sessionID ≠ "" → trimSpace nodeID ≠ "" → ∀ r,
        s.route (trimSpace sessionID) = some r → r.nodeID = trimSpace nodeID →
          r.reservationID ≠ id ∧ r.confirmedReservationID ≠ id) ∧
      s.commitConfirmedTerminalSessionRoute sessionID nodeID id lease now fault =
        (s, .ok false)) ∨
    ∃ err, s.commitConfirmedTerminalSessionRoute sessionID nodeID id lease now fault =
      (s, .error err) := by
  unfold commitConfirmedTerminalSessionRoute committed
  dsimp only
  split
  · exact .inr (.inr ⟨_, rfl⟩)
  · rename_i hlease
    split
    · exact .inr (.inr ⟨_, rfl⟩)
    · split
      · rename_i hnone
        exact .inr (.inl ⟨fun _ _ r hr => (nomatch hnone.symm.trans hr), rfl⟩)
      · rename_i r hr
        split
        · rename_i hown
          refine .inr (.inl ⟨fun _ _ r' hr' hnode => ?_, rfl⟩)
          rw [hr] at hr'
          cases hr'
          have hnot := Bool.eq_false_iff.mp hown
          rw [Ne, ownsReservation_iff, not_and, not_or] at hnot
          exact hnot hnode
        · rename_i hown
          rw [Bool.not_eq_false, ownsReservation_iff] at hown
          split
          · exact .inr (.inr ⟨_, rfl⟩)
          · rename_i rows hrows
            exact .inl ⟨r, rows, Int.not_le.mp hlease, hr, hown.1, hown.2, hrows, rfl⟩

theorem clearReservation_cases (sessionID nodeID : String) (id : Nat) :
    ((id ≠ 0 → trimSpace sessionID ≠ "" → trimSpace nodeID ≠ "" → ∀ r,
        s.route (trimSpace sessionID) = some r → r.nodeID = trimSpace nodeID →
          r.reservationID ≠ id) ∧
      s.clearTerminalSessionRouteReservation sessionID nodeID id = (s, .notOwned)) ∨
    (∃ r, s.route (trimSpace sessionID) = some r ∧ id ≠ 0 ∧ r.nodeID = trimSpace nodeID ∧
      r.reservationID = id ∧
      ((1 < r.provisionalUses ∧ s.clearTerminalSessionRouteReservation sessionID nodeID id =
          (s.putRoute (trimSpace sessionID) { r with provisionalUses := r.provisionalUses - 1 },
            .stillInUse)) ∨
       (r.provisionalUses ≤ 1 ∧ s.clearTerminalSessionRouteReservation sessionID nodeID id =
          (s.deleteTerminalSessionRouteLocked (trimSpace sessionID) r, .removed)))) := by
  unfold clearTerminalSessionRouteReservation
  dsimp only
  split
  · rename_i hblank
    refine .inl ⟨fun hid hs hn => absurd hblank (not_or.mpr ⟨hid, not_or.mpr ⟨hs, hn⟩⟩), rfl⟩
  · rename_i hsome
    rw [not_or] at hsome
    split
    · rename_i hnone
      exact .inl ⟨fun _ _ _ r hr => (nomatch hnone.symm.trans hr), rfl⟩
    · rename_i r hr
      split
      · rename_i hother
        refine .inl ⟨fun _ _ _ r' hr' hnode => ?_, rfl⟩
        rw [hr] at hr'
        cases hr'
        exact hother.resolve_left (not_not.mpr hnode)
      · rename_i hown
        rw [not_or, not_not, not_not] at hown
        split
        · rename_i huses
          exact .inr ⟨r, hr, hsome.1, hown.1, hown.2, .inl ⟨huses, rfl⟩⟩
        · rename_i huses
          exact .inr ⟨r, hr, hsome.1, hown.1, hown.2, .inr ⟨Nat.not_lt.mp huses, rfl⟩⟩

/-- Only a route with a lease has a row that is deleted with it. -/
theorem clearRoute_cases (sessionID nodeID : String) (fault : StoreFault) :
    (∃ r rows, s.route (trimSpace sessionID) = some r ∧
      (trimSpace nodeID = "" ∨ r.nodeID = trimSpace nodeID) ∧
      (rows = s.rows.deleteBySessionAndNode ⟨trimSpace sessionID, r.nodeID⟩ ∨
        r.leaseExpiresUnixMs ≤ 0 ∧ rows = s.rows) ∧
      s.clearTerminalSessionRoute sessionID nodeID fault =
        ({ s with rows := rows }.deleteTerminalSessionRouteLocked (trimSpace sessionID) r,
          .ok ())) ∨
    ((trimSpace sessionID ≠ "" → ∀ r, s.route (trimSpace sessionID) = some r →
        r.nodeID = trimSpace nodeID → 0 < r.leaseExpiresUnixMs) ∧
      ∃ result, s.clearTerminalSessionRoute sessionID nodeID fault = (s, result)) := by
  unfold clearTerminalSessionRoute
  dsimp only
  split
  · rename_i hblank
    exact .inr ⟨fun hne => absurd hblank hne, _, rfl⟩
  · split
    · rename_i hnone
      exact .inr ⟨fun _ r hr => (nomatch hnone.symm.trans hr), _, rfl⟩
    · rename_i r hr
      split
      · rename_i hother
        refine .inr ⟨fun _ r' hr' hnode => ?_, _, rfl⟩
        rw [hr] at hr'
        cases hr'
        exact absurd hnode hother.2
      · rename_i hsame
        have hnode : trimSpace nodeID = "" ∨ r.nodeID = trimSpace nodeID := by
          by_cases hblank : trimSpace nodeID = ""
          · exact .inl hblank
          · exact .inr (not_not.mp fun hne => hsame ⟨hblank, hne⟩)
        split
        · rename_i hlease
          split
          · refine .inr ⟨fun _ r' hr' _ => ?_, _, rfl⟩
            rw [hr] at hr'
            cases hr'
            exact hlease
          · rename_i rows hrows
            exact .inl ⟨r, rows, hr, hnode, .inl (deleteTerminalSessionRoute_eq_ok hrows), rfl⟩
        · rename_i hlease
          exact .inl ⟨r, s.rows, hr, hnode, .inr ⟨Int.not_lt.mp hlease, rfl⟩, rfl⟩

theorem snapshot_cases (sessionID : String) (now : Int) (fault : StoreFault) :
    (∃ result, (∀ r, result = some r → s.route (trimSpace sessionID) = some r) ∧
      s.terminalSessionRouteSnapshot sessionID now fault = (s, result)) ∨
    ∃ r, s.route (trimSpace sessionID) = some r ∧ leaseExpired r now ∧
      s.terminalSessionRouteSnapshot sessionID now fault =
        ({ s with rows := s.rows.deleteBySessionAndNode ⟨trimSpace sessionID, r.nodeID⟩
          }.deleteTerminalSessionRouteLocked (trimSpace sessionID) r, none) := by
  unfold terminalSessionRouteSnapshot
  dsimp only
  split
  · exact .inl ⟨none, fun r h => (nomatch h), rfl⟩
  · split
    · exact .inl ⟨none, fun r h => (nomatch h), rfl⟩
    · rename_i r hr
      split
      · rename_i hexpired
        split
        · exact .inl ⟨none, fun r h => (nomatch h), rfl⟩
        · rename_i rows hrows
          rw [deleteTerminalSessionRoute_eq_ok hrows]
          exact .inr ⟨r, hr, hexpired, rfl⟩
      · exact .inl ⟨some r, fun _ h => hr.trans h, rfl⟩

end RouteState

end Onlyboxes.Console
