import Onlyboxes.Spec.RouteWellFormed

/-!
# What the batch operations do to every route

Operations that loop over the table (recovery, disconnection, expiry, removal of a
worker) are described here route by route. Each has a *fate*: a function that says
what becomes of a route, `none` if it is deleted. The loops compute the fates of
all routes at once, whatever the iteration order.

## Key results

- `route_beginOK`, `route_applyOK`: the recovery handshake, after its store call
- `route_markUnavailable`, `route_deleteOfNodes`, `route_prune`,
  `route_deleteRefs`: disconnection, removal, pruning, listing
- `lookup_deleteTerminalSessionRoutes`: the rows a batch deletion leaves
-/

namespace Onlyboxes.Console

open Text

/-! ## Rows -/

namespace TerminalSessionRows

variable (rows : TerminalSessionRows)

theorem lookup_deleteBySessionAndNode (ref : TerminalSessionRouteRef) (k : String) :
    (rows.deleteBySessionAndNode ref).lookup k =
      (rows.lookup k).filter fun row =>
        !(k == trimSpace ref.scopedSessionID && row.nodeID == trimSpace ref.nodeID) :=
  AList.lookup_filter _ _ _

theorem lookup_deleteTerminalSessionRoutes (refs : List TerminalSessionRouteRef) (k : String) :
    (refs.foldl deleteBySessionAndNode rows).lookup k =
      (rows.lookup k).filter fun row => !refs.any fun ref =>
        k == trimSpace ref.scopedSessionID && row.nodeID == trimSpace ref.nodeID := by
  induction refs generalizing rows with
  | nil => simp [Option.filter_const_true]
  | cons ref refs ih =>
    rw [List.foldl_cons, ih, lookup_deleteBySessionAndNode, Option.filter_filter]
    congr 1
    funext row
    rw [List.any_cons, Bool.not_or, Bool.and_comm]

end TerminalSessionRows

namespace RouteState

variable {s : RouteState}

/-! ## Deletion by reference -/

theorem route_deleteRef (s : RouteState) (ref : TerminalSessionRouteRef) (k : String) :
    (s.deleteRef ref).route k = (s.route k).filter fun r => decide (ref ≠ ⟨k, r.nodeID⟩) := by
  obtain ⟨k₀, n₀⟩ := ref
  unfold deleteRef
  dsimp only
  by_cases hk : k = k₀
  · subst hk
    cases hr : s.route k with
    | none => simp [hr]
    | some r =>
      simp only [Option.filter_some, TerminalSessionRouteRef.mk.injEq, true_and, ne_eq,
        decide_eq_true_eq]
      by_cases hn : r.nodeID = n₀
      · rw [if_pos hn, route_delete_self, if_neg (not_not.mpr hn.symm)]
      · rw [if_neg hn, hr, if_pos (Ne.symm hn)]
  · -- Another key: nothing changes, and no reference names this route.
    have hstay : ∀ r : TerminalSessionRoute,
        decide ((⟨k₀, n₀⟩ : TerminalSessionRouteRef) ≠ ⟨k, r.nodeID⟩) = true := by
      simp [Ne.symm hk]
    simp only [hstay, Option.filter_const_true]
    split
    · rfl
    · split
      · exact route_delete_ne _ _ _ _ hk
      · rfl

/-- A loop of deletions by reference removes exactly the referenced routes. -/
theorem route_deleteRefs (s : RouteState) (refs : List TerminalSessionRouteRef) (k : String) :
    (refs.foldl deleteRef s).route k =
      (s.route k).filter fun r => decide (⟨k, r.nodeID⟩ ∉ refs) := by
  induction refs generalizing s with
  | nil => simp [Option.filter_const_true]
  | cons ref refs ih =>
    rw [List.foldl_cons, ih, route_deleteRef, Option.filter_filter]
    congr 1
    funext r
    by_cases h : ref = ⟨k, r.nodeID⟩
    · subst h
      simp
    · simp [h, Ne.symm h]

theorem rows_deleteRefs (s : RouteState) (refs : List TerminalSessionRouteRef) :
    (refs.foldl deleteRef s).rows = s.rows :=
  (Sweeps.foldl refs s sweeps_deleteRef).rows_eq

/-! ## Loops over an index set or over all keys -/

/-- What `markTerminalSessionRoutesUnavailable` makes of a route. -/
def unavailableFate (n : String) (r : TerminalSessionRoute) : Option TerminalSessionRoute :=
  if r.nodeID ≠ n then some r
  else if r.reservationID ≠ 0 then none
  else some { r with recoveryState := .unavailable }

/-- What `deleteTerminalSessionRoutesByNode` makes of a route. -/
def removalFate (n : String) (r : TerminalSessionRoute) : Option TerminalSessionRoute :=
  if r.nodeID ≠ n then some r else none

/-- What `PruneExpiredTerminalSessionRoutes` makes of a route. -/
def pruneFate (ttl now : Int) (ok : Bool) (r : TerminalSessionRoute) :
    Option TerminalSessionRoute :=
  if pruneDue ttl now ok r then none else some r

/-- A loop over an index set computes the fates of all routes, because the fate of a
    route outside the set is to stay. -/
private theorem route_foldl_indexed (hidx : IndexOK s) (n : String)
    (step : RouteState × Nat → String → RouteState × Nat)
    (fate : TerminalSessionRoute → Option TerminalSessionRoute)
    (hself : ∀ acc k, (step acc k).1.route k = (acc.1.route k).bind fate)
    (hother : ∀ acc k k', k' ≠ k → (step acc k).1.route k' = acc.1.route k')
    (hstay : ∀ r : TerminalSessionRoute, r.nodeID ≠ n → fate r = some r)
    (s₀ : RouteState) (h₀ : ∀ k, s₀.route k = s.route k) (c : Nat) (k : String) :
    ((s.indexed n).foldl step (s₀, c)).1.route k = (s.route k).bind fate := by
  rw [List.foldl_pointwise (fun acc k => acc.1.route k) step (fun _ o => o.bind fate) hself hother
    _ (indexed_nodup s n) (s₀, c) k]
  dsimp only
  rw [h₀]
  split
  · rfl
  · rename_i hk
    cases hr : s.route k with
    | none => rfl
    | some r =>
      have hne : r.nodeID ≠ n := fun hn => hk ((hidx.mem_iff n k).mpr ⟨r, hr, hn⟩)
      exact (hstay r hne).symm

variable {n : String}

theorem route_markUnavailable (hidx : IndexOK s) (hn : trimSpace n ≠ "") (k : String) :
    (s.markTerminalSessionRoutesUnavailable n).1.route k =
      (s.route k).bind (unavailableFate (trimSpace n)) := by
  unfold markTerminalSessionRoutesUnavailable
  rw [if_neg hn]
  refine route_foldl_indexed hidx _ _ (unavailableFate (trimSpace n)) ?_ ?_
    (fun r hr => if_pos hr) s (fun _ => rfl) 0 k
  · intro acc k
    unfold markUnavailable
    cases hr : acc.1.route k with
    | none => simp [hr]
    | some r =>
      simp only [Option.bind_some, unavailableFate]
      split
      · exact hr
      · split
        · exact route_delete_self _ _ _
        · exact route_putRoute_self _ _ _
  · intro acc k k' hk
    unfold markUnavailable
    split
    · rfl
    · split
      · rfl
      · split
        · exact route_delete_ne _ _ _ _ hk
        · exact route_putRoute_ne _ _ _ _ hk

theorem route_deleteOfNodes (hidx : IndexOK s) (n : String) (rows : TerminalSessionRows)
    (k : String) :
    ((s.indexed n).foldl (deleteOfNode n) ({ s with rows := rows }, 0)).1.route k =
      (s.route k).bind (removalFate n) := by
  refine route_foldl_indexed hidx n _ (removalFate n) ?_ ?_ (fun r hr => if_pos hr)
    { s with rows := rows } (fun _ => rfl) 0 k
  · intro acc k
    unfold deleteOfNode
    cases hr : acc.1.route k with
    | none => simp [hr]
    | some r =>
      simp only [Option.bind_some, removalFate]
      split
      · exact hr
      · exact route_delete_self _ _ _
  · intro acc k k' hk
    unfold deleteOfNode
    split
    · rfl
    · split
      · rfl
      · exact route_delete_ne _ _ _ _ hk

private theorem route_pruneRoutes (s₀ : RouteState) (h₀ : ∀ k, s₀.route k = s.route k) (ttl now : Int)
    (ok : Bool) (c : Nat) (k : String) :
    (s.terminalSessionToNode.keys.foldl (pruneRoute ttl now ok) (s₀, c)).1.route k =
      (s.route k).bind (pruneFate ttl now ok) := by
  rw [List.foldl_pointwise (fun acc k => acc.1.route k) (pruneRoute ttl now ok)
    (fun _ o => o.bind (pruneFate ttl now ok)) ?_ ?_ _ (AList.keys_nodup _) (s₀, c) k]
  · dsimp only
    rw [h₀]
    split
    · rfl
    · rename_i hk
      have hnone : s.route k = none := by
        cases hr : s.route k with
        | none => rfl
        | some r => exact absurd (AList.mem_keys_of_lookup hr) hk
      rw [hnone]
      rfl
  · intro acc k
    unfold pruneRoute
    cases hr : acc.1.route k with
    | none => simp [hr]
    | some r =>
      simp only [Option.bind_some, pruneFate]
      split
      · exact route_delete_self _ _ _
      · exact hr
  · intro acc k k' hk
    unfold pruneRoute
    split
    · rfl
    · split
      · exact route_delete_ne _ _ _ _ hk
      · rfl

/-- A prune gives every route its fate; whether the store call succeeded decides about
    the routes with a lease. -/
theorem route_prune (s : RouteState) (now : Int) (fault : StoreFault) (k : String) :
    (s.pruneExpiredTerminalSessionRoutes now fault).1.route k =
      (s.route k).bind (pruneFate s.terminalRouteTTL now
        (s.rows.deleteExpiredTerminalSessionRoutes now fault).toBool) := by
  unfold pruneExpiredTerminalSessionRoutes
  cases s.rows.deleteExpiredTerminalSessionRoutes now fault with
  | error err => exact route_pruneRoutes s (fun _ => rfl) _ _ _ _ k
  | ok rows => exact route_pruneRoutes { s with rows := rows } (fun _ => rfl) _ _ _ _ k

/-! ## Recovery -/

/-- What `beginTerminalSessionRecovery` makes of a route once its store call
    succeeded. -/
def beginFate (s : RouteState) (n : String) (now : Int) (r : TerminalSessionRoute) :
    Option TerminalSessionRoute :=
  if r.nodeID ≠ n then some r
  else if s.notRecoverable r now then
    if 0 < r.leaseExpiresUnixMs then none else some r
  else some { r with
    leaseExpiresUnixMs := s.recoveryLease r
    recoveryState := .reconciling }

variable {now : Int} {ref : TerminalSessionRouteRef}

/-- The expired routes a recovery refers to. -/
theorem mem_recoveryExpired (hidx : IndexOK s) :
    ref ∈ s.recoveryExpired n now ↔
      ∃ r, s.route ref.scopedSessionID = some r ∧ ref.nodeID = r.nodeID ∧ r.nodeID = n ∧
        s.notRecoverable r now = true ∧ 0 < r.leaseExpiresUnixMs := by
  unfold recoveryExpired
  rw [List.mem_filterMap]
  constructor
  · rintro ⟨k, -, h⟩
    split at h
    · nomatch h
    · rename_i r hr
      split at h
      · rename_i hcond
        cases h
        exact ⟨r, hr, rfl, hcond⟩
      · nomatch h
  · rintro ⟨r, hr, hn, hcond⟩
    refine ⟨ref.scopedSessionID, (hidx.mem_iff n _).mpr ⟨r, hr, hcond.1⟩, ?_⟩
    simp only [hr]
    rw [if_pos hcond, ← hn]

/-- The loops of `beginTerminalSessionRecovery` give every route its fate. -/
theorem route_beginOK (hidx : IndexOK s) (n : String) (now : Int) (rows : TerminalSessionRows)
    (k : String) :
    ((s.recoveryCandidates n now).foldl (markReconciling n)
      ((s.recoveryExpired n now).foldl deleteRef { s with rows := rows })).route k =
      (s.route k).bind (beginFate s n now) := by
  have hself : ∀ (s : RouteState) (c : RecoveryCandidate),
      (markReconciling n s c).route c.sessionID = (s.route c.sessionID).map fun r =>
        if r.nodeID ≠ n then r else { r with
          leaseExpiresUnixMs := c.leaseExpiresUnixMs
          recoveryState := .reconciling } := by
    intro s c
    unfold markReconciling
    cases hr : s.route c.sessionID with
    | none => simp [hr]
    | some r =>
      simp only [Option.map_some]
      split
      · exact hr
      · exact route_putRoute_self _ _ _
  have hother : ∀ (s : RouteState) (c : RecoveryCandidate) (k : String), k ≠ c.sessionID →
      (markReconciling n s c).route k = s.route k := by
    intro s c k hk
    unfold markReconciling
    split
    · rfl
    · split
      · rfl
      · exact route_putRoute_ne _ _ _ _ hk
  have hnd : ((s.recoveryCandidates n now).map RecoveryCandidate.sessionID).Nodup := by
    refine List.nodup_map_filterMap (fun k c h => ?_) (indexed_nodup s n)
    split at h
    · nomatch h
    · split at h
      · nomatch h
      · cases h
        rfl
  have hdel : ((s.recoveryExpired n now).foldl deleteRef { s with rows := rows }).route k =
      (s.route k).filter fun r => decide (⟨k, r.nodeID⟩ ∉ s.recoveryExpired n now) :=
    route_deleteRefs _ _ _
  by_cases hk : k ∈ (s.recoveryCandidates n now).map RecoveryCandidate.sessionID
  · -- A candidate is not expired, so it is still there when it is marked.
    obtain ⟨c, hc, rfl⟩ := List.mem_map.mp hk
    rw [List.foldl_view_of_mem RecoveryCandidate.sessionID RouteState.route (markReconciling n) _
      hself hother _ hnd _ c hc, hdel]
    obtain ⟨-, r, hr, hn, hrec, hlease⟩ := (mem_recoveryCandidates s).mp hc
    simp only [hr, Option.filter_some, mem_recoveryExpired hidx, Option.some.injEq,
      exists_eq_left', hrec, Bool.false_eq_true, false_and, and_false, not_false_eq_true,
      decide_true, if_true, Option.map_some, Option.bind_some, beginFate, hn, ne_eq,
      not_true_eq_false, if_false, hlease]
  · rw [List.foldl_view_of_not_mem RecoveryCandidate.sessionID RouteState.route (markReconciling n)
      hother _ _ k hk, hdel]
    cases hr : s.route k with
    | none => rfl
    | some r =>
      simp only [Option.filter_some, mem_recoveryExpired hidx, hr, Option.some.injEq,
        exists_eq_left', Option.bind_some, beginFate, true_and]
      by_cases hn : r.nodeID = n
      · -- Not a candidate although it is indexed, so it cannot be recovered.
        have hrec : s.notRecoverable r now = true := by
          by_contra hrec
          rw [Bool.not_eq_true] at hrec
          exact hk (List.mem_map.mpr ⟨⟨k, s.recoveryLease r⟩, (mem_recoveryCandidates s).mpr
            ⟨(hidx.mem_iff n k).mpr ⟨r, hr, hn⟩, r, hr, hn, hrec, rfl⟩, rfl⟩)
        by_cases hl : 0 < r.leaseExpiresUnixMs <;> simp [hn, hrec, hl]
      · simp [hn]

/-- What a recovery report makes of the route of a candidate. -/
def candidateFate (n : String) (results : GoMap String RecoveryStatus) (now : Int)
    (c : RecoveryCandidate) (r : TerminalSessionRoute) : Option TerminalSessionRoute :=
  if r.nodeID ≠ n then some r
  else if recoveryFailed results now c then none
  else some { r with recoveryState := .ready, lastUsedUnixMs := now }

/-- What `applyTerminalSessionRecoveryReport` makes of a route once its store call
    succeeded. -/
def applyFate (n : String) (candidates : GoMap String Int) (results : GoMap String RecoveryStatus)
    (now : Int) (k : String) (r : TerminalSessionRoute) : Option TerminalSessionRoute :=
  match candidates.lookup k with
  | none => some r
  | some lease => candidateFate n results now ⟨k, lease⟩ r

theorem mem_candidateList {candidates : GoMap String Int} {c : RecoveryCandidate} :
    c ∈ candidateList candidates ↔ candidates.lookup c.sessionID = some c.leaseExpiresUnixMs := by
  obtain ⟨k, lease⟩ := c
  rw [← Option.mem_def, AList.mem_lookup_iff]
  simp only [candidateList, List.mem_map, RecoveryCandidate.mk.injEq]
  constructor
  · rintro ⟨e, he, rfl, rfl⟩
    exact he
  · intro he
    exact ⟨⟨k, lease⟩, he, rfl, rfl⟩

/-- The routes a recovery report refers to. -/
theorem mem_reportDeleteRefs {candidates : GoMap String Int} {results : GoMap String RecoveryStatus} :
    ref ∈ s.reportDeleteRefs n (candidateList candidates) results now ↔
      ∃ r, s.route ref.scopedSessionID = some r ∧ ref.nodeID = r.nodeID ∧ r.nodeID = n ∧
        (∃ lease, candidates.lookup ref.scopedSessionID = some lease ∧
          recoveryFailed results now ⟨ref.scopedSessionID, lease⟩ = true) ∧
        0 < r.leaseExpiresUnixMs := by
  unfold reportDeleteRefs
  rw [List.mem_filterMap]
  constructor
  · rintro ⟨c, hc, h⟩
    split at h
    · nomatch h
    · rename_i r hr
      split at h
      · rename_i hcond
        cases h
        exact ⟨r, hr, rfl, hcond.1, ⟨_, mem_candidateList.mp hc, hcond.2.1⟩, hcond.2.2⟩
      · nomatch h
  · rintro ⟨r, hr, hn, hrn, ⟨lease, hlookup, hfailed⟩, hpos⟩
    refine ⟨⟨ref.scopedSessionID, lease⟩, mem_candidateList.mpr hlookup, ?_⟩
    simp only [hr]
    rw [if_pos ⟨hrn, hfailed, hpos⟩, ← hn]

/-- The loop of `applyTerminalSessionRecoveryReport` gives every route its fate. -/
theorem route_applyOK (n : String) (candidates : GoMap String Int)
    (results : GoMap String RecoveryStatus) (now : Int) (rows : TerminalSessionRows) (k : String) :
    ((candidateList candidates).foldl (applyRecoveryResult n results now)
      { s with rows := rows }).route k =
      (s.route k).bind (applyFate n candidates results now k) := by
  have hself : ∀ (s : RouteState) (c : RecoveryCandidate),
      (applyRecoveryResult n results now s c).route c.sessionID =
        (s.route c.sessionID).bind (candidateFate n results now c) := by
    intro s c
    unfold applyRecoveryResult
    cases hr : s.route c.sessionID with
    | none => simp [hr]
    | some r =>
      simp only [Option.bind_some, candidateFate]
      split
      · exact hr
      · split
        · exact route_delete_self _ _ _
        · exact route_putRoute_self _ _ _
  have hother : ∀ (s : RouteState) (c : RecoveryCandidate) (k : String), k ≠ c.sessionID →
      (applyRecoveryResult n results now s c).route k = s.route k := by
    intro s c k hk
    unfold applyRecoveryResult
    split
    · rfl
    · split
      · rfl
      · split
        · exact route_delete_ne _ _ _ _ hk
        · exact route_putRoute_ne _ _ _ _ hk
  have hnd : ((candidateList candidates).map RecoveryCandidate.sessionID).Nodup := by
    have hkeys : (candidateList candidates).map RecoveryCandidate.sessionID = candidates.keys := by
      simp [candidateList, AList.keys, List.keys]
    rw [hkeys]
    exact AList.keys_nodup candidates
  cases hc : candidates.lookup k with
  | none =>
    rw [List.foldl_view_of_not_mem RecoveryCandidate.sessionID RouteState.route _ hother _ _ k ?_]
    · cases hr : s.route k with
      | none => exact hr
      | some r =>
        simp only [Option.bind_some, applyFate, hc]
        exact hr
    · rintro hmem
      obtain ⟨c, hc', rfl⟩ := List.mem_map.mp hmem
      rw [mem_candidateList.mp hc'] at hc
      nomatch hc
  | some lease =>
    have hmem : (⟨k, lease⟩ : RecoveryCandidate) ∈ candidateList candidates :=
      mem_candidateList.mpr hc
    rw [List.foldl_view_of_mem RecoveryCandidate.sessionID RouteState.route _
      (fun c o => o.bind (candidateFate n results now c)) hself hother _ hnd _ ⟨k, lease⟩ hmem]
    change (s.route k).bind _ = _
    congr 1
    funext r
    simp only [applyFate, hc]

/-! ## Listing -/

/-- The expired routes a listing refers to. -/
theorem mem_listExpired :
    ref ∈ s.listExpired now ↔
      ∃ r, s.route ref.scopedSessionID = some r ∧ ref.nodeID = r.nodeID ∧
        leaseExpired r now = true := by
  unfold listExpired
  rw [List.mem_filterMap]
  constructor
  · rintro ⟨k, -, h⟩
    split at h
    · nomatch h
    · rename_i r hr
      split at h
      · rename_i hexp
        cases h
        exact ⟨r, hr, rfl, hexp⟩
      · nomatch h
  · rintro ⟨r, hr, hn, hexp⟩
    refine ⟨ref.scopedSessionID, AList.mem_keys_of_lookup hr, ?_⟩
    simp only [hr]
    rw [if_pos hexp, ← hn]

/-! ## Rows and the loops

No loop over routes touches a row. -/

theorem rows_markReconcilings (n : String) (cs : List RecoveryCandidate) (s : RouteState) :
    (cs.foldl (markReconciling n) s).rows = s.rows := by
  refine List.foldl_view_eq RouteState.rows (fun s c => ?_) cs s
  unfold markReconciling
  split
  · rfl
  · split <;> rfl

theorem rows_deleteOfNodes (n : String) (ks : List String) (acc : RouteState × Nat) :
    (ks.foldl (deleteOfNode n) acc).1.rows = acc.1.rows :=
  (Sweeps.foldl_fst ks acc (sweeps_deleteOfNode n)).rows_eq

theorem rows_pruneRoutes (ttl now : Int) (ok : Bool) (ks : List String) (acc : RouteState × Nat) :
    (ks.foldl (pruneRoute ttl now ok) acc).1.rows = acc.1.rows :=
  (Sweeps.foldl_fst ks acc (sweeps_pruneRoute ttl now ok)).rows_eq

end RouteState

end Onlyboxes.Console
