import Onlyboxes.Console.TerminalRoutes

/-!
# Reading the route table

What the primitive updates of `RouteState` (`putRoute`, `indexRoute` and
`deleteTerminalSessionRouteLocked`) do to a route, to the index and to the rows,
so that no later proof unfolds them.

## Key results

- `route_putRoute`, `route_delete`: point lookups after an update
- `mem_indexed_indexRoute`, `mem_indexed_delete`: the index, set by set
-/

namespace Onlyboxes.Console.RouteState

open Text AList

variable (s : RouteState) (k k' n n' : String) (r r' : TerminalSessionRoute)

/-! ## Point lookups -/

theorem route_putRoute :
    (s.putRoute k r).route k' = if k' = k then some r else s.route k' :=
  lookup_insert_ite s.terminalSessionToNode k' k r

@[simp] theorem route_putRoute_self : (s.putRoute k r).route k = some r := by
  rw [route_putRoute, if_pos rfl]

theorem route_putRoute_ne (h : k' ≠ k) : (s.putRoute k r).route k' = s.route k' := by
  rw [route_putRoute, if_neg h]

@[simp] theorem route_indexRoute : (s.indexRoute n k).route k' = s.route k' := rfl

@[simp] theorem rows_putRoute : (s.putRoute k r).rows = s.rows := rfl

@[simp] theorem indexed_putRoute : (s.putRoute k r).indexed n = s.indexed n := rfl

/-- Deletion erases the route from the map. -/
theorem terminalSessionToNode_delete :
    (s.deleteTerminalSessionRouteLocked k r).terminalSessionToNode =
      s.terminalSessionToNode.erase k := by
  unfold deleteTerminalSessionRouteLocked
  dsimp only
  split
  · rfl
  · split <;> rfl

theorem route_delete :
    (s.deleteTerminalSessionRouteLocked k r).route k' = if k' = k then none else s.route k' := by
  unfold route
  rw [terminalSessionToNode_delete, lookup_erase_ite]

@[simp] theorem route_delete_self : (s.deleteTerminalSessionRouteLocked k r).route k = none := by
  rw [route_delete, if_pos rfl]

theorem route_delete_ne (h : k' ≠ k) :
    (s.deleteTerminalSessionRouteLocked k r).route k' = s.route k' := by
  rw [route_delete, if_neg h]

@[simp] theorem rows_delete : (s.deleteTerminalSessionRouteLocked k r).rows = s.rows := by
  unfold deleteTerminalSessionRouteLocked
  dsimp only
  split
  · rfl
  · split <;> rfl

@[simp] theorem revoked_delete :
    (s.deleteTerminalSessionRouteLocked k r).revoked = s.revoked ++ [k] := by
  unfold deleteTerminalSessionRouteLocked
  dsimp only
  split
  · rfl
  · split <;> rfl

@[simp] theorem seq_delete :
    (s.deleteTerminalSessionRouteLocked k r).terminalRouteReservationSeq =
      s.terminalRouteReservationSeq := by
  unfold deleteTerminalSessionRouteLocked
  dsimp only
  split
  · rfl
  · split <;> rfl

/-! ## The index -/

/-- Membership in the index set of a node, read off the index map. -/
theorem mem_indexed_iff :
    k ∈ s.indexed n ↔
      ∃ index, s.terminalNodeToSessionIDIndex.lookup n = some index ∧ k ∈ index := by
  unfold indexed
  cases s.terminalNodeToSessionIDIndex.lookup n with
  | none => simp
  | some index => simp [mem_keys]

theorem indexed_nodup : (s.indexed n).Nodup := by
  unfold indexed
  split
  · exact List.nodup_nil
  · exact keys_nodup _

theorem mem_indexed_indexRoute :
    k' ∈ (s.indexRoute n k).indexed n' ↔ (n' = n ∧ k' = k) ∨ k' ∈ s.indexed n' := by
  simp only [mem_indexed_iff, indexRoute, lookup_insert_ite]
  by_cases hn : n' = n
  · subst hn
    cases s.terminalNodeToSessionIDIndex.lookup n' with
    | none => simp only [Option.getD_none, ↓reduceIte, Option.some.injEq, exists_eq_left',
        mem_insert, notMem_empty, or_false, true_and, reduceCtorEq, false_and,
        exists_false]
    | some index => simp only [Option.getD_some, ↓reduceIte, Option.some.injEq, exists_eq_left',
        mem_insert, true_and]
  · simp [hn]

/-- The index entry a deletion leaves for a node. -/
theorem lookup_index_delete :
    (s.deleteTerminalSessionRouteLocked k r).terminalNodeToSessionIDIndex.lookup n =
      if n = r.nodeID then
        (s.terminalNodeToSessionIDIndex.lookup n).bind fun index =>
          if (index.erase k).keys = [] then none else some (index.erase k)
      else s.terminalNodeToSessionIDIndex.lookup n := by
  unfold deleteTerminalSessionRouteLocked
  dsimp only
  by_cases hn : n = r.nodeID
  · subst hn
    rw [if_pos rfl]
    cases hi : s.terminalNodeToSessionIDIndex.lookup r.nodeID with
    | none => simpa using hi
    | some index =>
      simp only [Option.bind_some]
      split
      · exact lookup_erase _ _
      · exact lookup_insert _
  · rw [if_neg hn]
    split
    · rfl
    · split
      · exact lookup_erase_ne hn
      · exact lookup_insert_ne hn

theorem mem_indexed_delete :
    k' ∈ (s.deleteTerminalSessionRouteLocked k r).indexed n ↔
      k' ∈ s.indexed n ∧ ¬ (n = r.nodeID ∧ k' = k) := by
  rw [mem_indexed_iff, mem_indexed_iff, lookup_index_delete]
  by_cases hn : n = r.nodeID
  · subst hn
    cases s.terminalNodeToSessionIDIndex.lookup r.nodeID with
    | none => simp
    | some index =>
      by_cases hk : (index.erase k).keys = []
      · -- The set became empty: `k` was its only member.
        have hnone : ∀ x, x ∉ index.erase k := by
          intro x hx
          rw [mem_keys, hk] at hx
          exact List.not_mem_nil hx
        have hx := hnone k'
        rw [mem_erase] at hx
        simp only [if_pos, Option.bind_some, hk]
        constructor
        · rintro ⟨_, h, _⟩
          nomatch h
        · rintro ⟨⟨_, h, hmem⟩, hne⟩
          cases h
          exact absurd ⟨fun h => hne ⟨trivial, h⟩, hmem⟩ hx
      · simp only [if_pos, Option.bind_some, hk, if_false, Option.some.injEq, true_and]
        constructor
        · rintro ⟨_, rfl, hmem⟩
          rw [mem_erase] at hmem
          exact ⟨⟨index, rfl, hmem.2⟩, hmem.1⟩
        · rintro ⟨⟨_, rfl, hmem⟩, hne⟩
          exact ⟨_, rfl, mem_erase.mpr ⟨hne, hmem⟩⟩
  · simp [hn]

end Onlyboxes.Console.RouteState
