import Mathlib.Data.List.AList

/-!
# Finite maps and loops over their keys

Go maps are modelled by Mathlib's `AList`: a list of entries with distinct keys.
This file adds what the loops of a Go program need on top of it: point lookups
after an update, filtering, and folds whose step only touches the entry of the
key it is at (`List.foldl_view_of_mem`), so that the result of a whole loop is
known key by key and does not depend on the iteration order.
-/

/-- A Go map from `K` to `V`. -/
abbrev GoMap (K V : Type) := AList (fun _ : K => V)

/-- A Go set: a map to the empty struct. -/
abbrev GoSet (K : Type) := GoMap K Unit

namespace AList

variable {K V : Type} [DecidableEq K]

/-- Lookup after an assignment, by cases on the key. -/
theorem lookup_insert_ite (m : GoMap K V) (k k' : K) (v : V) :
    (m.insert k' v).lookup k = if k = k' then some v else m.lookup k := by
  split
  · rename_i h; subst h; exact lookup_insert m
  · rename_i h; exact lookup_insert_ne h

/-- Lookup after a `delete`, by cases on the key. -/
theorem lookup_erase_ite (m : GoMap K V) (k k' : K) :
    (m.erase k').lookup k = if k = k' then none else m.lookup k := by
  split
  · rename_i h; subst h; exact lookup_erase k m
  · rename_i h; exact lookup_erase_ne h

variable {m : GoMap K V} {k : K}

/-- An entry after an assignment is the assigned one, or one from before. -/
theorem lookup_insert_cases {k' : K} {v v' : V} (h : (m.insert k' v).lookup k = some v') :
    (k = k' ∧ v' = v) ∨ (k ≠ k' ∧ m.lookup k = some v') := by
  rw [lookup_insert_ite] at h
  split at h
  · rename_i hk
    exact .inl ⟨hk, (Option.some.inj h).symm⟩
  · rename_i hk
    exact .inr ⟨hk, h⟩

/-- An entry after a `delete` was there before. -/
theorem lookup_of_erase {k' : K} {v : V} (h : (m.erase k').lookup k = some v) :
    k ≠ k' ∧ m.lookup k = some v := by
  rw [lookup_erase_ite] at h
  split at h
  · nomatch h
  · rename_i hk
    exact ⟨hk, h⟩

/-- A key occurs exactly when its lookup gives a value. -/
theorem mem_iff_lookup_eq_some :
    k ∈ m ↔ ∃ v, m.lookup k = some v := by
  rw [← lookup_isSome, Option.isSome_iff_exists]

/-- A key of the map has a value. -/
theorem exists_lookup_of_mem_keys (h : k ∈ m.keys) :
    ∃ v, m.lookup k = some v :=
  mem_iff_lookup_eq_some.mp (mem_keys.mpr h)

/-- A key with a value is enumerated. -/
theorem mem_keys_of_lookup {v : V} (h : m.lookup k = some v) :
    k ∈ m.keys :=
  mem_keys.mp (mem_iff_lookup_eq_some.mpr ⟨v, h⟩)

/-- A key without a value is not enumerated. -/
theorem not_mem_keys_of_lookup (h : m.lookup k = none) :
    k ∉ m.keys :=
  fun hk => lookup_eq_none.mp h (mem_keys.mpr hk)

/-- The entries of `m` that satisfy `p`. -/
def filter (p : K → V → Bool) (m : GoMap K V) : GoMap K V :=
  ⟨m.entries.filter (fun e => p e.1 e.2), m.nodupKeys.sublist List.filter_sublist⟩

omit [DecidableEq K] in
theorem entries_filter (p : K → V → Bool) (m : GoMap K V) :
    (m.filter p).entries = m.entries.filter (fun e => p e.1 e.2) := rfl

/-- Filtering keeps a value exactly when it satisfies the predicate. -/
theorem lookup_filter (p : K → V → Bool) (m : GoMap K V) (k : K) :
    (m.filter p).lookup k = (m.lookup k).filter (p k) := by
  apply Option.ext
  intro v
  rw [Option.filter_eq_some_iff]
  simp only [← Option.mem_def, mem_lookup_iff, entries_filter, List.mem_filter]

/-- Every value replaced by what `f` makes of it. -/
def mapValues (f : V → V) (m : GoMap K V) : GoMap K V where
  entries := m.entries.map fun e => ⟨e.1, f e.2⟩
  nodupKeys := by
    have hkeys : (m.entries.map fun e => (⟨e.1, f e.2⟩ : Sigma fun _ : K => V)).keys = m.keys := by
      simp [List.keys, keys]
    rw [List.NodupKeys, hkeys]
    exact m.keys_nodup

theorem lookup_mapValues (f : V → V) (m : GoMap K V) (k : K) :
    (m.mapValues f).lookup k = (m.lookup k).map f := by
  apply Option.ext
  intro v
  rw [Option.map_eq_some_iff]
  simp only [← Option.mem_def, mem_lookup_iff]
  simp only [mapValues, List.mem_map, Sigma.mk.injEq]
  constructor
  · rintro ⟨e, he, rfl, heq⟩
    exact ⟨e.2, he, eq_of_heq heq⟩
  · rintro ⟨w, hw, rfl⟩
    exact ⟨⟨k, w⟩, hw, rfl, HEq.rfl⟩

end AList

/-- Keeping every value keeps the option. -/
theorem Option.filter_const_true {V : Type} (o : Option V) : o.filter (fun _ => true) = o := by
  cases o <;> rfl

namespace List

variable {σ K V : Type}

/-- An invariant of every loop body is an invariant of the loop. -/
theorem foldl_invariant {P : σ → Prop} {step : σ → K → σ} {s : σ} (ks : List K) (h : P s)
    (hstep : ∀ s, ∀ k ∈ ks, P s → P (step s k)) : P (ks.foldl step s) := by
  induction ks generalizing s with
  | nil => exact h
  | cons k ks ih =>
    rw [foldl_cons]
    exact ih (hstep s k mem_cons_self h)
      (fun s' k' hk' => hstep s' k' (mem_cons_of_mem _ hk'))

/-- A loop whose body leaves a view of the state alone leaves it alone. -/
theorem foldl_view_eq {ι : Type} {step : σ → ι → σ} (view : σ → V)
    (h : ∀ s x, view (step s x) = view s) (xs : List ι) (s : σ) :
    view (xs.foldl step s) = view s :=
  foldl_invariant (P := fun s' => view s' = view s) xs rfl fun s' x _ hs => (h s' x).trans hs

/-- Items collected from keys that remember their key have distinct keys. -/
theorem nodup_map_filterMap {ι : Type} {f : K → Option ι} {key : ι → K}
    (h : ∀ k x, f k = some x → key x = k) {ks : List K} (hnd : ks.Nodup) :
    ((ks.filterMap f).map key).Nodup := by
  have hsub : (ks.filterMap f).map key <+ ks := by
    clear hnd
    induction ks with
    | nil => exact Sublist.slnil
    | cons k ks ih =>
      cases hk : f k with
      | none => rw [filterMap_cons_none hk]; exact ih.cons k
      | some x => rw [filterMap_cons_some hk, map_cons, h k x hk]; exact ih.cons_cons k
  exact hnd.sublist hsub

section Pointwise

variable {ι : Type} (key : ι → K) (view : σ → K → V) (step : σ → ι → σ) (g : ι → V → V)

/-- A loop leaves alone the values of the keys it does not visit. -/
theorem foldl_view_of_not_mem (hother : ∀ s x k, k ≠ key x → view (step s x) k = view s k)
    (xs : List ι) (s : σ) (k : K) (hk : k ∉ xs.map key) :
    view (xs.foldl step s) k = view s k := by
  induction xs generalizing s with
  | nil => rfl
  | cons x xs ih =>
    simp only [map_cons, mem_cons, not_or] at hk
    rw [foldl_cons, ih _ hk.2, hother s x k hk.1]

/-- A loop over items with distinct keys whose body rewrites the value seen at the
    key of its item with `g`, and leaves every other value alone, rewrites the value
    of each item it visits exactly once. -/
theorem foldl_view_of_mem (hself : ∀ s x, view (step s x) (key x) = g x (view s (key x)))
    (hother : ∀ s x k, k ≠ key x → view (step s x) k = view s k)
    (xs : List ι) (hnd : (xs.map key).Nodup) (s : σ) (x : ι) (hx : x ∈ xs) :
    view (xs.foldl step s) (key x) = g x (view s (key x)) := by
  induction xs generalizing s with
  | nil => simp at hx
  | cons y ys ih =>
    rw [map_cons, nodup_cons] at hnd
    rw [foldl_cons]
    rcases mem_cons.mp hx with rfl | hx
    · rw [foldl_view_of_not_mem key view step hother ys _ _ hnd.1, hself]
    · have hne : key x ≠ key y := fun h => hnd.1 (h ▸ mem_map_of_mem hx)
      rw [ih hnd.2 _ hx, hother s y _ hne]

end Pointwise

/-- `foldl_view_of_mem` and `foldl_view_of_not_mem` for a loop over the keys. -/
theorem foldl_pointwise [DecidableEq K] (view : σ → K → V) (step : σ → K → σ) (g : K → V → V)
    (hself : ∀ s k, view (step s k) k = g k (view s k))
    (hother : ∀ s k k', k' ≠ k → view (step s k) k' = view s k')
    (ks : List K) (hnd : ks.Nodup) (s : σ) (k : K) :
    view (ks.foldl step s) k = if k ∈ ks then g k (view s k) else view s k := by
  split
  · rename_i hk
    exact foldl_view_of_mem id view step g hself hother ks (by simpa using hnd) s k hk
  · rename_i hk
    exact foldl_view_of_not_mem id view step hother ks s k (by simpa using hk)

/-- What a list of pairs is looked up to is in it. -/
theorem mem_of_lookup_eq_some [BEq K] [LawfulBEq K] {l : List (K × V)} {k : K} {v : V}
    (h : l.lookup k = some v) : (k, v) ∈ l := by
  obtain ⟨l₁, l₂, rfl, -⟩ := lookup_eq_some_iff.mp h
  exact mem_append_right _ mem_cons_self

end List

namespace AList

variable {K V : Type} [DecidableEq K] {k : K} {ws : List (K × V)} {v : V}

/-- The map that a list of assignments leaves. -/
def assign (ws : List (K × V)) : GoMap K V := ws.foldl (fun m w => m.insert w.1 w.2) ∅

/-- The last assignment to a key counts. -/
theorem lookup_assign (ws : List (K × V)) (k : K) : (assign ws).lookup k = ws.reverse.lookup k := by
  rw [assign, List.foldl_eq_foldr_reverse]
  induction ws.reverse with
  | nil => rfl
  | cons w ws ih =>
    rw [List.foldr_cons, lookup_insert_ite, ih, List.lookup_cons]
    split
    · rename_i hk
      rw [hk, beq_self_eq_true]
    · rename_i hk
      rw [beq_false_of_ne hk]

/-- What is there was assigned. -/
theorem mem_of_lookup_assign (h : (assign ws).lookup k = some v) : (k, v) ∈ ws := by
  rw [lookup_assign] at h
  exact List.mem_reverse.mp (List.mem_of_lookup_eq_some h)

/-- If the assignments to a key agree, their order does not matter. -/
theorem lookup_assign_iff (hagree : ∀ v v', (k, v) ∈ ws → (k, v') ∈ ws → v = v') :
    (assign ws).lookup k = some v ↔ (k, v) ∈ ws := by
  refine ⟨mem_of_lookup_assign, fun h => ?_⟩
  cases hlookup : (assign ws).lookup k with
  | none =>
    rw [lookup_assign] at hlookup
    simpa using List.lookup_eq_none_iff.mp hlookup (k, v) (List.mem_reverse.mpr h)
  | some v' => rw [hagree v' v (mem_of_lookup_assign hlookup) h]

end AList
