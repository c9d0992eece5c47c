import Mathlib.Algebra.GroupWithZero.Nat
import Mathlib.Algebra.Order.BigOperators.Group.List
import Mathlib.Algebra.Order.Group.Nat
import Onlyboxes.ForStd.Ledger

/-!
# Counting the values of a map

How many entries of a map have a value with some property, and how that number changes
when entries come and go or when the property changes at one value. Together with
`List.sum_map_set_add` it is how things are accounted for that move between a map and a
list of holders.

## Key results

- `countValues_insert`, `countValues_erase`, `countValues_filter`: entries come and go
- `countValues_update`: the property changes at one value
- `countP_lookup`: entries that are found again by their keys
- `key_eq_of_countValues_le_one`: what is counted once is under one key
-/

namespace AList

variable {K V : Type} [DecidableEq K] {m : GoMap K V} {k : K} {v : V} {p q : V → Bool}

/-- The number of entries whose value has the property. -/
def countValues (p : V → Bool) (m : GoMap K V) : Nat := m.entries.countP fun e => p e.2

/-- One entry is deleted. -/
theorem countValues_erase (p : V → Bool) (h : m.lookup k = some v) :
    countValues p (m.erase k) + (if p v = true then 1 else 0) = countValues p m := by
  unfold countValues
  rw [(entries_perm_erase h).countP_eq, List.countP_cons]

/-- An entry is counted. -/
theorem countValues_pos (h : m.lookup k = some v) (hp : p v = true) : 0 < countValues p m := by
  have herase := countValues_erase p h
  rw [if_pos hp] at herase
  omega

/-- If at most one entry is counted, two that are counted have the same key. -/
theorem key_eq_of_countValues_le_one {k' : K} {v' : V} (hone : countValues p m ≤ 1)
    (h : m.lookup k = some v) (hp : p v = true) (h' : m.lookup k' = some v') (hp' : p v' = true) :
    k = k' := by
  by_contra hne
  have herase := countValues_erase p h
  rw [if_pos hp] at herase
  have hpos : 0 < countValues p (m.erase k) := by
    refine countValues_pos (k := k') ?_ hp'
    rw [lookup_erase_ite, if_neg (Ne.symm hne)]
    exact h'
  omega

/-- A new entry. -/
theorem countValues_insert (p : V → Bool) (h : m.lookup k = none) :
    countValues p (m.insert k v) = countValues p m + (if p v = true then 1 else 0) := by
  unfold countValues
  rw [AList.entries_insert_of_notMem (AList.lookup_eq_none.mp h), List.countP_cons]

/-- The value of an entry is replaced. -/
theorem countValues_replace (p : V → Bool) {w : V} (h : m.lookup k = some v) :
    countValues p (m.insert k w) + (if p v = true then 1 else 0) =
      countValues p m + (if p w = true then 1 else 0) := by
  have hinsert : countValues p (m.insert k w) =
      countValues p (m.erase k) + (if p w = true then 1 else 0) := by
    unfold countValues
    rw [AList.entries_insert, List.countP_cons]
    rfl
  have herase := countValues_erase p h
  omega

/-- Entries that are counted through their keys. -/
theorem countP_lookup {es : List (Sigma fun _ : K => V)} (p : V → Bool) (h : ∀ e ∈ es, e ∈ m.entries) :
    (es.map (·.1)).countP (fun k => (m.lookup k).any p) = es.countP fun e => p e.2 := by
  rw [List.countP_map]
  refine List.countP_congr fun e he => ?_
  rw [Function.comp_apply, AList.mem_lookup_iff.mpr (h e he), Option.any_some]

/-- The property is the same for the values that are there. -/
theorem countValues_congr (h : ∀ k v, m.lookup k = some v → p v = q v) :
    countValues p m = countValues q m := by
  refine List.countP_congr fun e he => ?_
  rw [h e.1 e.2 (AList.mem_lookup_iff.mpr he)]

/-- The property changes at a value that one entry has. -/
theorem countValues_update (h : m.lookup k = some v) (honly : ∀ k', m.lookup k' = some v → k' = k)
    (hsame : ∀ v', v' ≠ v → q v' = p v') :
    countValues q m + (if p v = true then 1 else 0) = countValues p m + (if q v = true then 1 else 0) := by
  rw [← countValues_erase p h, ← countValues_erase q h]
  have hothers : countValues q (m.erase k) = countValues p (m.erase k) := by
    refine countValues_congr fun k' v' hlookup => hsame v' ?_
    rintro rfl
    exact (lookup_of_erase hlookup).1 (honly k' (lookup_of_erase hlookup).2)
  omega

omit [DecidableEq K] in
/-- The entries with some values are deleted. -/
theorem countValues_filter (p q : V → Bool) (m : GoMap K V) :
    countValues p (m.filter fun _ v => !q v) + ((m.entries.map (·.2)).filter q).countP p =
      countValues p m := by
  unfold countValues
  rw [entries_filter]
  induction m.entries with
  | nil => rfl
  | cons e es ih =>
    rw [List.map_cons, List.countP_cons]
    cases hq : q e.2 with
    | true =>
      rw [List.filter_cons_of_neg (by rw [hq]; exact Bool.false_ne_true), List.filter_cons_of_pos hq,
        List.countP_cons]
      omega
    | false =>
      rw [List.filter_cons_of_pos (by rw [hq]; rfl),
        List.filter_cons_of_neg (by rw [hq]; exact Bool.false_ne_true), List.countP_cons]
      omega

end AList

namespace List

/-- Replacing a member changes a sum by what it contributes. -/
theorem sum_map_set_add {α : Type} {l : List α} {i : Nat} {a b : α} (f : α → Nat) (h : l[i]? = some a) :
    ((l.set i b).map f).sum + f a = (l.map f).sum + f b := by
  induction l generalizing i with
  | nil => nomatch h
  | cons x l ih =>
    cases i with
    | zero =>
      cases h
      rw [set_cons_zero, map_cons, map_cons, sum_cons, sum_cons]
      omega
    | succ i =>
      have := ih (i := i) h
      rw [set_cons_succ, map_cons, map_cons, sum_cons, sum_cons]
      omega

end List
