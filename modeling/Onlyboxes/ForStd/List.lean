import Mathlib.Algebra.GroupWithZero.Nat
import Mathlib.Data.List.Basic

/-!
# Lists of objects that are known by their places

Objects are appended to a list and replaced in place. How `List.countP` changes when one
member is replaced, in a form without subtraction, and what is at a place after one was
appended.
-/

namespace List

variable {α : Type} {l l' : List α} {a b : α} {i : Nat}

/-- Replacing a member. -/
theorem countP_set_add (p : α → Bool) (h : l[i]? = some a) :
    (l.set i b).countP p + (if p a = true then 1 else 0) =
      l.countP p + (if p b = true then 1 else 0) := by
  induction l generalizing i with
  | nil => nomatch h
  | cons x l ih =>
    cases i with
    | zero =>
      cases h
      rw [set_cons_zero, countP_cons, countP_cons]
      omega
    | succ i =>
      have := ih (i := i) h
      rw [set_cons_succ, countP_cons, countP_cons]
      omega

/-- Appending a member. -/
theorem countP_concat (p : α → Bool) :
    (l ++ [b]).countP p = l.countP p + if p b = true then 1 else 0 := by
  rw [countP_append, countP_singleton]

theorem sum_map_concat (f : α → Nat) : ((l ++ [b]).map f).sum = (l.map f).sum + f b := by
  rw [map_append, sum_append, map_singleton, sum_singleton]

/-- A member that counts. -/
theorem countP_pos_of_getElem? (p : α → Bool) (h : l[i]? = some a) (hp : p a = true) :
    0 < l.countP p :=
  countP_pos_iff.mpr ⟨a, mem_of_getElem? h, hp⟩

/-- Lists whose members count the same, place by place. -/
theorem countP_congr_getElem? (p : α → Bool)
    (h : ∀ i : Nat, (l'[i]?).map p = (l[i]?).map p) : l'.countP p = l.countP p := by
  have hmap : l'.map p = l.map p := by
    apply ext_getElem?
    intro i
    rw [getElem?_map, getElem?_map, h i]
  have hcount : ∀ l : List α, l.countP p = (l.map p).countP id := fun l => by
    rw [countP_map]
    rfl
  rw [hcount, hcount, hmap]

/-- What is at a place after one member was appended. -/
theorem getElem?_concat_cases {c : α} (h : (l ++ [b])[i]? = some c) :
    (i < l.length ∧ l[i]? = some c) ∨ (i = l.length ∧ c = b) := by
  rw [getElem?_append] at h
  split at h
  · rename_i hlt
    exact .inl ⟨hlt, h⟩
  · have hlast := (getElem?_eq_some_iff.mp h).1
    rw [length_singleton] at hlast
    exact .inr ⟨by omega, mem_singleton.mp (mem_of_getElem? h)⟩

theorem getElem?_concat_of_some (h : l[i]? = some a) : (l ++ [b])[i]? = some a :=
  (getElem?_append_left (getElem?_eq_some_iff.mp h).1).trans h

variable {P : α → Prop}

/-- What holds of every member, and of the one that is appended. -/
theorem forall_mem_concat (h : ∀ a ∈ l, P a) (hb : P b) : ∀ a ∈ l ++ [b], P a :=
  forall_mem_append.mpr ⟨h, forall_mem_singleton.mpr hb⟩

/-- What holds of every member, and of the one that replaces another. -/
theorem forall_mem_set (h : ∀ a ∈ l, P a) (hb : P b) : ∀ a ∈ l.set i b, P a := by
  intro a ha
  rcases mem_or_eq_of_mem_set ha with ha | rfl
  · exact h a ha
  · exact hb

variable {j : Nat}

/-- A member after another one was replaced. -/
theorem mem_set_of_ne (h : l[j]? = some a) (hne : i ≠ j) : a ∈ l.set i b := by
  refine mem_of_getElem? (i := j) ?_
  rw [getElem?_set_ne hne, h]

/-- What is at a place after one member was replaced. -/
theorem getElem?_set_cases (h : (l.set i b)[j]? = some a) :
    (i = j ∧ a = b) ∨ (i ≠ j ∧ l[j]? = some a) := by
  rw [getElem?_set] at h
  split at h
  · rename_i heq
    split at h
    · exact .inl ⟨heq, (Option.some.inj h).symm⟩
    · nomatch h
  · rename_i hne
    exact .inr ⟨hne, h⟩

theorem mem_set_cases (h : a ∈ l.set i b) : a = b ∨ ∃ j, i ≠ j ∧ l[j]? = some a := by
  obtain ⟨j, hj⟩ := getElem?_of_mem h
  rcases getElem?_set_cases hj with ⟨-, heq⟩ | ⟨hne, hj⟩
  · exact .inl heq
  · exact .inr ⟨j, hne, hj⟩

theorem getElem?_set_of_some (h : l[i]? = some a) : (l.set i b)[i]? = some b :=
  getElem?_set_self (getElem?_eq_some_iff.mp h).1

/-- Where a member is after one was replaced. -/
theorem getElem?_set_or (b : α) {c : α} (h : l[i]? = some a) (hc : l[j]? = some c) :
    (i = j ∧ c = a ∧ (l.set i b)[j]? = some b) ∨ (i ≠ j ∧ (l.set i b)[j]? = some c) := by
  by_cases hij : i = j
  · subst hij
    exact .inl ⟨rfl, Option.mem_unique hc h, getElem?_set_of_some h⟩
  · exact .inr ⟨hij, (getElem?_set_ne hij).trans hc⟩

end List
