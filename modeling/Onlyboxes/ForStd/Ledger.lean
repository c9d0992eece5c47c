import Mathlib.Data.List.AList
import Mathlib.Data.List.Range
import Onlyboxes.ForStd.GoMap

/-!
# Slots and tickets

Conservation of a counted resource. Each time a unit of kind `c` is taken, a fresh
ticket is issued for it; the places that hold units are one list of tickets with
their kind. A `Ledger` says that the counters match the list and that every issued
ticket is in the list or among the released ones, exactly once.

## Key results

- `Ledger.acquire`, `Ledger.release`, `Ledger.move`: the three things a program may
  do with a unit
- `Ledger.count_eq_one`: every ticket is held or released, once
-/

/-- The counters `level`, the units held, the tickets given back and the number of
    tickets issued agree. -/
structure Ledger {K : Type} [DecidableEq K] (level : K → Int) (slots : List (Nat × K))
    (released : List Nat) (issued : Nat) : Prop where
  level_eq : ∀ c, level c = ((slots.map Prod.snd).count c : Int)
  tickets : (slots.map Prod.fst ++ released).Perm (List.range issued)

namespace Ledger

variable {K : Type} [DecidableEq K] {level level' : K → Int} {slots slots' : List (Nat × K)}
  {released : List Nat} {issued : Nat}

/-- Nothing was taken yet. -/
theorem init (h : ∀ c, level c = 0) : Ledger level [] [] 0 :=
  ⟨fun c => by simp [h c], by simp⟩

section

variable (h : Ledger level slots released issued)

include h

/-- Units may move from one place to another. -/
theorem move (hlevel : level' = level) (hslots : slots'.Perm slots) :
    Ledger level' slots' released issued := by
  subst hlevel
  refine ⟨fun c => ?_, ?_⟩
  · rw [h.level_eq, (hslots.map Prod.snd).count_eq]
  · exact ((hslots.map Prod.fst).append_right released).trans h.tickets

/-- Taking a unit issues a ticket. -/
theorem acquire (c : K) (hlevel : ∀ c', level' c' = if c' = c then level c + 1 else level c')
    (hslots : slots'.Perm ((issued, c) :: slots)) :
    Ledger level' slots' released (issued + 1) := by
  refine ⟨fun c' => ?_, ?_⟩
  · rw [hlevel, (hslots.map Prod.snd).count_eq, List.map_cons, List.count_cons]
    split
    · rename_i hc
      subst hc
      simp [h.level_eq]
    · rename_i hc
      have hne : (c == c') = false := by simpa using Ne.symm hc
      simp [h.level_eq, hne]
  · have hperm := (hslots.map Prod.fst).append_right released
    rw [List.map_cons, List.cons_append] at hperm
    rw [List.range_succ]
    calc slots'.map Prod.fst ++ released
      _ |>.Perm (issued :: (slots.map Prod.fst ++ released)) := hperm
      _ |>.Perm (issued :: List.range issued) := h.tickets.cons issued
      _ |>.Perm (List.range issued ++ [issued]) := (List.perm_append_singleton _ _).symm

/-- A unit that is held has been counted. -/
theorem level_pos {p : Nat × K} (hp : p ∈ slots) :
    0 < level p.2 := by
  rw [h.level_eq]
  exact_mod_cast List.count_pos_iff.mpr (List.mem_map_of_mem hp)

/-- Giving a unit back retires its ticket. -/
theorem release (p : Nat × K)
    (hlevel : ∀ c', level' c' = if c' = p.2 then level p.2 - 1 else level c')
    (hslots : slots.Perm (p :: slots')) :
    Ledger level' slots' (p.1 :: released) issued := by
  refine ⟨fun c' => ?_, ?_⟩
  · have hcount := (hslots.map Prod.snd).count_eq c'
    rw [List.map_cons, List.count_cons] at hcount
    rw [hlevel]
    split
    · rename_i hc
      subst hc
      rw [h.level_eq, hcount]
      simp
    · rename_i hc
      have hne : (p.2 == c') = false := by simpa using Ne.symm hc
      rw [h.level_eq, hcount]
      simp [hne]
  · have hperm := (hslots.map Prod.fst).append_right released
    rw [List.map_cons, List.cons_append] at hperm
    exact (List.perm_middle.trans hperm.symm).trans h.tickets

/-- Every issued ticket is held or released, and only once. -/
theorem count_eq_one {t : Nat} (ht : t < issued) :
    (slots.map Prod.fst).count t + released.count t = 1 := by
  rw [← List.count_append, h.tickets.count_eq]
  exact List.count_eq_one_of_mem List.nodup_range (List.mem_range.mpr ht)

end

end Ledger

namespace AList

variable {K V : Type} [DecidableEq K]

/-- The entries around one that is deleted. -/
theorem entries_perm_erase {m : GoMap K V} {k : K} {v : V} (h : m.lookup k = some v) :
    m.entries.Perm (⟨k, v⟩ :: (m.erase k).entries) := by
  obtain ⟨b, l₁, l₂, hk, hl, her⟩ := List.exists_of_kerase (AList.mem_keys_of_lookup h)
  have hb : b = v := by
    have hmem : (⟨k, b⟩ : Sigma fun _ : K => V) ∈ m.entries := by
      rw [hl]
      exact List.mem_append_right _ List.mem_cons_self
    have := AList.mem_lookup_iff.mpr hmem
    rw [Option.mem_def, h] at this
    exact (Option.some.inj this).symm
  subst hb
  change m.entries.Perm (⟨k, b⟩ :: List.kerase k m.entries)
  rw [her, hl]
  exact List.perm_middle

end AList
