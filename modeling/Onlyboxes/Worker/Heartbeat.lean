import Mathlib.Algebra.Group.Int.Defs
import Mathlib.Algebra.Group.Nat.Defs
import Mathlib.Data.Int.Init

/-!
# Heartbeats

How long the Go workers wait between two heartbeats. Durations are `int64` nanoseconds, so
the product of a long interval and a percentage wraps around; the jitter stays in its range
all the same.
-/

namespace Onlyboxes.Worker

/-- `time.Second`. -/
def second : Int64 := 1000000000

def minHeartbeatInterval : Int64 := 1 * second

def durationFromServer (seconds : Int32) (fallback : Int64) : Int64 :=
  if 0 < seconds then seconds.toInt64 * second
  else if fallback ≤ 0 then 5 * second
  else fallback

/-- `rand.Int` panics (`none`) for an empty range, and otherwise gives a number of it unless
    randomness fails; `drawn` is what was read. -/
def randInt (drawn : Option Nat) (limit : Int64) : Option (Option Int64) :=
  if limit ≤ 0 then none else some (drawn.map fun n : Nat => Int64.ofInt (n % limit.toInt))

/-- The end of `jitterDuration`: `base` moved by at most `maxDelta`. -/
def jitter (drawn : Option Nat) (fallback base maxDelta : Int64) : Option Int64 :=
  if maxDelta ≤ 0 then some fallback
  else
    match randInt drawn (maxDelta * 2 + 1) with
    | none => none
    | some none => some fallback
    | some (some random) =>
      let jittered := base + (random - maxDelta)
      if jittered < minHeartbeatInterval then some minHeartbeatInterval else some jittered

/-- `jitterDuration` of `worker-docker`. -/
def Docker.jitterDuration (drawn : Option Nat) (base jitterPct : Int64) : Option Int64 :=
  let base := if base ≤ 0 then minHeartbeatInterval else base
  if jitterPct ≤ 0 then some base
  else jitter drawn base base (base * jitterPct / 100)

/-- `jitterDuration` of `worker-sys`. -/
def Sys.jitterDuration (drawn : Option Nat) (base jitterPct : Int64) : Option Int64 :=
  if base ≤ 0 then some minHeartbeatInterval
  else
    let atLeast := if base < minHeartbeatInterval then minHeartbeatInterval else base
    if jitterPct ≤ 0 then some atLeast
    else
      let jitterPct := if 100 < jitterPct then 100 else jitterPct
      jitter drawn atLeast base (base * jitterPct / 100)

/-- An `int64` holds what fits it. -/
theorem bmod_of_fits {n : Int} (hlo : -2 ^ 63 ≤ n) (hhi : n < 2 ^ 63) : n.bmod (2 ^ 64) = n :=
  Int.bmod_eq_of_le_mul_two (by omega) (by omega)

/-- The product may wrap around, but that makes the quotient no larger. -/
theorem toInt_mul_div_le {a b : Int64} (h : 0 ≤ a.toInt * b.toInt) :
    (a * b / 100).toInt ≤ a.toInt * b.toInt / 100 ∧ (a * b / 100).toInt ≤ 2 ^ 63 / 100 := by
  have hle : (a * b).toInt ≤ a.toInt * b.toInt := by
    rw [Int64.toInt_mul, Int.bmod_def]
    split <;> omega
  have hlt := (a * b).toInt_lt
  rw [Int64.toInt_div_of_ne_right _ _ (by decide), show (100 : Int64).toInt = 100 from rfl]
  by_cases hpos : 0 ≤ (a * b).toInt
  · rw [Int.tdiv_eq_ediv_of_nonneg hpos]
    omega
  · have hneg : (a * b).toInt.tdiv 100 ≤ 0 := by
      rw [← Int.neg_neg (a * b).toInt, Int.neg_tdiv, Int.tdiv_eq_ediv_of_nonneg (by omega)]
      omega
    omega

/-- A duration moved by at most `delta`, but not below the shortest interval. -/
def Within (base delta : Int) (d : Int64) : Prop :=
  max (10 ^ 9) (base - delta) ≤ d.toInt ∧ d.toInt ≤ base + delta

theorem toInt_minHeartbeatInterval : minHeartbeatInterval.toInt = 10 ^ 9 := rfl

theorem jitter_within (drawn : Option Nat) {base maxDelta : Int64} {delta : Int}
    (hbase : 10 ^ 9 ≤ base.toInt ∧ base.toInt ≤ 2 ^ 31 * 10 ^ 9) (hdelta : 0 ≤ delta)
    (hmax : maxDelta.toInt ≤ delta ∧ maxDelta.toInt ≤ 2 ^ 63 / 100) :
    ∃ d, jitter drawn base base maxDelta = some d ∧ Within base.toInt delta d := by
  have hmin := toInt_minHeartbeatInterval
  unfold jitter Within
  split
  · exact ⟨base, rfl, by omega⟩
  · rename_i hpos
    have hpos : 0 < maxDelta.toInt := Int64.lt_iff_toInt_lt.mp (Int64.not_le.mp hpos)
    have hlimit : (maxDelta * 2 + 1).toInt = maxDelta.toInt * 2 + 1 := by
      rw [Int64.toInt_add, Int64.toInt_mul, Int.bmod_add_bmod]
      exact bmod_of_fits (by simp; omega) (by simp; omega)
    unfold randInt
    rw [if_neg (by rw [Int64.le_iff_toInt_le, hlimit]; simp; omega)]
    cases drawn with
    | none => exact ⟨base, rfl, by omega⟩
    | some n =>
      have hlt := Int.emod_lt_of_pos n (b := maxDelta.toInt * 2 + 1) (by omega)
      have hge := Int.emod_nonneg n (b := maxDelta.toInt * 2 + 1) (by omega)
      have hsum : (base + (Int64.ofInt (n % (maxDelta * 2 + 1).toInt) - maxDelta)).toInt =
          base.toInt + (n % (maxDelta.toInt * 2 + 1) - maxDelta.toInt) := by
        rw [hlimit, Int64.toInt_add, Int64.toInt_sub, Int64.toInt_ofInt, Int.bmod_sub_bmod,
          Int.add_bmod_bmod]
        exact bmod_of_fits (by omega) (by omega)
      simp only [Option.map_some, Int64.lt_iff_toInt_lt, hsum, hmin]
      split
      · exact ⟨_, rfl, by omega⟩
      · exact ⟨_, rfl, by omega⟩

/-- For every interval the console may ask for, every percentage and every random number,
    both clients wait for a duration in the range around the interval, also where the product
    overflows. -/
theorem jitter_in_range (seconds : Int32) (fallback pct : Int64) (drawn : Option Nat)
    (hseconds : 0 < seconds) (hpct : 0 ≤ pct ∧ pct ≤ 100) :
    ∀ jitterDuration ∈ [Docker.jitterDuration, Sys.jitterDuration],
      ∃ d, jitterDuration drawn (durationFromServer seconds fallback) pct = some d ∧
        Within (seconds.toInt * 10 ^ 9) (seconds.toInt * 10 ^ 9 * pct.toInt / 100) d := by
  have hpos : 0 < seconds.toInt := Int32.lt_iff_toInt_lt.mp hseconds
  have hlt := seconds.toInt_lt
  have hdur : (durationFromServer seconds fallback).toInt = seconds.toInt * 10 ^ 9 := by
    rw [durationFromServer, if_pos hseconds, Int64.toInt_mul, Int32.toInt_toInt64]
    exact bmod_of_fits (by change _ ≤ _ * 1000000000; omega) (by change _ * 1000000000 < _; omega)
  rw [← hdur]
  generalize durationFromServer seconds fallback = base at hdur
  have hbase : 10 ^ 9 ≤ base.toInt ∧ base.toInt ≤ 2 ^ 31 * 10 ^ 9 := by omega
  have hnonneg : 0 ≤ base.toInt * pct.toInt :=
    Int.mul_nonneg (by omega) (Int64.le_iff_toInt_le.mp hpct.1)
  have hjitter := jitter_within drawn hbase (by omega) (toInt_mul_div_le hnonneg)
  have hstays : Within base.toInt (base.toInt * pct.toInt / 100) base := by
    unfold Within
    omega
  have hge : ¬ base ≤ 0 := by rw [Int64.le_iff_toInt_le]; change ¬ _ ≤ 0; omega
  have hmin : ¬ base < minHeartbeatInterval := by
    rw [Int64.lt_iff_toInt_lt, toInt_minHeartbeatInterval]
    omega
  have hmost : ¬ 100 < pct := Int64.not_lt.mpr hpct.2
  simp only [List.mem_cons, List.not_mem_nil, or_false]
  rintro _ (rfl | rfl)
  · unfold Docker.jitterDuration
    rw [if_neg hge]
    split
    · exact ⟨base, rfl, hstays⟩
    · exact hjitter
  · unfold Sys.jitterDuration
    rw [if_neg hge, if_neg hmin, if_neg hmost]
    split
    · exact ⟨base, rfl, hstays⟩
    · exact hjitter

theorem jitter_in_range_overflowing :
    ∃ d, Docker.jitterDuration (some 0) (durationFromServer 2147483647 0) 100 = some d ∧
      Within (2147483647 * 10 ^ 9) (2147483647 * 10 ^ 9 * 100 / 100) d :=
  jitter_in_range 2147483647 0 100 (some 0) (by decide) (by decide) _ List.mem_cons_self

end Onlyboxes.Worker
