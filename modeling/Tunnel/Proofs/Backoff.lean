import Mathlib.Algebra.Group.Nat.Defs
import Mathlib.Tactic.SplitIfs
import Tunnel.Backoff

/-!
# How delays grow

A delay is there until the budget is spent. It does not decrease from attempt to attempt and does
not exceed the cap. It is the doubled base up to the cap in exact arithmetic, as long as the factor
fits its 32 bits or the cap hides that it does not.
-/
namespace Tunnel

namespace Duration

theorem ofNanos_nanos (n : Nat) :
    (ofNanos n).nanos = Nat.min n (0x10000000000000000 * 1000000000 - 1) := by
  unfold ofNanos
  split_ifs with h
  · exact (Nat.min_eq_left (Nat.le_sub_one_of_lt h)).symm
  · exact (Nat.min_eq_right (Nat.le_trans (Nat.sub_le _ 1) (Nat.le_of_not_lt h))).symm

@[simp] theorem min_nanos (a b : Duration) : (a.min b).nanos = Nat.min a.nanos b.nanos := by
  unfold Duration.min
  split_ifs with h
  · exact (Nat.min_eq_left h).symm
  · exact (Nat.min_eq_right (Nat.le_of_not_le h)).symm

theorem scale_mono (d : Duration) {m n : Nat} (h : m ≤ n) :
    (d.scale m).nanos ≤ (d.scale n).nanos := by
  have hle : d.nanos * m ≤ d.nanos * n := Nat.mul_le_mul_left _ h
  rw [scale, scale, ofNanos_nanos, ofNanos_nanos]
  exact Nat.le_min.2 ⟨Nat.le_trans (Nat.min_le_left ..) hle, Nat.min_le_right ..⟩

end Duration

namespace ReconnectPolicy

variable {p : ReconnectPolicy} {a b : UInt32} {d e : Duration}

theorem delayFor_eq_none : p.delayFor a = none ↔ p.maxAttempts.toNat ≤ a.toNat := by
  unfold delayFor
  rw [← UInt32.le_iff_toNat_le]
  split_ifs with h
  · simp [h]
  · simp [h]

theorem eq_of_delayFor (h : p.delayFor a = some d) : d = (p.base.scale (factor a)).min p.cap := by
  unfold delayFor at h
  split_ifs at h
  exact (Option.some.inj h).symm

theorem factor_mono (h : a.toNat ≤ b.toNat) : factor a ≤ factor b := by
  have hmax : ∀ n, n + 1 < 32 → Nat.pow 2 (n + 1) ≤ UInt32.size - 1 := fun n hn =>
    Nat.le_trans (Nat.pow_le_pow_right Nat.two_pos (Nat.le_of_lt_succ hn)) (by decide)
  unfold factor
  split_ifs with ha hb hb
  · exact Nat.pow_le_pow_right Nat.two_pos (Nat.succ_le_succ h)
  · exact hmax _ ha
  · exact absurd (Nat.lt_of_le_of_lt (Nat.succ_le_succ h) hb) ha
  · exact Nat.le_refl _

theorem delayFor_le_cap (h : p.delayFor a = some d) : d.nanos ≤ p.cap.nanos := by
  rw [eq_of_delayFor h, Duration.min_nanos]
  exact Nat.min_le_right ..

theorem delayFor_mono (hab : a.toNat ≤ b.toNat) (ha : p.delayFor a = some d)
    (hb : p.delayFor b = some e) : d.nanos ≤ e.nanos := by
  have hscale := p.base.scale_mono (factor_mono hab)
  rw [eq_of_delayFor ha, eq_of_delayFor hb, Duration.min_nanos, Duration.min_nanos]
  exact Nat.le_min.2 ⟨Nat.le_trans (Nat.min_le_left ..) hscale, Nat.min_le_right ..⟩

/-- The base doubled once more than there were attempts, up to the cap, without bounds on the way. -/
def exactDelay (p : ReconnectPolicy) (a : UInt32) : Nat :=
  min (p.base.nanos * 2 ^ (a.toNat + 1)) p.cap.nanos

def ceiling (p : ReconnectPolicy) : Nat := p.base.nanos * (UInt32.size - 1)

theorem factor_eq_min (a : UInt32) : factor a = min (2 ^ (a.toNat + 1)) (UInt32.size - 1) := by
  unfold factor
  split_ifs with h
  · have hle : 2 ^ (a.toNat + 1) ≤ 2 ^ 31 := Nat.pow_le_pow_right Nat.two_pos (Nat.le_of_lt_succ h)
    exact (Nat.min_eq_left (Nat.le_trans hle (by decide))).symm
  · have hle : 2 ^ 32 ≤ 2 ^ (a.toNat + 1) := Nat.pow_le_pow_right Nat.two_pos (Nat.le_of_not_lt h)
    exact (Nat.min_eq_right (Nat.le_trans (by decide) hle)).symm

/-- A span that is too long to be multiplied is longer than every cap. -/
theorem min_scale_nanos (p : ReconnectPolicy) (n : Nat) :
    ((p.base.scale n).min p.cap).nanos = min (p.base.nanos * n) p.cap.nanos := by
  have hcap : p.cap.nanos ≤ 0x10000000000000000 * 1000000000 - 1 := Nat.le_sub_one_of_lt p.cap.bounded
  rw [Duration.min_nanos, Duration.scale, Duration.ofNanos_nanos]
  change min (min _ _) _ = _
  rw [Nat.min_assoc, Nat.min_eq_right hcap]

theorem delayFor_nanos (p : ReconnectPolicy) (a : UInt32) :
    ((p.base.scale (factor a)).min p.cap).nanos = min (p.exactDelay a) p.ceiling := by
  rw [min_scale_nanos, factor_eq_min, ← Nat.mul_min_mul_left, exactDelay, ceiling]
  omega

theorem exactDelay_le_ceiling (p : ReconnectPolicy) (a : UInt32) :
    p.exactDelay a ≤ p.ceiling ↔
      a.toNat + 1 < 32 ∨ p.base.nanos = 0 ∨ p.cap.nanos ≤ p.ceiling := by
  have hmin : p.exactDelay a ≤ p.ceiling ↔
      p.base.nanos * 2 ^ (a.toNat + 1) ≤ p.ceiling ∨ p.cap.nanos ≤ p.ceiling := by
    rw [exactDelay]
    omega
  rw [hmin, ceiling]
  rcases Nat.eq_zero_or_pos p.base.nanos with hbase | hbase
  · simp [hbase]
  · have hfits : 2 ^ (a.toNat + 1) ≤ UInt32.size - 1 ↔ a.toNat + 1 < 32 := by
      rw [← Nat.pow_lt_pow_iff_right (a := 2) (by decide)]
      have hsize : UInt32.size = 2 ^ 32 := rfl
      omega
    rw [Nat.mul_le_mul_left_iff hbase, hfits]
    simp [Nat.ne_of_gt hbase]

/-- The delay is the exact one or what the largest factor gives, if that is less. So it is the exact
one just where the factor is no larger than that, or makes no difference. -/
theorem delayFor_exact (p : ReconnectPolicy) (a : UInt32) :
    (p.delayFor a = none ↔ p.maxAttempts.toNat ≤ a.toNat) ∧
    (p.delayFor a).map Duration.nanos =
      (if p.maxAttempts ≤ a then none else some (min (p.exactDelay a) p.ceiling)) ∧
    (min (p.exactDelay a) p.ceiling = p.exactDelay a ↔
      a.toNat + 1 < 32 ∨ p.base.nanos = 0 ∨ p.cap.nanos ≤ p.ceiling) := by
  refine ⟨delayFor_eq_none, ?_, ?_⟩
  · unfold delayFor
    split_ifs with h
    · rfl
    · rw [Option.map_some, delayFor_nanos]
  · rw [← exactDelay_le_ceiling]
    omega

/-- After 31 attempts a base of one nanosecond is not doubled once more. -/
theorem delayFor_cut_off :
    let p : ReconnectPolicy := ⟨.ofNanos 1, .ofSeconds 10, 50⟩
    (p.delayFor 31).map Duration.nanos = some 4294967295 ∧ p.exactDelay 31 = 4294967296 ∧
      ¬ ∀ (p : ReconnectPolicy) (a : UInt32), (p.delayFor a).map Duration.nanos =
        if p.maxAttempts ≤ a then none else some (p.exactDelay a) := by
  intro p
  have hdelay : (p.delayFor 31).map Duration.nanos = some 4294967295 := by decide
  have hexact : p.exactDelay 31 = 4294967296 := by decide
  refine ⟨hdelay, hexact, fun hall => ?_⟩
  have hsome := (hall p 31).symm.trans hdelay
  rw [if_neg (by decide), hexact] at hsome
  cases hsome

end ReconnectPolicy

end Tunnel
