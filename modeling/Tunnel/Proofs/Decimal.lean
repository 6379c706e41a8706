import Mathlib.Algebra.Order.Field.Power
import Mathlib.Data.Rat.Cast.Order
import Mathlib.Tactic.FieldSimp
import Mathlib.Tactic.Linarith
import Mathlib.Tactic.NormNum
import Mathlib.Tactic.Positivity
import Mathlib.Tactic.Ring
import Tunnel.Decimal

/-!
# How large a shortest decimal is

A shortest decimal has at most 17 digits and lies in the interval of the numbers that round to what
it stands for. So it is not above the upper end of that interval.
-/
namespace Tunnel.Decimal

theorem zpow_mul_toNat_neg (p : ℤ) : (10 : ℚ) ^ p * 10 ^ (-p).toNat = 10 ^ p.toNat := by
  rw [← zpow_natCast, ← zpow_natCast, ← zpow_add₀ (by norm_num)]
  congr 1
  omega

theorem lt_pow_length (n : ℕ) : n < 10 ^ length n := by
  unfold length
  split
  · rename_i h
    rw [h]
    decide
  · exact (Nat.length_toDigits_le_iff (by decide) Nat.length_toDigits_pos).1 le_rfl

theorem pow_length_le {n : ℕ} (hn : n ≠ 0) : 10 ^ length n ≤ 10 * n := by
  obtain ⟨k, hk⟩ : ∃ k, length n = k + 1 := by
    rw [length, if_neg hn]
    exact Nat.exists_eq_succ_of_ne_zero Nat.length_toDigits_pos.ne'
  have hle : 10 ^ k ≤ n := by
    rcases Nat.eq_zero_or_pos k with rfl | hpos
    · exact Nat.pos_of_ne_zero hn
    · rw [← not_lt, ← Nat.length_toDigits_le_iff (by decide) hpos]
      rw [length, if_neg hn] at hk
      omega
  rw [hk, Nat.pow_succ, Nat.mul_comm]
  exact Nat.mul_le_mul_left 10 hle

namespace Interval

variable {i : Interval}

theorem value_lt (hd : i.denominator ≠ 0) : (i.value : ℚ) < i.denominator * 10 ^ i.magnitude := by
  simp only [magnitude]
  generalize hk : (length i.value : ℤ) - length i.denominator = k
  split
  · rename_i hlt
    have hq : (i.value : ℚ) * 10 ^ (-k).toNat < i.denominator * 10 ^ k.toNat := by
      exact_mod_cast hlt
    rw [← zpow_mul_toNat_neg k, ← mul_assoc] at hq
    exact lt_of_mul_lt_mul_right hq (by positivity)
  · have hv : (i.value : ℚ) < 10 ^ length i.value := by exact_mod_cast lt_pow_length i.value
    have hden : (10 : ℚ) ^ length i.denominator ≤ 10 * i.denominator := by
      exact_mod_cast pow_length_le hd
    have hexp : (10 : ℚ) ^ length i.value = 10 ^ length i.denominator * 10 ^ k := by
      rw [← zpow_natCast, ← zpow_natCast, ← zpow_add₀ (by norm_num)]
      congr 1
      omega
    calc (i.value : ℚ) < 10 ^ length i.denominator * 10 ^ k := hexp ▸ hv
      _ ≤ 10 * i.denominator * 10 ^ k := mul_le_mul_of_nonneg_right hden (by positivity)
      _ = i.denominator * 10 ^ (k + 1) := by
          rw [zpow_add_one₀ (by norm_num)]
          ring

/-- What holds of a decimal in an interval: it has at most 17 digits, it is not above the interval,
it is zero only if the interval has zero in it, and its last digit is not too far behind the point. -/
structure Reaches (i : Interval) (d : ℕ × ℤ) : Prop where
  digits : d.1 ≤ 10 ^ 17
  le : (d.1 : ℚ) * 10 ^ d.2 * i.denominator ≤ i.high
  pos : i.low ≠ 0 → 0 < d.1
  place : -(length i.denominator : ℤ) - 17 ≤ d.2

theorem le_of_contains {d : ℕ} {p : ℤ} (h : i.contains d p = true) :
    (d : ℚ) * 10 ^ p * i.denominator ≤ i.high := by
  have hnat : d * 10 ^ p.toNat * i.denominator ≤ i.high * 10 ^ (-p).toNat := by
    unfold contains at h
    simp only at h
    split at h
    · exact of_decide_eq_true (Bool.and_eq_true_iff.1 h).2
    · exact (of_decide_eq_true (Bool.and_eq_true_iff.1 h).2).le
  have hq : (d : ℚ) * 10 ^ p.toNat * i.denominator ≤ i.high * 10 ^ (-p).toNat := by
    exact_mod_cast hnat
  rw [← zpow_mul_toNat_neg p] at hq
  have hpos : (0 : ℚ) < 10 ^ (-p).toNat := by positivity
  refine le_of_mul_le_mul_right (le_trans (le_of_eq ?_) hq) hpos
  ring

theorem pos_of_contains {d : ℕ} {p : ℤ} (h : i.contains d p = true) (hlow : i.low ≠ 0) : 0 < d := by
  have hnat : i.low * 10 ^ (-p).toNat ≤ d * 10 ^ p.toNat * i.denominator := by
    unfold contains at h
    simp only at h
    split at h
    · exact of_decide_eq_true (Bool.and_eq_true_iff.1 h).1
    · exact (of_decide_eq_true (Bool.and_eq_true_iff.1 h).1).le
  by_contra hd
  obtain rfl : d = 0 := Nat.eq_zero_of_not_pos hd
  rw [Nat.zero_mul, Nat.zero_mul, Nat.le_zero, Nat.mul_eq_zero] at hnat
  exact hnat.elim hlow (Nat.pow_pos (by decide)).ne'

theorem le_magnitude (i : Interval) : -(length i.denominator : ℤ) ≤ i.magnitude := by
  unfold magnitude
  simp only
  split <;> omega

/-- The digits that are cut off a number at the place of a count of digits are so many. -/
theorem below_lt (hd : i.denominator ≠ 0) (n : ℕ) :
    i.value * 10 ^ (-(i.magnitude - n)).toNat /
      (i.denominator * 10 ^ (i.magnitude - n).toNat) < 10 ^ n := by
  have hlt := value_lt hd
  generalize hq : i.magnitude - n = q
  have hmag : (10 : ℚ) ^ i.magnitude = 10 ^ n * 10 ^ q := by
    rw [← zpow_natCast, ← zpow_add₀ (by norm_num)]
    congr 1
    omega
  rw [Nat.div_lt_iff_lt_mul (Nat.mul_pos (Nat.pos_of_ne_zero hd) (by positivity))]
  have hscaled : (i.value : ℚ) * 10 ^ (-q).toNat < 10 ^ n * (i.denominator * 10 ^ q.toNat) := by
    calc (i.value : ℚ) * 10 ^ (-q).toNat < i.denominator * 10 ^ i.magnitude * 10 ^ (-q).toNat :=
          mul_lt_mul_of_pos_right hlt (by positivity)
      _ = 10 ^ n * (i.denominator * (10 ^ q * 10 ^ (-q).toNat)) := by
          rw [hmag]
          ring
      _ = 10 ^ n * (i.denominator * 10 ^ q.toNat) := by rw [zpow_mul_toNat_neg]
  exact_mod_cast hscaled

theorem reaches_candidate (hd : i.denominator ≠ 0) {n : ℕ} (hn : n ≤ 17) {d : ℕ × ℤ}
    (h : i.candidate n = some d) : i.Reaches d := by
  have hbelow := (below_lt hd n).trans_le (Nat.pow_le_pow_right (by decide) hn)
  have hplace : -(length i.denominator : ℤ) - 17 ≤ i.magnitude - n := by
    have hmag := i.le_magnitude
    omega
  unfold candidate at h
  simp only [Nat.pow_eq] at h
  generalize i.value * 10 ^ (-(i.magnitude - n)).toNat /
    (i.denominator * 10 ^ (i.magnitude - n).toNat) = below at h hbelow
  have hdown (hc : i.contains below (i.magnitude - n) = true) :
      i.Reaches (below, i.magnitude - n) :=
    ⟨hbelow.le, le_of_contains hc, pos_of_contains hc, hplace⟩
  have hup (hc : i.contains (below + 1) (i.magnitude - n) = true) :
      i.Reaches (below + 1, i.magnitude - n) :=
    ⟨hbelow, le_of_contains hc, pos_of_contains hc, hplace⟩
  split at h
  · cases h
  · rename_i hc _
    obtain rfl := Option.some.inj h
    exact hdown hc
  · rename_i hc
    obtain rfl := Option.some.inj h
    exact hup hc
  · rename_i hb ha
    split at h
    · obtain rfl := Option.some.inj h
      exact hdown hb
    · obtain rfl := Option.some.inj h
      exact hup ha

theorem Reaches.stripZeros {d : ℕ × ℤ} (h : i.Reaches d) (fuel : ℕ) :
    i.Reaches (stripZeros fuel d) := by
  fun_induction Decimal.stripZeros fuel d with
  | case1 d => exact h
  | case2 fuel digits power hzero ih =>
    refine ih ⟨(Nat.div_le_self _ _).trans h.digits, le_trans (le_of_eq ?_) h.le, fun _ => ?_,
      h.place.trans (Int.le_add_one le_rfl)⟩
    swap
    · exact Nat.div_pos (Nat.le_of_dvd (Nat.pos_of_ne_zero hzero.2)
        (Nat.dvd_of_mod_eq_zero hzero.1)) (by decide)
    have hten : ((digits / 10 : ℕ) : ℚ) * 10 = digits := by
      exact_mod_cast Nat.div_mul_cancel (Nat.dvd_of_mod_eq_zero hzero.1)
    simp only
    rw [zpow_add_one₀ (by norm_num), ← hten]
    ring
  | case3 fuel digits power hzero => exact h

end Interval

theorem Binary.denominator_ne_zero (x : Binary) : x.interval.denominator ≠ 0 := by
  simp [interval]

theorem Binary.shortest_cases (x : Binary) :
    x.shortest = (0, 0) ∨ x.interval.Reaches x.shortest := by
  unfold shortest
  simp only
  split
  · rename_i d h
    obtain ⟨n, hn, hd⟩ := List.exists_of_findSome?_eq_some h
    exact .inr
      ((Interval.reaches_candidate x.denominator_ne_zero (List.mem_range.1 hn) hd).stripZeros 20)
  · exact .inl rfl

/-- A shortest decimal has at most 17 digits. -/
theorem Binary.shortest_digits (x : Binary) : x.shortest.1 ≤ 10 ^ 17 := by
  rcases x.shortest_cases with h | h
  · rw [h]
    exact Nat.zero_le _
  · exact h.digits

/-- A shortest decimal is not zero, unless there is none. -/
theorem Binary.shortest_pos {x : Binary} (hm : x.mantissa ≠ 0) :
    x.shortest = (0, 0) ∨ 0 < x.shortest.1 := by
  refine x.shortest_cases.imp_right fun h => h.pos ?_
  simp only [interval, Nat.pow_eq]
  refine Nat.mul_ne_zero ?_ (Nat.pow_pos two_pos).ne'
  split <;> omega

/-- The upper end of an interval, and the unit that it is counted in. -/
theorem Binary.interval_bounds {x : Binary} (hm : x.mantissa < 2 ^ 53) (hlow : -1074 ≤ x.exponent)
    (hhigh : x.exponent ≤ 971) :
    x.interval.high < 10 ^ 400 ∧ length x.interval.denominator ≤ 400 := by
  simp only [interval, Nat.pow_eq]
  constructor
  · have hpow := Nat.pow_le_pow_right (n := 2) two_pos (show x.exponent.toNat ≤ 971 by omega)
    calc (4 * x.mantissa + 2) * 2 ^ x.exponent.toNat ≤ 2 ^ 56 * 2 ^ 971 :=
          Nat.mul_le_mul (by omega) hpow
      _ < 10 ^ 400 := by decide +kernel
  · have hpow := Nat.pow_le_pow_right (n := 2) two_pos (show (-x.exponent).toNat ≤ 1074 by omega)
    unfold length
    split
    · exact Nat.zero_le _
    · exact (Nat.length_toDigits_le_iff (by decide) (by decide)).2
        ((Nat.mul_le_mul_left 4 hpow).trans_lt (by decide +kernel))

theorem Binary.shortest_le_high {x : Binary} {d p : ℕ} (h : x.shortest = (d, (p : ℤ))) :
    d * 10 ^ p * x.interval.denominator ≤ x.interval.high := by
  rcases x.shortest_cases with hzero | hreach
  · obtain ⟨rfl, -⟩ := Prod.mk.inj (h.symm.trans hzero)
    simp
  · have hle := hreach.le
    rw [h] at hle
    simp only [zpow_natCast] at hle
    exact_mod_cast hle

/-- The power of ten of a shortest decimal is moderate. -/
theorem Binary.shortest_power {x : Binary} (hpos : x.mantissa ≠ 0) (hm : x.mantissa < 2 ^ 53)
    (hlow : -1074 ≤ x.exponent) (hhigh : x.exponent ≤ 971) :
    -417 ≤ x.shortest.2 ∧ x.shortest.2 ≤ 400 := by
  obtain ⟨hend, hunit⟩ := interval_bounds hm hlow hhigh
  rcases x.shortest_cases with hzero | hreach
  · rw [hzero]
    exact ⟨by decide, by decide⟩
  · refine ⟨by have hplace := hreach.place; omega, ?_⟩
    rcases shortest_pos hpos with hzero | hd
    · rw [hzero]
      decide
    rcases hx : x.shortest with ⟨d, p⟩
    rw [hx] at hd
    rcases lt_or_ge p 0 with hneg | hnat
    · exact (Int.le_of_lt hneg).trans (by decide)
    · obtain ⟨n, rfl⟩ := Int.eq_ofNat_of_zero_le hnat
      have hpow : 10 ^ n < 10 ^ 400 := by
        calc 10 ^ n ≤ d * x.interval.denominator * 10 ^ n :=
              Nat.le_mul_of_pos_left _ (Nat.mul_pos hd (Nat.pos_of_ne_zero x.denominator_ne_zero))
          _ = d * 10 ^ n * x.interval.denominator := by ring
          _ ≤ x.interval.high := shortest_le_high hx
          _ < 10 ^ 400 := hend
      have hn := (Nat.pow_lt_pow_iff_right (a := 10) (by decide)).1 hpow
      simp only
      omega

def limit : ℕ := (2 ^ 54 - 3) * 2 ^ 970

def Binary.greatest : Binary := ⟨2 ^ 53 - 1, 971, false⟩

theorem Binary.ofBits_bounds {bits : UInt64}
    (hbits : bits.toNat / 0x10000000000000 % 0x800 ≠ 0x7FF) :
    (ofBits bits).mantissa < 2 ^ 53 ∧ (ofBits bits).exponent ≤ 971 ∧
      ((ofBits bits).mantissa + 1 = 2 ^ 53 ∧ (ofBits bits).exponent = 971 →
        ofBits bits = greatest) := by
  have hfraction : bits.toNat % 0x10000000000000 < 2 ^ 52 := Nat.mod_lt _ (by decide)
  have hbiased : bits.toNat / 0x10000000000000 % 0x800 < 2 ^ 11 := Nat.mod_lt _ (by decide)
  unfold ofBits
  simp only
  generalize bits.toNat % 0x10000000000000 = fraction at hfraction
  generalize bits.toNat / 0x10000000000000 % 0x800 = biased at hbits hbiased
  split
  · exact ⟨by simp only; omega, by simp only; omega, fun h => absurd h.2 (by simp)⟩
  · refine ⟨by simp only; omega, by simp only; omega, fun h => ?_⟩
    simp only at h
    obtain rfl : fraction = 0xFFFFFFFFFFFFF := by omega
    obtain rfl : biased = 2046 := by omega
    rfl

theorem Binary.le_exponent (bits : UInt64) : -1074 ≤ (ofBits bits).exponent := by
  unfold ofBits
  simp only
  split
  · exact le_rfl
  · simp only
    omega

/-- The upper end of an interval in quarters of the unit in the last place, where the exponent is at
most `n + 1` and the number is not the largest of that exponent. -/
theorem quarters_le {m e n : ℕ} (hm : m < 2 ^ 53) (he : e ≤ n + 1)
    (hmax : ¬ (m + 1 = 2 ^ 53 ∧ e = n + 1)) : (4 * m + 2) * 2 ^ e ≤ 4 * ((2 ^ 54 - 3) * 2 ^ n) := by
  rcases he.lt_or_eq with hlt | rfl
  · calc (4 * m + 2) * 2 ^ e ≤ (4 * (2 ^ 54 - 3)) * 2 ^ n :=
          Nat.mul_le_mul (by omega) (Nat.pow_le_pow_right two_pos (by omega))
      _ = _ := Nat.mul_assoc ..
  · calc (4 * m + 2) * 2 ^ (n + 1) ≤ (4 * (2 ^ 53 - 2) + 2) * 2 ^ (n + 1) :=
          Nat.mul_le_mul_right _ (by omega)
      _ = 4 * ((2 ^ 54 - 3) * 2 ^ n) := by
          rw [Nat.pow_succ]
          ring

/-- A shortest decimal without fraction is not above what rounds to a number below the largest. -/
theorem Binary.shortest_le {x : Binary} (hm : x.mantissa < 2 ^ 53) (he : x.exponent ≤ 971)
    (hmax : ¬ (x.mantissa + 1 = 2 ^ 53 ∧ x.exponent = 971)) {d p : ℕ}
    (h : x.shortest = (d, (p : ℤ))) :
    d * 10 ^ p ≤ limit := by
  have hnat := shortest_le_high h
  simp only [interval, Nat.pow_eq] at hnat
  have hhigh := quarters_le (e := x.exponent.toNat) (n := 970) hm (by omega) (by omega)
  have hfour : d * 10 ^ p * 4 ≤ d * 10 ^ p * (4 * 2 ^ (-x.exponent).toNat) :=
    Nat.mul_le_mul_left _ (Nat.le_mul_of_pos_right _ (by positivity))
  unfold limit
  omega

end Tunnel.Decimal
