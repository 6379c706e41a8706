import Mathlib

/-!
# Rounding to binary64

A floating point operation computes an exact mantissa with residual bits, shifts it to the exponent
that the format wants and rounds it. Where the result lies among the numbers that the format can
represent is all that is said here: rounding never passes one of them.
-/
namespace Tunnel.Binary64

open Float.Model (Format UnpackedFloat totalExponent)
open Float.Model.UnpackedFloat

def target (m : ℕ) (e : ℤ) : ℤ := Format.binary64.targetExponent (totalExponent m e)

theorem target_eq (m : ℕ) (e : ℤ) : target m e = max (m.log2 + e - 52) (-1074) := by
  simp only [target, Format.targetExponent, totalExponent, Format.mantissaBits, Format.minExponent]
  norm_num
  omega

/-- A mantissa with residual bits stands for a number: exactly, or up to what was cut off. -/
def Holds (em : ExtendedMantissa) (x : ℚ) : Prop :=
  if em.roundBit || em.stickyBit then em.mantissa < x ∧ x < em.mantissa + 1 else x = em.mantissa

theorem Holds.shiftRightOne {em : ExtendedMantissa} {x : ℚ} (h : Holds em x) :
    Holds em.shiftRightOne (x / 2) := by
  obtain ⟨m, r, s⟩ := em
  have hm : ((m % 2 : ℕ) : ℚ) + 2 * ((m / 2 : ℕ) : ℚ) = m := by exact_mod_cast Nat.mod_add_div m 2
  cases hb : r || s with
  | true =>
    simp only [Holds, hb, if_true] at h
    have hodd : ((m % 2 : ℕ) : ℚ) ≤ 1 := by exact_mod_cast Nat.lt_succ_iff.1 (Nat.mod_lt m two_pos)
    have heven : (0 : ℚ) ≤ (m % 2 : ℕ) := Nat.cast_nonneg _
    simp only [Holds, ExtendedMantissa.shiftRightOne, hb, Bool.or_true, if_true]
    constructor <;> linarith
  | false =>
    simp only [Holds, hb, Bool.false_eq_true, if_false] at h
    rcases Nat.mod_two_eq_zero_or_one m with h2 | h2
    · simp only [Holds, ExtendedMantissa.shiftRightOne, hb, h2, bne_self_eq_false, Bool.or_self,
        Bool.false_eq_true, if_false]
      rw [h2, Nat.cast_zero] at hm
      linarith
    · simp only [Holds, ExtendedMantissa.shiftRightOne, hb, h2, Bool.or_false]
      rw [h2, Nat.cast_one] at hm
      simp only [Nat.one_ne_zero, bne_iff_ne, ne_eq, not_false_eq_true, if_true]
      constructor <;> linarith

theorem Holds.shiftRight {em : ExtendedMantissa} {x : ℚ} (h : Holds em x) (n : ℕ) :
    Holds (em >>> n) (x / 2 ^ n) := by
  induction n with
  | zero =>
    rw [pow_zero, div_one]
    exact h
  | succ n ih =>
    have hstep := ih.shiftRightOne
    rwa [div_div, ← pow_succ] at hstep

theorem Holds.bounds {em : ExtendedMantissa} {x : ℚ} (h : Holds em x) :
    em.mantissa ≤ x ∧ x < em.mantissa + 1 := by
  unfold Holds at h
  split at h
  · exact ⟨h.1.le, h.2⟩
  · rw [h]
    exact ⟨le_rfl, lt_add_one _⟩

/-- A natural number is a rounding of `x`: no natural number lies strictly between the two. -/
def Rounds (n : ℕ) (x : ℚ) : Prop :=
  ∀ k : ℕ, (x ≤ k → n ≤ k) ∧ (k ≤ x → k ≤ n)

theorem Holds.rounds {em : ExtendedMantissa} {x : ℚ} (h : Holds em x) :
    Rounds em.roundedMantissa x := by
  obtain ⟨m, r, s⟩ := em
  intro k
  cases hb : r || s with
  | true =>
    simp only [Holds, hb, if_true] at h
    -- what is cut off lies strictly between two natural numbers, and rounding gives one of these
    have hround : m ≤ (ExtendedMantissa.mk m r s).roundedMantissa ∧
        (ExtendedMantissa.mk m r s).roundedMantissa ≤ m + 1 := by
      have hodd := Nat.mod_lt m two_pos
      cases r <;> cases s <;>
        simp only [ExtendedMantissa.roundedMantissa, ExtendedMantissa.accuracy,
          Accuracy.roundToNearestEven] <;>
        omega
    refine ⟨fun hk => ?_, fun hk => ?_⟩
    · have hlt : m < k := by exact_mod_cast h.1.trans_le hk
      omega
    · have hlt : k < m + 1 := by exact_mod_cast hk.trans_lt h.2
      omega
  | false =>
    obtain ⟨rfl, rfl⟩ : r = false ∧ s = false := by simpa using hb
    obtain rfl : x = m := h
    exact ⟨fun hk => Nat.cast_le.1 hk, fun hk => Nat.cast_le.1 hk⟩

def magnitude : UnpackedFloat → ℚ
  | .finite _ m e _ => m * 2 ^ e
  | _ => 0

theorem magnitude_nonneg (x : UnpackedFloat) : 0 ≤ magnitude x := by
  cases x with
  | finite s m e h => exact mul_nonneg (Nat.cast_nonneg m) (zpow_nonneg zero_le_two e)
  | infinity | notANumber | zero => exact le_rfl

/-- A number is written as the format wants it, but for the largest exponent. -/
def Canonical : UnpackedFloat → Prop
  | .finite _ m e _ => m < 2 ^ 53 ∧ -1074 ≤ e ∧ (2 ^ 52 ≤ m ∨ e = -1074)
  | _ => True

/-- A magnitude that the format can represent, but for the largest exponent. -/
def Representable (b : ℚ) : Prop :=
  ∃ (k : ℕ) (j : ℤ), k ≤ 2 ^ 53 ∧ -1074 ≤ j ∧ b = k * 2 ^ j

/-- A natural number that can be represented and is not below another one. -/
def roundUp (n : ℕ) : ℕ := (n + 2 ^ (n.log2 - 52) - 1) / 2 ^ (n.log2 - 52) * 2 ^ (n.log2 - 52)

theorem le_roundUp (n : ℕ) : n ≤ roundUp n := by
  have hpos : 0 < 2 ^ (n.log2 - 52) := by positivity
  have hdiv := Nat.div_add_mod' (n + 2 ^ (n.log2 - 52) - 1) (2 ^ (n.log2 - 52))
  have hmod := Nat.mod_lt (n + 2 ^ (n.log2 - 52) - 1) hpos
  unfold roundUp
  omega

theorem representable_roundUp (n : ℕ) : Representable (roundUp n) := by
  refine ⟨(n + 2 ^ (n.log2 - 52) - 1) / 2 ^ (n.log2 - 52), (n.log2 - 52 : ℕ), ?_, by omega, ?_⟩
  · have hn : n < 2 ^ 53 * 2 ^ (n.log2 - 52) := by
      rw [← Nat.pow_add]
      exact Nat.lt_log2_self.trans_le (Nat.pow_le_pow_right two_pos (by omega))
    rw [← Nat.lt_succ_iff, Nat.div_lt_iff_lt_mul (by positivity), Nat.succ_mul]
    omega
  · rw [roundUp, zpow_natCast]
    push_cast
    rfl

/-- Of the magnitudes that can be represented, those between two neighbours of an exponent are
small. -/
theorem Representable.eq_or_le {b : ℚ} (hb : Representable b) (t : ℤ) :
    (∃ c : ℕ, b = c * 2 ^ t) ∨ -1074 < t ∧ b ≤ 2 ^ 52 * 2 ^ t := by
  obtain ⟨k, j, hk, hj, rfl⟩ := hb
  rcases le_or_gt t j with hle | hlt
  · obtain ⟨i, rfl⟩ := Int.le.dest hle
    refine .inl ⟨k * 2 ^ i, ?_⟩
    rw [zpow_add₀ two_ne_zero, zpow_natCast]
    push_cast
    ring
  · refine .inr ⟨by omega, ?_⟩
    calc (k : ℚ) * 2 ^ j ≤ 2 ^ 53 * 2 ^ (t - 1) :=
          mul_le_mul (by exact_mod_cast hk) (zpow_le_zpow_right₀ one_le_two (by omega))
            (by positivity) (by positivity)
      _ = 2 ^ 52 * 2 ^ t := by
          rw [zpow_sub_one₀ two_ne_zero]
          ring

/-- A number is the result of rounding a magnitude: it is finite, and no magnitude that can be
represented lies strictly between the two. -/
structure Rounded (v : ℚ) (x : UnpackedFloat) : Prop where
  finite : x.isFinite = true
  canonical : Canonical x
  le : ∀ b, Representable b → v ≤ b → magnitude x ≤ b
  ge : ∀ b, Representable b → b ≤ v → b ≤ magnitude x

/-- The number of a rounded mantissa, where a carry may have made the mantissa too long. -/
def carried (s : Sign) (n : ℕ) (e : ℤ) : UnpackedFloat :=
  if h : n = 0 then .zero s
  else if n < 2 ^ 53 then .finite s n e (Nat.pos_of_ne_zero h)
  else .finite s (2 ^ 52) (e + 1) (by decide)

theorem magnitude_carried (s : Sign) {n : ℕ} (hn : n ≤ 2 ^ 53) (e : ℤ) :
    magnitude (carried s n e) = n * 2 ^ e := by
  unfold carried
  split
  · rename_i h
    simp [magnitude, h]
  · split
    · rfl
    · obtain rfl : n = 2 ^ 53 := by omega
      simp only [magnitude]
      rw [zpow_add₀ two_ne_zero]
      push_cast
      ring

theorem isFinite_carried (s : Sign) (n : ℕ) (e : ℤ) : (carried s n e).isFinite = true := by
  unfold carried
  split
  · rfl
  · split <;> rfl

theorem canonical_carried (s : Sign) {n : ℕ} {e : ℤ} (he : -1074 ≤ e)
    (hnormal : 2 ^ 52 ≤ n ∨ e = -1074) : Canonical (carried s n e) := by
  unfold carried
  split
  · trivial
  · split
    · rename_i hlt
      exact ⟨hlt, he, hnormal⟩
    · exact ⟨by decide, by omega, .inl le_rfl⟩

theorem shiftToTargetExponent_of_lt {n : ℕ} (hn : n < 2 ^ 53) {t : ℤ} (ht : -1074 ≤ t) :
    shiftToTargetExponent Format.binary64 n t .exact = (⟨n, false, false⟩, t) := by
  have hlog : n.log2 ≤ 52 := by
    by_cases h0 : n = 0
    · simp [h0]
    · exact Nat.lt_succ_iff.1 ((Nat.log2_lt h0).2 hn)
  have hzero : (target n t - t).toNat = 0 := Int.toNat_of_nonpos (by rw [target_eq]; omega)
  rw [target] at hzero
  simp only [shiftToTargetExponent, shiftToExponent, hzero, Nat.cast_zero, add_zero]
  rfl

theorem shiftToTargetExponent_carry {t : ℤ} (ht : -1074 ≤ t) :
    shiftToTargetExponent Format.binary64 (2 ^ 53) t .exact = (⟨2 ^ 52, false, false⟩, t + 1) := by
  have hone : (target (2 ^ 53) t - t).toNat = 1 := by
    rw [target_eq, Nat.log2_two_pow]
    omega
  rw [target] at hone
  simp only [shiftToTargetExponent, shiftToExponent, hone]
  rfl

/-- The second shift of a rounding only makes up for a carry. -/
theorem roundWithAccuracy_eq_carried (s : Sign) {m : ℕ} {e : ℤ} {acc : Accuracy}
    {em : ExtendedMantissa} {t : ℤ}
    (hshift : shiftToTargetExponent Format.binary64 m e acc = (em, t))
    (hn : em.roundedMantissa ≤ 2 ^ 53) (ht : -1074 ≤ t) :
    roundWithAccuracy Format.binary64 s m e acc = carried s em.roundedMantissa t := by
  rcases Nat.lt_or_eq_of_le hn with hlt | heq
  · simp only [roundWithAccuracy, hshift, shiftToTargetExponent_of_lt hlt ht, carried, hlt, if_true]
  · simp only [roundWithAccuracy, hshift, heq, shiftToTargetExponent_carry ht]
    rfl

theorem ofMantissaAndAccuracy_mantissa (m : ℕ) (acc : Accuracy) :
    (ExtendedMantissa.ofMantissaAndAccuracy m acc).mantissa = m := by
  unfold ExtendedMantissa.ofMantissaAndAccuracy
  split <;> rfl

/-- A rounded mantissa at the exponent that the format wants. -/
theorem rounded_carried (s : Sign) {n : ℕ} {y : ℚ} {t : ℤ} (hn : Rounds n y) (hhigh : y ≤ 2 ^ 53)
    (hlow : 2 ^ 52 ≤ y ∨ t = -1074) (ht : -1074 ≤ t) : Rounded (y * 2 ^ t) (carried s n t) := by
  have hpos : (0 : ℚ) < 2 ^ t := zpow_pos two_pos t
  have hle : n ≤ 2 ^ 53 := (hn (2 ^ 53)).1 (by exact_mod_cast hhigh)
  have hge : 2 ^ 52 ≤ y → 2 ^ 52 ≤ n := fun h => (hn (2 ^ 52)).2 (by exact_mod_cast h)
  refine ⟨isFinite_carried .., canonical_carried s ht (hlow.imp_left hge), fun b hb hy => ?_,
    fun b hb hy => ?_⟩ <;> rw [magnitude_carried s hle]
  · rcases hb.eq_or_le t with ⟨c, rfl⟩ | ⟨hlt, hsmall⟩
    · have hc : n ≤ c := (hn c).1 (le_of_mul_le_mul_right hy hpos)
      exact mul_le_mul_of_nonneg_right (by exact_mod_cast hc) hpos.le
    · -- the number is the least of its exponent, and so is the bound
      have hleast : 2 ^ 52 ≤ y := hlow.resolve_right (by omega)
      have hn52 : n ≤ 2 ^ 52 :=
        (hn (2 ^ 52)).1 (by exact_mod_cast le_of_mul_le_mul_right (hy.trans hsmall) hpos)
      calc (n : ℚ) * 2 ^ t ≤ 2 ^ 52 * 2 ^ t :=
            mul_le_mul_of_nonneg_right (by exact_mod_cast hn52) hpos.le
        _ ≤ y * 2 ^ t := mul_le_mul_of_nonneg_right hleast hpos.le
        _ ≤ b := hy
  · rcases hb.eq_or_le t with ⟨c, rfl⟩ | ⟨hlt, hsmall⟩
    · have hc : c ≤ n := (hn c).2 (le_of_mul_le_mul_right hy hpos)
      exact mul_le_mul_of_nonneg_right (by exact_mod_cast hc) hpos.le
    · have hn52 : 2 ^ 52 ≤ n := hge (hlow.resolve_right (by omega))
      exact hsmall.trans (mul_le_mul_of_nonneg_right (by exact_mod_cast hn52) hpos.le)

/-- Rounding never passes a magnitude that can be represented. -/
theorem rounded_roundWithAccuracy (s : Sign) {m : ℕ} {e : ℤ} {acc : Accuracy} {x : ℚ}
    (he : e ≤ target m e) (hx : Holds (.ofMantissaAndAccuracy m acc) x) :
    Rounded (x * 2 ^ e) (roundWithAccuracy Format.binary64 s m e acc) := by
  obtain ⟨k, hk⟩ := Int.le.dest he
  have hshift : shiftToTargetExponent Format.binary64 m e acc =
      (ExtendedMantissa.ofMantissaAndAccuracy m acc >>> k, e + k) := by
    have hamount : (target m e - e).toNat = k := by omega
    rw [target] at hamount
    simp only [shiftToTargetExponent, shiftToExponent, hamount]
  have htarget := target_eq m e
  obtain ⟨hfloor, hceil⟩ := hx.bounds
  rw [ofMantissaAndAccuracy_mantissa] at hfloor hceil
  have hpow : (0 : ℚ) < 2 ^ k := by positivity
  have hhigh : x / 2 ^ k ≤ 2 ^ 53 := by
    have hm : m + 1 ≤ 2 ^ (53 + k) :=
      Nat.lt_log2_self.trans_le (Nat.pow_le_pow_right two_pos (by omega))
    have hmq : (m : ℚ) + 1 ≤ 2 ^ (53 + k) := by exact_mod_cast hm
    rw [div_le_iff₀ hpow, ← pow_add]
    exact (hceil.trans_le hmq).le
  have hlow : 2 ^ 52 ≤ x / 2 ^ k ∨ e + k = -1074 := by
    by_cases hsub : e + k = -1074
    · exact .inr hsub
    · have hlog : m.log2 = 52 + k := by omega
      have hne : m ≠ 0 := by
        rintro rfl
        simp only [Nat.log2_zero] at hlog
        omega
      have hm : (2 : ℚ) ^ (52 + k) ≤ m := by exact_mod_cast hlog ▸ Nat.log2_self_le hne
      rw [le_div_iff₀ hpow, ← pow_add]
      exact .inl (hm.trans hfloor)
  have hvalue : x * 2 ^ e = x / 2 ^ k * 2 ^ (e + k : ℤ) := by
    rw [zpow_add₀ two_ne_zero, zpow_natCast]
    field_simp
  have hrounds := (hx.shiftRight k).rounds
  rw [roundWithAccuracy_eq_carried s hshift ((hrounds (2 ^ 53)).1 (by exact_mod_cast hhigh))
    (by omega), hvalue]
  exact rounded_carried s hrounds hhigh hlow (by omega)

end Tunnel.Binary64
