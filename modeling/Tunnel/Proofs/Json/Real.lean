import Tunnel.Proofs.Decimal
import Tunnel.Proofs.Float.Arithmetic
import Tunnel.Proofs.Json.Number

/-!
# Floating point numbers in a document

A number that is no integer is a significand of 64 bits times a power of ten. What comes out of a
document is always finite: a product that would not be is refused, and a quotient is not larger than
its significand.
-/
namespace Tunnel.Json

open Binary64

def FiniteBits (bits : UInt64) : Prop :=
  bits.toNat / 0x10000000000000 % 0x800 ≠ 0x7FF

theorem finiteBits_toBits {f : Float} : FiniteBits f.toBits ↔ (parts f).isFinite = true :=
  isFinite_unpack.symm

def Moderate (f : Float) : Prop :=
  (parts f).isFinite = true ∧ magnitude (parts f) ≤ 2 ^ 64

theorem representable_natPow (n : ℕ) : Representable (2 ^ n) :=
  ⟨1, n, by decide, by omega, by simp⟩

theorem moderate_toFloat (n : UInt64) : Moderate n.toFloat := by
  have h := parts_toFloat n
  exact ⟨h.finite, h.le _ (representable_natPow 64) (by exact_mod_cast n.toNat_lt.le)⟩

/-- A power of ten is finite and not below one. -/
theorem one_le_power {k : ℕ} (hk : k ≤ 308) :
    1 ≤ magnitude (parts (Float.ofScientific 1 false k)) :=
  (parts_power hk).ge 1 (by simpa using representable_natPow 0) (one_le_pow₀ (by norm_num))

/-- A quotient by a power of ten is not larger than what is divided. -/
theorem Moderate.div_power {f : Float} (hf : Moderate f) {k : ℕ} (hk : k ≤ 308) :
    Moderate (f / Float.ofScientific 1 false k) := by
  have hone := one_le_power hk
  have hquot : magnitude (parts f) / magnitude (parts (Float.ofScientific 1 false k)) ≤ 2 ^ 64 :=
    (div_le_self (magnitude_nonneg _) hone).trans hf.2
  have hmax : (2 ^ 64 : ℚ) ≤ largest := by
    have hle : 2 ^ 64 ≤ largest := by decide +kernel
    exact_mod_cast hle
  have h := parts_div hf.1 (parts_power hk).finite (zero_lt_one.trans_le hone) (hquot.trans hmax)
  exact ⟨h.finite, h.le _ (representable_natPow 64) hquot⟩

theorem scale_finite {f g : Float} {e : ℤ} (hf : Moderate f) (h : scale f e = some g) :
    (parts g).isFinite = true := by
  fun_induction scale f e with
  | case1 | case3 =>
    obtain rfl := Option.some.inj h
    exact hf.1
  | case2 | case5 => cases h
  | case4 f e hhigh hlow hne ih => exact ih (hf.div_power le_rfl) h
  | case6 f e hhigh hlow hpos r hinf =>
    obtain rfl := Option.some.inj h
    exact isFinite_mul hf.1 (parts_power (by omega)).finite (Bool.eq_false_iff.2 hinf)
  | case7 f e hhigh hlow hneg =>
    obtain rfl := Option.some.inj h
    exact (hf.div_power (by omega)).1

theorem scaled_finite {negative : Bool} {s : ℕ} {e : ℤ} {c c' : Cursor} {v : Json}
    (h : scaled negative s e c = .ok (v, c')) : ∃ bits, v = .real bits ∧ FiniteBits bits := by
  unfold scaled at h
  split at h
  · cases h
  · rename_i f hf
    have hfinite := scale_finite (moderate_toFloat _) hf
    obtain ⟨rfl, -⟩ := Prod.mk.inj (Except.ok.inj h)
    refine ⟨_, rfl, ?_⟩
    cases negative with
    | false => exact finiteBits_toBits.2 hfinite
    | true => exact finiteBits_toBits.2 (isFinite_neg hfinite)

/-- A floating point number that is read is finite. -/
theorem number_finite {negative : Bool} {c c' : Cursor} {bits : UInt64}
    (h : number negative c = .ok (.real bits, c')) : FiniteBits bits := by
  rcases number_eq_ok h with ⟨i, hi⟩ | ⟨_, _, _, _, hscaled⟩
  · cases hi
  · obtain ⟨bits', heq, hfinite⟩ := scaled_finite hscaled
    obtain rfl := Json.real.inj heq
    exact hfinite

theorem scale_isSome_of_neg (f : Float) {e : ℤ} (he : e < 0) : (scale f e).isSome = true := by
  fun_induction scale f e with
  | case1 | case3 | case6 | case7 => rfl
  | case2 f e hhigh | case5 f e hhigh hlow hpos => omega
  | case4 f e hhigh hlow hne ih => exact ih (by omega)

/-- A power of ten times what may stand before it is not above the largest finite number, both as
they are rounded. -/
theorem product_le_largest : ∀ p < 309,
    roundUp (min (10 ^ 17) (Decimal.limit / 10 ^ p)) * roundUp (10 ^ p) ≤ largest := by
  decide +kernel

/-- Digits and a power of ten below the largest number make a finite number. -/
theorem isInf_product {d p : ℕ} (hp : p ≤ 308) (hd : d ≤ 10 ^ 17)
    (hle : d * 10 ^ p ≤ Decimal.limit) :
    ((UInt64.ofNat d).toFloat * Float.ofScientific 1 false p).isInf = false := by
  have hnat : (UInt64.ofNat d).toNat = d :=
    UInt64.toNat_ofNat_of_lt' (hd.trans_lt (by decide))
  have hf := parts_toFloat (UInt64.ofNat d)
  rw [hnat] at hf
  have hg := parts_power hp
  -- each factor is rounded to at most a bound that can be represented
  have hbound : d ≤ roundUp (min (10 ^ 17) (Decimal.limit / 10 ^ p)) :=
    (le_min hd ((Nat.le_div_iff_mul_le (by positivity)).2 hle)).trans (le_roundUp _)
  have hfle := hf.le _ (representable_roundUp _) (by exact_mod_cast hbound)
  have hgle := hg.le _ (representable_roundUp (10 ^ p)) (by exact_mod_cast le_roundUp (10 ^ p))
  have hprod := parts_mul hf.finite hg.finite (le_trans
    (mul_le_mul hfle hgle (magnitude_nonneg _) (Nat.cast_nonneg _))
    (by exact_mod_cast product_le_largest p (by omega)))
  exact isInf_of_isFinite hprod.finite

theorem scale_isSome {d p : ℕ} (hp : p ≤ 308)
    (hinf : ((UInt64.ofNat d).toFloat * Float.ofScientific 1 false p).isInf = false) :
    (scale (UInt64.ofNat d).toFloat p).isSome = true := by
  rw [scale, if_neg (by omega), if_neg (by omega), if_pos (Int.natCast_nonneg p)]
  simp only [Int.toNat_natCast, hinf, Bool.false_eq_true, if_false, Option.isSome_some]

/-- A shortest decimal without fraction is read back as a finite number. -/
theorem scale_shortest {bits : UInt64} (hbits : FiniteBits bits) {d p : ℕ}
    (h : (Decimal.Binary.ofBits bits).shortest = (d, (p : ℤ))) :
    (scale (UInt64.ofNat d).toFloat p).isSome = true := by
  obtain ⟨hm, he, hmax⟩ := Decimal.Binary.ofBits_bounds hbits
  by_cases hgreatest : (Decimal.Binary.ofBits bits).mantissa + 1 = 2 ^ 53 ∧
      (Decimal.Binary.ofBits bits).exponent = 971
  · have hdecimal : Decimal.Binary.greatest.shortest = (17976931348623157, 292) := by decide +kernel
    rw [hmax hgreatest, hdecimal] at h
    obtain ⟨rfl, hp⟩ := Prod.mk.inj h
    obtain rfl : 292 = p := by exact_mod_cast hp
    exact scale_isSome (by decide) (by decide +kernel)
  · have hle := Decimal.Binary.shortest_le hm he hgreatest h
    have hd : d ≤ 10 ^ 17 := by
      have hdigits := (Decimal.Binary.ofBits bits).shortest_digits
      rwa [h] at hdigits
    rcases le_or_gt p 308 with hp | hp
    · exact scale_isSome hp (isInf_product hp hd hle)
    · -- no other number of so many digits is small enough
      obtain rfl : d = 0 := by
        by_contra hne
        have hsmall : Decimal.limit < 10 ^ 309 := by decide +kernel
        have hten : 10 ^ p < 10 ^ 309 :=
          ((Nat.le_mul_of_pos_left _ (Nat.pos_of_ne_zero hne)).trans hle).trans_lt hsmall
        exact absurd (Nat.pow_lt_pow_iff_right (by decide) |>.1 hten) (by omega)
      have hzero : ((UInt64.ofNat 0).toFloat == 0) = true := by decide +kernel
      rw [scale, if_pos (by omega), if_pos hzero]
      rfl

end Tunnel.Json
