import Tunnel.Proofs.Float.Rounding

/-!
# Arithmetic of binary64

A product, a quotient and a power of ten are each computed exactly and rounded once. What is rounded
comes through the 64 bits of the format as it is, unless it is above the largest finite number.
-/
namespace Tunnel.Binary64

open Float.Model (Format UnpackedFloat totalExponent)
open Float.Model.UnpackedFloat

/-! ## Packing

A number in the form that the format wants, and with an exponent in its range, comes back from its 64
bits as it was.
-/

theorem log2_eq_iff {m : ℕ} (hm : m < 2 ^ 53) : m.log2 + 1 = 53 ↔ 2 ^ 52 ≤ m := by
  constructor
  · intro h
    have hne : m ≠ 0 := by
      rintro rfl
      simp at h
    have hle := Nat.log2_self_le hne
    rwa [show m.log2 = 52 by omega] at hle
  · intro h
    have hne : m ≠ 0 := by omega
    have hlt := (Nat.log2_lt hne).2 hm
    have hge := (Nat.le_log2 hne).2 h
    omega

theorem toNat_append_one (m : BitVec 52) : (1#1 ++ m).toNat = 2 ^ 52 + m.toNat := by
  have hor := Nat.two_pow_add_eq_or_of_lt m.isLt 1
  rw [BitVec.toNat_append, show (1#1).toNat <<< 52 = 2 ^ 52 * 1 from rfl, ← hor, Nat.mul_one]

theorem finite_congr {s : Sign} {m m' : ℕ} {e e' : ℤ} {h : 0 < m} {h' : 0 < m'} (hm : m' = m)
    (he : e' = e) : UnpackedFloat.finite s m' e' h' = .finite s m e h := by
  subst hm he
  rfl

/-- The exponent field that is computed for a finite number. -/
theorem exponentField_eq {e : ℤ} {n : ℕ} (hn : e + 1075 = n) :
    (e + (Format.binary64.exponentBias : ℕ) +
      (Format.binary64.mantissaBitsWithoutImplicit : ℕ)).toNat = n := by
  simp only [Format.exponentBias]
  norm_num
  omega

theorem not_overflow {n : ℕ} (hn : n ≤ 2046) : ¬ 2 ^ Format.binary64.exponentBits ≤ n + 1 := by
  change ¬ 2 ^ 11 ≤ n + 1
  omega

/-- The leading bit of a mantissa that has all its bits is not written, and comes back. -/
theorem unpack_pack_normal {s : Sign} {m : ℕ} {e : ℤ} {h : 0 < m} (hm : m < 2 ^ 53)
    (hnormal : 2 ^ 52 ≤ m) {n : ℕ} (hn : e + 1075 = n) (hpos : 0 < n) (hmax : n ≤ 2046) :
    ∃ s', unpack Format.binary64 (pack Format.binary64 (.finite s m e h)) = .finite s' m e h := by
  have hlog : m.log2 + 1 = Format.binary64.mantissaBits := (log2_eq_iff hm).2 hnormal
  have hones : BitVec.ofNat 11 n ≠ -1#11 := by
    rw [Ne, ← BitVec.toNat_inj, BitVec.toNat_ofNat]
    change ¬ n % 2 ^ 11 = 2047
    omega
  have hzeros : BitVec.ofNat 11 n ≠ 0#11 := by
    rw [Ne, ← BitVec.toNat_inj, BitVec.toNat_ofNat]
    change ¬ n % 2 ^ 11 = 0
    omega
  simp only [pack, exponentField_eq hn, if_neg (not_overflow hmax), if_pos hlog, unpack,
    unpackExponent_packComponents, unpackMantissa_packComponents, if_neg hones, if_neg hzeros]
  refine ⟨_, finite_congr ?_ ?_⟩
  · rw [toNat_append_one, BitVec.toNat_ofNat]
    omega
  · rw [BitVec.toNat_ofNat]
    change ((n % 2 ^ 11 : ℕ) : ℤ) - (1023 + 52) = e
    omega

/-- A shorter mantissa is written as it is, with the exponent field zero. -/
theorem unpack_pack_subnormal {s : Sign} {m : ℕ} {e : ℤ} {h : 0 < m} (hm : m < 2 ^ 52)
    (he : e = -1074) :
    ∃ s', unpack Format.binary64 (pack Format.binary64 (.finite s m e h)) = .finite s' m e h := by
  have hlog : ¬ m.log2 + 1 = Format.binary64.mantissaBits := fun hlog =>
    absurd ((log2_eq_iff (by omega)).1 hlog) (by omega)
  have hones : ¬ (0#11 = -1#11) := by decide
  have hzeros : BitVec.ofNat 52 m ≠ 0#52 := by
    rw [Ne, ← BitVec.toNat_inj, BitVec.toNat_ofNat]
    change ¬ m % 2 ^ 52 = 0
    omega
  have hone : e + 1075 = (1 : ℕ) := by omega
  have hfits : ¬ 2 ^ Format.binary64.exponentBits ≤ 1 + 1 := not_overflow (by decide)
  simp only [pack, exponentField_eq hone, if_neg hfits, if_neg hlog, unpack,
    unpackExponent_packComponents, unpackMantissa_packComponents, if_neg hones, dif_neg hzeros,
    if_true]
  refine ⟨_, finite_congr ?_ ?_⟩
  · rw [BitVec.toNat_ofNat]
    omega
  · change (0 : ℤ) - (1023 + 52) + 1 = e
    omega

theorem unpack_pack_finite {s : Sign} {m : ℕ} {e : ℤ} {h : 0 < m}
    (hc : Canonical (.finite s m e h)) (he : e ≤ 971) :
    ∃ s', unpack Format.binary64 (pack Format.binary64 (.finite s m e h)) = .finite s' m e h := by
  obtain ⟨hm, hlow, hnormal⟩ := hc
  by_cases h52 : 2 ^ 52 ≤ m
  · obtain ⟨n, hn⟩ := Int.eq_ofNat_of_zero_le (show 0 ≤ e + 1075 by omega)
    exact unpack_pack_normal hm h52 hn (by omega) (by omega)
  · exact unpack_pack_subnormal (Nat.lt_of_not_le h52) (hnormal.resolve_left h52)

def largest : ℕ := (2 ^ 53 - 1) * 2 ^ 971

theorem largest_eq : (largest : ℚ) = (2 ^ 53 - 1) * 2 ^ (971 : ℤ) := by
  have hmantissa : (2 ^ 53 - 1 : ℚ) = (2 ^ 53 - 1 : ℕ) := by norm_num
  have hpower : (2 : ℚ) ^ (971 : ℤ) = (2 ^ 971 : ℕ) :=
    (zpow_natCast 2 971).trans (Nat.cast_pow 2 971).symm
  rw [largest, hmantissa, hpower, Nat.cast_mul]

theorem representable_largest : Representable largest :=
  ⟨2 ^ 53 - 1, 971, by decide, by decide, by rw [largest_eq]; norm_num⟩

theorem exponent_le {s : Sign} {m : ℕ} {e : ℤ} {h : 0 < m} (hc : Canonical (.finite s m e h))
    (hle : magnitude (.finite s m e h) ≤ largest) : e ≤ 971 := by
  obtain ⟨hm, hlow, hnormal⟩ := hc
  by_contra hlt
  have h52 : (2 : ℚ) ^ 52 ≤ m := by exact_mod_cast hnormal.resolve_right (by omega)
  have hbig : (2 : ℚ) ^ 52 * 2 ^ (971 + 1 : ℤ) ≤ m * 2 ^ e :=
    mul_le_mul h52 (zpow_le_zpow_right₀ one_le_two (by omega)) (by positivity) (by positivity)
  have hpos : (0 : ℚ) < 2 ^ (971 : ℤ) := by positivity
  have hmax : (m : ℚ) * 2 ^ e ≤ (2 ^ 53 - 1) * 2 ^ (971 : ℤ) := largest_eq ▸ hle
  rw [zpow_add_one₀ two_ne_zero] at hbig
  generalize (2 : ℚ) ^ (971 : ℤ) = c at hbig hpos hmax
  linarith

theorem unpack_pack_zero (s : Sign) :
    ∃ s', unpack Format.binary64 (pack Format.binary64 (.zero s)) = .zero s' := by
  cases s <;> exact ⟨_, rfl⟩

/-- What is rounded and not too large comes through its format. -/
theorem Rounded.unpack_pack {v : ℚ} {x : UnpackedFloat} (hx : Rounded v x) (hv : v ≤ largest) :
    Rounded v (unpack Format.binary64 (pack Format.binary64 x)) := by
  have hle := hx.le _ representable_largest hv
  cases x with
  | infinity | notANumber => cases hx.finite
  | zero s =>
    obtain ⟨s', hs⟩ := unpack_pack_zero s
    rw [hs]
    exact ⟨rfl, trivial, hx.le, hx.ge⟩
  | finite s m e h =>
    obtain ⟨s', hs⟩ := unpack_pack_finite hx.canonical (exponent_le hx.canonical hle)
    rw [hs]
    exact ⟨rfl, hx.canonical, hx.le, hx.ge⟩

theorem rounded_zero (s : Sign) : Rounded 0 (.zero s) :=
  ⟨rfl, trivial, fun _ _ h => h, fun _ _ h => h⟩

theorem rounded_mul {x y : UnpackedFloat} (hx : x.isFinite = true) (hy : y.isFinite = true)
    (hcx : Canonical x) (hcy : Canonical y) :
    Rounded (magnitude x * magnitude y) (mul Format.binary64 x y) := by
  cases x with
  | infinity | notANumber => cases hx
  | zero s =>
    cases y with
    | infinity | notANumber => cases hy
    | zero s' => simpa [magnitude, mul] using rounded_zero (s * s')
    | finite s' m' e' h' => simpa [magnitude, mul] using rounded_zero (s * s')
  | finite s m e h =>
    cases y with
    | infinity | notANumber => cases hy
    | zero s' => simpa [magnitude, mul] using rounded_zero (s * s')
    | finite s' m' e' h' =>
      have htarget : e + e' ≤ target (m * m') (e + e') := by
        rw [target_eq]
        obtain ⟨-, -, hn⟩ := hcx
        obtain ⟨-, -, hn'⟩ := hcy
        by_cases hsub : e = -1074 ∧ e' = -1074
        · omega
        · have hbig : 2 ^ 52 ≤ m * m' := by
            rcases not_and_or.1 hsub with hne | hne
            · exact (hn.resolve_right hne).trans (Nat.le_mul_of_pos_right m h')
            · exact (hn'.resolve_right hne).trans (Nat.le_mul_of_pos_left m' h)
          have hlog := (Nat.le_log2 (Nat.mul_pos h h').ne').2 hbig
          omega
      have hvalue : magnitude (.finite s m e h) * magnitude (.finite s' m' e' h') =
          ((m * m' : ℕ) : ℚ) * 2 ^ (e + e') := by
        simp only [magnitude]
        rw [zpow_add₀ two_ne_zero]
        push_cast
        ring
      rw [hvalue]
      exact rounded_roundWithAccuracy (s * s') htarget rfl

theorem holds_accuracyOfFraction (m d : ℕ) (hd : 0 < d) :
    Holds (.ofMantissaAndAccuracy (m / d) (accuracyOfFraction (m % d) d)) ((m : ℚ) / d) := by
  have hdq : (0 : ℚ) < d := by exact_mod_cast hd
  have hdiv : (d : ℚ) * (m / d : ℕ) + (m % d : ℕ) = m := by exact_mod_cast Nat.div_add_mod m d
  unfold accuracyOfFraction
  split
  · rename_i hr
    rw [hr, Nat.cast_zero, add_zero] at hdiv
    change (m : ℚ) / d = (m / d : ℕ)
    rw [div_eq_iff hdq.ne', ← hdiv, mul_comm]
  · rename_i hr
    have hpos : (0 : ℚ) < (m % d : ℕ) := by exact_mod_cast Nat.pos_of_ne_zero hr
    have hlt : ((m % d : ℕ) : ℚ) < d := by exact_mod_cast Nat.mod_lt m hd
    have hbetween : ((m / d : ℕ) : ℚ) < m / d ∧ (m : ℚ) / d < (m / d : ℕ) + 1 := by
      rw [lt_div_iff₀ hdq, div_lt_iff₀ hdq]
      constructor <;> linarith
    cases compare (2 * (m % d)) d <;> exact hbetween

theorem rounded_div {x y : UnpackedFloat} (hx : x.isFinite = true) (hy : y.isFinite = true)
    (hpos : 0 < magnitude y) :
    Rounded (magnitude x / magnitude y) (div Format.binary64 x y) := by
  cases y with
  | infinity | notANumber => cases hy
  | zero s' => cases hpos.ne' rfl
  | finite s' m' e' h' =>
    cases x with
    | infinity | notANumber => cases hx
    | zero s => simpa [magnitude, div] using rounded_zero (s / s')
    | finite s m e h =>
      simp only [div, divCore]
      generalize ht : min (e - e') (Format.binary64.targetExponent
        (totalExponent m e - totalExponent m' e')) = t
      have ht' : t = min (e - e') (max (m.log2 - m'.log2 + e - e' - 53) (-1074)) := by
        rw [← ht]
        simp only [Format.targetExponent, totalExponent, Format.mantissaBits, Format.minExponent]
        norm_num
        omega
      obtain ⟨k, hk⟩ := Int.le.dest (show t ≤ e - e' by omega)
      rw [show (e - e' - t).toNat = k by omega, Nat.shiftLeft_eq]
      have htarget : t ≤ target (m * 2 ^ k / m') t := by
        rw [target_eq]
        by_cases hsub : t ≤ -1074
        · omega
        · -- enough digits of the quotient are computed
          have hexp : m'.log2 + 1 + 52 ≤ m.log2 + k := by omega
          have hq : 2 ^ 52 ≤ m * 2 ^ k / m' := by
            rw [Nat.le_div_iff_mul_le h']
            calc 2 ^ 52 * m' ≤ 2 ^ 52 * 2 ^ (m'.log2 + 1) :=
                  Nat.mul_le_mul_left _ Nat.lt_log2_self.le
              _ = 2 ^ (m'.log2 + 1 + 52) := by rw [← Nat.pow_add, Nat.add_comm]
              _ ≤ 2 ^ (m.log2 + k) := Nat.pow_le_pow_right two_pos hexp
              _ = 2 ^ m.log2 * 2 ^ k := Nat.pow_add ..
              _ ≤ m * 2 ^ k := Nat.mul_le_mul_right _ (Nat.log2_self_le h.ne')
          have hlog := (Nat.le_log2 (by omega)).2 hq
          omega
      have hvalue : magnitude (.finite s m e h) / magnitude (.finite s' m' e' h') =
          ((m * 2 ^ k : ℕ) : ℚ) / m' * 2 ^ t := by
        have hm' : (m' : ℚ) ≠ 0 := by exact_mod_cast h'.ne'
        have he : (2 : ℚ) ^ e = 2 ^ t * 2 ^ k * 2 ^ e' := by
          rw [← zpow_natCast, ← zpow_add₀ two_ne_zero, ← zpow_add₀ two_ne_zero]
          congr 1
          omega
        simp only [magnitude]
        rw [he]
        push_cast
        field_simp
      rw [hvalue]
      exact rounded_roundWithAccuracy _ htarget (holds_accuracyOfFraction _ _ h')

theorem rounded_round (s : Sign) {m : ℕ} (hm : m ≠ 0) :
    Rounded m (UnpackedFloat.round Format.binary64 s m 0) := by
  simp only [UnpackedFloat.round, decreaseExponent]
  rw [← target, Nat.shiftLeft_eq, zero_sub, zero_sub]
  generalize hk : (-target m 0).toNat = k
  have htarget : (-k : ℤ) ≤ target (m * 2 ^ k) (-k) := by
    have hlog : m.log2 + k ≤ (m * 2 ^ k).log2 := by
      rw [Nat.le_log2 (Nat.mul_ne_zero hm (by positivity)), Nat.pow_add]
      exact Nat.mul_le_mul_right _ (Nat.log2_self_le hm)
    rw [target_eq] at hk ⊢
    omega
  have hvalue : (m : ℚ) = ((m * 2 ^ k : ℕ) : ℚ) * 2 ^ (-k : ℤ) := by
    rw [zpow_neg, zpow_natCast]
    push_cast
    field_simp
  rw [hvalue]
  exact rounded_roundWithAccuracy s htarget rfl

theorem rounded_ofNat (n : ℕ) : Rounded n (ofNat Format.binary64 n) := by
  cases n with
  | zero => exact_mod_cast rounded_zero .positive
  | succ n => exact rounded_round .positive n.succ_ne_zero

/-- A power of ten, as it is computed where it is no exact number of the format. -/
theorem rounded_ofScientific {k : ℕ} (hk : k ≤ 2048) :
    Rounded (10 ^ k) (ofScientific Format.binary64 1 k) := by
  have hfew : ¬ (k : ℤ) > 2 ^ Format.binary64.exponentBits := by
    change ¬ (k : ℤ) > 2 ^ 11
    omega
  have hmany : ¬ (k : ℤ) < -((2 ^ Format.binary64.exponentBits : ℤ) + Nat.log2 1) := by
    change ¬ (k : ℤ) < -(2 ^ 11 + _)
    omega
  simp only [ofScientific, dif_neg Nat.one_ne_zero, if_neg hfew, if_neg hmany,
    if_pos (Int.natCast_nonneg k), Int.toNat_natCast, mul]
  have htarget : (-(53 : ℕ) + 0 : ℤ) ≤ target (1 <<< 53 * 10 ^ k) (-(53 : ℕ) + 0) := by
    have hbig : 2 ^ 52 ≤ 1 <<< 53 * 10 ^ k :=
      le_trans (by decide) (Nat.le_mul_of_pos_right _ (by positivity))
    have hlog := (Nat.le_log2 (by positivity)).2 hbig
    rw [target_eq]
    omega
  have hvalue : (10 : ℚ) ^ k = ((1 <<< 53 * 10 ^ k : ℕ) : ℚ) * 2 ^ (-(53 : ℕ) + 0 : ℤ) := by
    rw [add_zero, zpow_neg, zpow_natCast, Nat.one_shiftLeft]
    push_cast
    field_simp
    norm_num
  rw [hvalue]
  exact rounded_roundWithAccuracy _ htarget rfl

/-! ## Numbers of the language

The operations of the language are those of the format by definition, so what is rounded there is
rounded here.
-/

def parts (f : Float) : UnpackedFloat := f.toModel.unpack

theorem canonical_unpack (b : BitVec 64) : Canonical (unpack Format.binary64 b) := by
  simp only [unpack]
  split
  · split <;> trivial
  · split
    · split
      · trivial
      · rename_i hmax hzero hm
        exact ⟨(BitVec.isLt _).trans (by decide), by rw [hzero]; decide,
          .inr (by rw [hzero]; decide)⟩
    · rename_i hmax hzero
      refine ⟨BitVec.isLt _, ?_, .inl ((toNat_append_one _).symm ▸ Nat.le_add_right _ _)⟩
      have hpos : 0 < (@unpackExponent Format.binary64 b).toNat :=
        (BitVec.toNat_pos _).2 ((BitVec.pos_iff_ne_zero _).2 hzero)
      change (-1074 : ℤ) ≤ _ - (1023 + 52)
      omega

/-- A number is finite where its exponent has not all bits set. -/
theorem isFinite_unpack {b : BitVec 64} :
    (unpack Format.binary64 b).isFinite = true ↔ b.toNat / 2 ^ 52 % 2 ^ 11 ≠ 2047 := by
  have hexp : (@unpackExponent Format.binary64 b).toNat = b.toNat / 2 ^ 52 % 2 ^ 11 := by
    simp [unpackExponent, Nat.shiftRight_eq_div_pow]
  have hmax : @unpackExponent Format.binary64 b = -1#11 ↔
      b.toNat / 2 ^ 52 % 2 ^ 11 = 2047 := by
    rw [← hexp, ← BitVec.toNat_inj]
    rfl
  rw [Ne, ← hmax]
  simp only [unpack]
  split
  · rename_i h
    simp only [h, not_true_eq_false, iff_false, Bool.not_eq_true]
    split <;> rfl
  · rename_i h
    simp only [h, not_false_eq_true, iff_true]
    split
    · split <;> rfl
    · rfl

theorem exponent_unpack_le {b : BitVec 64} {s : Sign} {m : ℕ} {e : ℤ} {h : 0 < m}
    (hb : unpack Format.binary64 b = .finite s m e h) : e ≤ 971 := by
  simp only [unpack] at hb
  split at hb
  · split at hb <;> cases hb
  · rename_i hmax
    have hlt : (@unpackExponent Format.binary64 b).toNat < 2047 := by
      have hle := (@unpackExponent Format.binary64 b).isLt
      have hne : (@unpackExponent Format.binary64 b).toNat ≠ 2047 := fun heq =>
        hmax (BitVec.toNat_inj.1 heq)
      change _ < 2 ^ 11 at hle
      omega
    have hexp : e = (@unpackExponent Format.binary64 b).toNat - (1023 + 52) ∨ e = -1074 := by
      split at hb
      · rename_i hzero
        split at hb
        · cases hb
        · obtain ⟨-, -, rfl⟩ := UnpackedFloat.finite.inj hb
          rw [hzero]
          exact .inr rfl
      · obtain ⟨-, -, rfl⟩ := UnpackedFloat.finite.inj hb
        exact .inl rfl
    omega

theorem isInf_unpack_pack {s : Sign} {m : ℕ} {e : ℤ} {h : 0 < m} (he : 971 < e) :
    (unpack Format.binary64 (pack Format.binary64 (.finite s m e h))).isInf = true := by
  have hlarge : 2 ^ Format.binary64.exponentBits ≤ (e + (Format.binary64.exponentBias : ℕ) +
      (Format.binary64.mantissaBitsWithoutImplicit : ℕ)).toNat + 1 := by
    change 2048 ≤ (e + 1023 + 52).toNat + 1
    omega
  simp only [pack, if_pos hlarge]
  cases s <;> rfl

theorem canonical_parts (f : Float) : Canonical (parts f) := canonical_unpack _

theorem Rounded.ofModel_pack {v : ℚ} {x : UnpackedFloat} (hx : Rounded v x) (hv : v ≤ largest) :
    Rounded v (parts (.ofModel (.pack x))) :=
  hx.unpack_pack hv

theorem parts_mul {f g : Float} (hf : (parts f).isFinite = true) (hg : (parts g).isFinite = true)
    (hle : magnitude (parts f) * magnitude (parts g) ≤ largest) :
    Rounded (magnitude (parts f) * magnitude (parts g)) (parts (f * g)) :=
  (rounded_mul hf hg (canonical_parts f) (canonical_parts g)).ofModel_pack hle

theorem isInf_of_isFinite {f : Float} (hf : (parts f).isFinite = true) : f.isInf = false := by
  change (parts f).isInf = false
  cases hx : parts f with
  | infinity | notANumber =>
    rw [hx] at hf
    cases hf
  | zero | finite => rfl

/-- A product of finite numbers that is not infinite is finite. -/
theorem isFinite_mul {f g : Float} (hf : (parts f).isFinite = true) (hg : (parts g).isFinite = true)
    (hinf : (f * g).isInf = false) : (parts (f * g)).isFinite = true := by
  have hx := rounded_mul hf hg (canonical_parts f) (canonical_parts g)
  change (unpack Format.binary64
    (pack Format.binary64 (mul Format.binary64 (parts f) (parts g)))).isInf = false at hinf
  change (unpack Format.binary64
    (pack Format.binary64 (mul Format.binary64 (parts f) (parts g)))).isFinite = true
  generalize mul Format.binary64 (parts f) (parts g) = x at hx hinf
  cases x with
  | infinity | notANumber => cases hx.finite
  | zero s => cases s <;> rfl
  | finite s m e h =>
    rcases le_or_gt e 971 with he | he
    · obtain ⟨s', hs⟩ := unpack_pack_finite hx.canonical he
      rw [hs]
      rfl
    · rw [isInf_unpack_pack he] at hinf
      cases hinf

theorem isFinite_neg {f : Float} (hf : (parts f).isFinite = true) :
    (parts (-f)).isFinite = true := by
  change (unpack Format.binary64 (pack Format.binary64 (neg (parts f)))).isFinite = true
  have hc := canonical_parts f
  cases hx : parts f with
  | infinity | notANumber =>
    rw [hx] at hf
    cases hf
  | zero s => cases s <;> rfl
  | finite s m e h =>
    rw [hx] at hc
    obtain ⟨s', hs⟩ := unpack_pack_finite (s := -s) hc (exponent_unpack_le hx)
    rw [neg, hs]
    rfl

theorem parts_div {f g : Float} (hf : (parts f).isFinite = true) (hg : (parts g).isFinite = true)
    (hpos : 0 < magnitude (parts g))
    (hle : magnitude (parts f) / magnitude (parts g) ≤ largest) :
    Rounded (magnitude (parts f) / magnitude (parts g)) (parts (f / g)) :=
  (rounded_div hf hg hpos).ofModel_pack hle

theorem parts_toFloat (n : UInt64) : Rounded n.toNat (parts n.toFloat) := by
  have hle : n.toNat ≤ largest := n.toNat_lt.le.trans (by decide +kernel)
  exact (rounded_ofNat n.toNat).ofModel_pack (Nat.cast_le.2 hle)

def standsFor (n : ℕ) : UnpackedFloat → Bool
  | .finite _ m e _ => -52 ≤ e && m * 2 ^ (e + 52).toNat == n * 2 ^ 52
  | _ => false

theorem magnitude_eq_of_standsFor {n : ℕ} {x : UnpackedFloat} (h : standsFor n x = true) :
    x.isFinite = true ∧ magnitude x = n := by
  cases x with
  | infinity | notANumber | zero => cases h
  | finite s m e hm =>
    obtain ⟨hlow, hvalue⟩ : -52 ≤ e ∧ m * 2 ^ (e + 52).toNat = n * 2 ^ 52 := by
      simpa [standsFor] using h
    obtain ⟨k, hk⟩ := Int.le.dest hlow
    obtain rfl : e = k - 52 := by omega
    rw [sub_add_cancel, Int.toNat_natCast] at hvalue
    have hq : (m : ℚ) * 2 ^ k = n * 2 ^ 52 := by exact_mod_cast hvalue
    refine ⟨rfl, ?_⟩
    simp only [magnitude]
    rw [zpow_sub₀ two_ne_zero, zpow_natCast, mul_div_assoc', hq]
    norm_num

theorem standsFor_power :
    ∀ k < 23, standsFor (10 ^ k) (parts (Float.ofScientific 1 false k)) = true := by
  decide +kernel

theorem parts_power {k : ℕ} (hk : k ≤ 308) :
    Rounded (10 ^ k) (parts (Float.ofScientific 1 false k)) := by
  by_cases hsmall : k < 23
  · obtain ⟨hfinite, hvalue⟩ := magnitude_eq_of_standsFor (standsFor_power k hsmall)
    rw [Nat.cast_pow] at hvalue
    exact ⟨hfinite, canonical_parts _, fun b _ h => hvalue.trans_le h,
      fun b _ h => h.trans_eq hvalue.symm⟩
  · have hlarge : Float.ofScientific 1 false k = .ofModel (.ofScientific 1 k) := by
      have hslow : ¬ (1 < 2 ^ 53 ∧ k ≤ 22) := by omega
      simp only [Float.ofScientific, dif_neg hslow]
      rfl
    rw [hlarge]
    have hle : 10 ^ k ≤ largest :=
      (Nat.pow_le_pow_right (by decide) hk).trans (by decide +kernel)
    exact (rounded_ofScientific (by omega)).ofModel_pack (by exact_mod_cast Nat.cast_le.2 hle)

end Tunnel.Binary64
