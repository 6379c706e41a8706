import Tunnel.Proofs.Json.Real
import Tunnel.Proofs.Json.Spelling

/-!
# Written floating point numbers read back

A floating point number is written in one of four ways: with zeros after its digits, with a point
among them, with zeros before them, or with an exponent. Each is read as a significand and a power of
ten, and none of them is too large. What comes back is a finite number again, though not always the
same one.
-/
namespace Tunnel.Json

open Utf8 (Glyph)

/-! ## Digits, a point and an exponent

What is read after the first digit of a number, part by part: each part adds to the significand, or to
the power of ten that it is scaled by.
-/

variable {negative : Bool} {rest : List Glyph}

/-- Digits before and after a point, and then perhaps an exponent. -/
theorem number_point (negative : Bool) {n : ℕ} {ds : List Char} (hd : ∀ d ∈ ds, d.isDigit = true)
    (hne : ds ≠ []) (hfit : Nat.ofDigitChars 10 ds n < UInt64.size) (hrest : NoDigit rest) (o : ℕ) :
    ∃ o', number negative ⟨digits n ++ .char '.' :: (ds.map .char ++ rest), o⟩ =
      optionalExponent negative (Nat.ofDigitChars 10 ds n) (-ds.length) ⟨rest, o'⟩ := by
  have hn : n < UInt64.size := (le_ofDigitChars ds n).trans_lt hfit
  have hdot : NoDigit (.char '.' :: (ds.map .char ++ rest)) := by
    rintro g ⟨⟩
    rfl
  have hlength : ds.length ≠ 0 := fun h => hne (List.length_eq_zero_iff.1 h)
  refine ⟨o + (Nat.toDigits 10 n).length + 1 + ds.length, ?_⟩
  rw [number_digits hn hdot]
  simp only [afterInteger, fraction, significandFrom_digits hd hrest _ _ _ hfit,
    skipDigits_eq_zero.2 ⟨rfl, hrest⟩, Nat.zero_add, hlength, false_and, if_false, Nat.cast_zero,
    zero_sub]

theorem exponentFrom_digits {ds : List Char} (hd : ∀ d ∈ ds, d.isDigit = true)
    (hrest : NoDigit rest) (v o : ℕ) (hv : Nat.ofDigitChars 10 ds v ≤ maxExponent) :
    exponentFrom v o (ds.map .char ++ rest) =
      .ok (Nat.ofDigitChars 10 ds v, ⟨rest, o + ds.length⟩) := by
  induction ds generalizing v o with
  | nil =>
    cases rest with
    | nil => rfl
    | cons g rest => simp [exponentFrom, hrest g rfl]
  | cons c ds ih =>
    rw [Nat.ofDigitChars_cons] at hv
    have hnext : v * 10 + (c.toNat - '0'.toNat) ≤ maxExponent := by
      rw [Nat.mul_comm]
      exact (le_ofDigitChars ds _).trans hv
    rw [List.map_cons, List.cons_append, exponentFrom, digit?_char (hd c List.mem_cons_self)]
    simp only [if_pos hnext]
    rw [Nat.mul_comm v, ih (fun a ha => hd a (List.mem_cons_of_mem c ha)) _ _ hv,
      Nat.ofDigitChars_cons, List.length_cons, Nat.add_assoc, Nat.add_comm 1]

/-- An exponent with its sign. -/
theorem exponent_digits (negative : Bool) (s : ℕ) (start : ℤ) (below : Bool) {n : ℕ}
    (hn : n ≤ maxExponent) (hrest : NoDigit rest) (o : ℕ) :
    ∃ o', exponent negative s start
        ⟨.char (if below then '-' else '+') :: (digits n ++ rest), o⟩ =
      scaled negative s (if below then start - n else start + n) ⟨rest, o'⟩ := by
  obtain ⟨a, ds, ha, hdigit⟩ := toDigits_cons n
  have hall : ∀ d ∈ ds, d.isDigit = true := fun d hd =>
    Nat.isDigit_of_mem_toDigits (by decide) (by decide) (ha ▸ List.mem_cons_of_mem a hd)
  have hvalue := Nat.ofDigitChars_ten_toDigits (n := n)
  rw [ha, Nat.ofDigitChars_cons, Nat.mul_zero, Nat.zero_add] at hvalue
  have hfrom := exponentFrom_digits hall hrest (a.toNat - '0'.toNat) (o + 1 + 1) (hvalue.symm ▸ hn)
  rw [hvalue] at hfrom
  refine ⟨o + 1 + 1 + ds.length, ?_⟩
  rw [digits, ha, List.map_cons, List.cons_append]
  have hfirst := digit?_char hdigit
  generalize a.toNat - '0'.toNat = d at hfirst hfrom
  cases below with
  | true => simp [exponent, exponentSign, hfirst, hfrom]
  | false => simp [exponent, exponentSign, hfirst, hfrom]

/-- A text without sign is read as a significand times a power of ten. -/
structure Scales (gs : List Glyph) (s : ℕ) (e : ℤ) : Prop where
  head : ∃ l cs, gs = .char l :: cs ∧ l.isDigit = true
  reads : ∀ negative rest, Bounds rest → ∀ o,
    ∃ o', number negative ⟨gs ++ rest, o⟩ = scaled negative s e ⟨rest, o'⟩

theorem digits_append_head (n : ℕ) (gs : List Glyph) :
    ∃ l cs, digits n ++ gs = .char l :: cs ∧ l.isDigit = true := by
  obtain ⟨l, cs, hl, -, -, hd⟩ := digits_head n
  exact ⟨l, cs ++ gs, by rw [hl, List.cons_append], hd⟩

theorem optionalExponent_bounds {s : ℕ} {e : ℤ} (hr : Bounds rest) (o : ℕ) :
    optionalExponent negative s e ⟨rest, o⟩ = scaled negative s e ⟨rest, o⟩ := by
  unfold optionalExponent
  split
  · rename_i hrest
    exact absurd rfl (hr.2 (.char 'e') (by rw [show rest = _ from hrest]; rfl)).2.1
  · rename_i hrest
    exact absurd rfl (hr.2 (.char 'E') (by rw [show rest = _ from hrest]; rfl)).2.2
  · rfl

/-- Digits before and after a point. -/
theorem scales_point {n : ℕ} {ds : List Char} (hd : ∀ d ∈ ds, d.isDigit = true) (hne : ds ≠ [])
    (hfit : Nat.ofDigitChars 10 ds n < UInt64.size) :
    Scales (digits n ++ .char '.' :: ds.map .char) (Nat.ofDigitChars 10 ds n) (-ds.length) := by
  refine ⟨digits_append_head n _, fun negative rest hr o => ?_⟩
  obtain ⟨o', h⟩ := number_point negative hd hne hfit hr.1 o
  exact ⟨o', by rw [List.append_assoc, List.cons_append, h, optionalExponent_bounds hr]⟩

def mark (below : Bool) (n : ℕ) : List Glyph :=
  .char 'e' :: .char (if below then '-' else '+') :: digits n

theorem noDigit_mark (below : Bool) (n : ℕ) (rest : List Glyph) :
    NoDigit (mark below n ++ rest) := by
  rintro g ⟨⟩
  rfl

/-- Digits before a point and digits after it, with an exponent. -/
theorem scales_point_mark {n : ℕ} {ds : List Char} (hd : ∀ d ∈ ds, d.isDigit = true) (hne : ds ≠ [])
    (hfit : Nat.ofDigitChars 10 ds n < UInt64.size) (below : Bool) {k : ℕ} (hk : k ≤ maxExponent) :
    Scales (digits n ++ .char '.' :: (ds.map .char ++ mark below k)) (Nat.ofDigitChars 10 ds n)
      (if below then -ds.length - k else -ds.length + k) := by
  refine ⟨digits_append_head n _, fun negative rest hr o => ?_⟩
  obtain ⟨o₁, hpoint⟩ := number_point negative hd hne hfit (noDigit_mark below k rest) o
  obtain ⟨o₂, hmark⟩ := exponent_digits negative (Nat.ofDigitChars 10 ds n) (-ds.length) below hk
    hr.1 (o₁ + 1)
  refine ⟨o₂, ?_⟩
  rw [← hmark, List.append_assoc, List.cons_append, List.append_assoc, hpoint]
  rfl

/-- Digits with an exponent. -/
theorem scales_mark {n : ℕ} (hn : n < UInt64.size) (below : Bool) {k : ℕ} (hk : k ≤ maxExponent) :
    Scales (digits n ++ mark below k) n (if below then -k else k) := by
  refine ⟨digits_append_head n _, fun negative rest hr o => ?_⟩
  obtain ⟨o', hmark⟩ := exponent_digits negative n 0 below hk hr.1
    (o + (Nat.toDigits 10 n).length + 1)
  rw [zero_sub, zero_add] at hmark
  refine ⟨o', ?_⟩
  rw [← hmark, List.append_assoc, number_digits hn (noDigit_mark below k rest)]
  rfl

theorem isDigit_of_mem_toDigits {n : ℕ} {c : Char} (hc : c ∈ Nat.toDigits 10 n) :
    c.isDigit = true :=
  Nat.isDigit_of_mem_toDigits (by decide) (by decide) hc

theorem toDigits_zeros {d : ℕ} {k : ℕ} (h : 0 < d ∨ k = 0) :
    Nat.toDigits 10 d ++ List.replicate k '0' = Nat.toDigits 10 (10 ^ k * d) := by
  rcases h with hpos | rfl
  · rw [toDigits_append hpos _ fun c hc => by rw [List.eq_of_mem_replicate hc]; rfl,
      Nat.ofDigitChars_replicate_zero]
  · simp

/-- The first digits of a number are those of a number, and the others come after these. -/
theorem toDigits_take {d : ℕ} (hd : 0 < d) {k : ℕ} (hk : 0 < k) :
    ∃ n, (Nat.toDigits 10 d).take k = Nat.toDigits 10 n ∧
      Nat.ofDigitChars 10 ((Nat.toDigits 10 d).drop k) n = d := by
  obtain ⟨a, cs, ha, hz⟩ := toDigits_head hd
  obtain ⟨j, rfl⟩ := Nat.exists_eq_succ_of_ne_zero hk.ne'
  have hall : ∀ c ∈ a :: cs, c.isDigit = true := fun c hc => isDigit_of_mem_toDigits (ha ▸ hc)
  have hfirst := toDigits_digit (hall a List.mem_cons_self)
  have hpos : 0 < a.toNat - '0'.toNat := Nat.pos_of_ne_zero fun h0 =>
    hz (digit?_eq_zero.1 (h0 ▸ digit?_char (hall a List.mem_cons_self)))
  have hvalue := Nat.ofDigitChars_ten_toDigits (n := d)
  rw [ha, Nat.ofDigitChars_cons, Nat.mul_zero, Nat.zero_add] at hvalue
  refine ⟨Nat.ofDigitChars 10 (cs.take j) (a.toNat - '0'.toNat), ?_, ?_⟩
  · rw [ha, List.take_succ_cons, ← toDigits_append hpos _ fun c hc =>
      hall c (List.mem_cons_of_mem a (List.mem_of_mem_take hc)), hfirst.2]
    rfl
  · rw [ha, List.drop_succ_cons, ← Nat.ofDigitChars_append, List.take_append_drop, hvalue]

/-- The exponent of a decimal as text. -/
theorem mark_eq (e : ℤ) :
    (if 0 ≤ e then "e+" ++ toString e.toNat else "e-" ++ toString (-e).toNat).toList.map .char =
      mark (decide (e < 0)) e.natAbs := by
  have hrepr (n : ℕ) : (toString n).toList = Nat.toDigits 10 n := by
    change (Nat.repr n).toList = _
    rw [Nat.repr_eq_ofList_toDigits, String.toList_ofList]
  rcases lt_or_ge e 0 with hneg | hpos
  · rw [if_neg (not_le.2 hneg), String.toList_append, hrepr, decide_eq_true hneg,
      show (-e).toNat = e.natAbs by omega]
    rfl
  · rw [if_pos hpos, String.toList_append, hrepr, decide_eq_false (not_lt.2 hpos),
      show e.toNat = e.natAbs by omega]
    rfl

/-- The number of decimal digits. -/
theorem lt_pow_length_toDigits (d : ℕ) : d < 10 ^ (Nat.toDigits 10 d).length :=
  (Nat.length_toDigits_le_iff (by decide) Nat.length_toDigits_pos).1 le_rfl

/-- Digits, zeros up to the point and one zero after it. -/
theorem scales_zeros {d k : ℕ} (h : 0 < d ∨ k = 0) (hlen : (Nat.toDigits 10 d).length + k ≤ 16) :
    ∃ s, Scales ((Nat.toDigits 10 d ++ List.replicate k '0' ++ ['.', '0']).map .char) s (-1) := by
  have hn : 10 ^ k * d < 10 ^ 16 := by
    calc 10 ^ k * d < 10 ^ k * 10 ^ (Nat.toDigits 10 d).length :=
          Nat.mul_lt_mul_of_pos_left (lt_pow_length_toDigits d) (Nat.pow_pos (by decide))
      _ ≤ 10 ^ 16 := by
          rw [← Nat.pow_add]
          exact Nat.pow_le_pow_right (by decide) (by omega)
  have hfit : Nat.ofDigitChars 10 ['0'] (10 ^ k * d) < UInt64.size := by
    rw [Nat.ofDigitChars_cons, Nat.ofDigitChars_nil]
    change 10 * (10 ^ k * d) + 0 < 2 ^ 64
    omega
  have hscales := scales_point (List.forall_mem_singleton.2 rfl) (List.cons_ne_nil _ _) hfit
  refine ⟨Nat.ofDigitChars 10 ['0'] (10 ^ k * d), ?_⟩
  rw [toDigits_zeros h, List.map_append]
  exact hscales

/-- A point among digits. -/
theorem scales_among {d k : ℕ} (hd : d ≤ 10 ^ 17) (hk : 0 < k)
    (hlen : k < (Nat.toDigits 10 d).length) :
    ∃ e < 0, Scales (((Nat.toDigits 10 d).take k ++ '.' :: (Nat.toDigits 10 d).drop k).map .char)
      d e := by
  have hpos : 0 < d := by
    rcases Nat.eq_zero_or_pos d with rfl | hpos
    · have hone : (Nat.toDigits 10 0).length = 1 := rfl
      omega
    · exact hpos
  obtain ⟨n, htake, hvalue⟩ := toDigits_take hpos hk
  have hdrop : (Nat.toDigits 10 d).drop k ≠ [] := by
    rw [Ne, List.drop_eq_nil_iff]
    omega
  have hscales := scales_point (n := n)
    (fun c hc => isDigit_of_mem_toDigits (List.mem_of_mem_drop hc)) hdrop
    (hvalue.symm ▸ hd.trans_lt (by decide))
  rw [hvalue] at hscales
  refine ⟨-((Nat.toDigits 10 d).drop k).length, ?_, ?_⟩
  · rw [List.length_drop]
    omega
  · rw [htake, List.map_append]
    exact hscales

/-- Zeros after the point, and then digits. -/
theorem scales_small {d : ℕ} (hd : d ≤ 10 ^ 17) (k : ℕ) :
    ∃ e < 0, Scales (('0' :: '.' :: (List.replicate k '0' ++ Nat.toDigits 10 d)).map .char) d e := by
  have hvalue : Nat.ofDigitChars 10 (List.replicate k '0' ++ Nat.toDigits 10 d) 0 = d := by
    rw [Nat.ofDigitChars_append, Nat.ofDigitChars_replicate_zero, Nat.mul_zero,
      Nat.ofDigitChars_ten_toDigits]
  have hall : ∀ c ∈ List.replicate k '0' ++ Nat.toDigits 10 d, c.isDigit = true := by
    intro c hc
    rcases List.mem_append.1 hc with hc | hc
    · rw [List.eq_of_mem_replicate hc]
      rfl
    · exact isDigit_of_mem_toDigits hc
  have hlength := Nat.length_toDigits_pos (b := 10) (n := d)
  have hne : List.replicate k '0' ++ Nat.toDigits 10 d ≠ [] := by
    simp [Nat.toDigits_ne_nil]
  have hscales := scales_point (n := 0) hall hne (hvalue.symm ▸ hd.trans_lt (by decide))
  rw [hvalue] at hscales
  refine ⟨_, ?_, hscales⟩
  rw [List.length_append]
  omega

/-- Digits, a point after the first of them unless it is the only one, and an exponent. -/
theorem scales_exponent {d : ℕ} (hd : d ≤ 10 ^ 17) {p : ℤ} {e : ℤ}
    (he : e = (Nat.toDigits 10 d).length + p - 1) (hmax : e.natAbs ≤ maxExponent) :
    Scales ((match Nat.toDigits 10 d with
      | [c] => [c]
      | c :: rest => c :: '.' :: rest
      | [] => []).map .char ++ mark (decide (e < 0)) e.natAbs) d p := by
  have hfit : d < UInt64.size := hd.trans_lt (by decide)
  have hsign : (if decide (e < 0) then -(e.natAbs : ℤ) else e.natAbs) = e := by
    by_cases hneg : e < 0
    · rw [decide_eq_true hneg, if_pos rfl]
      omega
    · rw [decide_eq_false hneg, if_neg (by decide)]
      omega
  obtain ⟨c, cs, hc, -⟩ := toDigits_cons d
  cases cs with
  | nil =>
    have hscales := scales_mark hfit (decide (e < 0)) hmax
    have hp : e = p := by
      rw [he, hc, List.length_singleton]
      omega
    rw [hsign, digits, hc] at hscales
    rw [hc, ← hp]
    exact hscales
  | cons c' cs =>
    have hpos : 0 < d := by
      rcases Nat.eq_zero_or_pos d with rfl | hpos
      · cases hc
      · exact hpos
    obtain ⟨n, htake, hvalue⟩ := toDigits_take hpos one_pos
    rw [hc] at htake hvalue
    change [c] = Nat.toDigits 10 n at htake
    have hdigits : ∀ a ∈ c' :: cs, a.isDigit = true := fun a ha =>
      isDigit_of_mem_toDigits (hc ▸ List.mem_cons_of_mem c ha)
    have hscales := scales_point_mark (n := n) hdigits (by simp)
      (hvalue.symm ▸ hfit) (decide (e < 0)) hmax
    have hp : (if decide (e < 0) then -((c' :: cs).length : ℤ) - e.natAbs
        else -((c' :: cs).length : ℤ) + e.natAbs) = p := by
      rw [hc, List.length_cons] at he
      by_cases hneg : e < 0
      · rw [decide_eq_true hneg, if_pos rfl]
        omega
      · rw [decide_eq_false hneg, if_neg (by decide)]
        omega
    rw [hp, show Nat.ofDigitChars 10 (c' :: cs) n = d from hvalue, digits, ← htake] at hscales
    rw [hc]
    simpa using hscales

/-- A decimal is read with a negative power of ten, or just as it is. -/
theorem scales_render {d : ℕ} {p : ℤ} (hzero : 0 < d ∨ p = 0) (hd : d ≤ 10 ^ 17)
    (hlow : -417 ≤ p) (hhigh : p ≤ 400) :
    ∃ s e, Scales ((Decimal.render d p).toList.map .char) s e ∧ (e < 0 ∨ s = d ∧ e = p) := by
  have hlen := (Nat.length_toDigits_le_iff (b := 10) (by decide) (by decide)).2
    (show d < 10 ^ 18 from hd.trans_lt (by decide))
  have hlenpos := Nat.length_toDigits_pos (b := 10) (n := d)
  simp only [Decimal.render, String.length_ofList, String.toList_ofList]
  split
  · rename_i h
    obtain ⟨s, hscales⟩ := scales_zeros (d := d) (k := p.toNat)
      (hzero.imp_right fun h0 => by rw [h0]; rfl) (by omega)
    exact ⟨s, -1, by simpa using hscales, .inl (by decide)⟩
  · split
    · rename_i h
      obtain ⟨e, he, hscales⟩ := scales_among (d := d)
        (k := ((Nat.toDigits 10 d).length + p).toNat) hd (by omega) (by omega)
      exact ⟨d, e, by simpa using hscales, .inl he⟩
    · split
      · rename_i h
        obtain ⟨e, he, hscales⟩ := scales_small hd (-((Nat.toDigits 10 d).length + p)).toNat
        exact ⟨d, e, by simpa using hscales, .inl he⟩
      · have hscales := scales_exponent hd (p := p) rfl (by unfold maxExponent; omega)
        rw [← mark_eq] at hscales
        refine ⟨d, p, ?_, .inr ⟨rfl, rfl⟩⟩
        split <;> simp_all

/-- A text that scales to a number, after a sign or none. -/
theorem Scales.leaf {gs : List Glyph} {s : ℕ} {e : ℤ} (h : Scales gs s e)
    (hsome : (scale (UInt64.ofNat s).toFloat e).isSome = true) (negative : Bool) :
    ∃ bits, FiniteBits bits ∧
      Leaf ((if negative then [.char '-'] else []) ++ gs) (.real bits) := by
  obtain ⟨f, hf⟩ := Option.isSome_iff_exists.1 hsome
  have hscaled (c : Cursor) : scaled negative s e c =
      .ok (.real (if negative then (-f).toBits else f.toBits), c) := by
    simp only [scaled, hf]
  obtain ⟨bits, hbits, hfinite⟩ := scaled_finite (hscaled ⟨[], 0⟩)
  obtain ⟨l, cs, hl, hdigit⟩ := h.head
  refine ⟨bits, hfinite, leaf_of_valueWith ?_ fun size nested rest hr o => ?_⟩
  · cases negative with
    | true => exact ⟨'-', gs, rfl, rfl, by decide⟩
    | false => exact ⟨l, cs, hl, isSpace_digit hdigit, isDigit_ne hdigit rfl⟩
  · rw [hbits] at hscaled
    cases negative with
    | true =>
      obtain ⟨o', ho⟩ := h.reads true rest hr (o + 1)
      change ∃ o', valueWith size nested ⟨.char '-' :: (gs ++ rest), o⟩ = _
      exact ⟨o', by
        rw [valueWith_of_minus (by rw [skipSpace_char rfl]), skipSpace_char rfl, ho, hscaled]⟩
    | false =>
      obtain ⟨o', ho⟩ := h.reads false rest hr o
      have hskip : (Cursor.mk (gs ++ rest) o).skipSpace = ⟨.char l :: (cs ++ rest), o⟩ := by
        rw [hl]
        exact skipSpace_char (isSpace_digit hdigit) _ _
      change ∃ o', valueWith size nested ⟨gs ++ rest, o⟩ = _
      exact ⟨o', by
        rw [valueWith_of_digit (by rw [hskip]) hdigit, hskip, ← List.cons_append, ← hl, ho, hscaled]⟩

theorem mantissa_ofBits_ne_zero {bits : UInt64} (h : bits.toNat % 0x8000000000000000 ≠ 0) :
    (Decimal.Binary.ofBits bits).mantissa ≠ 0 := by
  unfold Decimal.Binary.ofBits
  simp only
  split
  · simp only
    omega
  · simp

/-- The digits of a finite number are read as they are written, and are not too large. -/
theorem scales_shortest {bits : UInt64} (hbits : FiniteBits bits)
    (hne : bits.toNat % 0x8000000000000000 ≠ 0) :
    ∃ s e, Scales ((Decimal.render (Decimal.Binary.ofBits bits).shortest.1
      (Decimal.Binary.ofBits bits).shortest.2).toList.map .char) s e ∧
      (scale (UInt64.ofNat s).toFloat e).isSome = true := by
  have hm := mantissa_ofBits_ne_zero hne
  obtain ⟨hlt, hhigh, -⟩ := Decimal.Binary.ofBits_bounds hbits
  obtain ⟨hlow, hmax⟩ :=
    Decimal.Binary.shortest_power hm hlt (Decimal.Binary.le_exponent bits) hhigh
  have hzero : 0 < (Decimal.Binary.ofBits bits).shortest.1 ∨
      (Decimal.Binary.ofBits bits).shortest.2 = 0 :=
    (Decimal.Binary.shortest_pos hm).symm.imp_right fun h => by rw [h]
  obtain ⟨s, e, hscales, he⟩ := scales_render hzero (Decimal.Binary.shortest_digits _) hlow hmax
  refine ⟨s, e, hscales, ?_⟩
  rcases lt_or_ge e 0 with hneg | hpos
  · exact scale_isSome_of_neg _ hneg
  · obtain ⟨rfl, rfl⟩ := he.resolve_left (not_lt.2 hpos)
    obtain ⟨n, hn⟩ := Int.eq_ofNat_of_zero_le hpos
    rw [hn]
    exact scale_shortest hbits (Prod.ext rfl hn)

/-- A finite number that is written is read as a finite number. -/
theorem leaf_real {bits : UInt64} (hbits : FiniteBits bits) :
    ∃ bits', FiniteBits bits' ∧ Leaf ((Json.real bits).chars.map .char) (.real bits') := by
  have hbody : ∃ s e, Scales ((if bits.toNat % 0x8000000000000000 = 0 then "0.0"
      else Decimal.render (Decimal.Binary.ofBits bits).shortest.1
        (Decimal.Binary.ofBits bits).shortest.2).toList.map .char) s e ∧
      (scale (UInt64.ofNat s).toFloat e).isSome = true := by
    split
    · obtain ⟨s, h⟩ := scales_zeros (d := 0) (k := 0) (.inr rfl) (by decide)
      exact ⟨s, -1, h, scale_isSome_of_neg _ (by decide)⟩
    · rename_i hne
      exact scales_shortest hbits hne
  obtain ⟨s, e, hscales, hsome⟩ := hbody
  obtain ⟨bits', hfinite, hleaf⟩ :=
    hscales.leaf hsome (decide (bits.toNat / 0x8000000000000000 = 1))
  refine ⟨bits', hfinite, ?_⟩
  convert hleaf using 1
  simp only [chars, Decimal.ofBits]
  split <;> split <;> simp_all

end Tunnel.Json
