import Tunnel.Json.Number

/-!
# Integers in a document

A natural number is read off a document exactly where its decimal digits stand, without sign, point,
exponent or zeros in front, if it is below `2 ^ 64`. Everything else that is a number is read as a
negative integer or as a floating point number.
-/
namespace Tunnel.Json

open Utf8 (Glyph)

def digits (n : Nat) : List Glyph := (Nat.toDigits 10 n).map .char

def NoDigit (rest : List Glyph) : Prop :=
  ∀ g ∈ rest.head?, digit? g = none

def NoFraction (rest : List Glyph) : Prop :=
  ∀ g ∈ rest.head?, g ≠ .char '.' ∧ g ≠ .char 'e' ∧ g ≠ .char 'E'

/-- The decimal digits of a natural number stand at a place in a document and are a whole number
there, which fits 64 bits. -/
structure Numeral (n : Nat) (c c' : Cursor) : Prop where
  fits : n < UInt64.size
  written : c.rest = digits n ++ c'.rest
  offset : c'.offset = c.offset + (Nat.toDigits 10 n).length
  whole : NoDigit c'.rest ∧ NoFraction c'.rest

theorem digit?_char {c : Char} (hc : c.isDigit = true) :
    digit? (.char c) = some (c.toNat - '0'.toNat) := if_pos (Char.isDigit_iff_toNat.1 hc)

theorem digit?_eq_some {g : Glyph} {d : Nat} (h : digit? g = some d) :
    ∃ c : Char, g = .char c ∧ c.isDigit = true ∧ d = c.toNat - '0'.toNat := by
  unfold digit? at h
  split at h
  · rename_i c
    split at h
    · rename_i hc
      exact ⟨c, rfl, Char.isDigit_iff_toNat.2 hc, (Option.some.inj h).symm⟩
    · cases h
  · cases h

theorem toDigits_digit {c : Char} (hc : c.isDigit = true) :
    c.toNat - '0'.toNat < 10 ∧ Nat.toDigits 10 (c.toNat - '0'.toNat) = [c] := by
  obtain ⟨hlo, hhi⟩ := Char.isDigit_iff_toNat.1 hc
  have hlt : c.toNat - '0'.toNat < 10 := Nat.lt_succ_of_le (Nat.sub_le_sub_right hhi _)
  refine ⟨hlt, ?_⟩
  rw [Nat.toDigits_of_lt_base hlt, List.singleton_inj, ← Char.toNat_inj,
    Nat.toNat_digitChar_of_lt_ten hlt]
  exact Nat.add_sub_of_le hlo

/-- The digits of a number above zero, with more digits after them, are those of the whole. -/
theorem toDigits_append {v : Nat} (hv : 0 < v) (ds : List Char)
    (hd : ∀ c ∈ ds, c.isDigit = true) :
    Nat.toDigits 10 v ++ ds = Nat.toDigits 10 (Nat.ofDigitChars 10 ds v) := by
  induction ds generalizing v with
  | nil => rw [List.append_nil, Nat.ofDigitChars_nil]
  | cons c ds ih =>
    obtain ⟨hlt, hc⟩ := toDigits_digit (hd c List.mem_cons_self)
    have hnext : Nat.toDigits 10 v ++ [c] = Nat.toDigits 10 (10 * v + (c.toNat - '0'.toNat)) := by
      rw [← hc]
      exact Nat.toDigits_append_toDigits (by decide) hv hlt
    rw [Nat.ofDigitChars_cons, ← ih (Nat.add_pos_left (Nat.mul_pos (by decide) hv) _)
      fun a ha => hd a (List.mem_cons_of_mem c ha), ← hnext, List.append_assoc]
    rfl

theorem toDigits_head {n : Nat} (hn : 0 < n) :
    ∃ c ds, Nat.toDigits 10 n = c :: ds ∧ c ≠ '0' := by
  induction n using Nat.strongRecOn with
  | ind n ih =>
    by_cases hlt : n < 10
    · refine ⟨n.digitChar, [], Nat.toDigits_of_lt_base hlt, fun heq => ?_⟩
      have hnat := congrArg Char.toNat heq
      rw [Nat.toNat_digitChar_of_lt_ten hlt] at hnat
      have hzero : '0'.toNat = 48 := rfl
      omega
    · obtain ⟨c, ds, hc, hz⟩ := ih (n / 10) (by omega) (by omega)
      refine ⟨c, ds ++ Nat.toDigits 10 (n % 10), ?_, hz⟩
      have happ := Nat.toDigits_append_toDigits (b := 10) (n := n / 10) (d := n % 10) (by decide)
        (by omega) (Nat.mod_lt _ (by decide))
      rw [Nat.div_add_mod] at happ
      rw [← happ, hc, List.cons_append]

theorem le_ofDigitChars (ds : List Char) (v : Nat) : v ≤ Nat.ofDigitChars 10 ds v := by
  rw [Nat.ofDigitChars_eq_ofDigitChars_zero]
  exact Nat.le_add_right_of_le (Nat.le_mul_of_pos_left v (Nat.pow_pos (by decide)))

theorem significandFrom_digits {ds : List Char} {rest : List Glyph}
    (hd : ∀ c ∈ ds, c.isDigit = true) (hrest : NoDigit rest)
    (v n o : Nat) (hv : Nat.ofDigitChars 10 ds v < UInt64.size) :
    significandFrom v n o (ds.map .char ++ rest) =
      (Nat.ofDigitChars 10 ds v, n + ds.length, ⟨rest, o + ds.length⟩) := by
  induction ds generalizing v n o with
  | nil =>
    cases rest with
    | nil => rfl
    | cons g rest => simp [significandFrom, hrest g rfl]
  | cons c ds ih =>
    have hc := digit?_char (hd c List.mem_cons_self)
    rw [Nat.ofDigitChars_cons] at hv
    -- what has been read so far is no more than the whole
    have hnext : v * 10 + (c.toNat - '0'.toNat) < UInt64.size := by
      rw [Nat.mul_comm]
      exact Nat.lt_of_le_of_lt (le_ofDigitChars ds _) hv
    rw [List.map_cons, List.cons_append, significandFrom, hc]
    simp only [if_pos hnext]
    rw [Nat.mul_comm v, ih (fun a ha => hd a (List.mem_cons_of_mem c ha)) _ _ _ hv,
      Nat.ofDigitChars_cons, List.length_cons, Nat.add_assoc n, Nat.add_assoc o, Nat.add_comm 1]

/-- What a significand is read from are digits. -/
theorem significandFrom_spec {v n o w m : Nat} {gs : List Glyph} {c : Cursor}
    (h : significandFrom v n o gs = (w, m, c)) :
    ∃ ds : List Char, (∀ d ∈ ds, d.isDigit = true) ∧ gs = ds.map .char ++ c.rest ∧
      w = Nat.ofDigitChars 10 ds v ∧ c.offset = o + ds.length ∧
      (v < UInt64.size → w < UInt64.size) := by
  induction gs generalizing v n o with
  | nil =>
    obtain ⟨rfl, rfl, rfl⟩ : v = w ∧ n = m ∧ Cursor.mk [] o = c := by simpa [significandFrom] using h
    exact ⟨[], by simp, rfl, rfl, rfl, id⟩
  | cons g gs ih =>
    have hstop : (v, n, Cursor.mk (g :: gs) o) = (w, m, c) → ∃ ds : List Char,
        (∀ d ∈ ds, d.isDigit = true) ∧ g :: gs = ds.map .char ++ c.rest ∧
        w = Nat.ofDigitChars 10 ds v ∧ c.offset = o + ds.length ∧
        (v < UInt64.size → w < UInt64.size) := by
      rintro ⟨⟩
      exact ⟨[], by simp, rfl, rfl, rfl, id⟩
    unfold significandFrom at h
    split at h
    · exact hstop h
    · rename_i d hd
      split at h
      · rename_i hlt
        obtain ⟨a, rfl, ha, rfl⟩ := digit?_eq_some hd
        obtain ⟨ds, hds, hgs, hw, ho, hfit⟩ := ih h
        refine ⟨a :: ds, ?_, ?_, ?_, ?_, fun _ => hfit hlt⟩
        · simpa [ha] using hds
        · rw [hgs, List.map_cons, List.cons_append]
        · rw [hw, Nat.ofDigitChars_cons, Nat.mul_comm v]
        · rw [ho, List.length_cons]
          omega
      · exact hstop h

theorem le_skipDigits (n o : Nat) (gs : List Glyph) : n ≤ (skipDigits n o gs).1 := by
  induction gs generalizing n o with
  | nil => exact Nat.le_refl n
  | cons g gs ih =>
    unfold skipDigits
    split
    · exact Nat.le_refl n
    · exact Nat.le_of_succ_le (ih (n + 1) (o + 1))

/-- No digit is left over exactly where none comes next. -/
theorem skipDigits_eq_zero {o : Nat} {gs : List Glyph} {c : Cursor} :
    skipDigits 0 o gs = (0, c) ↔ c = ⟨gs, o⟩ ∧ NoDigit gs := by
  cases gs with
  | nil => simp [skipDigits, NoDigit, eq_comm]
  | cons g gs =>
    unfold skipDigits
    split
    · rename_i hd
      simp [NoDigit, hd, eq_comm]
    · rename_i d hd
      refine ⟨fun h => ?_, fun h => ?_⟩
      · have hle := le_skipDigits (0 + 1) (o + 1) gs
        rw [h] at hle
        cases hle
      · have hnone := h.2 g rfl
        rw [hd] at hnone
        cases hnone

/-! ## Numbers that are no integers

A point or an exponent makes a floating point number of what was read, and so do digits beyond 64 bits.
No integer comes of them, whatever they are.
-/

theorem scaled_eq_ok {negative : Bool} {s : Nat} {e : Int} {c c' : Cursor} {v : Json}
    (h : scaled negative s e c = .ok (v, c')) : ∃ bits, v = .real bits := by
  unfold scaled at h
  split at h
  · cases h
  · cases h
    exact ⟨_, rfl⟩

/-- A value is a significand times a power of ten. -/
def IsScaled (v : Json) (c' : Cursor) : Prop :=
  ∃ negative s e c, scaled negative s e c = .ok (v, c')

theorem IsScaled.real {v : Json} {c' : Cursor} (h : IsScaled v c') : ∃ bits, v = .real bits := by
  obtain ⟨_, _, _, _, h⟩ := h
  exact scaled_eq_ok h

theorem exponent_eq_ok {negative : Bool} {s : Nat} {e : Int} {c c' : Cursor} {v : Json}
    (h : exponent negative s e c = .ok (v, c')) : IsScaled v c' := by
  unfold exponent at h
  simp only at h
  split at h
  · cases h
  · split at h
    · cases h
    · split at h
      · exact ⟨_, _, _, _, h⟩
      · split at h
        · cases h
        · exact ⟨_, _, _, _, h⟩

theorem fraction_eq_ok {negative : Bool} {s : Nat} {e : Int} {c c' : Cursor} {v : Json}
    (h : fraction negative s e c = .ok (v, c')) : IsScaled v c' := by
  unfold fraction at h
  simp only at h
  split at h
  · split at h <;> cases h
  · unfold optionalExponent at h
    split at h
    · exact exponent_eq_ok h
    · exact exponent_eq_ok h
    · exact ⟨_, _, _, _, h⟩

theorem afterInteger_eq_ok {negative : Bool} {s skipped : Nat} {c c' : Cursor} {v : Json}
    (h : afterInteger negative s skipped c = .ok (v, c')) : (∃ i, v = .integer i) ∨ IsScaled v c' := by
  unfold afterInteger at h
  split at h
  · exact .inr (fraction_eq_ok h)
  · exact .inr (exponent_eq_ok h)
  · exact .inr (exponent_eq_ok h)
  · split at h
    · exact .inr ⟨_, _, _, _, h⟩
    · split at h
      · cases h
        exact .inl ⟨_, rfl⟩
      · split at h
        · exact .inr ⟨_, _, _, _, h⟩
        · cases h
          exact .inl ⟨_, rfl⟩

/-- A number is an integer or a significand times a power of ten. -/
theorem number_eq_ok {negative : Bool} {c c' : Cursor} {v : Json}
    (h : number negative c = .ok (v, c')) : (∃ i, v = .integer i) ∨ IsScaled v c' := by
  unfold number at h
  split at h
  · cases h
  · split at h
    · cases h
    · simp only at h
      split at h
      · cases h
      · exact afterInteger_eq_ok h
    · exact afterInteger_eq_ok h

def IsNumber : Json → Prop
  | .integer _ => True
  | .real _ => True
  | _ => False

theorem number_isNumber {negative : Bool} {c c' : Cursor} {v : Json}
    (h : number negative c = .ok (v, c')) : v.IsNumber := by
  rcases number_eq_ok h with ⟨i, rfl⟩ | hscaled
  · trivial
  · obtain ⟨bits, rfl⟩ := hscaled.real
    trivial

def signed (negative : Bool) (s : Nat) : Option Int :=
  if ¬ negative then some s
  else if s = 0 ∨ 0x8000000000000000 < s then none
  else some (-s)

theorem afterInteger_eq_integer {negative : Bool} {s skipped : Nat} {c c' : Cursor} {i : Int} :
    afterInteger negative s skipped c = .ok (.integer i, c') ↔
      skipped = 0 ∧ signed negative s = some i ∧ c' = c ∧ NoFraction c.rest := by
  unfold afterInteger
  split
  case h_1 hc | h_2 hc | h_3 hc =>
    refine ⟨fun h => ?_, fun h => ?_⟩
    · obtain ⟨bits, hbits⟩ : ∃ bits, Json.integer i = .real bits := by
        first | exact (fraction_eq_ok h).real | exact (exponent_eq_ok h).real
      cases hbits
    · have hhead := h.2.2.2 _ (by rw [hc]; rfl)
      simp at hhead
  case h_4 hdot he hE =>
    have hhead : NoFraction c.rest := by
      intro g hg
      cases hc : c.rest with
      | nil => simp [hc] at hg
      | cons a rest =>
        obtain rfl : a = g := by simpa [hc] using hg
        refine ⟨?_, ?_, ?_⟩ <;> rintro rfl
        · exact hdot rest hc
        · exact he rest hc
        · exact hE rest hc
    have hscaled : ∀ {b s' : _} {e : Int}, scaled b s' e c ≠ .ok (.integer i, c') := by
      intro b s' e h
      obtain ⟨bits, hbits⟩ := scaled_eq_ok h
      cases hbits
    unfold signed
    split
    · rename_i hskip
      exact ⟨fun h => absurd h hscaled, fun h => absurd h.1 hskip⟩
    · rename_i hskip
      have hzero : skipped = 0 := Classical.not_not.1 hskip
      split
      · simp [hhead, hzero, eq_comm]
      · split
        · exact ⟨fun h => absurd h hscaled, fun h => nomatch h.2.1⟩
        · simp [hhead, hzero, eq_comm]

theorem digit?_eq_zero {c : Char} : digit? (.char c) = some 0 ↔ c = '0' := by
  constructor
  · intro h
    obtain ⟨a, ha, hdig, hz⟩ := digit?_eq_some h
    obtain rfl : c = a := Glyph.char.inj ha
    have hlo := (Char.isDigit_iff_toNat.1 hdig).1
    exact Char.toNat_inj.1 (Nat.le_antisymm (Nat.le_of_sub_eq_zero hz.symm) hlo)
  · rintro rfl
    rfl

/-- A leading zero is a number of its own. -/
theorem number_zero {negative : Bool} {rest : List Glyph} {o : Nat} :
    number negative ⟨.char '0' :: rest, o⟩ =
      match rest.head?.bind digit? with
      | some _ => .error ((Cursor.mk rest (o + 1)).faultNext .badNumber)
      | none => afterInteger negative 0 0 ⟨rest, o + 1⟩ := rfl

theorem number_digit {negative : Bool} {a : Char} (ha : a.isDigit = true) (hz : a ≠ '0')
    {rest : List Glyph} {o : Nat} :
    number negative ⟨.char a :: rest, o⟩ =
      let (value, _, c) := significandFrom (a.toNat - '0'.toNat) 1 (o + 1) rest
      let (skipped, c) := skipDigits 0 c.offset c.rest
      afterInteger negative value skipped c := by
  have hd := digit?_char ha
  obtain ⟨d, hv⟩ : ∃ d, a.toNat - '0'.toNat = d + 1 :=
    Nat.exists_eq_succ_of_ne_zero fun h0 => hz (digit?_eq_zero.1 (h0 ▸ hd))
  rw [hv] at hd ⊢
  simp [number, hd]

theorem number_head {negative : Bool} {gs : List Glyph} {o : Nat} {x : Json × Cursor}
    (h : number negative ⟨gs, o⟩ = .ok x) :
    ∃ (a : Char) (rest : List Glyph), gs = .char a :: rest ∧ a.isDigit = true := by
  unfold number at h
  split at h
  · cases h
  · rename_i g rest hgs
    cases hd : digit? g with
    | none => simp [hd] at h
    | some d =>
      obtain ⟨a, rfl, ha, -⟩ := digit?_eq_some hd
      exact ⟨a, rest, hgs, ha⟩

theorem Numeral.of_digits {a : Char} {ds : List Char} {rest : List Glyph} {o : Nat}
    (ha : a.isDigit = true) (hz : a ≠ '0') (hd : ∀ d ∈ ds, d.isDigit = true)
    (hfit : Nat.ofDigitChars 10 ds (a.toNat - '0'.toNat) < UInt64.size)
    (hw : NoDigit rest ∧ NoFraction rest) :
    Numeral (Nat.ofDigitChars 10 ds (a.toNat - '0'.toNat)) ⟨.char a :: (ds.map .char ++ rest), o⟩
      ⟨rest, o + 1 + ds.length⟩ := by
  have hpos : 0 < a.toNat - '0'.toNat := Nat.pos_of_ne_zero fun h0 =>
    hz (digit?_eq_zero.1 (h0 ▸ digit?_char ha))
  have hall := toDigits_append hpos ds hd
  rw [(toDigits_digit ha).2] at hall
  refine ⟨hfit, ?_, ?_, hw⟩
  · rw [digits, ← hall]
    rfl
  · rw [← hall, Nat.add_assoc]
    simp [Nat.add_comm]

/-- The digits of a natural number are read in full. -/
theorem number_digits {negative : Bool} {n : Nat} (hn : n < UInt64.size) {rest : List Glyph}
    (hrest : NoDigit rest) (o : Nat) :
    number negative ⟨digits n ++ rest, o⟩ =
      afterInteger negative n 0 ⟨rest, o + (Nat.toDigits 10 n).length⟩ := by
  rcases Nat.eq_zero_or_pos n with rfl | hpos
  · have hnext : rest.head?.bind digit? = none := by
      cases hg : rest.head? with
      | none => rfl
      | some g => exact hrest g hg
    rw [show digits 0 ++ rest = .char '0' :: rest from rfl, number_zero, hnext]
    rfl
  · obtain ⟨a, ds, ha, hz⟩ := toDigits_head hpos
    have hall : ∀ d ∈ a :: ds, d.isDigit = true := fun d hd =>
      Nat.isDigit_of_mem_toDigits (by decide) (by decide) (ha ▸ hd)
    have hvalue := Nat.ofDigitChars_ten_toDigits (n := n)
    rw [ha, Nat.ofDigitChars_cons, Nat.mul_zero, Nat.zero_add] at hvalue
    rw [digits, ha, List.map_cons, List.cons_append, number_digit (hall a List.mem_cons_self) hz,
      significandFrom_digits (fun d hd => hall d (List.mem_cons_of_mem a hd)) hrest _ _ _
        (hvalue.symm ▸ hn), hvalue, List.length_cons, Nat.add_comm ds.length, ← Nat.add_assoc]
    simp only [skipDigits_eq_zero.2 ⟨rfl, hrest⟩]

/-- A number is read as an integer exactly where the digits of a natural number stand that has it
as its value with the sign. -/
theorem number_eq_integer {negative : Bool} {c c' : Cursor} {i : Int} :
    number negative c = .ok (.integer i, c') ↔
      ∃ n, signed negative n = some i ∧ Numeral n c c' := by
  constructor
  · obtain ⟨gs, o⟩ := c
    intro h
    obtain ⟨a, gs, rfl, ha⟩ := number_head h
    by_cases hz : a = '0'
    · subst hz
      rw [number_zero] at h
      split at h
      · cases h
      · rename_i hnext
        obtain ⟨-, hi, rfl, hfrac⟩ := afterInteger_eq_integer.1 h
        have hdig : NoDigit gs := fun g hg => by
          rw [hg] at hnext
          exact hnext
        exact ⟨0, hi, by decide, rfl, rfl, hdig, hfrac⟩
    · rw [number_digit ha hz] at h
      obtain ⟨w, m, c₁, hsig⟩ : ∃ w m c₁,
        significandFrom (a.toNat - '0'.toNat) 1 (o + 1) gs = (w, m, c₁) := ⟨_, _, _, rfl⟩
      obtain ⟨k, c₂, hskip⟩ : ∃ k c₂, skipDigits 0 c₁.offset c₁.rest = (k, c₂) := ⟨_, _, rfl⟩
      simp only [hsig, hskip] at h
      -- no digit is left over, so that those read are all there are
      obtain ⟨rfl, hi, rfl, hfrac⟩ := afterInteger_eq_integer.1 h
      obtain ⟨rfl, hdig⟩ := skipDigits_eq_zero.1 hskip
      obtain ⟨ds, hds, rfl, rfl, ho, hfit⟩ := significandFrom_spec hsig
      have hsmall : a.toNat - '0'.toNat < UInt64.size :=
        Nat.lt_trans (toDigits_digit ha).1 (by decide)
      have hnum := Numeral.of_digits (o := o) ha hz hds (hfit hsmall) ⟨hdig, hfrac⟩
      rw [← ho] at hnum
      exact ⟨_, hi, hnum⟩
  · obtain ⟨gs, o⟩ := c
    obtain ⟨rest, o'⟩ := c'
    rintro ⟨n, hi, hn⟩
    have hgs : gs = digits n ++ rest := hn.written
    have ho : o' = o + (Nat.toDigits 10 n).length := hn.offset
    obtain ⟨hdig, hfrac⟩ := hn.whole
    rw [hgs, ho, number_digits hn.fits hdig]
    exact afterInteger_eq_integer.2 ⟨rfl, hi, rfl, hfrac⟩

end Tunnel.Json
