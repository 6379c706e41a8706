import Tunnel.Text.Utf8

/-!
# Text as bytes and back

The bytes of a text are read as the characters of the text, and nothing of them is broken.
-/
namespace Tunnel.Utf8

theorem toNat_ofNat {n : Nat} (hn : n < 256) : (UInt8.ofNat n).toNat = n :=
  UInt8.toNat_ofNat_of_lt' hn

theorem lead_one {n : Nat} (hn : n < 0x80) :
    lead (UInt8.ofNat n) = .inl (.char (Char.ofNat n)) := by
  have hb := toNat_ofNat (show n < 256 by omega)
  have hlt : UInt8.ofNat n < 0x80 := by
    rw [UInt8.lt_iff_toNat_lt, hb]
    exact hn
  rw [lead, if_pos hlt, hb]

theorem lead_two {n : Nat} (hlow : 0xC2 ≤ n) (hhigh : n < 0xE0) :
    lead (UInt8.ofNat n) = .inr ⟨0x80, 0xBF, 0, n % 32, 1⟩ := by
  have hb := toNat_ofNat (show n < 256 by omega)
  simp only [lead, UInt8.lt_iff_toNat_lt, hb, UInt8.reduceToNat, if_neg (show ¬ n < 128 by omega),
    if_neg (show ¬ n < 194 by omega), if_pos hhigh]

/-- The range of the second byte of three depends on the first, so that nothing is written longer
than it must be and no half of a surrogate pair is written. -/
theorem lead_three {n : Nat} (hlow : 0xE0 ≤ n) (hhigh : n < 0xF0) :
    lead (UInt8.ofNat n) = .inr ⟨if n = 0xE0 then 0xA0 else 0x80, if n = 0xED then 0x9F else 0xBF, 1,
      n % 16, 1⟩ := by
  have hb := toNat_ofNat (show n < 256 by omega)
  simp only [lead, ← UInt8.toNat_inj, UInt8.lt_iff_toNat_lt, hb, UInt8.reduceToNat,
    if_neg (show ¬ n < 128 by omega), if_neg (show ¬ n < 194 by omega),
    if_neg (show ¬ n < 224 by omega), if_pos hhigh]
  split
  · subst n
    rfl
  · split
    · subst n
      rfl
    · rfl

theorem lead_four {n : Nat} (hlow : 0xF0 ≤ n) (hhigh : n ≤ 0xF4) :
    lead (UInt8.ofNat n) = .inr ⟨if n = 0xF0 then 0x90 else 0x80, if n = 0xF4 then 0x8F else 0xBF, 2,
      n % 8, 1⟩ := by
  have hb := toNat_ofNat (show n < 256 by omega)
  simp only [lead, ← UInt8.toNat_inj, UInt8.lt_iff_toNat_lt, hb, UInt8.reduceToNat,
    if_neg (show ¬ n < 128 by omega), if_neg (show ¬ n < 194 by omega),
    if_neg (show ¬ n < 224 by omega), if_neg (show ¬ n = 224 by omega),
    if_neg (show ¬ n = 237 by omega), if_neg (show ¬ n < 240 by omega)]
  split
  · subst n
    rfl
  · split
    · rw [if_neg (by omega)]
    · obtain rfl : n = 244 := by omega
      rfl

theorem step_lead {b : UInt8} {p : Begun} (h : lead b = .inr p) (done : List Glyph) :
    Decoder.step ⟨done, none⟩ b = ⟨done, some p⟩ := by
  simp only [Decoder.step, Decoder.start, h]

variable {done : List Glyph} {low high : UInt8} {bits seen n : Nat}

/-- A byte that goes on a character but does not end it. -/
theorem step_go_on {left : Nat} (hn : n < 64) (hlow : low.toNat ≤ n + 0x80)
    (hhigh : n + 0x80 ≤ high.toNat) :
    Decoder.step ⟨done, some ⟨low, high, left + 1, bits, seen⟩⟩ (UInt8.ofNat (n + 0x80)) =
      ⟨done, some ⟨0x80, 0xBF, left, bits * 64 + n, seen + 1⟩⟩ := by
  have hb := toNat_ofNat (show n + 0x80 < 256 by omega)
  have hmod : (n + 0x80) % 64 = n := by omega
  simp only [Decoder.step, UInt8.le_iff_toNat_le, hb, hmod, hlow, hhigh, decide_true, Bool.and_self,
    if_true]

/-- A byte that ends a character. -/
theorem step_end (hn : n < 64) (hlow : low.toNat ≤ n + 0x80) (hhigh : n + 0x80 ≤ high.toNat) :
    Decoder.step ⟨done, some ⟨low, high, 0, bits, seen⟩⟩ (UInt8.ofNat (n + 0x80)) =
      ⟨.char (Char.ofNat (bits * 64 + n)) :: done, none⟩ := by
  have hb := toNat_ofNat (show n + 0x80 < 256 by omega)
  have hmod : (n + 0x80) % 64 = n := by omega
  simp only [Decoder.step, UInt8.le_iff_toNat_le, hb, hmod, hlow, hhigh, decide_true, Bool.and_self,
    if_true]

/-- The bytes of a character are read as the character. -/
theorem foldl_utf8EncodeChar (c : Char) (done : List Glyph) :
    (String.utf8EncodeChar c).foldl Decoder.step ⟨done, none⟩ = ⟨.char c :: done, none⟩ := by
  have hvalid : c.toNat < 0xD800 ∨ 0xDFFF < c.toNat ∧ c.toNat < 0x110000 := c.valid
  have hc : Char.ofNat c.toNat = c := Char.ofNat_toNat c
  simp only [String.utf8EncodeChar, show c.val.toNat = c.toNat from rfl]
  generalize c.toNat = v at hvalid hc
  rw [← hc]
  split
  · simp only [List.foldl_cons, List.foldl_nil, Decoder.step, Decoder.start,
      lead_one (show v < 0x80 by omega)]
  split
  · have hv : (v / 64 % 32 + 0xC0) % 32 * 64 + v % 64 = v := by omega
    rw [List.foldl_cons, step_lead (lead_two (by omega) (by omega)), List.foldl_cons,
      step_end (by omega) (by simp) (by simp; omega), hv]
    rfl
  split
  · have hv : ((v / 4096 % 16 + 0xE0) % 16 * 64 + v / 64 % 64) * 64 + v % 64 = v := by omega
    rw [List.foldl_cons, step_lead (lead_three (by omega) (by omega)), List.foldl_cons,
      step_go_on (by omega) (by split <;> simp; omega) (by split <;> simp <;> omega),
      List.foldl_cons, step_end (by omega) (by simp) (by simp; omega), hv]
    rfl
  · have hv : (((v / 262144 % 8 + 0xF0) % 8 * 64 + v / 4096 % 64) * 64 + v / 64 % 64) * 64 +
        v % 64 = v := by omega
    rw [List.foldl_cons, step_lead (lead_four (by omega) (by omega)), List.foldl_cons,
      step_go_on (by omega) (by split <;> simp; omega) (by split <;> simp <;> omega),
      List.foldl_cons, step_go_on (by omega) (by simp) (by simp; omega),
      List.foldl_cons, step_end (by omega) (by simp) (by simp; omega), hv]
    rfl

@[simp] theorem glyphs_encode (s : String) : glyphs (encode s) = s.toList.map .char := by
  have hfold (cs : List Char) (done : List Glyph) :
      (cs.flatMap String.utf8EncodeChar).foldl Decoder.step ⟨done, none⟩ =
        ⟨(cs.map .char).reverse ++ done, none⟩ := by
    induction cs generalizing done with
    | nil => rfl
    | cons c cs ih =>
      rw [List.flatMap_cons, List.foldl_append, foldl_utf8EncodeChar, ih]
      simp
  simp only [glyphs, encode, hfold, List.append_nil, List.reverse_reverse]

/-- Different texts have different bytes. -/
theorem encode_injective {s t : String} (h : encode s = encode t) : s = t := by
  have hglyphs : s.toList.map Glyph.char = t.toList.map Glyph.char := by
    rw [← glyphs_encode, ← glyphs_encode, h]
  apply String.toList_injective
  exact List.map_inj_right (fun _ _ hab => Glyph.char.inj hab) |>.1 hglyphs

end Tunnel.Utf8
