import Mathlib.Data.List.Induction
import Mathlib.Data.Nat.Find
import Tunnel.Proofs.Utf8

/-!
# Bytes that are no text

Where no character is written, the longest run of bytes that begins one is replaced by U+FFFD, and if
no byte begins one, a single byte is. This is what lossy decoding does, and there is no other way to
split bytes up like this.
-/
namespace Tunnel.Utf8

open String (utf8EncodeChar)

def Begins (bytes : List UInt8) : Prop :=
  ∃ c, bytes <+: utf8EncodeChar c

/-- A run of bytes in front of others that is no character: all the bytes that could have begun one, or
else one byte. -/
structure Broken (run rest : List UInt8) : Prop where
  nonempty : run ≠ []
  unfinished : ∀ c, run ≠ utf8EncodeChar c
  begun : Begins run ∨ run.length = 1
  longest : ∀ b ∈ rest.head?, ¬ Begins (run ++ [b])

inductive Shows : List UInt8 → List Char → Prop where
  | nil : Shows [] []
  | char {bytes : List UInt8} {text : List Char} (c : Char) (h : Shows bytes text) :
    Shows (utf8EncodeChar c ++ bytes) (c :: text)
  | broken {run rest : List UInt8} {text : List Char} (hrun : Broken run rest)
    (h : Shows rest text) : Shows (run ++ rest) ('\uFFFD' :: text)

variable {b : UInt8} {run rest : List UInt8} {c : Char}

theorem Begins.mono (h : Begins rest) (hrun : run <+: rest) : Begins run := by
  obtain ⟨c, hc⟩ := h
  exact ⟨c, hrun.trans hc⟩

theorem done_start (done : List Glyph) (b : UInt8) : done <:+ (Decoder.start done b).done := by
  unfold Decoder.start
  split
  · exact List.suffix_cons _ _
  · exact List.suffix_refl _

theorem done_step (d : Decoder) (b : UInt8) : d.done <:+ (d.step b).done := by
  unfold Decoder.step
  split
  · exact done_start _ _
  · split
    · simp only
      split
      · exact List.suffix_cons _ _
      · exact List.suffix_refl _
    · exact (List.suffix_cons _ _).trans (done_start _ _)

/-- Units that have been read stay. -/
theorem done_foldl (d : Decoder) (bytes : List UInt8) :
    d.done <:+ (bytes.foldl Decoder.step d).done := by
  induction bytes generalizing d with
  | nil => exact List.suffix_refl _
  | cons b bytes ih => exact (done_step d b).trans (ih _)

/-- Inside a character nothing but that character has been read. -/
theorem eq_of_foldl_prefix {g : Glyph} (done : List Glyph) (hrun : run <+: utf8EncodeChar c)
    (hg : g :: done <:+ (run.foldl Decoder.step ⟨done, none⟩).done) : g = .char c := by
  obtain ⟨more, hmore⟩ := hrun
  have hchar := foldl_utf8EncodeChar c done
  rw [← hmore, List.foldl_append] at hchar
  have hsuffix := hg.trans (done_foldl _ more)
  rw [hchar] at hsuffix
  exact (List.cons.inj (hsuffix.eq_of_length rfl)).1

/-- No character begins with another. -/
theorem eq_of_prefix {c' : Char} (h : utf8EncodeChar c' <+: utf8EncodeChar c) : c' = c := by
  have hg : Glyph.char c' = .char c :=
    eq_of_foldl_prefix [] h (foldl_utf8EncodeChar c' [] ▸ List.suffix_refl _)
  exact Glyph.char.inj hg

/-! ## The bytes of a character

How a character of one, two, three or four bytes is written, by the bounds of its bytes.
-/

theorem toNat_val_ofNat {v : Nat} (hv : v < 0xD800 ∨ 0xDFFF < v ∧ v < 0x110000) :
    (Char.ofNat v).val.toNat = v := by
  rw [Char.ofNat, dif_pos hv]
  rfl

theorem utf8EncodeChar_one {n : Nat} (hn : n < 0x80) :
    utf8EncodeChar (Char.ofNat n) = [UInt8.ofNat n] := by
  simp only [utf8EncodeChar, toNat_val_ofNat (v := n) (by omega)]
  rw [if_pos (by omega)]

theorem utf8EncodeChar_two {a b : Nat} (ha : 0xC2 ≤ a ∧ a < 0xE0) (hb : 0x80 ≤ b ∧ b < 0xC0) :
    utf8EncodeChar (Char.ofNat (a % 32 * 64 + b % 64)) = [UInt8.ofNat a, UInt8.ofNat b] := by
  simp only [utf8EncodeChar, toNat_val_ofNat (v := a % 32 * 64 + b % 64) (by omega)]
  rw [if_neg (by omega), if_pos (by omega)]
  rw [show (a % 32 * 64 + b % 64) / 64 % 32 + 192 = a by omega,
    show (a % 32 * 64 + b % 64) % 64 + 128 = b by omega]

/-- The bounds of the second byte leave out what is written shorter, and halves of surrogate pairs. -/
theorem utf8EncodeChar_three {a b c : Nat} (ha : 0xE0 ≤ a ∧ a < 0xF0)
    (hb : (if a = 0xE0 then 0xA0 else 0x80) ≤ b ∧ b ≤ if a = 0xED then 0x9F else 0xBF)
    (hc : 0x80 ≤ c ∧ c < 0xC0) :
    utf8EncodeChar (Char.ofNat ((a % 16 * 64 + b % 64) * 64 + c % 64)) =
      [UInt8.ofNat a, UInt8.ofNat b, UInt8.ofNat c] := by
  have hvalid : (a % 16 * 64 + b % 64) * 64 + c % 64 < 0xD800 ∨
      0xDFFF < (a % 16 * 64 + b % 64) * 64 + c % 64 ∧
        (a % 16 * 64 + b % 64) * 64 + c % 64 < 0x110000 := by
    split at hb <;> split at hb <;> omega
  have hlow : 0x7FF < (a % 16 * 64 + b % 64) * 64 + c % 64 := by
    split at hb <;> split at hb <;> omega
  have hbyte : 0x80 ≤ b ∧ b < 0xC0 := by
    split at hb <;> split at hb <;> omega
  simp only [utf8EncodeChar, toNat_val_ofNat hvalid]
  rw [if_neg (by omega), if_neg (by omega), if_pos (by omega)]
  rw [show ((a % 16 * 64 + b % 64) * 64 + c % 64) / 4096 % 16 + 224 = a by omega,
    show ((a % 16 * 64 + b % 64) * 64 + c % 64) / 64 % 64 + 128 = b by omega,
    show ((a % 16 * 64 + b % 64) * 64 + c % 64) % 64 + 128 = c by omega]

theorem utf8EncodeChar_four {a b c d : Nat} (ha : 0xF0 ≤ a ∧ a ≤ 0xF4)
    (hb : (if a = 0xF0 then 0x90 else 0x80) ≤ b ∧ b ≤ if a = 0xF4 then 0x8F else 0xBF)
    (hc : 0x80 ≤ c ∧ c < 0xC0) (hd : 0x80 ≤ d ∧ d < 0xC0) :
    utf8EncodeChar (Char.ofNat (((a % 8 * 64 + b % 64) * 64 + c % 64) * 64 + d % 64)) =
      [UInt8.ofNat a, UInt8.ofNat b, UInt8.ofNat c, UInt8.ofNat d] := by
  have hvalid : 0xFFFF < ((a % 8 * 64 + b % 64) * 64 + c % 64) * 64 + d % 64 ∧
      ((a % 8 * 64 + b % 64) * 64 + c % 64) * 64 + d % 64 < 0x110000 := by
    split at hb <;> split at hb <;> omega
  have hbyte : 0x80 ≤ b ∧ b < 0xC0 := by
    split at hb <;> split at hb <;> omega
  simp only [utf8EncodeChar, toNat_val_ofNat (.inr ⟨by omega, hvalid.2⟩)]
  rw [if_neg (by omega), if_neg (by omega), if_neg (by omega)]
  rw [show (((a % 8 * 64 + b % 64) * 64 + c % 64) * 64 + d % 64) / 262144 % 8 + 240 = a by omega,
    show (((a % 8 * 64 + b % 64) * 64 + c % 64) * 64 + d % 64) / 4096 % 64 + 128 = b by omega,
    show (((a % 8 * 64 + b % 64) * 64 + c % 64) * 64 + d % 64) / 64 % 64 + 128 = c by omega,
    show (((a % 8 * 64 + b % 64) * 64 + c % 64) * 64 + d % 64) % 64 + 128 = d by omega]

/-! ## A character under way

The decoder remembers the bounds of the next byte. They say exactly which bytes can still go on, so it
breaks a run off no earlier than it must and no later.
-/

/-- Every byte within the bounds goes on with the character whose first bytes are `run`, or ends it. -/
def Opens : Nat → UInt8 → UInt8 → Nat → List UInt8 → Prop
  | 0, low, high, bits, run => ∀ b, low ≤ b → b ≤ high →
    run ++ [b] = utf8EncodeChar (Char.ofNat (bits * 64 + b.toNat % 64))
  | left + 1, low, high, bits, run => ∀ b, low ≤ b → b ≤ high →
    Opens left 0x80 0xBF (bits * 64 + b.toNat % 64) (run ++ [b])

structure Begun.Follows (p : Begun) (run : List UInt8) : Prop where
  bounds : p.low ≤ p.high
  opens : Opens p.left p.low p.high p.bits run

theorem begins_of_opens {left : Nat} {low high : UInt8} {bits : Nat} (hle : low ≤ high)
    (h : Opens left low high bits run) : Begins run := by
  induction left generalizing low high bits run with
  | zero => exact ⟨_, [low], h low (UInt8.le_refl low) hle⟩
  | succ left ih =>
    exact (ih (by decide) (h low (UInt8.le_refl low) hle)).mono (List.prefix_append _ _)

theorem opens_two (hb : 0xC2 ≤ b.toNat ∧ b.toNat < 0xE0) :
    Opens 0 0x80 0xBF (b.toNat % 32) [b] := by
  intro c hlow hhigh
  rw [UInt8.le_iff_toNat_le] at hlow hhigh
  rw [utf8EncodeChar_two hb ⟨hlow, Nat.lt_succ_of_le hhigh⟩, UInt8.ofNat_toNat, UInt8.ofNat_toNat]
  rfl

theorem opens_three (hb : 0xE0 ≤ b.toNat ∧ b.toNat < 0xF0) :
    Opens 1 (if b.toNat = 0xE0 then 0xA0 else 0x80) (if b.toNat = 0xED then 0x9F else 0xBF)
      (b.toNat % 16) [b] := by
  intro c hlow hhigh d hlow' hhigh'
  rw [UInt8.le_iff_toNat_le, apply_ite UInt8.toNat] at hlow hhigh
  rw [UInt8.le_iff_toNat_le] at hlow' hhigh'
  rw [utf8EncodeChar_three hb ⟨hlow, hhigh⟩ ⟨hlow', Nat.lt_succ_of_le hhigh'⟩, UInt8.ofNat_toNat,
    UInt8.ofNat_toNat, UInt8.ofNat_toNat]
  rfl

theorem opens_four (hb : 0xF0 ≤ b.toNat ∧ b.toNat ≤ 0xF4) :
    Opens 2 (if b.toNat = 0xF0 then 0x90 else 0x80) (if b.toNat = 0xF4 then 0x8F else 0xBF)
      (b.toNat % 8) [b] := by
  intro c hlow hhigh d hlow' hhigh' e hlow'' hhigh''
  rw [UInt8.le_iff_toNat_le, apply_ite UInt8.toNat] at hlow hhigh
  rw [UInt8.le_iff_toNat_le] at hlow' hhigh' hlow'' hhigh''
  rw [utf8EncodeChar_four hb ⟨hlow, hhigh⟩ ⟨hlow', Nat.lt_succ_of_le hhigh'⟩
    ⟨hlow'', Nat.lt_succ_of_le hhigh''⟩, UInt8.ofNat_toNat, UInt8.ofNat_toNat, UInt8.ofNat_toNat,
    UInt8.ofNat_toNat]
  rfl

theorem lead_stray {n : Nat} (hn : 0x80 ≤ n ∧ n < 0xC2 ∨ 0xF4 < n ∧ n < 0x100) :
    lead (UInt8.ofNat n) = .inl (.broken 1) := by
  have hb := toNat_ofNat (show n < 256 by omega)
  simp only [lead, ← UInt8.toNat_inj, UInt8.lt_iff_toNat_lt, hb, UInt8.reduceToNat]
  obtain hn | hn := hn
  · rw [if_neg (by omega), if_pos (by omega)]
  · rw [if_neg (by omega), if_neg (by omega), if_neg (by omega), if_neg (by omega),
      if_neg (by omega), if_neg (by omega), if_neg (by omega), if_neg (by omega), if_neg (by omega)]

/-- Bounds of which one at most is drawn in. -/
theorem ite_le_ite {p q : Prop} [Decidable p] [Decidable q] {low low' high high' : UInt8}
    (hpq : ¬ (p ∧ q)) (hlow : low' ≤ high) (hhigh : low ≤ high') (h : low ≤ high) :
    (if p then low' else low) ≤ if q then high' else high := by
  by_cases hp : p
  · rw [if_pos hp, if_neg fun hq => hpq ⟨hp, hq⟩]
    exact hlow
  · rw [if_neg hp]
    split
    · exact hhigh
    · exact h

/-- A byte where a character may start is a character, begins one, or does neither. -/
theorem lead_cases (b : UInt8) :
    (∃ c, lead b = .inl (.char c) ∧ [b] = utf8EncodeChar c) ∨ lead b = .inl (.broken 1) ∨
      ∃ p, lead b = .inr p ∧ p.Follows [b] := by
  have hb := b.toNat_lt
  have hofNat : UInt8.ofNat b.toNat = b := UInt8.ofNat_toNat
  rcases Nat.lt_or_ge b.toNat 0x80 with h₁ | h₁
  · have hlead := lead_one h₁
    have hchar := utf8EncodeChar_one h₁
    rw [hofNat] at hlead hchar
    exact .inl ⟨_, hlead, hchar.symm⟩
  rcases Nat.lt_or_ge b.toNat 0xC2 with h₂ | h₂
  · have hlead := lead_stray (.inl ⟨h₁, h₂⟩)
    rw [hofNat] at hlead
    exact .inr (.inl hlead)
  rcases Nat.lt_or_ge b.toNat 0xE0 with h₃ | h₃
  · have hlead := lead_two h₂ h₃
    rw [hofNat] at hlead
    have hbounds : (0x80 : UInt8) ≤ 0xBF := by decide
    exact .inr (.inr ⟨_, hlead, hbounds, opens_two ⟨h₂, h₃⟩⟩)
  rcases Nat.lt_or_ge b.toNat 0xF0 with h₄ | h₄
  · have hlead := lead_three h₃ h₄
    rw [hofNat] at hlead
    exact .inr (.inr ⟨_, hlead, ite_le_ite (by omega) (by decide) (by decide) (by decide),
      opens_three ⟨h₃, h₄⟩⟩)
  rcases Nat.lt_or_ge 0xF4 b.toNat with h₅ | h₅
  · have hlead := lead_stray (.inr ⟨h₅, hb⟩)
    rw [hofNat] at hlead
    exact .inr (.inl hlead)
  · have hlead := lead_four h₄ h₅
    rw [hofNat] at hlead
    exact .inr (.inr ⟨_, hlead, ite_le_ite (by omega) (by decide) (by decide) (by decide),
      opens_four ⟨h₄, h₅⟩⟩)

/-- A byte goes on with the character under way, ends it, or breaks it. -/
theorem Begun.Follows.step_cases {p : Begun} (hp : p.Follows run) (done : List Glyph) (b : UInt8) :
    (∃ c, run ++ [b] = utf8EncodeChar c) ∨
      (∃ p', Decoder.step ⟨done, some p⟩ b = ⟨done, some p'⟩ ∧ p'.Follows (run ++ [b])) ∨
      Decoder.step ⟨done, some p⟩ b = .start (.broken p.seen :: done) b := by
  obtain ⟨low, high, left, bits, seen⟩ := p
  by_cases hb : low ≤ b ∧ b ≤ high
  · have hopens := hp.opens
    cases left with
    | zero => exact .inl ⟨_, hopens b hb.1 hb.2⟩
    | succ left =>
      have hbounds : (0x80 : UInt8) ≤ 0xBF := by decide
      refine .inr (.inl ⟨⟨0x80, 0xBF, left, bits * 64 + b.toNat % 64, seen + 1⟩, ?_, hbounds,
        hopens b hb.1 hb.2⟩)
      simp only [Decoder.step, hb.1, hb.2, decide_true, Bool.and_self, if_true]
  · refine .inr (.inr ?_)
    simp only [Decoder.step]
    rw [if_neg (by simpa using hb)]

/-- The decoder is inside a character after the first bytes of one. -/
theorem exists_begun (hbegins : Begins run) (hne : run ≠ []) (hrun : ∀ c, run ≠ utf8EncodeChar c)
    (done : List Glyph) :
    ∃ p, run.foldl Decoder.step ⟨done, none⟩ = ⟨done, some p⟩ ∧ p.Follows run := by
  induction run using List.reverseRecOn with
  | nil => exact absurd rfl hne
  | append_singleton init b ih =>
    rw [List.foldl_append, List.foldl_cons, List.foldl_nil]
    obtain ⟨c, hc⟩ := hbegins
    -- nothing is broken on the way to the end of the character
    have hwhole : ∀ w, ¬ .broken w :: done <:+
        (Decoder.step (init.foldl Decoder.step ⟨done, none⟩) b).done := by
      intro w hw
      have hg : Glyph.broken w = .char c :=
        eq_of_foldl_prefix done hc (by rwa [List.foldl_append, List.foldl_cons, List.foldl_nil])
      cases hg
    by_cases hinit : init = []
    · subst hinit
      obtain ⟨c', -, hchar⟩ | hstray | ⟨p, hlead, hp⟩ := lead_cases b
      · exact absurd hchar (hrun c')
      · refine absurd ?_ (hwhole 1)
        simp only [List.foldl_nil, Decoder.step, Decoder.start, hstray]
        exact List.suffix_refl _
      · exact ⟨p, step_lead hlead done, hp⟩
    · have hprefix : init <+: utf8EncodeChar c := (List.prefix_append _ _).trans hc
      have hshort : ∀ c', init ≠ utf8EncodeChar c' := by
        rintro c' rfl
        obtain rfl := eq_of_prefix hprefix
        have hlen := hc.length_le
        rw [List.length_append, List.length_singleton] at hlen
        omega
      obtain ⟨p, hfold, hp⟩ := ih ⟨c, hprefix⟩ hinit hshort
      rw [hfold] at hwhole ⊢
      obtain ⟨c', hchar⟩ | ⟨p', hstep, hp'⟩ | hstep := hp.step_cases done b
      · exact absurd hchar (hrun c')
      · exact ⟨p', hstep, hp'⟩
      · refine absurd ?_ (hwhole p.seen)
        rw [hstep]
        exact done_start _ _

def Decoder.units (d : Decoder) : List Glyph :=
  match d.begun with
  | none => d.done.reverse
  | some p => (.broken p.seen :: d.done).reverse

/-- The character under way is broken by the next byte, or because there is none. -/
theorem units_of_broken {p : Begun} (hp : p.Follows run) (hrun : Broken run rest)
    (done : List Glyph) :
    (rest.foldl Decoder.step ⟨done, some p⟩).units =
      (rest.foldl Decoder.step ⟨.broken p.seen :: done, none⟩).units := by
  cases rest with
  | nil => rfl
  | cons b rest =>
    have hlongest := hrun.longest b rfl
    obtain ⟨c, hchar⟩ | ⟨p', -, hp'⟩ | hstep := hp.step_cases done b
    · exact absurd ⟨c, hchar ▸ List.prefix_refl _⟩ hlongest
    · exact absurd (begins_of_opens hp'.bounds hp'.opens) hlongest
    · rw [List.foldl_cons, hstep, List.foldl_cons]
      rfl

/-- A broken run is read as one broken unit. -/
theorem exists_units_of_broken (hrun : Broken run rest) (done : List Glyph) :
    ∃ w, ((run ++ rest).foldl Decoder.step ⟨done, none⟩).units =
      (rest.foldl Decoder.step ⟨.broken w :: done, none⟩).units := by
  by_cases hbegins : Begins run
  · obtain ⟨p, hfold, hp⟩ := exists_begun hbegins hrun.nonempty hrun.unfinished done
    exact ⟨p.seen, by rw [List.foldl_append, hfold, units_of_broken hp hrun]⟩
  · obtain ⟨b, rfl⟩ := List.length_eq_one_iff.1 (hrun.begun.resolve_left hbegins)
    obtain ⟨c, -, hchar⟩ | hstray | ⟨p, -, hp⟩ := lead_cases b
    · exact absurd hchar (hrun.unfinished c)
    · refine ⟨1, ?_⟩
      rw [List.singleton_append, List.foldl_cons, Decoder.step, Decoder.start, hstray]
    · exact absurd (begins_of_opens hp.bounds hp.opens) hbegins

theorem Shows.units {bytes : List UInt8} {text : List Char} (h : Shows bytes text)
    (done : List Glyph) :
    ((bytes.foldl Decoder.step ⟨done, none⟩).units).map Glyph.shown =
      done.reverse.map Glyph.shown ++ text := by
  induction h generalizing done with
  | nil => rw [List.foldl_nil, Decoder.units, List.append_nil]
  | char c h ih =>
    rw [List.foldl_append, foldl_utf8EncodeChar, ih, List.reverse_cons, List.map_append,
      List.append_assoc]
    rfl
  | broken hrun h ih =>
    obtain ⟨w, hunits⟩ := exists_units_of_broken hrun done
    rw [hunits, ih, List.reverse_cons, List.map_append, List.append_assoc]
    rfl

theorem Shows.decodeLossy {bytes : List UInt8} {text : List Char} (h : Shows bytes text) :
    decodeLossy bytes = String.ofList text := by
  rw [Utf8.decodeLossy]
  exact congrArg String.ofList (h.units [])

/-- Bytes in which no character starts start with a broken run. -/
theorem exists_broken {bytes : List UInt8} (hne : bytes ≠ [])
    (hchar : ∀ c, ¬ utf8EncodeChar c <+: bytes) :
    ∃ run rest, bytes = run ++ rest ∧ Broken run rest := by
  classical
  have hpos := List.length_pos_iff.2 hne
  -- as many bytes as begin a character, but at least one
  let begun := Nat.findGreatest (fun k => Begins (bytes.take k)) bytes.length
  have hbegun : Begins (bytes.take begun) :=
    Nat.findGreatest_spec (P := fun k => Begins (bytes.take k)) (Nat.zero_le _)
      ⟨'a', List.nil_prefix⟩
  refine ⟨bytes.take (max begun 1), bytes.drop (max begun 1), (List.take_append_drop _ _).symm,
    ?_, ?_, ?_, ?_⟩
  · rw [Ne, List.take_eq_nil_iff]
    rintro (hzero | hnil)
    · omega
    · exact hne hnil
  · intro c hc
    exact hchar c (hc ▸ List.take_prefix _ _)
  · rcases Nat.eq_zero_or_pos begun with hzero | hone
    · right
      rw [hzero, List.length_take]
      omega
    · left
      rwa [Nat.max_eq_left hone]
  · intro b hb hmore
    rw [List.head?_drop] at hb
    obtain ⟨hlt, hget⟩ := List.getElem?_eq_some_iff.1 hb
    rw [← hget, ← List.take_succ_eq_append_getElem hlt] at hmore
    have hle := Nat.le_findGreatest (P := fun k => Begins (bytes.take k)) hlt hmore
    omega

theorem exists_shows (bytes : List UInt8) : ∃ text, Shows bytes text := by
  induction hlen : bytes.length using Nat.strongRecOn generalizing bytes with
  | ind n ih =>
    by_cases hne : bytes = []
    · exact ⟨[], hne ▸ .nil⟩
    by_cases hchar : ∃ c, utf8EncodeChar c <+: bytes
    · obtain ⟨c, rest, rfl⟩ := hchar
      have hpos := String.length_utf8EncodeChar c ▸ c.utf8Size_pos
      rw [List.length_append] at hlen
      obtain ⟨text, htext⟩ := ih rest.length (by omega) rest rfl
      exact ⟨_, .char c htext⟩
    · obtain ⟨run, rest, rfl, hrun⟩ := exists_broken hne fun c hc => hchar ⟨c, hc⟩
      have hpos := List.length_pos_iff.2 hrun.nonempty
      rw [List.length_append] at hlen
      obtain ⟨text, htext⟩ := ih rest.length (by omega) rest rfl
      exact ⟨_, .broken hrun htext⟩

/-- Lossy decoding gives the characters that bytes are shown as. -/
theorem decodeLossy_eq_iff {bytes : List UInt8} {s : String} :
    decodeLossy bytes = s ↔ Shows bytes s.toList := by
  constructor
  · rintro rfl
    obtain ⟨text, htext⟩ := exists_shows bytes
    rw [htext.decodeLossy, String.toList_ofList]
    exact htext
  · intro h
    rw [h.decodeLossy, String.ofList_toList]

end Tunnel.Utf8
