import Mathlib.Tactic.SplitIfs
import Tunnel.Base64
import Tunnel.Proofs.Json.Value
import Tunnel.Proofs.Utf8

/-!
# What is written in Base64 is read back

Reading what was written of a byte sequence gives the byte sequence, and nothing else is read: a text
from which bytes are read is the written form of these bytes.
-/
namespace Tunnel.Base64

open Json (bind_eq_ok)

def code (n : Nat) : UInt8 := UInt8.ofNat (symbol n).toNat

theorem utf8EncodeChar_symbol : ∀ n < 64, String.utf8EncodeChar (symbol n) = [code n] := by
  decide +kernel

theorem value?_code : ∀ n < 64, value? (code n) = some n := by
  decide +kernel

theorem code_ne_padding : ∀ n < 64, code n ≠ 61 := by
  decide +kernel

def written (bytes : List UInt8) : List UInt8 :=
  (encodeChars bytes).flatMap String.utf8EncodeChar

theorem values_lt (a b c : UInt8) :
    a.toNat / 4 < 64 ∧ a.toNat % 4 * 16 + b.toNat / 16 < 64 ∧
      b.toNat % 16 * 4 + c.toNat / 64 < 64 ∧ c.toNat % 64 < 64 := by
  have ha := a.toNat_lt
  have hb := b.toNat_lt
  have hc := c.toNat_lt
  omega

theorem utf8EncodeChar_padding : String.utf8EncodeChar '=' = [61] := by
  decide

theorem written_one (a : UInt8) :
    written [a] = [code (a.toNat / 4), code (a.toNat % 4 * 16), 61, 61] := by
  have ha := a.toNat_lt
  simp only [written, encodeChars, List.flatMap_cons, List.flatMap_nil, utf8EncodeChar_padding,
    utf8EncodeChar_symbol (a.toNat / 4) (by omega),
    utf8EncodeChar_symbol (a.toNat % 4 * 16) (by omega)]
  rfl

theorem written_two (a b : UInt8) : written [a, b] =
    [code (a.toNat / 4), code (a.toNat % 4 * 16 + b.toNat / 16), code (b.toNat % 16 * 4), 61] := by
  obtain ⟨ha, hb, -, -⟩ := values_lt a b 0
  simp only [written, encodeChars, List.flatMap_cons, List.flatMap_nil, utf8EncodeChar_padding,
    utf8EncodeChar_symbol _ ha, utf8EncodeChar_symbol _ hb,
    utf8EncodeChar_symbol (b.toNat % 16 * 4) (by omega)]
  rfl

theorem written_group (a b c : UInt8) (rest : List UInt8) : written (a :: b :: c :: rest) =
    code (a.toNat / 4) :: code (a.toNat % 4 * 16 + b.toNat / 16) ::
      code (b.toNat % 16 * 4 + c.toNat / 64) :: code (c.toNat % 64) :: written rest := by
  obtain ⟨h₁, h₂, h₃, h₄⟩ := values_lt a b c
  simp only [written, encodeChars, List.flatMap_cons, utf8EncodeChar_symbol _ h₁,
    utf8EncodeChar_symbol _ h₂, utf8EncodeChar_symbol _ h₃, utf8EncodeChar_symbol _ h₄]
  rfl

theorem written_eq_nil {bytes : List UInt8} : written bytes = [] ↔ bytes = [] := by
  match bytes with
  | [] => simp [written, encodeChars]
  | [a] => simp [written_one]
  | [a, b] => simp [written_two]
  | a :: b :: c :: rest => simp [written_group]

theorem length_written (bytes : List UInt8) : (written bytes).length % 4 = 0 := by
  induction bytes using encodeChars.induct with
  | case1 => rfl
  | case2 a => simp [written_one]
  | case3 a b => simp [written_two]
  | case4 a b c rest ih =>
    rw [written_group]
    simp only [List.length_cons]
    omega

theorem digit_code (offset : Nat) {n : Nat} (hn : n < 64) : digit offset (code n) = .ok n := by
  rw [digit, value?_code n hn]

/-- A symbol is read after others and before any padding. -/
theorem tail_code (start i : Nat) (values : List (Nat × UInt8)) {n : Nat} (hn : n < 64)
    (rest : List UInt8) : tail start i ⟨values, 0, 0⟩ (code n :: rest) =
      tail start (i + 1) ⟨(n, code n) :: values, 0, 0⟩ rest := by
  rw [tail, if_neg (code_ne_padding n hn), if_neg (by simp), value?_code n hn]

theorem first_byte (a b : UInt8) :
    UInt8.ofNat (a.toNat / 4 * 4 + (a.toNat % 4 * 16 + b.toNat / 16) / 16) = a := by
  have hb := b.toNat_lt
  have hsum : a.toNat / 4 * 4 + (a.toNat % 4 * 16 + b.toNat / 16) / 16 = a.toNat := by omega
  rw [hsum, UInt8.ofNat_toNat]

theorem second_byte (a b c : UInt8) :
    UInt8.ofNat ((a.toNat % 4 * 16 + b.toNat / 16) % 16 * 16 +
      (b.toNat % 16 * 4 + c.toNat / 64) / 4) = b := by
  have hb := b.toNat_lt
  have hc := c.toNat_lt
  have hsum : (a.toNat % 4 * 16 + b.toNat / 16) % 16 * 16 +
      (b.toNat % 16 * 4 + c.toNat / 64) / 4 = b.toNat := by omega
  rw [hsum, UInt8.ofNat_toNat]

theorem third_byte (b c : UInt8) :
    UInt8.ofNat ((b.toNat % 16 * 4 + c.toNat / 64) % 4 * 64 + c.toNat % 64) = c := by
  have hc := c.toNat_lt
  have hsum : (b.toNat % 16 * 4 + c.toNat / 64) % 4 * 64 + c.toNat % 64 = c.toNat := by omega
  rw [hsum, UInt8.ofNat_toNat]

/-- A group of four or fewer symbols is the last one. -/
theorem decodeGroups_last (start : Nat) {a b c d : UInt8} {t : Tail}
    (ht : tail start 0 ⟨[], 0, 0⟩ [a, b, c, d] = .ok t) :
    decodeGroups start [a, b, c, d] = lastBytes start t := by
  rw [decodeGroups]
  · rw [ht]
    rfl
  · intro a b c d e rest h
    simp at h

theorem decodeGroups_one (start : Nat) (a : UInt8) : decodeGroups start (written [a]) = .ok [a] := by
  have ha := a.toNat_lt
  have hfirst := first_byte a 0
  have hzero : (0 : UInt8).toNat / 16 = 0 := rfl
  rw [hzero, Nat.add_zero] at hfirst
  have ht : tail start 0 ⟨[], 0, 0⟩ (written [a]) = .ok ⟨[(a.toNat % 4 * 16,
      code (a.toNat % 4 * 16)), (a.toNat / 4, code (a.toNat / 4))], 2, 2⟩ := by
    rw [written_one, tail_code start 0 _ (by omega), tail_code start 1 _ (by omega)]
    rfl
  rw [written_one] at ht ⊢
  rw [decodeGroups_last start ht, lastBytes, if_neg (by simp), if_neg (by simp)]
  simp only
  rw [if_neg (by simp), hfirst]

theorem decodeGroups_two (start : Nat) (a b : UInt8) :
    decodeGroups start (written [a, b]) = .ok [a, b] := by
  obtain ⟨h₁, h₂, -, -⟩ := values_lt a b 0
  have hsecond := second_byte a b 0
  have hzero : (0 : UInt8).toNat / 64 = 0 := rfl
  rw [hzero, Nat.add_zero] at hsecond
  have ht : tail start 0 ⟨[], 0, 0⟩ (written [a, b]) = .ok ⟨[(b.toNat % 16 * 4,
      code (b.toNat % 16 * 4)), (a.toNat % 4 * 16 + b.toNat / 16,
      code (a.toNat % 4 * 16 + b.toNat / 16)), (a.toNat / 4, code (a.toNat / 4))], 1, 3⟩ := by
    rw [written_two, tail_code start 0 _ h₁, tail_code start 1 _ h₂,
      tail_code start 2 _ (by omega)]
    rfl
  rw [written_two] at ht ⊢
  rw [decodeGroups_last start ht, lastBytes, if_neg (by simp), if_neg (by simp)]
  simp only
  rw [if_neg (by simp), first_byte, hsecond]

theorem decodeGroups_three (start : Nat) (a b c : UInt8) :
    decodeGroups start (written [a, b, c]) = .ok [a, b, c] := by
  obtain ⟨h₁, h₂, h₃, h₄⟩ := values_lt a b c
  have hnil : written [] = [] := rfl
  have ht : tail start 0 ⟨[], 0, 0⟩ (written [a, b, c]) = .ok ⟨[(c.toNat % 64, code (c.toNat % 64)),
      (b.toNat % 16 * 4 + c.toNat / 64, code (b.toNat % 16 * 4 + c.toNat / 64)),
      (a.toNat % 4 * 16 + b.toNat / 16, code (a.toNat % 4 * 16 + b.toNat / 16)),
      (a.toNat / 4, code (a.toNat / 4))], 0, 0⟩ := by
    rw [written_group, hnil, tail_code start 0 _ h₁, tail_code start 1 _ h₂, tail_code start 2 _ h₃,
      tail_code start 3 _ h₄]
    rfl
  rw [written_group, hnil] at ht ⊢
  rw [decodeGroups_last start ht, lastBytes, if_neg (by simp), if_neg (by simp)]
  simp only
  rw [first_byte, second_byte, third_byte]

theorem decodeGroups_written (start : Nat) (bytes : List UInt8) :
    decodeGroups start (written bytes) = .ok bytes := by
  induction bytes using encodeChars.induct generalizing start with
  | case1 => rfl
  | case2 a => exact decodeGroups_one start a
  | case3 a b => exact decodeGroups_two start a b
  | case4 a b c rest ih =>
    cases hrest : written rest with
    | nil =>
      obtain rfl := written_eq_nil.1 hrest
      exact decodeGroups_three start a b c
    | cons e es =>
      obtain ⟨h₁, h₂, h₃, h₄⟩ := values_lt a b c
      have htail := ih (start + 4)
      rw [hrest] at htail
      rw [written_group, hrest, decodeGroups, digit_code _ h₁, digit_code _ h₂, digit_code _ h₃,
        digit_code _ h₄, htail]
      change Except.ok _ = _
      rw [first_byte, second_byte, third_byte]

theorem decodeBytes_written (bytes : List UInt8) : decodeBytes (written bytes) = .ok bytes := by
  unfold decodeBytes
  split
  · rw [if_neg, decodeGroups_written]
    rintro ⟨hlen, -⟩
    rw [length_written] at hlen
    cases hlen
  · rename_i hnone
    rw [List.getLast?_eq_none_iff, written_eq_nil] at hnone
    rw [hnone]

/-- Reading what was written gives the bytes back. -/
theorem decode_encode (bytes : List UInt8) : decode (encode bytes) = .ok bytes := by
  rw [decode, encode, String.toList_ofList]
  exact decodeBytes_written bytes

/-- A byte that has a value is the symbol of it. -/
theorem code_of_value? {b : UInt8} {v : Nat} (h : value? b = some v) : v < 64 ∧ code v = b := by
  have hall : ∀ n < 256, ∀ w ∈ value? (UInt8.ofNat n), w < 64 ∧ code w = UInt8.ofNat n := by
    decide +kernel
  have hb := hall b.toNat b.toNat_lt v
  rw [UInt8.ofNat_toNat] at hb
  exact hb h

theorem code_of_digit {offset : Nat} {b : UInt8} {v : Nat} (h : digit offset b = .ok v) :
    v < 64 ∧ code v = b := by
  unfold digit at h
  split at h
  · rename_i w hw
    obtain rfl := Except.ok.inj h
    exact code_of_value? hw
  · cases h

/-- After padding there is nothing but padding. -/
theorem tail_of_padding {start i n first : Nat} {values : List (Nat × UInt8)} {bs : List UInt8}
    {t : Tail} (h : tail start i ⟨values, n + 1, first⟩ bs = .ok t) :
    bs = List.replicate bs.length 61 ∧ t.values = values ∧ t.padding = n + 1 + bs.length := by
  induction bs generalizing i n first with
  | nil =>
    obtain rfl := Except.ok.inj h
    exact ⟨rfl, rfl, rfl⟩
  | cons b bs ih =>
    rw [tail] at h
    simp only [Nat.add_one_ne_zero, if_false, gt_iff_lt, Nat.zero_lt_succ, if_true] at h
    split_ifs at h with hb
    obtain ⟨hbs, hv, hn⟩ := ih h
    refine ⟨?_, hv, ?_⟩
    · rw [hb, List.length_cons, List.replicate_succ, ← hbs]
    · rw [hn, List.length_cons]
      omega

/-- The last group consists of symbols, two of them at least if there is any padding, and padding. -/
theorem tail_eq_ok {start i : Nat} {values : List (Nat × UInt8)} {bs : List UInt8} {t : Tail}
    (h : tail start i ⟨values, 0, 0⟩ bs = .ok t) :
    ∃ vs : List Nat, (∀ v ∈ vs, v < 64) ∧
      bs = vs.map code ++ List.replicate t.padding 61 ∧
      t.values = (vs.map fun v => (v, code v)).reverse ++ values := by
  induction bs generalizing i values with
  | nil =>
    obtain rfl := Except.ok.inj h
    exact ⟨[], nofun, rfl, rfl⟩
  | cons b bs ih =>
    rw [tail] at h
    split_ifs at h with hb hi hp
    · obtain ⟨hbs, hv, hn⟩ := tail_of_padding h
      refine ⟨[], nofun, ?_, hv⟩
      rw [hn, hb, Nat.zero_add, Nat.add_comm, List.replicate_succ, ← hbs]
      rfl
    · exact absurd rfl hp
    · split at h
      · cases h
      · rename_i v hvalue
        obtain ⟨hlt, rfl⟩ := code_of_value? hvalue
        obtain ⟨vs, hvs, hbs, hv⟩ := ih h
        refine ⟨v :: vs, ?_, ?_, ?_⟩
        · exact List.forall_mem_cons.2 ⟨hlt, hvs⟩
        · rw [hbs]
          rfl
        · rw [hv, List.map_cons, List.reverse_cons, List.append_assoc]
          rfl

theorem toNat_first {a b : Nat} (ha : a < 64) (hb : b < 64) :
    (UInt8.ofNat (a * 4 + b / 16)).toNat = a * 4 + b / 16 :=
  Utf8.toNat_ofNat (by omega)

theorem toNat_second {b c : Nat} (hc : c < 64) :
    (UInt8.ofNat (b % 16 * 16 + c / 4)).toNat = b % 16 * 16 + c / 4 :=
  Utf8.toNat_ofNat (by omega)

theorem toNat_third {c d : Nat} (hd : d < 64) :
    (UInt8.ofNat (c % 4 * 64 + d)).toNat = c % 4 * 64 + d :=
  Utf8.toNat_ofNat (by omega)

/-- The bytes of a group of four are written as that group. -/
theorem written_of_group {a b c d : Nat} (ha : a < 64) (hb : b < 64) (hc : c < 64) (hd : d < 64)
    (rest : List UInt8) :
    written (UInt8.ofNat (a * 4 + b / 16) :: UInt8.ofNat (b % 16 * 16 + c / 4) ::
        UInt8.ofNat (c % 4 * 64 + d) :: rest) =
      code a :: code b :: code c :: code d :: written rest := by
  rw [written_group, toNat_first ha hb, toNat_second hc, toNat_third hd]
  rw [show (a * 4 + b / 16) / 4 = a by omega,
    show (a * 4 + b / 16) % 4 * 16 + (b % 16 * 16 + c / 4) / 16 = b by omega,
    show (b % 16 * 16 + c / 4) % 16 * 4 + (c % 4 * 64 + d) / 64 = c by omega,
    show (c % 4 * 64 + d) % 64 = d by omega]

theorem written_of_three {a b c : Nat} (ha : a < 64) (hb : b < 64) (hc : c < 64) (hz : c % 4 = 0) :
    written [UInt8.ofNat (a * 4 + b / 16), UInt8.ofNat (b % 16 * 16 + c / 4)] =
      [code a, code b, code c, 61] := by
  rw [written_two, toNat_first ha hb, toNat_second hc]
  rw [show (a * 4 + b / 16) / 4 = a by omega,
    show (a * 4 + b / 16) % 4 * 16 + (b % 16 * 16 + c / 4) / 16 = b by omega,
    show (b % 16 * 16 + c / 4) % 16 * 4 = c by omega]

theorem written_of_two {a b : Nat} (ha : a < 64) (hb : b < 64) (hz : b % 16 = 0) :
    written [UInt8.ofNat (a * 4 + b / 16)] = [code a, code b, 61, 61] := by
  rw [written_one, toNat_first ha hb]
  rw [show (a * 4 + b / 16) / 4 = a by omega, show (a * 4 + b / 16) % 4 * 16 = b by omega]

/-- The last group is the written form of its bytes. -/
theorem written_of_lastBytes {start : Nat} {bs bytes : List UInt8} {t : Tail}
    (hlen : bs.length ≤ 4) (ht : tail start 0 ⟨[], 0, 0⟩ bs = .ok t)
    (h : lastBytes start t = .ok bytes) : written bytes = bs := by
  obtain ⟨vs, hvs, rfl, hv⟩ := tail_eq_ok ht
  rw [List.append_nil] at hv
  have hcount : t.values.length = vs.length := by rw [hv, List.length_reverse, List.length_map]
  rw [List.length_append, List.length_map, List.length_replicate] at hlen
  unfold lastBytes at h
  simp only [hcount] at h
  split_ifs at h with hfew hpad
  match vs, hvs with
  | [a, b], hvs =>
    simp only [List.forall_mem_cons] at hvs
    obtain ⟨ha, hb, -⟩ := hvs
    have hp : t.padding = 2 := by
      simp only [List.length_cons, List.length_nil] at hpad hlen
      omega
    simp only [hv, List.map_cons, List.map_nil, List.reverse_cons, List.reverse_nil, List.nil_append,
      List.cons_append] at h
    split_ifs at h with hz
    obtain rfl := Except.ok.inj h
    rw [written_of_two ha hb (Decidable.not_not.1 hz), hp]
    rfl
  | [a, b, c], hvs =>
    simp only [List.forall_mem_cons] at hvs
    obtain ⟨ha, hb, hc, -⟩ := hvs
    have hp : t.padding = 1 := by
      simp only [List.length_cons, List.length_nil] at hpad hlen
      omega
    simp only [hv, List.map_cons, List.map_nil, List.reverse_cons, List.reverse_nil, List.nil_append,
      List.cons_append] at h
    split_ifs at h with hz
    obtain rfl := Except.ok.inj h
    rw [written_of_three ha hb hc (Decidable.not_not.1 hz), hp]
    rfl
  | [a, b, c, d], hvs =>
    simp only [List.forall_mem_cons] at hvs
    obtain ⟨ha, hb, hc, hd, -⟩ := hvs
    have hp : t.padding = 0 := by
      simp only [List.length_cons, List.length_nil] at hpad hlen
      omega
    simp only [hv, List.map_cons, List.map_nil, List.reverse_cons, List.reverse_nil, List.nil_append,
      List.cons_append] at h
    obtain rfl := Except.ok.inj h
    rw [written_of_group ha hb hc hd, hp]
    rfl
  | [], _ => exact absurd Nat.zero_lt_two hfew
  | [a], _ => exact absurd Nat.one_lt_two hfew
  | a :: b :: c :: d :: e :: vs, _ =>
    simp only [List.length_cons] at hlen
    omega

theorem written_of_decodeGroups {start : Nat} {text bytes : List UInt8}
    (h : decodeGroups start text = .ok bytes) : written bytes = text := by
  induction start, text using decodeGroups.induct generalizing bytes with
  | case1 start a b c d e rest ih =>
    rw [decodeGroups] at h
    obtain ⟨va, ha, h⟩ := bind_eq_ok.1 h
    obtain ⟨vb, hb, h⟩ := bind_eq_ok.1 h
    obtain ⟨vc, hc, h⟩ := bind_eq_ok.1 h
    obtain ⟨vd, hd, h⟩ := bind_eq_ok.1 h
    obtain ⟨more, hmore, h⟩ := bind_eq_ok.1 h
    obtain rfl := Except.ok.inj h
    obtain ⟨hva, rfl⟩ := code_of_digit ha
    obtain ⟨hvb, rfl⟩ := code_of_digit hb
    obtain ⟨hvc, rfl⟩ := code_of_digit hc
    obtain ⟨hvd, rfl⟩ := code_of_digit hd
    rw [written_of_group hva hvb hvc hvd, ih hmore]
  | case2 start text hfew =>
    have hlen : text.length ≤ 4 := by
      match text, hfew with
      | a :: b :: c :: d :: e :: rest, hfew => exact absurd rfl (hfew a b c d e rest)
      | [], _ | [_], _ | [_, _], _ | [_, _, _], _ | [_, _, _, _], _ => simp
    rw [decodeGroups.eq_2 start text hfew] at h
    obtain ⟨t, ht, h⟩ := bind_eq_ok.1 h
    cases text with
    | nil =>
      obtain rfl := Except.ok.inj h
      rfl
    | cons b bs => exact written_of_lastBytes hlen ht h

theorem written_of_decodeBytes {text bytes : List UInt8} (h : decodeBytes text = .ok bytes) :
    written bytes = text := by
  unfold decodeBytes at h
  split at h
  · split_ifs at h
    exact written_of_decodeGroups h
  · rename_i hnone
    obtain rfl := Except.ok.inj h
    exact (List.getLast?_eq_none_iff.1 hnone).symm

/-- A text that is read is the written form of its bytes: no bytes have another. -/
theorem encode_of_decode {text : String} {bytes : List UInt8} (h : decode text = .ok bytes) :
    encode bytes = text := by
  apply Utf8.encode_injective
  rw [Utf8.encode, encode, String.toList_ofList]
  exact written_of_decodeBytes h

end Tunnel.Base64
