import Mathlib.Algebra.Group.Nat.Defs
import Tunnel.Proofs.Base64
import Tunnel.Proofs.Message.RoundTrip

/-!
# The canonical texts

A text of Base64 is read if and only if it is canonical: symbols and then as much padding as fills the
last group of four, two characters at most, where the bits of the last symbol that the padding stands
for are zero. So the data of a chunk that is read is the one text of its bytes.
-/
namespace Tunnel

namespace Base64

/-- What a canonical text says: the values of its symbols, and how much padding follows them. -/
structure Canonical (values : List Nat) (padding : Nat) : Prop where
  below : ∀ v ∈ values, v < 64
  few : padding ≤ 2
  full : (values.length + padding) % 4 = 0
  unused : ∀ v ∈ values.getLast?, v % 4 ^ padding = 0

def spelled (values : List Nat) (padding : Nat) : List Char :=
  values.map symbol ++ List.replicate padding '='

theorem mem_alphabet_symbol : ∀ n < 64, symbol n ∈ alphabet := by
  decide +kernel

namespace Canonical

variable {values : List Nat} {padding : Nat}

theorem nil : Canonical [] 0 := ⟨nofun, by decide, rfl, nofun⟩

/-- A group of four symbols is canonical before every canonical text, and padding comes only after the
last group. -/
theorem group_iff {a b c d : Nat} : Canonical (a :: b :: c :: d :: values) padding ↔
    (a < 64 ∧ b < 64 ∧ c < 64 ∧ d < 64) ∧ Canonical values padding := by
  -- Without more symbols there is no padding, so that the fourth has no unused bits.
  have hlast (hfew : padding ≤ 2) (hfull : (values.length + padding) % 4 = 0) :
      (∀ v ∈ (a :: b :: c :: d :: values).getLast?, v % 4 ^ padding = 0) ↔
        ∀ v ∈ values.getLast?, v % 4 ^ padding = 0 := by
    cases values with
    | nil =>
      obtain rfl : padding = 0 := by
        rw [List.length_nil] at hfull
        omega
      simp [Nat.mod_one]
    | cons v vs => simp
  constructor
  · rintro ⟨hbelow, hfew, hfull, hunused⟩
    simp only [List.forall_mem_cons, List.length_cons] at hbelow hfull
    obtain ⟨ha, hb, hc, hd, hvalues⟩ := hbelow
    have hfull : (values.length + padding) % 4 = 0 := by omega
    exact ⟨⟨ha, hb, hc, hd⟩, hvalues, hfew, hfull, (hlast hfew hfull).1 hunused⟩
  · rintro ⟨⟨ha, hb, hc, hd⟩, hvalues, hfew, hfull, hunused⟩
    refine ⟨?_, hfew, ?_, (hlast hfew hfull).2 hunused⟩
    · simp only [List.forall_mem_cons]
      exact ⟨ha, hb, hc, hd, hvalues⟩
    · simp only [List.length_cons]
      omega

/-- Every character is a symbol or padding. -/
theorem mem_spelled (h : Canonical values padding) {c : Char} (hc : c ∈ spelled values padding) :
    c ∈ alphabet ∨ c = '=' := by
  rcases List.mem_append.1 hc with hc | hc
  · obtain ⟨v, hv, rfl⟩ := List.mem_map.1 hc
    exact .inl (mem_alphabet_symbol v (h.below v hv))
  · exact .inr (List.eq_of_mem_replicate hc)

theorem length_spelled (h : Canonical values padding) : (spelled values padding).length % 4 = 0 := by
  rw [spelled, List.length_append, List.length_map, List.length_replicate]
  exact h.full

theorem bytes_spelled (h : Canonical values padding) :
    (spelled values padding).flatMap String.utf8EncodeChar =
      values.map code ++ List.replicate padding 61 := by
  have hvalues : values.flatMap (fun v => String.utf8EncodeChar (symbol v)) = values.map code := by
    rw [List.map_eq_flatMap]
    exact List.flatMap_congr fun v hv => utf8EncodeChar_symbol v (h.below v hv)
  have hpadding : (List.replicate padding '=').flatMap String.utf8EncodeChar =
      List.replicate padding 61 := by
    rw [List.flatMap_replicate, utf8EncodeChar_padding, List.flatten_replicate_singleton]
  rw [spelled, List.flatMap_append, List.flatMap_map, hvalues, hpadding]

/-- The number of symbols tells how much padding there is. -/
theorem padding_eq (h : Canonical values padding) : padding = (4 - values.length % 4) % 4 := by
  have hfew := h.few
  have hfull := h.full
  omega

/-- A canonical text is the written form of some bytes. -/
theorem exists_written : ∀ {values : List Nat} {padding : Nat}, Canonical values padding →
    ∃ bytes, written bytes = values.map code ++ List.replicate padding 61
  | [], padding, h => by
    obtain rfl : padding = 0 := h.padding_eq
    exact ⟨[], rfl⟩
  | [a], padding, h => by
    obtain rfl : padding = 3 := h.padding_eq
    exact absurd h.few (by decide)
  | [a, b], padding, h => by
    obtain rfl : padding = 2 := h.padding_eq
    obtain ⟨ha, hb, -⟩ := by simpa only [List.forall_mem_cons] using h.below
    exact ⟨_, written_of_two ha hb (h.unused b rfl)⟩
  | [a, b, c], padding, h => by
    obtain rfl : padding = 1 := h.padding_eq
    obtain ⟨ha, hb, hc, -⟩ := by simpa only [List.forall_mem_cons] using h.below
    exact ⟨_, written_of_three ha hb hc (h.unused c rfl)⟩
  | a :: b :: c :: d :: values, padding, h => by
    obtain ⟨⟨ha, hb, hc, hd⟩, hvalues⟩ := group_iff.1 h
    obtain ⟨bytes, hbytes⟩ := exists_written hvalues
    exact ⟨_, by rw [written_of_group ha hb hc hd, hbytes]; rfl⟩

end Canonical

/-- The written form of any bytes is canonical. -/
theorem canonical_encodeChars (bytes : List UInt8) :
    ∃ values padding, Canonical values padding ∧ encodeChars bytes = spelled values padding := by
  induction bytes using encodeChars.induct with
  | case1 => exact ⟨[], 0, .nil, rfl⟩
  | case2 a =>
    have ha := a.toNat_lt
    refine ⟨[a.toNat / 4, a.toNat % 4 * 16], 2, ⟨?_, by decide, by simp, ?_⟩, rfl⟩
    · simp only [List.forall_mem_cons]
      exact ⟨by omega, by omega, List.forall_mem_nil _⟩
    · simp
  | case3 a b =>
    obtain ⟨ha, hb, -, -⟩ := values_lt a b 0
    refine ⟨[a.toNat / 4, a.toNat % 4 * 16 + b.toNat / 16, b.toNat % 16 * 4], 1,
      ⟨?_, by decide, by simp, ?_⟩, rfl⟩
    · simp only [List.forall_mem_cons]
      exact ⟨ha, hb, by omega, List.forall_mem_nil _⟩
    · simp
  | case4 a b c rest ih =>
    obtain ⟨values, padding, h, hrest⟩ := ih
    refine ⟨_ :: _ :: _ :: _ :: values, padding, Canonical.group_iff.2 ⟨values_lt a b c, h⟩, ?_⟩
    rw [encodeChars, hrest]
    rfl

/-- A text is read if and only if it is canonical. -/
theorem exists_decode_iff (text : String) : (∃ bytes, decode text = .ok bytes) ↔
    ∃ values padding, Canonical values padding ∧ text = String.ofList (spelled values padding) := by
  constructor
  · rintro ⟨bytes, h⟩
    obtain ⟨values, padding, hcanonical, hspelled⟩ := canonical_encodeChars bytes
    refine ⟨values, padding, hcanonical, ?_⟩
    rw [← hspelled]
    exact (encode_of_decode h).symm
  · rintro ⟨values, padding, hcanonical, rfl⟩
    obtain ⟨bytes, hbytes⟩ := hcanonical.exists_written
    refine ⟨bytes, ?_⟩
    rw [decode, String.toList_ofList, hcanonical.bytes_spelled, ← hbytes]
    exact decodeBytes_written bytes

/-- A text that is not canonical is not read. -/
theorem exists_error_iff (text : String) : (∃ fault, decode text = .error fault) ↔
    ∀ values padding, Canonical values padding → text ≠ String.ofList (spelled values padding) := by
  rw [← not_iff_not]
  trans ∃ bytes, decode text = .ok bytes
  · cases decode text <;> simp
  · rw [exists_decode_iff]
    push Not
    rfl

end Base64

namespace Message

/-- The data of a chunk stands for bytes as their one text. A chunk of any bytes arrives with data that
is read as these bytes; data that is read as some bytes is what a chunk of these bytes has, so that no
other data is read as them; and data is refused if and only if it is not canonical, as with a character
that is no symbol or with a length that is no multiple of four. -/
theorem chunk_canonical :
    (∀ id bytes index, ∃ data, decode (chunkOf id bytes index).encode = .ok (.chunk id data index) ∧
      Base64.decode data = .ok bytes) ∧
    (∀ raw id data index bytes, decode raw = .ok (.chunk id data index) →
      Base64.decode data = .ok bytes → chunkOf id bytes index = .chunk id data index) ∧
    (∀ bytes, ∃! data, Base64.decode data = .ok bytes) ∧
    ∀ data,
      ((∃ fault, Base64.decode data = .error fault) ↔ ∀ values padding,
        Base64.Canonical values padding → data ≠ String.ofList (Base64.spelled values padding)) ∧
      (∀ c ∈ data.toList, c ∉ Base64.alphabet → c ≠ '=' →
        ∃ fault, Base64.decode data = .error fault) ∧
      (data.length % 4 ≠ 0 → ∃ fault, Base64.decode data = .error fault) := by
  refine ⟨fun id bytes index => ?_, fun raw id data index bytes _ hdata => ?_,
    fun bytes => ?_, fun data => ⟨Base64.exists_error_iff data, ?_, ?_⟩⟩
  · exact ⟨_, decode_encode _, Base64.decode_encode bytes⟩
  · rw [chunkOf, Base64.encode_of_decode hdata]
  · exact ⟨_, Base64.decode_encode bytes, fun data hdata => (Base64.encode_of_decode hdata).symm⟩
  · intro c hc hsymbol hpadding
    rw [Base64.exists_error_iff]
    rintro values padding h rfl
    rw [String.toList_ofList] at hc
    rcases h.mem_spelled hc with h | h
    · exact hsymbol h
    · exact hpadding h
  · intro hlength
    rw [Base64.exists_error_iff]
    rintro values padding h rfl
    rw [String.length_ofList] at hlength
    exact hlength h.length_spelled

/-- The two bytes of a greeting, one text of four characters; with a blank in it, or without the
padding, it is refused. -/
theorem chunk_canonical_greeting :
    decode (chunkOf ⟨"a"⟩ [104, 105] 0).encode = .ok (.chunk ⟨"a"⟩ "aGk=" 0) ∧
    Base64.decode "aGk=" = .ok [104, 105] ∧ chunkOf ⟨"a"⟩ [104, 105] 0 = .chunk ⟨"a"⟩ "aGk=" 0 ∧
    (∃ fault, Base64.decode "aG k" = .error fault) ∧ ∃ fault, Base64.decode "aGk" = .error fault := by
  obtain ⟨-, hback, -, hrefused⟩ := chunk_canonical
  have hframe : decode (chunkOf ⟨"a"⟩ [104, 105] 0).encode = .ok (.chunk ⟨"a"⟩ "aGk=" 0) :=
    decode_encode _
  have hdata : Base64.decode "aGk=" = .ok [104, 105] := by decide +kernel
  exact ⟨hframe, hdata, hback _ ⟨"a"⟩ "aGk=" 0 [104, 105] hframe hdata,
    (hrefused "aG k").2.1 ' ' (by decide +kernel) (by decide +kernel) (by decide),
    (hrefused "aGk").2.2 (by decide +kernel)⟩

end Message

end Tunnel
