import Tunnel.Proofs.Json.Numeral
import Tunnel.Proofs.Json.Pretty

/-!
# Values without fractions

A document with integers only is read as a value with integers only, but for the zero that a minus
stands before, which is a floating point number. Such a value comes back as it was when it is written
and read.
-/
namespace Tunnel.Json

open Utf8 (Glyph)

def negativeZero : UInt64 := 0x8000000000000000

inductive Integral : Json → Prop where
  | null : Integral .null
  | bool (b : Bool) : Integral (.bool b)
  | integer (i : Int) : Integral (.integer i)
  | zero : Integral (.real negativeZero)
  | text (s : String) : Integral (.text s)
  | array {vs : List Json} (hv : ∀ v ∈ vs, Integral v) : Integral (.array vs)
  | object {ms : List (String × Json)} (hm : ∀ m ∈ ms, Integral m.2) : Integral (.object ms)

/-- Every numeral in the rest of a document is an integer. -/
def Whole (gs : List Glyph) : Prop :=
  ∀ numeral ∈ numerals (.outside false) gs, isInteger numeral = true

variable {c c' : Cursor} {v : Json} {rest : List Glyph}

theorem Passes.whole {α : Type} {read : Reader α} (hread : Passes (.outside false) read) {a : α}
    (h : read c = .ok (a, c')) (hw : Whole c.rest) : Whole c'.rest := by
  rw [Whole, ← hread _ _ _ h]
  exact hw

theorem scaled_zero (c : Cursor) : scaled true 0 0 c = .ok (.real negativeZero, c) := by
  have hscale : (scale (UInt64.ofNat 0).toFloat 0).map (fun f => (-f).toBits) =
      some negativeZero := by decide +kernel
  obtain ⟨f, hf, hbits⟩ := Option.map_eq_some_iff.1 hscale
  rw [scaled, hf]
  simp only [if_pos, hbits]

theorem integral_afterInteger {negative : Bool} {n : Nat}
    (h : afterInteger negative n 0 c = .ok (v, c')) (hfrac : NoFraction c.rest)
    (hsmall : negative = true → n ≤ 0x8000000000000000) : Integral v ∧ c' = c := by
  unfold afterInteger at h
  split at h
  case h_1 hc | h_2 hc | h_3 hc =>
    have hhead := hfrac _ (by rw [hc]; rfl)
    simp at hhead
  case h_4 =>
    rw [if_neg (by simp)] at h
    cases negative with
    | false =>
      obtain ⟨⟩ := h
      exact ⟨.integer _, rfl⟩
    | true =>
      rw [if_neg (by simp)] at h
      split at h
      · rename_i hzero
        obtain rfl : n = 0 := hzero.resolve_right (Nat.not_lt.2 (hsmall rfl))
        rw [scaled_zero] at h
        obtain ⟨⟩ := h
        exact ⟨.zero, rfl⟩
      · obtain ⟨⟩ := h
        exact ⟨.integer _, rfl⟩

/-- A number whose digits are those of an integer leaves what follows its marks. -/
theorem integral_number {negative : Bool} {gs : List Glyph} {n o : Nat}
    (h : number negative ⟨gs, o⟩ = .ok (v, c')) (hn : natural? (gs.takeWhile isMark) = some n)
    (hfit : n < UInt64.size) (hsmall : negative = true → n ≤ 0x8000000000000000) :
    Integral v ∧ c'.rest = gs.dropWhile isMark := by
  obtain ⟨o', hafter⟩ := number_of_natural h hn hfit
  rw [hafter] at h
  obtain ⟨hv, rfl⟩ := integral_afterInteger h (whole_dropWhile gs).2 hsmall
  exact ⟨hv, rfl⟩

theorem integral_positive {l : Char} (hr : c.rest = .char l :: rest) (hl : l.isDigit = true)
    (h : number false c = .ok (v, c')) (hw : Whole c.rest) : Integral v ∧ Whole c'.rest := by
  obtain ⟨gs, o⟩ := c
  obtain rfl : gs = .char l :: rest := hr
  have hquote : Glyph.char l ≠ .char '"' := by
    rintro ⟨⟩
    cases hl
  have hstart : startsNumeral (.char l) = true := by simp [startsNumeral, hl]
  rw [Whole, numerals, if_neg hquote, hstart, numerals_dropWhile] at hw
  obtain ⟨hfirst, hrest⟩ := List.forall_mem_cons.1 hw
  obtain ⟨n, hn, hfit⟩ := isInteger_digit hl hfirst
  rw [← List.takeWhile_cons_of_pos (isMark_digit hl)] at hn
  obtain ⟨hv, hend⟩ := integral_number h hn hfit fun h => absurd h Bool.false_ne_true
  rw [List.dropWhile_cons_of_pos (isMark_digit hl)] at hend
  exact ⟨hv, hend ▸ hrest⟩

theorem integral_negative (hr : c.rest = .char '-' :: rest) {o : Nat}
    (h : number true ⟨rest, o⟩ = .ok (v, c')) (hw : Whole c.rest) : Integral v ∧ Whole c'.rest := by
  rw [hr, Whole, numerals, if_neg (by decide), numerals_dropWhile] at hw
  obtain ⟨hfirst, hrest⟩ := List.forall_mem_cons.1 hw
  obtain ⟨n, hn, hsmall⟩ := isInteger_minus hfirst
  have hfit : n < UInt64.size := Nat.lt_of_le_of_lt hsmall (by decide)
  obtain ⟨hv, hend⟩ := integral_number h hn hfit fun _ => hsmall
  exact ⟨hv, hend ▸ hrest⟩

/-- What a reader takes off a document with integers only is integral, and the rest has integers
only. -/
def ReadsIntegral (read : Reader Json) : Prop :=
  ∀ c v c', read c = .ok (v, c') → Whole c.rest → Integral v ∧ Whole c'.rest

theorem integral_items {read : Reader Json} (hread : ReadsIntegral read) {n : Nat} {first : Bool}
    {vs vs' : List Json} (h : items (pushItem read) n first vs c = .ok (vs', c'))
    (hvs : ∀ v ∈ vs, Integral v) (hw : Whole c.rest) :
    (∀ v ∈ vs', Integral v) ∧ Whole c'.rest := by
  induction n generalizing first vs c with
  | zero => cases h
  | succ n ih =>
    rcases items_eq_ok.1 h with ⟨hnext, rfl⟩ | ⟨c₁, vs₁, c₂, hnext, hstep, hrest⟩
    · exact ⟨hvs, (passes_nextItem first).whole hnext hw⟩
    · obtain ⟨v, hv, rfl⟩ := pushItem_eq_ok.1 hstep
      obtain ⟨hintegral, hw'⟩ := hread _ _ _ hv ((passes_nextItem first).whole hnext hw)
      exact ih hrest (List.forall_mem_cons.2 ⟨hintegral, hvs⟩) hw'

theorem integral_members {read : Reader Json} (hread : ReadsIntegral read) {n : Nat} {first : Bool}
    {ms ms' : List (String × Json)} (h : members (pushMember read) n first ms c = .ok (ms', c'))
    (hms : ∀ m ∈ ms, Integral m.2) (hw : Whole c.rest) :
    (∀ m ∈ ms', Integral m.2) ∧ Whole c'.rest := by
  induction n generalizing first ms c with
  | zero => cases h
  | succ n ih =>
    rcases members_eq_ok.1 h with ⟨hnext, rfl⟩ | ⟨name, c₁, ms₁, c₂, hnext, hstep, hrest⟩
    · exact ⟨hms, (passes_nextName first).whole hnext hw⟩
    · obtain ⟨c₃, v, hcolon, hv, rfl⟩ := pushMember_eq_ok.1 hstep
      have hname := (passes_nextName first).whole hnext hw
      obtain ⟨hintegral, hw'⟩ := hread _ _ _ hv (passes_colon.whole hcolon hname)
      exact ih hrest (List.forall_mem_cons.2 ⟨hintegral, hms⟩) hw'

theorem integral_valueWith (size : Nat) {nested : Option (Reader Json)}
    (hnested : ∀ read ∈ nested, ReadsIntegral read) : ReadsIntegral (valueWith size nested) := by
  intro c v c' h hw
  have hspace : Whole c.skipSpace.rest := by rwa [Whole, numerals_skipSpace]
  cases source_of_valueWith h with
  | null hr hword =>
    rw [hr, Whole, numerals_skip (by decide) rfl] at hspace
    exact ⟨.null, passes_null.whole hword hspace⟩
  | bool hr hword b hb =>
    obtain ⟨⟨hquote, hstart⟩, hls⟩ := List.forall_mem_cons.1 (hb ▸ plain_bool b)
    rw [hr, Whole, numerals_skip (by simpa using hquote) hstart] at hspace
    exact ⟨.bool b, (passes_word hls).whole hword hspace⟩
  | text hr hs =>
    rw [hr, Whole] at hspace
    refine ⟨.text _, ?_⟩
    rw [Whole, ← passes_textBody _ _ _ hs]
    exact hspace
  | negative hr hn => exact integral_negative hr hn hspace
  | positive hr hl hn => exact integral_positive hr hl hn hspace
  | array hd hr hi =>
    rw [hr, Whole, numerals_skip (by decide) rfl] at hspace
    obtain ⟨hv, hw'⟩ := integral_items (hnested _ hd) hi (List.forall_mem_nil _) hspace
    exact ⟨.array fun v hmem => hv v (List.mem_reverse.2 hmem), hw'⟩
  | object hd hr hm =>
    rw [hr, Whole, numerals_skip (by decide) rfl] at hspace
    obtain ⟨hm', hw'⟩ := integral_members (hnested _ hd) hm (List.forall_mem_nil _) hspace
    exact ⟨.object fun m hmem => hm' m (List.mem_reverse.2 hmem), hw'⟩

theorem integral_value (size depth : Nat) : ReadsIntegral (value size depth) := by
  induction depth with
  | zero => exact integral_valueWith size nofun
  | succ depth ih =>
    refine integral_valueWith size fun read hread => ?_
    obtain rfl := Option.some.inj hread
    exact ih

theorem whole_of_integersOnly {gs : List Glyph} (h : integersOnly gs = true) : Whole gs :=
  List.all_eq_true.1 h

/-- A document with integers only is read as an integral value. -/
theorem integral_read {gs : List Glyph} (hgs : integersOnly gs = true) (h : read gs = .ok v) :
    Integral v := by
  obtain ⟨c, hv, -⟩ := document_eq_ok.1 h
  exact (integral_value _ _ _ _ _ hv (whole_of_integersOnly hgs)).1

theorem Integral.normalize (h : Integral v) : Integral v.normalize := by
  induction h with
  | null | bool | integer | zero | text => constructor
  | array hv ih =>
    rw [Json.normalize, normalizeItems_eq_map]
    exact .array (List.forall_mem_map.2 ih)
  | object hm ih => exact .object (forall_mem_normalizeMembers ih (List.forall_mem_nil _))

theorem map_value_of_forall {f : Json → Json} {ms : List (String × Json)}
    (h : ∀ m ∈ ms, f m.2 = m.2) : (ms.map fun m => (m.1, f m.2)) = ms := by
  have hsame : ∀ m ∈ ms, (m.1, f m.2) = id m := fun m hmem => Prod.ext rfl (h m hmem)
  rw [List.map_congr_left hsame, List.map_id]

theorem Integral.mapReals {f : UInt64 → UInt64} (hf : f negativeZero = negativeZero)
    (h : Integral v) : v.mapReals f = v := by
  induction h with
  | null | bool | integer | text => rfl
  | zero => rw [Json.mapReals, hf]
  | array hv ih =>
    rw [Json.mapReals, mapRealsItems_eq_map, List.map_congr_left ih, List.map_id']
  | object hm ih =>
    rw [Json.mapReals, mapRealsMembers_eq_map, map_value_of_forall ih]

/-- The normal form of a value is its own normal form. -/
theorem Integral.normalize_normalize (h : Integral v) : v.normalize.normalize = v.normalize := by
  induction h with
  | null | bool | integer | zero | text => rfl
  | array hv ih =>
    simp only [Json.normalize, normalizeItems_eq_map, List.map_map]
    exact congrArg Json.array (List.map_congr_left ih)
  | @object ms hm ih =>
    have hsorted : Sorted (normalizeMembers ms []) := sorted_normalizeMembers .nil ms
    have hsame : ∀ m ∈ normalizeMembers ms [], m.2.normalize = m.2 :=
      forall_mem_normalizeMembers (P := fun v => v.normalize = v) ih (List.forall_mem_nil _)
    rw [Json.normalize, Json.normalize, normalizeMembers_of_sorted hsorted, List.nil_append,
      map_value_of_forall hsame]

def bits? : Json → Option UInt64
  | .real bits => some bits
  | _ => none

/-- The zero that a minus stands before comes back. -/
theorem Rereads.negativeZero {f : UInt64 → UInt64} (hf : Rereads f) :
    f Json.negativeZero = Json.negativeZero := by
  have hfinite : FiniteBits Json.negativeZero := by
    unfold FiniteBits
    decide
  obtain ⟨o, hread⟩ := (hf _ hfinite).2.reads 0 0 [] Bounds.nil 0
  have hbits : ((value 0 0 ⟨(Json.real Json.negativeZero).chars.map .char ++ [], 0⟩).toOption.bind
      (·.1.bits?)) = some Json.negativeZero := by decide +kernel
  rw [hread] at hbits
  exact Option.some.inj hbits

end Tunnel.Json
