import Tunnel.Proofs.Json.Value

/-!
# Documents with integers only

The numerals of a document are found without reading it: they begin with a digit or a minus outside of
texts and go on as long as characters of numbers follow. Where all of them are integers of 64 bits, a
value is read without floating point numbers, but for the zero that a minus stands before.
-/
namespace Tunnel.Json

open Utf8 (Glyph)

/-- Where a unit of a document stands: outside of texts, right behind a part of a numeral or not, in
a text, or behind a backslash. -/
inductive Place where
  | outside (numeral : Bool)
  | text
  | escape

def isMark : Glyph → Bool
  | .char c => c.isDigit || c = '-' || c = '+' || c = '.' || c = 'e' || c = 'E'
  | .broken _ => false

def startsNumeral : Glyph → Bool
  | .char c => c.isDigit || c = '-'
  | .broken _ => false

def numerals : Place → List Glyph → List (List Glyph)
  | _, [] => []
  | .outside numeral, g :: rest =>
    if g = .char '"' then numerals .text rest
    else if numeral && isMark g then numerals (.outside true) rest
    else if startsNumeral g then (g :: rest.takeWhile isMark) :: numerals (.outside true) rest
    else numerals (.outside false) rest
  | .text, g :: rest =>
    if g = .char '"' then numerals (.outside false) rest
    else if g = .char '\\' then numerals .escape rest
    else numerals .text rest
  | .escape, _ :: rest => numerals .text rest

def natural? (gs : List Glyph) : Option Nat :=
  gs.foldlM (fun n g => (digit? g).map (10 * n + ·)) 0

/-- Whether a numeral is an integer of 64 bits, with sign or without: digits, after a minus perhaps,
and no point and no exponent. -/
def isInteger : List Glyph → Bool
  | .char '-' :: gs => (natural? gs).any (· ≤ 0x8000000000000000)
  | gs => (natural? gs).any (· < UInt64.size)

def integersOnly (gs : List Glyph) : Bool :=
  (numerals (.outside false) gs).all isInteger

variable {c c' : Cursor} {g : Glyph} {gs rest : List Glyph}

theorem numerals_skip (hquote : g ≠ .char '"') (hstart : startsNumeral g = false)
    (rest : List Glyph) : numerals (.outside false) (g :: rest) = numerals (.outside false) rest := by
  rw [numerals, if_neg hquote, hstart]
  rfl

@[simp] theorem numerals_skipSpace (c : Cursor) :
    numerals (.outside false) c.skipSpace.rest = numerals (.outside false) c.rest := by
  obtain ⟨gs, o⟩ := c
  change numerals _ (skipSpace o gs).rest = numerals _ gs
  induction gs generalizing o with
  | nil => rfl
  | cons g gs ih =>
    unfold skipSpace
    split
    · rename_i l rest heq
      obtain ⟨rfl, rfl⟩ := List.cons.inj heq
      split
      · rename_i hspace
        have hspaces : l = ' ' ∨ l = '\n' ∨ l = '\t' ∨ l = '\r' := by
          simpa [isSpace, or_assoc] using hspace
        rw [ih, numerals_skip]
        · obtain rfl | rfl | rfl | rfl := hspaces <;> decide
        · obtain rfl | rfl | rfl | rfl := hspaces <;> decide
      · rfl
    · rfl

/-- What a reader leaves has the numerals that were to come where it began. -/
def Passes {α : Type} (place : Place) (read : Reader α) : Prop :=
  ∀ c a c', read c = .ok (a, c') → numerals place c.rest = numerals (.outside false) c'.rest

def Scan.place : Scan → Place
  | .escape | .letter _ => .escape
  | .any | .unit .. | .slash _ => .text

theorem passes_word {ls : List Char}
    (hls : ∀ l ∈ ls, l ≠ '"' ∧ startsNumeral (.char l) = false) :
    Passes (.outside false) (word ls) := by
  intro c a c' h
  induction ls generalizing c with
  | nil =>
    obtain ⟨⟩ := h
    rfl
  | cons l ls ih =>
    obtain ⟨⟨hquote, hstart⟩, hrest⟩ := List.forall_mem_cons.1 hls
    obtain ⟨_ | ⟨g, gs⟩, o⟩ := c
    · cases h
    · unfold word at h
      split at h
      · rename_i hg
        rw [hg, numerals_skip (by simpa using hquote) hstart]
        exact ih hrest _ h
      · cases h

theorem passes_null : Passes (.outside false) (word ['u', 'l', 'l']) :=
  passes_word (by simp [startsNumeral])

theorem plain_bool (b : Bool) :
    ∀ l ∈ if b then ['t', 'r', 'u', 'e'] else ['f', 'a', 'l', 's', 'e'],
      l ≠ '"' ∧ startsNumeral (.char l) = false := by
  cases b <;> simp [startsNumeral]

theorem numerals_text (hquote : g ≠ .char '"') (hslash : g ≠ .char '\\') (rest : List Glyph) :
    numerals .text (g :: rest) = numerals .text rest := by
  rw [numerals, if_neg hquote, if_neg hslash]

theorem numerals_hex {l : Char} {d : Nat} (h : hexValue? l = some d) (rest : List Glyph) :
    numerals .text (.char l :: rest) = numerals .text rest := by
  refine numerals_text ?_ ?_ rest <;> rintro ⟨⟩ <;> cases h

theorem completeUnit_place {high : Option Nat} {value : Nat} {next : Scan}
    (h : completeUnit high value = some (.inr next)) : next.place = .text := by
  unfold completeUnit at h
  split at h
  · split at h
    · cases h
    · split at h
      · cases h
        rfl
      · cases h
  · split at h <;> cases h

theorem scanText_numerals {scan : Scan} {cs : List Char} {bad : Option Nat} {o : Nat} {s : String}
    (h : scanText scan cs bad o gs = .ok (s, c')) :
    numerals scan.place gs = numerals (.outside false) c'.rest := by
  fun_induction scanText scan cs bad o gs
  -- only a quote ends the text, and only a backslash begins an escape
  case case3 =>
    obtain ⟨⟩ := h
    rfl
  case case7 hquote hslash _ ih =>
    rw [Scan.place, numerals_text (by simpa using hquote) (by simpa using hslash)]
    exact ih h
  case case15 hvalue _ _ _ _ ih =>
    rw [Scan.place, numerals_hex hvalue]
    exact ih h
  case case17 hvalue _ _ ih =>
    rw [Scan.place, numerals_hex hvalue]
    exact ih h
  case case16 hvalue _ _ _ hunit ih =>
    rw [Scan.place, numerals_hex hvalue, ← completeUnit_place hunit]
    exact ih h
  all_goals
    first
    | cases h
    | (rename_i ih
       exact ih h)

theorem passes_textBody : Passes .text textBody := fun _ _ _ h => scanText_numerals h

theorem numerals_of_skipSpace (hr : c.skipSpace.rest = g :: rest) (hquote : g ≠ .char '"')
    (hstart : startsNumeral g = false) :
    numerals (.outside false) c.rest = numerals (.outside false) rest := by
  rw [← numerals_skipSpace, hr, numerals_skip hquote hstart]

theorem passes_colon : Passes (.outside false) colon := by
  intro c v c' h
  unfold colon at h
  simp only at h
  split at h
  · cases h
  · rename_i rest hr
    obtain ⟨⟩ := h
    exact numerals_of_skipSpace hr (by decide) rfl
  · cases h

theorem passes_nextItem (first : Bool) : Passes (.outside false) (nextItem first) := by
  intro c more c' h
  unfold nextItem at h
  simp only at h
  split at h
  · cases h
  · rename_i rest hr
    obtain ⟨⟩ := h
    exact numerals_of_skipSpace hr (by decide) rfl
  · rename_i g rest hne hr
    split at h
    · obtain ⟨⟩ := h
      exact (numerals_skipSpace c).symm
    · split at h
      · rename_i hcomma
        subst hcomma
        split at h
        · cases h
        · cases h
        · obtain ⟨⟩ := h
          rw [numerals_skipSpace]
          exact numerals_of_skipSpace hr (by decide) rfl
      · cases h

theorem numerals_name {s : Option String} (hr : c.skipSpace.rest = .char '"' :: rest) {o : Nat}
    (h : (do let (name, c) ← textBody ⟨rest, o⟩; return (some name, c)) = .ok (s, c')) :
    numerals (.outside false) c.rest = numerals (.outside false) c'.rest := by
  obtain ⟨⟨name, c₁⟩, hname, ⟨⟩⟩ := bind_eq_ok.1 h
  rw [← numerals_skipSpace, hr]
  exact passes_textBody _ _ _ hname

theorem passes_nextName (first : Bool) : Passes (.outside false) (nextName first) := by
  intro c name? c' h
  unfold nextName at h
  simp only at h
  split at h
  · cases h
  · rename_i rest hr
    obtain ⟨⟩ := h
    exact numerals_of_skipSpace hr (by decide) rfl
  · rename_i g rest hne hr
    split at h
    · split at h
      · rename_i hquote
        exact numerals_name (hquote ▸ hr) h
      · cases h
    · split at h
      · rename_i hcomma
        subst hcomma
        rw [numerals_of_skipSpace hr (by decide) rfl]
        split at h
        · cases h
        · rename_i rest' hr'
          exact numerals_name (c := ⟨rest, c.skipSpace.offset + 1⟩) hr' h
        · cases h
        · cases h
      · cases h

theorem numerals_dropWhile (gs : List Glyph) :
    numerals (.outside true) gs = numerals (.outside false) (gs.dropWhile isMark) := by
  induction gs with
  | nil => rfl
  | cons g gs ih =>
    by_cases hg : isMark g
    · have hquote : g ≠ .char '"' := by
        rintro rfl
        cases hg
      rw [List.dropWhile_cons_of_pos hg, ← ih, numerals, if_neg hquote, hg]
      rfl
    · rw [List.dropWhile_cons_of_neg hg, numerals, numerals, Bool.eq_false_iff.2 hg]
      rfl

theorem natural?_eq_some {n m : Nat}
    (h : gs.foldlM (fun n g => (digit? g).map (10 * n + ·)) m = some n) :
    ∃ ds : List Char, (∀ d ∈ ds, d.isDigit = true) ∧ gs = ds.map .char ∧
      n = Nat.ofDigitChars 10 ds m := by
  induction gs generalizing m with
  | nil => exact ⟨[], nofun, rfl, (Option.some.inj h).symm⟩
  | cons g gs ih =>
    rw [List.foldlM_cons] at h
    obtain ⟨k, hk, hrest⟩ := Option.bind_eq_some_iff.1 h
    obtain ⟨d, hd, rfl⟩ := Option.map_eq_some_iff.1 hk
    obtain ⟨a, rfl, ha, rfl⟩ := digit?_eq_some hd
    obtain ⟨ds, hds, rfl, rfl⟩ := ih hrest
    exact ⟨a :: ds, List.forall_mem_cons.2 ⟨ha, hds⟩, rfl, (Nat.ofDigitChars_cons ..).symm⟩

theorem isMark_digit {a : Char} (ha : a.isDigit = true) : isMark (.char a) = true := by
  simp [isMark, ha]

theorem isInteger_minus (h : isInteger (.char '-' :: gs) = true) :
    ∃ n, natural? gs = some n ∧ n ≤ 0x8000000000000000 := by
  obtain ⟨n, hn, hle⟩ := (Option.any_eq_true _ _).1 h
  exact ⟨n, hn, of_decide_eq_true hle⟩

theorem isInteger_digit {a : Char} (ha : a.isDigit = true) (h : isInteger (.char a :: gs) = true) :
    ∃ n, natural? (.char a :: gs) = some n ∧ n < UInt64.size := by
  unfold isInteger at h
  split at h
  · rename_i heq
    obtain rfl := Glyph.char.inj (List.cons.inj heq).1
    cases ha
  · obtain ⟨n, hn, hlt⟩ := (Option.any_eq_true _ _).1 h
    exact ⟨n, hn, of_decide_eq_true hlt⟩

/-- What comes after the marks of a numeral is no part of a number. -/
theorem whole_dropWhile (gs : List Glyph) :
    NoDigit (gs.dropWhile isMark) ∧ NoFraction (gs.dropWhile isMark) := by
  have hhead : ∀ g ∈ (gs.dropWhile isMark).head?, isMark g = false := by
    intro g hg
    have hnot := List.head?_dropWhile_not isMark gs
    rw [hg] at hnot
    simpa using hnot
  refine ⟨fun g hg => ?_, fun g hg => ⟨?_, ?_, ?_⟩⟩
  · cases hd : digit? g with
    | none => rfl
    | some d =>
      obtain ⟨a, rfl, ha, -⟩ := digit?_eq_some hd
      have hmark := hhead _ hg
      rw [isMark_digit ha] at hmark
      cases hmark
  all_goals
    rintro rfl
    have hmark := hhead _ hg
    cases hmark

/-- A numeral of digits is read in full. -/
theorem number_of_natural {negative : Bool} {n o : Nat} {v : Json}
    (h : number negative ⟨gs, o⟩ = .ok (v, c')) (hn : natural? (gs.takeWhile isMark) = some n)
    (hfit : n < UInt64.size) :
    ∃ o', number negative ⟨gs, o⟩ = afterInteger negative n 0 ⟨gs.dropWhile isMark, o'⟩ := by
  obtain ⟨a, rest, rfl, ha⟩ := number_head h
  obtain ⟨ds, hds, htake, rfl⟩ := natural?_eq_some hn
  have hsplit := List.takeWhile_append_dropWhile (p := isMark) (l := .char a :: rest)
  have hwhole := whole_dropWhile (.char a :: rest)
  rw [htake] at hsplit
  rw [List.takeWhile_cons_of_pos (isMark_digit ha)] at htake
  obtain _ | ⟨b, ds⟩ := ds
  · cases htake
  obtain ⟨hab, htake⟩ := List.cons.inj htake
  obtain rfl := Glyph.char.inj hab
  have hvalue : Nat.ofDigitChars 10 (a :: ds) 0 = Nat.ofDigitChars 10 ds (a.toNat - '0'.toNat) := by
    rw [Nat.ofDigitChars_cons, Nat.mul_zero, Nat.zero_add]
  rw [hvalue] at hfit ⊢
  generalize hend : (Glyph.char a :: rest).dropWhile isMark = after at hsplit hwhole ⊢
  have hwritten : Glyph.char a :: rest =
      digits (Nat.ofDigitChars 10 ds (a.toNat - '0'.toNat)) ++ after := by
    by_cases hz : a = '0'
    · subst hz
      rw [number_zero] at h
      -- a zero is not followed by digits
      cases ds with
      | nil => exact hsplit.symm
      | cons d ds =>
        have hrest : rest = .char d :: (ds.map .char ++ after) := by simpa using hsplit.symm
        have hd := digit?_char (hds d (by simp))
        simp [hrest, hd] at h
    · rw [← hsplit]
      exact (Numeral.of_digits (o := 0) ha hz (List.forall_mem_cons.1 hds).2 hfit hwhole).written
  exact ⟨_, hwritten ▸ number_digits hfit hwhole.1 o⟩

end Tunnel.Json
