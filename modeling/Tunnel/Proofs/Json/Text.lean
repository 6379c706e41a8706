import Tunnel.Json.Printer
import Tunnel.Json.Text

/-!
# Written text reads back

A text between quotes is read character by character. The escapes of the printer are among those that
the scanner knows, so what was quoted comes back.
-/
namespace Tunnel.Json

open Utf8 (Glyph)

/-- A reader takes a value off the front of `gs` and leaves `rest`, wherever in a document it is. -/
def Reads {α : Type} (read : Reader α) (gs : List Glyph) (a : α) (rest : List Glyph) : Prop :=
  ∀ o, ∃ o', read ⟨gs, o⟩ = .ok (a, ⟨rest, o'⟩)

section
variable (cs : List Char) (bad : Option Nat) (o : Nat) (rest : List Glyph)

theorem scanText_closing : scanText .any cs none o (.char '"' :: rest) =
    .ok (String.ofList cs.reverse, ⟨rest, o + 1⟩) :=
  rfl

theorem scanText_backslash : scanText .any cs bad o (.char '\\' :: rest) =
    scanText .escape cs bad (o + 1) rest :=
  rfl

theorem scanText_plain {c : Char} (hq : c ≠ '"') (hb : c ≠ '\\') (hc : ¬c.toNat < 32) :
    scanText .any cs bad o (.char c :: rest) =
      scanText .any (c :: cs) bad (o + c.utf8Size) rest :=
  (if_neg hq).trans ((if_neg hb).trans (if_neg hc))

theorem scanText_letter {c d : Char} (hu : c ≠ 'u') (hd : shortEscape? c = some d) :
    scanText .any cs bad o (.char '\\' :: .char c :: rest) =
      scanText .any (d :: cs) bad (o + 2) rest := by
  rw [scanText_backslash]
  refine (if_neg hu).trans ?_
  rw [hd]

theorem scanText_unit : scanText .escape cs bad o (.char 'u' :: rest) =
    scanText (.unit none 4 0) cs bad (o + 1) rest :=
  rfl

variable (high : Option Nat) {c : Char} {d : Nat} (hd : hexValue? c = some d) (value : Nat)
include hd

theorem scanText_digit {left : Nat} (hleft : ¬left ≤ 1) :
    scanText (.unit high left value) cs bad o (.char c :: rest) =
      scanText (.unit high (left - 1) (value * 16 + d)) cs bad (o + 1) rest := by
  simp only [scanText, hd, if_neg hleft]

theorem scanText_lastDigit {c' : Char} (hunit : completeUnit high (value * 16 + d) = some (.inl c')) :
    scanText (.unit high 1 value) cs bad o (.char c :: rest) =
      scanText .any (c' :: cs) bad (o + 1) rest := by
  simp only [scanText, hd, if_pos (Nat.le_refl 1), hunit]

end

theorem hexValue?_hexDigit : ∀ n < 16, hexValue? (hexDigit n) = some n := by decide

theorem scanText_control {c : Char} (hc : c.toNat < 32) (cs : List Char) (o : Nat)
    (rest : List Glyph) :
    scanText .any cs none o (['\\', 'u', '0', '0', hexDigit (c.toNat / 16),
      hexDigit (c.toNat % 16)].map .char ++ rest) = scanText .any (c :: cs) none (o + 6) rest := by
  have hhigh := hexValue?_hexDigit (c.toNat / 16) (by omega)
  have hlow := hexValue?_hexDigit (c.toNat % 16) (by omega)
  have hzero : hexValue? '0' = some 0 := rfl
  have hvalue : c.toNat / 16 * 16 + c.toNat % 16 = c.toNat := Nat.div_add_mod' ..
  -- a unit below 32 is a character of its own, not half of a pair
  have hunit : completeUnit none c.toNat = some (.inl c) := by
    have hl : isLow c.toNat = false := by simp [isLow]; omega
    have hh : isHigh c.toNat = false := by simp [isHigh]; omega
    simp [completeUnit, hl, hh]
  rw [← hvalue] at hunit
  simp only [List.map_cons, List.map_nil, List.cons_append, List.nil_append]
  rw [scanText_backslash, scanText_unit, scanText_digit _ _ _ _ _ hzero _ (by decide),
    scanText_digit _ _ _ _ _ hzero _ (by decide), scanText_digit _ _ _ _ _ hhigh _ (by decide),
    scanText_lastDigit _ _ _ _ _ hlow _ (by simpa using hunit)]

/-- One character comes back from its escape. -/
theorem scanText_escape (c : Char) (cs : List Char) (o : Nat) (rest : List Glyph) :
    ∃ o', scanText .any cs none o ((escape c).map .char ++ rest) =
      scanText .any (c :: cs) none o' rest := by
  unfold escape
  split
  case h_8 hq hb _ _ _ _ _ =>
    split
    · rename_i hc
      exact ⟨_, scanText_control hc cs o rest⟩
    · rename_i hc
      exact ⟨_, scanText_plain cs none o rest hq hb hc⟩
  all_goals exact ⟨_, scanText_letter cs none o rest (by decide) rfl⟩

theorem scanText_quoted (s cs : List Char) (o : Nat) (rest : List Glyph) :
    ∃ o', scanText .any cs none o ((s.flatMap escape).map .char ++ .char '"' :: rest) =
      .ok (String.ofList (cs.reverse ++ s), ⟨rest, o'⟩) := by
  induction s generalizing cs o with
  | nil => exact ⟨o + 1, by simpa using scanText_closing cs o rest⟩
  | cons c s ih =>
    obtain ⟨o₁, hc⟩ := scanText_escape c cs o ((s.flatMap escape).map .char ++ .char '"' :: rest)
    obtain ⟨o₂, hs⟩ := ih (c :: cs) o₁
    refine ⟨o₂, ?_⟩
    rw [List.flatMap_cons, List.map_append, List.append_assoc, hc, hs, List.reverse_cons,
      List.append_assoc]
    rfl

/-- A quoted text is its opening quote and then what reads back as the text. -/
theorem textBody_quote (s : String) (rest : List Glyph) :
    ∃ body, (quote s).map .char = .char '"' :: body ∧ Reads textBody (body ++ rest) s rest := by
  refine ⟨(s.toList.flatMap escape).map .char ++ [.char '"'], by simp [quote], fun o => ?_⟩
  obtain ⟨o', h⟩ := scanText_quoted s.toList [] o rest
  refine ⟨o', ?_⟩
  rw [List.append_assoc]
  simpa [textBody] using h

end Tunnel.Json
