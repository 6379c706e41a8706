import Tunnel.Proofs.Json.Spelling

/-!
# Written values read back

The printer and the reader are written apart from each other. What the printer writes on one line,
the reader reads as the same value: texts, integers of 64 bits, and arrays and objects of these up to
the depth that the reader allows. Floating point numbers are left out.
-/
namespace Tunnel.Json

/-- A value without floating point numbers, with integers of 64 bits only, and with at most `depth`
brackets around anything in it. -/
inductive Plain : Nat → Json → Prop where
  | null (depth : Nat) : Plain depth .null
  | bool (depth : Nat) (b : Bool) : Plain depth (.bool b)
  | integer (depth : Nat) {i : Int} (hlow : -0x8000000000000000 ≤ i) (hhigh : i < UInt64.size) :
    Plain depth (.integer i)
  | text (depth : Nat) (s : String) : Plain depth (.text s)
  | array {depth : Nat} {vs : List Json} (hv : ∀ v ∈ vs, Plain depth v) :
    Plain (depth + 1) (.array vs)
  | object {depth : Nat} {ms : List (String × Json)} (hm : ∀ m ∈ ms, Plain depth m.2) :
    Plain (depth + 1) (.object ms)

theorem itemChars_eq_listed (vs : List Json) (first : Bool) :
    (itemChars first vs).map .char = listed [] first (vs.map fun v => v.chars.map .char) := by
  induction vs generalizing first with
  | nil => rfl
  | cons v vs ih => cases first <;> simp [itemChars, listed, ih]

theorem memberChars_eq_listed (ms : List (String × Json)) (first : Bool) :
    (memberChars first ms).map .char =
      listed [] first (ms.map fun m => member [] m.1 (m.2.chars.map .char)) := by
  induction ms generalizing first with
  | nil => rfl
  | cons m ms ih => cases first <;> simp [memberChars, listed, member, ih]

/-- What is written on one line spells the value. -/
theorem Plain.spells {depth : Nat} {v : Json} (hp : Plain depth v) :
    Spells depth (v.chars.map .char) v := by
  induction hp with
  | null depth => exact .leaf leaf_null
  | bool depth b => exact .leaf (leaf_bool b)
  | integer depth hlow hhigh => exact .leaf (leaf_integer hlow hhigh)
  | text depth s => exact .leaf (leaf_text s)
  | @array depth vs hv ih =>
    have h := Spells.arrayOf .nil .nil ih
    simpa [chars, itemChars_eq_listed, Function.comp_def] using h
  | @object depth ms hm ih =>
    have h := Spells.objectOf .nil .nil .nil ih
    simpa [chars, memberChars_eq_listed, Function.comp_def] using h

/-- A value on one line, as a document, is that value. -/
theorem parse_render {v : Json} (hp : Plain maxDepth v) : parse v.render = .ok v := by
  have hgs : Utf8.ofText v.render = v.chars.map .char := by
    rw [Utf8.ofText, render, String.toList_ofList]
  rw [parse, hgs]
  exact read_spelled hp.spells

end Tunnel.Json
