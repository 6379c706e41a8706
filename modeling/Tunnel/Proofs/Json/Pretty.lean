import Tunnel.Proofs.Json.Decimal
import Tunnel.Proofs.Json.Sorted

/-!
# Indented values read back

What the printer writes with one item a line spells the same value, but for its floating point
numbers: each of them may come back as another one.
-/
namespace Tunnel.Json

open Utf8 (Glyph)

/-- A value with integers of 64 bits and finite floating point numbers only, and with at most
`depth` brackets around anything in it. -/
inductive Writable : Nat → Json → Prop where
  | null (depth : Nat) : Writable depth .null
  | bool (depth : Nat) (b : Bool) : Writable depth (.bool b)
  | integer (depth : Nat) {i : Int} (hlow : -0x8000000000000000 ≤ i) (hhigh : i < UInt64.size) :
    Writable depth (.integer i)
  | real (depth : Nat) {bits : UInt64} (hbits : FiniteBits bits) : Writable depth (.real bits)
  | text (depth : Nat) (s : String) : Writable depth (.text s)
  | array {depth : Nat} {vs : List Json} (hv : ∀ v ∈ vs, Writable depth v) :
    Writable (depth + 1) (.array vs)
  | object {depth : Nat} {ms : List (String × Json)} (hm : ∀ m ∈ ms, Writable depth m.2) :
    Writable (depth + 1) (.object ms)

mutual

def mapReals (f : UInt64 → UInt64) : Json → Json
  | .real bits => .real (f bits)
  | .array items => .array (mapRealsItems f items)
  | .object members => .object (mapRealsMembers f members)
  | v => v

def mapRealsItems (f : UInt64 → UInt64) : List Json → List Json
  | [] => []
  | v :: rest => mapReals f v :: mapRealsItems f rest

def mapRealsMembers (f : UInt64 → UInt64) : List (String × Json) → List (String × Json)
  | [] => []
  | (name, v) :: rest => (name, mapReals f v) :: mapRealsMembers f rest

end

variable {f : UInt64 → UInt64}

theorem mapRealsItems_eq_map (vs : List Json) : mapRealsItems f vs = vs.map (mapReals f) := by
  induction vs with
  | nil => rfl
  | cons v vs ih => rw [mapRealsItems, ih, List.map_cons]

theorem mapRealsMembers_eq_map (ms : List (String × Json)) :
    mapRealsMembers f ms = ms.map fun m => (m.1, mapReals f m.2) := by
  induction ms with
  | nil => rfl
  | cons m ms ih => rw [mapRealsMembers, ih, List.map_cons]

/-- What a finite floating point number becomes when it is written and read. -/
def Rereads (f : UInt64 → UInt64) : Prop :=
  ∀ bits, FiniteBits bits → FiniteBits (f bits) ∧
    Leaf ((Json.real bits).chars.map .char) (.real (f bits))

theorem exists_rereads : ∃ f, Rereads f := by
  have h (bits : UInt64) : ∃ bits', FiniteBits bits → FiniteBits bits' ∧
      Leaf ((Json.real bits).chars.map .char) (.real bits') := by
    by_cases hbits : FiniteBits bits
    · obtain ⟨bits', h⟩ := leaf_real hbits
      exact ⟨bits', fun _ => h⟩
    · exact ⟨bits, fun h => absurd h hbits⟩
  choose f hf using h
  exact ⟨f, hf⟩

theorem Writable.mapReals (hf : Rereads f) {depth : Nat} {v : Json} (h : Writable depth v) :
    Writable depth (v.mapReals f) := by
  induction h with
  | null | bool | text => constructor
  | integer depth hlow hhigh => exact .integer depth hlow hhigh
  | real depth hbits => exact .real depth (hf _ hbits).1
  | array hv ih =>
    rw [Json.mapReals, mapRealsItems_eq_map]
    exact .array (List.forall_mem_map.2 ih)
  | object hm ih =>
    rw [Json.mapReals, mapRealsMembers_eq_map]
    exact .object (List.forall_mem_map.2 ih)

theorem Writable.normalize {depth : Nat} {v : Json} (h : Writable depth v) :
    Writable depth v.normalize := by
  induction h with
  | null | bool | text => constructor
  | integer depth hlow hhigh => exact .integer depth hlow hhigh
  | real depth hbits => exact .real depth hbits
  | array hv ih =>
    rw [Json.normalize, normalizeItems_eq_map]
    exact .array (List.forall_mem_map.2 ih)
  | object hm ih => exact .object (forall_mem_normalizeMembers ih nofun)

theorem space_newline (depth : Nat) : Space ((newline depth).map .char) := by
  intro g hg
  obtain ⟨l, hl, rfl⟩ := List.mem_map.1 hg
  refine ⟨l, rfl, ?_⟩
  rcases List.mem_cons.1 hl with rfl | hl
  · rfl
  · rw [List.eq_of_mem_replicate hl]
    rfl

theorem prettyItems_eq_listed (depth : Nat) (vs : List Json) (first : Bool) :
    (prettyItems depth first vs).map .char = listed ((newline (depth + 1)).map .char) first
      (vs.map fun v => (prettyChars (depth + 1) v).map .char) := by
  induction vs generalizing first with
  | nil => rfl
  | cons v vs ih => cases first <;> simp [prettyItems, listed, ih]

theorem prettyMembers_eq_listed (depth : Nat) (ms : List (String × Json)) (first : Bool) :
    (prettyMembers depth first ms).map .char = listed ((newline (depth + 1)).map .char) first
      (ms.map fun m => member [.char ' '] m.1 ((prettyChars (depth + 1) m.2).map .char)) := by
  induction ms generalizing first with
  | nil => rfl
  | cons m ms ih => cases first <;> simp [prettyMembers, listed, member, ih]

theorem space_gap : Space [.char ' '] := by
  intro g hg
  exact ⟨' ', List.mem_singleton.1 hg, rfl⟩

/-- What is written with one item a line spells the value, but for its floating point numbers. -/
theorem Writable.spells (hf : Rereads f) {depth : Nat} {v : Json} (h : Writable depth v) (n : Nat) :
    Spells depth ((prettyChars n v).map .char) (v.mapReals f) := by
  induction h generalizing n with
  | null depth => exact .leaf leaf_null
  | bool depth b => exact .leaf (leaf_bool b)
  | integer depth hlow hhigh => exact .leaf (leaf_integer hlow hhigh)
  | real depth hbits => exact .leaf (hf _ hbits).2
  | text depth s => exact .leaf (leaf_text s)
  | @array depth vs hv ih =>
    rw [Json.mapReals, mapRealsItems_eq_map]
    cases vs with
    | nil => exact spells_array_nil depth
    | cons v vs =>
      have h := Spells.arrayOf (space_newline (n + 1)) (space_newline n)
        fun w hw => ih w hw (n + 1)
      simpa [prettyChars, prettyItems_eq_listed, Function.comp_def] using h
  | @object depth ms hm ih =>
    rw [Json.mapReals, mapRealsMembers_eq_map]
    cases ms with
    | nil => exact spells_object_nil depth
    | cons m ms =>
      have h := Spells.objectOf (space_newline (n + 1)) space_gap (space_newline n)
        fun w hw => ih w hw (n + 1)
      simpa [prettyChars, prettyMembers_eq_listed, Function.comp_def] using h

theorem items_forall {P : Json → Prop} {read : Reader Json}
    (hread : ∀ c v c', read c = .ok (v, c') → P v) {n : Nat} {first : Bool} {vs vs' : List Json}
    {c c' : Cursor} (h : items (pushItem read) n first vs c = .ok (vs', c'))
    (hvs : ∀ v ∈ vs, P v) : ∀ v ∈ vs', P v := by
  induction n generalizing first vs c with
  | zero => cases h
  | succ n ih =>
    rcases items_eq_ok.1 h with ⟨-, rfl⟩ | ⟨c₁, vs₁, c₂, -, hstep, hrest⟩
    · exact hvs
    · obtain ⟨v, hv, rfl⟩ := pushItem_eq_ok.1 hstep
      exact ih hrest (List.forall_mem_cons.2 ⟨hread _ _ _ hv, hvs⟩)

theorem members_forall {P : Json → Prop} {read : Reader Json}
    (hread : ∀ c v c', read c = .ok (v, c') → P v) {n : Nat} {first : Bool}
    {ms ms' : List (String × Json)} {c c' : Cursor}
    (h : members (pushMember read) n first ms c = .ok (ms', c')) (hms : ∀ m ∈ ms, P m.2) :
    ∀ m ∈ ms', P m.2 := by
  induction n generalizing first ms c with
  | zero => cases h
  | succ n ih =>
    rcases members_eq_ok.1 h with ⟨-, rfl⟩ | ⟨name, c₁, ms₁, c₂, -, hstep, hrest⟩
    · exact hms
    · obtain ⟨c₃, v, -, hv, rfl⟩ := pushMember_eq_ok.1 hstep
      exact ih hrest (List.forall_mem_cons.2 ⟨hread _ _ _ hv, hms⟩)

theorem signed_bounds {negative : Bool} {n : Nat} {i : Int} (hn : n < UInt64.size)
    (h : signed negative n = some i) : -0x8000000000000000 ≤ i ∧ i < UInt64.size := by
  unfold signed at h
  split at h
  · obtain rfl := Option.some.inj h
    exact ⟨by omega, Int.ofNat_lt.2 hn⟩
  · split at h
    · cases h
    · obtain rfl := Option.some.inj h
      have hpos : (0 : Int) < UInt64.size := by decide
      omega

theorem writable_number {negative : Bool} {c c' : Cursor} {v : Json} (depth : Nat)
    (h : number negative c = .ok (v, c')) : Writable depth v := by
  rcases number_eq_ok h with ⟨i, rfl⟩ | hscaled
  · obtain ⟨n, hi, hn⟩ := number_eq_integer.1 h
    obtain ⟨hlow, hhigh⟩ := signed_bounds hn.fits hi
    exact .integer depth hlow hhigh
  · obtain ⟨bits, rfl⟩ := hscaled.real
    exact .real depth (number_finite h)

/-- A value that is read can be written, at the depth that it was read with. -/
theorem writable_value {size depth : Nat} {c c' : Cursor} {v : Json}
    (h : value size depth c = .ok (v, c')) : Writable depth v := by
  induction depth generalizing c c' v with
  | zero =>
    cases source_of_valueWith h with
    | null => exact .null 0
    | bool => exact .bool 0 _
    | text => exact .text 0 _
    | negative _ hn => exact writable_number 0 hn
    | positive _ _ hn => exact writable_number 0 hn
    | array hd | object hd => cases hd
  | succ depth ih =>
    cases source_of_valueWith h with
    | null => exact .null _
    | bool => exact .bool _ _
    | text => exact .text _ _
    | negative _ hn => exact writable_number _ hn
    | positive _ _ hn => exact writable_number _ hn
    | array hd _ hi =>
      obtain rfl := Option.some.inj hd
      have hall := items_forall (fun _ _ _ => ih) hi nofun
      exact .array fun v hv => hall v (List.mem_reverse.2 hv)
    | object hd _ hm =>
      obtain rfl := Option.some.inj hd
      have hall := members_forall (fun _ _ _ => ih) hm nofun
      exact .object fun m hmem => hall m (List.mem_reverse.2 hmem)

end Tunnel.Json
