import Tunnel.Json.Reader
import Tunnel.Proofs.Json.Number

/-!
# What a value is read from

The first character of a value says what kind of value it is. For each kind, here is what stands in
the document where such a value is read.
-/
namespace Tunnel.Json

open Utf8 (Glyph)

variable {size depth : Nat} {c c' : Cursor} {v : Json}

theorem skipSpace_char {l : Char} (hl : isSpace l = false) (rest : List Glyph) (o : Nat) :
    (Cursor.mk (.char l :: rest) o).skipSpace = ⟨.char l :: rest, o⟩ := by
  simp [Cursor.skipSpace, Json.skipSpace, hl]

@[simp] theorem skipSpace_skipSpace (c : Cursor) : c.skipSpace.skipSpace = c.skipSpace := by
  obtain ⟨gs, o⟩ := c
  change (Json.skipSpace o gs).skipSpace = Json.skipSpace o gs
  fun_induction Json.skipSpace o gs with
  | case1 o l rest hl ih => exact ih
  | case2 o l rest hl => exact skipSpace_char (Bool.eq_false_iff.2 hl) rest o
  | case3 o gs hgs =>
    cases gs with
    | nil => rfl
    | cons g gs =>
      cases g with
      | char l => exact absurd rfl (hgs l gs)
      | broken w => rfl

/-- What a value is read from: the character that begins it, and what follows. -/
inductive Source (size : Nat) (nested : Option (Reader Json)) (c c' : Cursor) : Json → Prop where
  | null {rest : List Glyph} (hr : c.skipSpace.rest = .char 'n' :: rest)
    (hw : word ['u', 'l', 'l'] ⟨rest, c.skipSpace.offset + 1⟩ = .ok ((), c')) :
    Source size nested c c' .null
  | bool {l : Char} {ls : List Char} {rest : List Glyph} (hr : c.skipSpace.rest = .char l :: rest)
    (hw : word ls ⟨rest, c.skipSpace.offset + 1⟩ = .ok ((), c')) (b : Bool)
    (hb : l :: ls = if b then ['t', 'r', 'u', 'e'] else ['f', 'a', 'l', 's', 'e']) :
    Source size nested c c' (.bool b)
  | text {rest : List Glyph} {s : String} (hr : c.skipSpace.rest = .char '"' :: rest)
    (hs : textBody ⟨rest, c.skipSpace.offset + 1⟩ = .ok (s, c')) : Source size nested c c' (.text s)
  | negative {rest : List Glyph} {v : Json} (hr : c.skipSpace.rest = .char '-' :: rest)
    (hn : number true ⟨rest, c.skipSpace.offset + 1⟩ = .ok (v, c')) (hv : v.IsNumber) :
    Source size nested c c' v
  | array {rest : List Glyph} {read : Reader Json} {vs : List Json} (hd : nested = some read)
    (hr : c.skipSpace.rest = .char '[' :: rest)
    (hi : items (pushItem read) size true [] ⟨rest, c.skipSpace.offset + 1⟩ = .ok (vs.reverse, c')) :
    Source size nested c c' (.array vs)
  | object {rest : List Glyph} {read : Reader Json} {ms : List (String × Json)}
    (hd : nested = some read) (hr : c.skipSpace.rest = .char '\x7b' :: rest)
    (hm : members (pushMember read) size true [] ⟨rest, c.skipSpace.offset + 1⟩ =
      .ok (ms.reverse, c')) : Source size nested c c' (.object ms)
  | positive {l : Char} {rest : List Glyph} {v : Json} (hr : c.skipSpace.rest = .char l :: rest)
    (hl : l.isDigit = true) (hn : number false c.skipSpace = .ok (v, c')) (hv : v.IsNumber) :
    Source size nested c c' v

theorem bind_eq_ok {ε α β : Type} {x : Except ε α} {f : α → Except ε β} {b : β} :
    x >>= f = .ok b ↔ ∃ a, x = .ok a ∧ f a = .ok b := by
  cases x with
  | error e => exact ⟨nofun, nofun⟩
  | ok a => exact ⟨fun h => ⟨a, rfl, h⟩, by rintro ⟨_, ⟨⟩, h⟩; exact h⟩

theorem map_eq_ok {ε α β : Type} {x : Except ε α} {f : α → β} {b : β} :
    f <$> x = .ok b ↔ ∃ a, x = .ok a ∧ f a = b := by
  cases x with
  | error e => exact ⟨nofun, nofun⟩
  | ok a => exact ⟨fun h => ⟨a, rfl, Except.ok.inj h⟩, by rintro ⟨_, ⟨⟩, rfl⟩; rfl⟩

/-- A document is read in full, but for space at its end. -/
theorem document_eq_ok {α : Type} {read : Reader α} {gs : List Glyph} {a : α} :
    document read gs = .ok a ↔ ∃ c, read ⟨gs, 0⟩ = .ok (a, c) ∧ c.skipSpace.rest = [] := by
  rw [document]
  constructor
  · intro h
    obtain ⟨⟨b, c⟩, hread, h⟩ := bind_eq_ok.1 h
    simp only [List.isEmpty_iff] at h
    split at h
    · rename_i hend
      obtain ⟨⟩ := h
      exact ⟨c, hread, hend⟩
    · cases h
  · rintro ⟨c, hread, hend⟩
    exact bind_eq_ok.2 ⟨_, hread, by simp only [hend]; rfl⟩

/-- Items are at their end, or one is read and then the others. -/
theorem items_eq_ok {σ : Type} {step : σ → Reader σ} {n : Nat} {first : Bool} {s s' : σ} :
    items step (n + 1) first s c = .ok (s', c') ↔
      nextItem first c = .ok (false, c') ∧ s' = s ∨
        ∃ c₁ s₁ c₂, nextItem first c = .ok (true, c₁) ∧ step s c₁ = .ok (s₁, c₂) ∧
          items step n false s₁ c₂ = .ok (s', c') := by
  rw [items]
  constructor
  · intro h
    obtain ⟨⟨more, c₁⟩, hnext, h⟩ := bind_eq_ok.1 h
    cases more with
    | false =>
      obtain ⟨⟩ := h
      exact .inl ⟨hnext, rfl⟩
    | true =>
      obtain ⟨⟨s₁, c₂⟩, hstep, h⟩ := bind_eq_ok.1 h
      exact .inr ⟨c₁, s₁, c₂, hnext, hstep, h⟩
  · rintro (⟨hnext, rfl⟩ | ⟨c₁, s₁, c₂, hnext, hstep, h⟩)
    · exact bind_eq_ok.2 ⟨_, hnext, rfl⟩
    · exact bind_eq_ok.2 ⟨_, hnext, bind_eq_ok.2 ⟨_, hstep, h⟩⟩

/-- Members are at their end, or one is read and then the others. -/
theorem members_eq_ok {σ : Type} {step : σ → String → Reader σ} {n : Nat} {first : Bool}
    {s s' : σ} :
    members step (n + 1) first s c = .ok (s', c') ↔
      nextName first c = .ok (none, c') ∧ s' = s ∨
        ∃ name c₁ s₁ c₂, nextName first c = .ok (some name, c₁) ∧ step s name c₁ = .ok (s₁, c₂) ∧
          members step n false s₁ c₂ = .ok (s', c') := by
  rw [members]
  constructor
  · intro h
    obtain ⟨⟨name?, c₁⟩, hnext, h⟩ := bind_eq_ok.1 h
    cases name? with
    | none =>
      obtain ⟨⟩ := h
      exact .inl ⟨hnext, rfl⟩
    | some name =>
      obtain ⟨⟨s₁, c₂⟩, hstep, h⟩ := bind_eq_ok.1 h
      exact .inr ⟨name, c₁, s₁, c₂, hnext, hstep, h⟩
  · rintro (⟨hnext, rfl⟩ | ⟨name, c₁, s₁, c₂, hnext, hstep, h⟩)
    · exact bind_eq_ok.2 ⟨_, hnext, rfl⟩
    · exact bind_eq_ok.2 ⟨_, hnext, bind_eq_ok.2 ⟨_, hstep, h⟩⟩

theorem pushItem_eq_ok {read : Reader Json} {vs vs' : List Json} :
    pushItem read vs c = .ok (vs', c') ↔ ∃ v, read c = .ok (v, c') ∧ vs' = v :: vs := by
  constructor
  · intro h
    obtain ⟨⟨v, c₁⟩, hv, ⟨⟩⟩ := bind_eq_ok.1 h
    exact ⟨v, hv, rfl⟩
  · rintro ⟨v, hv, rfl⟩
    exact bind_eq_ok.2 ⟨_, hv, rfl⟩

theorem pushMember_eq_ok {read : Reader Json} {ms ms' : List (String × Json)} {name : String} :
    pushMember read ms name c = .ok (ms', c') ↔
      ∃ c₁ v, colon c = .ok ((), c₁) ∧ read c₁ = .ok (v, c') ∧ ms' = (name, v) :: ms := by
  constructor
  · intro h
    obtain ⟨⟨⟨⟩, c₁⟩, hcolon, h⟩ := bind_eq_ok.1 h
    obtain ⟨⟨v, c₂⟩, hv, ⟨⟩⟩ := bind_eq_ok.1 h
    exact ⟨c₁, v, hcolon, hv, rfl⟩
  · rintro ⟨c₁, v, hcolon, hv, rfl⟩
    exact bind_eq_ok.2 ⟨_, hcolon, bind_eq_ok.2 ⟨_, hv, rfl⟩⟩

/-- Members go in front of those before them, whatever these are. -/
theorem members_append {read : Reader Json} {n : Nat} {first : Bool}
    (before ms : List (String × Json)) {all : List (String × Json)} :
    members (pushMember read) n first (ms ++ before) c = .ok (all, c') ↔
      ∃ ms', members (pushMember read) n first ms c = .ok (ms', c') ∧
        all = ms' ++ before := by
  induction n generalizing first ms c with
  | zero => exact ⟨nofun, nofun⟩
  | succ n ih =>
    simp only [members_eq_ok, pushMember_eq_ok]
    constructor
    · rintro (⟨hend, rfl⟩ | ⟨name, c₁, _, c₂, hname, ⟨c₃, v, hcolon, hv, rfl⟩, hrest⟩)
      · exact ⟨ms, .inl ⟨hend, rfl⟩, rfl⟩
      · obtain ⟨ms', hms, rfl⟩ := (ih ((name, v) :: ms)).1 hrest
        exact ⟨ms', .inr ⟨name, c₁, _, c₂, hname, ⟨c₃, v, hcolon, hv, rfl⟩, hms⟩, rfl⟩
    · rintro ⟨_, ⟨hend, rfl⟩ | ⟨name, c₁, _, c₂, hname, ⟨c₃, v, hcolon, hv, rfl⟩, hrest⟩, rfl⟩
      · exact .inl ⟨hend, rfl⟩
      · exact .inr ⟨name, c₁, _, c₂, hname, ⟨c₃, v, hcolon, hv, rfl⟩,
          (ih ((name, v) :: ms)).2 ⟨_, hrest, rfl⟩⟩

theorem source_of_valueWith {nested : Option (Reader Json)}
    (h : valueWith size nested c = .ok (v, c')) : Source size nested c c' v := by
  unfold valueWith at h
  simp only at h
  split at h
  · cases h
  · cases h
  · rename_i l rest hr
    split at h
    · obtain ⟨⟨⟨⟩, c₁⟩, hw, ⟨⟩⟩ := bind_eq_ok.1 h
      exact .null hr hw
    · obtain ⟨⟨⟨⟩, c₁⟩, hw, ⟨⟩⟩ := bind_eq_ok.1 h
      exact .bool hr hw true rfl
    · obtain ⟨⟨⟨⟩, c₁⟩, hw, ⟨⟩⟩ := bind_eq_ok.1 h
      exact .bool hr hw false rfl
    · obtain ⟨⟨s, c₁⟩, hs, ⟨⟩⟩ := bind_eq_ok.1 h
      exact .text hr hs
    · exact .negative hr h (number_isNumber h)
    · split at h
      · cases h
      · obtain ⟨⟨vs, c₁⟩, hi, ⟨⟩⟩ := bind_eq_ok.1 h
        exact .array rfl hr (by rw [List.reverse_reverse]; exact hi)
    · split at h
      · cases h
      · obtain ⟨⟨ms, c₁⟩, hm, ⟨⟩⟩ := bind_eq_ok.1 h
        exact .object rfl hr (by rw [List.reverse_reverse]; exact hm)
    · split at h
      · rename_i hl
        exact .positive hr hl h (number_isNumber h)
      · cases h

/-- Every value is read with some number of levels left for what it holds. -/
theorem value_eq_valueWith (size depth : Nat) : ∃ nested, value size depth = valueWith size nested := by
  cases depth with
  | zero => exact ⟨none, rfl⟩
  | succ depth => exact ⟨some (value size depth), rfl⟩

theorem valueWith_eq_text {nested : Option (Reader Json)} {s : String} :
    valueWith size nested c = .ok (.text s, c') ↔ ∃ rest, c.skipSpace.rest = .char '"' :: rest ∧
      textBody ⟨rest, c.skipSpace.offset + 1⟩ = .ok (s, c') := by
  constructor
  · intro h
    cases source_of_valueWith h with
    | text hr hs => exact ⟨_, hr, hs⟩
    | negative _ _ hv => cases hv
    | positive _ _ _ hv => cases hv
  · rintro ⟨rest, hr, hs⟩
    simp only [valueWith, hr]
    exact bind_eq_ok.2 ⟨(s, c'), hs, rfl⟩

theorem value_eq_null :
    value size depth c = .ok (.null, c') ↔ ∃ rest, c.skipSpace.rest = .char 'n' :: rest ∧
      word ['u', 'l', 'l'] ⟨rest, c.skipSpace.offset + 1⟩ = .ok ((), c') := by
  obtain ⟨nested, hnested⟩ := value_eq_valueWith size depth
  rw [hnested]
  constructor
  · intro h
    cases source_of_valueWith h with
    | null hr hw => exact ⟨_, hr, hw⟩
    | negative _ _ hv => cases hv
    | positive _ _ _ hv => cases hv
  · rintro ⟨rest, hr, hw⟩
    simp only [valueWith, hr]
    exact bind_eq_ok.2 ⟨((), c'), hw, rfl⟩

theorem value_eq_object {ms : List (String × Json)} :
    value size (depth + 1) c = .ok (.object ms, c') ↔
      ∃ rest, c.skipSpace.rest = .char '\x7b' :: rest ∧
        members (pushMember (value size depth)) size true [] ⟨rest, c.skipSpace.offset + 1⟩ =
          .ok (ms.reverse, c') := by
  constructor
  · intro h
    cases source_of_valueWith h with
    | object hd hr hm =>
      obtain rfl := Option.some.inj hd
      exact ⟨_, hr, hm⟩
    | negative _ _ hv => cases hv
    | positive _ _ _ hv => cases hv
  · rintro ⟨rest, hr, hm⟩
    simp only [value, valueWith, hr]
    exact bind_eq_ok.2 ⟨(ms.reverse, c'), hm, by rw [List.reverse_reverse]; rfl⟩

/-- At a brace, an object is read from what follows. -/
theorem value_object_at {rest : List Glyph} (hr : c.skipSpace.rest = .char '\x7b' :: rest)
    {ms : List (String × Json)} :
    value size (depth + 1) c = .ok (.object ms, c') ↔
      members (pushMember (value size depth)) size true [] ⟨rest, c.skipSpace.offset + 1⟩ =
        .ok (ms.reverse, c') := by
  rw [value_eq_object]
  simp [hr]

theorem value_eq_array {vs : List Json} :
    value size (depth + 1) c = .ok (.array vs, c') ↔
      ∃ rest, c.skipSpace.rest = .char '[' :: rest ∧
        items (pushItem (value size depth)) size true [] ⟨rest, c.skipSpace.offset + 1⟩ =
          .ok (vs.reverse, c') := by
  constructor
  · intro h
    cases source_of_valueWith h with
    | array hd hr hi =>
      obtain rfl := Option.some.inj hd
      exact ⟨_, hr, hi⟩
    | negative _ _ hv => cases hv
    | positive _ _ _ hv => cases hv
  · rintro ⟨rest, hr, hi⟩
    simp only [value, valueWith, hr]
    exact bind_eq_ok.2 ⟨(vs.reverse, c'), hi, by rw [List.reverse_reverse]; rfl⟩

/-- A value that begins with a digit is a number without a sign. -/
theorem valueWith_of_digit {nested : Option (Reader Json)} {l : Char} {rest : List Glyph}
    (hr : c.skipSpace.rest = .char l :: rest) (hl : l.isDigit = true) :
    valueWith size nested c = number false c.skipSpace := by
  have hne : ∀ a : Char, a.isDigit = false → l ≠ a := by
    rintro a ha rfl
    rw [hl] at ha
    cases ha
  unfold valueWith
  simp only [hr]
  split
  case h_8 => rw [if_pos hl]
  all_goals exact absurd rfl (hne _ rfl)

theorem valueWith_of_minus {nested : Option (Reader Json)} {rest : List Glyph}
    (hr : c.skipSpace.rest = .char '-' :: rest) :
    valueWith size nested c = number true ⟨rest, c.skipSpace.offset + 1⟩ := by
  simp only [valueWith, hr]

/-- A natural number is read exactly where its digits stand. -/
theorem value_eq_natural {n : Nat} :
    value size depth c = .ok (.integer n, c') ↔ Numeral n c.skipSpace c' := by
  obtain ⟨nested, hnested⟩ := value_eq_valueWith size depth
  rw [hnested]
  constructor
  · intro h
    cases source_of_valueWith h with
    | negative hr hn hv =>
      obtain ⟨m, hm, -⟩ := number_eq_integer.1 hn
      -- what follows a sign is below zero
      unfold signed at hm
      split at hm
      · rename_i hpos
        exact absurd rfl hpos
      · split at hm
        · cases hm
        · rename_i hzero
          have hneg := Option.some.inj hm
          omega
    | positive hr hl hn hv =>
      obtain ⟨m, hm, hnum⟩ := number_eq_integer.1 hn
      obtain rfl : m = n := Int.ofNat.inj (Option.some.inj hm)
      exact hnum
  · intro hn
    have hnum : number false c.skipSpace = .ok (.integer n, c') :=
      number_eq_integer.2 ⟨n, rfl, hn⟩
    obtain ⟨a, rest, hr, ha⟩ := number_head hnum
    rw [valueWith_of_digit hr ha]
    exact hnum

end Tunnel.Json
