import Tunnel.Proofs.Json.Text
import Tunnel.Proofs.Json.Value

/-!
# Texts of values

The reader asks for no layout: space may stand before every item and every bracket. A text spells a
value if it is one of the texts of that value, whatever the layout, and every such text is read as the
value that it spells.
-/
namespace Tunnel.Json

open Utf8 (Glyph)

def Space (gs : List Glyph) : Prop :=
  ∀ g ∈ gs, ∃ l, g = .char l ∧ isSpace l = true

theorem Space.nil : Space [] := nofun

theorem skipSpace_append {sp : List Glyph} (hsp : Space sp) (gs : List Glyph) (o : Nat) :
    (Cursor.mk (sp ++ gs) o).skipSpace = (Cursor.mk gs (o + sp.length)).skipSpace := by
  induction sp generalizing o with
  | nil => rfl
  | cons g sp ih =>
    obtain ⟨l, rfl, hl⟩ := hsp g List.mem_cons_self
    have hrest := ih (fun g hg => hsp g (List.mem_cons_of_mem _ hg)) (o + 1)
    rw [List.length_cons, Nat.add_comm sp.length, ← Nat.add_assoc, ← hrest]
    simp [Cursor.skipSpace, Json.skipSpace, hl]

/-- Space is skipped up to a character that is none. -/
theorem skipSpace_space {sp : List Glyph} (hsp : Space sp) {l : Char} (hl : isSpace l = false)
    (rest : List Glyph) (o : Nat) :
    (Cursor.mk (sp ++ .char l :: rest) o).skipSpace = ⟨.char l :: rest, o + sp.length⟩ := by
  rw [skipSpace_append hsp, skipSpace_char hl]

/-- What follows a value does not go on a number. -/
def Bounds (rest : List Glyph) : Prop :=
  NoDigit rest ∧ NoFraction rest

theorem Bounds.nil : Bounds [] := ⟨nofun, nofun⟩

theorem Bounds.cons {l : Char} (hl : l ∈ [',', ']', '\x7d', '\n', '\r', '\t', ' '])
    (rest : List Glyph) : Bounds (.char l :: rest) := by
  obtain ⟨hdigit, hfraction⟩ : digit? (.char l) = none ∧ l ≠ '.' ∧ l ≠ 'e' ∧ l ≠ 'E' := by
    simp only [List.mem_cons, List.not_mem_nil, or_false] at hl
    rcases hl with rfl | rfl | rfl | rfl | rfl | rfl | rfl <;> decide
  refine ⟨?_, ?_⟩ <;> rintro g ⟨⟩
  · exact hdigit
  · simpa using hfraction

theorem Bounds.space {sp : List Glyph} (hsp : Space sp) {rest : List Glyph} (hr : Bounds rest) :
    Bounds (sp ++ rest) := by
  cases sp with
  | nil => exact hr
  | cons g sp =>
    obtain ⟨l, rfl, hl⟩ := hsp g List.mem_cons_self
    refine .cons ?_ _
    simp only [isSpace, Bool.or_eq_true, decide_eq_true_eq] at hl
    rcases hl with ((rfl | rfl) | rfl) | rfl <;> decide

/-- A text that is read as a value without regard to its depth. -/
structure Leaf (gs : List Glyph) (v : Json) : Prop where
  head : ∃ l rest, gs = .char l :: rest ∧ isSpace l = false ∧ l ≠ ']'
  reads : ∀ size depth rest, Bounds rest → Reads (value size depth) (gs ++ rest) v rest

theorem leaf_of_valueWith {gs : List Glyph} {v : Json}
    (head : ∃ l rest, gs = .char l :: rest ∧ isSpace l = false ∧ l ≠ ']')
    (reads : ∀ size nested rest, Bounds rest → Reads (valueWith size nested) (gs ++ rest) v rest) :
    Leaf gs v := by
  refine ⟨head, fun size depth rest hr => ?_⟩
  obtain ⟨nested, hnested⟩ := value_eq_valueWith size depth
  rw [hnested]
  exact reads size nested rest hr

theorem leaf_null : Leaf ((Json.null).chars.map .char) .null :=
  leaf_of_valueWith ⟨_, _, rfl, rfl, by decide⟩ fun _ _ _ _ o => ⟨o + 1 + 1 + 1 + 1, rfl⟩

theorem leaf_bool (b : Bool) : Leaf ((Json.bool b).chars.map .char) (.bool b) := by
  cases b with
  | true =>
    exact leaf_of_valueWith ⟨_, _, rfl, rfl, by decide⟩ fun _ _ _ _ o => ⟨o + 1 + 1 + 1 + 1, rfl⟩
  | false =>
    exact leaf_of_valueWith ⟨_, _, rfl, rfl, by decide⟩ fun _ _ _ _ o =>
      ⟨o + 1 + 1 + 1 + 1 + 1, rfl⟩

theorem leaf_text (s : String) : Leaf ((Json.text s).chars.map .char) (.text s) := by
  refine leaf_of_valueWith ⟨'"', _, rfl, rfl, by decide⟩ fun size nested rest hr o => ?_
  obtain ⟨body, hq, hbody⟩ := textBody_quote s rest
  obtain ⟨o', h⟩ := hbody (o + 1)
  refine ⟨o', ?_⟩
  rw [chars, hq, List.cons_append]
  exact valueWith_eq_text.2 ⟨_, by rw [skipSpace_char rfl], by rw [skipSpace_char rfl]; exact h⟩

theorem Numeral.of_bounds {n : Nat} (hn : n < UInt64.size) {rest : List Glyph} (hr : Bounds rest)
    (o : Nat) :
    Numeral n ⟨digits n ++ rest, o⟩ ⟨rest, o + (Nat.toDigits 10 n).length⟩ :=
  ⟨hn, rfl, rfl, hr⟩

theorem chars_natural (n : Nat) : (Json.integer n).chars = Nat.toDigits 10 n := by
  change (Nat.repr n).toList = _
  rw [Nat.repr_eq_ofList_toDigits, String.toList_ofList]

theorem chars_negative (n : Nat) :
    (Json.integer (Int.negSucc n)).chars = '-' :: Nat.toDigits 10 (n + 1) := by
  change ("-" ++ Nat.repr (n + 1)).toList = _
  rw [Nat.repr_eq_ofList_toDigits, String.toList_append, String.toList_ofList, String.toList_ofList]
  rfl

theorem isDigit_ne {l a : Char} (hl : l.isDigit = true) (ha : a.isDigit = false) : l ≠ a := by
  rintro rfl
  rw [hl] at ha
  cases ha

theorem toDigits_cons (n : Nat) : ∃ l cs, Nat.toDigits 10 n = l :: cs ∧ l.isDigit = true := by
  cases h : Nat.toDigits 10 n with
  | nil => exact absurd h Nat.toDigits_ne_nil
  | cons l cs =>
    exact ⟨l, cs, rfl, Nat.isDigit_of_mem_toDigits (b := 10) (n := n) (by decide) (by decide)
      (h ▸ List.mem_cons_self)⟩

theorem isSpace_digit {l : Char} (hl : l.isDigit = true) : isSpace l = false := by
  simp [isSpace, isDigit_ne hl (a := ' ') rfl, isDigit_ne hl (a := '\n') rfl,
    isDigit_ne hl (a := '\t') rfl, isDigit_ne hl (a := '\r') rfl]

theorem digits_head (n : Nat) :
    ∃ l cs, digits n = .char l :: cs ∧ isSpace l = false ∧ l ≠ ']' ∧ l.isDigit = true := by
  obtain ⟨l, cs, hl, hd⟩ := toDigits_cons n
  exact ⟨l, cs.map .char, by rw [digits, hl]; rfl, isSpace_digit hd, isDigit_ne hd rfl, hd⟩

theorem leaf_natural {n : Nat} (hn : n < UInt64.size) :
    Leaf ((Json.integer n).chars.map .char) (.integer n) := by
  rw [chars_natural, ← digits]
  obtain ⟨l, cs, hl, hs, hb, -⟩ := digits_head n
  refine ⟨⟨l, cs, hl, hs, hb⟩, fun size depth rest hr o => ?_⟩
  have hskip : (Cursor.mk (digits n ++ rest) o).skipSpace = ⟨digits n ++ rest, o⟩ := by
    rw [hl]
    exact skipSpace_char hs _ _
  refine ⟨o + (Nat.toDigits 10 n).length, value_eq_natural.2 ?_⟩
  rw [hskip]
  exact Numeral.of_bounds hn hr o

theorem leaf_negative {n : Nat} (hn : n + 1 ≤ 0x8000000000000000) :
    Leaf ((Json.integer (Int.negSucc n)).chars.map .char) (.integer (Int.negSucc n)) := by
  rw [chars_negative, List.map_cons]
  refine leaf_of_valueWith ⟨'-', _, rfl, rfl, by decide⟩ fun size nested rest hr o => ?_
  have hnum := Numeral.of_bounds (Nat.lt_of_le_of_lt hn (by decide)) hr (o + 1)
  have hsign : signed true (n + 1) = some (Int.negSucc n) := by
    have hnot : ¬ (n + 1 = 0 ∨ 0x8000000000000000 < n + 1) := by omega
    simp only [signed, not_true_eq_false, if_false, if_neg hnot]
    rfl
  refine ⟨o + 1 + (Nat.toDigits 10 (n + 1)).length, ?_⟩
  rw [List.cons_append, valueWith_of_minus (by rw [skipSpace_char rfl]), skipSpace_char rfl]
  exact number_eq_integer.2 ⟨n + 1, hsign, hnum⟩

/-- An integer of 64 bits. -/
theorem leaf_integer {i : Int} (hlow : -0x8000000000000000 ≤ i) (hhigh : i < UInt64.size) :
    Leaf ((Json.integer i).chars.map .char) (.integer i) := by
  cases i with
  | ofNat n => exact leaf_natural (Int.ofNat_lt.1 hhigh)
  | negSucc n => exact leaf_negative (by omega)

def listed (sp : List Glyph) (first : Bool) : List (List Glyph) → List Glyph
  | [] => []
  | gs :: rest => (if first then [] else [.char ',']) ++ sp ++ gs ++ listed sp false rest

def member (gap : List Glyph) (name : String) (gs : List Glyph) : List Glyph :=
  (quote name).map .char ++ .char ':' :: (gap ++ gs)

/-- A text of a value with at most `depth` brackets around anything in it. -/
inductive Spells : Nat → List Glyph → Json → Prop where
  | leaf {depth : Nat} {gs : List Glyph} {v : Json} (h : Leaf gs v) : Spells depth gs v
  | array {depth : Nat} {sp last : List Glyph} {ws : List (List Glyph × Json)} (hsp : Space sp)
    (hlast : Space last) (hw : ∀ w ∈ ws, Spells depth w.1 w.2) :
    Spells (depth + 1) (.char '[' :: (listed sp true (ws.map Prod.fst) ++ last ++ [.char ']']))
      (.array (ws.map Prod.snd))
  | object {depth : Nat} {sp gap last : List Glyph} {ms : List (String × List Glyph × Json)}
    (hsp : Space sp) (hgap : Space gap) (hlast : Space last)
    (hm : ∀ m ∈ ms, Spells depth m.2.1 m.2.2) :
    Spells (depth + 1)
      (.char '\x7b' :: (listed sp true (ms.map fun m => member gap m.1 m.2.1) ++ last ++
        [.char '\x7d']))
      (.object (ms.map fun m => (m.1, m.2.2)))

variable {depth : Nat} {gs sp last gap : List Glyph} {v : Json}

theorem spells_array_nil (depth : Nat) :
    Spells (depth + 1) [.char '[', .char ']'] (.array []) :=
  Spells.array .nil .nil (List.forall_mem_nil _)

theorem spells_object_nil (depth : Nat) :
    Spells (depth + 1) [.char '\x7b', .char '\x7d'] (.object []) :=
  Spells.object .nil .nil .nil (List.forall_mem_nil _)

/-- An array with a text for each of its items. -/
theorem Spells.arrayOf (hsp : Space sp) (hlast : Space last) {vs : List Json}
    {g : Json → List Glyph} {f : Json → Json} (hv : ∀ v ∈ vs, Spells depth (g v) (f v)) :
    Spells (depth + 1) (.char '[' :: (listed sp true (vs.map g) ++ last ++ [.char ']']))
      (.array (vs.map f)) := by
  have h := Spells.array hsp hlast (List.forall_mem_map (f := fun v => (g v, f v)).2 hv)
  simpa [Function.comp_def] using h

/-- An object with a text for the value of each of its members. -/
theorem Spells.objectOf (hsp : Space sp) (hgap : Space gap) (hlast : Space last)
    {ms : List (String × Json)} {g : String × Json → List Glyph} {f : String × Json → Json}
    (hm : ∀ m ∈ ms, Spells depth (g m) (f m)) :
    Spells (depth + 1)
      (.char '\x7b' :: (listed sp true (ms.map fun m => member gap m.1 (g m)) ++ last ++
        [.char '\x7d']))
      (.object (ms.map fun m => (m.1, f m))) := by
  have h := Spells.object hsp hgap hlast
    (List.forall_mem_map (f := fun m => (m.1, g m, f m)).2 hm)
  simpa [Function.comp_def] using h

theorem Spells.head (h : Spells depth gs v) :
    ∃ l rest, gs = .char l :: rest ∧ isSpace l = false ∧ l ≠ ']' := by
  cases h with
  | leaf h => exact h.head
  | array | object => exact ⟨_, _, rfl, rfl, by decide⟩

/-- Space before a value makes no difference to what is read. -/
theorem valueWith_congr {size : Nat} {nested : Option (Reader Json)} {c c' : Cursor}
    (h : c.skipSpace = c'.skipSpace) : valueWith size nested c = valueWith size nested c' := by
  simp only [valueWith, h]

theorem reads_after_space {size : Nat} (hsp : Space sp) {rest : List Glyph}
    (h : Reads (value size depth) gs v rest) : Reads (value size depth) (sp ++ gs) v rest := by
  intro o
  obtain ⟨nested, hnested⟩ := value_eq_valueWith size depth
  obtain ⟨o', ho⟩ := h (o + sp.length)
  rw [hnested] at ho ⊢
  exact ⟨o', by rw [valueWith_congr (skipSpace_append hsp gs o), ho]⟩

theorem nextItem_close (hlast : Space last) (first : Bool) (rest : List Glyph) :
    Reads (nextItem first) (last ++ .char ']' :: rest) false rest := fun o =>
  ⟨o + last.length + 1, by simp only [nextItem, skipSpace_space hlast (l := ']') rfl]⟩

/-- Before an item there may be a comma and space. -/
theorem nextItem_listed (hsp : Space sp) {l : Char} (hs : isSpace l = false) (hb : l ≠ ']')
    (first : Bool) (rest : List Glyph) :
    Reads (nextItem first)
      ((if first then [] else [.char ',']) ++ sp ++ .char l :: rest) true (.char l :: rest) := by
  intro o
  cases first with
  | true => exact ⟨o + sp.length, by simp [nextItem, skipSpace_space hsp hs, hb]⟩
  | false =>
    exact ⟨o + 1 + sp.length, by
      simp [nextItem, skipSpace_char (l := ',') rfl, skipSpace_space hsp hs, hb]⟩

theorem listed_bounds (hlast : Space last) (sp : List Glyph) (ws : List (List Glyph)) {l : Char}
    (hl : l = ']' ∨ l = '\x7d') (rest : List Glyph) :
    Bounds (listed sp false ws ++ last ++ .char l :: rest) := by
  cases ws with
  | nil =>
    refine .space hlast (.cons ?_ rest)
    rcases hl with rfl | rfl <;> decide
  | cons w ws =>
    rw [listed]
    exact .cons (by decide) _

/-- Items are read one after the other if each of them is. -/
theorem items_spelled {read : Reader Json} (hsp : Space sp) (hlast : Space last)
    {ws : List (List Glyph × Json)} (hw : ∀ w ∈ ws, Spells depth w.1 w.2)
    (hread : ∀ w ∈ ws, ∀ rest, Bounds rest → Reads read (w.1 ++ rest) w.2 rest)
    (rest : List Glyph) {n : Nat} (hn : ws.length < n) (first : Bool) (before : List Json) :
    Reads (items (pushItem read) n first before)
      (listed sp first (ws.map Prod.fst) ++ last ++ .char ']' :: rest)
      ((ws.map Prod.snd).reverse ++ before) rest := by
  intro o
  induction ws generalizing n first before o with
  | nil =>
    obtain ⟨n, rfl⟩ := Nat.exists_eq_add_of_lt hn
    obtain ⟨o₁, hnext⟩ := nextItem_close hlast first rest o
    exact ⟨o₁, items_eq_ok.2 (.inl ⟨hnext, rfl⟩)⟩
  | cons w ws ih =>
    obtain ⟨n, rfl⟩ := Nat.exists_eq_add_of_lt hn
    obtain ⟨gs, v⟩ := w
    obtain ⟨l, gs', rfl, hs, hb⟩ := (hw (gs, v) List.mem_cons_self).head
    obtain ⟨o₁, hnext⟩ := nextItem_listed hsp hs hb first
      (gs' ++ (listed sp false (ws.map Prod.fst) ++ last ++ .char ']' :: rest)) o
    obtain ⟨o₂, hv⟩ := hread (.char l :: gs', v) List.mem_cons_self _
      (listed_bounds hlast sp (ws.map Prod.fst) (.inl rfl) rest) o₁
    obtain ⟨o₃, hvs⟩ := ih (fun w hm => hw w (List.mem_cons_of_mem _ hm))
      (fun w hm => hread w (List.mem_cons_of_mem _ hm)) (n := ((.char l :: gs', v) :: ws).length + n)
      (by rw [List.length_cons]; omega) false (v :: before) o₂
    refine ⟨o₃, items_eq_ok.2 (.inr ⟨_, _, _, ?_, pushItem_eq_ok.2 ⟨v, hv, rfl⟩, ?_⟩)⟩
    · simpa [listed] using hnext
    · rw [hvs, List.map_cons, List.reverse_cons, List.append_assoc]
      rfl

theorem nextName_close (hlast : Space last) (first : Bool) (rest : List Glyph) :
    Reads (nextName first) (last ++ .char '\x7d' :: rest) none rest := fun o =>
  ⟨o + last.length + 1, by simp only [nextName, skipSpace_space hlast (l := '\x7d') rfl]⟩

theorem nextName_listed (hsp : Space sp) (first : Bool) (name : String) (rest : List Glyph) :
    Reads (nextName first)
      ((if first then [] else [.char ',']) ++ sp ++ ((quote name).map .char ++ rest))
      (some name) rest := by
  obtain ⟨body, hq, hbody⟩ := textBody_quote name rest
  intro o
  rw [hq, List.cons_append]
  cases first with
  | true =>
    obtain ⟨o', h⟩ := hbody (o + sp.length + 1)
    refine ⟨o', ?_⟩
    simp only [nextName, if_true, List.nil_append, skipSpace_space hsp (l := '"') rfl,
      Glyph.char.injEq, Char.reduceEq, imp_self, h]
    rfl
  | false =>
    obtain ⟨o', h⟩ := hbody (o + 1 + sp.length + 1)
    refine ⟨o', ?_⟩
    simp only [nextName, Bool.false_eq_true, if_false, List.cons_append, List.nil_append,
      skipSpace_char (l := ',') rfl, skipSpace_space hsp (l := '"') rfl, Glyph.char.injEq,
      Char.reduceEq, imp_self, if_true, h]
    rfl

theorem colon_written (rest : List Glyph) : Reads colon (.char ':' :: rest) () rest := fun o =>
  ⟨o + 1, by simp only [colon, skipSpace_char (l := ':') rfl]⟩

/-- Members are read one after the other if the value of each of them is. -/
theorem members_spelled {size : Nat} (hsp : Space sp) (hgap : Space gap) (hlast : Space last)
    {ms : List (String × List Glyph × Json)}
    (hread : ∀ m ∈ ms, ∀ rest, Bounds rest → Reads (value size depth) (m.2.1 ++ rest) m.2.2 rest)
    (rest : List Glyph) {n : Nat} (hn : ms.length < n) (first : Bool)
    (before : List (String × Json)) :
    Reads (members (pushMember (value size depth)) n first before)
      (listed sp first (ms.map fun m => member gap m.1 m.2.1) ++ last ++ .char '\x7d' :: rest)
      ((ms.map fun m => (m.1, m.2.2)).reverse ++ before) rest := by
  intro o
  induction ms generalizing n first before o with
  | nil =>
    obtain ⟨n, rfl⟩ := Nat.exists_eq_add_of_lt hn
    obtain ⟨o₁, hnext⟩ := nextName_close hlast first rest o
    exact ⟨o₁, members_eq_ok.2 (.inl ⟨hnext, rfl⟩)⟩
  | cons m ms ih =>
    obtain ⟨n, rfl⟩ := Nat.exists_eq_add_of_lt hn
    obtain ⟨name, gs, v⟩ := m
    obtain ⟨o₁, hnext⟩ := nextName_listed hsp first name
      (.char ':' :: (gap ++ (gs ++ (listed sp false (ms.map fun m => member gap m.1 m.2.1) ++ last ++
        .char '\x7d' :: rest)))) o
    obtain ⟨o₂, hcolon⟩ := colon_written _ o₁
    obtain ⟨o₃, hv⟩ := reads_after_space hgap (hread (name, gs, v) List.mem_cons_self _
      (listed_bounds hlast sp (ms.map fun m => member gap m.1 m.2.1) (.inr rfl) rest)) o₂
    obtain ⟨o₄, hms⟩ := ih (fun w hm => hread w (List.mem_cons_of_mem _ hm))
      (n := ((name, gs, v) :: ms).length + n) (by rw [List.length_cons]; omega) false
      ((name, v) :: before) o₃
    refine ⟨o₄, members_eq_ok.2
      (.inr ⟨name, _, _, _, ?_, pushMember_eq_ok.2 ⟨_, v, hcolon, hv, rfl⟩, ?_⟩)⟩
    · simpa [listed, member] using hnext
    · rw [hms, List.map_cons, List.reverse_cons, List.append_assoc]
      rfl

/-! ## How long texts are

The reader is given a bound on the items of one array or object. A text has at least as many characters
as items, so its length is such a bound.
-/

theorem length_le_listed (sp : List Glyph) {ws : List (List Glyph)} (hw : ∀ w ∈ ws, 0 < w.length)
    (first : Bool) : ws.length ≤ (listed sp first ws).length := by
  induction ws generalizing first with
  | nil => exact Nat.zero_le _
  | cons w ws ih =>
    have hpos := hw w List.mem_cons_self
    have hrest := ih (fun x hx => hw x (List.mem_cons_of_mem w hx)) false
    simp only [listed, List.length_append, List.length_cons]
    omega

theorem le_listed (sp : List Glyph) {w : List Glyph} {ws : List (List Glyph)} (hw : w ∈ ws)
    (first : Bool) : w.length ≤ (listed sp first ws).length := by
  induction hw generalizing first with
  | head ws =>
    simp only [listed, List.length_append]
    omega
  | tail x hx ih =>
    have hrest := ih false
    simp only [listed, List.length_append]
    omega

theorem length_member (gap : List Glyph) (name : String) (gs : List Glyph) :
    gs.length < (member gap name gs).length := by
  simp only [member, List.length_append, List.length_cons]
  omega

/-- A text is read as the value that it spells. -/
theorem value_spelled {size : Nat} (h : Spells depth gs v) (hsize : gs.length ≤ size)
    {rest : List Glyph} (hr : Bounds rest) : Reads (value size depth) (gs ++ rest) v rest := by
  induction h generalizing rest with
  | leaf h => exact h.reads _ _ _ hr
  | @array depth sp last ws hsp hlast hw ih =>
    intro o
    have hsize' : (listed sp true (ws.map Prod.fst)).length + 2 ≤ size := by
      simp only [List.length_cons, List.length_append, List.length_nil] at hsize
      omega
    have hread : ∀ w ∈ ws, ∀ rest, Bounds rest →
        Reads (value size depth) (w.1 ++ rest) w.2 rest := by
      intro w hm rest hr
      have hle := le_listed sp (List.mem_map_of_mem (f := Prod.fst) hm) true
      exact ih w hm (by omega) hr
    have hpos : ∀ w ∈ ws.map Prod.fst, 0 < w.length := by
      simp only [List.mem_map]
      rintro _ ⟨w, hm, rfl⟩
      obtain ⟨l, gs, hgs, -⟩ := (hw w hm).head
      rw [hgs]
      exact Nat.succ_pos _
    have hlength := length_le_listed sp hpos true
    rw [List.length_map] at hlength
    obtain ⟨o', h⟩ := items_spelled hsp hlast hw hread rest (n := size) (by omega) true [] (o + 1)
    refine ⟨o', value_eq_array.2 ⟨_, by rw [List.cons_append, skipSpace_char rfl], ?_⟩⟩
    rw [List.cons_append, skipSpace_char rfl]
    simpa using h
  | @object depth sp gap last ms hsp hgap hlast hm ih =>
    intro o
    have hsize' : (listed sp true (ms.map fun m => member gap m.1 m.2.1)).length + 2 ≤ size := by
      simp only [List.length_cons, List.length_append, List.length_nil] at hsize
      omega
    have hread : ∀ m ∈ ms, ∀ rest, Bounds rest →
        Reads (value size depth) (m.2.1 ++ rest) m.2.2 rest := by
      intro m hmem rest hr
      have hle := le_listed sp
        (List.mem_map_of_mem (f := fun m => member gap m.1 m.2.1) hmem) true
      have hlt := length_member gap m.1 m.2.1
      exact ih m hmem (by omega) hr
    have hpos : ∀ w ∈ ms.map fun m => member gap m.1 m.2.1, 0 < w.length := by
      simp only [List.mem_map]
      rintro _ ⟨m, -, rfl⟩
      exact Nat.zero_lt_of_lt (length_member gap m.1 m.2.1)
    have hlength := length_le_listed sp hpos true
    rw [List.length_map] at hlength
    obtain ⟨o', h⟩ :=
      members_spelled hsp hgap hlast hread rest (n := size) (by omega) true [] (o + 1)
    refine ⟨o', value_eq_object.2 ⟨_, by rw [List.cons_append, skipSpace_char rfl], ?_⟩⟩
    rw [List.cons_append, skipSpace_char rfl]
    simpa using h

/-- A document that spells a value is that value. -/
theorem read_spelled (h : Spells maxDepth gs v) : read gs = .ok v := by
  obtain ⟨o, ho⟩ := value_spelled h (Nat.le_succ _) .nil 0
  rw [List.append_nil] at ho
  exact document_eq_ok.2 ⟨_, ho, rfl⟩

end Tunnel.Json
