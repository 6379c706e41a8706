import Tunnel.Proofs.Json.Value

/-!
# Readers go forward

What a reader leaves is an end of what it was given, and an item or a member after the first takes at
least its comma. So the number of items is bounded by what is left of the document, and a larger bound
makes no difference.
-/
namespace Tunnel.Json

open Utf8 (Glyph)

/-- What is left is an end of what was given. -/
def Forward {α : Type} (read : Reader α) : Prop :=
  ∀ c a c', read c = .ok (a, c') → c'.rest <:+ c.rest

variable {c c' : Cursor}

theorem skipSpace_suffix (c : Cursor) : c.skipSpace.rest <:+ c.rest := by
  obtain ⟨gs, o⟩ := c
  change (skipSpace o gs).rest <:+ gs
  induction gs generalizing o with
  | nil => exact List.suffix_refl _
  | cons g gs ih =>
    unfold skipSpace
    split
    · rename_i l rest heq
      obtain ⟨rfl, rfl⟩ := List.cons.inj heq
      split
      · exact (ih (o + 1)).trans (List.suffix_cons _ _)
      · exact List.suffix_refl _
    · exact List.suffix_refl _

theorem suffix_of_skipSpace {g : Glyph} {rest : List Glyph} (h : c.skipSpace.rest = g :: rest) :
    rest <:+ c.rest :=
  (List.suffix_cons g rest).trans (h ▸ skipSpace_suffix c)

theorem forward_word (ls : List Char) : Forward (word ls) := by
  intro c a c' h
  induction ls generalizing c with
  | nil =>
    obtain ⟨⟩ := h
    exact List.suffix_refl _
  | cons l ls ih =>
    obtain ⟨_ | ⟨g, gs⟩, o⟩ := c
    · cases h
    · unfold word at h
      split at h
      · exact (ih _ h).trans (List.suffix_cons g gs)
      · cases h

theorem scanText_suffix {scan : Scan} {cs : List Char} {bad : Option Nat} {o : Nat}
    {gs : List Glyph} {s : String} (h : scanText scan cs bad o gs = .ok (s, c')) : c'.rest <:+ gs := by
  fun_induction scanText scan cs bad o gs
  -- the closing quote ends the text, a fault has no rest, and any other character is passed
  case case3 =>
    obtain ⟨⟩ := h
    exact List.suffix_cons _ _
  all_goals
    first
    | cases h
    | (rename_i ih
       exact (ih h).trans (List.suffix_cons _ _))

theorem forward_textBody : Forward textBody := fun _ _ _ h => scanText_suffix h

theorem significandFrom_suffix (value count o : Nat) (gs : List Glyph) :
    (significandFrom value count o gs).2.2.rest <:+ gs := by
  fun_induction significandFrom value count o gs with
  | case3 value count o g rest d hd hlt ih => exact ih.trans (List.suffix_cons g rest)
  | case1 | case2 | case4 => exact List.suffix_refl _

theorem skipDigits_suffix (count o : Nat) (gs : List Glyph) :
    (skipDigits count o gs).2.rest <:+ gs := by
  fun_induction skipDigits count o gs with
  | case3 count o g rest d hd ih => exact ih.trans (List.suffix_cons g rest)
  | case1 | case2 => exact List.suffix_refl _

/-- What is left after the digits of an exponent, be it too large or not. -/
theorem exponentFrom_suffix (value o : Nat) (gs : List Glyph) :
    (match exponentFrom value o gs with
      | .ok (_, c) => c
      | .error c => c).rest <:+ gs := by
  fun_induction exponentFrom value o gs with
  | case3 value o g rest d hd hle ih => exact ih.trans (List.suffix_cons g rest)
  | case4 value o g rest d hd hle => exact List.suffix_cons g rest
  | case1 | case2 => exact List.suffix_refl _

theorem exponentSign_suffix (c : Cursor) : (exponentSign c).2.rest <:+ c.rest := by
  unfold exponentSign
  split
  · rename_i hr
    exact hr ▸ List.suffix_cons _ _
  · rename_i hr
    exact hr ▸ List.suffix_cons _ _
  · exact List.suffix_refl _

variable {negative : Bool} {significand : Nat}

theorem scaled_rest {start : Int} {v : Json} (h : scaled negative significand start c = .ok (v, c')) :
    c' = c := by
  unfold scaled at h
  split at h
  · cases h
  · cases h
    rfl

theorem forward_exponent (start : Int) : Forward (exponent negative significand start) := by
  intro c v c' h
  refine List.IsSuffix.trans ?_ (exponentSign_suffix c)
  unfold exponent at h
  simp only at h
  split at h
  · cases h
  · rename_i g rest hr
    rw [hr]
    split at h
    · cases h
    · rename_i d hd
      have hexp := exponentFrom_suffix d ((exponentSign c).2.offset + 1) rest
      refine List.IsSuffix.trans ?_ (List.suffix_cons g rest)
      split at h
      · rename_i n c₁ heq
        rw [heq] at hexp
        rwa [scaled_rest h]
      · rename_i c₁ heq
        rw [heq] at hexp
        split at h
        · cases h
        · rw [scaled_rest h]
          exact (skipDigits_suffix 0 c₁.offset c₁.rest).trans hexp

theorem forward_optionalExponent (start : Int) :
    Forward (optionalExponent negative significand start) := by
  intro c v c' h
  unfold optionalExponent at h
  split at h
  · rename_i rest hr
    exact (forward_exponent start _ _ _ h).trans (hr ▸ List.suffix_cons _ rest)
  · rename_i rest hr
    exact (forward_exponent start _ _ _ h).trans (hr ▸ List.suffix_cons _ rest)
  · exact scaled_rest h ▸ List.suffix_refl _

theorem forward_fraction (start : Int) : Forward (fraction negative significand start) := by
  intro c v c' h
  unfold fraction at h
  simp only at h
  split at h
  · split at h <;> cases h
  · exact ((forward_optionalExponent _ _ _ _ h).trans (skipDigits_suffix 0 _ _)).trans
      (significandFrom_suffix significand 0 c.offset c.rest)

theorem forward_afterInteger (skipped : Nat) :
    Forward (afterInteger negative significand skipped) := by
  intro c v c' h
  unfold afterInteger at h
  split at h
  · rename_i rest hr
    exact (forward_fraction _ _ _ _ h).trans (hr ▸ List.suffix_cons _ rest)
  · rename_i rest hr
    exact (forward_exponent _ _ _ _ h).trans (hr ▸ List.suffix_cons _ rest)
  · rename_i rest hr
    exact (forward_exponent _ _ _ _ h).trans (hr ▸ List.suffix_cons _ rest)
  · have hc : c' = c := by
      split at h
      · exact scaled_rest h
      · split at h
        · cases h
          rfl
        · split at h
          · exact scaled_rest h
          · cases h
            rfl
    exact hc ▸ List.suffix_refl _

theorem forward_number : Forward (number negative) := by
  intro c v c' h
  unfold number at h
  split at h
  · cases h
  · rename_i g rest hr
    refine List.IsSuffix.trans ?_ (hr ▸ List.suffix_cons g rest)
    split at h
    · cases h
    · simp only at h
      split at h
      · cases h
      · exact forward_afterInteger _ _ _ _ h
    · exact ((forward_afterInteger _ _ _ _ h).trans (skipDigits_suffix 0 _ _)).trans
        (significandFrom_suffix _ 1 (c.offset + 1) rest)

theorem forward_colon : Forward colon := by
  intro c v c' h
  unfold colon at h
  simp only at h
  split at h
  · cases h
  · rename_i rest hr
    obtain ⟨⟩ := h
    exact suffix_of_skipSpace hr
  · cases h

theorem forward_nextItem (first : Bool) : Forward (nextItem first) := by
  intro c more c' h
  unfold nextItem at h
  simp only at h
  split at h
  · cases h
  · rename_i rest hr
    obtain ⟨⟩ := h
    exact suffix_of_skipSpace hr
  · rename_i g rest hne hr
    split at h
    · obtain ⟨⟩ := h
      exact skipSpace_suffix c
    · split at h
      · split at h
        · cases h
        · cases h
        · obtain ⟨⟩ := h
          exact (skipSpace_suffix _).trans (suffix_of_skipSpace hr)
      · cases h

/-- An item that is not the first has a comma before it. -/
theorem nextItem_shorter (h : nextItem false c = .ok (true, c')) : c'.rest.length < c.rest.length := by
  unfold nextItem at h
  simp only [Bool.false_eq_true, if_false] at h
  split at h
  · cases h
  · cases h
  · rename_i g rest hne hr
    split at h
    · have hskip := (hr ▸ skipSpace_suffix c : (g :: rest) <:+ c.rest).length_le
      split at h
      · cases h
      · cases h
      · obtain ⟨⟩ := h
        exact Nat.lt_of_le_of_lt (skipSpace_suffix _).length_le hskip
    · cases h

theorem forward_nextName (first : Bool) : Forward (nextName first) := by
  intro c name? c' h
  unfold nextName at h
  simp only at h
  split at h
  · cases h
  · rename_i rest hr
    obtain ⟨⟩ := h
    exact suffix_of_skipSpace hr
  · rename_i g rest hne hr
    refine List.IsSuffix.trans ?_ (suffix_of_skipSpace hr)
    split at h
    · split at h
      · obtain ⟨⟨name, c₁⟩, hname, ⟨⟩⟩ := bind_eq_ok.1 h
        exact forward_textBody _ _ _ hname
      · cases h
    · split at h
      · split at h
        · cases h
        · rename_i rest' hr'
          obtain ⟨⟨name, c₁⟩, hname, ⟨⟩⟩ := bind_eq_ok.1 h
          exact (forward_textBody _ _ _ hname).trans (suffix_of_skipSpace hr')
        · cases h
        · cases h
      · cases h

section
variable {σ : Type}

theorem forward_items {step : σ → Reader σ} (hstep : ∀ s, Forward (step s)) (n : Nat) (first : Bool)
    (s : σ) : Forward (items step n first s) := by
  intro c s' c' h
  induction n generalizing first s c with
  | zero => cases h
  | succ n ih =>
    rcases items_eq_ok.1 h with ⟨hnext, -⟩ | ⟨c₁, s₁, c₂, hnext, hread, hrest⟩
    · exact forward_nextItem first _ _ _ hnext
    · exact ((ih false s₁ c₂ hrest).trans (hstep s _ _ _ hread)).trans
        (forward_nextItem first _ _ _ hnext)

theorem forward_members {step : σ → String → Reader σ} (hstep : ∀ s name, Forward (step s name))
    (n : Nat) (first : Bool) (s : σ) : Forward (members step n first s) := by
  intro c s' c' h
  induction n generalizing first s c with
  | zero => cases h
  | succ n ih =>
    rcases members_eq_ok.1 h with ⟨hnext, -⟩ | ⟨name, c₁, s₁, c₂, hnext, hread, hrest⟩
    · exact forward_nextName first _ _ _ hnext
    · exact ((ih false s₁ c₂ hrest).trans (hstep s name _ _ _ hread)).trans
        (forward_nextName first _ _ _ hnext)

/-- Any bound above what is left will do for the items after the first. -/
theorem items_of_length_lt {step : σ → Reader σ} (hstep : ∀ s, Forward (step s)) {n m : Nat} {s s' : σ}
    (h : items step n false s c = .ok (s', c')) (hm : c.rest.length < m) :
    items step m false s c = .ok (s', c') := by
  induction n generalizing m s c with
  | zero => cases h
  | succ n ih =>
    obtain ⟨m, rfl⟩ := Nat.exists_eq_add_of_lt (Nat.zero_lt_of_lt hm)
    rw [Nat.zero_add] at hm ⊢
    rcases items_eq_ok.1 h with hend | ⟨c₁, s₁, c₂, hnext, hread, hrest⟩
    · exact items_eq_ok.2 (.inl hend)
    · have hcomma := nextItem_shorter hnext
      have hread' := (hstep s _ _ _ hread).length_le
      exact items_eq_ok.2 (.inr ⟨c₁, s₁, c₂, hnext, hread, ih hrest (by omega)⟩)

end

theorem forward_pushItem {read : Reader Json} (hread : Forward read) (vs : List Json) :
    Forward (pushItem read vs) := by
  intro c vs' c' h
  obtain ⟨v, hv, -⟩ := pushItem_eq_ok.1 h
  exact hread _ _ _ hv

theorem forward_pushMember {read : Reader Json} (hread : Forward read) (ms : List (String × Json))
    (name : String) : Forward (pushMember read ms name) := by
  intro c ms' c' h
  obtain ⟨c₁, v, hcolon, hv, -⟩ := pushMember_eq_ok.1 h
  exact (hread _ _ _ hv).trans (forward_colon _ _ _ hcolon)

theorem forward_valueWith (size : Nat) {nested : Option (Reader Json)}
    (hnested : ∀ read ∈ nested, Forward read) : Forward (valueWith size nested) := by
  intro c v c' h
  cases source_of_valueWith h with
  | null hr hw | bool hr hw => exact (forward_word _ _ _ _ hw).trans (suffix_of_skipSpace hr)
  | text hr hs => exact (forward_textBody _ _ _ hs).trans (suffix_of_skipSpace hr)
  | negative hr hn => exact (forward_number _ _ _ hn).trans (suffix_of_skipSpace hr)
  | positive hr hl hn => exact (forward_number _ _ _ hn).trans (skipSpace_suffix c)
  | array hd hr hi =>
    exact (forward_items (forward_pushItem (hnested _ hd)) _ _ _ _ _ _ hi).trans
      (suffix_of_skipSpace hr)
  | object hd hr hm =>
    exact (forward_members (forward_pushMember (hnested _ hd)) _ _ _ _ _ _ hm).trans
      (suffix_of_skipSpace hr)

theorem forward_value (size depth : Nat) : Forward (value size depth) := by
  induction depth with
  | zero => exact forward_valueWith size nofun
  | succ depth ih =>
    refine forward_valueWith size fun read hread => ?_
    obtain rfl := Option.some.inj hread
    exact ih

end Tunnel.Json
