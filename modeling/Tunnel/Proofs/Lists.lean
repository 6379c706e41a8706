/-!
# Lists that change in one place

A list that grows by one entry, and two lists that differ in one entry.
-/
namespace Tunnel

theorem getElem?_concat_cases {α : Type} {xs : List α} {x y : α} {n : Nat}
    (h : (xs ++ [x])[n]? = some y) : xs[n]? = some y ∨ n = xs.length ∧ y = x := by
  rcases Nat.lt_or_ge n xs.length with hlt | hge
  · exact .inl (by rwa [List.getElem?_append_left hlt] at h)
  · have hn := (List.getElem?_eq_some_iff.1 h).1
    rw [List.length_append, List.length_singleton] at hn
    obtain rfl : n = xs.length := by omega
    rw [List.getElem?_concat_length] at h
    exact .inr ⟨rfl, (Option.some.inj h).symm⟩

/-- An entry of a list that has grown by one is the new entry, or it stood in the list before. -/
theorem append_cons_concat_cases {α : Type} {xs ys zs : List α} {x z : α}
    (h : xs ++ x :: ys = zs ++ [z]) :
    ys = [] ∧ xs = zs ∧ x = z ∨ ∃ ys', ys = ys' ++ [z] ∧ xs ++ x :: ys' = zs := by
  rcases List.eq_nil_or_concat ys with rfl | ⟨ys', y, rfl⟩
  · obtain ⟨hinit, hlast⟩ := List.append_inj' h rfl
    exact .inl ⟨rfl, hinit, (List.cons.inj hlast).1⟩
  · rw [List.concat_eq_append] at h ⊢
    have hsplit : (xs ++ x :: ys') ++ [y] = zs ++ [z] := by
      rw [← h, List.append_assoc, List.cons_append]
    obtain ⟨hinit, hlast⟩ := List.append_inj' hsplit rfl
    obtain rfl := (List.cons.inj hlast).1
    exact .inr ⟨ys', rfl, hinit⟩

/-- The entries of one number, where one more entry comes last. -/
theorem map_snd_filter_concat {α : Type} (xs : List (Nat × α)) (k j : Nat) (a : α) :
    ((xs ++ [(k, a)]).filter fun x => x.1 = j).map Prod.snd =
      (xs.filter fun x => x.1 = j).map Prod.snd ++ if j = k then [a] else [] := by
  rw [List.filter_append, List.map_append]
  by_cases hj : j = k
  · simp [hj]
  · simp [hj, Ne.symm hj]

/-- What holds of all entries, and is kept by the change of one, holds of all entries then. -/
theorem forall_mem_modify {α : Type} {P : α → Prop} {xs : List α} {f : α → α}
    (hxs : ∀ x ∈ xs, P x) (hf : ∀ x, P x → P (f x)) (n : Nat) : ∀ x ∈ xs.modify n f, P x := by
  intro x hx
  obtain ⟨i, hi⟩ := List.getElem?_of_mem hx
  rw [List.getElem?_modify] at hi
  cases hold : xs[i]? with
  | none => simp [hold] at hi
  | some y =>
    have hy : P y := hxs y (List.mem_of_getElem? hold)
    simp only [hold, Option.map_eq_map, Option.map_some, Option.some.injEq] at hi
    subst hi
    split
    · exact hf y hy
    · exact hy

/-- Two lists that differ in one place count alike but for that place. -/
theorem countP_of_eq_off {α : Type} {p : α → Bool} {xs ys : List α} {i : Nat} {x y : α}
    (hlen : ys.length = xs.length) (hx : xs[i]? = some x) (hy : ys[i]? = some y)
    (hoff : ∀ (j : Nat) (x y : α), i ≠ j → xs[j]? = some x → ys[j]? = some y → p y = p x) :
    ys.countP p + (p x).toNat = xs.countP p + (p y).toNat := by
  obtain ⟨hi, hxi⟩ := List.getElem?_eq_some_iff.1 hx
  have hmap : ys.map p = (xs.map p).set i (p y) := by
    refine List.ext_getElem? fun j => ?_
    rw [List.getElem?_map, List.getElem?_set, List.getElem?_map, List.length_map]
    by_cases hij : i = j
    · subst hij
      rw [if_pos rfl, if_pos hi, hy, Option.map_some]
    · rw [if_neg hij]
      rcases Nat.lt_or_ge j xs.length with hj | hj
      · have hy' := List.getElem?_eq_getElem (hlen ▸ hj)
        have hx' := List.getElem?_eq_getElem hj
        rw [hy', hx', Option.map_some, Option.map_some, hoff j _ _ hij hx' hy']
      · rw [List.getElem?_eq_none hj, List.getElem?_eq_none (hlen ▸ hj)]
  have hcount : ∀ zs : List α, zs.countP p = (zs.map p).countP id := fun zs =>
    (List.countP_map (p := id) (f := p) (l := zs)).symm
  have hi' : i < (xs.map p).length := by rwa [List.length_map]
  have hle := List.boole_getElem_le_countP (p := id) hi'
  rw [hcount ys, hcount xs, hmap, List.countP_set hi']
  rw [List.getElem_map, hxi] at hle ⊢
  revert hle
  cases p x <;> cases p y <;> simp only [id, if_true, Bool.false_eq_true, if_false,
    Bool.toNat_true, Bool.toNat_false] <;> omega

end Tunnel
