import Mathlib.Tactic.SplitIfs
import Mathlib.Tactic.ByContra
import Tunnel.Dispatch.Tally

/-!
# What a tally says

In a tally in which no label has two entries and no entry is zero, the entries are the labels that
are counted. Adding and removing keep it so.
-/
namespace Tunnel.Tally

variable {t : Tally} {id key : RequestId}

def countIn (key : RequestId) : List (RequestId × Nat) → Nat
  | [] => 0
  | e :: entries => if e.1 = key then e.2 else countIn key entries

def count (t : Tally) (key : RequestId) : Nat := countIn key t.entries

/-- No label has two entries, and no entry is zero. -/
structure Proper (t : Tally) : Prop where
  nodup : (t.entries.map Prod.fst).Nodup
  pos : ∀ e ∈ t.entries, 0 < e.2

theorem empty_proper : empty.Proper := ⟨List.nodup_nil, nofun⟩

theorem countIn_of_eq {e : RequestId × Nat} {entries : List (RequestId × Nat)} (h : e.1 = key) :
    countIn key (e :: entries) = e.2 := if_pos h

theorem countIn_of_ne {e : RequestId × Nat} {entries : List (RequestId × Nat)} (h : e.1 ≠ key) :
    countIn key (e :: entries) = countIn key entries := if_neg h

theorem countIn_eq_zero {entries : List (RequestId × Nat)} (h : key ∉ entries.map Prod.fst) :
    countIn key entries = 0 := by
  induction entries with
  | nil => rfl
  | cons e entries ih =>
    rw [List.map_cons, List.mem_cons, not_or] at h
    rw [countIn_of_ne (Ne.symm h.1), ih h.2]

theorem mem_of_countIn_pos {entries : List (RequestId × Nat)} (h : 0 < countIn key entries) :
    key ∈ entries.map Prod.fst := by
  by_contra hmem
  rw [countIn_eq_zero hmem] at h
  exact Nat.lt_irrefl 0 h

theorem countIn_pos {entries : List (RequestId × Nat)} (hpos : ∀ e ∈ entries, 0 < e.2)
    (h : key ∈ entries.map Prod.fst) : 0 < countIn key entries := by
  induction entries with
  | nil => cases h
  | cons e entries ih =>
    rw [countIn]
    split_ifs with he
    · exact hpos e List.mem_cons_self
    · rw [List.map_cons, List.mem_cons] at h
      exact ih (fun e he => hpos e (List.mem_cons_of_mem _ he)) (h.resolve_left (Ne.symm he))

theorem Proper.contains_iff (hp : t.Proper) : t.contains key = true ↔ 0 < t.count key := by
  have hmem : t.contains key = true ↔ key ∈ t.entries.map Prod.fst := by
    simp [contains]
  rw [hmem]
  exact ⟨countIn_pos hp.pos, mem_of_countIn_pos⟩

theorem Proper.entries_eq_nil (hp : t.Proper) (h : ∀ key, t.count key = 0) : t.entries = [] := by
  refine List.eq_nil_iff_forall_not_mem.2 fun e he => ?_
  have hpos := countIn_pos hp.pos (List.mem_map_of_mem (f := Prod.fst) he)
  exact Nat.ne_of_gt hpos (h e.1)

theorem countIn_addTo (id key : RequestId) (entries : List (RequestId × Nat)) :
    countIn key (addTo id entries) = countIn key entries + if id = key then 1 else 0 := by
  induction entries with
  | nil => exact (Nat.zero_add _).symm
  | cons e entries ih =>
    rw [addTo]
    by_cases he : e.1 = id
    · rw [if_pos he]
      by_cases hk : id = key
      · rw [countIn_of_eq hk, countIn_of_eq (he.trans hk), if_pos hk]
      · rw [countIn_of_ne hk, countIn_of_ne (fun h => hk (he.symm.trans h)), if_neg hk]
        rfl
    · rw [if_neg he]
      by_cases hk : e.1 = key
      · rw [countIn_of_eq hk, countIn_of_eq hk, if_neg fun hid => he (hk.trans hid.symm)]
        rfl
      · rw [countIn_of_ne hk, countIn_of_ne hk, ih]

theorem count_add (t : Tally) (id key : RequestId) :
    (t.add id).count key = t.count key + if id = key then 1 else 0 := countIn_addTo ..

theorem totalIn_addTo (id : RequestId) (entries : List (RequestId × Nat)) :
    totalIn (addTo id entries) = totalIn entries + 1 := by
  induction entries with
  | nil => rfl
  | cons e entries ih =>
    rw [addTo]
    split_ifs
    · rw [totalIn, totalIn]
      omega
    · rw [totalIn, totalIn, ih]
      omega

theorem total_add (t : Tally) (id : RequestId) : (t.add id).total = t.total + 1 :=
  totalIn_addTo id t.entries

theorem labels_addTo (id : RequestId) (entries : List (RequestId × Nat)) :
    (addTo id entries).map Prod.fst = entries.map Prod.fst ∨
      id ∉ entries.map Prod.fst ∧
        (addTo id entries).map Prod.fst = entries.map Prod.fst ++ [id] := by
  induction entries with
  | nil => exact .inr ⟨nofun, rfl⟩
  | cons e entries ih =>
    rw [addTo]
    by_cases he : e.1 = id
    · rw [if_pos he]
      exact .inl (by rw [List.map_cons, List.map_cons, he])
    · rw [if_neg he]
      rcases ih with hsame | ⟨hnot, hnew⟩
      · exact .inl (by rw [List.map_cons, hsame, List.map_cons])
      · refine .inr ⟨?_, by rw [List.map_cons, hnew, List.map_cons, List.cons_append]⟩
        rw [List.map_cons, List.mem_cons, not_or]
        exact ⟨Ne.symm he, hnot⟩

theorem Proper.add (hp : t.Proper) (id : RequestId) : (t.add id).Proper := by
  have hpos : ∀ entries : List (RequestId × Nat), (∀ e ∈ entries, 0 < e.2) →
      ∀ e ∈ addTo id entries, 0 < e.2 := by
    intro entries hall
    induction entries with
    | nil => simp [addTo]
    | cons e entries ih =>
      rw [List.forall_mem_cons] at hall
      rw [addTo]
      split_ifs
      · exact List.forall_mem_cons.2 ⟨Nat.succ_pos _, hall.2⟩
      · exact List.forall_mem_cons.2 ⟨hall.1, ih hall.2⟩
  refine ⟨?_, hpos t.entries hp.pos⟩
  rcases labels_addTo id t.entries with hsame | ⟨hnot, hnew⟩
  · exact hsame ▸ hp.nodup
  · change ((addTo id t.entries).map Prod.fst).Nodup
    rw [hnew]
    refine List.nodup_append.2 ⟨hp.nodup, List.pairwise_singleton _ _, ?_⟩
    rintro label hl _ hlast rfl
    exact hnot (List.mem_singleton.1 hlast ▸ hl)

theorem countIn_removeFrom (id key : RequestId) {entries : List (RequestId × Nat)}
    (hn : (entries.map Prod.fst).Nodup) : countIn key (removeFrom id entries) =
      countIn key entries - if id = key then 1 else 0 := by
  induction entries with
  | nil => rw [removeFrom, countIn, Nat.zero_sub]
  | cons e entries ih =>
    rw [List.map_cons, List.nodup_cons] at hn
    rw [removeFrom]
    by_cases he : e.1 = id
    · rw [if_pos he]
      by_cases hk : id = key
      · -- the entry is gone with the last one
        have hzero : countIn key entries = 0 := countIn_eq_zero (hk ▸ he ▸ hn.1)
        rw [if_pos hk, countIn_of_eq (he.trans hk)]
        split_ifs with hlast
        · rw [hzero, hlast]
        · rw [countIn_of_eq hk]
      · rw [if_neg hk, countIn_of_ne fun h => hk (he.symm.trans h)]
        split_ifs
        · rfl
        · rw [countIn_of_ne hk]
          rfl
    · rw [if_neg he]
      by_cases hk : e.1 = key
      · rw [countIn_of_eq hk, countIn_of_eq hk, if_neg fun hid => he (hk.trans hid.symm)]
        rfl
      · rw [countIn_of_ne hk, countIn_of_ne hk, ih hn.2]

theorem Proper.count_remove (hp : t.Proper) (id key : RequestId) :
    (t.remove id).count key = t.count key - if id = key then 1 else 0 :=
  countIn_removeFrom id key hp.nodup

theorem totalIn_removeFrom {entries : List (RequestId × Nat)} (hpos : 0 < countIn id entries) :
    totalIn (removeFrom id entries) + 1 = totalIn entries := by
  induction entries with
  | nil => cases hpos
  | cons e entries ih =>
    rw [removeFrom]
    by_cases he : e.1 = id
    · rw [countIn_of_eq he] at hpos
      rw [if_pos he, totalIn]
      split_ifs
      · omega
      · rw [totalIn]
        omega
    · rw [countIn_of_ne he] at hpos
      rw [if_neg he, totalIn, totalIn, Nat.add_assoc, ih hpos]

theorem total_remove (hc : 0 < t.count id) : (t.remove id).total + 1 = t.total :=
  totalIn_removeFrom hc

theorem Proper.remove (hp : t.Proper) (id : RequestId) : (t.remove id).Proper := by
  have hlist : ∀ entries : List (RequestId × Nat), (∀ e ∈ entries, 0 < e.2) →
      (∀ e ∈ removeFrom id entries, 0 < e.2) ∧
        List.Sublist ((removeFrom id entries).map Prod.fst) (entries.map Prod.fst) := by
    intro entries hall
    induction entries with
    | nil => exact ⟨hall, .slnil⟩
    | cons e entries ih =>
      rw [List.forall_mem_cons] at hall
      obtain ⟨hpos, hsub⟩ := ih hall.2
      rw [removeFrom]
      split_ifs with he hlast
      · exact ⟨hall.2, .cons _ (List.Sublist.refl _)⟩
      · have hkeys : ((e.1, e.2 - 1) :: entries).map Prod.fst = (e :: entries).map Prod.fst := rfl
        exact ⟨List.forall_mem_cons.2 ⟨Nat.pos_of_ne_zero hlast, hall.2⟩, he ▸ hkeys ▸ .refl _⟩
      · exact ⟨List.forall_mem_cons.2 ⟨hall.1, hpos⟩, hsub.cons_cons _⟩
  obtain ⟨hpos, hsub⟩ := hlist t.entries hp.pos
  exact ⟨hsub.nodup hp.nodup, hpos⟩

end Tunnel.Tally
