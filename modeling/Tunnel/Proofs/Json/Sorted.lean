import Mathlib.Data.String.Basic
import Tunnel.Json.Basic

/-!
# Sorted members

A member that is set takes the place of one of its name, or else the place that keeps the names
sorted. The normal form of an object is what comes of setting its members one after the other, and it
is the same object where the names are sorted already.
-/
namespace Tunnel.Json

/-- The names of members are sorted, and so there is one member of a name. -/
def Sorted (ms : List (String × Json)) : Prop :=
  ms.Pairwise fun m m' => m.1 < m'.1

variable {name : String} {v : Json} {ms : List (String × Json)}

theorem Sorted.nodup_names {ms : List (String × Json)} (h : Sorted ms) : (ms.map Prod.fst).Nodup :=
  List.pairwise_map.2 (h.imp fun hlt => hlt.ne)

@[simp] theorem member?_cons (n : String) (m : String × Json) (ms : List (String × Json)) :
    member? n (m :: ms) = if m.1 = n then some m.2 else member? n ms := by
  simp only [member?, List.find?_cons]
  split <;> simp_all

@[simp] theorem setMember_nil (name : String) (v : Json) : setMember name v [] = [(name, v)] :=
  rfl

theorem setMember_cons (name : String) (v : Json) (m : String × Json) (ms : List (String × Json)) :
    setMember name v (m :: ms) =
      if name = m.1 then (name, v) :: ms
      else if name < m.1 then (name, v) :: m :: ms
      else m :: setMember name v ms :=
  rfl

theorem member?_setMember_self (name : String) (v : Json) (ms : List (String × Json)) :
    member? name (setMember name v ms) = some v := by
  induction ms with
  | nil => simp
  | cons m ms ih =>
    rw [setMember_cons]
    split
    · rw [member?_cons, if_pos rfl]
    · rename_i hne
      split
      · rw [member?_cons, if_pos rfl]
      · rw [member?_cons, if_neg (Ne.symm hne), ih]

theorem member?_setMember_ne {n : String} (hn : n ≠ name) (v : Json) (ms : List (String × Json)) :
    member? n (setMember name v ms) = member? n ms := by
  induction ms with
  | nil => simp [Ne.symm hn]
  | cons m ms ih =>
    rw [setMember_cons]
    split
    · rename_i heq
      rw [member?_cons, member?_cons, if_neg (Ne.symm hn), if_neg (heq ▸ Ne.symm hn)]
    · split
      · rw [member?_cons, if_neg (Ne.symm hn)]
      · rw [member?_cons, member?_cons, ih]

theorem forall_mem_setMember {P : String × Json → Prop} (hv : P (name, v)) (hms : ∀ m ∈ ms, P m) :
    ∀ m ∈ setMember name v ms, P m := by
  induction ms with
  | nil => simpa using hv
  | cons m ms ih =>
    obtain ⟨hm, hrest⟩ := List.forall_mem_cons.1 hms
    rw [setMember_cons]
    split
    · exact List.forall_mem_cons.2 ⟨hv, hrest⟩
    · split
      · exact List.forall_mem_cons.2 ⟨hv, hms⟩
      · exact List.forall_mem_cons.2 ⟨hm, ih hrest⟩

theorem Sorted.setMember (h : Sorted ms) (name : String) (v : Json) :
    Sorted (setMember name v ms) := by
  induction ms with
  | nil => exact List.pairwise_singleton _ _
  | cons m ms ih =>
    obtain ⟨hfirst, hrest⟩ := List.pairwise_cons.1 h
    rw [setMember_cons]
    split
    · rename_i heq
      exact List.pairwise_cons.2 ⟨heq ▸ hfirst, hrest⟩
    · rename_i hne
      split
      · rename_i hlt
        refine List.pairwise_cons.2 ⟨List.forall_mem_cons.2 ⟨hlt, fun m' hm' => ?_⟩, h⟩
        exact hlt.trans (hfirst m' hm')
      · rename_i hge
        refine List.pairwise_cons.2 ⟨?_, ih hrest⟩
        exact forall_mem_setMember (P := fun m' => m.1 < m'.1)
          (lt_of_le_of_ne (not_lt.1 hge) (Ne.symm hne)) hfirst

/-- Members of other names stay as they are. -/
theorem filter_setMember {p : String → Bool} (hp : p name = false) (v : Json)
    (ms : List (String × Json)) :
    (setMember name v ms).filter (p ·.1) = ms.filter (p ·.1) := by
  induction ms with
  | nil => simp [hp]
  | cons m ms ih =>
    rw [setMember_cons]
    split
    · rename_i heq
      simp [← heq, hp]
    · split
      · simp [hp]
      · rw [List.filter_cons, List.filter_cons, ih]

theorem member?_of_forall_lt (h : ∀ m ∈ ms, name < m.1) : member? name ms = none := by
  rw [member?, List.find?_eq_none.2, Option.map_none]
  intro m hm
  simpa using (h m hm).ne'

/-- A member that is set to what it is stays. -/
theorem Sorted.setMember_of_member? (h : Sorted ms) (hv : member? name ms = some v) :
    Json.setMember name v ms = ms := by
  induction ms with
  | nil => cases hv
  | cons m ms ih =>
    obtain ⟨hfirst, hrest⟩ := List.pairwise_cons.1 h
    rw [member?_cons] at hv
    rw [setMember_cons]
    split
    · rename_i heq
      rw [if_pos heq.symm] at hv
      rw [heq, ← Option.some.inj hv]
    · rename_i hne
      rw [if_neg (Ne.symm hne)] at hv
      split
      · rename_i hlt
        rw [member?_of_forall_lt fun m' hm' => hlt.trans (hfirst m' hm')] at hv
        cases hv
      · rw [ih hrest hv]

/-- A member whose name comes after all others is set at the end. -/
theorem setMember_of_forall_lt (h : ∀ m ∈ ms, m.1 < name) (v : Json) :
    setMember name v ms = ms ++ [(name, v)] := by
  induction ms with
  | nil => rfl
  | cons m ms ih =>
    obtain ⟨hlt, hrest⟩ := List.forall_mem_cons.1 h
    rw [setMember_cons, if_neg hlt.ne', if_neg hlt.not_gt, ih hrest, List.cons_append]

theorem sorted_normalizeMembers {sorted : List (String × Json)} (h : Sorted sorted)
    (ms : List (String × Json)) : Sorted (normalizeMembers ms sorted) := by
  induction ms generalizing sorted with
  | nil => exact h
  | cons m ms ih => exact ih (h.setMember m.1 _)

theorem forall_mem_normalizeMembers {P : Json → Prop} {sorted : List (String × Json)}
    (hms : ∀ m ∈ ms, P (normalize m.2)) (hsorted : ∀ m ∈ sorted, P m.2) :
    ∀ m ∈ normalizeMembers ms sorted, P m.2 := by
  induction ms generalizing sorted with
  | nil => exact hsorted
  | cons m ms ih =>
    obtain ⟨hm, hrest⟩ := List.forall_mem_cons.1 hms
    exact ih hrest (forall_mem_setMember (P := fun m => P m.2) hm hsorted)

/-- Members that are sorted keep their places. -/
theorem normalizeMembers_of_sorted {sorted : List (String × Json)} (h : Sorted (sorted ++ ms)) :
    normalizeMembers ms sorted = sorted ++ ms.map fun m => (m.1, normalize m.2) := by
  induction ms generalizing sorted with
  | nil => simp [normalizeMembers]
  | cons m ms ih =>
    have hlast : ∀ m' ∈ sorted, m'.1 < m.1 := fun m' hm' =>
      (List.pairwise_append.1 h).2.2 m' hm' m List.mem_cons_self
    have hnext : Sorted (sorted ++ [(m.1, normalize m.2)] ++ ms) := by
      have hnames : (sorted ++ m :: ms).map Prod.fst =
          (sorted ++ [(m.1, normalize m.2)] ++ ms).map Prod.fst := by simp
      rw [Sorted, ← List.pairwise_map (f := Prod.fst) (R := (· < ·))] at h ⊢
      exact hnames ▸ h
    rw [normalizeMembers, setMember_of_forall_lt hlast, ih hnext, List.map_cons, List.append_assoc,
      List.singleton_append]

theorem normalizeItems_eq_map (vs : List Json) : normalizeItems vs = vs.map normalize := by
  induction vs with
  | nil => rfl
  | cons v vs ih => rw [normalizeItems, ih, List.map_cons]

end Tunnel.Json
