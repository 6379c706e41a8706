import Tunnel.Headers.Wire

/-!
# Header fields, name by name

On the wire a name stands once, so fields come back gathered: those of one name together, where the
name first occurs and as it is spelled there. Gathering twice changes nothing more.
-/
namespace Tunnel

@[simp] theorem sameName_refl (a : String) : sameName a a = true := beq_self_eq_true _

theorem sameName_comm (a b : String) : sameName a b = sameName b a := by
  rw [Bool.eq_iff_iff, sameName, sameName, beq_iff_eq, beq_iff_eq]
  exact eq_comm

theorem sameName_congr {a b : String} (h : sameName a b = true) (name : String) :
    sameName a name = sameName b name := by
  rw [sameName, sameName, beq_iff_eq.1 h]

namespace Headers

def spelled (name : String) (fields : List (String × String)) : List (String × String) :=
  (fields.filter fun g => sameName g.1 name).map fun g => (name, g.2)

def others (name : String) (fields : List (String × String)) : List (String × String) :=
  fields.filter fun g => !sameName g.1 name

/-- Fields with those of one name together, in order, at the place and in the spelling of the first
of them. -/
def gathered : List (String × String) → List (String × String)
  | [] => []
  | f :: rest => f :: spelled f.1 rest ++ gathered (others f.1 rest)
termination_by fields => fields.length
decreasing_by exact Nat.lt_succ_of_le (List.length_filter_le _ rest)

/-- The same header fields as they come back from the wire. -/
def regrouped (h : Headers) : Headers := ⟨gathered h.fields⟩

/-- The first group takes the values of its name and leaves the other fields to the others. -/
theorem foldl_addToGroup (name : String) (vs : List String) (groups : List (String × List String))
    (fields : List (String × String)) :
    fields.foldl (fun groups f => addToGroup f.1 f.2 groups) ((name, vs) :: groups) =
      (name, vs ++ (Headers.mk fields).getAll name) ::
        (others name fields).foldl (fun groups f => addToGroup f.1 f.2 groups) groups := by
  induction fields generalizing vs groups with
  | nil => simp [getAll, others]
  | cons f fields ih =>
    rw [List.foldl_cons, addToGroup, sameName_comm]
    cases hf : sameName f.1 name with
    | true => simp [ih, getAll, others, hf]
    | false => simp [ih, getAll, others, hf]

theorem grouped_cons (f : String × String) (rest : List (String × String)) :
    (Headers.mk (f :: rest)).grouped = (f.1, f.2 :: (Headers.mk rest).getAll f.1) ::
      (Headers.mk (others f.1 rest)).grouped :=
  foldl_addToGroup f.1 [f.2] [] rest

/-- Fields that come from their groups are gathered. -/
theorem ofGroups_grouped (h : Headers) : ofGroups h.grouped = h.regrouped := by
  obtain ⟨fields⟩ := h
  refine congrArg Headers.mk ?_
  change (Headers.mk fields).grouped.flatMap _ = gathered fields
  induction fields using gathered.induct with
  | case1 =>
    rw [gathered]
    rfl
  | case2 f rest ih =>
    rw [gathered, grouped_cons, List.flatMap_cons, ih, List.map_cons, getAll, List.map_map]
    rfl

theorem exists_of_mem_gathered {g : String × String} {fields : List (String × String)}
    (hg : g ∈ gathered fields) : ∃ f ∈ fields, f.1 = g.1 := by
  induction fields using gathered.induct with
  | case1 =>
    rw [gathered] at hg
    cases hg
  | case2 f rest ih =>
    rw [gathered, List.mem_append, List.mem_cons] at hg
    rcases hg with (rfl | hsame) | hrest
    · exact ⟨g, List.mem_cons_self, rfl⟩
    · obtain ⟨w, -, rfl⟩ := List.mem_map.1 hsame
      exact ⟨f, List.mem_cons_self, rfl⟩
    · obtain ⟨w, hw, hname⟩ := ih hrest
      exact ⟨w, List.mem_cons_of_mem f (List.mem_filter.1 hw).1, hname⟩

/-- The fields of other names have other names when they are gathered, too. -/
theorem sameName_gathered_others {name : String} {fields : List (String × String)}
    {g : String × String} (hg : g ∈ gathered (others name fields)) :
    sameName g.1 name = false := by
  obtain ⟨w, hw, hname⟩ := exists_of_mem_gathered hg
  simpa [hname] using (List.mem_filter.1 hw).2

theorem getAll_append (xs ys : List (String × String)) (name : String) :
    (Headers.mk (xs ++ ys)).getAll name =
      (Headers.mk xs).getAll name ++ (Headers.mk ys).getAll name := by
  rw [getAll, List.filter_append, List.map_append, getAll, getAll]

theorem getAll_spelled (a name : String) (fields : List (String × String)) :
    (Headers.mk (spelled a fields)).getAll name =
      if sameName a name then (Headers.mk fields).getAll name else [] := by
  split
  · rename_i h
    have hsame : ∀ g : String × String, sameName g.1 a = sameName g.1 name := fun g => by
      rw [sameName_comm, sameName_congr h, sameName_comm]
    simp [getAll, spelled, List.filter_map, Function.comp_def, h, hsame]
  · rename_i h
    simp [getAll, spelled, List.filter_map, Function.comp_def, h]

theorem others_spelled (name : String) (fields : List (String × String)) :
    others name (spelled name fields) = [] := by
  simp [others, spelled, List.filter_map, Function.comp_def]

/-- Gathered fields have the groups that they had before. -/
theorem grouped_regrouped (h : Headers) : h.regrouped.grouped = h.grouped := by
  obtain ⟨fields⟩ := h
  change (Headers.mk (gathered fields)).grouped = _
  induction fields using gathered.induct with
  | case1 => rw [gathered]
  | case2 f rest ih =>
    have hother : ∀ g ∈ gathered (others f.1 rest), sameName g.1 f.1 = false :=
      fun g hg => sameName_gathered_others hg
    have hnone : (Headers.mk (gathered (others f.1 rest))).getAll f.1 = [] := by
      rw [getAll, List.filter_eq_nil_iff.2 (fun g hg => by simp [hother g hg]), List.map_nil]
    have hall : others f.1 (gathered (others f.1 rest)) = gathered (others f.1 rest) :=
      List.filter_eq_self.2 fun g hg => by simp [hother g hg]
    rw [gathered, List.cons_append, grouped_cons, grouped_cons, getAll_append, getAll_spelled,
      if_pos (sameName_refl _), hnone, List.append_nil, others, List.filter_append, ← others, ← others,
      others_spelled, hall, List.nil_append, ih]

theorem getAll_cons (f : String × String) (rest : List (String × String)) (name : String) :
    (Headers.mk (f :: rest)).getAll name =
      if sameName f.1 name then f.2 :: (Headers.mk rest).getAll name
      else (Headers.mk rest).getAll name := by
  rw [getAll, List.filter_cons]
  split
  · rw [List.map_cons, getAll]
  · rw [getAll]

theorem getAll_others (a name : String) (fields : List (String × String)) :
    (Headers.mk (others a fields)).getAll name =
      if sameName a name then [] else (Headers.mk fields).getAll name := by
  rw [getAll, others, List.filter_filter]
  split
  · rename_i h
    rw [List.filter_eq_nil_iff.2, List.map_nil]
    intro g _ hg
    rw [Bool.and_eq_true, sameName_comm, ← sameName_congr h, sameName_comm] at hg
    simp [hg.1] at hg
  · rename_i h
    rw [getAll]
    refine congrArg _ (List.filter_congr fun g _ => ?_)
    cases hg : sameName g.1 name with
    | false => rfl
    | true =>
      rw [sameName_congr hg, sameName_comm, Bool.eq_false_iff.2 h]
      rfl

/-- Gathering keeps the values of every name, in order. -/
theorem getAll_regrouped (h : Headers) (name : String) :
    h.regrouped.getAll name = h.getAll name := by
  obtain ⟨fields⟩ := h
  change (Headers.mk (gathered fields)).getAll name = _
  induction fields using gathered.induct with
  | case1 => rw [gathered]
  | case2 f rest ih =>
    rw [gathered, List.cons_append, getAll_cons, getAll_append, ih, getAll_spelled, getAll_others,
      getAll_cons]
    split
    · rw [List.append_nil]
    · rw [List.nil_append]

/-- Gathering loses no field. -/
theorem size_regrouped (h : Headers) : h.regrouped.size = h.size := by
  obtain ⟨fields⟩ := h
  change (gathered fields).length = fields.length
  induction fields using gathered.induct with
  | case1 => rw [gathered]
  | case2 f rest ih =>
    have hsplit := List.length_eq_countP_add_countP (fun g => sameName g.1 f.1) (l := rest)
    rw [gathered, List.cons_append, List.length_cons, List.length_append, ih, List.length_cons,
      spelled, List.length_map, others, hsplit, List.countP_eq_length_filter,
      List.countP_eq_length_filter]
    simp

/-- Gathering twice is gathering once. -/
theorem regrouped_regrouped (h : Headers) : h.regrouped.regrouped = h.regrouped := by
  rw [← ofGroups_grouped, grouped_regrouped, ofGroups_grouped]

theorem texts?_eq_some {vs : List Json} {ss : List String} :
    texts? vs = some ss ↔ vs = ss.map .text := by
  induction vs generalizing ss with
  | nil => cases ss <;> simp [texts?]
  | cons v vs ih =>
    cases v with
    | text s =>
      cases ss with
      | nil => simp [texts?]
      | cons s' ss =>
        simp only [texts?, Option.map_eq_some_iff, List.cons.injEq, List.map_cons, Json.text.injEq]
        exact ⟨fun ⟨_, h, hs, rfl⟩ => ⟨hs, ih.1 h⟩, fun ⟨hs, h⟩ => ⟨ss, ih.2 h, hs, rfl⟩⟩
    | _ => cases ss <;> simp [texts?]

theorem values?_eq_some {v : Json} {ss : List String} :
    values? v = some ss ↔ (∃ s, v = .text s ∧ ss = [s]) ∨ v = .array (ss.map .text) := by
  cases v with
  | text s => simp [values?, eq_comm]
  | array vs => simp [values?, texts?_eq_some]
  | _ => simp [values?]

/-- The fields that the members of an object stand for: a text is a field, a list is a field for each
of its texts. -/
inductive Entries : List (String × Json) → List (String × String) → Prop where
  | nil : Entries [] []
  | text {ms : List (String × Json)} {fields : List (String × String)} (name s : String)
    (h : Entries ms fields) : Entries ((name, .text s) :: ms) ((name, s) :: fields)
  | list {ms : List (String × Json)} {fields : List (String × String)} (name : String)
    (ss : List String) (h : Entries ms fields) :
    Entries ((name, .array (ss.map .text)) :: ms) (ss.map (fun s => (name, s)) ++ fields)

theorem ofMembers_eq_ok {ms : List (String × Json)} {fields : List (String × String)} :
    ofMembers ms = .ok fields ↔ Entries ms fields := by
  constructor
  · intro h
    induction ms generalizing fields with
    | nil =>
      obtain ⟨⟩ := h
      exact .nil
    | cons m ms ih =>
      obtain ⟨name, v⟩ := m
      rw [ofMembers] at h
      cases hv : values? v with
      | none =>
        rw [hv] at h
        cases h
      | some ss =>
        rw [hv] at h
        cases hrest : ofMembers ms with
        | error e =>
          simp only [hrest] at h
          cases h
        | ok rest =>
          simp only [hrest] at h
          obtain ⟨⟩ := h
          rcases values?_eq_some.1 hv with ⟨s, rfl, rfl⟩ | rfl
          · exact .text name s (ih hrest)
          · exact .list name ss (ih hrest)
  · intro h
    induction h with
    | nil => rfl
    | text name s h ih => simp only [ofMembers, values?, ih]; rfl
    | list name ss h ih =>
      simp only [ofMembers, values?_eq_some.2 (.inr rfl), ih]
      rfl

/-- Header fields are nothing, or what the members of an object stand for. -/
theorem ofJson_eq_ok {v : Json} {h : Headers} :
    ofJson v = .ok h ↔ v = .null ∧ h = empty ∨ ∃ ms, v = .object ms ∧ Entries ms h.fields := by
  cases v with
  | null => simp [ofJson, eq_comm]
  | object ms =>
    simp only [ofJson, ← ofMembers_eq_ok]
    cases hms : ofMembers ms with
    | error e => simp [Functor.map, Except.map, hms]
    | ok fields =>
      obtain ⟨hs⟩ := h
      simp [Functor.map, Except.map, hms]
  | _ => simp [ofJson]

theorem values?_wireValue (vs : List String) : values? (wireValue vs) = some vs := by
  unfold wireValue
  split
  · rfl
  · exact texts?_eq_some.2 rfl

theorem ofMembers_groups (groups : List (String × List String)) :
    ofMembers (groups.map fun g => (g.1, wireValue g.2)) = .ok (ofGroups groups).fields := by
  induction groups with
  | nil => rfl
  | cons g groups ih =>
    rw [List.map_cons, ofMembers, values?_wireValue]
    simp only [ih]
    rfl

/-- Header fields come back from the wire gathered. -/
theorem ofJson_toJson (h : Headers) : ofJson h.toJson = .ok h.regrouped := by
  rw [toJson, ofJson, ofMembers_groups, ← ofGroups_grouped]
  rfl

theorem toJson_regrouped (h : Headers) : h.regrouped.toJson = h.toJson := by
  rw [toJson, grouped_regrouped, toJson]

end Headers

end Tunnel
