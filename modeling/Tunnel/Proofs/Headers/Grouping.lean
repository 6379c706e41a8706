import Mathlib.Algebra.GroupWithZero.Nat
import Tunnel.Proofs.Headers.Document
import Tunnel.Proofs.Message.RoundTrip

/-!
# Groups of header fields

Each name has one group, in the order and the spelling in which the names first occur, and a group has
all values of its name. So what comes back from the wire differs from what was sent only in where fields
of one name stand and how they spell it.
-/
namespace Tunnel.Headers

variable {fields : List (String × String)}

theorem names_grouped (h : Headers) :
    h.grouped.map Prod.fst = (h.fields.map Prod.fst).eraseDupsBy sameName := by
  obtain ⟨fields⟩ := h
  induction fields using gathered.induct with
  | case1 => rfl
  | case2 f rest ih =>
    have hothers : (rest.map Prod.fst).filter (fun name => sameName name f.1 = false) =
        (others f.1 rest).map Prod.fst := by
      rw [others, List.filter_map]
      refine congrArg _ (List.filter_congr fun g _ => ?_)
      cases hg : sameName g.1 f.1 <;> simp [hg]
    rw [grouped_cons, List.map_cons, ih, List.map_cons, List.eraseDupsBy_cons, hothers]

/-- A name that has values among the fields of other names is another name. -/
theorem sameName_of_getAll_others {a name : String}
    (h : (Headers.mk (others a fields)).getAll name ≠ []) : sameName a name = false := by
  rw [getAll_others] at h
  by_cases hname : sameName a name = true
  · rw [if_pos hname] at h
    exact absurd rfl h
  · exact Bool.eq_false_iff.2 hname

/-- A group has the values of its name, and there are some. -/
theorem values_grouped {h : Headers} {g : String × List String} (hg : g ∈ h.grouped) :
    g.2 ≠ [] ∧ g.2 = h.getAll g.1 := by
  obtain ⟨fields⟩ := h
  induction fields using gathered.induct with
  | case1 => cases hg
  | case2 f rest ih =>
    rw [grouped_cons] at hg
    rcases List.mem_cons.1 hg with rfl | hother
    · refine ⟨List.cons_ne_nil _ _, ?_⟩
      rw [getAll_cons, if_pos (sameName_refl f.1)]
    · -- a group of the other fields would be empty if it had the first name
      obtain ⟨hne, hvalues⟩ := ih hother
      have hname := Bool.eq_false_iff.1 (sameName_of_getAll_others (hvalues ▸ hne))
      refine ⟨hne, ?_⟩
      rw [hvalues, getAll_others, if_neg hname, getAll_cons, if_neg hname]

/-- The groups of the fields of other names have other names. -/
theorem sameName_grouped_others {name : String} {g : String × List String}
    (hg : g ∈ (Headers.mk (others name fields)).grouped) : sameName name g.1 = false := by
  obtain ⟨hne, hvalues⟩ := values_grouped hg
  exact sameName_of_getAll_others (hvalues ▸ hne)

theorem pairwise_grouped (h : Headers) :
    h.grouped.Pairwise fun g g' => sameName g.1 g'.1 = false := by
  obtain ⟨fields⟩ := h
  induction fields using gathered.induct with
  | case1 => exact .nil
  | case2 f rest ih =>
    rw [grouped_cons]
    exact .cons (fun g hg => sameName_grouped_others hg) ih

theorem size_ofGroups (groups : List (String × List String)) :
    (ofGroups groups).size = (groups.map fun g => g.2.length).sum := by
  rw [ofGroups, size, List.length_flatMap]
  simp only [List.length_map]

theorem sum_grouped (h : Headers) : (h.grouped.map fun g => g.2.length).sum = h.size := by
  rw [← size_ofGroups, ofGroups_grouped, size_regrouped]

/-- Fields of one name spell it alike, and no field of another name stands between them. -/
structure Contiguous (fields : List (String × String)) : Prop where
  alike : ∀ f ∈ fields, ∀ g ∈ fields, sameName f.1 g.1 = true → f.1 = g.1
  adjacent : ∀ f between g, [f, between, g].Sublist fields → sameName f.1 g.1 = true →
    sameName f.1 between.1 = true

theorem Contiguous.sublist {fields' : List (String × String)} (h : Contiguous fields)
    (hsub : fields'.Sublist fields) : Contiguous fields' :=
  ⟨fun f hf g hg => h.alike f (hsub.subset hf) g (hsub.subset hg),
    fun f between g hthree => h.adjacent f between g (hthree.trans hsub)⟩

/-- If nothing that satisfies a condition comes after something that does not, a list is what satisfies
it and then the rest. -/
theorem filter_append_others {α : Type} {p : α → Bool} {xs : List α}
    (h : xs.Pairwise fun x y => p y = true → p x = true) :
    xs.filter p ++ xs.filter (fun x => !p x) = xs := by
  induction h with
  | nil => rfl
  | @cons x xs hx _ ih =>
    cases hp : p x with
    | true =>
      rw [List.filter_cons_of_pos hp, List.filter_cons_of_neg (by simp [hp]), List.cons_append, ih]
    | false =>
      have hnone : ∀ y ∈ xs, ¬ p y = true := fun y hy hpy => by
        rw [hx y hy hpy] at hp
        cases hp
      rw [List.filter_cons_of_neg (by simp [hp]), List.filter_cons_of_pos (by simp [hp]),
        List.filter_eq_nil_iff.2 hnone, List.nil_append, List.filter_eq_self.2]
      exact fun y hy => by simp [hnone y hy]

theorem Contiguous.gathered_eq (h : Contiguous fields) : gathered fields = fields := by
  induction fields using gathered.induct with
  | case1 => rw [gathered]
  | case2 f rest ih =>
    have hspelled : spelled f.1 rest = rest.filter fun g => sameName g.1 f.1 := by
      refine (List.map_congr_left fun g hg => ?_).trans (List.map_id _)
      obtain ⟨hmem, hname⟩ := List.mem_filter.1 hg
      rw [← h.alike g (List.mem_cons_of_mem f hmem) f List.mem_cons_self hname]
      rfl
    -- no other name stands between the first field and one of its name
    have hsplit : rest.Pairwise fun e g => sameName g.1 f.1 = true → sameName e.1 f.1 = true := by
      refine List.pairwise_iff_forall_sublist.2 fun {e g} hpair hname => ?_
      rw [sameName_comm]
      exact h.adjacent f e g (hpair.cons_cons f) (by rwa [sameName_comm])
    have hothers : Contiguous (others f.1 rest) :=
      h.sublist (List.filter_sublist.trans (List.sublist_cons_self f rest))
    rw [gathered, ih hothers, hspelled, others, List.cons_append, filter_append_others hsplit]

/-- Fields that are spelled alike may stand before contiguous fields of other names. -/
theorem Contiguous.append {name : String} {block rest : List (String × String)}
    (hblock : ∀ g ∈ block, g.1 = name) (hrest : ∀ g ∈ rest, sameName g.1 name = false)
    (h : Contiguous rest) : Contiguous (block ++ rest) := by
  have hapart : ∀ f ∈ block, ∀ g ∈ rest, ¬ sameName f.1 g.1 = true := fun f hf g hg => by
    rw [hblock f hf, sameName_comm, hrest g hg]
    exact Bool.false_ne_true
  constructor
  case alike =>
    intro f hf g hg hname
    rcases List.mem_append.1 hf with hf | hf <;> rcases List.mem_append.1 hg with hg | hg
    · rw [hblock f hf, hblock g hg]
    · exact absurd hname (hapart f hf g hg)
    · exact absurd (sameName_comm g.1 f.1 ▸ hname) (hapart g hg f hf)
    · exact h.alike f hf g hg hname
  case adjacent =>
    intro f between g hthree hname
    obtain ⟨first, last, heq, hfirst, hlast⟩ := List.sublist_append_iff.1 hthree
    -- the three are cut where the block ends
    rcases first with _ | ⟨f', first⟩
    · obtain rfl : [f, between, g] = last := heq
      exact h.adjacent f between g hlast hname
    · obtain ⟨rfl, htail⟩ := List.cons.inj heq
      have hf := hfirst.subset List.mem_cons_self
      rcases first with _ | ⟨between', first⟩
      · obtain rfl : [between, g] = last := htail
        exact absurd hname (hapart f hf g (hlast.subset (by simp)))
      · obtain ⟨rfl, -⟩ := List.cons.inj htail
        rw [hblock f hf, hblock between (hfirst.subset (by simp))]
        exact sameName_refl name

/-- Gathered fields of one name stand together and spell it alike. -/
theorem contiguous_gathered (fields : List (String × String)) : Contiguous (gathered fields) := by
  induction fields using gathered.induct with
  | case1 =>
    rw [gathered]
    constructor
    case alike =>
      intro f hf
      cases hf
    case adjacent =>
      intro f between g hthree
      cases hthree
  | case2 f rest ih =>
    have hblock : ∀ g ∈ f :: spelled f.1 rest, g.1 = f.1 := by
      refine List.forall_mem_cons.2 ⟨rfl, fun g hg => ?_⟩
      obtain ⟨w, -, rfl⟩ := List.mem_map.1 hg
      rfl
    rw [gathered]
    exact ih.append hblock fun g hg => sameName_gathered_others hg

theorem regrouped_eq_iff (h : Headers) : h.regrouped = h ↔ Contiguous h.fields := by
  constructor
  · intro heq
    rw [← congrArg Headers.fields heq]
    exact contiguous_gathered h.fields
  · intro hc
    exact congrArg Headers.mk hc.gathered_eq

theorem parse_render (h : Headers) : parse h.toJson.render = .ok h.regrouped :=
  parse_eq_ok.2 ⟨h.toJson, Json.parse_render (h.plain_toJson 125), h.ofJson_toJson⟩

/-- There is one group for each name, in the order and the spelling in which the names first occur, and
it holds all values of its name. So header fields that are written and read again have the same values
under every name, fall into the same groups and are from then on read as they were written; they are
the fields that were written first if and only if fields of one name stood together and spelled it
alike. -/
theorem grouping (h : Headers) :
    h.grouped.map Prod.fst = (h.fields.map Prod.fst).eraseDupsBy sameName ∧
      (h.grouped.Pairwise fun g g' => sameName g.1 g'.1 = false) ∧
      (∀ g ∈ h.grouped, g.2 ≠ [] ∧ g.2 = h.getAll g.1) ∧
      (h.grouped.map fun g => g.2.length).sum = h.size ∧
      ∃ d, parse h.toJson.render = .ok d ∧ ofJson h.toJson = .ok d ∧
        (∀ name, d.getAll name = h.getAll name) ∧ d.size = h.size ∧
        d.grouped = h.grouped ∧ parse d.toJson.render = .ok d ∧
        (d = h ↔ Contiguous h.fields) := by
  refine ⟨names_grouped h, pairwise_grouped h, fun g hg => values_grouped hg, sum_grouped h,
    h.regrouped, parse_render h, ofJson_toJson h, getAll_regrouped h, size_regrouped h,
    grouped_regrouped h, ?_, regrouped_eq_iff h⟩
  rw [toJson_regrouped]
  exact parse_render h

end Tunnel.Headers
