import Tunnel.Proofs.Message.RoundTrip
import Tunnel.Proofs.Outbound
import Tunnel.Proofs.Utf8.Replacement

/-!
# Header fields of a response

A client gathers the lines of a response, and the wire gathers header fields once more. Fields that
are gathered stay as they are, so a start is read back with the very fields that the response had.
-/
namespace Tunnel.Headers

def Lowered (fields : List (String × String)) : Prop :=
  ∀ f ∈ fields, f.1.toLower = f.1

variable {fields : List (String × String)} {f : String × String}

/-- Names in lower case are the same only if they are equal. -/
theorem Lowered.sameName_eq (h : Lowered (f :: fields)) {g : String × String} (hg : g ∈ fields) :
    sameName g.1 f.1 = (g.1 == f.1) := by
  rw [sameName, h f List.mem_cons_self, h g (List.mem_cons_of_mem f hg)]

theorem Lowered.spelled_eq (h : Lowered (f :: fields)) :
    spelled f.1 fields = fields.filter fun g => g.1 == f.1 := by
  rw [spelled, List.filter_congr fun g hg => h.sameName_eq hg]
  refine (List.map_congr_left fun g hg => ?_).trans (List.map_id _)
  rw [← beq_iff_eq.1 (List.mem_filter.1 hg).2]
  rfl

theorem Lowered.others_eq (h : Lowered (f :: fields)) :
    others f.1 fields = fields.filter fun g => !(g.1 == f.1) :=
  List.filter_congr fun g hg => by rw [h.sameName_eq hg]

/-- Fields whose names are in lower case are gathered name by name, in the order in which the names
first come. -/
theorem Lowered.gathered_eq (h : Lowered fields) :
    gathered fields =
      (fields.map Prod.fst).eraseDups.flatMap fun name => fields.filter fun g => g.1 == name := by
  induction fields using gathered.induct with
  | case1 => rw [gathered, List.map_nil, List.eraseDups_nil, List.flatMap_nil]
  | case2 f rest ih =>
    have hrest : Lowered (others f.1 rest) := fun g hg =>
      h g (List.mem_cons_of_mem f (List.mem_filter.1 hg).1)
    have hnames : (rest.map Prod.fst).filter (fun name => !name == f.1) =
        (others f.1 rest).map Prod.fst := by
      rw [h.others_eq, List.filter_map]
      rfl
    rw [gathered, ih hrest, List.map_cons, List.eraseDups_cons, hnames, List.flatMap_cons,
      List.filter_cons, if_pos (beq_self_eq_true f.1), h.spelled_eq]
    refine congrArg _ (List.flatMap_congr fun name hname => ?_)
    -- the other names are not that of the first field
    have hne : (f.1 == name) = false := by
      obtain ⟨g, hg, rfl⟩ := List.mem_map.1 (List.mem_eraseDups.1 hname)
      rw [h.others_eq] at hg
      rw [BEq.comm]
      simpa using (List.mem_filter.1 hg).2
    rw [List.filter_cons_of_neg (by simp [hne]), h.others_eq, List.filter_filter]
    refine List.filter_congr fun g _ => ?_
    cases hg : g.1 == name with
    | false => rfl
    | true =>
      rw [beq_iff_eq.1 hg, BEq.comm, hne]
      rfl

def ofLines (lines : List (String × List UInt8)) : Headers :=
  ⟨lines.map fun l => (l.1.toLower, Utf8.decodeLossy l.2)⟩

variable (lines : List (String × List UInt8))

theorem ofResponse_eq : ofResponse lines = (ofLines lines).regrouped :=
  ofGroups_grouped _

theorem lowered_ofLines : Lowered (ofLines lines).fields := by
  intro f hf
  obtain ⟨l, -, rfl⟩ := List.mem_map.1 hf
  exact toLower_toLower l.1

theorem getAll_ofLines (name : String) :
    (ofLines lines).getAll name =
      (lines.filter fun l => sameName l.1 name).map fun l => Utf8.decodeLossy l.2 := by
  simp only [getAll, ofLines, List.filter_map, List.map_map, Function.comp_def, sameName_toLower]

theorem fields_ofResponse :
    (ofResponse lines).fields = (lines.map fun l => l.1.toLower).eraseDups.flatMap fun name =>
      (lines.filter fun l => l.1.toLower == name).map fun l => (name, Utf8.decodeLossy l.2) := by
  rw [ofResponse_eq]
  refine (lowered_ofLines lines).gathered_eq.trans ?_
  rw [ofLines, List.map_map]
  refine List.flatMap_congr fun name _ => ?_
  rw [List.filter_map]
  refine List.map_congr_left fun l hl => ?_
  rw [← beq_iff_eq.1 (List.mem_filter.1 hl).2]

/-- The header fields of a response: there is one for each line, the names in lower case and in the
order in which they first come, the values of a name in order, and every spelling of a name finds
them. A value is what its bytes are shown as, and bytes that are no text are shown as U+FFFD. A start
of a response with these fields is read back as it was written. -/
theorem response_intact :
    (ofResponse lines).fields = ((lines.map fun l => l.1.toLower).eraseDups.flatMap fun name =>
        (lines.filter fun l => l.1.toLower == name).map fun l => (name, Utf8.decodeLossy l.2)) ∧
      (ofResponse lines).size = lines.length ∧
      (∀ name, (ofResponse lines).getAll name =
        (lines.filter fun l => sameName l.1 name).map fun l => Utf8.decodeLossy l.2) ∧
      (∀ bytes value, Utf8.decodeLossy bytes = value ↔ Utf8.Shows bytes value.toList) ∧
      ∀ id status, Message.decode (Message.start id status (ofResponse lines)).encode =
        .ok (.start id status (ofResponse lines)) := by
  refine ⟨fields_ofResponse lines, ?_, fun name => ?_, fun bytes value => ?_, fun id status => ?_⟩
  · rw [ofResponse_eq, size_regrouped]
    exact List.length_map _
  · rw [ofResponse_eq, getAll_regrouped, getAll_ofLines]
  · exact Utf8.decodeLossy_eq_iff
  · rw [Message.decode_encode, Message.regrouped, ofResponse_eq, regrouped_regrouped]

end Tunnel.Headers
