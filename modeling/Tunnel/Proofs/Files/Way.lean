import Mathlib.Data.List.DropRight
import Tunnel.Proofs.Files

/-!
# The way of a path

The locations that the names of a path lead through. Each but the last is a directory when the path
leads somewhere, and each directory on the way is in directories. To enter the names of a path makes
directories on its way and changes nothing else.
-/
namespace Tunnel.FileTree

open Json (bind_eq_ok)

variable {t t' : FileTree} {l l' m : Location} {p : FilePath} {name : String}
  {names dots : List String} {ls : List Location}

def stepTo (l : Location) (name : String) : Location :=
  if name = "." then l else if name = ".." then l.dropLast else l ++ [name]

/-- The locations that names lead through, from the first to the last. -/
def way (l : Location) : List String → List Location
  | [] => [l]
  | name :: names => l :: way (stepTo l name) names

theorem follow_of_directory (h : t.get? l = some .directory) (name : String) :
    t.follow l name =
      if 255 < name.utf8ByteSize then .error .nameTooLong else .ok (stepTo l name) := by
  simp only [follow, h, stepTo]
  split_ifs with hdot hsize hdots hsize hsize
  · exact absurd hsize (by rw [hdot]; decide)
  · rfl
  · exact absurd hsize (by rw [hdots]; decide)
  all_goals rfl

theorem follow_eq_ok : t.follow l name = .ok l' ↔
    t.get? l = some .directory ∧ name.utf8ByteSize ≤ 255 ∧ l' = stepTo l name := by
  cases hl : t.get? l with
  | none => simp [follow, hl]
  | some e =>
    cases e with
    | file bytes => simp [follow, hl]
    | directory =>
      rw [follow_of_directory hl]
      split_ifs with hsize
      · simp [Nat.not_le.2 hsize]
      · simp [Nat.not_lt.1 hsize, eq_comm]

theorem walk_cons_eq_ok : (name :: names).foldlM t.follow l = .ok l' ↔
    t.get? l = some .directory ∧ name.utf8ByteSize ≤ 255 ∧
      names.foldlM t.follow (stepTo l name) = .ok l' := by
  rw [List.foldlM_cons, bind_eq_ok]
  simp only [follow_eq_ok]
  constructor
  · rintro ⟨_, ⟨hl, hsize, rfl⟩, hrest⟩
    exact ⟨hl, hsize, hrest⟩
  · rintro ⟨hl, hsize, hrest⟩
    exact ⟨_, ⟨hl, hsize, rfl⟩, hrest⟩

/-- Names that lead somewhere lead to the last location of their way. -/
theorem walk_end (h : names.foldlM t.follow l = .ok l') : l' = names.foldl stepTo l := by
  induction names generalizing l with
  | nil => exact (Except.ok.inj h).symm
  | cons name names ih => exact ih (walk_cons_eq_ok.1 h).2.2

theorem walk_append {names' : List String} :
    (names ++ names').foldlM t.follow l = .ok l' ↔
      ∃ m, names.foldlM t.follow l = .ok m ∧ names'.foldlM t.follow m = .ok l' := by
  rw [List.foldlM_append, bind_eq_ok]

/-- Single dots stay in a directory. -/
theorem walk_dots (hdots : ∀ n ∈ dots, n = ".") (h : dots.foldlM t.follow l = .ok l') :
    l' = l ∧ (dots = [] ∨ t.get? l = some .directory) := by
  induction dots with
  | nil => exact ⟨(Except.ok.inj h).symm, .inl rfl⟩
  | cons name names ih =>
    obtain ⟨hl, -, hrest⟩ := walk_cons_eq_ok.1 h
    obtain ⟨hname, hnames⟩ := List.forall_mem_cons.1 hdots
    rw [stepTo, if_pos hname] at hrest
    exact ⟨(ih hnames hrest).1, .inr hl⟩

/-- Names that lead to a directory lead through directories. -/
theorem directory_of_mem_way (h : names.foldlM t.follow l = .ok l')
    (hl' : t.get? l' = some .directory) : ∀ m ∈ way l names, t.get? m = some .directory := by
  induction names generalizing l with
  | nil =>
    obtain rfl := Except.ok.inj h
    simpa [way] using hl'
  | cons name names ih =>
    obtain ⟨hl, -, hrest⟩ := walk_cons_eq_ok.1 h
    exact List.forall_mem_cons.2 ⟨hl, ih hrest⟩

theorem mem_way_self (l : Location) (names : List String) : l ∈ way l names := by
  cases names <;> exact List.mem_cons_self

theorem foldl_mem_way (l : Location) (names : List String) : names.foldl stepTo l ∈ way l names := by
  induction names generalizing l with
  | nil => exact List.mem_singleton_self l
  | cons name names ih => exact List.mem_cons_of_mem l (ih _)

theorem mem_way_append {names' : List String} (h : m ∈ way l (names ++ names')) :
    m ∈ way l names ∨ m ∈ way (names.foldl stepTo l) names' := by
  induction names generalizing l with
  | nil => exact .inr h
  | cons name names ih =>
    obtain rfl | h := List.mem_cons.1 h
    · exact .inl List.mem_cons_self
    · exact (ih h).imp_left (List.mem_cons_of_mem l)

theorem foldl_dots (hdots : ∀ n ∈ dots, n = ".") (l : Location) : dots.foldl stepTo l = l := by
  induction dots with
  | nil => rfl
  | cons name names ih =>
    obtain ⟨rfl, hnames⟩ := List.forall_mem_cons.1 hdots
    exact ih hnames

theorem eq_of_mem_way_dots (hdots : ∀ n ∈ dots, n = ".") (h : m ∈ way l dots) : m = l := by
  induction dots with
  | nil => exact List.mem_singleton.1 h
  | cons name names ih =>
    obtain ⟨rfl, hnames⟩ := List.forall_mem_cons.1 hdots
    obtain rfl | h := List.mem_cons.1 h
    · rfl
    · exact ih hnames h

def Housed (t : FileTree) (l : Location) : Prop :=
  ∀ m, m <+: l → m ≠ l → t.get? m = some .directory

/-- A location is in directories, and in a directory itself, if it is a directory. -/
theorem Housed.directory_above (h : t.Housed l) (hl : t.get? l = some .directory)
    (hm : m <+: l) : t.get? m = some .directory := by
  by_cases hsame : m = l
  · rw [hsame, hl]
  · exact h m hm hsame

theorem Housed.stepTo (h : t.Housed l) (hl : t.get? l = some .directory) (name : String) :
    t.Housed (stepTo l name) := by
  intro m hm hne
  unfold FileTree.stepTo at hm hne
  split_ifs at hm hne
  · exact h m hm hne
  · exact h.directory_above hl (hm.trans (List.dropLast_prefix l))
  · obtain hsame | hm := List.prefix_concat_iff.1 hm
    · exact absurd hsame hne
    · exact h.directory_above hl hm

theorem Housed.walk (h : t.Housed l) (hw : names.foldlM t.follow l = .ok l') : t.Housed l' := by
  induction names generalizing l with
  | nil => exact Except.ok.inj hw ▸ h
  | cons name names ih =>
    obtain ⟨hl, -, hrest⟩ := walk_cons_eq_ok.1 hw
    exact ih (h.stepTo hl name) hrest

theorem get?_start (t : FileTree) (p : FilePath) : t.get? (t.start p) = some .directory := by
  unfold start get?
  split_ifs with hp hbelow hbelow
  · rfl
  · simp at hbelow
  · rfl
  · simp at hbelow

theorem housed_start (t : FileTree) (p : FilePath) : t.Housed (t.start p) := by
  intro m hm hne
  unfold start at hm hne
  unfold get?
  split_ifs at hm hne with hp
  · exact absurd (List.prefix_nil.1 hm) hne
  · rw [if_pos (List.isPrefixOf_iff_prefix.2 hm)]

theorem walk_of_locate (h : t.locate p = .ok l) : p.names.foldlM t.follow (t.start p) = .ok l := by
  unfold locate at h
  split at h
  · cases h
  · split at h
    · cases h
    · exact h

/-- A path that leads to nothing has no names, or a directory on its way is missing. -/
theorem locate_eq_notFound (h : t.locate p = .error .notFound) :
    (¬ p.names.any (·.toList.contains '\x00')) ∧ (p.names.isEmpty ∧ ¬ p.absolute ∨
      p.names.foldlM t.follow (t.start p) = .error .notFound) := by
  unfold locate at h
  split_ifs at h with hnul hempty
  · cases h
  · exact ⟨hnul, .inl hempty⟩
  · exact ⟨hnul, .inr h⟩

theorem housed_of_locate (h : t.locate p = .ok l) : t.Housed l :=
  (housed_start t p).walk (walk_of_locate h)

end Tunnel.FileTree

namespace Tunnel.FilePath

variable {p : FilePath}

theorem trimmedNames_eq (p : FilePath) : p.trimmedNames = p.names.rdropWhile (· = ".") := rfl

/-- The names of a path are single dots, or those of its parent and one more before single dots. -/
theorem names_cases (p : FilePath) :
    (∀ n ∈ p.names, n = ".") ∧ p.parent.names = [] ∧ (∀ e, p.withExtension e = p) ∨
      ∃ last dots, p.names = p.parent.names ++ last :: dots ∧ (∀ n ∈ dots, n = ".") ∧
        last ≠ "." ∧ ∀ e, p.withExtension e = if last = ".." then p
          else ⟨p.absolute, p.parent.names ++ [stem last ++ "." ++ e], false⟩ := by
  rcases List.eq_nil_or_concat' p.trimmedNames with hnil | ⟨before, last, hnames⟩
  · refine .inl ⟨?_, by simp [parent, hnil], fun e => by simp [withExtension, hnil]⟩
    simpa using List.rdropWhile_eq_nil_iff.1 (p.trimmedNames_eq.symm.trans hnil)
  · have hparent : p.parent.names = before := by simp [parent, hnames]
    refine .inr ⟨last, p.names.rtakeWhile (· = "."), ?_, ?_, ?_, fun e => ?_⟩
    · rw [hparent, ← List.singleton_append, ← List.append_assoc, ← hnames, trimmedNames_eq,
        List.rdropWhile_append_rtakeWhile]
    · intro n hn
      simpa using List.mem_rtakeWhile_imp hn
    · have hdrop : p.names.rdropWhile (· = ".") = before ++ [last] := hnames
      have hlast := List.rdropWhile_last_not (fun n => decide (n = ".")) p.names (by simp [hdrop])
      simpa [hdrop] using hlast
    · simp [withExtension, hnames, hparent]

/-- A name without its last dot and what follows. -/
theorem stem_append {name e : String} (hname : name.toList ≠ []) (he : '.' ∉ e.toList) :
    stem (name ++ "." ++ e) = name := by
  have htake : (e.toList.reverse ++ '.' :: name.toList.reverse).takeWhile (· ≠ '.') =
      e.toList.reverse := by
    rw [List.takeWhile_append_of_pos]
    · simp
    · rintro c hc
      simpa using fun h : c = '.' => he (h ▸ List.mem_reverse.1 hc)
  obtain ⟨c, rest, hreverse⟩ := List.exists_cons_of_ne_nil (mt List.reverse_eq_nil_iff.1 hname)
  have hlist : (name ++ "." ++ e).toList.reverse = e.toList.reverse ++ '.' :: c :: rest := by
    simp [← hreverse]
  rw [hreverse] at htake
  unfold stem
  simp only [hlist, htake, List.drop_left]
  rw [← hreverse, List.reverse_reverse, String.ofList_toList]

/-- An extension in two parts makes another name of every name. -/
theorem stem_ne (name : String) : stem name ++ "." ++ "json.tmp" ≠ name := by
  intro h
  have hsplit : stem name ++ "." ++ "json.tmp" = stem name ++ ".json" ++ "." ++ "tmp" := by
    simp [String.ext_iff]
  have hstem : stem name = stem name ++ ".json" := by
    conv_lhs => rw [← h, hsplit]
    exact stem_append (by simp) (by decide)
  have hlength := congrArg String.length hstem
  simp at hlength

end Tunnel.FilePath

namespace Tunnel.FileTree

variable {t : FileTree} {l : Location} {p : FilePath}

/-- The way of a path is that of its parent and one location more. -/
theorem way_of_names {last : String} {dots : List String}
    (hnames : p.names = p.parent.names ++ last :: dots) (hdots : ∀ n ∈ dots, n = ".")
    (l : Location) :
    p.names.foldl stepTo l = stepTo (p.parent.names.foldl stepTo l) last ∧
      ∀ m ∈ way l p.names,
        m ∈ way l p.parent.names ∨ m = stepTo (p.parent.names.foldl stepTo l) last := by
  rw [hnames]
  refine ⟨by rw [List.foldl_append, List.foldl_cons, foldl_dots hdots], fun m hm => ?_⟩
  rcases mem_way_append hm with hm | hm
  · exact .inl hm
  · obtain rfl | hm := List.mem_cons.1 hm
    · exact .inl (foldl_mem_way _ _)
    · exact .inr (eq_of_mem_way_dots hdots hm)

theorem stepTo_staging (l : Location) (stem : String) :
    stepTo l (stem ++ "." ++ "json.tmp") = l ++ [stem ++ "." ++ "json.tmp"] := by
  have hlength (n : String) (hn : n.length < 9) : stem ++ "." ++ "json.tmp" ≠ n := by
    rintro rfl
    have hfirst : ".".length = 1 := rfl
    have hsecond : "json.tmp".length = 8 := rfl
    rw [String.length_append, String.length_append] at hn
    omega
  rw [stepTo, if_neg (hlength "." (by decide)), if_neg (hlength ".." (by decide))]

/-- A path leads to no other file than with an extension in two parts. -/
theorem directory_of_locate_withExtension (hp : t.locate p = .ok l)
    (hs : t.locate (p.withExtension "json.tmp") = .ok l) : t.get? l = some .directory := by
  obtain ⟨hdots, -⟩ | ⟨last, dots, hnames, hdots, hlast, hextension⟩ := p.names_cases
  · rw [(walk_dots hdots (walk_of_locate hp)).1]
    exact get?_start t p
  · have hwalk := walk_of_locate hp
    rw [hnames] at hwalk
    obtain ⟨m, hm, hrest⟩ := walk_append.1 hwalk
    obtain ⟨hdirectory, -, hrest⟩ := walk_cons_eq_ok.1 hrest
    obtain ⟨rfl, -⟩ := walk_dots hdots hrest
    by_cases hup : last = ".."
    · rw [stepTo, if_neg hlast, if_pos hup]
      exact ((housed_start t p).walk hm).directory_above hdirectory (List.dropLast_prefix m)
    · rw [hextension, if_neg hup] at hs
      obtain ⟨m', hm', hrest'⟩ := walk_append.1 (walk_of_locate hs)
      obtain rfl : m = m' := Except.ok.inj (hm.symm.trans hm')
      have hend := walk_end hrest'
      rw [List.foldl_cons, List.foldl_nil, stepTo_staging, stepTo, if_neg hlast, if_neg hup,
        List.append_cancel_left_eq] at hend
      exact absurd (List.singleton_inj.1 hend).symm (FilePath.stem_ne last)

end Tunnel.FileTree
