import Tunnel.Proofs.Files.Way

/-!
# Directories that are made

In a rooted tree everything is in directories. To enter names keeps that and makes only directories
on their way, and none if the names lead to a directory. A path without `..` and without overlong
names that leads to nothing, because a directory on its way is missing, leads to nothing as well
after directories on its way are made.
-/
namespace Tunnel

/-- Whether no name of a path goes up and none is too long for a file. -/
def FilePath.isPlain (p : FilePath) : Bool :=
  p.names.all fun n => n ≠ ".." && n.utf8ByteSize ≤ 255

theorem FilePath.isPlain_iff {p : FilePath} :
    p.isPlain ↔ ".." ∉ p.names ∧ ∀ n ∈ p.names, n.utf8ByteSize ≤ 255 := by
  simp only [isPlain, List.all_eq_true, Bool.and_eq_true, decide_eq_true_eq]
  constructor
  · exact fun h => ⟨fun hup => (h _ hup).1 rfl, fun n hn => (h n hn).2⟩
  · exact fun h n hn => ⟨fun hup => h.1 (hup ▸ hn), h.2 n hn⟩

namespace FileTree

open Json (bind_eq_ok)

variable {t t' t'' : FileTree} {l l' m : Location} {p : FilePath} {name : String}
  {names : List String} {ls ls' : List Location}

def Rooted (t : FileTree) : Prop := ∀ l, t.get? l ≠ none → t.Housed l

theorem rooted_empty : Rooted empty := by
  intro l hl m hm _
  unfold get? at hl ⊢
  split_ifs at hl with hworking
  · have hbelow := hm.trans (List.isPrefixOf_iff_prefix.1 hworking)
    rw [if_pos (List.isPrefixOf_iff_prefix.2 hbelow)]
  · exact absurd rfl hl

theorem Housed.put (h : t.Housed m) (hl : t.get? l ≠ some .directory) (e : FileEntry) :
    (t.put l e).Housed m :=
  fun k hk hne => (keeps_put hl e).directory k (h k hk hne)

theorem Rooted.put (h : Rooted t) (hl : t.get? l ≠ some .directory) (hhoused : t.Housed l)
    (e : FileEntry) : Rooted (t.put l e) := by
  intro m hm
  by_cases hml : m = l
  · exact hml ▸ hhoused.put hl e
  · rw [get?_put_ne hml] at hm
    exact (h m hm).put hl e

theorem Rooted.erase (h : Rooted t) (hl : t.get? l ≠ some .directory) : Rooted (t.erase l) := by
  intro m hm k hk hne
  refine (keeps_erase hl).directory k (h m ?_ k hk hne)
  by_cases hml : m = l
  · rw [hml, get?_erase_self hl] at hm
    exact absurd rfl hm
  · rwa [get?_erase_ne hml] at hm

/-- Below what is missing there is nothing. -/
theorem Rooted.none_of_prefix (h : Rooted t) (hl : t.get? l = none) (hm : l <+: m) :
    t.get? m = none := by
  by_contra hne
  by_cases hsame : l = m
  · exact hne (hsame ▸ hl)
  · rw [h m hne l hm hsame] at hl
    cases hl

structure Made (t t' : FileTree) (ls : List Location) : Prop where
  working : t'.working = t.working
  entry : ∀ l, t'.get? l = t.get? l ∨
    l ∈ ls ∧ t.get? l = none ∧ t'.get? l = some .directory

theorem Made.refl (t : FileTree) (ls : List Location) : Made t t ls := ⟨rfl, fun _ => .inl rfl⟩

theorem Made.trans (h : Made t t' ls) (h' : Made t' t'' ls) : Made t t'' ls := by
  refine ⟨h'.working.trans h.working, fun l => ?_⟩
  rcases h.entry l with hl | ⟨hmem, hnone, hl⟩ <;> rcases h'.entry l with hl' | ⟨hmem', hnone', hl'⟩
  · exact .inl (hl'.trans hl)
  · exact .inr ⟨hmem', hl ▸ hnone', hl'⟩
  · exact .inr ⟨hmem, hnone, hl'.trans hl⟩
  · rw [hl] at hnone'
    cases hnone'

theorem Made.mono (h : Made t t' ls) (hls : ∀ l ∈ ls, l ∈ ls') : Made t t' ls' :=
  ⟨h.working, fun l => (h.entry l).imp_right fun hl => ⟨hls l hl.1, hl.2⟩⟩

theorem made_put (hl : t.get? l = none) (hmem : l ∈ ls) : Made t (t.put l .directory) ls := by
  refine ⟨rfl, fun m => ?_⟩
  by_cases hm : m = l
  · subst hm
    exact .inr ⟨hmem, hl, get?_put_self (by simp [hl]) _⟩
  · exact .inl (get?_put_ne hm _)

theorem Made.keeps (h : Made t t' ls) : Keeps t t' := by
  refine ⟨h.working, fun l hl => ?_⟩
  rcases h.entry l with hsame | ⟨-, -, hmade⟩
  · rw [hsame, hl]
  · exact hmade

theorem enter_eq_ok : enter (t, l) name = .ok (t', l') ↔
    t.follow l name = .ok l' ∧
      (t.get? l' = some .directory ∧ t' = t ∨ t.get? l' = none ∧ t' = t.put l' .directory) := by
  unfold enter
  rw [bind_eq_ok]
  constructor
  · rintro ⟨m, hm, h⟩
    dsimp only at h
    split at h
    · rename_i hget
      obtain ⟨⟩ := h
      exact ⟨hm, .inl ⟨hget, rfl⟩⟩
    · cases h
    · rename_i hget
      obtain ⟨⟩ := h
      exact ⟨hm, .inr ⟨hget, rfl⟩⟩
  · rintro ⟨hm, ⟨hget, rfl⟩ | ⟨hget, rfl⟩⟩ <;> refine ⟨l', hm, ?_⟩ <;> simp only [hget] <;> rfl

theorem made_enter (h : enter (t, l) name = .ok (t', l')) : Made t t' [l'] := by
  obtain ⟨-, ⟨-, rfl⟩ | ⟨hnone, rfl⟩⟩ := enter_eq_ok.1 h
  · exact .refl _ _
  · exact made_put hnone (List.mem_singleton_self _)

/-- Whether or not all names can be entered, no more than directories on their way is made. -/
theorem made_enterAll (t : FileTree) (l : Location) (names : List String) :
    Made t (enterAll t l names).2 (way l names) := by
  induction names generalizing t l with
  | nil => exact .refl _ _
  | cons name names ih =>
    unfold enterAll
    split
    · exact .refl _ _
    · rename_i t₁ l₁ henter
      obtain ⟨hl, -, rfl⟩ := follow_eq_ok.1 (enter_eq_ok.1 henter).1
      refine ((made_enter henter).mono fun m hm => ?_).trans
        ((ih t₁ _).mono fun m hm => List.mem_cons_of_mem l hm)
      rw [List.mem_singleton.1 hm]
      exact List.mem_cons_of_mem l (mem_way_self _ names)

theorem rooted_enterAll (h : Rooted t) (hhoused : t.Housed l) (names : List String) :
    Rooted (enterAll t l names).2 := by
  induction names generalizing t l with
  | nil => exact h
  | cons name names ih =>
    unfold enterAll
    split
    · exact h
    · rename_i t₁ l₁ henter
      obtain ⟨hfollow, ht₁⟩ := enter_eq_ok.1 henter
      obtain ⟨hl, -, rfl⟩ := follow_eq_ok.1 hfollow
      have hnext := hhoused.stepTo hl name
      obtain ⟨-, rfl⟩ | ⟨hnone, rfl⟩ := ht₁
      · exact ih h hnext
      · have hfree : t.get? (stepTo l name) ≠ some .directory := by simp [hnone]
        exact ih (h.put hfree hnext _) (hnext.put hfree _)

/-- Where names lead to a directory, nothing is made. -/
theorem enterAll_of_walk (h : names.foldlM t.follow l = .ok l')
    (hl' : t.get? l' = some .directory) : enterAll t l names = (.ok (), t) := by
  induction names generalizing l with
  | nil => rfl
  | cons name names ih =>
    obtain ⟨hl, hsize, hrest⟩ := walk_cons_eq_ok.1 h
    have hnext : t.get? (stepTo l name) = some .directory :=
      directory_of_mem_way hrest hl' _ (mem_way_self _ names)
    have henter : enter (t, l) name = .ok (t, stepTo l name) :=
      enter_eq_ok.2 ⟨follow_eq_ok.2 ⟨hl, hsize, rfl⟩, .inl ⟨hnext, rfl⟩⟩
    rw [enterAll, henter]
    exact ih hrest

theorem made_makeParents (t : FileTree) (p : FilePath) :
    Made t (t.makeParents p).2 (way (t.start p) p.parent.names) :=
  made_enterAll t _ _

theorem rooted_makeParents (h : Rooted t) (p : FilePath) : Rooted (t.makeParents p).2 :=
  rooted_enterAll h (housed_start t p) _

/-- A path that leads somewhere needs no directories. -/
theorem makeParents_of_locate (h : t.locate p = .ok l) : t.makeParents p = (.ok (), t) := by
  unfold makeParents
  obtain ⟨-, hparent, -⟩ | ⟨last, dots, hnames, -⟩ := p.names_cases
  · rw [hparent]
    rfl
  · have hwalk := walk_of_locate h
    rw [hnames] at hwalk
    obtain ⟨m, hm, hrest⟩ := walk_append.1 hwalk
    exact enterAll_of_walk hm (walk_cons_eq_ok.1 hrest).1

theorem prefix_stepTo (hname : name ≠ "..") (l : Location) : l <+: stepTo l name := by
  rw [stepTo, if_neg hname]
  split_ifs
  · exact List.prefix_refl l
  · exact List.prefix_append l _

theorem prefix_foldl (hup : ".." ∉ names) (l : Location) : l <+: names.foldl stepTo l := by
  induction names generalizing l with
  | nil => exact List.prefix_refl l
  | cons name names ih =>
    rw [List.mem_cons, not_or] at hup
    exact (prefix_stepTo (Ne.symm hup.1) l).trans (ih hup.2 _)

theorem prefix_of_mem_way (hup : ".." ∉ names) (h : m ∈ way l names) : l <+: m ∧
    m <+: names.foldl stepTo l := by
  induction names generalizing l with
  | nil => exact List.mem_singleton.1 h ▸ ⟨List.prefix_refl m, List.prefix_refl m⟩
  | cons name names ih =>
    rw [List.mem_cons, not_or] at hup
    have hfirst := prefix_stepTo (Ne.symm hup.1) l
    obtain rfl | h := List.mem_cons.1 h
    · exact ⟨List.prefix_refl m, hfirst.trans (prefix_foldl hup.2 _)⟩
    · exact (ih hup.2 h).imp_left hfirst.trans

def Vacant (t : FileTree) (l : Location) (names : List String) : Prop :=
  t.get? (names.foldl stepTo l) = none ∧
    ∀ m ∈ way l names, ∀ bytes, t.get? m ≠ some (.file bytes)

/-- A directory that is missing on the way has nothing below it. -/
theorem vacant_of_walk (h : Rooted t) (hup : ".." ∉ names)
    (hsize : ∀ n ∈ names, n.utf8ByteSize ≤ 255)
    (hw : names.foldlM t.follow l = .error .notFound) : t.Vacant l names := by
  induction names generalizing l with
  | nil => cases hw
  | cons name names ih =>
    cases hl : t.get? l with
    | none =>
      have hnone : ∀ m ∈ way l (name :: names), t.get? m = none := fun m hm =>
        h.none_of_prefix hl (prefix_of_mem_way hup hm).1
      exact ⟨h.none_of_prefix hl (prefix_foldl hup l), fun m hm bytes => by simp [hnone m hm]⟩
    | some e =>
      cases e with
      | file bytes =>
        rw [List.foldlM_cons, follow, hl] at hw
        cases hw
      | directory =>
        obtain ⟨hname, hnames⟩ := List.forall_mem_cons.1 hsize
        rw [List.foldlM_cons, follow_of_directory hl, if_neg (Nat.not_lt.2 hname)] at hw
        obtain ⟨hnone, hno⟩ := ih (fun hmem => hup (List.mem_cons_of_mem _ hmem)) hnames hw
        refine ⟨hnone, List.forall_mem_cons.2 ⟨fun bytes => ?_, hno⟩⟩
        simp [hl]

theorem Vacant.walk (h : t.Vacant l names) (hsize : ∀ n ∈ names, n.utf8ByteSize ≤ 255) :
    names.foldlM t.follow l = .error .notFound ∨
      names.foldlM t.follow l = .ok (names.foldl stepTo l) := by
  induction names generalizing l with
  | nil => exact .inr rfl
  | cons name names ih =>
    obtain ⟨hname, hnames⟩ := List.forall_mem_cons.1 hsize
    obtain ⟨hfirst, hno⟩ := List.forall_mem_cons.1 h.2
    cases hl : t.get? l with
    | none => exact .inl (by rw [List.foldlM_cons, follow, hl]; rfl)
    | some e =>
      cases e with
      | file bytes => exact absurd hl (hfirst bytes)
      | directory =>
        rw [List.foldlM_cons, follow_of_directory hl, if_neg (Nat.not_lt.2 hname)]
        exact ih ⟨h.1, hno⟩ hnames

theorem Vacant.read (h : t.Vacant (t.start p) p.names) (hplain : p.isPlain)
    (hnul : ¬ p.names.any (·.toList.contains '\x00')) : t.read p = .error .notFound := by
  by_cases hempty : p.names.isEmpty ∧ ¬ p.absolute
  · exact read_of_locate_error (by rw [locate, if_neg hnul, if_pos hempty])
  · have hlocate : t.locate p = p.names.foldlM t.follow (t.start p) := by
      rw [locate, if_neg hnul, if_neg hempty]
    rcases h.walk (FilePath.isPlain_iff.1 hplain).2 with hw | hw
    · exact read_of_locate_error (hlocate.trans hw)
    · exact read_of_none (hlocate.trans hw) h.1

/-- A plain path ends in a location that its parent's way does not reach. -/
theorem Vacant.names_cases (h : t.Vacant (t.start p) p.names) (hplain : p.isPlain) :
    ∃ last, p.names.foldl stepTo (t.start p) =
        p.parent.names.foldl stepTo (t.start p) ++ [last] ∧
      (∀ m ∈ way (t.start p) p.names, m <+: p.parent.names.foldl stepTo (t.start p) ∨
        m = p.parent.names.foldl stepTo (t.start p) ++ [last]) ∧
      (∀ m ∈ way (t.start p) p.parent.names, m <+: p.parent.names.foldl stepTo (t.start p)) ∧
      ∀ e, p.withExtension e =
        ⟨p.absolute, p.parent.names ++ [FilePath.stem last ++ "." ++ e], false⟩ := by
  obtain ⟨hdots, -⟩ | ⟨last, dots, hnames, hdots, hlast, hextension⟩ := p.names_cases
  · have hnone := h.1
    rw [foldl_dots hdots, get?_start] at hnone
    cases hnone
  · have hup := (FilePath.isPlain_iff.1 hplain).1
    rw [hnames, List.mem_append, List.mem_cons] at hup
    push Not at hup
    obtain ⟨hparent, hlast', -⟩ := hup
    obtain ⟨hend, hway⟩ := way_of_names hnames hdots (t.start p)
    rw [stepTo, if_neg hlast, if_neg hlast'.symm] at hend hway
    have hbelow : ∀ m ∈ way (t.start p) p.parent.names,
        m <+: p.parent.names.foldl stepTo (t.start p) := fun m hm => (prefix_of_mem_way hparent hm).2
    refine ⟨last, hend, fun m hm => (hway m hm).imp_left (hbelow m), hbelow, fun e => ?_⟩
    rw [hextension, if_neg hlast'.symm]

theorem not_append_below (l : Location) (name : String) : ¬ l ++ [name] <+: l := by
  intro h
  have hlength := h.length_le
  rw [List.length_append, List.length_singleton] at hlength
  omega

/-- A path that leads to nothing leads to nothing after directories on its parent's way are made. -/
theorem Vacant.made (h : t.Vacant (t.start p) p.names) (hplain : p.isPlain)
    (hm : Made t t' (way (t.start p) p.parent.names)) : t'.Vacant (t.start p) p.names := by
  obtain ⟨last, hend, -, hparent, -⟩ := h.names_cases hplain
  obtain ⟨hnone, hno⟩ := h
  constructor
  · rcases hm.entry (p.names.foldl stepTo (t.start p)) with hsame | ⟨hmem, -, -⟩
    · rw [hsame, hnone]
    · exact absurd (hend ▸ hparent _ hmem) (not_append_below _ _)
  · intro m hmem bytes
    rcases hm.entry m with hsame | ⟨-, -, hmade⟩
    · rw [hsame]
      exact hno m hmem bytes
    · simp [hmade]

/-- So it does after something is put where it leads with an extension in two parts. -/
theorem Vacant.put (h : t.Vacant (t.start p) p.names) (hplain : p.isPlain)
    (hs : t.locate (p.withExtension "json.tmp") = .ok l) (e : FileEntry) :
    (t.put l e).Vacant (t.start p) p.names := by
  obtain ⟨last, hend, hway, -, hextension⟩ := h.names_cases hplain
  rw [hextension] at hs
  have hl := walk_end (walk_of_locate hs)
  rw [List.foldl_append, List.foldl_cons, List.foldl_nil, stepTo_staging] at hl
  have hne : ∀ m ∈ way (t.start p) p.names, m ≠ l := by
    rintro m hm rfl
    rcases hway m hm with hbelow | hsame
    · exact not_append_below _ _ (hl ▸ hbelow)
    · rw [hl] at hsame
      exact FilePath.stem_ne last (List.singleton_inj.1 (List.append_cancel_left hsame))
  obtain ⟨hnone, hno⟩ := h
  refine ⟨?_, fun m hm bytes => ?_⟩
  · rw [get?_put_ne (hne _ (foldl_mem_way _ _)), hnone]
  · rw [get?_put_ne (hne m hm)]
    exact hno m hm bytes

end FileTree

end Tunnel
