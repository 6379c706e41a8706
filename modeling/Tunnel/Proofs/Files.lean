import Tunnel.Files.Tree
import Tunnel.Proofs.Json.Value

/-!
# Files that are written and renamed

No file takes the place of a directory. So a path that leads somewhere leads there after a file is
put or erased, and what is written or renamed at a path is what is read at it.
-/
namespace Tunnel.FileTree

open Json (bind_eq_ok)

variable {t t' : FileTree} {l l' : Location} {p : FilePath} {bytes : List UInt8}

/-- What is no directory is none that the working directory is in. -/
theorem not_isPrefixOf_working (h : t.get? l ≠ some .directory) : ¬ l.isPrefixOf t.working := by
  intro hl
  rw [get?, if_pos hl] at h
  exact h rfl

theorem get?_put_self (h : t.get? l ≠ some .directory) (e : FileEntry) :
    (t.put l e).get? l = some e := by
  rw [get?, put, if_neg (not_isPrefixOf_working h)]
  simp

theorem get?_erase_self (h : t.get? l ≠ some .directory) : (t.erase l).get? l = none := by
  rw [get?, erase, if_neg (not_isPrefixOf_working h)]
  simp

theorem get?_put_ne (h : l' ≠ l) (e : FileEntry) : (t.put l e).get? l' = t.get? l' := by
  have hfind : ((t.put l e).entries.find? fun f => f.1 = l') =
      t.entries.find? fun f => f.1 = l' := by
    simp only [put, List.find?_cons, decide_eq_false (Ne.symm h), List.find?_filter]
    congr 1
    funext f
    by_cases hf : f.1 = l' <;> simp [hf, h]
  unfold get?
  rw [hfind]
  rfl

theorem get?_erase_ne (h : l' ≠ l) : (t.erase l).get? l' = t.get? l' := by
  have hfind : ((t.erase l).entries.find? fun f => f.1 = l') =
      t.entries.find? fun f => f.1 = l' := by
    simp only [erase, List.find?_filter]
    congr 1
    funext f
    by_cases hf : f.1 = l' <;> simp [hf, h]
  unfold get?
  rw [hfind]
  rfl

/-- The working directory is the same, and what was a directory is one. -/
structure Keeps (t t' : FileTree) : Prop where
  working : t'.working = t.working
  directory : ∀ l, t.get? l = some .directory → t'.get? l = some .directory

theorem keeps_put (h : t.get? l ≠ some .directory) (e : FileEntry) : Keeps t (t.put l e) := by
  refine ⟨rfl, fun l' hl' => ?_⟩
  rw [get?_put_ne (by rintro rfl; exact h hl'), hl']

theorem keeps_erase (h : t.get? l ≠ some .directory) : Keeps t (t.erase l) := by
  refine ⟨rfl, fun l' hl' => ?_⟩
  rw [get?_erase_ne (by rintro rfl; exact h hl'), hl']

theorem Keeps.refl (t : FileTree) : Keeps t t := ⟨rfl, fun _ => id⟩

theorem Keeps.trans {t'' : FileTree} (h : Keeps t t') (h' : Keeps t' t'') : Keeps t t'' :=
  ⟨h'.working.trans h.working, fun l hl => h'.directory l (h.directory l hl)⟩

theorem Keeps.start (h : Keeps t t') (p : FilePath) : t'.start p = t.start p := by
  rw [FileTree.start, FileTree.start, h.working]

theorem Keeps.follow (h : Keeps t t') {name : String} (hf : t.follow l name = .ok l') :
    t'.follow l name = .ok l' := by
  have hl : t.get? l = some .directory := by
    unfold FileTree.follow at hf
    split at hf
    · cases hf
    · cases hf
    · assumption
  simpa only [FileTree.follow, hl, h.directory l hl] using hf

theorem Keeps.foldlM_follow (h : Keeps t t') {names : List String}
    (hf : names.foldlM t.follow l = .ok l') : names.foldlM t'.follow l = .ok l' := by
  induction names generalizing l with
  | nil => exact hf
  | cons name names ih =>
    rw [List.foldlM_cons] at hf ⊢
    obtain ⟨m, hm, hrest⟩ := bind_eq_ok.1 hf
    exact bind_eq_ok.2 ⟨m, h.follow hm, ih hrest⟩

/-- A path still leads where it led. -/
theorem Keeps.locate (h : Keeps t t') (hp : t.locate p = .ok l) : t'.locate p = .ok l := by
  unfold FileTree.locate at hp ⊢
  split at hp
  · cases hp
  · split at hp
    · cases hp
    · rename_i hnul hempty
      rw [if_neg hnul, if_neg hempty, h.start]
      exact h.foldlM_follow hp

theorem read_eq_ok : t.read p = .ok bytes ↔
    ∃ l, t.locate p = .ok l ∧ t.get? l = some (.file bytes) ∧ p.slash = false := by
  unfold read
  constructor
  · intro h
    obtain ⟨l, hl, h⟩ := bind_eq_ok.1 h
    split at h
    · cases h
    · cases h
    · rename_i bytes' hbytes
      split at h
      · cases h
      · rename_i hslash
        obtain ⟨⟩ := h
        exact ⟨l, hl, hbytes, by simpa using hslash⟩
  · rintro ⟨l, hl, hbytes, hslash⟩
    refine bind_eq_ok.2 ⟨l, hl, ?_⟩
    simp only [hbytes, hslash]
    rfl

theorem read_of_locate_error {e : FileError} (h : t.locate p = .error e) : t.read p = .error e := by
  rw [read, h]
  rfl

theorem read_of_none (h : t.locate p = .ok l) (hl : t.get? l = none) :
    t.read p = .error .notFound := by
  rw [read, h]
  simp only [bind, Except.bind, hl]
  rfl

/-- What is read at a path is what stands where it leads. -/
theorem read_congr (h : t.locate p = .ok l) (h' : t'.locate p = .ok l)
    (hl : t'.get? l = t.get? l) : t'.read p = t.read p := by
  rw [read, read, h, h']
  simp only [bind, Except.bind, hl]

theorem write_eq_ok : t.write p bytes = .ok t' ↔
    ∃ l, t.locate p = .ok l ∧ t.get? l ≠ some .directory ∧ p.slash = false ∧
      t' = t.put l (.file bytes) := by
  unfold write
  constructor
  · intro h
    obtain ⟨l, hl, h⟩ := bind_eq_ok.1 h
    split at h
    · cases h
    all_goals
      rename_i hget
      split at h
      · cases h
      · rename_i hslash
        obtain ⟨⟩ := h
        exact ⟨l, hl, by simp [hget], by simpa using hslash, rfl⟩
  · rintro ⟨l, hl, hget, hslash, rfl⟩
    refine bind_eq_ok.2 ⟨l, hl, ?_⟩
    rw [hslash]
    split
    · rename_i hd
      exact absurd hd hget
    · rfl
    · rfl

theorem rename_eq_ok {source : FilePath} : t.rename source p = .ok t' ↔
    ∃ bytes ls l, t.read source = .ok bytes ∧ t.locate source = .ok ls ∧ t.locate p = .ok l ∧
      t.get? l ≠ some .directory ∧ p.slash = false ∧ t' = (t.erase ls).put l (.file bytes) := by
  unfold rename
  constructor
  · intro h
    obtain ⟨bytes, hbytes, h⟩ := bind_eq_ok.1 h
    obtain ⟨l, hl, h⟩ := bind_eq_ok.1 h
    split at h
    · cases h
    · rename_i hget
      split at h
      · cases h
      · rename_i hslash
        obtain ⟨ls, hls, h⟩ := bind_eq_ok.1 h
        obtain ⟨⟩ := h
        exact ⟨bytes, ls, l, hbytes, hls, hl, hget, by simpa using hslash, rfl⟩
  · rintro ⟨bytes, ls, l, hbytes, hls, hl, hget, hslash, rfl⟩
    refine bind_eq_ok.2 ⟨bytes, hbytes, bind_eq_ok.2 ⟨l, hl, ?_⟩⟩
    split
    · rename_i hd
      exact absurd hd hget
    · rw [hslash]
      exact bind_eq_ok.2 ⟨ls, hls, rfl⟩

/-- What is put where a path leads is read at it. -/
theorem read_put (hp : t.locate p = .ok l) (hl : t.get? l ≠ some .directory)
    (hslash : p.slash = false) (bytes : List UInt8) :
    (t.put l (.file bytes)).read p = .ok bytes :=
  read_eq_ok.2 ⟨l, (keeps_put hl _).locate hp, get?_put_self hl _, hslash⟩

theorem read_write (h : t.write p bytes = .ok t') : t'.read p = .ok bytes := by
  obtain ⟨l, hp, hl, hslash, rfl⟩ := write_eq_ok.1 h
  exact read_put hp hl hslash bytes

/-- A file is read at its new path as it was read at the old one. -/
theorem read_rename {source : FilePath} (h : t.rename source p = .ok t')
    (hs : t.read source = .ok bytes) : t'.read p = .ok bytes := by
  obtain ⟨bytes', ls, l, hbytes, hls, hp, hl, hslash, rfl⟩ := rename_eq_ok.1 h
  obtain rfl : bytes = bytes' := Except.ok.inj (hs.symm.trans hbytes)
  have hfile : t.get? ls ≠ some .directory := by
    obtain ⟨ls', hls', hfile, -⟩ := read_eq_ok.1 hs
    obtain rfl : ls = ls' := Except.ok.inj (hls.symm.trans hls')
    simp [hfile]
  have hl' : (t.erase ls).get? l ≠ some .directory := by
    intro hd
    -- a file may be renamed to itself
    by_cases hsame : l = ls
    · rw [hsame, get?_erase_self hfile] at hd
      cases hd
    · exact hl (get?_erase_ne hsame ▸ hd)
  exact read_put ((keeps_erase hfile).locate hp) hl' hslash bytes

end Tunnel.FileTree
