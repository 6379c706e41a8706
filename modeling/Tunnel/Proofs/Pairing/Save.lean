import Tunnel.Proofs.Files.Directories
import Tunnel.Proofs.Pairing.Store

/-!
# What a save changes

A save makes the directories that its path is in, writes a file beside the path and gives it the
path's name. The file beside the path is another one than the file at the path, so a save that fails
leaves the file at the path alone, and no save touches other files.
-/
namespace Tunnel.FilePairing

open FileTree (Keeps Made Rooted way)

/-- What a save answers and leaves: the files as they were, directories that were made, the new
document beside the path, or the document at the path. -/
inductive Leaves (files : FileTree) (path : String) : Except StoreError Unit → FileTree → Prop where
  | unread (e : StoreError) : Leaves files path (.error e) files
  | unwritten (e : StoreError) : Leaves files path (.error e) (files.makeParents (.ofText path)).2
  | unnamed (e : StoreError) (made : FileTree) (s : Location) (bytes : List UInt8)
      (hmade : made = (files.makeParents (.ofText path)).2)
      (hs : made.locate (staging path) = .ok s) (hfree : made.get? s ≠ some .directory) :
      Leaves files path (.error e) (made.put s (.file bytes))
  | saved (made staged : FileTree) (s l : Location) (bytes : List UInt8)
      (hmade : made = (files.makeParents (.ofText path)).2)
      (hs : made.locate (staging path) = .ok s) (hfree : made.get? s ≠ some .directory)
      (hstaged : staged = made.put s (.file bytes)) (hp : staged.locate (.ofText path) = .ok l)
      (hl : staged.get? l ≠ some .directory) :
      Leaves files path (.ok ()) ((staged.erase s).put l (.file bytes))

variable {files files' made staged : FileTree} {path : String} {u : PairingUpdate} {s l : Location}
  {bytes : List UInt8} {r : Except StoreError Unit}

theorem leaves_save (h : save files path u = (r, files')) : Leaves files path r files' := by
  unfold save at h
  split at h
  · obtain ⟨⟩ := h
    exact .unread _
  · rename_i ms hms
    unfold writeMembers at h
    simp only at h
    rcases hmake : files.makeParents (.ofText path) with ⟨answer, made⟩
    have hmade : made = (files.makeParents (.ofText path)).2 := by rw [hmake]
    rw [hmake] at h
    cases answer with
    | error e =>
      obtain ⟨⟩ := h
      exact hmade ▸ .unwritten _
    | ok =>
      simp only at h
      split at h
      · obtain ⟨⟩ := h
        exact hmade ▸ .unwritten _
      · rename_i staged hwrite
        obtain ⟨s, hs, hfree, -, hstaged⟩ := FileTree.write_eq_ok.1 hwrite
        split at h
        · obtain ⟨⟩ := h
          exact hstaged ▸ .unnamed _ made s _ hmade hs hfree
        · rename_i hrename
          obtain ⟨⟩ := h
          obtain ⟨bytes, s', l, hread, hs', hp, hl, -, rfl⟩ := FileTree.rename_eq_ok.1 hrename
          obtain rfl : s = s' := Except.ok.inj
            ((hstaged ▸ (FileTree.keeps_put hfree _).locate hs).symm.trans hs')
          obtain rfl : _ = bytes := Except.ok.inj ((FileTree.read_write hwrite).symm.trans hread)
          exact .saved made staged s l _ hmade hs hfree hstaged hp hl

/-- What a file is written to before it takes its name is not the file at the path. -/
theorem directory_of_staging {t : FileTree} (hp : t.locate (.ofText path) = .ok l)
    (hs : t.locate (staging path) = .ok l) : t.get? l = some .directory :=
  FileTree.directory_of_locate_withExtension hp hs

theorem staging_free (hfree : made.get? s ≠ some .directory)
    (hstaged : staged = made.put s (.file bytes)) : staged.get? s ≠ some .directory := by
  rw [hstaged, FileTree.get?_put_self hfree]
  simp

/-- The file that takes the name leaves another one. -/
theorem staging_ne (hs : made.locate (staging path) = .ok s)
    (hfree : made.get? s ≠ some .directory) (hstaged : staged = made.put s (.file bytes))
    (hp : staged.locate (.ofText path) = .ok l) : l ≠ s := by
  rintro rfl
  have hs' : staged.locate (staging path) = .ok l :=
    hstaged ▸ (FileTree.keeps_put hfree _).locate hs
  exact staging_free hfree hstaged (directory_of_staging hp hs')

theorem target_free (hs : made.locate (staging path) = .ok s)
    (hfree : made.get? s ≠ some .directory) (hstaged : staged = made.put s (.file bytes))
    (hp : staged.locate (.ofText path) = .ok l) (hl : staged.get? l ≠ some .directory) :
    (staged.erase s).get? l ≠ some .directory := by
  rwa [FileTree.get?_erase_ne (staging_ne hs hfree hstaged hp)]

theorem keeps_makeParents (hmade : made = (files.makeParents (.ofText path)).2) :
    Keeps files made :=
  hmade ▸ (FileTree.made_makeParents files _).keeps

theorem Leaves.keeps (h : Leaves files path r files') : Keeps files files' := by
  cases h with
  | unread e => exact .refl files
  | unwritten e => exact keeps_makeParents rfl
  | unnamed e made s bytes hmade hs hfree =>
    exact (keeps_makeParents hmade).trans (FileTree.keeps_put hfree _)
  | saved made staged s l bytes hmade hs hfree hstaged hp hl =>
    have hput : Keeps made staged := hstaged ▸ FileTree.keeps_put hfree _
    have herase := FileTree.keeps_erase (staging_free hfree hstaged)
    exact ((keeps_makeParents hmade).trans hput).trans
      (herase.trans (FileTree.keeps_put (target_free hs hfree hstaged hp hl) _))

theorem Leaves.rooted (h : Leaves files path r files') (hroot : Rooted files) : Rooted files' := by
  have hmake := FileTree.rooted_makeParents hroot (.ofText path)
  cases h with
  | unread e => exact hroot
  | unwritten e => exact hmake
  | unnamed e made s bytes hmade hs hfree =>
    exact (hmade ▸ hmake).put hfree (FileTree.housed_of_locate hs) _
  | saved made staged s l bytes hmade hs hfree hstaged hp hl =>
    have hstage : Rooted staged :=
      hstaged ▸ (hmade ▸ hmake).put hfree (FileTree.housed_of_locate hs) _
    have hl' := target_free hs hfree hstaged hp hl
    have hp' := (FileTree.keeps_erase (staging_free hfree hstaged)).locate hp
    exact (hstage.erase (staging_free hfree hstaged)).put hl' (FileTree.housed_of_locate hp') _

/-- After a save there is no file beside the path. -/
theorem Leaves.staging_none (h : Leaves files path (.ok ()) files') :
    ∃ s, files'.locate (staging path) = .ok s ∧ files'.get? s = none := by
  cases h with
  | saved made staged s l bytes hmade hs hfree hstaged hp hl =>
    have hfree' := staging_free hfree hstaged
    have hput : Keeps made staged := hstaged ▸ FileTree.keeps_put hfree _
    have hlast := FileTree.keeps_put (target_free hs hfree hstaged hp hl) (.file bytes)
    refine ⟨s, ((hput.trans (FileTree.keeps_erase hfree')).trans hlast).locate hs, ?_⟩
    rw [FileTree.get?_put_ne (staging_ne hs hfree hstaged hp).symm,
      FileTree.get?_erase_self hfree']

/-- A save changes only directories that are made, the file beside the path and, if it succeeds, the
file at the path. -/
theorem Leaves.entry (h : Leaves files path r files') (l : Location) :
    files'.get? l = files.get? l ∨
      l ∈ way (files.start (.ofText path)) (FilePath.ofText path).parent.names ∧
        files.get? l = none ∧ files'.get? l = some .directory ∨
      files'.locate (staging path) = .ok l ∧ files'.get? l ≠ some .directory ∨
      r = .ok () ∧ files'.locate (.ofText path) = .ok l := by
  have hmake := (FileTree.made_makeParents files (.ofText path)).entry l
  have hkeeps := h.keeps
  cases h with
  | unread e => exact .inl rfl
  | unwritten e => exact hmake.imp_right .inl
  | unnamed e made s bytes hmade hs hfree =>
    by_cases hls : l = s
    · subst hls
      exact .inr (.inr (.inl ⟨(FileTree.keeps_put hfree _).locate hs, staging_free hfree rfl⟩))
    · rw [FileTree.get?_put_ne hls, hmade]
      exact hmake.imp_right .inl
  | saved made staged s l' bytes hmade hs hfree hstaged hp hl =>
    have hput : Keeps made staged := hstaged ▸ FileTree.keeps_put hfree _
    have hlast : Keeps staged ((staged.erase s).put l' (.file bytes)) :=
      (FileTree.keeps_erase (staging_free hfree hstaged)).trans
        (FileTree.keeps_put (target_free hs hfree hstaged hp hl) _)
    have hne := staging_ne hs hfree hstaged hp
    by_cases hls : l = s
    · subst hls
      refine .inr (.inr (.inl ⟨(hput.trans hlast).locate hs, ?_⟩))
      rw [FileTree.get?_put_ne hne.symm, FileTree.get?_erase_self (staging_free hfree hstaged)]
      simp
    · by_cases hll : l = l'
      · subst hll
        exact .inr (.inr (.inr ⟨rfl, hlast.locate hp⟩))
      · rw [FileTree.get?_put_ne hll, FileTree.get?_erase_ne hls, hstaged,
          FileTree.get?_put_ne hls, hmade]
        exact hmake.imp_right .inl

variable {e : StoreError}

/-- A save that fails leaves the file where its path leads. -/
theorem Leaves.file_iff (h : Leaves files path (.error e) files')
    (hp : files'.locate (.ofText path) = .ok l) (bytes : List UInt8) :
    files'.get? l = some (.file bytes) ↔ files.get? l = some (.file bytes) := by
  rcases h.entry l with hsame | ⟨-, hnone, hdirectory⟩ | ⟨hs, hne⟩ | ⟨hr, -⟩
  · rw [hsame]
  · simp [hnone, hdirectory]
  · exact absurd (directory_of_staging hp hs) hne
  · cases hr

/-- A path that led somewhere reads as before. -/
theorem Leaves.read_of_locate (h : Leaves files path (.error e) files')
    (hp : files.locate (.ofText path) = .ok l) :
    files'.read (.ofText path) = files.read (.ofText path) := by
  have hmake := FileTree.makeParents_of_locate hp
  refine FileTree.read_congr hp (h.keeps.locate hp) ?_
  cases h with
  | unread e => rfl
  | unwritten e => rw [hmake]
  | unnamed e made s bytes hmade hs hfree =>
    obtain rfl : made = files := by rw [hmade, hmake]
    have hne : l ≠ s := by
      rintro rfl
      exact hfree (directory_of_staging hp hs)
    rw [FileTree.get?_put_ne hne]

/-- A plain path that led to nothing leads to nothing. -/
theorem Leaves.read_of_missing (h : Leaves files path (.error e) files') (hroot : Rooted files)
    (hplain : (FilePath.ofText path).isPlain)
    (hp : files.locate (.ofText path) = .error .notFound) :
    files'.read (.ofText path) = .error .notFound := by
  obtain ⟨hnul, hempty | hw⟩ := FileTree.locate_eq_notFound hp
  · exact FileTree.read_of_locate_error (by rw [FileTree.locate, if_neg hnul, if_pos hempty])
  · obtain ⟨hup, hsize⟩ := FilePath.isPlain_iff.1 hplain
    have hvacant := FileTree.vacant_of_walk hroot hup hsize hw
    have hmade := hvacant.made hplain (FileTree.made_makeParents files (.ofText path))
    have hstart : (files.makeParents (.ofText path)).2.start (.ofText path) =
        files.start (.ofText path) := (keeps_makeParents rfl).start _
    refine FileTree.Vacant.read ?_ hplain hnul
    rw [h.keeps.start]
    cases h with
    | unread e => exact hvacant
    | unwritten e => exact hmade
    | unnamed e made s bytes hmade' hs hfree =>
      subst hmade'
      rw [← hstart] at hmade ⊢
      exact hmade.put hplain hs _

/-- A path that could not be followed is not read, so nothing is saved. -/
theorem save_of_locate_error {error : FileError}
    (hp : files.locate (.ofText path) = .error error) (hne : error ≠ .notFound)
    (u : PairingUpdate) : (save files path u).2 = files := by
  have hread := FileTree.read_of_locate_error hp
  have hms : readMembers files path = .error (.io path error) := by
    unfold readMembers
    rw [hread]
    cases error <;> first | rfl | exact absurd rfl hne
  rw [save, hms]

theorem load_congr (h : files'.read (.ofText path) = files.read (.ofText path)) :
    load files' path = load files path := by
  unfold load readMembers
  rw [h]

/-- A save changes no file but the one at its path and the one beside it, which is another, and makes
only directories that its path is in. If it fails, the file that its path leads to is what it was,
and the path reads as before and is loaded as before, unless it led to nothing for a missing
directory and goes up or has an overlong name. -/
theorem save_frame (h : save files path u = (r, files')) :
    (∀ l, files'.get? l = files.get? l ∨
      l ∈ way (files.start (.ofText path)) (FilePath.ofText path).parent.names ∧
        files.get? l = none ∧ files'.get? l = some .directory ∨
      files'.locate (staging path) = .ok l ∧ files'.get? l ≠ some .directory ∨
      r = .ok () ∧ files'.locate (.ofText path) = .ok l) ∧
    (∀ (t : FileTree) (l : Location), t.locate (.ofText path) = .ok l →
      t.locate (staging path) = .ok l → t.get? l = some .directory) ∧
    (∀ e, r = .error e →
      (∀ l bytes, files'.locate (.ofText path) = .ok l →
        (files'.get? l = some (.file bytes) ↔ files.get? l = some (.file bytes))) ∧
      (files.locate (.ofText path) ≠ .error .notFound ∨
          files.Rooted ∧ (FilePath.ofText path).isPlain →
        files'.read (.ofText path) = files.read (.ofText path) ∧
          load files' path = load files path)) ∧
    (files.Rooted → files'.Rooted) := by
  have hleaves := leaves_save h
  refine ⟨hleaves.entry, fun t l => directory_of_staging, ?_, hleaves.rooted⟩
  rintro e rfl
  refine ⟨fun l bytes hp => hleaves.file_iff hp bytes, fun hsafe => ?_⟩
  have hread : files'.read (.ofText path) = files.read (.ofText path) := by
    cases hp : files.locate (.ofText path) with
    | ok l => exact hleaves.read_of_locate hp
    | error error =>
      by_cases hmissing : error = .notFound
      · subst hmissing
        obtain ⟨hroot, hplain⟩ := hsafe.resolve_left fun hne => hne hp
        rw [hleaves.read_of_missing hroot hplain hp, FileTree.read_of_locate_error hp]
      · rw [← save_of_locate_error hp hmissing u, h]
  exact ⟨hread, load_congr hread⟩

def elsewhere : FileTree := FileTree.empty.put ["work", "other"] (.file [7])

/-- A path that ends in a slash cannot be given to a file. Its directory is made and the file beside
it is written, but the path still leads to nothing. -/
theorem save_frame_slash :
    (save elsewhere "new/c.json/" {}).1.toOption = none ∧ elsewhere.Rooted ∧
      (FilePath.ofText "new/c.json/").isPlain ∧
      (save elsewhere "new/c.json/" {}).2.get? ["work", "new"] = some .directory ∧
      load (save elsewhere "new/c.json/" {}).2 "new/c.json/" = load elsewhere "new/c.json/" := by
  have hfails : (save elsewhere "new/c.json/" {}).1.toOption = none := by decide +kernel
  have hplain : (FilePath.ofText "new/c.json/").isPlain := by decide +kernel
  have hnew : (save elsewhere "new/c.json/" {}).2.get? ["work", "new"] = some .directory := by
    decide +kernel
  have hroot : elsewhere.Rooted := by
    have hhoused := FileTree.housed_start FileTree.empty ⟨false, [], false⟩
    exact FileTree.rooted_empty.put (by decide) (hhoused.stepTo (by decide) "other") _
  refine ⟨hfails, hroot, hplain, hnew, ?_⟩
  rcases hsave : save elsewhere "new/c.json/" {} with ⟨r, after⟩
  rw [hsave] at hfails
  obtain ⟨-, -, hfailed, -⟩ := save_frame hsave
  cases r with
  | ok => cases hfails
  | error e => exact ((hfailed e rfl).2 (.inr ⟨hroot, hplain⟩)).2

/-- A path that goes up from a missing directory leads to nothing. A save makes that directory, and
where it fails after that, the path leads to a file that was there before. -/
theorem load_after_failed_save :
    let files := (FileTree.empty.put ["work", "c.json"] (.file (Utf8.encode
      "\x7b\"relayUrl\":\"wss://old\",\"token\":\"t\"\x7d"))).put ["work", "c.json.tmp"] .directory
    let path := "a/../c.json"
    let u : PairingUpdate := ⟨some "wss://new", none⟩
    (load files path).toOption = some ⟨"", ""⟩ ∧ (save files path u).1.toOption = none ∧
      (load (save files path u).2 path).toOption = some ⟨"wss://old", "t"⟩ := by
  decide +kernel

end Tunnel.FilePairing
