import Tunnel.Pairing.Store
import Tunnel.Proofs.Files
import Tunnel.Proofs.Pairing.Document

/-!
# A pairing in a file and a pairing in memory

A file that is saved holds the document that was written, and reads as the pairing that the update
made. So the operations on a store answer alike whether the pairing is kept in a file or in memory,
as long as no file operation fails.
-/
namespace Tunnel

namespace FilePairing

open Document (Stored reread)
open Json (Rereads bind_eq_ok)

variable {files files' : FileTree} {path : String} {ms : Document.Members} {p : Pairing}
  {u : PairingUpdate}

/-- A missing file holds no members, and another those of its document. -/
theorem readMembers_eq_ok : readMembers files path = .ok ms ↔
    files.read (.ofText path) = .error .notFound ∧ ms = [] ∨
      ∃ bytes, files.read (.ofText path) = .ok bytes ∧
        Document.parse (Utf8.glyphs bytes) = .ok ms := by
  unfold readMembers
  constructor
  · intro h
    split at h
    · rename_i hread
      exact .inl ⟨hread, (Except.ok.inj h).symm⟩
    · cases h
    · rename_i bytes hread
      simp only at h
      split at h
      · rename_i hparse
        obtain ⟨⟩ := h
        exact .inr ⟨bytes, hread, hparse⟩
      · cases h
  · rintro (⟨hread, rfl⟩ | ⟨bytes, hread, hparse⟩)
    · simp only [hread]
    · simp only [hread, hparse]

theorem stored_of_readMembers (h : readMembers files path = .ok ms) : Stored ms := by
  obtain ⟨-, rfl⟩ | ⟨bytes, -, hparse⟩ := readMembers_eq_ok.1 h
  · exact Document.stored_nil
  · exact Document.stored_of_parse hparse

theorem load_eq_ok : load files path = .ok p ↔
    ∃ ms, readMembers files path = .ok ms ∧ Document.pairing ms = .ok p := by
  unfold load
  constructor
  · intro h
    obtain ⟨ms, hms, h⟩ := bind_eq_ok.1 h
    split at h
    · rename_i hp
      obtain ⟨⟩ := h
      exact ⟨ms, hms, hp⟩
    · cases h
  · rintro ⟨ms, hms, hp⟩
    refine bind_eq_ok.2 ⟨ms, hms, ?_⟩
    simp only [hp]
    rfl

theorem writeMembers_eq_ok : writeMembers files path ms = (.ok (), files') ↔
    ∃ made staged, files.makeParents (.ofText path) = (.ok (), made) ∧
      made.write (staging path) (Utf8.encode (Document.render ms)) = .ok staged ∧
      staged.rename (staging path) (.ofText path) = .ok files' := by
  constructor
  · intro h
    unfold writeMembers at h
    simp only at h
    split at h
    · cases h
    · rename_i made hmake
      split at h
      · cases h
      · rename_i staged hwrite
        split at h
        · cases h
        · rename_i hrename
          obtain ⟨⟩ := h
          exact ⟨made, staged, hmake, hwrite, hrename⟩
  · rintro ⟨made, staged, hmake, hwrite, hrename⟩
    simp only [writeMembers, hmake, hwrite, hrename]

/-- The file that takes the name is the one that was written beside it. -/
theorem read_of_writeMembers (h : writeMembers files path ms = (.ok (), files')) :
    files'.read (.ofText path) = .ok (Utf8.encode (Document.render ms)) := by
  obtain ⟨made, staged, -, hwrite, hrename⟩ := writeMembers_eq_ok.1 h
  exact FileTree.read_rename hrename (FileTree.read_write hwrite)

theorem readMembers_of_writeMembers {f : UInt64 → UInt64} (hf : Rereads f) (hms : Stored ms)
    (h : writeMembers files path ms = (.ok (), files')) :
    readMembers files' path = .ok (reread f ms) :=
  readMembers_eq_ok.2 (.inr ⟨_, read_of_writeMembers h, hms.parse_render hf⟩)

theorem save_eq_ok (h : save files path u = (.ok (), files')) :
    ∃ ms, readMembers files path = .ok ms ∧
      writeMembers files path (Document.apply ms u) = (.ok (), files') := by
  unfold save at h
  split at h
  · cases h
  · rename_i ms hms
    exact ⟨ms, hms, h⟩

/-- What is loaded after a save is the pairing of the document that was updated. -/
theorem load_of_save (h : save files path u = (.ok (), files')) :
    ∃ ms, readMembers files path = .ok ms ∧
      ∀ p, Document.pairing (Document.apply ms u) = .ok p → load files' path = .ok p := by
  obtain ⟨f, hf⟩ := Json.exists_rereads
  obtain ⟨ms, hms, hwrite⟩ := save_eq_ok h
  have hstored := (stored_of_readMembers hms).apply u
  -- the members of others may come back with other numbers, but no text changes
  exact ⟨ms, hms, fun p hp => load_eq_ok.2
    ⟨_, readMembers_of_writeMembers hf hstored hwrite, Document.pairing_reread f hp⟩⟩

/-- A save updates the pairing that a file holds. -/
theorem load_save (hload : load files path = .ok p) (h : save files path u = (.ok (), files')) :
    load files' path = .ok (p.apply u) := by
  obtain ⟨ms, hms, hp⟩ := load_eq_ok.1 hload
  obtain ⟨ms', hms', hsaved⟩ := load_of_save h
  obtain rfl : ms = ms' := Except.ok.inj (hms.symm.trans hms')
  exact hsaved _ (Document.pairing_apply u hp)

/-- A save of both texts makes a pairing of any file that it succeeds on. -/
theorem load_save_full {relayUrl token : String}
    (h : save files path ⟨some relayUrl, some token⟩ = (.ok (), files')) :
    load files' path = .ok ⟨relayUrl, token⟩ := by
  obtain ⟨ms, -, hsaved⟩ := load_of_save h
  exact hsaved _ (Document.pairing_apply_full ms relayUrl token)

theorem writeMembers_eq_error {e : StoreError}
    (h : writeMembers files path ms = (.error e, files')) : ∃ error, e = .io path error := by
  unfold writeMembers at h
  simp only at h
  split at h
  · exact ⟨_, (Except.error.inj (congrArg Prod.fst h)).symm⟩
  · split at h
    · exact ⟨_, (Except.error.inj (congrArg Prod.fst h)).symm⟩
    · split at h
      · exact ⟨_, (Except.error.inj (congrArg Prod.fst h)).symm⟩
      · cases h

/-- A file that holds a pairing is saved, unless a file operation fails. -/
theorem save_of_load (hload : load files path = .ok p)
    (hio : ∀ error, (save files path u).1 ≠ .error (.io path error)) :
    ∃ files', save files path u = (.ok (), files') := by
  obtain ⟨ms, hms, -⟩ := load_eq_ok.1 hload
  have hsave : save files path u = writeMembers files path (Document.apply ms u) := by
    simp only [save, hms]
  rw [hsave] at hio ⊢
  rcases hw : writeMembers files path (Document.apply ms u) with ⟨r, files'⟩
  cases r with
  | ok => exact ⟨files', rfl⟩
  | error e =>
    obtain ⟨error, rfl⟩ := writeMembers_eq_error hw
    rw [hw] at hio
    exact absurd rfl (hio error)

end FilePairing

namespace PairingStore

inductive Operation where
  | save (u : PairingUpdate)
  | load
  | isPaired
  | credentials

inductive Answer where
  | saved (r : Except StoreError Unit)
  | loaded (r : Except StoreError Pairing)
  | isPaired (b : Bool)
  | credentials (r : Except PairingError Credentials)

def perform (s : PairingStore) : Operation → Answer × PairingStore
  | .save u => ((s.save u).map .saved id)
  | .load => (.loaded s.load, s)
  | .isPaired => (.isPaired s.isPaired, s)
  | .credentials => (.credentials s.credentials, s)

def answers (s : PairingStore) : List Operation → List Answer
  | [] => []
  | op :: ops => (s.perform op).1 :: (s.perform op).2.answers ops

def Answer.isUnsaved : Answer → Bool
  | .saved (.error (.io _ _)) => true
  | _ => false

variable {files : FileTree} {path : String} {p : Pairing}

theorem isPaired_of_load {s : PairingStore} (h : s.load = .ok p) : s.isPaired = p.isComplete := by
  rw [isPaired, h]

theorem credentials_of_load {s : PairingStore} (h : s.load = .ok p) :
    s.credentials = (Credentials.mk p.relayUrl p.token).validate.map
      fun _ => ⟨p.relayUrl, p.token⟩ := by
  rw [credentials, h]
  simp only
  cases Credentials.validate _ <;> rfl

/-- A file and a memory that hold the same pairing answer an operation alike, and hold the same
pairing after it. -/
theorem perform_alike (hload : FilePairing.load files path = .ok p) (op : Operation)
    (hop : ((file files path).perform op).1.isUnsaved = false) :
    ∃ answer files' p', (file files path).perform op = (answer, file files' path) ∧
      (memory p).perform op = (answer, memory p') ∧ FilePairing.load files' path = .ok p' := by
  have hfile : (file files path).load = .ok p := hload
  have hmemory : (memory p).load = .ok p := rfl
  cases op with
  | save u =>
    obtain ⟨files', hsave⟩ := FilePairing.save_of_load (u := u) hload fun error he => by
      simp [perform, save, he, Answer.isUnsaved] at hop
    refine ⟨.saved (.ok ()), files', p.apply u, ?_, rfl, FilePairing.load_save hload hsave⟩
    rw [perform, save, hsave]
    rfl
  | load =>
    exact ⟨_, files, p, rfl, by rw [perform, hmemory, hfile], hload⟩
  | isPaired =>
    exact ⟨_, files, p, rfl,
      by rw [perform, isPaired_of_load hmemory, isPaired_of_load hfile], hload⟩
  | credentials =>
    exact ⟨_, files, p, rfl,
      by rw [perform, credentials_of_load hmemory, credentials_of_load hfile], hload⟩

theorem answers_alike (hload : FilePairing.load files path = .ok p) (ops : List Operation)
    (hops : ∀ a ∈ (file files path).answers ops, a.isUnsaved = false) :
    (file files path).answers ops = (memory p).answers ops := by
  -- what the file loads as is the state of the memory, before and after every operation
  induction ops generalizing files p with
  | nil => rfl
  | cons op ops ih =>
    rw [answers] at hops ⊢
    obtain ⟨hop, hrest⟩ := List.forall_mem_cons.1 hops
    obtain ⟨answer, files', p', hf, hm, hload'⟩ := perform_alike hload op hop
    rw [hf] at hrest ⊢
    rw [answers, hm, ih hload' hrest]

/-- Whether a file is missing or holds an object in which the relay's URL and the token are texts,
where they are there. -/
def isSound (files : FileTree) (path : String) : Bool :=
  match files.read (.ofText path) with
  | .error e => e = .notFound
  | .ok bytes =>
    match Document.parse (Utf8.glyphs bytes) with
    | .error _ => false
    | .ok ms => [Document.relayUrlName, Document.tokenName].all (Document.isTextOrMissing · ms)

theorem load_of_isSound (h : isSound files path) : ∃ p, FilePairing.load files path = .ok p := by
  unfold isSound at h
  split at h
  · rename_i e hread
    obtain rfl : e = .notFound := of_decide_eq_true h
    exact ⟨{}, FilePairing.load_eq_ok.2
      ⟨[], FilePairing.readMembers_eq_ok.2 (.inl ⟨hread, rfl⟩), rfl⟩⟩
  · rename_i bytes hread
    split at h
    · cases h
    · rename_i ms hparse
      rw [List.all_eq_true] at h
      obtain ⟨relayUrl, hu⟩ := Document.exists_text (h Document.relayUrlName (by simp))
      obtain ⟨token, ht⟩ := Document.exists_text (h Document.tokenName (by simp))
      exact ⟨⟨relayUrl, token⟩, FilePairing.load_eq_ok.2
        ⟨ms, FilePairing.readMembers_eq_ok.2 (.inr ⟨bytes, hread, hparse⟩),
          Document.pairing_eq_ok.2 ⟨hu, ht⟩⟩⟩

/-- A store in a file answers every sequence of operations as one in memory does that starts with
the pairing in the file, unless a file operation fails as a pairing is saved. -/
theorem file_refines_memory (h : isSound files path) :
    ∃ p, (file files path).load = .ok p ∧ ∀ ops,
      (∀ a ∈ (file files path).answers ops, a.isUnsaved = false) →
        (file files path).answers ops = (memory p).answers ops := by
  obtain ⟨p, hload⟩ := load_of_isSound h
  exact ⟨p, hload, fun ops => answers_alike hload ops⟩

/-- A file with members of its own, one of them a number that is no integer. -/
def labelled : FileTree :=
  FileTree.empty.put ["work", "relaylink.json"]
    (.file (Utf8.encode "\x7b\"token\": \"old\", \"label\": \"edge-01\", \"weight\": 0.1\x7d"))

/-- A pairing that is entered in two parts, with a token that must be escaped. -/
def session : List Operation :=
  [.load, .save ⟨some "wss://relay.example.com", none⟩, .isPaired, .save ⟨none, some "t\n\"é"⟩,
    .credentials]

theorem file_refines_memory_labelled :
    isSound labelled "relaylink.json" ∧
      (∀ a ∈ (file labelled "relaylink.json").answers session, a.isUnsaved = false) ∧
      (file labelled "relaylink.json").answers session = (memory ⟨"", "old"⟩).answers session := by
  have hsound : isSound labelled "relaylink.json" := by decide +kernel
  have hsaved : ∀ a ∈ (file labelled "relaylink.json").answers session, a.isUnsaved = false := by
    decide +kernel
  have hold : (file labelled "relaylink.json").load.toOption = some ⟨"", "old"⟩ := by decide +kernel
  obtain ⟨p, hload, halike⟩ := file_refines_memory hsound
  obtain rfl : p = ⟨"", "old"⟩ := by
    rw [hload] at hold
    exact Option.some.inj hold
  exact ⟨hsound, hsaved, halike session hsaved⟩

end PairingStore

end Tunnel
