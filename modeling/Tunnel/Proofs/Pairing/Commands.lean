import Tunnel.CommandLine
import Tunnel.Proofs.Pairing.Store

/-!
# Pairing and then running

A pairing is checked when it is entered and checked again, in another way, when it is used. The two
checks let the same texts through: a blank text has no scheme, and so it is no URL. What is entered
is stored and read back as it is, so a connector runs with what it was paired with.
-/
namespace Tunnel

namespace Url

theorem isAlpha_of_isBlank {c : Char} (h : Blank.isBlank c = true) : c.isAlpha = false := by
  rw [Bool.eq_false_iff]
  intro ha
  have hletter : 65 ≤ c.toNat ∧ c.toNat ≤ 90 ∨ 97 ≤ c.toNat ∧ c.toNat ≤ 122 := by
    simpa [Char.isAlpha, Char.isUpper, Char.isLower, UInt32.le_iff_toNat_le] using ha
  simp only [Blank.isBlank, Bool.or_eq_true, Bool.and_eq_true, decide_eq_true_eq, beq_iff_eq] at h
  omega

theorem mem_of_mem_clean {text : String} {c : Char} (h : c ∈ clean text) : c ∈ text.toList := by
  have h := List.mem_reverse.1 (List.mem_of_mem_filter h)
  have h := List.mem_reverse.1 ((List.dropWhile_sublist _).subset h)
  exact (List.dropWhile_sublist _).subset h

theorem parse_of_isBlankText {text : String} (h : Blank.isBlankText text = true) :
    parse text = .error .noBase := by
  have hscheme : splitScheme (clean text) = none := by
    cases hc : clean text with
    | nil => rfl
    | cons a rest =>
      have hmem : a ∈ text.toList := mem_of_mem_clean (hc ▸ List.mem_cons_self)
      have ha := isAlpha_of_isBlank (List.all_eq_true.1 h a hmem)
      simp only [splitScheme, ha]
  rw [parse, read, hscheme]

end Url

namespace Validation

theorem isBlankText_of_relayUrl {text : String} {url : Url} (h : relayUrl text = .ok url) :
    Blank.isBlankText text = false := by
  rw [Bool.eq_false_iff]
  intro hblank
  rw [relayUrl, Url.parse_of_isBlankText hblank] at h
  cases h

theorem nonBlank_eq_ok {text : String} :
    nonBlank text = .ok () ↔ Blank.isBlankText text = false := by
  unfold nonBlank
  cases Blank.isBlankText text <;> simp

theorem isEmpty_of_isBlankText {text : String} (h : Blank.isBlankText text = false) :
    text.isEmpty = false := by
  rw [Bool.eq_false_iff]
  intro hempty
  obtain rfl := String.isEmpty_iff.1 hempty
  cases h

end Validation

/-- Credentials can be used exactly if both of their texts may be entered. -/
theorem Credentials.validate_eq_ok {c : Credentials} : c.validate = .ok () ↔
    (∃ url, Validation.relayUrl c.relayUrl = .ok url) ∧ Validation.nonBlank c.token = .ok () := by
  rw [Validation.nonBlank_eq_ok]
  constructor
  · intro h
    unfold validate at h
    split at h
    · cases h
    · split at h
      · cases h
      · rename_i htoken
        split at h
        · rename_i url hurl
          exact ⟨⟨url, hurl⟩, by simpa using htoken⟩
        · cases h
  · rintro ⟨⟨url, hurl⟩, htoken⟩
    simp [validate, Validation.isBlankText_of_relayUrl hurl, htoken, hurl]

namespace CommandLine

theorem exists_of_isOk {ε α : Type} {x : Except ε α} (h : x.isOk = true) : ∃ a, x = .ok a := by
  cases x with
  | error e => cases h
  | ok a => exact ⟨a, rfl⟩

/-- Whatever the file of the pairing held: if a URL and a token that may be entered were stored, a
connector runs with them as they are. -/
theorem credentials_of_store {c : PairCommand} {r : RunCommand} {files : FileTree}
    (hpath : r.path = c.path) (hurl : (Validation.relayUrl c.relayUrl).isOk = true)
    (htoken : (Validation.nonBlank c.token).isOk = true)
    (hstore : (c.store files).1.isOk = true) :
    r.credentials (c.store files).2 = .ok ⟨c.relayUrl, c.token⟩ ∧
      (PairingStore.file (c.store files).2 c.path).isPaired = true := by
  obtain ⟨url, hurl⟩ := exists_of_isOk hurl
  obtain ⟨⟨⟩, htoken⟩ := exists_of_isOk htoken
  obtain ⟨⟨⟩, hstore⟩ := exists_of_isOk hstore
  have hload : (PairingStore.file (c.store files).2 c.path).load = .ok ⟨c.relayUrl, c.token⟩ :=
    FilePairing.load_save_full (Prod.ext hstore rfl)
  constructor
  · have hvalid : (Credentials.mk c.relayUrl c.token).validate = .ok () :=
      Credentials.validate_eq_ok.2 ⟨⟨url, hurl⟩, htoken⟩
    rw [RunCommand.credentials, hpath, PairingStore.credentials_of_load hload, hvalid]
    rfl
  · have hu := Validation.isEmpty_of_isBlankText (Validation.isBlankText_of_relayUrl hurl)
    have ht := Validation.isEmpty_of_isBlankText (Validation.nonBlank_eq_ok.1 htoken)
    rw [PairingStore.isPaired_of_load hload, Pairing.isComplete, hu, ht]
    rfl

def misused : FileTree :=
  FileTree.empty.put ["work", "relaylink.json"]
    (.file (Utf8.encode "\x7b\"relayUrl\": 7, \"token\": [null], \"weight\": 0.5\x7d"))

def quoted : PairCommand := ⟨"relaylink.json", "wss://relay.example.com", "t\"é"⟩

theorem credentials_of_store_misused :
    (quoted.store misused).1.isOk = true ∧
      RunCommand.credentials ⟨quoted.path, none, .queue, .ofSeconds 30, none⟩
          (quoted.store misused).2 = .ok ⟨"wss://relay.example.com", "t\"é"⟩ ∧
      (PairingStore.file (quoted.store misused).2 quoted.path).isPaired = true := by
  have hstore : (quoted.store misused).1.isOk = true := by decide +kernel
  exact ⟨hstore, credentials_of_store rfl (by decide +kernel) (by decide +kernel) hstore⟩

end CommandLine

end Tunnel
