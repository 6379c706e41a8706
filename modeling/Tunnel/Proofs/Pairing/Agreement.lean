import Tunnel.Health
import Tunnel.Proofs.Pairing.Commands

/-!
# Paired or not

Two answers tell whether a connector is paired: what a monitor is told, and whether the credentials are
refused for want of a pairing. The first asks for texts that are not empty, the second for texts that are
not blank. So they differ exactly where neither text is empty and one of them is nothing but white space,
and there the connector is reported as paired and does not run.
-/
namespace Tunnel

/-- Whether a connector must be paired before it can run. With an invalid URL it is paired, though with
no relay. -/
def PairingError.isUnpaired : PairingError → Bool
  | .missingRelayUrl => true
  | .missingToken => true
  | .invalidRelayUrl _ _ => false
  | .unavailable _ => true

/-- The first of the two checks, that neither text is empty. -/
theorem Pairing.isComplete_iff {p : Pairing} :
    p.isComplete = true ↔ p.relayUrl ≠ "" ∧ p.token ≠ "" := by
  simp [isComplete]

/-- The second, that neither text is blank. -/
theorem Credentials.exists_isUnpaired_iff {c : Credentials} :
    (∃ e, c.validate = .error e ∧ e.isUnpaired = true) ↔
      Blank.isBlankText c.relayUrl = true ∨ Blank.isBlankText c.token = true := by
  unfold validate
  split_ifs with hurl htoken
  · simp [hurl, PairingError.isUnpaired]
  · simp [htoken, PairingError.isUnpaired]
  · simp only [hurl, htoken, Bool.false_eq_true, or_self, iff_false]
    rintro ⟨e, he, hunpaired⟩
    split at he
    · cases he
    · obtain rfl := Except.error.inj he
      cases hunpaired

namespace PairingStore

variable {s : PairingStore} {p : Pairing}

def LacksPairing (s : PairingStore) : Prop :=
  ∃ e, s.credentials = .error e ∧ e.isUnpaired = true

/-- A pairing is kept in which neither text is empty and one of them is blank. -/
def HoldsBlank (s : PairingStore) : Prop :=
  ∃ p, s.load = .ok p ∧ (p.relayUrl ≠ "" ∧ p.token ≠ "") ∧
    (Blank.isBlankText p.relayUrl = true ∨ Blank.isBlankText p.token = true)

theorem lacksPairing_of_load (h : s.load = .ok p) : s.LacksPairing ↔
    Blank.isBlankText p.relayUrl = true ∨ Blank.isBlankText p.token = true := by
  rw [← Credentials.exists_isUnpaired_iff (c := ⟨p.relayUrl, p.token⟩), LacksPairing,
    credentials_of_load h]
  cases Credentials.validate _ <;> simp [Except.map]

/-- A store that cannot be read lacks a pairing, and keeps none. -/
theorem lacksPairing_of_error {e : StoreError} (h : s.load = .error e) :
    s.LacksPairing ∧ s.isPaired = false := by
  refine ⟨⟨.unavailable e.message, ?_, rfl⟩, ?_⟩
  · rw [credentials, h]
  · rw [isPaired, h]

theorem holdsBlank_of_load (h : s.load = .ok p) : s.HoldsBlank ↔
    (p.relayUrl ≠ "" ∧ p.token ≠ "") ∧
      (Blank.isBlankText p.relayUrl = true ∨ Blank.isBlankText p.token = true) := by
  constructor
  · rintro ⟨q, hq, hholds⟩
    obtain rfl := Except.ok.inj (h.symm.trans hq)
    exact hholds
  · exact fun hholds => ⟨p, h, hholds⟩

end PairingStore

namespace HealthReporter

/-- What a monitor is told of the pairing and what the credentials say of it are the same if and only
if no blank text is kept for a missing one. A connector that has credentials is never reported as
unpaired. -/
theorem paired_agrees (h : HealthReporter) :
    ((h.snapshot.paired = true ↔ ¬ h.store.LacksPairing) ↔ ¬ h.store.HoldsBlank) ∧
      (h.store.LacksPairing ∨ h.snapshot.paired = true) := by
  have hpaired : h.snapshot.paired = h.store.isPaired := rfl
  rw [hpaired]
  cases hload : h.store.load with
  | error e =>
    obtain ⟨hlacks, hunpaired⟩ := PairingStore.lacksPairing_of_error hload
    have hblank : ¬ h.store.HoldsBlank := by
      rintro ⟨p, hp, -⟩
      cases hload.symm.trans hp
    simp [hlacks, hunpaired, hblank]
  | ok p =>
    rw [PairingStore.isPaired_of_load hload, Pairing.isComplete_iff,
      PairingStore.lacksPairing_of_load hload, PairingStore.holdsBlank_of_load hload]
    by_cases hcomplete : p.relayUrl ≠ "" ∧ p.token ≠ ""
    · simp [hcomplete]
    · -- What is missing is empty, and so it is blank.
      have hblank : Blank.isBlankText p.relayUrl = true ∨ Blank.isBlankText p.token = true := by
        rw [not_and_or, not_not, not_not] at hcomplete
        rcases hcomplete with hurl | htoken
        · exact .inl (hurl ▸ rfl)
        · exact .inr (htoken ▸ rfl)
      simp [hcomplete, hblank]

def spaced : HealthReporter :=
  ⟨.memory ⟨"wss://relay.example.com", " "⟩, .new .disconnected⟩

/-- A token of one space is a token for the monitor, and none for the credentials. -/
theorem paired_spaced : spaced.snapshot.paired = true ∧
    spaced.store.credentials = .error .missingToken ∧ spaced.store.LacksPairing :=
  ⟨by decide, rfl, _, rfl, rfl⟩

end HealthReporter

end Tunnel
