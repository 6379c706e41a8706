import Tunnel.Pairing.Document
import Tunnel.Proofs.Field
import Tunnel.Proofs.Json.Pretty
import Tunnel.Proofs.Utf8

/-!
# Documents that are stored and read back

The members of a document that was read are sorted and can be written, and so they are after an
update. Written and read again they are what they were, but for their floating point numbers; the
pairing is among the texts and comes back as it was stored.
-/
namespace Tunnel.Document

open Json (Rereads Sorted Writable bind_eq_ok)
open Utf8 (Glyph)

variable {ms : Members} {f : UInt64 → UInt64} {p : Pairing} {name : String}

/-- A document is an object in normal form. -/
theorem reader_eq_ok {size : Nat} {c c' : Json.Cursor} : reader size c = .ok (ms, c') ↔
    ∃ raw, Json.value size Json.maxDepth c = .ok (.object raw, c') ∧
      ms = Json.normalizeMembers raw [] := by
  constructor
  · intro h
    unfold reader at h
    simp only at h
    split at h
    · cases h
    · rename_i rest hr
      obtain ⟨⟨raw, c₁⟩, hm, ⟨⟩⟩ := bind_eq_ok.1 h
      have hraw : Json.value size (Json.maxDepth - 1 + 1) c = .ok (.object raw.reverse, c₁) :=
        Json.value_eq_object.2 ⟨rest, hr, by rw [List.reverse_reverse]; exact hm⟩
      exact ⟨raw.reverse, hraw, rfl⟩
    · cases h
    · obtain ⟨⟨v, c₁⟩, -, h⟩ := bind_eq_ok.1 h
      cases h
  · rintro ⟨raw, hv, rfl⟩
    have hraw : Json.value size (Json.maxDepth - 1 + 1) c = .ok (.object raw, c') := hv
    obtain ⟨rest, hr, hm⟩ := Json.value_eq_object.1 hraw
    unfold reader
    simp only [hr]
    refine bind_eq_ok.2 ⟨_, hm, ?_⟩
    rw [List.reverse_reverse]
    rfl

theorem parse_eq_ok {gs : List Glyph} : parse gs = .ok ms ↔
    ∃ raw, Json.read gs = .ok (.object raw) ∧ ms = Json.normalizeMembers raw [] := by
  simp only [parse, Json.read, Json.document_eq_ok, reader_eq_ok]
  constructor
  · rintro ⟨c, ⟨raw, hv, rfl⟩, hend⟩
    exact ⟨raw, ⟨c, hv, hend⟩, rfl⟩
  · rintro ⟨raw, ⟨c, hv, hend⟩, rfl⟩
    exact ⟨c, ⟨raw, hv, rfl⟩, hend⟩

/-- Members that a document can hold: their names are sorted and their values can be written. -/
structure Stored (ms : Members) : Prop where
  sorted : Sorted ms
  writable : ∀ m ∈ ms, Writable (Json.maxDepth - 1) m.2

theorem stored_nil : Stored [] := ⟨.nil, nofun⟩

theorem stored_of_parse {gs : List Glyph} (h : parse gs = .ok ms) : Stored ms := by
  obtain ⟨raw, hread, rfl⟩ := parse_eq_ok.1 h
  obtain ⟨c, hv, -⟩ := Json.document_eq_ok.1 hread
  refine ⟨Json.sorted_normalizeMembers .nil raw, ?_⟩
  cases Json.writable_value hv with
  | object hm => exact Json.forall_mem_normalizeMembers (fun m hmem => (hm m hmem).normalize) nofun

theorem Stored.setText (h : Stored ms) (name : String) (value : Option String) :
    Stored (setText name value ms) := by
  cases value with
  | none => exact h
  | some s =>
    exact ⟨h.sorted.setMember name _,
      Json.forall_mem_setMember (P := fun m => Writable _ m.2) (.text _ s) h.writable⟩

theorem Stored.apply (h : Stored ms) (u : PairingUpdate) : Stored (apply ms u) :=
  (h.setText relayUrlName u.relayUrl).setText tokenName u.token

def reread (f : UInt64 → UInt64) (ms : Members) : Members :=
  ms.map fun m => (m.1, (m.2.mapReals f).normalize)

theorem Stored.parse_render (hf : Rereads f) (h : Stored ms) :
    parse (Utf8.glyphs (Utf8.encode (render ms))) = .ok (reread f ms) := by
  have hspells := (Writable.object h.writable).spells hf 0
  rw [Json.mapReals, Json.mapRealsMembers_eq_map] at hspells
  rw [Utf8.glyphs_encode, render, Json.renderPretty, String.toList_ofList]
  refine parse_eq_ok.2 ⟨_, Json.read_spelled hspells, ?_⟩
  have hsorted : Sorted ([] ++ ms.map fun m => (m.1, m.2.mapReals f)) :=
    List.pairwise_map.2 h.sorted
  rw [Json.normalizeMembers_of_sorted hsorted, List.nil_append, List.map_map]
  rfl

theorem Stored.reread (hf : Rereads f) (h : Stored ms) : Stored (reread f ms) :=
  stored_of_parse (h.parse_render hf)

theorem member?_reread (f : UInt64 → UInt64) (name : String) (ms : Members) :
    Json.member? name (reread f ms) =
      (Json.member? name ms).map fun v => (v.mapReals f).normalize := by
  simp only [Json.member?, reread, List.find?_map, Option.map_map]
  rfl

theorem text_eq_ok {s : String} : text ms name = .ok s ↔
    Json.member? name ms = none ∧ s = "" ∨ Json.member? name ms = some (.text s) := by
  unfold text
  cases Json.member? name ms with
  | none => simp [eq_comm]
  | some v => simp [Field.text_eq_ok]

theorem pairing_eq_ok : pairing ms = .ok p ↔
    text ms relayUrlName = .ok p.relayUrl ∧ text ms tokenName = .ok p.token := by
  unfold pairing
  constructor
  · intro h
    obtain ⟨relayUrl, hu, h⟩ := bind_eq_ok.1 h
    obtain ⟨token, ht, ⟨⟩⟩ := bind_eq_ok.1 h
    exact ⟨hu, ht⟩
  · rintro ⟨hu, ht⟩
    exact bind_eq_ok.2 ⟨_, hu, bind_eq_ok.2 ⟨_, ht, rfl⟩⟩

def isTextOrMissing (name : String) (ms : Members) : Bool :=
  match Json.member? name ms with
  | none => true
  | some (.text _) => true
  | some _ => false

theorem exists_text (h : isTextOrMissing name ms) : ∃ s, text ms name = .ok s := by
  simp only [text_eq_ok]
  unfold isTextOrMissing at h
  split at h
  · rename_i hnone
    exact ⟨"", .inl ⟨hnone, rfl⟩⟩
  · rename_i s hsome
    exact ⟨s, .inr hsome⟩
  · cases h

theorem text_reread {s : String} (f : UInt64 → UInt64) (h : text ms name = .ok s) :
    text (reread f ms) name = .ok s := by
  rw [text_eq_ok, member?_reread]
  obtain ⟨hnone, rfl⟩ | hsome := text_eq_ok.1 h
  · exact .inl ⟨by rw [hnone]; rfl, rfl⟩
  · exact .inr (by rw [hsome]; rfl)

theorem pairing_reread (f : UInt64 → UInt64) (h : pairing ms = .ok p) :
    pairing (reread f ms) = .ok p := by
  obtain ⟨hu, ht⟩ := pairing_eq_ok.1 h
  exact pairing_eq_ok.2 ⟨text_reread f hu, text_reread f ht⟩

theorem text_setText_self (name s : String) (ms : Members) :
    text (setText name (some s) ms) name = .ok s :=
  text_eq_ok.2 (.inr (Json.member?_setMember_self name _ ms))

theorem text_setText_ne {n : String} (hn : n ≠ name) (value : Option String) (ms : Members) :
    text (setText name value ms) n = text ms n := by
  cases value with
  | none => rfl
  | some s =>
    unfold text setText
    rw [Json.member?_setMember_ne hn]

/-- An update sets the texts that it gives and no other, whatever was in their places. -/
theorem text_apply (ms : Members) (u : PairingUpdate) :
    text (apply ms u) relayUrlName = u.relayUrl.elim (text ms relayUrlName) .ok ∧
      text (apply ms u) tokenName = u.token.elim (text ms tokenName) .ok := by
  have hne : relayUrlName ≠ tokenName := by decide
  constructor
  · rw [apply, text_setText_ne hne]
    cases u.relayUrl with
    | none => rfl
    | some s => exact text_setText_self relayUrlName s ms
  · rw [apply]
    cases u.token with
    | none => exact text_setText_ne hne.symm _ ms
    | some s => exact text_setText_self tokenName s _

/-- An update of a document is the update of its pairing. -/
theorem pairing_apply (u : PairingUpdate) (h : pairing ms = .ok p) :
    pairing (apply ms u) = .ok (p.apply u) := by
  obtain ⟨hu, ht⟩ := pairing_eq_ok.1 h
  obtain ⟨hu', ht'⟩ := text_apply ms u
  obtain ⟨relayUrl, token⟩ := u
  refine pairing_eq_ok.2 ⟨?_, ?_⟩
  · rw [hu', hu]
    cases relayUrl <;> rfl
  · rw [ht', ht]
    cases token <;> rfl

/-- An update that gives both texts makes a pairing of any document. -/
theorem pairing_apply_full (ms : Members) (relayUrl token : String) :
    pairing (apply ms ⟨some relayUrl, some token⟩) = .ok ⟨relayUrl, token⟩ :=
  pairing_eq_ok.2 (text_apply ms ⟨some relayUrl, some token⟩)

end Tunnel.Document
