import Tunnel.Proofs.Json.RoundTrip
import Tunnel.Proofs.Message.Members

/-!
# Messages there and back

A message that is written and read again is the same but for its header fields, which come back
gathered. Writing it again gives the same text.
-/
namespace Tunnel

open Tunnel.Field (valuesOf)
open Json (Plain)

theorem Headers.plain_toJson (h : Headers) (depth : Nat) : Plain (depth + 2) h.toJson := by
  refine .object fun m hm => ?_
  obtain ⟨g, -, rfl⟩ := List.mem_map.1 hm
  change Plain (depth + 1) (wireValue g.2)
  unfold wireValue
  split
  · exact .text _ _
  · refine .array fun v hv => ?_
    obtain ⟨s, -, rfl⟩ := List.mem_map.1 hv
    exact .text _ s

theorem Headers.stands_toJson (h : Headers) : h.regrouped.Stands h.toJson :=
  Headers.ofJson_eq_ok.1 h.ofJson_toJson

namespace Target

def regrouped (t : Target) : Target := { t with headers := t.headers.regrouped }

def wireMembers (t : Target) : List (String × Json) :=
  [("method", .text t.method), ("path", .text t.path), ("baseUrl", .text t.baseUrl),
    ("headers", t.headers.toJson)] ++
  (match t.body with
    | none => []
    | some body => [("body", .text body)]) ++
  (match t.bodyEncoding with
    | .utf8 => []
    | .base64 => [("bodyEncoding", .text "base64")])

theorem plain_toJson (t : Target) (depth : Nat) : Plain (depth + 3) t.toJson := by
  obtain ⟨method, path, baseUrl, headers, body, encoding⟩ := t
  refine .object ?_
  cases body <;> cases encoding <;> simp [Plain.text, headers.plain_toJson depth]

theorem holds_wireMembers (t : Target) : t.regrouped.Holds t.wireMembers := by
  obtain ⟨method, path, baseUrl, headers, body, encoding⟩ := t
  constructor
  case method | path | baseUrl => cases body <;> cases encoding <;> exact ⟨_, rfl, rfl⟩
  case headers => cases body <;> cases encoding <;> exact .inr ⟨_, rfl, headers.stands_toJson⟩
  case body =>
    cases body with
    | none => cases encoding <;> exact .inl ⟨rfl, rfl⟩
    | some s => cases encoding <;> exact .inr ⟨_, rfl, .inr ⟨s, rfl, rfl⟩⟩
  case bodyEncoding =>
    cases encoding with
    | utf8 => cases body <;> exact .inl ⟨rfl, rfl⟩
    | base64 => cases body <;> exact .inr ⟨_, rfl, rfl⟩

@[simp] theorem toJson_regrouped (t : Target) : t.regrouped.toJson = t.toJson := by
  unfold toJson regrouped
  rw [t.headers.toJson_regrouped]

end Target

namespace Message

/-- A message with its header fields gathered: those of one name together, in order, where the name
first occurs and as it is spelled there. -/
def regrouped : Message → Message
  | .request r => .request { r with target := r.target.regrouped }
  | .start id status headers => .start id status headers.regrouped
  | m => m

@[simp] theorem kind_regrouped (m : Message) : m.regrouped.kind = m.kind := by
  cases m <;> rfl

@[simp] theorem toJson_regrouped (m : Message) : m.regrouped.toJson = m.toJson := by
  cases m with
  | request r =>
    simp only [regrouped, toJson, fields, r.target.toJson_regrouped]
    rfl
  | start id status headers =>
    simp only [regrouped, toJson, fields, headers.toJson_regrouped]
    rfl
  | _ => rfl

def wireMembers (m : Message) : List (String × Json) :=
  (kindName, .text m.kind.name) :: m.fields

theorem plain_wireMembers (m : Message) : Plain Json.maxDepth (.object m.wireMembers) := by
  have hword64 : ∀ (w : UInt64) (depth : Nat), Plain depth (.integer w.toNat) := fun w depth =>
    .integer depth (by omega) (Int.ofNat_lt.2 w.toNat_lt_size)
  have hword16 : ∀ (w : UInt16) (depth : Nat), Plain depth (.integer w.toNat) := fun w depth =>
    .integer depth (by omega)
      (Int.ofNat_lt.2 (Nat.lt_trans w.toNat_lt_size (by decide)))
  refine .object (List.forall_mem_cons.2 ⟨.text _ _, ?_⟩)
  cases m with
  | request r => simpa [fields, Plain.text, hword64] using r.target.plain_toJson 123
  | start id status headers => simpa [fields, Plain.text, hword16] using headers.plain_toJson 124
  | _ => simp [fields, Plain.text, hword64]

theorem parse_encode (m : Message) : Json.parse m.encode = .ok (.object m.wireMembers) :=
  Json.parse_render m.plain_wireMembers

theorem plainTargets_wireMembers (m : Message) : PlainTargets m.wireMembers := by
  cases m with
  | request r =>
    intro v hv
    obtain rfl : v = r.target.toJson := List.mem_singleton.1 hv
    refine ⟨r.target.wireMembers, rfl, fun w hw => ?_⟩
    rcases r.target.holds_wireMembers.bodyEncoding with ⟨hnone, -⟩ | ⟨u, hu, rfl⟩
    · rw [hnone] at hw
      cases hw
    · rw [hu] at hw
      exact ⟨_, List.mem_singleton.1 hw⟩
  | _ => exact nofun

theorem holds_wireMembers (m : Message) : m.regrouped.Holds m.wireMembers := by
  cases m with
  | request r => exact ⟨⟨_, rfl, rfl⟩, ⟨_, rfl, _, rfl, r.target.holds_wireMembers⟩, ⟨_, rfl, rfl⟩⟩
  | start id status headers => exact ⟨⟨_, rfl, rfl⟩, ⟨_, rfl, rfl⟩, ⟨_, rfl, headers.stands_toJson⟩⟩
  | chunk id data index => exact ⟨⟨_, rfl, rfl⟩, ⟨_, rfl, rfl⟩, ⟨_, rfl, rfl⟩⟩
  | finish id => exact ⟨_, rfl, rfl⟩
  | failure id error => exact ⟨⟨_, rfl, rfl⟩, ⟨_, rfl, rfl⟩⟩
  | ping ts | pong ts => exact .inr ⟨_, rfl, rfl⟩

theorem decode_encode (m : Message) : decode m.encode = .ok m.regrouped :=
  (decode_object m.parse_encode m.plainTargets_wireMembers).2
    ⟨by rw [kind_regrouped]; cases m <;> rfl, m.holds_wireMembers⟩

/-- Every message is written as an object that names its kind, is read back with its header fields
gathered and all else as it was, and is then written as the same text. -/
theorem encode_round_trip (m : Message) :
    (∃ ms, Json.parse m.encode = .ok (.object ms) ∧ valuesOf kindName ms = [.text m.kind.name]) ∧
    decode m.encode = .ok m.regrouped ∧
    encode <$> decode m.encode = .ok m.encode := by
  refine ⟨⟨_, m.parse_encode, by cases m <;> rfl⟩, m.decode_encode, ?_⟩
  rw [decode_encode]
  exact congrArg (fun v => Except.ok v.render) m.toJson_regrouped

end Message

end Tunnel
