import Tunnel.Proofs.Json.RoundTrip
import Tunnel.Proofs.Message.Members

/-!
# What a frame looks like

Objects are not the only frames. A list that starts with the name of a kind, and has the fields of that
kind after it, is a message too, and so is a request whose target is such a list. Texts, numbers, truth
values and nothing at all are no messages.
-/
namespace Tunnel

open Tunnel.Field (Has Slot valuesOf)
open Json (Cause bind_eq_ok map_eq_ok)

inductive Json.IsComposite : Json → Prop where
  | object (ms : List (String × Json)) : IsComposite (.object ms)
  | array (vs : List Json) : IsComposite (.array vs)

theorem Target.isComposite_of_ofJson {v : Json} {t : Target} (h : Target.ofJson v = .ok t) :
    v.IsComposite := by
  cases v with
  | object ms => exact .object ms
  | array vs => exact .array vs
  | _ => cases h

namespace Field

theorem item_eq_ok {α : Type} {expected : String} {index : Nat} {read : Json → Except Cause α}
    {vs rest : List Json} {a : α} :
    item expected index read vs = .ok (a, rest) ↔ ∃ v, vs = v :: rest ∧ read v = .ok a := by
  cases vs with
  | nil => simp [item]
  | cons v vs =>
    rw [item, bind_eq_ok]
    constructor
    · rintro ⟨_, hv, ⟨⟩⟩
      exact ⟨v, rfl, hv⟩
    · rintro ⟨_, ⟨⟩, hv⟩
      exact ⟨a, hv, rfl⟩

theorem noMore_eq_ok {count : Nat} {vs : List Json} : noMore count vs = .ok () ↔ vs = [] := by
  cases vs <;> simp [noMore]

end Field

namespace Message

/-- A message that is read off a list is of the kind that the list starts with. -/
theorem kind_of_ofItems {k : Kind} {vs : List Json} {m : Message} (h : ofItems k vs = .ok m) :
    m.kind = k := by
  cases k <;> simp only [ofItems, bind_eq_ok] at h
  case request | start | chunk =>
    obtain ⟨-, -, -, -, -, -, -, -, ⟨⟩⟩ := h
    rfl
  case failure =>
    obtain ⟨-, -, -, -, -, -, ⟨⟩⟩ := h
    rfl
  case finish | ping | pong =>
    obtain ⟨-, -, -, -, ⟨⟩⟩ := h
    rfl

/-- A request that is read off a list has a target in its second place. -/
theorem target_of_ofItems {vs : List Json} {m : Message} (h : ofItems .request vs = .ok m) :
    ∃ id target timeout, vs = [id, target, timeout] ∧ target.IsComposite := by
  simp only [ofItems, bind_eq_ok] at h
  obtain ⟨⟨_, _⟩, hid, ⟨_, _⟩, htarget, ⟨_, _⟩, htimeout, ⟨⟩, hend, -⟩ := h
  obtain ⟨id, rfl, -⟩ := Field.item_eq_ok.1 hid
  obtain ⟨target, rfl, ht⟩ := Field.item_eq_ok.1 htarget
  obtain ⟨timeout, rfl, -⟩ := Field.item_eq_ok.1 htimeout
  obtain rfl := Field.noMore_eq_ok.1 hend
  exact ⟨id, target, timeout, rfl, Target.isComposite_of_ofJson ht⟩

/-- A request that is read off an object has one target. -/
theorem target_of_ofMembers {ms : List (String × Json)} {m : Message}
    (h : ofFrame ⟨.request, .members (ms.filter fun m => m.1 ≠ kindName)⟩ = .ok m) :
    Has "target" Json.IsComposite ms := by
  obtain ⟨d, hd, hm⟩ := bind_eq_ok.1 h
  have hslot := Draft.ofMembers_eq_ok.1 hd .target
  obtain ⟨hkind, hgives⟩ := Draft.finish_eq_ok.1 hm
  cases m with
  | request r =>
    have hread : Slot Target.ofJson none
        (valuesOf "target" (ms.filter fun m => m.1 ≠ kindName)) (some r.target) :=
      (show d.target = some r.target from hgives.2.1) ▸ hslot
    rw [valuesOf_filter (by decide)] at hread
    obtain ⟨v, hv, ht⟩ := (Field.slot_some fun _ _ => Iff.rfl).1 hread
    exact ⟨v, hv, Target.isComposite_of_ofJson ht⟩
  | _ => cases hkind

/-- A text that is read as a message is an object in which one member names the kind of the message, or
a list that starts with that name. The target of a request is an object or a list as well. -/
theorem decode_shape {raw : String} {m : Message} (h : decode raw = .ok m) :
    (∃ ms, Json.parse raw = .ok (.object ms) ∧ valuesOf kindName ms = [.text m.kind.name] ∧
      (m.kind = .request → Has "target" Json.IsComposite ms)) ∨
    ∃ vs, Json.parse raw = .ok (.array (.text m.kind.name :: vs)) ∧
      (m.kind = .request → ∃ id target timeout, vs = [id, target, timeout] ∧ target.IsComposite) := by
  obtain ⟨v, ⟨k, content⟩, hv, hf, hm⟩ := decode_eq_ok.1 h
  cases v with
  | object ms =>
    obtain ⟨hkind, rfl⟩ := hf
    obtain ⟨d, -, hfinish⟩ := bind_eq_ok.1 hm
    obtain rfl := (Draft.finish_eq_ok.1 hfinish).1
    exact .inl ⟨ms, hv, hkind, fun hreq => target_of_ofMembers (hreq ▸ hm)⟩
  | array vs =>
    obtain ⟨rest, rfl, rfl⟩ := hf
    obtain rfl := kind_of_ofItems hm
    exact .inr ⟨rest, hv, fun hreq => target_of_ofItems (m := m) (by rw [← hreq]; exact hm)⟩
  | _ => cases hf

theorem parse_ping_list : Json.parse "[\"PING\"]" = .ok (.array [.text "PING"]) := by
  have hrender : "[\"PING\"]" = Json.render (.array [.text "PING"]) := by decide
  rw [hrender]
  exact Json.parse_render (.array (by simp [Json.Plain.text]))

theorem decode_ping_list : decode "[\"PING\"]" = .ok (.ping 0) :=
  decode_eq_ok.2 ⟨_, ⟨.ping, .items []⟩, parse_ping_list, ⟨[], rfl, rfl⟩, rfl⟩

/-- A list of one name. -/
theorem decode_shape_ping :
    ∃ vs, Json.parse "[\"PING\"]" = .ok (.array (.text (Message.ping 0).kind.name :: vs)) := by
  obtain ⟨ms, hms, -⟩ | ⟨vs, hvs, -⟩ := decode_shape decode_ping_list
  · rw [parse_ping_list] at hms
    cases hms
  · exact ⟨vs, hvs⟩

/-- A list is read as a heartbeat, and an object whose target is a list as a request. -/
theorem decode_lists :
    (Json.parse "[\"PING\"]" = .ok (.array [.text "PING"]) ∧
      decode "[\"PING\"]" = .ok (.ping 0)) ∧
    ∃ raw ms target r, Json.parse raw = .ok (.object ms) ∧
      valuesOf "target" ms = [.array target] ∧ decode raw = .ok (.request r) := by
  refine ⟨⟨parse_ping_list, decode_ping_list⟩, ?_⟩
  let target : List Json := [.text "GET", .text "/", .text "http://h"]
  let ms : List (String × Json) := [("type", .text "HTTP_REQUEST"), ("requestId", .text "r"),
    ("target", .array target), ("timeoutMs", .integer 5)]
  have htarget : Json.Plain 126 (.array target) := .array (by simp [target, Json.Plain.text])
  have hparse : Json.parse (Json.render (.object ms)) = .ok (.object ms) := by
    refine Json.parse_render (.object ?_)
    simpa [ms, Json.Plain.text] using ⟨htarget, .integer _ (by decide) (by decide)⟩
  exact ⟨_, ms, target, _, hparse, rfl,
    decode_eq_ok.2 ⟨_, ⟨.request, .members _⟩, hparse, ⟨rfl, rfl⟩, rfl⟩⟩

end Message

end Tunnel
