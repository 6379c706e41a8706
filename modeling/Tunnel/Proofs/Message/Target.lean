import Tunnel.Message.Target
import Tunnel.Proofs.Field
import Tunnel.Proofs.Headers

/-!
# What the members of a target say

A target is read off an object exactly if the members that a target knows say its fields.
-/
namespace Tunnel

open Tunnel.Field (Has MayHave Slot valuesOf)
open Json (Cause bind_eq_ok map_eq_ok)

def BodyEncoding.name : BodyEncoding → String
  | .utf8 => "utf8"
  | .base64 => "base64"

theorem BodyEncoding.ofJson_text {s : String} {e : BodyEncoding} :
    BodyEncoding.ofJson (.text s) = .ok e ↔ s = e.name := by
  simp only [ofJson, ofName]
  split
  · rename_i hs
    subst hs
    cases e <;> simp [name]
  · split
    · rename_i hs
      subst hs
      cases e <;> simp [name]
    · cases e <;> simp_all [name]

/-- What stands for header fields: nothing, or an object with their entries. -/
def Headers.Stands (h : Headers) (v : Json) : Prop :=
  v = .null ∧ h = .empty ∨ ∃ ms, v = .object ms ∧ Headers.Entries ms h.fields

namespace Target

inductive Part where
  | method
  | path
  | baseUrl
  | headers
  | body
  | bodyEncoding

def Part.Value : Part → Type
  | .method | .path | .baseUrl => String
  | .headers => Headers
  | .body => Option String
  | .bodyEncoding => BodyEncoding

def Part.name : Part → String
  | .method => "method"
  | .path => "path"
  | .baseUrl => "baseUrl"
  | .headers => "headers"
  | .body => "body"
  | .bodyEncoding => "bodyEncoding"

def Part.read : (f : Part) → Json → Except Cause f.Value
  | .method | .path | .baseUrl => Field.text
  | .headers => Headers.ofJson
  | .body => Field.optionalText
  | .bodyEncoding => BodyEncoding.ofJson

def Draft.get (d : Draft) : (f : Part) → Option f.Value
  | .method => d.method
  | .path => d.path
  | .baseUrl => d.baseUrl
  | .headers => d.headers
  | .body => d.body
  | .bodyEncoding => d.bodyEncoding

def Draft.put (d : Draft) : (f : Part) → Option f.Value → Draft
  | .method, a => { d with method := a }
  | .path, a => { d with path := a }
  | .baseUrl, a => { d with baseUrl := a }
  | .headers, a => { d with headers := a }
  | .body, a => { d with body := a }
  | .bodyEncoding, a => { d with bodyEncoding := a }

theorem Draft.ext_get {d d' : Draft} (h : ∀ f, d.get f = d'.get f) : d = d' := by
  cases d
  cases d'
  simp only [Draft.mk.injEq]
  exact ⟨h .method, h .path, h .baseUrl, h .headers, h .body, h .bodyEncoding⟩

def Draft.layout : Field.Layout Draft Draft.add where
  Part := Part
  Value := Part.Value
  name := Part.name
  read := Part.read
  knows _ := true
  get := Draft.get
  put := Draft.put
  name_inj f g h := by cases f <;> cases g <;> first | rfl | exact absurd h (by decide)
  get_put d f a := by cases f <;> rfl
  get_put_ne d f a g h := by cases f <;> cases g <;> first | rfl | exact absurd rfl h
  ext _ _ := Draft.ext_get
  step_known d f v _ := by cases f <;> rfl
  step_unknown d other v h := by
    unfold Draft.add
    split
    case h_7 => rfl
    case h_1 => exact absurd rfl (h .method rfl)
    case h_2 => exact absurd rfl (h .path rfl)
    case h_3 => exact absurd rfl (h .baseUrl rfl)
    case h_4 => exact absurd rfl (h .headers rfl)
    case h_5 => exact absurd rfl (h .body rfl)
    case h_6 => exact absurd rfl (h .bodyEncoding rfl)

theorem Draft.finish_eq_ok {d : Draft} {t : Target} :
    d.finish = .ok t ↔ d.method = some t.method ∧ d.path = some t.path ∧ d.baseUrl = some t.baseUrl ∧
      t.headers = d.headers.getD .empty ∧ t.body = d.body.join ∧
      t.bodyEncoding = d.bodyEncoding.getD .utf8 := by
  simp only [finish, bind_eq_ok, Field.require_eq_ok]
  constructor
  · rintro ⟨method, hmethod, path, hpath, baseUrl, hbase, ⟨⟩⟩
    exact ⟨hmethod, hpath, hbase, rfl, rfl, rfl⟩
  · obtain ⟨method, path, baseUrl, headers, body, bodyEncoding⟩ := t
    rintro ⟨hmethod, hpath, hbase, rfl, rfl, rfl⟩
    exact ⟨method, hmethod, path, hpath, baseUrl, hbase, rfl⟩

structure Holds (t : Target) (ms : List (String × Json)) : Prop where
  method : Has "method" (· = .text t.method) ms
  path : Has "path" (· = .text t.path) ms
  baseUrl : Has "baseUrl" (· = .text t.baseUrl) ms
  headers : MayHave "headers" (t.headers = .empty) t.headers.Stands ms
  body : MayHave "body" (t.body = none) (fun v => v = .null ∧ t.body = none ∨
    ∃ s, v = .text s ∧ t.body = some s) ms
  bodyEncoding : MayHave "bodyEncoding" (t.bodyEncoding = .utf8) (· = .text t.bodyEncoding.name) ms

def names : List String := ["method", "path", "baseUrl", "headers", "body", "bodyEncoding"]

theorem Holds.of_eq {t : Target} {ms ms' : List (String × Json)}
    (h : ∀ name ∈ names, valuesOf name ms = valuesOf name ms') (ht : t.Holds ms) : t.Holds ms' where
  method := ht.method.of_eq (h _ (by decide))
  path := ht.path.of_eq (h _ (by decide))
  baseUrl := ht.baseUrl.of_eq (h _ (by decide))
  headers := ht.headers.of_eq (h _ (by decide))
  body := ht.body.of_eq (h _ (by decide))
  bodyEncoding := ht.bodyEncoding.of_eq (h _ (by decide))

theorem ofJson_object {ms : List (String × Json)}
    (hms : ∀ v ∈ valuesOf "bodyEncoding" ms, ∃ s, v = .text s) {t : Target} :
    Target.ofJson (.object ms) = .ok t ↔ t.Holds ms := by
  have hread : ∀ {d : Draft}, Field.ofMembers Draft.add {} ms = .ok d ↔
      ∀ f : Part, Slot f.read none (valuesOf f.name ms) (d.get f) := by
    intro d
    rw [Draft.layout.ofMembers_eq_ok]
    exact forall_congr' fun f => by cases f <;> exact Iff.rfl
  have hheaders : (∃ o, Slot Headers.ofJson none (valuesOf "headers" ms) o ∧
      t.headers = o.getD .empty) ↔ MayHave "headers" (t.headers = .empty) t.headers.Stands ms := by
    refine Field.exists_slot Iff.rfl fun v _ => ?_
    simp [Headers.ofJson_eq_ok, Headers.Stands]
  have hbody : (∃ o, Slot Field.optionalText none (valuesOf "body" ms) o ∧ t.body = o.join) ↔
      MayHave "body" (t.body = none) (fun v => v = .null ∧ t.body = none ∨
        ∃ s, v = .text s ∧ t.body = some s) ms := by
    refine Field.exists_slot Iff.rfl fun v _ => ?_
    simp [Field.optionalText_eq_ok]
  have hencoding : (∃ o, Slot BodyEncoding.ofJson none (valuesOf "bodyEncoding" ms) o ∧
      t.bodyEncoding = o.getD .utf8) ↔
        MayHave "bodyEncoding" (t.bodyEncoding = .utf8) (· = .text t.bodyEncoding.name) ms := by
    refine Field.exists_slot Iff.rfl fun v hv => ?_
    obtain ⟨s, rfl⟩ := hms v hv
    simp [BodyEncoding.ofJson_text]
  rw [ofJson, bind_eq_ok]
  simp only [hread, Draft.finish_eq_ok]
  constructor
  · rintro ⟨d, hd, hmethod, hpath, hbase, hh, hb, he⟩
    exact
      { method := Field.slot_text.1 (hmethod ▸ hd .method)
        path := Field.slot_text.1 (hpath ▸ hd .path)
        baseUrl := Field.slot_text.1 (hbase ▸ hd .baseUrl)
        headers := hheaders.1 ⟨_, hd .headers, hh⟩
        body := hbody.1 ⟨_, hd .body, hb⟩
        bodyEncoding := hencoding.1 ⟨_, hd .bodyEncoding, he⟩ }
  · intro h
    obtain ⟨headers, hslot, hh⟩ := hheaders.2 h.headers
    obtain ⟨body, hslot', hb⟩ := hbody.2 h.body
    obtain ⟨encoding, hslot'', he⟩ := hencoding.2 h.bodyEncoding
    refine ⟨⟨some t.method, some t.path, some t.baseUrl, headers, body, encoding⟩, fun f => ?_,
      rfl, rfl, rfl, hh, hb, he⟩
    cases f with
    | method => exact Field.slot_text.2 h.method
    | path => exact Field.slot_text.2 h.path
    | baseUrl => exact Field.slot_text.2 h.baseUrl
    | headers => exact hslot
    | body => exact hslot'
    | bodyEncoding => exact hslot''

end Target

end Tunnel
