import Tunnel.Proofs.Json.RoundTrip
import Tunnel.Proofs.Message.Members

/-!
# Which objects are messages

For each kind, the members that it knows: what their values must be, and whether they may be left out.
An object is a message exactly if one member tells the kind and the members of that kind fit; the
message then says what these members say. The order of members and any others make no difference.
-/
namespace Tunnel

open Tunnel.Field (Has MayHave valuesOf)
open Json (Cursor Numeral)

/-- A member that a record knows: its name, what its value may be, and whether it must be there. -/
structure Member where
  name : String
  IsValue : Json → Prop
  required : Bool

/-- At most one member of an object has the name, its value is one that may be, and it is there if it
must be. -/
structure Member.Fits (f : Member) (ms : List (String × Json)) : Prop where
  once : (valuesOf f.name ms).length ≤ 1
  value : ∀ v ∈ valuesOf f.name ms, f.IsValue v
  present : f.required = true → valuesOf f.name ms ≠ []

namespace Json

def IsText (v : Json) : Prop := ∃ s, v = .text s

def IsNatural (bound : Nat) (v : Json) : Prop := ∃ n : Nat, n < bound ∧ v = .integer n

def IsNullOrText (v : Json) : Prop := v = .null ∨ v.IsText

def IsHeaders (v : Json) : Prop :=
  v = .null ∨ ∃ ms : List (String × Json), v = .object ms ∧
    ∀ m ∈ ms, m.2.IsText ∨ ∃ ss : List String, m.2 = .array (ss.map .text)

def IsEncoding (v : Json) : Prop := v = .text "utf8" ∨ v = .text "base64"

end Json

def Target.members : List Member :=
  [⟨"method", Json.IsText, true⟩, ⟨"path", Json.IsText, true⟩, ⟨"baseUrl", Json.IsText, true⟩,
    ⟨"headers", Json.IsHeaders, false⟩, ⟨"body", Json.IsNullOrText, false⟩,
    ⟨"bodyEncoding", Json.IsEncoding, false⟩]

def Json.IsTarget (v : Json) : Prop :=
  ∃ ts, v = .object ts ∧ ∀ f ∈ Target.members, f.Fits ts

namespace Message

def Kind.members : Kind → List Member
  | .request => [⟨"requestId", Json.IsText, true⟩, ⟨"target", Json.IsTarget, true⟩,
      ⟨"timeoutMs", Json.IsNatural UInt64.size, true⟩]
  | .start => [⟨"requestId", Json.IsText, true⟩, ⟨"statusCode", Json.IsNatural UInt16.size, true⟩,
      ⟨"headers", Json.IsHeaders, true⟩]
  | .chunk => [⟨"requestId", Json.IsText, true⟩, ⟨"data", Json.IsText, true⟩,
      ⟨"index", Json.IsNatural UInt64.size, true⟩]
  | .finish => [⟨"requestId", Json.IsText, true⟩]
  | .failure => [⟨"requestId", Json.IsText, true⟩, ⟨"error", Json.IsText, true⟩]
  | .ping => [⟨"ts", Json.IsNatural UInt64.size, false⟩]
  | .pong => [⟨"ts", Json.IsNatural UInt64.size, false⟩]

end Message

section
variable {α : Type} {name : String} {IsValue : Json → Prop} {P : α → Json → Prop}
  {ms : List (String × Json)}

/-- A member that must be there fits exactly if it says something. -/
theorem fits_required (h : ∀ v, IsValue v ↔ ∃ a, P a v) :
    (Member.mk name IsValue true).Fits ms ↔ ∃ a, Has name (P a) ms := by
  constructor
  · rintro ⟨honce, hvalue, hpresent⟩
    unfold Has
    cases hv : valuesOf name ms with
    | nil => exact absurd hv (hpresent rfl)
    | cons v vs =>
      simp only [hv, List.length_cons, Nat.le_one_iff_eq_zero_or_eq_one] at honce hvalue
      obtain rfl : vs = [] := List.eq_nil_of_length_eq_zero (by omega)
      obtain ⟨a, ha⟩ := (h v).1 (hvalue v List.mem_cons_self)
      exact ⟨a, v, rfl, ha⟩
  · rintro ⟨a, v, hv, ha⟩
    exact ⟨by simp [hv], by simpa [hv] using (h v).2 ⟨a, ha⟩, by simp [hv]⟩

/-- A member that may be left out fits exactly if it is left out or says something. -/
theorem fits_optional (h : ∀ v, IsValue v ↔ ∃ a, P a v) (d : α) :
    (Member.mk name IsValue false).Fits ms ↔ ∃ a, MayHave name (a = d) (P a) ms := by
  constructor
  · intro hfits
    by_cases hv : valuesOf name ms = []
    · exact ⟨d, .inl ⟨hv, rfl⟩⟩
    · obtain ⟨a, ha⟩ := (fits_required h).1 ⟨hfits.once, hfits.value, fun _ => hv⟩
      exact ⟨a, .inr ha⟩
  · rintro ⟨a, ⟨hv, -⟩ | ha⟩
    · exact ⟨by simp [hv], by simp [hv], nofun⟩
    · have hfits := (fits_required h).2 ⟨a, ha⟩
      exact ⟨hfits.once, hfits.value, nofun⟩

end

theorem isNatural_word64 (v : Json) :
    v.IsNatural UInt64.size ↔ ∃ w : UInt64, v = .integer w.toNat := by
  constructor
  · rintro ⟨n, hn, rfl⟩
    exact ⟨UInt64.ofNat n, by rw [UInt64.toNat_ofNat_of_lt' hn]⟩
  · rintro ⟨w, rfl⟩
    exact ⟨w.toNat, w.toNat_lt_size, rfl⟩

theorem isNatural_word16 (v : Json) :
    v.IsNatural UInt16.size ↔ ∃ w : UInt16, v = .integer w.toNat := by
  constructor
  · rintro ⟨n, hn, rfl⟩
    exact ⟨UInt16.ofNat n, by rw [UInt16.toNat_ofNat_of_lt' hn]⟩
  · rintro ⟨w, rfl⟩
    exact ⟨w.toNat, w.toNat_lt_size, rfl⟩

theorem isText_text (v : Json) : v.IsText ↔ ∃ s, v = .text s := Iff.rfl

theorem isNullOrText_body (v : Json) :
    v.IsNullOrText ↔ ∃ o : Option String, v = .null ∧ o = none ∨ ∃ s, v = .text s ∧ o = some s := by
  constructor
  · rintro (rfl | ⟨s, rfl⟩)
    · exact ⟨none, .inl ⟨rfl, rfl⟩⟩
    · exact ⟨some s, .inr ⟨s, rfl, rfl⟩⟩
  · rintro ⟨o, ⟨rfl, -⟩ | ⟨s, rfl, -⟩⟩
    · exact .inl rfl
    · exact .inr ⟨s, rfl⟩

theorem isEncoding_name (v : Json) : v.IsEncoding ↔ ∃ e : BodyEncoding, v = .text e.name := by
  constructor
  · rintro (rfl | rfl)
    · exact ⟨.utf8, rfl⟩
    · exact ⟨.base64, rfl⟩
  · rintro ⟨_ | _, rfl⟩
    · exact .inl rfl
    · exact .inr rfl

theorem Headers.exists_entries {ms : List (String × Json)} :
    (∃ fields, Headers.Entries ms fields) ↔
      ∀ m ∈ ms, m.2.IsText ∨ ∃ ss : List String, m.2 = .array (ss.map .text) := by
  constructor
  · rintro ⟨fields, h⟩
    induction h with
    | nil => nofun
    | text name s h ih => simpa [Json.IsText] using ih
    | list name ss h ih => exact List.forall_mem_cons.2 ⟨.inr ⟨ss, rfl⟩, ih⟩
  · intro h
    induction ms with
    | nil => exact ⟨[], .nil⟩
    | cons m ms ih =>
      obtain ⟨hm, hms⟩ := List.forall_mem_cons.1 h
      obtain ⟨fields, hfields⟩ := ih hms
      obtain ⟨name, v⟩ := m
      rcases hm with ⟨s, rfl⟩ | ⟨ss, rfl⟩
      · exact ⟨_, .text name s hfields⟩
      · exact ⟨_, .list name ss hfields⟩

theorem isHeaders_stands (v : Json) : v.IsHeaders ↔ ∃ h : Headers, h.Stands v := by
  constructor
  · rintro (rfl | ⟨ms, rfl, hms⟩)
    · exact ⟨.empty, .inl ⟨rfl, rfl⟩⟩
    · obtain ⟨fields, hfields⟩ := Headers.exists_entries.2 hms
      exact ⟨⟨fields⟩, .inr ⟨ms, rfl, hfields⟩⟩
  · rintro ⟨h, ⟨rfl, -⟩ | ⟨ms, rfl, hms⟩⟩
    · exact .inl rfl
    · exact .inr ⟨ms, rfl, Headers.exists_entries.1 ⟨_, hms⟩⟩

theorem Target.exists_holds {ts : List (String × Json)} :
    (∀ f ∈ Target.members, f.Fits ts) ↔ ∃ t : Target, t.Holds ts := by
  simp only [Target.members, List.forall_mem_cons, fits_required isText_text,
    fits_optional isHeaders_stands .empty, fits_optional isNullOrText_body none,
    fits_optional isEncoding_name .utf8]
  constructor
  · rintro ⟨⟨method, hmethod⟩, ⟨path, hpath⟩, ⟨baseUrl, hbase⟩, ⟨headers, hheaders⟩, ⟨body, hbody⟩,
      ⟨encoding, hencoding⟩, -⟩
    exact ⟨⟨method, path, baseUrl, headers, body, encoding⟩,
      hmethod, hpath, hbase, hheaders, hbody, hencoding⟩
  · rintro ⟨t, h⟩
    exact ⟨⟨_, h.method⟩, ⟨_, h.path⟩, ⟨_, h.baseUrl⟩, ⟨_, h.headers⟩, ⟨_, h.body⟩,
      ⟨_, h.bodyEncoding⟩, nofun⟩

theorem isTarget_holds (v : Json) :
    v.IsTarget ↔ ∃ t : Target, ∃ ts, v = .object ts ∧ t.Holds ts := by
  simp only [Json.IsTarget, Target.exists_holds]
  constructor
  · rintro ⟨ts, rfl, t, ht⟩
    exact ⟨t, ts, rfl, ht⟩
  · rintro ⟨t, ts, rfl, ht⟩
    exact ⟨ts, rfl, t, ht⟩

namespace Message

/-- The members of a kind fit exactly if they say a message of that kind. -/
theorem Kind.exists_holds {k : Kind} {ms : List (String × Json)} :
    (∀ f ∈ k.members, f.Fits ms) ↔ ∃ m : Message, m.kind = k ∧ m.Holds ms := by
  constructor
  · cases k <;> simp only [Kind.members, List.forall_mem_cons, fits_required isText_text,
      fits_required isTarget_holds, fits_required isNatural_word64, fits_required isNatural_word16,
      fits_required isHeaders_stands, fits_optional isNatural_word64 0]
    case request =>
      rintro ⟨⟨id, hid⟩, ⟨target, htarget⟩, ⟨timeout, htimeout⟩, -⟩
      exact ⟨.request ⟨⟨id⟩, target, timeout⟩, rfl, hid, htarget, htimeout⟩
    case start =>
      rintro ⟨⟨id, hid⟩, ⟨status, hstatus⟩, ⟨headers, hheaders⟩, -⟩
      exact ⟨.start ⟨id⟩ status headers, rfl, hid, hstatus, hheaders⟩
    case chunk =>
      rintro ⟨⟨id, hid⟩, ⟨data, hdata⟩, ⟨index, hindex⟩, -⟩
      exact ⟨.chunk ⟨id⟩ data index, rfl, hid, hdata, hindex⟩
    case finish =>
      rintro ⟨⟨id, hid⟩, -⟩
      exact ⟨.finish ⟨id⟩, rfl, hid⟩
    case failure =>
      rintro ⟨⟨id, hid⟩, ⟨error, herror⟩, -⟩
      exact ⟨.failure ⟨id⟩ error, rfl, hid, herror⟩
    case ping =>
      rintro ⟨⟨ts, hts⟩, -⟩
      exact ⟨.ping ts, rfl, hts⟩
    case pong =>
      rintro ⟨⟨ts, hts⟩, -⟩
      exact ⟨.pong ts, rfl, hts⟩
  · rintro ⟨m, rfl, hm⟩
    cases m <;> simp only [kind, Kind.members, List.forall_mem_cons, fits_required isText_text,
      fits_required isTarget_holds, fits_required isNatural_word64, fits_required isNatural_word16,
      fits_required isHeaders_stands, fits_optional isNatural_word64 0]
    case request | start | chunk => exact ⟨⟨_, hm.1⟩, ⟨_, hm.2.1⟩, ⟨_, hm.2.2⟩, List.forall_mem_nil _⟩
    case finish => exact ⟨⟨_, hm⟩, List.forall_mem_nil _⟩
    case failure => exact ⟨⟨_, hm.1⟩, ⟨_, hm.2⟩, List.forall_mem_nil _⟩
    case ping | pong => exact ⟨⟨_, hm⟩, List.forall_mem_nil _⟩

/-- An object with plain targets is read as a message exactly if one member tells one of the kinds and
the members which that kind knows fit. The message says what these members say, another object that
agrees on them is read as the same message, and numbers are written as digits alone. -/
theorem acceptance {raw : String} {ms : List (String × Json)}
    (hraw : Json.parse raw = .ok (.object ms)) (hms : PlainTargets ms) :
    ((∃ m, decode raw = .ok m) ↔
      ∃ k : Kind, valuesOf kindName ms = [.text k.name] ∧ ∀ f ∈ k.members, f.Fits ms) ∧
    (∀ m, decode raw = .ok m ↔ valuesOf kindName ms = [.text m.kind.name] ∧ m.Holds ms) ∧
    (∀ (raw' : String) (ms' : List (String × Json)) (k : Kind),
      Json.parse raw' = .ok (.object ms') → PlainTargets ms' →
      valuesOf kindName ms = [.text k.name] → valuesOf kindName ms' = [.text k.name] →
      Alike k ms ms' → ∀ m, decode raw' = .ok m ↔ decode raw = .ok m) ∧
    (∀ (size depth n : Nat) (c c' : Cursor),
      Json.value size depth c = .ok (.integer n, c') ↔ Numeral n c.skipSpace c') := by
  have hdecode : ∀ m, decode raw = .ok m ↔
      valuesOf kindName ms = [.text m.kind.name] ∧ m.Holds ms := fun m => decode_object hraw hms
  refine ⟨?_, hdecode, ?_, fun size depth n c c' => Json.value_eq_natural⟩
  · simp only [hdecode, Kind.exists_holds]
    constructor
    · rintro ⟨m, hkind, hm⟩
      exact ⟨m.kind, hkind, m, rfl, hm⟩
    · rintro ⟨_, hkind, m, rfl, hm⟩
      exact ⟨m, hkind, hm⟩
  · intro raw' ms' k hraw' hms' hkind hkind' halike m
    rw [decode_object hraw' hms', hdecode, hkind, hkind']
    refine and_congr_right fun heq => ?_
    obtain rfl : k = m.kind := Kind.name_inj (Json.text.inj (List.singleton_inj.1 heq))
    exact ⟨fun h => h.of_alike halike.symm, fun h => h.of_alike halike⟩

/-- A request whose kind comes last, with a member that nothing knows. -/
theorem acceptance_request :
    decode (Json.render (.object
      [("timeoutMs", .integer 5), ("note", .null),
        ("target", .object [("headers", .object [("Accept", .array [.text "a", .text "b"])]),
          ("path", .text "/"), ("method", .text "GET"), ("baseUrl", .text "http://h")]),
        ("requestId", .text "r"), ("type", .text "HTTP_REQUEST")])) =
      .ok (.request ⟨⟨"r"⟩, ⟨"GET", "/", "http://h", ⟨[("Accept", "a"), ("Accept", "b")]⟩, none, .utf8⟩,
        5⟩) := by
  refine ((acceptance (Json.parse_render ?_) ?_).2.1 _).2 ⟨rfl, ?_⟩
  · have htarget : Json.Plain 126 (.object
        [("headers", .object [("Accept", .array [.text "a", .text "b"])]), ("path", .text "/"),
          ("method", .text "GET"), ("baseUrl", .text "http://h")]) := by
      refine .object (List.forall_mem_cons.2 ⟨?_, by simp [Json.Plain.text]⟩)
      exact .object (by simpa using .array (by simp [Json.Plain.text]))
    refine .object (List.forall_mem_cons.2 ⟨.integer _ (by decide) (by decide), ?_⟩)
    simpa [Json.Plain.text, Json.Plain.null] using htarget
  · simp [PlainTargets, valuesOf]
  · refine ⟨⟨_, rfl, rfl⟩, ⟨_, rfl, _, rfl, ?_⟩, ⟨_, rfl, rfl⟩⟩
    exact
      { method := ⟨_, rfl, rfl⟩
        path := ⟨_, rfl, rfl⟩
        baseUrl := ⟨_, rfl, rfl⟩
        headers := .inr ⟨_, rfl, .inr ⟨_, rfl, .list "Accept" ["a", "b"] .nil⟩⟩
        body := .inl ⟨rfl, rfl⟩
        bodyEncoding := .inl ⟨rfl, rfl⟩ }

end Message

end Tunnel
