import Mathlib
import Tunnel.Execution
import Tunnel.Proofs.Base64
import Tunnel.Proofs.Headers

/-!
# The request of a command

A command makes a request unless its URL, its method, a header field that is sent on or its body is
faulty. The request has the method in upper case, the resolved URL, the header fields that do not
describe a connection, and the body of the command. The other header fields make no difference,
whatever they are like.
-/
namespace Tunnel

open Json (bind_eq_ok map_eq_ok)

@[simp] theorem toLower_toLower (s : String) : s.toLower.toLower = s.toLower := by
  apply String.toList_injective
  simp only [String.toLower, String.toList_map, List.map_map, Function.comp_def,
    Char.toLower_toLower_eq_toLower]

@[simp] theorem sameName_toLower (a b : String) : sameName a.toLower b = sameName a b := by
  rw [sameName, sameName, toLower_toLower]

theorem sameName_eq (a b : String) :
    sameName a b = (a.toList.map Char.toLower == b.toList.map Char.toLower) := by
  rw [Bool.eq_iff_iff, sameName, beq_iff_eq, beq_iff_eq, ← String.toList_inj, String.toLower,
    String.toList_map, String.toLower, String.toList_map]

theorem isHopByHop_of_sameName {a b : String} (h : sameName a b = true) :
    isHopByHop a = isHopByHop b := by
  have hlower : a.toLower = b.toLower := beq_iff_eq.1 h
  simp only [isHopByHop, sameName, hlower]

namespace Http

theorem isTokenChar_toUpper (c : Char) : isTokenChar c.toUpper = isTokenChar c := by
  by_cases hc : c.isLower = true
  · -- a letter in either case
    have halpha : c.isAlpha = true := by rw [Char.isAlpha, hc, Bool.or_true]
    have hupper : c.toUpper.isAlpha = true := by rw [Char.isAlpha_toUpper_eq_isAlpha, halpha]
    simp only [isTokenChar, Char.isAlphanum, halpha, hupper, Bool.true_or]
  · rw [Char.toUpper_eq_of_not_isLower hc]

@[simp] theorem isToken_toUpper (s : String) : isToken s.toUpper = isToken s := by
  have hempty : s.toUpper.isEmpty = s.isEmpty := by
    rw [Bool.eq_iff_iff, String.isEmpty_iff, String.isEmpty_iff, ← String.length_eq_zero_iff,
      ← String.length_eq_zero_iff, String.toUpper, String.length_map]
  rw [isToken, isToken, hempty, String.toUpper, String.toList_map, List.all_map]
  simp only [Function.comp_def, isTokenChar_toUpper]

theorem method?_of_isToken {s : String} (h : isToken s.toUpper = true) :
    method? s = some s.toUpper := by
  rw [isToken_toUpper] at h
  rw [method?, if_pos h]

theorem method?_eq_some {s m : String} (h : method? s = some m) : isToken s.toUpper = true := by
  unfold method? at h
  split_ifs at h with hs
  rw [isToken_toUpper, hs]

theorem fieldName?_eq_some {s n : String} (h : fieldName? s = some n) : n = s.toLower := by
  unfold fieldName? at h
  split_ifs at h
  exact (Option.some.inj h).symm

end Http

namespace Outbound

/-! ## Header fields

A header field that describes a connection is dropped before it is looked at, so it may be as faulty as
it likes.
-/

def kept (fields : List (String × String)) : List (String × String) :=
  fields.filter fun f => !isHopByHop f.1

def Valid (f : String × String) : Prop :=
  (Http.fieldName? f.1).isSome = true ∧ Http.isFieldValue f.2 = true

/-- What describes a connection makes no difference to the fields that are sent. -/
theorem sentFields_kept (fields : List (String × String)) :
    sentFields (kept fields) = sentFields fields := by
  induction fields with
  | nil => rfl
  | cons f rest ih =>
    cases hf : isHopByHop f.1 with
    | true =>
      have hkept : kept (f :: rest) = kept rest := List.filter_cons_of_neg (by simp [hf])
      rw [hkept, ih, sentFields, if_pos hf]
    | false =>
      have hkept : kept (f :: rest) = f :: kept rest := List.filter_cons_of_pos (by simp [hf])
      rw [hkept, sentFields, sentFields, ih]

/-- The fields that are sent are the kept ones, if they are valid, with their names in lower case. -/
theorem sentFields_eq_ok {fields sent : List (String × String)} :
    sentFields fields = .ok sent ↔
      (∀ f ∈ kept fields, Valid f) ∧ sent = (kept fields).map fun f => (f.1.toLower, f.2) := by
  induction fields generalizing sent with
  | nil =>
    rw [sentFields, kept, List.filter_nil, List.map_nil]
    exact ⟨fun h => ⟨nofun, (Except.ok.inj h).symm⟩, fun h => congrArg _ h.2.symm⟩
  | cons f rest ih =>
    rw [sentFields]
    by_cases hf : isHopByHop f.1 = true
    · have hkept : kept (f :: rest) = kept rest := List.filter_cons_of_neg (by simp [hf])
      rw [if_pos hf, hkept, ih]
    · have hkept : kept (f :: rest) = f :: kept rest := List.filter_cons_of_pos (by simp [hf])
      rw [if_neg hf, hkept, List.forall_mem_cons, List.map_cons]
      constructor
      · intro h
        split at h
        · cases h
        · rename_i n hn
          split_ifs at h with hv
          obtain ⟨more, hmore, h⟩ := bind_eq_ok.1 h
          obtain ⟨hvalid, rfl⟩ := ih.1 hmore
          obtain rfl := Http.fieldName?_eq_some hn
          exact ⟨⟨⟨by rw [hn]; rfl, hv⟩, hvalid⟩, (Except.ok.inj h).symm⟩
      · rintro ⟨⟨⟨hname, hv⟩, hvalid⟩, rfl⟩
        obtain ⟨n, hn⟩ := Option.isSome_iff_exists.1 hname
        obtain rfl := Http.fieldName?_eq_some hn
        simp only [hn, hv, if_true]
        exact bind_eq_ok.2 ⟨_, ih.2 ⟨hvalid, rfl⟩, rfl⟩

/-- The values of a name are sent in the order of the command, unless the name describes a
connection. -/
theorem getAll_kept (fields : List (String × String)) (name : String) :
    (Headers.mk ((kept fields).map fun f => (f.1.toLower, f.2))).getAll name =
      if isHopByHop name then [] else (Headers.mk fields).getAll name := by
  have hsent : (Headers.mk ((kept fields).map fun f => (f.1.toLower, f.2))).getAll name =
      (fields.filter fun f => sameName f.1 name && !isHopByHop f.1).map Prod.snd := by
    simp only [Headers.getAll, List.filter_map, List.map_map, Function.comp_def, sameName_toLower,
      kept, List.filter_filter]
  rw [hsent]
  split_ifs with hname
  · rw [List.filter_eq_nil_iff.2, List.map_nil]
    intro f _ hf
    rw [Bool.and_eq_true, Bool.not_eq_true'] at hf
    rw [isHopByHop_of_sameName hf.1, hname] at hf
    cases hf.2
  · rw [Headers.getAll]
    refine congrArg _ (List.filter_congr fun f _ => ?_)
    cases hf : sameName f.1 name with
    | false => rfl
    | true =>
      rw [isHopByHop_of_sameName hf, Bool.eq_false_iff.2 hname]
      rfl

end Outbound

/-! ## Bodies and URLs

The body comes from the target alone, and the only header field that is added comes from the URL: it
carries a user name and a password.
-/

/-- The bytes that the body of a command stands for, if there is one. -/
inductive Target.Carries (t : Target) : Option (List UInt8) → Prop where
  | nothing (hb : t.body = none) : Carries t none
  | text {s : String} (hb : t.body = some s) (he : t.bodyEncoding = .utf8) :
    Carries t (some (Utf8.encode s))
  | bytes {bs : List UInt8} (hb : t.body = some (Base64.encode bs)) (he : t.bodyEncoding = .base64) :
    Carries t (some bs)

theorem Target.bodyBytes_eq_ok {t : Target} {b : Option (List UInt8)} :
    t.bodyBytes = .ok b ↔ t.Carries b := by
  constructor
  · intro h
    unfold bodyBytes at h
    split at h
    · rename_i hb
      obtain rfl := Except.ok.inj h
      exact .nothing hb
    · rename_i s hb he
      obtain rfl := Except.ok.inj h
      exact .text hb he
    · rename_i s hb he
      obtain ⟨bs, hbs, rfl⟩ := map_eq_ok.1 h
      obtain rfl := Base64.encode_of_decode hbs
      exact .bytes hb he
  · rintro (hb | ⟨hb, he⟩ | ⟨hb, he⟩)
    · simp only [bodyBytes, hb]
    · simp only [bodyBytes, hb, he]
    · simp only [bodyBytes, hb, he]
      exact map_eq_ok.2 ⟨_, Base64.decode_encode _, rfl⟩

def Url.Anonymous (u : Url) : Prop :=
  ∀ a, u.authority = some a → a.username = "" ∧ a.password = none

instance (u : Url) : Decidable u.Anonymous :=
  inferInstanceAs (Decidable (∀ a ∈ u.authority, a.username = "" ∧ a.password = none))

namespace Outbound

theorem userInfo?_of_anonymous {u : Url} (h : u.Anonymous) : userInfo? u = none := by
  unfold userInfo?
  cases ha : u.authority with
  | none => rfl
  | some a =>
    obtain ⟨hname, hpassword⟩ := h a ha
    have hdecoded : decoded? "" = some "" := rfl
    simp only [Option.bind_eq_bind, Option.bind_some, hname, hpassword, hdecoded]
    rfl

theorem resolveUrl_of_mem {base path : String} {u : Url}
    (h : u ∈ (resolveUrl base path).toOption) : resolveUrl base path = .ok u := by
  cases hr : resolveUrl base path with
  | error e =>
    rw [hr] at h
    cases h
  | ok v =>
    rw [hr] at h
    exact congrArg _ (Option.some.inj h)

/-- The parts of a command whose request is made. -/
theorem parts_of_ofTarget {t : Target} {o : Outbound} (h : ofTarget t = .ok o) :
    ∃ u b fields, resolveUrl t.baseUrl t.path = .ok u ∧ u.host?.isNone = false ∧
      Http.isToken t.method.toUpper = true ∧ t.bodyBytes = .ok b ∧
      sentFields t.headers.fields = .ok fields := by
  unfold ofTarget at h
  obtain ⟨u, hurl, h⟩ := bind_eq_ok.1 h
  cases hmethod : Http.method? t.method with
  | none => simp only [hmethod] at h; cases h
  | some m =>
    simp only [hmethod] at h
    cases hbody : t.bodyBytes with
    | error fault => simp only [hbody] at h; cases h
    | ok b =>
      simp only [hbody] at h
      cases hhost : u.host?.isNone with
      | true => simp only [hhost] at h; cases h
      | false =>
        simp only [hhost, Bool.false_eq_true, if_false, pure_bind] at h
        obtain ⟨fields, hfields, -⟩ := bind_eq_ok.1 h
        exact ⟨u, b, fields, hurl, hhost, Http.method?_eq_some hmethod, rfl, hfields⟩

theorem ofTarget_of_parts {t : Target} {u : Url} {b : Option (List UInt8)}
    {fields : List (String × String)} (hurl : resolveUrl t.baseUrl t.path = .ok u)
    (hu : u.Anonymous) (hhost : u.host?.isNone = false) (hm : Http.isToken t.method.toUpper = true)
    (hbody : t.bodyBytes = .ok b) (hfields : sentFields t.headers.fields = .ok fields) :
    ofTarget t = .ok ⟨t.method.toUpper, u, ⟨fields⟩, b⟩ := by
  unfold ofTarget
  rw [hurl, hbody, hfields, Http.method?_of_isToken hm]
  simp only [bind, Except.bind, pure, Except.pure, hhost, Bool.false_eq_true, if_false,
    userInfo?_of_anonymous hu]

/-- What keeps a command from making a request: its URL, the absence of a host, its method, a header
field that does not describe a connection, or a body that is not the written form of any bytes. -/
inductive Unsendable (t : Target) : Prop where
  | url {e : OutboundError} (h : resolveUrl t.baseUrl t.path = .error e)
  | host {u : Url} (h : resolveUrl t.baseUrl t.path = .ok u) (hn : u.host? = none)
  | method (h : Http.isToken t.method.toUpper = false)
  | field {f : String × String} (hf : f ∈ t.headers.fields) (hh : isHopByHop f.1 = false)
    (hv : Http.fieldName? f.1 = none ∨ Http.isFieldValue f.2 = false)
  | body {s : String} (hb : t.body = some s) (he : t.bodyEncoding = .base64)
    (hn : ∀ bs, Base64.encode bs ≠ s)

theorem not_valid_iff {f : String × String} :
    ¬ Valid f ↔ Http.fieldName? f.1 = none ∨ Http.isFieldValue f.2 = false := by
  rw [Valid, Decidable.not_and_iff_or_not, Bool.not_eq_true, Bool.not_eq_true,
    Option.isSome_eq_false_iff, Option.isNone_iff_eq_none]

theorem not_unsendable_of_ofTarget {t : Target} {o : Outbound} (h : ofTarget t = .ok o) :
    ¬ Unsendable t := by
  obtain ⟨u, b, fields, hurl, hhost, hm, hbody, hfields⟩ := parts_of_ofTarget h
  intro hbad
  cases hbad with
  | url he => rw [hurl] at he; cases he
  | host hu hn =>
    obtain rfl := Except.ok.inj (hurl.symm.trans hu)
    rw [hn] at hhost
    cases hhost
  | method hf => rw [hm] at hf; cases hf
  | @field f hf hh hv =>
    have hkept : f ∈ kept t.headers.fields := List.mem_filter.2 ⟨hf, by rw [hh]; rfl⟩
    exact not_valid_iff.2 hv ((sentFields_eq_ok.1 hfields).1 f hkept)
  | body hb he hn =>
    cases Target.bodyBytes_eq_ok.1 hbody with
    | nothing hb' => rw [hb] at hb'; cases hb'
    | text hb' he' => rw [he] at he'; cases he'
    | bytes hb' he' => exact hn _ (Option.some.inj (hb'.symm.trans hb))

/-- A command that nothing keeps from it makes a request. -/
theorem exists_parts {t : Target} (h : ¬ Unsendable t) :
    ∃ u b, resolveUrl t.baseUrl t.path = .ok u ∧ u.host?.isNone = false ∧
      Http.isToken t.method.toUpper = true ∧ t.bodyBytes = .ok b ∧
      ∀ f ∈ kept t.headers.fields, Valid f := by
  have hurl : ∃ u, resolveUrl t.baseUrl t.path = .ok u := by
    cases hr : resolveUrl t.baseUrl t.path with
    | error e => exact absurd (.url hr) h
    | ok u => exact ⟨u, rfl⟩
  obtain ⟨u, hurl⟩ := hurl
  have hhost : u.host?.isNone = false := by
    rw [Bool.eq_false_iff]
    intro hn
    exact h (.host hurl (Option.isNone_iff_eq_none.1 hn))
  have hm : Http.isToken t.method.toUpper = true := by
    rw [← Bool.not_eq_false]
    intro hf
    exact h (.method hf)
  have hbody : ∃ b, t.Carries b := by
    cases hb : t.body with
    | none => exact ⟨none, .nothing hb⟩
    | some s =>
      cases he : t.bodyEncoding with
      | utf8 => exact ⟨_, .text hb he⟩
      | base64 =>
        by_contra hnone
        refine h (.body hb he fun bs hbs => hnone ⟨some bs, .bytes ?_ he⟩)
        rw [hb, hbs]
  obtain ⟨b, hb⟩ := hbody
  refine ⟨u, b, hurl, hhost, hm, Target.bodyBytes_eq_ok.2 hb, fun f hf => ?_⟩
  by_contra hv
  obtain ⟨hmem, hh⟩ := List.mem_filter.1 hf
  exact h (.field hmem (by simpa using hh) (not_valid_iff.1 hv))

/-- Commands that differ only in the case of a sound method and in the fields that describe a connection
make the same request, or lack it for the same reason. -/
theorem ofTarget_congr {t t' : Target} (hm : Http.isToken t.method.toUpper = true)
    (hmethod : t'.method.toUpper = t.method.toUpper) (hbase : t'.baseUrl = t.baseUrl)
    (hpath : t'.path = t.path) (hfields : kept t'.headers.fields = kept t.headers.fields)
    (hbody : t'.body = t.body) (hencoding : t'.bodyEncoding = t.bodyEncoding) :
    ofTarget t' = ofTarget t := by
  have hbytes : t'.bodyBytes = t.bodyBytes := by
    rw [Target.bodyBytes, Target.bodyBytes, hbody, hencoding]
  have hsent : sentFields t'.headers.fields = sentFields t.headers.fields := by
    rw [← sentFields_kept, hfields, sentFields_kept]
  unfold ofTarget
  rw [hbase, hpath, hbytes, hsent, Http.method?_of_isToken hm,
    Http.method?_of_isToken (hmethod ▸ hm), hmethod]

end Outbound

namespace Request

open Outbound

/-- A command whose URL names no user is executed in one of two ways. If something keeps it from making a
request, its execution is a single failure, whatever the targets do. Otherwise the client is handed the
request with the method in upper case, the resolved URL, the header fields of the command in order but
for those that describe a connection, and the body; the execution is the client's refusal of that request
or what the target makes of it. Commands whose method is sound and that differ only in its case and in
header fields that describe a connection make the same request. -/
theorem forwarding (c : ExecutorConfig) (client : Client) (r : Request)
    (hu : ∀ u, resolveUrl r.target.baseUrl r.target.path = .ok u → u.Anonymous) :
    (Unsendable r.target →
      (∃ error, (r.execute c client).messages = [.failure r.id error]) ∧
      (r.execute c client).outcome = .failed ∧
      ∀ other, r.execute c other = r.execute c client) ∧
    (¬ Unsendable r.target → ∃ o, ofTarget r.target = .ok o ∧
      o.method = r.target.method.toUpper ∧
      resolveUrl r.target.baseUrl r.target.path = .ok o.url ∧
      o.headers.fields = (kept r.target.headers.fields).map (fun f => (f.1.toLower, f.2)) ∧
      (∀ name, o.headers.getAll name =
        if isHopByHop name then [] else r.target.headers.getAll name) ∧
      r.target.Carries o.body ∧
      (∀ f, o.refusal? = some f → r.execute c client = .fail r.id 0 f) ∧
      (o.refusal? = none →
        r.execute c client = .ofAnswer r.id (r.limit c) (client c.followRedirects o))) ∧
    ∀ t : Target, Http.isToken r.target.method.toUpper = true →
      t.method.toUpper = r.target.method.toUpper → t.baseUrl = r.target.baseUrl →
      t.path = r.target.path → kept t.headers.fields = kept r.target.headers.fields →
      t.body = r.target.body → t.bodyEncoding = r.target.bodyEncoding →
      ofTarget t = ofTarget r.target := by
  refine ⟨fun hbad => ?_, fun hgood => ?_, fun t hm hmethod hbase hpath hfields hbody hencoding =>
    ofTarget_congr hm hmethod hbase hpath hfields hbody hencoding⟩
  · cases ho : ofTarget r.target with
    | ok o => exact absurd hbad (not_unsendable_of_ofTarget ho)
    | error e =>
      have hexecute : ∀ other, r.execute c other = .fail r.id 0 e.failure := by
        intro other
        rw [execute, ho]
      rw [hexecute client]
      exact ⟨⟨_, rfl⟩, rfl, hexecute⟩
  · obtain ⟨u, b, hurl, hhost, hm, hbody, hvalid⟩ := exists_parts hgood
    have hfields := sentFields_eq_ok.2 ⟨hvalid, rfl⟩
    have ho := ofTarget_of_parts hurl (hu u hurl) hhost hm hbody hfields
    refine ⟨_, ho, rfl, hurl, rfl, getAll_kept r.target.headers.fields,
      Target.bodyBytes_eq_ok.1 hbody, fun f hf => ?_, fun hf => ?_⟩
    · rw [execute, ho]
      simp only [hf]
    · rw [execute, ho]
      simp only [hf]

/-- A method in mixed case, a repeated field, and a field that describes a connection and could not be
sent. -/
theorem forwarding_mixed :
    let t : Target := ⟨"pOsT", "items?id=2", "http://svc.local/api/",
      ⟨[("X-A", "1"), ("HOST", "a\nb"), ("x-a", "2")]⟩, some "aGk=", .base64⟩
    (∀ u, resolveUrl t.baseUrl t.path = .ok u → u.Anonymous) ∧ ¬ Unsendable t ∧
      ∃ o, ofTarget t = .ok o ∧ o.method = "POST" ∧ o.headers.getAll "x-A" = ["1", "2"] ∧
        o.headers.getAll "host" = [] ∧ t.Carries o.body := by
  intro t
  have hresolved : ∃ u ∈ (resolveUrl t.baseUrl t.path).toOption,
      u.Anonymous ∧ u.host?.isNone = false := by decide +kernel
  obtain ⟨u, hu, hanonymous, hhost⟩ := hresolved
  have hurl : resolveUrl t.baseUrl t.path = .ok u := resolveUrl_of_mem hu
  have hall : ∀ u, resolveUrl t.baseUrl t.path = .ok u → u.Anonymous := by
    intro v hv
    rwa [← Except.ok.inj (hurl.symm.trans hv)]
  have hkept : kept t.headers.fields = [("X-A", "1"), ("x-a", "2")] := by
    simp only [kept, isHopByHop, sameName_eq]
    decide +kernel
  have hvalid : ∀ f ∈ kept t.headers.fields, Valid f := by
    rw [hkept]
    simp only [Valid]
    decide +kernel
  have hm : Http.isToken t.method.toUpper = true := by
    rw [Http.isToken_toUpper]
    decide +kernel
  have hbody : t.bodyBytes = .ok (some [104, 105]) := by decide +kernel
  have hgood : ¬ Unsendable t :=
    not_unsendable_of_ofTarget
      (ofTarget_of_parts hurl hanonymous hhost hm hbody (sentFields_eq_ok.2 ⟨hvalid, rfl⟩))
  let r : Request := ⟨⟨"r"⟩, t, 0⟩
  obtain ⟨o, ho, hmethod, -, -, hfields, hcarries, -⟩ :=
    (forwarding {} (.unreachable "") r hall).2.1 hgood
  refine ⟨hall, hgood, o, ho, ?_, ?_, ?_, hcarries⟩
  · rw [hmethod]
    apply String.toList_injective
    rw [String.toUpper, String.toList_map]
    decide +kernel
  · rw [hfields]
    simp only [isHopByHop, Headers.getAll, sameName_eq]
    decide +kernel
  · rw [hfields]
    simp only [isHopByHop, Headers.getAll, sameName_eq]
    decide +kernel

end Request

end Tunnel
