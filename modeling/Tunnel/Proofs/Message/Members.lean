import Mathlib.Data.List.Forall2
import Tunnel.Proofs.Message.Frame
import Tunnel.Proofs.Message.Target

/-!
# What the members of a frame say

A message is read off an object exactly if one member tells its kind and the members that this kind
knows say its fields.
-/
namespace Tunnel

open Tunnel.Field (Has MayHave Slot valuesOf)
open Json (Cause bind_eq_ok map_eq_ok)

namespace Message

inductive Part where
  | requestId
  | target
  | timeoutMs
  | statusCode
  | headers
  | data
  | index
  | error
  | ts

def Part.Value : Part → Type
  | .requestId => RequestId
  | .target => Target
  | .statusCode => UInt16
  | .headers => Headers
  | .data | .error => String
  | .timeoutMs | .index | .ts => UInt64

def Part.name : Part → String
  | .requestId => "requestId"
  | .target => "target"
  | .timeoutMs => "timeoutMs"
  | .statusCode => "statusCode"
  | .headers => "headers"
  | .data => "data"
  | .index => "index"
  | .error => "error"
  | .ts => "ts"

def Part.read : (f : Part) → Json → Except Cause f.Value
  | .requestId => requestIdOf
  | .target => Target.ofJson
  | .statusCode => Field.word16
  | .headers => Headers.ofJson
  | .data | .error => Field.text
  | .timeoutMs | .index | .ts => Field.word64

def Draft.get (d : Draft) : (f : Part) → Option f.Value
  | .requestId => d.requestId
  | .target => d.target
  | .timeoutMs => d.timeoutMs
  | .statusCode => d.statusCode
  | .headers => d.headers
  | .data => d.data
  | .index => d.index
  | .error => d.error
  | .ts => d.ts

def Draft.put (d : Draft) : (f : Part) → Option f.Value → Draft
  | .requestId, a => { d with requestId := a }
  | .target, a => { d with target := a }
  | .timeoutMs, a => { d with timeoutMs := a }
  | .statusCode, a => { d with statusCode := a }
  | .headers, a => { d with headers := a }
  | .data, a => { d with data := a }
  | .index, a => { d with index := a }
  | .error, a => { d with error := a }
  | .ts, a => { d with ts := a }

theorem Draft.ext_get {d d' : Draft} (h : ∀ f, d.get f = d'.get f) : d = d' := by
  cases d
  cases d'
  simp only [Draft.mk.injEq]
  exact ⟨h .requestId, h .target, h .timeoutMs, h .statusCode, h .headers, h .data, h .index,
    h .error, h .ts⟩

def Draft.layout (k : Kind) : Field.Layout Draft (Draft.add k) where
  Part := Part
  Value := Part.Value
  name := Part.name
  read := Part.read
  knows f := k.knows.contains f.name
  get := Draft.get
  put := Draft.put
  name_inj f g h := by cases f <;> cases g <;> first | rfl | exact absurd h (by decide)
  get_put d f a := by cases f <;> rfl
  get_put_ne d f a g h := by cases f <;> cases g <;> first | rfl | exact absurd rfl h
  ext _ _ := Draft.ext_get
  step_known d f v hf := by
    unfold Draft.add
    rw [if_neg (not_not_intro hf)]
    cases f <;> rfl
  step_unknown d other v h := by
    unfold Draft.add
    split
    · rfl
    · rename_i hknown
      have hother : ∀ f : Part, f.name = other → False := fun f hf =>
        h f (hf ▸ Classical.not_not.1 hknown) hf
      split
      case h_10 => rfl
      case h_1 => exact (hother .requestId rfl).elim
      case h_2 => exact (hother .target rfl).elim
      case h_3 => exact (hother .timeoutMs rfl).elim
      case h_4 => exact (hother .statusCode rfl).elim
      case h_5 => exact (hother .headers rfl).elim
      case h_6 => exact (hother .data rfl).elim
      case h_7 => exact (hother .index rfl).elim
      case h_8 => exact (hother .error rfl).elim
      case h_9 => exact (hother .ts rfl).elim

/-- The members of a frame are read exactly if each field that the kind knows takes the values of its
name. -/
theorem Draft.ofMembers_eq_ok {k : Kind} {ms : List (String × Json)} {d : Draft} :
    Field.ofMembers (Draft.add k) {} ms = .ok d ↔
      ∀ f : Part, Slot f.read none (if k.knows.contains f.name then valuesOf f.name ms else [])
        (d.get f) := by
  rw [(Draft.layout k).ofMembers_eq_ok]
  exact forall_congr' fun f => by cases f <;> exact Iff.rfl

def Draft.Gives (d : Draft) : Message → Prop
  | .request r =>
    d.requestId = some r.id ∧ d.target = some r.target ∧ d.timeoutMs = some r.timeoutMs
  | .start id status headers =>
    d.requestId = some id ∧ d.statusCode = some status ∧ d.headers = some headers
  | .chunk id data index => d.requestId = some id ∧ d.data = some data ∧ d.index = some index
  | .finish id => d.requestId = some id
  | .failure id error => d.requestId = some id ∧ d.error = some error
  | .ping ts => ts = d.ts.getD 0
  | .pong ts => ts = d.ts.getD 0

theorem Draft.finish_eq_ok {d : Draft} {k : Kind} {m : Message} :
    d.finish k = .ok m ↔ m.kind = k ∧ d.Gives m := by
  constructor
  · intro h
    cases k <;> simp only [Draft.finish, bind_eq_ok, Field.require_eq_ok] at h
    case request =>
      obtain ⟨id, hid, target, htarget, timeout, htimeout, ⟨⟩⟩ := h
      exact ⟨rfl, hid, htarget, htimeout⟩
    case start =>
      obtain ⟨id, hid, status, hstatus, headers, hheaders, ⟨⟩⟩ := h
      exact ⟨rfl, hid, hstatus, hheaders⟩
    case chunk =>
      obtain ⟨id, hid, data, hdata, index, hindex, ⟨⟩⟩ := h
      exact ⟨rfl, hid, hdata, hindex⟩
    case finish =>
      obtain ⟨id, hid, ⟨⟩⟩ := h
      exact ⟨rfl, hid⟩
    case failure =>
      obtain ⟨id, hid, error, herror, ⟨⟩⟩ := h
      exact ⟨rfl, hid, herror⟩
    case ping | pong =>
      obtain ⟨⟩ := h
      exact ⟨rfl, rfl⟩
  · rintro ⟨rfl, h⟩
    cases m <;> simp only [Draft.finish, kind, bind_eq_ok, Field.require_eq_ok]
    case request => exact ⟨_, h.1, _, h.2.1, _, h.2.2, rfl⟩
    case start => exact ⟨_, h.1, _, h.2.1, _, h.2.2, rfl⟩
    case chunk => exact ⟨_, h.1, _, h.2.1, _, h.2.2, rfl⟩
    case finish => exact ⟨_, h, rfl⟩
    case failure => exact ⟨_, h.1, _, h.2, rfl⟩
    case ping => exact congrArg (fun ts => Except.ok (ping ts)) (Eq.symm h)
    case pong => exact congrArg (fun ts => Except.ok (pong ts)) (Eq.symm h)

/-- The members of an object say a message of a given kind. -/
def Holds : Message → List (String × Json) → Prop
  | .request r, ms => Has "requestId" (· = .text r.id.text) ms ∧
      Has "target" (fun v => ∃ ts, v = .object ts ∧ r.target.Holds ts) ms ∧
      Has "timeoutMs" (· = .integer r.timeoutMs.toNat) ms
  | .start id status headers, ms => Has "requestId" (· = .text id.text) ms ∧
      Has "statusCode" (· = .integer status.toNat) ms ∧ Has "headers" headers.Stands ms
  | .chunk id data index, ms => Has "requestId" (· = .text id.text) ms ∧
      Has "data" (· = .text data) ms ∧ Has "index" (· = .integer index.toNat) ms
  | .finish id, ms => Has "requestId" (· = .text id.text) ms
  | .failure id error, ms =>
      Has "requestId" (· = .text id.text) ms ∧ Has "error" (· = .text error) ms
  | .ping ts, ms => MayHave "ts" (ts = 0) (· = .integer ts.toNat) ms
  | .pong ts, ms => MayHave "ts" (ts = 0) (· = .integer ts.toNat) ms

/-- Every target is an object in which encodings are texts. -/
def PlainTargets (ms : List (String × Json)) : Prop :=
  ∀ v ∈ valuesOf "target" ms, ∃ ts, v = .object ts ∧
    ∀ w ∈ valuesOf "bodyEncoding" ts, ∃ s, w = .text s

section
variable {ms : List (String × Json)}

theorem slot_requestId {id : RequestId} :
    Slot requestIdOf none (valuesOf "requestId" ms) (some id) ↔
      Has "requestId" (· = .text id.text) ms := by
  refine Field.slot_some fun v _ => ?_
  simp only [requestIdOf, map_eq_ok, Field.text_eq_ok]
  exact ⟨fun ⟨s, hs, hid⟩ => hid ▸ hs, fun h => ⟨_, h, rfl⟩⟩

theorem slot_headers {h : Headers} :
    Slot Headers.ofJson none (valuesOf "headers" ms) (some h) ↔ Has "headers" h.Stands ms :=
  Field.slot_some fun _ _ => Headers.ofJson_eq_ok

theorem slot_target (hms : PlainTargets ms) {t : Target} :
    Slot Target.ofJson none (valuesOf "target" ms) (some t) ↔
      Has "target" (fun v => ∃ ts, v = .object ts ∧ t.Holds ts) ms := by
  refine Field.slot_some fun v hv => ?_
  obtain ⟨ts, rfl, hts⟩ := hms v hv
  simp [Target.ofJson_object hts]

theorem exists_slot_ts {ts : UInt64} :
    (∃ o, Slot Field.word64 none (valuesOf "ts" ms) o ∧ ts = o.getD 0) ↔
      MayHave "ts" (ts = 0) (· = .integer ts.toNat) ms := by
  refine Field.exists_slot Iff.rfl fun v _ => ?_
  simp [Field.word64_eq_ok]

/-- The members of an object are read as a message exactly if they say it. -/
theorem ofMembers_finish {k : Kind} (hms : PlainTargets ms) {m : Message} :
    (Field.ofMembers (Draft.add k) {} ms >>= (Draft.finish · k)) = .ok m ↔
      m.kind = k ∧ m.Holds ms := by
  simp only [bind_eq_ok, Draft.ofMembers_eq_ok, Draft.finish_eq_ok]
  constructor
  · rintro ⟨d, hd, rfl, hm⟩
    refine ⟨rfl, ?_⟩
    cases m with
    | request r =>
      obtain ⟨hid, htarget, htimeout⟩ := hm
      exact ⟨slot_requestId.1 (hid ▸ hd .requestId), (slot_target hms).1 (htarget ▸ hd .target),
        Field.slot_word64.1 (htimeout ▸ hd .timeoutMs)⟩
    | start id status headers =>
      obtain ⟨hid, hstatus, hheaders⟩ := hm
      exact ⟨slot_requestId.1 (hid ▸ hd .requestId), Field.slot_word16.1 (hstatus ▸ hd .statusCode),
        slot_headers.1 (hheaders ▸ hd .headers)⟩
    | chunk id data index =>
      obtain ⟨hid, hdata, hindex⟩ := hm
      exact ⟨slot_requestId.1 (hid ▸ hd .requestId), Field.slot_text.1 (hdata ▸ hd .data),
        Field.slot_word64.1 (hindex ▸ hd .index)⟩
    | finish id => exact slot_requestId.1 ((show d.requestId = some id from hm) ▸ hd .requestId)
    | failure id error =>
      obtain ⟨hid, herror⟩ := hm
      exact ⟨slot_requestId.1 (hid ▸ hd .requestId), Field.slot_text.1 (herror ▸ hd .error)⟩
    | ping ts | pong ts => exact exists_slot_ts.1 ⟨d.ts, hd .ts, hm⟩
  · rintro ⟨rfl, hm⟩
    -- fields that the kind does not know have no values
    cases m with
    | request r =>
      obtain ⟨hid, htarget, htimeout⟩ := hm
      refine ⟨{ requestId := some r.id, target := some r.target, timeoutMs := some r.timeoutMs },
        fun f => ?_, rfl, rfl, rfl, rfl⟩
      cases f with
      | requestId => exact slot_requestId.2 hid
      | target => exact (slot_target hms).2 htarget
      | timeoutMs => exact Field.slot_word64.2 htimeout
      | _ => exact .absent none
    | start id status headers =>
      obtain ⟨hid, hstatus, hheaders⟩ := hm
      refine ⟨{ requestId := some id, statusCode := some status, headers := some headers },
        fun f => ?_, rfl, rfl, rfl, rfl⟩
      cases f with
      | requestId => exact slot_requestId.2 hid
      | statusCode => exact Field.slot_word16.2 hstatus
      | headers => exact slot_headers.2 hheaders
      | _ => exact .absent none
    | chunk id data index =>
      obtain ⟨hid, hdata, hindex⟩ := hm
      refine ⟨{ requestId := some id, data := some data, index := some index },
        fun f => ?_, rfl, rfl, rfl, rfl⟩
      cases f with
      | requestId => exact slot_requestId.2 hid
      | data => exact Field.slot_text.2 hdata
      | index => exact Field.slot_word64.2 hindex
      | _ => exact .absent none
    | finish id =>
      refine ⟨{ requestId := some id }, fun f => ?_, rfl, rfl⟩
      cases f with
      | requestId => exact slot_requestId.2 hm
      | _ => exact .absent none
    | failure id error =>
      obtain ⟨hid, herror⟩ := hm
      refine ⟨{ requestId := some id, error := some error }, fun f => ?_, rfl, rfl, rfl⟩
      cases f with
      | requestId => exact slot_requestId.2 hid
      | error => exact Field.slot_text.2 herror
      | _ => exact .absent none
    | ping ts | pong ts =>
      obtain ⟨o, ho, hts⟩ := exists_slot_ts.2 hm
      refine ⟨{ ts := o }, fun f => ?_, rfl, hts⟩
      cases f with
      | ts => exact ho
      | _ => exact .absent none

end

/-- Two values that say the same targets: they are the same, or objects in which the names that a
target knows have the same values. -/
inductive SameTarget : Json → Json → Prop where
  | refl (v : Json) : SameTarget v v
  | object {ts ts' : List (String × Json)}
    (h : ∀ name ∈ Target.names, valuesOf name ts = valuesOf name ts') :
    SameTarget (.object ts) (.object ts')

/-- Two objects in which the names that a kind knows have the same values, in whatever order they
stand and whatever other members there are. -/
structure Alike (k : Kind) (ms ms' : List (String × Json)) : Prop where
  others : ∀ name ∈ k.knows, name ≠ "target" → valuesOf name ms = valuesOf name ms'
  target : "target" ∈ k.knows →
    List.Forall₂ SameTarget (valuesOf "target" ms) (valuesOf "target" ms')

theorem SameTarget.symm {v v' : Json} (h : SameTarget v v') : SameTarget v' v := by
  cases h with
  | refl => exact .refl v
  | object h => exact .object fun name hn => (h name hn).symm

theorem Alike.symm {k : Kind} {ms ms' : List (String × Json)} (h : Alike k ms ms') :
    Alike k ms' ms where
  others name hn ht := (h.others name hn ht).symm
  target hk := List.Forall₂.flip (List.Forall₂.imp (fun _ _ => SameTarget.symm) (h.target hk))

theorem Alike.of_eq {k : Kind} {ms ms' : List (String × Json)}
    (h : ∀ name ∈ k.knows, valuesOf name ms = valuesOf name ms') : Alike k ms ms' where
  others name hn _ := h name hn
  target hk := h _ hk ▸ List.forall₂_same.2 fun v _ => .refl v

theorem Holds.of_alike {m : Message} {ms ms' : List (String × Json)} (h : Alike m.kind ms ms')
    (hm : m.Holds ms) : m.Holds ms' := by
  cases m <;> simp only [kind] at h
  case request r =>
    obtain ⟨hid, ⟨v, hv, ts, rfl, ht⟩, htimeout⟩ := hm
    refine ⟨hid.of_eq (h.others _ (by decide) (by decide)), ?_,
      htimeout.of_eq (h.others _ (by decide) (by decide))⟩
    have htarget := h.target (by decide)
    rw [hv] at htarget
    obtain ⟨v', hsame, hv'⟩ : ∃ v', SameTarget (.object ts) v' ∧ valuesOf "target" ms' = [v'] := by
      cases hvalues : valuesOf "target" ms' with
      | nil =>
        rw [hvalues] at htarget
        cases htarget
      | cons v' vs' =>
        rw [hvalues] at htarget
        obtain _ | ⟨hsame, ⟨⟩⟩ := htarget
        exact ⟨v', hsame, rfl⟩
    cases hsame with
    | refl => exact ⟨_, hv', ts, rfl, ht⟩
    | object hts => exact ⟨_, hv', _, rfl, ht.of_eq hts⟩
  case start id status headers =>
    obtain ⟨hid, hstatus, hheaders⟩ := hm
    exact ⟨hid.of_eq (h.others _ (by decide) (by decide)),
      hstatus.of_eq (h.others _ (by decide) (by decide)),
      hheaders.of_eq (h.others _ (by decide) (by decide))⟩
  case chunk id data index =>
    obtain ⟨hid, hdata, hindex⟩ := hm
    exact ⟨hid.of_eq (h.others _ (by decide) (by decide)),
      hdata.of_eq (h.others _ (by decide) (by decide)),
      hindex.of_eq (h.others _ (by decide) (by decide))⟩
  case finish id => exact Has.of_eq (h.others _ (by decide) (by decide)) hm
  case failure id error =>
    obtain ⟨hid, herror⟩ := hm
    exact ⟨hid.of_eq (h.others _ (by decide) (by decide)),
      herror.of_eq (h.others _ (by decide) (by decide))⟩
  case ping | pong => exact MayHave.of_eq (h.others _ (by decide) (by decide)) hm

theorem valuesOf_filter {name other : String} (h : name ≠ other) (ms : List (String × Json)) :
    valuesOf name (ms.filter fun m => m.1 ≠ other) = valuesOf name ms := by
  induction ms with
  | nil => rfl
  | cons m ms ih =>
    rw [List.filter_cons]
    split
    · rw [valuesOf, valuesOf, ih]
    · rename_i hm
      have hname : m.1 = other := by simpa using hm
      rw [ih, valuesOf, if_neg (hname ▸ h.symm)]

/-- An object is a message exactly if one member tells the kind and the others say its fields. -/
theorem decode_object {raw : String} {ms : List (String × Json)}
    (hraw : Json.parse raw = .ok (.object ms)) (hms : PlainTargets ms) {m : Message} :
    decode raw = .ok m ↔ valuesOf kindName ms = [.text m.kind.name] ∧ m.Holds ms := by
  have hvalues : ∀ {name : String}, name ≠ kindName →
      valuesOf name (ms.filter fun m => m.1 ≠ kindName) = valuesOf name ms :=
    fun h => valuesOf_filter h ms
  have hplain : PlainTargets (ms.filter fun m => m.1 ≠ kindName) := by
    unfold PlainTargets
    rwa [hvalues (by decide)]
  have halike : ∀ k : Kind, Alike k (ms.filter fun m => m.1 ≠ kindName) ms := fun k =>
    .of_eq fun name hn => hvalues (by rintro rfl; revert hn; cases k <;> decide)
  rw [decode_eq_ok, hraw]
  constructor
  · rintro ⟨_, ⟨k, content⟩, ⟨⟩, ⟨hkind, rfl⟩, hm⟩
    obtain ⟨rfl, hholds⟩ := (ofMembers_finish hplain).1 hm
    exact ⟨hkind, hholds.of_alike (halike _)⟩
  · rintro ⟨hkind, hholds⟩
    exact ⟨_, ⟨m.kind, .members _⟩, rfl, ⟨hkind, rfl⟩,
      (ofMembers_finish hplain).2 ⟨rfl, hholds.of_alike (halike _).symm⟩⟩

end Message

end Tunnel
