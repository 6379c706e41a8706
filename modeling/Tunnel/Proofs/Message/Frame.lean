import Tunnel.Message.Decode
import Tunnel.Proofs.Field
import Tunnel.Proofs.Json.Forward

/-!
# Frames as values

A frame is read in one pass, its kind where it stands. The same text can be read as a value first: a
frame is an object whose kind is told by exactly one member, or a list that starts with the kind.
-/
namespace Tunnel.Message

open Tunnel.Field (valuesOf)
open Json (Cause Cursor Fault Reader bind_eq_ok map_eq_ok)
open Utf8 (Glyph)

theorem Kind.name_inj {k k' : Kind} (h : k.name = k'.name) : k = k' := by
  cases k <;> cases k' <;> first | rfl | exact absurd h (by decide)

theorem ofName?_eq_some {name : String} {k : Kind} : Kind.ofName? name = some k ↔ name = k.name := by
  constructor
  · intro h
    have hk := List.find?_some h
    exact (of_decide_eq_true hk).symm
  · rintro rfl
    cases k <;> rfl

/-- The kind is read where a text stands that names it. -/
theorem kindReader_eq_ok {size depth : Nat} {c c' : Cursor} {k : Kind} :
    kindReader c = .ok (k, c') ↔ Json.value size depth c = .ok (.text k.name, c') := by
  obtain ⟨nested, hnested⟩ := Json.value_eq_valueWith size depth
  rw [hnested, Json.valueWith_eq_text]
  unfold kindReader
  simp only
  constructor
  · intro h
    split at h
    · rename_i rest hr
      obtain ⟨⟨name, c₁⟩, hname, h⟩ := bind_eq_ok.1 h
      simp only at h
      split at h
      · rename_i k' hk
        obtain ⟨⟩ := h
        obtain rfl := ofName?_eq_some.1 hk
        exact ⟨rest, hr, hname⟩
      · cases h
    · cases h
    · cases h
    · obtain ⟨⟨v, c₁⟩, -, ⟨⟩⟩ := bind_eq_ok.1 h
  · rintro ⟨rest, hr, hname⟩
    rw [hr]
    refine bind_eq_ok.2 ⟨_, hname, ?_⟩
    simp only [ofName?_eq_some.2 rfl]
    rfl

/-! ## Objects

The kind may stand anywhere among the members of a frame. Reading sorts the members into the one that
tells the kind and the others, and refuses a second one that tells it.
-/

def kindValues : Option Kind → List Json
  | none => []
  | some k => [.text k.name]

theorem kindValues_inj {j k : Option Kind} (h : kindValues j = kindValues k) : j = k := by
  cases j with
  | none =>
    cases k with
    | none => rfl
    | some k => cases h
  | some j =>
    cases k with
    | none => cases h
    | some k => rw [Kind.name_inj (Json.text.inj (List.singleton_inj.1 h))]

/-- What has been read of a frame after the members `all`, last first: the kind, if a member told it,
and the other members. -/
structure Sorted (all : List (String × Json)) (s : Option Kind × List (String × Json)) : Prop where
  kind : valuesOf kindName all = kindValues s.1
  others : s.2 = all.filter fun m => m.1 ≠ kindName

variable {all all' : List (String × Json)} {s s' : Option Kind × List (String × Json)}
  {size depth : Nat} {c c' : Cursor} {v : Json}

theorem Sorted.nil : Sorted [] (none, []) := ⟨rfl, rfl⟩

/-- The first member that tells the kind. -/
theorem Sorted.cons_kind (hs : Sorted all s) :
    Sorted ((kindName, v) :: all) s' ↔ s.1 = none ∧ ∃ k, v = .text k.name ∧ s' = (some k, s.2) := by
  obtain ⟨kind, others⟩ := s
  obtain ⟨kind', others'⟩ := s'
  obtain ⟨hkind, rfl⟩ := hs
  have hvalues : valuesOf kindName ((kindName, v) :: all) = v :: kindValues kind := by
    rw [valuesOf, if_pos rfl, hkind]
  constructor
  · rintro ⟨hkind', rfl⟩
    rw [hvalues] at hkind'
    cases kind' with
    | none => cases hkind'
    | some k =>
      obtain ⟨rfl, hnone⟩ := List.cons.inj hkind'
      exact ⟨kindValues_inj (k := none) hnone, k, rfl, by simp⟩
  · rintro ⟨rfl, k, rfl, ⟨⟩⟩
    exact ⟨hvalues, by simp⟩

theorem Sorted.cons_other (hs : Sorted all s) {name : String} (hname : name ≠ kindName) :
    Sorted ((name, v) :: all) s' ↔ s' = (s.1, (name, v) :: s.2) := by
  obtain ⟨kind, others⟩ := s
  obtain ⟨kind', others'⟩ := s'
  obtain ⟨hkind, rfl⟩ := hs
  have hvalues : valuesOf kindName ((name, v) :: all) = kindValues kind := by
    rw [valuesOf, if_neg hname, hkind]
  constructor
  · rintro ⟨hkind', rfl⟩
    rw [kindValues_inj (hvalues.symm.trans hkind')]
    simp [hname]
  · rintro ⟨⟩
    exact ⟨hvalues, by simp [hname]⟩

/-- One member of a frame, read as a member of any object. -/
theorem frameMember_eq_ok (hs : Sorted all s) {name : String} :
    frameMember (Json.value size depth) s name c = .ok (s', c') ↔
      ∃ v, Json.pushMember (Json.value size depth) all name c = .ok ((name, v) :: all, c') ∧
        Sorted ((name, v) :: all) s' := by
  have hpush : ∀ {ms : List (String × Json)} {v : Json},
      Json.pushMember (Json.value size depth) ms name c = .ok ((name, v) :: ms, c') ↔
        ∃ c₁, Json.colon c = .ok ((), c₁) ∧ Json.value size depth c₁ = .ok (v, c') := by
    intro ms v
    simp [Json.pushMember_eq_ok]
  simp only [hpush]
  unfold frameMember
  by_cases hname : name = kindName
  · subst hname
    simp only [if_true, hs.cons_kind]
    constructor
    · intro h
      split at h
      · cases h
      · rename_i hnone
        obtain ⟨⟨⟨⟩, c₁⟩, hcolon, h⟩ := bind_eq_ok.1 h
        obtain ⟨⟨k, c₂⟩, hk, ⟨⟩⟩ := bind_eq_ok.1 h
        exact ⟨_, ⟨c₁, hcolon, kindReader_eq_ok.1 hk⟩, hnone, k, rfl, rfl⟩
    · rintro ⟨_, ⟨c₁, hcolon, hk⟩, hnone, k, rfl, rfl⟩
      simp only [hnone]
      exact bind_eq_ok.2 ⟨_, hcolon, bind_eq_ok.2 ⟨_, kindReader_eq_ok.2 hk, rfl⟩⟩
  · simp only [if_neg hname, hs.cons_other hname]
    constructor
    · intro h
      obtain ⟨⟨ms, c₁⟩, hms, ⟨⟩⟩ := bind_eq_ok.1 h
      obtain ⟨c₂, v, hcolon, hv, rfl⟩ := Json.pushMember_eq_ok.1 hms
      exact ⟨v, ⟨c₂, hcolon, hv⟩, rfl⟩
    · rintro ⟨v, ⟨c₁, hcolon, hv⟩, rfl⟩
      exact bind_eq_ok.2 ⟨_, Json.pushMember_eq_ok.2 ⟨c₁, v, hcolon, hv, rfl⟩, rfl⟩

/-- Members are put in front of those before them. -/
theorem suffix_of_members {read : Reader Json} {n : Nat} {first : Bool}
    (h : Json.members (Json.pushMember read) n first all c = .ok (all', c')) : all <:+ all' := by
  obtain ⟨ms, -, rfl⟩ := (Json.members_append all []).1 h
  exact List.suffix_append ms all

theorem valuesOf_append (name : String) (ms ms' : List (String × Json)) :
    valuesOf name (ms ++ ms') = valuesOf name ms ++ valuesOf name ms' := by
  induction ms with
  | nil => rfl
  | cons m ms ih =>
    rw [List.cons_append, valuesOf, valuesOf]
    split
    · rw [ih, List.cons_append]
    · exact ih

/-- If the members of a frame tell at most one kind in the end, so they did before. -/
theorem Sorted.of_suffix (hs : Sorted all' s') (h : all <:+ all') : ∃ s, Sorted all s := by
  obtain ⟨more, rfl⟩ := h
  have hkind := hs.kind
  rw [valuesOf_append] at hkind
  cases hall : valuesOf kindName all with
  | nil => exact ⟨(none, _), hall, rfl⟩
  | cons v vs =>
    cases hk : s'.1 with
    | none =>
      rw [hk, hall] at hkind
      exact absurd (List.append_eq_nil_iff.1 hkind).2 (List.cons_ne_nil v vs)
    | some k =>
      rw [hk, hall] at hkind
      have hone : v :: vs = kindValues (some k) := by
        cases hmore : valuesOf kindName more with
        | nil => rwa [hmore] at hkind
        | cons w ws => simp [hmore, kindValues] at hkind
      exact ⟨(some k, _), hall.trans hone, rfl⟩

/-- The members of a frame are read as those of any object, if at most one of them tells a kind. -/
theorem members_frameMember (hs : Sorted all s) {n : Nat} {first : Bool} :
    Json.members (frameMember (Json.value size depth)) n first s c = .ok (s', c') ↔
      ∃ all', Json.members (Json.pushMember (Json.value size depth)) n first all c = .ok (all', c') ∧
        Sorted all' s' := by
  induction n generalizing all s first c with
  | zero => exact ⟨nofun, nofun⟩
  | succ n ih =>
    simp only [Json.members_eq_ok]
    constructor
    · rintro (⟨hend, rfl⟩ | ⟨name, c₁, s₁, c₂, hname, hread, hrest⟩)
      · exact ⟨all, .inl ⟨hend, rfl⟩, hs⟩
      · obtain ⟨v, hpush, hs₁⟩ := (frameMember_eq_ok hs).1 hread
        obtain ⟨all', hall, hs'⟩ := (ih hs₁).1 hrest
        exact ⟨all', .inr ⟨name, c₁, _, c₂, hname, hpush, hall⟩, hs'⟩
    · rintro ⟨all', ⟨hend, rfl⟩ | ⟨name, c₁, ms, c₂, hname, hpush, hrest⟩, hs'⟩
      · have hsame : s' = s := Prod.ext (kindValues_inj (hs'.kind.symm.trans hs.kind))
          (hs'.others.trans hs.others.symm)
        exact .inl ⟨hend, hsame⟩
      · -- what comes later does not tell a kind twice, so neither does this member
        obtain ⟨s₁, hs₁⟩ := hs'.of_suffix (suffix_of_members hrest)
        obtain ⟨-, v, -, -, rfl⟩ := Json.pushMember_eq_ok.1 hpush
        exact .inr ⟨name, c₁, s₁, c₂, hname, (frameMember_eq_ok hs).2 ⟨v, hpush, hs₁⟩,
          (ih hs₁).2 ⟨all', hrest, hs'⟩⟩

theorem valuesOf_reverse (name : String) (ms : List (String × Json)) :
    valuesOf name ms.reverse = (valuesOf name ms).reverse := by
  induction ms with
  | nil => rfl
  | cons m ms ih =>
    rw [List.reverse_cons, valuesOf_append, ih, valuesOf, valuesOf, valuesOf]
    split
    · rw [List.reverse_cons]
    · rw [List.append_nil]

/-! ## Frames

Both ways to read a frame, as a frame and as a value, go through the same text; what one accepts is what
the other accepts and finds a kind in.
-/

/-- A value that is a frame: an object in which one member tells the kind, or a list that starts with
it. -/
def Frame.Reads (f : Frame) : Json → Prop
  | .object ms => valuesOf kindName ms = [.text f.kind.name] ∧
      f.content = .members (ms.filter fun m => m.1 ≠ kindName)
  | .array vs => ∃ rest, vs = .text f.kind.name :: rest ∧ f.content = .items rest
  | _ => False

/-- Items go in front of those before them, whatever these are. -/
theorem items_append {read : Reader Json} {n : Nat} {first : Bool} (before vs : List Json)
    {ws : List Json} :
    Json.items (Json.pushItem read) n first (vs ++ before) c = .ok (ws, c') ↔
      ∃ vs', Json.items (Json.pushItem read) n first vs c = .ok (vs', c') ∧ ws = vs' ++ before := by
  induction n generalizing first vs c with
  | zero => exact ⟨nofun, nofun⟩
  | succ n ih =>
    simp only [Json.items_eq_ok, Json.pushItem_eq_ok]
    constructor
    · rintro (⟨hend, rfl⟩ | ⟨c₁, _, c₂, hnext, ⟨v, hv, rfl⟩, hrest⟩)
      · exact ⟨vs, .inl ⟨hend, rfl⟩, rfl⟩
      · obtain ⟨vs', hvs, rfl⟩ := (ih (v :: vs)).1 hrest
        exact ⟨vs', .inr ⟨c₁, _, c₂, hnext, ⟨v, hv, rfl⟩, hvs⟩, rfl⟩
    · rintro ⟨_, ⟨hend, rfl⟩ | ⟨c₁, _, c₂, hnext, ⟨v, hv, rfl⟩, hrest⟩, rfl⟩
      · exact .inl ⟨hend, rfl⟩
      · exact .inr ⟨c₁, _, c₂, hnext, ⟨v, hv, rfl⟩, (ih (v :: vs)).2 ⟨_, hrest, rfl⟩⟩

theorem frameReader_object {rest : List Glyph} (hr : c.skipSpace.rest = .char '\x7b' :: rest)
    {f : Frame} :
    frameReader size c = .ok (f, c') ↔
      ∃ ms, Json.value size Json.maxDepth c = .ok (.object ms, c') ∧ f.Reads (.object ms) := by
  have hvalue : ∀ {ms : List (String × Json)},
      Json.value size Json.maxDepth c = .ok (.object ms, c') ↔
        Json.members (Json.pushMember (Json.value size (Json.maxDepth - 1))) size true []
          ⟨rest, c.skipSpace.offset + 1⟩ = .ok (ms.reverse, c') := Json.value_object_at hr
  simp only [hvalue]
  unfold frameReader
  simp only [hr]
  constructor
  · intro h
    obtain ⟨⟨⟨kind, ms⟩, c₁⟩, hms, h⟩ := bind_eq_ok.1 h
    obtain ⟨all, hall, hs⟩ := (members_frameMember .nil).1 hms
    cases kind with
    | none => cases h
    | some k =>
      simp only at h
      obtain ⟨⟩ := h
      refine ⟨all.reverse, by rwa [List.reverse_reverse], ?_, ?_⟩
      · rw [valuesOf_reverse, hs.kind]
        rfl
      · have hothers : ms = all.filter fun m => m.1 ≠ kindName := hs.others
        rw [hothers, List.filter_reverse]
  · rintro ⟨ms, hms, hkind, hcontent⟩
    obtain ⟨kind, content⟩ := f
    have hs : Sorted ms.reverse (some kind, (ms.filter fun m => m.1 ≠ kindName).reverse) :=
      ⟨by rw [valuesOf_reverse, hkind]; rfl, by rw [List.filter_reverse]⟩
    refine bind_eq_ok.2 ⟨_, (members_frameMember .nil).2 ⟨_, hms, hs⟩, ?_⟩
    obtain rfl : content = _ := hcontent
    simp only [List.reverse_reverse]
    rfl

theorem frameReader_array {rest : List Glyph} (hr : c.skipSpace.rest = .char '[' :: rest)
    (hsize : c.rest.length < size) {f : Frame} :
    frameReader size c = .ok (f, c') ↔
      ∃ vs, Json.value size Json.maxDepth c = .ok (.array vs, c') ∧ f.Reads (.array vs) := by
  obtain ⟨n, rfl⟩ := Nat.exists_eq_add_of_lt (Nat.zero_lt_of_lt hsize)
  rw [Nat.zero_add] at hsize ⊢
  have hvalue : ∀ {vs : List Json},
      Json.value (n + 1) Json.maxDepth c = .ok (.array vs, c') ↔
        Json.items (Json.pushItem (Json.value (n + 1) (Json.maxDepth - 1))) (n + 1) true []
          ⟨rest, c.skipSpace.offset + 1⟩ = .ok (vs.reverse, c') := by
    intro vs
    rw [show Json.maxDepth = Json.maxDepth - 1 + 1 from rfl, Json.value_eq_array]
    simp [hr]
  have hforward := Json.forward_value (n + 1) (Json.maxDepth - 1)
  -- after the kind, what is left is within the bound
  have hbound : ∀ {c₁ c₂ : Cursor} {k : Kind},
      Json.nextItem true ⟨rest, c.skipSpace.offset + 1⟩ = .ok (true, c₁) →
        kindReader c₁ = .ok (k, c₂) → c₂.rest.length < n := by
    intro c₁ c₂ k hnext hk
    have hkind := (hforward _ _ _ (kindReader_eq_ok.1 hk)).length_le
    have hitem := (Json.forward_nextItem true _ _ _ hnext).length_le
    have hskip := (Json.skipSpace_suffix c).length_le
    rw [hr, List.length_cons] at hskip
    simp only at hitem
    omega
  simp only [hvalue, Json.items_eq_ok, Json.pushItem_eq_ok]
  unfold frameReader
  simp only [hr]
  constructor
  · intro h
    obtain ⟨⟨more, c₁⟩, hnext, h⟩ := bind_eq_ok.1 h
    cases more with
    | false => cases h
    | true =>
      obtain ⟨⟨k, c₂⟩, hk, h⟩ := bind_eq_ok.1 h
      obtain ⟨⟨vs, c₃⟩, hvs, ⟨⟩⟩ := bind_eq_ok.1 h
      refine ⟨.text k.name :: vs.reverse,
        .inr ⟨c₁, _, c₂, hnext, ⟨_, kindReader_eq_ok.1 hk, rfl⟩, ?_⟩, _, rfl, rfl⟩
      rw [List.reverse_cons, List.reverse_reverse]
      exact (items_append [_] []).2 ⟨vs, Json.items_of_length_lt (Json.forward_pushItem hforward) hvs
        (hbound hnext hk), rfl⟩
  · obtain ⟨kind, content⟩ := f
    rintro ⟨vs, hvs, vs', rfl, hcontent⟩
    obtain rfl : content = _ := hcontent
    rcases hvs with ⟨-, hnil⟩ | ⟨c₁, _, c₂, hnext, ⟨v, hv, rfl⟩, hrest⟩
    · simp at hnil
    · obtain ⟨ws, hws, heq⟩ := (items_append [v] []).1 hrest
      rw [List.reverse_cons] at heq
      obtain ⟨rfl, hkind⟩ := List.append_inj' heq rfl
      obtain rfl := List.singleton_inj.1 hkind
      have hk := kindReader_eq_ok.2 hv
      have hfuel := Json.items_of_length_lt (Json.forward_pushItem hforward) hws
        (Nat.lt_succ_of_lt (hbound hnext hk))
      refine bind_eq_ok.2 ⟨_, hnext, bind_eq_ok.2 ⟨_, hk, bind_eq_ok.2 ⟨_, hfuel, ?_⟩⟩⟩
      simp only [List.reverse_reverse]
      rfl

theorem value_object {ms : List (String × Json)}
    (h : Json.value size Json.maxDepth c = .ok (.object ms, c')) :
    ∃ rest, c.skipSpace.rest = .char '\x7b' :: rest := by
  obtain ⟨rest, hr, -⟩ := Json.value_eq_object.1 h
  exact ⟨rest, hr⟩

theorem value_array {vs : List Json}
    (h : Json.value size Json.maxDepth c = .ok (.array vs, c')) :
    ∃ rest, c.skipSpace.rest = .char '[' :: rest := by
  obtain ⟨rest, hr, -⟩ := Json.value_eq_array.1 h
  exact ⟨rest, hr⟩

/-- Where a frame is read. -/
theorem frameReader_head {f : Frame} (h : frameReader size c = .ok (f, c')) :
    ∃ rest, c.skipSpace.rest = .char '\x7b' :: rest ∨ c.skipSpace.rest = .char '[' :: rest := by
  unfold frameReader at h
  simp only at h
  split at h
  · rename_i rest hr
    exact ⟨rest, .inl hr⟩
  · rename_i rest hr
    exact ⟨rest, .inr hr⟩
  · obtain ⟨⟨v, c₁⟩, -, ⟨⟩⟩ := bind_eq_ok.1 h

/-- Reading a frame is reading a value that is one. -/
theorem frameReader_eq_ok (hsize : c.rest.length < size) {f : Frame} :
    frameReader size c = .ok (f, c') ↔
      ∃ v, Json.value size Json.maxDepth c = .ok (v, c') ∧ f.Reads v := by
  constructor
  · intro h
    obtain ⟨rest, hr | hr⟩ := frameReader_head h
    · obtain ⟨ms, hv, hf⟩ := (frameReader_object hr).1 h
      exact ⟨_, hv, hf⟩
    · obtain ⟨vs, hv, hf⟩ := (frameReader_array hr hsize).1 h
      exact ⟨_, hv, hf⟩
  · rintro ⟨v, hv, hf⟩
    cases v with
    | object ms =>
      obtain ⟨rest, hr⟩ := value_object hv
      exact (frameReader_object hr).2 ⟨ms, hv, hf⟩
    | array vs =>
      obtain ⟨rest, hr⟩ := value_array hv
      exact (frameReader_array hr hsize).2 ⟨vs, hv, hf⟩
    | _ => cases hf

theorem reader_eq_ok {m : Message} :
    reader size c = .ok (m, c') ↔ ∃ f, frameReader size c = .ok (f, c') ∧ ofFrame f = .ok m := by
  unfold reader
  rw [bind_eq_ok]
  constructor
  · rintro ⟨⟨f, c₁⟩, hf, h⟩
    simp only at h
    split at h
    · rename_i m' hm
      obtain ⟨⟩ := h
      exact ⟨f, hf, hm⟩
    · cases h
  · rintro ⟨f, hf, hm⟩
    exact ⟨_, hf, by simp only [hm]; rfl⟩

/-- A message is read off a text exactly if the text is a value that is a frame of this message. -/
theorem decode_eq_ok {raw : String} {m : Message} :
    decode raw = .ok m ↔ ∃ v f, Json.parse raw = .ok v ∧ Frame.Reads f v ∧ ofFrame f = .ok m := by
  have hdecode : decode raw = .ok m ↔
      Json.document (reader ((Utf8.ofText raw).length + 1)) (Utf8.ofText raw) = .ok m := by
    unfold decode
    simp only
    cases Json.document (reader ((Utf8.ofText raw).length + 1)) (Utf8.ofText raw) <;> simp
  have hsize : (Cursor.mk (Utf8.ofText raw) 0).rest.length < (Utf8.ofText raw).length + 1 :=
    Nat.lt_succ_self _
  simp only [hdecode, Json.parse, Json.read, Json.document_eq_ok, reader_eq_ok,
    frameReader_eq_ok hsize]
  constructor
  · rintro ⟨c, ⟨f, ⟨v, hv, hf⟩, hm⟩, hend⟩
    exact ⟨v, f, ⟨c, hv, hend⟩, hf, hm⟩
  · rintro ⟨v, f, ⟨c, hv, hend⟩, hf, hm⟩
    exact ⟨c, ⟨f, ⟨v, hv, hf⟩, hm⟩, hend⟩

end Tunnel.Message
