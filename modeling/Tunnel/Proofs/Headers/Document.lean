import Tunnel.Proofs.Headers
import Tunnel.Proofs.Json.Value

/-!
# Header fields in a document

Header fields are read in one pass, and the values of a name become fields where they stand. The same
text can be read as a value first: header fields are nothing, or what the members of an object stand
for.
-/
namespace Tunnel.Headers

open Json (Cursor Reader bind_eq_ok)
open Utf8 (Glyph)

variable {size : Nat} {c c' : Cursor} {fields fields' : List (String × String)}

theorem ofMembers_cons_eq_ok {name : String} {v : Json} {ms : List (String × Json)} :
    ofMembers ((name, v) :: ms) = .ok fields ↔
      ∃ vs rest, values? v = some vs ∧ ofMembers ms = .ok rest ∧
        fields = vs.map (fun s => (name, s)) ++ rest := by
  rw [ofMembers]
  constructor
  · intro h
    split at h
    · cases h
    · rename_i vs hvs
      obtain ⟨rest, hrest, ⟨⟩⟩ := bind_eq_ok.1 h
      exact ⟨vs, rest, hvs, hrest, rfl⟩
  · rintro ⟨vs, rest, hvs, hrest, rfl⟩
    simp only [hvs]
    exact bind_eq_ok.2 ⟨rest, hrest, rfl⟩

/-- The fields of a member, read as a member of any object. -/
theorem pushFields_eq_ok {read : Reader Json} {name : String} :
    pushFields read fields name c = .ok (fields', c') ↔
      ∃ c₁ v vs, Json.colon c = .ok ((), c₁) ∧ read c₁ = .ok (v, c') ∧ values? v = some vs ∧
        fields' = (vs.map fun s => (name, s)).reverse ++ fields := by
  constructor
  · intro h
    obtain ⟨⟨⟨⟩, c₁⟩, hcolon, h⟩ := bind_eq_ok.1 h
    obtain ⟨⟨v, c₂⟩, hv, h⟩ := bind_eq_ok.1 h
    simp only at h
    split at h
    · cases h
    · rename_i vs hvs
      obtain ⟨⟩ := h
      exact ⟨c₁, v, vs, hcolon, hv, hvs, rfl⟩
  · rintro ⟨c₁, v, vs, hcolon, hv, hvs, rfl⟩
    refine bind_eq_ok.2 ⟨_, hcolon, bind_eq_ok.2 ⟨_, hv, ?_⟩⟩
    simp only [hvs]
    rfl

/-- Fields are read as the members of any object, if these stand for fields. -/
theorem members_pushFields {read : Reader Json} {n : Nat} {first : Bool} :
    Json.members (pushFields read) n first fields c = .ok (fields', c') ↔
      ∃ ms more, Json.members (Json.pushMember read) n first [] c = .ok (ms, c') ∧
        ofMembers ms.reverse = .ok more ∧ fields' = more.reverse ++ fields := by
  induction n generalizing first fields c with
  | zero => exact ⟨nofun, nofun⟩
  | succ n ih =>
    simp only [Json.members_eq_ok, Json.pushMember_eq_ok, pushFields_eq_ok]
    constructor
    · rintro (⟨hend, rfl⟩ | ⟨name, c₁, _, c₂, hname, ⟨c₃, v, vs, hcolon, hv, hvs, rfl⟩, hrest⟩)
      · exact ⟨[], [], .inl ⟨hend, rfl⟩, rfl, rfl⟩
      · obtain ⟨ms, more, hms, hmore, rfl⟩ := ih.1 hrest
        refine ⟨ms ++ [(name, v)], vs.map (fun s => (name, s)) ++ more,
          .inr ⟨name, c₁, _, c₂, hname, ⟨c₃, v, hcolon, hv, rfl⟩, ?_⟩, ?_, ?_⟩
        · exact (Json.members_append [(name, v)] []).2 ⟨ms, hms, rfl⟩
        · rw [List.reverse_append]
          exact ofMembers_cons_eq_ok.2 ⟨vs, more, hvs, hmore, rfl⟩
        · rw [List.reverse_append, List.append_assoc]
    · rintro ⟨ms, more, ⟨hend, rfl⟩ | ⟨name, c₁, _, c₂, hname, ⟨c₃, v, hcolon, hv, rfl⟩, hrest⟩,
        hall, rfl⟩
      · obtain ⟨⟩ := hall
        exact .inl ⟨hend, rfl⟩
      · obtain ⟨ms, hms, rfl⟩ := (Json.members_append [(name, v)] []).1 hrest
        rw [List.reverse_append] at hall
        obtain ⟨vs, more, hvs, hmore, rfl⟩ := ofMembers_cons_eq_ok.1 hall
        refine .inr ⟨name, c₁, _, c₂, hname, ⟨c₃, v, vs, hcolon, hv, hvs, rfl⟩,
          ih.2 ⟨ms, more, hms, hmore, ?_⟩⟩
        rw [List.reverse_append, List.append_assoc]

/-- A null is read at every depth, and after space as without it. -/
theorem value_skipSpace_null (depth depth' : Nat) :
    Json.value size depth c.skipSpace = .ok (.null, c') ↔
      Json.value size depth' c = .ok (.null, c') := by
  rw [Json.value_eq_null, Json.value_eq_null, Json.skipSpace_skipSpace]

/-- At a brace, header fields are read as the members of an object. -/
theorem reader_object {rest : List Glyph} (hr : c.skipSpace.rest = .char '\x7b' :: rest)
    {h : Headers} :
    reader size c = .ok (h, c') ↔
      ∃ ms, Json.value size Json.maxDepth c = .ok (.object ms, c') ∧ ofMembers ms = .ok h.fields := by
  have hvalue : ∀ {ms : List (String × Json)},
      Json.value size Json.maxDepth c = .ok (.object ms, c') ↔
        Json.members (Json.pushMember (Json.value size (Json.maxDepth - 1))) size true []
          ⟨rest, c.skipSpace.offset + 1⟩ = .ok (ms.reverse, c') := Json.value_object_at hr
  simp only [hvalue]
  unfold reader
  simp only [hr]
  constructor
  · intro h
    obtain ⟨⟨fs, c₁⟩, hfs, ⟨⟩⟩ := bind_eq_ok.1 h
    obtain ⟨ms, more, hms, hmore, rfl⟩ := members_pushFields.1 hfs
    refine ⟨ms.reverse, by rwa [List.reverse_reverse], ?_⟩
    rwa [List.append_nil, List.reverse_reverse]
  · rintro ⟨ms, hms, hfs⟩
    rw [← List.reverse_reverse ms] at hfs
    refine bind_eq_ok.2 ⟨_, members_pushFields.2 ⟨_, _, hms, hfs, rfl⟩, ?_⟩
    rw [List.append_nil, List.reverse_reverse]
    rfl

/-- Anywhere else they are read where a null stands, and there are none. -/
theorem reader_null (hr : ∀ rest, c.skipSpace.rest ≠ .char '\x7b' :: rest) {h : Headers} :
    reader size c = .ok (h, c') ↔
      Json.value size Json.maxDepth c = .ok (.null, c') ∧ h = empty := by
  unfold reader
  simp only
  split
  · rename_i rest hobject
    exact absurd hobject (hr rest)
  · rename_i rest harray
    refine ⟨nofun, fun ⟨hv, _⟩ => ?_⟩
    obtain ⟨rest', hnull, -⟩ := Json.value_eq_null.1 hv
    cases harray.symm.trans hnull
  · constructor
    · intro h
      obtain ⟨⟨v, c₁⟩, hv, h⟩ := bind_eq_ok.1 h
      cases v with
      | null =>
        obtain ⟨⟩ := h
        exact ⟨(value_skipSpace_null 0 Json.maxDepth).1 hv, rfl⟩
      | _ => cases h
    · rintro ⟨hv, rfl⟩
      exact bind_eq_ok.2 ⟨_, (value_skipSpace_null 0 Json.maxDepth).2 hv, rfl⟩

/-- Header fields are read where a value stands that is one. -/
theorem reader_eq_ok {h : Headers} :
    reader size c = .ok (h, c') ↔
      ∃ v, Json.value size Json.maxDepth c = .ok (v, c') ∧ ofJson v = .ok h := by
  by_cases hr : ∃ rest, c.skipSpace.rest = .char '\x7b' :: rest
  · obtain ⟨rest, hr⟩ := hr
    rw [reader_object hr]
    constructor
    · rintro ⟨ms, hv, hfs⟩
      exact ⟨.object ms, hv, ofJson_eq_ok.2 (.inr ⟨ms, rfl, ofMembers_eq_ok.1 hfs⟩)⟩
    · rintro ⟨v, hv, hof⟩
      rcases ofJson_eq_ok.1 hof with ⟨rfl, -⟩ | ⟨ms, rfl, hentries⟩
      · obtain ⟨rest', hnull, -⟩ := Json.value_eq_null.1 hv
        cases hr.symm.trans hnull
      · exact ⟨ms, hv, ofMembers_eq_ok.2 hentries⟩
  · rw [reader_null (not_exists.1 hr)]
    constructor
    · rintro ⟨hv, rfl⟩
      exact ⟨.null, hv, rfl⟩
    · rintro ⟨v, hv, hof⟩
      rcases ofJson_eq_ok.1 hof with ⟨rfl, rfl⟩ | ⟨ms, rfl, -⟩
      · exact ⟨hv, rfl⟩
      · obtain ⟨rest, hobject, -⟩ := Json.value_eq_object.1 hv
        exact absurd ⟨rest, hobject⟩ hr

/-- Header fields are read off a text exactly if the text is a value that is one. -/
theorem parse_eq_ok {text : String} {h : Headers} :
    parse text = .ok h ↔ ∃ v, Json.parse text = .ok v ∧ ofJson v = .ok h := by
  simp only [parse, Json.parse, Json.read, Json.document_eq_ok, reader_eq_ok]
  constructor
  · rintro ⟨c, ⟨v, hv, hof⟩, hend⟩
    exact ⟨v, ⟨c, hv, hend⟩, hof⟩
  · rintro ⟨v, ⟨c, hv, hend⟩, hof⟩
    exact ⟨c, ⟨v, hv, hof⟩, hend⟩

end Tunnel.Headers
