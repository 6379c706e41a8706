import Tunnel.Proofs.Json.Integral
import Tunnel.Proofs.Pairing.Save

/-!
# Members that a save keeps

A document with integers only is written and read again without a change. So a save sets the texts
that it gives and leaves every other member as it was read, and the same save once more writes the
same bytes.
-/
namespace Tunnel

namespace Document

open Json (Integral Rereads Sorted)

variable {ms : Members} {u : PairingUpdate} {name : String}

def isForeign (name : String) : Bool := name ≠ relayUrlName && name ≠ tokenName

theorem filter_apply (ms : Members) (u : PairingUpdate) :
    (apply ms u).filter (isForeign ·.1) = ms.filter (isForeign ·.1) := by
  have hset (name : String) (hname : isForeign name = false) (value : Option String) (ms : Members) :
      (setText name value ms).filter (isForeign ·.1) = ms.filter (isForeign ·.1) := by
    cases value with
    | none => rfl
    | some s => exact Json.filter_setMember hname _ ms
  rw [apply, hset tokenName (by decide), hset relayUrlName (by decide)]

theorem member?_setText_self (name : String) (value : Option String) (ms : Members) :
    Json.member? name (setText name value ms) = (value.map .text).or (Json.member? name ms) := by
  cases value with
  | none => rfl
  | some s => exact Json.member?_setMember_self name _ ms

theorem member?_setText_ne {n : String} (hn : n ≠ name) (value : Option String) (ms : Members) :
    Json.member? n (setText name value ms) = Json.member? n ms := by
  cases value with
  | none => rfl
  | some s => exact Json.member?_setMember_ne hn _ ms

/-- An update sets the texts that it gives, whatever was in their places. -/
theorem member?_apply (ms : Members) (u : PairingUpdate) :
    Json.member? relayUrlName (apply ms u) =
        (u.relayUrl.map .text).or (Json.member? relayUrlName ms) ∧
      Json.member? tokenName (apply ms u) =
        (u.token.map .text).or (Json.member? tokenName ms) := by
  have hne : relayUrlName ≠ tokenName := by decide
  constructor
  · rw [apply, member?_setText_ne hne, member?_setText_self]
  · rw [apply, member?_setText_self, member?_setText_ne hne.symm]

theorem setText_of_member? {value : Option String} (h : Sorted ms)
    (hv : ∀ s ∈ value, Json.member? name ms = some (.text s)) : setText name value ms = ms := by
  cases value with
  | none => rfl
  | some s => exact h.setMember_of_member? (hv s rfl)

/-- An update changes nothing the second time. -/
theorem apply_apply (h : Stored ms) (u : PairingUpdate) : apply (apply ms u) u = apply ms u := by
  have hsorted := (h.apply u).sorted
  obtain ⟨hurl, htoken⟩ := member?_apply ms u
  have hsame : setText relayUrlName u.relayUrl (apply ms u) = apply ms u :=
    setText_of_member? hsorted fun s hs => by rw [hurl, Option.mem_def.1 hs]; rfl
  rw [apply, hsame]
  exact setText_of_member? hsorted fun s hs => by rw [htoken, Option.mem_def.1 hs]; rfl

def Settled (ms : Members) : Prop := ∀ m ∈ ms, m.2.Integral ∧ m.2.normalize = m.2

theorem settled_of_parse {gs : List Utf8.Glyph} (hgs : Json.integersOnly gs = true)
    (h : parse gs = .ok ms) : Settled ms := by
  obtain ⟨raw, hread, rfl⟩ := parse_eq_ok.1 h
  cases Json.integral_read hgs hread with
  | object hraw =>
    exact Json.forall_mem_normalizeMembers (P := fun v => v.Integral ∧ v.normalize = v)
      (fun m hm => ⟨(hraw m hm).normalize, (hraw m hm).normalize_normalize⟩) nofun

theorem Settled.setText (h : Settled ms) (name : String) (value : Option String) :
    Settled (setText name value ms) := by
  cases value with
  | none => exact h
  | some s =>
    exact Json.forall_mem_setMember (P := fun m => m.2.Integral ∧ m.2.normalize = m.2)
      ⟨.text s, rfl⟩ h

theorem Settled.apply (h : Settled ms) (u : PairingUpdate) : Settled (apply ms u) :=
  (h.setText relayUrlName u.relayUrl).setText tokenName u.token

/-- Settled members come back as they are. -/
theorem Settled.reread {f : UInt64 → UInt64} (hf : Rereads f) (h : Settled ms) :
    reread f ms = ms :=
  Json.map_value_of_forall (f := fun v => (v.mapReals f).normalize) fun m hm => by
    rw [(h m hm).1.mapReals hf.negativeZero, (h m hm).2]

theorem Settled.parse_render (h : Settled ms) (hstored : Stored ms) :
    parse (Utf8.glyphs (Utf8.encode (render ms))) = .ok ms := by
  obtain ⟨f, hf⟩ := Json.exists_rereads
  rw [hstored.parse_render hf, h.reread hf]

end Document

namespace FilePairing

open Document (Stored Settled isForeign)

variable {files files' : FileTree} {path : String} {u : PairingUpdate} {ms : Document.Members}
  {bytes : List UInt8}

theorem withExtension_slash {p : FilePath} (hp : p.slash = false) (e : String) :
    (p.withExtension e).slash = false := by
  obtain ⟨-, -, hsame⟩ | ⟨last, -, -, -, -, hextension⟩ := p.names_cases
  · rw [hsame, hp]
  · rw [hextension]
    split
    · exact hp
    · rfl

/-- Where something was saved, anything can be saved. -/
theorem writeMembers_of_save (h : save files path u = (.ok (), files')) (ms : Document.Members) :
    ∃ files'', writeMembers files' path ms = (.ok (), files'') := by
  obtain ⟨_, -, hwritten⟩ := save_eq_ok h
  obtain ⟨l, hp, hl, hslash⟩ := FileTree.read_eq_ok.1 (read_of_writeMembers hwritten)
  obtain ⟨s, hs, hnone⟩ := (leaves_save h).staging_none
  have hfree : files'.get? s ≠ some .directory := by simp [hnone]
  have hne : l ≠ s := by
    rintro rfl
    rw [hl] at hnone
    cases hnone
  have hwrite : files'.write (staging path) (Utf8.encode (Document.render ms)) = .ok _ :=
    FileTree.write_eq_ok.2 ⟨s, hs, hfree, withExtension_slash hslash "json.tmp", rfl⟩
  have hkeeps := FileTree.keeps_put hfree (.file (Utf8.encode (Document.render ms)))
  have hrename := FileTree.rename_eq_ok.2 ⟨_, s, l, FileTree.read_write hwrite, hkeeps.locate hs,
    hkeeps.locate hp, by simp [FileTree.get?_put_ne hne, hl], hslash, rfl⟩
  exact ⟨_, writeMembers_eq_ok.2
    ⟨files', _, FileTree.makeParents_of_locate hp, hwrite, hrename⟩⟩

/-- A save of a document with integers only keeps its other members as they are, and has nothing
left to change. -/
theorem save_members (hread : files.read (.ofText path) = .ok bytes)
    (hparse : Document.parse (Utf8.glyphs bytes) = .ok ms)
    (hintegers : Json.integersOnly (Utf8.glyphs bytes))
    (hsave : save files path u = (.ok (), files')) :
    ∃ bytes' ms', files'.read (.ofText path) = .ok bytes' ∧
      Document.parse (Utf8.glyphs bytes') = .ok ms' ∧
      ms'.filter (isForeign ·.1) = ms.filter (isForeign ·.1) ∧
      (ms'.map Prod.fst).Nodup ∧
      Json.member? Document.relayUrlName ms' =
        (u.relayUrl.map .text).or (Json.member? Document.relayUrlName ms) ∧
      Json.member? Document.tokenName ms' =
        (u.token.map .text).or (Json.member? Document.tokenName ms) ∧
      ∃ files'', save files' path u = (.ok (), files'') ∧
        files''.read (.ofText path) = .ok bytes' := by
  obtain ⟨ms₀, hms₀, hwritten⟩ := save_eq_ok hsave
  have hms : readMembers files path = .ok ms := readMembers_eq_ok.2 (.inr ⟨bytes, hread, hparse⟩)
  obtain rfl : ms₀ = ms := Except.ok.inj (hms₀.symm.trans hms)
  have hstored := Document.stored_of_parse hparse
  have hsettled := Document.settled_of_parse hintegers hparse
  have hread' := read_of_writeMembers hwritten
  have hparse' := (hsettled.apply u).parse_render (hstored.apply u)
  obtain ⟨hurl, htoken⟩ := Document.member?_apply ms₀ u
  -- the second save writes the members of the first once more
  have hms' : readMembers files' path = .ok (Document.apply ms₀ u) :=
    readMembers_eq_ok.2 (.inr ⟨_, hread', hparse'⟩)
  obtain ⟨files'', hagain⟩ := writeMembers_of_save hsave (Document.apply ms₀ u)
  have hsave' : save files' path u = (.ok (), files'') := by
    simp only [save, hms', Document.apply_apply hstored, hagain]
  exact ⟨_, _, hread', hparse', Document.filter_apply ms₀ u, (hstored.apply u).sorted.nodup_names,
    hurl, htoken, files'', hsave', read_of_writeMembers hagain⟩

/-- A document with a name that comes twice, values in values, the largest and the smallest integer, a
zero behind a minus and a token that is no text. -/
def noted : List UInt8 := Utf8.encode
  ("\x7b\"token\": null, \"big\": 18446744073709551615, \"zero\": -0," ++
  "\"low\": -9223372036854775808, " ++
  "\"in\": [\x7b\"b\": [[], \x7b\x7d], \"a\": \"\\u00e9\\n\"\x7d, true], \"big\": 7\x7d")

theorem save_members_noted :
    let files := FileTree.empty.put ["work", "c.json"] (.file noted)
    let u : PairingUpdate := ⟨some "wss://relay.example.com", none⟩
    ((Document.parse (Utf8.glyphs noted)).toOption.map fun ms => ms.map Prod.fst) =
        some ["big", "in", "low", "token", "zero"] ∧
      Json.integersOnly (Utf8.glyphs noted) ∧
      ∃ ms ms' bytes' files' files'', Document.parse (Utf8.glyphs noted) = .ok ms ∧
        save files "c.json" u = (.ok (), files') ∧
        Document.parse (Utf8.glyphs bytes') = .ok ms' ∧
        ms'.filter (isForeign ·.1) = ms.filter (isForeign ·.1) ∧
        Json.member? Document.relayUrlName ms' = some (.text "wss://relay.example.com") ∧
        Json.member? Document.tokenName ms' = Json.member? Document.tokenName ms ∧
        save files' "c.json" u = (.ok (), files'') ∧
        files''.read (.ofText "c.json") = .ok bytes' := by
  intro files u
  have hnames : ((Document.parse (Utf8.glyphs noted)).toOption.map fun ms => ms.map Prod.fst) =
      some ["big", "in", "low", "token", "zero"] := by decide +kernel
  have hintegers : Json.integersOnly (Utf8.glyphs noted) := by decide +kernel
  have hsaved : (save files "c.json" u).1.toOption = some () := by decide +kernel
  refine ⟨hnames, hintegers, ?_⟩
  cases hparse : Document.parse (Utf8.glyphs noted) with
  | error fault =>
    rw [hparse] at hnames
    cases hnames
  | ok ms =>
    rcases hsave : save files "c.json" u with ⟨_ | _, files'⟩
    · rw [hsave] at hsaved
      cases hsaved
    · have hread : files.read (.ofText "c.json") = .ok noted := rfl
      obtain ⟨bytes', ms', -, hparse', hforeign, -, hurl, htoken, files'', hsave', hread'⟩ :=
        save_members hread hparse hintegers hsave
      exact ⟨ms, ms', bytes', files', files'', rfl, rfl, hparse', hforeign, hurl, htoken, hsave',
        hread'⟩

end FilePairing

end Tunnel
