import Tunnel.Json.Printer
import Tunnel.Json.Reader
import Tunnel.Message.Fields
import Tunnel.Pairing

/-!
# The stored document

A pairing is stored as a JSON object. Members that do not belong to the pairing are kept as they are;
the names of members are distinct and sorted. An update overwrites what is given in it and leaves the
rest, be it of the pairing or not.
-/
namespace Tunnel.Document

open Json (Cause Fault Reader)

abbrev Members := List (String × Json)

def relayUrlName : String := "relayUrl"

def tokenName : String := "token"

def reader (size : Nat) : Reader Members := fun c =>
  let c := c.skipSpace
  let expected := "a map"
  match c.rest with
  | [] => .error (c.faultNext .endInValue)
  | .char '\x7b' :: rest => do
    let (ms, c) ← Json.members (Json.pushMember (Json.value size (Json.maxDepth - 1))) size true []
      ⟨rest, c.offset + 1⟩
    return (Json.normalizeMembers ms.reverse [], c)
  | .char '[' :: _ => .error (c.fault (.wrongType .sequence expected))
  | _ => do
    let (v, c) ← Json.value size 0 c
    throw (c.fault (.wrongType v.found expected))

def parse (gs : List Utf8.Glyph) : Except Fault Members :=
  Json.document (reader (gs.length + 1)) gs

/-- A text of the pairing; a missing one is empty. -/
def text (ms : Members) (name : String) : Except Cause String :=
  match Json.member? name ms with
  | none => .ok ""
  | some v => Field.text v

def pairing (ms : Members) : Except Cause Pairing := do
  let relayUrl ← text ms relayUrlName
  let token ← text ms tokenName
  return ⟨relayUrl, token⟩

def setText (name : String) (value : Option String) (ms : Members) : Members :=
  match value with
  | some s => Json.setMember name (.text s) ms
  | none => ms

def apply (ms : Members) (u : PairingUpdate) : Members :=
  setText tokenName u.token (setText relayUrlName u.relayUrl ms)

def render (ms : Members) : String :=
  (Json.object ms).renderPretty

end Tunnel.Document
