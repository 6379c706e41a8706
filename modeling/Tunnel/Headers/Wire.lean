import Tunnel.Headers
import Tunnel.Json.Reader

/-!
# Reading header fields

An object whose values are texts or lists of texts, or nothing at all. The list may be read from a value
or, with places for its faults, from a document. Both give the same fields: one for each text, in the
order of the members and then of the list.
-/
namespace Tunnel.Headers

open Json (Cause Cursor Fault Reader)

def expected : String := "a map of header names to a string or an array of strings"

def texts? : List Json → Option (List String)
  | [] => some []
  | .text s :: rest => (texts? rest).map (s :: ·)
  | _ :: _ => none

def values? : Json → Option (List String)
  | .text s => some [s]
  | .array vs => texts? vs
  | _ => none

def badValues : Cause := .noAlternative "untagged enum WireValue"

def ofMembers : List (String × Json) → Except Cause (List (String × String))
  | [] => .ok []
  | (name, v) :: rest =>
    match values? v with
    | none => .error badValues
    | some vs => do
      let fields ← ofMembers rest
      return vs.map (fun s => (name, s)) ++ fields

def ofJson : Json → Except Cause Headers
  | .null => .ok empty
  | .object ms => Headers.mk <$> ofMembers ms
  | v => .error (.wrongType v.found expected)

/-- Reads the values of a name and puts its fields, last first, in front of those before. -/
def pushFields (value : Reader Json) (fields : List (String × String)) (name : String) :
    Reader (List (String × String)) := fun c => do
  let (_, c) ← Json.colon c
  let (v, c) ← value c
  match values? v with
  | none => throw (c.refuseObject badValues)
  | some vs => return ((vs.map fun s => (name, s)).reverse ++ fields, c)

def reader (size : Nat) : Reader Headers := fun c =>
  let c := c.skipSpace
  match c.rest with
  | .char '\x7b' :: rest => do
    let (fields, c) ← Json.members (pushFields (Json.value size (Json.maxDepth - 1))) size true []
      ⟨rest, c.offset + 1⟩
    return (⟨fields.reverse⟩, c)
  | .char '[' :: rest =>
    .error ((Cursor.mk rest (c.offset + 1)).refuseArray (.wrongType .sequence expected))
  | _ => do
    let (v, c) ← Json.value size 0 c
    match v with
    | .null => return (empty, c)
    | v => throw (c.fault (.wrongType v.found expected))

def parse (text : String) : Except Fault Headers :=
  let gs := Utf8.ofText text
  Json.document (reader (gs.length + 1)) gs

end Tunnel.Headers
