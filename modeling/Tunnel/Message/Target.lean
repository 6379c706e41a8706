import Tunnel.Headers.Wire
import Tunnel.Message
import Tunnel.Message.Fields

/-!
# Reading targets

A target is an object, or a list of its fields in order. Header fields, body and body encoding may be
absent. Members that a target does not know are passed over. An encoding is a name, or an object with
that name and nothing in it.
-/
namespace Tunnel

open Json (Cause)

def BodyEncoding.ofName (name : String) : Except Cause BodyEncoding :=
  if name = "utf8" then .ok .utf8
  else if name = "base64" then .ok .base64
  else .error (.unknownName name "`utf8` or `base64`")

/-- An encoding: a name, or an object whose one member has that name and nothing in it. -/
def BodyEncoding.ofJson : Json → Except Cause BodyEncoding
  | .text name => BodyEncoding.ofName name
  | .object [(name, v)] => do
    let encoding ← BodyEncoding.ofName name
    match v with
    | .null => return encoding
    | .object [] => return encoding
    | v => throw (.wrongType v.found "unit")
  | .object _ => .error (.wrongValue .map "map with a single key")
  | v => .error (.wrongType v.found "string or map")

namespace Target

structure Draft where
  method : Option String := none
  path : Option String := none
  baseUrl : Option String := none
  headers : Option Headers := none
  body : Option (Option String) := none
  bodyEncoding : Option BodyEncoding := none

/-- Reads one member; members of other names are passed over. -/
def Draft.add (d : Draft) (name : String) (v : Json) : Except Cause Draft :=
  match name with
  | "method" => return { d with method := ← Field.once name d.method (Field.text v) }
  | "path" => return { d with path := ← Field.once name d.path (Field.text v) }
  | "baseUrl" => return { d with baseUrl := ← Field.once name d.baseUrl (Field.text v) }
  | "headers" => return { d with headers := ← Field.once name d.headers (Headers.ofJson v) }
  | "body" => return { d with body := ← Field.once name d.body (Field.optionalText v) }
  | "bodyEncoding" =>
    return { d with bodyEncoding := ← Field.once name d.bodyEncoding (BodyEncoding.ofJson v) }
  | _ => return d

def Draft.finish (d : Draft) : Except Cause Target := do
  let method ← Field.require "method" d.method
  let path ← Field.require "path" d.path
  let baseUrl ← Field.require "baseUrl" d.baseUrl
  return ⟨method, path, baseUrl, d.headers.getD .empty, d.body.join, d.bodyEncoding.getD .utf8⟩

def expectedItems : String := "struct Target with 6 elements"

def ofItems (vs : List Json) : Except Cause Target := do
  let (method, vs) ← Field.item expectedItems 0 Field.text vs
  let (path, vs) ← Field.item expectedItems 1 Field.text vs
  let (baseUrl, vs) ← Field.item expectedItems 2 Field.text vs
  let (headers, vs) ← Field.itemOr .empty Headers.ofJson vs
  let (body, vs) ← Field.itemOr none Field.optionalText vs
  let (bodyEncoding, vs) ← Field.itemOr .utf8 BodyEncoding.ofJson vs
  Field.noMore 6 vs
  return ⟨method, path, baseUrl, headers, body, bodyEncoding⟩

def ofJson : Json → Except Cause Target
  | .object ms => do (← Field.ofMembers Draft.add {} ms).finish
  | .array vs => ofItems vs
  | v => .error (.wrongType v.found "struct Target")

end Target

end Tunnel
