import Tunnel.Json.Number
import Tunnel.Json.Text

/-!
# Values in a document

Values of any shape, up to a depth. `size` bounds the number of items in one array or object; the length
of the document will do. The reader of the values in brackets is a parameter of the reader of one value,
so that the recursion is on the depth alone.
-/
namespace Tunnel.Json

open Utf8 (Glyph)

/-- Brackets within brackets, counting the outermost: one more is refused. -/
def maxDepth : Nat := 127

def pushMember (read : Reader Json) (ms : List (String × Json)) (name : String) :
    Reader (List (String × Json)) := fun c => do
  let (_, c) ← colon c
  let (v, c) ← read c
  return ((name, v) :: ms, c)

def pushItem (read : Reader Json) (vs : List Json) : Reader (List Json) := fun c => do
  let (v, c) ← read c
  return (v :: vs, c)

/-- Reads a value; what stands in its brackets is read by `nested`, if brackets may be. -/
def valueWith (size : Nat) (nested : Option (Reader Json)) : Reader Json := fun c =>
  let c := c.skipSpace
  match c.rest with
  | [] => .error (c.faultNext .endInValue)
  | .broken _ :: _ => .error (c.faultNext .noValue)
  | .char l :: rest =>
    let after := Cursor.mk rest (c.offset + 1)
    match l with
    | 'n' => do
      let (_, c) ← word ['u', 'l', 'l'] after
      return (.null, c)
    | 't' => do
      let (_, c) ← word ['r', 'u', 'e'] after
      return (.bool true, c)
    | 'f' => do
      let (_, c) ← word ['a', 'l', 's', 'e'] after
      return (.bool false, c)
    | '"' => do
      let (s, c) ← textBody after
      return (.text s, c)
    | '-' => number true after
    | '[' =>
      match nested with
      | none => .error (c.faultNext .tooDeep)
      | some read => do
        let (vs, c) ← items (pushItem read) size true [] after
        return (.array vs.reverse, c)
    | '\x7b' =>
      match nested with
      | none => .error (c.faultNext .tooDeep)
      | some read => do
        let (ms, c) ← members (pushMember read) size true [] after
        return (.object ms.reverse, c)
    | l => if l.isDigit then number false c else .error (c.faultNext .noValue)

def value (size : Nat) : Nat → Reader Json
  | 0 => valueWith size none
  | depth + 1 => valueWith size (some (value size depth))

def read (gs : List Glyph) : Except Fault Json :=
  document (value (gs.length + 1) maxDepth) gs

def parse (text : String) : Except Fault Json :=
  read (Utf8.ofText text)

end Tunnel.Json
