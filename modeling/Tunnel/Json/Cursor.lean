import Tunnel.Json.Error

/-!
# Reading a document

A reader takes the unread part of a document and gives a value and what is left. A fault found in the
next byte counts that byte as read; a fault found after consuming a byte does not look further. The
readers here are the frame of all others: space, the marks between items and members, and the end of a
document.
-/
namespace Tunnel.Json

open Utf8 (Glyph)

/-- The unread part of a document and the number of bytes before it. -/
structure Cursor where
  rest : List Glyph
  offset : Nat

abbrev Reader (α : Type) := Cursor → Except Fault (α × Cursor)

def Cursor.fault (c : Cursor) (cause : Cause) : Fault :=
  ⟨cause, some c.offset⟩

def Cursor.faultNext (c : Cursor) (cause : Cause) : Fault :=
  ⟨cause, some (if c.rest.isEmpty then c.offset else c.offset + 1)⟩

def isSpace (c : Char) : Bool :=
  c = ' ' || c = '\n' || c = '\t' || c = '\r'

def skipSpace (offset : Nat) : List Glyph → Cursor
  | .char c :: rest =>
    if isSpace c then skipSpace (offset + 1) rest else ⟨.char c :: rest, offset⟩
  | rest => ⟨rest, offset⟩

def Cursor.skipSpace (c : Cursor) : Cursor :=
  Json.skipSpace c.offset c.rest

def word : List Char → Reader Unit
  | [], c => .ok ((), c)
  | _ :: _, ⟨[], offset⟩ => .error ⟨.endInValue, some offset⟩
  | l :: ls, ⟨g :: rest, offset⟩ =>
    if g = .char l then word ls ⟨rest, offset + 1⟩ else .error ⟨.noWord, some (offset + 1)⟩

/-- Whether another item of an array follows; if not, its bracket has been read. -/
def nextItem (first : Bool) : Reader Bool := fun c =>
  let c := c.skipSpace
  match c.rest with
  | [] => .error (c.faultNext .endInArray)
  | .char ']' :: rest => .ok (false, ⟨rest, c.offset + 1⟩)
  | g :: rest =>
    if first then .ok (true, c)
    else if g = .char ',' then
      let c := (Cursor.mk rest (c.offset + 1)).skipSpace
      match c.rest with
      | [] => .error (c.faultNext .endInValue)
      | .char ']' :: _ => .error (c.faultNext .trailingComma)
      | _ => .ok (true, c)
    else .error (c.faultNext .noArrayComma)

def items {σ : Type} (step : σ → Reader σ) : Nat → Bool → σ → Reader σ
  | 0, _, _, c => .error (c.fault .endInArray)
  | n + 1, first, s, c => do
    let (more, c) ← nextItem first c
    if more then
      let (s, c) ← step s c
      items step n false s c
    else return (s, c)

/-- Where reading stops when an array is refused for what it holds: an end or a comma that comes
next still belongs to it. -/
def Cursor.refuseArray (c : Cursor) (cause : Cause) : Fault :=
  let c := c.skipSpace
  match c.rest with
  | .char ']' :: _ => ⟨cause, some (c.offset + 1)⟩
  | .char ',' :: rest => (Cursor.mk rest (c.offset + 1)).skipSpace.fault cause
  | _ => c.fault cause

/-- Where reading stops when an object is refused for what it holds: an end that comes next still
belongs to it. -/
def Cursor.refuseObject (c : Cursor) (cause : Cause) : Fault :=
  let c := c.skipSpace
  match c.rest with
  | .char '\x7d' :: _ => ⟨cause, some (c.offset + 1)⟩
  | _ => c.fault cause

def colon : Reader Unit := fun c =>
  let c := c.skipSpace
  match c.rest with
  | [] => .error (c.faultNext .endInObject)
  | .char ':' :: rest => .ok ((), ⟨rest, c.offset + 1⟩)
  | _ => .error (c.faultNext .noColon)

/-- Reads a whole document; only space may follow the value. -/
def document {α : Type} (read : Reader α) (gs : List Glyph) : Except Fault α := do
  let (a, c) ← read ⟨gs, 0⟩
  let c := c.skipSpace
  if c.rest.isEmpty then return a else throw (c.faultNext .trailingCharacters)

end Tunnel.Json
