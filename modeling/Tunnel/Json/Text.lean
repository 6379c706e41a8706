import Tunnel.Json.Cursor

/-!
# Quoted text in a document

A text is scanned character by character. Escapes by number are UTF-16 units, so a character beyond the
first plane takes two of them, and half a pair is refused. Bytes that are no text are found at the
closing quote only, after all other faults.
-/
namespace Tunnel.Json

open Utf8 (Glyph)

def hexValue? (c : Char) : Option Nat :=
  let n := c.toNat
  if 48 ≤ n ∧ n ≤ 57 then some (n - 48)
  else if 97 ≤ n ∧ n ≤ 102 then some (n - 87)
  else if 65 ≤ n ∧ n ≤ 70 then some (n - 55)
  else none

def shortEscape? : Char → Option Char
  | '"' => some '"'
  | '\\' => some '\\'
  | '/' => some '/'
  | 'b' => some '\x08'
  | 'f' => some '\x0c'
  | 'n' => some '\n'
  | 'r' => some '\r'
  | 't' => some '\t'
  | _ => none

/-- What the scanner expects: any character, the letter of an escape, digits of a UTF-16 unit (after
a leading surrogate, perhaps), or the start of the escape that completes a pair. -/
inductive Scan where
  | any
  | escape
  | unit (high : Option Nat) (left : Nat) (value : Nat)
  | slash (high : Nat)
  | letter (high : Nat)

def isHigh (n : Nat) : Bool :=
  0xD800 ≤ n && n ≤ 0xDBFF

def isLow (n : Nat) : Bool :=
  0xDC00 ≤ n && n ≤ 0xDFFF

/-- What follows a complete unit: a character, or the wait for the second half. -/
def completeUnit (high : Option Nat) (value : Nat) : Option (Char ⊕ Scan) :=
  match high with
  | none =>
    if isLow value then none
    else if isHigh value then some (.inr (.slash value))
    else some (.inl (Char.ofNat value))
  | some h =>
    if isLow value then
      some (.inl (Char.ofNat ((h - 0xD800) * 1024 + (value - 0xDC00) + 0x10000)))
    else none

/-- A unit that lacks a digit: the four bytes are read if there are so many. -/
def unitFault (left offset : Nat) (rest : List Glyph) : Fault :=
  let bytes := rest.foldl (fun n g => n + g.width) 0
  if left ≤ bytes then ⟨.badEscape, some (offset + left)⟩
  else ⟨.endInText, some (offset + bytes)⟩

/-- Scans up to the closing quote. `cs` holds the characters so far, last first, and `bad` the place
of the first byte that is no text; that fault yields to all others. -/
def scanText : Scan → List Char → Option Nat → Nat → List Glyph → Except Fault (String × Cursor)
  | _, _, _, o, [] => .error ⟨.endInText, some o⟩
  | .any, cs, bad, o, g :: rest =>
    match g with
    | .broken w => scanText .any ('\uFFFD' :: cs) (bad.or (some o)) (o + w) rest
    | .char c =>
      if c = '"' then
        match bad with
        | none => .ok (String.ofList cs.reverse, ⟨rest, o + 1⟩)
        | some b => .error ⟨.badCodePoint, some (b + 1)⟩
      else if c = '\\' then scanText .escape cs bad (o + 1) rest
      else if c.toNat < 32 then .error ⟨.controlCharacter, some (o + 1)⟩
      else scanText .any (c :: cs) bad (o + c.utf8Size) rest
  | .escape, cs, bad, o, g :: rest =>
    match g with
    | .broken _ => .error ⟨.badEscape, some (o + 1)⟩
    | .char c =>
      if c = 'u' then scanText (.unit none 4 0) cs bad (o + 1) rest
      else match shortEscape? c with
        | some d => scanText .any (d :: cs) bad (o + 1) rest
        | none => .error ⟨.badEscape, some (o + 1)⟩
  | .unit high left value, cs, bad, o, g :: rest =>
    match g with
    | .broken _ => .error (unitFault left o (g :: rest))
    | .char c =>
      match hexValue? c with
      | none => .error (unitFault left o (g :: rest))
      | some d =>
        let value := value * 16 + d
        if left ≤ 1 then
          match completeUnit high value with
          | none => .error ⟨.loneSurrogate, some (o + 1)⟩
          | some (.inl c) => scanText .any (c :: cs) bad (o + 1) rest
          | some (.inr next) => scanText next cs bad (o + 1) rest
        else scanText (.unit high (left - 1) value) cs bad (o + 1) rest
  | .slash high, cs, bad, o, g :: rest =>
    if g = .char '\\' then scanText (.letter high) cs bad (o + 1) rest
    else .error ⟨.endOfEscape, some (o + 1)⟩
  | .letter high, cs, bad, o, g :: rest =>
    if g = .char 'u' then scanText (.unit (some high) 4 0) cs bad (o + 1) rest
    else .error ⟨.endOfEscape, some (o + 1)⟩

def textBody : Reader String := fun c =>
  scanText .any [] none c.offset c.rest

/-- Reads the name of the next member of an object; if there is none, the object's brace has been
read. -/
def nextName (first : Bool) : Reader (Option String) := fun c =>
  let c := c.skipSpace
  match c.rest with
  | [] => .error (c.faultNext .endInObject)
  | .char '\x7d' :: rest => .ok (none, ⟨rest, c.offset + 1⟩)
  | g :: rest =>
    if first then
      if g = .char '"' then do
        let (name, c) ← textBody ⟨rest, c.offset + 1⟩
        return (some name, c)
      else .error (c.faultNext .nameNotText)
    else if g = .char ',' then
      let c := (Cursor.mk rest (c.offset + 1)).skipSpace
      match c.rest with
      | [] => .error (c.faultNext .endInValue)
      | .char '"' :: rest => do
        let (name, c) ← textBody ⟨rest, c.offset + 1⟩
        return (some name, c)
      | .char '\x7d' :: _ => .error (c.faultNext .trailingComma)
      | _ => .error (c.faultNext .nameNotText)
    else .error (c.faultNext .noObjectComma)

/-- Reads members up to the closing brace, each after those before it. A step starts after the name
and reads the colon itself. -/
def members {σ : Type} (step : σ → String → Reader σ) : Nat → Bool → σ → Reader σ
  | 0, _, _, c => .error (c.fault .endInObject)
  | n + 1, first, s, c => do
    match ← nextName first c with
    | (none, c) => return (s, c)
    | (some name, c) =>
      let (s, c) ← step s name c
      members step n false s c

end Tunnel.Json
