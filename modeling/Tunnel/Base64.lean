/-!
# Base64

The standard alphabet with padding. Every byte sequence has one written form, and reading accepts no
other: the symbols, the padding and the unused bits are all checked.

Three bytes make four symbols, and a last group of one or two bytes is filled up with padding. Reading
goes by the bytes of the text, since a fault says at which byte it was found; a text may hold characters
of more bytes than one.
-/
namespace Tunnel.Base64

def alphabet : List Char :=
  "ABCDEFGHIJKLMNOPQRSTUVWXYZabcdefghijklmnopqrstuvwxyz0123456789+/".toList

def symbol (n : Nat) : Char :=
  alphabet.getD n '='

def value? (b : UInt8) : Option Nat :=
  let n := b.toNat
  if 65 ≤ n ∧ n ≤ 90 then some (n - 65)
  else if 97 ≤ n ∧ n ≤ 122 then some (n - 71)
  else if 48 ≤ n ∧ n ≤ 57 then some (n + 4)
  else if n = 43 then some 62
  else if n = 47 then some 63
  else none

def encodeChars : List UInt8 → List Char
  | [] => []
  | [a] =>
    [symbol (a.toNat / 4), symbol (a.toNat % 4 * 16), '=', '=']
  | [a, b] =>
    [symbol (a.toNat / 4), symbol (a.toNat % 4 * 16 + b.toNat / 16),
      symbol (b.toNat % 16 * 4), '=']
  | a :: b :: c :: rest =>
    symbol (a.toNat / 4) :: symbol (a.toNat % 4 * 16 + b.toNat / 16) ::
      symbol (b.toNat % 16 * 4 + c.toNat / 64) :: symbol (c.toNat % 64) :: encodeChars rest

def encode (bytes : List UInt8) : String :=
  String.ofList (encodeChars bytes)

/-- Why a text is no written form. Offsets count bytes. -/
inductive Fault where
  | symbol (byte : UInt8) (offset : Nat)
  | badLength (length : Nat)
  | lastSymbol (byte : UInt8) (offset : Nat)
  | padding
  deriving DecidableEq, Repr

def Fault.message : Fault → String
  | .symbol byte offset => s!"Invalid symbol {byte.toNat}, offset {offset}."
  | .badLength length => s!"Invalid input length: {length}"
  | .lastSymbol byte offset => s!"Invalid last symbol {byte.toNat}, offset {offset}."
  | .padding => "Invalid padding"

def digit (offset : Nat) (b : UInt8) : Except Fault Nat :=
  match value? b with
  | some v => .ok v
  | none => .error (.symbol b offset)

/-- The last four symbols or fewer: values read, last first, then padding. -/
structure Tail where
  values : List (Nat × UInt8)
  padding : Nat
  firstPadding : Nat

/-- Reads the symbols of the last group one by one. Padding starts at the third place at the
earliest, and nothing but padding follows it. -/
def tail (start : Nat) : Nat → Tail → List UInt8 → Except Fault Tail
  | _, t, [] => .ok t
  | i, t, b :: rest =>
    if b = 61 then
      if i < 2 then .error (.symbol b (start + i))
      else tail start (i + 1)
        { t with
          padding := t.padding + 1
          firstPadding := if t.padding = 0 then i else t.firstPadding }
        rest
    else if t.padding > 0 then .error (.symbol 61 (start + t.firstPadding))
    else match value? b with
      | none => .error (.symbol b (start + i))
      | some v => tail start (i + 1) { t with values := (v, b) :: t.values } rest

def lastBytes (start : Nat) (t : Tail) : Except Fault (List UInt8) :=
  let count := t.values.length
  if count < 2 then .error (.badLength (start + count))
  else if (t.padding + count) % 4 ≠ 0 then .error .padding
  else match t.values with
    | [(b, last), (a, _)] =>
      if b % 16 ≠ 0 then .error (.lastSymbol last (start + 1))
      else .ok [UInt8.ofNat (a * 4 + b / 16)]
    | [(c, last), (b, _), (a, _)] =>
      if c % 4 ≠ 0 then .error (.lastSymbol last (start + 2))
      else .ok [UInt8.ofNat (a * 4 + b / 16), UInt8.ofNat (b % 16 * 16 + c / 4)]
    | [(d, _), (c, _), (b, _), (a, _)] =>
      .ok [UInt8.ofNat (a * 4 + b / 16), UInt8.ofNat (b % 16 * 16 + c / 4),
        UInt8.ofNat (c % 4 * 64 + d)]
    | _ => .ok []

def decodeGroups (start : Nat) : List UInt8 → Except Fault (List UInt8)
  | a :: b :: c :: d :: e :: rest => do
    let a ← digit start a
    let b ← digit (start + 1) b
    let c ← digit (start + 2) c
    let d ← digit (start + 3) d
    let bytes ← decodeGroups (start + 4) (e :: rest)
    return UInt8.ofNat (a * 4 + b / 16) :: UInt8.ofNat (b % 16 * 16 + c / 4) ::
      UInt8.ofNat (c % 4 * 64 + d) :: bytes
  | last => do
    let t ← tail start 0 ⟨[], 0, 0⟩ last
    if last.isEmpty then return []
    lastBytes start t

/-- The bytes that a text stands for, given the text's own bytes. A stray byte after complete
groups is reported before anything else. -/
def decodeBytes (text : List UInt8) : Except Fault (List UInt8) :=
  match text.getLast? with
  | some last =>
    if text.length % 4 = 1 ∧ last ≠ 61 ∧ value? last = none then
      .error (.symbol last (text.length - 1))
    else decodeGroups 0 text
  | none => .ok []

def decode (text : String) : Except Fault (List UInt8) :=
  decodeBytes (text.toList.flatMap String.utf8EncodeChar)

end Tunnel.Base64
