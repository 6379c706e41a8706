import Tunnel.Text.Utf8

/-!
# Percent encoding

Each part of a URL has a set of ASCII characters that must not stand in it. Those, and all bytes beyond
ASCII, are written as a percent sign and two hexadecimal digits. When text is decoded, a percent sign
that is not followed by two digits stands for itself.
-/
namespace Tunnel.Percent

def digit (n : Nat) : Char :=
  "0123456789ABCDEF".toList.getD n '0'

def encodeByte (b : UInt8) : List Char :=
  ['%', digit (b.toNat / 16), digit (b.toNat % 16)]

def encode (set : Char → Bool) (cs : List Char) : List Char :=
  cs.flatMap fun c =>
    if 128 ≤ c.toNat ∨ set c then (String.utf8EncodeChar c).flatMap encodeByte else [c]

def isControl (c : Char) : Bool :=
  c.toNat < 32 || c.toNat == 127

def inFragment (c : Char) : Bool :=
  isControl c || [' ', '"', '<', '>', '\x60'].contains c

def inPath (c : Char) : Bool :=
  inFragment c || ['#', '?', '\x7b', '\x7d'].contains c

def inUserInfo (c : Char) : Bool :=
  inPath c || ['/', ':', ';', '=', '@', '[', '\\', ']', '^', '|'].contains c

def inQuery (c : Char) : Bool :=
  isControl c || [' ', '"', '#', '<', '>'].contains c

def inSpecialQuery (c : Char) : Bool :=
  inQuery c || c == '\''

def value? (b : UInt8) : Option Nat :=
  let n := b.toNat
  if 48 ≤ n ∧ n ≤ 57 then some (n - 48)
  else if 65 ≤ n ∧ n ≤ 70 then some (n - 55)
  else if 97 ≤ n ∧ n ≤ 102 then some (n - 87)
  else none

/-- Bytes with what is encoded decoded; a percent sign without two digits stands for itself. -/
def decode : List UInt8 → List UInt8
  | 37 :: a :: b :: rest =>
    match value? a, value? b with
    | some x, some y => UInt8.ofNat (x * 16 + y) :: decode rest
    | _, _ => 37 :: decode (a :: b :: rest)
  | c :: rest => c :: decode rest
  | [] => []

end Tunnel.Percent
