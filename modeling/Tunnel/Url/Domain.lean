import Tunnel.Text.Mark
import Tunnel.Text.Utf8
import Tunnel.Url.Domain.Direction
import Tunnel.Url.Domain.Joining
import Tunnel.Url.Domain.Mapping
import Tunnel.Url.Punycode

/-!
# Domain names

A domain name in any script has a form in ASCII. Its characters are mapped and composed, and each
label between dots that is not ASCII is written in Punycode after a mark. A label that has the mark
already must stand for a label that would be written so.
-/
namespace Tunnel.Domain

def isForbidden (c : Char) : Bool :=
  c.toNat ≤ 32 || c.toNat == 127 ||
    ['#', '%', '/', ':', '<', '>', '?', '@', '[', '\\', ']', '^', '|'].contains c

def consFirst (c : Char) : List (List Char) → List (List Char)
  | part :: parts => (c :: part) :: parts
  | [] => [[c]]

def labels (cs : List Char) : List (List Char) :=
  cs.foldr (fun c parts => if c = '.' then [] :: parts else consFirst c parts) [[]]

def isAscii (c : Char) : Bool := c.toNat < 128

structure Label where
  ascii : List Char
  plain : List Char
  deriving DecidableEq, Repr

def maxEncoded : Nat := 1000

def maxDecoded : Nat := 2000

/-- Whether a label that is not ASCII may stand: it does not start with a mark, its joiners may
stand where they do, and its characters are plain. -/
def isSound (label : List Char) : Bool :=
  !(label.head?.map Mark.isMark).getD false && label.all Mapping.isPlain &&
    Joining.isPlaced [] label

def ofPunycode (cs : List Char) : Option Label :=
  if maxDecoded < cs.length then none
  else
    match Punycode.decode cs with
    | some plain =>
      if plain.all isAscii ∨ !isSound plain ∨ Composition.compose plain ≠ plain then none
      else some ⟨"xn--".toList ++ cs, plain⟩
    | none => none

def Label.of (cs : List Char) : Option Label :=
  match cs with
  | 'x' :: 'n' :: '-' :: '-' :: rest => ofPunycode rest
  | _ =>
    if cs.all isAscii then some ⟨cs, cs⟩
    else if !isSound cs ∨ maxEncoded < cs.length then none
    else some ⟨"xn--".toList ++ Punycode.encode cs, cs⟩

/-- Whether the labels of a domain name are each in one direction, if one of them is not written
from left to right. -/
def isOneWay (ls : List Label) : Bool :=
  let directions := ls.map fun l => l.plain.map Direction.of
  !directions.any (fun l => l.any Direction.isRightward) || directions.all Direction.isOneWay

def joinLabels (ls : List (List Char)) : List Char :=
  List.intercalate ['.'] ls

/-- The ASCII form of a domain name of characters that have been mapped and composed. -/
def ofMapped (cs : List Char) : Option (List Char) :=
  if cs.any isForbidden then none
  else
    match (labels cs).mapM Label.of with
    | some ls => if isOneWay ls then some (joinLabels (ls.map Label.ascii)) else none
    | none => none

def toAscii (bytes : List UInt8) : Option (List Char) := do
  let s ← Utf8.decode? bytes
  let cs ← Mapping.mapAll s.toList
  ofMapped (Composition.compose cs)

end Tunnel.Domain
