import Tunnel.Url.Domain
import Tunnel.Url.Percent

/-!
# Hosts

A host is a name or an address. A name whose last label is a number must be an IPv4 address, in
any of its spellings; brackets hold an IPv6 address. For a scheme that is not well known the host
is any text without delimiters.
-/
namespace Tunnel

inductive UrlError where
  | noBase
  | opaqueBase
  | emptyHost
  | port
  | ipv4
  | ipv6
  | domain
  | domainCharacter
  deriving DecidableEq, Repr

def UrlError.message : UrlError → String
  | .noBase => "relative URL without a base"
  | .opaqueBase => "relative URL with a cannot-be-a-base base"
  | .emptyHost => "empty host"
  | .port => "invalid port number"
  | .ipv4 => "invalid IPv4 address"
  | .ipv6 => "invalid IPv6 address"
  | .domain => "invalid international domain name"
  | .domainCharacter => "invalid domain character"

inductive Host where
  | empty
  | name (text : String)
  | ipv4 (address : Nat)
  | ipv6 (pieces : List Nat)
  deriving DecidableEq, Repr

namespace Host

def number? (radix : Nat) (cs : List Char) : Option Nat :=
  cs.foldl (fun n c => do
    let n ← n
    let d ← if c.isDigit then some (c.toNat - 48)
      else if 'a' ≤ c ∧ c ≤ 'f' then some (c.toNat - 87)
      else if 'A' ≤ c ∧ c ≤ 'F' then some (c.toNat - 55)
      else none
    if d < radix then some (n * radix + d) else none) (some 0)

/-- The value of one part of an IPv4 address: hexadecimal after `0x`, octal after `0`. -/
def ipv4Number? (cs : List Char) : Option Nat :=
  match cs with
  | [] => none
  | '0' :: 'x' :: rest => number? 16 rest
  | '0' :: 'X' :: rest => number? 16 rest
  | '0' :: c :: rest => number? 8 (c :: rest)
  | cs => number? 10 cs

def endsInNumber (cs : List Char) : Bool :=
  let last := match (Domain.labels cs).reverse with
    | [] :: l :: _ => l
    | [] :: [] => []
    | l :: _ => l
    | [] => []
  (!last.isEmpty && last.all Char.isDigit) || (ipv4Number? last).isSome

/-- The address of an IPv4 spelling: all numbers but the last are bytes, and the last fills what is
left. -/
def parseIpv4 (cs : List Char) : Except UrlError Nat :=
  let parts := Domain.labels cs
  let parts := if parts.getLast? = some [] then parts.dropLast else parts
  if 4 < parts.length then .error .ipv4
  else match (parts.mapM ipv4Number?).map List.reverse with
    | some (last :: firsts) =>
      if Nat.pow 256 (4 - firsts.length) ≤ last then .error .ipv4
      else if firsts.any (255 < ·) then .error .ipv4
      else
        let add (n : Nat × Nat) (b : Nat) := (n.1 + b * Nat.pow 256 n.2, n.2 - 1)
        .ok ((firsts.reverse.foldl add (0, 3)).1 + last)
    | _ => .error .ipv4

def hexPiece : Nat → Nat → List Char → Nat × List Char
  | 0, v, cs => (v, cs)
  | n + 1, v, c :: cs =>
    match number? 16 [c] with
    | some d => hexPiece n (v * 16 + d) cs
    | none => (v, c :: cs)
  | _ + 1, v, [] => (v, [])

def dottedBytes (cs : List Char) : Option (List Nat) := do
  let parts := Domain.labels cs
  if parts.length ≠ 4 then none
  parts.mapM fun p => do
    if p.isEmpty ∨ (p.head? = some '0' ∧ p.length ≠ 1) then none
    let n ← number? 10 p
    if 255 < n then none else some n

/-- The pieces of an IPv6 address read so far and where the zeros are left out. -/
structure Pieces where
  values : List Nat
  gap : Option Nat

def pieces : Nat → Pieces → List Char → Except UrlError Pieces
  | _, p, [] => .ok p
  | 0, _, _ => .error .ipv6
  | fuel + 1, p, c :: cs =>
    if p.values.length = 8 then .error .ipv6
    else if c = ':' then
      match p.gap with
      | some _ => .error .ipv6
      | none => pieces fuel ⟨p.values ++ [0], some (p.values.length + 1)⟩ cs
    else
      let (v, rest) := hexPiece 4 0 (c :: cs)
      match rest with
      | [] => .ok ⟨p.values ++ [v], p.gap⟩
      | ':' :: rest =>
        if rest.isEmpty then .error .ipv6 else pieces fuel ⟨p.values ++ [v], p.gap⟩ rest
      | '.' :: _ =>
        if rest.length = (c :: cs).length ∨ 6 < p.values.length then .error .ipv6
        else match dottedBytes (c :: cs) with
          | some [a, b, d, e] => .ok ⟨p.values ++ [a * 256 + b, d * 256 + e], p.gap⟩
          | _ => .error .ipv6
      | _ => .error .ipv6

/-- The pieces of an IPv6 address. A gap stands for at least one zero. -/
def parseIpv6 (cs : List Char) : Except UrlError (List Nat) := do
  let p ← match cs with
    | ':' :: ':' :: rest => pieces cs.length ⟨[0], some 1⟩ rest
    | ':' :: _ => throw .ipv6
    | [] => throw .ipv6
    | [_] => throw .ipv6
    | cs => pieces cs.length ⟨[], none⟩ cs
  match p.gap with
  | some gap =>
    return p.values.take gap ++ List.replicate (8 - p.values.length) 0 ++ p.values.drop gap
  | none => if p.values.length = 8 then return p.values else throw .ipv6

/-- The host of a well-known scheme: an address or a name, which may be percent-encoded. -/
def parse (cs : List Char) : Except UrlError Host :=
  match cs with
  | '[' :: rest =>
    if rest.getLast? = some ']' then .ipv6 <$> parseIpv6 rest.dropLast else .error .ipv6
  | cs =>
    match Domain.toAscii (Percent.decode (Utf8.encode (String.ofList cs))) with
    | none => .error .domain
    | some [] => .error .emptyHost
    | some domain =>
      if endsInNumber domain then .ipv4 <$> parseIpv4 domain
      else .ok (.name (String.ofList domain))

def isDelimiter (c : Char) : Bool :=
  ['\x00', '\t', '\n', '\r', ' ', '#', '/', ':', '<', '>', '?', '@', '[', '\\', ']', '^',
    '|'].contains c

def parseOther (cs : List Char) : Except UrlError Host :=
  match cs with
  | '[' :: rest =>
    if rest.getLast? = some ']' then .ipv6 <$> parseIpv6 rest.dropLast else .error .ipv6
  | [] => .ok .empty
  | cs =>
    if cs.any isDelimiter then .error .domainCharacter
    else .ok (.name (String.ofList (Percent.encode Percent.isControl cs)))

/-- The first of the longest runs of zero pieces, as its start and length; a single zero is none. -/
def longestGap (ps : List Nat) : Option (Nat × Nat) :=
  let runs := (List.range 8).map fun i => (i, ((ps.drop i).takeWhile (· = 0)).length)
  runs.foldl (fun best r =>
    if r.2 ≤ 1 then best
    else match best with
      | some b => if b.2 < r.2 then some r else best
      | none => some r) none

def renderPieces (ps : List Nat) : String :=
  String.intercalate ":" (ps.map fun p => String.ofList (Nat.toDigits 16 p))

def render : Host → String
  | .empty => ""
  | .name text => text
  | .ipv4 a =>
    String.intercalate "." <|
      [a / 0x1000000 % 256, a / 0x10000 % 256, a / 256 % 256, a % 256].map toString
  | .ipv6 ps =>
    match longestGap ps with
    | some (start, length) =>
      "[" ++ renderPieces (ps.take start) ++ "::" ++ renderPieces (ps.drop (start + length)) ++ "]"
    | none => "[" ++ renderPieces ps ++ "]"

end Host

end Tunnel
