/-!
# Request targets

A URI as it stands in a request: a path, an authority alone, or a scheme with an authority and perhaps a
path and a query. Nothing is decoded or normalised, and a fragment is dropped. Lengths are bounded,
those of the whole and of a scheme.
-/
namespace Tunnel

inductive UriError where
  | tooLong
  | empty
  | character
  | authority
  | format
  | schemeTooLong
  deriving DecidableEq, Repr

def UriError.message : UriError → String
  | .tooLong => "uri too long"
  | .empty => "empty string"
  | .character => "invalid uri character"
  | .authority => "invalid authority"
  | .format => "invalid format"
  | .schemeTooLong => "scheme too long"

structure Uri where
  scheme : Option String
  authority : Option String
  path : String
  query : Option String
  deriving DecidableEq, Repr

namespace Uri

def maxLength : Nat := 65534

def maxSchemeLength : Nat := 64

def maxColons : Nat := 8

def isSchemeChar (c : Char) : Bool :=
  c.isAlphanum || c == '+' || c == '-' || c == '.'

def isAuthorityChar (c : Char) : Bool :=
  c.isAlphanum || "!$&'()*+,-.:;=@[]_~".toList.contains c

def isAuthorityEnd (c : Char) : Bool :=
  c == '/' || c == '?' || c == '#'

def isPathChar (c : Char) : Bool :=
  let n := c.toNat
  n == 0x21 || (0x24 ≤ n && n ≤ 0x3B) || n == 0x3D || (0x40 ≤ n && n ≤ 0x5F) ||
    (0x61 ≤ n && n ≤ 0x7E) || 0x7F ≤ n || n == 0x22

def isQueryChar (c : Char) : Bool :=
  let n := c.toNat
  n == 0x21 || (0x24 ≤ n && n ≤ 0x3B) || n == 0x3D || 0x3F ≤ n

def dropBeginning (beginning cs : List Char) : Option (List Char) :=
  if (cs.take beginning.length).map Char.toLower = beginning then
    some (cs.drop beginning.length)
  else none

/-- The scheme before `://`, if there is one, and what follows. The two usual ones are in lower
case. -/
def splitScheme (cs : List Char) : Except UriError (Option String × List Char) :=
  match dropBeginning "http://".toList cs, dropBeginning "https://".toList cs with
  | some rest, _ => .ok (some "http", rest)
  | _, some rest => .ok (some "https", rest)
  | none, none =>
    let scheme := cs.takeWhile isSchemeChar
    match cs.drop scheme.length with
    | ':' :: '/' :: '/' :: rest =>
      if maxSchemeLength < scheme.length then .error .schemeTooLong
      else if scheme.isEmpty ∧ rest.isEmpty then .ok (none, cs)
      else .ok (some (String.ofList scheme), rest)
    | _ => .ok (none, cs)

/-- What has been seen of an authority: the colons since its last `@` or bracket, whether brackets
were opened and closed, whether a percent sign stands since then, and whether the last character was
the last `@`. -/
structure Seen where
  colons : Nat := 0
  opened : Bool := false
  closed : Bool := false
  percent : Bool := false
  endsInAt : Bool := false

def Seen.add (s : Seen) (c : Char) : Except UriError Seen :=
  let s := { s with endsInAt := c == '@' }
  if c = '%' then .ok { s with percent := true }
  else if !isAuthorityChar c then .error .character
  else if c = ':' then
    if maxColons ≤ s.colons then .error .authority else .ok { s with colons := s.colons + 1 }
  else if c = '[' then
    if s.percent || s.opened then .error .authority else .ok { s with opened := true }
  else if c = ']' then
    if !s.opened || s.closed then .error .authority
    else .ok { s with closed := true, colons := 0, percent := false }
  else if c = '@' then .ok { s with colons := 0, percent := false }
  else .ok s

/-- Whether an authority may end here: brackets match, at most one colon is left for a port,
something follows the `@`, and percent signs stand in user names only. -/
def Seen.mayEnd (s : Seen) : Bool :=
  s.opened == s.closed && s.colons ≤ 1 && !s.endsInAt && !s.percent

def readAuthority (cs : List Char) : Except UriError (List Char × List Char) := do
  if cs.isEmpty then throw .empty
  let authority := cs.takeWhile fun c => !isAuthorityEnd c
  let seen ← authority.foldlM Seen.add {}
  if seen.mayEnd then return (authority, cs.drop authority.length) else throw .authority

def readPath (cs : List Char) : Except UriError (List Char × Option (List Char)) :=
  let path := cs.takeWhile fun c => !(c == '?' || c == '#')
  if !path.all isPathChar then .error .character
  else match cs.drop path.length with
    | '?' :: rest =>
      let query := rest.takeWhile (· ≠ '#')
      if query.all isQueryChar then .ok (path, some query) else .error .character
    | _ => .ok (path, none)

def ofAuthority (cs : List Char) : Uri := ⟨none, some (String.ofList cs), "", none⟩

def withPath (u : Uri) (cs : List Char) : Except UriError Uri := do
  let (path, query) ← readPath cs
  return { u with
    path := if path.isEmpty then "/" else String.ofList path, query := query.map String.ofList }

def readSingle (c : Char) : Except UriError Uri :=
  if c = '/' ∨ c = '*' then .ok ⟨none, none, String.ofList [c], none⟩
  else do
    let (authority, rest) ← readAuthority [c]
    if rest.isEmpty then return ofAuthority authority else throw .character

def readFull (cs : List Char) : Except UriError Uri := do
  let (scheme, cs) ← splitScheme cs
  let (authority, rest) ← readAuthority cs
  match scheme with
  | none => if rest.isEmpty then return ofAuthority authority else throw .format
  | some scheme =>
    if authority.isEmpty then throw .format
    withPath ⟨some scheme, some (String.ofList authority), "", none⟩ rest

def parse (text : String) : Except UriError Uri :=
  if maxLength < text.utf8ByteSize then .error .tooLong
  else match text.toList with
    | [] => .error .empty
    | '/' :: rest =>
      if rest.isEmpty then readSingle '/' else withPath ⟨none, none, "", none⟩ ('/' :: rest)
    | [c] => if c.toNat < 128 then readSingle c else readFull [c]
    | cs => readFull cs

def render (u : Uri) : String :=
  (match u.scheme with
    | some s => s ++ "://"
    | none => "") ++
  u.authority.getD "" ++ u.path ++
  match u.query with
  | some q => "?" ++ q
  | none => ""

def afterFirstAt (authority : String) : String :=
  let cs := authority.toList
  match cs.dropWhile (· ≠ '@') with
  | _ :: rest => String.ofList rest
  | [] => authority

def port? (u : Uri) : Option Nat := do
  let cs := (← u.authority).toList
  if !cs.contains ':' then none
  let digits := (cs.reverse.takeWhile (· ≠ ':')).reverse
  let digits := match digits with
    | '+' :: rest => rest
    | cs => cs
  if digits.isEmpty ∨ !digits.all Char.isDigit then none
  let n := digits.foldl (fun n c => n * 10 + (c.toNat - 48)) 0
  if n ≤ 65535 then some n else none

end Uri

end Tunnel
