import Tunnel.Url.Host

/-!
# URLs

A URL that has been read, in its normal form. The path of a URL without authority that does not start
with a slash is opaque, and no relative reference but a fragment resolves against it. The text of a URL
is its parts behind their marks; where a path would be taken for an authority, a dot keeps it apart.
-/
namespace Tunnel

/-- What stands between the double slash and the path of a URL. -/
structure Authority where
  username : String
  password : Option String
  host : Host
  port : Option Nat
  deriving DecidableEq, Repr

structure Url where
  scheme : String
  authority : Option Authority
  path : String
  query : Option String
  fragment : Option String
  deriving DecidableEq, Repr

def Authority.userInfo (a : Authority) : String :=
  match a.password with
  | some p => a.username ++ ":" ++ p ++ "@"
  | none => if a.username.isEmpty then "" else a.username ++ "@"

def Authority.render (a : Authority) : String :=
  a.userInfo ++ a.host.render ++
    match a.port with
    | some p => ":" ++ toString p
    | none => ""

namespace Url

def isOpaque (u : Url) : Bool :=
  u.authority.isNone && u.path.toList.head? != some '/'

/-- What stands before the path. A path that starts with two slashes would be taken for an
authority, so a dot segment keeps it apart. -/
def beforePath (u : Url) : String :=
  u.scheme ++ ":" ++
    match u.authority with
    | some a => "//" ++ a.render
    | none =>
      match u.path.toList with
      | '/' :: '/' :: _ => "/."
      | _ => ""

def part (mark : String) : Option String → String
  | some s => mark ++ s
  | none => ""

def render (u : Url) : String :=
  u.beforePath ++ u.path ++ part "?" u.query ++ part "#" u.fragment

def host? (u : Url) : Option Host :=
  u.authority.bind fun a => if a.host = .empty then none else some a.host

end Url

end Tunnel
