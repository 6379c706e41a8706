import Tunnel.Http
import Tunnel.Message
import Tunnel.Uri
import Tunnel.Url.Parser

/-!
# Outbound requests

The HTTP request that a command asks for, as it is handed to the HTTP client: its URL resolved, its
method in upper case, without the header fields that describe a connection, and its body decoded. User
name and password of the URL become a header field. What is wrong with a command is found in the order
in which the request is built, and the first fault is told.
-/
namespace Tunnel

inductive OutboundError where
  | url (base path : String) (e : UrlError)
  | method (text : String)
  | body (fault : Base64.Fault)
  | noHost (u : Url)
  | fieldName
  | fieldValue
  deriving DecidableEq, Repr

/-- The header fields that describe a connection and not a request. -/
def hopByHop : List String :=
  ["connection", "content-length", "host", "keep-alive", "proxy-connection", "te", "trailer",
    "transfer-encoding", "upgrade"]

def isHopByHop (name : String) : Bool :=
  hopByHop.any fun hop => sameName hop name

def resolveUrl (base path : String) : Except OutboundError Url :=
  match Url.parse base with
  | .error e => .error (.url base path e)
  | .ok b =>
    match b.join path with
    | .error e => .error (.url base path e)
    | .ok u => .ok u

structure Outbound where
  method : String
  url : Url
  headers : Headers
  body : Option (List UInt8)
  deriving DecidableEq, Repr

namespace Outbound

/-- The header fields of a command that go to the client, in order. The first fault counts. -/
def sentFields : List (String × String) → Except OutboundError (List (String × String))
  | [] => .ok []
  | (name, value) :: rest =>
    if isHopByHop name then sentFields rest
    else match Http.fieldName? name with
      | none => .error .fieldName
      | some n =>
        if Http.isFieldValue value then do return (n, value) :: (← sentFields rest)
        else .error .fieldValue

def decoded? (s : String) : Option String :=
  Utf8.decode? (Percent.decode (Utf8.encode s))

def userInfo? (u : Url) : Option (String × Option String) := do
  let a ← u.authority
  let name ← decoded? a.username
  let password := a.password.bind decoded?
  if name.isEmpty && password.isNone then none else some (name, password)

def withoutUserInfo (u : Url) : Url :=
  { u with authority := u.authority.map fun a => { a with username := "", password := none } }

def basicAuthorization (name : String) (password : Option String) : String × String :=
  ("authorization", "Basic " ++ Base64.encode (Utf8.encode (name ++ ":" ++ password.getD "")))

def ofTarget (t : Target) : Except OutboundError Outbound := do
  let url ← resolveUrl t.baseUrl t.path
  let method ← match Http.method? t.method with
    | some m => pure m
    | none => throw (.method t.method)
  let body ← match t.bodyBytes with
    | .ok b => pure b
    | .error fault => throw (.body fault)
  if url.host?.isNone then throw (.noHost url)
  let fields ← sentFields t.headers.fields
  match userInfo? url with
  | some (name, password) =>
    return ⟨method, withoutUserInfo url, ⟨basicAuthorization name password :: fields⟩, body⟩
  | none => return ⟨method, url, ⟨fields⟩, body⟩

end Outbound

end Tunnel
