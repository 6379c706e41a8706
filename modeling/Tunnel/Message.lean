import Tunnel.Base64
import Tunnel.Headers
import Tunnel.Json.Printer

/-!
# Relay messages

Every frame on the relay connection is one message. A request asks for one HTTP call; its response comes
back as a start, numbered chunks and an end, or as a failure. Heartbeats carry the sender's clock, on
which nothing depends: those that the connector sends itself carry zero here.

A message is written as an object with its kind first, then its fields in a fixed order. An absent body
and the usual encoding of a body are left out.
-/
namespace Tunnel

structure RequestId where
  text : String
  deriving DecidableEq, Repr, Inhabited

def RequestId.describe (id : RequestId) : String :=
  s!"RequestId({id.text})"

def RequestId.le (a b : RequestId) : Bool :=
  !(b.text < a.text)

inductive BodyEncoding where
  | utf8
  | base64
  deriving DecidableEq, Repr, Inhabited

structure Target where
  method : String
  path : String
  baseUrl : String
  headers : Headers
  body : Option String
  bodyEncoding : BodyEncoding
  deriving DecidableEq, Repr, Inhabited

def Target.bodyBytes (t : Target) : Except Base64.Fault (Option (List UInt8)) :=
  match t.body, t.bodyEncoding with
  | none, _ => .ok none
  | some body, .utf8 => .ok (some (Utf8.encode body))
  | some body, .base64 => some <$> Base64.decode body

structure Request where
  id : RequestId
  target : Target
  timeoutMs : UInt64
  deriving DecidableEq, Repr, Inhabited

inductive Message where
  | request (r : Request)
  | start (id : RequestId) (status : UInt16) (headers : Headers)
  | chunk (id : RequestId) (data : String) (index : UInt64)
  | finish (id : RequestId)
  | failure (id : RequestId) (error : String)
  | ping (ts : UInt64)
  | pong (ts : UInt64)
  deriving DecidableEq, Repr, Inhabited

namespace Message

inductive Kind where
  | request
  | start
  | chunk
  | finish
  | failure
  | ping
  | pong
  deriving DecidableEq, Repr

/-- All kinds, in the order in which an error lists them. -/
def Kind.all : List Kind :=
  [.request, .start, .chunk, .finish, .failure, .ping, .pong]

def Kind.name : Kind → String
  | .request => "HTTP_REQUEST"
  | .start => "HTTP_RESPONSE_START"
  | .chunk => "HTTP_RESPONSE_CHUNK"
  | .finish => "HTTP_RESPONSE_END"
  | .failure => "HTTP_RESPONSE_ERROR"
  | .ping => "PING"
  | .pong => "PONG"

def kind : Message → Kind
  | .request _ => .request
  | .start .. => .start
  | .chunk .. => .chunk
  | .finish _ => .finish
  | .failure .. => .failure
  | .ping _ => .ping
  | .pong _ => .pong

def requestId? : Message → Option RequestId
  | .request r => some r.id
  | .start id _ _ => some id
  | .chunk id _ _ => some id
  | .finish id => some id
  | .failure id _ => some id
  | .ping _ => none
  | .pong _ => none

def isTerminal : Message → Bool
  | .finish _ => true
  | .failure .. => true
  | _ => false

def chunkOf (id : RequestId) (bytes : List UInt8) (index : UInt64) : Message :=
  .chunk id (Base64.encode bytes) index

end Message

/-- A target on the wire. An absent body and the usual encoding are left out. -/
def Target.toJson (t : Target) : Json :=
  .object <|
    [("method", .text t.method), ("path", .text t.path), ("baseUrl", .text t.baseUrl),
      ("headers", t.headers.toJson)] ++
    (match t.body with
      | none => []
      | some body => [("body", .text body)]) ++
    (match t.bodyEncoding with
      | .utf8 => []
      | .base64 => [("bodyEncoding", .text "base64")])

namespace Message

def fields : Message → List (String × Json)
  | .request r =>
    [("requestId", .text r.id.text), ("target", r.target.toJson),
      ("timeoutMs", .integer r.timeoutMs.toNat)]
  | .start id status headers =>
    [("requestId", .text id.text), ("statusCode", .integer status.toNat),
      ("headers", headers.toJson)]
  | .chunk id data index =>
    [("requestId", .text id.text), ("data", .text data), ("index", .integer index.toNat)]
  | .finish id => [("requestId", .text id.text)]
  | .failure id error => [("requestId", .text id.text), ("error", .text error)]
  | .ping ts => [("ts", .integer ts.toNat)]
  | .pong ts => [("ts", .integer ts.toNat)]

def toJson (m : Message) : Json :=
  .object (("type", .text m.kind.name) :: m.fields)

def encode (m : Message) : String :=
  m.toJson.render

end Message

end Tunnel
