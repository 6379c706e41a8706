import Tunnel.Http
import Tunnel.Pairing
import Tunnel.Uri

/-!
# The handshake with a relay

A connection to a relay starts with a request to upgrade it. The request names the relay and shows the
token. It can fail to be built, for a URL that is no request target or a token that no header field may
hold, and the relay can fail to be reached. The nonce of a connection is random and is left out.
-/
namespace Tunnel

inductive HandshakeError where
  | uri (e : UriError)
  | noHost
  | token
  deriving DecidableEq, Repr

def HandshakeError.reason : HandshakeError → String
  | .uri e => s!"HTTP format error: {e.message}"
  | .noHost => "URL error: No host name in the URL"
  | .token => "token is not a valid header value"

def HandshakeError.message (e : HandshakeError) : String :=
  s!"Relay handshake request could not be built: {e.reason}"

/-- The request that opens a connection, without the nonce of the connection. -/
structure Handshake where
  method : String
  uri : Uri
  fields : List (String × String)
  deriving DecidableEq, Repr

namespace Handshake

def bearer (token : String) : String := s!"Bearer {token}"

def ofCredentials (c : Credentials) : Except HandshakeError Handshake :=
  match Uri.parse c.relayUrl with
  | .error e => .error (.uri e)
  | .ok uri =>
    match uri.authority with
    | none => .error .noHost
    | some authority =>
      if !Http.isFieldValue (bearer c.token) then .error .token
      else .ok
        { method := "GET"
          uri
          fields :=
            [("host", Uri.afterFirstAt authority), ("connection", "Upgrade"),
              ("upgrade", "websocket"), ("sec-websocket-version", "13"),
              ("authorization", bearer c.token)] }

/-- The port to which a handshake is sent: that of its target, or the usual one of its scheme. -/
def port? (h : Handshake) : Option Nat :=
  h.uri.port? <|>
    match h.uri.scheme with
    | some "wss" => some 443
    | some "ws" => some 80
    | _ => none

end Handshake

inductive ReachError where
  | scheme
  | network (reason : String)
  deriving DecidableEq, Repr

def ReachError.message : ReachError → String
  | .scheme => "Failed to connect to relay: URL error: URL scheme not supported"
  | .network reason => s!"Failed to connect to relay: IO error: {reason}"

def Handshake.unreached (h : Handshake) (reason : String) : ReachError :=
  if h.port?.isNone then .scheme else .network reason

end Tunnel
