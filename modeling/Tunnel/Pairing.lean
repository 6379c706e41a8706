import Tunnel.Text.Quoted
import Tunnel.Validation

/-!
# Pairing

A connector is paired with its relay by the relay's URL and a token. Both are stored as they were
entered and checked before they are used: a blank text counts as missing then, and the URL must be that
of a relay. Wherever credentials are shown, the token is not.
-/
namespace Tunnel

inductive PairingError where
  | missingRelayUrl
  | missingToken
  | invalidRelayUrl (url : String) (refusal : Validation.Refusal)
  | unavailable (reason : String)

def PairingError.message : PairingError → String
  | .missingRelayUrl => "No relay URL is configured; the connector must be paired"
  | .missingToken => "No relay token is configured; the connector must be paired"
  | .invalidRelayUrl url refusal =>
    s!"Relay URL {Quoted.quote url} is invalid: {refusal.message}"
  | .unavailable reason => s!"Configuration could not be loaded: {reason}"

/-- The URL of a relay and the token that is shown to it. -/
structure Credentials where
  relayUrl : String
  token : String
  deriving DecidableEq, Repr

namespace Credentials

def describe (c : Credentials) : String :=
  let shown := Quoted.quote c.relayUrl
  s!"Credentials \x7b relay_url: {shown}, token: \"<redacted>\" \x7d"

/-- Whether credentials can be used: both are there, and the URL is that of a relay. -/
def validate (c : Credentials) : Except PairingError Unit :=
  if Blank.isBlankText c.relayUrl then .error .missingRelayUrl
  else if Blank.isBlankText c.token then .error .missingToken
  else match Validation.relayUrl c.relayUrl with
    | .ok _ => .ok ()
    | .error refusal => .error (.invalidRelayUrl c.relayUrl refusal)

end Credentials

/-- What is stored of a pairing; what is missing is empty. -/
structure Pairing where
  relayUrl : String := ""
  token : String := ""
  deriving DecidableEq, Repr

structure PairingUpdate where
  relayUrl : Option String := none
  token : Option String := none
  deriving DecidableEq, Repr

namespace Pairing

def isComplete (p : Pairing) : Bool :=
  !p.relayUrl.isEmpty && !p.token.isEmpty

def apply (p : Pairing) (u : PairingUpdate) : Pairing :=
  ⟨u.relayUrl.getD p.relayUrl, u.token.getD p.token⟩

end Pairing

end Tunnel
