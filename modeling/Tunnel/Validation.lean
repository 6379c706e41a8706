import Tunnel.Text.Blank
import Tunnel.Url.Parser

/-!
# Checks on what users enter

A relay URL has the scheme of a websocket; numbers are positive and fit 64 bits; texts are not blank. A
refusal says what was expected. A number may follow a plus sign, and nothing else may stand beside its
digits.
-/
namespace Tunnel.Validation

inductive Refusal where
  | url (error : UrlError)
  | scheme (found : String)
  | zero
  | notInteger
  | blank
  deriving DecidableEq, Repr

def Refusal.message : Refusal → String
  | .url error => error.message
  | .scheme found => s!"Relay URL scheme must be ws or wss, not {found}"
  | .zero => "Value must be greater than zero"
  | .notInteger => "Value must be a positive integer"
  | .blank => "Value must not be empty"

def relayUrl (text : String) : Except Refusal Url :=
  match Url.parse text with
  | .error e => .error (.url e)
  | .ok u =>
    if u.scheme = "ws" ∨ u.scheme = "wss" then .ok u else .error (.scheme u.scheme)

def digits? (cs : List Char) : Option Nat :=
  if cs.isEmpty ∨ cs.any (!·.isDigit) then none
  else some (cs.foldl (fun n c => n * 10 + (c.toNat - 48)) 0)

/-- A positive number of 64 bits; a plus sign may precede it. -/
def positive (text : String) : Except Refusal Nat :=
  let cs := match text.toList with
    | '+' :: rest => rest
    | cs => cs
  match digits? cs with
  | some 0 => .error .zero
  | some n => if n < UInt64.size then .ok n else .error .notInteger
  | none => .error .notInteger

def nonBlank (text : String) : Except Refusal Unit :=
  if Blank.isBlankText text then .error .blank else .ok ()

end Tunnel.Validation
