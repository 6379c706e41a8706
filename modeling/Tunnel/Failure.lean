import Tunnel.Duration
import Tunnel.Outbound
import Tunnel.Text.Quoted

/-!
# Failures

A failure has a text and, behind it, causes with texts of their own. It is described in one line, in
which no cause is repeated: a cause is left out if its text already occurs in what the failure and the
causes before it have come to, be it as a part of a longer text.
-/
namespace Tunnel

structure Failure where
  text : String
  causes : List String := []
  deriving DecidableEq, Repr

def occursIn (part : List Char) : List Char → Bool
  | [] => part.isEmpty
  | c :: cs => part.isPrefixOf (c :: cs) || occursIn part cs

namespace Failure

def addCause (message cause : String) : String :=
  if occursIn cause.toList message.toList then message else message ++ ": " ++ cause

def describe (f : Failure) : String :=
  f.causes.foldl addCause f.text

def badParts (cause : String) : Failure := ⟨"builder error", [cause]⟩

def badUrl (u : Url) (cause : String) : Failure :=
  ⟨s!"builder error for url ({u.render})", [cause]⟩

def unreachable (u : Url) (reason : String) : Failure :=
  ⟨s!"error sending request for url ({u.render})",
    ["client error (Connect)", "tcp connect error", reason]⟩

def timedOut (limit : Duration) : Failure :=
  ⟨s!"Timed out after {limit.describe} waiting on the target", []⟩

end Failure

def OutboundError.failure : OutboundError → Failure
  | .url base path e =>
    ⟨s!"Cannot resolve path {Quoted.quote path} against {Quoted.quote base}: {e.message}", []⟩
  | .method text => ⟨s!"Invalid HTTP method {Quoted.quote text}", []⟩
  | .body fault => ⟨s!"Request body is not valid base64: {fault.message}", [fault.message]⟩
  | .noHost u => .badUrl u "URL scheme is not allowed"
  | .fieldName => .badParts "invalid HTTP header name"
  | .fieldValue => .badParts "failed to parse header value"

def Outbound.refusal? (o : Outbound) : Option Failure :=
  if o.url.scheme ≠ "http" ∧ o.url.scheme ≠ "https" then
    some (.badUrl o.url "URL scheme is not allowed")
  else match Uri.parse o.url.render with
    | .error _ => some (.badUrl o.url "Parsed Url is not a valid Uri")
    | .ok _ => none

end Tunnel
