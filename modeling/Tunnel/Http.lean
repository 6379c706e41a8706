import Tunnel.Text.Utf8

/-!
# Words of HTTP

Methods and the names of header fields are tokens. The value of a header field is any text without
control characters, except for the tab. A name is sent in lower case and has a bounded length; a method
is sent in upper case, whatever the case in which it was given.
-/
namespace Tunnel.Http

def isTokenChar (c : Char) : Bool :=
  c.isAlphanum || "!#$%&'*+-.^_|~".toList.contains c || c == '\x60'

def isToken (s : String) : Bool :=
  !s.isEmpty && s.toList.all isTokenChar

def maxNameLength : Nat := 65535

/-- The name of a header field as it is sent: in lower case. -/
def fieldName? (s : String) : Option String :=
  if isToken s ∧ s.length ≤ maxNameLength then some s.toLower else none

def isValueChar (c : Char) : Bool :=
  c == '\t' || (32 ≤ c.toNat && c.toNat ≠ 127)

def isFieldValue (s : String) : Bool :=
  s.toList.all isValueChar

def method? (s : String) : Option String :=
  if isToken s then some s.toUpper else none

end Tunnel.Http
