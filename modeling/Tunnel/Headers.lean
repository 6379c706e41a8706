import Tunnel.Json.Error

/-!
# Header fields

An ordered list of names and values in which a name may occur more than once. Names are the same if they
differ in ASCII case only. On the wire a name appears once, where it first occurs, with its value or the
list of its values. `grouped` says so of fields that are to be written, and `ofGroups` makes fields of
what was read. A list may hold more fields than the header map of a client has room for.
-/
namespace Tunnel

def sameName (a b : String) : Bool :=
  a.toLower == b.toLower

structure Headers where
  fields : List (String × String)
  deriving DecidableEq, Repr, Inhabited

namespace Headers

def empty : Headers := ⟨[]⟩

def append (h : Headers) (name value : String) : Headers :=
  ⟨h.fields ++ [(name, value)]⟩

def size (h : Headers) : Nat := h.fields.length

def isEmpty (h : Headers) : Bool := h.fields.isEmpty

def getAll (h : Headers) (name : String) : List String :=
  (h.fields.filter fun f => sameName f.1 name).map Prod.snd

def get? (h : Headers) (name : String) : Option String :=
  (h.getAll name).head?

def addToGroup (name value : String) : List (String × List String) → List (String × List String)
  | [] => [(name, [value])]
  | (n, vs) :: rest =>
    if sameName n name then (n, vs ++ [value]) :: rest
    else (n, vs) :: addToGroup name value rest

/-- The values of each name, in the spelling and at the place of its first occurrence. -/
def grouped (h : Headers) : List (String × List String) :=
  h.fields.foldl (fun groups f => addToGroup f.1 f.2 groups) []

def ofGroups (groups : List (String × List String)) : Headers :=
  ⟨groups.flatMap fun g => g.2.map fun v => (g.1, v)⟩

/-- The values of a group on the wire: a single one stands alone. -/
def wireValue : List String → Json
  | [v] => .text v
  | vs => .array (vs.map .text)

def toJson (h : Headers) : Json :=
  .object (h.grouped.map fun g => (g.1, wireValue g.2))

/-- The field lines of a response as a client gathers them: names in lower case, the values of one
name together where it first occurs, bytes that are no text replaced. -/
def ofResponse (lines : List (String × List UInt8)) : Headers :=
  ofGroups (Headers.mk (lines.map fun l => (l.1.toLower, Utf8.decodeLossy l.2))).grouped

end Headers

end Tunnel
