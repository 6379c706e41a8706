/-!
# JSON values

A value keeps the members of an object in the order they were written, repeated names included.
`normalize` is the form in which names are distinct and sorted, and of a repeated name the last counts.
A number is an integer where it is written as one and fits 64 bits, and otherwise a floating point
number, which is kept as its bits so that values can be compared.
-/
namespace Tunnel

/-- A JSON value. A number is an integer where it is written as one and fits 64 bits, signed or
unsigned, and otherwise a floating point number given by its bits. -/
inductive Json where
  | null
  | bool (b : Bool)
  | integer (i : Int)
  | real (bits : UInt64)
  | text (s : String)
  | array (items : List Json)
  | object (members : List (String × Json))
  deriving Inhabited, Repr, BEq

namespace Json

def setMember (name : String) (v : Json) : List (String × Json) → List (String × Json)
  | [] => [(name, v)]
  | (n, w) :: rest =>
    if name = n then (name, v) :: rest
    else if name < n then (name, v) :: (n, w) :: rest
    else (n, w) :: setMember name v rest

def member? (name : String) (members : List (String × Json)) : Option Json :=
  (members.find? fun m => m.1 = name).map Prod.snd

mutual

/-- The value with the members of every object sorted by name; of repeated names the last
counts. -/
def normalize : Json → Json
  | .array items => .array (normalizeItems items)
  | .object members => .object (normalizeMembers members [])
  | v => v

def normalizeItems : List Json → List Json
  | [] => []
  | v :: rest => normalize v :: normalizeItems rest

def normalizeMembers : List (String × Json) → List (String × Json) → List (String × Json)
  | [], sorted => sorted
  | (name, v) :: rest, sorted => normalizeMembers rest (setMember name (normalize v) sorted)

end

end Json

end Tunnel
