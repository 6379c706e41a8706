import Tunnel.Json.Error

/-!
# Reading fields

The values of fields, with what is wrong if they are not the expected ones, and the two shapes of a
record: an object, or a list of its fields in order. A field of an object must not come twice. At the
end of a list a field with a usual value may be missing, and nothing may follow the last one.
-/
namespace Tunnel.Field

open Json (Cause)

def text : Json → Except Cause String
  | .text s => .ok s
  | v => .error (.wrongType v.found "a string")

def natural (bound : Nat) (name : String) : Json → Except Cause Nat
  | .integer i =>
    if 0 ≤ i ∧ i.toNat < bound then .ok i.toNat else .error (.wrongValue (.integer i) name)
  | v => .error (.wrongType v.found name)

def word64 (v : Json) : Except Cause UInt64 :=
  UInt64.ofNat <$> natural UInt64.size "u64" v

def word16 (v : Json) : Except Cause UInt16 :=
  UInt16.ofNat <$> natural UInt16.size "u16" v

def optionalText : Json → Except Cause (Option String)
  | .null => .ok none
  | v => some <$> text v

def once {α : Type} (name : String) (before : Option α) (value : Except Cause α) :
    Except Cause (Option α) :=
  match before with
  | some _ => .error (.repeatedField name)
  | none => some <$> value

def require {α : Type} (name : String) : Option α → Except Cause α
  | some a => .ok a
  | none => .error (.missingField name)

/-- The next item of a list. `index` items came before it. -/
def item {α : Type} (expected : String) (index : Nat) (read : Json → Except Cause α) :
    List Json → Except Cause (α × List Json)
  | [] => .error (.wrongLength index expected)
  | v :: rest => do return (← read v, rest)

/-- The next item of a list, or a value in its stead at the end. -/
def itemOr {α : Type} (default : α) (read : Json → Except Cause α) :
    List Json → Except Cause (α × List Json)
  | [] => .ok (default, [])
  | v :: rest => do return (← read v, rest)

def noMore (count : Nat) : List Json → Except Cause Unit
  | [] => .ok ()
  | rest =>
    let items := if count = 1 then "1 element" else s!"{count} elements"
    .error (.wrongLength (count + rest.length) (items ++ " in sequence"))

def ofMembers {σ : Type} (step : σ → String → Json → Except Cause σ) :
    σ → List (String × Json) → Except Cause σ
  | s, [] => .ok s
  | s, (name, v) :: rest => do ofMembers step (← step s name v) rest

end Tunnel.Field
