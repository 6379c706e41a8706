import Tunnel.Url.Domain.MappingTable

/-!
# Mapped characters in domain names

A domain name may be entered in many spellings. Letters are written small, variants of characters become
the plain ones, some characters are left out, and some may not be entered at all. Characters of ASCII
are mapped by rule and all others by a table of runs, in which neighbours have images that go together.
-/
namespace Tunnel.Domain.Mapping

/-- A run of characters that are mapped to one character each: the first, how many follow it, the
distance between them, the first image, and the distance between the images. -/
structure Run where
  first : Nat
  more : Nat
  stride : Nat
  image : Nat
  imageStride : Nat
  deriving Repr

/-- Runs from numbers. Neighbours have images that are neighbours, every second character has an
image among every second one, or neighbours have the same image. -/
def runsFrom (start : Nat) : List Nat → List Run
  | gap :: more :: kind :: image :: rest =>
    let run : Run := match kind with
      | 0 => ⟨start + gap, more, 1, image, 1⟩
      | 1 => ⟨start + gap, more, 2, image, 2⟩
      | _ => ⟨start + gap, more, 1, image, 0⟩
    run :: runsFrom (start + gap) rest
  | _ => []

def runs : Array Run := (runsFrom 0 MappingTable.runs).toArray

def Run.image? (r : Run) (n : Nat) : Option Nat :=
  let i := (n - r.first) / r.stride
  if r.first ≤ n ∧ i ≤ r.more ∧ r.first + i * r.stride = n then some (r.image + i * r.imageStride)
  else none

structure Spelling where
  first : Nat
  more : Nat
  text : List Nat
  deriving Repr

def spellingsFrom (start : Nat) : List Nat → List Spelling
  | gap :: more :: size :: rest =>
    ⟨start + gap, more, rest.take size⟩ :: spellingsFrom (start + gap) (rest.drop size)
  | _ => []
termination_by l => l.length
decreasing_by simp only [List.length_drop, List.length_cons]; omega

def spellings : Array Spelling := (spellingsFrom 0 MappingTable.spellings).toArray

def mapOther (c : Char) : Option (List Char) :=
  let n := c.toNat
  if Ranges.contains MappingTable.ignored n then some []
  else match runs.findSome? fun r => r.image? n with
    | some image => some [Char.ofNat image]
    | none =>
      match spellings.find? fun s => s.first ≤ n && n ≤ s.first + s.more with
      | some s => some (s.text.map Char.ofNat)
      | none => if Ranges.contains MappingTable.allowed n then some [c] else none

def map (c : Char) : Option (List Char) :=
  if c.toNat < 128 then some [c.toLower] else mapOther c

def mapAll (cs : List Char) : Option (List Char) := do
  return (← cs.mapM map).flatten

def isPlain (c : Char) : Bool := map c = some [c]

end Tunnel.Domain.Mapping
