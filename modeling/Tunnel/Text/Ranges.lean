/-!
# Sets of characters as ranges

A set of code points is a list of inclusive ranges, which need not be sorted to be searched. Large
tables are written as text: for each range the gap before it and then its length less one, in decimal,
parted by spaces.
-/
namespace Tunnel.Ranges

def contains (table : Array (Nat × Nat)) (n : Nat) : Bool :=
  table.any fun r => r.1 ≤ n && n ≤ r.2

def numbers (text : String) : List Nat :=
  (text.splitOn " ").filterMap String.toNat?

def ofGaps (start : Nat) : List Nat → List (Nat × Nat)
  | gap :: len :: rest =>
    (start + gap, start + gap + len) :: ofGaps (start + gap + len + 1) rest
  | _ => []

def ofText (text : String) : Array (Nat × Nat) :=
  (ofGaps 0 (numbers text)).toArray

end Tunnel.Ranges
