/-!
# Punycode

Text as ASCII: its ASCII characters, a hyphen, and then where the others stand. Each step to the next
place is a number in digits of which the last tells itself from the others by a threshold that adapts.
What is written can be read back; a text whose numbers grow beyond 32 bits is refused.
-/
namespace Tunnel.Punycode

def base : Nat := 36

def lowest : Nat := 1

def highest : Nat := 26

def firstCode : Nat := 128

def firstBias : Nat := 72

def threshold (weight bias : Nat) : Nat :=
  if weight ≤ bias then lowest
  else if bias + highest ≤ weight then highest
  else weight - bias

/-- Halves a step as often as it is large, and counts the digits that this takes off. -/
def reduce (delta weight : Nat) : Nat × Nat :=
  if 455 < delta then reduce (delta / 35) (weight + base) else (delta, weight)
termination_by delta

/-- The bias after a step; `count` characters have been placed, and `first` says whether this is the
first step. -/
def adapt (delta count : Nat) (first : Bool) : Nat :=
  let delta := if first then delta / 700 else delta / 2
  let (delta, weight) := reduce (delta + delta / count) 0
  weight + base * delta / (delta + 38)

def digit (n : Nat) : Char :=
  if n < 26 then Char.ofNat (97 + n) else Char.ofNat (22 + n)

def value? (c : Char) : Option Nat :=
  if 'a' ≤ c ∧ c ≤ 'z' then some (c.toNat - 97)
  else if 'A' ≤ c ∧ c ≤ 'Z' then some (c.toNat - 65)
  else if c.isDigit then some (c.toNat - 22)
  else none

def digits (n weight bias : Nat) : List Char :=
  let t := threshold weight bias
  if t ≤ n ∧ 0 < t then
    digit (t + (n - t) % (base - t)) :: digits ((n - t) / (base - t)) (weight + base) bias
  else [digit n]
termination_by n
decreasing_by
  have h : (n - threshold weight bias) / (base - threshold weight bias) ≤
      n - threshold weight bias := Nat.div_le_self ..
  omega

/-- What has been written: the digits, the step to the next place, the bias, and how many characters
have been placed. -/
structure Writer where
  output : List Char
  delta : Nat
  bias : Nat
  placed : Nat
  first : Bool

def Writer.pass (n : Nat) (w : Writer) (c : Char) : Writer :=
  if c.toNat < n then { w with delta := w.delta + 1 }
  else if c.toNat = n then
    ⟨w.output ++ digits w.delta base w.bias, 0, adapt w.delta (w.placed + 1) w.first,
      w.placed + 1, false⟩
  else w

/-- Writes where the characters of ascending code points stand; `n` is the one before them. -/
def Writer.write (text : List Char) : Nat → List Nat → Writer → Writer
  | _, [], w => w
  | n, m :: ms, w =>
    let w := { w with delta := w.delta + (m - n) * (w.placed + 1) }
    let w := text.foldl (Writer.pass m) w
    Writer.write text (m + 1) ms { w with delta := w.delta + 1 }

def codes (text : List Char) : List Nat :=
  (((text.map Char.toNat).filter (firstCode ≤ ·)).mergeSort).eraseDups

def encode (text : List Char) : List Char :=
  let ascii := text.filter fun c => c.toNat < firstCode
  let start := if ascii.isEmpty then [] else ascii ++ ['-']
  (Writer.write text firstCode (codes text) ⟨start, 0, firstBias, ascii.length, true⟩).output

/-- What has been read: the text, the code point and the place of the last character, and the number
under way with the weight and the factor of its next digit and where it began. -/
structure Reader where
  output : List Char
  code : Nat := firstCode
  place : Nat := 0
  bias : Nat := firstBias
  weight : Nat := base
  factor : Nat := 1
  began : Nat := 0

def maxStep : Nat := UInt32.size - 1

def Reader.placeNext (r : Reader) : Option Reader :=
  let count := r.output.length + 1
  let code := r.code + r.place / count
  let i := r.place % count
  if code.isValidChar then
    some
      { output := r.output.take i ++ Char.ofNat code :: r.output.drop i
        code, place := i + 1
        bias := adapt (r.place - r.began) count (r.began = 0)
        began := i + 1 }
  else none

/-- Reads a digit. The last digit of a number places a character. -/
def Reader.read (r : Reader) (c : Char) : Option Reader :=
  match value? c with
  | none => none
  | some v =>
    let place := r.place + v * r.factor
    let t := threshold r.weight r.bias
    if maxStep < place then none
    else if t ≤ v then
      some { r with place, weight := r.weight + base, factor := r.factor * (base - t) }
    else Reader.placeNext { r with place }

def splitDigits (cs : List Char) : List Char × List Char :=
  let after := (cs.reverse.takeWhile (· ≠ '-')).reverse
  let ascii := cs.take (cs.length - after.length - 1)
  if ascii.isEmpty then ([], cs) else (ascii, after)

def decode (cs : List Char) : Option (List Char) :=
  let (ascii, rest) := splitDigits cs
  if ascii.any (fun c => firstCode ≤ c.toNat) then none
  else
    match rest.foldlM Reader.read { output := ascii } with
    | some r => if r.weight = base then some r.output else none
    | none => none

end Tunnel.Punycode
