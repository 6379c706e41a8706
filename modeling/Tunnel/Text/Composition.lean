import Tunnel.Text.Composition.Table

/-!
# Composed characters

A character with marks can be written in more than one way. In the composed form every part that has
a character of its own is written as that character, and marks that do not touch each other stand in
the order of their classes.
-/
namespace Tunnel.Composition

structure ClassRange where
  low : Nat
  high : Nat
  value : Nat
  deriving Repr

def classRanges (start : Nat) : List Nat → List ClassRange
  | gap :: more :: value :: rest =>
    ⟨start + gap, start + gap + more, value⟩ :: classRanges (start + gap + more + 1) rest
  | _ => []

def classes : Array ClassRange := (classRanges 0 Table.classes).toArray

structure Pair where
  whole : Nat
  first : Nat
  second : Nat
  deriving Repr

def pairsFrom (start : Nat) : List Nat → List Pair
  | gap :: first :: second :: rest =>
    ⟨start + gap, first, second⟩ :: pairsFrom (start + gap) rest
  | _ => []

def pairs : Array Pair := (pairsFrom 0 Table.pairs).toArray

def firstMark : Nat := 0x300

def classOf (c : Char) : Nat :=
  let n := c.toNat
  if n < firstMark then 0
  else ((classes.find? fun r => r.low ≤ n && n ≤ r.high).map ClassRange.value).getD 0

/-- Korean syllables are composed by a rule: of a first consonant, a vowel, and perhaps a last
consonant. -/
def syllableBase : Nat := 0xAC00

def vowels : Nat := 21

def lasts : Nat := 28

def compose? (a b : Char) : Option Char :=
  let x := a.toNat
  let y := b.toNat
  if 0x1100 ≤ x ∧ x < 0x1113 ∧ 0x1161 ≤ y ∧ y < 0x1176 then
    some (Char.ofNat (syllableBase + ((x - 0x1100) * vowels + (y - 0x1161)) * lasts))
  else if syllableBase ≤ x ∧ x < 0xD7A4 ∧ (x - syllableBase) % lasts = 0 ∧
      0x11A7 < y ∧ y < 0x11C3 then
    some (Char.ofNat (x + (y - 0x11A7)))
  else (pairs.find? fun p => p.first == x && p.second == y).map fun p => Char.ofNat p.whole

def syllableParts (n : Nat) : List Char :=
  let i := n - syllableBase
  let last := i % lasts
  [Char.ofNat (0x1100 + i / lasts / vowels), Char.ofNat (0x1161 + i / lasts % vowels)] ++
    if last = 0 then [] else [Char.ofNat (0x11A7 + last)]

def parts : Nat → Char → List Char
  | 0, c => [c]
  | depth + 1, c =>
    let n := c.toNat
    if syllableBase ≤ n ∧ n < 0xD7A4 then syllableParts n
    else match pairs.find? fun p => p.whole == n with
      | some p => parts depth (Char.ofNat p.first) ++ [Char.ofNat p.second]
      | none => [c]

def maxParts : Nat := 8

/-- Puts a mark behind those before it that have a higher class; the text is given last character
first. -/
def insertMark (c : Char) : List Char → List Char
  | [] => [c]
  | d :: rest => if classOf c < classOf d then d :: insertMark c rest else c :: d :: rest

/-- Adds a character to a text whose marks are in order; the text is given last character first. -/
def addOrdered (text : List Char) (c : Char) : List Char :=
  if classOf c = 0 then c :: text else insertMark c text

def decompose (cs : List Char) : List Char :=
  ((cs.flatMap (parts maxParts)).foldl addOrdered []).reverse

/-- What has been composed so far: what is done, last character first, the character that marks
still join, the marks after it that did not, last first, and the class of the last of them. -/
structure Composer where
  done : List Char := []
  base : Option Char := none
  after : List Char := []
  last : Nat := 0

def Composer.text (m : Composer) : List Char :=
  m.after ++ m.base.toList ++ m.done

/-- Adds a character. A mark joins the base unless a mark of its class or a higher one, or another
base, stands between. -/
def Composer.add (m : Composer) (c : Char) : Composer :=
  let k := classOf c
  let joined := m.base.bind fun b =>
    if m.after.isEmpty ∨ m.last < k then compose? b c else none
  match joined, m.base with
  | some whole, _ => { m with base := some whole }
  | none, none => if k = 0 then { m with base := some c } else { m with done := c :: m.done }
  | none, some _ =>
    if k = 0 then { done := m.text, base := some c }
    else { m with after := c :: m.after, last := k }

def compose (cs : List Char) : List Char :=
  if cs.all (fun c => c.toNat < firstMark) then cs
  else ((decompose cs).foldl Composer.add {}).text.reverse

end Tunnel.Composition
