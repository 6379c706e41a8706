/-!
# Similar words

How alike two words are, as a fraction: the shares of their characters that meet in the same order at
nearby places, raised for a common beginning. It decides which name a caller may have meant by one that
does not exist. Scores are compared as fractions, without rounding.
-/
namespace Tunnel.Similarity

structure Score where
  num : Nat
  den : Nat
  deriving DecidableEq, Repr

def Score.le (a b : Score) : Bool := a.num * b.den ≤ b.num * a.den

/-- What has met so far: the places in the second word, how many characters met, how many of them
out of order, and the place of the last. -/
structure Meeting where
  places : List Nat := []
  count : Nat := 0
  crossed : Nat := 0
  last : Nat := 0

def Meeting.place? (m : Meeting) (range : Nat) (b : List Char) (i : Nat) (c : Char) : Option Nat :=
  (List.range b.length).find? fun j =>
    i ≤ j + range && j ≤ i + range && b[j]? == some c && !m.places.contains j

def Meeting.add (range : Nat) (b : List Char) (m : Meeting) (x : Char × Nat) : Meeting :=
  match m.place? range b x.2 x.1 with
  | none => m
  | some j => ⟨j :: m.places, m.count + 1, m.crossed + (if j < m.last then 1 else 0), j⟩

/-- The mean of three shares: of the first word that meets, of the second, and of what meets that is
in order. -/
def jaro (a b : List Char) : Score :=
  if a.isEmpty ∧ b.isEmpty then ⟨1, 1⟩
  else if a.isEmpty ∨ b.isEmpty then ⟨0, 1⟩
  else if a.length = 1 ∧ b.length = 1 then ⟨if a = b then 1 else 0, 1⟩
  else
    let range := max a.length b.length / 2 - 1
    let m := a.zipIdx.foldl (Meeting.add range b) {}
    if m.count = 0 then ⟨0, 1⟩
    else
      ⟨m.count * m.count * (a.length + b.length) + (m.count - m.crossed) * a.length * b.length,
        3 * a.length * b.length * m.count⟩

def commonBeginning : List Char → List Char → Nat
  | a :: as, b :: bs => if a = b then commonBeginning as bs + 1 else 0
  | _, _ => 0

/-- How alike two words are: each common character at the beginning takes a tenth off what is
lacking. -/
def score (a b : String) : Score :=
  let j := jaro a.toList b.toList
  let p := commonBeginning a.toList b.toList
  if 10 ≤ p then ⟨1, 1⟩ else ⟨10 * j.num + p * (j.den - j.num), 10 * j.den⟩

/-- Words are similar from this score on, which is not itself enough. -/
def threshold : Score := ⟨8, 10⟩

/-- Of some words those that are similar to a word, the most similar last. -/
def similar (word : String) (words : List String) : List String :=
  let scored := (words.map fun w => (score word w, w)).filter fun s => !s.1.le threshold
  (scored.mergeSort fun a b => a.1.le b.1).map Prod.snd

def best? (word : String) (words : List String) : Option String :=
  (similar word words).getLast?

end Tunnel.Similarity
