import Tunnel.Text.Composition

/-!
# Joiners in domain names

Two invisible characters say whether letters join. They may stand only where they make a difference:
after a sign that suppresses a vowel, and the one that parts letters also between letters that would
join. The tables part the characters that may stand in a domain name from each other; others may be
counted with their neighbours.
-/
namespace Tunnel.Domain.Joining

def lefts : Array (Nat × Nat) :=
  Ranges.ofText "43122 0 25178 0 9 0 552 0 714 0"

def duals : Array (Nat × Nat) :=
  Ranges.ofText <| String.join [
    "1568 0 5 0 1 0 1 4 4 12 1 6 1 1 35 1 9 14 18 37 1 1 9 0 1 0 1 1 40 2 2 0 18 2 5 3 1 8 1 0 1 ",
    "0 1 1 31 10 3 14 2 3 1 0 2 2 2 5 74 32 86 4 2 0 1 9 1 0 10 0 1 3 2 0 29 0 2 4 1 0 16 9 5 1 ",
    "2 5 1 14 3902 0 24 88 14 33 1 0 36757 49 25166 4 14 3 1 4 1 2 10 3 145 0 1 0 3 2 1 1 1 0 2 ",
    "0 28 1 338 32 1 0 415 1 1 1 104 2 1 16 12 2 28 3 2 11 46 0 1 1 4 0 2 1 1 1 1 0 2 0 5 0 ",
    "55639 33"]

def rights : Array (Nat × Nat) :=
  Ranges.ofText <| String.join [
    "1570 3 1 0 1 0 5 3 21 0 40 2 20 17 38 0 2 8 1 0 1 0 2 1 1 0 24 1 32 0 4 4 4 0 9 0 1 0 1 0 2 ",
    "0 29 0 11 2 15 1 4 0 1 1 3 1 198 0 5 1 1 0 10 0 1 2 14 0 1 25 11 0 27 2 1 0 2 1 6 0 66059 0 ",
    "1 0 1 1 3 4 10 0 3 0 2 0 10 0 145 0 1 2 3 0 2 0 1 1 1 0 23 3 373 0 415 0 112 0 32 0 31 1 62 ",
    "2 2 1 2 0 4 1 5 0"]

def transparent : Array (Nat × Nat) :=
  Ranges.ofText <| String.join [
    "768 111 275 6 263 44 1 0 1 1 1 1 1 0 72 10 48 20 16 0 101 6 2 5 2 1 1 3 35 0 30 26 91 10 58 ",
    "8 9 0 24 3 1 8 1 2 1 4 43 2 59 8 42 56 55 0 1 0 4 7 4 0 3 6 10 1 29 0 58 0 4 3 8 0 20 1 26 ",
    "4 57 0 4 16 30 1 3 0 11 1 57 0 4 7 4 0 20 1 22 7 58 0 2 0 1 3 8 9 11 1 30 0 61 0 12 0 50 0 ",
    "3 0 55 0 1 2 5 16 11 1 29 0 58 0 2 0 6 0 5 1 20 1 28 1 57 1 4 3 8 0 20 1 29 0 72 0 7 4 90 0 ",
    "2 6 12 7 98 0 2 8 11 6 73 1 27 0 1 0 1 0 55 13 1 4 1 1 5 47 9 0 102 3 1 5 1 1 2 1 25 1 4 2 ",
    "16 3 13 0 2 1 6 0 15 0 703 2 946 2 29 1 30 1 30 1 67 6 8 0 2 10 9 0 167 1 34 0 118 2 4 1 9 ",
    "0 6 2 219 1 2 0 58 0 1 8 1 0 2 7 6 12 48 83 48 0 1 4 1 0 5 0 40 8 12 1 32 3 2 1 1 2 56 0 1 ",
    "1 3 0 1 2 58 7 2 1 152 2 1 12 1 6 4 0 6 0 3 1 198 63 720 32 3070 2 141 0 96 31 554 3 107 1 ",
    "30164 3 1 9 32 1 80 1 272 0 3 0 4 0 25 1 5 0 151 1 26 17 13 0 38 7 25 10 46 2 48 0 2 3 2 1 ",
    "39 0 67 5 2 1 2 1 12 0 8 0 47 0 51 0 1 2 2 1 5 1 1 0 42 1 8 0 238 0 2 0 4 0 20272 0 769 15 ",
    "973 0 226 0 149 4 1670 14 40 7 165 1 573 3 65 4 317 1 77 5 70 10 49 3 123 0 54 14 41 0 2 1 ",
    "10 2 49 3 2 1 7 0 61 2 36 4 1 7 62 0 12 1 52 8 10 3 2 0 95 2 2 0 1 1 6 0 2 0 157 0 3 7 21 1 ",
    "57 1 3 0 37 14 70 5 13 0 1 0 1 0 14 1 85 7 2 2 1 0 23 0 84 5 1 0 4 1 1 1 238 3 6 1 1 1 27 1 ",
    "85 7 2 0 1 1 106 0 1 0 2 5 1 0 101 0 1 0 2 3 1 4 259 8 1 1 256 1 1 0 4 0 144 7 4 0 32 9 40 ",
    "5 2 3 8 0 9 5 2 2 46 12 1 1 198 0 1 2 1 0 201 13 1 0 82 21 2 6 1 1 1 1 122 20 1 0 72 1 3 0 ",
    "1 0 347 1 11 1 52 4 5 0 1 0 23 0 5349 0 6 14 11464 11 3 2 2496 4 59 6 1048 0 63 3 81 0 ",
    "19640 1 4705 70 544 2 17 7 2 6 30 3 148 2 1979 54 4 49 8 0 14 0 22 20 1360 143 160 6 375 0 ",
    "61 3 508 3 254 1 243 0 2 0 7 1 5 0 474 6 109 7"]

def isTransparent (c : Char) : Bool := Ranges.contains transparent c.toNat

def joinsNext (c : Char) : Bool :=
  Ranges.contains lefts c.toNat || Ranges.contains duals c.toNat

def joinsPrevious (c : Char) : Bool :=
  Ranges.contains rights c.toNat || Ranges.contains duals c.toNat

def viramaClass : Nat := 9

def parter : Char := Char.ofNat 0x200C

def joiner : Char := Char.ofNat 0x200D

/-- Whether a character may stand between what goes before it, nearest first, and what follows. -/
def mayStand (before : List Char) (c : Char) (after : List Char) : Bool :=
  if c = parter ∨ c = joiner then
    match before with
    | [] => false
    | b :: _ =>
      if Composition.classOf b = viramaClass then true
      else if c = joiner then false
      else
        (((before.dropWhile isTransparent).head?.map joinsNext).getD false) &&
          (((after.dropWhile isTransparent).head?.map joinsPrevious).getD false)
  else true

def isPlaced (before : List Char) : List Char → Bool
  | [] => true
  | c :: after => mayStand before c after && isPlaced (c :: before) after

end Tunnel.Domain.Joining
