import Tunnel.Text.Ranges

/-!
# Direction in domain names

Where a domain name has a character that is written from right to left, each of its labels must be
written in one direction: it starts with a letter, holds only characters that go with its direction,
and ends, marks aside, with a letter or a digit. The tables part the characters that may stand in a
domain name from each other; others may be counted with their neighbours.
-/
namespace Tunnel.Domain

inductive Direction where
  | left
  | right
  | digit
  | arabicDigit
  | neutral
  | mark
  deriving DecidableEq, Repr

namespace Direction

def rights : Array (Nat × Nat) :=
  Ranges.ofText <| String.join [
    "1470 0 1 0 2 0 2 0 9 36 19 0 2 0 1 0 13 47 34 2 1 100 15 1 7 1 10 22 1 29 29 88 11 57 9 1 4 ",
    "0 3 23 4 0 9 0 3 0 7 40 5 49 16 41 62184 16 688 0 2444 283 4 224 15 37 10 164 6 74 10 483 ",
    "28 15 31 32 240 41 3 35 47 69 11 48 4 112 55305 207 82 33 7 1010"]

def arabicDigits : Array (Nat × Nat) :=
  Ranges.ofText "1632 9 1 1 67267 9 294 30"

def digits : Array (Nat × Nat) :=
  Ranges.ofText "1776 9 64487 26"

def neutrals : Array (Nat × Nat) :=
  Ranges.ofText <| String.join [
    "161 54 31 0 449 1 7 13 2 27 1 16 117 0 128 0 403 5 118 1 1 1 1 0 1 1 90 0 115 0 10 0 268 3 ",
    "504 1 7 0 245 0 257 7 125 6 448 0 250 3 1106 9 102 0 666 1 318 0 20 26 309 5 152 33 1548 ",
    "181 66 73 60 427 69 25 1 789 1 338 256 767 229 5 14 6 256 516 3 24 15 0 6 0 5 2 96 0 90 0 ",
    "196 37 7130 63 22160 54 326 2 99 0 10 1 128 33 102 0 159 3 12 1 58 3 754 1 20567 572 69 1 ",
    "698 0 62 76 3 16 1918 0 537 6 558 0 354 7 377 19 1530 12 2408 28 20464 0 23581 752 760 88 3 ",
    "0 186 86 4008 0 3056 575 61 2 61 0 178 2458"]

def marks : Array (Nat × Nat) :=
  Ranges.ofText <| String.join [
    "768 111 275 6 263 44 1 0 1 1 1 1 1 0 72 10 48 20 16 0 101 6 2 5 2 1 1 3 35 0 30 26 91 10 58 ",
    "8 9 0 24 3 1 8 1 2 1 4 43 2 59 8 42 56 55 0 1 0 4 7 4 0 3 6 10 1 29 0 58 0 4 3 8 0 20 1 26 ",
    "4 57 0 4 16 30 1 3 0 11 1 57 0 4 7 4 0 20 1 22 7 58 0 2 0 1 3 8 9 11 1 30 0 61 0 12 0 50 0 ",
    "3 0 55 0 1 2 5 16 11 1 29 0 58 0 15 1 20 1 28 1 57 1 4 3 8 0 20 1 29 0 72 0 7 4 90 0 2 6 12 ",
    "7 98 0 2 8 11 6 73 1 27 0 1 0 1 0 55 13 1 4 1 1 5 47 9 0 102 3 1 5 1 1 2 1 25 1 4 2 16 3 13 ",
    "0 2 1 6 0 15 0 703 2 946 2 29 1 30 1 30 1 67 6 8 0 2 10 9 0 167 1 34 0 118 2 4 1 9 0 6 2 ",
    "219 1 2 0 58 0 1 8 1 0 2 7 6 12 48 83 48 0 1 4 1 0 5 0 40 8 12 1 32 3 2 1 1 2 56 0 1 1 3 0 ",
    "1 2 58 7 2 1 152 2 1 12 1 6 4 0 6 0 3 1 198 63 720 32 3070 2 141 0 96 31 554 3 107 1 30164 ",
    "3 1 9 32 1 80 1 272 0 3 0 4 0 25 1 5 0 151 1 26 17 13 0 38 7 25 10 46 2 48 0 2 3 2 1 39 0 ",
    "67 5 2 1 2 1 12 0 8 0 47 0 51 0 1 2 2 1 5 1 1 0 42 1 8 0 238 0 2 0 4 0 20272 0 769 15 973 0 ",
    "226 0 149 4 1670 14 40 7 165 1 573 3 65 4 317 1 77 5 70 10 49 3 123 0 54 14 41 0 2 1 10 2 ",
    "49 3 2 1 7 0 61 2 36 4 1 7 62 0 12 1 52 8 10 3 2 0 95 2 2 0 1 1 6 0 2 0 157 0 3 7 21 1 57 1 ",
    "3 0 37 14 70 5 13 0 1 0 1 0 14 1 85 7 2 2 1 0 23 0 84 5 1 0 4 1 1 1 238 3 6 1 1 1 27 1 85 7 ",
    "2 0 1 1 106 0 1 0 2 5 1 0 101 2 2 3 1 4 259 8 1 1 256 1 1 0 4 0 144 7 4 0 32 5 2 1 40 5 2 3 ",
    "8 0 9 5 2 2 46 12 1 1 198 0 1 2 1 0 201 13 84 21 2 6 1 1 1 1 122 20 1 0 72 1 3 0 1 0 347 1 ",
    "11 1 52 4 5 0 1 0 23 0 5349 0 6 14 11464 11 3 2 2496 4 59 6 1048 0 63 3 81 0 19640 1 4705 ",
    "70 544 2 17 7 2 6 30 3 148 2 1979 54 4 49 8 0 14 0 22 20 1360 143 160 6 375 0 61 3 508 3 ",
    "254 1 243 0 2 0 7 1 5 0 474 6 109 6"]

def of (c : Char) : Direction :=
  let n := c.toNat
  if n < 128 then
    if c.isAlpha then .left else if c.isDigit then .digit else .neutral
  else if Ranges.contains rights n then .right
  else if Ranges.contains arabicDigits n then .arabicDigit
  else if Ranges.contains digits n then .digit
  else if Ranges.contains neutrals n then .neutral
  else if Ranges.contains marks n then .mark
  else .left

def isRightward (d : Direction) : Bool :=
  d == .right || d == .arabicDigit

def isOneWay (label : List Direction) : Bool :=
  let ending := (label.reverse.dropWhile (· == .mark)).head?
  match label.head? with
  | none => true
  | some .right =>
    label.all (· != .left) &&
      [some .right, some .digit, some .arabicDigit].contains ending &&
      !(label.contains .digit && label.contains .arabicDigit)
  | some .left =>
    label.all (fun d => d != .right && d != .arabicDigit) &&
      [some .left, some .digit].contains ending
  | some _ => false

end Direction

end Tunnel.Domain
