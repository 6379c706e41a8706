/-!
# Shortest decimals

A binary floating point number is written with the fewest decimal digits that still lie
closer to it than to any other such number. The work is exact: a number is a fraction of
natural numbers, and so are the ends of the interval of reals that round to it.
-/
namespace Tunnel.Decimal

/-- A positive number `mantissa * 2 ^ exponent`, where `narrow` says that the number below it is
only half as far away as the one above. -/
structure Binary where
  mantissa : Nat
  exponent : Int
  narrow : Bool

def Binary.ofBits (bits : UInt64) : Binary :=
  let fraction : Nat := bits.toNat % 0x10000000000000
  let biased : Nat := bits.toNat / 0x10000000000000 % 0x800
  if biased = 0 then ⟨fraction, -1074, false⟩
  else ⟨fraction + 0x10000000000000, (biased : Int) - 1075, fraction = 0 ∧ 1 < biased⟩

/-- Quarters of the unit in the last place: the number and the ends of its interval, over a
common denominator. -/
structure Interval where
  value : Nat
  low : Nat
  high : Nat
  denominator : Nat
  closed : Bool

/-- The reals that round to a number. The ends belong to it if its mantissa is even. -/
def Binary.interval (x : Binary) : Interval :=
  let scale := Nat.pow 2 x.exponent.toNat
  let denominator := 4 * Nat.pow 2 (-x.exponent).toNat
  let value := 4 * x.mantissa
  ⟨value * scale, (value - if x.narrow then 1 else 2) * scale, (value + 2) * scale,
    denominator, x.mantissa % 2 = 0⟩

def Interval.contains (i : Interval) (digits : Nat) (power : Int) : Bool :=
  let n := digits * Nat.pow 10 power.toNat * i.denominator
  let s := Nat.pow 10 (-power).toNat
  if i.closed then i.low * s ≤ n && n ≤ i.high * s
  else i.low * s < n && n < i.high * s

/-- How far a decimal is from the number, in the same unit for every decimal of one power. -/
def Interval.distance (i : Interval) (digits : Nat) (power : Int) : Nat :=
  let n := digits * Nat.pow 10 power.toNat * i.denominator
  let v := i.value * Nat.pow 10 (-power).toNat
  (n - v) + (v - n)

/-- How many decimal digits a natural number has; zero has none. -/
def length (n : Nat) : Nat :=
  if n = 0 then 0 else (Nat.toDigits 10 n).length

/-- The place of the first digit: the power of ten just above the number. -/
def Interval.magnitude (i : Interval) : Int :=
  let k : Int := length i.value - length i.denominator
  -- the estimate is exact or one too small
  let scaled := i.denominator * Nat.pow 10 k.toNat
  if i.value * Nat.pow 10 (-k).toNat < scaled then k else k + 1

/-- The nearer of the two decimals of `count` digits around the number, if one of them lies in its
interval. -/
def Interval.candidate (i : Interval) (count : Nat) : Option (Nat × Int) :=
  let power := i.magnitude - count
  let below := i.value * Nat.pow 10 (-power).toNat / (i.denominator * Nat.pow 10 power.toNat)
  let above := below + 1
  match i.contains below power, i.contains above power with
  | false, false => none
  | true, false => some (below, power)
  | false, true => some (above, power)
  | true, true =>
    let b := i.distance below power
    let a := i.distance above power
    if b < a || (b == a && below % 2 == 0) then some (below, power) else some (above, power)

def stripZeros : Nat → Nat × Int → Nat × Int
  | 0, d => d
  | fuel + 1, (digits, power) =>
    if digits % 10 = 0 ∧ digits ≠ 0 then stripZeros fuel (digits / 10, power + 1)
    else (digits, power)

/-- The shortest decimal that reads back as the number, as digits and a power of ten. -/
def Binary.shortest (x : Binary) : Nat × Int :=
  let i := x.interval
  match (List.range 17).findSome? fun n => i.candidate (n + 1) with
  | some d => stripZeros 20 d
  | none => (0, 0)

/-- A number as text. The point stands among the digits while the number is below `10 ^ 16` and
not below `10 ^ -5`; otherwise an exponent with its sign follows. A whole number ends in `.0`. -/
def render (digits : Nat) (power : Int) : String :=
  let ds := String.ofList (Nat.toDigits 10 digits)
  let zeros (n : Nat) := String.ofList (List.replicate n '0')
  let point : Int := ds.length + power
  if 0 ≤ power ∧ point ≤ 16 then ds ++ zeros power.toNat ++ ".0"
  else if 0 < point ∧ point ≤ 16 then
    String.ofList (ds.toList.take point.toNat) ++ "." ++ String.ofList (ds.toList.drop point.toNat)
  else if -5 < point ∧ point ≤ 0 then "0." ++ zeros (-point).toNat ++ ds
  else
    let e := point - 1
    let mark := if 0 ≤ e then "e+" ++ toString e.toNat else "e-" ++ toString (-e).toNat
    match ds.toList with
    | [d] => String.ofList [d] ++ mark
    | d :: rest => String.ofList (d :: '.' :: rest) ++ mark
    | [] => mark

def ofBits (bits : UInt64) : String :=
  let sign := if bits.toNat / 0x8000000000000000 = 1 then "-" else ""
  if bits.toNat % 0x8000000000000000 = 0 then sign ++ "0.0"
  else
    let d := (Binary.ofBits bits).shortest
    sign ++ render d.1 d.2

end Tunnel.Decimal
