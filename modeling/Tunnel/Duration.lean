/-!
# Spans of time

A span is a whole number of nanoseconds. It has an upper bound, as many seconds as there are words of 64
bits, at which multiplication stops. A span is described in the largest unit of which it has one, with
as many decimal places as it needs.
-/
namespace Tunnel

structure Duration where
  nanos : Nat
  bounded : nanos < 0x10000000000000000 * 1000000000 := by omega
  deriving DecidableEq, Repr

namespace Duration

def perSecond : Nat := 1000000000

def perMilli : Nat := 1000000

def perMicro : Nat := 1000

def longest : Duration := ⟨0x10000000000000000 * 1000000000 - 1, by decide⟩

def ofNanos (n : Nat) : Duration :=
  if h : n < 0x10000000000000000 * 1000000000 then ⟨n, h⟩ else longest

def ofMillis (n : Nat) : Duration := ofNanos (n * perMilli)

def ofSeconds (n : Nat) : Duration := ofNanos (n * perSecond)

instance : Inhabited Duration := ⟨ofNanos 0⟩

def scale (d : Duration) (factor : Nat) : Duration := ofNanos (d.nanos * factor)

def min (a b : Duration) : Duration := if a.nanos ≤ b.nanos then a else b

def seconds (d : Duration) : Nat := d.nanos / perSecond

def subsecond (d : Duration) : Nat := d.nanos % perSecond

def millis (d : Duration) : Nat := d.nanos / perMilli

/-- A number with as many decimal places as it needs, in units of `unit` nanoseconds. -/
def inUnits (nanos unit : Nat) : String :=
  let places := (Nat.toDigits 10 unit).length - 1
  let digits := Nat.toDigits 10 (nanos % unit)
  let padded := List.replicate (places - digits.length) '0' ++ digits
  let kept := (padded.reverse.dropWhile (· = '0')).reverse
  toString (nanos / unit) ++ (if nanos % unit = 0 then "" else "." ++ String.ofList kept)

/-- A span in the largest unit of which it has one. -/
def describe (d : Duration) : String :=
  if perSecond ≤ d.nanos then inUnits d.nanos perSecond ++ "s"
  else if perMilli ≤ d.nanos then inUnits d.nanos perMilli ++ "ms"
  else if perMicro ≤ d.nanos then inUnits d.nanos perMicro ++ "µs"
  else inUnits d.nanos 1 ++ "ns"

end Duration

end Tunnel
