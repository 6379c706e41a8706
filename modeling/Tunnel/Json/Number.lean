import Tunnel.Json.Cursor

/-!
# Numbers in a document

A number without point and exponent that fits 64 bits is an integer. Any other is collected as a
significand of 64 bits and a power of ten; digits that do not fit count only for their place. The result
is one multiplication or division in floating point, so it need not be the number nearest to what was
written.
-/
namespace Tunnel.Json

open Utf8 (Glyph)

def digit? : Glyph → Option Nat
  | .char c => if 48 ≤ c.toNat ∧ c.toNat ≤ 57 then some (c.toNat - 48) else none
  | .broken _ => none

/-- Reads digits into a significand while it stays below `2 ^ 64`: the significand, the count of
digits read and what is left. -/
def significandFrom (value count offset : Nat) : List Glyph → Nat × Nat × Cursor
  | [] => (value, count, ⟨[], offset⟩)
  | g :: rest =>
    match digit? g with
    | none => (value, count, ⟨g :: rest, offset⟩)
    | some d =>
      if value * 10 + d < UInt64.size then
        significandFrom (value * 10 + d) (count + 1) (offset + 1) rest
      else (value, count, ⟨g :: rest, offset⟩)

def skipDigits (count offset : Nat) : List Glyph → Nat × Cursor
  | [] => (count, ⟨[], offset⟩)
  | g :: rest =>
    match digit? g with
    | none => (count, ⟨g :: rest, offset⟩)
    | some _ => skipDigits (count + 1) (offset + 1) rest

/-- A significand times a power of ten in floating point: one multiplication or division, after
divisions by the largest power while the exponent is too small. There is no result above the
largest number. -/
def scale (f : Float) (exponent : Int) : Option Float :=
  if 308 < exponent then if f == 0 then some f else none
  else if exponent < -308 then
    if f == 0 then some f else scale (f / 1e308) (exponent + 308)
  else if 0 ≤ exponent then
    let r := f * Float.ofScientific 1 false exponent.toNat
    if r.isInf then none else some r
  else some (f / Float.ofScientific 1 false (-exponent).toNat)
termination_by (-exponent).toNat

def scaled (negative : Bool) (significand : Nat) (exponent : Int) : Reader Json := fun c =>
  match scale (UInt64.ofNat significand).toFloat exponent with
  | none => .error (c.fault .numberTooLarge)
  | some f => .ok (.real (if negative then (-f).toBits else f.toBits), c)

def maxExponent : Nat := 0x7FFFFFFF

/-- The digits of an exponent: its value, or where it grows too large. -/
def exponentFrom (value offset : Nat) : List Glyph → Except Cursor (Nat × Cursor)
  | [] => .ok (value, ⟨[], offset⟩)
  | g :: rest =>
    match digit? g with
    | none => .ok (value, ⟨g :: rest, offset⟩)
    | some d =>
      if value * 10 + d ≤ maxExponent then exponentFrom (value * 10 + d) (offset + 1) rest
      else .error ⟨rest, offset + 1⟩

def exponentSign (c : Cursor) : Bool × Cursor :=
  match c.rest with
  | .char '+' :: rest => (false, ⟨rest, c.offset + 1⟩)
  | .char '-' :: rest => (true, ⟨rest, c.offset + 1⟩)
  | _ => (false, c)

/-- Reads an exponent after its letter, and so completes the number. An exponent beyond all bounds
leaves zero as zero and otherwise makes the number too large, or zero if it is negative. -/
def exponent (negative : Bool) (significand : Nat) (start : Int) : Reader Json := fun c =>
  let (below, c) := exponentSign c
  match c.rest with
  | [] => .error (c.fault .endInValue)
  | g :: rest =>
    match digit? g with
    | none => .error ⟨.badNumber, some (c.offset + 1)⟩
    | some d =>
      match exponentFrom d (c.offset + 1) rest with
      | .ok (n, c) => scaled negative significand (if below then start - n else start + n) c
      | .error c =>
        if significand ≠ 0 ∧ ¬ below then .error (c.fault .numberTooLarge)
        else scaled negative 0 0 (skipDigits 0 c.offset c.rest).2

def optionalExponent (negative : Bool) (significand : Nat) (start : Int) : Reader Json := fun c =>
  match c.rest with
  | .char 'e' :: rest => exponent negative significand start ⟨rest, c.offset + 1⟩
  | .char 'E' :: rest => exponent negative significand start ⟨rest, c.offset + 1⟩
  | _ => scaled negative significand start c

def fraction (negative : Bool) (significand : Nat) (start : Int) : Reader Json := fun c =>
  let (value, count, c) := significandFrom significand 0 c.offset c.rest
  let (skipped, c') := skipDigits 0 c.offset c.rest
  if count = 0 ∧ skipped = 0 then
    if c.rest.isEmpty then .error (c.faultNext .endInValue) else .error (c.faultNext .badNumber)
  else optionalExponent negative value (start - count) c'

def afterInteger (negative : Bool) (significand : Nat) (skipped : Nat) : Reader Json := fun c =>
  match c.rest with
  | .char '.' :: rest => fraction negative significand skipped ⟨rest, c.offset + 1⟩
  | .char 'e' :: rest => exponent negative significand skipped ⟨rest, c.offset + 1⟩
  | .char 'E' :: rest => exponent negative significand skipped ⟨rest, c.offset + 1⟩
  | _ =>
    if skipped ≠ 0 then scaled negative significand skipped c
    else if ¬ negative then .ok (.integer significand, c)
    else if significand = 0 ∨ 0x8000000000000000 < significand then scaled true significand 0 c
    else .ok (.integer (-significand), c)

/-- Reads a number after its sign. A leading zero stands alone. -/
def number (negative : Bool) : Reader Json := fun c =>
  match c.rest with
  | [] => .error (c.fault .endInValue)
  | g :: rest =>
    match digit? g with
    | none => .error ⟨.badNumber, some (c.offset + 1)⟩
    | some 0 =>
      let c := Cursor.mk rest (c.offset + 1)
      match rest.head?.bind digit? with
      | some _ => .error (c.faultNext .badNumber)
      | none => afterInteger negative 0 0 c
    | some d =>
      let (value, _, c) := significandFrom d 1 (c.offset + 1) rest
      let (skipped, c) := skipDigits 0 c.offset c.rest
      afterInteger negative value skipped c

end Tunnel.Json
