/-!
# UTF-8

Text as bytes and bytes as text. Bytes that are no text are kept apart as broken runs, one for each
longest piece that could still have begun a character. A byte that breaks a character under way may
begin the next one.
-/
namespace Tunnel.Utf8

def encode (s : String) : List UInt8 :=
  s.toList.flatMap String.utf8EncodeChar

/-- One unit of a byte sequence: a character, or a run of bytes that is none. -/
inductive Glyph where
  | char (c : Char)
  | broken (width : Nat)
  deriving DecidableEq, Repr

def Glyph.width : Glyph → Nat
  | .char c => c.utf8Size
  | .broken w => w

/-- A character of which some bytes have been read: the range of the next byte, how many follow
it, the bits so far and the bytes so far. -/
structure Begun where
  low : UInt8
  high : UInt8
  left : Nat
  bits : Nat
  seen : Nat

def lead (b : UInt8) : Glyph ⊕ Begun :=
  if b < 0x80 then .inl (.char (Char.ofNat b.toNat))
  else if b < 0xC2 then .inl (.broken 1)
  else if b < 0xE0 then .inr ⟨0x80, 0xBF, 0, b.toNat % 32, 1⟩
  else if b = 0xE0 then .inr ⟨0xA0, 0xBF, 1, 0, 1⟩
  else if b = 0xED then .inr ⟨0x80, 0x9F, 1, 13, 1⟩
  else if b < 0xF0 then .inr ⟨0x80, 0xBF, 1, b.toNat % 16, 1⟩
  else if b = 0xF0 then .inr ⟨0x90, 0xBF, 2, 0, 1⟩
  else if b < 0xF4 then .inr ⟨0x80, 0xBF, 2, b.toNat % 8, 1⟩
  else if b = 0xF4 then .inr ⟨0x80, 0x8F, 2, 4, 1⟩
  else .inl (.broken 1)

/-- The units read so far, last first, and the character that is under way. -/
structure Decoder where
  done : List Glyph
  begun : Option Begun

def Decoder.start (done : List Glyph) (b : UInt8) : Decoder :=
  match lead b with
  | .inl g => ⟨g :: done, none⟩
  | .inr p => ⟨done, some p⟩

/-- Reads one byte. A byte that cannot go on breaks the character under way and starts anew. -/
def Decoder.step (d : Decoder) (b : UInt8) : Decoder :=
  match d.begun with
  | none => .start d.done b
  | some p =>
    if p.low ≤ b && b ≤ p.high then
      let bits := p.bits * 64 + b.toNat % 64
      match p.left with
      | 0 => ⟨.char (Char.ofNat bits) :: d.done, none⟩
      | n + 1 => ⟨d.done, some ⟨0x80, 0xBF, n, bits, p.seen + 1⟩⟩
    else .start (.broken p.seen :: d.done) b

def glyphs (bytes : List UInt8) : List Glyph :=
  let d := bytes.foldl Decoder.step ⟨[], none⟩
  match d.begun with
  | none => d.done.reverse
  | some p => (Glyph.broken p.seen :: d.done).reverse

def ofText (s : String) : List Glyph :=
  s.toList.map .char

def Glyph.shown : Glyph → Char
  | .char c => c
  | .broken _ => '\uFFFD'

def decodeLossy (bytes : List UInt8) : String :=
  String.ofList ((glyphs bytes).map Glyph.shown)

def decode? (bytes : List UInt8) : Option String :=
  let gs := glyphs bytes
  if gs.all (fun | .char _ => true | .broken _ => false) then
    some (String.ofList (gs.map Glyph.shown))
  else none

end Tunnel.Utf8
