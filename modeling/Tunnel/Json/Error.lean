import Tunnel.Json.Basic
import Tunnel.Decimal
import Tunnel.Text.Quoted
import Tunnel.Text.Utf8

/-!
# What can be wrong with a document

A fault is a cause and, unless it was found in values already read, the number of bytes read when it was
found. Against the document that becomes a line and a column. A cause is either in the text, which is no
JSON then, or in its values, which are named as an error names them.
-/
namespace Tunnel.Json

inductive Found where
  | null
  | bool (b : Bool)
  | integer (i : Int)
  | real (bits : UInt64)
  | text (s : String)
  | sequence
  | map
  deriving Repr

def found : Json → Found
  | .null => .null
  | .bool b => .bool b
  | .integer i => .integer i
  | .real bits => .real bits
  | .text s => .text s
  | .array _ => .sequence
  | .object _ => .map

def Found.describe : Found → String
  | .null => "null"
  | .bool b => s!"boolean `{b}`"
  | .integer i => s!"integer `{i}`"
  | .real bits => s!"floating point `{Decimal.ofBits bits}`"
  | .text s => s!"string {Quoted.quote s}"
  | .sequence => "sequence"
  | .map => "map"

/-- Why a document is refused: it is no JSON, or its values are not the expected ones. -/
inductive Cause where
  | endInValue
  | endInArray
  | endInObject
  | endInText
  | noColon
  | noArrayComma
  | noObjectComma
  | noWord
  | noValue
  | badEscape
  | badNumber
  | numberTooLarge
  | badCodePoint
  | controlCharacter
  | nameNotText
  | loneSurrogate
  | trailingComma
  | trailingCharacters
  | endOfEscape
  | tooDeep
  | wrongType (found : Found) (expected : String)
  | wrongValue (found : Found) (expected : String)
  | wrongLength (length : Nat) (expected : String)
  | unknownName (name : String) (expected : String)
  | missingField (name : String)
  | repeatedField (name : String)
  | noAlternative (expected : String)
  deriving Repr

def Cause.message : Cause → String
  | .endInValue => "EOF while parsing a value"
  | .endInArray => "EOF while parsing a list"
  | .endInObject => "EOF while parsing an object"
  | .endInText => "EOF while parsing a string"
  | .noColon => "expected `:`"
  | .noArrayComma => "expected `,` or `]`"
  | .noObjectComma => "expected `,` or `\x7d`"
  | .noWord => "expected ident"
  | .noValue => "expected value"
  | .badEscape => "invalid escape"
  | .badNumber => "invalid number"
  | .numberTooLarge => "number out of range"
  | .badCodePoint => "invalid unicode code point"
  | .controlCharacter => "control character (\\u0000-\\u001F) found while parsing a string"
  | .nameNotText => "key must be a string"
  | .loneSurrogate => "lone leading surrogate in hex escape"
  | .trailingComma => "trailing comma"
  | .trailingCharacters => "trailing characters"
  | .endOfEscape => "unexpected end of hex escape"
  | .tooDeep => "recursion limit exceeded"
  | .wrongType found expected => s!"invalid type: {found.describe}, expected {expected}"
  | .wrongValue found expected => s!"invalid value: {found.describe}, expected {expected}"
  | .wrongLength length expected => s!"invalid length {length}, expected {expected}"
  | .unknownName name expected => s!"unknown variant `{name}`, expected {expected}"
  | .missingField name => s!"missing field `{name}`"
  | .repeatedField name => s!"duplicate field `{name}`"
  | .noAlternative expected => s!"data did not match any variant of {expected}"

/-- A cause and the number of bytes read when it was found. -/
structure Fault where
  cause : Cause
  offset : Option Nat
  deriving Repr

/-- A place in a document; lines count from one, columns are bytes of the line. -/
structure Position where
  line : Nat
  column : Nat
  deriving DecidableEq, Repr

def Position.after (p : Position) : Nat → List Utf8.Glyph → Position
  | n, .char '\n' :: rest => if n = 0 then p else Position.after ⟨p.line + 1, 0⟩ (n - 1) rest
  | n, g :: rest =>
    if n ≤ g.width then ⟨p.line, p.column + n⟩
    else Position.after ⟨p.line, p.column + g.width⟩ (n - g.width) rest
  | _, [] => p

def Fault.message (document : List Utf8.Glyph) (f : Fault) : String :=
  match f.offset with
  | none => f.cause.message
  | some n =>
    let p := Position.after ⟨1, 0⟩ n document
    s!"{f.cause.message} at line {p.line} column {p.column}"

end Tunnel.Json
