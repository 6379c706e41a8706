import Tunnel.Text.Printable

/-!
# Quoted text in messages

A text between double quotes, with the quote, the backslash and whatever has no shape of its own
escaped: a few controls by a letter, all else by its number in hexadecimal. It is how a text is shown to
developers.
-/
namespace Tunnel.Quoted

def hex (n : Nat) : List Char :=
  Nat.toDigits 16 n

def escape (c : Char) : List Char :=
  match c with
  | '\x00' => ['\\', '0']
  | '\t' => ['\\', 't']
  | '\r' => ['\\', 'r']
  | '\n' => ['\\', 'n']
  | '"' => ['\\', '"']
  | '\\' => ['\\', '\\']
  | c =>
    if Printable.isShown c then [c]
    else ['\\', 'u', '\x7b'] ++ hex c.toNat ++ ['\x7d']

def quote (s : String) : String :=
  String.ofList ('"' :: s.toList.flatMap escape ++ ['"'])

end Tunnel.Quoted
