/-!
# Blank characters

The characters of the Unicode property White_Space. A text is blank if it has no other characters, and
in particular if it is empty; that is what counts as missing where something must be entered.
-/
namespace Tunnel.Blank

def isBlank (c : Char) : Bool :=
  let n := c.toNat
  (9 ≤ n && n ≤ 13) || n == 0x20 || n == 0x85 || n == 0xA0 || n == 0x1680 ||
    (0x2000 ≤ n && n ≤ 0x200A) || n == 0x2028 || n == 0x2029 || n == 0x202F ||
    n == 0x205F || n == 0x3000

def isBlankText (s : String) : Bool :=
  s.toList.all isBlank

end Tunnel.Blank
