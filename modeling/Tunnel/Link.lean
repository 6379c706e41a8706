import Tunnel.Message

/-!
# Links

A link is the write side of one connection. It takes messages while its connection lasts and someone
reads what is written; afterwards it drops them, and it never opens again. To take a message is not to
write it: what was taken stands in a queue, and a link does not learn what became of it.
-/
namespace Tunnel

abbrev LinkId := Nat

structure Link where
  ended : Bool := false
  read : Bool := true
  sent : List Message := []
  deriving DecidableEq, Repr

namespace Link

def isOpen (l : Link) : Bool := !l.ended && l.read

def send (l : Link) (m : Message) : Bool × Link :=
  if l.isOpen then (true, { l with sent := l.sent ++ [m] }) else (false, l)

def close (l : Link) : Link := { l with ended := true }

def dropReader (l : Link) : Link := { l with read := false }

def describe (l : Link) (id : String) : String :=
  s!"Link \x7b id: {id}, open: {l.isOpen} \x7d"

end Link

end Tunnel
