import Tunnel.Message

/-!
# Tallies

A tally says how many requests of each label are counted. A label that is counted no more has no entry,
so the number of entries is that of the labels of requests that have not ended. Labels may come more
than once at a time.
-/
namespace Tunnel

structure Tally where
  entries : List (RequestId × Nat)
  deriving DecidableEq, Repr

namespace Tally

def empty : Tally := ⟨[]⟩

def addTo (id : RequestId) : List (RequestId × Nat) → List (RequestId × Nat)
  | [] => [(id, 1)]
  | e :: entries => if e.1 = id then (id, e.2 + 1) :: entries else e :: addTo id entries

def removeFrom (id : RequestId) : List (RequestId × Nat) → List (RequestId × Nat)
  | [] => []
  | e :: entries =>
    if e.1 = id then if e.2 - 1 = 0 then entries else (id, e.2 - 1) :: entries
    else e :: removeFrom id entries

def add (t : Tally) (id : RequestId) : Tally := ⟨addTo id t.entries⟩

def remove (t : Tally) (id : RequestId) : Tally := ⟨removeFrom id t.entries⟩

def totalIn : List (RequestId × Nat) → Nat
  | [] => 0
  | e :: entries => e.2 + totalIn entries

def total (t : Tally) : Nat := totalIn t.entries

def contains (t : Tally) (id : RequestId) : Bool := t.entries.any fun e => e.1 = id

end Tally

end Tunnel
