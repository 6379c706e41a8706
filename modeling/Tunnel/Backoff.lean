import Tunnel.Duration

/-!
# Reconnect delays

The delay before a reconnect doubles from attempt to attempt up to a cap, and there is a budget of
attempts, after which there is no delay any more. The factor on the base is counted in 32 bits: where a
power of two does not fit, it is the largest number that does, and from there the delay grows no more.
-/
namespace Tunnel

structure ReconnectPolicy where
  base : Duration := .ofMillis 1000
  cap : Duration := .ofMillis 30000
  maxAttempts : UInt32 := 50
  deriving DecidableEq, Repr

namespace ReconnectPolicy

/-- The factor on the base: a power of two while it fits 32 bits, and then the largest number
that does. -/
def factor (attempts : UInt32) : Nat :=
  if attempts.toNat + 1 < 32 then Nat.pow 2 (attempts.toNat + 1) else UInt32.size - 1

/-- The delay after a number of attempts, unless that is the whole budget. -/
def delayFor (p : ReconnectPolicy) (attempts : UInt32) : Option Duration :=
  if p.maxAttempts ≤ attempts then none
  else some ((p.base.scale (factor attempts)).min p.cap)

end ReconnectPolicy

end Tunnel
