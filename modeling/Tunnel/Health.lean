import Tunnel.Pairing.Store

/-!
# Health

Whoever watches the connector sees the latest state of its connection, and learns once that there are
states not yet seen, however many there were. A watch on a publisher that is gone still tells of the
last state, once, and then that there is nothing to wait for. Whether the connector is paired is asked
anew for each snapshot, and a store that cannot be read counts as holding no pairing.
-/
namespace Tunnel

inductive ConnectionState where
  | disconnected
  | connecting
  | connected
  deriving DecidableEq, Repr

def ConnectionState.name : ConnectionState → String
  | .disconnected => "disconnected"
  | .connecting => "connecting"
  | .connected => "connected"

/-- The latest published value, whether the watcher has yet to see it, and whether more may come. -/
structure Watch (α : Type) where
  current : α
  unseen : Bool
  live : Bool

namespace Watch

variable {α : Type}

def new (a : α) : Watch α := ⟨a, false, true⟩

def publish (w : Watch α) (a : α) : Watch α :=
  { w with current := a, unseen := true }

def drop (w : Watch α) : Watch α :=
  { w with live := false }

inductive Poll (β : Type) where
  | changed (b : β)
  | pending
  | ended
  deriving DecidableEq, Repr

def poll (w : Watch α) : Poll α × Watch α :=
  if w.unseen then (.changed w.current, { w with unseen := false })
  else if w.live then (.pending, w)
  else (.ended, w)

end Watch

structure HealthSnapshot where
  status : String
  paired : Bool
  connected : Bool
  deriving DecidableEq, Repr

structure HealthReporter where
  store : PairingStore
  watch : Watch ConnectionState

namespace HealthReporter

def isPaired (h : HealthReporter) : Bool := h.store.isPaired

def isConnected (h : HealthReporter) : Bool := h.watch.current = .connected

def snapshot (h : HealthReporter) : HealthSnapshot :=
  ⟨"UP", h.isPaired, h.isConnected⟩

def changed (h : HealthReporter) : Watch.Poll HealthSnapshot × HealthReporter :=
  let (p, watch) := h.watch.poll
  let h := { h with watch }
  match p with
  | .changed _ => (.changed h.snapshot, h)
  | .pending => (.pending, h)
  | .ended => (.ended, h)

def publish (h : HealthReporter) (s : ConnectionState) : HealthReporter :=
  { h with watch := h.watch.publish s }

def drop (h : HealthReporter) : HealthReporter :=
  { h with watch := h.watch.drop }

def save (h : HealthReporter) (u : PairingUpdate) : Except StoreError Unit × HealthReporter :=
  let (r, store) := h.store.save u
  (r, { h with store })

end HealthReporter

end Tunnel
