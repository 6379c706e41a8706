import Tunnel.Dispatch.Tally
import Tunnel.Link

/-!
# Dispatch

Every request runs as a task of its own. A limit on running tasks is a number of permits, of which a
running task holds one. Beyond the limit a request waits for a permit, first come, first served, or
is turned away. A waiting request is abandoned when the connection it came on ends.

A request that is accepted is a task that has yet to get its first turn; what it does then, and in
later turns, is up to the permits and to its connection. A task that ends, in whatever phase, gives
back what it has.
-/
namespace Tunnel

def atCapacity : String := "connector is at capacity"

inductive OverflowPolicy where
  | queue
  | reject
  deriving DecidableEq, Repr

/-- How many requests may run at once, and what happens to more. -/
structure DispatchConfig where
  maxInFlight : Option Nat := none
  overflow : OverflowPolicy := .queue
  deriving DecidableEq, Repr

def maxPermits : Nat := 0x1FFFFFFFFFFFFFFF

/-- The number of permits for a limit: at least one. -/
def DispatchConfig.limit? (c : DispatchConfig) : Option Nat :=
  c.maxInFlight.map fun n => min (max n 1) maxPermits

/-- A task has yet to get a turn, waits for a permit, runs or has ended. -/
inductive TaskPhase where
  | accepted
  | waiting
  | running
  | ended
  deriving DecidableEq, Repr

/-- An accepted request, the link of the connection it came on, how far it is, and whether it holds
a permit. -/
structure Task where
  request : Request
  link : LinkId
  phase : TaskPhase
  permit : Bool
  deriving DecidableEq, Repr

abbrev TaskId := Nat

/-- The permits that nobody holds, and the tasks in line for one. -/
structure Permits where
  free : Nat
  line : List TaskId
  deriving DecidableEq, Repr

/-- The permits, if there is a limit, all accepted requests, the tasks that have started, in order,
and the labels of the requests that have not ended. -/
structure Dispatcher where
  overflow : OverflowPolicy
  permits : Option Permits
  tasks : List Task
  runs : List TaskId
  pending : Tally
  deriving DecidableEq, Repr

namespace Dispatcher

def new (c : DispatchConfig) : Dispatcher :=
  ⟨c.overflow, c.limit?.map fun n => ⟨n, []⟩, [], [], .empty⟩

def pendingCount (d : Dispatcher) : Nat := d.pending.total

def isPending (d : Dispatcher) (id : RequestId) : Bool := d.pending.contains id

def queues (d : Dispatcher) : Bool := d.permits.isSome && d.overflow = .queue

def rejects (d : Dispatcher) : Bool := d.permits.isSome && d.overflow = .reject

def free (d : Dispatcher) : Nat := (d.permits.map Permits.free).getD 0

def line (d : Dispatcher) : List TaskId := (d.permits.map Permits.line).getD []

def modifyTask (d : Dispatcher) (i : TaskId) (f : Task → Task) : Dispatcher :=
  { d with tasks := d.tasks.modify i f }

def modifyPermits (d : Dispatcher) (f : Permits → Permits) : Dispatcher :=
  { d with permits := d.permits.map f }

def setPhase (d : Dispatcher) (i : TaskId) (p : TaskPhase) : Dispatcher :=
  d.modifyTask i fun t => { t with phase := p }

def takePermit (d : Dispatcher) : Dispatcher := d.modifyPermits fun p => { p with free := p.free - 1 }

def grant (d : Dispatcher) (i : TaskId) : Dispatcher :=
  d.modifyTask i fun t => { t with permit := true }

/-- A permit is given back: the first in line gets it, if there is one. -/
def release (d : Dispatcher) : Dispatcher :=
  match d.line with
  | [] => d.modifyPermits fun p => { p with free := p.free + 1 }
  | i :: line => (d.modifyPermits fun p => { p with line }).grant i

def admits (d : Dispatcher) : Bool := !d.rejects || 0 < d.free

/-- A request is accepted. Where requests may be turned away it takes its permit at once. -/
def accept (d : Dispatcher) (r : Request) (l : LinkId) : Dispatcher :=
  { d with
    permits := if d.rejects then d.takePermit.permits else d.permits
    tasks := d.tasks ++ [⟨r, l, .accepted, d.rejects⟩]
    pending := d.pending.add r.id }

/-- A request that came on a link: it is accepted, or turned away with a message for that link. -/
def dispatch (d : Dispatcher) (r : Request) (l : LinkId) : Dispatcher × Option Message :=
  if d.admits then (d.accept r l, none) else (d, some (.failure r.id atCapacity))

/-- A message that came on a link. Only requests are dispatched. -/
def handle (d : Dispatcher) (m : Message) (l : LinkId) : Dispatcher × Option Message :=
  match m with
  | .request r => d.dispatch r l
  | _ => (d, none)

/-- A task ends, in whatever phase it is. It leaves the line, its label is pending no more, and the
permit that it holds is given back. -/
def retire (d : Dispatcher) (i : TaskId) : Dispatcher :=
  match d.tasks[i]? with
  | none => d
  | some t =>
    if t.phase = .ended then d
    else
      let gone := (d.modifyPermits fun p => { p with line := p.line.erase i }).modifyTask i fun t =>
        { t with phase := .ended, permit := false }
      let gone := { gone with pending := d.pending.remove t.request.id }
      if t.permit then gone.release else gone

def start (d : Dispatcher) (i : TaskId) : Dispatcher :=
  { d.setPhase i .running with runs := d.runs ++ [i] }

def join (d : Dispatcher) (i : TaskId) : Dispatcher :=
  (d.modifyPermits fun p => { p with line := p.line ++ [i] }).setPhase i .waiting

/-- What a task does when it gets a turn. Where requests wait, it is abandoned if its link has ended,
starts if it has a permit or can take one, and otherwise gets in line. When its link has ended and there
is a permit too, it depends on which of the two it sees first. Elsewhere it starts. -/
def turn (ended : LinkId → Bool) (d : Dispatcher) (i : TaskId) (linkFirst : Bool) : Dispatcher :=
  match d.tasks[i]? with
  | none => d
  | some t =>
    match t.phase with
    | .accepted =>
      if !d.queues then d.start i
      else if ended t.link && (linkFirst || d.free == 0) then d.retire i
      else if d.free = 0 then d.join i
      else (d.takePermit.grant i).start i
    | .waiting =>
      if ended t.link && (linkFirst || !t.permit) then d.retire i
      else if t.permit then d.start i
      else d
    | .running => d
    | .ended => d

def settleTask (ended : LinkId → Bool) (d : Dispatcher) (i : TaskId) : Dispatcher :=
  match d.tasks[i]? with
  | none => d
  | some t => if t.phase = .waiting then d.turn ended i true else d

def settle (ended : LinkId → Bool) (d : Dispatcher) : Dispatcher :=
  (List.range d.tasks.length).foldl (settleTask ended) d

/-- A new task, if there is one, gets its first turn, and then waiting tasks proceed. -/
def proceed (ended : LinkId → Bool) (d : Dispatcher) (new : TaskId) : Dispatcher :=
  (d.turn ended new true).settle ended

def liveRun? (d : Dispatcher) (run : Nat) : Option (TaskId × Task) := do
  let i ← d.runs[run]?
  let t ← d.tasks[i]?
  if t.phase = .running then some (i, t) else none

/-- A run returns; says whether there is such a run. -/
def finish (d : Dispatcher) (run : Nat) : Bool × Dispatcher :=
  match d.liveRun? run with
  | some (i, _) => (true, d.retire i)
  | none => (false, d)

/-- A task is aborted; says whether there is such a task. -/
def abort (d : Dispatcher) (i : TaskId) : Bool × Dispatcher :=
  (i < d.tasks.length, d.retire i)

/-- Whether the connection behind each run has ended, in starting order. -/
def cancelled (d : Dispatcher) (ended : LinkId → Bool) : List Bool :=
  d.runs.map fun i => (d.tasks[i]?.map fun t => ended t.link).getD false

end Dispatcher

end Tunnel
