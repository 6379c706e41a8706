import Tunnel.Failure

/-!
# Executions

An execution makes the HTTP call of one command and reports it in frames: a start, numbered chunks and
an end, or a failure in place of what is left. What a target does is an answer: when its head arrives,
and when each read of its body gives something. The target may take its time anew for each of them.
Times count nanoseconds from the start of the execution.

The limit on each wait is exact: what comes at the limit or before it comes in time, what comes later
does not, whatever the grain of a real timer. Sending a frame takes no time, and an execution that is
cancelled at a time has taken the steps that are due by then.
-/
namespace Tunnel

structure ExecutorConfig where
  followRedirects : Bool := false
  defaultTimeout : Duration := .ofSeconds 30
  deriving DecidableEq, Repr

inductive Outcome where
  | completed (chunks : Nat)
  | failed
  | cancelled
  deriving DecidableEq, Repr

structure ResponseHead where
  status : UInt16
  lines : List (String × List UInt8)
  deriving DecidableEq, Repr

inductive BodyRead where
  | bytes (data : List UInt8)
  | finished
  | failed (f : Failure)
  deriving DecidableEq, Repr

/-- What a target does: its head after a delay, or never, and its reads, each after a delay of its
own. After the last of them nothing comes. -/
structure Answer where
  head : Option (Nat × Except Failure ResponseHead)
  reads : List (Nat × BodyRead)

/-- What an HTTP client is told by the targets that it reaches, whether it follows redirects or not. -/
abbrev Client := Bool → Outbound → Answer

def Client.unreachable (reason : String) : Client := fun _ o =>
  ⟨some (0, .error (.unreachable o.url reason)), []⟩

/-- The steps of an execution, each with its time and the frame that it sends, if it sends one, and
how and when the execution ends. There is a step for each thing that the target does, or fails to do
in time. -/
structure Execution where
  steps : List (Nat × Option Message)
  ended : Nat
  outcome : Outcome
  deriving DecidableEq, Repr

namespace Execution

def fail (id : RequestId) (time : Nat) (f : Failure) : Execution :=
  ⟨[(time, some (.failure id f.describe))], time, .failed⟩

def after (time : Nat) (frame : Option Message) (e : Execution) : Execution :=
  { e with steps := (time, frame) :: e.steps }

/-- Reads a body from a time on, with `n` chunks sent before. Reads that give nothing are passed
over. -/
def ofReads (id : RequestId) (limit : Duration) (now n : Nat) : List (Nat × BodyRead) → Execution
  | [] => fail id (now + limit.nanos) (.timedOut limit)
  | (delay, read) :: rest =>
    if limit.nanos < delay then fail id (now + limit.nanos) (.timedOut limit)
    else match read with
      | .bytes [] => (ofReads id limit (now + delay) n rest).after (now + delay) none
      | .bytes data =>
        (ofReads id limit (now + delay) (n + 1) rest).after (now + delay)
          (some (.chunkOf id data (UInt64.ofNat n)))
      | .finished => ⟨[(now + delay, some (.finish id))], now + delay, .completed n⟩
      | .failed f => fail id (now + delay) f

def ofAnswer (id : RequestId) (limit : Duration) (a : Answer) : Execution :=
  match a.head with
  | none => fail id limit.nanos (.timedOut limit)
  | some (delay, head) =>
    if limit.nanos < delay then fail id limit.nanos (.timedOut limit)
    else match head with
      | .error f => fail id delay f
      | .ok h =>
        (ofReads id limit delay 0 a.reads).after delay
          (some (.start id h.status (Headers.ofResponse h.lines)))

/-- An execution that is cancelled at a time when it has taken a number of steps, unless these are all
of them. -/
def cancel (time taken : Nat) (e : Execution) : Execution :=
  if e.steps.length ≤ taken then e else ⟨e.steps.take taken, time, .cancelled⟩

/-- An execution that is cancelled at a time, when it has taken all steps that are due by then. -/
def cancelAt (time : Nat) (e : Execution) : Execution :=
  e.cancel time (e.steps.countP fun s => s.1 ≤ time)

def messages (e : Execution) : List Message := e.steps.filterMap Prod.snd

end Execution

namespace Request

def limit (c : ExecutorConfig) (r : Request) : Duration :=
  if r.timeoutMs = 0 then c.defaultTimeout else .ofMillis r.timeoutMs.toNat

/-- The execution of a command. A request that the client refuses reaches no target. -/
def execute (c : ExecutorConfig) (client : Client) (r : Request) : Execution :=
  match Outbound.ofTarget r.target with
  | .error e => .fail r.id 0 e.failure
  | .ok o =>
    match o.refusal? with
    | some f => .fail r.id 0 f
    | none => .ofAnswer r.id (r.limit c) (client c.followRedirects o)

end Request

end Tunnel
