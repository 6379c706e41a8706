import Tunnel.Channel.Step
import Tunnel.Dispatch
import Tunnel.Execution

/-!
# Connectors

A connector hands the requests that come on its channel to a dispatcher and executes them. The frames of
an execution go out on the link that its request came on. When that link ends, the execution ends with
it, and nothing of it is sent on another link. Each execution meets targets of its own: what the HTTP
client is told may differ from one task to the next.

The dispatcher is the handler of the channel. A run holds the frames that it has yet to send, and how
they are spread over time is left open: `emit` lets one run send its next frame, at any time and in any
order among the runs.
-/
namespace Tunnel

/-- A channel with its dispatcher, and for each run, in starting order, the frames it has yet to
send. -/
structure Connector where
  executor : ExecutorConfig
  clients : TaskId → Client
  channel : Channel Dispatcher
  unsent : List (List Message) := []

namespace Connector

/-- Messages go to the dispatcher, and a new task gets its first turn. Of the links up to that of a
message only this one lasts. -/
def handler : Handler Dispatcher where
  handle d k m :=
    let (next, answer) := d.handle m k
    (next.turn (fun l => l < k) d.tasks.length true, answer.toList)
  linkEnded d k := d.settle fun l => l ≤ k

def among (channel : ChannelConfig) (credentials : Credentials) (dispatch : DispatchConfig)
    (executor : ExecutorConfig) (clients : TaskId → Client) : Connector :=
  { executor, clients, channel := .new channel credentials (.new dispatch) }

def new (channel : ChannelConfig) (credentials : Credentials) (dispatch : DispatchConfig)
    (executor : ExecutorConfig) (client : Client) : Connector :=
  .among channel credentials dispatch executor fun _ => client

def dispatcher (c : Connector) : Dispatcher := c.channel.handler

def hasEnded (c : Connector) (k : LinkId) : Bool := c.channel.hasEnded k

def execution (c : Connector) (i : TaskId) (t : Task) : Execution :=
  t.request.execute c.executor (c.clients i)

def script (c : Connector) (i : TaskId) : List Message :=
  match c.dispatcher.tasks[i]? with
  | some t => (c.execution i t).messages
  | none => []

def begin (c : Connector) : Connector :=
  { c with
    unsent := c.unsent ++ (c.dispatcher.runs.drop c.unsent.length).map c.script }

def finish (c : Connector) (run : Nat) : Connector :=
  let (live, dispatcher) := c.dispatcher.finish run
  if live then { c with channel := { c.channel with handler := dispatcher.settle c.hasEnded } } else c

def cancelRun (c : Connector) (run : Nat) : Connector :=
  match c.dispatcher.liveRun? run with
  | some (_, t) => if c.hasEnded t.link then c.finish run else c
  | none => c

def settle (c : Connector) : Connector :=
  let c := c.begin
  ((List.range c.unsent.length).foldl cancelRun c).begin

/-- A run sends its next frame; with the last one it returns. -/
def emit (c : Connector) (run : Nat) : Connector :=
  match c.dispatcher.liveRun? run, c.unsent[run]? with
  | some (_, t), some (m :: ms) =>
    let c := { c with
      channel := (c.channel.sendThrough handler t.link m).2
      unsent := c.unsent.set run ms }
    (if ms.isEmpty then c.finish run else c).settle
  | some _, _ => (c.finish run).settle
  | none, _ => c

inductive Step where
  | channel (s : Channel.Step)
  | emit (run : Nat)
  deriving DecidableEq, Repr

def act (c : Connector) : Step → Connector
  | .channel s => settle { c with channel := c.channel.act handler s }
  | .emit run => c.emit run

def run (c : Connector) (steps : List Step) : Connector :=
  steps.foldl act c

def firstRun? (c : Connector) : Option Nat :=
  (List.range c.unsent.length).find? fun run => (c.dispatcher.liveRun? run).isSome

/-- At most this many frames are sent before all runs have returned. -/
def unsentBound (c : Connector) : Nat :=
  (List.range c.dispatcher.tasks.length).foldl (fun n i => n + (c.script i).length + 1) 0

/-- Lets runs send a number of frames, each run before those that started later. -/
def drainFor : Nat → Connector → Connector
  | 0, c => c
  | n + 1, c =>
    match c.firstRun? with
    | some run => drainFor n (c.emit run)
    | none => c

def drain (c : Connector) : Connector := c.drainFor c.unsentBound

end Connector

end Tunnel
