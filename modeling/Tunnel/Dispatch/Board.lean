import Tunnel.Dispatch

/-!
# A dispatcher and its links

Links, a dispatcher, and runs that do what they are told. What a relay, a run or a caller does is a
step; between steps tasks get turns. They may get them at any time and in any order: a sequence of
steps and turns is a schedule of events. Left to themselves, tasks proceed after each step as far as
they can.
-/
namespace Tunnel

structure Board where
  links : List Link
  dispatcher : Dispatcher
  deriving DecidableEq, Repr

namespace Board

inductive Step where
  | link
  | handle (l : LinkId) (m : Message)
  | runSend (run : Nat) (m : Message)
  | finish (run : Nat)
  | abort (task : TaskId)
  | linkSend (l : LinkId) (m : Message)
  | close (l : LinkId)
  | dropReader (l : LinkId)
  deriving DecidableEq, Repr

def new (c : DispatchConfig) : Board := ⟨[], .new c⟩

def hasEnded (b : Board) (l : LinkId) : Bool :=
  match b.links[l]? with
  | some link => link.ended
  | none => true

def sendOn (b : Board) (l : LinkId) (m : Message) : Bool × Board :=
  match b.links[l]? with
  | some link =>
    let (taken, link) := link.send m
    (taken, { b with links := b.links.set l link })
  | none => (false, b)

/-- Hands a message to the dispatcher and sends what it answers; says whether nothing was turned
away. -/
def handle (b : Board) (l : LinkId) (m : Message) : Bool × Board :=
  let (dispatcher, answer) := b.dispatcher.handle m l
  let b := { b with dispatcher }
  match answer with
  | none => (true, b)
  | some m => (false, (b.sendOn l m).2)

/-- What happens in a step, before any task gets a turn. The answer says whether it had an effect. -/
def act (b : Board) : Step → Option Bool × Board
  | .link => (none, { b with links := b.links ++ [{}] })
  | .handle l m => let (r, b) := b.handle l m; (some r, b)
  | .runSend run m =>
    match b.dispatcher.liveRun? run with
    | some (_, t) => let (r, b) := b.sendOn t.link m; (some r, b)
    | none => (none, b)
  | .finish run => let (r, dispatcher) := b.dispatcher.finish run; (some r, { b with dispatcher })
  | .abort task => let (r, dispatcher) := b.dispatcher.abort task; (some r, { b with dispatcher })
  | .linkSend l m => let (r, b) := b.sendOn l m; (some r, b)
  | .close l => (none, { b with links := b.links.modify l Link.close })
  | .dropReader l => (none, { b with links := b.links.modify l Link.dropReader })

def turn (b : Board) (i : TaskId) (linkFirst : Bool) : Board :=
  { b with dispatcher := b.dispatcher.turn b.hasEnded i linkFirst }

def step (b : Board) (s : Step) : Option Bool × Board :=
  let (r, c) := b.act s
  (r, { c with dispatcher := c.dispatcher.proceed c.hasEnded b.dispatcher.tasks.length })

def run (b : Board) (steps : List Step) : Board :=
  steps.foldl (fun b s => (b.step s).2) b

inductive Event where
  | act (s : Step)
  | turn (i : TaskId) (linkFirst : Bool)
  deriving DecidableEq, Repr

def apply (b : Board) : Event → Board
  | .act s => (b.act s).2
  | .turn i linkFirst => b.turn i linkFirst

def after (b : Board) (events : List Event) : Board :=
  events.foldl apply b

end Board

end Tunnel
