import Tunnel.Channel.Run

/-!
# Steps of a channel

One step is one thing that a caller, the relay or the clock does to a channel. After each of them the
channel has done all that it can. `act` takes one step and `run` a sequence of them; answers to a
caller, such as whether a message was taken, are left out here and are those of the functions that the
steps stand for.
-/
namespace Tunnel.Channel

variable {σ : Type}

/-- One step. Spans of time are in nanoseconds. -/
inductive Step where
  | connect
  | close
  | join (span : Nat)
  | advance (span : Nat)
  | refuseNext
  | acceptNext
  | feed (p : PeerId) (i : Inbound)
  | dropPeer (p : PeerId)
  | send (m : Message)
  | sendThrough (k : LinkId) (m : Message)
  deriving DecidableEq, Repr

def act (h : Handler σ) (c : Channel σ) : Step → Channel σ
  | .connect => (c.connect h).2
  | .close => c.close h
  | .join span => (c.join h span).2
  | .advance span => c.advance h span
  | .refuseNext => c.refuseNext
  | .acceptNext => c.acceptNext.2
  | .feed p i => (c.feed h p i).2
  | .dropPeer p => c.dropPeer h p
  | .send m => (c.send h m).2
  | .sendThrough k m => (c.sendThrough h k m).2

def run (h : Handler σ) (c : Channel σ) (steps : List Step) : Channel σ :=
  steps.foldl (act h) c

end Tunnel.Channel
