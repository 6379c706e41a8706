import Tunnel.Channel.Work

/-!
# Running a channel

A channel that is left to itself does what it can at a time and then waits for its next timer. `settle`
does the first, and `elapse` both, up to a point of time: the clock stops at each timer on the way, and
what is due there is done before it goes on. What a caller or the relay does is followed by a `settle`,
so between two calls there is nothing left to do.
-/
namespace Tunnel.Channel

variable {σ : Type}

/-- The order in which running a channel leaves it less to do. -/
instance : WellFoundedRelation (Channel σ) where
  rel c' c := Less c'.work c.work
  wf := InvImage.wf work wellFounded_less

def settle (h : Handler σ) (c : Channel σ) : Channel σ :=
  match _ : c.step? h with
  | none => c
  | some c' => settle h c'
termination_by c
decreasing_by exact step?_less ‹_›

/-- Lets time pass up to a point, stopping at each timer that is due. With `halt` the clock stays
where the channel stops for good, if that is before the point. -/
def elapse (h : Handler σ) (halt : Bool) (target : Nat) (c : Channel σ) : Channel σ :=
  let d := c.settle h
  if halt ∧ d.isOver ∧ c.now < target then d
  else match d.nextDue with
    | some t =>
      if c.now < t ∧ t ≤ target then elapse h halt target { d with now := t }
      else { d with now := max c.now target }
    | none => { d with now := max c.now target }
termination_by target - c.now
decreasing_by omega

def advance (h : Handler σ) (span : Nat) (c : Channel σ) : Channel σ :=
  c.elapse h false (c.now + span)

/-- Starts the channel, if its credentials can be used; a channel that was started stays as it is. -/
def connect (h : Handler σ) (c : Channel σ) : Except PairingError Unit × Channel σ :=
  match c.credentials.validate with
  | .error e => (.error e, c)
  | .ok () =>
    if c.phase = .idle then (.ok (), { c with phase := .attempting }.settle h)
    else (.ok (), c)

def close (h : Handler σ) (c : Channel σ) : Channel σ :=
  { c with shutdown := true }.settle h

inductive Join where
  | exited (exit : ChannelExit)
  | nothing
  | timedOut
  deriving DecidableEq, Repr

def report (c : Channel σ) : Join :=
  match c.phase with
  | .stopped exit => .exited exit
  | _ => .nothing

/-- Waits for the channel to stop, for a span of time at most. There is one wait for each start. -/
def join (h : Handler σ) (span : Nat) (c : Channel σ) : Join × Channel σ :=
  if c.joined ∨ c.phase = .idle then (.nothing, c)
  else
    let c := { c with joined := true }
    if c.isOver then (c.report, c)
    else
      let d := c.elapse h true (c.now + span)
      if d.isOver ∧ d.now < c.now + span then (d.report, d) else (.timedOut, d)

/-- Sends a message on a link that came with a message. -/
def sendThrough (h : Handler σ) (c : Channel σ) (k : LinkId) (m : Message) : Bool × Channel σ :=
  let (taken, c) := c.sendOn k m
  (taken, c.settle h)

def send (h : Handler σ) (c : Channel σ) (m : Message) : Bool × Channel σ :=
  match c.current with
  | some k => if c.state.current = .connected then c.sendThrough h k m else (false, c)
  | none => (false, c)

def refuseNext (c : Channel σ) : Channel σ :=
  { c with script := c.script ++ [.refuse] }

def acceptNext (c : Channel σ) : PeerId × Channel σ :=
  let p := c.peers.length
  (p, { c with peers := c.peers ++ [{}], script := c.script ++ [.accept p] })

/-- The relay sends something; says whether the connector will read it. -/
def feed (h : Handler σ) (c : Channel σ) (p : PeerId) (i : Inbound) : Bool × Channel σ :=
  match c.peers[p]? with
  | none => (false, c)
  | some peer =>
    if peer.reading && !peer.dropped then
      (true, (c.modifyPeer p fun peer => { peer with inbox := peer.inbox ++ [i] }).settle h)
    else (false, c)

def dropPeer (h : Handler σ) (c : Channel σ) (p : PeerId) : Channel σ :=
  (c.modifyPeer p fun peer => { peer with dropped := true }).settle h

end Tunnel.Channel
