import Tunnel.Backoff
import Tunnel.Health
import Tunnel.Link
import Tunnel.Message.Decode

/-!
# The relay channel

A channel keeps one connection to the relay. It answers heartbeats itself, hands every other message to
its handler with the link it came on, and reconnects after growing delays until its budget is spent or
it is closed. What the relay does is a script of connection outcomes, and the relay's end of each
connection is a peer.

A connection has a reader and a writer. The reader takes what the relay sends and minds the timers; when
it stops, the lifetime of the connection is over and its link takes no more messages. The writer works
off the queue of the messages that were taken before, and then the connection is closed.

Time is counted in nanoseconds. Timers are exact: what is due at a point of time happens at that point,
with no regard to how finely a real timer counts, and the clock has no end, so no timer can lie beyond
it. What the channel does takes no time. A closing connection therefore never runs out of the time it is
given for its queue. Where several things could be done at one time, `step?` chooses one: the reader
looks at the end of its lifetime first, then at the heartbeat, at silence and at what the relay sent.
-/
namespace Tunnel

structure ChannelConfig where
  heartbeat : Duration := .ofMillis 30000
  reconnect : ReconnectPolicy := {}
  liveness : Option Duration := none
  closeGrace : Duration := .ofSeconds 5
  deriving DecidableEq, Repr

inductive ChannelExit where
  | closed
  | exhausted (attempts : UInt32)
  deriving DecidableEq, Repr

abbrev PeerId := Nat

/-- What the relay sends: a frame, or the news of a read error. -/
inductive Inbound where
  | frame (raw : String)
  | failure (text : String)
  deriving DecidableEq, Repr

/-- The relay's end of a connection: what the connector has yet to read, what it has written,
whether it has closed the connection, whether it still reads, and whether the relay is there. -/
structure Peer where
  inbox : List Inbound := []
  outbox : List Message := []
  closed : Bool := false
  reading : Bool := true
  dropped : Bool := false
  deriving DecidableEq, Repr

inductive Offer where
  | refuse
  | accept (peer : PeerId)
  deriving DecidableEq, Repr

def Peer.received (p : Peer) : List String := p.outbox.map Message.encode

/-- A connection: its peer, whether its lifetime is over, whether its writer is at work, the
messages it took that are not yet written, all messages that it ever took, when the relay was last
heard and when the next heartbeat is due. -/
structure Connection where
  peer : PeerId
  ended : Bool
  writing : Bool
  queued : List Message
  taken : List Message
  lastSeen : Nat
  nextBeat : Nat
  deriving DecidableEq, Repr

/-- What a channel is doing. A connection that is closing has no reader any more. -/
inductive ChannelPhase where
  | idle
  | attempting
  | connected (c : LinkId)
  | closing (c : LinkId)
  | waiting (due : Nat)
  | stopped (exit : ChannelExit)
  | crashed
  deriving DecidableEq, Repr

/-- What a channel hands its messages to: it answers on the link of a message, and learns of the end
of each link. -/
structure Handler (σ : Type) where
  handle : σ → LinkId → Message → σ × List Message
  linkEnded : σ → LinkId → σ

/-- A channel, the relay it talks to, and a record of its attempts, of what came of each of them, of
when each of them was over, and of its deliveries. An attempt is over when it comes to nothing, or
with the connection that it made. The current link is the one on which the channel itself sends. -/
structure Channel (σ : Type) where
  config : ChannelConfig
  credentials : Credentials
  handler : σ
  now : Nat := 0
  script : List Offer := []
  peers : List Peer := []
  connections : List Connection := []
  phase : ChannelPhase := .idle
  current : Option LinkId := none
  attempts : UInt32 := 0
  shutdown : Bool := false
  joined : Bool := false
  state : Watch ConnectionState := .new .disconnected
  attemptTimes : List Nat := []
  outcomes : List (Option LinkId) := []
  overTimes : List Nat := []
  tokens : List String := []
  delivered : List (LinkId × Message) := []

namespace Channel

variable {σ : Type}

def new (config : ChannelConfig) (credentials : Credentials) (handler : σ) : Channel σ :=
  { config, credentials, handler }

def publish (c : Channel σ) (s : ConnectionState) : Channel σ :=
  { c with state := c.state.publish s }

def modifyPeer (c : Channel σ) (p : PeerId) (f : Peer → Peer) : Channel σ :=
  { c with peers := c.peers.modify p f }

def modifyConnection (c : Channel σ) (k : LinkId) (f : Connection → Connection) : Channel σ :=
  { c with connections := c.connections.modify k f }

/-- Whether the lifetime of a link is over. A channel that is closed ends all of them. -/
def hasEnded (c : Channel σ) (k : LinkId) : Bool :=
  c.shutdown || (c.connections[k]?.map Connection.ended).getD true

def isOpen (c : Channel σ) (k : LinkId) : Bool :=
  !c.hasEnded k && (c.connections[k]?.map Connection.writing).getD false

def take (c : Channel σ) (k : LinkId) (ms : List Message) : Channel σ :=
  c.modifyConnection k fun l => { l with queued := l.queued ++ ms, taken := l.taken ++ ms }

/-- Sends a message on a link; says whether it was taken. -/
def sendOn (c : Channel σ) (k : LinkId) (m : Message) : Bool × Channel σ :=
  if c.isOpen k then (true, c.take k [m]) else (false, c)

def sendAll (c : Channel σ) (k : LinkId) (ms : List Message) : Channel σ :=
  ms.foldl (fun c m => (c.sendOn k m).2) c

def stop (c : Channel σ) (exit : ChannelExit) : Channel σ :=
  { c.publish .disconnected with phase := .stopped exit }

/-- After a failed attempt or the end of a connection: stops if the channel is closed or the budget
is spent, and otherwise waits. -/
def retry (c : Channel σ) : Channel σ :=
  let c := c.publish .disconnected
  if c.shutdown then c.stop .closed
  else match c.config.reconnect.delayFor c.attempts with
    | none => { c with phase := .stopped (.exhausted c.attempts) }
    | some d => { c with attempts := c.attempts + 1, phase := .waiting (c.now + d.nanos) }

def letGo (c : Channel σ) (p : PeerId) : Channel σ :=
  c.modifyPeer p fun peer => { peer with closed := true, reading := false }

/-- The writer of a connection stops; what is not yet written never will be. -/
def stopWriting (c : Channel σ) (k : LinkId) : Channel σ :=
  c.modifyConnection k fun l => { l with writing := false, queued := [] }

def newConnection (c : Channel σ) (p : PeerId) : Connection :=
  ⟨p, false, true, [], [], c.now, c.now + c.config.heartbeat.nanos⟩

/-- A connection is made. There is no heartbeat without an interval: the channel crashes. -/
def accept (c : Channel σ) (p : PeerId) : Channel σ :=
  let k : LinkId := c.connections.length
  let c : Channel σ :=
    { c.publish .connected with
      attempts := 0
      current := some k
      outcomes := c.outcomes ++ [some k]
      connections := c.connections ++ [c.newConnection p] }
  if c.config.heartbeat.nanos = 0 then { (c.stopWriting k).letGo p with phase := .crashed }
  else { c with phase := .connected k }

def refuse (c : Channel σ) : Channel σ :=
  let c := { c with outcomes := c.outcomes ++ [none], overTimes := c.overTimes ++ [c.now] }
  if c.shutdown then c.stop .closed else c.retry

/-- An attempt succeeds. The connection is let go if the channel is closed by then. -/
def welcome (c : Channel σ) (p : PeerId) : Channel σ :=
  if c.shutdown then
    let c := { c with outcomes := c.outcomes ++ [none], overTimes := c.overTimes ++ [c.now] }
    (c.letGo p).stop .closed
  else c.accept p

def ask (c : Channel σ) : Channel σ :=
  { c.publish .connecting with
    attemptTimes := c.attemptTimes ++ [c.now], tokens := c.tokens ++ [c.credentials.token] }

/-- Makes a connection attempt. The relay sees an attempt even of a channel that is closed by then. -/
def attempt (c : Channel σ) : Channel σ :=
  match c.script with
  | [] => c.ask.refuse
  | .refuse :: script => { c.ask with script }.refuse
  | .accept p :: script => { c.ask with script }.welcome p

def hangUp (h : Handler σ) (c : Channel σ) (k : LinkId) : Channel σ :=
  let c := c.modifyConnection k fun l => { l with ended := true }
  { c.publish .disconnected with
    current := none
    overTimes := c.overTimes ++ [c.now]
    handler := h.linkEnded c.handler k
    phase := .closing k }

def write (c : Channel σ) (k : LinkId) (p : PeerId) (m : Message) (ms : List Message) :
    Channel σ :=
  (c.modifyConnection k fun l => { l with queued := ms }).modifyPeer p fun peer =>
    { peer with outbox := peer.outbox ++ [m] }

def beat (c : Channel σ) (k : LinkId) : Channel σ :=
  (c.modifyConnection k fun l =>
    { l with nextBeat := c.now + c.config.heartbeat.nanos }).sendOn k (.ping 0) |>.2

def deliver (h : Handler σ) (c : Channel σ) (k : LinkId) (m : Message) : Channel σ :=
  let (handler, answers) := h.handle c.handler k m
  { c with handler, delivered := c.delivered ++ [(k, m)] }.sendAll k answers

/-- Takes a frame off what the relay has sent; the rest is yet to be read. -/
def hear (c : Channel σ) (k : LinkId) (p : PeerId) (rest : List Inbound) : Channel σ :=
  (c.modifyPeer p fun peer => { peer with inbox := rest }).modifyConnection k fun l =>
    { l with lastSeen := c.now }

/-- Heeds a frame: heartbeats are answered, other messages handed on, and what is no message is
passed over. -/
def receive (h : Handler σ) (c : Channel σ) (k : LinkId) (raw : String) : Channel σ :=
  match Message.decode raw with
  | .error _ => c
  | .ok (.ping _) => (c.sendOn k (.pong 0)).2
  | .ok (.pong _) => c
  | .ok m => c.deliver h k m

def deadline (c : Channel σ) (l : Connection) : Option Nat :=
  c.config.liveness.map fun t => l.lastSeen + t.nanos

def isSilent (c : Channel σ) (l : Connection) : Bool :=
  match c.deadline l with
  | some t => t ≤ c.now
  | none => false

/-- What the writer of a connection does next, if anything. A write to a relay that is gone fails,
and then the connection ends. -/
def stepWriter (h : Handler σ) (c : Channel σ) (k : LinkId) (l : Connection) (peer : Peer) :
    Option (Channel σ) :=
  match l.queued with
  | [] => none
  | m :: ms =>
    if peer.dropped then some ((c.stopWriting k).hangUp h k) else some (c.write k l.peer m ms)

/-- What a connection does next at this time: its reader ends if the channel is closed, sends the
heartbeat that is due, ends for silence, or reads; when there is nothing to read, its writer goes
on. -/
def stepConnected (h : Handler σ) (c : Channel σ) (k : LinkId) (l : Connection) (peer : Peer) :
    Option (Channel σ) :=
  if c.shutdown then some (c.hangUp h k)
  else if l.nextBeat ≤ c.now ∧ 0 < c.config.heartbeat.nanos then some (c.beat k)
  else if c.isSilent l then some (c.hangUp h k)
  else match peer.inbox with
    | .frame raw :: rest => some ((c.hear k l.peer rest).receive h k raw)
    | .failure _ :: _ => some (c.hangUp h k)
    | [] => if peer.dropped then some (c.hangUp h k) else c.stepWriter h k l peer

/-- What a connection does next whose lifetime is over: its writer works off the queue, and then it
is closed. -/
def stepClosing (c : Channel σ) (k : LinkId) (l : Connection) (peer : Peer) : Channel σ :=
  match l.queued with
  | m :: ms => if peer.dropped then c.stopWriting k else c.write k l.peer m ms
  | [] => ((c.stopWriting k).letGo l.peer).retry

def endpoints? (c : Channel σ) (k : LinkId) : Option (Connection × Peer) := do
  let l ← c.connections[k]?
  let peer ← c.peers[l.peer]?
  return (l, peer)

def step? (h : Handler σ) (c : Channel σ) : Option (Channel σ) :=
  match c.phase with
  | .idle => none
  | .attempting => some c.attempt
  | .connected k =>
    match c.endpoints? k with
    | some (l, peer) => c.stepConnected h k l peer
    | none => none
  | .closing k =>
    match c.endpoints? k with
    | some (l, peer) => some (c.stepClosing k l peer)
    | none => none
  | .waiting t =>
    if c.shutdown then some (c.stop .closed)
    else if t ≤ c.now then some { c with phase := .attempting }
    else none
  | .stopped _ => none
  | .crashed => none

def nextDue (c : Channel σ) : Option Nat :=
  match c.phase with
  | .connected k =>
    c.connections[k]?.map fun l =>
      match c.deadline l with
      | some t => min l.nextBeat t
      | none => l.nextBeat
  | .waiting t => some t
  | _ => none

def isOver (c : Channel σ) : Bool :=
  match c.phase with
  | .stopped _ => true
  | .crashed => true
  | _ => false

end Channel

end Tunnel
