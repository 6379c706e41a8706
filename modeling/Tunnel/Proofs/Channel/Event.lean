import Tunnel.Proofs.Channel.Coherence

/-!
# What happens to connections

A connection is opened, frames are read on it and heartbeats are sent on it, and its lifetime ends for
a cause. Every move is one of these events, or nothing happens to a connection by it.
-/
namespace Tunnel.Channel

inductive Cause where
  | requested
  | silence
  | readFailure
  | remoteClosed
  | writeFailure
  deriving DecidableEq, Repr

inductive Event where
  | opened (k : LinkId)
  | read (k : LinkId) (raw : String)
  | beat (k : LinkId)
  | ended (k : LinkId) (cause : Cause)
  deriving DecidableEq, Repr

namespace Event

def link : Event → LinkId
  | opened k => k
  | read k _ => k
  | beat k => k
  | ended k _ => k

end Event

variable {σ : Type} {h : Handler σ} {c c' : Channel σ} {k : LinkId} {l : Connection} {peer : Peer}

def Stops (c : Channel σ) (l : Connection) (peer : Peer) : Cause → Prop
  | .requested => c.shutdown = true
  | .silence => c.isSilent l = true
  | .readFailure => ∃ text rest, peer.inbox = .failure text :: rest
  | .remoteClosed => peer.inbox = [] ∧ peer.dropped = true
  | .writeFailure => False

inductive Happens (h : Handler σ) (c : Channel σ) : Event → Channel σ → Prop where
  | opened {p : PeerId} {script : List Offer} (hp : c.phase = .attempting) (hs : c.shutdown = false)
    (ho : c.script = .accept p :: script) : Happens h c (.opened c.connections.length) c.attempt
  | read {k : LinkId} {l : Connection} {peer : Peer} {raw : String} {rest : List Inbound}
    (hp : c.phase = .connected k) (he : c.endpoints? k = some (l, peer)) (hs : c.shutdown = false)
    (hr : peer.inbox = .frame raw :: rest) :
    Happens h c (.read k raw) ((c.hear k l.peer rest).receive h k raw)
  | beat {k : LinkId} {l : Connection} {peer : Peer} (hp : c.phase = .connected k)
    (he : c.endpoints? k = some (l, peer)) (hs : c.shutdown = false) (hb : l.nextBeat ≤ c.now) :
    Happens h c (.beat k) (c.beat k)
  | ended {k : LinkId} {l : Connection} {peer : Peer} {cause : Cause} (hp : c.phase = .connected k)
    (he : c.endpoints? k = some (l, peer)) (hm : c.Stops l peer cause) :
    Happens h c (.ended k cause) (c.hangUp h k)
  | failWrite {k : LinkId} {l : Connection} {peer : Peer} (hp : c.phase = .connected k)
    (he : c.endpoints? k = some (l, peer)) (hd : peer.dropped = true) :
    Happens h c (.ended k .writeFailure) ((c.stopWriting k).hangUp h k)

/-- A move by which nothing happens to a connection: its writer goes on, or the channel is connected
neither before nor after it. -/
inductive Aside (h : Handler σ) (c : Channel σ) : Channel σ → Prop where
  | write {k : LinkId} {l : Connection} {peer : Peer} {m : Message} {ms : List Message}
    (hp : c.phase = .connected k ∨ c.phase = .closing k) (he : c.endpoints? k = some (l, peer))
    (hq : l.queued = m :: ms) (hd : peer.dropped = false) : Aside h c (c.write k l.peer m ms)
  | away {c' : Channel σ} (hm : Move h c c') (hp : ∀ k, c.phase ≠ .connected k)
    (hp' : ∀ k, c'.phase ≠ .connected k) : Aside h c c'

theorem receive_of_pass {raw : String}
    (hd : ∀ m, Message.decode raw = .ok m → ∃ ts, m = .pong ts) : c.receive h k raw = c := by
  unfold receive
  cases hm : Message.decode raw with
  | error e => rfl
  | ok m =>
    obtain ⟨ts, rfl⟩ := hd m hm
    rfl

theorem receive_of_deliver {raw : String} {m : Message} (hd : Message.decode raw = .ok m)
    (hm : m.isHeartbeat = false) : c.receive h k raw = c.deliver h k m := by
  unfold receive
  rw [hd]
  cases m <;> first | rfl | cases hm

theorem Stops.mustEnd {cause : Cause} (hs : c.Stops l peer cause) : c.MustEnd l peer := by
  cases cause with
  | requested => exact .inl hs
  | silence => exact .inr (.inl hs)
  | readFailure => exact .inr (.inr (.inl hs))
  | remoteClosed => exact .inr (.inr (.inr hs))
  | writeFailure => exact hs.elim

theorem MustEnd.stops (hm : c.MustEnd l peer) : ∃ cause, c.Stops l peer cause := by
  rcases hm with hm | hm | hm | hm
  · exact ⟨.requested, hm⟩
  · exact ⟨.silence, hm⟩
  · exact ⟨.readFailure, hm⟩
  · exact ⟨.remoteClosed, hm⟩

theorem Happens.move {e : Event} (hc : c.Coherent) (he : Happens h c e c') : Move h c c' := by
  cases he with
  | opened hp hs ho => exact .attempt hp
  | read hp he hs hr => exact move_receive hp he hs hr
  | beat hp he hs hb => exact .beat hp he hs hb hc.beats
  | ended hp he hm => exact .hangUp hp he hm.mustEnd
  | failWrite hp he hd => exact .failWrite hp he hd

theorem Aside.move (ha : Aside h c c') : Move h c c' := by
  cases ha with
  | write hp he hq hd => exact .write hp he hq hd
  | away hm hp hp' => exact hm

/-- An attempt that is accepted makes a connection, which serves. -/
theorem attempt_of_accept {p : PeerId} {script : List Offer} (hb : 0 < c.config.heartbeat.nanos)
    (hs : c.shutdown = false) (ho : c.script = .accept p :: script) :
    c.attempt = { ({ c.ask with script } : Channel σ).publish .connected with
      attempts := 0
      current := some c.connections.length
      outcomes := c.outcomes ++ [some c.connections.length]
      connections := c.connections ++ [c.newConnection p]
      phase := .connected c.connections.length } := by
  have hopen : ¬ ({ c.ask with script } : Channel σ).shutdown = true := by
    change ¬ c.shutdown = true
    rw [hs]
    nofun
  rw [attempt, ho]
  exact (if_neg hopen).trans (accept_eq hb)

/-- An attempt makes a connection if it is accepted and the channel is not closed by then. -/
theorem attempt_cases (c : Channel σ) :
    (∃ p script, c.shutdown = false ∧ c.script = .accept p :: script) ∨
      c.attempt.phase.IsDown ∧ c.attempt.connections = c.connections := by
  have hrefuse : ∀ b : Channel σ, b.connections = c.connections →
      b.refuse.phase.IsDown ∧ b.refuse.connections = c.connections := by
    intro b hb
    obtain ⟨a, p, hdown, hr⟩ := refuse_eq b
    rw [hr]
    exact ⟨hdown, hb⟩
  unfold attempt
  split
  · exact .inr (hrefuse _ rfl)
  · exact .inr (hrefuse _ rfl)
  · rename_i p script ho
    cases hs : c.shutdown with
    | true =>
      have hask : ({ c.ask with script } : Channel σ).shutdown = true := hs
      rw [welcome, if_pos hask]
      exact .inr ⟨trivial, rfl⟩
    | false => exact .inl ⟨p, script, rfl, ho⟩

/-- By a move something happens to a connection, or nothing does. -/
theorem Move.cases (hm : Move h c c') : (∃ e, Happens h c e c') ∨ Aside h c c' := by
  have haway : ∀ {d : Channel σ}, Move h c d → (∀ k, c.phase ≠ .connected k) →
      (∀ k, d.phase ≠ .connected k) → (∃ e, Happens h c e d) ∨ Aside h c d :=
    fun hm hp hp' => .inr (.away hm hp hp')
  have hdown : ∀ {p : ChannelPhase}, p.IsDown → ∀ k, p ≠ .connected k := by
    rintro _ hp k rfl
    exact hp
  cases hm with
  | attempt hp =>
    rcases attempt_cases c with ⟨p, script, hs, ho⟩ | ⟨hd, -⟩
    · exact .inl ⟨_, .opened hp hs ho⟩
    · exact haway (.attempt hp) (by simp [hp]) (hdown hd)
  | wake hp ht => exact haway (.wake hp ht) (by simp [hp]) nofun
  | giveUp hp hs => exact haway (.giveUp hp hs) (by simp [hp]) nofun
  | hangUp hp he hm =>
    obtain ⟨cause, hs⟩ := hm.stops
    exact .inl ⟨_, .ended hp he hs⟩
  | beat hp he hs hb hi => exact .inl ⟨_, .beat hp he hs hb⟩
  | @pass k l peer raw rest hp he hs hr hd =>
    have hread := Happens.read (h := h) hp he hs hr
    rw [receive_of_pass hd] at hread
    exact .inl ⟨_, hread⟩
  | @answer k l peer raw rest ts hp he hs hr hd =>
    have hread := Happens.read (h := h) hp he hs hr
    rw [receive, hd] at hread
    exact .inl ⟨_, hread⟩
  | @deliver k l peer raw rest m hp he hs hr hd hm =>
    have hread := Happens.read (h := h) hp he hs hr
    rw [receive_of_deliver hd hm] at hread
    exact .inl ⟨_, hread⟩
  | failWrite hp he hd => exact .inl ⟨_, .failWrite hp he hd⟩
  | write hp he hq hd => exact .inr (.write hp he hq hd)
  | abandon hp he hq hd =>
    refine haway (.abandon hp he hq hd) (by simp [hp]) fun j hj => ?_
    have hj' : c.phase = .connected j := hj
    rw [hp] at hj'
    cases hj'
  | @shut k l peer hp he hq =>
    refine haway (.shut hp he hq) (by simp [hp]) ?_
    obtain ⟨a, p, hd, hr⟩ := retry_eq ((c.stopWriting k).letGo l.peer)
    rw [hr]
    exact hdown hd

end Tunnel.Channel
