import Tunnel.Channel

/-!
# Moves of a channel

What a channel can do by itself at one time, each with what has to hold for it. Where `step?` chooses
one of several things that could be done, here each of them is a move: the writer may go on while there
is something to read, a write to a relay that is gone may fail before the reader sees that it is gone,
and a channel that is closed while its wait is over may still take the wait for over. Only what a reader
does once its lifetime has ended is settled: it stops.
-/
namespace Tunnel

def Message.isHeartbeat : Message → Bool
  | .ping _ => true
  | .pong _ => true
  | _ => false

namespace Channel

variable {σ : Type}

def MustEnd (c : Channel σ) (l : Connection) (peer : Peer) : Prop :=
  c.shutdown = true ∨ c.isSilent l = true ∨ (∃ text rest, peer.inbox = .failure text :: rest) ∨
    peer.inbox = [] ∧ peer.dropped = true

inductive Move (h : Handler σ) (c : Channel σ) : Channel σ → Prop where
  | attempt (hp : c.phase = .attempting) : Move h c c.attempt
  | wake {t : Nat} (hp : c.phase = .waiting t) (ht : t ≤ c.now) :
    Move h c { c with phase := .attempting }
  | giveUp {t : Nat} (hp : c.phase = .waiting t) (hs : c.shutdown = true) :
    Move h c (c.stop .closed)
  | hangUp {k : LinkId} {l : Connection} {peer : Peer} (hp : c.phase = .connected k)
    (he : c.endpoints? k = some (l, peer)) (hm : c.MustEnd l peer) : Move h c (c.hangUp h k)
  | beat {k : LinkId} {l : Connection} {peer : Peer} (hp : c.phase = .connected k)
    (he : c.endpoints? k = some (l, peer)) (hs : c.shutdown = false) (hb : l.nextBeat ≤ c.now)
    (hi : 0 < c.config.heartbeat.nanos) : Move h c (c.beat k)
  | pass {k : LinkId} {l : Connection} {peer : Peer} {raw : String} {rest : List Inbound}
    (hp : c.phase = .connected k) (he : c.endpoints? k = some (l, peer)) (hs : c.shutdown = false)
    (hr : peer.inbox = .frame raw :: rest)
    (hd : ∀ m, Message.decode raw = .ok m → ∃ ts, m = .pong ts) : Move h c (c.hear k l.peer rest)
  | answer {k : LinkId} {l : Connection} {peer : Peer} {raw : String} {rest : List Inbound}
    {ts : UInt64} (hp : c.phase = .connected k) (he : c.endpoints? k = some (l, peer))
    (hs : c.shutdown = false) (hr : peer.inbox = .frame raw :: rest)
    (hd : Message.decode raw = .ok (.ping ts)) :
    Move h c ((c.hear k l.peer rest).sendOn k (.pong 0)).2
  | deliver {k : LinkId} {l : Connection} {peer : Peer} {raw : String} {rest : List Inbound}
    {m : Message} (hp : c.phase = .connected k) (he : c.endpoints? k = some (l, peer))
    (hs : c.shutdown = false) (hr : peer.inbox = .frame raw :: rest)
    (hd : Message.decode raw = .ok m) (hm : m.isHeartbeat = false) :
    Move h c ((c.hear k l.peer rest).deliver h k m)
  | failWrite {k : LinkId} {l : Connection} {peer : Peer} (hp : c.phase = .connected k)
    (he : c.endpoints? k = some (l, peer)) (hd : peer.dropped = true) :
    Move h c ((c.stopWriting k).hangUp h k)
  | write {k : LinkId} {l : Connection} {peer : Peer} {m : Message} {ms : List Message}
    (hp : c.phase = .connected k ∨ c.phase = .closing k) (he : c.endpoints? k = some (l, peer))
    (hq : l.queued = m :: ms) (hd : peer.dropped = false) : Move h c (c.write k l.peer m ms)
  | abandon {k : LinkId} {l : Connection} {peer : Peer} {m : Message} {ms : List Message}
    (hp : c.phase = .closing k) (he : c.endpoints? k = some (l, peer)) (hq : l.queued = m :: ms)
    (hd : peer.dropped = true) : Move h c (c.stopWriting k)
  | shut {k : LinkId} {l : Connection} {peer : Peer} (hp : c.phase = .closing k)
    (he : c.endpoints? k = some (l, peer)) (hq : l.queued = []) :
    Move h c (((c.stopWriting k).letGo l.peer).retry)

/-- What is read is passed over, answered or handed on. -/
theorem move_receive {h : Handler σ} {c : Channel σ} {k : LinkId} {l : Connection} {peer : Peer}
    {raw : String} {rest : List Inbound} (hp : c.phase = .connected k)
    (he : c.endpoints? k = some (l, peer)) (hs : c.shutdown = false)
    (hr : peer.inbox = .frame raw :: rest) : Move h c ((c.hear k l.peer rest).receive h k raw) := by
  unfold receive
  split
  · rename_i e hd
    exact .pass hp he hs hr (fun m hm => by simp [hd] at hm)
  · rename_i ts hd
    exact .answer hp he hs hr hd
  · rename_i ts hd
    exact .pass hp he hs hr (fun m hm => ⟨ts, by simpa [hd] using hm.symm⟩)
  · rename_i m hping hpong hd
    refine .deliver hp he hs hr hd ?_
    cases m with
    | ping ts => exact absurd rfl (hping ts)
    | pong ts => exact absurd rfl (hpong ts)
    | _ => rfl

theorem move_of_stepConnected {h : Handler σ} {c c' : Channel σ} {k : LinkId} {l : Connection}
    {peer : Peer} (hp : c.phase = .connected k) (he : c.endpoints? k = some (l, peer))
    (hs : c.stepConnected h k l peer = some c') : Move h c c' := by
  unfold stepConnected at hs
  split at hs
  · rename_i hd
    obtain rfl := Option.some.inj hs
    exact .hangUp hp he (.inl hd)
  · rename_i hd
    have hd : c.shutdown = false := by simpa using hd
    split at hs
    · rename_i hb
      obtain rfl := Option.some.inj hs
      exact .beat hp he hd hb.1 hb.2
    · split at hs
      · rename_i hsil
        obtain rfl := Option.some.inj hs
        exact .hangUp hp he (.inr (.inl hsil))
      · split at hs
        · rename_i raw rest hin
          obtain rfl := Option.some.inj hs
          exact move_receive hp he hd hin
        · rename_i text rest hin
          obtain rfl := Option.some.inj hs
          exact .hangUp hp he (.inr (.inr (.inl ⟨text, rest, hin⟩)))
        · rename_i hin
          split at hs
          · rename_i hdrop
            obtain rfl := Option.some.inj hs
            exact .hangUp hp he (.inr (.inr (.inr ⟨hin, hdrop⟩)))
          · rename_i hdrop
            unfold stepWriter at hs
            split at hs
            · cases hs
            · rename_i m ms hq
              rw [if_neg hdrop] at hs
              obtain rfl := Option.some.inj hs
              exact .write (.inl hp) he hq (by simpa using hdrop)

theorem move_stepClosing {h : Handler σ} {c : Channel σ} {k : LinkId} {l : Connection}
    {peer : Peer} (hp : c.phase = .closing k) (he : c.endpoints? k = some (l, peer)) :
    Move h c (c.stepClosing k l peer) := by
  unfold stepClosing
  split
  · rename_i m ms hq
    split
    · rename_i hd
      exact .abandon hp he hq hd
    · rename_i hd
      exact .write (.inr hp) he hq (by simpa using hd)
  · rename_i hq
    exact .shut hp he hq

/-- What a channel does next is a move. -/
theorem move_of_step? {h : Handler σ} {c c' : Channel σ} (hs : c.step? h = some c') :
    Move h c c' := by
  unfold step? at hs
  split at hs
  · cases hs
  · rename_i hp
    obtain rfl := Option.some.inj hs
    exact .attempt hp
  · rename_i k hp
    split at hs
    · rename_i l peer he
      exact move_of_stepConnected hp he hs
    · cases hs
  · rename_i k hp
    split at hs
    · rename_i l peer he
      obtain rfl := Option.some.inj hs
      exact move_stepClosing hp he
    · cases hs
  · rename_i t hp
    split at hs
    · rename_i hd
      obtain rfl := Option.some.inj hs
      exact .giveUp hp hd
    · rename_i hd
      split at hs
      · rename_i ht
        obtain rfl := Option.some.inj hs
        exact .wake hp ht
      · cases hs
  · cases hs
  · cases hs

end Channel

end Tunnel
