import Tunnel.Proofs.Channel.Effect
import Tunnel.Proofs.Channel.Onward
import Tunnel.Proofs.Channel.Rest

/-!
# What being connected means

The state that a channel publishes, the link on which it sends, the lifetime of that link and its
writer are four pieces of state. At rest they agree: the channel is connected exactly when it can send,
and then over the connection that the latest attempt made, whose link is the only one that is open.
-/
namespace Tunnel.Channel

variable {σ : Type} {h : Handler σ} {c c' : Channel σ} {k : LinkId} {l : Connection} {peer : Peer}

theorem Coherent.state_eq_connected (hc : c.Coherent) :
    c.state.current = .connected ↔ ∃ k, c.phase = .connected k := by
  have hs := hc.shown
  unfold Shown at hs
  cases hp : c.phase <;> simp_all

theorem Resting.shutdown_of_connected (hr : c.Resting) (hc : c.Coherent)
    (hp : c.phase = .connected k) : c.shutdown = false := by
  obtain ⟨l, peer, he⟩ := hc.endpoints_of_connected hp
  simp only [Resting, hp] at hr
  exact (hr l peer he).shutdown

theorem Resting.isOpen_iff (hr : c.Resting) (hc : c.Coherent) :
    c.isOpen k = true ↔ c.phase = .connected k :=
  ⟨fun ho => (hc.connected_of_isOpen ho).1,
    fun hp => hc.isOpen_of_connected hp (hr.shutdown_of_connected hc hp)⟩

theorem Resting.hasEnded_iff (hr : c.Resting) (hc : c.Coherent) :
    c.hasEnded k = false ↔ c.phase = .connected k := by
  refine ⟨fun he => (hc.connected_of_not_hasEnded he).1, fun hp => ?_⟩
  have ho := (hr.isOpen_iff hc).2 hp
  simp only [isOpen, Bool.and_eq_true, Bool.not_eq_true'] at ho
  exact ho.1

/-- The relay sees the latest connection open exactly while it serves. -/
theorem Resting.closed_iff (hr : c.Resting) (hc : c.Coherent)
    (he : c.endpoints? k = some (l, peer)) : peer.closed = false ↔ c.phase = .connected k := by
  have hf := hc.fits k l peer he
  rw [← stage_eq_serving]
  cases hs : c.stage k with
  | serving =>
    rw [hs] at hf
    simpa using mt hf.closed.1 nofun
  | closed =>
    rw [hs] at hf
    simp [hf.closed.2 rfl]
  | closing =>
    have hp : c.phase = .closing k := by
      unfold stage at hs
      split_ifs at hs with hconn hclos
      exact hclos
    simp [Resting, hp] at hr

theorem Resting.send_fst (hr : c.Resting) (hc : c.Coherent) (m : Message) :
    (c.send h m).1 = true ↔ ∃ k, c.phase = .connected k := by
  unfold Channel.send
  constructor
  · intro hs
    split at hs
    · split at hs
      · rename_i hstate
        exact hc.state_eq_connected.1 hstate
      · cases hs
    · cases hs
  · rintro ⟨k, hp⟩
    have ho := (hr.isOpen_iff hc).2 hp
    rw [hc.current_of_connected hp]
    simp only [hc.state_eq_connected.2 ⟨k, hp⟩, if_true]
    unfold Channel.sendThrough
    rw [sendOn_of_isOpen ho]

theorem Coherent.outcome_of_connected (hc : c.Coherent) (hp : c.phase = .connected k) :
    c.outcomes.getLast? = some (some k) := by
  have hs := hc.shown
  simp only [Shown, hp] at hs
  exact hs.2.2

/-- A link that is not open now will never be. -/
theorem Coherent.isOpen_run_eq_false (hc : c.Coherent) (hr : c.Resting)
    (hk : k < c.connections.length) (ho : c.isOpen k = false) (steps : List Step) :
    (c.run h steps).isOpen k = false ∧ (c.run h steps).hasEnded k = true := by
  have he : c.hasEnded k = true := by
    cases hno : c.hasEnded k with
    | true => rfl
    | false =>
      rw [hr.hasEnded_iff hc, ← hr.isOpen_iff hc, ho] at hno
      cases hno
  have hlater := (hc.later (run_path (h := h) c steps)).hasEnded hc hk he
  refine ⟨?_, hlater⟩
  simp [isOpen, hlater]

/-- At rest, these are the same: the channel is connected; a message can be sent; the latest attempt made
a connection that the relay sees open; the latest attempt made a connection whose link is open and whose
lifetime is not over. At most one link is open, those of all connections before the last are not and
their lifetimes are over, and no link opens again. Whoever watches the state knows whether a message can
be sent. -/
theorem connectivity (config : ChannelConfig) (credentials : Credentials) (s : σ) (h : Handler σ)
    (hb : 0 < config.heartbeat.nanos) (steps : List Step) :
    let c := (Channel.new config credentials s).run h steps
    (∀ m, c.state.current = .connected ↔ (c.send h m).1 = true) ∧
    (c.state.current = .connected ↔ ∃ k l peer, c.outcomes.getLast? = some (some k) ∧
      c.endpoints? k = some (l, peer) ∧ peer.closed = false) ∧
    (c.state.current = .connected ↔ ∃ k, c.outcomes.getLast? = some (some k) ∧
      c.isOpen k = true ∧ c.hasEnded k = false) ∧
    (∀ j k, c.isOpen j = true → c.isOpen k = true → j = k) ∧
    (∀ j k, j < k → k < c.connections.length → c.isOpen j = false ∧ c.hasEnded j = true) ∧
    (∀ k < c.connections.length, c.isOpen k = false → ∀ later,
      (c.run h later).isOpen k = false ∧ (c.run h later).hasEnded k = true) ∧
    ∀ store m, HealthReporter.isConnected ⟨store, c.state⟩ = (c.send h m).1 := by
  intro c
  obtain ⟨hc, hr⟩ : c.Coherent ∧ c.Resting := (new_coherent hb).run_resting trivial steps
  have hsend : ∀ m, c.state.current = .connected ↔ (c.send h m).1 = true := fun m => by
    rw [hc.state_eq_connected, hr.send_fst hc]
  refine ⟨hsend, ?_, ?_, ?_, ?_, fun k hk ho => hc.isOpen_run_eq_false hr hk ho, fun store m => ?_⟩
  · rw [hc.state_eq_connected]
    constructor
    · rintro ⟨k, hp⟩
      obtain ⟨l, peer, he⟩ := hc.endpoints_of_connected hp
      exact ⟨k, l, peer, hc.outcome_of_connected hp, he, (hr.closed_iff hc he).2 hp⟩
    · rintro ⟨k, l, peer, -, he, hcl⟩
      exact ⟨k, (hr.closed_iff hc he).1 hcl⟩
  · rw [hc.state_eq_connected]
    constructor
    · rintro ⟨k, hp⟩
      exact ⟨k, hc.outcome_of_connected hp, (hr.isOpen_iff hc).2 hp, (hr.hasEnded_iff hc).2 hp⟩
    · rintro ⟨k, -, ho, -⟩
      exact ⟨k, (hr.isOpen_iff hc).1 ho⟩
  · intro j k hj hk
    rw [hr.isOpen_iff hc] at hj hk
    rw [hj] at hk
    exact ChannelPhase.connected.inj hk
  · intro j k hjk hk
    have hnot : c.phase ≠ .connected j := by
      intro hp
      rw [hc.length_of_connected hp] at hk
      exact Nat.not_lt_of_le (Nat.le_of_lt_succ hk) hjk
    exact ⟨by simpa using mt (hr.isOpen_iff hc).1 hnot, by simpa using mt (hr.hasEnded_iff hc).1 hnot⟩
  · have hm := hsend m
    unfold HealthReporter.isConnected
    cases hs : (c.send h m).1 with
    | true => exact decide_eq_true (hm.2 hs)
    | false => exact decide_eq_false fun hst => by simp [hm.1 hst] at hs

/-- After an attempt that succeeds, a message can be sent. -/
theorem connectivity_accepted :
    let config : ChannelConfig := {}
    let h : Handler Unit := ⟨fun s _ _ => (s, []), fun s _ => s⟩
    let c := (Channel.new config ⟨"wss://relay.example.com/c", "t0k"⟩ ()).run h
      [.acceptNext, .connect]
    0 < config.heartbeat.nanos ∧ c.state.current = .connected ∧ (c.send h (.pong 7)).1 = true ∧
      ∃ k, c.outcomes.getLast? = some (some k) ∧ c.isOpen k = true ∧ c.hasEnded k = false := by
  intro config h c
  have hb : 0 < config.heartbeat.nanos := by decide
  have hc : c.state.current = .connected := by
    have hconn : c = (({ (Channel.new config ⟨"wss://relay.example.com/c", "t0k"⟩ ()).acceptNext.2
        with phase := .attempting } : Channel Unit).attempt).settle h :=
      connect_snd (by decide +kernel) rfl
    rw [hconn, settle_of_settled (by rfl)]
    rfl
  obtain ⟨hsend, -, hlink, -⟩ :=
    connectivity config ⟨"wss://relay.example.com/c", "t0k"⟩ () h hb [.acceptNext, .connect]
  exact ⟨hb, hc, (hsend _).1 hc, hlink.1 hc⟩

end Tunnel.Channel
