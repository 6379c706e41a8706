import Tunnel.Proofs.Channel.Close
import Tunnel.Proofs.Channel.Delivery

/-!
# What a close leaves

To close a channel that is at rest takes two steps: the connection that serves hangs up, and as its
queue is empty it is closed at once. The channel has stopped then, and nothing that others do, and no
time that passes, changes what it has come to.
-/
namespace Tunnel.Channel

variable {σ : Type} {h : Handler σ} {c c' : Channel σ} {k : LinkId} {l : Connection} {peer : Peer}

def arrivedAt (c : Channel σ) (p : PeerId) : List String :=
  (c.peers[p]?.map Peer.received).getD []

/-- What a handler has become once the channel is closed: it has learnt of the end of the link that
was open, if there was one. -/
def dismissed (h : Handler σ) (c : Channel σ) : σ :=
  match c.phase with
  | .connected k => h.linkEnded c.handler k
  | _ => c.handler

structure Finished (h : Handler σ) (c c' : Channel σ) : Prop where
  phase : c'.phase = .stopped .closed
  shutdown : c'.shutdown = true
  state : c'.state.current = .disconnected
  handler : c'.handler = c.dismissed h
  delivered : c'.delivered = c.delivered
  connections : c'.connections.length = c.connections.length
  arrived : ∀ p, c'.arrivedAt p = c.arrivedAt p
  onward : ∀ {k l peer}, c.endpoints? k = some (l, peer) → ∃ l' peer',
    c'.endpoints? k = some (l', peer') ∧ l'.taken = l.taken ∧ peer'.dropped = peer.dropped ∧
      peer'.received = peer.received

theorem arrivedAt_of_modify {p : PeerId} {g : Peer → Peer} (hpeers : c'.peers = c.peers.modify p g)
    (hg : ∀ peer, (g peer).outbox = peer.outbox) (q : PeerId) : c'.arrivedAt q = c.arrivedAt q := by
  simp only [arrivedAt, hpeers, List.getElem?_modify]
  cases c.peers[q]? with
  | none => rfl
  | some peer => by_cases hq : p = q <;> simp [hq, Peer.received, hg]

/-- A channel that is closed while it waits stops. -/
theorem close_of_waiting {t : Nat} (hp : c.phase = .waiting t) :
    c.close h = ({ c with shutdown := true } : Channel σ).stop .closed := by
  have hstep : ({ c with shutdown := true } : Channel σ).step? h =
      some (({ c with shutdown := true } : Channel σ).stop .closed) := by
    simp only [step?, hp, if_true]
  rw [close, settle_of_step? hstep]
  exact settle_of_settled rfl

/-- A channel that is closed at rest ends the connection that serves, and stops. -/
theorem Resting.close_of_connected (hr : c.Resting) (hp : c.phase = .connected k)
    (he : c.endpoints? k = some (l, peer)) :
    c.close h = (((((({ c with shutdown := true } : Channel σ).hangUp h k).stopWriting k).letGo
      l.peer).publish .disconnected).stop .closed) := by
  let b : Channel σ := { c with shutdown := true }
  have hhang : b.step? h = some (b.hangUp h k) := by
    have he' : b.endpoints? k = some (l, peer) := he
    have hp' : b.phase = .connected k := hp
    simp only [step?, hp', he']
    exact if_pos rfl
  have hshut : (b.hangUp h k).step? h = some ((((b.hangUp h k).stopWriting k).letGo l.peer).retry) := by
    have he' : (b.hangUp h k).endpoints? k = some ({ l with ended := true }, peer) := by
      refine endpoints?_eq_some.2 ⟨?_, (endpoints?_eq_some.1 he).2⟩
      change (c.connections.modify k _)[k]? = _
      rw [List.getElem?_modify_eq, (endpoints?_eq_some.1 he).1]
      rfl
    have hp' : (b.hangUp h k).phase = .closing k := rfl
    -- nothing was left to be written
    have hq : l.queued = [] := (hr.quiet hp he).written
    simp only [step?, hp', he', stepClosing, hq]
  have hstop := retry_of_shutdown (c := ((b.hangUp h k).stopWriting k).letGo l.peer) rfl
  rw [close, settle_of_step? hhang, settle_of_step? hshut, hstop]
  exact settle_of_settled rfl

theorem finished_of_waiting {t : Nat} (hp : c.phase = .waiting t) : Finished h c (c.close h) := by
  rw [close_of_waiting hp]
  exact ⟨rfl, rfl, rfl, by rw [dismissed, hp]; rfl, rfl, rfl, fun _ => rfl,
    fun he => ⟨_, _, he, rfl, rfl, rfl⟩⟩

theorem Resting.finished_of_connected (hr : c.Resting) (hp : c.phase = .connected k)
    (he : c.endpoints? k = some (l, peer)) : Finished h c (c.close h) := by
  rw [hr.close_of_connected hp he]
  let b : Channel σ := ({ c with shutdown := true } : Channel σ).hangUp h k
  refine ⟨rfl, rfl, rfl, by rw [dismissed, hp]; rfl, rfl, ?_, arrivedAt_of_modify rfl fun _ => rfl,
    fun {j l' peer'} he' => ?_⟩
  · exact (List.length_modify ..).trans (List.length_modify ..)
  · have hend : b.endpoints? j = some (if k = j then { l' with ended := true } else l', _) :=
      endpoints?_of_modify (f := fun l => { l with ended := true }) (p := l.peer) (g := id) rfl
        (by rw [List.modify_id]; rfl) (fun _ => rfl) he'
    have hshut : ((b.stopWriting k).letGo l.peer).endpoints? j = some (_, _) :=
      endpoints?_of_modify (f := fun l => { l with writing := false, queued := [] })
        (g := fun peer => { peer with closed := true, reading := false }) rfl rfl (fun _ => rfl) hend
    refine ⟨_, _, hshut, ?_, ?_, ?_⟩
    · split_ifs <;> rfl
    · split_ifs <;> rfl
    · split_ifs <;> rfl

/-- What stays as it is once a channel that was closed has stopped. -/
structure Final (c c' : Channel σ) : Prop where
  phase : c'.phase = c.phase
  shutdown : c'.shutdown = true
  noAttempt : NoAttempt c c'
  state : c'.state = c.state
  handler : c'.handler = c.handler
  delivered : c'.delivered = c.delivered
  connections : c'.connections = c.connections
  arrived : ∀ p, c'.arrivedAt p = c.arrivedAt p

theorem Final.refl (hs : c.shutdown = true) : Final c c :=
  ⟨rfl, hs, .refl c, rfl, rfl, rfl, rfl, fun _ => rfl⟩

@[simp] theorem arrivedAt_acceptNext (c : Channel σ) (p : PeerId) :
    c.acceptNext.2.arrivedAt p = c.arrivedAt p := by
  simp only [arrivedAt, acceptNext]
  rcases Nat.lt_trichotomy p c.peers.length with hp | rfl | hp
  · rw [List.getElem?_append_left hp]
  · rw [List.getElem?_concat_length, List.getElem?_eq_none (Nat.le_refl _)]
    rfl
  · rw [List.getElem?_eq_none (Nat.le_of_lt hp),
      List.getElem?_eq_none (by simpa using Nat.succ_le_of_lt hp)]

theorem Final.touch {b : Channel σ} (hf : Final b c) (ht : Touch h c c') (hp : c.phase ≠ .idle) :
    Final b c' := by
  have hn := hf.noAttempt.touch ht
  cases ht with
  | connect hi => exact absurd hi hp
  | close =>
    exact ⟨hf.phase, rfl, hn, hf.state, hf.handler, hf.delivered, hf.connections, hf.arrived⟩
  | join | pass | refuseNext =>
    exact ⟨hf.phase, hf.shutdown, hn, hf.state, hf.handler, hf.delivered, hf.connections, hf.arrived⟩
  | acceptNext =>
    exact ⟨hf.phase, hf.shutdown, hn, hf.state, hf.handler, hf.delivered, hf.connections,
      fun p => (arrivedAt_acceptNext c p).trans (hf.arrived p)⟩
  | feed | dropPeer =>
    exact ⟨hf.phase, hf.shutdown, hn, hf.state, hf.handler, hf.delivered, hf.connections,
      fun p => (arrivedAt_of_modify rfl (fun _ => by rfl) p).trans (hf.arrived p)⟩

/-- No message is taken of a channel that was closed and has stopped, and nothing changes. -/
theorem final_path {exit : ChannelExit} (hp : c.phase = .stopped exit) (hs : c.shutdown = true)
    {w : List (LinkId × Message)} (hpath : Path h c w c') : w = [] ∧ Final c c' := by
  induction hpath with
  | refl => exact ⟨rfl, .refl hs⟩
  | move _ hm ih => exact absurd (ih.2.phase.trans hp) (hm.going.2.2 exit)
  | touch _ ht ih =>
    refine ⟨ih.1, ih.2.touch ht ?_⟩
    rw [ih.2.phase, hp]
    nofun
  | send _ m ho ih =>
    rw [isOpen_of_shutdown ih.2.shutdown] at ho
    cases ho

theorem send_of_disconnected (hs : c.state.current = .disconnected) (m : Message) :
    (c.send h m).1 = false := by
  unfold send
  split
  · rw [if_neg (by rw [hs]; nofun)]
  · rfl

theorem join_of_stopped {exit : ChannelExit} (hp : c.phase = .stopped exit)
    (hj : c.joined = false) (span : Nat) : (c.join h span).1 = .exited exit := by
  simp [join, hj, hp, isOver, report]

theorem Resting.finished (hr : c.Resting) (hc : c.Coherent) (hi : c.phase ≠ .idle)
    (hg : c.isOver = false) : Finished h c (c.close h) := by
  cases hp : c.phase with
  | idle => exact absurd hp hi
  | connected k =>
    obtain ⟨l, peer, he⟩ := hc.endpoints_of_connected hp
    exact hr.finished_of_connected hp he
  | waiting t => exact finished_of_waiting hp
  | attempting | closing k => simp [Resting, hp] at hr
  | stopped exit | crashed => simp [isOver, hp] at hg

/-- In every state in which a channel has been started and has not stopped, and there is nothing left to
do: once it is closed and has done what there is then to do, it has stopped as closed and shows itself
disconnected, without an attempt, without a delivery and without a message. The handler has learnt of the
end of the link that was open. All connections are closed, and all that their links took has come to
their peers, unless the relay is gone. From then on, whatever happens and whatever time passes, no
attempt is made, nothing comes to the handler or to a peer, no link is open, no message is taken, and the
first wait for the end of the channel says that it was closed. -/
theorem close_final (config : ChannelConfig) (credentials : Credentials) (s : σ) (h : Handler σ)
    (hb : 0 < config.heartbeat.nanos) {w : List (LinkId × Message)} {c : Channel σ}
    (hpath : Path h (Channel.new config credentials s) w c) (hrest : c.step? h = none)
    (hstarted : c.phase ≠ .idle) (hgoing : c.isOver = false) :
    let d := c.close h
    d.phase = .stopped .closed ∧ d.state.current = .disconnected ∧ NoAttempt c d ∧
    d.delivered = c.delivered ∧ d.handler = c.dismissed h ∧
    d.connections.length = c.connections.length ∧ (∀ p, d.arrivedAt p = c.arrivedAt p) ∧
    (∀ k l peer, c.endpoints? k = some (l, peer) → ∃ l' peer',
      d.endpoints? k = some (l', peer') ∧ l'.ended = true ∧ l'.taken = l.taken ∧
        peer'.closed = true ∧ peer'.dropped = peer.dropped ∧
        (peer.dropped = false → peer'.received = l.taken.map Message.encode)) ∧
    ∀ w' e, Path h d w' e → w' = [] ∧ Final d e ∧
      (∀ k, e.isOpen k = false ∧ e.hasEnded k = true) ∧ (∀ m, (e.send h m).1 = false) ∧
      (∀ k m, (e.sendThrough h k m).1 = false) ∧
      (e.joined = false → ∀ span, (e.join h span).1 = .exited .closed) := by
  intro d
  have hc : c.Coherent := (new_coherent hb).path hpath
  have hr : c.Resting := hc.step?_eq_none.1 hrest
  have hf : Finished h c d := hr.finished hc hstarted hgoing
  have hclose : Path h { c with shutdown := true } [] d := settle_path _
  have hd : d.Coherent := (hc.touch (h := h) .close).path hclose
  have hceased : Ceased c d :=
    (Ceased.of_close hstarted (dormant_of_settled hrest)).path hclose
  refine ⟨hf.phase, hf.state, hceased.noAttempt, hf.delivered, hf.handler, hf.connections, hf.arrived,
    fun k l peer he => ?_, fun w' e he => ?_⟩
  · obtain ⟨l', peer', he', htaken, hdropped, hreceived⟩ := hf.onward he
    have hstage : d.stage k = .closed := stage_of_isDown hf.phase trivial k
    have hfits := hd.fits k l' peer' he'
    have hended : l'.ended = true := by
      cases hno : l'.ended with
      | true => rfl
      | false => cases hstage.symm.trans (hfits.ended.1 hno)
    refine ⟨l', peer', he', hended, htaken, hfits.closed.2 hstage, hdropped, fun hthere => ?_⟩
    rw [hreceived]
    exact hr.received hc he hthere
  · obtain ⟨hnone, hfinal⟩ := final_path hf.phase hf.shutdown he
    refine ⟨hnone, hfinal, fun k => ⟨isOpen_of_shutdown hfinal.shutdown k,
      hasEnded_of_shutdown hfinal.shutdown k⟩, send_of_disconnected ?_, fun k m => ?_, fun hj =>
      join_of_stopped (hfinal.phase.trans hf.phase) hj⟩
    · rw [hfinal.state, hf.state]
    · unfold sendThrough
      rw [sendOn_of_not_isOpen (isOpen_of_shutdown hfinal.shutdown k)]

/-- A channel that has sent a message and is closed: the message has come to the peer, then the end of
the connection, and a message that is sent a minute later is not taken. -/
theorem close_final_connected :
    let config : ChannelConfig := {}
    let h : Handler Unit := ⟨fun s _ _ => (s, []), fun s _ => s⟩
    let start := Channel.new config ⟨"wss://relay.example.com/c", "t0k"⟩ ()
    let c := start.run h [.acceptNext, .connect, .send (.pong 7)]
    let d := c.close h
    let e := d.run h [.advance 60000000000]
    0 < config.heartbeat.nanos ∧ c.step? h = none ∧ c.phase ≠ .idle ∧ c.isOver = false ∧
      d.phase = .stopped .closed ∧
      (∃ l peer, d.endpoints? 0 = some (l, peer) ∧ peer.closed = true ∧
        peer.received = [Message.encode (.pong 7)]) ∧
      (e.send h (.pong 8)).1 = false ∧ (e.sendThrough h 0 (.pong 8)).1 = false := by
  intro config h start c d e
  have hb : 0 < config.heartbeat.nanos := by decide
  let first := ({ start.acceptNext.2 with phase := .attempting } : Channel Unit).attempt
  let sent := (first.take 0 [.pong 7]).write 0 0 (.pong 7) []
  have hconnect : (start.acceptNext.2.connect h).2 = first :=
    connect_of_settled (by decide +kernel) rfl rfl
  have hsend : (first.send h (.pong 7)).2 = sent := by
    have hstep : (first.take 0 [.pong 7]).step? h = some sent := by rfl
    change (first.take 0 [.pong 7]).settle h = _
    rw [settle_of_step? hstep, settle_of_settled (by rfl)]
  have hc : c = sent := by
    change ((start.acceptNext.2.connect h).2.send h (.pong 7)).2 = _
    rw [hconnect, hsend]
  have hrest : c.step? h = none := by
    rw [hc]
    rfl
  have hphase : c.phase = .connected 0 := by
    rw [hc]
    rfl
  have hstarted : c.phase ≠ .idle := by
    rw [hphase]
    nofun
  have hgoing : c.isOver = false := by
    rw [isOver, hphase]
  obtain ⟨l, peer, he, htaken, hthere⟩ : ∃ l peer, c.endpoints? 0 = some (l, peer) ∧
      l.taken = [.pong 7] ∧ peer.dropped = false := by
    rw [hc]
    exact ⟨_, _, rfl, rfl, rfl⟩
  obtain ⟨hstop, -, -, -, -, -, -, hpeers, hafter⟩ :=
    close_final config ⟨"wss://relay.example.com/c", "t0k"⟩ () h hb (run_path start _) hrest
      hstarted hgoing
  obtain ⟨l', peer', he', -, -, hclosed, -, hreceived⟩ := hpeers 0 l peer he
  obtain ⟨-, -, -, hsent, hthrough, -⟩ := hafter _ e (run_path d _)
  refine ⟨hb, hrest, hstarted, hgoing, hstop, ⟨l', peer', he', hclosed, ?_⟩, hsent _, hthrough 0 _⟩
  rw [hreceived hthere, htaken]
  rfl

end Tunnel.Channel
