import Tunnel.Proofs.Channel.Chronicle
import Tunnel.Proofs.Message.RoundTrip

/-!
# What becomes of frames

Frames are read in the order in which the relay sent them, each once, on the connection that they came
on. What the relay has sent to a connection is what was read on it, followed by what is yet to be read.
Heartbeats are answered on the same connection, all other messages are handed on with its link, and a
frame that is no message leaves everything as it is.
-/
namespace Tunnel.Channel

variable {σ : Type} {h : Handler σ} {c c' : Channel σ} {k : LinkId} {l : Connection} {peer : Peer}
  {s : σ} {w : List (LinkId × Message)} {fed : List (PeerId × Inbound)} {log : List Deed}

/-- The connector reads from all peers that it has not let go of. -/
def Attentive (c : Channel σ) : Prop :=
  ∀ (p : PeerId) (peer : Peer), c.peers[p]? = some peer → peer.reading = !peer.closed

theorem Attentive.of_modify (hh : c.Attentive) {p : PeerId} {g : Peer → Peer}
    (hpeers : c'.peers = c.peers.modify p g)
    (hg : ∀ peer, peer.reading = !peer.closed → (g peer).reading = !(g peer).closed) :
    c'.Attentive := by
  intro q peer' hq
  rw [hpeers, List.getElem?_modify] at hq
  obtain ⟨peer, hpeer, rfl⟩ := Option.map_eq_some_iff.1 hq
  split_ifs
  · exact hg peer (hh q peer hpeer)
  · exact hh q peer hpeer

theorem Attentive.congr (hh : c.Attentive) (hpeers : c'.peers = c.peers) : c'.Attentive := by
  intro p peer hp
  exact hh p peer (hpeers ▸ hp)

theorem Attentive.letGo (hh : c.Attentive) {p : PeerId} (hpeers : c'.peers = (c.letGo p).peers) :
    c'.Attentive :=
  hh.of_modify (g := fun peer => { peer with closed := true, reading := false }) hpeers fun _ _ => rfl

theorem Attentive.hear (hh : c.Attentive) (k : LinkId) (p : PeerId) (rest : List Inbound) :
    (c.hear k p rest).Attentive := hh.of_modify rfl fun _ hg => hg

theorem Attentive.refuse (hh : c.Attentive) (hpeers : c'.peers = c.peers) : c'.refuse.Attentive := by
  obtain ⟨a, p, -, hr⟩ := refuse_eq c'
  rw [hr]
  exact hh.congr hpeers

theorem Attentive.welcome (hh : c.Attentive) (hpeers : c'.peers = c.peers) (p : PeerId) :
    (c'.welcome p).Attentive := by
  have hh := hh.congr hpeers
  unfold Channel.welcome accept
  simp only
  split_ifs
  · exact hh.letGo rfl
  · exact hh.letGo rfl
  · exact hh

theorem Attentive.move (hh : c.Attentive) (hm : Move h c c') : c'.Attentive := by
  cases hm with
  | attempt hp =>
    unfold attempt
    split
    · exact hh.refuse rfl
    · exact hh.refuse rfl
    · exact hh.welcome (by rfl) _
  | beat hp he hs hb hi => exact hh.congr (sendOn_sameUnread ..).peers
  | pass hp he hs hr hd => exact hh.hear _ _ _
  | answer hp he hs hr hd => exact (hh.hear _ _ _).congr (sendOn_sameUnread ..).peers
  | deliver hp he hs hr hd hm => exact (hh.hear _ _ _).congr (deliver_sameUnread ..).peers
  | write hp he hq hd => exact hh.of_modify rfl fun _ hg => hg
  | @shut k l peer hp he hq =>
    obtain ⟨a, p, -, hr⟩ := retry_eq ((c.stopWriting k).letGo l.peer)
    rw [hr]
    exact hh.letGo rfl
  | _ => exact hh

theorem Attentive.touch (hh : c.Attentive) (ht : Touch h c c') : c'.Attentive := by
  cases ht with
  | acceptNext =>
    intro p peer hp
    rcases getElem?_concat_cases hp with hp | ⟨-, rfl⟩
    · exact hh p peer hp
    · rfl
  | feed i hp hr hd => exact hh.of_modify rfl fun _ hg => hg
  | dropPeer p => exact hh.of_modify rfl fun _ hg => hg
  | _ => exact hh

/-- The connector reads from the peer of an open connection. -/
theorem Resting.feed_fst (hr : c.Resting) (hc : c.Coherent) (hh : c.Attentive)
    (ho : c.isOpen k = true) (he : c.endpoints? k = some (l, peer)) (i : Inbound) :
    (c.feed h l.peer i).1 = true := by
  have hp := (hr.isOpen_iff hc).1 ho
  have hpeer := (endpoints?_eq_some.1 he).2
  have hread : peer.reading = true := by
    rw [hh l.peer peer hpeer, (hr.closed_iff hc he).2 hp]
    rfl
  unfold Channel.feed
  simp [hpeer, hread, (hr.quiet hp he).there]

theorem Attentive.path (hh : c.Attentive) {w : List (LinkId × Message)} (hp : Path h c w c') :
    c'.Attentive :=
  hp.keeps (P := Attentive) Attentive.move Attentive.touch (fun _ hd _ => hd) hh

/-- What does not change while a frame is read: the state of the channel, the link on which it sends,
its phase and its attempts, which connections there are and which of them are open, and what has come to
their peers. -/
structure Unmoved (c c' : Channel σ) : Prop where
  state : c'.state = c.state
  current : c'.current = c.current
  phase : c'.phase = c.phase
  attempts : c'.attempts = c.attempts
  attemptTimes : c'.attemptTimes = c.attemptTimes
  outcomes : c'.outcomes = c.outcomes
  linked : c'.linked = c.linked
  ended : ∀ j, c'.hasEnded j = c.hasEnded j
  isOpen : ∀ j, c'.isOpen j = c.isOpen j
  written : ∀ j, c'.writtenOn j = c.writtenOn j

theorem Unmoved.trans {d : Channel σ} (h : Unmoved c d) (g : Unmoved d c') : Unmoved c c' :=
  ⟨g.state.trans h.state, g.current.trans h.current, g.phase.trans h.phase,
    g.attempts.trans h.attempts, g.attemptTimes.trans h.attemptTimes, g.outcomes.trans h.outcomes,
    g.linked.trans h.linked, fun j => (g.ended j).trans (h.ended j),
    fun j => (g.isOpen j).trans (h.isOpen j), fun j => (g.written j).trans (h.written j)⟩

theorem hear_unmoved (c : Channel σ) (k : LinkId) (p : PeerId) (rest : List Inbound) :
    Unmoved c (c.hear k p rest) :=
  ⟨rfl, rfl, rfl, rfl, rfl, rfl, linked_of_modify rfl fun _ => rfl,
    hasEnded_of_modify rfl (by rfl) fun _ => by rfl, isOpen_hear c k p rest,
    writtenOn_of_modify rfl rfl (fun _ => rfl) fun _ => rfl⟩

theorem take_unmoved (c : Channel σ) (k : LinkId) (ms : List Message) : Unmoved c (c.take k ms) :=
  ⟨rfl, rfl, rfl, rfl, rfl, rfl, linked_of_modify rfl fun _ => rfl,
    hasEnded_of_modify rfl (by rfl) fun _ => by rfl, isOpen_take c k ms, writtenOn_take c k ms⟩

theorem receive_unmoved (ho : c.isOpen k = true) (raw : String) :
    Unmoved c (c.receive h k raw) := by
  rw [receive_of_isOpen ho]
  have hhand : Unmoved c { c with
      handler := (reply h c.handler k raw).1
      delivered := c.delivered ++ (Deed.read k raw).delivery?.toList } :=
    ⟨rfl, rfl, rfl, rfl, rfl, rfl, rfl, fun _ => rfl, fun _ => rfl, fun _ => rfl⟩
  exact hhand.trans (take_unmoved _ k _)

/-- What is handed on with a link are the messages that were read on its connection. -/
theorem sentOn_deliveries (log : List Deed) (k : LinkId) :
    sentOn (log.filterMap Deed.delivery?) k = (readOn log k).filterMap Inbound.forwarded? := by
  induction log with
  | nil => rfl
  | cons d log ih =>
    have hcons : sentOn ([d].filterMap Deed.delivery?) k =
        (readOn [d] k).filterMap Inbound.forwarded? := by
      cases d with
      | read j raw =>
        cases hf : (Inbound.frame raw).forwarded? with
        | none => by_cases hj : j = k <;> simp [sentOn, readOn, Deed.delivery?, Deed.readOn?, hf, hj]
        | some m => by_cases hj : j = k <;> simp [sentOn, readOn, Deed.delivery?, Deed.readOn?, hf, hj]
      | beat j => rfl
      | hangUp j => rfl
    rw [← List.singleton_append, List.filterMap_append, sentOn_append, hcons, ih, readOn_append,
      List.filterMap_append]

theorem Logged.sentOn_delivered (hl : Logged h s w fed c log) (he : c.endpoints? k = some (l, peer)) :
    (fedTo fed l.peer).filterMap Inbound.forwarded? =
      sentOn c.delivered k ++ peer.inbox.filterMap Inbound.forwarded? := by
  rw [hl.read k l.peer (linked_of_endpoints he), inboxOf_of_endpoints he, List.filterMap_append,
    hl.delivered, sentOn_deliveries]

theorem Logged.lt_of_delivered (hl : Logged h s w fed c log) {x : LinkId × Message}
    (hx : x ∈ c.delivered) : x.1 < c.connections.length := by
  refine Nat.lt_of_not_le fun hle => ?_
  -- nothing has been read on a connection that there is not
  have hnone : sentOn c.delivered x.1 = [] := by
    rw [hl.delivered, sentOn_deliveries, hl.unmade x.1 (by rwa [linked, List.length_map])]
    rfl
  have hsome : x.2 ∈ sentOn c.delivered x.1 :=
    List.mem_map_of_mem (List.mem_filter.2 ⟨hx, decide_eq_true rfl⟩)
  rw [hnone] at hsome
  cases hsome

/-- With no heartbeat due and before the deadline, a frame is read next. -/
theorem step?_of_frame (hp : c.phase = .connected k) (hs : c.shutdown = false)
    (he : c.endpoints? k = some (l, peer)) (hb : c.now < l.nextBeat) (hh : c.isSilent l = false)
    {raw : String} {rest : List Inbound} (hr : peer.inbox = .frame raw :: rest) :
    c.step? h = some ((c.hear k l.peer rest).receive h k raw) := by
  have hbeat : ¬ (l.nextBeat ≤ c.now ∧ 0 < c.config.heartbeat.nanos) := fun hle =>
    Nat.not_lt_of_le hle.1 hb
  unfold step?
  simp only [hp, he]
  unfold stepConnected
  simp [hs, hbeat, hh, hr]

/-- A frame that comes to a connection on which there is nothing to do is read at once. -/
theorem Quiet.feed_frame (hq : c.Quiet l peer) (hp : c.phase = .connected k)
    (he : c.endpoints? k = some (l, peer)) (hread : peer.reading = true) (raw : String) :
    c.feed h l.peer (.frame raw) = (true, ((c.hear k l.peer []).receive h k raw).settle h) := by
  let b := c.modifyPeer l.peer fun peer => { peer with inbox := peer.inbox ++ [.frame raw] }
  have hb : b.endpoints? k = some (l, { peer with inbox := [.frame raw] }) := by
    obtain ⟨hl, hpeer⟩ := endpoints?_eq_some.1 he
    refine endpoints?_eq_some.2 ⟨hl, ?_⟩
    change (c.peers.modify l.peer _)[l.peer]? = _
    rw [List.getElem?_modify_eq, hpeer]
    simp [hq.read]
  have hhear : b.hear k l.peer [] = c.hear k l.peer [] := by
    simp only [b, hear, modifyPeer, modifyConnection, List.modify_modify_eq]
    rfl
  have hstep : b.step? h = some ((c.hear k l.peer []).receive h k raw) := by
    rw [← hhear]
    exact step?_of_frame (c := b) hp hq.shutdown hb hq.beat hq.heard rfl
  rw [← settle_of_step? hstep]
  unfold feed
  simp [(endpoints?_eq_some.1 he).2, hread, hq.there, b]

/-- Every state that small steps lead to has a log of what happened to its connections, and after every
sequence of steps, which leaves nothing to be done, the log accounts for all that callers and the relay
sent. By every log, what was read, sent and ended says what the handler has become, what was handed on
and what the channel sent of itself. On each connection the frames were read in the order in which the
relay sent them, each once, and the rest is yet to be read. What is handed on with the link of a
connection is a first part of the messages that the relay sent there and that are no heartbeats, and at
rest all of them if the connection is open, from which all frames are read. Whenever a frame is read,
then the channel and its connections stay as they are: a ping is answered by one pong on the same link, a
message that is no heartbeat is handed on with that link, and with a pong or a frame that is no message
nothing else happens. -/
theorem inbound (config : ChannelConfig) (credentials : Credentials) (s : σ) (h : Handler σ)
    (hb : 0 < config.heartbeat.nanos) :
    let start := Channel.new config credentials s
    (∀ w c, Path h start w c → ∃ fed log, Course h start w fed log c) ∧
    (∀ steps, (start.run h steps).step? h = none ∧ ∃ log,
      Course h start (start.grantedIn h steps) (start.fedIn h steps) log (start.run h steps)) ∧
    (∀ w fed log c, Course h start w fed log c →
      c.handler = (heedAll h s (deedsOf log)).1 ∧
      c.delivered = (deedsOf log).filterMap Deed.delivery? ∧
      (∀ k, c.connections.length ≤ k → readOn (deedsOf log) k = []) ∧
      (∀ x ∈ c.delivered, x.1 < c.connections.length) ∧
      ∀ k l peer, c.endpoints? k = some (l, peer) →
        fedTo fed l.peer = readOn (deedsOf log) k ++ peer.inbox ∧
        Woven (sentOn w k) (sentOn (heedAll h s (deedsOf log)).2 k) l.taken ∧
        sentOn c.delivered k <+: (fedTo fed l.peer).filterMap Inbound.forwarded? ∧
        (c.step? h = none → c.isOpen k = true →
          sentOn c.delivered k = (fedTo fed l.peer).filterMap Inbound.forwarded? ∧
          ∀ i, (c.feed h l.peer i).1 = true)) ∧
    ∀ w d, Path h start w d → ∀ k l peer raw rest, d.phase = .connected k → d.shutdown = false →
      d.endpoints? k = some (l, peer) → peer.inbox = .frame raw :: rest →
      let d' := (d.hear k l.peer rest).receive h k raw
      Move h d d' ∧ (d.now < l.nextBeat → d.isSilent l = false → d.step? h = some d') ∧
      Unmoved d d' ∧ (∀ p, d'.inboxOf p = if p = l.peer then rest else d.inboxOf p) ∧
      (∀ e, Message.decode raw = .error e →
        d'.handler = d.handler ∧ d'.delivered = d.delivered ∧ Takes d d' k []) ∧
      (∀ ts, Message.decode raw = .ok (.ping ts) →
        d'.handler = d.handler ∧ d'.delivered = d.delivered ∧ Takes d d' k [.pong 0]) ∧
      (∀ ts, Message.decode raw = .ok (.pong ts) →
        d'.handler = d.handler ∧ d'.delivered = d.delivered ∧ Takes d d' k []) ∧
      ∀ m, Message.decode raw = .ok m → m.isHeartbeat = false →
        d'.handler = (h.handle d.handler k m).1 ∧ d'.delivered = d.delivered ++ [(k, m)] ∧
        Takes d d' k (h.handle d.handler k m).2 := by
  intro start
  have hstart : start.Coherent := new_coherent hb
  refine ⟨fun w c hp => hp.charted, fun steps => ⟨?_, run_course start steps⟩,
    fun w fed log c hd => ?_, ?_⟩
  · obtain ⟨hc, hr⟩ := hstart.run_resting (h := h) trivial steps
    exact hc.step?_eq_none.2 hr
  · have hc : c.Coherent := hstart.path (hd.path hstart)
    have hl := hd.logged hstart (new_logged config credentials s h)
    have hreads : c.Attentive := Attentive.path (c := start) nofun (hd.path hstart)
    refine ⟨hl.handler, hl.delivered, fun k hk => ?_, fun x => hl.lt_of_delivered,
      fun k l peer he => ⟨?_, ?_, ?_, fun hrest ho => ?_⟩⟩
    · exact hl.unmade k (by rwa [linked, List.length_map])
    · rw [hl.read k l.peer (linked_of_endpoints he), inboxOf_of_endpoints he]
    · rw [← takenOn_of_endpoints he]
      exact hl.taken k
    · rw [hl.sentOn_delivered he]
      exact List.prefix_append _ _
    · -- at rest nothing is left to be read
      have hr := hc.step?_eq_none.1 hrest
      refine ⟨?_, hr.feed_fst hc hreads ho he⟩
      rw [hl.sentOn_delivered he, (hr.quiet ((hr.isOpen_iff hc).1 ho) he).read]
      exact (List.append_nil _).symm
  · intro w d hd k l peer raw rest hp hs he hin d'
    have hopen := (hstart.path hd).isOpen_of_connected hp hs
    have ho : (d.hear k l.peer rest).isOpen k = true := by simp [hopen]
    have hhandler : d'.handler = (reply h d.handler k raw).1 := receive_handler ho raw
    have hdelivered : d'.delivered = d.delivered ++ (Deed.read k raw).delivery?.toList :=
      receive_delivered ho raw
    have htakes : Takes d d' k (reply h d.handler k raw).2 :=
      (receive_takes ho raw).of_eq (takenOn_hear d k l.peer rest)
    have hkept : (Inbound.frame raw).forwarded? = none → d'.delivered = d.delivered := fun hnone => by
      simpa [Deed.delivery?, hnone] using hdelivered
    refine ⟨move_receive hp he hs hin, fun hnow hline => step?_of_frame hp hs he hnow hline hin,
      (hear_unmoved d k l.peer rest).trans (receive_unmoved ho raw), inboxOf_receive hopen he raw rest,
      fun e hdec => ?_, fun ts hdec => ?_, fun ts hdec => ?_, fun m hdec hm => ?_⟩
    · simp only [reply, hdec] at hhandler htakes
      exact ⟨hhandler, hkept (by simp [Inbound.forwarded?, hdec]), htakes⟩
    · simp only [reply, hdec] at hhandler htakes
      exact ⟨hhandler, hkept (by simp [Inbound.forwarded?, hdec, Message.isHeartbeat]), htakes⟩
    · simp only [reply, hdec] at hhandler htakes
      exact ⟨hhandler, hkept (by simp [Inbound.forwarded?, hdec, Message.isHeartbeat]), htakes⟩
    · rw [reply_of_message hdec hm] at hhandler htakes
      exact ⟨hhandler, by simpa [Deed.delivery?, Inbound.forwarded?, hdec, hm] using hdelivered, htakes⟩

/-- A frame that is no message, a ping and a message come in turn: the ping is answered, and the message
is handed on. -/
theorem inbound_frames :
    let config : ChannelConfig := {}
    let h : Handler (List Message) := ⟨fun s _ m => (s ++ [m], []), fun s _ => s⟩
    let start := Channel.new config ⟨"wss://relay.example.com/c", "t0k"⟩ []
    let ping := (Message.ping 5).encode
    let finish := (Message.finish ⟨"r"⟩).encode
    let steps : List Step := [.acceptNext, .connect, .feed 0 (.frame ""), .feed 0 (.frame ping),
      .feed 0 (.frame finish)]
    let c := start.run h steps
    0 < config.heartbeat.nanos ∧ c.isOpen 0 = true ∧
      start.fedIn h steps = [(0, .frame ""), (0, .frame ping), (0, .frame finish)] ∧
      c.handler = [.finish ⟨"r"⟩] ∧ c.delivered = [(0, .finish ⟨"r"⟩)] ∧ c.takenOn 0 = [.pong 0] ∧
      sentOn c.delivered 0 = (fedTo (start.fedIn h steps) 0).filterMap Inbound.forwarded? := by
  intro config h start ping finish steps c
  have hb : 0 < config.heartbeat.nanos := by decide
  have hjunk : ∃ e, Message.decode "" = .error e := ⟨_, by rfl⟩
  have hping : Message.decode ping = .ok (.ping 5) := Message.decode_encode _
  have hfinish : Message.decode finish = .ok (.finish ⟨"r"⟩) := Message.decode_encode _
  let d := ({ start.acceptNext.2 with phase := .attempting } : Channel (List Message)).attempt
  have hconnect : (start.acceptNext.2.connect h).2 = d := by
    have hsnd : (start.acceptNext.2.connect h).2 = d.settle h := connect_snd (by decide +kernel) rfl
    rw [hsnd, settle_of_settled (by rfl)]
  let d₁ := d.hear 0 0 []
  have h₁ : d.feed h 0 (.frame "") = (true, d₁) := by
    obtain ⟨e, he⟩ := hjunk
    have hquiet : d.Quiet (d.newConnection 0) {} := ⟨rfl, by decide, rfl, rfl, rfl, rfl⟩
    refine (hquiet.feed_frame (k := 0) rfl rfl rfl _).trans ?_
    rw [receive, he]
    exact congrArg _ (settle_of_settled (by rfl))
  let d₂ := ((d₁.hear 0 0 []).take 0 [.pong 0]).write 0 0 (.pong 0) []
  have h₂ : d₁.feed h 0 (.frame ping) = (true, d₂) := by
    have hquiet : d₁.Quiet (d.newConnection 0) {} := ⟨rfl, by decide, rfl, rfl, rfl, rfl⟩
    refine (hquiet.feed_frame (k := 0) rfl rfl rfl _).trans ?_
    rw [receive, hping]
    have hwrite : ((d₁.hear 0 0 []).take 0 [.pong 0]).step? h = some d₂ := by rfl
    change (true, ((d₁.hear 0 0 []).take 0 [.pong 0]).settle h) = _
    rw [settle_of_step? hwrite, settle_of_settled (by rfl)]
  let d₃ : Channel (List Message) := { d₂.hear 0 0 [] with
    handler := [.finish ⟨"r"⟩], delivered := [(0, .finish ⟨"r"⟩)] }
  have h₃ : d₂.feed h 0 (.frame finish) = (true, d₃) := by
    have hquiet : d₂.Quiet { d.newConnection 0 with taken := [.pong 0] } { outbox := [.pong 0] } :=
      ⟨rfl, by decide, rfl, rfl, rfl, rfl⟩
    refine (hquiet.feed_frame (k := 0) rfl rfl rfl _).trans ?_
    rw [receive, hfinish]
    exact congrArg _ (settle_of_settled (by rfl))
  have hc : c = d₃ := by
    change ((((start.acceptNext.2.connect h).2.feed h 0 (.frame "")).2.feed h 0 (.frame ping)).2.feed
      h 0 (.frame finish)).2 = _
    rw [hconnect, h₁, h₂, h₃]
  have hfed : start.fedIn h steps = [(0, .frame ""), (0, .frame ping), (0, .frame finish)] := by
    change (start.acceptNext.2.connect h).2.fedIn h _ = _
    rw [hconnect]
    simp [fedIn, fedBy, act, h₁, h₂, h₃]
  obtain ⟨-, hruns, hlogs, -⟩ := inbound config ⟨"wss://relay.example.com/c", "t0k"⟩ [] h hb
  obtain ⟨hrest, log, hlog⟩ := hruns steps
  obtain ⟨-, -, -, -, hall⟩ := hlogs _ _ _ _ hlog
  have hopen : c.isOpen 0 = true := by
    rw [hc]
    rfl
  obtain ⟨peer, he⟩ : ∃ peer, c.endpoints? 0 = some (_, peer) := by
    rw [hc]
    exact ⟨_, rfl⟩
  obtain ⟨-, -, -, hsame⟩ := hall 0 _ peer he
  exact ⟨hb, hopen, hfed, by rw [hc], by rw [hc], by rw [hc]; rfl, (hsame hrest hopen).1⟩

end Tunnel.Channel
