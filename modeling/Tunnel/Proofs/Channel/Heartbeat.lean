import Tunnel.Proofs.Channel.Timers

/-!
# Heartbeats

A channel sends a heartbeat on the connection that serves a period after it was opened, two periods after
it and so on, one each, whatever else comes to pass. It sends none on a connection that has ended, and
each connection has its own beat, from its own opening.
-/
namespace Tunnel.Channel

variable {σ : Type} {h : Handler σ} {c c' : Channel σ} {k : LinkId} {l : Connection} {peer : Peer}
  {w : List (LinkId × Message)} {fed : List (PeerId × Inbound)} {log before after : List (Nat × Event)}
  {time : Nat}

theorem beat_takes (hc : c.Coherent) (hp : c.phase = .connected k) (hs : c.shutdown = false)
    (h : Handler σ) : Takes c (c.beat k) k [.ping 0] := fun j =>
  ((beat_does (h := h) hc hp hs).taken j).trans (congrArg _ (sentOn_answers k j [.ping 0]))

theorem Chronicled.exists_ticks (hl : Chronicled log c) (hk : k < c.connections.length) :
    ∃ opened n, openings log k = [opened] ∧
      beatsOn log k = ticks opened c.config.heartbeat.nanos n := by
  obtain ⟨opened, n, hopened, hbeats, -⟩ :=
    (hl.timed k _ _ (timers_getElem? (List.getElem?_eq_getElem hk))).beats
  exact ⟨opened, n, hopened, hbeats⟩

/-- At rest all heartbeats have been sent that came due since the connection was opened. -/
theorem Chronicled.beatsOn_eq (hl : Chronicled log c) (hp : c.phase = .connected k)
    (hk : c.connections[k]? = some l) (hq : c.now < l.nextBeat) :
    ∃ opened, openings log k = [opened] ∧ opened ≤ c.now ∧ beatsOn log k =
      ticks opened c.config.heartbeat.nanos ((c.now - opened) / c.config.heartbeat.nanos) := by
  have htimers := timers_getElem? hk
  obtain ⟨opened, n, hopened, hbeats, hdue⟩ := (hl.timed k _ _ htimers).beats
  have hle := ((hl.serving k hp).2 _ _ htimers).le_now
  rw [hdue, Nat.succ_mul] at hq hle
  have hn : (c.now - opened) / c.config.heartbeat.nanos = n := by
    apply Nat.div_eq_of_lt_le
    · omega
    · rw [Nat.succ_mul]
      omega
  refine ⟨opened, hopened, by omega, ?_⟩
  rw [hn, hbeats]

/-- A heartbeat is sent only while its connection is open, and its link takes it then. -/
theorem Course.beat (hc : c.Coherent) (hl : Chronicled [] c)
    (hd : Course h c w fed (before ++ (time, .beat k) :: after) c') :
    ∃ v f d d', Course h c v f before d ∧ d.now = time ∧ d.isOpen k = true ∧ endings before k = [] ∧
      Takes d d' k [.ping 0] ∧ ∃ u g, Course h d' u g after c' := by
  obtain ⟨v, f, d, d', hv, hnow, hbeat, hafter⟩ := hd.at_event
  have hcd := hc.path (hv.path hc)
  cases hbeat with
  | beat hp he hs hb =>
    exact ⟨v, f, d, _, hv, hnow, hcd.isOpen_of_connected hp hs,
      ((hv.chronicled hc hl).serving k hp).1, beat_takes hcd hp hs h, hafter⟩

theorem Course.hasEnded (hc : c.Coherent) (hd : Course h c w fed log c')
    (hk : k < c.connections.length) (he : c.hasEnded k = true) : c'.hasEnded k = true :=
  (hc.later (hd.path hc)).hasEnded hc hk he

/-- No heartbeat is sent on a connection that has ended. -/
theorem Course.beatsOn_of_hasEnded (hc : c.Coherent) (hd : Course h c w fed log c')
    (hk : k < c.connections.length) (hended : c.hasEnded k = true) : beatsOn log k = [] := by
  rw [beatsOn, timesOn, List.map_eq_nil_iff, List.filter_eq_nil_iff]
  rintro ⟨time, e⟩ hx hbeat
  obtain ⟨before, after, rfl⟩ := List.append_of_mem hx
  obtain ⟨v, f, d, d', hv, -, hhappens, -⟩ := hd.at_event
  obtain ⟨hlink, hkind⟩ := of_decide_eq_true hbeat
  cases hhappens with
  | @beat j l peer hp he hs hb =>
    have hj : j = k := hlink
    rw [hj] at hp
    have hcd := hc.path (hv.path hc)
    have hopen := hcd.isOpen_of_connected hp hs
    rw [isOpen, hv.hasEnded hc hk hended] at hopen
    cases hopen
  | opened | read | ended | failWrite => cases hkind

/-- Nothing is written on a connection any more that has ended and is at rest. -/
theorem Course.writtenOn_of_resting (hc : c.Coherent) (hr : c.Resting)
    (hd : Course h c w fed log c') (hk : k < c.connections.length) (hended : c.hasEnded k = true) :
    c'.writtenOn k = c.writtenOn k := by
  obtain ⟨peer, he⟩ := hc.exists_endpoints (List.getElem?_eq_getElem hk)
  have hclosed : peer.closed = true := by
    cases hcl : peer.closed with
    | true => rfl
    | false =>
      have hno := (hr.hasEnded_iff hc).2 ((hr.closed_iff hc he).1 hcl)
      rw [hended] at hno
      cases hno
  obtain ⟨l', peer', he', hon⟩ := (hc.later (hd.path hc)).onward he
  rw [writtenOn_of_endpoints he, writtenOn_of_endpoints he']
  exact (hon.closed hclosed).2

/-- After every run there is a log, and by every log of a channel with a heartbeat interval: the
heartbeats that were sent on a connection are the first of those that come every interval from its
opening, one each, and at rest on an open connection they are all that came due by now, and have been
written. Each was sent while its connection was open and had not ended, and its link took one message for
it. What a link took is woven of what callers sent and of what the log accounts for. On a connection that
has ended and is at rest no heartbeat is sent any more, and nothing is written. -/
theorem heartbeats (config : ChannelConfig) (credentials : Credentials) (s : σ) (h : Handler σ)
    (hb : 0 < config.heartbeat.nanos) :
    let start := Channel.new config credentials s
    let period := config.heartbeat.nanos
    (∀ steps, ∃ log,
      Course h start (start.grantedIn h steps) (start.fedIn h steps) log (start.run h steps)) ∧
    ∀ w fed log c, Course h start w fed log c →
      (∀ k, k < c.connections.length → ∃ opened n, openings log k = [opened] ∧
        beatsOn log k = ticks opened period n) ∧
      (c.step? h = none → ∀ k, c.isOpen k = true → ∃ opened, openings log k = [opened] ∧
        opened ≤ c.now ∧ beatsOn log k = ticks opened period ((c.now - opened) / period) ∧
        c.writtenOn k = c.takenOn k) ∧
      (∀ before time k after, log = before ++ (time, .beat k) :: after → ∃ v f d d',
        Course h start v f before d ∧ d.now = time ∧ d.isOpen k = true ∧ endings before k = [] ∧
          Takes d d' k [.ping 0] ∧ ∃ u g, Course h d' u g after c) ∧
      (∀ k, Woven (sentOn w k) (sentOn (heedAll h s (deedsOf log)).2 k) (c.takenOn k)) ∧
      (c.step? h = none → ∀ k, k < c.connections.length → c.isOpen k = false →
        ∀ u g more c', Course h c u g more c' →
          beatsOn more k = [] ∧ c'.writtenOn k = c.writtenOn k) := by
  intro start period
  have hstart : start.Coherent := new_coherent hb
  refine ⟨fun steps => run_course start steps, fun w fed log c hd => ?_⟩
  obtain ⟨hc, hlog, hconfig⟩ := hd.of_new hb
  have hperiod : c.config.heartbeat.nanos = period := by rw [hconfig]
  refine ⟨fun k hk => ?_, fun hrest k ho => ?_, fun before time k after heq => ?_, fun k => ?_,
    fun hrest k hk ho u g more c' hmore => ?_⟩
  · rw [← hperiod]
    exact hlog.exists_ticks hk
  · have hr := hc.step?_eq_none.1 hrest
    have hp := (hr.isOpen_iff hc).1 ho
    obtain ⟨l, peer, he⟩ := hc.endpoints_of_connected hp
    obtain ⟨opened, hopened, hle, hbeats⟩ :=
      hlog.beatsOn_eq hp (endpoints?_eq_some.1 he).1 (hr.quiet hp he).beat
    refine ⟨opened, hopened, hle, ?_, hr.writtenOn_eq hc ((hr.hasEnded_iff hc).2 hp)⟩
    rw [← hperiod]
    exact hbeats
  · subst heq
    exact hd.beat hstart (new_chronicled config credentials s)
  · exact (hd.logged hstart (new_logged config credentials s h)).taken k
  · have hr := hc.step?_eq_none.1 hrest
    have hended : c.hasEnded k = true := by
      cases hno : c.hasEnded k with
      | true => rfl
      | false =>
        rw [(hr.isOpen_iff hc).2 ((hr.hasEnded_iff hc).1 hno)] at ho
        cases ho
    exact ⟨hmore.beatsOn_of_hasEnded hc hk hended, hmore.writtenOn_of_resting hc hr hk hended⟩

/-- A connection that was opened thirty milliseconds ago, with a heartbeat every twenty: one heartbeat
was sent, and it has come to the peer. -/
theorem heartbeats_first :
    let config : ChannelConfig := { heartbeat := .ofMillis 20 }
    let h : Handler Unit := ⟨fun s _ _ => (s, []), fun s _ => s⟩
    let start := Channel.new config ⟨"wss://relay.example.com/c", "t0k"⟩ ()
    let log : List (Nat × Event) := [(0, .opened 0), (20000000, .beat 0)]
    0 < config.heartbeat.nanos ∧ ∃ c, Course h start [] [] log c ∧ c.step? h = none ∧
      c.isOpen 0 = true ∧ c.now = 30000000 ∧ (∃ opened, openings log 0 = [opened] ∧
        beatsOn log 0 = ticks opened 20000000 ((c.now - opened) / 20000000)) ∧
      c.writtenOn 0 = [.ping 0] := by
  intro config h start log
  have hb : 0 < config.heartbeat.nanos := by decide
  let ready : Channel Unit := { start.acceptNext.2 with phase := .attempting }
  let made : Channel Unit := ready.attempt
  let due : Channel Unit := { made with now := 20000000 }
  let sent : Channel Unit := (due.beat 0).write 0 0 (.ping 0) []
  let beaten : Connection := { ready.newConnection 0 with
    taken := [.ping 0], nextBeat := due.now + config.heartbeat.nanos }
  let c : Channel Unit := { sent with now := 30000000 }
  have hmade : Course h start [] [] [(0, .opened 0)] made :=
    ((Course.refl.touch .acceptNext (inboxOf_acceptNext start)).touch (.connect rfl) fun _ => rfl).event
      (.opened rfl rfl rfl)
  have hdue : Course h start [] [] [(0, .opened 0)] due := by
    refine hmade.touch (.pass (by rfl) (Nat.zero_le _) fun d hd _ => ?_) fun _ => rfl
    obtain rfl := Option.some.inj hd
    decide +kernel
  have hbeat : Course h start [] [] log (due.beat 0) := by
    have he : due.endpoints? 0 = some (ready.newConnection 0, {}) := rfl
    exact hdue.event (.beat rfl he rfl (by decide +kernel))
  have hsent : Course h start [] [] log sent := by
    have hp : (due.beat 0).phase = .connected 0 := rfl
    have he : (due.beat 0).endpoints? 0 = some ({ beaten with queued := [.ping 0] }, {}) := rfl
    exact hbeat.aside (.write (.inl hp) he rfl rfl)
  have hquiet : ∀ {d : Channel Unit}, d.phase = .connected 0 → d.shutdown = false →
      d.config.liveness = none → d.endpoints? 0 = some (beaten, { outbox := [.ping 0] }) →
      d.now < beaten.nextBeat → d.step? h = none := by
    intro d hp hs hl he hnow
    have hq : d.Quiet beaten { outbox := [.ping 0] } :=
      ⟨hs, hnow, by simp [isSilent, deadline, hl], rfl, rfl, rfl⟩
    exact hq.step?_eq_none hp he
  have hc : Course h start [] [] log c := by
    refine hsent.touch (.pass (hquiet rfl rfl rfl rfl (by decide +kernel)) (by decide +kernel)
      fun d hd _ => ?_) fun _ => rfl
    obtain rfl := Option.some.inj hd
    decide +kernel
  have hrest : c.step? h = none := hquiet rfl rfl rfl rfl (by decide +kernel)
  obtain ⟨-, hlogs⟩ := heartbeats config ⟨"wss://relay.example.com/c", "t0k"⟩ () h hb
  obtain ⟨opened, hopened, -, hbeats, hwritten⟩ := (hlogs _ _ _ _ hc).2.1 hrest 0 (by rfl)
  have hperiod : config.heartbeat.nanos = 20000000 := by decide +kernel
  rw [hperiod] at hbeats
  exact ⟨hb, c, hc, hrest, rfl, rfl, ⟨opened, hopened, hbeats⟩, hwritten⟩

end Tunnel.Channel
