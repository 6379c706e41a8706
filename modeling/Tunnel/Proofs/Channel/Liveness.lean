import Tunnel.Proofs.Channel.Timers

/-!
# Silence of the relay

A channel with a liveness timeout drops a connection on which the relay has been silent for that long,
and no connection for silence before that. What counts is when the relay was last heard: neither what is
sent nor the heartbeats of the channel make a difference. Without a timeout silence ends no connection.
-/
namespace Tunnel.Channel

variable {σ : Type} {h : Handler σ} {c c' : Channel σ} {k : LinkId} {l : Connection} {peer : Peer}
  {w : List (LinkId × Message)} {fed : List (PeerId × Inbound)} {log before after : List (Nat × Event)}
  {time since : Nat}

theorem Chronicled.lastHeard (hl : Chronicled log c) (hk : c.connections[k]? = some l) :
    lastHeard log k = some l.lastSeen :=
  (hl.timed k _ _ (timers_getElem? hk)).heard

def TooLong (c : Channel σ) (since : Nat) : Prop :=
  ∃ span, c.config.liveness = some span ∧ since + span.nanos ≤ c.now

theorem isSilent_iff : c.isSilent l = true ↔ c.TooLong l.lastSeen := by
  cases hspan : c.config.liveness <;> simp [isSilent, deadline, TooLong, hspan]

/-- A connection is dropped for silence as soon as its deadline has come. -/
theorem Chronicled.now_of_silent (hl : Chronicled log c) (hp : c.phase = .connected k)
    (hk : c.connections[k]? = some l) (hs : c.isSilent l = true) :
    ∃ span, c.config.liveness = some span ∧ c.now = l.lastSeen + span.nanos := by
  obtain ⟨span, hspan, hle⟩ := isSilent_iff.1 hs
  have hin := (hl.serving k hp).2 _ _ (timers_getElem? hk)
  exact ⟨span, hspan, Nat.le_antisymm (hin.heard span hspan) hle⟩

/-- Every connection that was dropped for silence had been heard a timeout ago. -/
theorem Course.silence (hc : c.Coherent) (hl : Chronicled [] c)
    (hd : Course h c w fed (before ++ (time, .ended k .silence) :: after) c') :
    ∃ span since, c.config.liveness = some span ∧ lastHeard before k = some since ∧
      time = since + span.nanos := by
  obtain ⟨v, f, d, d', hv, rfl, hends, -⟩ := hd.at_event
  have hlog := hv.chronicled hc hl
  have hconfig := (hv.path hc).settings.config
  cases hends with
  | ended hp he hs =>
    have hk := (endpoints?_eq_some.1 he).1
    obtain ⟨span, hspan, hnow⟩ := hlog.now_of_silent hp hk hs
    exact ⟨span, _, hconfig ▸ hspan, hlog.lastHeard hk, hnow⟩

/-- A connection that serves, on which nothing is to be read and of which the relay is still there, was
last heard at a time. -/
def Undisturbed (c : Channel σ) (k : LinkId) (since : Nat) : Prop :=
  c.phase = .connected k ∧ c.shutdown = false ∧ ∃ l peer, c.endpoints? k = some (l, peer) ∧
    l.lastSeen = since ∧ peer.inbox = [] ∧ peer.dropped = false

theorem TooLong.move (ht : c.TooLong since) (hm : Move h c c') : c'.TooLong since := by
  obtain ⟨span, hspan, hle⟩ := ht
  exact ⟨span, hm.settings.config ▸ hspan, hm.now ▸ hle⟩

theorem Undisturbed.of_modify {f : Connection → Connection} {p : PeerId} {g : Peer → Peer}
    (hu : c.Undisturbed k since) (hconn : c'.connections = c.connections.modify k f)
    (hpeers : c'.peers = c.peers.modify p g) (hphase : c'.phase = c.phase)
    (hdown : c'.shutdown = c.shutdown)
    (hf : ∀ l, (f l).peer = l.peer ∧ (f l).lastSeen = l.lastSeen)
    (hg : ∀ peer, (g peer).inbox = peer.inbox ∧ (g peer).dropped = peer.dropped) :
    c'.Undisturbed k since := by
  obtain ⟨hp, hs, l, peer, he, hseen, hread, hthere⟩ := hu
  refine ⟨hphase.trans hp, hdown.trans hs, _, _,
    endpoints?_of_modify hconn hpeers (fun l => (hf l).1) he, ?_, ?_, ?_⟩
  · rw [if_pos rfl, (hf l).2, hseen]
  · split
    · rw [(hg peer).1, hread]
    · exact hread
  · split
    · rw [(hg peer).2, hthere]
    · exact hthere

/-- Only silence for too long ends a connection that is not disturbed. -/
theorem Undisturbed.move (hu : c.Undisturbed k since) (hc : c.Coherent) (hm : Move h c c') :
    c'.Undisturbed k since ∨ c'.TooLong since := by
  have hu' := hu
  obtain ⟨hp, hs, l, peer, he, hseen, hread, hthere⟩ := hu'
  have hown : ∀ {j : LinkId} {l' : Connection} {peer' : Peer}, c.phase = .connected j →
      c.endpoints? j = some (l', peer') → j = k ∧ l' = l ∧ peer' = peer := by
    intro j l' peer' hpj hej
    obtain rfl : k = j := ChannelPhase.connected.inj (hp.symm.trans hpj)
    obtain ⟨rfl, rfl⟩ := Prod.mk.inj (Option.some.inj (hej.symm.trans he))
    exact ⟨rfl, rfl, rfl⟩
  have hpeers : c.peers = c.peers.modify 0 id := by rw [List.modify_id]
  cases hm with
  | hangUp hpj hej hm =>
    obtain ⟨rfl, rfl, rfl⟩ := hown hpj hej
    rcases hm with hm | hm | ⟨text, rest, hm⟩ | ⟨-, hm⟩
    · rw [hs] at hm
      cases hm
    · exact .inr (TooLong.move (hseen ▸ isSilent_iff.1 hm) (.hangUp hpj hej (.inr (.inl hm))))
    · rw [hread] at hm
      cases hm
    · rw [hthere] at hm
      cases hm
  | beat hpj hej hs' hb hi =>
    obtain ⟨rfl, rfl, rfl⟩ := hown hpj hej
    rw [beat_of_isOpen (hc.isOpen_of_connected hp hs)]
    exact .inl (hu.of_modify rfl hpeers rfl rfl (fun _ => ⟨rfl, rfl⟩) fun _ => ⟨rfl, rfl⟩)
  | pass hpj hej _ hr | answer hpj hej _ hr | deliver hpj hej _ hr =>
    obtain ⟨rfl, rfl, rfl⟩ := hown hpj hej
    rw [hread] at hr
    cases hr
  | failWrite hpj hej hd =>
    obtain ⟨rfl, rfl, rfl⟩ := hown hpj hej
    rw [hthere] at hd
    cases hd
  | write hpj hej hq hd =>
    rcases hpj with hpj | hpj
    · obtain ⟨rfl, rfl, rfl⟩ := hown hpj hej
      exact .inl (hu.of_modify rfl rfl rfl rfl (fun _ => ⟨rfl, rfl⟩) fun _ => ⟨rfl, rfl⟩)
    · rw [hp] at hpj
      cases hpj
  | attempt hp' | wake hp' | giveUp hp' | abandon hp' | shut hp' =>
    rw [hp] at hp'
    cases hp'

theorem Undisturbed.elapse (hu : c.Undisturbed k since) (hc : c.Coherent) {target : Nat}
    (hnow : c.now ≤ target)
    (hspan : ∀ span, c.config.liveness = some span → target < since + span.nanos) :
    (c.elapse h false target).isOpen k = true := by
  have hkeep : (c.elapse h false target).Coherent ∧ (c.elapse h false target).config = c.config ∧
      ((c.elapse h false target).Undisturbed k since ∨ (c.elapse h false target).TooLong since) := by
    refine elapse_keeps (P := fun d => d.Coherent ∧ d.config = c.config ∧
      (d.Undisturbed k since ∨ d.TooLong since)) ?_ ?_ false target ⟨hc, rfl, .inl hu⟩
    · rintro d d' ⟨hd, hconfig, hud⟩ hm
      refine ⟨hd.move hm, hm.settings.config.trans hconfig, ?_⟩
      rcases hud with hud | hlong
      · exact hud.move hd hm
      · exact .inr (hlong.move hm)
    · rintro d t ⟨hd, hconfig, hud⟩ hs hn hdue
      refine ⟨hd.touch (.pass hs hn hdue), hconfig, ?_⟩
      rcases hud with hud | ⟨span, hlive, hle⟩
      · exact .inl hud
      · exact .inr ⟨span, hlive, Nat.le_trans hle hn⟩
  obtain ⟨hd, hconfig, hud | ⟨span, hlive, hle⟩⟩ := hkeep
  · exact hd.isOpen_of_connected hud.1 hud.2.1
  · rw [hconfig] at hlive
    rw [elapse_now, Nat.max_eq_right hnow] at hle
    exact absurd (hspan span hlive) (Nat.not_lt.2 hle)

/-- After every run there is a log, and by every log of a channel with a heartbeat interval: a connection
that was dropped for silence had last been heard, when a frame was read or else when it was opened,
exactly a timeout before. The deadline of a connection is a timeout after it was last heard, whatever was
sent since. At rest less time than the timeout has passed since an open connection was last heard; time
that passes before its deadline leaves it open, and without a timeout any does. -/
theorem liveness_deadline (config : ChannelConfig) (credentials : Credentials) (s : σ) (h : Handler σ)
    (hb : 0 < config.heartbeat.nanos) :
    let start := Channel.new config credentials s
    (∀ steps, ∃ log,
      Course h start (start.grantedIn h steps) (start.fedIn h steps) log (start.run h steps)) ∧
    ∀ w fed log c, Course h start w fed log c →
      (∀ before time k after, log = before ++ (time, .ended k .silence) :: after →
        ∃ span since, config.liveness = some span ∧ lastHeard before k = some since ∧
          time = since + span.nanos) ∧
      (∀ k l, c.connections[k]? = some l → ∃ since, lastHeard log k = some since ∧
        c.deadline l = config.liveness.map fun span => since + span.nanos) ∧
      (c.step? h = none → ∀ k, c.isOpen k = true → ∃ since, lastHeard log k = some since ∧
        (∀ span, config.liveness = some span → c.now < since + span.nanos) ∧
        ∀ n, (∀ span, config.liveness = some span → c.now + n < since + span.nanos) →
          (c.advance h n).isOpen k = true) := by
  intro start
  refine ⟨fun steps => run_course start steps, fun w fed log c hd => ?_⟩
  obtain ⟨hc, hlog, hconfig⟩ := hd.of_new hb
  refine ⟨fun before time k after heq => ?_, fun k l hk => ⟨l.lastSeen, hlog.lastHeard hk, ?_⟩,
    fun hrest k ho => ?_⟩
  · subst heq
    exact hd.silence (new_coherent hb) (new_chronicled config credentials s)
  · rw [deadline, hconfig]
  · obtain ⟨hp, hs⟩ := hc.connected_of_isOpen ho
    obtain ⟨l, peer, he⟩ := hc.endpoints_of_connected hp
    have hq := (hc.step?_eq_none.1 hrest).quiet hp he
    refine ⟨l.lastSeen, hlog.lastHeard (endpoints?_eq_some.1 he).1, fun span hspan => ?_,
      fun n hn => ?_⟩
    · refine isSilent_eq_false.1 hq.heard _ ?_
      rw [deadline, hconfig, hspan]
      rfl
    · have hu : c.Undisturbed k l.lastSeen := ⟨hp, hs, l, peer, he, rfl, hq.read, hq.there⟩
      refine hu.elapse hc (Nat.le_add_right _ _) fun span hspan => hn span ?_
      rwa [hconfig] at hspan

/-- A relay that accepts a connection and then is silent for a second, with a timeout of a second and a
heartbeat every half minute. -/
theorem liveness_deadline_silent :
    let config : ChannelConfig := { liveness := some (.ofSeconds 1) }
    let h : Handler Unit := ⟨fun s _ _ => (s, []), fun s _ => s⟩
    let start := Channel.new config ⟨"wss://relay.example.com/c", "t0k"⟩ ()
    0 < config.heartbeat.nanos ∧
      (∃ c, Course h start [] [] [(0, .opened 0), (1000000000, .ended 0 .silence)] c ∧
        c.isOpen 0 = false) ∧
      ∃ span since, config.liveness = some span ∧ lastHeard [(0, .opened 0)] 0 = some since ∧
        1000000000 = since + span.nanos := by
  intro config h start
  have hb : 0 < config.heartbeat.nanos := by decide
  let ready : Channel Unit := { start.acceptNext.2 with phase := .attempting }
  let made : Channel Unit := ready.attempt
  let late : Channel Unit := { made with now := 1000000000 }
  have hmade : Course h start [] [] [(0, .opened 0)] made :=
    ((Course.refl.touch .acceptNext (inboxOf_acceptNext start)).touch (.connect rfl) fun _ => rfl).event
      (.opened rfl rfl rfl)
  have hlate : Course h start [] [] [(0, .opened 0)] late := by
    refine hmade.touch (.pass (by rfl) (Nat.zero_le _) fun d hd _ => ?_) fun _ => rfl
    obtain rfl := Option.some.inj hd
    decide +kernel
  have hdrop : Course h start [] [] [(0, .opened 0), (1000000000, .ended 0 .silence)]
      (late.hangUp h 0) := by
    have he : late.endpoints? 0 = some (ready.newConnection 0, {}) := rfl
    exact hlate.event (.ended rfl he (isSilent_iff.2 ⟨.ofSeconds 1, rfl, by decide +kernel⟩))
  obtain ⟨-, hlogs⟩ := liveness_deadline config ⟨"wss://relay.example.com/c", "t0k"⟩ () h hb
  exact ⟨hb, ⟨_, hdrop, rfl⟩, (hlogs _ _ _ _ hdrop).1 [(0, .opened 0)] 1000000000 0 [] rfl⟩

end Tunnel.Channel
