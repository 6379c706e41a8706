import Tunnel.Proofs.Channel.Close

/-!
# How a channel ends

Whatever its heartbeat interval, its liveness limit and its policy are, a channel is over in one of three
ways. It has stopped as it was closed, or as its budget is spent, and then it shows itself disconnected.
Or it has no heartbeat interval and was connected once: then it has crashed, shows itself connected, and
has nothing to report.
-/
namespace Tunnel.Channel

variable {σ : Type} {h : Handler σ} {c c' : Channel σ} {k : LinkId} {p : PeerId}

/-- No timer of a connection is set further ahead than its span. -/
def Timely (c : Channel σ) (l : Connection) : Prop :=
  l.lastSeen ≤ c.now ∧ l.nextBeat ≤ c.now + c.config.heartbeat.nanos

/-- What a channel shows once it is over, and what is behind it. -/
structure Standing (c : Channel σ) : Prop where
  budget : c.attempts.toNat ≤ c.config.reconnect.maxAttempts.toNat
  going : c.phase ≠ .crashed → 0 < c.config.heartbeat.nanos ∨ c.connections.length = 0
  crashed : c.phase = .crashed → c.config.heartbeat.nanos = 0 ∧ 0 < c.connections.length ∧
    c.state.current = .connected
  stopped : ∀ exit, c.phase = .stopped exit → c.state.current = .disconnected ∧
    (exit = .closed ∧ c.shutdown = true ∨ exit = .exhausted c.config.reconnect.maxAttempts)
  timers : ∀ l ∈ c.connections, c.Timely l

theorem new_standing (config : ChannelConfig) (credentials : Credentials) (s : σ) :
    (Channel.new config credentials s).Standing :=
  ⟨Nat.zero_le _, fun _ => .inr rfl, nofun, nofun, nofun⟩

theorem Standing.congr (hs : c.Standing) (hconfig : c'.config = c.config)
    (ha : c'.attempts = c.attempts) (hphase : c'.phase = c.phase) (hstate : c'.state = c.state)
    (hdown : c'.shutdown = c.shutdown) (hnow : c'.now = c.now)
    (hlen : c'.connections.length = c.connections.length)
    (ht : ∀ l ∈ c'.connections, c.Timely l) : c'.Standing := by
  refine ⟨?_, ?_, ?_, ?_, fun l hl => ?_⟩
  · rw [ha, hconfig]
    exact hs.budget
  · rw [hphase, hconfig, hlen]
    exact hs.going
  · rw [hphase, hconfig, hlen, hstate]
    exact hs.crashed
  · rw [hphase, hconfig, hstate, hdown]
    exact hs.stopped
  · unfold Timely
    rw [hconfig, hnow]
    exact ht l hl

/-- A channel that goes on, or stops, with the connections that it has. -/
theorem Standing.turn (hs : c.Standing) (hgo : c.phase ≠ .crashed) (hconfig : c'.config = c.config)
    (hlen : c'.connections.length = c.connections.length) (hnow : c'.now = c.now)
    (ht : ∀ l ∈ c'.connections, c.Timely l)
    (ha : c'.attempts.toNat ≤ c.config.reconnect.maxAttempts.toNat) (hgo' : c'.phase ≠ .crashed)
    (hstop : ∀ exit, c'.phase = .stopped exit → c'.state.current = .disconnected ∧
      (exit = .closed ∧ c'.shutdown = true ∨ exit = .exhausted c.config.reconnect.maxAttempts)) :
    c'.Standing := by
  refine ⟨?_, fun _ => ?_, fun hp => absurd hp hgo', ?_, fun l hl => ?_⟩
  · rw [hconfig]
    exact ha
  · rw [hconfig, hlen]
    exact hs.going hgo
  · rw [hconfig]
    exact hstop
  · unfold Timely
    rw [hconfig, hnow]
    exact ht l hl

theorem Standing.modifyConnection (hs : c.Standing) (k : LinkId) {f : Connection → Connection}
    (hf : ∀ l, c.Timely l → c.Timely (f l)) : (c.modifyConnection k f).Standing :=
  hs.congr rfl rfl rfl rfl rfl rfl (List.length_modify ..) (forall_mem_modify hs.timers hf k)

theorem Standing.modifyPeer (hs : c.Standing) (p : PeerId) (f : Peer → Peer) :
    (c.modifyPeer p f).Standing := hs.congr rfl rfl rfl rfl rfl rfl rfl hs.timers

theorem Standing.take (hs : c.Standing) (k : LinkId) (ms : List Message) :
    (c.take k ms).Standing := hs.modifyConnection k fun _ ht => ht

theorem Standing.sendOn (hs : c.Standing) (k : LinkId) (m : Message) :
    (c.sendOn k m).2.Standing := by
  unfold Channel.sendOn
  split
  · exact hs.take k [m]
  · exact hs

theorem Standing.sendAll (hs : c.Standing) (k : LinkId) (ms : List Message) :
    (c.sendAll k ms).Standing := by
  induction ms generalizing c with
  | nil => exact hs
  | cons m ms ih => exact ih (hs.sendOn k m)

theorem Standing.hear (hs : c.Standing) (k : LinkId) (p : PeerId) (rest : List Inbound) :
    (c.hear k p rest).Standing :=
  (hs.modifyPeer p _).modifyConnection k fun _ ht => ⟨Nat.le_refl _, ht.2⟩

theorem Standing.deliver (hs : c.Standing) (h : Handler σ) (k : LinkId) (m : Message) :
    (c.deliver h k m).Standing := by
  refine Standing.sendAll ?_ k _
  exact hs.congr rfl rfl rfl rfl rfl rfl rfl hs.timers

theorem Standing.beat (hs : c.Standing) (k : LinkId) : (c.beat k).Standing := by
  refine Standing.sendOn ?_ k _
  exact hs.modifyConnection k fun _ ht => ⟨ht.1, Nat.le_refl _⟩

theorem Standing.stopWriting (hs : c.Standing) (k : LinkId) : (c.stopWriting k).Standing :=
  hs.modifyConnection k fun _ ht => ht

theorem Standing.hangUp (hs : c.Standing) (h : Handler σ) (k : LinkId) (hgo : c.phase ≠ .crashed) :
    (c.hangUp h k).Standing :=
  hs.turn hgo rfl (List.length_modify ..) rfl
    (forall_mem_modify hs.timers (fun _ ht => by exact ht) k) hs.budget nofun nofun

theorem Standing.stop (hs : c.Standing) (hgo : c.phase ≠ .crashed) (hdown : c.shutdown = true) :
    (c.stop .closed).Standing :=
  hs.turn hgo rfl rfl rfl hs.timers hs.budget nofun fun _ hp =>
    ⟨rfl, .inl ⟨(ChannelPhase.stopped.inj hp).symm, hdown⟩⟩

theorem Standing.retry (hs : c.Standing) (hgo : c.phase ≠ .crashed) : c.retry.Standing := by
  cases hdown : c.shutdown with
  | true =>
    rw [retry_of_shutdown hdown]
    have hshown : (c.publish .disconnected).Standing :=
      hs.turn hgo rfl rfl rfl hs.timers hs.budget hgo fun exit hp => ⟨rfl, (hs.stopped exit hp).2⟩
    exact hshown.stop hgo hdown
  | false =>
    cases hd : c.config.reconnect.delayFor c.attempts with
    | none =>
      rw [retry_of_spent hdown hd]
      -- the count never goes beyond the budget
      have hmax : c.attempts = c.config.reconnect.maxAttempts :=
        UInt32.toNat_inj.1 (Nat.le_antisymm hs.budget (ReconnectPolicy.delayFor_eq_none.1 hd))
      refine hs.turn hgo rfl rfl rfl hs.timers hs.budget nofun fun exit hp => ⟨rfl, .inr ?_⟩
      rw [← ChannelPhase.stopped.inj hp, hmax]
    | some d =>
      rw [retry_of_delay hdown hd]
      refine hs.turn hgo rfl rfl rfl hs.timers ?_ nofun nofun
      have hlt := delayFor_eq_some_lt hd
      have hsize := c.config.reconnect.maxAttempts.toNat_lt
      change (c.attempts + 1).toNat ≤ _
      rw [UInt32.toNat_add, UInt32.toNat_one]
      omega

theorem Standing.refuse (hs : c.Standing) (hgo : c.phase ≠ .crashed) : c.refuse.Standing := by
  have hover : ({ c with
      outcomes := c.outcomes ++ [none], overTimes := c.overTimes ++ [c.now] } : Channel σ).Standing :=
    hs.congr rfl rfl rfl rfl rfl rfl rfl hs.timers
  unfold Channel.refuse
  simp only
  split
  · rename_i hdown
    exact hover.stop hgo hdown
  · exact hover.retry hgo

theorem Standing.accept (hs : c.Standing) (p : PeerId) : (c.accept p).Standing := by
  have hlen : 0 < (c.connections ++ [c.newConnection p]).length := by simp
  have ht : ∀ l ∈ c.connections ++ [c.newConnection p], c.Timely l := by
    intro l hl
    rcases List.mem_append.1 hl with hl | hl
    · exact hs.timers l hl
    · rw [List.mem_singleton.1 hl]
      exact ⟨Nat.le_refl _, Nat.le_refl _⟩
  unfold Channel.accept
  simp only
  split
  · rename_i hb
    refine ⟨Nat.zero_le _, fun hno => absurd rfl hno, fun _ => ⟨hb, ?_, rfl⟩, nofun, ?_⟩
    · exact Nat.lt_of_lt_of_eq hlen (List.length_modify ..).symm
    · exact forall_mem_modify (P := c.Timely) ht (fun _ ht => by exact ht) _
  · rename_i hb
    exact ⟨Nat.zero_le _, fun _ => .inl (Nat.pos_of_ne_zero hb), nofun, nofun, ht⟩

theorem Standing.attempt (hs : c.Standing) (hp : c.phase = .attempting) : c.attempt.Standing := by
  have hgo : c.phase ≠ .crashed := by
    rw [hp]
    nofun
  have hask : ∀ script, ({ c.ask with script } : Channel σ).Standing := fun script =>
    hs.turn hgo rfl rfl rfl hs.timers hs.budget hgo fun exit hstop => by cases hp.symm.trans hstop
  unfold Channel.attempt
  split
  · exact (hask c.script).refuse hgo
  · exact (hask _).refuse hgo
  · rename_i p script _
    unfold welcome
    split
    · rename_i hdown
      have hover : ({ c.ask with
          script, outcomes := c.outcomes ++ [none], overTimes := c.overTimes ++ [c.now]
        } : Channel σ).Standing :=
        (hask script).congr rfl rfl rfl rfl rfl rfl rfl hs.timers
      exact (hover.modifyPeer p _).stop hgo hdown
    · exact (hask script).accept p

theorem Standing.move (hs : c.Standing) (hm : Move h c c') : c'.Standing := by
  have hgo := hm.going.2.1
  cases hm with
  | attempt hp => exact hs.attempt hp
  | wake => exact hs.turn hgo rfl rfl rfl hs.timers hs.budget nofun nofun
  | giveUp hp hdown => exact hs.stop hgo hdown
  | hangUp => exact hs.hangUp h _ hgo
  | beat => exact hs.beat _
  | pass => exact hs.hear _ _ _
  | answer => exact (hs.hear _ _ _).sendOn _ _
  | deliver => exact (hs.hear _ _ _).deliver h _ _
  | failWrite => exact (hs.stopWriting _).hangUp h _ hgo
  | write => exact (hs.modifyConnection _ fun _ ht => by exact ht).modifyPeer _ _
  | abandon => exact hs.stopWriting _
  | shut => exact ((hs.stopWriting _).modifyPeer _ _).retry hgo

theorem Standing.touch (hs : c.Standing) (ht : Touch h c c') : c'.Standing := by
  cases ht with
  | connect hp =>
    exact hs.turn (by rw [hp]; nofun) rfl rfl rfl hs.timers hs.budget nofun nofun
  | close =>
    refine ⟨hs.budget, hs.going, hs.crashed, fun exit hp => ?_, hs.timers⟩
    obtain ⟨hstate, hexit⟩ := hs.stopped exit hp
    exact ⟨hstate, hexit.imp_left fun hcl => ⟨hcl.1, rfl⟩⟩
  | pass hrest hn =>
    refine ⟨hs.budget, hs.going, hs.crashed, hs.stopped, fun l hl => ?_⟩
    obtain ⟨hseen, hbeat⟩ := hs.timers l hl
    exact ⟨Nat.le_trans hseen hn, Nat.le_trans hbeat (Nat.add_le_add_right hn _)⟩
  | join | refuseNext | acceptNext => exact hs.congr rfl rfl rfl rfl rfl rfl rfl hs.timers
  | feed | dropPeer => exact hs.modifyPeer _ _

theorem Standing.path (hs : c.Standing) {w : List (LinkId × Message)} (hp : Path h c w c') :
    c'.Standing :=
  hp.keeps (P := Standing) Standing.move Standing.touch (fun m hd _ => hd.take _ [m]) hs

theorem report_eq_exited {exit : ChannelExit} (hr : c.report = .exited exit) :
    c.phase = .stopped exit := by
  unfold report at hr
  cases hp : c.phase with
  | stopped e =>
    simp only [hp] at hr
    rw [Join.exited.inj hr]
  | _ => simp [hp] at hr

theorem report_eq_nothing (hr : c.report = .nothing) (hover : c.isOver = true) :
    c.phase = .crashed := by
  unfold report at hr
  unfold isOver at hover
  cases hp : c.phase <;> simp [hp] at hr hover ⊢

/-- What the first wait for the end of a channel that was started says of it. -/
theorem join_fst (hi : c.phase ≠ .idle) (hj : c.joined = false) (span : Nat) :
    (∀ exit, (c.join h span).1 = .exited exit → (c.join h span).2.phase = .stopped exit) ∧
    ((c.join h span).1 = .nothing → (c.join h span).2.phase = .crashed) := by
  unfold join
  simp only [hj, hi, Bool.false_eq_true, or_self, if_false]
  split
  · rename_i hover
    exact ⟨fun exit hr => report_eq_exited hr, fun hr => report_eq_nothing hr hover⟩
  · split
    · rename_i hover
      exact ⟨fun exit hr => report_eq_exited hr, fun hr => report_eq_nothing hr hover.1⟩
    · exact ⟨nofun, nofun⟩

/-- In every state that a run comes to: the channel has crashed exactly if it has no heartbeat interval
and was connected, and then it shows itself connected. If it has stopped, it shows itself disconnected,
also to a monitor, and either it was closed or its budget is spent. The first wait for its end tells how
it stopped, and comes to nothing only if it has crashed, so with a heartbeat interval it never does. The
timers of a connection lie ahead of the time by their span at most.

The clock of a channel has no end here. On one that ends, a channel crashes as well when a timer is set
past the last point of time, and that it crashes exactly without an interval is meant of runs that keep
away from there: while the heartbeat interval and the liveness timeout from now on end by some point, all
timers do. -/
theorem exits (config : ChannelConfig) (credentials : Credentials) (s : σ) (h : Handler σ)
    {w : List (LinkId × Message)} {c : Channel σ}
    (hpath : Path h (Channel.new config credentials s) w c) :
    (c.phase = .crashed ↔ config.heartbeat.nanos = 0 ∧ c.connections ≠ []) ∧
    (c.phase = .crashed → c.state.current = .connected ∧
      ∀ store, (HealthReporter.snapshot ⟨store, c.state⟩).connected = true) ∧
    (∀ exit, c.phase = .stopped exit → c.state.current = .disconnected ∧
      (∀ store, (HealthReporter.snapshot ⟨store, c.state⟩).connected = false) ∧
      (exit = .closed ∧ c.shutdown = true ∨ exit = .exhausted config.reconnect.maxAttempts)) ∧
    (c.phase ≠ .idle → c.joined = false → ∀ span,
      (∀ exit, (c.join h span).1 = .exited exit → (c.join h span).2.phase = .stopped exit) ∧
      ((c.join h span).1 = .nothing →
        config.heartbeat.nanos = 0 ∧ (c.join h span).2.phase = .crashed)) ∧
    (∀ l ∈ c.connections, l.lastSeen ≤ c.now ∧ l.nextBeat ≤ c.now + config.heartbeat.nanos ∧
      ∀ t span, config.liveness = some span → c.deadline l = some t → t ≤ c.now + span.nanos) ∧
    ∀ last, c.now + config.heartbeat.nanos ≤ last →
      (∀ span, config.liveness = some span → c.now + span.nanos ≤ last) →
      ∀ l ∈ c.connections, l.nextBeat ≤ last ∧ ∀ t, c.deadline l = some t → t ≤ last := by
  have hsettings := hpath.settings
  have hconfig : c.config = config := hsettings.config
  have hs : c.Standing := (new_standing ..).path hpath
  have hline : ∀ l ∈ c.connections, ∀ t span, config.liveness = some span →
      c.deadline l = some t → t ≤ c.now + span.nanos := by
    intro l hl t span hspan hline
    rw [deadline, hconfig, hspan, Option.map_some, Option.some.injEq] at hline
    rw [← hline]
    exact Nat.add_le_add_right (hs.timers l hl).1 _
  refine ⟨⟨fun hp => ?_, fun hzero => ?_⟩, fun hp => ?_, fun exit hp => ?_,
    fun hi hj span => ?_, fun l hl => ?_, fun last hbeat hlive l hl => ⟨?_, fun t ht => ?_⟩⟩
  · obtain ⟨hb, hlen, -⟩ := hs.crashed hp
    exact ⟨hconfig ▸ hb, List.ne_nil_of_length_pos hlen⟩
  · obtain ⟨hb, hne⟩ := hzero
    refine Decidable.byContradiction fun hno => ?_
    rcases hs.going hno with hpos | hlen
    · rw [hconfig, hb] at hpos
      exact Nat.lt_irrefl 0 hpos
    · exact hne (List.length_eq_zero_iff.1 hlen)
  · have hstate := (hs.crashed hp).2.2
    exact ⟨hstate, fun store => decide_eq_true hstate⟩
  · obtain ⟨hstate, hexit⟩ := hs.stopped exit hp
    refine ⟨hstate, fun store => decide_eq_false fun hconn => ?_, hconfig ▸ hexit⟩
    cases hstate.symm.trans hconn
  · obtain ⟨hexited, hnothing⟩ := join_fst (h := h) hi hj span
    refine ⟨hexited, fun hn => ⟨?_, hnothing hn⟩⟩
    have hjoin := hpath.trans (join_path c span)
    have hjoined : (c.join h span).2.Standing := (new_standing ..).path hjoin
    have hb := (hjoined.crashed (hnothing hn)).1
    rwa [hjoin.settings.config] at hb
  · obtain ⟨hseen, hbeat⟩ := hs.timers l hl
    exact ⟨hseen, hconfig ▸ hbeat, hline l hl⟩
  · exact Nat.le_trans (hconfig ▸ (hs.timers l hl).2) hbeat
  · obtain ⟨span, hspan, -⟩ := Option.map_eq_some_iff.1 ht
    rw [hconfig] at hspan
    exact Nat.le_trans (hline l hl t span hspan ht) (hlive span hspan)

/-- Without a budget the first attempt that comes to nothing is the end. -/
theorem exits_exhausted :
    let config : ChannelConfig := { reconnect := { maxAttempts := 0 } }
    let h : Handler Unit := ⟨fun s _ _ => (s, []), fun s _ => s⟩
    let start := Channel.new config ⟨"wss://relay.example.com/c", "t0k"⟩ ()
    let c := start.run h [.connect]
    Path h start [] c ∧ c.phase = .stopped (.exhausted 0) ∧ c.state.current = .disconnected ∧
      c.phase ≠ .crashed ∧ (c.join h 1000000000).1 = .exited (.exhausted 0) := by
  intro config h start c
  let last : Channel Unit := ({ start with phase := .attempting }).attempt
  have hphase : last.phase = .stopped (.exhausted 0) := by decide +kernel
  have hrest : last.step? h = none := by simp only [step?, hphase]
  have hc : c = last := connect_of_settled (by decide +kernel) rfl hrest
  have hpath : Path h start [] c := run_path start [.connect]
  have hstop : c.phase = .stopped (.exhausted 0) := by
    rw [hc]
    exact hphase
  have hjoined : c.joined = false := by
    rw [hc]
    rfl
  obtain ⟨hcrash, -, hstopped, -⟩ :=
    exits config ⟨"wss://relay.example.com/c", "t0k"⟩ () h hpath
  refine ⟨hpath, hstop, (hstopped _ hstop).1, mt hcrash.1 fun hb => absurd hb.1 (by decide), ?_⟩
  simp [join, hjoined, hstop, isOver, report]

/-- A channel without a heartbeat interval that connects is over without having stopped: it shows itself
connected, also after it was closed, and the first wait for its end comes to nothing. -/
theorem crash_without_heartbeat :
    let config : ChannelConfig := { heartbeat := .ofMillis 0 }
    let h : Handler Unit := ⟨fun s _ _ => (s, []), fun s _ => s⟩
    let c := (Channel.new config ⟨"wss://relay.example.com/c", "t0k"⟩ ()).run h
      [.acceptNext, .connect, .close]
    c.isOver = true ∧ (∀ exit, c.phase ≠ .stopped exit) ∧ c.state.current = .connected ∧
      (∀ store, (HealthReporter.snapshot ⟨store, c.state⟩).connected = true) ∧
      c.joined = false ∧ (c.join h 1000000000).1 = .nothing := by
  intro config h c
  let start : Channel Unit := Channel.new config ⟨"wss://relay.example.com/c", "t0k"⟩ ()
  let crashed : Channel Unit := ({ start.acceptNext.2 with phase := .attempting }).attempt
  have hconnect : (start.acceptNext.2.connect h).2 = crashed :=
    connect_of_settled (by decide +kernel) rfl rfl
  have hc : c = { crashed with shutdown := true } := by
    change (start.acceptNext.2.connect h).2.close h = _
    rw [hconnect]
    exact settle_of_settled rfl
  have hphase : c.phase = .crashed := by
    rw [hc]
    rfl
  have hstop : ∀ exit, c.phase ≠ .stopped exit := by
    intro exit hp
    cases hphase.symm.trans hp
  have hover : c.isOver = true := by
    rw [hc]
    rfl
  refine ⟨hover, hstop, ?_⟩
  rw [hc]
  exact ⟨rfl, fun store => rfl, rfl, rfl⟩

end Tunnel.Channel
