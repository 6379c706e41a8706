import Tunnel.Proofs.Channel.Effect
import Tunnel.Proofs.Channel.Reconnect

/-!
# Attempts of a channel that is closed

To close a channel that has been started is the end of its attempts, unless one is just about to be made:
the channel makes it already, or its wait is over and it has yet to notice. Such an attempt may still be
made, and the channel stops with it. A channel that is started after it was closed makes one attempt before
it notices. At rest no attempt is about to be made, so a close between two whole steps is always the end.
-/
namespace Tunnel.Channel

variable {σ : Type} {h : Handler σ} {b c c' : Channel σ}

/-! ## Channels that are closed

Once closed, a channel makes at most one attempt more: the one that it is about to make. With it the
channel stops, whatever comes of the attempt, so that no other can follow.
-/

theorem hasEnded_of_shutdown (hs : c.shutdown = true) (k : LinkId) : c.hasEnded k = true := by
  simp [hasEnded, hs]

theorem isOpen_of_shutdown (hs : c.shutdown = true) (k : LinkId) : c.isOpen k = false := by
  simp [isOpen, hasEnded, hs]

theorem retry_of_shutdown (hs : c.shutdown = true) :
    c.retry = (c.publish .disconnected).stop .closed := by
  simp [retry, publish, hs]

theorem refuse_of_shutdown (hs : c.shutdown = true) : c.refuse =
    ({ c with outcomes := c.outcomes ++ [none], overTimes := c.overTimes ++ [c.now] } : Channel σ).stop
      .closed := if_pos hs

theorem welcome_of_shutdown (hs : c.shutdown = true) (p : PeerId) : c.welcome p =
    (({ c with outcomes := c.outcomes ++ [none], overTimes := c.overTimes ++ [c.now] }
      : Channel σ).letGo p).stop .closed := if_pos hs

/-- An attempt of a channel that is closed uses up an outcome, and the channel stops with it. -/
structure LastAttempt (c c' : Channel σ) : Prop where
  phase : c'.phase = .stopped .closed
  shutdown : c'.shutdown = true
  attemptTimes : c'.attemptTimes = c.attemptTimes ++ [c.now]
  tokens : c'.tokens = c.tokens ++ [c.credentials.token]
  script : c'.script = c.script.tail
  state : c'.state.current = .disconnected
  connections : c'.connections = c.connections

theorem attempt_of_shutdown (hs : c.shutdown = true) : LastAttempt c c.attempt := by
  unfold attempt
  split
  · rename_i hnil
    rw [refuse_of_shutdown (c := c.ask) hs]
    refine ⟨rfl, hs, rfl, rfl, ?_, rfl, rfl⟩
    change c.script = c.script.tail
    rw [hnil]
    rfl
  · rename_i script hsome
    rw [refuse_of_shutdown (c := { c.ask with script }) hs]
    exact ⟨rfl, hs, rfl, rfl, by rw [hsome]; rfl, rfl, rfl⟩
  · rename_i p script hsome
    rw [welcome_of_shutdown (c := { c.ask with script }) hs]
    exact ⟨rfl, hs, rfl, rfl, by rw [hsome]; rfl, rfl, rfl⟩

/-- From one state to another no attempt is made: none is recorded, no token is presented, and no
outcome is used up. -/
structure NoAttempt (c c' : Channel σ) : Prop where
  attemptTimes : c'.attemptTimes = c.attemptTimes
  tokens : c'.tokens = c.tokens
  script : c.script <+: c'.script

theorem NoAttempt.refl (c : Channel σ) : NoAttempt c c := ⟨rfl, rfl, List.prefix_refl _⟩

/-- What others do to a channel is no attempt. -/
theorem NoAttempt.touch (hn : NoAttempt b c) (ht : Touch h c c') : NoAttempt b c' := by
  cases ht with
  | connect | close | join | pass | feed | dropPeer => exact ⟨hn.attemptTimes, hn.tokens, hn.script⟩
  | refuseNext | acceptNext =>
    exact ⟨hn.attemptTimes, hn.tokens, hn.script.trans (List.prefix_append _ _)⟩

/-- A channel that is closed makes no attempt by any move but the one that is an attempt. -/
theorem NoAttempt.move (hn : NoAttempt b c) (hdown : c.shutdown = true) (ha : c.phase ≠ .attempting)
    (hm : Move h c c') : NoAttempt b c' := by
  obtain ⟨hattempts, htokens, hscript⟩ := hn
  cases hm with
  | attempt hp => exact absurd hp ha
  | beat hp he hs | pass hp he hs | answer hp he hs | deliver hp he hs =>
    exact absurd (hdown.symm.trans hs) nofun
  | wake | giveUp | hangUp | failWrite | write | abandon => exact ⟨hattempts, htokens, hscript⟩
  | @shut k l =>
    rw [retry_of_shutdown (c := (c.stopWriting k).letGo l.peer) hdown]
    exact ⟨hattempts, htokens, hscript⟩

/-- No attempt is about to be made: the channel makes none, and if it waits, its time has not come. -/
def Dormant (c : Channel σ) : Prop :=
  c.phase ≠ .attempting ∧ ∀ t, c.phase = .waiting t → c.now < t

theorem dormant_of_settled (hs : c.step? h = none) : c.Dormant := by
  refine ⟨fun hp => ?_, fun t hp => ?_⟩
  · rw [step?, hp] at hs
    cases hs
  · simp only [step?, hp] at hs
    by_cases hdown : c.shutdown = true
    · rw [if_pos hdown] at hs
      cases hs
    · rw [if_neg hdown] at hs
      by_cases ht : t ≤ c.now
      · rw [if_pos ht] at hs
        cases hs
      · exact Nat.lt_of_not_le ht

/-- A channel that is closed, and past all the attempts that it makes. -/
structure Ceased (c c' : Channel σ) : Prop where
  shutdown : c'.shutdown = true
  started : c'.phase ≠ .idle
  dormant : c'.Dormant
  noAttempt : NoAttempt c c'

theorem Ceased.of_close (hi : c.phase ≠ .idle) (hd : c.Dormant) :
    Ceased c { c with shutdown := true } := ⟨rfl, hi, hd, ⟨rfl, rfl, List.prefix_refl _⟩⟩

theorem Ceased.refl (hs : c.shutdown = true) (hi : c.phase ≠ .idle) (hd : c.Dormant) :
    Ceased c c := ⟨hs, hi, hd, .refl c⟩

/-- Such a channel can give up, hang up, write and close its connection, but not try again. -/
theorem Ceased.move (hd : Ceased b c) (hm : Move h c c') : Ceased b c' := by
  have hdown := hd.shutdown
  have hn := hd.noAttempt.move hdown hd.dormant.1 hm
  cases hm with
  | attempt hp => exact absurd hp hd.dormant.1
  | wake hp ht => exact absurd ht (Nat.not_le_of_lt (hd.dormant.2 _ hp))
  | beat hp he hs | pass hp he hs | answer hp he hs | deliver hp he hs =>
    exact absurd (hdown.symm.trans hs) nofun
  | giveUp | hangUp | failWrite => exact ⟨hdown, nofun, ⟨nofun, nofun⟩, hn⟩
  | write | abandon => exact ⟨hdown, hd.started, hd.dormant, hn⟩
  | @shut k l =>
    rw [retry_of_shutdown (c := (c.stopWriting k).letGo l.peer) hdown] at hn ⊢
    exact ⟨hdown, nofun, ⟨nofun, nofun⟩, hn⟩

theorem Ceased.touch (hd : Ceased b c) (ht : Touch h c c') : Ceased b c' := by
  have hn := hd.noAttempt.touch ht
  have hdown := ht.later.shutdown hd.shutdown
  cases ht with
  | connect hp => exact absurd hp hd.started
  | pass hs =>
    -- a channel that is closed does not let time pass while it waits
    refine ⟨hdown, hd.started, ⟨hd.dormant.1, fun t hp => ?_⟩, hn⟩
    have hp : c.phase = .waiting t := hp
    simp only [step?, hp, hd.shutdown, if_true] at hs
    cases hs
  | _ => exact ⟨hdown, hd.started, hd.dormant, hn⟩

theorem Ceased.path (hd : Ceased b c) {w : List (LinkId × Message)} (hp : Path h c w c') :
    Ceased b c' :=
  hp.keeps (P := Ceased b) Ceased.move Ceased.touch (fun m hd ho => by
    -- no link of a channel that is closed is open
    rw [isOpen_of_shutdown hd.shutdown] at ho
    cases ho) hd

theorem LastAttempt.ceased (hl : LastAttempt c c') : Ceased c' c' := by
  refine .refl hl.shutdown ?_ ⟨?_, ?_⟩
  · rw [hl.phase]
    nofun
  · rw [hl.phase]
    nofun
  · rw [hl.phase]
    nofun

theorem LastAttempt.attemptTimes_ne (hl : LastAttempt c c') : c'.attemptTimes ≠ c.attemptTimes := by
  rw [hl.attemptTimes]
  simp

/-! ## Channels that have not been started

Before its start a channel makes no attempt and no connection, whatever else is done to it. What it does
with its start does not depend on a close before: the attempt is made, and only then the close is seen.
-/

theorem retry_ne_idle (c : Channel σ) : c.retry.phase ≠ .idle := by
  obtain ⟨a, p, hd, hr⟩ := retry_eq c
  rw [hr]
  rintro rfl
  exact hd

theorem refuse_ne_idle (c : Channel σ) : c.refuse.phase ≠ .idle := by
  obtain ⟨a, p, hd, hr⟩ := refuse_eq c
  rw [hr]
  rintro rfl
  exact hd

theorem attempt_ne_idle (c : Channel σ) : c.attempt.phase ≠ .idle := by
  unfold attempt
  split
  · exact refuse_ne_idle _
  · exact refuse_ne_idle _
  · unfold welcome accept
    simp only
    split_ifs <;> nofun

/-- A channel does nothing by itself before it is started, and nothing once it is over. -/
theorem Move.going (hm : Move h c c') :
    c.phase ≠ .idle ∧ c.phase ≠ .crashed ∧ ∀ exit, c.phase ≠ .stopped exit := by
  cases hm with
  | write hp => rcases hp with hp | hp <;> simp [hp]
  | attempt hp | wake hp | giveUp hp | hangUp hp | beat hp | pass hp | answer hp | deliver hp
  | failWrite hp | abandon hp | shut hp => simp [hp]

theorem Move.of_attempting (hm : Move h c c') (ha : c.phase = .attempting) : c' = c.attempt := by
  cases hm with
  | attempt => rfl
  | write hp => rcases hp with hp | hp <;> cases ha.symm.trans hp
  | wake hp | giveUp hp | hangUp hp | beat hp | pass hp | answer hp | deliver hp | failWrite hp
  | abandon hp | shut hp => cases ha.symm.trans hp

theorem Move.ne_idle (hm : Move h c c') : c'.phase ≠ .idle := by
  have hc := hm.going.1
  have hsame : ∀ {d : Channel σ}, d.phase = c.phase → d.phase ≠ .idle := fun heq hi =>
    hc (heq.symm.trans hi)
  cases hm with
  | attempt => exact attempt_ne_idle c
  | wake | giveUp | hangUp | failWrite => nofun
  | pass | write | abandon => exact hc
  | beat | answer => exact hsame (sendOn_sameStage ..).phase
  | deliver => exact hsame (deliver_sameStage ..).phase
  | shut => exact retry_ne_idle _

theorem Touch.idle (ht : Touch h c c') (hi : c'.phase = .idle) : c.phase = .idle := by
  cases ht with
  | connect => cases hi
  | _ => exact hi

theorem Touch.connections (ht : Touch h c c') : c'.connections = c.connections := by
  cases ht <;> rfl

theorem started_path (hc : c.phase ≠ .idle) {w : List (LinkId × Message)} (hp : Path h c w c') :
    c'.phase ≠ .idle :=
  hp.keeps (P := fun d => d.phase ≠ .idle) (fun _ hm => hm.ne_idle) (fun hd ht => mt ht.idle hd)
    (fun _ hd _ => hd) hc

/-- While a channel is not started, no attempt is made. -/
theorem noAttempt_of_idle (hc : c.connections = []) {w : List (LinkId × Message)}
    (hp : Path h c w c') (hi : c'.phase = .idle) : NoAttempt c c' ∧ c'.connections = [] :=
  hp.keeps (P := fun d => d.phase = .idle → NoAttempt c d ∧ d.connections = [])
    (fun _ hm hi => absurd hi hm.ne_idle)
    (fun hd ht hi =>
      have hd := hd (ht.idle hi)
      ⟨hd.1.touch ht, ht.connections.trans hd.2⟩)
    (fun {d k} m hd ho hi => by
      -- no link takes messages before there is a connection
      have hlt := lt_of_isOpen ho
      rw [(hd hi).2] at hlt
      exact absurd hlt (Nat.not_lt_zero k)) (fun _ => ⟨.refl c, hc⟩) hi

theorem shutdown_path (hs : c.shutdown = true) {w : List (LinkId × Message)}
    (hp : Path h c w c') : c'.shutdown = true :=
  hp.keeps (P := fun d => d.shutdown = true) (fun hd hm => hm.shutdown.trans hd)
    (fun hd ht => ht.later.shutdown hd) (fun _ hd _ => hd) hs

/-- Whenever a close comes, no attempt follows it, or one that is the last. -/
theorem lastAttempt_path (hs : c.shutdown = true) {w : List (LinkId × Message)}
    (hpath : Path h c w c') : NoAttempt c c' ∨
      ∃ d, NoAttempt c d ∧ LastAttempt d d.attempt ∧ NoAttempt d.attempt c' := by
  have hkeep := hpath.keeps (P := fun e => e.shutdown = true ∧ (NoAttempt c e ∨
      ∃ d, NoAttempt c d ∧ LastAttempt d d.attempt ∧ Ceased d.attempt e))
    (fun {d e} hd hm => ?_) (fun {d e} hd ht => ?_) (fun {d k} m hd ho => ?_) ⟨hs, .inl (.refl c)⟩
  · exact hkeep.2.imp_right fun ⟨d, hn, hlast, hceased⟩ => ⟨d, hn, hlast, hceased.noAttempt⟩
  · obtain ⟨hdown, hn | ⟨b, hn, hlast, hceased⟩⟩ := hd
    · by_cases ha : d.phase = .attempting
      · have hlast := attempt_of_shutdown hdown
        obtain rfl : e = d.attempt := hm.of_attempting ha
        exact ⟨hlast.shutdown, .inr ⟨d, hn, hlast, hlast.ceased⟩⟩
      · exact ⟨hm.shutdown.trans hdown, .inl (hn.move hdown ha hm)⟩
    · have hnext := hceased.move hm
      exact ⟨hnext.shutdown, .inr ⟨b, hn, hlast, hnext⟩⟩
  · obtain ⟨hdown, hn | ⟨b, hn, hlast, hceased⟩⟩ := hd
    · exact ⟨ht.later.shutdown hdown, .inl (hn.touch ht)⟩
    · exact ⟨ht.later.shutdown hdown, .inr ⟨b, hn, hlast, hceased.touch ht⟩⟩
  · rw [isOpen_of_shutdown hd.1] at ho
    cases ho

/-- An attempt that is about to be made when a close comes may still be made. -/
theorem exists_lastAttempt (hs : c.shutdown = true) (hd : ¬ c.Dormant) :
    ∃ e, Path h c [] e ∧ e.attemptTimes ≠ c.attemptTimes := by
  by_cases ha : c.phase = .attempting
  · exact ⟨c.attempt, Path.refl.move (.attempt ha), (attempt_of_shutdown hs).attemptTimes_ne⟩
  · -- the wait is over, and what comes of that is an attempt as well
    obtain ⟨t, hp, ht⟩ : ∃ t, c.phase = .waiting t ∧ t ≤ c.now := by
      simpa [Dormant, ha] using hd
    have hwake : Path h c [] { c with phase := .attempting } := Path.refl.move (.wake hp ht)
    have hlast := attempt_of_shutdown (c := { c with phase := .attempting }) hs
    exact ⟨_, hwake.move (.attempt rfl), hlast.attemptTimes_ne⟩

/-! ## Steps

After a whole step a channel is at rest, and at rest no attempt is about to be made. A close that comes
between two steps therefore is the end of all attempts of a channel that has been started.
-/

/-- What a step does to the phase and the time: nothing, or what the channel makes of it by itself, at
once or while time passes. -/
theorem act_cases (c : Channel σ) (s : Step) :
    (c.act h s).phase = c.phase ∧ (c.act h s).now = c.now ∨
    (∃ b : Channel σ, c.act h s = b.settle h ∧
      (b.phase = c.phase ∨ s = .connect ∧ c.credentials.validate.isOk = true)) ∨
    ∃ (b : Channel σ) (halt : Bool) (target : Nat),
      c.act h s = b.elapse h halt target ∧ b.phase = c.phase := by
  cases s with
  | connect =>
    have hact : c.act h .connect = (c.connect h).2 := rfl
    rw [hact]
    unfold connect
    cases hv : c.credentials.validate with
    | error e => exact .inl ⟨rfl, rfl⟩
    | ok _ =>
      simp only
      split
      · exact .inr (.inl ⟨_, rfl, .inr ⟨trivial, rfl⟩⟩)
      · exact .inl ⟨rfl, rfl⟩
  | close => exact .inr (.inl ⟨_, rfl, .inl rfl⟩)
  | dropPeer p => exact .inr (.inl ⟨_, rfl, .inl rfl⟩)
  | join span =>
    have hact : c.act h (.join span) = (c.join h span).2 := rfl
    rw [hact]
    unfold join
    simp only
    split_ifs
    · exact .inl ⟨rfl, rfl⟩
    · exact .inl ⟨rfl, rfl⟩
    · exact .inr (.inr ⟨_, _, _, rfl, rfl⟩)
    · exact .inr (.inr ⟨_, _, _, rfl, rfl⟩)
  | advance span => exact .inr (.inr ⟨c, _, _, rfl, rfl⟩)
  | refuseNext | acceptNext => exact .inl ⟨rfl, rfl⟩
  | feed p i =>
    have hact : c.act h (.feed p i) = (c.feed h p i).2 := rfl
    rw [hact]
    unfold feed
    split
    · exact .inl ⟨rfl, rfl⟩
    · split
      · exact .inr (.inl ⟨_, rfl, .inl rfl⟩)
      · exact .inl ⟨rfl, rfl⟩
  | send m =>
    have hact : c.act h (.send m) = (c.send h m).2 := rfl
    rw [hact]
    unfold send
    split
    · split
      · exact .inr (.inl ⟨_, rfl, .inl (sendOn_sameStage ..).phase⟩)
      · exact .inl ⟨rfl, rfl⟩
    · exact .inl ⟨rfl, rfl⟩
  | sendThrough k m => exact .inr (.inl ⟨_, rfl, .inl (sendOn_sameStage ..).phase⟩)

theorem settle_idle (hc : c.phase = .idle) : (c.settle h).phase = .idle :=
  settle_keeps (P := fun d => d.phase = .idle) (fun hd hm => absurd hd hm.going.1) hc

theorem elapse_idle (halt : Bool) (target : Nat) (hc : c.phase = .idle) :
    (c.elapse h halt target).phase = .idle :=
  elapse_keeps (P := fun d => d.phase = .idle) (fun hd hm => absurd hd hm.going.1)
    (fun hd _ _ _ => hd) halt target hc

/-- A channel is started by a step to connect, with credentials that can be used. -/
theorem act_idle_iff {s : Step} : (c.act h s).phase = .idle ↔
    c.phase = .idle ∧ (c.credentials.validate.isOk = true → s ≠ .connect) := by
  constructor
  · intro hi
    have hc : c.phase = .idle :=
      Decidable.byContradiction fun hne => started_path hne (act_path c s) hi
    refine ⟨hc, ?_⟩
    rintro hv rfl
    have hconn : c.act h .connect = { c with phase := .attempting }.attempt.settle h :=
      connect_snd hv hc
    rw [hconn] at hi
    exact started_path (attempt_ne_idle _) (settle_path _) hi
  · rintro ⟨hc, hs⟩
    rcases act_cases (h := h) c s with ⟨hp, -⟩ | ⟨b, hb, hp | ⟨hconn, hv⟩⟩ |
      ⟨b, halt, target, hb, hp⟩
    · exact hp.trans hc
    · rw [hb]
      exact settle_idle (hp.trans hc)
    · exact absurd hconn (hs hv)
    · rw [hb]
      exact elapse_idle halt target (hp.trans hc)

theorem run_idle_iff {steps : List Step} : (c.run h steps).phase = .idle ↔
    c.phase = .idle ∧ (c.credentials.validate.isOk = true → Step.connect ∉ steps) := by
  induction steps generalizing c with
  | nil => simp [run]
  | cons s steps ih =>
    have hcons : c.run h (s :: steps) = (c.act h s).run h steps := rfl
    rw [hcons, ih, act_idle_iff, (act_path c s).settings.credentials, and_assoc]
    refine and_congr_right fun _ => ⟨fun ⟨hs, hrest⟩ hv hmem => ?_, fun hall => ⟨fun hv hs => ?_,
      fun hv hmem => hall hv (List.mem_cons_of_mem _ hmem)⟩⟩
    · rcases List.mem_cons.1 hmem with heq | hmem
      · exact hs hv heq.symm
      · exact hrest hv hmem
    · exact hall hv (hs ▸ List.mem_cons_self)

theorem settle_dormant (c : Channel σ) : (c.settle h).Dormant :=
  dormant_of_settled (settle_settled (h := h) c)

/-- The clock stops where a wait is over, so a wait that goes on is over later. -/
theorem elapse_dormant (halt : Bool) (target : Nat) (c : Channel σ) :
    (c.elapse h halt target).Dormant := by
  induction c using elapse.induct h halt target with
  | case1 c d hover =>
    rw [elapse, if_pos hover]
    exact settle_dormant c
  | case2 c d hover t hd ht ih =>
    rw [elapse, if_neg hover]
    simp only [d] at hd
    simp only [hd, if_pos ht]
    exact ih
  | case3 c d hover t hd ht =>
    rw [elapse, if_neg hover]
    simp only [d] at hd
    simp only [hd, if_neg ht]
    refine ⟨(settle_dormant c).1, fun t' hp => ?_⟩
    have hp : (c.settle h).phase = .waiting t' := hp
    obtain rfl : t' = t := by simpa [nextDue, hp] using hd
    have hlt := (settle_dormant c).2 t' hp
    rw [settle_now] at hlt
    exact Nat.max_lt.2 ⟨hlt, Nat.lt_of_not_le fun hle => ht ⟨hlt, hle⟩⟩
  | case4 c d hover hd =>
    rw [elapse, if_neg hover]
    simp only [d] at hd
    simp only [hd]
    refine ⟨(settle_dormant c).1, fun t hp => ?_⟩
    have hp : (c.settle h).phase = .waiting t := hp
    simp [nextDue, hp] at hd

/-- After a step no attempt is about to be made. -/
theorem act_dormant (hc : c.Dormant) (s : Step) : (c.act h s).Dormant := by
  rcases act_cases (h := h) c s with ⟨hp, hnow⟩ | ⟨b, hb, -⟩ | ⟨b, halt, target, hb, -⟩
  · unfold Dormant
    rw [hp, hnow]
    exact hc
  · rw [hb]
    exact settle_dormant b
  · rw [hb]
    exact elapse_dormant halt target b

theorem run_dormant (hc : c.Dormant) (steps : List Step) : (c.run h steps).Dormant := by
  induction steps generalizing c with
  | nil => exact hc
  | cons s steps ih => exact ih (act_dormant hc s)

theorem connect_of_started (hv : c.credentials.validate.isOk = true) (hc : c.phase ≠ .idle) :
    c.connect h = (.ok (), c) := by
  unfold connect
  cases hval : c.credentials.validate with
  | error e =>
    rw [hval] at hv
    cases hv
  | ok _ => exact if_neg hc

/-- The first start of a channel that is closed makes the one attempt. -/
theorem connect_of_shutdown (hs : c.shutdown = true) (hv : c.credentials.validate.isOk = true)
    (hc : c.phase = .idle) : LastAttempt c (c.connect h).2 := by
  have hlast : LastAttempt c { c with phase := .attempting }.attempt := by
    obtain ⟨hp, hd, ha, ht, hsc, hst, hconn⟩ :=
      attempt_of_shutdown (c := { c with phase := .attempting }) hs
    exact ⟨hp, hd, ha, ht, hsc, hst, hconn⟩
  rw [connect_of_settled hv hc (by simp only [step?, hlast.phase])]
  exact hlast

/-- Once a channel that has been started is closed, no attempt is made any more: whatever steps follow,
none is recorded, no token is presented and no outcome is used up, and to connect changes nothing. A
close may also come between any two moves of a run. It is the end of all attempts unless one is just
about to be made, because the channel makes it already or because its wait is over and it has yet to
notice; then, and before the channel is started, at most one attempt follows, with which the channel
stops. A channel that was closed before it was started makes this one when it is started. -/
theorem attempts_after_close (config : ChannelConfig) (credentials : Credentials) (s : σ)
    (h : Handler σ) (steps : List Step) :
    let start := Channel.new config credentials s
    let c := start.run h steps
    (c.phase = .idle ↔ (credentials.validate.isOk = true → Step.connect ∉ steps)) ∧
    (c.phase ≠ .idle → ∀ later,
      let e := (c.close h).run h later
      NoAttempt c e ∧ e.connect h = (.ok (), e) ∧ ∀ more, NoAttempt e (e.run h more)) ∧
    (∀ w d, Path h start w d →
      (d.phase ≠ .idle →
        (d.Dormant ↔ ∀ w' e, Path h { d with shutdown := true } w' e → NoAttempt d e)) ∧
      ∀ w' e, Path h { d with shutdown := true } w' e →
        NoAttempt d e ∨ ∃ f, NoAttempt d f ∧ LastAttempt f f.attempt ∧ NoAttempt f.attempt e) ∧
    (c.phase = .idle → ∀ later,
      let e := (c.close h).run h later
      e.phase = .idle → NoAttempt c e ∧ (credentials.validate.isOk = true →
        LastAttempt e (e.connect h).2 ∧
        ∀ more, NoAttempt (e.connect h).2 ((e.connect h).2.run h more))) := by
  intro start c
  have hstart : Path h start _ c := run_path start steps
  have hclose : ∀ later, Path h { c with shutdown := true } _ ((c.close h).run h later) :=
    fun later => (settle_path _).trans (run_path _ later)
  have hidle : c.phase = .idle ↔ (credentials.validate.isOk = true → Step.connect ∉ steps) :=
    run_idle_iff.trans (and_iff_right rfl)
  have hcred : ∀ later, ((c.close h).run h later).credentials = credentials := fun later =>
    (hclose later).settings.credentials.trans hstart.settings.credentials
  refine ⟨hidle, fun hi later => ?_, fun w d hd => ⟨fun hi => ⟨fun hdorm w' e he => ?_, fun hall => ?_⟩,
    fun w' e he => ?_⟩, fun hi later => ?_⟩
  · intro e
    have hv : credentials.validate.isOk = true :=
      Decidable.byContradiction fun hno => hi (hidle.2 fun hv => absurd hv hno)
    have hdorm : c.Dormant := run_dormant (c := start) ⟨nofun, nofun⟩ steps
    have hceased : Ceased c e := (Ceased.of_close hi hdorm).path (hclose later)
    have hstill : Ceased e e := .refl hceased.shutdown hceased.started hceased.dormant
    exact ⟨hceased.noAttempt, connect_of_started ((hcred later).symm ▸ hv) hceased.started,
      fun more => (hstill.path (run_path e more)).noAttempt⟩
  · exact ((Ceased.of_close hi hdorm).path he).noAttempt
  · refine Classical.byContradiction fun hdorm => ?_
    obtain ⟨e, he, hmade⟩ := exists_lastAttempt (h := h) (c := { d with shutdown := true }) rfl hdorm
    exact hmade (hall [] e he).attemptTimes
  · rcases lastAttempt_path (c := { d with shutdown := true }) rfl he with hn | ⟨f, hn, hlast, hafter⟩
    · exact .inl ⟨hn.attemptTimes, hn.tokens, hn.script⟩
    · exact .inr ⟨f, ⟨hn.attemptTimes, hn.tokens, hn.script⟩, hlast, hafter⟩
  · intro e he
    have hc : c.connections = [] := (noAttempt_of_idle (c := start) rfl hstart hi).2
    have hn := (noAttempt_of_idle (c := { c with shutdown := true }) hc (hclose later) he).1
    refine ⟨⟨hn.attemptTimes, hn.tokens, hn.script⟩, fun hv => ?_⟩
    have hdown : e.shutdown = true := shutdown_path rfl (hclose later)
    have hlast := connect_of_shutdown (h := h) hdown ((hcred later).symm ▸ hv) he
    exact ⟨hlast, fun more => (hlast.ceased.path (run_path _ more)).noAttempt⟩

/-- A channel that is closed while it waits never makes its second attempt. -/
theorem attempts_after_close_waiting :
    let h : Handler Unit := ⟨fun s _ _ => (s, []), fun s _ => s⟩
    let c := (Channel.new {} ⟨"wss://relay.example.com/c", "t0k"⟩ ()).run h [.connect]
    let e := (c.close h).run h [.acceptNext, .advance 60000000000]
    c.phase = .waiting 2000000000 ∧ c.attemptTimes = [0] ∧ e.attemptTimes = [0] ∧
      e.tokens = ["t0k"] ∧ e.connect h = (.ok (), e) := by
  intro h c e
  let start : Channel Unit := Channel.new {} ⟨"wss://relay.example.com/c", "t0k"⟩ ()
  let first : Channel Unit := ({ start with phase := .attempting }).attempt
  have hphase : first.phase = .waiting 2000000000 := by decide +kernel
  have hc : c = first :=
    connect_of_settled (by decide +kernel) rfl (step?_of_waiting hphase rfl (by decide))
  obtain ⟨-, hlater, -⟩ := attempts_after_close {} ⟨"wss://relay.example.com/c", "t0k"⟩ () h
    [.connect]
  have hwaiting : c.phase = .waiting 2000000000 := by
    rw [hc]
    exact hphase
  have hstarted : c.phase ≠ .idle := by
    rw [hwaiting]
    nofun
  have hclosed : NoAttempt c e ∧ e.connect h = (.ok (), e) ∧ ∀ more, NoAttempt e (e.run h more) :=
    hlater hstarted [.acceptNext, .advance 60000000000]
  have hmade : c.attemptTimes = [0] := by
    rw [hc]
    rfl
  have htokens : c.tokens = ["t0k"] := by
    rw [hc]
    rfl
  exact ⟨hwaiting, hmade, hclosed.1.attemptTimes.trans hmade, hclosed.1.tokens.trans htokens,
    hclosed.2.1⟩

/-- A channel that is closed before it is started still makes an attempt when it is started. -/
theorem attempt_after_close_unstarted :
    let h : Handler Unit := ⟨fun s _ _ => (s, []), fun s _ => s⟩
    let c := (Channel.new {} ⟨"wss://relay.example.com/c", "t0k"⟩ ()).run h [.acceptNext, .close]
    let d := (c.connect h).2
    c.attemptTimes = [] ∧ c.tokens = [] ∧ c.script = [.accept 0] ∧
      (c.join h 1000000000).1 = .nothing ∧ d.attemptTimes = [0] ∧ d.tokens = ["t0k"] ∧
      d.script = [] ∧ (d.join h 1000000000).1 = .exited .closed := by
  intro h c d
  let start : Channel Unit := Channel.new {} ⟨"wss://relay.example.com/c", "t0k"⟩ ()
  have hc : c = { start.acceptNext.2 with shutdown := true } := settle_of_settled rfl
  let last : Channel Unit := { start.acceptNext.2 with shutdown := true, phase := .attempting }.attempt
  have hd : d = last := by
    change (c.connect h).2 = last
    rw [hc]
    exact connect_of_settled (by decide +kernel) rfl rfl
  rw [hc, hd]
  exact ⟨rfl, rfl, rfl, rfl, rfl, rfl, rfl, rfl⟩

end Tunnel.Channel
