import Tunnel.Proofs.Channel.Pace

/-!
# Reconnects

In a run of a channel that is not closed, every attempt that comes to nothing and every end of a
connection is followed by the wait that the policy says for the streak, and then by one attempt,
until a streak has used up the budget. Then the channel has stopped for good.
-/
namespace Tunnel.Channel

variable {σ : Type} {h : Handler σ} {c c' : Channel σ} {policy : ReconnectPolicy}

@[simp] theorem settle_shutdown (c : Channel σ) : (c.settle h).shutdown = c.shutdown :=
  settle_keeps (P := fun d => d.shutdown = c.shutdown) (fun hd hm => hm.shutdown.trans hd) rfl

theorem elapse_shutdown (halt : Bool) (target : Nat) (c : Channel σ) :
    (c.elapse h halt target).shutdown = c.shutdown := by
  induction c using elapse.induct h halt target with
  | case1 c d hover =>
    rw [elapse, if_pos hover]
    exact settle_shutdown c
  | case2 c d hover t hd ht ih =>
    rw [elapse, if_neg hover]
    simp only [d] at hd
    simp only [hd, if_pos ht]
    exact ih.trans (settle_shutdown c)
  | case3 c d hover t hd ht =>
    rw [elapse, if_neg hover]
    simp only [d] at hd
    simp only [hd, if_neg ht]
    exact settle_shutdown c
  | case4 c d hover hd =>
    rw [elapse, if_neg hover]
    simp only [d] at hd
    simp only [hd]
    exact settle_shutdown c

/-- Only a close closes a channel. -/
theorem act_shutdown {s : Step} (hs : s ≠ .close) : (c.act h s).shutdown = c.shutdown := by
  cases s with
  | close => exact absurd rfl hs
  | connect =>
    change (c.connect h).2.shutdown = _
    unfold connect
    split
    · rfl
    · split
      · exact settle_shutdown _
      · rfl
  | join span =>
    change (c.join h span).2.shutdown = _
    unfold join
    simp only
    split_ifs
    · rfl
    · rfl
    · exact elapse_shutdown ..
    · exact elapse_shutdown ..
  | advance span => exact elapse_shutdown ..
  | refuseNext | acceptNext => rfl
  | feed p i =>
    change (c.feed h p i).2.shutdown = _
    unfold feed
    split
    · rfl
    · split
      · exact settle_shutdown _
      · rfl
  | dropPeer p => exact settle_shutdown _
  | send m =>
    change (c.send h m).2.shutdown = _
    unfold send
    split
    · split
      · exact (settle_shutdown _).trans (sendOn_samePace ..).shutdown
      · rfl
    · rfl
  | sendThrough k m => exact (settle_shutdown _).trans (sendOn_samePace ..).shutdown

theorem run_shutdown {steps : List Step} (hclose : Step.close ∉ steps) :
    (c.run h steps).shutdown = c.shutdown := by
  induction steps generalizing c with
  | nil => rfl
  | cons s steps ih =>
    rw [List.mem_cons, not_or] at hclose
    exact (ih (c := c.act h s) hclose.2).trans (act_shutdown (Ne.symm hclose.1))

theorem Coherent.paced (hc : c.Coherent) (hp : c.Paced policy) {w : List (LinkId × Message)}
    (hpath : Path h c w c') (hs : c'.shutdown = false) : c'.Paced policy := by
  have hkeep : c'.Coherent ∧ (c'.shutdown = false → c'.Paced policy) := by
    refine hpath.keeps (P := fun d => d.Coherent ∧ (d.shutdown = false → d.Paced policy))
      (fun hd hm => ?_) (fun hd ht => ?_) (fun m hd ho => ?_) ⟨hc, fun _ => hp⟩
    · refine ⟨hd.1.move hm, fun hs => ?_⟩
      rw [hm.shutdown] at hs
      exact (hd.2 hs).move hd.1 hs hm
    · refine ⟨hd.1.touch ht, fun hs => (hd.2 ?_).touch hd.1 ht hs⟩
      -- what is closed stays closed
      exact Bool.eq_false_iff.2 fun hdown => Bool.eq_false_iff.1 hs (ht.later.shutdown hdown)
    · exact ⟨hd.1.take ho [m], fun hs => (hd.2 hs).of_samePace (modifyConnection_samePace ..)⟩
  exact hkeep.2 hs

/-- A channel that has stopped makes no attempt, whatever happens. -/
theorem stopped_path {exit : ChannelExit} (hstop : c.phase = .stopped exit)
    {w : List (LinkId × Message)} (hpath : Path h c w c') :
    c'.phase = .stopped exit ∧ c'.attemptTimes = c.attemptTimes := by
  refine hpath.keeps
    (P := fun d => d.phase = .stopped exit ∧ d.attemptTimes = c.attemptTimes) (fun hd hm => ?_)
    (fun hd ht => ?_) (fun m hd ho => hd) ⟨hstop, rfl⟩
  · cases hm with
    | write hp =>
      rw [hd.1] at hp
      rcases hp with hp | hp <;> cases hp
    | attempt hp | wake hp | giveUp hp | hangUp hp | beat hp | pass hp | answer hp | deliver hp
    | failWrite hp | abandon hp | shut hp =>
      rw [hd.1] at hp
      cases hp
  · cases ht with
    | connect hp =>
      rw [hd.1] at hp
      cases hp
    | _ => exact hd

/-! ## Waits

A wait lasts from the end of one attempt to the next attempt. In a streak each is the next delay of the
policy, so they grow; after a connection the first delay comes again.
-/

/-- How long a channel waited after an attempt was over. -/
def Waited (c : Channel σ) (i w : Nat) : Prop :=
  ∃ e, c.overTimes[i]? = some e ∧ c.attemptTimes[i + 1]? = some (e + w)

theorem Paced.delayFor_of_waited (hp : c.Paced policy) {i w : Nat} (hw : c.Waited i w) :
    ∃ d, streak (c.outcomes.take (i + 1)) < policy.maxAttempts.toNat ∧
      policy.delayFor (.ofNat (streak (c.outcomes.take (i + 1)))) = some d ∧ w = d.nanos := by
  obtain ⟨e, he, ht⟩ := hw
  obtain ⟨d, hlt, hd, hsum⟩ := hp.spaced i e (e + w) he ht
  rw [hp.policy] at hlt hd
  exact ⟨d, hlt, hd, Nat.add_left_cancel hsum⟩

/-- In a streak no wait is shorter than one before it. -/
theorem Paced.waited_mono (hp : c.Paced policy) {i n w w' : Nat}
    (hnone : ∀ m, i < m → m ≤ i + n → c.outcomes[m]? = some none) (hi : c.Waited i w)
    (hj : c.Waited (i + n) w') : w ≤ w' := by
  obtain ⟨d, hlt, hd, rfl⟩ := hp.delayFor_of_waited hi
  obtain ⟨d', hlt', hd', rfl⟩ := hp.delayFor_of_waited hj
  have hmax := policy.maxAttempts.toNat_lt
  have hfits : ∀ {n}, n < policy.maxAttempts.toNat → (UInt32.ofNat n).toNat = n := fun {n} hn =>
    UInt32.toNat_ofNat_of_lt' (Nat.lt_trans hn hmax)
  refine ReconnectPolicy.delayFor_mono ?_ hd hd'
  rw [hfits hlt, hfits hlt', streak_take i n hnone]
  exact Nat.le_add_right _ _

theorem Paced.waited_after_connection (hp : c.Paced policy) {i w : Nat} {k : LinkId}
    (hk : c.outcomes[i]? = some (some k)) (hw : c.Waited i w) :
    ∃ d, policy.delayFor 0 = some d ∧ w = d.nanos := by
  obtain ⟨d, -, hd, rfl⟩ := hp.delayFor_of_waited hw
  rw [List.take_add_one, hk, Option.toList_some, streak_concat_some] at hd
  exact ⟨d, hd, rfl⟩

/-! ## Rest

At rest a channel that is not closed waits, serves, has stopped or has not been started. Which of these
it is, and until when it waits, can be told from its record of attempts.
-/

/-- What a channel at rest has made of its attempts: none as yet, or the last has made the
connection that serves, or all are over and the next is due later, or the budget is spent. -/
inductive Outlook (policy : ReconnectPolicy) (c : Channel σ) : Prop where
  | idle (hphase : c.phase = .idle) (hmade : c.attemptTimes = []) (hover : c.overTimes = [])
    (hnone : c.outcomes = []) (ha : c.attempts = 0)
  | connected {k j : LinkId} (hphase : c.phase = .connected k)
    (hover : c.overTimes.length + 1 = c.attemptTimes.length)
    (hlast : c.outcomes.getLast? = some (some j)) (ha : c.attempts = 0)
  | waiting {t : Nat} (hphase : c.phase = .waiting t)
    (hover : c.overTimes.length = c.attemptTimes.length)
    (hdue : DueAt policy c.outcomes c.overTimes t)
    (ha : c.attempts.toNat = streak c.outcomes + 1) (ht : c.now < t)
  | stopped (hphase : c.phase = .stopped (.exhausted policy.maxAttempts))
    (hover : c.overTimes.length = c.attemptTimes.length) (hne : c.outcomes ≠ [])
    (ha : c.attempts = policy.maxAttempts) (hstreak : c.attempts.toNat = streak c.outcomes)

theorem Paced.outlook (hp : c.Paced policy) (hr : c.Resting) : Outlook policy c := by
  have hpace := hp.phase
  unfold InPace at hpace
  unfold Resting at hr
  cases hphase : c.phase with
  | idle =>
    simp only [hphase] at hpace
    obtain ⟨hmade, hover, ha⟩ := hpace
    have hnone : c.outcomes = [] := by
      rw [← List.length_eq_zero_iff, hp.length, hmade]
      rfl
    exact .idle hphase hmade hover hnone ha
  | connected k =>
    simp only [hphase] at hpace
    obtain ⟨hover, ⟨j, hlast⟩, ha⟩ := hpace
    exact .connected hphase hover hlast ha
  | waiting t =>
    simp only [hphase] at hpace hr
    obtain ⟨hover, ⟨hdue, ha⟩, -⟩ := hpace
    exact .waiting hphase hover (hp.policy ▸ hdue) ha hr.2
  | stopped exit =>
    simp only [hphase] at hpace
    obtain ⟨hover, hne, rfl, ha, hstreak⟩ := hpace
    rw [hp.policy] at hphase ha
    exact .stopped hphase hover hne ha hstreak
  | attempting | closing k => simp only [hphase] at hr
  | crashed => simp only [hphase] at hpace

def isWaiting (c : Channel σ) : Bool :=
  match c.phase with
  | .waiting _ => true
  | _ => false

theorem Outlook.attempts (ho : Outlook policy c) :
    c.attempts.toNat = streak c.outcomes + (if c.isWaiting then 1 else 0) ∧
      c.attempts.toNat ≤ policy.maxAttempts.toNat := by
  cases ho with
  | idle hphase hmade hover hnone ha =>
    rw [ha, hnone, isWaiting, hphase]
    exact ⟨rfl, Nat.zero_le _⟩
  | connected hphase hover hlast ha =>
    rw [ha, streak_of_getLast hlast, isWaiting, hphase]
    exact ⟨rfl, Nat.zero_le _⟩
  | waiting hphase hover hdue ha ht =>
    obtain ⟨-, -, -, hlt, -⟩ := hdue
    rw [ha, isWaiting, hphase]
    exact ⟨rfl, hlt⟩
  | stopped hphase hover hne ha hstreak =>
    rw [hstreak, isWaiting, hphase, ← hstreak, ha]
    exact ⟨rfl, Nat.le_refl _⟩

theorem Outlook.lengths (ho : Outlook policy c) :
    c.overTimes.length ≤ c.attemptTimes.length ∧
      c.attemptTimes.length ≤ c.overTimes.length + 1 := by
  cases ho with
  | idle hphase hmade hover => simp [hmade, hover]
  | connected hphase hover => omega
  | waiting hphase hover | stopped hphase hover => omega

/-- What follows after the last attempt is over. -/
theorem Outlook.follows (ho : Outlook policy c) {e : Nat}
    (hover : c.overTimes.length = c.attemptTimes.length) (he : c.overTimes.getLast? = some e) :
    (∃ d, streak c.outcomes < policy.maxAttempts.toNat ∧
        policy.delayFor (.ofNat (streak c.outcomes)) = some d ∧
        c.phase = .waiting (e + d.nanos) ∧ c.now < e + d.nanos) ∨
      streak c.outcomes = policy.maxAttempts.toNat ∧
        c.phase = .stopped (.exhausted policy.maxAttempts) := by
  cases ho with
  | idle hphase hmade hnil =>
    rw [hnil] at he
    cases he
  | connected hphase hopen => omega
  | waiting hphase hover hdue ha ht =>
    obtain ⟨e', d, he', hlt, hd, rfl⟩ := hdue
    obtain rfl : e = e' := Option.some.inj (he.symm.trans he')
    exact .inl ⟨d, hlt, hd, hphase, ht⟩
  | stopped hphase hover hne ha hstreak => exact .inr ⟨by rw [← hstreak, ha], hphase⟩

theorem Outlook.isOver_iff (ho : Outlook policy c) : c.isOver = true ↔
    c.overTimes.length = c.attemptTimes.length ∧ c.outcomes ≠ [] ∧
      streak c.outcomes = policy.maxAttempts.toNat := by
  cases ho with
  | idle hphase hmade hover hnone => simp [isOver, hphase, hnone]
  | connected hphase hover =>
    simp only [isOver, hphase, Bool.false_eq_true, false_iff]
    rintro ⟨hlen, -⟩
    omega
  | waiting hphase hover hdue =>
    obtain ⟨-, -, -, hlt, -⟩ := hdue
    simp only [isOver, hphase, Bool.false_eq_true, false_iff]
    rintro ⟨-, -, hstreak⟩
    omega
  | stopped hphase hover hne ha hstreak =>
    simp only [isOver, hphase, true_iff]
    exact ⟨hover, hne, by rw [← hstreak, ha]⟩

theorem Outlook.phase_of_isOver (ho : Outlook policy c) (hover : c.isOver = true) :
    c.phase = .stopped (.exhausted policy.maxAttempts) := by
  cases ho with
  | stopped hphase => exact hphase
  | idle hphase | connected hphase | waiting hphase =>
    rw [isOver, hphase] at hover
    cases hover

/-- In every run of a channel that is not closed: the attempts are made one after the other, each
over before the next. After an attempt that came to nothing, and after the end of a connection, the
channel waits for the delay that belongs to the streak, and then makes the next attempt, or it has
stopped as the streak has used up the budget. The waits of one streak do not decrease and do not
exceed the cap, and after a connection they begin anew. The channel is over exactly when a streak
has made all its reconnects; it then shows itself disconnected and never makes an attempt again. The
count of reconnects is what it should be and stays within the budget. -/
theorem reconnects (config : ChannelConfig) (credentials : Credentials) (s : σ) (h : Handler σ)
    (hb : 0 < config.heartbeat.nanos) (steps : List Step) (hclose : Step.close ∉ steps) :
    let policy := config.reconnect
    let c := (Channel.new config credentials s).run h steps
    (c.outcomes.length = c.attemptTimes.length ∧ c.overTimes.length ≤ c.attemptTimes.length ∧
      c.attemptTimes.length ≤ c.overTimes.length + 1) ∧
    (∀ i e t, c.overTimes[i]? = some e → c.attemptTimes[i + 1]? = some t →
      ∃ d, streak (c.outcomes.take (i + 1)) < policy.maxAttempts.toNat ∧
        policy.delayFor (.ofNat (streak (c.outcomes.take (i + 1)))) = some d ∧ t = e + d.nanos) ∧
    (∀ e, c.overTimes.length = c.attemptTimes.length → c.overTimes.getLast? = some e →
      (∃ d, streak c.outcomes < policy.maxAttempts.toNat ∧
        policy.delayFor (.ofNat (streak c.outcomes)) = some d ∧
        c.phase = .waiting (e + d.nanos) ∧ c.now < e + d.nanos) ∨
      streak c.outcomes = policy.maxAttempts.toNat ∧
        c.phase = .stopped (.exhausted policy.maxAttempts)) ∧
    (∀ i n w w', (∀ m, i < m → m ≤ i + n → c.outcomes[m]? = some none) → c.Waited i w →
      c.Waited (i + n) w' → w ≤ w' ∧ w' ≤ policy.cap.nanos) ∧
    (∀ i k w, c.outcomes[i]? = some (some k) → c.Waited i w →
      ∃ d, policy.delayFor 0 = some d ∧ w = d.nanos) ∧
    (c.isOver = true ↔ c.overTimes.length = c.attemptTimes.length ∧ c.outcomes ≠ [] ∧
      streak c.outcomes = policy.maxAttempts.toNat) ∧
    (c.isOver = true → c.phase = .stopped (.exhausted policy.maxAttempts) ∧
      c.state.current = .disconnected ∧
      ∀ later, (c.run h later).attemptTimes = c.attemptTimes) ∧
    c.attempts.toNat = streak c.outcomes + (if c.isWaiting then 1 else 0) ∧
    c.attempts.toNat ≤ policy.maxAttempts.toNat := by
  intro policy c
  have hpath := run_path (h := h) (Channel.new config credentials s) steps
  obtain ⟨hc, hr⟩ : c.Coherent ∧ c.Resting := (new_coherent hb).run_resting trivial steps
  have hopen : c.shutdown = false := run_shutdown hclose
  have hp : c.Paced policy := (new_coherent hb).paced (new_paced ..) hpath hopen
  have ho := hp.outlook hr
  refine ⟨⟨hp.length, ho.lengths⟩, fun i e t he ht => ?_, fun e hover he => ho.follows hover he,
    fun i n w w' hnone hi hj => ⟨hp.waited_mono hnone hi hj, ?_⟩,
    fun i k w hk hw => hp.waited_after_connection hk hw, ho.isOver_iff, fun hover => ?_, ho.attempts⟩
  · have hspaced := hp.spaced i e t he ht
    rwa [hp.policy] at hspaced
  · obtain ⟨d, -, hd, rfl⟩ := hp.delayFor_of_waited hj
    exact ReconnectPolicy.delayFor_le_cap hd
  · have hphase := ho.phase_of_isOver hover
    have hshown := hc.shown
    rw [Shown, hphase] at hshown
    exact ⟨hphase, hshown.2, fun later => (stopped_path hphase (run_path c later)).2⟩

/-- A channel with nothing to do sleeps until its timer. -/
theorem elapse_of_due {target t : Nat} (hs : c.step? h = none) (hd : c.nextDue = some t)
    (hlt : c.now < t) (hle : t ≤ target) :
    c.elapse h false target = ({ c with now := t } : Channel σ).elapse h false target := by
  rw [elapse, settle_of_settled hs]
  simp only [hd, hlt, hle, Bool.false_eq_true, false_and, if_false, and_self, if_true]

/-- A channel without a timer sleeps on. -/
theorem elapse_of_none {target : Nat} (hd : (c.settle h).nextDue = none) :
    c.elapse h false target = { c.settle h with now := max c.now target } := by
  rw [elapse]
  simp only [hd, Bool.false_eq_true, false_and, if_false]

theorem run_connect_advance (c : Channel σ) (span : Nat) :
    c.run h [.connect, .advance span] = (c.connect h).2.advance h span := rfl

/-- With a budget of one reconnect and a relay that refuses, the second attempt comes after two
seconds and is the last. -/
theorem reconnects_refused :
    let config : ChannelConfig := { reconnect := { maxAttempts := 1 } }
    let h : Handler Unit := ⟨fun s _ _ => (s, []), fun s _ => s⟩
    let steps : List Step := [.connect, .advance 2000000000]
    let c := (Channel.new config ⟨"wss://relay.example.com/c", "t0k"⟩ ()).run h steps
    0 < config.heartbeat.nanos ∧ Step.close ∉ steps ∧ c.attemptTimes = [0, 2000000000] ∧
      c.phase = .stopped (.exhausted 1) ∧ c.state.current = .disconnected ∧
      ∀ later, (c.run h later).attemptTimes = [0, 2000000000] := by
  intro config h steps c
  have hb : 0 < config.heartbeat.nanos := by decide
  have hclose : Step.close ∉ steps := by simp [steps]
  let start := Channel.new config ⟨"wss://relay.example.com/c", "t0k"⟩ ()
  let first : Channel Unit := ({ start with phase := .attempting }).attempt
  let awake : Channel Unit := { first with now := 2000000000 }
  let second : Channel Unit := ({ awake with phase := .attempting }).attempt
  have hfirst : first.phase = .waiting 2000000000 := by decide +kernel
  have hsecond : second.phase = .stopped (.exhausted 1) := by decide +kernel
  have hopen : first.shutdown = false := rfl
  have hnow : first.now = 0 := rfl
  have hrest : first.step? h = none := by
    simp [step?, hfirst, hopen, hnow]
  have hconnect : (start.connect h).2 = first := by
    have hsnd : (start.connect h).2 = first.settle h := connect_snd (by decide +kernel) rfl
    rw [hsnd, settle_of_settled hrest]
  have hsettle : awake.settle h = second := by
    have hwake : awake.step? h = some { awake with phase := .attempting } := by
      have hphase : awake.phase = .waiting 2000000000 := hfirst
      have hopen : awake.shutdown = false := rfl
      have hnow : awake.now = 2000000000 := rfl
      simp [step?, hphase, hopen, hnow]
    have hattempt : ({ awake with phase := .attempting } : Channel Unit).step? h = some second := rfl
    have hstop : second.step? h = none := by simp only [step?, hsecond]
    rw [settle_of_step? hwake, settle_of_step? hattempt, settle_of_settled hstop]
  have hc : c = second := by
    have hdue : first.nextDue = some 2000000000 := by simp only [nextDue, hfirst]
    have hnone : second.nextDue = none := by simp only [nextDue, hsecond]
    have hend : awake.elapse h false 2000000000 = second := by
      have hnow : awake.now = 2000000000 := rfl
      rw [elapse_of_none (by rw [hsettle, hnone]), hsettle, hnow, Nat.max_self]
      rfl
    have hrun : c = (start.connect h).2.advance h 2000000000 := run_connect_advance start _
    rw [hrun, hconnect, advance, hnow, Nat.zero_add,
      elapse_of_due hrest hdue (by rw [hnow]; decide) (Nat.le_refl _), hend]
  obtain ⟨-, -, -, -, -, -, hover, -⟩ :=
    reconnects config ⟨"wss://relay.example.com/c", "t0k"⟩ () h hb steps hclose
  have hmade : c.attemptTimes = [0, 2000000000] := by
    rw [hc]
    decide +kernel
  obtain ⟨hphase, hstate, hlater⟩ := hover (by
    change c.isOver = true
    rw [hc, isOver, hsecond])
  exact ⟨hb, hclose, hmade, hphase, hstate, fun later => (hlater later).trans hmade⟩

end Tunnel.Channel
