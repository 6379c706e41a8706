import Tunnel.Proofs.Backoff
import Tunnel.Proofs.Channel.Onward
import Tunnel.Proofs.Channel.Rest
import Tunnel.Proofs.Lists

/-!
# The pace of attempts

How many attempts have come to nothing since the last connection says how long the channel waits.
While it is not closed, each of its attempts but the first comes exactly when the wait is over that
began with the end of the one before.
-/
namespace Tunnel.Channel

/-- How many reconnects were attempted since an attempt last made a connection, or since the first
attempt. -/
def streak (outcomes : List (Option LinkId)) : Nat :=
  (outcomes.tail.reverse.takeWhile Option.isNone).length

theorem streak_concat_some (outcomes : List (Option LinkId)) (k : LinkId) :
    streak (outcomes ++ [some k]) = 0 := by
  cases outcomes with
  | nil => rfl
  | cons o outcomes => simp [streak]

theorem streak_concat_none {outcomes : List (Option LinkId)} (h : outcomes ≠ []) :
    streak (outcomes ++ [none]) = streak outcomes + 1 := by
  cases outcomes with
  | nil => exact absurd rfl h
  | cons o outcomes => simp [streak]

theorem streak_of_getLast {outcomes : List (Option LinkId)} {k : LinkId}
    (h : outcomes.getLast? = some (some k)) : streak outcomes = 0 := by
  obtain ⟨before, rfl⟩ := List.getLast?_eq_some_iff.1 h
  exact streak_concat_some before k

/-- Attempts that come to nothing make a streak longer, one by one. -/
theorem streak_take {outcomes : List (Option LinkId)} (i n : Nat)
    (hnone : ∀ m, i < m → m ≤ i + n → outcomes[m]? = some none) :
    streak (outcomes.take (i + n + 1)) = streak (outcomes.take (i + 1)) + n := by
  induction n with
  | zero => rfl
  | succ n ih =>
    have hlast : outcomes[i + n + 1]? = some none := hnone (i + n + 1) (by omega) (Nat.le_refl _)
    have hlt := (List.getElem?_eq_some_iff.1 hlast).1
    have hne : outcomes.take (i + n + 1) ≠ [] := by
      rw [Ne, List.take_eq_nil_iff, not_or]
      exact ⟨Nat.succ_ne_zero _, List.ne_nil_of_length_pos (Nat.zero_lt_of_lt hlt)⟩
    have htake : outcomes.take (i + (n + 1) + 1) = outcomes.take (i + n + 1) ++ [none] := by
      rw [← Nat.add_assoc, List.take_add_one, hlast, Option.toList_some]
    rw [htake, streak_concat_none hne, ih fun m him hmn => hnone m him (Nat.le_succ_of_le hmn)]
    rfl

def DueAt (p : ReconnectPolicy) (outcomes : List (Option LinkId)) (ends : List Nat) (t : Nat) :
    Prop :=
  ∃ e d, ends.getLast? = some e ∧ streak outcomes < p.maxAttempts.toNat ∧
    p.delayFor (.ofNat (streak outcomes)) = some d ∧ t = e + d.nanos

/-- Each attempt but the first is made when it is due. -/
def Spaced (p : ReconnectPolicy) (made : List Nat) (outcomes : List (Option LinkId))
    (ends : List Nat) : Prop :=
  ∀ i e t, ends[i]? = some e → made[i + 1]? = some t →
    ∃ d, streak (outcomes.take (i + 1)) < p.maxAttempts.toNat ∧
      p.delayFor (.ofNat (streak (outcomes.take (i + 1)))) = some d ∧ t = e + d.nanos

section

variable {p : ReconnectPolicy} {made ends : List Nat} {outcomes : List (Option LinkId)} {now : Nat}

theorem Spaced.attempt (hs : Spaced p made outcomes ends) (ho : outcomes.length = made.length)
    (hv : ends.length = made.length) (hdue : made = [] ∨ DueAt p outcomes ends now)
    (x : Option LinkId) : Spaced p (made ++ [now]) (outcomes ++ [x]) ends := by
  intro i e t he ht
  rcases getElem?_concat_cases ht with hold | ⟨hi, rfl⟩
  · have hlt := (List.getElem?_eq_some_iff.1 hold).1
    rw [List.take_append_of_le_length (by omega)]
    exact hs i e t he hold
  · rcases hdue with rfl | ⟨e', d, he', hlt, hd, ht⟩
    · cases hi
    · have hlast : ends[i]? = some e' := by
        rw [← he', List.getLast?_eq_getElem?]
        congr 1
        omega
      obtain rfl : e = e' := Option.some.inj (he.symm.trans hlast)
      rw [hi, ← ho, List.take_left']
      · exact ⟨d, hlt, hd, ht⟩
      · rfl

theorem Spaced.concat (hs : Spaced p made outcomes ends) (hv : ends.length + 1 = made.length)
    (now : Nat) : Spaced p made outcomes (ends ++ [now]) := by
  intro i e t he ht
  rcases getElem?_concat_cases he with hold | ⟨rfl, -⟩
  · exact hs i e t hold ht
  · have hlt := (List.getElem?_eq_some_iff.1 ht).1
    omega

end

variable {σ : Type} {h : Handler σ} {c c' : Channel σ} {k : LinkId}
  {policy : ReconnectPolicy}

/-- The next attempt is due, and its wait is counted. -/
def Due (c : Channel σ) (t : Nat) : Prop :=
  DueAt c.config.reconnect c.outcomes c.overTimes t ∧ c.attempts.toNat = streak c.outcomes + 1

/-- What the phase of a channel says of its attempts, all of which are over unless one has made the
connection that serves. -/
def InPace (c : Channel σ) : Prop :=
  match c.phase with
  | .idle => c.attemptTimes = [] ∧ c.overTimes = [] ∧ c.attempts = 0
  | .attempting => c.overTimes.length = c.attemptTimes.length ∧
      (c.attemptTimes = [] ∧ c.attempts = 0 ∨ c.Due c.now)
  | .connected _ => c.overTimes.length + 1 = c.attemptTimes.length ∧
      (∃ k, c.outcomes.getLast? = some (some k)) ∧ c.attempts = 0
  | .closing _ => c.overTimes.length = c.attemptTimes.length ∧
      (∃ k, c.outcomes.getLast? = some (some k)) ∧ c.attempts = 0 ∧
      c.overTimes.getLast? = some c.now
  | .waiting t => c.overTimes.length = c.attemptTimes.length ∧ c.Due t ∧ c.now ≤ t
  | .stopped exit => c.overTimes.length = c.attemptTimes.length ∧ c.outcomes ≠ [] ∧
      exit = .exhausted c.config.reconnect.maxAttempts ∧
      c.attempts = c.config.reconnect.maxAttempts ∧ c.attempts.toNat = streak c.outcomes
  | .crashed => False

structure Paced (p : ReconnectPolicy) (c : Channel σ) : Prop where
  policy : c.config.reconnect = p
  length : c.outcomes.length = c.attemptTimes.length
  spaced : Spaced c.config.reconnect c.attemptTimes c.outcomes c.overTimes
  phase : c.InPace

theorem new_paced (config : ChannelConfig) (credentials : Credentials) (s : σ) :
    (Channel.new config credentials s).Paced config.reconnect := ⟨rfl, rfl, nofun, rfl, rfl, rfl⟩

theorem retry_of_spent (hs : c.shutdown = false)
    (hd : c.config.reconnect.delayFor c.attempts = none) :
    c.retry = { c.publish .disconnected with phase := .stopped (.exhausted c.attempts) } := by
  simp only [retry, publish, hs, hd, Bool.false_eq_true, if_false]

theorem retry_of_delay (hs : c.shutdown = false) {d : Duration}
    (hd : c.config.reconnect.delayFor c.attempts = some d) :
    c.retry = { c.publish .disconnected with
      attempts := c.attempts + 1, phase := .waiting (c.now + d.nanos) } := by
  simp only [retry, publish, hs, hd, Bool.false_eq_true, if_false]

/-- A channel that tries again waits for as long as its streak says, or has spent its budget. -/
theorem paced_retry (hs : c.shutdown = false) (hpol : c.config.reconnect = policy)
    (hlen : c.outcomes.length = c.attemptTimes.length)
    (hsp : Spaced c.config.reconnect c.attemptTimes c.outcomes c.overTimes)
    (hover : c.overTimes.length = c.attemptTimes.length)
    (hlast : c.overTimes.getLast? = some c.now) (hne : c.outcomes ≠ [])
    (ha : c.attempts.toNat = streak c.outcomes)
    (hle : c.attempts.toNat ≤ c.config.reconnect.maxAttempts.toNat) : c.retry.Paced policy := by
  cases hd : c.config.reconnect.delayFor c.attempts with
  | none =>
    rw [retry_of_spent hs hd]
    have hmax : c.attempts = c.config.reconnect.maxAttempts :=
      UInt32.toNat_inj.1 (Nat.le_antisymm hle (ReconnectPolicy.delayFor_eq_none.1 hd))
    exact ⟨hpol, hlen, hsp, hover, hne, hmax ▸ rfl, hmax, ha⟩
  | some d =>
    rw [retry_of_delay hs hd]
    have hlt := delayFor_eq_some_lt hd
    have hsize := c.config.reconnect.maxAttempts.toNat_lt
    have hnext : (c.attempts + 1).toNat = streak c.outcomes + 1 := by
      rw [UInt32.toNat_add, UInt32.toNat_one, ← ha]
      omega
    refine ⟨hpol, hlen, hsp, hover, ⟨⟨c.now, d, hlast, ha ▸ hlt, ?_, rfl⟩, hnext⟩,
      Nat.le_add_right _ _⟩
    change c.config.reconnect.delayFor (.ofNat (streak c.outcomes)) = some d
    rw [← ha, UInt32.ofNat_toNat]
    exact hd

theorem Paced.ends_of_attempting (hp : c.Paced policy) (hphase : c.phase = .attempting) :
    c.overTimes.length = c.attemptTimes.length ∧
      (c.attemptTimes = [] ∧ c.attempts = 0 ∨ c.Due c.now) := by
  have hpace := hp.phase
  rwa [InPace, hphase] at hpace

/-- An attempt is made when it is due, whatever comes of it. -/
theorem Paced.spaced_attempt (hp : c.Paced policy) (hphase : c.phase = .attempting)
    (x : Option LinkId) : Spaced c.config.reconnect (c.attemptTimes ++ [c.now]) (c.outcomes ++ [x])
      c.overTimes := by
  obtain ⟨hover, hdue⟩ := hp.ends_of_attempting hphase
  exact hp.spaced.attempt hp.length hover (hdue.imp And.left And.left) x

theorem Paced.length_attempt (hp : c.Paced policy) (x : Option LinkId) :
    (c.outcomes ++ [x]).length = (c.attemptTimes ++ [c.now]).length := by
  rw [List.length_append, List.length_append, hp.length]
  rfl

theorem Paced.ends_attempt (hp : c.Paced policy) (hphase : c.phase = .attempting) :
    c.overTimes.length + 1 = (c.attemptTimes ++ [c.now]).length := by
  rw [List.length_append, (hp.ends_of_attempting hphase).1]
  rfl

/-- The count of reconnects is the streak, once an attempt has come to nothing. -/
theorem Paced.streak_refused (hp : c.Paced policy) (hphase : c.phase = .attempting) :
    c.attempts.toNat = streak (c.outcomes ++ [none]) ∧
      c.attempts.toNat ≤ c.config.reconnect.maxAttempts.toNat := by
  obtain ⟨hover, ⟨hnil, hzero⟩ | ⟨hdue, ha⟩⟩ := hp.ends_of_attempting hphase
  · have hnone : c.outcomes = [] := by
      rw [← List.length_eq_zero_iff, hp.length, hnil]
      rfl
    rw [hzero, hnone]
    exact ⟨rfl, Nat.zero_le _⟩
  · obtain ⟨e, -, hlast, hlt, -⟩ := hdue
    have hne : c.outcomes ≠ [] := by
      rintro hnone
      have hnil : c.overTimes = [] := by
        rw [← List.length_eq_zero_iff, hover, ← hp.length, hnone]
        rfl
      rw [hnil] at hlast
      cases hlast
    rw [streak_concat_none hne, ha]
    exact ⟨rfl, hlt⟩

theorem Paced.refuse (hp : c.Paced policy) (hphase : c.phase = .attempting)
    (hs : c.shutdown = false) (script : List Offer) :
    Paced policy (Channel.refuse { c.ask with script }) := by
  let b : Channel σ := { c.ask with
    script, outcomes := c.outcomes ++ [none], overTimes := c.overTimes ++ [c.now] }
  have hrefuse : Channel.refuse { c.ask with script } = b.retry :=
    if_neg (Bool.eq_false_iff.1 hs)
  have hends := hp.ends_attempt hphase
  obtain ⟨hstreak, hle⟩ := hp.streak_refused hphase
  rw [hrefuse]
  refine paced_retry (c := b) hs hp.policy (hp.length_attempt none)
    ((hp.spaced_attempt hphase none).concat hends c.now) ?_ List.getLast?_concat (by simp [b])
    hstreak hle
  change (c.overTimes ++ [c.now]).length = (c.attemptTimes ++ [c.now]).length
  rw [← hends, List.length_append]
  rfl

theorem Paced.welcome (hp : c.Paced policy) (hb : 0 < c.config.heartbeat.nanos)
    (hphase : c.phase = .attempting) (hs : c.shutdown = false) (script : List Offer) (p : PeerId) :
    Paced policy (Channel.welcome { c.ask with script } p) := by
  have hwelcome : Channel.welcome { c.ask with script } p = accept { c.ask with script } p :=
    if_neg (Bool.eq_false_iff.1 hs)
  rw [hwelcome, accept_eq (by exact hb)]
  exact ⟨hp.policy, hp.length_attempt _, hp.spaced_attempt hphase _, hp.ends_attempt hphase,
    ⟨_, List.getLast?_concat⟩, rfl⟩

theorem Paced.attempt (hp : c.Paced policy) (hb : 0 < c.config.heartbeat.nanos)
    (hphase : c.phase = .attempting) (hs : c.shutdown = false) : c.attempt.Paced policy := by
  unfold Channel.attempt
  split
  · exact hp.refuse hphase hs c.script
  · exact hp.refuse hphase hs _
  · exact hp.welcome hb hphase hs _ _

/-! ## Other moves

What touches neither the attempts, nor when they are over, nor the phase keeps the pace: messages that
are taken, written or read, and heartbeats.
-/

/-- Two channels between which no attempt is made, none is over and neither is closed. -/
structure SamePace (c c' : Channel σ) : Prop where
  stage : SameStage c c'
  shutdown : c'.shutdown = c.shutdown
  made : c'.attemptTimes = c.attemptTimes
  outcomes : c'.outcomes = c.outcomes
  ends : c'.overTimes = c.overTimes

theorem SamePace.refl (c : Channel σ) : SamePace c c := ⟨.refl c, rfl, rfl, rfl, rfl⟩

theorem SamePace.trans {b : Channel σ} (h : SamePace c b) (g : SamePace b c') : SamePace c c' :=
  ⟨h.stage.trans g.stage, g.shutdown.trans h.shutdown, g.made.trans h.made,
    g.outcomes.trans h.outcomes, g.ends.trans h.ends⟩

theorem modifyConnection_samePace (c : Channel σ) (k : LinkId) (f : Connection → Connection) :
    SamePace c (c.modifyConnection k f) := ⟨modifyConnection_sameStage .., rfl, rfl, rfl, rfl⟩

theorem modifyPeer_samePace (c : Channel σ) (p : PeerId) (f : Peer → Peer) :
    SamePace c (c.modifyPeer p f) := ⟨modifyPeer_sameStage .., rfl, rfl, rfl, rfl⟩

theorem sendOn_samePace (c : Channel σ) (k : LinkId) (m : Message) :
    SamePace c (c.sendOn k m).2 := by
  unfold sendOn
  split
  · exact modifyConnection_samePace ..
  · exact .refl c

theorem sendAll_samePace (c : Channel σ) (k : LinkId) (ms : List Message) :
    SamePace c (c.sendAll k ms) := by
  induction ms generalizing c with
  | nil => exact .refl c
  | cons m ms ih => exact (sendOn_samePace c k m).trans (ih _)

theorem Paced.of_samePace (hp : c.Paced policy) (hs : SamePace c c') : c'.Paced policy := by
  obtain ⟨⟨-, hconfig, ha, hphase, hnow⟩, -, hm, ho, hv⟩ := hs
  have hspaced := hp.spaced
  have hpace := hp.phase
  rw [← hconfig, ← hm, ← ho, ← hv] at hspaced
  refine ⟨by rw [hconfig, hp.policy], by rw [ho, hm, hp.length], hspaced, ?_⟩
  unfold InPace Due at hpace ⊢
  rw [hconfig, hphase, hnow, ha, hm, ho, hv]
  exact hpace

theorem hear_samePace (c : Channel σ) (k : LinkId) (p : PeerId) (rest : List Inbound) :
    SamePace c (c.hear k p rest) := (modifyPeer_samePace ..).trans (modifyConnection_samePace ..)

theorem deliver_samePace (h : Handler σ) (c : Channel σ) (k : LinkId) (m : Message) :
    SamePace c (c.deliver h k m) := by
  refine .trans ?_ (sendAll_samePace _ k _)
  exact ⟨⟨rfl, rfl, rfl, rfl, rfl⟩, rfl, rfl, rfl, rfl⟩

theorem Paced.hangUp (hp : c.Paced policy) (hphase : c.phase = .connected k) :
    (c.hangUp h k).Paced policy := by
  have hpace := hp.phase
  simp only [InPace, hphase] at hpace
  obtain ⟨hover, hlast, ha⟩ := hpace
  exact ⟨hp.policy, hp.length, hp.spaced.concat hover c.now, List.length_append.trans hover, hlast,
    ha, List.getLast?_concat⟩

theorem Paced.shut (hp : c.Paced policy) (hphase : c.phase = .closing k) (hs : c.shutdown = false)
    (p : PeerId) : ((c.stopWriting k).letGo p).retry.Paced policy := by
  have hpace := hp.phase
  simp only [InPace, hphase] at hpace
  obtain ⟨hover, ⟨j, hlast⟩, ha, hnow⟩ := hpace
  refine paced_retry (c := (c.stopWriting k).letGo p) hs hp.policy hp.length hp.spaced hover hnow
    ?_ ?_ ?_
  · intro hnil
    have hnil' : c.outcomes = [] := hnil
    rw [hnil'] at hlast
    cases hlast
  · change c.attempts.toNat = streak c.outcomes
    rw [ha, streak_of_getLast hlast]
    rfl
  · change c.attempts.toNat ≤ _
    rw [ha]
    exact Nat.zero_le _

/-- While a channel is not closed, every move keeps the pace. -/
theorem Paced.move (hp : c.Paced policy) (hc : c.Coherent) (hs : c.shutdown = false)
    (hm : Move h c c') : c'.Paced policy := by
  cases hm with
  | attempt hphase => exact hp.attempt hc.beats hphase hs
  | @wake t hphase ht =>
    have hpace := hp.phase
    simp only [InPace, hphase] at hpace
    obtain ⟨hover, hdue, hle⟩ := hpace
    obtain rfl : t = c.now := Nat.le_antisymm ht hle
    exact ⟨hp.policy, hp.length, hp.spaced, hover, .inr hdue⟩
  | giveUp hphase hdown => exact absurd (hdown.symm.trans hs) nofun
  | hangUp hphase => exact hp.hangUp hphase
  | failWrite hphase =>
    exact (hp.of_samePace (modifyConnection_samePace ..)).hangUp (c := c.stopWriting _) hphase
  | shut hphase => exact hp.shut hphase hs _
  | beat => exact hp.of_samePace ((modifyConnection_samePace ..).trans (sendOn_samePace ..))
  | pass => exact hp.of_samePace (hear_samePace ..)
  | answer => exact hp.of_samePace ((hear_samePace ..).trans (sendOn_samePace ..))
  | deliver => exact hp.of_samePace ((hear_samePace ..).trans (deliver_samePace ..))
  | write => exact hp.of_samePace ((modifyConnection_samePace ..).trans (modifyPeer_samePace ..))
  | abandon => exact hp.of_samePace (modifyConnection_samePace ..)

/-- Time that passes does not go beyond what is due. -/
theorem Paced.pass (hp : c.Paced policy) (hc : c.Coherent) (hrest : c.step? h = none) {t : Nat}
    (hd : ∀ d, c.nextDue = some d → c.now < d → t ≤ d) :
    ({ c with now := t } : Channel σ).Paced policy := by
  refine ⟨hp.policy, hp.length, hp.spaced, ?_⟩
  have hpace := hp.phase
  have hresting := hc.step?_eq_none.1 hrest
  unfold InPace at hpace ⊢
  unfold Resting at hresting
  cases hphase : c.phase with
  | waiting due =>
    simp only [hphase] at hpace hresting ⊢
    refine ⟨hpace.1, hpace.2.1, hd due ?_ hresting.2⟩
    rw [nextDue, hphase]
  | attempting | closing k =>
    simp only [hphase] at hresting
  | idle | connected k | stopped exit =>
    simp only [hphase] at hpace ⊢
    exact hpace
  | crashed => simp only [hphase] at hpace

theorem Paced.touch (hp : c.Paced policy) (hc : c.Coherent) (ht : Touch h c c')
    (hs : c'.shutdown = false) : c'.Paced policy := by
  cases ht with
  | connect hphase =>
    have hpace := hp.phase
    simp only [InPace, hphase] at hpace
    obtain ⟨hmade, hover, ha⟩ := hpace
    exact ⟨hp.policy, hp.length, hp.spaced, by rw [hover, hmade], .inl ⟨hmade, ha⟩⟩
  | close => cases hs
  | pass hrest hn hd => exact hp.pass hc hrest hd
  | join | refuseNext | acceptNext => exact ⟨hp.policy, hp.length, hp.spaced, hp.phase⟩
  | feed | dropPeer => exact hp.of_samePace (modifyPeer_samePace ..)

@[simp] theorem retry_shutdown (c : Channel σ) : c.retry.shutdown = c.shutdown := by
  obtain ⟨a, p, -, hr⟩ := retry_eq c
  rw [hr]
  rfl

@[simp] theorem refuse_shutdown (c : Channel σ) : c.refuse.shutdown = c.shutdown := by
  obtain ⟨a, p, -, hr⟩ := refuse_eq c
  rw [hr]
  rfl

@[simp] theorem welcome_shutdown (c : Channel σ) (p : PeerId) : (c.welcome p).shutdown = c.shutdown := by
  unfold welcome accept
  simp only
  split_ifs <;> rfl

theorem Move.shutdown (hm : Move h c c') : c'.shutdown = c.shutdown := by
  cases hm with
  | attempt =>
    unfold Channel.attempt
    split
    · exact refuse_shutdown _
    · exact refuse_shutdown _
    · exact welcome_shutdown _ _
  | shut => exact retry_shutdown _
  | beat => exact ((modifyConnection_samePace ..).trans (sendOn_samePace ..)).shutdown
  | answer => exact ((hear_samePace ..).trans (sendOn_samePace ..)).shutdown
  | deliver => exact ((hear_samePace ..).trans (deliver_samePace ..)).shutdown
  | wake | giveUp | hangUp | failWrite | pass | write | abandon => rfl

end Tunnel.Channel
