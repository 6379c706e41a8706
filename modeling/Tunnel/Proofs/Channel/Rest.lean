import Tunnel.Proofs.Channel.Coherence

/-!
# Channels at rest

After each step a channel has done all that it can: it is not about to attempt anything, nothing is
left to be read or written, and no timer is due.
-/
namespace Tunnel.Channel

variable {σ : Type} {h : Handler σ} {c c' : Channel σ} {k : LinkId} {l : Connection} {peer : Peer}

/-- There is nothing left to do on a connection that serves. -/
structure Quiet (c : Channel σ) (l : Connection) (peer : Peer) : Prop where
  shutdown : c.shutdown = false
  beat : c.now < l.nextBeat
  heard : c.isSilent l = false
  read : peer.inbox = []
  there : peer.dropped = false
  written : l.queued = []

theorem stepWriter_eq_none (hd : peer.dropped = false) :
    c.stepWriter h k l peer = none ↔ l.queued = [] := by
  unfold stepWriter
  cases l.queued <;> simp [hd]

theorem Quiet.stepConnected (hq : c.Quiet l peer) : c.stepConnected h k l peer = none := by
  have hbeat : ¬ (l.nextBeat ≤ c.now ∧ 0 < c.config.heartbeat.nanos) := fun hle =>
    Nat.not_lt_of_le hle.1 hq.beat
  unfold Channel.stepConnected
  simp [hq.shutdown, hbeat, hq.heard, hq.read, hq.there, stepWriter_eq_none, hq.written]

theorem Quiet.step?_eq_none (hq : c.Quiet l peer) (hp : c.phase = .connected k)
    (he : c.endpoints? k = some (l, peer)) : c.step? h = none := by
  simp only [step?, hp, he]
  exact hq.stepConnected

theorem stepConnected_eq_none (hb : 0 < c.config.heartbeat.nanos) :
    c.stepConnected h k l peer = none ↔ c.Quiet l peer := by
  refine ⟨fun hs => ?_, Quiet.stepConnected⟩
  unfold stepConnected at hs
  split at hs
  · cases hs
  · rename_i hdown
    split at hs
    · cases hs
    · rename_i hbeat
      have hnow : c.now < l.nextBeat := Nat.lt_of_not_le fun hle => hbeat ⟨hle, hb⟩
      split at hs
      · cases hs
      · rename_i hsilent
        split at hs
        · cases hs
        · cases hs
        · rename_i hin
          split at hs
          · cases hs
          · rename_i hdrop
            have hthere : peer.dropped = false := by simpa using hdrop
            exact ⟨by simpa using hdown, hnow, by simpa using hsilent, hin, hthere,
              (stepWriter_eq_none hthere).1 hs⟩

def Resting (c : Channel σ) : Prop :=
  match c.phase with
  | .attempting => False
  | .connected k => ∀ l peer, c.endpoints? k = some (l, peer) → c.Quiet l peer
  | .closing _ => False
  | .waiting t => c.shutdown = false ∧ c.now < t
  | _ => True

theorem Coherent.endpoints_of_closing (hc : c.Coherent) (hp : c.phase = .closing k) :
    ∃ l peer, c.endpoints? k = some (l, peer) := by
  have hlt : k < c.connections.length := by
    rw [hc.length_of_closing hp]
    exact Nat.lt_succ_self k
  obtain ⟨peer, he⟩ := hc.exists_endpoints (List.getElem?_eq_getElem hlt)
  exact ⟨_, peer, he⟩

theorem Coherent.step?_eq_none (hc : c.Coherent) : c.step? h = none ↔ c.Resting := by
  unfold step? Resting
  cases hp : c.phase with
  | attempting => simp
  | connected k =>
    obtain ⟨l, peer, he⟩ := hc.endpoints_of_connected hp
    simp only [he, stepConnected_eq_none hc.beats, Option.some.injEq, Prod.mk.injEq]
    constructor
    · rintro hq l' peer' ⟨rfl, rfl⟩
      exact hq
    · intro hq
      exact hq l peer ⟨rfl, rfl⟩
  | closing k =>
    obtain ⟨l, peer, he⟩ := hc.endpoints_of_closing hp
    simp [he]
  | waiting t =>
    cases hdown : c.shutdown with
    | true => simp
    | false =>
      by_cases hdue : t ≤ c.now
      · simp [hdue]
      · simp [hdue, Nat.lt_of_not_le hdue]
  | _ => simp

theorem Coherent.settle (hc : c.Coherent) : (c.settle h).Coherent := hc.path (settle_path c)

theorem Coherent.settle_resting (hc : c.Coherent) : (c.settle h).Resting :=
  hc.settle.step?_eq_none.1 (settle_settled c)

theorem Resting.lt_nextDue (hr : c.Resting) (hc : c.Coherent) {d : Nat}
    (hd : c.nextDue = some d) : c.now < d := by
  unfold nextDue at hd
  unfold Resting at hr
  cases hp : c.phase with
  | connected k =>
    obtain ⟨l, peer, he⟩ := hc.endpoints_of_connected hp
    simp only [hp] at hr hd
    have hq := hr l peer he
    have hheard := hq.heard
    rw [(endpoints?_eq_some.1 he).1, Option.map_some, Option.some.injEq] at hd
    subst hd
    unfold isSilent at hheard
    cases hline : c.deadline l with
    | none => exact hq.beat
    | some t =>
      simp only [hline, decide_eq_false_iff_not, Nat.not_le] at hheard
      exact Nat.lt_min.2 ⟨hq.beat, hheard⟩
  | waiting t =>
    simp only [hp, Option.some.injEq] at hr hd
    rw [← hd]
    exact hr.2
  | _ => simp [hp] at hd

theorem isSilent_eq_false : c.isSilent l = false ↔ ∀ t, c.deadline l = some t → c.now < t := by
  unfold isSilent
  cases c.deadline l with
  | none => simp
  | some t => simp

/-- Time that passes up to before the next timer leaves a channel at rest. -/
theorem Resting.pass (hr : c.Resting) {t : Nat} (ht : ∀ d, c.nextDue = some d → t < d) :
    ({ c with now := t } : Channel σ).Resting := by
  unfold nextDue at ht
  unfold Resting at hr ⊢
  cases hp : c.phase with
  | connected k =>
    simp only [hp] at hr ht ⊢
    intro l peer he
    have hq := hr l peer he
    have hlt := ht _ (by rw [(endpoints?_eq_some.1 he).1]; rfl)
    refine ⟨hq.shutdown, ?_, ?_, hq.read, hq.there, hq.written⟩
    · change t < l.nextBeat
      cases hline : c.deadline l with
      | none => simpa only [hline] using hlt
      | some t' =>
        simp only [hline] at hlt
        exact (Nat.lt_min.1 hlt).1
    · refine isSilent_eq_false.2 fun t' hline => ?_
      have hline' : c.deadline l = some t' := hline
      simp only [hline'] at hlt
      exact (Nat.lt_min.1 hlt).2
  | waiting d =>
    simp only [hp] at hr ht ⊢
    exact ⟨hr.1, ht d rfl⟩
  | _ => simp_all

theorem Coherent.elapse_resting (hc : c.Coherent) (halt : Bool) (target : Nat) :
    (c.elapse h halt target).Resting := by
  induction c using elapse.induct h halt target with
  | case1 c d hover =>
    rw [elapse, if_pos hover]
    exact hc.settle_resting
  | case2 c d hover t hd ht ih =>
    rw [elapse, if_neg hover]
    simp only [d] at hd
    simp only [hd, if_pos ht]
    exact ih (hc.settle.congr rfl rfl rfl rfl (fun _ => rfl) hc.settle.shown)
  | case3 c d hover t hd ht =>
    rw [elapse, if_neg hover]
    simp only [d] at hd
    simp only [hd, if_neg ht]
    -- no timer is due at rest, so that the one that comes next is later
    have hlt : c.now < t := settle_now (h := h) c ▸ hc.settle_resting.lt_nextDue hc.settle hd
    refine hc.settle_resting.pass fun due hdue => ?_
    obtain rfl : t = due := Option.some.inj (hd.symm.trans hdue)
    omega
  | case4 c d hover hd =>
    rw [elapse, if_neg hover]
    simp only [d] at hd
    simp only [hd]
    refine hc.settle_resting.pass fun due hdue => ?_
    rw [hd] at hdue
    cases hdue

/-- What does not touch the connections of a channel, nor its clock, does not wake it. -/
theorem Resting.congr (hr : c.Resting) (hphase : c'.phase = c.phase)
    (hdown : c'.shutdown = c.shutdown) (hnow : c'.now = c.now) (hconfig : c'.config = c.config)
    (he : ∀ k l peer, c'.endpoints? k = some (l, peer) → c.endpoints? k = some (l, peer)) :
    c'.Resting := by
  unfold Resting at hr ⊢
  rw [hphase]
  cases hp : c.phase with
  | connected k =>
    simp only [hp] at hr ⊢
    intro l peer he'
    have hq := hr l peer (he k l peer he')
    have hsilent : c'.isSilent l = c.isSilent l := by
      simp only [isSilent, deadline, hconfig, hnow]
    exact ⟨hdown.trans hq.shutdown, hnow ▸ hq.beat, hsilent.trans hq.heard, hq.read, hq.there,
      hq.written⟩
  | waiting d =>
    simp only [hp] at hr ⊢
    rw [hdown, hnow]
    exact hr
  | _ => simp_all

theorem Coherent.act_resting (hc : c.Coherent) (hr : c.Resting) (s : Step) :
    (c.act h s).Resting := by
  have hsettle : ∀ {d : Channel σ}, Touch h c d → (d.settle h).Resting := fun hd =>
    (hc.touch hd).settle_resting
  cases s with
  | connect =>
    change (c.connect h).2.Resting
    unfold connect
    split
    · exact hr
    · split
      · rename_i hp
        exact hsettle (.connect hp)
      · exact hr
  | close => exact hsettle .close
  | join span =>
    have hj : ({ c with joined := true } : Channel σ).Coherent := hc.touch (h := h) .join
    change (c.join h span).2.Resting
    unfold join
    simp only
    split_ifs
    · exact hr
    · exact hr.congr rfl rfl rfl rfl fun _ _ _ he => he
    · exact hj.elapse_resting ..
    · exact hj.elapse_resting ..
  | advance span => exact hc.elapse_resting ..
  | refuseNext => exact hr.congr rfl rfl rfl rfl fun _ _ _ he => he
  | acceptNext => exact hr.congr rfl rfl rfl rfl fun _ _ _ he => hc.endpoints_acceptNext he
  | feed p i =>
    change (c.feed h p i).2.Resting
    unfold feed
    split
    · exact hr
    · rename_i peer hpeer
      split
      · rename_i hread
        simp only [Bool.and_eq_true, Bool.not_eq_true'] at hread
        exact hsettle (.feed i hpeer hread.1 hread.2)
      · exact hr
  | dropPeer p => exact hsettle (.dropPeer p)
  | send m =>
    change (c.send h m).2.Resting
    unfold send
    split
    · split
      · exact (hc.sendOn _ _).settle_resting
      · exact hr
    · exact hr
  | sendThrough k m => exact (hc.sendOn k m).settle_resting

theorem new_coherent {config : ChannelConfig} {credentials : Credentials} {s : σ}
    (hb : 0 < config.heartbeat.nanos) : (Channel.new config credentials s).Coherent := by
  refine ⟨hb, ⟨rfl, rfl⟩, fun k hk => absurd rfl hk, List.nodup_nil, ?_, ?_, ?_, ?_⟩
  · intro p hp
    cases hp
  · intro p hp
    cases hp
  · intro p hp peer hpeer
    cases hpeer
  · intro k l peer he
    cases he

/-- After a sequence of steps a channel is at rest, and its parts fit together. -/
theorem Coherent.run_resting (hc : c.Coherent) (hr : c.Resting) (steps : List Step) :
    (c.run h steps).Coherent ∧ (c.run h steps).Resting := by
  induction steps generalizing c with
  | nil => exact ⟨hc, hr⟩
  | cons s steps ih => exact ih (hc.path (act_path c s)) (hc.act_resting hr s)

end Tunnel.Channel
