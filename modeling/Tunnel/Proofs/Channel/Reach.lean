import Mathlib.Tactic.SplitIfs
import Tunnel.Channel.Step

/-!
# How states of a channel are reached

A run alternates between what others do to a channel and what it does by itself. What holds of all
states that a run passes through is shown for the two of them.
-/
namespace Tunnel.Channel

variable {σ : Type} {h : Handler σ} {c c' : Channel σ}

/-- What others do to a channel before it goes on by itself. Time passes while there is nothing to do,
and not beyond the next timer. -/
inductive Touch (h : Handler σ) (c : Channel σ) : Channel σ → Prop where
  | connect (hp : c.phase = .idle) : Touch h c { c with phase := .attempting }
  | close : Touch h c { c with shutdown := true }
  | join : Touch h c { c with joined := true }
  | pass {t : Nat} (hs : c.step? h = none) (hn : c.now ≤ t)
    (hd : ∀ d, c.nextDue = some d → c.now < d → t ≤ d) : Touch h c { c with now := t }
  | refuseNext : Touch h c c.refuseNext
  | acceptNext : Touch h c c.acceptNext.2
  | feed {p : PeerId} {peer : Peer} (i : Inbound) (hp : c.peers[p]? = some peer)
    (hr : peer.reading = true) (hd : peer.dropped = false) :
    Touch h c (c.modifyPeer p fun peer => { peer with inbox := peer.inbox ++ [i] })
  | dropPeer (p : PeerId) : Touch h c (c.modifyPeer p fun peer => { peer with dropped := true })

/-- A sequence of moves, touches and messages that callers send, with the messages that were taken. -/
inductive Path (h : Handler σ) (c : Channel σ) : List (LinkId × Message) → Channel σ → Prop where
  | refl : Path h c [] c
  | move {w : List (LinkId × Message)} {d c' : Channel σ} (hd : Path h c w d) (hm : Move h d c') :
    Path h c w c'
  | touch {w : List (LinkId × Message)} {d c' : Channel σ} (hd : Path h c w d)
    (ht : Touch h d c') : Path h c w c'
  | send {w : List (LinkId × Message)} {d : Channel σ} (hd : Path h c w d) {k : LinkId}
    (m : Message) (ho : d.isOpen k = true) : Path h c (w ++ [(k, m)]) (d.take k [m])

theorem Path.trans {v w : List (LinkId × Message)} {d : Channel σ} (hd : Path h c v d)
    (hc : Path h d w c') : Path h c (v ++ w) c' := by
  induction hc with
  | refl =>
    rw [List.append_nil]
    exact hd
  | move _ hm ih => exact ih.move hm
  | touch _ ht ih => exact ih.touch ht
  | send _ m ho ih =>
    rw [← List.append_assoc]
    exact ih.send m ho

/-- What moves, touches and callers keep is kept along a path. -/
theorem Path.keeps {P : Channel σ → Prop} (hmove : ∀ {c c'}, P c → Move h c c' → P c')
    (htouch : ∀ {c c'}, P c → Touch h c c' → P c')
    (hsend : ∀ {c k} (m : Message), P c → c.isOpen k = true → P (c.take k [m]))
    {w : List (LinkId × Message)} (hp : Path h c w c') (hc : P c) : P c' := by
  induction hp with
  | refl => exact hc
  | move _ hm ih => exact hmove ih hm
  | touch _ ht ih => exact htouch ih ht
  | send _ m ho ih => exact hsend m ih ho

theorem settle_keeps {P : Channel σ → Prop} (hmove : ∀ {c c'}, P c → Move h c c' → P c')
    (hc : P c) : P (c.settle h) := by
  induction c using settle.induct h with
  | case1 c hs =>
    rw [settle, hs]
    exact hc
  | case2 c c' hs ih =>
    rw [settle, hs]
    exact ih (hmove hc (move_of_step? hs))

theorem settle_path (c : Channel σ) : Path h c [] (c.settle h) :=
  settle_keeps (P := Path h c []) Path.move .refl

theorem Touch.settle_path (ht : Touch h c c') : Path h c [] (c'.settle h) :=
  (Path.refl.touch ht).trans (Channel.settle_path c')

@[simp] theorem settle_settled (c : Channel σ) : (c.settle h).step? h = none := by
  induction c using settle.induct h with
  | case1 c hs =>
    rw [settle, hs]
    exact hs
  | case2 c c' hs ih =>
    rw [settle, hs]
    exact ih

@[simp] theorem refuse_now (c : Channel σ) : c.refuse.now = c.now := by
  obtain ⟨a, p, -, hr⟩ := refuse_eq c
  rw [hr]
  rfl

@[simp] theorem welcome_now (c : Channel σ) (p : PeerId) : (c.welcome p).now = c.now := by
  unfold welcome accept
  simp only
  split_ifs <;> rfl

theorem Move.now (hm : Move h c c') : c'.now = c.now := by
  cases hm with
  | attempt hp =>
    unfold Channel.attempt
    split
    · exact refuse_now _
    · exact refuse_now _
    · exact welcome_now _ _
  | beat hp he hs hb hi => exact (sendOn_sameStage ..).now
  | answer hp he hs hr hd => exact (sendOn_sameStage ..).now
  | deliver hp he hs hr hd hm => exact (deliver_sameStage ..).now
  | shut hp he hq =>
    obtain ⟨a, p, -, hr⟩ := retry_eq ((c.stopWriting _).letGo _)
    rw [hr]
    rfl
  | _ => rfl

@[simp] theorem settle_now (c : Channel σ) : (c.settle h).now = c.now :=
  settle_keeps (P := fun d => d.now = c.now) (fun hp hm => hm.now.trans hp) rfl

theorem settle_of_step? (hs : c.step? h = some c') : c.settle h = c'.settle h := by
  rw [settle, hs]

theorem settle_of_settled (hs : c.step? h = none) : c.settle h = c := by
  rw [settle, hs]

structure SameSettings (c c' : Channel σ) : Prop where
  config : c'.config = c.config
  credentials : c'.credentials = c.credentials

theorem SameSettings.trans {b : Channel σ} (hs : SameSettings b c) (g : SameSettings c c') :
    SameSettings b c' := ⟨g.config.trans hs.config, g.credentials.trans hs.credentials⟩

theorem SameSettings.sendOn {b : Channel σ} (hs : SameSettings b c) (k : LinkId) (m : Message) :
    SameSettings b (c.sendOn k m).2 := by
  unfold Channel.sendOn
  split <;> exact ⟨hs.config, hs.credentials⟩

theorem SameSettings.sendAll {b : Channel σ} (hs : SameSettings b c) (k : LinkId)
    (ms : List Message) : SameSettings b (c.sendAll k ms) := by
  induction ms generalizing c with
  | nil => exact hs
  | cons m ms ih => exact ih (hs.sendOn k m)

theorem SameSettings.refuse {b : Channel σ} (hs : SameSettings b c) : SameSettings b c.refuse := by
  obtain ⟨a, p, -, hr⟩ := refuse_eq c
  rw [hr]
  exact ⟨hs.config, hs.credentials⟩

theorem SameSettings.welcome {b : Channel σ} (hs : SameSettings b c) (p : PeerId) :
    SameSettings b (c.welcome p) := by
  unfold Channel.welcome accept
  simp only
  split_ifs <;> exact ⟨hs.config, hs.credentials⟩

theorem Move.settings (hm : Move h c c') : SameSettings c c' := by
  cases hm with
  | attempt =>
    unfold Channel.attempt
    split
    · exact .refuse ⟨rfl, rfl⟩
    · exact .refuse ⟨rfl, rfl⟩
    · rename_i p script _
      have hask : SameSettings c { c.ask with script } := ⟨rfl, rfl⟩
      exact hask.welcome p
  | beat | answer =>
    refine SameSettings.sendOn ?_ _ _
    exact ⟨rfl, rfl⟩
  | deliver =>
    refine SameSettings.sendAll ?_ _ _
    exact ⟨rfl, rfl⟩
  | @shut k l =>
    obtain ⟨a, p, -, hr⟩ := retry_eq ((c.stopWriting k).letGo l.peer)
    rw [hr]
    exact ⟨rfl, rfl⟩
  | _ => exact ⟨rfl, rfl⟩

theorem Touch.settings (ht : Touch h c c') : SameSettings c c' := by
  cases ht <;> exact ⟨rfl, rfl⟩

theorem Path.settings {w : List (LinkId × Message)} (hp : Path h c w c') : SameSettings c c' :=
  hp.keeps (P := SameSettings c) (fun hd hm => hd.trans hm.settings)
    (fun hd ht => hd.trans ht.settings) (fun _ hd _ => ⟨hd.config, hd.credentials⟩) ⟨rfl, rfl⟩

/-- What moves keep, and time that passes while there is nothing to do, is kept while time passes up to
a point. -/
theorem elapse_keeps {P : Channel σ → Prop} (hmove : ∀ {c c'}, P c → Move h c c' → P c')
    (hpass : ∀ {c t}, P c → c.step? h = none → c.now ≤ t →
      (∀ d, c.nextDue = some d → c.now < d → t ≤ d) → P { c with now := t })
    (halt : Bool) (target : Nat) (hc : P c) : P (c.elapse h halt target) := by
  induction c using elapse.induct h halt target with
  | case1 c d hover =>
    rw [elapse, if_pos hover]
    exact settle_keeps hmove hc
  | case2 c d hover t hd ht ih =>
    -- a timer is due first, and up to then there is nothing to do
    have hdue : P { c.settle h with now := t } := by
      refine hpass (settle_keeps hmove hc) (settle_settled c) ?_ fun due hdue _ => ?_
      · simpa using Nat.le_of_lt ht.1
      · obtain rfl : t = due := Option.some.inj (hd.symm.trans hdue)
        exact Nat.le_refl t
    rw [elapse, if_neg hover]
    simp only [d] at hd
    simp only [hd, if_pos ht]
    exact ih hdue
  | case3 c d hover t hd ht =>
    rw [elapse, if_neg hover]
    simp only [d] at hd
    -- the timer is due after the target, where the clock stops
    simp only [hd, if_neg ht]
    refine hpass (settle_keeps hmove hc) (settle_settled c) ?_ fun due hdue hlt => ?_
    · rw [settle_now]
      exact Nat.le_max_left ..
    · obtain rfl : t = due := Option.some.inj (hd.symm.trans hdue)
      rw [settle_now] at hlt
      omega
  | case4 c d hover hd =>
    rw [elapse, if_neg hover]
    simp only [d] at hd
    simp only [hd]
    refine hpass (settle_keeps hmove hc) (settle_settled c) ?_ fun due hdue _ => ?_
    · rw [settle_now]
      exact Nat.le_max_left ..
    · rw [hd] at hdue
      cases hdue

/-- Time that passes is a path, on which the clock stops at each timer. -/
theorem elapse_path (halt : Bool) (target : Nat) (c : Channel σ) :
    Path h c [] (c.elapse h halt target) :=
  elapse_keeps (P := Path h c []) Path.move (fun hd hs hn hdue => hd.touch (.pass hs hn hdue)) halt
    target .refl

/-- Time passes up to the point to which it is let pass. -/
theorem elapse_now (target : Nat) (c : Channel σ) :
    (c.elapse h false target).now = max c.now target := by
  induction c using elapse.induct h false target with
  | case1 c d hover => exact absurd hover.1 nofun
  | case2 c d hover t hd ht ih =>
    rw [elapse, if_neg hover]
    simp only [d] at hd
    simp only [hd, if_pos ht]
    rw [ih, Nat.max_eq_right ht.2, Nat.max_eq_right (Nat.le_trans (Nat.le_of_lt ht.1) ht.2)]
  | case3 c d hover t hd ht =>
    rw [elapse, if_neg hover]
    simp only [d] at hd
    simp only [hd, if_neg ht]
  | case4 c d hover hd =>
    rw [elapse, if_neg hover]
    simp only [d] at hd
    simp only [hd]

theorem connect_path (c : Channel σ) : Path h c [] (c.connect h).2 := by
  unfold connect
  split
  · exact .refl
  · split
    · rename_i hp
      exact (Touch.connect hp).settle_path
    · exact .refl

theorem join_path (c : Channel σ) (span : Nat) : Path h c [] (c.join h span).2 := by
  have hjoin : Path h c [] { c with joined := true } := Path.refl.touch .join
  unfold join
  simp only
  split_ifs
  · exact .refl
  · exact hjoin
  · exact hjoin.trans (elapse_path ..)
  · exact hjoin.trans (elapse_path ..)

theorem feed_path (c : Channel σ) (p : PeerId) (i : Inbound) : Path h c [] (c.feed h p i).2 := by
  unfold feed
  split
  · exact .refl
  · rename_i peer hpeer
    split
    · rename_i hr
      simp only [Bool.and_eq_true, Bool.not_eq_true'] at hr
      exact (Touch.feed i hpeer hr.1 hr.2).settle_path
    · exact .refl

/-- What a caller sends in a step, if it is taken, with the link that takes it. -/
def granted (h : Handler σ) (c : Channel σ) : Step → List (LinkId × Message)
  | .send m => if (c.send h m).1 then (c.current.map fun k => (k, m)).toList else []
  | .sendThrough k m => if (c.sendThrough h k m).1 then [(k, m)] else []
  | _ => []

def Step.message? : Step → Option Message
  | .send m => some m
  | .sendThrough _ m => some m
  | _ => none

theorem message?_of_mem_granted {s : Step} {x : LinkId × Message} (hx : x ∈ c.granted h s) :
    s.message? = some x.2 := by
  unfold granted at hx
  cases s with
  | send m =>
    simp only at hx
    split_ifs at hx
    · simp only [Option.mem_toList, Option.map_eq_some_iff] at hx
      obtain ⟨k, -, rfl⟩ := hx
      rfl
    · cases hx
  | sendThrough k m =>
    simp only at hx
    split_ifs at hx
    · rw [List.mem_singleton.1 hx]
      rfl
    · cases hx
  | _ => cases hx

def grantedIn (h : Handler σ) : Channel σ → List Step → List (LinkId × Message)
  | _, [] => []
  | c, s :: steps => c.granted h s ++ grantedIn h (c.act h s) steps

theorem sendThrough_path (c : Channel σ) (k : LinkId) (m : Message) :
    Path h c (if (c.sendThrough h k m).1 then [(k, m)] else []) (c.sendThrough h k m).2 := by
  unfold sendThrough sendOn
  simp only
  cases ho : c.isOpen k with
  | true =>
    simp only [if_true]
    exact (Path.refl.send m ho).trans (settle_path _)
  | false =>
    simp only [Bool.false_eq_true, if_false]
    exact settle_path c

theorem send_path (c : Channel σ) (m : Message) :
    Path h c (c.granted h (.send m)) (c.send h m).2 := by
  unfold granted send
  cases c.current with
  | none => exact .refl
  | some k =>
    by_cases hs : c.state.current = .connected
    · simp only [if_pos hs]
      exact sendThrough_path c k m
    · simp only [if_neg hs]
      exact .refl

theorem act_path (c : Channel σ) (s : Step) : Path h c (c.granted h s) (c.act h s) := by
  cases s with
  | connect => exact connect_path c
  | close => exact Touch.close.settle_path
  | join span => exact join_path c span
  | advance span => exact elapse_path ..
  | refuseNext => exact Path.refl.touch .refuseNext
  | acceptNext => exact Path.refl.touch .acceptNext
  | feed p i => exact feed_path c p i
  | dropPeer p => exact (Touch.dropPeer p).settle_path
  | send m => exact send_path c m
  | sendThrough k m => exact sendThrough_path c k m

theorem run_path (c : Channel σ) (steps : List Step) :
    Path h c (c.grantedIn h steps) (c.run h steps) := by
  induction steps generalizing c with
  | nil => exact .refl
  | cons s steps ih => exact (act_path c s).trans (ih _)

/-- A channel that has just been started makes its first attempt. -/
theorem connect_snd {c : Channel σ} (hv : c.credentials.validate.isOk = true)
    (hp : c.phase = .idle) : (c.connect h).2 = { c with phase := .attempting }.attempt.settle h := by
  unfold connect
  cases hok : c.credentials.validate with
  | error e =>
    rw [hok] at hv
    cases hv
  | ok _ =>
    simp only [hp, if_true]
    exact settle_of_step? rfl

/-- An attempt after which there is nothing to do is all that a channel does when it is started. -/
theorem connect_of_settled {c : Channel σ} (hv : c.credentials.validate.isOk = true)
    (hp : c.phase = .idle) (hs : { c with phase := .attempting }.attempt.step? h = none) :
    (c.connect h).2 = { c with phase := .attempting }.attempt := by
  rw [connect_snd hv hp, settle_of_settled hs]

/-- A channel that waits has nothing to do before its time. -/
theorem step?_of_waiting {t : Nat} (hp : c.phase = .waiting t) (hs : c.shutdown = false)
    (ht : c.now < t) : c.step? h = none := by
  simp [step?, hp, hs, ht]

end Tunnel.Channel
