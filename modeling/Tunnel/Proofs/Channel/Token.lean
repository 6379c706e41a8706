import Tunnel.Proofs.Channel.Close

/-!
# The token of a channel

A channel uses its token in two places: to see whether it is blank, and to present it when it makes an
attempt. So what a channel does with another token is what it does with this one, but for the tokens that
it presents. To put another token into a channel is an operation that all others commute with.
-/
namespace Tunnel.Channel

variable {σ : Type} {h : Handler σ} {c : Channel σ} {t : String} {k : LinkId} {p : PeerId}

/-- The channel with another token, which it has presented on all its attempts. -/
def withToken (c : Channel σ) (t : String) : Channel σ :=
  { c with
    credentials := { c.credentials with token := t }
    tokens := c.attemptTimes.map fun _ => t }

@[simp] theorem withToken_phase : (c.withToken t).phase = c.phase := rfl

@[simp] theorem withToken_script : (c.withToken t).script = c.script := rfl

@[simp] theorem withToken_endpoints? : (c.withToken t).endpoints? k = c.endpoints? k := rfl

@[simp] theorem withToken_current : (c.withToken t).current = c.current := rfl

@[simp] theorem withToken_state : (c.withToken t).state = c.state := rfl

@[simp] theorem withToken_peers : (c.withToken t).peers = c.peers := rfl

@[simp] theorem sendOn_withToken (m : Message) :
    (c.withToken t).sendOn k m = ((c.sendOn k m).1, (c.sendOn k m).2.withToken t) := by
  unfold sendOn
  change (if c.isOpen k then _ else _) = _
  split <;> rfl

@[simp] theorem sendAll_withToken (ms : List Message) :
    (c.withToken t).sendAll k ms = (c.sendAll k ms).withToken t := by
  induction ms generalizing c with
  | nil => rfl
  | cons m ms ih =>
    have hcons : ∀ b : Channel σ, b.sendAll k (m :: ms) = (b.sendOn k m).2.sendAll k ms := fun _ => rfl
    rw [hcons, hcons, sendOn_withToken, ih]

@[simp] theorem retry_withToken : (c.withToken t).retry = c.retry.withToken t := by
  cases hs : c.shutdown with
  | true =>
    rw [retry_of_shutdown hs, retry_of_shutdown (c := c.withToken t) hs]
    rfl
  | false =>
    cases hd : c.config.reconnect.delayFor c.attempts with
    | none =>
      rw [retry_of_spent hs hd, retry_of_spent (c := c.withToken t) hs hd]
      rfl
    | some d =>
      rw [retry_of_delay hs hd, retry_of_delay (c := c.withToken t) hs hd]
      rfl

@[simp] theorem accept_withToken : (c.withToken t).accept p = (c.accept p).withToken t := by
  refine Eq.trans ?_ (apply_ite (withToken · t) ..).symm
  rfl

@[simp] theorem refuse_withToken : (c.withToken t).refuse = c.refuse.withToken t := by
  refine Eq.trans ?_ (apply_ite (withToken · t) ..).symm
  have hover := retry_withToken (t := t) (c := { c with
    outcomes := c.outcomes ++ [none], overTimes := c.overTimes ++ [c.now] })
  rw [← hover]
  rfl

@[simp] theorem welcome_withToken : (c.withToken t).welcome p = (c.welcome p).withToken t := by
  refine Eq.trans ?_ (apply_ite (withToken · t) ..).symm
  rw [← accept_withToken]
  rfl

theorem ask_withToken (script : List Offer) :
    ({ (c.withToken t).ask with script } : Channel σ) =
      ({ c.ask with script } : Channel σ).withToken t := by
  simp [ask, withToken, publish]

@[simp] theorem attempt_withToken : (c.withToken t).attempt = c.attempt.withToken t := by
  unfold attempt
  rw [withToken_script]
  cases hs : c.script with
  | nil =>
    have hask := ask_withToken (c := c) (t := t) c.script
    exact (congrArg Channel.refuse hask).trans refuse_withToken
  | cons o script =>
    cases o with
    | refuse => exact (congrArg Channel.refuse (ask_withToken script)).trans refuse_withToken
    | accept p =>
      exact (congrArg (Channel.welcome · p) (ask_withToken script)).trans welcome_withToken

@[simp] theorem deliver_withToken (m : Message) :
    (c.withToken t).deliver h k m = (c.deliver h k m).withToken t :=
  sendAll_withToken (c := { c with
    handler := (h.handle c.handler k m).1
    delivered := c.delivered ++ [(k, m)] }) (h.handle c.handler k m).2

@[simp] theorem beat_withToken : (c.withToken t).beat k = (c.beat k).withToken t :=
  congrArg Prod.snd (sendOn_withToken (c := c.modifyConnection k fun l =>
    { l with nextBeat := c.now + c.config.heartbeat.nanos }) (.ping 0))

@[simp] theorem receive_withToken (raw : String) :
    (c.withToken t).receive h k raw = (c.receive h k raw).withToken t := by
  unfold receive
  split
  · rfl
  · exact congrArg Prod.snd (sendOn_withToken (.pong 0))
  · rfl
  · exact deliver_withToken _

@[simp] theorem stepWriter_withToken (l : Connection) (peer : Peer) :
    (c.withToken t).stepWriter h k l peer = (c.stepWriter h k l peer).map (withToken · t) := by
  unfold stepWriter
  split
  · rfl
  · refine Eq.trans ?_ (apply_ite (Option.map (withToken · t)) ..).symm
    rfl

@[simp] theorem stepConnected_withToken (l : Connection) (peer : Peer) :
    (c.withToken t).stepConnected h k l peer =
      (c.stepConnected h k l peer).map (withToken · t) := by
  have hinto : ∀ {a : Prop} [Decidable a] (x y : Option (Channel σ)),
      (if a then x.map (withToken · t) else y.map (withToken · t)) =
        (if a then x else y).map (withToken · t) := fun x y => (apply_ite _ _ x y).symm
  unfold stepConnected
  refine Eq.trans (ite_congr rfl (fun _ => rfl) fun _ => ?_) (hinto (some (c.hangUp h k)) _)
  refine Eq.trans (ite_congr rfl (fun _ => congrArg some beat_withToken) fun _ => ?_)
    (hinto (some (c.beat k)) _)
  refine Eq.trans (ite_congr rfl (fun _ => rfl) fun _ => ?_) (hinto (some (c.hangUp h k)) _)
  split
  · exact congrArg some (receive_withToken (c := c.hear k l.peer _) _)
  · rfl
  · exact (ite_congr rfl (fun _ => rfl) fun _ => stepWriter_withToken l peer).trans
      (hinto (some (c.hangUp h k)) _)

@[simp] theorem stepClosing_withToken (l : Connection) (peer : Peer) :
    (c.withToken t).stepClosing k l peer = (c.stepClosing k l peer).withToken t := by
  unfold stepClosing
  split
  · refine Eq.trans ?_ (apply_ite (withToken · t) ..).symm
    rfl
  · exact retry_withToken (c := (c.stopWriting k).letGo l.peer)

@[simp] theorem step?_withToken : (c.withToken t).step? h = (c.step? h).map (withToken · t) := by
  unfold step?
  rw [withToken_phase]
  cases c.phase with
  | idle | stopped exit | crashed => rfl
  | attempting => exact congrArg some attempt_withToken
  | connected k =>
    simp only [withToken_endpoints?]
    cases c.endpoints? k with
    | none => rfl
    | some x => exact stepConnected_withToken x.1 x.2
  | closing k =>
    simp only [withToken_endpoints?]
    cases c.endpoints? k with
    | none => rfl
    | some x => exact congrArg some (stepClosing_withToken x.1 x.2)
  | waiting due =>
    refine Eq.trans ?_ (apply_ite (Option.map (withToken · t)) ..).symm
    simp only [apply_ite (Option.map (withToken · t))]
    rfl

@[simp] theorem settle_withToken : (c.withToken t).settle h = (c.settle h).withToken t := by
  induction c using settle.induct h with
  | case1 c hs =>
    rw [settle_of_settled hs, settle_of_settled (by simp [hs])]
  | case2 c c' hs ih =>
    have hs' : (c.withToken t).step? h = some (c'.withToken t) := by simp [hs]
    rw [settle_of_step? hs, settle_of_step? hs', ih]

theorem elapse_withToken (halt : Bool) (target : Nat) :
    (c.withToken t).elapse h halt target = (c.elapse h halt target).withToken t := by
  induction c using elapse.induct h halt target with
  | case1 c d hover =>
    rw [elapse, settle_withToken, elapse, if_pos hover]
    exact if_pos hover
  | case2 c d hover due hd ht ih =>
    rw [elapse, settle_withToken, elapse, if_neg hover]
    refine (if_neg hover).trans ?_
    have hd' : (d.withToken t).nextDue = some due := hd
    simp only [d] at hd hd'
    simp only [hd, hd', if_pos ht]
    exact (if_pos ht).trans ih
  | case3 c d hover due hd ht =>
    rw [elapse, settle_withToken, elapse, if_neg hover]
    refine (if_neg hover).trans ?_
    have hd' : (d.withToken t).nextDue = some due := hd
    simp only [d] at hd hd'
    simp only [hd, hd', if_neg ht]
    exact if_neg ht
  | case4 c d hover hd =>
    rw [elapse, settle_withToken, elapse, if_neg hover]
    refine (if_neg hover).trans ?_
    have hd' : (d.withToken t).nextDue = none := hd
    simp only [d] at hd hd'
    simp only [hd, hd']
    rfl

theorem connect_withToken
    (hv : (c.withToken t).credentials.validate = c.credentials.validate) :
    (c.withToken t).connect h = ((c.connect h).1, (c.connect h).2.withToken t) := by
  unfold connect
  rw [hv, withToken_phase]
  cases c.credentials.validate with
  | error e => rfl
  | ok _ =>
    simp only
    split
    · exact congrArg (Prod.mk (Except.ok ())) (settle_withToken (c := { c with phase := .attempting }))
    · rfl

@[simp] theorem join_withToken (span : Nat) :
    (c.withToken t).join h span = ((c.join h span).1, (c.join h span).2.withToken t) := by
  let put : Join × Channel σ → Join × Channel σ := fun r => (r.1, r.2.withToken t)
  have hput : ∀ {a : Prop} [Decidable a] (x y : Join × Channel σ),
      (if a then put x else put y) = put (if a then x else y) := fun x y => (apply_ite put _ x y).symm
  -- what is reported once the wait is over
  let ending : Channel σ → Join × Channel σ := fun d =>
    if d.isOver ∧ d.now < c.now + span then (d.report, d) else (.timedOut, d)
  have hending : ∀ d, ending (d.withToken t) = put (ending d) := fun d =>
    hput (d.report, d) (.timedOut, d)
  let b : Channel σ := { c with joined := true }
  refine Eq.trans (ite_congr rfl (fun _ => rfl) fun _ => ?_) (hput (.nothing, c) _)
  refine Eq.trans (ite_congr rfl (fun _ => rfl) fun _ => ?_) (hput (b.report, b) _)
  exact (congrArg ending (elapse_withToken (c := b) true (c.now + span))).trans (hending _)

@[simp] theorem sendThrough_withToken (m : Message) :
    (c.withToken t).sendThrough h k m =
      ((c.sendThrough h k m).1, (c.sendThrough h k m).2.withToken t) := by
  simp [sendThrough]

@[simp] theorem send_withToken (m : Message) :
    (c.withToken t).send h m = ((c.send h m).1, (c.send h m).2.withToken t) := by
  unfold send
  rw [withToken_current, withToken_state]
  cases c.current with
  | none => rfl
  | some k =>
    simp only
    split
    · exact sendThrough_withToken m
    · rfl

@[simp] theorem feed_withToken (i : Inbound) :
    (c.withToken t).feed h p i = ((c.feed h p i).1, (c.feed h p i).2.withToken t) := by
  unfold feed
  rw [withToken_peers]
  cases c.peers[p]? with
  | none => rfl
  | some peer =>
    simp only
    split
    · exact congrArg (Prod.mk true) (settle_withToken (c := c.modifyPeer p _))
    · rfl

inductive Answer where
  | connected (result : Except PairingError Unit)
  | joined (join : Join)
  | queued (p : PeerId)
  | taken (yes : Bool)
  | nothing

def answer (h : Handler σ) (c : Channel σ) : Step → Answer
  | .connect => .connected (c.connect h).1
  | .join span => .joined (c.join h span).1
  | .acceptNext => .queued c.acceptNext.1
  | .feed p i => .taken (c.feed h p i).1
  | .send m => .taken (c.send h m).1
  | .sendThrough k m => .taken (c.sendThrough h k m).1
  | .close => .nothing
  | .advance _ => .nothing
  | .refuseNext => .nothing
  | .dropPeer _ => .nothing

def answers (h : Handler σ) : Channel σ → List Step → List Answer
  | _, [] => []
  | c, s :: steps => c.answer h s :: answers h (c.act h s) steps

/-- A step with another token, if this is blank exactly when the one before is. -/
theorem act_withToken (hv : (c.withToken t).credentials.validate = c.credentials.validate)
    (s : Step) : (c.withToken t).act h s = (c.act h s).withToken t ∧
      (c.withToken t).answer h s = c.answer h s := by
  cases s with
  | connect =>
    obtain ⟨hfst, hsnd⟩ := Prod.ext_iff.1 (connect_withToken (h := h) hv)
    exact ⟨hsnd, congrArg Answer.connected hfst⟩
  | close => exact ⟨settle_withToken (c := { c with shutdown := true }), rfl⟩
  | join span =>
    obtain ⟨hfst, hsnd⟩ := Prod.ext_iff.1 (join_withToken (h := h) (c := c) (t := t) span)
    exact ⟨hsnd, congrArg Answer.joined hfst⟩
  | advance span => exact ⟨elapse_withToken false (c.now + span), rfl⟩
  | refuseNext | acceptNext => exact ⟨rfl, rfl⟩
  | feed p i =>
    obtain ⟨hfst, hsnd⟩ := Prod.ext_iff.1 (feed_withToken (h := h) (c := c) (t := t) (p := p) i)
    exact ⟨hsnd, congrArg Answer.taken hfst⟩
  | dropPeer p => exact ⟨settle_withToken (c := c.modifyPeer p _), rfl⟩
  | send m =>
    obtain ⟨hfst, hsnd⟩ := Prod.ext_iff.1 (send_withToken (h := h) (c := c) (t := t) m)
    exact ⟨hsnd, congrArg Answer.taken hfst⟩
  | sendThrough k m =>
    obtain ⟨hfst, hsnd⟩ := Prod.ext_iff.1 (sendThrough_withToken (h := h) (c := c) (t := t) (k := k) m)
    exact ⟨hsnd, congrArg Answer.taken hfst⟩

theorem run_withToken (hv : (c.withToken t).credentials.validate = c.credentials.validate)
    (steps : List Step) : (c.withToken t).run h steps = (c.run h steps).withToken t ∧
      answers h (c.withToken t) steps = answers h c steps := by
  induction steps generalizing c with
  | nil => exact ⟨rfl, rfl⟩
  | cons s steps ih =>
    obtain ⟨hact, hanswer⟩ := act_withToken (h := h) hv s
    have hkept : (c.act h s).credentials = c.credentials := (act_path c s).settings.credentials
    have hv' : ((c.act h s).withToken t).credentials.validate =
        (c.act h s).credentials.validate := by
      change Credentials.validate { (c.act h s).credentials with token := t } = _
      rw [hkept]
      exact hv
    obtain ⟨hrun, hanswers⟩ := ih hv'
    refine ⟨?_, ?_⟩
    · change ((c.withToken t).act h s).run h steps = _
      rw [hact]
      exact hrun
    · rw [answers, answers, hanswer, hact, hanswers]

theorem validate_congr {url t₁ t₂ : String}
    (hblank : Blank.isBlankText t₁ = Blank.isBlankText t₂) :
    Credentials.validate ⟨url, t₁⟩ = Credentials.validate ⟨url, t₂⟩ := by
  unfold Credentials.validate
  simp only [hblank]

/-- Two tokens that are both blank, or neither, cannot be told apart by anything but the attempts. In
every sequence of steps, all answers are the same, with their errors, and so are the states that the two
channels come to: the state that is published, the times of attempts, the handler and what was delivered
to it, the links, and all that has come to the peers. Each attempt has presented the token of its own
channel. To developers the credentials are shown alike, and they can be used, or not, for the same
reason. -/
theorem token_hidden (config : ChannelConfig) (url t₁ t₂ : String) (s : σ) (h : Handler σ)
    (hblank : Blank.isBlankText t₁ = Blank.isBlankText t₂) (steps : List Step) :
    let start (t : String) := Channel.new config ⟨url, t⟩ s
    let run (t : String) := (start t).run h steps
    answers h (start t₁) steps = answers h (start t₂) steps ∧
    run t₂ = { run t₁ with credentials := ⟨url, t₂⟩, tokens := (run t₂).tokens } ∧
    (run t₁).tokens = List.replicate (run t₁).attemptTimes.length t₁ ∧
    (run t₂).tokens = List.replicate (run t₂).attemptTimes.length t₂ ∧
    Credentials.describe ⟨url, t₁⟩ = Credentials.describe ⟨url, t₂⟩ ∧
    Credentials.validate ⟨url, t₁⟩ = Credentials.validate ⟨url, t₂⟩ := by
  intro start run
  have hv : ∀ t, Blank.isBlankText t₁ = Blank.isBlankText t →
      ((start t₁).withToken t).credentials.validate = (start t₁).credentials.validate :=
    fun t ht => (validate_congr ht).symm
  have hrun : ∀ t, Blank.isBlankText t₁ = Blank.isBlankText t →
      run t = (run t₁).withToken t ∧ answers h (start t) steps = answers h (start t₁) steps :=
    fun t ht => run_withToken (hv t ht) steps
  have hcred : (run t₁).credentials = ⟨url, t₁⟩ := (run_path (start t₁) steps).settings.credentials
  obtain ⟨hsame, hanswers⟩ := hrun t₂ hblank
  refine ⟨hanswers.symm, ?_, ?_, ?_, rfl, validate_congr hblank⟩
  · rw [hsame]
    simp only [withToken, hcred]
  · have hown := congrArg Channel.tokens (hrun t₁ rfl).1
    rw [hown]
    exact List.map_const' ..
  · rw [hsame]
    exact List.map_const' ..

/-- Two channels whose tokens differ both make an attempt that is refused, and each presents its own
token. -/
theorem token_hidden_refused :
    let h : Handler Unit := ⟨fun s _ _ => (s, []), fun s _ => s⟩
    let start (t : String) := Channel.new {} ⟨"wss://relay.example.com/c", t⟩ ()
    let run (t : String) := (start t).run h [.refuseNext, .connect]
    Blank.isBlankText "t0k" = Blank.isBlankText "another" ∧
      answers h (start "t0k") [.refuseNext, .connect] =
        answers h (start "another") [.refuseNext, .connect] ∧
      (run "t0k").attemptTimes = [0] ∧ (run "another").attemptTimes = [0] ∧
      (run "t0k").tokens = ["t0k"] ∧ (run "another").tokens = ["another"] := by
  intro h start run
  have hblank : Blank.isBlankText "t0k" = Blank.isBlankText "another" := by decide +kernel
  let first : Channel Unit := ({ (start "t0k").refuseNext with phase := .attempting }).attempt
  have hphase : first.phase = .waiting 2000000000 := by decide +kernel
  have hfirst : run "t0k" = first :=
    connect_of_settled (by decide +kernel) rfl (step?_of_waiting hphase rfl (by decide))
  have hmade : (run "t0k").attemptTimes = [0] := by
    rw [hfirst]
    rfl
  obtain ⟨hanswers, hsame, hone, hother, -⟩ :=
    token_hidden {} "wss://relay.example.com/c" "t0k" "another" () h hblank [.refuseNext, .connect]
  have hmade' : (run "another").attemptTimes = [0] :=
    (congrArg Channel.attemptTimes hsame).trans hmade
  refine ⟨hblank, hanswers, hmade, hmade', ?_, ?_⟩
  · exact hone.trans (by rw [hmade]; rfl)
  · exact hother.trans (by rw [hmade']; rfl)

end Tunnel.Channel
