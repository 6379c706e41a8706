import Tunnel.Channel.Move

/-!
# How much a channel has to do

At one time a channel does finitely much: connection outcomes are used up, the budget shrinks, frames
are read, and messages are written. A measure of six numbers, of which the first that differs counts,
becomes smaller with each step, so that `settle` ends: outcomes left, reconnects left, the phase, unread
frames, a heartbeat that is due, and messages in the queue. A frame that is read may leave more to be
written, and a heartbeat too, but neither gives more to read.
-/
namespace Tunnel

def ChannelPhase.IsDown : ChannelPhase → Prop
  | .waiting _ => True
  | .stopped _ => True
  | _ => False

namespace Channel

variable {σ : Type}

def current? (c : Channel σ) : Option Connection :=
  match c.phase with
  | .connected k => c.connections[k]?
  | .closing k => c.connections[k]?
  | _ => none

def budget (c : Channel σ) : Nat :=
  c.config.reconnect.maxAttempts.toNat - c.attempts.toNat

/-- How much may still happen in a phase before an outcome or a reconnect is used up. -/
def rank (c : Channel σ) : Nat :=
  match c.phase with
  | .connected _ => 4
  | .closing _ => 3
  | .waiting _ => 2
  | .attempting => 1
  | _ => 0

def unread (c : Channel σ) : Nat :=
  match c.current? with
  | some l => (c.peers[l.peer]?.map fun p => p.inbox.length).getD 0
  | none => 0

def overdue (c : Channel σ) : Nat :=
  match c.current? with
  | some l => if l.nextBeat ≤ c.now then 1 else 0
  | none => 0

def unwritten (c : Channel σ) : Nat :=
  match c.current? with
  | some l => l.queued.length
  | none => 0

theorem unread_of_current {c : Channel σ} {l : Connection} (h : c.current? = some l) :
    c.unread = (c.peers[l.peer]?.map fun p => p.inbox.length).getD 0 := by
  simp only [unread, h]

theorem overdue_of_current {c : Channel σ} {l : Connection} (h : c.current? = some l) :
    c.overdue = if l.nextBeat ≤ c.now then 1 else 0 := by
  simp only [overdue, h]

theorem unwritten_of_current {c : Channel σ} {l : Connection} (h : c.current? = some l) :
    c.unwritten = l.queued.length := by
  simp only [unwritten, h]

abbrev Work := Nat × Nat × Nat × Nat × Nat × Nat

def work (c : Channel σ) : Work :=
  (c.script.length, c.budget, c.rank, c.unread, c.overdue, c.unwritten)

def Less : Work → Work → Prop :=
  Prod.Lex (· < ·) (Prod.Lex (· < ·) (Prod.Lex (· < ·) (Prod.Lex (· < ·)
    (Prod.Lex (· < ·) (· < ·)))))

theorem less_iff {a b c d e f a' b' c' d' e' f' : Nat} :
    Less (a, b, c, d, e, f) (a', b', c', d', e', f') ↔
      a < a' ∨ a = a' ∧ (b < b' ∨ b = b' ∧ (c < c' ∨ c = c' ∧ (d < d' ∨ d = d' ∧
        (e < e' ∨ e = e' ∧ f < f')))) := by
  simp [Less, Prod.lex_def]

theorem wellFounded_less : WellFounded Less :=
  (Prod.lex Nat.lt_wfRel (Prod.lex Nat.lt_wfRel (Prod.lex Nat.lt_wfRel
    (Prod.lex Nat.lt_wfRel (Prod.lex Nat.lt_wfRel Nat.lt_wfRel))))).wf

theorem delayFor_eq_some_lt {p : ReconnectPolicy} {n : UInt32} {d : Duration}
    (h : p.delayFor n = some d) : n.toNat < p.maxAttempts.toNat := by
  unfold ReconnectPolicy.delayFor at h
  split at h
  · cases h
  · rename_i hn
    exact Nat.lt_of_not_le fun hle => hn (UInt32.le_iff_toNat_le.2 hle)

/-- A reconnect uses up outcomes or budget, or the channel stops. -/
theorem retry_less (c : Channel σ) {w : Work} (hs : c.script.length = w.1)
    (hb : c.budget = w.2.1) (hr : 0 < w.2.2.1) : Less c.retry.work w := by
  obtain ⟨a, b, r, u, o, q⟩ := w
  simp only at hs hb hr
  subst hs hb
  unfold retry
  simp only
  split
  · simp only [work, less_iff]
    exact .inr ⟨rfl, .inr ⟨rfl, .inl hr⟩⟩
  · split
    · simp only [work, less_iff]
      exact .inr ⟨rfl, .inr ⟨rfl, .inl hr⟩⟩
    · rename_i d hd
      have hlt := delayFor_eq_some_lt hd
      simp only [work, less_iff]
      refine .inr ⟨rfl, .inl ?_⟩
      have hm := (c.publish ConnectionState.disconnected).config.reconnect.maxAttempts.toNat_lt
      simp only [publish] at hlt hm ⊢
      simp only [budget, UInt32.toNat_add, UInt32.toNat_one]
      omega

/-- After a reconnect is put off, or ruled out, only the phase and the number of attempts differ. -/
theorem retry_eq (c : Channel σ) : ∃ a p, ChannelPhase.IsDown p ∧
    c.retry = { c.publish .disconnected with attempts := a, phase := p } := by
  unfold retry
  simp only
  split
  · exact ⟨c.attempts, .stopped .closed, trivial, rfl⟩
  · split
    · exact ⟨c.attempts, .stopped (.exhausted c.attempts), trivial, rfl⟩
    · rename_i d _
      exact ⟨c.attempts + 1, .waiting (c.now + d.nanos), trivial, rfl⟩

theorem refuse_eq (c : Channel σ) : ∃ a p, ChannelPhase.IsDown p ∧
    c.refuse = { c.publish .disconnected with
      outcomes := c.outcomes ++ [none], overTimes := c.overTimes ++ [c.now]
      attempts := a, phase := p } := by
  unfold refuse
  simp only
  split
  · exact ⟨c.attempts, .stopped .closed, trivial, rfl⟩
  · obtain ⟨a, p, hp, hr⟩ :=
      retry_eq { c with outcomes := c.outcomes ++ [none], overTimes := c.overTimes ++ [c.now] }
    exact ⟨a, p, hp, hr⟩

@[simp] theorem refuse_script (c : Channel σ) : c.refuse.script = c.script := by
  obtain ⟨a, p, -, hr⟩ := refuse_eq c
  rw [hr]
  rfl

@[simp] theorem welcome_script (c : Channel σ) (p : PeerId) : (c.welcome p).script = c.script := by
  unfold welcome accept
  simp only
  split
  · rfl
  · split <;> rfl

/-- An attempt without an outcome counts as a reconnect, or the channel stops. -/
theorem refuse_less (c : Channel σ) {w : Work} (hs : c.script.length = w.1)
    (hb : c.budget = w.2.1) (hr : 0 < w.2.2.1) : Less c.refuse.work w := by
  unfold refuse
  simp only
  split
  · obtain ⟨a, b, r, u, o, q⟩ := w
    simp only at hs hb hr
    subst hs hb
    simp only [work, less_iff]
    exact .inr ⟨rfl, .inr ⟨rfl, .inl hr⟩⟩
  · exact retry_less _ hs hb hr

/-- An attempt uses up an outcome, if there is one, or counts as a reconnect. -/
theorem attempt_less {c : Channel σ} (h : c.phase = .attempting) : Less c.attempt.work c.work := by
  unfold attempt
  split
  · refine refuse_less _ rfl rfl ?_
    have hr : c.rank = 1 := by simp [rank, h]
    rw [work, hr]
    exact Nat.zero_lt_one
  all_goals
    rename_i script hs
    simp only [work, less_iff, refuse_script, welcome_script, hs, List.length_cons]
    exact .inl (Nat.lt_succ_self _)

/-- Two channels that differ neither in their phase nor in what an outcome or a reconnect uses up. -/
structure SameStage (c c' : Channel σ) : Prop where
  script : c'.script = c.script
  config : c'.config = c.config
  attempts : c'.attempts = c.attempts
  phase : c'.phase = c.phase
  now : c'.now = c.now

theorem SameStage.refl (c : Channel σ) : SameStage c c := ⟨rfl, rfl, rfl, rfl, rfl⟩

theorem SameStage.trans {a b c : Channel σ} (h : SameStage a b) (g : SameStage b c) :
    SameStage a c :=
  ⟨g.script.trans h.script, g.config.trans h.config, g.attempts.trans h.attempts,
    g.phase.trans h.phase, g.now.trans h.now⟩

theorem SameStage.less {c c' : Channel σ} (h : SameStage c c')
    (g : c'.unread < c.unread ∨ c'.unread = c.unread ∧
      (c'.overdue < c.overdue ∨ c'.overdue = c.overdue ∧ c'.unwritten < c.unwritten)) :
    Less c'.work c.work := by
  simp only [work, less_iff, budget, rank, h.script, h.config, h.attempts, h.phase]
  exact .inr ⟨trivial, .inr ⟨trivial, .inr ⟨trivial, g⟩⟩⟩

theorem modifyConnection_sameStage (c : Channel σ) (k : LinkId) (f : Connection → Connection) :
    SameStage c (c.modifyConnection k f) := ⟨rfl, rfl, rfl, rfl, rfl⟩

theorem modifyPeer_sameStage (c : Channel σ) (p : PeerId) (f : Peer → Peer) :
    SameStage c (c.modifyPeer p f) := ⟨rfl, rfl, rfl, rfl, rfl⟩

theorem sendOn_sameStage (c : Channel σ) (k : LinkId) (m : Message) :
    SameStage c (c.sendOn k m).2 := by
  unfold sendOn
  split
  · exact modifyConnection_sameStage ..
  · exact .refl c

theorem sendAll_sameStage (c : Channel σ) (k : LinkId) (ms : List Message) :
    SameStage c (c.sendAll k ms) := by
  induction ms generalizing c with
  | nil => exact .refl c
  | cons m ms ih => exact (sendOn_sameStage c k m).trans (ih _)

theorem deliver_sameStage (h : Handler σ) (c : Channel σ) (k : LinkId) (m : Message) :
    SameStage c (c.deliver h k m) := by
  refine .trans ?_ (sendAll_sameStage _ k _)
  exact ⟨rfl, rfl, rfl, rfl, rfl⟩

theorem hear_sameStage (c : Channel σ) (k : LinkId) (p : PeerId) (rest : List Inbound) :
    SameStage c (c.hear k p rest) :=
  (modifyPeer_sameStage ..).trans (modifyConnection_sameStage ..)

/-- The peers of connections do not change, and neither do the frames to be read. -/
structure SameUnread (c c' : Channel σ) : Prop where
  peers : c'.peers = c.peers
  peer : ∀ k : LinkId,
    c'.connections[k]?.map (fun l => l.peer) = c.connections[k]?.map (fun l => l.peer)

theorem SameUnread.refl (c : Channel σ) : SameUnread c c := ⟨rfl, fun _ => rfl⟩

theorem SameUnread.trans {a b c : Channel σ} (h : SameUnread a b) (g : SameUnread b c) :
    SameUnread a c :=
  ⟨g.peers.trans h.peers, fun k => (g.peer k).trans (h.peer k)⟩

theorem modifyConnection_sameUnread (c : Channel σ) (k : LinkId) (f : Connection → Connection)
    (hf : ∀ l, (f l).peer = l.peer) : SameUnread c (c.modifyConnection k f) := by
  refine ⟨rfl, fun j => ?_⟩
  simp only [modifyConnection, List.getElem?_modify]
  cases c.connections[j]? with
  | none => rfl
  | some l => by_cases h : k = j <;> simp [h, hf]

theorem sendOn_sameUnread (c : Channel σ) (k : LinkId) (m : Message) :
    SameUnread c (c.sendOn k m).2 := by
  unfold sendOn
  split
  · exact modifyConnection_sameUnread _ _ _ fun _ => rfl
  · exact .refl c

theorem sendAll_sameUnread (c : Channel σ) (k : LinkId) (ms : List Message) :
    SameUnread c (c.sendAll k ms) := by
  induction ms generalizing c with
  | nil => exact .refl c
  | cons m ms ih => exact (sendOn_sameUnread c k m).trans (ih _)

theorem deliver_sameUnread (h : Handler σ) (c : Channel σ) (k : LinkId) (m : Message) :
    SameUnread c (c.deliver h k m) := by
  refine .trans ?_ (sendAll_sameUnread _ k _)
  exact ⟨rfl, fun _ => rfl⟩

theorem SameUnread.unread_eq {c c' : Channel σ} (h : SameUnread c c') (hp : c'.phase = c.phase) :
    c'.unread = c.unread := by
  unfold unread current?
  rw [hp]
  cases c.phase with
  | connected k | closing k =>
    have hk := h.peer k
    simp only [h.peers]
    cases hc : c.connections[k]? <;> cases hc' : c'.connections[k]? <;> simp_all
  | _ => rfl

theorem endpoints?_eq_some {c : Channel σ} {k : LinkId} {l : Connection} {peer : Peer} :
    c.endpoints? k = some (l, peer) ↔ c.connections[k]? = some l ∧ c.peers[l.peer]? = some peer := by
  unfold endpoints?
  cases hl : c.connections[k]? with
  | none => simp
  | some l' =>
    cases hp : c.peers[l'.peer]? with
    | none =>
      simp only [Option.bind_eq_bind, Option.bind_some, hp, Option.bind_none, reduceCtorEq,
        Option.some.injEq, false_iff, not_and]
      rintro rfl
      simp [hp]
    | some peer' =>
      simp only [Option.bind_eq_bind, Option.bind_some, hp, Option.pure_def, Option.some.injEq,
        Prod.mk.injEq]
      constructor
      · rintro ⟨rfl, rfl⟩
        exact ⟨rfl, hp⟩
      · rintro ⟨rfl, he⟩
        exact ⟨rfl, by simpa [hp] using he⟩

theorem current?_of_phase {c : Channel σ} {k : LinkId}
    (hp : c.phase = .connected k ∨ c.phase = .closing k) : c.current? = c.connections[k]? := by
  rcases hp with hp | hp <;> simp [current?, hp]

/-- Reading a frame leaves fewer frames to be read. -/
theorem hear_unread_lt {c : Channel σ} {k : LinkId} {l : Connection} {peer : Peer} {i : Inbound}
    {rest : List Inbound} (hp : c.phase = .connected k) (he : c.endpoints? k = some (l, peer))
    (hr : peer.inbox = i :: rest) : (c.hear k l.peer rest).unread < c.unread := by
  obtain ⟨hl, hpeer⟩ := endpoints?_eq_some.1 he
  have hc : c.current? = some l := by rw [current?_of_phase (.inl hp), hl]
  have hc' : (c.hear k l.peer rest).current? = some { l with lastSeen := c.now } := by
    rw [current?_of_phase (c := c.hear k l.peer rest) (.inl hp)]
    simp [hear, modifyConnection, modifyPeer, hl]
  rw [unread_of_current hc, unread_of_current hc']
  simp [hear, modifyConnection, modifyPeer, hpeer, hr]

/-- What comes of a frame that was read leaves it read. -/
theorem heard_less {c c' : Channel σ} {k : LinkId} {l : Connection} {peer : Peer} {i : Inbound}
    {rest : List Inbound} (hp : c.phase = .connected k) (he : c.endpoints? k = some (l, peer))
    (hr : peer.inbox = i :: rest) (hs : SameStage (c.hear k l.peer rest) c')
    (hu : SameUnread (c.hear k l.peer rest) c') : Less c'.work c.work := by
  refine ((hear_sameStage c k l.peer rest).trans hs).less (.inl ?_)
  rw [hu.unread_eq hs.phase]
  exact hear_unread_lt hp he hr

theorem beat_less {c : Channel σ} {k : LinkId} {l : Connection} {peer : Peer}
    (hp : c.phase = .connected k) (he : c.endpoints? k = some (l, peer))
    (hb : l.nextBeat ≤ c.now) (hi : 0 < c.config.heartbeat.nanos) :
    Less (c.beat k).work c.work := by
  obtain ⟨hl, hpeer⟩ := endpoints?_eq_some.1 he
  have hs : SameStage c (c.beat k) := (modifyConnection_sameStage ..).trans (sendOn_sameStage ..)
  have hu : SameUnread c (c.beat k) := by
    refine (modifyConnection_sameUnread c k _ ?_).trans (sendOn_sameUnread ..)
    intro l
    rfl
  refine hs.less (.inr ⟨hu.unread_eq hs.phase, .inl ?_⟩)
  have hc : c.current? = some l := by rw [current?_of_phase (.inl hp), hl]
  have hc' : ∃ l', (c.beat k).current? = some l' ∧
      l'.nextBeat = c.now + c.config.heartbeat.nanos := by
    rw [current?_of_phase (c := c.beat k) (.inl (hs.phase.trans hp))]
    unfold beat sendOn
    split <;> simp [take, modifyConnection, hl]
  obtain ⟨l', hc', hn⟩ := hc'
  rw [overdue_of_current hc, overdue_of_current hc', hn, hs.now, if_pos hb, if_neg (by omega)]
  exact Nat.zero_lt_one

/-- A writer that goes on, or gives up, leaves less to be written. -/
theorem written_less {c c' : Channel σ} {k : LinkId} {l l' : Connection} {peer : Peer}
    (hp : c.phase = .connected k ∨ c.phase = .closing k) (he : c.endpoints? k = some (l, peer))
    (hs : SameStage c c') (hl' : c'.connections[k]? = some l') (hpeer : l'.peer = l.peer)
    (hin : c'.peers[l.peer]?.map Peer.inbox = c.peers[l.peer]?.map Peer.inbox)
    (hb : l'.nextBeat = l.nextBeat) (hq : l'.queued.length < l.queued.length) :
    Less c'.work c.work := by
  obtain ⟨hl, -⟩ := endpoints?_eq_some.1 he
  have hc : c.current? = some l := by rw [current?_of_phase hp, hl]
  have hc' : c'.current? = some l' := by
    rw [current?_of_phase (c := c') (by simpa only [hs.phase] using hp), hl']
  refine hs.less (.inr ⟨?_, .inr ⟨?_, ?_⟩⟩)
  · rw [unread_of_current hc, unread_of_current hc', hpeer]
    have h := congrArg (fun o => (o.map List.length).getD 0) hin
    simpa only [Option.map_map, Function.comp_def] using h
  · rw [overdue_of_current hc, overdue_of_current hc', hb, hs.now]
  · rw [unwritten_of_current hc, unwritten_of_current hc']
    exact hq

/-- Every move leaves a channel less to do. -/
theorem Move.less {h : Handler σ} {c c' : Channel σ} (hm : Move h c c') :
    Less c'.work c.work := by
  cases hm with
  | attempt hp => exact attempt_less hp
  | wake hp ht =>
    have hr : c.rank = 2 := by simp [rank, hp]
    simp only [work, less_iff, hr]
    exact .inr ⟨trivial, .inr ⟨rfl, .inl Nat.one_lt_two⟩⟩
  | giveUp hp hs =>
    have hr : c.rank = 2 := by simp [rank, hp]
    simp only [work, less_iff, hr]
    exact .inr ⟨rfl, .inr ⟨rfl, .inl Nat.zero_lt_two⟩⟩
  | hangUp hp he hm | failWrite hp he hd =>
    have hr : c.rank = 4 := by simp [rank, hp]
    simp only [work, less_iff, hr]
    exact .inr ⟨rfl, .inr ⟨rfl, .inl (Nat.lt_succ_self 3)⟩⟩
  | beat hp he hs hb hi => exact beat_less hp he hb hi
  | pass hp he hs hr hd => exact heard_less hp he hr (.refl _) (.refl _)
  | answer hp he hs hr hd =>
    exact heard_less hp he hr (sendOn_sameStage ..) (sendOn_sameUnread ..)
  | deliver hp he hs hr hd hm =>
    exact heard_less hp he hr (deliver_sameStage ..) (deliver_sameUnread ..)
  | @write k l peer m ms hp he hq hd =>
    obtain ⟨hl, hpeer⟩ := endpoints?_eq_some.1 he
    have hl' : (c.write k l.peer m ms).connections[k]? = some { l with queued := ms } := by
      simp [Channel.write, modifyConnection, modifyPeer, hl]
    refine written_less hp he ((modifyConnection_sameStage ..).trans (modifyPeer_sameStage ..))
      hl' rfl ?_ rfl ?_
    · simp [Channel.write, modifyConnection, modifyPeer, hpeer]
    · simp [hq]
  | @abandon k l peer m ms hp he hq hd =>
    obtain ⟨hl, hpeer⟩ := endpoints?_eq_some.1 he
    have hl' : (c.stopWriting k).connections[k]? =
        some { l with writing := false, queued := [] } := by
      simp [stopWriting, modifyConnection, hl]
    refine written_less (.inr hp) he (modifyConnection_sameStage ..) hl' rfl rfl rfl ?_
    simp [hq]
  | shut hp he hq =>
    refine retry_less _ rfl rfl ?_
    rw [work]
    simp [rank, hp]

/-- Everything that a channel does at one time leaves it less to do. -/
theorem step?_less {h : Handler σ} {c c' : Channel σ} (hs : c.step? h = some c') :
    Less c'.work c.work :=
  (move_of_step? hs).less

end Channel

end Tunnel
