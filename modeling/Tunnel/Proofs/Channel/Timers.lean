import Tunnel.Proofs.Channel.Chronicle

/-!
# The timers of connections

A connection keeps when the relay was last heard and when its next heartbeat is due. Both follow from the
log of the channel: the relay was heard when the connection was opened or when a frame was last read on
it, and heartbeats are sent a period after the opening, two periods after it and so on, one each. A
connection that serves never outlives a timer, since the clock stops at each that is due.
-/
namespace Tunnel.Channel

variable {σ : Type} {h : Handler σ} {c c' : Channel σ} {k : LinkId} {l : Connection} {peer : Peer}
  {w : List (LinkId × Message)} {fed : List (PeerId × Inbound)} {log : List (Nat × Event)} {t : Nat}
  {e : Event}

namespace Event

def isOpening : Event → Bool
  | opened _ => true
  | _ => false

def isRead : Event → Bool
  | read _ _ => true
  | _ => false

def isBeat : Event → Bool
  | beat _ => true
  | _ => false

def isEnd : Event → Bool
  | ended _ _ => true
  | _ => false

end Event

def timesOn (q : Event → Bool) (log : List (Nat × Event)) (k : LinkId) : List Nat :=
  (log.filter fun x => x.2.link = k ∧ q x.2).map Prod.fst

abbrev openings (log : List (Nat × Event)) (k : LinkId) : List Nat := timesOn Event.isOpening log k

abbrev readings (log : List (Nat × Event)) (k : LinkId) : List Nat := timesOn Event.isRead log k

abbrev beatsOn (log : List (Nat × Event)) (k : LinkId) : List Nat := timesOn Event.isBeat log k

abbrev endings (log : List (Nat × Event)) (k : LinkId) : List Nat := timesOn Event.isEnd log k

/-- When the relay was last heard on a connection: when the last frame was read, or the connection was
opened if none was. -/
def lastHeard (log : List (Nat × Event)) (k : LinkId) : Option Nat :=
  (readings log k).getLast?.or (openings log k).head?

theorem timesOn_concat (q : Event → Bool) (log : List (Nat × Event)) (t : Nat) (e : Event)
    (k : LinkId) :
    timesOn q (log ++ [(t, e)]) k = timesOn q log k ++ if e.link = k ∧ q e then [t] else [] := by
  rw [timesOn, List.filter_append, List.map_append, ← timesOn]
  by_cases he : e.link = k ∧ q e
  · simp [he]
  · simp [he]

theorem timesOn_concat_of_ne (q : Event → Bool) (log : List (Nat × Event)) (t : Nat)
    (he : e.link ≠ k) : timesOn q (log ++ [(t, e)]) k = timesOn q log k := by
  rw [timesOn_concat, if_neg fun h => he h.1, List.append_nil]

theorem timesOn_eq_nil (q : Event → Bool) (hlog : ∀ x ∈ log, x.2.link ≠ k) :
    timesOn q log k = [] := by
  rw [timesOn, List.filter_eq_nil_iff.2, List.map_nil]
  intro x hx hq
  exact hlog x hx (of_decide_eq_true hq).1

/-! ## The timers of one connection

Of the events of a log only those of one connection count for its timers: the opening sets both, a frame
that is read sets one and a heartbeat the other.
-/

/-- The first times of those that come a period after a start, two periods after it, and so on. -/
def ticks (start period n : Nat) : List Nat := (List.range n).map fun i => start + (i + 1) * period

theorem ticks_succ (start period n : Nat) :
    ticks start period (n + 1) = ticks start period n ++ [start + (n + 1) * period] := by
  rw [ticks, List.range_succ, List.map_append, ticks]
  rfl

/-- The timers of a connection are as the log says: when it was last heard, and when the heartbeat after
those that were sent is due. -/
structure Timed (period : Nat) (log : List (Nat × Event)) (k : LinkId) (seen due : Nat) : Prop where
  heard : lastHeard log k = some seen
  beats : ∃ start n, openings log k = [start] ∧ beatsOn log k = ticks start period n ∧
    due = start + (n + 1) * period

variable {period seen due : Nat}

theorem Timed.other (ht : Timed period log k seen due) (t : Nat) (he : e.link ≠ k) :
    Timed period (log ++ [(t, e)]) k seen due := by
  have hsame : ∀ q, timesOn q (log ++ [(t, e)]) k = timesOn q log k := fun q =>
    timesOn_concat_of_ne q log t he
  refine ⟨?_, by simpa only [hsame] using ht.beats⟩
  rw [lastHeard, readings, openings, hsame, hsame]
  exact ht.heard

theorem Timed.opened (period : Nat) (hlog : ∀ x ∈ log, x.2.link ≠ k) (t : Nat) :
    Timed period (log ++ [(t, .opened k)]) k t (t + period) := by
  have hnil := fun q => timesOn_eq_nil (k := k) q hlog
  refine ⟨?_, t, 0, ?_, ?_, ?_⟩
  · simp [lastHeard, timesOn_concat, hnil, Event.link, Event.isOpening, Event.isRead]
  · simp [timesOn_concat, hnil, Event.link, Event.isOpening]
  · simp [timesOn_concat, hnil, Event.isBeat, ticks]
  · rw [Nat.zero_add, Nat.one_mul]

theorem Timed.read (ht : Timed period log k seen due) (t : Nat) (raw : String) :
    Timed period (log ++ [(t, .read k raw)]) k t due := by
  obtain ⟨-, start, n, hopened, hbeats, hdue⟩ := ht
  refine ⟨?_, start, n, ?_, ?_, hdue⟩
  · simp [lastHeard, timesOn_concat, Event.link, Event.isRead]
  · simpa [timesOn_concat, Event.isOpening] using hopened
  · simpa [timesOn_concat, Event.isBeat] using hbeats

theorem Timed.beat (ht : Timed period log k seen due) :
    Timed period (log ++ [(due, .beat k)]) k seen (due + period) := by
  obtain ⟨hheard, start, n, hopened, hbeats, hdue⟩ := ht
  refine ⟨?_, start, n + 1, ?_, ?_, ?_⟩
  · simpa [lastHeard, timesOn_concat, Event.isOpening, Event.isRead] using hheard
  · simpa [timesOn_concat, Event.isOpening] using hopened
  · rw [ticks_succ, ← hbeats, ← hdue]
    simp [timesOn_concat, Event.link, Event.isBeat]
  · rw [hdue, Nat.succ_mul (n + 1), Nat.add_assoc]

theorem Timed.ended (ht : Timed period log k seen due) (t : Nat) (cause : Cause) :
    Timed period (log ++ [(t, .ended k cause)]) k seen due := by
  obtain ⟨hheard, start, n, hopened, hbeats, hdue⟩ := ht
  refine ⟨?_, start, n, ?_, ?_, hdue⟩
  · simpa [lastHeard, timesOn_concat, Event.isOpening, Event.isRead] using hheard
  · simpa [timesOn_concat, Event.isOpening] using hopened
  · simpa [timesOn_concat, Event.isBeat] using hbeats

def timers (c : Channel σ) : List (Nat × Nat) :=
  c.connections.map fun l => (l.lastSeen, l.nextBeat)

theorem timers_of_modify {f : Connection → Connection} {g : Nat × Nat → Nat × Nat}
    (hconn : c'.connections = c.connections.modify k f)
    (hf : ∀ l, ((f l).lastSeen, (f l).nextBeat) = g (l.lastSeen, l.nextBeat)) :
    c'.timers = c.timers.modify k g := by
  refine List.ext_getElem? fun j => ?_
  simp only [timers, hconn, List.getElem?_map, List.getElem?_modify]
  cases c.connections[j]? with
  | none => rfl
  | some l => by_cases hj : k = j <;> simp [hj, hf]

theorem timers_of_same {f : Connection → Connection}
    (hconn : c'.connections = c.connections.modify k f)
    (hf : ∀ l, ((f l).lastSeen, (f l).nextBeat) = (l.lastSeen, l.nextBeat)) : c'.timers = c.timers := by
  rw [timers_of_modify (g := id) hconn hf, List.modify_id]

@[simp] theorem timers_stopWriting (c : Channel σ) (k : LinkId) : (c.stopWriting k).timers = c.timers :=
  timers_of_same rfl fun _ => rfl

/-- The timers of a connection that serves have not run out. -/
structure InTime (c : Channel σ) (seen due : Nat) : Prop where
  now_le : c.now ≤ due
  le_now : due ≤ c.now + c.config.heartbeat.nanos
  heard : ∀ t, c.config.liveness = some t → c.now ≤ seen + t.nanos

/-- A log says all there is to say of the timers of a channel. A connection that serves is one that has
not ended. -/
structure Chronicled (log : List (Nat × Event)) (c : Channel σ) : Prop where
  timed : ∀ k seen due, c.timers[k]? = some (seen, due) →
    Timed c.config.heartbeat.nanos log k seen due
  unmade : ∀ k, c.timers.length ≤ k → ∀ x ∈ log, x.2.link ≠ k
  serving : ∀ k, c.phase = .connected k → endings log k = [] ∧
    ∀ seen due, c.timers[k]? = some (seen, due) → c.InTime seen due

theorem Chronicled.congr (hl : Chronicled log c) (htimers : c'.timers = c.timers)
    (hconfig : c'.config = c.config) (hnow : c'.now = c.now)
    (hphase : ∀ k, c'.phase = .connected k → c.phase = .connected k) : Chronicled log c' := by
  refine ⟨fun k seen due hk => ?_, fun k hk => ?_, fun k hk => ?_⟩
  · rw [htimers] at hk
    rw [hconfig]
    exact hl.timed k seen due hk
  · rw [htimers] at hk
    exact hl.unmade k hk
  · obtain ⟨hends, htime⟩ := hl.serving k (hphase k hk)
    refine ⟨hends, fun seen due hk => ?_⟩
    rw [htimers] at hk
    obtain ⟨hle, hge, hheard⟩ := htime seen due hk
    exact ⟨by rwa [hnow], by rwa [hnow, hconfig], by rwa [hnow, hconfig]⟩

/-- What happens to the connection that serves changes no timers but its own. -/
theorem Chronicled.happens {f : Nat × Nat → Nat × Nat} (hl : Chronicled log c)
    (hp : c.phase = .connected k) (hk : k < c.timers.length) (he : e.link = k)
    (htimers : c'.timers = c.timers.modify k f) (hconfig : c'.config = c.config)
    (hnow : c'.now = c.now)
    (hphase : ∀ j, c'.phase = .connected j → c.phase = .connected j ∧ e.isEnd = false)
    (hf : ∀ seen due, c.timers[k]? = some (seen, due) →
      Timed c.config.heartbeat.nanos log k seen due → c.InTime seen due →
      Timed c.config.heartbeat.nanos (log ++ [(t, e)]) k (f (seen, due)).1 (f (seen, due)).2 ∧
        c.InTime (f (seen, due)).1 (f (seen, due)).2) :
    Chronicled (log ++ [(t, e)]) c' := by
  have hown : ∀ seen due, c'.timers[k]? = some (seen, due) →
      Timed c.config.heartbeat.nanos (log ++ [(t, e)]) k seen due ∧ c.InTime seen due := by
    intro seen due hk'
    rw [htimers, List.getElem?_modify_eq, List.getElem?_eq_getElem hk] at hk'
    obtain ⟨seen₀, due₀, h₀⟩ : ∃ seen₀ due₀, c.timers[k] = (seen₀, due₀) := ⟨_, _, rfl⟩
    have hold : c.timers[k]? = some (seen₀, due₀) := by rw [List.getElem?_eq_getElem hk, h₀]
    have hnew : f (seen₀, due₀) = (seen, due) := by
      rw [h₀] at hk'
      exact Option.some.inj hk'
    have hstep := hf seen₀ due₀ hold (hl.timed k _ _ hold) ((hl.serving k hp).2 _ _ hold)
    rwa [hnew] at hstep
  refine ⟨fun j seen due hj => ?_, fun j hj x hx => ?_, fun j hj => ?_⟩
  · rw [hconfig]
    by_cases hjk : j = k
    · rw [hjk] at hj ⊢
      exact (hown seen due hj).1
    · rw [htimers, List.getElem?_modify_ne _ _ (Ne.symm hjk)] at hj
      exact (hl.timed j seen due hj).other t (by rw [he]; exact Ne.symm hjk)
  · rw [htimers, List.length_modify] at hj
    rcases List.mem_append.1 hx with hx | hx
    · exact hl.unmade j hj x hx
    · rw [List.mem_singleton.1 hx, he]
      exact Nat.ne_of_lt (Nat.lt_of_lt_of_le hk hj)
  · obtain ⟨hpj, hend⟩ := hphase j hj
    obtain rfl : k = j := ChannelPhase.connected.inj (hp.symm.trans hpj)
    refine ⟨?_, fun seen due hj => ?_⟩
    · rw [endings, timesOn_concat, if_neg (by simp [hend]), List.append_nil]
      exact (hl.serving k hp).1
    · obtain ⟨hle, hge, hheard⟩ := (hown seen due hj).2
      exact ⟨by rwa [hnow], by rwa [hnow, hconfig], by rwa [hnow, hconfig]⟩

theorem timers_getElem? (hl : c.connections[k]? = some l) :
    c.timers[k]? = some (l.lastSeen, l.nextBeat) := by
  rw [timers, List.getElem?_map, hl]
  rfl

theorem timers_receive (ho : c.isOpen k = true) (p : PeerId) (raw : String) (rest : List Inbound) :
    ((c.hear k p rest).receive h k raw).timers = c.timers.modify k fun x => (c.now, x.2) := by
  refine timers_of_modify (f := fun l =>
    { l with lastSeen := c.now, queued := l.queued ++ (reply h c.handler k raw).2
             taken := l.taken ++ (reply h c.handler k raw).2 }) ?_ fun _ => rfl
  rw [receive_of_isOpen (by simp [ho])]
  exact List.modify_modify_eq ..

theorem beat_of_isOpen (ho : c.isOpen k = true) : c.beat k = c.modifyConnection k fun l =>
    { l with nextBeat := c.now + c.config.heartbeat.nanos, queued := l.queued ++ [.ping 0]
             taken := l.taken ++ [.ping 0] } := by
  have hopen : (c.modifyConnection k fun l =>
      { l with nextBeat := c.now + c.config.heartbeat.nanos }).isOpen k = true := by
    rw [isOpen_of_modify rfl (by rfl) (fun _ => by rfl) (fun _ => by rfl), ho]
  rw [beat, sendOn_of_isOpen hopen]
  simp only [Channel.take, modifyConnection, List.modify_modify_eq]
  rfl

theorem timers_beat (ho : c.isOpen k = true) :
    (c.beat k).timers = c.timers.modify k fun x => (x.1, c.now + c.config.heartbeat.nanos) := by
  rw [beat_of_isOpen ho]
  exact timers_of_modify rfl fun _ => rfl

theorem receive_phase (ho : c.isOpen k = true) (p : PeerId) (raw : String) (rest : List Inbound) :
    ((c.hear k p rest).receive h k raw).phase = c.phase := by
  rw [receive_of_isOpen (by simp [ho])]
  rfl

/-- A connection that is made has been heard now, and its first heartbeat is due after a period. -/
theorem Chronicled.opened (hl : Chronicled log c) (hc : c.Coherent) {p : PeerId}
    {script : List Offer} (hs : c.shutdown = false) (ho : c.script = .accept p :: script) :
    Chronicled (log ++ [(c.now, .opened c.connections.length)]) c.attempt := by
  have hlen : c.timers.length = c.connections.length := List.length_map _
  have htimers : c.attempt.timers = c.timers ++ [(c.now, c.now + c.config.heartbeat.nanos)] := by
    rw [attempt_of_accept hc.beats hs ho]
    exact List.map_append
  have hphase : c.attempt.phase = .connected c.connections.length := by
    rw [attempt_of_accept hc.beats hs ho]
  have hconfig : c.attempt.config = c.config := by rw [attempt_of_accept hc.beats hs ho]; rfl
  have hnow : c.attempt.now = c.now := by rw [attempt_of_accept hc.beats hs ho]; rfl
  have hnone := hl.unmade c.connections.length (Nat.le_of_eq hlen)
  refine ⟨fun k seen due hk => ?_, fun k hk x hx => ?_, fun k hk => ?_⟩
  · rw [hconfig]
    rw [htimers] at hk
    rcases getElem?_concat_cases hk with hk | ⟨rfl, hnew⟩
    · have hlt := (List.getElem?_eq_some_iff.1 hk).1
      exact (hl.timed k seen due hk).other _ (Nat.ne_of_gt (hlen ▸ hlt))
    · obtain ⟨rfl, rfl⟩ := Prod.mk.inj hnew
      rw [hlen]
      exact .opened _ hnone _
  · rw [htimers, List.length_append, List.length_singleton] at hk
    rcases List.mem_append.1 hx with hx | hx
    · exact hl.unmade k (Nat.le_of_succ_le hk) x hx
    · rw [List.mem_singleton.1 hx]
      exact Nat.ne_of_lt (hlen ▸ hk)
  · obtain rfl : c.connections.length = k := ChannelPhase.connected.inj (hphase.symm.trans hk)
    refine ⟨?_, fun seen due hk => ?_⟩
    · rw [endings, timesOn_concat, timesOn_eq_nil _ hnone, if_neg (by simp [Event.isEnd])]
      rfl
    · rw [htimers, ← hlen, List.getElem?_concat_length] at hk
      obtain ⟨rfl, rfl⟩ := Prod.mk.inj (Option.some.inj hk)
      refine ⟨?_, ?_, fun t ht => ?_⟩
      · rw [hnow]
        exact Nat.le_add_right _ _
      · exact Nat.le_of_eq (by rw [hnow, hconfig])
      · rw [hnow]
        exact Nat.le_add_right _ _

/-- A connection that ends keeps its timers and serves no more. -/
theorem Chronicled.ended (hl : Chronicled log c) (hp : c.phase = .connected k)
    (hk : k < c.timers.length) (cause : Cause) (htimers : c'.timers = c.timers)
    (hconfig : c'.config = c.config) (hnow : c'.now = c.now) (hphase : c'.phase = .closing k) :
    Chronicled (log ++ [(c.now, .ended k cause)]) c' := by
  refine hl.happens (f := id) hp hk rfl (by rw [htimers, List.modify_id]) hconfig hnow (fun j hj => ?_)
    fun seen due _ ht hi => ⟨ht.ended _ cause, hi⟩
  rw [hphase] at hj
  cases hj

theorem Chronicled.event (hl : Chronicled log c) (hc : c.Coherent) (he : Happens h c e c') :
    Chronicled (log ++ [(c.now, e)]) c' := by
  have hm := he.move hc
  have hconfig := hm.settings.config
  have hnow := hm.now
  have hlt : ∀ {k l peer}, c.endpoints? k = some (l, peer) → k < c.timers.length := by
    intro k l peer hends
    exact (List.getElem?_eq_some_iff.1 (timers_getElem? (endpoints?_eq_some.1 hends).1)).1
  cases he with
  | opened hp hs ho => exact hl.opened hc hs ho
  | @read k l peer raw rest hp hends hs hr =>
    have hopen := hc.isOpen_of_connected hp hs
    refine hl.happens hp (hlt hends) rfl (timers_receive hopen _ _ _) hconfig hnow (fun j hj => ?_)
      fun seen due _ ht hi => ⟨ht.read _ raw, hi.now_le, hi.le_now, fun t _ => Nat.le_add_right _ _⟩
    rw [receive_phase hopen] at hj
    exact ⟨hj, rfl⟩
  | @beat k l peer hp hends hs hb =>
    have hopen := hc.isOpen_of_connected hp hs
    have hphase : (c.beat k).phase = c.phase := (sendOn_sameStage ..).phase
    refine hl.happens hp (hlt hends) rfl (timers_beat hopen) hconfig hnow (fun j hj => ?_)
      fun seen due hk ht hi => ?_
    · rw [hphase] at hj
      exact ⟨hj, rfl⟩
    · -- the clock has stopped at the heartbeat that is due
      have hdue : due = c.now := by
        rw [timers_getElem? (endpoints?_eq_some.1 hends).1] at hk
        obtain ⟨-, rfl⟩ := Prod.mk.inj (Option.some.inj hk)
        exact Nat.le_antisymm hb hi.now_le
      subst hdue
      exact ⟨ht.beat, Nat.le_add_right _ _, Nat.le_refl _, hi.heard⟩
  | @ended k l peer cause hp hends hstops =>
    exact hl.ended hp (hlt hends) cause (timers_of_same rfl fun _ => rfl) rfl rfl rfl
  | @failWrite k l peer hp hends hd =>
    refine hl.ended hp (hlt hends) .writeFailure ?_ rfl rfl rfl
    rw [← timers_stopWriting c k]
    exact timers_of_same rfl fun _ => rfl

/-! ## Whole courses

By every log of a channel with a heartbeat interval its timers are as the log says. The log may be of
any course, with messages of callers and frames of the relay at any point.
-/

theorem Aside.timers (hc : c.Coherent) (ha : Aside h c c') : c'.timers = c.timers ∧
    ∀ k, c'.phase = .connected k → c.phase = .connected k := by
  cases ha with
  | write => exact ⟨timers_of_same rfl fun _ => rfl, fun k hk => hk⟩
  | away hm hp hp' =>
    refine ⟨?_, fun k hk => absurd hk (hp' k)⟩
    cases hm with
    | attempt =>
      rcases attempt_cases c with ⟨p, script, hs, ho⟩ | ⟨-, hconn⟩
      · refine absurd ?_ (hp' c.connections.length)
        rw [attempt_of_accept hc.beats hs ho]
      · rw [Channel.timers, hconn, Channel.timers]
    | wake | giveUp => rfl
    | write | abandon => exact timers_of_same rfl fun _ => rfl
    | @shut k l peer =>
      obtain ⟨a, p, -, hr⟩ := retry_eq ((c.stopWriting k).letGo l.peer)
      rw [hr]
      exact timers_stopWriting c k
    | hangUp hc' | beat hc' | pass hc' | answer hc' | deliver hc' | failWrite hc' =>
      exact absurd hc' (hp _)

theorem Chronicled.aside (hl : Chronicled log c) (hc : c.Coherent) (ha : Aside h c c') :
    Chronicled log c' :=
  hl.congr (ha.timers hc).1 ha.move.settings.config ha.move.now (ha.timers hc).2

/-- What is due next is no later than any timer of the connection that serves. -/
theorem le_timers_of_le_nextDue (hp : c.phase = .connected k) (hl : c.connections[k]? = some l)
    (ht : ∀ d, c.nextDue = some d → t ≤ d) :
    t ≤ l.nextBeat ∧ ∀ span, c.config.liveness = some span → t ≤ l.lastSeen + span.nanos := by
  cases hspan : c.config.liveness with
  | none =>
    have hnext : c.nextDue = some l.nextBeat := by
      simp only [nextDue, hp, hl, deadline, hspan, Option.map_some, Option.map_none]
    refine ⟨ht _ hnext, fun span h => ?_⟩
    cases h
  | some span =>
    have hnext : c.nextDue = some (min l.nextBeat (l.lastSeen + span.nanos)) := by
      simp only [nextDue, hp, hl, deadline, hspan, Option.map_some]
    have hle := ht _ hnext
    refine ⟨Nat.le_trans hle (Nat.min_le_left ..), fun _ h => ?_⟩
    obtain rfl := Option.some.inj h
    exact Nat.le_trans hle (Nat.min_le_right ..)

/-- Time that passes up to the next timer leaves none behind. -/
theorem Chronicled.pass (hl : Chronicled log c) (hc : c.Coherent) (hs : c.step? h = none)
    (hn : c.now ≤ t) (hd : ∀ d, c.nextDue = some d → c.now < d → t ≤ d) :
    Chronicled log ({ c with now := t } : Channel σ) := by
  refine ⟨hl.timed, hl.unmade, fun k hk => ⟨(hl.serving k hk).1, fun seen due htimers => ?_⟩⟩
  have hp : c.phase = .connected k := hk
  have hown : c.timers[k]? = some (seen, due) := htimers
  obtain ⟨l, peer, hends⟩ := hc.endpoints_of_connected hp
  have hlk := (endpoints?_eq_some.1 hends).1
  obtain ⟨rfl, rfl⟩ : l.lastSeen = seen ∧ l.nextBeat = due :=
    Prod.mk.inj (Option.some.inj ((timers_getElem? hlk).symm.trans hown))
  -- at rest no timer has run out, so that time stops at the next one
  have hrest := hc.step?_eq_none.1 hs
  obtain ⟨hbeat, hspan⟩ := le_timers_of_le_nextDue hp hlk fun d hnext =>
    hd d hnext (hrest.lt_nextDue hc hnext)
  have hge := ((hl.serving k hp).2 _ _ hown).le_now
  exact ⟨hbeat, Nat.le_trans hge (Nat.add_le_add_right hn _), hspan⟩

theorem Chronicled.touch (hl : Chronicled log c) (hc : c.Coherent) (ht : Touch h c c') :
    Chronicled log c' := by
  cases ht with
  | pass hs hn hd => exact hl.pass hc hs hn hd
  | connect hp => exact hl.congr rfl rfl rfl nofun
  | close | join | refuseNext | acceptNext | feed | dropPeer =>
    exact hl.congr rfl rfl rfl fun k hk => hk

theorem Chronicled.take (hl : Chronicled log c) (k : LinkId) (ms : List Message) :
    Chronicled log (c.take k ms) :=
  hl.congr (timers_of_same rfl fun _ => rfl) rfl rfl fun _ hj => hj

theorem Course.chronicled (hc : c.Coherent) (hl : Chronicled [] c)
    (hd : Course h c w fed log c') : Chronicled log c' := by
  induction hd with
  | refl => exact hl
  | event hd he ih => exact ih.event (hc.path (hd.path hc)) he
  | aside hd ha ih => exact ih.aside (hc.path (hd.path hc)) ha
  | touch hd ht _ ih => exact ih.touch (hc.path (hd.path hc)) ht
  | feed hd i hp hr hthere ih => exact ih.touch (hc.path (hd.path hc)) (.feed (h := h) i hp hr hthere)
  | send _ m ho ih => exact ih.take _ [m]

theorem new_chronicled (config : ChannelConfig) (credentials : Credentials) (s : σ) :
    Chronicled [] (Channel.new config credentials s) :=
  ⟨nofun, nofun, nofun⟩

/-- By every log of a channel with a heartbeat interval, the channel is coherent, and the log says all
there is to say of its timers. -/
theorem Course.of_new {config : ChannelConfig} {credentials : Credentials} {s : σ}
    (hb : 0 < config.heartbeat.nanos)
    (hd : Course h (Channel.new config credentials s) w fed log c) :
    c.Coherent ∧ Chronicled log c ∧ c.config = config := by
  have hpath := hd.path (new_coherent hb)
  have hlog := hd.chronicled (new_coherent hb) (new_chronicled config credentials s)
  exact ⟨(new_coherent hb).path hpath, hlog, hpath.settings.config⟩

end Tunnel.Channel
