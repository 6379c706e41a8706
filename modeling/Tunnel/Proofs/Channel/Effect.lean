import Tunnel.Proofs.Channel.Coherence

/-!
# What a move does to the messages taken

A link takes a message when the channel sends a heartbeat, when the handler answers, or when a caller
sends. No move does more than one of these, and none takes back a message that was taken.
-/
namespace Tunnel.Channel

variable {σ : Type} {h : Handler σ} {c c' : Channel σ} {k : LinkId} {l : Connection} {peer : Peer}

def takenOn (c : Channel σ) (k : LinkId) : List Message :=
  (c.connections[k]?.map Connection.taken).getD []

theorem takenOn_of_endpoints (he : c.endpoints? k = some (l, peer)) : c.takenOn k = l.taken := by
  rw [takenOn, (endpoints?_eq_some.1 he).1]
  rfl

/-- The link of `k` takes messages, and no other does. -/
def Takes (c c' : Channel σ) (k : LinkId) (ms : List Message) : Prop :=
  ∀ j, c'.takenOn j = c.takenOn j ++ if j = k then ms else []

/-- What a move does to the handler, the deliveries and the messages taken. -/
inductive Effect (h : Handler σ) (c c' : Channel σ) : Prop where
  | nothing (hh : c'.handler = c.handler) (hd : c'.delivered = c.delivered)
    (ht : ∀ j, c'.takenOn j = c.takenOn j)
  | heartbeat {k : LinkId} {m : Message} (hm : m = .ping 0 ∨ m = .pong 0)
    (hh : c'.handler = c.handler) (hd : c'.delivered = c.delivered) (ht : Takes c c' k [m])
  | deliver {k : LinkId} {m : Message} (hp : c.phase = .connected k) (hs : c.shutdown = false)
    (hm : m.isHeartbeat = false) (hh : c'.handler = (h.handle c.handler k m).1)
    (hd : c'.delivered = c.delivered ++ [(k, m)])
    (ht : Takes c c' k (h.handle c.handler k m).2)
  | hangUp {k : LinkId} (hp : c.phase = .connected k) (hp' : c'.phase = .closing k)
    (hh : c'.handler = h.linkEnded c.handler k) (hd : c'.delivered = c.delivered)
    (ht : ∀ j, c'.takenOn j = c.takenOn j)

theorem takenOn_of_modify {f : Connection → Connection}
    (hconn : c'.connections = c.connections.modify k f) (hf : ∀ l, (f l).taken = l.taken)
    (j : LinkId) : c'.takenOn j = c.takenOn j := by
  simp only [takenOn, hconn, List.getElem?_modify]
  cases c.connections[j]? with
  | none => rfl
  | some l => by_cases hj : k = j <;> simp [hj, hf]

/-- A connection that has just been made has taken nothing. -/
theorem takenOn_of_append {new : Connection} (hconn : c'.connections = c.connections ++ [new])
    (ht : new.taken = []) (j : LinkId) : c'.takenOn j = c.takenOn j := by
  rw [takenOn, takenOn, hconn]
  rcases Nat.lt_trichotomy j c.connections.length with hj | rfl | hj
  · rw [List.getElem?_append_left hj]
  · rw [List.getElem?_concat_length, List.getElem?_eq_none (Nat.le_refl _), Option.map_some, ht]
    rfl
  · rw [List.getElem?_eq_none (by simpa using Nat.succ_le_of_lt hj),
      List.getElem?_eq_none (Nat.le_of_lt hj)]

theorem isOpen_of_modify {f : Connection → Connection}
    (hconn : c'.connections = c.connections.modify k f) (hdown : c'.shutdown = c.shutdown)
    (hf : ∀ l, (f l).ended = l.ended) (hw : ∀ l, (f l).writing = l.writing) (j : LinkId) :
    c'.isOpen j = c.isOpen j := by
  simp only [isOpen, hasEnded, hconn, hdown, List.getElem?_modify]
  cases c.connections[j]? with
  | none => rfl
  | some l => by_cases hj : k = j <;> simp [hj, hf, hw]

@[simp] theorem isOpen_take (c : Channel σ) (k : LinkId) (ms : List Message) (j : LinkId) :
    (c.take k ms).isOpen j = c.isOpen j :=
  isOpen_of_modify rfl (by rfl) (fun _ => by rfl) (fun _ => by rfl) j

theorem lt_of_isOpen (ho : c.isOpen k = true) : k < c.connections.length := by
  cases hl : c.connections[k]? with
  | none => simp [isOpen, hasEnded, hl] at ho
  | some l => exact (List.getElem?_eq_some_iff.1 hl).1

theorem take_takes (hk : k < c.connections.length) (ms : List Message) :
    Takes c (c.take k ms) k ms := by
  intro j
  simp only [takenOn, take, modifyConnection, List.getElem?_modify]
  by_cases hj : j = k
  · subst hj
    simp [List.getElem?_eq_getElem hk]
  · simp [hj, Ne.symm hj]

@[simp] theorem take_append (c : Channel σ) (k : LinkId) (ms ns : List Message) :
    (c.take k ms).take k ns = c.take k (ms ++ ns) := by
  simp only [take, modifyConnection, List.modify_modify_eq]
  congr 2
  funext l
  simp [List.append_assoc]

@[simp] theorem take_nil (c : Channel σ) (k : LinkId) : c.take k [] = c := by
  simp only [take, modifyConnection, List.append_nil]
  rw [show (fun l : Connection => l) = id from rfl, List.modify_id]

theorem sendOn_of_isOpen (ho : c.isOpen k = true) (m : Message) :
    c.sendOn k m = (true, c.take k [m]) := if_pos ho

theorem sendOn_of_not_isOpen (ho : c.isOpen k = false) (m : Message) : c.sendOn k m = (false, c) :=
  if_neg (by simp [ho])

theorem sendAll_of_isOpen (ho : c.isOpen k = true) (ms : List Message) :
    c.sendAll k ms = c.take k ms := by
  induction ms generalizing c with
  | nil => exact (take_nil c k).symm
  | cons m ms ih =>
    have hcons : c.sendAll k (m :: ms) = (c.sendOn k m).2.sendAll k ms := rfl
    rw [hcons, sendOn_of_isOpen ho, ih (by simp [ho]), take_append]
    rfl

theorem Takes.of_eq {b : Channel σ} {ms : List Message} (hb : ∀ j, b.takenOn j = c.takenOn j)
    (ht : Takes b c' k ms) : Takes c c' k ms := fun j => by rw [ht j, hb j]

@[simp] theorem isOpen_hear (c : Channel σ) (k : LinkId) (p : PeerId) (rest : List Inbound) (j : LinkId) :
    (c.hear k p rest).isOpen j = c.isOpen j :=
  isOpen_of_modify rfl (by rfl) (fun _ => by rfl) (fun _ => by rfl) j

@[simp] theorem takenOn_hear (c : Channel σ) (k : LinkId) (p : PeerId) (rest : List Inbound) (j : LinkId) :
    (c.hear k p rest).takenOn j = c.takenOn j :=
  takenOn_of_modify rfl (fun _ => by rfl) j

theorem attempt_effect (hc : c.Coherent) : Effect h c c.attempt := by
  have hrefuse : ∀ b : Channel σ, b.handler = c.handler → b.delivered = c.delivered →
      b.connections = c.connections → Effect h c b.refuse := by
    intro b hh hd hconn
    obtain ⟨a, p, -, hr⟩ := refuse_eq b
    rw [hr]
    exact .nothing hh hd fun j => by simp only [takenOn]; rw [← hconn]; rfl
  unfold attempt
  split
  · exact hrefuse _ rfl rfl rfl
  · exact hrefuse _ rfl rfl rfl
  · rename_i p script hs
    unfold welcome
    split
    · exact .nothing rfl rfl fun j => rfl
    · rw [accept_eq (by exact hc.beats)]
      exact .nothing rfl rfl (takenOn_of_append rfl rfl)

theorem beat_effect (hc : c.Coherent) (hp : c.phase = .connected k) (hs : c.shutdown = false) :
    Effect h c (c.beat k) := by
  have ho : (c.modifyConnection k fun l =>
      { l with nextBeat := c.now + c.config.heartbeat.nanos }).isOpen k = true := by
    rw [isOpen_of_modify rfl (by rfl) (fun _ => by rfl) (fun _ => by rfl), hc.isOpen_of_connected hp hs]
  unfold beat
  rw [sendOn_of_isOpen ho]
  refine .heartbeat (.inl rfl) rfl rfl ((take_takes (lt_of_isOpen ho) _).of_eq fun j => ?_)
  exact takenOn_of_modify rfl (fun _ => by rfl) j

theorem answer_effect (hc : c.Coherent) (hp : c.phase = .connected k) (hs : c.shutdown = false)
    (p : PeerId) (rest : List Inbound) :
    Effect h c ((c.hear k p rest).sendOn k (.pong 0)).2 := by
  have ho : (c.hear k p rest).isOpen k = true := by
    rw [isOpen_hear, hc.isOpen_of_connected hp hs]
  rw [sendOn_of_isOpen ho]
  exact .heartbeat (.inr rfl) rfl rfl
    ((take_takes (lt_of_isOpen ho) _).of_eq (takenOn_hear c k p rest))

theorem deliver_effect (hc : c.Coherent) (hp : c.phase = .connected k) (hs : c.shutdown = false)
    (p : PeerId) (rest : List Inbound) {m : Message} (hm : m.isHeartbeat = false) :
    Effect h c ((c.hear k p rest).deliver h k m) := by
  have ho : (c.hear k p rest).isOpen k = true := by
    rw [isOpen_hear, hc.isOpen_of_connected hp hs]
  have hd : (c.hear k p rest).deliver h k m =
      ({ c.hear k p rest with
        handler := (h.handle c.handler k m).1
        delivered := c.delivered ++ [(k, m)] } : Channel σ).take k (h.handle c.handler k m).2 :=
    sendAll_of_isOpen (by exact ho) _
  rw [hd]
  refine .deliver hp hs hm rfl rfl (Takes.of_eq (takenOn_hear c k p rest) ?_)
  exact take_takes (c := { c.hear k p rest with
    handler := (h.handle c.handler k m).1
    delivered := c.delivered ++ [(k, m)] }) (lt_of_isOpen ho) _

theorem Move.effect (hc : c.Coherent) (hm : Move h c c') : Effect h c c' := by
  cases hm with
  | attempt hp => exact attempt_effect hc
  | wake | giveUp => exact .nothing rfl rfl fun j => rfl
  | hangUp hp he hm =>
    exact .hangUp hp rfl rfl rfl (takenOn_of_modify rfl fun _ => by rfl)
  | beat hp he hs hb hi => exact beat_effect hc hp hs
  | pass hp he hs hr hd => exact .nothing rfl rfl (takenOn_hear c _ _ _)
  | answer hp he hs hr hd => exact answer_effect hc hp hs _ _
  | deliver hp he hs hr hd hm => exact deliver_effect hc hp hs _ _ hm
  | @failWrite k l peer hp he hd =>
    refine .hangUp hp rfl rfl rfl fun j => ?_
    have hstop : (c.stopWriting k).takenOn j = c.takenOn j :=
      takenOn_of_modify rfl (fun _ => by rfl) j
    rw [← hstop]
    exact takenOn_of_modify rfl (fun _ => by rfl) j
  | @write k l peer m ms hp he hq hd =>
    exact .nothing rfl rfl (takenOn_of_modify rfl fun _ => by rfl)
  | @abandon k l peer m ms hp he hq hd =>
    exact .nothing rfl rfl (takenOn_of_modify rfl fun _ => by rfl)
  | @shut k l peer hp he hq =>
    obtain ⟨a, p, -, hr⟩ := retry_eq ((c.stopWriting k).letGo l.peer)
    rw [hr]
    exact .nothing rfl rfl (takenOn_of_modify rfl fun _ => by rfl)

end Tunnel.Channel
