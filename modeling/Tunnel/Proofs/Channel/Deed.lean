import Tunnel.Proofs.Channel.Delivery
import Tunnel.Proofs.Channel.Event

/-!
# What a channel does by itself

A channel reads a frame, sends a heartbeat, or ends a connection. What the handler becomes, what is
handed on, what is sent and what is left to be read follows from a log of these deeds, and every move
does at most one of them.
-/
namespace Tunnel

/-- What a frame hands on: a message that is no heartbeat. -/
def Inbound.forwarded? : Inbound → Option Message
  | .frame raw =>
    match Message.decode raw with
    | .error _ => none
    | .ok m => if m.isHeartbeat then none else some m
  | .failure _ => none

namespace Channel

variable {σ : Type} {h : Handler σ} {c c' : Channel σ} {k : LinkId} {l : Connection} {peer : Peer}

def reply (h : Handler σ) (s : σ) (k : LinkId) (raw : String) : σ × List Message :=
  match Message.decode raw with
  | .error _ => (s, [])
  | .ok (.ping _) => (s, [.pong 0])
  | .ok (.pong _) => (s, [])
  | .ok m => h.handle s k m

/-- What a channel does by itself that concerns its handler or what it was sent. -/
inductive Deed where
  | read (k : LinkId) (raw : String)
  | beat (k : LinkId)
  | hangUp (k : LinkId)

def Event.deed? : Event → Option Deed
  | .opened _ => none
  | .read k raw => some (.read k raw)
  | .beat k => some (.beat k)
  | .ended k _ => some (.hangUp k)

def Deed.delivery? : Deed → Option (LinkId × Message)
  | .read k raw => (Inbound.frame raw).forwarded?.map fun m => (k, m)
  | .beat _ => none
  | .hangUp _ => none

def Deed.readOn? (k : LinkId) : Deed → Option Inbound
  | .read j raw => if j = k then some (.frame raw) else none
  | .beat _ => none
  | .hangUp _ => none

def readOn (log : List Deed) (k : LinkId) : List Inbound := log.filterMap (Deed.readOn? k)

/-- What one deed does to a handler and to what the channel has sent of itself. -/
def heed (h : Handler σ) (r : σ × List (LinkId × Message)) : Deed → σ × List (LinkId × Message)
  | .read k raw => ((reply h r.1 k raw).1, r.2 ++ (reply h r.1 k raw).2.map fun m => (k, m))
  | .beat k => (r.1, r.2 ++ [(k, .ping 0)])
  | .hangUp k => (h.linkEnded r.1 k, r.2)

def heedAll (h : Handler σ) (s : σ) (log : List Deed) : σ × List (LinkId × Message) :=
  log.foldl (heed h) (s, [])

theorem heed_eq (r : σ × List (LinkId × Message)) (d : Deed) :
    heed h r d = ((heed h (r.1, []) d).1, r.2 ++ (heed h (r.1, []) d).2) := by
  cases d <;> simp [heed]

theorem foldl_heed (r : σ × List (LinkId × Message)) (log : List Deed) :
    log.foldl (heed h) r = ((heedAll h r.1 log).1, r.2 ++ (heedAll h r.1 log).2) := by
  induction log generalizing r with
  | nil => simp [heedAll]
  | cons d log ih =>
    -- what was sent before a deed makes no difference to it
    rw [heedAll, List.foldl_cons, List.foldl_cons, ih, ih (heed h (r.1, []) d), heed_eq r]
    simp

/-- The second part of a log goes on from what the handler has become with the first. -/
theorem heedAll_append (s : σ) (log deeds : List Deed) :
    heedAll h s (log ++ deeds) =
      ((heedAll h (heedAll h s log).1 deeds).1,
        (heedAll h s log).2 ++ (heedAll h (heedAll h s log).1 deeds).2) := by
  rw [heedAll, List.foldl_append]
  exact foldl_heed _ deeds

theorem receive_of_isOpen (ho : c.isOpen k = true) (raw : String) :
    c.receive h k raw =
      ({ c with
        handler := (reply h c.handler k raw).1
        delivered := c.delivered ++ (Deed.read k raw).delivery?.toList } : Channel σ).take k
          (reply h c.handler k raw).2 := by
  have hdeliver : ∀ m, c.deliver h k m =
      ({ c with
        handler := (h.handle c.handler k m).1
        delivered := c.delivered ++ [(k, m)] } : Channel σ).take k (h.handle c.handler k m).2 :=
    fun m => sendAll_of_isOpen (by exact ho) _
  simp only [receive, reply, Deed.delivery?, Inbound.forwarded?]
  cases hd : Message.decode raw with
  | error e => simp
  | ok m => cases m <;> simp [Message.isHeartbeat, sendOn_of_isOpen ho, hdeliver]

theorem reply_of_message {s : σ} {raw : String} {m : Message} (hd : Message.decode raw = .ok m)
    (hm : m.isHeartbeat = false) : reply h s k raw = h.handle s k m := by
  unfold reply
  rw [hd]
  cases m <;> first | rfl | cases hm

theorem receive_handler (ho : c.isOpen k = true) (raw : String) :
    (c.receive h k raw).handler = (reply h c.handler k raw).1 := by
  rw [receive_of_isOpen ho]
  rfl

theorem receive_delivered (ho : c.isOpen k = true) (raw : String) :
    (c.receive h k raw).delivered = c.delivered ++ (Deed.read k raw).delivery?.toList := by
  rw [receive_of_isOpen ho]
  rfl

theorem receive_takes (ho : c.isOpen k = true) (raw : String) :
    Takes c (c.receive h k raw) k (reply h c.handler k raw).2 := by
  rw [receive_of_isOpen ho]
  exact (take_takes (lt_of_isOpen ho) _).of_eq fun _ => rfl

/-- What the relay has sent on a connection and the channel has yet to read. -/
def inboxOf (c : Channel σ) (p : PeerId) : List Inbound :=
  (c.peers[p]?.map Peer.inbox).getD []

def linked (c : Channel σ) : List PeerId := c.connections.map Connection.peer

theorem inboxOf_of_endpoints (he : c.endpoints? k = some (l, peer)) : c.inboxOf l.peer = peer.inbox := by
  rw [inboxOf, (endpoints?_eq_some.1 he).2]
  rfl

theorem linked_of_endpoints (he : c.endpoints? k = some (l, peer)) : c.linked[k]? = some l.peer := by
  rw [linked, List.getElem?_map, (endpoints?_eq_some.1 he).1]
  rfl

theorem Coherent.eq_of_linked (hc : c.Coherent) {j : LinkId} {p : PeerId}
    (hj : c.linked[j]? = some p) (hk : c.linked[k]? = some p) : j = k := by
  simp only [Channel.linked, List.getElem?_map, Option.map_eq_some_iff] at hj hk
  obtain ⟨l, hl, rfl⟩ := hj
  obtain ⟨l', hl', he⟩ := hk
  exact hc.eq_of_peer_eq hl hl' he.symm

theorem inboxOf_of_modify {p : PeerId} {g : Peer → Peer} (hpeers : c'.peers = c.peers.modify p g)
    (hg : ∀ peer, (g peer).inbox = peer.inbox) (q : PeerId) : c'.inboxOf q = c.inboxOf q := by
  simp only [inboxOf, hpeers, List.getElem?_modify]
  cases c.peers[q]? with
  | none => rfl
  | some peer => by_cases hq : p = q <;> simp [hq, hg]

theorem linked_of_modify {d : Channel σ} {f : Connection → Connection}
    (hconn : d.connections = c.connections.modify k f) (hf : ∀ l, (f l).peer = l.peer) :
    d.linked = c.linked := by
  rw [linked, hconn]
  refine List.ext_getElem? fun j => ?_
  simp only [linked, List.getElem?_map, List.getElem?_modify]
  cases c.connections[j]? with
  | none => rfl
  | some l => by_cases hj : k = j <;> simp [hj, hf]

theorem inboxOf_modifyPeer (he : c.endpoints? k = some (l, peer)) {g : Peer → Peer} (q : PeerId) :
    (c.modifyPeer l.peer g).inboxOf q = if q = l.peer then (g peer).inbox else c.inboxOf q := by
  have hpeer := (endpoints?_eq_some.1 he).2
  simp only [inboxOf, modifyPeer, List.getElem?_modify]
  by_cases hq : q = l.peer
  · simp [hq, hpeer]
  · cases c.peers[q]? <;> simp [hq, Ne.symm hq]

/-- What a channel does on the way to another state: its handler, its deliveries, the messages that its
links take and what is left to be read are as the deeds say. At most one connection is made. -/
structure Does (h : Handler σ) (c c' : Channel σ) (deeds : List Deed) : Prop where
  handler : c'.handler = (heedAll h c.handler deeds).1
  delivered : c'.delivered = c.delivered ++ deeds.filterMap Deed.delivery?
  taken : ∀ j, c'.takenOn j = c.takenOn j ++ sentOn (heedAll h c.handler deeds).2 j
  read : ∀ j p, c.linked[j]? = some p → c.inboxOf p = readOn deeds j ++ c'.inboxOf p
  unread : ∀ p, p ∉ c.linked → c'.inboxOf p = c.inboxOf p
  linked : c'.linked = c.linked ∨ ∃ p, p ∉ c.linked ∧ c'.linked = c.linked ++ [p]
  unmade : ∀ j, c.linked.length ≤ j → readOn deeds j = []

/-- What concerns neither the handler nor what was sent or taken. -/
theorem Does.nothing (hh : c'.handler = c.handler) (hd : c'.delivered = c.delivered)
    (ht : ∀ j, c'.takenOn j = c.takenOn j) (hi : ∀ p, c'.inboxOf p = c.inboxOf p)
    (hl : c'.linked = c.linked ∨ ∃ p, p ∉ c.linked ∧ c'.linked = c.linked ++ [p]) :
    Does h c c' [] where
  handler := hh
  delivered := hd.trans (List.append_nil _).symm
  taken j := (ht j).trans (List.append_nil _).symm
  read _ p _ := (hi p).symm
  unread p _ := hi p
  linked := hl
  unmade _ _ := rfl

theorem Does.of_eq (hh : c'.handler = c.handler) (hd : c'.delivered = c.delivered)
    (hconn : c'.connections = c.connections) (hpeers : c'.peers = c.peers) : Does h c c' [] :=
  .nothing hh hd (fun _ => by rw [takenOn, takenOn, hconn]) (fun _ => by rw [inboxOf, inboxOf, hpeers])
    (.inl (by rw [Channel.linked, Channel.linked, hconn]))

theorem Does.hangUp (hh : c'.handler = h.linkEnded c.handler k) (hd : c'.delivered = c.delivered)
    (ht : ∀ j, c'.takenOn j = c.takenOn j) (hi : ∀ p, c'.inboxOf p = c.inboxOf p)
    (hl : c'.linked = c.linked) : Does h c c' [.hangUp k] where
  handler := hh
  delivered := hd.trans (List.append_nil _).symm
  taken j := (ht j).trans (List.append_nil _).symm
  read _ p _ := (hi p).symm
  unread p _ := hi p
  linked := .inl hl
  unmade _ _ := rfl

theorem sentOn_answers (k j : LinkId) (ms : List Message) :
    sentOn (ms.map fun a => (k, a)) j = if j = k then ms else [] :=
  sentOn_append_answers [] k j ms

theorem beat_does (hc : c.Coherent) (hp : c.phase = .connected k) (hs : c.shutdown = false) :
    Does h c (c.beat k) [.beat k] := by
  have ho : (c.modifyConnection k fun l =>
      { l with nextBeat := c.now + c.config.heartbeat.nanos }).isOpen k = true := by
    rw [isOpen_of_modify rfl (by rfl) (fun _ => by rfl) (fun _ => by rfl),
      hc.isOpen_of_connected hp hs]
  unfold beat
  rw [sendOn_of_isOpen ho]
  refine ⟨rfl, (List.append_nil _).symm, fun j => ?_, fun _ _ _ => rfl, fun _ _ => rfl, .inl ?_,
    fun _ _ => rfl⟩
  · rw [take_takes (lt_of_isOpen ho) _ j, takenOn_of_modify rfl (fun _ => by rfl) j]
    exact congrArg _ (sentOn_answers k j [.ping 0]).symm
  · rw [linked_of_modify (d := Channel.take _ k _) rfl fun _ => rfl]
    exact linked_of_modify rfl fun _ => rfl

theorem inboxOf_receive (ho : c.isOpen k = true) (he : c.endpoints? k = some (l, peer)) (raw : String)
    (rest : List Inbound) (q : PeerId) :
    ((c.hear k l.peer rest).receive h k raw).inboxOf q =
      if q = l.peer then rest else c.inboxOf q := by
  rw [receive_of_isOpen (by simp [ho])]
  exact inboxOf_modifyPeer (g := fun peer => { peer with inbox := rest }) he q

theorem linked_receive (ho : c.isOpen k = true) (p : PeerId) (raw : String) (rest : List Inbound) :
    ((c.hear k p rest).receive h k raw).linked = c.linked := by
  rw [receive_of_isOpen (by simp [ho]),
    linked_of_modify (d := Channel.take _ k _) rfl fun _ => rfl]
  exact linked_of_modify (d := c.hear k p rest) rfl fun _ => rfl

/-- Reading a frame and heeding it is one deed. -/
theorem receive_does (hc : c.Coherent) (hp : c.phase = .connected k) (hs : c.shutdown = false)
    (he : c.endpoints? k = some (l, peer)) {raw : String} {rest : List Inbound}
    (hr : peer.inbox = .frame raw :: rest) :
    Does h c ((c.hear k l.peer rest).receive h k raw) [.read k raw] := by
  have hopen := hc.isOpen_of_connected hp hs
  have ho : (c.hear k l.peer rest).isOpen k = true := by simp [hopen]
  have hat : c.linked[k]? = some l.peer := linked_of_endpoints he
  refine ⟨receive_handler ho raw, ?_, fun j => ?_, fun j p hj => ?_, fun p hnot => ?_,
    .inl (linked_receive hopen l.peer raw rest), fun j hj => ?_⟩
  · rw [receive_delivered ho]
    cases hd : (Deed.read k raw).delivery? <;> simp [hd] <;> rfl
  · refine ((receive_takes ho raw).of_eq (takenOn_hear c k l.peer rest) j).trans ?_
    exact congrArg _ (sentOn_answers k j _).symm
  · rw [inboxOf_receive hopen he]
    by_cases hjk : j = k
    · obtain rfl : l.peer = p := by
        rw [hjk, hat] at hj
        exact Option.some.inj hj
      rw [if_pos rfl, inboxOf_of_endpoints he, hr, hjk]
      simp [readOn, Deed.readOn?]
    · -- another connection has another peer, whose frames are still to be read
      have hne : p ≠ l.peer := by
        rintro rfl
        exact hjk (hc.eq_of_linked hj hat)
      rw [if_neg hne]
      simp [readOn, Deed.readOn?, Ne.symm hjk]
  · rw [inboxOf_receive hopen he, if_neg]
    rintro rfl
    exact hnot (List.mem_of_getElem? hat)
  · have hlt : k < c.linked.length := (List.getElem?_eq_some_iff.1 hat).1
    have hne : k ≠ j := Nat.ne_of_lt (Nat.lt_of_lt_of_le hlt hj)
    simp [readOn, Deed.readOn?, hne]

theorem Coherent.offered_not_linked (hc : c.Coherent) {p : PeerId}
    (hp : p ∈ c.script.filterMap Offer.peer?) : p ∉ c.linked := by
  intro hm
  obtain ⟨l, hl, rfl⟩ := List.mem_map.1 hm
  obtain ⟨k, hk⟩ := List.getElem?_of_mem hl
  exact hc.peer_not_offered hk hp

theorem Does.refuse (hh : c'.handler = c.handler) (hd : c'.delivered = c.delivered)
    (hconn : c'.connections = c.connections) (hpeers : c'.peers = c.peers) :
    Does h c c'.refuse [] := by
  obtain ⟨a, p, -, hr⟩ := refuse_eq c'
  rw [hr]
  exact .of_eq hh hd hconn hpeers

theorem Does.letGo {p : PeerId} (hh : c'.handler = c.handler) (hd : c'.delivered = c.delivered)
    (hconn : c'.connections = c.connections) (hpeers : c'.peers = c.peers) :
    Does h c ((c'.letGo p).stop .closed) [] := by
  have hmodify : ((c'.letGo p).stop .closed).peers =
      c.peers.modify p fun peer => { peer with closed := true, reading := false } := by
    rw [← hpeers]
    rfl
  refine .nothing hh hd (fun _ => ?_) (inboxOf_of_modify hmodify fun _ => rfl) (.inl ?_)
  · rw [takenOn, takenOn, ← hconn]
    rfl
  · rw [Channel.linked, Channel.linked, ← hconn]
    rfl

theorem attempt_does (hc : c.Coherent) : Does h c c.attempt [] := by
  unfold attempt
  split
  · exact .refuse rfl rfl rfl rfl
  · exact .refuse rfl rfl rfl rfl
  · rename_i p script hs
    unfold welcome
    split
    · exact .letGo rfl rfl rfl rfl
    · rw [accept_eq (by exact hc.beats)]
      refine .nothing rfl rfl (takenOn_of_append rfl rfl) (fun _ => rfl) (.inr ⟨p, ?_, ?_⟩)
      · exact hc.offered_not_linked (by simp [hs, Offer.peer?])
      · exact List.map_append

theorem hangUp_does (h : Handler σ) (c : Channel σ) (k : LinkId) :
    Does h c (c.hangUp h k) [.hangUp k] :=
  .hangUp rfl rfl (takenOn_of_modify rfl fun _ => by rfl) (fun _ => rfl)
    (linked_of_modify rfl fun _ => rfl)

theorem failWrite_does (h : Handler σ) (c : Channel σ) (k : LinkId) :
    Does h c ((c.stopWriting k).hangUp h k) [.hangUp k] := by
  refine .hangUp rfl rfl (fun j => ?_) (fun _ => rfl) ?_
  · have hstop : (c.stopWriting k).takenOn j = c.takenOn j :=
      takenOn_of_modify rfl (fun _ => by rfl) j
    rw [← hstop]
    exact takenOn_of_modify rfl (fun _ => by rfl) j
  · rw [← linked_of_modify (c := c) (d := c.stopWriting k) rfl fun _ => rfl]
    exact linked_of_modify rfl fun _ => rfl

theorem write_does (c : Channel σ) (k : LinkId) (p : PeerId) (m : Message) (ms : List Message) :
    Does h c (c.write k p m ms) [] :=
  .nothing rfl rfl (takenOn_of_modify rfl fun _ => by rfl) (inboxOf_of_modify rfl fun _ => rfl)
    (.inl (linked_of_modify rfl fun _ => rfl))

/-- An event does to the handler and to the messages what its deed does. -/
theorem Happens.does {e : Event} (hc : c.Coherent) (he : Happens h c e c') :
    Does h c c' e.deed?.toList := by
  cases he with
  | opened hp hs ho => exact attempt_does hc
  | read hp he hs hr => exact receive_does hc hp hs he hr
  | beat hp he hs hb => exact beat_does hc hp hs
  | ended hp he hm => exact hangUp_does h c _
  | failWrite hp he hd => exact failWrite_does h c _

/-- What happens to no connection concerns neither the handler nor what was sent. -/
theorem Aside.does (hc : c.Coherent) (ha : Aside h c c') : Does h c c' [] := by
  cases ha with
  | write hp he hq hd => exact write_does c ..
  | away hm hp hp' =>
    cases hm with
    | attempt => exact attempt_does hc
    | wake | giveUp => exact .of_eq rfl rfl rfl rfl
    | write => exact write_does c ..
    | abandon =>
      exact .nothing rfl rfl (takenOn_of_modify rfl fun _ => by rfl) (fun _ => rfl)
        (.inl (linked_of_modify rfl fun _ => rfl))
    | @shut k l peer =>
      obtain ⟨a, p, -, hr⟩ := retry_eq ((c.stopWriting k).letGo l.peer)
      rw [hr]
      exact .nothing rfl rfl (takenOn_of_modify rfl fun _ => by rfl)
        (inboxOf_of_modify rfl fun _ => rfl) (.inl (linked_of_modify rfl fun _ => rfl))
    | hangUp hc' | beat hc' | pass hc' | answer hc' | deliver hc' | failWrite hc' =>
      exact absurd hc' (hp _)

/-- Every move does one thing at most. -/
theorem Move.does (hc : c.Coherent) (hm : Move h c c') : ∃ deeds, Does h c c' deeds := by
  rcases hm.cases with ⟨e, he⟩ | ha
  · exact ⟨_, he.does hc⟩
  · exact ⟨[], ha.does hc⟩

end Channel

end Tunnel
