import Tunnel.Proofs.Channel.Coherence

/-!
# What does not go back

A lifetime that is over stays over, what a link took and what has come to a peer is never taken back,
and after the end of a connection neither of the two grows.
-/
namespace Tunnel.Channel

variable {σ : Type} {h : Handler σ} {c c' : Channel σ} {k : LinkId} {l : Connection} {peer : Peer}

structure Onward (l l' : Connection) (peer peer' : Peer) : Prop where
  same : l'.peer = l.peer
  taken : l.taken <+: l'.taken
  ended : l.ended = true → l'.ended = true ∧ l'.taken = l.taken
  outbox : peer.outbox <+: peer'.outbox
  closed : peer.closed = true → peer'.closed = true ∧ peer'.outbox = peer.outbox
  dropped : peer.dropped = true → peer'.dropped = true

theorem Onward.refl (l : Connection) (peer : Peer) : Onward l l peer peer :=
  ⟨rfl, List.prefix_refl _, fun h => ⟨h, rfl⟩, List.prefix_refl _, fun h => ⟨h, rfl⟩, fun h => h⟩

theorem Onward.trans {l₁ l₂ l₃ : Connection} {p₁ p₂ p₃ : Peer} (h : Onward l₁ l₂ p₁ p₂)
    (g : Onward l₂ l₃ p₂ p₃) : Onward l₁ l₃ p₁ p₃ := by
  refine ⟨g.same.trans h.same, h.taken.trans g.taken, fun he => ?_, h.outbox.trans g.outbox,
    fun hc => ?_, fun hd => g.dropped (h.dropped hd)⟩
  · obtain ⟨he', ht⟩ := h.ended he
    exact ⟨(g.ended he').1, (g.ended he').2.trans ht⟩
  · obtain ⟨hc', ho⟩ := h.closed hc
    exact ⟨(g.closed hc').1, (g.closed hc').2.trans ho⟩

theorem Onward.of_taken_eq {l' : Connection} (hpeer : l'.peer = l.peer)
    (ht : l'.taken = l.taken) (he : l.ended = true → l'.ended = true) : Onward l l' peer peer :=
  ⟨hpeer, ht ▸ List.prefix_refl _, fun h => ⟨he h, ht⟩, List.prefix_refl _, fun h => ⟨h, rfl⟩,
    fun h => h⟩

theorem Onward.of_outbox_eq {peer' : Peer} (ho : peer'.outbox = peer.outbox)
    (hc : peer.closed = true → peer'.closed = true)
    (hd : peer.dropped = true → peer'.dropped = true) : Onward l l peer peer' :=
  ⟨rfl, List.prefix_refl _, fun h => ⟨h, rfl⟩, ho ▸ List.prefix_refl _, fun h => ⟨hc h, ho⟩, hd⟩

structure Later (c c' : Channel σ) : Prop where
  shutdown : c.shutdown = true → c'.shutdown = true
  onward : ∀ {k l peer}, c.endpoints? k = some (l, peer) →
    ∃ l' peer', c'.endpoints? k = some (l', peer') ∧ Onward l l' peer peer'

theorem Later.refl (c : Channel σ) : Later c c :=
  ⟨fun h => h, fun he => ⟨_, _, he, .refl _ _⟩⟩

theorem Later.trans {d : Channel σ} (h : Later c d) (g : Later d c') : Later c c' := by
  refine ⟨fun hs => g.shutdown (h.shutdown hs), fun he => ?_⟩
  obtain ⟨l₁, peer₁, he₁, ho₁⟩ := h.onward he
  obtain ⟨l₂, peer₂, he₂, ho₂⟩ := g.onward he₁
  exact ⟨l₂, peer₂, he₂, ho₁.trans ho₂⟩

theorem Later.hasEnded (hl : Later c c') (hc : c.Coherent) (hk : k < c.connections.length)
    (he : c.hasEnded k = true) : c'.hasEnded k = true := by
  obtain ⟨peer, hends⟩ := hc.exists_endpoints (List.getElem?_eq_getElem hk)
  obtain ⟨l', peer', he', ho⟩ := hl.onward hends
  simp only [Channel.hasEnded, Bool.or_eq_true] at he ⊢
  rcases he with hs | hend
  · exact .inl (hl.shutdown hs)
  · rw [List.getElem?_eq_getElem hk, Option.map_some, Option.getD_some] at hend
    rw [(endpoints?_eq_some.1 he').1, Option.map_some, Option.getD_some]
    exact .inr (ho.ended hend).1

theorem Later.length_le (hl : Later c c') (hc : c.Coherent) :
    c.connections.length ≤ c'.connections.length := by
  refine Nat.le_of_not_lt fun hlt => ?_
  obtain ⟨peer, he⟩ := hc.exists_endpoints (List.getElem?_eq_getElem hlt)
  obtain ⟨l', peer', he', -⟩ := hl.onward he
  have hk := (List.getElem?_eq_some_iff.1 (endpoints?_eq_some.1 he').1).1
  exact Nat.lt_irrefl _ hk

theorem endpoints?_of_modify {f : Connection → Connection} {p : PeerId} {g : Peer → Peer}
    (hconn : c'.connections = c.connections.modify k f) (hpeers : c'.peers = c.peers.modify p g)
    (hf : ∀ l, (f l).peer = l.peer) {j : LinkId} (he : c.endpoints? j = some (l, peer)) :
    c'.endpoints? j = some (if k = j then f l else l, if p = l.peer then g peer else peer) := by
  obtain ⟨hl, hpeer⟩ := endpoints?_eq_some.1 he
  refine endpoints?_eq_some.2 ⟨?_, ?_⟩
  · rw [hconn, List.getElem?_modify, hl]
    split <;> rfl
  · have hsame : (if k = j then f l else l).peer = l.peer := by
      split
      · exact hf l
      · rfl
    rw [hsame, hpeers, List.getElem?_modify, hpeer]
    split <;> rfl

/-- A change of one connection and one peer leads onward if it does so for these two. -/
theorem Later.of_modify {f : Connection → Connection} {p : PeerId} {g : Peer → Peer}
    (hconn : c'.connections = c.connections.modify k f) (hpeers : c'.peers = c.peers.modify p g)
    (hf : ∀ l, (f l).peer = l.peer) (hs : c.shutdown = true → c'.shutdown = true)
    (hl : ∀ l, c.connections[k]? = some l → ∀ peer, Onward l (f l) peer peer)
    (hp : ∀ peer, c.peers[p]? = some peer → ∀ l, Onward l l peer (g peer)) : Later c c' := by
  refine ⟨hs, fun he => ⟨_, _, endpoints?_of_modify hconn hpeers hf he, ?_⟩⟩
  rename_i j l peer
  obtain ⟨hlj, hpeer⟩ := endpoints?_eq_some.1 he
  have hleft : ∀ peer, Onward l (if k = j then f l else l) peer peer := by
    intro peer
    split
    · rename_i hk
      exact hl l (hk ▸ hlj) peer
    · exact .refl l peer
  have hright : ∀ l', Onward l' l' peer (if p = l.peer then g peer else peer) := by
    intro l'
    split
    · rename_i hpl
      exact hp peer (hpl ▸ hpeer) l'
    · exact .refl l' peer
  exact (hleft peer).trans (hright _)

theorem Later.of_eq (hconn : c'.connections = c.connections) (hpeers : c'.peers = c.peers)
    (hs : c.shutdown = true → c'.shutdown = true) : Later c c' := by
  refine ⟨hs, fun he => ⟨_, _, ?_, .refl _ _⟩⟩
  rw [endpoints?_eq_some] at he ⊢
  rwa [hconn, hpeers]

theorem Later.of_modifyConnection {f : Connection → Connection}
    (hf : ∀ l peer, c.connections[k]? = some l → Onward l (f l) peer peer)
    (hpeer : ∀ l, (f l).peer = l.peer) : Later c (c.modifyConnection k f) :=
  .of_modify (k := k) (p := 0) (g := id) rfl (by rw [List.modify_id]; rfl) hpeer (fun hs => hs)
    (fun l hl peer => hf l peer hl) fun peer _ l => .refl l peer

theorem Later.of_modifyPeer {p : PeerId} {g : Peer → Peer}
    (hg : ∀ l peer, c.peers[p]? = some peer → Onward l l peer (g peer)) :
    Later c (c.modifyPeer p g) :=
  .of_modify (k := 0) (f := id) (p := p) (by rw [List.modify_id]; rfl) rfl (fun _ => rfl)
    (fun hs => hs) (fun l _ peer => .refl l peer) fun peer hp l => hg l peer hp

theorem Later.letGo (c : Channel σ) (p : PeerId) : Later c (c.letGo p) :=
  .of_modifyPeer fun _ _ _ => .of_outbox_eq rfl (fun _ => rfl) fun hd => hd

theorem Later.stopWriting (c : Channel σ) (k : LinkId) : Later c (c.stopWriting k) :=
  .of_modifyConnection (fun _ _ _ => .of_taken_eq rfl rfl fun he => he) fun _ => rfl

theorem Later.take (ho : c.isOpen k = true) (ms : List Message) : Later c (c.take k ms) := by
  refine .of_modifyConnection (fun l peer hl => ?_) fun _ => rfl
  -- a link that takes messages has not ended
  have hlast : l.ended = false := by
    simp only [isOpen, Channel.hasEnded, hl, Bool.and_eq_true, Bool.not_eq_true',
      Bool.or_eq_false_iff, Option.map_some, Option.getD_some] at ho
    exact ho.1.2
  refine ⟨rfl, List.prefix_append _ _, fun he => ?_, List.prefix_refl _, fun h => ⟨h, rfl⟩,
    fun h => h⟩
  simp [hlast] at he

theorem Later.sendOn (c : Channel σ) (k : LinkId) (m : Message) : Later c (c.sendOn k m).2 := by
  unfold Channel.sendOn
  split
  · rename_i ho
    exact .take ho [m]
  · exact .refl c

theorem Later.sendAll (c : Channel σ) (k : LinkId) (ms : List Message) :
    Later c (c.sendAll k ms) := by
  induction ms generalizing c with
  | nil => exact .refl c
  | cons m ms ih => exact (Later.sendOn c k m).trans (ih _)

theorem Later.hear (c : Channel σ) (k : LinkId) (p : PeerId) (rest : List Inbound) :
    Later c (c.hear k p rest) := by
  have hread : Later c (c.modifyPeer p fun peer => { peer with inbox := rest }) :=
    .of_modifyPeer fun _ _ _ => .of_outbox_eq rfl (fun hc => hc) fun hd => hd
  exact hread.trans (.of_modifyConnection (fun _ _ _ => .of_taken_eq rfl rfl fun he => he) fun _ => rfl)

theorem Later.deliver (h : Handler σ) (c : Channel σ) (k : LinkId) (m : Message) :
    Later c (c.deliver h k m) := by
  have hhand : Later c { c with
      handler := (h.handle c.handler k m).1
      delivered := c.delivered ++ [(k, m)] } := .of_eq rfl rfl fun hs => hs
  exact hhand.trans (Later.sendAll _ k _)

theorem Later.beat (c : Channel σ) (k : LinkId) : Later c (c.beat k) := by
  have hnext : Later c (c.modifyConnection k fun l =>
      { l with nextBeat := c.now + c.config.heartbeat.nanos }) :=
    .of_modifyConnection (fun _ _ _ => .of_taken_eq rfl rfl fun he => he) fun _ => rfl
  exact hnext.trans (Later.sendOn _ k _)

theorem Later.hangUp (h : Handler σ) (c : Channel σ) (k : LinkId) : Later c (c.hangUp h k) := by
  have hend : Later c (c.modifyConnection k fun l => { l with ended := true }) :=
    .of_modifyConnection (fun _ _ _ => .of_taken_eq rfl rfl fun _ => rfl) fun _ => rfl
  exact hend.trans (.of_eq rfl rfl fun hs => hs)

/-- The peer of a connection that is not yet closed sees it open, so that more may come to it. -/
theorem Coherent.write_later (hc : c.Coherent) (hp : c.phase = .connected k ∨ c.phase = .closing k)
    (he : c.endpoints? k = some (l, peer)) (m : Message) (ms : List Message) :
    Later c (c.write k l.peer m ms) := by
  -- the writer is at work, so the connection is not closed
  have hopen : peer.closed = false := by
    have hstage : c.stage k ≠ .closed := by
      rcases hp with hp | hp
      · rw [stage_eq_serving.2 hp]
        nofun
      · rw [stage_of_closing hp, if_pos rfl]
        nofun
    have hcl := mt (hc.fits k l peer he).closed.1 hstage
    simpa using hcl
  refine .of_modify (k := k) (p := l.peer) rfl rfl (fun _ => rfl) (fun hs => hs)
    (fun _ _ _ => .of_taken_eq rfl rfl fun he => he) fun peer' hpeer' l' => ?_
  obtain rfl : peer = peer' := Option.some.inj ((endpoints?_eq_some.1 he).2.symm.trans hpeer')
  refine ⟨rfl, List.prefix_refl _, fun h => ⟨h, rfl⟩, List.prefix_append _ _, fun hcl => ?_,
    fun h => h⟩
  simp [hopen] at hcl

theorem Later.append {new : Connection} (hconn : c'.connections = c.connections ++ [new])
    (hpeers : c'.peers = c.peers) (hs : c.shutdown = true → c'.shutdown = true) : Later c c' := by
  refine ⟨hs, fun he => ⟨_, _, ?_, .refl _ _⟩⟩
  obtain ⟨hl, hpeer⟩ := endpoints?_eq_some.1 he
  rw [endpoints?_eq_some, hconn, hpeers, List.getElem?_append_left (List.getElem?_eq_some_iff.1 hl).1]
  exact ⟨hl, hpeer⟩

theorem Later.refuse {b : Channel σ} (hconn : b.connections = c.connections)
    (hpeers : b.peers = c.peers) (hs : c.shutdown = true → b.shutdown = true) :
    Later c b.refuse := by
  obtain ⟨a, p, -, hr⟩ := refuse_eq b
  rw [hr]
  exact .of_eq hconn hpeers hs

theorem Coherent.attempt_later (hc : c.Coherent) : Later c c.attempt := by
  unfold Channel.attempt
  split
  · exact .refuse rfl rfl fun hs => hs
  · exact .refuse rfl rfl fun hs => hs
  · rename_i p script hs
    unfold welcome
    split
    · have hlet := Later.letGo c p
      exact hlet.trans (.of_eq rfl rfl fun hs => hs)
    · rw [accept_eq (by exact hc.beats)]
      exact .append rfl rfl fun hs => hs

theorem Coherent.move_later (hc : c.Coherent) (hm : Move h c c') : Later c c' := by
  cases hm with
  | attempt hp => exact hc.attempt_later
  | wake | giveUp => exact .of_eq rfl rfl fun hs => hs
  | hangUp hp he hm => exact .hangUp h c _
  | beat hp he hs hb hi => exact .beat c _
  | pass hp he hs hr hd => exact .hear c _ _ _
  | answer hp he hs hr hd => exact (Later.hear c _ _ _).trans (.sendOn _ _ _)
  | deliver hp he hs hr hd hm => exact (Later.hear c _ _ _).trans (.deliver h _ _ _)
  | failWrite hp he hd => exact (Later.stopWriting c _).trans (.hangUp h _ _)
  | write hp he hq hd => exact hc.write_later hp he _ _
  | abandon hp he hq hd => exact .stopWriting c _
  | @shut k l peer hp he hq =>
    obtain ⟨a, p, -, hr⟩ := retry_eq ((c.stopWriting k).letGo l.peer)
    rw [hr]
    exact ((Later.stopWriting c k).trans (.letGo _ _)).trans (.of_eq rfl rfl fun hs => hs)

theorem Touch.later (ht : Touch h c c') : Later c c' := by
  cases ht with
  | close => exact .of_eq rfl rfl fun _ => rfl
  | connect | join | pass | refuseNext => exact .of_eq rfl rfl fun hs => hs
  | acceptNext =>
    refine ⟨fun hs => hs, fun he => ⟨_, _, ?_, .refl _ _⟩⟩
    obtain ⟨hl, hpeer⟩ := endpoints?_eq_some.1 he
    refine endpoints?_eq_some.2 ⟨hl, ?_⟩
    rw [← hpeer]
    exact List.getElem?_append_left (List.getElem?_eq_some_iff.1 hpeer).1
  | feed i hp hr hd =>
    exact .of_modifyPeer fun _ _ _ => .of_outbox_eq rfl (fun hc => hc) fun hd => hd
  | dropPeer p =>
    exact .of_modifyPeer fun _ _ _ => .of_outbox_eq rfl (fun hc => hc) fun _ => rfl

theorem Coherent.later (hc : c.Coherent) {w : List (LinkId × Message)} (hp : Path h c w c') :
    Later c c' := by
  have hkeep : c'.Coherent ∧ Later c c' :=
    hp.keeps (P := fun d => d.Coherent ∧ Later c d)
      (fun hd hm => ⟨hd.1.move hm, hd.2.trans (hd.1.move_later hm)⟩)
      (fun hd ht => ⟨hd.1.touch ht, hd.2.trans ht.later⟩)
      (fun m hd ho => ⟨hd.1.take ho [m], hd.2.trans (.take ho [m])⟩) ⟨hc, .refl c⟩
  exact hkeep.2

end Tunnel.Channel
