import Tunnel.Proofs.Channel.Reach

/-!
# Coherent channels

The phase of a channel, its current link, the state that it publishes, the lifetimes and writers of its
connections and what has come to their peers are changed one by one, at different places. They fit
together in every state that is reached with a heartbeat interval: here is how, and that moves and
touches keep it so.
-/
namespace Tunnel

inductive Stage where
  | serving
  | closing
  | closed
  deriving DecidableEq, Repr

/-- What a connection and its peer are like at a stage. What has come to the peer and what is yet to be
written is what the link took; only a write to a relay that is gone leaves something out. -/
structure Connection.Fits (l : Connection) (peer : Peer) (s : Stage) : Prop where
  ended : l.ended = false ↔ s = .serving
  writes : s = .serving → l.writing = true
  writing : l.writing = true → s ≠ .closed
  idle : l.writing = false → l.queued = []
  closed : peer.closed = true ↔ s = .closed
  whole : l.writing = true → peer.outbox ++ l.queued = l.taken
  part : peer.outbox <+: l.taken
  all : peer.dropped = false → peer.outbox ++ l.queued = l.taken

theorem Connection.Fits.write {l : Connection} {peer : Peer} {s : Stage} {m : Message}
    {ms : List Message} (hf : l.Fits peer s) (hq : l.queued = m :: ms) :
    ({ l with queued := ms } : Connection).Fits { peer with outbox := peer.outbox ++ [m] } s := by
  have hw : l.writing = true := by
    cases hno : l.writing with
    | true => rfl
    | false => simp [hf.idle hno] at hq
  have hall : (peer.outbox ++ [m]) ++ ms = l.taken := by
    rw [← hf.whole hw, hq, List.append_assoc]
    rfl
  refine ⟨hf.ended, hf.writes, hf.writing, ?_, hf.closed, fun _ => hall, ?_, fun _ => hall⟩
  · intro hno
    simp [hw] at hno
  · exact ⟨ms, hall⟩

def Offer.peer? : Offer → Option PeerId
  | .refuse => none
  | .accept p => some p

namespace Channel

variable {σ : Type} {h : Handler σ} {c c' : Channel σ} {k : LinkId} {l : Connection} {peer : Peer}

def stage (c : Channel σ) (k : LinkId) : Stage :=
  if c.phase = .connected k then .serving else if c.phase = .closing k then .closing else .closed

def allPeers (c : Channel σ) : List PeerId :=
  c.connections.map Connection.peer ++ c.script.filterMap Offer.peer?

/-- What a channel shows of itself is what its phase says. -/
def Shown (c : Channel σ) : Prop :=
  match c.phase with
  | .connected k =>
    c.current = some k ∧ c.state.current = .connected ∧ c.outcomes.getLast? = some (some k)
  | .crashed => False
  | _ => c.current = none ∧ c.state.current = .disconnected

structure Coherent (c : Channel σ) : Prop where
  beats : 0 < c.config.heartbeat.nanos
  shown : c.Shown
  latest : ∀ k, c.stage k ≠ .closed → c.connections.length = k + 1
  distinct : c.allPeers.Nodup
  known : ∀ p ∈ c.allPeers, p < c.peers.length
  fresh : ∀ p ∈ c.script.filterMap Offer.peer?, ∀ peer, c.peers[p]? = some peer →
    peer.closed = false
  unmet : ∀ p, p ∉ c.connections.map Connection.peer → ∀ peer, c.peers[p]? = some peer →
    peer.outbox = []
  fits : ∀ k l peer, c.endpoints? k = some (l, peer) → l.Fits peer (c.stage k)

theorem stage_eq_serving : c.stage k = .serving ↔ c.phase = .connected k := by
  unfold stage
  split_ifs <;> simp_all

theorem stage_of_connected (hp : c.phase = .connected k) (j : LinkId) :
    c.stage j = if j = k then .serving else .closed := by
  by_cases hj : j = k
  · simp [stage, hp, hj]
  · simp [stage, hp, hj, Ne.symm hj]

theorem stage_of_closing (hp : c.phase = .closing k) (j : LinkId) :
    c.stage j = if j = k then .closing else .closed := by
  by_cases hj : j = k
  · simp [stage, hp, hj]
  · simp [stage, hp, hj, Ne.symm hj]

theorem stage_of_isDown {p : ChannelPhase} (hp : c.phase = p) (hd : p.IsDown) (j : LinkId) :
    c.stage j = .closed := by
  unfold stage
  cases p <;> simp_all [ChannelPhase.IsDown]

/-! ## Connections and their peers

Each connection has a peer of its own, which no outcome that is yet to come can have. So a change to one
connection and its peer is no change to any other.
-/

theorem Coherent.exists_endpoints (hc : c.Coherent) (hl : c.connections[k]? = some l) :
    ∃ peer, c.endpoints? k = some (l, peer) := by
  have hm : l ∈ c.connections := List.mem_of_getElem? hl
  have hp : l.peer < c.peers.length :=
    hc.known l.peer (List.mem_append_left _ (List.mem_map_of_mem hm))
  exact ⟨c.peers[l.peer], endpoints?_eq_some.2 ⟨hl, List.getElem?_eq_getElem hp⟩⟩

/-- Different connections have different peers. -/
theorem Coherent.eq_of_peer_eq (hc : c.Coherent) {j : LinkId} {l' : Connection}
    (hl : c.connections[k]? = some l) (hl' : c.connections[j]? = some l')
    (he : l.peer = l'.peer) : k = j := by
  have hd : (c.connections.map Connection.peer).Nodup := (List.nodup_append.1 hc.distinct).1
  have hk : (c.connections.map Connection.peer)[k]? = some l.peer := by simp [hl]
  have hj : (c.connections.map Connection.peer)[j]? = some l.peer := by simp [hl', he]
  obtain ⟨hlt, -⟩ := List.getElem?_eq_some_iff.1 hk
  exact (List.getElem?_inj hlt hd).1 (hk.trans hj.symm)

/-- The peer of a connection is not that of an outcome to come. -/
theorem Coherent.peer_not_offered (hc : c.Coherent) (hl : c.connections[k]? = some l) :
    l.peer ∉ c.script.filterMap Offer.peer? := by
  intro hm
  have hd := (List.nodup_append.1 hc.distinct).2.2
  exact hd l.peer (List.mem_map_of_mem (List.mem_of_getElem? hl)) l.peer hm rfl

theorem endpoints?_modify {f : Connection → Connection} {g : Peer → Peer}
    (hconn : c'.connections = c.connections.modify k f)
    (hpeers : c'.peers = c.peers.modify l.peer g) (hf : ∀ l, (f l).peer = l.peer)
    (hc : c.Coherent) (hl : c.connections[k]? = some l) {j : LinkId} {l' : Connection}
    {peer' : Peer} (he : c'.endpoints? j = some (l', peer')) :
    ∃ l₀ peer₀, c.endpoints? j = some (l₀, peer₀) ∧
      (j = k ∧ l' = f l₀ ∧ peer' = g peer₀ ∨ j ≠ k ∧ l' = l₀ ∧ peer' = peer₀) := by
  obtain ⟨hl', hp'⟩ := endpoints?_eq_some.1 he
  rw [hconn, List.getElem?_modify] at hl'
  rw [hpeers, List.getElem?_modify] at hp'
  cases hj : c.connections[j]? with
  | none => simp [hj] at hl'
  | some l₀ =>
    simp only [hj, Option.map_eq_map, Option.map_some, Option.some.injEq] at hl'
    have hsame : l'.peer = l₀.peer := by
      subst hl'
      split_ifs with hk
      · exact hf l₀
      · rfl
    rw [hsame] at hp'
    cases hp : c.peers[l₀.peer]? with
    | none => simp [hp] at hp'
    | some peer₀ =>
      simp only [hp, Option.map_eq_map, Option.map_some, Option.some.injEq] at hp'
      refine ⟨l₀, peer₀, endpoints?_eq_some.2 ⟨hj, hp⟩, ?_⟩
      by_cases hk : j = k
      · subst hk
        obtain rfl : l = l₀ := Option.some.inj (hl.symm.trans hj)
        exact .inl ⟨rfl, by simpa using hl'.symm, by simpa using hp'.symm⟩
      · -- another connection has another peer
        have hne : l.peer ≠ l₀.peer := fun hpe => hk (hc.eq_of_peer_eq hl hj hpe).symm
        refine .inr ⟨hk, ?_, ?_⟩
        · simpa [Ne.symm hk] using hl'.symm
        · simpa [hne] using hp'.symm

/-- What changes one connection and its peer keeps a channel coherent if the two still fit. -/
theorem Coherent.update {f : Connection → Connection} {g : Peer → Peer} (hc : c.Coherent)
    (he : c.endpoints? k = some (l, peer)) (hconn : c'.connections = c.connections.modify k f)
    (hpeers : c'.peers = c.peers.modify l.peer g) (hf : ∀ l, (f l).peer = l.peer)
    (hscript : c'.script = c.script) (hconfig : c'.config = c.config) (hshown : c'.Shown)
    (hstage : ∀ j, j ≠ k → c.stage j = .closed ∧ c'.stage j = .closed)
    (hk : c.connections.length = k + 1) (hfits : (f l).Fits (g peer) (c'.stage k)) :
    c'.Coherent := by
  obtain ⟨hl, hp⟩ := endpoints?_eq_some.1 he
  have hmap : c'.connections.map Connection.peer = c.connections.map Connection.peer := by
    rw [hconn]
    refine List.ext_getElem? fun j => ?_
    simp only [List.getElem?_map, List.getElem?_modify]
    cases c.connections[j]? with
    | none => rfl
    | some l => by_cases hj : k = j <;> simp [hj, hf]
  have hall : c'.allPeers = c.allPeers := by rw [allPeers, allPeers, hmap, hscript]
  refine ⟨by rw [hconfig]; exact hc.beats, hshown, ?_, by rw [hall]; exact hc.distinct, ?_, ?_, ?_,
    ?_⟩
  · intro j hj
    by_cases hjk : j = k
    · rw [hjk, hconn, List.length_modify, hk]
    · exact absurd (hstage j hjk).2 hj
  · intro p hpm
    rw [hall] at hpm
    rw [hpeers, List.length_modify]
    exact hc.known p hpm
  · intro p hpm peer₀ hp₀
    rw [hscript] at hpm
    -- the peer that changes has a connection, so that no outcome to come names it
    have hne : l.peer ≠ p := fun heq => hc.peer_not_offered hl (heq ▸ hpm)
    rw [hpeers, List.getElem?_modify_ne _ _ hne] at hp₀
    exact hc.fresh p hpm peer₀ hp₀
  · intro p hpm peer₀ hp₀
    rw [hmap] at hpm
    have hne : l.peer ≠ p := fun heq =>
      hpm (heq ▸ List.mem_map_of_mem (List.mem_of_getElem? hl))
    rw [hpeers, List.getElem?_modify_ne _ _ hne] at hp₀
    exact hc.unmet p hpm peer₀ hp₀
  · intro j l' peer' he'
    obtain ⟨l₀, peer₀, he₀, ⟨rfl, rfl, rfl⟩ | ⟨hj, rfl, rfl⟩⟩ :=
      endpoints?_modify hconn hpeers hf hc hl he'
    · obtain ⟨rfl, rfl⟩ : l = l₀ ∧ peer = peer₀ := by
        simpa using he.symm.trans he₀
      exact hfits
    · obtain ⟨hs, hs'⟩ := hstage j hj
      rw [hs', ← hs]
      exact hc.fits j l' peer' he₀

/-- A channel stays coherent while its connections, peers and outcomes do not change. -/
theorem Coherent.congr (hc : c.Coherent) (hconn : c'.connections = c.connections)
    (hpeers : c'.peers = c.peers)
    (hscript : c'.script.filterMap Offer.peer? = c.script.filterMap Offer.peer?)
    (hconfig : c'.config = c.config) (hstage : ∀ j, c'.stage j = c.stage j) (hshown : c'.Shown) :
    c'.Coherent := by
  have hall : c'.allPeers = c.allPeers := by rw [allPeers, allPeers, hconn, hscript]
  refine ⟨by rw [hconfig]; exact hc.beats, hshown, ?_, by rw [hall]; exact hc.distinct, ?_, ?_, ?_,
    ?_⟩
  · intro j hj
    rw [hconn]
    exact hc.latest j (by rwa [hstage] at hj)
  · intro p hp
    rw [hpeers]
    exact hc.known p (by rwa [hall] at hp)
  · intro p hp peer hpeer
    rw [hscript] at hp
    rw [hpeers] at hpeer
    exact hc.fresh p hp peer hpeer
  · intro p hp peer hpeer
    rw [hconn] at hp
    rw [hpeers] at hpeer
    exact hc.unmet p hp peer hpeer
  · intro j l peer he
    rw [hstage]
    refine hc.fits j l peer ?_
    rw [endpoints?_eq_some] at he ⊢
    rwa [hconn, hpeers] at he

theorem Coherent.fits_connected (hc : c.Coherent) (hp : c.phase = .connected k)
    (he : c.endpoints? k = some (l, peer)) : l.Fits peer .serving := by
  rw [← stage_eq_serving.2 hp]
  exact hc.fits k l peer he

theorem Coherent.fits_closing (hc : c.Coherent) (hp : c.phase = .closing k)
    (he : c.endpoints? k = some (l, peer)) : l.Fits peer .closing := by
  have hs : c.stage k = .closing := by rw [stage_of_closing hp, if_pos rfl]
  rw [← hs]
  exact hc.fits k l peer he

theorem Coherent.length_of_connected (hc : c.Coherent) (hp : c.phase = .connected k) :
    c.connections.length = k + 1 :=
  hc.latest k (by rw [stage_eq_serving.2 hp]; decide)

theorem Coherent.length_of_closing (hc : c.Coherent) (hp : c.phase = .closing k) :
    c.connections.length = k + 1 :=
  hc.latest k (by rw [stage_of_closing hp, if_pos rfl]; decide)

theorem Coherent.endpoints_of_connected (hc : c.Coherent) (hp : c.phase = .connected k) :
    ∃ l peer, c.endpoints? k = some (l, peer) := by
  have hlt : k < c.connections.length := by
    rw [hc.length_of_connected hp]
    exact Nat.lt_succ_self k
  obtain ⟨peer, he⟩ := hc.exists_endpoints (List.getElem?_eq_getElem hlt)
  exact ⟨_, peer, he⟩

theorem Coherent.current_of_connected (hc : c.Coherent) (hp : c.phase = .connected k) :
    c.current = some k := by
  have hs := hc.shown
  simp only [Shown, hp] at hs
  exact hs.1

theorem Coherent.isOpen_of_connected (hc : c.Coherent) (hp : c.phase = .connected k)
    (hs : c.shutdown = false) : c.isOpen k = true := by
  obtain ⟨l, peer, he⟩ := hc.endpoints_of_connected hp
  have hf := hc.fits_connected hp he
  have hl := (endpoints?_eq_some.1 he).1
  simp [isOpen, hasEnded, hs, hl, hf.ended.2 rfl, hf.writes rfl]

theorem Coherent.connected_of_not_hasEnded (hc : c.Coherent) (ho : c.hasEnded k = false) :
    c.phase = .connected k ∧ c.shutdown = false := by
  cases hl : c.connections[k]? with
  | none => simp [hasEnded, hl] at ho
  | some l =>
    obtain ⟨peer, he⟩ := hc.exists_endpoints hl
    simp only [hasEnded, hl, Option.map_some, Option.getD_some, Bool.or_eq_false_iff] at ho
    exact ⟨stage_eq_serving.1 ((hc.fits k l peer he).ended.1 ho.2), ho.1⟩

theorem Coherent.hasEnded_of_ne (hc : c.Coherent) {j : LinkId} (hp : c.phase = .connected k)
    (hj : j ≠ k) : c.hasEnded j = true := by
  cases hno : c.hasEnded j with
  | true => rfl
  | false =>
    have hpj := (hc.connected_of_not_hasEnded hno).1
    rw [hp] at hpj
    exact absurd (ChannelPhase.connected.inj hpj).symm hj

theorem Coherent.hasEnded_of_closing (hc : c.Coherent) (hp : c.phase = .closing k) (j : LinkId) :
    c.hasEnded j = true := by
  cases hno : c.hasEnded j with
  | true => rfl
  | false =>
    have hpj := (hc.connected_of_not_hasEnded hno).1
    rw [hp] at hpj
    cases hpj

theorem Coherent.connected_of_isOpen (hc : c.Coherent) (ho : c.isOpen k = true) :
    c.phase = .connected k ∧ c.shutdown = false := by
  refine hc.connected_of_not_hasEnded ?_
  simp only [isOpen, Bool.and_eq_true, Bool.not_eq_true'] at ho
  exact ho.1

theorem stage_others (hp : c.phase = .connected k ∨ c.phase = .closing k) {j : LinkId}
    (hj : j ≠ k) : c.stage j = .closed := by
  rcases hp with hp | hp
  · rw [stage_of_connected hp, if_neg hj]
  · rw [stage_of_closing hp, if_neg hj]

/-- What changes only the connection that serves, and not what a link shows, keeps a channel
coherent. -/
theorem Coherent.modifyConnection (hc : c.Coherent) (hp : c.phase = .connected k)
    {f : Connection → Connection} (hpeer : ∀ l, (f l).peer = l.peer)
    (hf : ∀ l peer, l.Fits peer .serving → (f l).Fits peer .serving) :
    (c.modifyConnection k f).Coherent := by
  obtain ⟨l, peer, he⟩ := hc.endpoints_of_connected hp
  have hs : (c.modifyConnection k f).stage k = .serving := stage_eq_serving.2 hp
  have hsame : c.peers = c.peers.modify l.peer id := by rw [List.modify_id]
  refine hc.update he rfl hsame hpeer rfl rfl hc.shown ?_ (hc.length_of_connected hp) ?_
  · intro j hj
    exact ⟨stage_others (.inl hp) hj, stage_others (c := c.modifyConnection k f) (.inl hp) hj⟩
  · rw [hs]
    exact hf l peer (hc.fits_connected hp he)

theorem Coherent.modifyPeer (hc : c.Coherent) (p : PeerId) {g : Peer → Peer}
    (hout : ∀ peer, (g peer).outbox = peer.outbox) (hclosed : ∀ peer, (g peer).closed = peer.closed)
    (hdrop : ∀ peer, (g peer).dropped = false → peer.dropped = false) :
    (c.modifyPeer p g).Coherent := by
  have hget : ∀ {q : PeerId} {peer' : Peer}, (c.peers.modify p g)[q]? = some peer' → ∃ peer : Peer,
      c.peers[q]? = some peer ∧ peer'.outbox = peer.outbox ∧ peer'.closed = peer.closed ∧
        (peer'.dropped = false → peer.dropped = false) := by
    intro q peer' hq
    rw [List.getElem?_modify] at hq
    cases hpeer : c.peers[q]? with
    | none => simp [hpeer] at hq
    | some peer =>
      simp only [hpeer, Option.map_eq_map, Option.map_some, Option.some.injEq] at hq
      refine ⟨peer, rfl, ?_⟩
      subst hq
      split_ifs
      · exact ⟨hout peer, hclosed peer, hdrop peer⟩
      · exact ⟨rfl, rfl, fun h => h⟩
  refine ⟨hc.beats, hc.shown, hc.latest, hc.distinct, ?_, ?_, ?_, ?_⟩
  · intro q hq
    rw [Channel.modifyPeer, List.length_modify]
    exact hc.known q hq
  · intro q hq peer' hpeer'
    obtain ⟨peer, hpeer, -, hcl, -⟩ := hget hpeer'
    rw [hcl]
    exact hc.fresh q hq peer hpeer
  · intro q hq peer' hpeer'
    obtain ⟨peer, hpeer, ho, -, -⟩ := hget hpeer'
    rw [ho]
    exact hc.unmet q hq peer hpeer
  · intro j l peer' he
    obtain ⟨hl, hpeer'⟩ := endpoints?_eq_some.1 he
    obtain ⟨peer, hpeer, ho, hcl, hd⟩ := hget hpeer'
    have hf := hc.fits j l peer (endpoints?_eq_some.2 ⟨hl, hpeer⟩)
    refine ⟨hf.ended, hf.writes, hf.writing, hf.idle, ?_, ?_, ?_, ?_⟩
    · rw [hcl]
      exact hf.closed
    · rw [ho]
      exact hf.whole
    · rw [ho]
      exact hf.part
    · intro hdrop
      rw [ho]
      exact hf.all (hd hdrop)

/-! ## Moves

Each move keeps the parts together. A move that concerns one connection takes it from a stage to the
same stage or to the next; the other connections are closed and stay so.
-/

theorem Coherent.take (hc : c.Coherent) (ho : c.isOpen k = true) (ms : List Message) :
    (c.take k ms).Coherent := by
  refine hc.modifyConnection (hc.connected_of_isOpen ho).1 (fun _ => rfl) fun l peer hf => ?_
  have hw : peer.outbox ++ l.queued = l.taken := hf.whole (hf.writes rfl)
  have hnew : peer.outbox ++ (l.queued ++ ms) = l.taken ++ ms := by rw [← List.append_assoc, hw]
  refine ⟨hf.ended, hf.writes, hf.writing, ?_, hf.closed, fun _ => hnew, ?_, fun _ => hnew⟩
  · intro hno
    simp [hf.writes rfl] at hno
  · exact hf.part.trans (List.prefix_append _ _)

theorem Coherent.sendOn (hc : c.Coherent) (k : LinkId) (m : Message) : (c.sendOn k m).2.Coherent := by
  unfold Channel.sendOn
  split
  · rename_i ho
    exact hc.take ho [m]
  · exact hc

theorem Coherent.sendAll (hc : c.Coherent) (k : LinkId) (ms : List Message) :
    (c.sendAll k ms).Coherent := by
  induction ms generalizing c with
  | nil => exact hc
  | cons m ms ih => exact ih (hc.sendOn k m)

theorem Coherent.hear (hc : c.Coherent) (hp : c.phase = .connected k) (p : PeerId)
    (rest : List Inbound) : (c.hear k p rest).Coherent := by
  have hread : (c.modifyPeer p fun peer => { peer with inbox := rest }).Coherent :=
    hc.modifyPeer p (fun _ => rfl) (fun _ => rfl) fun _ hd => hd
  refine hread.modifyConnection hp (fun _ => rfl) fun _ _ hf => ?_
  exact ⟨hf.ended, hf.writes, hf.writing, hf.idle, hf.closed, hf.whole, hf.part, hf.all⟩

theorem Coherent.deliver (hc : c.Coherent) (h : Handler σ) (k : LinkId) (m : Message) :
    (c.deliver h k m).Coherent := by
  refine Coherent.sendAll ?_ k _
  exact hc.congr rfl rfl rfl rfl (fun _ => rfl) hc.shown

theorem Coherent.beat (hc : c.Coherent) (hp : c.phase = .connected k) : (c.beat k).Coherent := by
  refine Coherent.sendOn ?_ k _
  refine hc.modifyConnection hp (fun _ => rfl) fun _ _ hf => ?_
  exact ⟨hf.ended, hf.writes, hf.writing, hf.idle, hf.closed, hf.whole, hf.part, hf.all⟩

/-- When a connection hangs up, its writer may have stopped before. -/
theorem Coherent.hangUp (hc : c.Coherent) (h : Handler σ) (hp : c.phase = .connected k) :
    (c.hangUp h k).Coherent := by
  obtain ⟨l, peer, he⟩ := hc.endpoints_of_connected hp
  have hsame : c.peers = c.peers.modify l.peer id := by rw [List.modify_id]
  have hf := hc.fits_connected hp he
  have hs : (c.hangUp h k).phase = .closing k := rfl
  refine hc.update he rfl hsame (fun _ => rfl) rfl rfl ⟨rfl, rfl⟩ ?_ (hc.length_of_connected hp) ?_
  · intro j hj
    exact ⟨stage_others (.inl hp) hj, stage_others (.inr hs) hj⟩
  · rw [stage_of_closing hs, if_pos rfl]
    refine ⟨⟨nofun, nofun⟩, nofun, nofun, hf.idle, ?_, hf.whole, hf.part, hf.all⟩
    rw [id, hf.closed]
    decide

theorem Coherent.failWrite (hc : c.Coherent) (h : Handler σ) (hp : c.phase = .connected k)
    (he : c.endpoints? k = some (l, peer)) (hd : peer.dropped = true) :
    ((c.stopWriting k).hangUp h k).Coherent := by
  have hsame : c.peers = c.peers.modify l.peer id := by rw [List.modify_id]
  have hf := hc.fits_connected hp he
  have hs : ((c.stopWriting k).hangUp h k).phase = .closing k := rfl
  have hconn : ((c.stopWriting k).hangUp h k).connections = c.connections.modify k fun l =>
      { l with writing := false, queued := [], ended := true } := by
    simp only [Channel.hangUp, stopWriting, Channel.modifyConnection, publish,
      List.modify_modify_eq]
    rfl
  refine hc.update he hconn hsame (fun _ => rfl) rfl rfl ⟨rfl, rfl⟩ ?_ (hc.length_of_connected hp)
    ?_
  · intro j hj
    exact ⟨stage_others (.inl hp) hj, stage_others (.inr hs) hj⟩
  · rw [stage_of_closing hs, if_pos rfl]
    refine ⟨by simp, by simp, by simp, fun _ => rfl, ?_, by simp, hf.part, ?_⟩
    · rw [id, hf.closed]
      decide
    · intro hno
      rw [id, hd] at hno
      cases hno

theorem Coherent.write (hc : c.Coherent) (hp : c.phase = .connected k ∨ c.phase = .closing k)
    (he : c.endpoints? k = some (l, peer)) {m : Message} {ms : List Message}
    (hq : l.queued = m :: ms) : (c.write k l.peer m ms).Coherent := by
  have hs : (c.write k l.peer m ms).stage k = c.stage k := rfl
  have hk : c.connections.length = k + 1 := by
    rcases hp with hp | hp
    · exact hc.length_of_connected hp
    · exact hc.length_of_closing hp
  refine hc.update he rfl rfl (fun _ => rfl) rfl rfl hc.shown ?_ hk ?_
  · intro j hj
    exact ⟨stage_others hp hj, stage_others (c := c.write k l.peer m ms) hp hj⟩
  · rw [hs]
    exact (hc.fits k l peer he).write hq

theorem Coherent.abandon (hc : c.Coherent) (hp : c.phase = .closing k)
    (he : c.endpoints? k = some (l, peer)) (hd : peer.dropped = true) :
    (c.stopWriting k).Coherent := by
  have hsame : c.peers = c.peers.modify l.peer id := by rw [List.modify_id]
  have hf := hc.fits_closing hp he
  have hs : (c.stopWriting k).phase = .closing k := hp
  refine hc.update he rfl hsame (fun _ => rfl) rfl rfl hc.shown ?_ (hc.length_of_closing hp) ?_
  · intro j hj
    exact ⟨stage_others (.inr hp) hj, stage_others (.inr hs) hj⟩
  · rw [stage_of_closing hs, if_pos rfl]
    refine ⟨hf.ended, nofun, nofun, fun _ => rfl, hf.closed, nofun, hf.part, ?_⟩
    intro hno
    rw [id, hd] at hno
    cases hno

theorem shown_of_isDown (hp : c.phase.IsDown) (hn : c.current = none)
    (hs : c.state.current = .disconnected) : c.Shown := by
  unfold Shown
  cases hc : c.phase <;> simp_all [ChannelPhase.IsDown]

theorem Coherent.current_eq_none (hc : c.Coherent) (hp : ∀ k, c.phase ≠ .connected k) :
    c.current = none := by
  have hs := hc.shown
  unfold Shown at hs
  cases hph : c.phase with
  | connected k => exact absurd hph (hp k)
  | _ => simp_all

theorem Coherent.shut (hc : c.Coherent) (hp : c.phase = .closing k)
    (he : c.endpoints? k = some (l, peer)) (hq : l.queued = []) :
    (((c.stopWriting k).letGo l.peer).retry).Coherent := by
  obtain ⟨a, p, hdown, hr⟩ := retry_eq ((c.stopWriting k).letGo l.peer)
  rw [hr]
  have hf := hc.fits_closing hp he
  have hn : c.current = none := hc.current_eq_none fun j hj => by simp [hp] at hj
  refine hc.update he rfl rfl (fun _ => rfl) rfl rfl (shown_of_isDown hdown hn rfl) ?_
    (hc.length_of_closing hp) ?_
  · intro j hj
    exact ⟨stage_others (.inr hp) hj, stage_of_isDown rfl hdown j⟩
  · rw [stage_of_isDown rfl hdown k]
    have he : l.ended = true := by
      cases hno : l.ended with
      | true => rfl
      | false => cases hf.ended.1 hno
    refine ⟨⟨fun hno => ?_, nofun⟩, nofun, nofun, fun _ => rfl, ⟨fun _ => rfl, fun _ => rfl⟩, nofun,
      hf.part, fun hd => ?_⟩
    · simp [he] at hno
    · have hall := hf.all hd
      rwa [hq] at hall

theorem Coherent.refuse (hc : c.Coherent) {b : Channel σ} (hp : c.phase = .attempting)
    (hconn : b.connections = c.connections) (hpeers : b.peers = c.peers)
    (hscript : b.script.filterMap Offer.peer? = c.script.filterMap Offer.peer?)
    (hconfig : b.config = c.config) (hcur : b.current = c.current) : b.refuse.Coherent := by
  obtain ⟨a, p, hdown, hr⟩ := refuse_eq b
  rw [hr]
  have hn : c.current = none := hc.current_eq_none fun j hj => by simp [hp] at hj
  refine hc.congr hconn hpeers hscript hconfig ?_ (shown_of_isDown hdown (hcur.trans hn) rfl)
  intro j
  rw [stage_of_isDown rfl hdown j]
  simp [stage, hp]

theorem stage_of_attempting (hp : c.phase = .attempting) (j : LinkId) : c.stage j = .closed := by
  simp [stage, hp]

/-- The peer of an outcome that comes to nothing does not matter any more. -/
theorem Coherent.skip (hc : c.Coherent) {p : PeerId} {script : List Offer}
    (hs : c.script = .accept p :: script) {g : Peer → Peer}
    (hg : ∀ peer, (g peer).outbox = peer.outbox) :
    (({ c with script } : Channel σ).modifyPeer p g).Coherent := by
  have hoff : c.script.filterMap Offer.peer? = p :: script.filterMap Offer.peer? := by
    rw [hs]
    rfl
  have hd := hc.distinct
  rw [allPeers, hoff] at hd
  -- without this outcome the other peers are still distinct
  have hperm : (c.connections.map Connection.peer ++ p :: script.filterMap Offer.peer?).Perm
      (p :: (c.connections.map Connection.peer ++ script.filterMap Offer.peer?)) :=
    List.perm_middle
  obtain ⟨hnot, hnodup⟩ := List.nodup_cons.1 (hperm.nodup_iff.1 hd)
  have hne : ∀ q ∈ c.connections.map Connection.peer ++ script.filterMap Offer.peer?, p ≠ q := by
    rintro q hq rfl
    exact hnot hq
  refine ⟨hc.beats, hc.shown, hc.latest, hnodup, ?_, ?_, ?_, ?_⟩
  · intro q hq
    rw [Channel.modifyPeer, List.length_modify]
    refine hc.known q ?_
    rw [allPeers, hoff]
    exact hperm.mem_iff.2 (List.mem_cons_of_mem _ hq)
  · intro q hq peer hpeer
    simp only [Channel.modifyPeer, List.getElem?_modify_ne _ _ (hne q (List.mem_append_right _ hq))]
      at hpeer
    exact hc.fresh q (by rw [hoff]; exact List.mem_cons_of_mem _ hq) peer hpeer
  · intro q hq peer hpeer
    simp only [Channel.modifyPeer, List.getElem?_modify] at hpeer
    cases hq' : c.peers[q]? with
    | none => simp [hq'] at hpeer
    | some peer₀ =>
      have hout := hc.unmet q hq peer₀ hq'
      simp only [hq', Option.map_eq_map, Option.map_some, Option.some.injEq] at hpeer
      subst hpeer
      split_ifs
      · rw [hg, hout]
      · exact hout
  · intro j l peer he
    obtain ⟨hl, hpeer⟩ := endpoints?_eq_some.1 he
    have hm : l.peer ∈ c.connections.map Connection.peer :=
      List.mem_map_of_mem (List.mem_of_getElem? hl)
    simp only [Channel.modifyPeer,
      List.getElem?_modify_ne _ _ (hne l.peer (List.mem_append_left _ hm))] at hpeer
    exact hc.fits j l peer (endpoints?_eq_some.2 ⟨hl, hpeer⟩)

theorem endpoints?_append_lt {l' : Connection} (hconn : c'.connections = c.connections ++ [l'])
    (hpeers : c'.peers = c.peers) (hk : k ≠ c.connections.length)
    (he : c'.endpoints? k = some (l, peer)) : c.endpoints? k = some (l, peer) := by
  obtain ⟨hl, hpeer⟩ := endpoints?_eq_some.1 he
  rw [hconn] at hl
  rw [hpeers] at hpeer
  have hlt : k < (c.connections ++ [l']).length := (List.getElem?_eq_some_iff.1 hl).1
  rw [List.length_append, List.length_singleton] at hlt
  rw [List.getElem?_append_left (Nat.lt_of_le_of_ne (Nat.le_of_lt_succ hlt) hk)] at hl
  exact endpoints?_eq_some.2 ⟨hl, hpeer⟩

/-- A new connection fits its peer, to which nothing has come yet. -/
theorem Coherent.extend (hc : c.Coherent) {p : PeerId} {script : List Offer} {l' : Connection}
    (hp : c.phase = .attempting) (hs : c.script = .accept p :: script)
    (hl' : l'.peer = p ∧ l'.ended = false ∧ l'.writing = true ∧ l'.queued = [] ∧ l'.taken = [])
    (hconn : c'.connections = c.connections ++ [l']) (hpeers : c'.peers = c.peers)
    (hscript : c'.script = script) (hconfig : c'.config = c.config)
    (hphase : c'.phase = .connected c.connections.length) (hshown : c'.Shown) : c'.Coherent := by
  obtain ⟨hpeer, hended, hwriting, hqueued, htaken⟩ := hl'
  have hoff : c.script.filterMap Offer.peer? = p :: script.filterMap Offer.peer? := by
    rw [hs]
    rfl
  have hall : c'.allPeers = c.allPeers := by
    rw [allPeers, allPeers, hoff, hconn, hscript, List.map_append, List.append_assoc]
    simp [hpeer]
  have hp' : p ∉ c.connections.map Connection.peer := fun hm =>
    (List.nodup_append.1 hc.distinct).2.2 p hm p (by rw [hoff]; exact List.mem_cons_self) rfl
  refine ⟨by rw [hconfig]; exact hc.beats, hshown, ?_, by rw [hall]; exact hc.distinct, ?_, ?_, ?_,
    ?_⟩
  · intro j hj
    rw [stage_of_connected hphase] at hj
    split_ifs at hj with hk
    · rw [hk, hconn, List.length_append, List.length_singleton]
    · exact absurd rfl hj
  · intro q hq
    rw [hpeers]
    exact hc.known q (by rwa [hall] at hq)
  · intro q hq peer hq'
    rw [hpeers] at hq'
    rw [hscript] at hq
    exact hc.fresh q (by rw [hoff]; exact List.mem_cons_of_mem _ hq) peer hq'
  · intro q hq peer hq'
    rw [hconn, List.map_append, List.mem_append, not_or] at hq
    rw [hpeers] at hq'
    exact hc.unmet q hq.1 peer hq'
  · intro j l peer he
    rw [stage_of_connected hphase]
    split_ifs with hk
    · obtain ⟨hl, hpeer'⟩ := endpoints?_eq_some.1 he
      rw [hconn, hk, List.getElem?_concat_length, Option.some.injEq] at hl
      subst hl
      rw [hpeers, hpeer] at hpeer'
      -- the peer of the outcome has not been met before
      have hclosed := hc.fresh p (by rw [hoff]; exact List.mem_cons_self) peer hpeer'
      have hout := hc.unmet p hp' peer hpeer'
      refine ⟨by simp [hended], fun _ => hwriting, fun _ => nofun, fun _ => hqueued, ?_, ?_, ?_, ?_⟩
      · simp [hclosed]
      all_goals simp [hout, hqueued, htaken]
    · rw [← stage_of_attempting hp j]
      exact hc.fits j l peer (endpoints?_append_lt hconn hpeers hk he)

/-- With a heartbeat interval a connection that is made serves. -/
theorem accept_eq {p : PeerId} (hb : 0 < c.config.heartbeat.nanos) :
    c.accept p = { c.publish .connected with
      attempts := 0
      current := some c.connections.length
      outcomes := c.outcomes ++ [some c.connections.length]
      connections := c.connections ++ [c.newConnection p]
      phase := .connected c.connections.length } :=
  if_neg (Nat.pos_iff_ne_zero.1 hb)

theorem Coherent.attempt (hc : c.Coherent) (hp : c.phase = .attempting) : c.attempt.Coherent := by
  have hn : c.current = none := hc.current_eq_none fun j hj => by simp [hp] at hj
  unfold Channel.attempt
  split
  · exact hc.refuse hp rfl rfl rfl rfl rfl
  · rename_i script hs
    exact hc.refuse hp rfl rfl (by rw [hs]; rfl) rfl rfl
  · rename_i p script hs
    unfold welcome
    split
    · have hskip := hc.skip hs (g := fun peer => { peer with closed := true, reading := false })
        fun _ => rfl
      refine hskip.congr rfl rfl rfl rfl (fun j => ?_) ⟨hn, rfl⟩
      have hskipped : (({ c with script } : Channel σ).modifyPeer p fun peer =>
          { peer with closed := true, reading := false }).stage j = .closed :=
        stage_of_attempting hp j
      rw [hskipped]
      exact stage_of_isDown (p := .stopped .closed) rfl trivial j
    · rw [accept_eq (by exact hc.beats)]
      exact hc.extend hp hs ⟨rfl, rfl, rfl, rfl, rfl⟩ rfl rfl rfl rfl rfl
        ⟨rfl, rfl, List.getLast?_concat⟩

theorem Coherent.move (hc : c.Coherent) (hm : Move h c c') : c'.Coherent := by
  cases hm with
  | attempt hp => exact hc.attempt hp
  | wake hp ht =>
    refine hc.congr rfl rfl rfl rfl (fun j => ?_) ?_
    · rw [stage_of_isDown hp trivial]
      exact stage_of_attempting rfl j
    · have hs := hc.shown
      simpa only [Shown, hp] using hs
  | giveUp hp hs =>
    have hn : c.current = none := hc.current_eq_none fun j hj => by simp [hp] at hj
    refine hc.congr rfl rfl rfl rfl (fun j => ?_) ⟨hn, rfl⟩
    rw [stage_of_isDown hp trivial]
    exact stage_of_isDown (p := .stopped .closed) rfl trivial j
  | hangUp hp he hm => exact hc.hangUp h hp
  | beat hp he hs hb hi => exact hc.beat hp
  | pass hp he hs hr hd => exact hc.hear hp _ _
  | answer hp he hs hr hd => exact (hc.hear hp _ _).sendOn _ _
  | deliver hp he hs hr hd hm => exact (hc.hear hp _ _).deliver h _ _
  | failWrite hp he hd => exact hc.failWrite h hp he hd
  | write hp he hq hd => exact hc.write hp he hq
  | abandon hp he hq hd => exact hc.abandon hp he hd
  | shut hp he hq => exact hc.shut hp he hq

theorem Coherent.endpoints_acceptNext (hc : c.Coherent)
    (he : c.acceptNext.2.endpoints? k = some (l, peer)) : c.endpoints? k = some (l, peer) := by
  obtain ⟨hl, hpeer⟩ := endpoints?_eq_some.1 he
  have hm : l.peer ∈ c.connections.map Connection.peer :=
    List.mem_map_of_mem (List.mem_of_getElem? hl)
  have hlt : l.peer < c.peers.length := hc.known l.peer (List.mem_append_left _ hm)
  have hold : c.acceptNext.2.peers[l.peer]? = c.peers[l.peer]? := List.getElem?_append_left hlt
  exact endpoints?_eq_some.2 ⟨hl, hold ▸ hpeer⟩

theorem Coherent.acceptNext (hc : c.Coherent) : c.acceptNext.2.Coherent := by
  have hoff : c.acceptNext.2.script.filterMap Offer.peer? =
      c.script.filterMap Offer.peer? ++ [c.peers.length] := by
    rw [Channel.acceptNext, List.filterMap_append]
    rfl
  have hall : c.acceptNext.2.allPeers = c.allPeers ++ [c.peers.length] := by
    rw [allPeers, allPeers, hoff, ← List.append_assoc]
    rfl
  -- the number of the new peer is beyond all that are known
  have hlen : c.acceptNext.2.peers.length = c.peers.length + 1 := by simp [Channel.acceptNext]
  have hold : ∀ q < c.peers.length, c.acceptNext.2.peers[q]? = c.peers[q]? := fun q hq =>
    List.getElem?_append_left hq
  have hnew : c.acceptNext.2.peers[c.peers.length]? = some {} := List.getElem?_concat_length
  refine ⟨hc.beats, hc.shown, hc.latest, ?_, ?_, ?_, ?_, ?_⟩
  · rw [hall]
    refine List.nodup_append.2 ⟨hc.distinct, List.pairwise_singleton _ _, ?_⟩
    rintro q hq _ hlast rfl
    rw [List.mem_singleton] at hlast
    exact Nat.lt_irrefl _ (hlast ▸ hc.known q hq)
  · intro q hq
    rw [hall] at hq
    rw [hlen]
    rcases List.mem_append.1 hq with hq | hq
    · exact Nat.lt_succ_of_lt (hc.known q hq)
    · rw [List.mem_singleton.1 hq]
      exact Nat.lt_succ_self _
  · intro q hq peer hpeer
    rw [hoff] at hq
    rcases List.mem_append.1 hq with hq | hq
    · rw [hold q (hc.known q (List.mem_append_right _ hq))] at hpeer
      exact hc.fresh q hq peer hpeer
    · rw [List.mem_singleton.1 hq, hnew] at hpeer
      obtain rfl := Option.some.inj hpeer
      rfl
  · intro q hq peer hpeer
    by_cases hlt : q < c.peers.length
    · rw [hold q hlt] at hpeer
      exact hc.unmet q hq peer hpeer
    · have hq' : q < c.acceptNext.2.peers.length := (List.getElem?_eq_some_iff.1 hpeer).1
      rw [hlen] at hq'
      obtain rfl : q = c.peers.length := Nat.le_antisymm (Nat.le_of_lt_succ hq') (Nat.le_of_not_lt hlt)
      rw [hnew] at hpeer
      obtain rfl := Option.some.inj hpeer
      rfl
  · intro j l peer he
    exact hc.fits j l peer (hc.endpoints_acceptNext he)

theorem Coherent.touch (hc : c.Coherent) (ht : Touch h c c') : c'.Coherent := by
  cases ht with
  | connect hp =>
    refine hc.congr rfl rfl rfl rfl (fun j => ?_) ?_
    · rw [stage_of_attempting rfl j]
      simp [stage, hp]
    · have hs := hc.shown
      simpa only [Shown, hp] using hs
  | close | join | pass hs hn hd => exact hc.congr rfl rfl rfl rfl (fun _ => rfl) hc.shown
  | refuseNext =>
    refine hc.congr rfl rfl ?_ rfl (fun _ => rfl) hc.shown
    rw [Channel.refuseNext, List.filterMap_append]
    exact List.append_nil _
  | acceptNext => exact hc.acceptNext
  | feed i hp hr hd => exact hc.modifyPeer _ (fun _ => rfl) (fun _ => rfl) fun _ h => h
  | dropPeer p => exact hc.modifyPeer p (fun _ => rfl) (fun _ => rfl) nofun

theorem Coherent.path (hc : c.Coherent) {w : List (LinkId × Message)} (hp : Path h c w c') :
    c'.Coherent :=
  hp.keeps (P := Coherent) Coherent.move Coherent.touch (fun m hd ho => hd.take ho [m]) hc

end Channel

end Tunnel
