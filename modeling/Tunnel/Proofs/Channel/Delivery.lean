import Tunnel.Proofs.Channel.Connectivity
import Tunnel.Proofs.Lists

/-!
# What comes to a peer

What a link takes crosses a queue before it comes to the peer. Nothing is lost on the way, nothing comes
twice or in another order, and nothing comes to another peer. What a link takes is what callers sent on
it, what the handler answered on it and the channel's own heartbeats.
-/
namespace Tunnel.Channel

variable {σ : Type} {h : Handler σ} {c c' : Channel σ} {k : LinkId} {l : Connection} {peer : Peer}

/-- Two lists that were woven into one while they grew. -/
inductive Woven {α : Type} : List α → List α → List α → Prop where
  | nil : Woven [] [] []
  | left {xs ys zs : List α} (hw : Woven xs ys zs) (a : α) : Woven (xs ++ [a]) ys (zs ++ [a])
  | right {xs ys zs : List α} (hw : Woven xs ys zs) (a : α) : Woven xs (ys ++ [a]) (zs ++ [a])

theorem Woven.append_right {α : Type} {xs ys zs : List α} (hw : Woven xs ys zs) (as : List α) :
    Woven xs (ys ++ as) (zs ++ as) := by
  induction as generalizing ys zs with
  | nil =>
    rw [List.append_nil, List.append_nil]
    exact hw
  | cons a as ih =>
    have hcons := ih (hw.right a)
    rwa [List.append_assoc, List.append_assoc] at hcons

theorem Woven.symm {α : Type} {xs ys zs : List α} (hw : Woven xs ys zs) : Woven ys xs zs := by
  induction hw with
  | nil => exact .nil
  | left _ a ih => exact ih.right a
  | right _ a ih => exact ih.left a

theorem Woven.append_left {α : Type} {xs ys zs : List α} (hw : Woven xs ys zs) (as : List α) :
    Woven (xs ++ as) ys (zs ++ as) := (hw.symm.append_right as).symm

def sentOn (w : List (LinkId × Message)) (k : LinkId) : List Message :=
  (w.filter fun x => x.1 = k).map Prod.snd

theorem sentOn_concat (w : List (LinkId × Message)) (k j : LinkId) (m : Message) :
    sentOn (w ++ [(k, m)]) j = sentOn w j ++ if j = k then [m] else [] :=
  map_snd_filter_concat w k j m

inductive News where
  | message (k : LinkId) (m : Message)
  | ended (k : LinkId)

def News.delivery? : News → Option (LinkId × Message)
  | .message k m => some (k, m)
  | .ended _ => none

def follow (h : Handler σ) (r : σ × List (LinkId × Message)) :
    News → σ × List (LinkId × Message)
  | .message k m => ((h.handle r.1 k m).1, r.2 ++ (h.handle r.1 k m).2.map fun a => (k, a))
  | .ended k => (h.linkEnded r.1 k, r.2)

/-- A handler that is told one thing after the other, and what it answers to all of it. -/
def followAll (h : Handler σ) (s : σ) (news : List News) : σ × List (LinkId × Message) :=
  news.foldl (follow h) (s, [])

theorem followAll_concat (s : σ) (news : List News) (n : News) :
    followAll h s (news ++ [n]) = follow h (followAll h s news) n := by
  rw [followAll, List.foldl_append]
  rfl

theorem sentOn_append_answers (w : List (LinkId × Message)) (k j : LinkId) (ms : List Message) :
    sentOn (w ++ ms.map fun a => (k, a)) j = sentOn w j ++ if j = k then ms else [] := by
  induction ms generalizing w with
  | nil => simp
  | cons m ms ih =>
    have hcons := ih (w ++ [(k, m)])
    rw [List.append_assoc, sentOn_concat, List.append_assoc] at hcons
    rw [List.map_cons]
    refine hcons.trans ?_
    split <;> rfl

/-- What a link took is woven of what callers sent, of answers, and of heartbeats. -/
def Told (w answers : List (LinkId × Message)) (c : Channel σ) (k : LinkId) : Prop :=
  ∃ beats own, (∀ m ∈ beats, m = .ping 0 ∨ m = .pong 0) ∧ Woven (sentOn answers k) beats own ∧
    Woven (sentOn w k) own (c.takenOn k)

/-- The answers are those that the handler gave to what was delivered and to the ends of links. -/
def Accounted (h : Handler σ) (s : σ) (w : List (LinkId × Message)) (c : Channel σ) : Prop :=
  ∃ news answers, followAll h s news = (c.handler, answers) ∧
    news.filterMap News.delivery? = c.delivered ∧ ∀ k, Told w answers c k

theorem Told.beat {w answers : List (LinkId × Message)} {j : LinkId} {m : Message}
    (ht : Told w answers c j) (hm : m = .ping 0 ∨ m = .pong 0) (htake : Takes c c' k [m]) :
    Told w answers c' j := by
  obtain ⟨beats, own, hb, ha, hw⟩ := ht
  by_cases hj : j = k
  · refine ⟨beats ++ [m], own ++ [m], fun m' hm' => ?_, ha.right m, ?_⟩
    · rcases List.mem_append.1 hm' with hm' | hm'
      · exact hb m' hm'
      · rw [List.mem_singleton.1 hm']
        exact hm
    · rw [htake j, if_pos hj]
      exact hw.right m
  · refine ⟨beats, own, hb, ha, ?_⟩
    rw [htake j, if_neg hj, List.append_nil]
    exact hw

theorem Told.answer {w answers : List (LinkId × Message)} {j : LinkId} {ms : List Message}
    (ht : Told w answers c j) (htake : Takes c c' k ms) :
    Told w (answers ++ ms.map fun a => (k, a)) c' j := by
  obtain ⟨beats, own, hb, ha, hw⟩ := ht
  refine ⟨beats, own ++ if j = k then ms else [], hb, ?_, ?_⟩
  · rw [sentOn_append_answers]
    exact ha.append_left _
  · rw [htake j]
    exact hw.append_right _

theorem Told.congr {w answers : List (LinkId × Message)} {j : LinkId} (ht : Told w answers c j)
    (htaken : c'.takenOn j = c.takenOn j) : Told w answers c' j := by
  unfold Told
  rwa [htaken]

theorem Accounted.effect {s : σ} {w : List (LinkId × Message)} (ha : Accounted h s w c)
    (he : Effect h c c') : Accounted h s w c' := by
  obtain ⟨news, answers, hf, hd, ht⟩ := ha
  cases he with
  | nothing hh hd' htaken =>
    exact ⟨news, answers, by rw [hf, hh], by rw [hd, hd'], fun k => (ht k).congr (htaken k)⟩
  | heartbeat hm hh hd' htake =>
    exact ⟨news, answers, by rw [hf, hh], by rw [hd, hd'], fun k => (ht k).beat hm htake⟩
  | @deliver k m hp hs hm hh hd' htake =>
    refine ⟨news ++ [.message k m], answers ++ (h.handle c.handler k m).2.map fun a => (k, a), ?_, ?_,
      fun j => (ht j).answer htake⟩
    · rw [followAll_concat, hf, hh]
      rfl
    · rw [List.filterMap_append, hd, hd']
      rfl
  | @hangUp k hp hp' hh hd' htaken =>
    refine ⟨news ++ [.ended k], answers, ?_, ?_, fun j => (ht j).congr (htaken j)⟩
    · rw [followAll_concat, hf, hh]
      rfl
    · rw [List.filterMap_append, hd, hd']
      exact List.append_nil _

theorem Accounted.send {s : σ} {w : List (LinkId × Message)} (ha : Accounted h s w c) (m : Message)
    (ho : c.isOpen k = true) : Accounted h s (w ++ [(k, m)]) (c.take k [m]) := by
  obtain ⟨news, answers, hf, hd, ht⟩ := ha
  refine ⟨news, answers, hf, hd, fun j => ?_⟩
  obtain ⟨beats, own, hb, hown, hw⟩ := ht j
  refine ⟨beats, own, hb, hown, ?_⟩
  rw [take_takes (lt_of_isOpen ho) [m] j, sentOn_concat]
  exact hw.append_left _

theorem Touch.accounted {s : σ} {w : List (LinkId × Message)} (ht : Touch h c c')
    (ha : Accounted h s w c) : Accounted h s w c' := by
  obtain ⟨news, answers, hf, hd, htold⟩ := ha
  cases ht <;> exact ⟨news, answers, hf, hd, fun k => (htold k).congr rfl⟩

/-- Along every path, each link takes what callers send on it, and its own. -/
theorem Coherent.accounted (hc : c.Coherent) (hnew : ∀ j, c.takenOn j = []) (hd : c.delivered = [])
    {w : List (LinkId × Message)} (hp : Path h c w c') : Accounted h c.handler w c' := by
  induction hp with
  | refl =>
    refine ⟨[], [], rfl, hd.symm, fun k => ⟨[], [], by simp, .nil, ?_⟩⟩
    rw [hnew]
    exact .nil
  | move hd hm ih => exact ih.effect (hm.effect (hc.path hd))
  | touch hd ht ih => exact ht.accounted ih
  | send hd m ho ih => exact ih.send m ho

/-! ## Peers

What has come to the relay is what was written. Of what was taken it is a first part, and all of it at
rest and after the connection was closed, unless the relay is gone.
-/

def writtenOn (c : Channel σ) (k : LinkId) : List Message :=
  ((c.endpoints? k).map fun x => x.2.outbox).getD []

theorem writtenOn_of_endpoints (he : c.endpoints? k = some (l, peer)) :
    c.writtenOn k = peer.outbox := by
  rw [writtenOn, he]
  rfl

theorem Coherent.written_prefix (hc : c.Coherent) (k : LinkId) : c.writtenOn k <+: c.takenOn k := by
  cases he : c.endpoints? k with
  | none =>
    rw [writtenOn, he]
    exact List.nil_prefix
  | some x =>
    rw [writtenOn_of_endpoints he, takenOn_of_endpoints he]
    exact (hc.fits k x.1 x.2 he).part

theorem Later.written_prefix (hl : Later c c') (k : LinkId) : c.writtenOn k <+: c'.writtenOn k := by
  cases he : c.endpoints? k with
  | none =>
    rw [writtenOn, he]
    exact List.nil_prefix
  | some x =>
    obtain ⟨l', peer', he', ho⟩ := hl.onward he
    rw [writtenOn_of_endpoints he, writtenOn_of_endpoints he']
    exact ho.outbox

theorem Later.taken_prefix (hl : Later c c') (hc : c.Coherent) (k : LinkId) :
    c.takenOn k <+: c'.takenOn k := by
  cases hk : c.connections[k]? with
  | none =>
    rw [takenOn, hk]
    exact List.nil_prefix
  | some l =>
    obtain ⟨peer, he⟩ := hc.exists_endpoints hk
    obtain ⟨l', peer', he', ho⟩ := hl.onward he
    rw [takenOn_of_endpoints he, takenOn_of_endpoints he']
    exact ho.taken

/-- The relay sees a connection closed only when all that was taken is written. -/
theorem Coherent.outbox_of_closed (hc : c.Coherent) (he : c.endpoints? k = some (l, peer))
    (hcl : peer.closed = true) (hd : peer.dropped = false) : peer.outbox = l.taken := by
  have hf := hc.fits k l peer he
  have hw : l.writing = false := by
    cases hno : l.writing with
    | true => exact absurd (hf.closed.1 hcl) (hf.writing hno)
    | false => rfl
  have hall := hf.all hd
  rwa [hf.idle hw, List.append_nil] at hall

theorem Resting.quiet (hr : c.Resting) (hp : c.phase = .connected k)
    (he : c.endpoints? k = some (l, peer)) : c.Quiet l peer := by
  simp only [Resting, hp] at hr
  exact hr l peer he

/-- At rest all that was taken is written, unless the relay is gone. -/
theorem Resting.outbox_eq (hr : c.Resting) (hc : c.Coherent)
    (he : c.endpoints? k = some (l, peer)) (hd : peer.dropped = false) : peer.outbox = l.taken := by
  cases hcl : peer.closed with
  | true => exact hc.outbox_of_closed he hcl hd
  | false =>
    have hp := (hr.closed_iff hc he).1 hcl
    have hall := (hc.fits k l peer he).all hd
    rwa [(hr.quiet hp he).written, List.append_nil] at hall

theorem Resting.writtenOn_eq (hr : c.Resting) (hc : c.Coherent) (he : c.hasEnded k = false) :
    c.writtenOn k = c.takenOn k := by
  have hp := (hr.hasEnded_iff hc).1 he
  obtain ⟨l, peer, hends⟩ := hc.endpoints_of_connected hp
  rw [writtenOn_of_endpoints hends, takenOn_of_endpoints hends]
  exact hr.outbox_eq hc hends (hr.quiet hp hends).there

theorem Coherent.received_of_closed (hc : c.Coherent) (he : c.endpoints? k = some (l, peer))
    (hcl : peer.closed = true) (hd : peer.dropped = false) :
    peer.received = l.taken.map Message.encode := by
  rw [Peer.received, hc.outbox_of_closed he hcl hd]

theorem Resting.received (hr : c.Resting) (hc : c.Coherent)
    (he : c.endpoints? k = some (l, peer)) (hd : peer.dropped = false) :
    peer.received = l.taken.map Message.encode := by
  rw [Peer.received, hr.outbox_eq hc he hd]

theorem Coherent.received_prefix (hc : c.Coherent) (he : c.endpoints? k = some (l, peer)) :
    peer.received <+: l.taken.map Message.encode :=
  (hc.fits k l peer he).part.map Message.encode

/-- Nothing comes to a peer that sees its connection closed, and nothing is taken for it. -/
theorem Coherent.closed_run (hc : c.Coherent) (he : c.endpoints? k = some (l, peer))
    (hcl : peer.closed = true) (steps : List Step) {l' : Connection} {peer' : Peer}
    (he' : (c.run h steps).endpoints? k = some (l', peer')) :
    l'.taken = l.taken ∧ peer'.received = peer.received := by
  obtain ⟨l₁, peer₁, he₁, ho⟩ := (hc.later (run_path (h := h) c steps)).onward he
  obtain ⟨rfl, rfl⟩ : l₁ = l' ∧ peer₁ = peer' := by simpa using he₁.symm.trans he'
  -- the lifetime of a connection ends before the relay sees it closed
  have hended : l.ended = true := by
    have hf := hc.fits k l peer he
    cases hno : l.ended with
    | true => rfl
    | false =>
      have hserving := hf.ended.1 hno
      rw [hf.closed.1 hcl] at hserving
      cases hserving
  exact ⟨(ho.ended hended).2, congrArg (List.map Message.encode) (ho.closed hcl).2⟩

theorem stepConnected_of_queued {m : Message} {ms : List Message} (hs : c.shutdown = false)
    (hb : c.now < l.nextBeat) (hh : c.isSilent l = false) (hr : peer.inbox = [])
    (hd : peer.dropped = false) (hq : l.queued = m :: ms) :
    c.stepConnected h k l peer = some (c.write k l.peer m ms) := by
  have hbeat : ¬ (l.nextBeat ≤ c.now ∧ 0 < c.config.heartbeat.nanos) := fun hle =>
    Nat.not_lt_of_le hle.1 hb
  unfold stepConnected stepWriter
  simp [hs, hbeat, hh, hr, hd, hq]

theorem endpoints?_take (he : c.endpoints? k = some (l, peer)) (ms : List Message) :
    (c.take k ms).endpoints? k =
      some ({ l with queued := l.queued ++ ms, taken := l.taken ++ ms }, peer) := by
  obtain ⟨hl, hpeer⟩ := endpoints?_eq_some.1 he
  refine endpoints?_eq_some.2 ⟨?_, hpeer⟩
  change (c.connections.modify k _)[k]? = _
  rw [List.getElem?_modify_eq, hl]
  rfl

theorem endpoints?_write {j : LinkId} (he : c.endpoints? j = some (l, peer)) (k : LinkId) (p : PeerId)
    (m : Message) (ms : List Message) : (c.write k p m ms).endpoints? j =
      some (if k = j then { l with queued := ms } else l,
        if p = l.peer then { peer with outbox := peer.outbox ++ [m] } else peer) :=
  endpoints?_of_modify (f := fun l => { l with queued := ms })
    (g := fun peer => { peer with outbox := peer.outbox ++ [m] }) rfl rfl (fun _ => rfl) he

/-- A message that a connection takes at rest is written at once. -/
theorem Resting.settle_take (hr : c.Resting) (hc : c.Coherent) (hp : c.phase = .connected k)
    (he : c.endpoints? k = some (l, peer)) (m : Message) :
    (c.take k [m]).settle h = (c.take k [m]).write k l.peer m [] := by
  have hq := hr.quiet hp he
  have ho := (hr.isOpen_iff hc).2 hp
  let l₁ : Connection := { l with queued := l.queued ++ [m], taken := l.taken ++ [m] }
  have he₁ : (c.take k [m]).endpoints? k = some (l₁, peer) := endpoints?_take he [m]
  have hq₁ : l₁.queued = [m] := by
    change l.queued ++ [m] = [m]
    rw [hq.written, List.nil_append]
  have hm : Move h (c.take k [m]) ((c.take k [m]).write k l.peer m []) :=
    .write (l := l₁) (.inl hp) he₁ hq₁ hq.there
  -- nothing else was to be done, so that the next thing is to write
  have hstep : (c.take k [m]).step? h = some ((c.take k [m]).write k l.peer m []) := by
    have hp₁ : (c.take k [m]).phase = .connected k := hp
    unfold step?
    simp only [hp₁, he₁]
    exact stepConnected_of_queued hq.shutdown hq.beat hq.heard hq.read hq.there hq₁
  -- and then the queue is empty again
  have hrest : ((c.take k [m]).write k l.peer m []).Resting := by
    have hp₂ : ((c.take k [m]).write k l.peer m []).phase = .connected k := hp
    simp only [Resting, hp₂]
    intro l₂ peer₂ he₂
    have hends := endpoints?_write he₁ k l.peer m []
    rw [if_pos rfl, if_pos rfl] at hends
    obtain ⟨rfl, rfl⟩ := Prod.mk.inj (Option.some.inj (he₂.symm.trans hends))
    exact ⟨hq.shutdown, hq.beat, hq.heard, hq.read, hq.there, rfl⟩
  rw [settle_of_step? hstep]
  exact settle_of_settled (((hc.take ho [m]).move hm).step?_eq_none.2 hrest)

theorem writtenOn_eq (c : Channel σ) (k : LinkId) : c.writtenOn k =
    ((c.connections[k]?.bind fun l => c.peers[l.peer]?).map Peer.outbox).getD [] := by
  rw [writtenOn]
  cases hl : c.connections[k]? with
  | none => simp [endpoints?, hl]
  | some l => cases hp : c.peers[l.peer]? <;> simp [endpoints?, hl, hp]

theorem writtenOn_of_modify {f : Connection → Connection} {p : PeerId} {g : Peer → Peer}
    (hconn : c'.connections = c.connections.modify k f) (hpeers : c'.peers = c.peers.modify p g)
    (hf : ∀ l, (f l).peer = l.peer) (hg : ∀ peer, (g peer).outbox = peer.outbox) (j : LinkId) :
    c'.writtenOn j = c.writtenOn j := by
  have hpeer : ∀ q : PeerId, c'.peers[q]?.map Peer.outbox = c.peers[q]?.map Peer.outbox := by
    intro q
    rw [hpeers, List.getElem?_modify]
    cases c.peers[q]? with
    | none => rfl
    | some peer => by_cases hq : p = q <;> simp [hq, hg]
  rw [writtenOn_eq, writtenOn_eq, hconn, List.getElem?_modify]
  cases c.connections[j]? with
  | none => rfl
  | some l => by_cases hj : k = j <;> simp [hj, hf, hpeer]

@[simp] theorem writtenOn_take (c : Channel σ) (k : LinkId) (ms : List Message) (j : LinkId) :
    (c.take k ms).writtenOn j = c.writtenOn j := by
  have hpeers : (c.take k ms).peers = c.peers.modify 0 id := by rw [List.modify_id]; rfl
  exact writtenOn_of_modify rfl hpeers (by exact fun _ => rfl) (fun _ => rfl) j

theorem Coherent.writtenOn_write (hc : c.Coherent) (he : c.endpoints? k = some (l, peer))
    (m : Message) (ms : List Message) (j : LinkId) :
    (c.write k l.peer m ms).writtenOn j = c.writtenOn j ++ if j = k then [m] else [] := by
  obtain ⟨hl, hpeer⟩ := endpoints?_eq_some.1 he
  cases hj : c.connections[j]? with
  | none =>
    have hne : j ≠ k := by
      rintro rfl
      simp [hl] at hj
    have hnone : (c.write k l.peer m ms).connections[j]? = none := by
      change (c.connections.modify k _)[j]? = none
      simp [List.getElem?_modify, hj]
    simp [writtenOn_eq, hj, hnone, hne]
  | some l' =>
    obtain ⟨peer', he'⟩ := hc.exists_endpoints hj
    rw [writtenOn_of_endpoints he', writtenOn_of_endpoints (endpoints?_write he' k l.peer m ms)]
    by_cases hjk : j = k
    · subst hjk
      obtain ⟨rfl, rfl⟩ := Prod.mk.inj (Option.some.inj (he'.symm.trans he))
      rw [if_pos rfl, if_pos rfl]
    · -- another connection has another peer
      have hne : l.peer ≠ l'.peer := fun hp => hjk (hc.eq_of_peer_eq hl hj hp).symm
      rw [if_neg hne, if_neg hjk, List.append_nil]

/-- What is sent on an open link at rest comes to its peer, and nothing else comes to any. -/
theorem Resting.writtenOn_settle_take (hr : c.Resting) (hc : c.Coherent)
    (ho : c.isOpen k = true) (m : Message) (j : LinkId) :
    ((c.take k [m]).settle h).writtenOn j = c.writtenOn j ++ if j = k then [m] else [] := by
  have hp := (hr.isOpen_iff hc).1 ho
  obtain ⟨l, peer, he⟩ := hc.endpoints_of_connected hp
  rw [hr.settle_take hc hp he, (hc.take ho [m]).writtenOn_write (endpoints?_take he [m]),
    writtenOn_take]

theorem hasEnded_of_modify {f : Connection → Connection}
    (hconn : c'.connections = c.connections.modify k f) (hdown : c'.shutdown = c.shutdown)
    (hf : ∀ l, (f l).ended = l.ended) (j : LinkId) : c'.hasEnded j = c.hasEnded j := by
  simp only [hasEnded, hconn, hdown, List.getElem?_modify]
  cases c.connections[j]? with
  | none => rfl
  | some l => by_cases hj : k = j <;> simp [hj, hf]

theorem Resting.hasEnded_settle_take (hr : c.Resting) (hc : c.Coherent) (ho : c.isOpen k = true)
    (m : Message) (j : LinkId) : ((c.take k [m]).settle h).hasEnded j = c.hasEnded j := by
  have hp := (hr.isOpen_iff hc).1 ho
  obtain ⟨l, peer, he⟩ := hc.endpoints_of_connected hp
  have htake : (c.take k [m]).hasEnded j = c.hasEnded j :=
    hasEnded_of_modify rfl (by rfl) (fun _ => by rfl) j
  rw [hr.settle_take hc hp he, ← htake]
  exact hasEnded_of_modify rfl (by rfl) (fun _ => by rfl) j

/-- At rest, a message that is not taken changes nothing. -/
theorem Resting.sendThrough_of_not_taken (hr : c.Resting) (hc : c.Coherent) {m : Message}
    (hs : (c.sendThrough h k m).1 = false) : (c.sendThrough h k m).2 = c := by
  have hno : c.isOpen k = false := by
    cases ho : c.isOpen k with
    | true => simp [Channel.sendThrough, sendOn_of_isOpen ho] at hs
    | false => rfl
  unfold Channel.sendThrough
  rw [sendOn_of_not_isOpen hno]
  exact settle_of_settled (hc.step?_eq_none.2 hr)

theorem Resting.send_of_not_taken (hr : c.Resting) (hc : c.Coherent) {m : Message}
    (hs : (c.send h m).1 = false) : (c.send h m).2 = c := by
  unfold Channel.send at hs ⊢
  split
  · rename_i k hk
    by_cases hstate : c.state.current = .connected
    · rw [if_pos hstate]
      simp only [hk, if_pos hstate] at hs
      exact hr.sendThrough_of_not_taken hc hs
    · rw [if_neg hstate]
  · rfl

/-- After every sequence of steps, what has come to the peer of a connection is what its link took, in
order, unless the relay is gone, and then it is a first part of that. What a link took is woven of what
callers sent on it, of the handler's answers and of heartbeats, each in order and complete. A connection
whose lifetime is over is closed, no peer ever sees its connection closed before all has come, and
afterwards nothing comes any more. No two connections have the same peer, to the other peers nothing has
come, and a message that is not taken changes nothing. -/
theorem delivery (config : ChannelConfig) (credentials : Credentials) (s : σ) (h : Handler σ)
    (hb : 0 < config.heartbeat.nanos) (steps : List Step) :
    let start := Channel.new config credentials s
    let c := start.run h steps
    (∀ k l, c.connections[k]? = some l → ∃ peer, c.endpoints? k = some (l, peer) ∧
      (peer.dropped = false → peer.received = l.taken.map Message.encode) ∧
      peer.received <+: l.taken.map Message.encode ∧
      (c.hasEnded k = true → peer.closed = true) ∧
      (peer.closed = true → ∀ later l' peer', (c.run h later).endpoints? k = some (l', peer') →
        l'.taken = l.taken ∧ peer'.received = peer.received)) ∧
    (∃ news answers, followAll h s news = (c.handler, answers) ∧
      news.filterMap News.delivery? = c.delivered ∧
      ∀ k l, c.connections[k]? = some l → ∃ beats own, (∀ m ∈ beats, m = .ping 0 ∨ m = .pong 0) ∧
        Woven (sentOn answers k) beats own ∧
        Woven (sentOn (start.grantedIn h steps) k) own l.taken) ∧
    (∀ w d, Path h start w d → ∀ k l peer, d.endpoints? k = some (l, peer) →
      peer.closed = true → peer.dropped = false → peer.received = l.taken.map Message.encode) ∧
    (∀ (j k : LinkId) (l l' : Connection), c.connections[j]? = some l →
      c.connections[k]? = some l' → l.peer = l'.peer → j = k) ∧
    (∀ p peer, c.peers[p]? = some peer → p ∉ c.connections.map Connection.peer →
      peer.received = []) ∧
    (∀ m, (c.send h m).1 = false → (c.send h m).2 = c) ∧
    ∀ k m, (c.sendThrough h k m).1 = false → (c.sendThrough h k m).2 = c := by
  intro start c
  have hstart : start.Coherent := new_coherent hb
  have hpath : Path h start (start.grantedIn h steps) c := run_path start steps
  obtain ⟨hc, hr⟩ : c.Coherent ∧ c.Resting := hstart.run_resting trivial steps
  refine ⟨fun k l hl => ?_, ?_, fun w d hd k l peer he hcl hdrop => ?_,
    fun j k l l' hj hk hp => ?_, fun p peer hpeer hp => ?_, fun m => hr.send_of_not_taken hc,
    fun k m => hr.sendThrough_of_not_taken hc⟩
  · obtain ⟨peer, he⟩ := hc.exists_endpoints hl
    refine ⟨peer, he, hr.received hc he, hc.received_prefix he, fun hended => ?_,
      fun hcl later l' peer' he' => hc.closed_run he hcl later he'⟩
    cases hcl : peer.closed with
    | true => rfl
    | false =>
      have hno := (hr.hasEnded_iff hc).2 ((hr.closed_iff hc he).1 hcl)
      rw [hended] at hno
      cases hno
  · obtain ⟨news, answers, hf, hd, ht⟩ := hstart.accounted (fun j => rfl) rfl hpath
    refine ⟨news, answers, hf, hd, fun k l hl => ?_⟩
    have htold := ht k
    rwa [Told, takenOn, hl] at htold
  · exact (hstart.path hd).received_of_closed he hcl hdrop
  · exact hc.eq_of_peer_eq hj hk hp
  · rw [Peer.received, hc.unmet p hp peer hpeer]
    rfl

/-- A message that a caller sends after an attempt that succeeded comes to the peer. -/
theorem delivery_accepted :
    let config : ChannelConfig := {}
    let h : Handler Unit := ⟨fun s _ _ => (s, []), fun s _ => s⟩
    let start := Channel.new config ⟨"wss://relay.example.com/c", "t0k"⟩ ()
    let c := start.run h [.acceptNext, .connect, .send (.pong 7)]
    0 < config.heartbeat.nanos ∧ start.grantedIn h [.acceptNext, .connect, .send (.pong 7)] =
      [(0, .pong 7)] ∧ ∃ l peer, c.endpoints? 0 = some (l, peer) ∧ peer.dropped = false ∧
        l.taken = [.pong 7] ∧ peer.received = l.taken.map Message.encode := by
  intro config h start c
  have hb : 0 < config.heartbeat.nanos := by decide
  let d := ({ start.acceptNext.2 with phase := .attempting } : Channel Unit).attempt
  have hconnect : (start.acceptNext.2.connect h).2 = d := by
    have hsnd : (start.acceptNext.2.connect h).2 = d.settle h := connect_snd (by decide +kernel) rfl
    rw [hsnd, settle_of_settled (by rfl)]
  have hsend : d.send h (.pong 7) = (true, (d.take 0 [.pong 7]).write 0 0 (.pong 7) []) := by
    have hstep : (d.take 0 [.pong 7]).step? h =
        some ((d.take 0 [.pong 7]).write 0 0 (.pong 7) []) := by rfl
    change (true, (d.take 0 [.pong 7]).settle h) = _
    rw [settle_of_step? hstep, settle_of_settled (by rfl)]
  have hc : c = (d.take 0 [.pong 7]).write 0 0 (.pong 7) [] := by
    change ((start.acceptNext.2.connect h).2.send h (.pong 7)).2 = _
    rw [hconnect, hsend]
  have hgranted : start.grantedIn h [.acceptNext, .connect, .send (.pong 7)] = [(0, .pong 7)] := by
    change (start.acceptNext.2.connect h).2.granted h (.send (.pong 7)) ++ [] = _
    rw [hconnect, List.append_nil, granted, hsend]
    rfl
  obtain ⟨hpeers, -⟩ := delivery config ⟨"wss://relay.example.com/c", "t0k"⟩ () h hb
    [.acceptNext, .connect, .send (.pong 7)]
  obtain ⟨l, hl, hdrop, htaken⟩ : ∃ l, c.connections[0]? = some l ∧
      (∀ peer, c.endpoints? 0 = some (l, peer) → peer.dropped = false) ∧ l.taken = [.pong 7] := by
    rw [hc]
    refine ⟨_, rfl, fun peer he => ?_, rfl⟩
    obtain ⟨rfl⟩ := Option.some.inj ((endpoints?_eq_some.1 he).2)
    rfl
  obtain ⟨peer, he, hreceived, -⟩ := hpeers 0 l hl
  exact ⟨hb, hgranted, l, peer, he, hdrop peer he, htaken, hreceived (hdrop peer he)⟩

end Tunnel.Channel
