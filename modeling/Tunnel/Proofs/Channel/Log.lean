import Tunnel.Proofs.Channel.Deed

/-!
# The log of a channel

A log says what a channel did by itself. With what callers and the relay have sent, it says all that the
handler, the links and the inboxes have become.
-/
namespace Tunnel.Channel

variable {σ : Type} {h : Handler σ} {c c' : Channel σ} {k : LinkId} {l : Connection} {peer : Peer}

def fedTo (fed : List (PeerId × Inbound)) (p : PeerId) : List Inbound :=
  (fed.filter fun x => x.1 = p).map Prod.snd

theorem fedTo_concat (fed : List (PeerId × Inbound)) (p q : PeerId) (i : Inbound) :
    fedTo (fed ++ [(p, i)]) q = fedTo fed q ++ if q = p then [i] else [] :=
  map_snd_filter_concat fed p q i

/-- What the relay sends comes to the inbox of a peer from which the connector reads, or nowhere. -/
theorem feed_cases (h : Handler σ) (c : Channel σ) (p : PeerId) (i : Inbound) :
    (∃ peer, c.peers[p]? = some peer ∧ peer.reading = true ∧ peer.dropped = false ∧
      c.feed h p i = (true,
        (c.modifyPeer p fun peer => { peer with inbox := peer.inbox ++ [i] }).settle h)) ∨
    c.feed h p i = (false, c) := by
  unfold feed
  split
  · exact .inr rfl
  · rename_i peer hp
    split
    · rename_i hread
      simp only [Bool.and_eq_true, Bool.not_eq_true'] at hread
      exact .inl ⟨peer, hp, hread.1, hread.2, rfl⟩
    · exact .inr rfl

/-- What the relay sends in a step, if the connector will read it. -/
def fedBy (h : Handler σ) (c : Channel σ) : Step → List (PeerId × Inbound)
  | .feed p i => if (c.feed h p i).1 then [(p, i)] else []
  | _ => []

/-- What the relay sends in a sequence of steps, as far as the connector will read it. -/
def fedIn (h : Handler σ) : Channel σ → List Step → List (PeerId × Inbound)
  | _, [] => []
  | c, s :: steps => c.fedBy h s ++ fedIn h (c.act h s) steps

/-- A channel is as its log says: its handler, its deliveries and, beside what callers sent, what its
links took. What the relay has sent on a connection is what the log has read there, and then the inbox;
where there is no connection yet, nothing has been read. -/
structure Logged (h : Handler σ) (s : σ) (w : List (LinkId × Message))
    (fed : List (PeerId × Inbound)) (c : Channel σ) (log : List Deed) : Prop where
  handler : c.handler = (heedAll h s log).1
  delivered : c.delivered = log.filterMap Deed.delivery?
  taken : ∀ k, Woven (sentOn w k) (sentOn (heedAll h s log).2 k) (c.takenOn k)
  read : ∀ k p, c.linked[k]? = some p → fedTo fed p = readOn log k ++ c.inboxOf p
  unread : ∀ p, p ∉ c.linked → fedTo fed p = c.inboxOf p
  unmade : ∀ k, c.linked.length ≤ k → readOn log k = []

variable {s : σ} {w : List (LinkId × Message)} {fed : List (PeerId × Inbound)} {log : List Deed}

@[simp] theorem sentOn_append (v w : List (LinkId × Message)) (k : LinkId) :
    sentOn (v ++ w) k = sentOn v k ++ sentOn w k := by
  simp [sentOn]

@[simp] theorem readOn_append (log deeds : List Deed) (k : LinkId) :
    readOn (log ++ deeds) k = readOn log k ++ readOn deeds k := List.filterMap_append

/-- What a channel does goes on its log. -/
theorem Logged.does (hl : Logged h s w fed c log) {deeds : List Deed} (hd : Does h c c' deeds) :
    Logged h s w fed c' (log ++ deeds) := by
  have hheed := heedAll_append (h := h) s log deeds
  rw [← hl.handler] at hheed
  have hlen : c.linked.length ≤ c'.linked.length := by
    rcases hd.linked with hsame | ⟨p, -, hnew⟩
    · exact Nat.le_of_eq (congrArg _ hsame.symm)
    · simp [hnew]
  refine ⟨?_, ?_, fun k => ?_, fun k p hk => ?_, fun p hp => ?_, fun k hk => ?_⟩
  · rw [hheed]
    exact hd.handler
  · rw [List.filterMap_append, ← hl.delivered]
    exact hd.delivered
  · rw [hheed, sentOn_append, hd.taken k]
    exact (hl.taken k).append_right _
  · have hold : c.linked[k]? = some p → fedTo fed p = readOn (log ++ deeds) k ++ c'.inboxOf p := by
      intro hk
      rw [readOn_append, List.append_assoc, ← hd.read k p hk]
      exact hl.read k p hk
    rcases hd.linked with hsame | ⟨q, hq, hnew⟩
    · exact hold (hsame ▸ hk)
    · rw [hnew] at hk
      rcases getElem?_concat_cases hk with hk | ⟨rfl, rfl⟩
      · exact hold hk
      · -- on the connection that is made now nothing has been read
        rw [readOn_append, hl.unmade _ (Nat.le_refl _), hd.unmade _ (Nat.le_refl _), hd.unread p hq]
        exact hl.unread p hq
  · have hp : p ∉ c.linked := fun hm => hp <| by
      rcases hd.linked with hsame | ⟨q, -, hnew⟩
      · exact hsame ▸ hm
      · exact hnew ▸ List.mem_append_left _ hm
    rw [hd.unread p hp]
    exact hl.unread p hp
  · have hk := Nat.le_trans hlen hk
    rw [readOn_append, hl.unmade k hk, hd.unmade k hk]
    rfl

theorem Logged.take (hl : Logged h s w fed c log) (ho : c.isOpen k = true) (m : Message) :
    Logged h s (w ++ [(k, m)]) fed (c.take k [m]) log := by
  have hlinked : (c.take k [m]).linked = c.linked := linked_of_modify rfl fun _ => rfl
  refine ⟨hl.handler, hl.delivered, fun j => ?_, ?_, ?_, ?_⟩
  · rw [take_takes (lt_of_isOpen ho) [m] j, sentOn_concat]
    exact (hl.taken j).append_left _
  all_goals rw [hlinked]
  · exact hl.read
  · exact hl.unread
  · exact hl.unmade

theorem Logged.feed (hl : Logged h s w fed c log) {p : PeerId} (hp : c.peers[p]? = some peer)
    (i : Inbound) : Logged h s w (fed ++ [(p, i)])
      (c.modifyPeer p fun peer => { peer with inbox := peer.inbox ++ [i] }) log := by
  have hinbox : ∀ q, (c.modifyPeer p fun peer => { peer with inbox := peer.inbox ++ [i] }).inboxOf q =
      c.inboxOf q ++ if q = p then [i] else [] := by
    intro q
    simp only [inboxOf, modifyPeer, List.getElem?_modify]
    by_cases hq : q = p
    · simp [hq, hp]
    · cases c.peers[q]? <;> simp [hq, Ne.symm hq]
  refine ⟨hl.handler, hl.delivered, hl.taken, fun k q hk => ?_, fun q hq => ?_, hl.unmade⟩
  · rw [fedTo_concat, hinbox, ← List.append_assoc, ← hl.read k q hk]
  · rw [fedTo_concat, hinbox, ← hl.unread q hq]

theorem Touch.does (ht : Touch h c c') (hi : ∀ p, c'.inboxOf p = c.inboxOf p) : Does h c c' [] := by
  cases ht <;> exact .nothing rfl rfl (fun _ => rfl) hi (.inl rfl)

@[simp] theorem inboxOf_acceptNext (c : Channel σ) (p : PeerId) :
    c.acceptNext.2.inboxOf p = c.inboxOf p := by
  simp only [inboxOf, acceptNext]
  rcases Nat.lt_trichotomy p c.peers.length with hp | rfl | hp
  · rw [List.getElem?_append_left hp]
  · simp
  · rw [List.getElem?_eq_none (by simpa using Nat.succ_le_of_lt hp),
      List.getElem?_eq_none (Nat.le_of_lt hp)]

theorem new_logged (config : ChannelConfig) (credentials : Credentials) (s : σ) (h : Handler σ) :
    Logged h s [] [] (Channel.new config credentials s) [] :=
  ⟨rfl, rfl, fun _ => .nil, nofun, fun _ _ => rfl, fun _ _ => rfl⟩

end Tunnel.Channel
