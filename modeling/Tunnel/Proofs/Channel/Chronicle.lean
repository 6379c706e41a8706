import Tunnel.Proofs.Channel.Log

/-!
# The events of a channel

Every state that a channel comes to has a log of what happened to its connections, each with its time.
With what callers and the relay have sent, the log accounts for all messages. A log can be read at each
of its events: the channel was in a state in which the event could happen, to which what the log says
before it had led.
-/
namespace Tunnel.Channel

variable {σ : Type} {h : Handler σ} {b c c' : Channel σ} {k : LinkId} {w : List (LinkId × Message)}
  {fed : List (PeerId × Inbound)} {log before after : List (Nat × Event)} {t : Nat} {e : Event}

/-- A sequence of moves, touches and messages that callers send, with the messages that were taken, with
what the relay sent, and with what happened to connections, at which times. -/
inductive Course (h : Handler σ) (c : Channel σ) : List (LinkId × Message) →
    List (PeerId × Inbound) → List (Nat × Event) → Channel σ → Prop where
  | refl : Course h c [] [] [] c
  | event {w : List (LinkId × Message)} {fed : List (PeerId × Inbound)} {log : List (Nat × Event)}
    {d c' : Channel σ} {e : Event} (hd : Course h c w fed log d) (he : Happens h d e c') :
    Course h c w fed (log ++ [(d.now, e)]) c'
  | aside {w : List (LinkId × Message)} {fed : List (PeerId × Inbound)} {log : List (Nat × Event)}
    {d c' : Channel σ} (hd : Course h c w fed log d) (ha : Aside h d c') : Course h c w fed log c'
  | touch {w : List (LinkId × Message)} {fed : List (PeerId × Inbound)} {log : List (Nat × Event)}
    {d c' : Channel σ} (hd : Course h c w fed log d) (ht : Touch h d c')
    (hi : ∀ p, c'.inboxOf p = d.inboxOf p) : Course h c w fed log c'
  | feed {w : List (LinkId × Message)} {fed : List (PeerId × Inbound)} {log : List (Nat × Event)}
    {d : Channel σ} (hd : Course h c w fed log d) {p : PeerId} {peer : Peer} (i : Inbound)
    (hp : d.peers[p]? = some peer) (hr : peer.reading = true) (hthere : peer.dropped = false) :
    Course h c w (fed ++ [(p, i)]) log
      (d.modifyPeer p fun peer => { peer with inbox := peer.inbox ++ [i] })
  | send {w : List (LinkId × Message)} {fed : List (PeerId × Inbound)} {log : List (Nat × Event)}
    {d : Channel σ} (hd : Course h c w fed log d) {k : LinkId} (m : Message)
    (ho : d.isOpen k = true) : Course h c (w ++ [(k, m)]) fed log (d.take k [m])

theorem Course.path (hc : c.Coherent) (hd : Course h c w fed log c') : Path h c w c' := by
  induction hd with
  | refl => exact .refl
  | event _ he ih => exact ih.move (he.move (hc.path ih))
  | aside _ ha ih => exact ih.move ha.move
  | touch _ ht _ ih => exact ih.touch ht
  | feed _ i hp hr hthere ih => exact ih.touch (.feed i hp hr hthere)
  | send _ m ho ih => exact ih.send m ho

def Charted (h : Handler σ) (b : Channel σ) (w : List (LinkId × Message))
    (fed : List (PeerId × Inbound)) (c : Channel σ) : Prop :=
  ∃ log, Course h b w fed log c

theorem Charted.move (hc : Charted h b w fed c) (hm : Move h c c') : Charted h b w fed c' := by
  obtain ⟨log, hlog⟩ := hc
  rcases hm.cases with ⟨e, he⟩ | ha
  · exact ⟨_, hlog.event he⟩
  · exact ⟨log, hlog.aside ha⟩

theorem Charted.touch (hc : Charted h b w fed c) (ht : Touch h c c')
    (hi : ∀ p, c'.inboxOf p = c.inboxOf p) : Charted h b w fed c' := by
  obtain ⟨log, hlog⟩ := hc
  exact ⟨log, hlog.touch ht hi⟩

/-- Every path is a course, if it is said what the relay sent on it. -/
theorem Path.charted (hp : Path h c w c') : ∃ fed, Charted h c w fed c' := by
  induction hp with
  | refl => exact ⟨[], [], .refl⟩
  | move _ hm ih =>
    obtain ⟨fed, hfed⟩ := ih
    exact ⟨fed, hfed.move hm⟩
  | touch _ ht ih =>
    obtain ⟨fed, log, hlog⟩ := ih
    cases ht with
    | feed i hp hr hthere => exact ⟨_, log, hlog.feed i hp hr hthere⟩
    | dropPeer p => exact ⟨fed, log, hlog.touch (.dropPeer p) (inboxOf_of_modify rfl fun _ => rfl)⟩
    | acceptNext => exact ⟨fed, log, hlog.touch .acceptNext (inboxOf_acceptNext _)⟩
    | connect hp => exact ⟨fed, log, hlog.touch (.connect hp) fun _ => rfl⟩
    | pass hs hn hd => exact ⟨fed, log, hlog.touch (.pass hs hn hd) fun _ => rfl⟩
    | close => exact ⟨fed, log, hlog.touch .close fun _ => rfl⟩
    | join => exact ⟨fed, log, hlog.touch .join fun _ => rfl⟩
    | refuseNext => exact ⟨fed, log, hlog.touch .refuseNext fun _ => rfl⟩
  | send _ m ho ih =>
    obtain ⟨fed, log, hlog⟩ := ih
    exact ⟨fed, log, hlog.send m ho⟩

theorem Charted.settle (hc : Charted h b w fed c) : Charted h b w fed (c.settle h) :=
  settle_keeps Charted.move hc

theorem Charted.elapse (hc : Charted h b w fed c) (halt : Bool) (target : Nat) :
    Charted h b w fed (c.elapse h halt target) :=
  elapse_keeps Charted.move (fun hc hs hn hdue => hc.touch (.pass hs hn hdue) fun _ => rfl) halt
    target hc

theorem Charted.join (hc : Charted h b w fed c) (span : Nat) :
    Charted h b w fed (c.join h span).2 := by
  have hj : Charted h b w fed { c with joined := true } := hc.touch .join fun _ => rfl
  unfold Channel.join
  simp only
  split_ifs
  · exact hc
  · exact hj
  · exact hj.elapse ..
  · exact hj.elapse ..

theorem Charted.connect (hc : Charted h b w fed c) : Charted h b w fed (c.connect h).2 := by
  unfold Channel.connect
  split
  · exact hc
  · split
    · rename_i hp
      exact (hc.touch (.connect hp) fun _ => rfl).settle
    · exact hc

theorem Charted.feed (hc : Charted h b w fed c) (p : PeerId) (i : Inbound) :
    Charted h b w (fed ++ c.fedBy h (.feed p i)) (c.feed h p i).2 := by
  rw [fedBy]
  rcases feed_cases h c p i with ⟨peer, hp, hread, hthere, hfeed⟩ | hfeed
  · obtain ⟨log, hlog⟩ := hc
    simp only [hfeed, if_true]
    exact Charted.settle ⟨log, hlog.feed i hp hread hthere⟩
  · simp only [hfeed, Bool.false_eq_true, if_false, List.append_nil]
    exact hc

theorem Charted.sendThrough (hc : Charted h b w fed c) (k : LinkId) (m : Message) :
    Charted h b (w ++ if (c.sendThrough h k m).1 then [(k, m)] else []) fed
      (c.sendThrough h k m).2 := by
  unfold Channel.sendThrough
  cases ho : c.isOpen k with
  | true =>
    obtain ⟨log, hlog⟩ := hc
    simp only [sendOn_of_isOpen ho, if_true]
    exact Charted.settle ⟨log, hlog.send m ho⟩
  | false =>
    simp only [sendOn_of_not_isOpen ho, Bool.false_eq_true, if_false, List.append_nil]
    exact hc.settle

theorem Charted.send (hc : Charted h b w fed c) (m : Message) :
    Charted h b (w ++ c.granted h (.send m)) fed (c.send h m).2 := by
  unfold granted Channel.send
  cases c.current with
  | none =>
    simp only [Bool.false_eq_true, if_false, List.append_nil]
    exact hc
  | some k =>
    by_cases hs : c.state.current = .connected
    · simp only [if_pos hs]
      exact hc.sendThrough k m
    · simp only [if_neg hs, Bool.false_eq_true, if_false, List.append_nil]
      exact hc

/-- A step takes down what callers and the relay send in it. -/
theorem Charted.act (hc : Charted h b w fed c) (s : Step) :
    Charted h b (w ++ c.granted h s) (fed ++ c.fedBy h s) (c.act h s) := by
  have hquiet : ∀ {d : Channel σ}, Charted h b w fed d → Charted h b (w ++ []) (fed ++ []) d := by
    intro d hd
    rw [List.append_nil, List.append_nil]
    exact hd
  cases s with
  | connect => exact hquiet hc.connect
  | close => exact hquiet (hc.touch .close fun _ => rfl).settle
  | join span => exact hquiet (hc.join span)
  | advance span => exact hquiet (hc.elapse ..)
  | refuseNext => exact hquiet (hc.touch .refuseNext fun _ => rfl)
  | acceptNext => exact hquiet (hc.touch .acceptNext (inboxOf_acceptNext c))
  | feed p i =>
    change Charted h b (w ++ []) _ _
    rw [List.append_nil]
    exact hc.feed p i
  | dropPeer p =>
    exact hquiet (hc.touch (.dropPeer p) (inboxOf_of_modify rfl fun _ => rfl)).settle
  | send m =>
    change Charted h b _ (fed ++ []) _
    rw [List.append_nil]
    exact hc.send m
  | sendThrough k m =>
    change Charted h b _ (fed ++ []) _
    rw [List.append_nil]
    exact hc.sendThrough k m

theorem Charted.run (hc : Charted h b w fed c) (steps : List Step) :
    Charted h b (w ++ c.grantedIn h steps) (fed ++ c.fedIn h steps) (c.run h steps) := by
  induction steps generalizing c w fed with
  | nil =>
    rw [grantedIn, fedIn, List.append_nil, List.append_nil]
    exact hc
  | cons s steps ih =>
    rw [grantedIn, fedIn, ← List.append_assoc, ← List.append_assoc]
    exact ih (hc.act s)

/-- Every run has a log. -/
theorem run_course (c : Channel σ) (steps : List Step) :
    ∃ log, Course h c (c.grantedIn h steps) (c.fedIn h steps) log (c.run h steps) :=
  Charted.run ⟨[], .refl⟩ steps

/-- At each of its events a log says how the channel came to it and how it went on. -/
theorem Course.at_event (hd : Course h c w fed (before ++ (t, e) :: after) c') :
    ∃ v f d d', Course h c v f before d ∧ d.now = t ∧ Happens h d e d' ∧
      ∃ u g, Course h d' u g after c' := by
  generalize hlog : before ++ (t, e) :: after = log at hd
  induction hd generalizing after with
  | refl => simp at hlog
  | @event w fed log d c' e' hd he ih =>
    rcases append_cons_concat_cases hlog with ⟨rfl, rfl, hlast⟩ | ⟨rest, rfl, hinit⟩
    · -- the event is the last one
      obtain ⟨rfl, rfl⟩ := Prod.mk.inj hlast
      exact ⟨_, _, d, c', hd, rfl, he, _, _, .refl⟩
    · obtain ⟨v, f, b, b', hv, hnow, hb, u, g, hu⟩ := ih hinit
      exact ⟨v, f, b, b', hv, hnow, hb, u, g, hu.event he⟩
  | aside _ ha ih =>
    obtain ⟨v, f, b, b', hv, hnow, hb, u, g, hu⟩ := ih hlog
    exact ⟨v, f, b, b', hv, hnow, hb, u, g, hu.aside ha⟩
  | touch _ ht hi ih =>
    obtain ⟨v, f, b, b', hv, hnow, hb, u, g, hu⟩ := ih hlog
    exact ⟨v, f, b, b', hv, hnow, hb, u, g, hu.touch ht hi⟩
  | feed _ i hp hr hthere ih =>
    obtain ⟨v, f, b, b', hv, hnow, hb, u, g, hu⟩ := ih hlog
    exact ⟨v, f, b, b', hv, hnow, hb, u, _, hu.feed i hp hr hthere⟩
  | send _ m ho ih =>
    obtain ⟨v, f, b, b', hv, hnow, hb, u, g, hu⟩ := ih hlog
    exact ⟨v, f, b, b', hv, hnow, hb, _, g, hu.send m ho⟩

def deedsOf (log : List (Nat × Event)) : List Deed := log.filterMap fun x => x.2.deed?

theorem deedsOf_concat (log : List (Nat × Event)) (t : Nat) (e : Event) :
    deedsOf (log ++ [(t, e)]) = deedsOf log ++ e.deed?.toList := by
  rw [deedsOf, List.filterMap_append]
  cases he : e.deed? <;> simp [deedsOf, he]

/-- The log accounts for what the handler has become and for what links and inboxes hold. -/
theorem Course.logged {s : σ} (hc : c.Coherent) (hl : Logged h s [] [] c [])
    (hd : Course h c w fed log c') : Logged h s w fed c' (deedsOf log) := by
  induction hd with
  | refl => exact hl
  | event hd he ih =>
    rw [deedsOf_concat]
    exact ih.does (he.does (hc.path (hd.path hc)))
  | aside hd ha ih =>
    rw [← List.append_nil (deedsOf _)]
    exact ih.does (ha.does (hc.path (hd.path hc)))
  | touch _ ht hi ih =>
    rw [← List.append_nil (deedsOf _)]
    exact ih.does (ht.does hi)
  | feed _ i hp _ _ ih => exact ih.feed hp i
  | send _ m ho ih => exact ih.take ho m

end Tunnel.Channel
