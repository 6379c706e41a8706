import Mathlib.Data.List.Induction
import Tunnel.Health
import Tunnel.Proofs.Lists

/-!
# What a watcher learns

A publisher, others that save a pairing, and a watcher act in any order. What the watcher finds can
be told from what happened before: news if a state was published since there were news last, the end
if the publisher is gone and nothing is left to be seen, and otherwise nothing. So no last state is
lost, however many were published at once and however often the watcher looked without asking.
-/
namespace Tunnel.HealthReporter

inductive Operation where
  | publish (s : ConnectionState)
  | drop
  | save (u : PairingUpdate)
  | snapshot
  | isPaired
  | isConnected
  | poll

inductive Event where
  | published (s : ConnectionState)
  | unpublished
  | dropped
  | saved (r : Except StoreError Unit)
  | told (s : HealthSnapshot)
  | toldPaired (b : Bool)
  | toldConnected (b : Bool)
  | polled (p : Watch.Poll HealthSnapshot)

/-- An operation, and the reporter after it. A publisher that is gone publishes nothing. -/
def perform (h : HealthReporter) : Operation → Event × HealthReporter
  | .publish s => if h.watch.live then (.published s, h.publish s) else (.unpublished, h)
  | .drop => (.dropped, h.drop)
  | .save u => ((h.save u).map .saved id)
  | .snapshot => (.told h.snapshot, h)
  | .isPaired => (.toldPaired h.isPaired, h)
  | .isConnected => (.toldConnected h.isConnected, h)
  | .poll => (h.changed.map .polled id)

def events (h : HealthReporter) : List Operation → List Event
  | [] => []
  | op :: ops => (h.perform op).1 :: (h.perform op).2.events ops

def after (h : HealthReporter) (ops : List Operation) : HealthReporter :=
  ops.foldl (fun h op => (h.perform op).2) h

variable {h : HealthReporter} {initial : ConnectionState} {log : List Event} {e : Event}
  {w : Watch ConnectionState}

theorem after_concat (h : HealthReporter) (ops : List Operation) (op : Operation) :
    h.after (ops ++ [op]) = ((h.after ops).perform op).2 := by
  rw [after, List.foldl_append]
  rfl

theorem events_concat (h : HealthReporter) (ops : List Operation) (op : Operation) :
    h.events (ops ++ [op]) = h.events ops ++ [((h.after ops).perform op).1] := by
  induction ops generalizing h with
  | nil => rfl
  | cons o ops ih =>
    rw [List.cons_append, events, ih]
    rfl

/-- Every event is that of an operation, after the operations of the events before it. -/
theorem exists_of_events_eq {ops : List Operation} {before rest : List Event}
    (hlog : h.events ops = before ++ e :: rest) :
    ∃ first op, h.events first = before ∧ ((h.after first).perform op).1 = e := by
  induction before generalizing h ops with
  | nil =>
    cases ops with
    | nil => cases hlog
    | cons op ops => exact ⟨[], op, rfl, (List.cons.inj hlog).1⟩
  | cons b before ih =>
    cases ops with
    | nil => cases hlog
    | cons o ops =>
      obtain ⟨hb, htail⟩ := List.cons.inj hlog
      obtain ⟨first, op, hfirst, he⟩ := ih htail
      exact ⟨o :: first, op, by rw [events, hfirst, hb], he⟩

def Event.state? : Event → Option ConnectionState
  | .published s => some s
  | _ => none

def Event.isNews : Event → Bool
  | .polled (.changed _) => true
  | _ => false

def latest (initial : ConnectionState) (log : List Event) : ConnectionState :=
  (log.filterMap Event.state?).getLastD initial

/-- A state was published and there were no news since. -/
def Unseen (log : List Event) : Prop :=
  ∃ before s rest, log = before ++ .published s :: rest ∧ ∀ e ∈ rest, e.isNews = false

theorem latest_concat (initial : ConnectionState) (log : List Event) (e : Event) :
    latest initial (log ++ [e]) = e.state?.getD (latest initial log) := by
  unfold latest
  rw [List.filterMap_append]
  cases he : e.state? with
  | none => simp [he]
  | some s => simp [he]

/-- After a state comes this state, or a later one. -/
theorem latest_append_published {before rest : List Event} {s : ConnectionState}
    (hrest : ∀ t, .published t ∉ rest) :
    latest initial (before ++ .published s :: rest) = s := by
  have hnone : rest.filterMap Event.state? = [] := by
    rw [List.filterMap_eq_nil_iff]
    intro e he
    cases e with
    | published t => exact absurd he (hrest t)
    | _ => rfl
  simp [latest, List.filterMap_append, Event.state?, hnone]

theorem not_unseen_nil : ¬ Unseen [] := by
  rintro ⟨before, s, rest, hlog, -⟩
  cases List.append_eq_nil_iff.1 hlog.symm |>.2

/-- A state is left to be seen if it was published just now, or if there were no news of it just now. -/
theorem unseen_concat : Unseen (log ++ [e]) ↔
    (∃ s, e = .published s) ∨ Unseen log ∧ e.isNews = false := by
  constructor
  · rintro ⟨before, s, rest, hlog, hrest⟩
    rcases append_cons_concat_cases hlog.symm with ⟨-, -, rfl⟩ | ⟨rest, rfl, rfl⟩
    · exact .inl ⟨s, rfl⟩
    · rw [List.forall_mem_append] at hrest
      exact .inr ⟨⟨before, s, rest, rfl, hrest.1⟩, hrest.2 e (List.mem_singleton_self e)⟩
  · rintro (⟨s, rfl⟩ | ⟨⟨before, s, rest, rfl, hrest⟩, he⟩)
    · exact ⟨log, s, [], rfl, nofun⟩
    · refine ⟨before, s, rest ++ [e], by simp, ?_⟩
      rw [List.forall_mem_append]
      exact ⟨hrest, by simpa using he⟩

/-! ## What the watch says of them

A watch follows the events if its latest value, its mark of what is unseen and its publisher are what
the events say. Each operation keeps that.
-/

/-- A watch tells of the events that there were: the latest state, whether it was seen, and whether the
publisher is gone. -/
structure Follows (initial : ConnectionState) (log : List Event) (w : Watch ConnectionState) :
    Prop where
  current : w.current = latest initial log
  unseen : w.unseen = true ↔ Unseen log
  live : w.live = true ↔ .dropped ∉ log

theorem follows_new (initial : ConnectionState) : Follows initial [] (.new initial) where
  current := rfl
  unseen := by simp [Watch.new, not_unseen_nil]
  live := by simp [Watch.new]

namespace Follows

theorem publish (hw : Follows initial log w) (s : ConnectionState) :
    Follows initial (log ++ [.published s]) (w.publish s) where
  current := by simp [Watch.publish, latest_concat, Event.state?]
  unseen := by simp [Watch.publish, unseen_concat]
  live := by simpa [Watch.publish] using hw.live

theorem drop (hw : Follows initial log w) : Follows initial (log ++ [.dropped]) w.drop where
  current := by simpa [Watch.drop, latest_concat, Event.state?] using hw.current
  unseen := by simpa [Watch.drop, unseen_concat, Event.isNews] using hw.unseen
  live := by simp [Watch.drop]

/-- What is neither a publication nor news, and not the end of the publisher, is not told by the
watch. -/
theorem aside (hw : Follows initial log w) (hstate : e.state? = none) (hnews : e.isNews = false)
    (hdropped : e ≠ .dropped) : Follows initial (log ++ [e]) w where
  current := by rw [latest_concat, hstate, hw.current]; rfl
  unseen := by
    have hpublished : ¬ ∃ s, e = .published s := by
      rintro ⟨s, rfl⟩
      cases hstate
    rw [unseen_concat, hw.unseen]
    simp [hpublished, hnews]
  live := by simp [hw.live, hdropped.symm]

theorem news (hw : Follows initial log w) (t : HealthSnapshot) :
    Follows initial (log ++ [.polled (.changed t)]) { w with unseen := false } where
  current := by simpa [latest_concat, Event.state?] using hw.current
  unseen := by simp [unseen_concat, Event.isNews]
  live := by simpa using hw.live

end Follows

theorem changed_of_unseen (hunseen : h.watch.unseen = true) :
    h.changed = (.changed h.snapshot, { h with watch := { h.watch with unseen := false } }) := by
  simp only [changed, Watch.poll, hunseen, if_true]
  rfl

theorem changed_of_live (hunseen : h.watch.unseen = false) (hlive : h.watch.live = true) :
    h.changed = (.pending, h) := by
  simp [changed, Watch.poll, hunseen, hlive]

theorem changed_of_dropped (hunseen : h.watch.unseen = false) (hlive : h.watch.live = false) :
    h.changed = (.ended, h) := by
  simp [changed, Watch.poll, hunseen, hlive]

theorem Follows.perform (hw : Follows initial log h.watch) (op : Operation) :
    Follows initial (log ++ [(h.perform op).1]) (h.perform op).2.watch := by
  cases op with
  | publish s =>
    rw [HealthReporter.perform]
    split
    · exact hw.publish s
    · exact hw.aside rfl rfl nofun
  | drop => exact hw.drop
  | save u => exact hw.aside rfl rfl nofun
  | snapshot => exact hw.aside rfl rfl nofun
  | isPaired => exact hw.aside rfl rfl nofun
  | isConnected => exact hw.aside rfl rfl nofun
  | poll =>
    rw [HealthReporter.perform]
    cases hunseen : h.watch.unseen with
    | true =>
      rw [changed_of_unseen hunseen]
      exact hw.news _
    | false =>
      cases hlive : h.watch.live with
      | true =>
        rw [changed_of_live hunseen hlive]
        exact hw.aside rfl rfl nofun
      | false =>
        rw [changed_of_dropped hunseen hlive]
        exact hw.aside rfl rfl nofun

/-- After any operations the watch tells of the events that there were. -/
theorem follows_after (store : PairingStore) (initial : ConnectionState) (ops : List Operation) :
    Follows initial (events ⟨store, .new initial⟩ ops) (after ⟨store, .new initial⟩ ops).watch := by
  induction ops using List.reverseRecOn with
  | nil => exact follows_new initial
  | append_singleton ops op ih =>
    rw [events_concat, after_concat]
    exact ih.perform op

/-- What a poll finds is told by the events before it. -/
theorem Follows.changed_cases (hw : Follows initial log h.watch) :
    Unseen log ∧ h.changed.1 = .changed
        ⟨"UP", h.store.isPaired, decide (latest initial log = .connected)⟩ ∨
      ¬ Unseen log ∧ .dropped ∈ log ∧ h.changed.1 = .ended ∨
      ¬ Unseen log ∧ .dropped ∉ log ∧ h.changed.1 = .pending := by
  cases hunseen : h.watch.unseen with
  | true =>
    refine .inl ⟨hw.unseen.1 hunseen, ?_⟩
    rw [changed_of_unseen hunseen, ← hw.current]
    rfl
  | false =>
    have hseen : ¬ Unseen log := by simp [← hw.unseen, hunseen]
    cases hlive : h.watch.live with
    | true =>
      refine .inr (.inr ⟨hseen, hw.live.1 hlive, ?_⟩)
      rw [changed_of_live hunseen hlive]
    | false =>
      have hdropped : .dropped ∈ log := by
        by_contra hnot
        rw [hw.live.2 hnot] at hlive
        cases hlive
      refine .inr (.inl ⟨hseen, hdropped, ?_⟩)
      rw [changed_of_dropped hunseen hlive]

namespace Follows

theorem changed_eq_changed (hw : Follows initial log h.watch) {s : HealthSnapshot} :
    h.changed.1 = .changed s ↔ Unseen log ∧
      s = ⟨"UP", h.store.isPaired, decide (latest initial log = .connected)⟩ := by
  rcases hw.changed_cases with ⟨hunseen, hf⟩ | ⟨hseen, -, hf⟩ | ⟨hseen, -, hf⟩
  · rw [hf, Watch.Poll.changed.injEq, eq_comm]
    simp [hunseen]
  · simp [hf, hseen]
  · simp [hf, hseen]

theorem changed_eq_ended (hw : Follows initial log h.watch) :
    h.changed.1 = .ended ↔ .dropped ∈ log ∧ ¬ Unseen log := by
  rcases hw.changed_cases with ⟨hunseen, hf⟩ | ⟨hseen, hdropped, hf⟩ | ⟨-, hlive, hf⟩
  · simp [hf, hunseen]
  · simp [hf, hseen, hdropped]
  · simp [hf, hlive]

theorem changed_eq_pending (hw : Follows initial log h.watch) :
    h.changed.1 = .pending ↔ .dropped ∉ log ∧ ¬ Unseen log := by
  rcases hw.changed_cases with ⟨hunseen, hf⟩ | ⟨-, hdropped, hf⟩ | ⟨hseen, hlive, hf⟩
  · simp [hf, hunseen]
  · simp [hf, hdropped]
  · simp [hf, hseen, hlive]

end Follows

/-- A state that came after the last news is left to be seen. -/
theorem exists_news_of_not_unseen {before rest : List Event} {s : ConnectionState}
    (hseen : ¬ Unseen (before ++ .published s :: rest)) :
    ∃ mid t last, rest = mid ++ .polled (.changed t) :: last := by
  have hnews : ∃ e ∈ rest, e.isNews = true := by
    by_contra hnone
    exact hseen ⟨before, s, rest, rfl, by simpa using hnone⟩
  obtain ⟨e, he, hnews⟩ := hnews
  obtain ⟨mid, last, rfl⟩ := List.append_of_mem he
  match e, hnews with
  | .polled (.changed t), _ => exact ⟨mid, t, last, rfl⟩

/-- News are what a poll found, after the operations of the events before it. -/
theorem exists_of_news {ops : List Operation} {before rest : List Event} {t : HealthSnapshot}
    (hlog : h.events ops = before ++ .polled (.changed t) :: rest) :
    ∃ first, h.events first = before ∧ (h.after first).changed.1 = .changed t := by
  obtain ⟨first, op, hfirst, hop⟩ := exists_of_events_eq hlog
  refine ⟨first, hfirst, ?_⟩
  cases op with
  | poll => exact Event.polled.inj hop
  | publish s =>
    rw [perform] at hop
    split at hop <;> cases hop
  | _ => cases hop

/-! ## Saves and looks

Saves change the store and looks change nothing. Neither is news, so what the watcher is told next does
not depend on them but for the pairing in it.
-/

/-- The store that an operation leaves. Only saves change it. -/
def Operation.keep (store : PairingStore) : Operation → PairingStore
  | .save u => (store.save u).2
  | _ => store

theorem store_after (h : HealthReporter) (ops : List Operation) :
    (h.after ops).store = ops.foldl Operation.keep h.store := by
  have hstep (op : Operation) (h : HealthReporter) : (h.perform op).2.store = op.keep h.store := by
    cases op with
    | publish s =>
      rw [perform]
      split <;> rfl
    | poll =>
      change h.changed.2.store = h.store
      unfold changed
      simp only
      split <;> rfl
    | _ => rfl
  induction ops generalizing h with
  | nil => rfl
  | cons op ops ih =>
    rw [after, List.foldl_cons, List.foldl_cons, ← hstep]
    exact ih _

def Operation.isLook : Operation → Bool
  | .snapshot | .isPaired | .isConnected => true
  | _ => false

def Event.isTold : Event → Bool
  | .told _ | .toldPaired _ | .toldConnected _ => true
  | _ => false

/-- A look is told, and leaves everything as it was. -/
theorem perform_of_isLook {op : Operation} (hop : op.isLook = true) :
    (h.perform op).1.isTold = true ∧ (h.perform op).2 = h := by
  cases op with
  | snapshot | isPaired | isConnected => exact ⟨rfl, rfl⟩
  | _ => cases hop

theorem isTold_perform {op : Operation} (hop : op.isLook = false) :
    (h.perform op).1.isTold = false := by
  cases op with
  | publish s =>
    rw [perform]
    split <;> rfl
  | snapshot | isPaired | isConnected => cases hop
  | _ => rfl

/-- Without the looks everything else happens as it does with them. -/
theorem events_filter_isLook (h : HealthReporter) (ops : List Operation) :
    h.events (ops.filter fun op => !op.isLook) = (h.events ops).filter fun e => !e.isTold := by
  induction ops generalizing h with
  | nil => rfl
  | cons op ops ih =>
    cases hop : op.isLook with
    | true =>
      obtain ⟨htold, hsame⟩ := perform_of_isLook (h := h) hop
      rw [List.filter_cons_of_neg (by simp [hop]), events, List.filter_cons_of_neg (by simp [htold]),
        hsame, ih]
    | false =>
      have htold := isTold_perform (h := h) hop
      rw [List.filter_cons_of_pos (by simp [hop]), events, events,
        List.filter_cons_of_pos (by simp [htold]), ih]

/-- After any operations a poll finds the latest state, and the pairing that is kept by then, if a state
was published since the last news; it finds the end if the publisher is gone and no state is left to be
seen, and otherwise nothing yet. Looks take nothing away from it, and when the end is found the state
that was published last was among the news. -/
theorem changed_tells (store : PairingStore) (initial : ConnectionState) (ops : List Operation) :
    let start : HealthReporter := ⟨store, .new initial⟩
    let log := start.events ops
    let found := (start.after ops).changed.1
    (∀ s, found = .changed s ↔ Unseen log ∧ s = ⟨"UP", (ops.foldl Operation.keep store).isPaired,
      decide (latest initial log = .connected)⟩) ∧
    (found = .ended ↔ .dropped ∈ log ∧ ¬ Unseen log) ∧
    (found = .pending ↔ .dropped ∉ log ∧ ¬ Unseen log) ∧
    start.events (ops.filter fun op => !op.isLook) = log.filter (fun e => !e.isTold) ∧
    ∀ before s rest, log = before ++ .published s :: rest → (∀ t, .published t ∉ rest) →
      found = .ended → ∃ mid t last, rest = mid ++ .polled (.changed t) :: last ∧
        t.connected = decide (s = .connected) := by
  intro start log found
  have hw : Follows initial log (start.after ops).watch := follows_after store initial ops
  have hstore : (start.after ops).store = ops.foldl Operation.keep store := store_after start ops
  refine ⟨fun s => ?_, hw.changed_eq_ended, hw.changed_eq_pending, events_filter_isLook start ops, ?_⟩
  · rw [← hstore]
    exact hw.changed_eq_changed
  · intro before s rest hlog hlast hended
    have hseen : ¬ Unseen log := (hw.changed_eq_ended.1 hended).2
    rw [hlog] at hseen
    obtain ⟨mid, t, last, rfl⟩ := exists_news_of_not_unseen hseen
    -- The news came at a poll of their own, and no other state was published by then.
    have hsplit : start.events ops =
        (before ++ .published s :: mid) ++ .polled (.changed t) :: last := by
      rw [List.append_assoc]
      exact hlog
    obtain ⟨first, hfirst, ht⟩ := exists_of_news hsplit
    have hpoll := ((follows_after store initial first).changed_eq_changed.1 ht).2
    have hlatest : latest initial (start.events first) = s := by
      rw [hfirst]
      exact latest_append_published fun u hu => hlast u (List.mem_append_left _ hu)
    refine ⟨mid, t, last, rfl, ?_⟩
    rw [hpoll]
    exact congrArg (fun u => decide (u = .connected)) hlatest

def waiting : HealthReporter :=
  ⟨.memory ⟨"wss://relay.example.com", "t0k"⟩, .new .disconnected⟩

def hurried : List Operation :=
  [.publish .connecting, .publish .connected, .drop, .snapshot, .poll]

/-- One poll shows the second state, and the next finds the end. -/
theorem changed_tells_hurried : (waiting.after hurried).changed.1 = .ended ∧
    ∃ mid t last, [Event.dropped, .told ⟨"UP", true, true⟩, .polled (.changed ⟨"UP", true, true⟩)] =
      mid ++ .polled (.changed t) :: last ∧ t.connected = true := by
  have hended : (waiting.after hurried).changed.1 = .ended := by decide
  obtain ⟨-, -, -, -, hshown⟩ := changed_tells waiting.store .disconnected hurried
  refine ⟨hended, hshown [.published .connecting] .connected _ rfl ?_ hended⟩
  simp

end Tunnel.HealthReporter
