import Mathlib.Data.List.Basic
import Tunnel.Proofs.Dispatch.Lasting

/-!
# Requests beyond the limit

Where requests are turned away, a task has a permit from the moment its request is accepted until it
ends. So a request is turned away just when as many are under way as there are permits, and all that
comes of it is a message for its own link. A request that is accepted starts with the first turn of
its task, once, unless the task is aborted before that.
-/
namespace Tunnel

namespace Dispatcher

variable {ended : LinkId → Bool} {d d' : Dispatcher} {i : TaskId} {t : Task} {limit n : Nat}
  {e : Board.Event}

/-- How many accepted requests have tasks that have not ended. -/
def live (d : Dispatcher) : Nat := d.tasks.countP fun t => t.phase ≠ .ended

/-- Where requests are turned away, nobody who has not ended is without a permit. -/
theorem Balanced.held_eq_live (hb : d.Balanced limit) (hu : d.Unqueued) (hr : d.rejects = true) :
    d.held = d.live := by
  refine List.countP_congr fun t ht => ?_
  rw [Task.holds]
  cases hp : t.phase with
  | accepted => simp [hb.accepted t ht hp, hr]
  | waiting => exact absurd hp (hu.waiting t ht)
  | running => simp [hb.running t ht hp]
  | ended => simp

theorem Balanced.admits_eq_false_iff (hb : d.Balanced limit) (hu : d.Unqueued)
    (hr : d.rejects = true) : d.admits = false ↔ d.live = limit := by
  have htotal := hb.total
  rw [hb.held_eq_live hu hr] at htotal
  simp only [admits, hr, Bool.not_true, Bool.false_or, decide_eq_false_iff_not]
  omega

theorem rejects_change (hch : Board.Change ended d e d') : d'.rejects = d.rejects := by
  obtain ⟨hlimit, hpolicy⟩ := change_settings hch
  rw [rejects, rejects, hlimit, hpolicy]

/-- Where requests do not wait, the first turn of a task is its start. -/
theorem turn_of_accepted (hq : d.queues = false) (ht : d.tasks[i]? = some t)
    (hp : t.phase = .accepted) (linkFirst : Bool) : d.turn ended i linkFirst = d.start i := by
  simp [turn, ht, hp, hq]

def Awaited (i : TaskId) (d : Dispatcher) : Prop :=
  i ∉ d.runs ∧ ∃ t, d.tasks[i]? = some t ∧ t.phase = .accepted

/-- A task that runs or has ended, and how often it has started. -/
def Ran (n : Nat) (i : TaskId) (d : Dispatcher) : Prop :=
  d.runs.count i = n ∧ ∃ t, d.tasks[i]? = some t ∧ t.phase.unstarted = false

/-- A task that has started, or has ended without a start, does not start again. -/
theorem Ran.change (hr : d.Ran n i) (hch : Board.Change ended d e d') : d'.Ran n i := by
  obtain ⟨hcount, t, ht, hu⟩ := id hr
  have hretire (k : TaskId) : (d.retire k).Ran n i :=
    ⟨by rw [retire_runs, hcount], (puts_retire d k).started rfl ⟨t, ht, hu⟩⟩
  cases hch with
  | stay => exact hr
  | accept =>
    exact ⟨hcount, t, (List.getElem?_append_left (List.getElem?_eq_some_iff.1 ht).1).trans ht, hu⟩
  | finish => exact hretire _
  | abort => exact hretire _
  | @move k linkFirst _ hm =>
    refine ⟨?_, hm.started ⟨t, ht, hu⟩⟩
    obtain ⟨⟨t₀, ht₀, hu₀⟩, hput⟩ := hm.puts
    -- who makes a move has yet to start, so it is another task
    have hki : k ≠ i := by
      rintro rfl
      rw [Option.some.inj (ht₀.symm.trans ht), hu] at hu₀
      cases hu₀
    rcases hput with ⟨-, hruns, -⟩ | ⟨-, hruns⟩ | ⟨-, hruns, -⟩
    · rw [hruns, List.count_append, hcount, List.count_singleton, if_neg (by simpa using hki)]
      rfl
    · rw [hruns, hcount]
    · rw [hruns, hcount]

theorem Awaited.start (ha : d.Awaited i) : (d.start i).Ran 1 i := by
  obtain ⟨hr, t, ht, -⟩ := ha
  obtain ⟨t', ht', hph⟩ := (puts_start d i).self ht
  refine ⟨?_, t', ht', hph ▸ rfl⟩
  change (d.runs ++ [i]).count i = 1
  rw [List.count_append, List.count_eq_zero.2 hr, List.count_singleton_self]

theorem Awaited.retire (ha : d.Awaited i) : (d.retire i).Ran 0 i := by
  obtain ⟨hr, t, ht, -⟩ := ha
  obtain ⟨t', ht', hph⟩ := (puts_retire d i).self ht
  exact ⟨by rw [retire_runs, List.count_eq_zero.2 hr], t', ht', hph ▸ rfl⟩

theorem accept_awaited (hr : d.Started) (r : Request) (l : LinkId) :
    (d.accept r l).Awaited d.tasks.length := by
  refine ⟨fun hi => ?_, _, accept_new d r l, rfl⟩
  obtain ⟨t, ht, -⟩ := hr _ hi
  exact Nat.lt_irrefl _ (List.getElem?_eq_some_iff.1 ht).1

/-- Requests and their links stay, and more are added. -/
theorem requests_change (hch : Board.Change ended d e d') : d.requests <+: d'.requests := by
  cases hch with
  | stay => exact List.prefix_refl _
  | accept => exact accept_requests d _ _ ▸ List.prefix_append _ _
  | finish => exact (puts_retire d _).requests ▸ List.prefix_refl _
  | abort => exact (puts_retire d _).requests ▸ List.prefix_refl _
  | move hm => exact hm.requests ▸ List.prefix_refl _

end Dispatcher

namespace Board

variable {b : Board} {i : TaskId} {l : LinkId}

def Event.isTurn (i : TaskId) : Event → Bool
  | .turn j _ => j = i
  | .act _ => false

def hasTurn (i : TaskId) : List Event → Bool
  | [] => false
  | e :: events => e.isTurn i || (e ≠ .act (.abort i) && hasTurn i events)

/-- Nothing but its own turn or an abort does anything to a task that is yet to start. -/
theorem awaited_apply (ha : b.dispatcher.Awaited i) {e : Event} (ht : e.isTurn i = false)
    (hne : e ≠ .act (.abort i)) : (b.apply e).dispatcher.Awaited i := by
  obtain ⟨hr, t, hti, hp⟩ := id ha
  have hch := b.apply_change e
  revert hch
  generalize (b.apply e).dispatcher = d'
  intro hch
  have hput : ∀ {k p}, k ≠ i → Dispatcher.Puts b.dispatcher d' k p →
      ∃ t, d'.tasks[i]? = some t ∧ t.phase = .accepted := fun {k p} hki hput => by
    obtain ⟨t', ht', hph⟩ := hput.other hki hti
    exact ⟨t', ht', hph.trans hp⟩
  cases hch with
  | stay => exact ha
  | accept =>
    exact ⟨hr, t, (List.getElem?_append_left (List.getElem?_eq_some_iff.1 hti).1).trans hti, hp⟩
  | @finish run k t₀ hrun =>
    have hki : k ≠ i := by
      rintro rfl
      exact hr (List.mem_of_getElem? (Dispatcher.liveRun?_eq_some.1 hrun).1)
    exact ⟨by simpa, hput hki (Dispatcher.puts_retire _ k)⟩
  | @abort k =>
    have hki : k ≠ i := fun hki => hne (by rw [hki])
    exact ⟨by simpa, hput hki (Dispatcher.puts_retire _ k)⟩
  | @move k linkFirst _ hm =>
    have hki : k ≠ i := by simpa [Event.isTurn] using ht
    rcases hm.puts.2 with ⟨hp, hruns, -⟩ | ⟨hp, hruns⟩ | ⟨hp, hruns, -⟩
    · refine ⟨?_, hput hki hp⟩
      rw [hruns, List.mem_append, List.mem_singleton]
      exact fun h => h.elim hr (Ne.symm hki)
    · exact ⟨hruns ▸ hr, hput hki hp⟩
    · exact ⟨hruns ▸ hr, hput hki hp⟩

/-- Where requests do not wait, a task that is yet to start does so once if it has a turn before it is
aborted, and otherwise never; without either it goes on to wait for its turn. -/
theorem awaited_after (ha : b.dispatcher.Awaited i) (hu : b.dispatcher.Unqueued)
    (events : List Event) :
    (b.after events).dispatcher.runs.count i = (hasTurn i events).toNat ∧
      (hasTurn i events = false → .act (.abort i) ∉ events →
        (b.after events).dispatcher.Awaited i) := by
  induction events generalizing b with
  | nil => exact ⟨List.count_eq_zero.2 ha.1, fun _ _ => ha⟩
  | cons e events ih =>
    have hran {n : Nat} (hr : (b.apply e).dispatcher.Ran n i) :
        (b.after (e :: events)).dispatcher.Ran n i :=
      after_keeps (P := Dispatcher.Ran n i) Dispatcher.Ran.change events (b.apply e) hr
    cases ht : e.isTurn i with
    | true =>
      obtain ⟨linkFirst, rfl⟩ : ∃ linkFirst, e = .turn i linkFirst := by
        cases e with
        | act s => cases ht
        | turn j linkFirst => exact ⟨linkFirst, by rw [of_decide_eq_true ht]⟩
      obtain ⟨-, t, hti, hp⟩ := id ha
      have hstart : (b.apply (.turn i linkFirst)).dispatcher = b.dispatcher.start i :=
        Dispatcher.turn_of_accepted hu.queues hti hp linkFirst
      refine ⟨?_, fun h => ?_⟩
      · rw [(hran (hstart ▸ ha.start)).1, hasTurn, ht]
        rfl
      · rw [hasTurn, ht] at h
        cases h
    | false =>
      by_cases hne : e = .act (.abort i)
      · subst hne
        refine ⟨?_, fun _ h => absurd List.mem_cons_self h⟩
        rw [(hran (n := 0) ha.retire).1, hasTurn, ht]
        simp
      · have hrest := ih (awaited_apply ha ht hne) (hu.change (b.apply_change e))
        have hturn : hasTurn i (e :: events) = hasTurn i events := by
          simp [hasTurn, ht, hne]
        rw [hturn]
        exact ⟨hrest.1, fun h hm => hrest.2 h fun hm' => hm (List.mem_cons_of_mem _ hm')⟩

def taking (m : Message) (link : Link) : Link :=
  if link.isOpen then { link with sent := link.sent ++ [m] } else link

theorem sendOn_eq (b : Board) (l : LinkId) (m : Message) :
    (b.sendOn l m).2 = { b with links := b.links.modify l (taking m) } := by
  have hsend (link : Link) : (link.send m).2 = taking m link := by
    unfold Link.send taking
    split <;> rfl
  unfold sendOn
  rw [List.modify_eq_set_getElem?]
  cases b.links[l]? with
  | none => rfl
  | some link =>
    simp only [hsend]
    rfl

/-- A request is accepted and nothing is sent, or it is turned away and nothing is sent but the
answer. -/
theorem handle_request (b : Board) (l : LinkId) (r : Request) :
    b.handle l (.request r) =
      if b.dispatcher.admits then (true, { b with dispatcher := b.dispatcher.accept r l })
      else (false, { b with links := b.links.modify l (taking (.failure r.id atCapacity)) }) := by
  cases ha : b.dispatcher.admits with
  | true => simp [handle, Dispatcher.handle, Dispatcher.dispatch, ha]
  | false => simp [handle, Dispatcher.handle, Dispatcher.dispatch, ha, sendOn_eq]

/-- After every schedule, whether the next request is turned away: just where there is a limit beyond
which requests are turned away, and as many are under way. -/
theorem admits_after (config : DispatchConfig) (events : List Event) :
    ((Board.new config).after events).dispatcher.admits = false ↔
      config.overflow = .reject ∧
        config.limit? = some ((Board.new config).after events).dispatcher.live := by
  have hrejects : ((Board.new config).after events).dispatcher.rejects =
      (Dispatcher.new config).rejects :=
    after_keeps (P := fun d => d.rejects = (Dispatcher.new config).rejects)
      (fun hd hch => (Dispatcher.rejects_change hch).trans hd) events _ rfl
  obtain ⟨maxInFlight, overflow⟩ := config
  cases maxInFlight with
  | none =>
    rw [Dispatcher.admits, hrejects]
    constructor
    · intro h
      cases h
    · rintro ⟨-, h⟩
      cases h
  | some n =>
    cases overflow with
    | queue =>
      rw [Dispatcher.admits, hrejects]
      constructor
      · intro h
        cases h
      · rintro ⟨h, -⟩
        cases h
    | reject =>
      have hb := after_keeps (P := Dispatcher.Balanced _) Dispatcher.Balanced.change events
        (Board.new ⟨some n, .reject⟩) (Dispatcher.new_balanced n .reject)
      have hu : ((Board.new ⟨some n, .reject⟩).after events).dispatcher.Unqueued :=
        after_keeps Dispatcher.Unqueued.change events _ ⟨rfl, List.forall_mem_nil _⟩
      rw [hb.admits_eq_false_iff hu hrejects]
      exact ⟨fun h => ⟨rfl, congrArg some h.symm⟩, fun h => (Option.some.inj h.2).symm⟩

/-- After every schedule: a request is turned away just where there is a limit, requests beyond it are
turned away, and as many accepted requests have tasks that have not ended. Then the dispatcher and
all other links stay as they are, and the link of the request takes the answer if it is open. Where
requests are turned away, one that is accepted is a new task, nothing is sent, and whatever happens
later: it starts once if its task has a turn before it is aborted, and otherwise never; when no task
can proceed, it has had its turn or was aborted. -/
theorem turned_away (config : DispatchConfig) (events : List Event) (l : LinkId) (r : Request) :
    let b := (Board.new config).after events
    let (accepted, b') := b.handle l (.request r)
    let i := b.dispatcher.tasks.length
    (accepted = false ↔ config.overflow = .reject ∧ config.limit? = some b.dispatcher.live) ∧
    (accepted = false →
      b'.dispatcher = b.dispatcher ∧
      b'.links = b.links.modify l (taking (.failure r.id atCapacity))) ∧
    (accepted = true → b'.links = b.links ∧ b'.dispatcher = b.dispatcher.accept r l) ∧
    (accepted = true → config.overflow = .reject → ∀ later,
      let d' := (b'.after later).dispatcher
      d'.requests[i]? = some (r, l) ∧
      d'.runs.count i = (hasTurn i later).toNat ∧
      ((b'.after later).Still → hasTurn i later = true ∨ .act (.abort i) ∈ later)) := by
  intro b
  have hadmits := admits_after config events
  rw [handle_request]
  cases ha : b.dispatcher.admits with
  | false =>
    refine ⟨⟨fun _ => hadmits.1 ha, fun _ => rfl⟩, fun _ => ⟨rfl, rfl⟩, ?_, ?_⟩
    all_goals exact fun h => absurd h Bool.false_ne_true
  | true =>
    have hnot : ¬ (config.overflow = .reject ∧ config.limit? = some b.dispatcher.live) := fun h =>
      Bool.false_ne_true ((hadmits.2 h).symm.trans ha)
    have htrue {p : Prop} (h : true = false) : p := absurd h.symm Bool.false_ne_true
    refine ⟨⟨htrue, fun h => absurd h hnot⟩, htrue, fun _ => ⟨rfl, rfl⟩, fun _ hover later => ?_⟩
    have hu : b.dispatcher.Unqueued := by
      refine after_keeps Dispatcher.Unqueued.change events _ ⟨?_, List.forall_mem_nil _⟩
      simp [Board.new, Dispatcher.new, Dispatcher.queues, hover]
    have hstarted : b.dispatcher.Started :=
      after_keeps (P := Dispatcher.Started) Dispatcher.Started.change events _ (List.forall_mem_nil _)
    let b' : Board := { b with dispatcher := b.dispatcher.accept r l }
    have ha' : b'.dispatcher.Awaited b.dispatcher.tasks.length :=
      Dispatcher.accept_awaited hstarted r l
    have hch : Change b.hasEnded b.dispatcher (.act (.handle l (.request r))) b'.dispatcher :=
      .accept ha
    have hu' : b'.dispatcher.Unqueued := hu.change hch
    obtain ⟨hcount, hwaits⟩ := awaited_after ha' hu' later
    refine ⟨?_, hcount, fun hs => ?_⟩
    · have hmine : b'.dispatcher.requests[b.dispatcher.tasks.length]? = some (r, l) :=
        Dispatcher.requests_getElem? (Dispatcher.accept_new _ r l)
      have hprefix : b'.dispatcher.requests <+: (b'.after later).dispatcher.requests :=
        after_keeps (P := fun d => b'.dispatcher.requests <+: d.requests)
          (fun hd hch => hd.trans (Dispatcher.requests_change hch)) later b' (List.prefix_refl _)
      obtain ⟨added, hadded⟩ := hprefix
      rw [← hadded, List.getElem?_append_left (List.getElem?_eq_some_iff.1 hmine).1]
      exact hmine
    · by_contra hnone
      rw [not_or, Bool.not_eq_true] at hnone
      -- a task whose turn is yet to come could proceed
      obtain ⟨-, t, ht, hp⟩ := hwaits hnone.1 hnone.2
      have hrest := still_iff.1 hs t (List.mem_of_getElem? ht)
      rw [Task.rests, hp] at hrest
      cases hrest

/-- With one slot, a request that comes while another one of its label has yet to start is turned away,
and its link learns that. Once the first is aborted, one is accepted and has one run, though it is
aborted in the end. -/
theorem turned_away_duplicate :
    let r : Request :=
      ⟨⟨"r1"⟩, ⟨"GET", "/", "http://target.example.com", ⟨[]⟩, none, .utf8⟩, 0⟩
    let events : List Event := [.act .link, .act .link, .act (.handle 0 (.request r))]
    let full := (Board.new ⟨some 1, .reject⟩).after events
    let free := (Board.new ⟨some 1, .reject⟩).after (events ++ [.act (.abort 0)])
    let later : List Event := [.turn 1 true, .act (.abort 1)]
    full.dispatcher.live = 1 ∧ (full.handle 1 (.request r)).1 = false ∧
      (full.handle 1 (.request r)).2.dispatcher = full.dispatcher ∧
      (full.handle 1 (.request r)).2.links = [{}, { sent := [.failure r.id atCapacity] }] ∧
      (free.handle 1 (.request r)).1 = true ∧
      (free.handle 1 (.request r)).2.links = free.links ∧
      ((free.handle 1 (.request r)).2.after later).Still ∧
      ((free.handle 1 (.request r)).2.after later).dispatcher.runs.count 1 = 1 ∧
      (hasTurn 1 later = true ∨ .act (.abort 1) ∈ later) := by
  intro r events full free later
  have hlive : full.dispatcher.live = 1 := by decide
  have hfree : (free.handle 1 (.request r)).1 = true := by decide
  have hstill : ((free.handle 1 (.request r)).2.after later).Still := by decide
  obtain ⟨haway, hanswer, -, -⟩ := turned_away ⟨some 1, .reject⟩ events 1 r
  obtain ⟨-, -, hquiet, hruns⟩ :=
    turned_away ⟨some 1, .reject⟩ (events ++ [.act (.abort 0)]) 1 r
  have hfull : (full.handle 1 (.request r)).1 = false := haway.2 ⟨rfl, by decide⟩
  obtain ⟨hsame, hlinks⟩ := hanswer hfull
  obtain ⟨-, hcount, hdone⟩ := hruns hfree rfl later
  exact ⟨hlive, hfull, hsame, hlinks.trans (by decide), hfree, (hquiet hfree).1, hstill, hcount,
    hdone hstill⟩

end Board

end Tunnel
