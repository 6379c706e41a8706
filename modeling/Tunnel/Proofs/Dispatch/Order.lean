import Mathlib.Tactic.ByContra
import Tunnel.Proofs.Dispatch.Line

/-!
# Slots and their order

Where requests wait, and each step comes only when no task can proceed: while a request waits all
permits are at work, and requests start in the order in which they were accepted, but for those that
were aborted or whose connection ended before they started.
-/
namespace Tunnel

def Task.rests (ended : LinkId → Bool) (t : Task) : Bool :=
  match t.phase with
  | .accepted => false
  | .waiting => !t.permit && !ended t.link
  | .running => true
  | .ended => true

namespace Dispatcher

variable {ended : LinkId → Bool} {d d' : Dispatcher} {i j : TaskId} {t : Task} {g a : List TaskId}
  {limit : Nat} {e : Board.Event}

theorem Puts.ne {p : TaskPhase} (hp : Puts d d' i p) (ht : d.tasks[i]? = some t)
    (hne : t.phase ≠ p) : d' ≠ d := by
  rintro rfl
  obtain ⟨t', ht', hph⟩ := hp.self ht
  obtain rfl : t = t' := Option.some.inj (ht.symm.trans ht')
  exact hne hph

/-- A task that is new has something to do. -/
theorem turn_ne_self (ht : d.tasks[i]? = some t) (hp : t.phase = .accepted) (linkFirst : Bool) :
    d.turn ended i linkFirst ≠ d := by
  simp only [turn, ht, hp]
  split_ifs
  · exact (puts_start d i).ne ht (by rw [hp]; decide)
  · exact (puts_retire d i).ne ht (by rw [hp]; decide)
  · exact (puts_join d i).ne ht (by rw [hp]; decide)
  · exact (puts_take d i).ne ht (by rw [hp]; decide)

theorem turn_eq_self_iff (ht : d.tasks[i]? = some t) :
    (∀ linkFirst, d.turn ended i linkFirst = d) ↔ t.rests ended = true := by
  cases hp : t.phase with
  | accepted =>
    simp only [Task.rests, hp, Bool.false_eq_true, iff_false]
    exact fun hall => turn_ne_self ht hp true (hall true)
  | waiting =>
    simp only [Task.rests, turn, ht, hp]
    cases hperm : t.permit with
    | true =>
      simp only [Bool.not_true, Bool.false_and, Bool.false_eq_true, iff_false]
      intro hall
      exact (puts_start d i).ne ht (by rw [hp]; decide) (by simpa using hall false)
    | false =>
      cases he : ended t.link with
      | true => simpa using (puts_retire d i).ne ht (by rw [hp]; decide)
      | false => simp
  | running | ended => simp [Task.rests, turn, ht, hp]

end Dispatcher

namespace Board

variable {b : Board} {d d' : Dispatcher} {i j : TaskId} {t : Task} {g a : List TaskId} {limit : Nat}
  {e : Event} {events : List Event}

def Still (b : Board) : Prop := ∀ i linkFirst, b.turn i linkFirst = b

theorem still_iff : b.Still ↔ ∀ t ∈ b.dispatcher.tasks, t.rests b.hasEnded = true := by
  have hturn : ∀ i linkFirst,
      b.turn i linkFirst = b ↔ b.dispatcher.turn b.hasEnded i linkFirst = b.dispatcher := by
    intro i linkFirst
    refine ⟨fun h => congrArg Board.dispatcher h, fun h => ?_⟩
    rw [turn, h]
  constructor
  · intro hs t ht
    obtain ⟨i, hi⟩ := List.mem_iff_getElem?.1 ht
    exact (Dispatcher.turn_eq_self_iff hi).1 fun linkFirst => (hturn i linkFirst).1 (hs i linkFirst)
  · intro hall i linkFirst
    rw [hturn]
    cases ht : b.dispatcher.tasks[i]? with
    | none => exact Dispatcher.turn_of_none ht linkFirst
    | some t => exact (Dispatcher.turn_eq_self_iff ht).2 (hall t (List.mem_of_getElem? ht)) linkFirst

instance (b : Board) : Decidable b.Still := decidable_of_iff _ still_iff.symm

/-- Each step of a schedule comes when no task can proceed. -/
def Steady : Board → List Event → Prop
  | _, [] => True
  | b, .act s :: events => b.Still ∧ (b.apply (.act s)).Steady events
  | b, .turn i linkFirst :: events => (b.apply (.turn i linkFirst)).Steady events

def decideSteady : (b : Board) → (events : List Event) → Decidable (b.Steady events)
  | _, [] => .isTrue trivial
  | b, .act s :: events =>
    have := decideSteady (b.apply (.act s)) events
    inferInstanceAs (Decidable (b.Still ∧ (b.apply (.act s)).Steady events))
  | b, .turn i linkFirst :: events => decideSteady (b.apply (.turn i linkFirst)) events

instance (b : Board) (events : List Event) : Decidable (b.Steady events) := decideSteady b events

/-- When no task can proceed, none is new or has a permit to start with. -/
theorem Still.calm (hs : b.Still) (hl : b.dispatcher.Lined g a) : g = [] ∧ a = [] := by
  have hrest : ∀ (i : TaskId) (q : Task → Bool), b.dispatcher.has i q = true →
      ∃ t, q t = true ∧ t.rests b.hasEnded = true := fun i q h => by
    obtain ⟨t, ht, hq⟩ := Dispatcher.exists_of_has h
    exact ⟨t, hq, still_iff.1 hs t (List.mem_of_getElem? ht)⟩
  constructor
  · refine List.eq_nil_iff_forall_not_mem.2 fun i hi => ?_
    obtain ⟨t, hq, hr⟩ := hrest i _ ((hl.granted i).1 hi)
    rw [Task.granted, Bool.and_eq_true, decide_eq_true_iff] at hq
    simp [Task.rests, hq] at hr
  · refine List.eq_nil_iff_forall_not_mem.2 fun i hi => ?_
    obtain ⟨t, hq, hr⟩ := hrest i _ ((hl.fresh i).1 hi)
    rw [Task.fresh, decide_eq_true_iff] at hq
    simp [Task.rests, hq] at hr

/-- Every event keeps the order, if steps come only when no task can proceed. -/
theorem lined_apply (hl : b.dispatcher.Lined g a) (hb : b.dispatcher.Balanced limit)
    (hs : ∀ s, e = .act s → b.Still) : ∃ g' a', (b.apply e).dispatcher.Lined g' a' := by
  have hch := b.apply_change e
  revert hch
  generalize (b.apply e).dispatcher = d'
  intro hch
  cases hch with
  | stay => exact ⟨g, a, hl⟩
  | accept ha =>
    obtain ⟨rfl, rfl⟩ := (hs _ rfl).calm hl
    exact ⟨_, _, hl.accept _ _⟩
  | finish hr =>
    obtain ⟨g', a', hl', -⟩ := hl.retire hb _ fun _ _ _ => (hs _ rfl).calm hl
    exact ⟨g', a', hl'⟩
  | abort =>
    obtain ⟨g', a', hl', -⟩ := hl.retire hb _ fun _ _ _ => (hs _ rfl).calm hl
    exact ⟨g', a', hl'⟩
  | move hm => exact hl.move hb hm

/-- A task that is aborted, or abandoned after its link has ended, before it starts. -/
def Withdrawn (b : Board) (events : List Event) (i : TaskId) : Prop :=
  ∃ before e after t, events = before ++ e :: after ∧
    (b.after before).dispatcher.tasks[i]? = some t ∧ t.phase.unstarted = true ∧
    (e = .act (.abort i) ∨
      (∃ linkFirst, e = .turn i linkFirst) ∧ (b.after before).hasEnded t.link = true) ∧
    ∃ t', ((b.after before).apply e).dispatcher.tasks[i]? = some t' ∧ t'.phase = .ended

theorem Withdrawn.cons (h : (b.apply e).Withdrawn events i) : b.Withdrawn (e :: events) i := by
  obtain ⟨before, e', after, t, rfl, hw⟩ := h
  exact ⟨e :: before, e', after, t, rfl, hw⟩

/-- A task that ends without a start was aborted or abandoned now, or had ended before. -/
theorem withdrawn_or_old (hl : b.dispatcher.Lined g a) {t' : Task}
    (ht' : (b.apply e).dispatcher.tasks[i]? = some t') (hend : t'.phase = .ended)
    (hrun : i ∉ (b.apply e).dispatcher.runs) :
    b.Withdrawn (e :: events) i ∨
      i ∉ b.dispatcher.runs ∧ ∃ t, b.dispatcher.tasks[i]? = some t ∧ t.phase = .ended := by
  have hwithdrawn : ∀ t, b.dispatcher.tasks[i]? = some t → t.phase.unstarted = true →
      (e = .act (.abort i) ∨ (∃ linkFirst, e = .turn i linkFirst) ∧ b.hasEnded t.link = true) →
      b.Withdrawn (e :: events) i := fun t ht hu hcause =>
    ⟨[], e, events, t, rfl, ht, hu, hcause, t', ht', hend⟩
  have hch := b.apply_change e
  revert hch ht' hrun
  generalize (b.apply e).dispatcher = d'
  intro ht' hrun hch
  -- a task that some event leaves alone had ended before
  have hold : ∀ {k p}, Dispatcher.Puts b.dispatcher d' k p → i ∉ b.dispatcher.runs →
      (k = i → p ≠ .ended) →
      i ∉ b.dispatcher.runs ∧ ∃ t, b.dispatcher.tasks[i]? = some t ∧ t.phase = .ended :=
    fun {k p} hp hr hne => by
      obtain ⟨t, ht, -, -, hph⟩ := hp.task ht'
      split_ifs at hph with hki
      · exact absurd (hph.symm.trans hend) (hne hki)
      · exact ⟨hr, t, ht, hph.symm.trans hend⟩
  cases hch with
  | stay => exact .inr ⟨hrun, t', ht', hend⟩
  | @accept l r ha =>
    rcases getElem?_concat_cases ht' with ht | ⟨-, rfl⟩
    · exact .inr ⟨hrun, t', ht, hend⟩
    · cases hend
  | @finish run k t hr =>
    rw [Dispatcher.retire_runs] at hrun
    refine .inr (hold (Dispatcher.puts_retire _ k) hrun ?_)
    rintro rfl
    exact absurd (List.mem_of_getElem? (Dispatcher.liveRun?_eq_some.1 hr).1) hrun
  | @abort k =>
    rw [Dispatcher.retire_runs] at hrun
    by_cases hki : k = i
    · subst hki
      obtain ⟨t, ht, -⟩ := (Dispatcher.puts_retire _ k).task ht'
      cases hp : t.phase with
      | ended => exact .inr ⟨hrun, t, ht, hp⟩
      | running =>
        have hruns : b.dispatcher.has k Task.runs = true :=
          (Dispatcher.has_of_task ht _).trans (decide_eq_true hp)
        exact absurd (hl.running k hruns) hrun
      | accepted | waiting => exact .inl (hwithdrawn t ht (by rw [hp]; rfl) (.inl rfl))
    · exact .inr (hold (Dispatcher.puts_retire _ k) hrun fun h => absurd h hki)
  | @move k linkFirst _ hm =>
    have hrun' : i ∉ b.dispatcher.runs := fun hi => hrun (hm.runs_prefix.subset hi)
    obtain ⟨⟨t, ht, hu⟩, ⟨hp, -⟩ | ⟨hp, -⟩ | ⟨hp, -, t₀, ht₀, he⟩⟩ := hm.puts
    · exact .inr (hold hp hrun' fun _ => nofun)
    · exact .inr (hold hp hrun' fun _ => nofun)
    · by_cases hki : k = i
      · subst hki
        obtain rfl : t = t₀ := Option.some.inj (ht.symm.trans ht₀)
        exact .inl (hwithdrawn t ht hu (.inr ⟨⟨linkFirst, rfl⟩, he⟩))
      · exact .inr (hold hp hrun' fun h => absurd h hki)

theorem Steady.tail (hs : b.Steady (e :: events)) :
    (∀ s, e = .act s → b.Still) ∧ (b.apply e).Steady events := by
  cases e with
  | act s => exact ⟨fun _ _ => hs.1, hs.2⟩
  | turn i linkFirst => exact ⟨nofun, hs⟩

/-- After a steady schedule the order is kept, and who has ended without a start was withdrawn in
it. -/
theorem lined_after (hl : b.dispatcher.Lined g a) (hb : b.dispatcher.Balanced limit)
    (hs : b.Steady events) :
    (∃ g' a', (b.after events).dispatcher.Lined g' a') ∧
      ∀ i t, (b.after events).dispatcher.tasks[i]? = some t → t.phase = .ended →
        i ∉ (b.after events).dispatcher.runs → b.Withdrawn events i ∨
          i ∉ b.dispatcher.runs ∧ ∃ t, b.dispatcher.tasks[i]? = some t ∧ t.phase = .ended := by
  induction events generalizing b g a with
  | nil => exact ⟨⟨g, a, hl⟩, fun i t ht hend hrun => .inr ⟨hrun, t, ht, hend⟩⟩
  | cons e events ih =>
    obtain ⟨hstill, hrest⟩ := hs.tail
    obtain ⟨g₁, a₁, hl₁⟩ := lined_apply hl hb hstill
    obtain ⟨hlined, hold⟩ := ih hl₁ (hb.change (b.apply_change e)) hrest
    refine ⟨hlined, fun i t ht hend hrun => ?_⟩
    rcases hold i t ht hend hrun with hw | ⟨hrun₁, t₁, ht₁, hend₁⟩
    · exact .inl hw.cons
    · exact withdrawn_or_old hl ht₁ hend₁ hrun₁

/-- When no task can proceed and one waits, all permits are at work. -/
theorem Still.running_eq (hs : b.Still) (hl : b.dispatcher.Lined g a)
    (hb : b.dispatcher.Balanced limit)
    (hw : ∃ t ∈ b.dispatcher.tasks, t.phase.unstarted = true) : b.dispatcher.running = limit := by
  obtain ⟨rfl, rfl⟩ := hs.calm hl
  obtain ⟨t, hmem, hu⟩ := hw
  obtain ⟨i, hi⟩ := List.mem_iff_getElem?.1 hmem
  have hhas := Dispatcher.has_of_task hi
  have hline : i ∈ b.dispatcher.line := by
    rcases Task.unstarted_cases hu with h | h | h
    · exact absurd ((hl.granted i).2 ((hhas _).trans h)) List.not_mem_nil
    · exact (hl.lined i).2 ((hhas _).trans h)
    · exact absurd ((hl.fresh i).2 ((hhas _).trans h)) List.not_mem_nil
  have hfree : b.dispatcher.free = 0 := by
    by_contra hne
    rw [hl.idle hne] at hline
    cases hline
  -- who has a permit and has not ended runs, as nobody has one to start with
  have hheld : b.dispatcher.held ≤ b.dispatcher.running := by
    refine List.countP_mono_left fun t ht hh => ?_
    rw [Task.holds, Bool.and_eq_true, decide_eq_true_iff] at hh
    have hr := still_iff.1 hs t ht
    cases hp : t.phase with
    | accepted | waiting => simp [Task.rests, hp, hh.1] at hr
    | running => rfl
    | ended => exact absurd hp hh.2
  have htotal := hb.total
  rw [hfree, Nat.zero_add] at htotal
  exact Nat.le_antisymm (htotal ▸ hb.running_le) (htotal ▸ hheld)

/-- Where requests wait beyond a limit, after every schedule whose steps come only when no task can
proceed: if no task can proceed and one has yet to start, as many run as there are permits. A
request that was accepted before one that has started has started too, or it was aborted or its link
had ended before it could. Requests start in the order of acceptance, each at most once. -/
theorem queue_order (n : Nat) (events : List Event)
    (hs : (Board.new ⟨some n, .queue⟩).Steady events) :
    let start := Board.new ⟨some n, .queue⟩
    let b := start.after events
    let d := b.dispatcher
    (b.Still → (∃ t ∈ d.tasks, t.phase.unstarted = true) →
      d.running = min (max n 1) maxPermits) ∧
    (∀ i j, i < j → j ∈ d.runs → i ∈ d.runs ∨ start.Withdrawn events i) ∧
    d.runs.Pairwise (· < ·) ∧ d.runs.Nodup := by
  intro start b d
  have hl₀ := Dispatcher.new_lined n
  have hb₀ := Dispatcher.new_balanced n .queue
  obtain ⟨⟨g, a, hl⟩, hended⟩ := lined_after (b := start) hl₀ hb₀ hs
  have hb : d.Balanced (min (max n 1) maxPermits) :=
    after_keeps (P := Dispatcher.Balanced _) Dispatcher.Balanced.change events start hb₀
  have hsorted := (List.pairwise_append.1 hl.sorted).1
  refine ⟨fun hstill hw => hstill.running_eq hl hb hw, fun i j hij hj => ?_, hsorted,
    hsorted.imp Nat.ne_of_lt⟩
  have hlt : i < d.tasks.length := Nat.lt_trans hij (Dispatcher.lt_of_has (hl.started j hj))
  have ht : d.tasks[i]? = some d.tasks[i] := List.getElem?_eq_getElem hlt
  cases hp : d.tasks[i].phase with
  | accepted | waiting =>
    have hji := hl.lt_of_unstarted hj ht (by rw [hp]; rfl)
    exact absurd hij (Nat.lt_asymm hji)
  | running => exact .inl (hl.running i ((Dispatcher.has_of_task ht _).trans (decide_eq_true hp)))
  | ended =>
    by_cases hi : i ∈ d.runs
    · exact .inl hi
    · rcases hended i _ ht hp hi with hw | ⟨-, t, ht₀, -⟩
      · exact .inr hw
      · cases ht₀

/-- With one slot and three requests, of which the second is aborted in line, the third starts when
the first returns. -/
theorem queue_order_started :
    let r : Request :=
      ⟨⟨"r1"⟩, ⟨"GET", "/", "http://target.example.com", ⟨[]⟩, none, .utf8⟩, 0⟩
    let start := Board.new ⟨some 1, .queue⟩
    let waiting : List Event := [.act .link, .act (.handle 0 (.request r)), .turn 0 true,
      .act (.handle 0 (.request r)), .turn 1 true, .act (.handle 0 (.request r)), .turn 2 false]
    let events := waiting ++ [.act (.abort 1), .act (.finish 0), .turn 2 true]
    start.Steady waiting ∧ (start.after waiting).dispatcher.running = 1 ∧
      start.Steady events ∧ (start.after events).dispatcher.runs = [0, 2] ∧
      start.Withdrawn events 1 := by
  intro r start waiting events
  have hw : start.Steady waiting := by decide
  have hs : start.Steady events := by decide
  obtain ⟨hslots, -⟩ := queue_order 1 waiting hw
  obtain ⟨-, horder, -⟩ := queue_order 1 events hs
  refine ⟨hw, hslots (by decide) (by decide), hs, by decide, ?_⟩
  exact (horder 1 2 (by decide) (by decide)).resolve_left (by decide)

end Board

end Tunnel
