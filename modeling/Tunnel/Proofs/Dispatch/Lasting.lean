import Tunnel.Proofs.Dispatch.Settle

/-!
# What lasts

Whether there is a limit, and what becomes of requests beyond it, never changes. A run is that of a
task that has started, and a task that has ended without a start never will. Whatever the limit and
the policy, steps that are run to their ends lead to boards on which no task can proceed.
-/
namespace Tunnel

namespace Dispatcher

variable {ended : LinkId → Bool} {heeds : Bool} {d d' : Dispatcher} {i j : TaskId} {e : Board.Event}

theorem retire_settings (d : Dispatcher) (i : TaskId) :
    (d.retire i).permits.isSome = d.permits.isSome ∧ (d.retire i).overflow = d.overflow := by
  have hleave (t : Task) : (d.leave i t).permits.isSome = d.permits.isSome := Option.isSome_map
  have hrelease (d : Dispatcher) :
      d.release.permits.isSome = d.permits.isSome ∧ d.release.overflow = d.overflow := by
    unfold release
    split
    · exact ⟨Option.isSome_map, rfl⟩
    · exact ⟨Option.isSome_map, rfl⟩
  rcases d.retire_cases i with ⟨hsame, -⟩ | ⟨t, -, -, hretire⟩
  · rw [hsame]
    exact ⟨rfl, rfl⟩
  · rw [hretire]
    split_ifs
    · exact ⟨(hrelease _).1.trans (hleave t), (hrelease _).2⟩
    · exact ⟨hleave t, rfl⟩

/-- Whether there is a limit, and what becomes of requests beyond it, never changes. -/
theorem change_settings (hch : Board.Change ended d e d') :
    d'.permits.isSome = d.permits.isSome ∧ d'.overflow = d.overflow := by
  cases hch with
  | stay => exact ⟨rfl, rfl⟩
  | accept ha =>
    refine ⟨?_, rfl⟩
    simp only [Dispatcher.accept]
    split_ifs
    · exact Option.isSome_map
    · rfl
  | finish hr => exact retire_settings d _
  | abort => exact retire_settings d _
  | move hm =>
    cases hm with
    | abandon => exact retire_settings d _
    | join => exact ⟨Option.isSome_map, rfl⟩
    | start => exact ⟨rfl, rfl⟩
    | take => exact ⟨Option.isSome_map, rfl⟩

def Started (d : Dispatcher) : Prop :=
  ∀ i ∈ d.runs, ∃ t, d.tasks[i]? = some t ∧ t.phase.unstarted = false

theorem Started.retire (hs : d.Started) (i : TaskId) : (d.retire i).Started := by
  intro j hj
  rw [retire_runs] at hj
  exact (puts_retire d i).started rfl (hs j hj)

theorem Move.started (hm : Move ended heeds d i d')
    (hj : ∃ t, d.tasks[j]? = some t ∧ t.phase.unstarted = false) :
    ∃ t, d'.tasks[j]? = some t ∧ t.phase.unstarted = false := by
  obtain ⟨⟨t, ht, hu⟩, ⟨hp, -⟩ | ⟨hp, -⟩ | ⟨hp, -⟩⟩ := hm.puts
  · exact hp.started rfl hj
  · -- who gets in line has not started, so it is another task
    obtain ⟨t₀, ht₀, hu₀⟩ := hj
    have hij : i ≠ j := by
      rintro rfl
      rw [Option.some.inj (ht.symm.trans ht₀), hu₀] at hu
      cases hu
    obtain ⟨t', ht', hph⟩ := hp.other hij ht₀
    exact ⟨t', ht', hph ▸ hu₀⟩
  · exact hp.started rfl hj

theorem Started.move (hs : d.Started) (hm : Move ended heeds d i d') :
    d'.Started := by
  intro j hj
  obtain ⟨⟨t, ht, -⟩, ⟨hp, hr, -⟩ | ⟨-, hr⟩ | ⟨-, hr, -⟩⟩ := hm.puts
  · rw [hr] at hj
    rcases List.mem_append.1 hj with hj | hj
    · exact hm.started (hs j hj)
    · obtain rfl := List.mem_singleton.1 hj
      obtain ⟨t', ht', hph⟩ := hp.self ht
      exact ⟨t', ht', hph ▸ rfl⟩
  · exact hm.started (hs j (hr ▸ hj))
  · exact hm.started (hs j (hr ▸ hj))

theorem Started.change (hs : d.Started) (hch : Board.Change ended d e d') :
    d'.Started := by
  cases hch with
  | stay => exact hs
  | @accept l r ha =>
    intro j hj
    obtain ⟨t, ht, hu⟩ := hs j hj
    exact ⟨t, (List.getElem?_append_left (List.getElem?_eq_some_iff.1 ht).1).trans ht, hu⟩
  | finish hr => exact hs.retire _
  | abort => exact hs.retire _
  | move hm => exact hs.move hm

def Gone (i : TaskId) (d : Dispatcher) : Prop :=
  i ∉ d.runs ∧ ∃ t, d.tasks[i]? = some t ∧ t.phase = .ended

theorem Gone.retire (hg : d.Gone i) (k : TaskId) : (d.retire k).Gone i := by
  obtain ⟨hr, t, ht, hend⟩ := hg
  refine ⟨by simpa, ?_⟩
  have hp := puts_retire d k
  by_cases hki : k = i
  · subst hki
    exact hp.self ht
  · obtain ⟨t', ht', hph⟩ := hp.other hki ht
    exact ⟨t', ht', hph.trans hend⟩

theorem Gone.change (hg : d.Gone i) (hch : Board.Change ended d e d') :
    d'.Gone i := by
  obtain ⟨hr, t, ht, hend⟩ := id hg
  cases hch with
  | stay => exact hg
  | @accept l r ha =>
    exact ⟨hr, t, (List.getElem?_append_left (List.getElem?_eq_some_iff.1 ht).1).trans ht, hend⟩
  | finish => exact hg.retire _
  | abort => exact hg.retire _
  | @move k linkFirst _ hm =>
    obtain ⟨⟨t₀, ht₀, hu⟩, hput⟩ := hm.puts
    have hki : k ≠ i := by
      rintro rfl
      rw [Option.some.inj (ht₀.symm.trans ht), hend] at hu
      cases hu
    have hstill : ∀ {p}, Puts d d' k p → ∃ t, d'.tasks[i]? = some t ∧ t.phase = .ended :=
      fun {p} hp => by
        obtain ⟨t', ht', hph⟩ := hp.other hki ht
        exact ⟨t', ht', hph.trans hend⟩
    rcases hput with ⟨hp, hruns, -⟩ | ⟨hp, hruns⟩ | ⟨hp, hruns, -⟩
    · refine ⟨?_, hstill hp⟩
      rw [hruns, List.mem_append, List.mem_singleton]
      exact fun h => h.elim hr (Ne.symm hki)
    · exact ⟨hruns ▸ hr, hstill hp⟩
    · exact ⟨hruns ▸ hr, hstill hp⟩

theorem Puts.never_waiting {p : TaskPhase} (hp : Puts d d' i p) (hne : p ≠ .waiting)
    (hw : ∀ t ∈ d.tasks, t.phase ≠ .waiting) : ∀ t ∈ d'.tasks, t.phase ≠ .waiting := by
  intro t ht hph
  obtain ⟨j, hj⟩ := List.mem_iff_getElem?.1 ht
  obtain ⟨-, t₀, ht₀, -, -, hph₀⟩ := hp.old hj (by rw [hph]; exact hne.symm)
  exact hw t₀ (List.mem_of_getElem? ht₀) (hph₀ ▸ hph)

structure Unqueued (d : Dispatcher) : Prop where
  queues : d.queues = false
  waiting : ∀ t ∈ d.tasks, t.phase ≠ .waiting

theorem Unqueued.change (hu : d.Unqueued) (hch : Board.Change ended d e d') : d'.Unqueued := by
  obtain ⟨hlimit, hpolicy⟩ := change_settings hch
  refine ⟨by rw [Dispatcher.queues, hlimit, hpolicy]; exact hu.queues, ?_⟩
  cases hch with
  | stay => exact hu.waiting
  | accept ha =>
    intro t ht
    rcases List.mem_append.1 ht with ht | ht
    · exact hu.waiting t ht
    · rw [List.mem_singleton.1 ht]
      exact TaskPhase.noConfusion
  | finish => exact (puts_retire d _).never_waiting (by decide) hu.waiting
  | abort => exact (puts_retire d _).never_waiting (by decide) hu.waiting
  | move hm =>
    cases hm with
    | abandon => exact (puts_retire d _).never_waiting (by decide) hu.waiting
    | join ht hp hq =>
      rw [hu.queues] at hq
      cases hq
    | start => exact (puts_start d _).never_waiting (by decide) hu.waiting
    | take => exact (puts_take d _).never_waiting (by decide) hu.waiting

theorem settle_eq_self (hw : ∀ t ∈ d.tasks, t.phase ≠ .waiting) : d.settle ended = d := by
  have hone (i : TaskId) : d.settleTask ended i = d := by
    unfold settleTask
    cases ht : d.tasks[i]? with
    | none => rfl
    | some t => exact if_neg (hw t (List.mem_of_getElem? ht))
  unfold settle
  induction List.range d.tasks.length with
  | nil => rfl
  | cons i is ih => rw [List.foldl_cons, hone, ih]

/-- Each entry of the line is a task that waits, and there once. -/
structure Orderly (d : Dispatcher) : Prop where
  nodup : d.line.Nodup
  waiting : ∀ i ∈ d.line, ∃ t, d.tasks[i]? = some t ∧ t.phase = .waiting

end Dispatcher

namespace Board

theorem orderly_after (config : DispatchConfig) (events : List Event) :
    ((Board.new config).after events).dispatcher.Orderly := by
  obtain ⟨maxInFlight, overflow⟩ := config
  cases maxInFlight with
  | some n =>
    have hb : ((Board.new ⟨some n, overflow⟩).after events).dispatcher.Balanced _ :=
      after_keeps (P := Dispatcher.Balanced _) Dispatcher.Balanced.change events _
        (Dispatcher.new_balanced n overflow)
    refine ⟨hb.nodup, fun i hi => ?_⟩
    obtain ⟨t, ht, hw, -⟩ := hb.lined i hi
    exact ⟨t, ht, hw⟩
  | none =>
    have hnone : ((Board.new ⟨none, overflow⟩).after events).dispatcher.permits.isSome = false :=
      after_keeps (P := fun d => d.permits.isSome = false)
        (fun hd hch => (Dispatcher.change_settings hch).1.trans hd) events _ rfl
    have hnil : ((Board.new ⟨none, overflow⟩).after events).dispatcher.line = [] := by
      rw [Dispatcher.line, Option.isSome_eq_false_iff.1 hnone |> Option.isNone_iff_eq_none.1]
      rfl
    exact ⟨hnil ▸ List.nodup_nil, fun i hi => absurd hi (hnil ▸ List.not_mem_nil)⟩

/-- Where no requests wait, the task that is new is the only one that has anything to do. -/
theorem step_unqueued {b : Board} (hs : b.Still) (hu : b.dispatcher.Unqueued) (s : Step) :
    (b.step s).2 = b.after [.act s, .turn b.dispatcher.tasks.length true] ∧
      (b.step s).2.Still := by
  let events : List Event := [.act s, .turn b.dispatcher.tasks.length true]
  have hwait : (b.after events).dispatcher.Unqueued :=
    after_keeps (P := Dispatcher.Unqueued) Dispatcher.Unqueued.change events b hu
  have hstep : (b.step s).2 = b.after events := by
    have hsettle : (b.after events).dispatcher.settle (b.apply (.act s)).hasEnded =
        (b.after events).dispatcher := Dispatcher.settle_eq_self hwait.waiting
    change { (b.apply (.act s)) with
      dispatcher := (b.after events).dispatcher.settle (b.apply (.act s)).hasEnded } = _
    rw [hsettle]
    rfl
  refine ⟨hstep, ?_⟩
  rw [hstep, still_iff]
  intro t ht
  have hknown : t.phase ≠ .accepted :=
    Dispatcher.turn_known _ true (fun j t => known_of_act hs s j t) t ht
  cases hp : t.phase with
  | accepted => exact absurd hp hknown
  | waiting => exact absurd hp (hwait.waiting t ht)
  | running | ended => simp [Task.rests, hp]

/-- Steps that are run to their ends make a schedule, after which no task can proceed. -/
theorem run_still (config : DispatchConfig) (steps : List Step) :
    ∃ events, (Board.new config).run steps = (Board.new config).after events ∧
      ((Board.new config).run steps).Still := by
  cases hq : (Dispatcher.new config).queues with
  | true =>
    obtain ⟨maxInFlight, overflow⟩ := config
    obtain ⟨n, rfl⟩ : ∃ n, maxInFlight = some n := by
      cases maxInFlight with
      | none => cases hq
      | some n => exact ⟨n, rfl⟩
    obtain rfl : overflow = .queue := by
      cases overflow with
      | queue => rfl
      | reject => cases hq
    obtain ⟨events, -, hrun, hstill⟩ := run_steady n steps
    exact ⟨events, hrun, hstill⟩
  | false =>
    have hrun : ∀ (b : Board), b.Still → b.dispatcher.Unqueued →
        ∃ events, b.run steps = b.after events ∧ (b.run steps).Still := by
      induction steps with
      | nil => exact fun b hs _ => ⟨[], rfl, hs⟩
      | cons s steps ih =>
        intro b hs hu
        obtain ⟨hstep, hs'⟩ := step_unqueued hs hu s
        have hu' : (b.step s).2.dispatcher.Unqueued := by
          rw [hstep]
          exact after_keeps (P := Dispatcher.Unqueued) Dispatcher.Unqueued.change _ b hu
        obtain ⟨events, hafter, hstill⟩ := ih (b.step s).2 hs' hu'
        refine ⟨[.act s, .turn b.dispatcher.tasks.length true] ++ events, ?_, hstill⟩
        rw [after_append, ← hstep]
        exact hafter
    exact hrun _ (still_iff.2 nofun) ⟨hq, nofun⟩

end Board

end Tunnel
