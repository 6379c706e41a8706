import Tunnel.Proofs.Dispatch.Order

/-!
# Steps that are run to their end

A step with the turns that follow it is a schedule of its own, and where requests wait no task can
proceed after it: tasks that wait are gone through in the order of acceptance, and a permit that is
handed over on the way goes to one that comes later.
-/
namespace Tunnel

namespace Dispatcher

variable {ended : LinkId → Bool} {d d' : Dispatcher} {i j : TaskId} {t : Task} {limit m : Nat}

/-- No task is new, those below a bound have nothing to do in a turn, and the order is kept. -/
structure SettledBelow (ended : LinkId → Bool) (limit m : Nat) (d : Dispatcher) : Prop where
  balanced : d.Balanced limit
  lined : ∃ g a, d.Lined g a ∧ ∀ j ∈ g, m ≤ j
  known : ∀ t ∈ d.tasks, t.phase ≠ .accepted
  lasting : ∀ (j : TaskId) (t : Task), j < m → d.tasks[j]? = some t → t.phase = .waiting →
    ended t.link = false

theorem Puts.known {p : TaskPhase} (hp : Puts d d' i p) (hne : p ≠ .accepted)
    (hk : ∀ j t, i ≠ j → d.tasks[j]? = some t → t.phase ≠ .accepted) :
    ∀ t ∈ d'.tasks, t.phase ≠ .accepted := by
  intro t ht hph
  obtain ⟨j, hj⟩ := List.mem_iff_getElem?.1 ht
  obtain ⟨hij, t₀, ht₀, -, -, hph₀⟩ := hp.old hj (by rw [hph]; exact hne.symm)
  exact hk j t₀ hij ht₀ (hph₀ ▸ hph)

/-- Only the task that has a turn may have been new. -/
theorem turn_known (d : Dispatcher) (linkFirst : Bool)
    (hk : ∀ j t, i ≠ j → d.tasks[j]? = some t → t.phase ≠ .accepted) :
    ∀ t ∈ (d.turn ended i linkFirst).tasks, t.phase ≠ .accepted := by
  have hturn : d.turn ended i linkFirst = d ∨
      Move ended false d i (d.turn ended i linkFirst) := turn_cases d i linkFirst nofun
  rcases hturn with heq | hm
  · rw [heq]
    intro t ht hph
    obtain ⟨j, hj⟩ := List.mem_iff_getElem?.1 ht
    by_cases hij : i = j
    · subst hij
      exact turn_ne_self hj hph linkFirst heq
    · exact hk j t hij hj hph
  · rcases hm.puts.2 with ⟨hp, -⟩ | ⟨hp, -⟩ | ⟨hp, -⟩
    · exact hp.known nofun hk
    · exact hp.known nofun hk
    · exact hp.known nofun hk

theorem Puts.lasting {p : TaskPhase} (hp : Puts d d' i p) (hne : p ≠ .waiting)
    (hl : ∀ (j : TaskId) (t : Task), j < i → d.tasks[j]? = some t → t.phase = .waiting →
      ended t.link = false) :
    ∀ (j : TaskId) (t : Task), j < i + 1 → d'.tasks[j]? = some t → t.phase = .waiting →
      ended t.link = false := by
  intro j t hj ht hph
  obtain ⟨hij, t₀, ht₀, -, hlink, hph₀⟩ := hp.old ht (by rw [hph]; exact hne.symm)
  have hlt : j < i := Nat.lt_of_le_of_ne (Nat.le_of_lt_succ hj) (Ne.symm hij)
  rw [hlink]
  exact hl j t₀ hlt ht₀ (hph₀ ▸ hph)

/-- One task more has nothing to do. -/
theorem SettledBelow.settleTask (hs : d.SettledBelow ended limit m) :
    (d.settleTask ended m).SettledBelow ended limit (m + 1) := by
  obtain ⟨g, a, hl, hg⟩ := hs.lined
  -- while the dispatcher stays as it is, the task at the bound is the only one to look at
  have hstay : d.has m Task.granted = false →
      (∀ t, d.tasks[m]? = some t → t.phase = .waiting → ended t.link = false) →
      d.SettledBelow ended limit (m + 1) := by
    intro hnot hlink
    refine ⟨hs.balanced, ⟨g, a, hl, fun j hj => ?_⟩, hs.known, fun j t hj ht hph => ?_⟩
    · refine Nat.lt_of_le_of_ne (hg j hj) ?_
      rintro rfl
      rw [(hl.granted m).1 hj] at hnot
      cases hnot
    · rcases Nat.lt_or_ge j m with hlt | hge
      · exact hs.lasting j t hlt ht hph
      · obtain rfl : j = m := Nat.le_antisymm (Nat.le_of_lt_succ hj) hge
        exact hlink t ht hph
  unfold Dispatcher.settleTask
  cases ht : d.tasks[m]? with
  | none => exact hstay (by rw [has, ht]; rfl) fun t h => by rw [ht] at h; cases h
  | some t =>
    have hhas := has_of_task ht
    have hlink : ended t.link = false → ∀ t', d.tasks[m]? = some t' → t'.phase = .waiting →
        ended t'.link = false := fun he t' ht' _ => Option.some.inj (ht.symm.trans ht') ▸ he
    have hother : ∀ j t', m ≠ j → d.tasks[j]? = some t' → t'.phase ≠ .accepted :=
      fun j t' _ hj => hs.known t' (List.mem_of_getElem? hj)
    simp only
    split_ifs with hw
    · simp only [turn, ht, hw, Bool.true_or, Bool.and_true]
      split_ifs with he hperm
      · have hp := puts_retire d m
        obtain ⟨g', a', hl', hfirst⟩ := hl.retire hs.balanced m fun t' ht' hrun => by
          rw [← Option.some.inj (ht.symm.trans ht'), hw] at hrun
          cases hrun
        refine ⟨hs.balanced.retire m, ⟨g', a', hl', fun j hj => ?_⟩, hp.known (by decide) hother,
          hp.lasting (by decide) hs.lasting⟩
        rcases hfirst j hj with hold | ⟨hline, t', ht', hperm⟩
        · refine Nat.lt_of_le_of_ne (hg j hold) ?_
          rintro rfl
          -- who has ended is not to start
          obtain ⟨t', ht', hph⟩ := hp.self ht
          have hgr := (hl'.granted m).1 hj
          rw [has_of_task ht', Task.granted, hph] at hgr
          cases hgr
        · rw [← Option.some.inj (ht.symm.trans ht')] at hperm
          have hgr : d.has m Task.granted = true := (hhas _).trans (by simp [Task.granted, hw, hperm])
          exact hl.granted_lt hgr hline
      · have hp := puts_start d m
        have hgr : t.granted = true := by simp [Task.granted, hw, hperm]
        refine ⟨hs.balanced.start ht (by rw [hw]; rfl) hperm,
          ⟨_, _, hl.start ht hgr, List.forall_mem_nil _⟩, hp.known (by decide) hother,
          hp.lasting (by decide) hs.lasting⟩
      · refine hstay ?_ (hlink (by simpa using he))
        rw [hhas]
        simp [Task.granted, hperm]
    · refine hstay ?_ fun t' ht' hw' => absurd ?_ hw
      · rw [hhas]
        simp [Task.granted, hw]
      · rw [Option.some.inj (ht.symm.trans ht'), hw']

theorem settleTask_length (d : Dispatcher) (i : TaskId) :
    (d.settleTask ended i).tasks.length = d.tasks.length := by
  have hreq : (d.settleTask ended i).requests = d.requests := (settleTask_proceeds d i).requests
  simpa [requests] using congrArg List.length hreq

/-- After all tasks have been gone through, none has anything to do. -/
theorem SettledBelow.settle (hs : d.SettledBelow ended limit 0) :
    ∀ t ∈ (d.settle ended).tasks, t.rests ended = true := by
  have hpass : ∀ m, ((List.range m).foldl (Dispatcher.settleTask ended) d).SettledBelow ended limit m ∧
      ((List.range m).foldl (Dispatcher.settleTask ended) d).tasks.length = d.tasks.length := by
    intro m
    induction m with
    | zero => exact ⟨hs, rfl⟩
    | succ m ih =>
      rw [List.range_succ, List.foldl_append]
      exact ⟨ih.1.settleTask, (settleTask_length _ m).trans ih.2⟩
  obtain ⟨hall, hlen⟩ := hpass d.tasks.length
  obtain ⟨g, a, hl, hg⟩ := hall.lined
  intro t ht
  obtain ⟨j, hj⟩ := List.mem_iff_getElem?.1 ht
  have hlt : j < d.tasks.length := hlen ▸ (List.getElem?_eq_some_iff.1 hj).1
  cases hp : t.phase with
  | accepted => exact absurd hp (hall.known t ht)
  | waiting =>
    have hperm : t.permit = false := by
      by_contra hperm
      have hgr : t.granted = true := by simpa [Task.granted, hp] using hperm
      exact Nat.not_le_of_lt hlt (hg j ((hl.granted j).2 ((has_of_task hj _).trans hgr)))
    simp [Task.rests, hp, hperm, hall.lasting j t hlt hj hp]
  | running | ended => simp [Task.rests, hp]

end Dispatcher

namespace Board

variable {b : Board} {g a : List TaskId} {limit : Nat} {events : List Event}

theorem after_append (b : Board) (events later : List Event) :
    b.after (events ++ later) = (b.after events).after later := List.foldl_append

theorem Steady.append {later : List Event} (hs : b.Steady events)
    (hl : (b.after events).Steady later) : b.Steady (events ++ later) := by
  induction events generalizing b with
  | nil => exact hl
  | cons e events ih =>
    cases e with
    | act s => exact ⟨hs.1, ih hs.2 hl⟩
    | turn i linkFirst => exact ih (b := b.turn i linkFirst) hs hl

/-- What waiting tasks do between two steps are turns. -/
theorem exists_turns (tasks : List TaskId) (b : Board) :
    ∃ turns : List (TaskId × Bool),
      { b with dispatcher := tasks.foldl (Dispatcher.settleTask b.hasEnded) b.dispatcher } =
        b.after (turns.map fun x => .turn x.1 x.2) := by
  induction tasks generalizing b with
  | nil => exact ⟨[], rfl⟩
  | cons i tasks ih =>
    obtain ⟨turns, hturns⟩ :=
      ih { b with dispatcher := b.dispatcher.settleTask b.hasEnded i }
    have hstep : b.dispatcher.settleTask b.hasEnded i = b.dispatcher ∨
        b.dispatcher.settleTask b.hasEnded i = b.dispatcher.turn b.hasEnded i true := by
      unfold Dispatcher.settleTask
      split
      · exact .inl rfl
      · split
        · exact .inr rfl
        · exact .inl rfl
    rcases hstep with heq | heq
    · rw [heq] at hturns
      refine ⟨turns, ?_⟩
      rw [List.foldl_cons, heq]
      exact hturns
    · rw [heq] at hturns
      refine ⟨(i, true) :: turns, ?_⟩
      rw [List.foldl_cons, heq]
      exact hturns

theorem steady_turns (turns : List (TaskId × Bool)) (b : Board) :
    b.Steady (turns.map fun x => .turn x.1 x.2) := by
  induction turns generalizing b with
  | nil => trivial
  | cons x turns ih => exact ih (b.turn x.1 x.2)

/-- Only the request that came in a step is new. -/
theorem known_of_act (hs : b.Still) (s : Step) (j : TaskId) (t : Task)
    (hne : b.dispatcher.tasks.length ≠ j)
    (ht : (b.apply (.act s)).dispatcher.tasks[j]? = some t) : t.phase ≠ .accepted := by
  have hstill : ∀ t, b.dispatcher.tasks[j]? = some t → t.phase ≠ .accepted := fun t ht hph => by
    have hr := still_iff.1 hs t (List.mem_of_getElem? ht)
    rw [Task.rests, hph] at hr
    cases hr
  have hput : ∀ {d' : Dispatcher} {k p}, Dispatcher.Puts b.dispatcher d' k p → p ≠ .accepted →
      d'.tasks[j]? = some t → t.phase ≠ .accepted := fun {d' k p} hp hne ht hph => by
    obtain ⟨-, t₀, ht₀, -, -, hph₀⟩ := hp.old ht (by rw [hph]; exact hne.symm)
    exact hstill t₀ ht₀ (hph₀ ▸ hph)
  have hch := b.apply_change (.act s)
  revert hch ht
  generalize (b.apply (.act s)).dispatcher = d'
  intro ht hch
  cases hch with
  | stay => exact hstill t ht
  | accept ha =>
    rcases getElem?_concat_cases ht with hold | ⟨rfl, -⟩
    · exact hstill t hold
    · exact absurd rfl hne
  | finish hr => exact hput (Dispatcher.puts_retire _ _) (by decide) ht
  | abort => exact hput (Dispatcher.puts_retire _ _) (by decide) ht

/-- A step that is run to its end is a steady schedule, after which no task can proceed. -/
theorem step_steady (hs : b.Still) (hl : b.dispatcher.Lined g a) (hb : b.dispatcher.Balanced limit)
    (s : Step) :
    ∃ events, b.Steady events ∧ (b.step s).2 = b.after events ∧ (b.step s).2.Still := by
  let c := b.apply (.act s)
  let next := c.turn b.dispatcher.tasks.length true
  obtain ⟨g₁, a₁, hl₁⟩ : ∃ g a, c.dispatcher.Lined g a := lined_apply hl hb fun _ _ => hs
  have hb₁ : c.dispatcher.Balanced limit := hb.change (b.apply_change _)
  obtain ⟨g₂, a₂, hl₂⟩ : ∃ g a, next.dispatcher.Lined g a :=
    lined_apply (e := .turn b.dispatcher.tasks.length true) hl₁ hb₁ nofun
  have hb₂ : next.dispatcher.Balanced limit :=
    hb₁.change (c.apply_change (.turn b.dispatcher.tasks.length true))
  have hknown : ∀ t ∈ next.dispatcher.tasks, t.phase ≠ .accepted :=
    Dispatcher.turn_known c.dispatcher true fun j t => known_of_act hs s j t
  have hsettled : next.dispatcher.SettledBelow next.hasEnded limit 0 :=
    ⟨hb₂, ⟨g₂, a₂, hl₂, fun _ _ => Nat.zero_le _⟩, hknown, nofun⟩
  obtain ⟨turns, hturns⟩ := exists_turns (List.range next.dispatcher.tasks.length) next
  let rest : List Event := turns.map fun x => .turn x.1 x.2
  exact ⟨.act s :: .turn b.dispatcher.tasks.length true :: rest, ⟨hs, steady_turns turns next⟩,
    hturns, still_iff.2 hsettled.settle⟩

/-- Where requests wait, steps that are run to their ends make a steady schedule. -/
theorem run_steady (n : Nat) (steps : List Step) :
    let start := Board.new ⟨some n, .queue⟩
    ∃ events, start.Steady events ∧ start.run steps = start.after events ∧
      (start.run steps).Still := by
  intro start
  have hrun : ∀ (b : Board) {g a limit}, b.Still → b.dispatcher.Lined g a →
      b.dispatcher.Balanced limit → ∃ events, b.Steady events ∧ b.run steps = b.after events ∧
        (b.run steps).Still := by
    induction steps with
    | nil => exact fun b _ _ _ hs _ _ => ⟨[], trivial, rfl, hs⟩
    | cons s steps ih =>
      intro b g a limit hs hl hb
      obtain ⟨events, hsteady, hafter, hstill⟩ := step_steady hs hl hb s
      have hb' : (b.step s).2.dispatcher.Balanced limit := by
        rw [hafter]
        exact after_keeps (P := Dispatcher.Balanced limit) Dispatcher.Balanced.change events b hb
      obtain ⟨g', a', hl'⟩ : ∃ g a, (b.step s).2.dispatcher.Lined g a := by
        rw [hafter]
        exact (lined_after hl hb hsteady).1
      obtain ⟨later, hsteady', hafter', hstill'⟩ := ih (b.step s).2 hstill hl' hb'
      refine ⟨events ++ later, hsteady.append (hafter ▸ hsteady'), ?_, hstill'⟩
      rw [after_append, ← hafter]
      exact hafter'
  refine hrun start (still_iff.2 nofun) (Dispatcher.new_lined n) (Dispatcher.new_balanced n .queue)

end Board

end Tunnel
