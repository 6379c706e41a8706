import Tunnel.Proofs.Dispatch.Lasting

/-!
# Tasks that part

Where no task can proceed, nobody who waits has a permit. When a link ends then, those who waited on
it have one thing to do, and nobody else has: they leave the line with nothing to give back. So no
permit changes hands and nobody starts, in whatever order the tasks get their turns.
-/
namespace Tunnel

def Task.waitsOn (l : LinkId) (t : Task) : Bool := t.phase = .waiting && t.link = l

def Task.abandoned (t : Task) : Task := { t with phase := .ended, permit := false }

def Task.parted (l : LinkId) (t : Task) : Task := if t.waitsOn l then t.abandoned else t

def Task.over (t : Task) : Bool := t.phase = .ended

theorem Task.waitsOn_iff {l : LinkId} {t : Task} :
    t.waitsOn l = true ↔ t.phase = .waiting ∧ t.link = l := by
  rw [waitsOn, Bool.and_eq_true, decide_eq_true_iff, decide_eq_true_iff]

namespace Dispatcher

variable {ended ended' : LinkId → Bool} {d d' : Dispatcher} {i j : TaskId} {t : Task} {l : LinkId}

/-- Of the tasks that waited on a link some have been abandoned, and nothing else has happened. -/
structure Parting (l : LinkId) (d d' : Dispatcher) : Prop where
  overflow : d'.overflow = d.overflow
  runs : d'.runs = d.runs
  length : d'.tasks.length = d.tasks.length
  task : ∀ {i : TaskId} {t : Task}, d.tasks[i]? = some t →
    d'.tasks[i]? = some t ∨ t.waitsOn l = true ∧ d'.tasks[i]? = some t.abandoned
  permits : d'.permits = d.permits.map fun p =>
    { p with line := p.line.filter fun i => !d'.has i Task.over }

theorem Parting.refl (ho : d.Orderly) (l : LinkId) : d.Parting l d := by
  refine ⟨rfl, rfl, rfl, .inl, ?_⟩
  cases hp : d.permits with
  | none => rfl
  | some p =>
    have hkeep : p.line.filter (fun i => !d.has i Task.over) = p.line := by
      refine List.filter_eq_self.2 fun i hi => ?_
      obtain ⟨t, ht, hw⟩ := ho.waiting i (line_eq hp ▸ hi)
      rw [has_of_task ht, Task.over, hw]
      rfl
    rw [Option.map_some, hkeep]

/-- One more task is abandoned. It has no permit to give back. -/
theorem Parting.retire (hp : d.Parting l d') (ho : d.Orderly) (ht : d.tasks[i]? = some t)
    (ht' : d'.tasks[i]? = some t) (hw : t.waitsOn l = true) (hn : t.permit = false) :
    d.Parting l (d'.retire i) := by
  have hphase := (Task.waitsOn_iff.1 hw).1
  have hleave : d'.retire i = d'.leave i t := by
    rcases d'.retire_cases i with ⟨-, hall⟩ | ⟨t₀, ht₀, -, hretire⟩
    · rw [hall t ht'] at hphase
      cases hphase
    · obtain rfl : t = t₀ := Option.some.inj (ht'.symm.trans ht₀)
      rw [hretire, hn]
      rfl
  have htasks : (d'.leave i t).tasks = d'.tasks.modify i Task.abandoned := rfl
  rw [hleave]
  refine ⟨hp.overflow, hp.runs, ?_, fun {j t₁} hj => ?_, ?_⟩
  · rw [htasks, List.length_modify]
    exact hp.length
  · rw [htasks, List.getElem?_modify]
    by_cases hij : i = j
    · subst hij
      obtain rfl : t = t₁ := Option.some.inj (ht.symm.trans hj)
      exact .inr ⟨hw, by simp [ht']⟩
    · simpa [hij] using hp.task hj
  · have hhas : ∀ j, (d'.leave i t).has j Task.over = (decide (i = j) || d'.has j Task.over) := by
      intro j
      rw [has_modify ht' htasks]
      by_cases hij : i = j
      · simp [hij, Task.over, Task.abandoned]
      · simp [hij]
    have hpermits : (d'.leave i t).permits = d'.permits.map fun p =>
        { p with line := p.line.erase i } := rfl
    rw [hpermits, hp.permits, Option.map_map]
    cases hq : d.permits with
    | none => rfl
    | some p =>
      have hnodup : p.line.Nodup := line_eq hq ▸ ho.nodup
      simp only [Option.map_some, Function.comp_apply, Option.some.injEq, Permits.mk.injEq,
        true_and]
      rw [List.Nodup.erase_eq_filter (hnodup.filter _), List.filter_filter]
      refine List.filter_congr fun j _ => ?_
      rw [hhas]
      by_cases hij : i = j
      · simp [hij]
      · simp [hij, Ne.symm hij]

/-- The tasks of a dispatcher at rest are as they are for good, but for those whose link ends. -/
theorem Parting.turn (hp : d.Parting l d') (ho : d.Orderly)
    (hrest : ∀ t ∈ d.tasks, t.rests ended = true)
    (hended : ∀ k, ended' k = (decide (k = l) || ended k)) (i : TaskId) (linkFirst : Bool) :
    d.Parting l (d'.turn ended' i linkFirst) ∧
      ∀ t, d.tasks[i]? = some t → t.waitsOn l = true →
        (d'.turn ended' i linkFirst).tasks[i]? = some t.abandoned := by
  cases ht : d.tasks[i]? with
  | none =>
    have hnone : d'.tasks[i]? = none := by
      rw [List.getElem?_eq_none_iff, hp.length]
      exact List.getElem?_eq_none_iff.1 ht
    rw [turn_of_none hnone]
    exact ⟨hp, nofun⟩
  | some t =>
    have hr := hrest t (List.mem_of_getElem? ht)
    have hself : ∀ {x}, d'.turn ended' i linkFirst = d' → d'.tasks[i]? = some x →
        (t.waitsOn l = true → x = t.abandoned) →
        d.Parting l (d'.turn ended' i linkFirst) ∧ ∀ t', some t = some t' → t'.waitsOn l = true →
          (d'.turn ended' i linkFirst).tasks[i]? = some t'.abandoned := by
      intro x heq hx hab
      rw [heq]
      refine ⟨hp, fun t' htt hw => ?_⟩
      obtain rfl := Option.some.inj htt
      rw [hx, hab hw]
    rcases hp.task ht with ht' | ⟨hw, ht'⟩
    · cases hph : t.phase with
      | accepted => rw [Task.rests, hph] at hr; cases hr
      | waiting =>
        simp only [Task.rests, hph, Bool.and_eq_true, Bool.not_eq_true'] at hr
        by_cases hl : t.link = l
        · have hw : t.waitsOn l = true := Task.waitsOn_iff.2 ⟨hph, hl⟩
          have hturn : d'.turn ended' i linkFirst = d'.retire i := by
            simp [Dispatcher.turn, ht', hph, hr.1, hended, hl]
          have hparting := hp.retire ho ht ht' hw hr.1
          rw [hturn]
          refine ⟨hparting, fun t' htt _ => ?_⟩
          obtain rfl := Option.some.inj htt
          rcases hparting.task ht with hsame | ⟨-, hgone⟩
          · obtain ⟨t₁, ht₁, hend⟩ := (puts_retire d' i).self ht'
            obtain rfl : t₁ = t := Option.some.inj (ht₁.symm.trans hsame)
            rw [hend] at hph
            cases hph
          · exact hgone
        · have hturn : d'.turn ended' i linkFirst = d' := by
            simp [Dispatcher.turn, ht', hph, hr, hended, hl]
          exact hself hturn ht' fun hw => absurd (Task.waitsOn_iff.1 hw).2 hl
      | running | ended =>
        refine hself (by simp [Dispatcher.turn, ht', hph]) ht' fun hw => ?_
        rw [(Task.waitsOn_iff.1 hw).1] at hph
        cases hph
    · exact hself (by simp [Dispatcher.turn, ht', Task.abandoned]) ht' fun _ => rfl

/-- Once all who waited on the link have been abandoned, the tasks are known. -/
theorem Parting.tasks_eq (hp : d.Parting l d')
    (hdone : ∀ (i : TaskId) (t : Task), d.tasks[i]? = some t → t.waitsOn l = true →
      d'.tasks[i]? = some t.abandoned) : d'.tasks = d.tasks.map (Task.parted l) := by
  refine List.ext_getElem? fun i => ?_
  rw [List.getElem?_map]
  cases ht : d.tasks[i]? with
  | none =>
    rw [Option.map_none, List.getElem?_eq_none_iff, hp.length]
    exact List.getElem?_eq_none_iff.1 ht
  | some t =>
    rw [Option.map_some, Task.parted]
    split_ifs with hw
    · exact hdone i t ht hw
    · exact (hp.task ht).resolve_right fun h => hw h.1

theorem Parting.permits_eq (hp : d.Parting l d') (ho : d.Orderly)
    (ht : d'.tasks = d.tasks.map (Task.parted l)) :
    d'.permits = d.permits.map fun p =>
      { p with line := p.line.filter fun i => !d.has i (Task.waitsOn l) } := by
  rw [hp.permits]
  cases hq : d.permits with
  | none => rfl
  | some p =>
    simp only [Option.map_some, Option.some.injEq, Permits.mk.injEq, true_and]
    refine List.filter_congr fun i hi => ?_
    obtain ⟨t, hti, hw⟩ := ho.waiting i (line_eq hq ▸ hi)
    have hti' : d'.tasks[i]? = some (t.parted l) := by rw [ht, List.getElem?_map, hti]; rfl
    rw [has_of_task hti, has_of_task hti', Task.parted]
    cases t.waitsOn l with
    | true => rfl
    | false => simp [Task.over, hw]

theorem Parting.settleTask (hp : d.Parting l d') (ho : d.Orderly)
    (hrest : ∀ t ∈ d.tasks, t.rests ended = true)
    (hended : ∀ k, ended' k = (decide (k = l) || ended k)) (i : TaskId) :
    d.Parting l (d'.settleTask ended' i) ∧
      ∀ t, d.tasks[i]? = some t → t.waitsOn l = true →
        (d'.settleTask ended' i).tasks[i]? = some t.abandoned := by
  have hturn := hp.turn ho hrest hended i true
  have hstay : (∀ t, d'.tasks[i]? = some t → t.phase ≠ .waiting) → d.Parting l d' ∧
      ∀ t, d.tasks[i]? = some t → t.waitsOn l = true → d'.tasks[i]? = some t.abandoned :=
    fun hne => ⟨hp, fun t ht hw => ((hp.task ht).resolve_left fun ht' =>
      hne t ht' (Task.waitsOn_iff.1 hw).1).2⟩
  unfold Dispatcher.settleTask
  cases ht : d'.tasks[i]? with
  | none => exact hstay fun t h => by rw [ht] at h; cases h
  | some t =>
    simp only
    split_ifs with hw
    · exact hturn
    · exact hstay fun t' h => Option.some.inj (ht.symm.trans h) ▸ hw

/-- When all have had their turns, all who waited on the link have been abandoned. -/
theorem Parting.settle (hp : d.Parting l d') (ho : d.Orderly)
    (hrest : ∀ t ∈ d.tasks, t.rests ended = true)
    (hended : ∀ k, ended' k = (decide (k = l) || ended k)) :
    d.Parting l (d'.settle ended') ∧
      ∀ (i : TaskId) (t : Task), d.tasks[i]? = some t → t.waitsOn l = true →
        (d'.settle ended').tasks[i]? = some t.abandoned := by
  have hpass : ∀ m, d.Parting l ((List.range m).foldl (Dispatcher.settleTask ended') d') ∧
      ∀ (i : TaskId) (t : Task), i < m → d.tasks[i]? = some t → t.waitsOn l = true →
        ∃ t', ((List.range m).foldl (Dispatcher.settleTask ended') d').tasks[i]? = some t' ∧
          t'.phase.unstarted = false := by
    intro m
    induction m with
    | zero => exact ⟨hp, nofun⟩
    | succ m ih =>
      rw [List.range_succ, List.foldl_append]
      obtain ⟨hparting, hgone⟩ := ih.1.settleTask ho hrest hended m
      refine ⟨hparting, fun i t hi ht hw => ?_⟩
      rcases Nat.lt_or_ge i m with hlt | hge
      · exact (settleTask_proceeds _ m).keeps
          (P := fun d => ∃ t, d.tasks[i]? = some t ∧ t.phase.unstarted = false)
          (fun h hm => hm.started h) (ih.2 i t hlt ht hw)
      · obtain rfl : i = m := Nat.le_antisymm (Nat.le_of_lt_succ hi) hge
        exact ⟨_, hgone t ht hw, rfl⟩
  obtain ⟨hparting, hall⟩ := hpass d'.tasks.length
  refine ⟨hparting, fun i t ht hw => ((hparting.task ht).resolve_left fun ht' => ?_).2⟩
  have hlt : i < d'.tasks.length := hp.length ▸ (List.getElem?_eq_some_iff.1 ht).1
  obtain ⟨t', ht'', hu⟩ := hall i t hlt ht hw
  rw [Option.some.inj (ht''.symm.trans ht'), (Task.waitsOn_iff.1 hw).1] at hu
  cases hu

end Dispatcher

end Tunnel
