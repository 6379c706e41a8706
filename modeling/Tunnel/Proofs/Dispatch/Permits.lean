import Tunnel.Proofs.Dispatch.Event

/-!
# Permits

No permit is lost and none is made: those that are free and those that live tasks hold are as many
as the limit, whatever happens. A running task holds one, so that no more tasks run than the limit
says.
-/
namespace Tunnel

/-- Whether a task holds a permit. A task that has ended holds none. -/
def Task.holds (t : Task) : Bool := t.permit && t.phase ≠ .ended

namespace Dispatcher

variable {ended : LinkId → Bool} {heeds : Bool} {d d' : Dispatcher} {i : TaskId} {t : Task}
  {e : Board.Event} {limit : Nat} {p : Permits}

def held (d : Dispatcher) : Nat := d.tasks.countP Task.holds

def running (d : Dispatcher) : Nat := d.tasks.countP fun t => t.phase = .running

/-- The permits add up. A running task has one, and a task in line has none. -/
structure Balanced (limit : Nat) (d : Dispatcher) : Prop where
  limited : d.permits.isSome = true
  total : d.free + d.held = limit
  running : ∀ t ∈ d.tasks, t.phase = .running → t.permit = true
  accepted : ∀ t ∈ d.tasks, t.phase = .accepted → t.permit = d.rejects
  lined : ∀ i ∈ d.line, ∃ t, d.tasks[i]? = some t ∧ t.phase = .waiting ∧ t.permit = false
  nodup : d.line.Nodup

theorem free_eq (hp : d.permits = some p) : d.free = p.free := by
  rw [free, hp]
  rfl

theorem line_eq (hp : d.permits = some p) : d.line = p.line := by
  rw [line, hp]
  rfl

theorem modifyPermits_eq (hp : d.permits = some p) (f : Permits → Permits) :
    (d.modifyPermits f).permits = some (f p) := by
  rw [modifyPermits, hp]
  rfl

theorem queues_congr {p' : Permits} (hp : d.permits = some p) (hp' : d'.permits = some p')
    (hover : d'.overflow = d.overflow) : d'.queues = d.queues := by
  rw [queues, queues, hover, hp, hp']
  rfl

theorem rejects_congr {p' : Permits} (hp : d.permits = some p) (hp' : d'.permits = some p')
    (hover : d'.overflow = d.overflow) : d'.rejects = d.rejects := by
  rw [rejects, rejects, hover, hp, hp']
  rfl

theorem new_balanced (n : Nat) (overflow : OverflowPolicy) :
    (new ⟨some n, overflow⟩).Balanced (min (max n 1) maxPermits) :=
  ⟨rfl, rfl, nofun, nofun, nofun, List.nodup_nil⟩

/-- What one task holds and what is free may change together. -/
theorem Balanced.put {limit' : Nat} (hb : d.Balanced limit) (ht : d.tasks[i]? = some t)
    {f : Task → Task} (htasks : d'.tasks = d.tasks.modify i f) (hover : d'.overflow = d.overflow)
    (hp : d'.permits = some p) (hrun : (f t).phase = .running → (f t).permit = true)
    (hacc : (f t).phase = .accepted → (f t).permit = d.rejects)
    (htotal : p.free + (f t).holds.toNat + limit = d.free + t.holds.toNat + limit')
    (hnodup : p.line.Nodup)
    (hline : ∀ j ∈ p.line,
      j ∈ d.line ∧ i ≠ j ∨ i = j ∧ (f t).phase = .waiting ∧ (f t).permit = false) :
    d'.Balanced limit' := by
  have hget : ∀ j, d'.tasks[j]? = d.tasks[j]?.map fun t => if i = j then f t else t := by
    intro j
    rw [htasks]
    exact modifyTask_getElem? d i f j
  have hself : d'.tasks[i]? = some (f t) := by rw [hget, ht, Option.map_some, if_pos rfl]
  have hother : ∀ {j}, i ≠ j → d'.tasks[j]? = d.tasks[j]? := fun {j} hij => by
    rw [hget]
    simp [hij]
  obtain ⟨p₀, hp₀⟩ := Option.isSome_iff_exists.1 hb.limited
  have hrej : d'.rejects = d.rejects := rejects_congr hp₀ hp hover
  have heach : ∀ {t'}, t' ∈ d'.tasks → t' = f t ∨ t' ∈ d.tasks := fun {t'} ht' => by
    obtain ⟨j, hj⟩ := List.mem_iff_getElem?.1 ht'
    by_cases hij : i = j
    · subst hij
      exact .inl (Option.some.inj (hj.symm.trans hself))
    · exact .inr (List.mem_of_getElem? (hother hij ▸ hj))
  refine ⟨by rw [hp]; rfl, ?_, fun t' ht' hph => ?_, fun t' ht' hph => ?_, fun j hj => ?_, ?_⟩
  · have hlen : d'.tasks.length = d.tasks.length := by rw [htasks, List.length_modify]
    have hcount := countP_of_eq_off (p := Task.holds) hlen ht hself fun j x y hij hx hy => by
      rw [hother hij, hx] at hy
      rw [Option.some.inj hy]
    have hold := hb.total
    rw [held] at hold ⊢
    rw [free_eq hp]
    omega
  · rcases heach ht' with rfl | hold
    · exact hrun hph
    · exact hb.running t' hold hph
  · rw [hrej]
    rcases heach ht' with rfl | hold
    · exact hacc hph
    · exact hb.accepted t' hold hph
  · rw [line_eq hp] at hj
    rcases hline j hj with ⟨hold, hij⟩ | ⟨rfl, hw⟩
    · rw [hother hij]
      exact hb.lined j hold
    · exact ⟨f t, hself, hw⟩
  · rw [line_eq hp]
    exact hnodup

/-- Who is in line waits and has no permit. -/
theorem Balanced.not_mem_line (hb : d.Balanced limit) (ht : d.tasks[i]? = some t)
    (h : t.phase = .waiting → t.permit = true) : i ∉ d.line := by
  intro hi
  obtain ⟨t₀, ht₀, hw, hn⟩ := hb.lined i hi
  obtain rfl : t = t₀ := Option.some.inj (ht.symm.trans ht₀)
  rw [h hw] at hn
  cases hn

/-- A task that has a permit starts with it. -/
theorem Balanced.start (hb : d.Balanced limit) (ht : d.tasks[i]? = some t)
    (hph : t.phase.unstarted = true) (hperm : t.permit = true) : (d.start i).Balanced limit := by
  obtain ⟨p, hp⟩ := Option.isSome_iff_exists.1 hb.limited
  have hnot := hb.not_mem_line ht fun _ => hperm
  have hlive : t.phase ≠ .ended := by
    intro he
    rw [he] at hph
    cases hph
  refine hb.put (p := p) ht rfl rfl hp (fun _ => hperm) nofun ?_ (line_eq hp ▸ hb.nodup)
    fun j hj => ?_
  · rw [free_eq hp]
    simp [Task.holds, hperm, hlive]
  · rw [← line_eq hp] at hj
    exact .inl ⟨hj, fun hij => hnot (hij ▸ hj)⟩

/-- A task that takes a free permit starts with it. -/
theorem Balanced.take (hb : d.Balanced limit) (ht : d.tasks[i]? = some t)
    (hph : t.phase = .accepted) (hperm : t.permit = false) (hf : d.free ≠ 0) :
    ((d.takePermit.grant i).start i).Balanced limit := by
  obtain ⟨p, hp⟩ := Option.isSome_iff_exists.1 hb.limited
  have hnot := hb.not_mem_line ht fun hw => by rw [hph] at hw; cases hw
  have htasks : ((d.takePermit.grant i).start i).tasks =
      d.tasks.modify i fun t => { t with permit := true, phase := .running } := by
    change (d.tasks.modify i _).modify i _ = _
    rw [List.modify_modify_eq]
    rfl
  have hp' : ((d.takePermit.grant i).start i).permits = some { p with free := p.free - 1 } :=
    modifyPermits_eq hp _
  refine hb.put ht htasks rfl hp' (fun _ => rfl) nofun ?_ (line_eq hp ▸ hb.nodup) fun j hj => ?_
  · rw [free_eq hp] at hf ⊢
    simp only [Task.holds, hperm, Bool.true_and, Bool.false_and, Bool.toNat_false]
    have hone : (decide (TaskPhase.running ≠ .ended)).toNat = 1 := rfl
    omega
  · have hj' : j ∈ d.line := line_eq hp ▸ hj
    exact .inl ⟨hj', fun hij => hnot (hij ▸ hj')⟩

/-- A task that has no permit gets in line. -/
theorem Balanced.join (hb : d.Balanced limit) (ht : d.tasks[i]? = some t)
    (hph : t.phase = .accepted) (hperm : t.permit = false) : (d.join i).Balanced limit := by
  obtain ⟨p, hp⟩ := Option.isSome_iff_exists.1 hb.limited
  have hnot := hb.not_mem_line ht fun hw => by rw [hph] at hw; cases hw
  rw [line_eq hp] at hnot
  have hp' : (d.join i).permits = some { p with line := p.line ++ [i] } := modifyPermits_eq hp _
  refine hb.put ht rfl rfl hp' nofun nofun ?_ ?_ fun j hj => ?_
  · rw [free_eq hp]
    simp [Task.holds, hperm]
  · refine List.nodup_append.2 ⟨line_eq hp ▸ hb.nodup, List.pairwise_singleton _ _, ?_⟩
    rintro j hj _ hlast rfl
    exact hnot (List.mem_singleton.1 hlast ▸ hj)
  · rcases List.mem_append.1 hj with hj | hj
    · exact .inl ⟨line_eq hp ▸ hj, fun hij => hnot (hij ▸ hj)⟩
    · exact .inr ⟨(List.mem_singleton.1 hj).symm, rfl, hperm⟩

/-- A permit that is given back is free, or the first in line has it. -/
theorem Balanced.release (hb : d.Balanced limit) : d.release.Balanced (limit + 1) := by
  obtain ⟨p, hp⟩ := Option.isSome_iff_exists.1 hb.limited
  unfold Dispatcher.release
  cases hline : d.line with
  | nil =>
    have hp' : (d.modifyPermits fun p => { p with free := p.free + 1 }).permits =
        some { p with free := p.free + 1 } := modifyPermits_eq hp _
    have htotal := hb.total
    have hnil : p.line = [] := line_eq hp ▸ hline
    refine ⟨by rw [hp']; rfl, ?_, hb.running, ?_, ?_, ?_⟩
    · rw [free_eq hp] at htotal
      rw [free_eq hp']
      change p.free + 1 + d.held = limit + 1
      omega
    · rw [rejects_congr hp hp' rfl]
      exact hb.accepted
    · rw [line_eq hp', hnil]
      exact nofun
    · rw [line_eq hp', hnil]
      exact List.nodup_nil
  | cons k line =>
    have hnodup := hb.nodup
    rw [hline, List.nodup_cons] at hnodup
    obtain ⟨t, ht, hw, hn⟩ := hb.lined k (hline ▸ List.mem_cons_self)
    have hp' : ((d.modifyPermits fun p => { p with line }).grant k).permits =
        some { p with line } := modifyPermits_eq hp _
    refine hb.put ht rfl rfl hp' (fun hr => ?_) (fun ha => ?_) ?_ hnodup.2 fun j hj => ?_
    · exact absurd (hw.symm.trans hr) nofun
    · exact absurd (hw.symm.trans ha) nofun
    · rw [free_eq hp]
      simp [Task.holds, hn, hw]
      omega
    · refine .inl ⟨hline ▸ List.mem_cons_of_mem k hj, ?_⟩
      rintro rfl
      exact hnodup.1 hj

/-- A task that ends leaves the line, and the permit that it has is in nobody's hands. -/
theorem Balanced.leave {limit' : Nat} (hb : d.Balanced limit) (ht : d.tasks[i]? = some t)
    (hl : t.phase ≠ .ended) (hlimit : limit = limit' + t.permit.toNat) :
    (d.leave i t).Balanced limit' := by
  obtain ⟨p, hp⟩ := Option.isSome_iff_exists.1 hb.limited
  have hp' : (d.leave i t).permits = some { p with line := p.line.erase i } :=
    modifyPermits_eq hp _
  have hnodup : p.line.Nodup := line_eq hp ▸ hb.nodup
  refine hb.put ht rfl rfl hp' nofun nofun ?_ (hnodup.erase i) fun j hj => ?_
  · rw [free_eq hp]
    simp [Task.holds, hl]
    omega
  · have hj' := hnodup.mem_erase_iff.1 hj
    exact .inl ⟨line_eq hp ▸ hj'.2, Ne.symm hj'.1⟩

/-- A task that ends leaves the line, and what it holds is given back. -/
theorem Balanced.retire (hb : d.Balanced limit) (i : TaskId) : (d.retire i).Balanced limit := by
  rcases d.retire_cases i with ⟨hsame, -⟩ | ⟨t, ht, hl, hretire⟩
  · rw [hsame]
    exact hb
  · rw [hretire]
    split_ifs with hperm
    · -- who has a permit is one of those that are counted
      have hpos : 0 < d.held := List.countP_pos_iff.2
        ⟨t, List.mem_of_getElem? ht, by simp [Task.holds, hperm, hl]⟩
      have htotal := hb.total
      obtain ⟨m, rfl⟩ : ∃ m, limit = m + 1 := ⟨limit - 1, by omega⟩
      have hleave : (d.leave i t).Balanced m := hb.leave ht hl (by rw [hperm]; rfl)
      exact hleave.release
    · exact hb.leave ht hl (by simp [hperm])

/-- Where requests may be turned away, an accepted one has a permit at once. -/
theorem Balanced.accept (hb : d.Balanced limit) (ha : d.admits = true) (r : Request) (l : LinkId) :
    (d.accept r l).Balanced limit := by
  obtain ⟨p, hp⟩ := Option.isSome_iff_exists.1 hb.limited
  have htasks : (d.accept r l).tasks = d.tasks ++ [⟨r, l, .accepted, d.rejects⟩] := rfl
  have hheld : (d.accept r l).held = d.held + d.rejects.toNat := by
    rw [held, htasks, List.countP_append, held]
    cases d.rejects <;> rfl
  obtain ⟨p', hp', hfree, hline⟩ : ∃ p', (d.accept r l).permits = some p' ∧
      p'.free + d.rejects.toNat = p.free ∧ p'.line = p.line := by
    have hpermits : (d.accept r l).permits = if d.rejects then d.takePermit.permits else d.permits :=
      rfl
    rw [hpermits]
    cases hr : d.rejects with
    | false => exact ⟨p, hp, rfl, rfl⟩
    | true =>
      have hfree : 0 < d.free := by simpa [admits, hr] using ha
      refine ⟨{ p with free := p.free - 1 }, modifyPermits_eq hp _, ?_, rfl⟩
      rw [free_eq hp] at hfree
      change p.free - 1 + 1 = p.free
      omega
  have hrej : (d.accept r l).rejects = d.rejects := rejects_congr hp hp' rfl
  have hold : ∀ t ∈ (d.accept r l).tasks, t ∈ d.tasks ∨ t = ⟨r, l, .accepted, d.rejects⟩ :=
    fun t ht => by
      rw [htasks] at ht
      exact (List.mem_append.1 ht).imp_right List.mem_singleton.1
  refine ⟨by rw [hp']; rfl, ?_, fun t ht hph => ?_, fun t ht hph => ?_, fun j hj => ?_, ?_⟩
  · have htotal := hb.total
    rw [free_eq hp] at htotal
    rw [free_eq hp', hheld]
    omega
  · rcases hold t ht with ht | rfl
    · exact hb.running t ht hph
    · cases hph
  · rw [hrej]
    rcases hold t ht with ht | rfl
    · exact hb.accepted t ht hph
    · rfl
  · rw [line_eq hp', hline, ← line_eq hp] at hj
    obtain ⟨t, ht, hw⟩ := hb.lined j hj
    refine ⟨t, ?_, hw⟩
    rw [htasks, List.getElem?_append_left (List.getElem?_eq_some_iff.1 ht).1]
    exact ht
  · rw [line_eq hp', hline, ← line_eq hp]
    exact hb.nodup

theorem Balanced.rejects_eq (hb : d.Balanced limit) : d.rejects = !d.queues := by
  rw [rejects, queues, hb.limited]
  cases d.overflow <;> rfl

/-- A task that is new has a permit, unless requests wait. -/
theorem Balanced.permit_of_accepted (hb : d.Balanced limit) (ht : d.tasks[i]? = some t)
    (hp : t.phase = .accepted) : t.permit = !d.queues :=
  hb.rejects_eq ▸ hb.accepted t (List.mem_of_getElem? ht) hp

theorem Balanced.move (hb : d.Balanced limit) (hm : Move ended heeds d i d') :
    d'.Balanced limit := by
  cases hm with
  | abandon => exact hb.retire i
  | join ht hp hq => exact hb.join ht hp (by rw [hb.permit_of_accepted ht hp, hq]; rfl)
  | take ht hp hq hf => exact hb.take ht hp (by rw [hb.permit_of_accepted ht hp, hq]; rfl) hf
  | start ht hp =>
    rcases hp with ⟨hp, hq⟩ | ⟨hp, hw⟩
    · exact hb.start ht (by rw [hp]; rfl) (by rw [hb.permit_of_accepted ht hp, hq]; rfl)
    · exact hb.start ht (by rw [hp]; rfl) hw

theorem Balanced.change (hb : d.Balanced limit) (hch : Board.Change ended d e d') :
    d'.Balanced limit := by
  cases hch with
  | stay => exact hb
  | accept ha => exact hb.accept ha _ _
  | finish hr => exact hb.retire _
  | abort => exact hb.retire _
  | move hm => exact hb.move hm

theorem Balanced.running_le (hb : d.Balanced limit) : d.running ≤ d.held := by
  refine List.countP_mono_left fun t ht hr => ?_
  have hph : t.phase = .running := of_decide_eq_true hr
  rw [Task.holds, hb.running t ht hph, hph]
  rfl

theorem held_eq_zero (hall : ∀ t ∈ d.tasks, t.phase = .ended) : d.held = 0 := by
  refine List.countP_eq_zero.2 fun t ht => ?_
  simp [Task.holds, hall t ht]

end Dispatcher

namespace Board

/-- After every schedule, with a limit and either policy: no more tasks run than there are permits,
the permits that are free and those that are held by tasks that have not ended add up to all of
them, and all are free when all tasks have ended. -/
theorem permits_conserved (n : Nat) (overflow : OverflowPolicy) (events : List Event) :
    let limit := min (max n 1) maxPermits
    let d := ((Board.new ⟨some n, overflow⟩).after events).dispatcher
    d.running ≤ limit ∧
    (∃ p, d.permits = some p ∧ p.free + d.held = limit) ∧
    ((∀ t ∈ d.tasks, t.phase = .ended) → ∃ p, d.permits = some p ∧ p.free = limit) := by
  intro limit d
  have hb : d.Balanced limit :=
    after_keeps (P := Dispatcher.Balanced limit) Dispatcher.Balanced.change events
      (Board.new ⟨some n, overflow⟩) (Dispatcher.new_balanced n overflow)
  obtain ⟨p, hp⟩ := Option.isSome_iff_exists.1 hb.limited
  have htotal : p.free + d.held = limit := Dispatcher.free_eq hp ▸ hb.total
  refine ⟨Nat.le_trans hb.running_le (Nat.le.intro (Nat.add_comm .. ▸ htotal)), ⟨p, hp, htotal⟩,
    fun hall => ⟨p, hp, ?_⟩⟩
  rwa [Dispatcher.held_eq_zero hall, Nat.add_zero] at htotal

end Board

end Tunnel
