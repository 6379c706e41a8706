import Tunnel.Proofs.Dispatch.Permits

/-!
# Who comes next

Where requests wait, all tasks that have started, then the task that was given a permit, then those
in line, then the task that is new, are in the order of acceptance. A start, a wait and a permit
that is handed over move the borders between these and leave the order as it is; a task that ends
before it has started is left out.
-/
namespace Tunnel

def Task.granted (t : Task) : Bool := t.phase = .waiting && t.permit

def Task.lined (t : Task) : Bool := t.phase = .waiting && !t.permit

def Task.fresh (t : Task) : Bool := t.phase = .accepted

def Task.runs (t : Task) : Bool := t.phase = .running

def Task.started (t : Task) : Bool := !t.phase.unstarted

theorem Task.unstarted_cases {t : Task} (h : t.phase.unstarted = true) :
    t.granted = true ∨ t.lined = true ∨ t.fresh = true := by
  cases hp : t.phase with
  | accepted => exact .inr (.inr (by simp [fresh, hp]))
  | waiting =>
    cases hperm : t.permit with
    | true => exact .inl (by simp [granted, hp, hperm])
    | false => exact .inr (.inl (by simp [lined, hp, hperm]))
  | running | ended => rw [hp] at h; cases h

namespace Dispatcher

variable {ended : LinkId → Bool} {heeds : Bool} {d d' : Dispatcher} {i j : TaskId} {t : Task}
  {g a g' a' : List TaskId} {limit : Nat}

def has (d : Dispatcher) (i : TaskId) (q : Task → Bool) : Bool := d.tasks[i]?.any q

theorem has_of_task (ht : d.tasks[i]? = some t) (q : Task → Bool) : d.has i q = q t := by
  rw [has, ht]
  rfl

theorem exists_of_has {q : Task → Bool} (h : d.has i q = true) :
    ∃ t, d.tasks[i]? = some t ∧ q t = true := by
  unfold has at h
  cases ht : d.tasks[i]? with
  | none => rw [ht] at h; cases h
  | some t =>
    rw [ht] at h
    exact ⟨t, rfl, h⟩

theorem has_modify (ht : d.tasks[i]? = some t) {f : Task → Task}
    (htasks : d'.tasks = d.tasks.modify i f) (j : TaskId) (q : Task → Bool) :
    d'.has j q = if i = j then q (f t) else d.has j q := by
  have hget : d'.tasks[j]? = d.tasks[j]?.map fun t => if i = j then f t else t := by
    rw [htasks]
    exact modifyTask_getElem? d i f j
  rw [has, hget]
  by_cases hij : i = j
  · subst hij
    rw [ht, Option.map_some, if_pos rfl, if_pos rfl]
    rfl
  · simp only [hij, if_false, Option.map_id']
    rfl

/-- The tasks that have started, those that have a permit to start with, those in line and those
that are new are all tasks but those that ended before they started, in order. At most one task is
new or has a permit to start with, and nobody is in line while a permit is free. -/
structure Lined (d : Dispatcher) (g a : List TaskId) : Prop where
  queues : d.queues = true
  one : g.length + a.length ≤ 1
  granted : ∀ i, i ∈ g ↔ d.has i Task.granted = true
  lined : ∀ i, i ∈ d.line ↔ d.has i Task.lined = true
  fresh : ∀ i, i ∈ a ↔ d.has i Task.fresh = true
  sorted : (d.runs ++ (g ++ (d.line ++ a))).Pairwise (· < ·)
  idle : d.free ≠ 0 → d.line = []
  started : ∀ i ∈ d.runs, d.has i Task.started = true
  running : ∀ i, d.has i Task.runs = true → i ∈ d.runs

theorem new_lined (n : Nat) : (new ⟨some n, .queue⟩).Lined [] [] :=
  ⟨rfl, Nat.zero_le _, by simp [has, new], by simp [has, new, line, DispatchConfig.limit?],
    by simp [has, new], .nil, fun _ => rfl, nofun, by simp [has, new]⟩

/-- One task changes, and the lists with it. -/
theorem Lined.put (hl : d.Lined g a) (ht : d.tasks[i]? = some t) {f : Task → Task}
    (htasks : d'.tasks = d.tasks.modify i f) (hq : d'.queues = d.queues)
    (hone : g'.length + a'.length ≤ 1)
    (hg : ∀ j, j ∈ g' ↔ if i = j then (f t).granted = true else j ∈ g)
    (hw : ∀ j, j ∈ d'.line ↔ if i = j then (f t).lined = true else j ∈ d.line)
    (ha : ∀ j, j ∈ a' ↔ if i = j then (f t).fresh = true else j ∈ a)
    (hsorted : (d'.runs ++ (g' ++ (d'.line ++ a'))).Pairwise (· < ·))
    (hidle : d'.free ≠ 0 → d'.line = [])
    (hstarted : ∀ j ∈ d'.runs, if i = j then (f t).started = true else j ∈ d.runs)
    (hruns : ∀ j, (if i = j then (f t).runs = true else j ∈ d.runs) → j ∈ d'.runs) :
    d'.Lined g' a' := by
  have hhas := has_modify ht htasks
  refine ⟨hq.trans hl.queues, hone, fun j => ?_, fun j => ?_, fun j => ?_, hsorted, hidle,
    fun j hj => ?_, fun j hj => ?_⟩
  · rw [hg, hhas, hl.granted]
    split <;> rfl
  · rw [hw, hhas, hl.lined]
    split <;> rfl
  · rw [ha, hhas, hl.fresh]
    split <;> rfl
  · have hj' := hstarted j hj
    rw [hhas]
    split_ifs at hj' ⊢
    · exact hj'
    · exact hl.started j hj'
  · refine hruns j ?_
    rw [hhas] at hj
    split_ifs at hj ⊢
    · exact hj
    · exact hl.running j hj

/-- Who has a permit to start with is the only one, and nobody is new. -/
theorem Lined.of_granted (hl : d.Lined g a) (hi : d.has i Task.granted = true) :
    g = [i] ∧ a = [] := by
  have hmem := (hl.granted i).2 hi
  have hone := hl.one
  have hpos := List.length_pos_of_mem hmem
  obtain ⟨j, rfl⟩ := List.length_eq_one_iff.1 (show g.length = 1 by omega)
  rw [List.mem_singleton.1 hmem]
  exact ⟨rfl, List.eq_nil_of_length_eq_zero (by simp only [List.length_singleton] at hone; omega)⟩

theorem Lined.of_fresh (hl : d.Lined g a) (hi : d.has i Task.fresh = true) : g = [] ∧ a = [i] := by
  have hmem := (hl.fresh i).2 hi
  have hone := hl.one
  have hpos := List.length_pos_of_mem hmem
  obtain ⟨j, rfl⟩ := List.length_eq_one_iff.1 (show a.length = 1 by omega)
  rw [List.mem_singleton.1 hmem]
  exact ⟨List.eq_nil_of_length_eq_zero (by simp only [List.length_singleton] at hone; omega), rfl⟩

/-- A task that has not started has none of those before it that started after it. -/
theorem Lined.lt_of_unstarted (hl : d.Lined g a) (hj : j ∈ d.runs) (ht : d.tasks[i]? = some t)
    (hu : t.phase.unstarted = true) : j < i := by
  refine (List.pairwise_append.1 hl.sorted).2.2 j hj i ?_
  rcases Task.unstarted_cases hu with h | h | h
  · exact List.mem_append_left _ ((hl.granted i).2 ((has_of_task ht _).trans h))
  · exact List.mem_append_right _
      (List.mem_append_left _ ((hl.lined i).2 ((has_of_task ht _).trans h)))
  · exact List.mem_append_right _
      (List.mem_append_right _ ((hl.fresh i).2 ((has_of_task ht _).trans h)))

theorem Lined.granted_lt (hl : d.Lined g a) (hi : d.has i Task.granted = true)
    (hj : j ∈ d.line) : i < j := by
  obtain ⟨-, hright, -⟩ := List.pairwise_append.1 hl.sorted
  exact (List.pairwise_append.1 hright).2.2 i ((hl.granted i).2 hi) j (List.mem_append_left _ hj)

theorem Lined.not_mem_runs (hl : d.Lined g a) (ht : d.tasks[i]? = some t)
    (hu : t.phase.unstarted = true) : i ∉ d.runs := fun hi =>
  Nat.lt_irrefl i (hl.lt_of_unstarted hi ht hu)

theorem Lined.exists_permits (hl : d.Lined g a) : ∃ p, d.permits = some p := by
  have hq := hl.queues
  rw [Dispatcher.queues, Bool.and_eq_true] at hq
  exact Option.isSome_iff_exists.1 hq.1

theorem Lined.nodup (hl : d.Lined g a) : (d.runs ++ (g ++ (d.line ++ a))).Nodup :=
  hl.sorted.imp Nat.ne_of_lt

/-! ## Moves

Each kind of move takes one task across a border: a new task gets in line or starts, the first in line
is given a permit, one with a permit starts, and any of them may end before it starts.
-/

theorem mem_iff_of_not_mem {L : List TaskId} {q : Bool} (hi : i ∉ L) (hq : q = false) (j : TaskId) :
    j ∈ L ↔ if i = j then q = true else j ∈ L := by
  split_ifs with hij
  · subst hij
    simp [hi, hq]
  · rfl

theorem mem_erase_iff {L : List TaskId} {q : Bool} (hn : L.Nodup) (hq : q = false) (j : TaskId) :
    j ∈ L.erase i ↔ if i = j then q = true else j ∈ L := by
  rw [hn.mem_erase_iff]
  split_ifs with hij
  · simp [hij, hq]
  · simp [Ne.symm hij]

theorem mem_nil_iff {q : Bool} (hq : q = false) (j : TaskId) :
    j ∈ [] ↔ if i = j then q = true else j ∈ [i] := by
  rw [← mem_erase_iff (List.pairwise_singleton _ i) hq, List.erase_cons_head]

theorem mem_concat_iff {L : List TaskId} {q : Bool} (hq : q = true) (j : TaskId) :
    j ∈ L ++ [i] ↔ if i = j then q = true else j ∈ L := by
  rw [List.mem_append, List.mem_singleton]
  split_ifs with hij
  · simp [hij, hq]
  · simp [Ne.symm hij]

/-- Who has a permit to start with starts, and comes after all who have started. -/
theorem Lined.start (hl : d.Lined g a) (ht : d.tasks[i]? = some t) (hgr : t.granted = true) :
    (d.start i).Lined [] [] := by
  obtain ⟨rfl, rfl⟩ := hl.of_granted ((has_of_task ht _).trans hgr)
  have hline : i ∉ d.line := by
    rw [hl.lined, has_of_task ht]
    rw [Task.granted, Bool.and_eq_true] at hgr
    simp [Task.lined, hgr.2]
  refine hl.put ht rfl rfl (Nat.zero_le _) (mem_nil_iff rfl) (mem_iff_of_not_mem hline rfl)
    (mem_iff_of_not_mem List.not_mem_nil rfl) ?_ hl.idle
    (fun j => (mem_concat_iff (q := true) rfl j).1) fun j => (mem_concat_iff (q := true) rfl j).2
  have hsorted := hl.sorted
  rw [← List.append_assoc] at hsorted
  exact hsorted

/-- Who takes a free permit is the only one who has not started. -/
theorem Lined.take (hl : d.Lined g a) (ht : d.tasks[i]? = some t) (hfr : t.fresh = true)
    (hfree : d.free ≠ 0) : ((d.takePermit.grant i).start i).Lined [] [] := by
  obtain ⟨rfl, rfl⟩ := hl.of_fresh ((has_of_task ht _).trans hfr)
  obtain ⟨p, hp⟩ := hl.exists_permits
  have hnil := hl.idle hfree
  have htasks : ((d.takePermit.grant i).start i).tasks =
      d.tasks.modify i fun t => { t with permit := true, phase := .running } := by
    change (d.tasks.modify i _).modify i _ = _
    rw [List.modify_modify_eq]
    rfl
  have hp' : ((d.takePermit.grant i).start i).permits = some { p with free := p.free - 1 } :=
    modifyPermits_eq hp _
  have hline : ((d.takePermit.grant i).start i).line = d.line := by rw [line_eq hp', line_eq hp]
  refine hl.put ht htasks (queues_congr hp hp' rfl) (Nat.zero_le _)
    (mem_iff_of_not_mem List.not_mem_nil rfl) ?_ (mem_nil_iff rfl) ?_ (fun _ => hline.trans hnil)
    (fun j => (mem_concat_iff (q := true) rfl j).1) fun j => (mem_concat_iff (q := true) rfl j).2
  · rw [hline, hnil]
    exact mem_iff_of_not_mem List.not_mem_nil rfl
  · have hsorted := hl.sorted
    rw [hnil] at hsorted
    rw [hline, hnil]
    change (d.runs ++ [i] ++ []).Pairwise _
    rw [List.append_nil]
    exact hsorted

/-- Who is new gets in line after the others. -/
theorem Lined.join (hl : d.Lined g a) (ht : d.tasks[i]? = some t) (hfr : t.fresh = true)
    (hperm : t.permit = false) (hfree : d.free = 0) : (d.join i).Lined [] [] := by
  obtain ⟨rfl, rfl⟩ := hl.of_fresh ((has_of_task ht _).trans hfr)
  obtain ⟨p, hp⟩ := hl.exists_permits
  have hp' : (d.join i).permits = some { p with line := p.line ++ [i] } := modifyPermits_eq hp _
  have hline : (d.join i).line = d.line ++ [i] := by rw [line_eq hp', line_eq hp]
  have hnot := hl.not_mem_runs ht (by
    rw [Task.fresh, decide_eq_true_iff] at hfr
    rw [hfr]
    rfl)
  have hstay := mem_iff_of_not_mem (q := false) hnot rfl
  refine hl.put ht rfl (queues_congr hp hp' rfl) (Nat.zero_le _)
    (mem_iff_of_not_mem List.not_mem_nil (by simp [Task.granted, hperm])) (fun j => ?_)
    (mem_nil_iff rfl) ?_ (fun hne => ?_) (fun j hj => ?_) fun j => (hstay j).2
  · rw [hline]
    exact mem_concat_iff (by simp [Task.lined, hperm]) j
  · rw [hline, List.append_nil]
    exact hl.sorted
  · rw [free_eq hp', ← free_eq hp] at hne
    exact absurd hfree hne
  · have hij : i ≠ j := fun hij => hnot (hij ▸ hj)
    rw [if_neg hij]
    exact hj

/-- A permit that is given back goes to the first in line. -/
theorem Lined.release (hl : d.Lined [] []) : ∃ g, d.release.Lined g [] ∧ ∀ j ∈ g, j ∈ d.line := by
  obtain ⟨p, hp⟩ := hl.exists_permits
  unfold Dispatcher.release
  cases hline : d.line with
  | nil =>
    have hp' : (d.modifyPermits fun p => { p with free := p.free + 1 }).permits =
        some { p with free := p.free + 1 } := modifyPermits_eq hp _
    have hsame : (d.modifyPermits fun p => { p with free := p.free + 1 }).line = d.line := by
      rw [line_eq hp', line_eq hp]
    refine ⟨[], ⟨?_, hl.one, hl.granted, ?_, hl.fresh, ?_, ?_, hl.started, hl.running⟩, nofun⟩
    · exact (queues_congr hp hp' rfl).trans hl.queues
    · rw [hsame]
      exact hl.lined
    · rw [hsame]
      exact hl.sorted
    · rw [hsame]
      exact fun _ => hline
  | cons k line =>
    have hp' : ((d.modifyPermits fun p => { p with line }).grant k).permits =
        some { p with line } := modifyPermits_eq hp _
    have hk : d.has k Task.lined = true := (hl.lined k).1 (hline ▸ List.mem_cons_self)
    obtain ⟨t, ht, hw⟩ := exists_of_has hk
    rw [Task.lined, Bool.and_eq_true, decide_eq_true_iff] at hw
    have hsorted := hl.sorted
    rw [hline] at hsorted
    have hnodup := hl.nodup
    rw [hline] at hnodup
    have hnodup' : (k :: line).Nodup := by
      have hright := (List.nodup_append.1 hnodup).2.1
      simpa using hright
    have hnot : k ∉ d.runs := hl.not_mem_runs ht (by rw [hw.1]; rfl)
    have hstay := mem_iff_of_not_mem (q := false) hnot rfl
    refine ⟨[k], hl.put ht rfl (queues_congr hp hp' rfl) (Nat.le_refl 1) (fun j => ?_) (fun j => ?_)
      (mem_iff_of_not_mem List.not_mem_nil ?_) ?_ (fun hne => ?_) (fun j hj => ?_) (fun j hj => ?_),
      fun j hj => List.mem_singleton.1 hj ▸ List.mem_cons_self⟩
    · rw [← mem_concat_iff (L := []) (by simp [Task.granted, hw.1]), List.nil_append]
    · rw [line_eq hp', hline, ← mem_erase_iff hnodup' (by simp [Task.lined]), List.erase_cons_head]
    · simp [Task.fresh, hw.1]
    · rw [line_eq hp']
      exact hsorted
    · rw [free_eq hp', ← free_eq hp] at hne
      rw [hl.idle hne] at hline
      cases hline
    · have hkj : k ≠ j := fun hkj => hnot (hkj ▸ hj)
      rw [if_neg hkj]
      exact hj
    · have hrun : Task.runs { t with permit := true } = false := by simp [Task.runs, hw.1]
      rw [hrun] at hj
      exact (hstay j).2 hj

@[simp] theorem leave_line (d : Dispatcher) (i : TaskId) (t : Task) :
    (d.leave i t).line = d.line.erase i := by
  have hpermits : (d.leave i t).permits = d.permits.map fun p =>
      { p with line := p.line.erase i } := rfl
  rw [line, line, hpermits]
  cases d.permits with
  | none => rfl
  | some p => rfl

theorem Lined.leave (hl : d.Lined g a) (ht : d.tasks[i]? = some t) :
    (d.leave i t).Lined (g.erase i) (a.erase i) := by
  obtain ⟨p, hp⟩ := hl.exists_permits
  have hp' : (d.leave i t).permits = some { p with line := p.line.erase i } :=
    modifyPermits_eq hp _
  have hline := leave_line d i t
  obtain ⟨-, hright, -⟩ := List.nodup_append.1 hl.nodup
  obtain ⟨hng, hright, -⟩ := List.nodup_append.1 hright
  obtain ⟨hnline, hna, -⟩ := List.nodup_append.1 hright
  refine hl.put ht rfl (queues_congr hp hp' rfl) ?_ (mem_erase_iff hng rfl) ?_
    (mem_erase_iff hna rfl) ?_ (fun hne => ?_) (fun j hj => ?_) fun j hj => ?_
  · have hlg := List.length_erase_le (a := i) (l := g)
    have hla := List.length_erase_le (a := i) (l := a)
    have hone := hl.one
    omega
  · rw [hline]
    exact mem_erase_iff hnline rfl
  · rw [hline]
    refine hl.sorted.sublist ?_
    exact (List.Sublist.refl _).append
      (List.erase_sublist.append (List.erase_sublist.append List.erase_sublist))
  · rw [free_eq hp', ← free_eq hp] at hne
    rw [hline, hl.idle hne]
    rfl
  · split_ifs
    · rfl
    · exact hj
  · split_ifs at hj
    · cases hj
    · exact hj

/-- Who ends is left out. A permit that it had was its own to start or to run with, and nobody else
has one to start with then, so that the first in line may get it. -/
theorem Lined.retire (hl : d.Lined g a) (hb : d.Balanced limit) (i : TaskId)
    (hcalm : ∀ t, d.tasks[i]? = some t → t.phase = .running → g = [] ∧ a = []) :
    ∃ g' a', (d.retire i).Lined g' a' ∧
      ∀ j ∈ g', j ∈ g ∨ j ∈ d.line ∧ ∃ t, d.tasks[i]? = some t ∧ t.permit = true := by
  rcases d.retire_cases i with ⟨hsame, -⟩ | ⟨t, ht, hlive, hretire⟩
  · rw [hsame]
    exact ⟨g, a, hl, fun _ => .inl⟩
  have hleave := hl.leave ht
  rw [hretire]
  split_ifs with hperm
  · have hnone : g.erase i = [] ∧ a.erase i = [] := by
      cases hph : t.phase with
      | accepted =>
        have hnot := hb.permit_of_accepted ht hph
        rw [hperm, hl.queues] at hnot
        cases hnot
      | waiting =>
        obtain ⟨rfl, rfl⟩ := hl.of_granted
          ((has_of_task ht _).trans (by simp [Task.granted, hph, hperm]))
        exact ⟨List.erase_cons_head i [], rfl⟩
      | running =>
        obtain ⟨rfl, rfl⟩ := hcalm t ht hph
        exact ⟨rfl, rfl⟩
      | ended => exact absurd hph hlive
    rw [hnone.1, hnone.2] at hleave
    obtain ⟨g', hg', hfirst⟩ := hleave.release
    refine ⟨g', [], hg', fun j hj => .inr ⟨?_, t, ht, hperm⟩⟩
    exact List.mem_of_mem_erase (leave_line d i t ▸ hfirst j hj)
  · exact ⟨_, _, hleave, fun j hj => .inl (List.mem_of_mem_erase hj)⟩

theorem has_accept (d : Dispatcher) (r : Request) (l : LinkId) (j : TaskId) (q : Task → Bool) :
    (d.accept r l).has j q =
      if j = d.tasks.length then q ⟨r, l, .accepted, d.rejects⟩ else d.has j q := by
  have htasks : (d.accept r l).tasks = d.tasks ++ [⟨r, l, .accepted, d.rejects⟩] := rfl
  rw [has, htasks]
  split_ifs with hj
  · rw [hj, List.getElem?_concat_length]
    rfl
  · rw [has]
    rcases Nat.lt_or_ge j d.tasks.length with hlt | hge
    · rw [List.getElem?_append_left hlt]
    · rw [List.getElem?_eq_none hge, List.getElem?_eq_none]
      rw [List.length_append]
      exact Nat.lt_of_le_of_ne hge (Ne.symm hj)

theorem lt_of_has {q : Task → Bool} (h : d.has j q = true) : j < d.tasks.length := by
  obtain ⟨t, ht, -⟩ := exists_of_has h
  exact (List.getElem?_eq_some_iff.1 ht).1

/-- Who is new comes after all others. -/
theorem Lined.accept (hl : d.Lined [] []) (r : Request) (l : LinkId) :
    (d.accept r l).Lined [] [d.tasks.length] := by
  have hrej : d.rejects = false := by
    have hq := hl.queues
    rw [Dispatcher.queues, Bool.and_eq_true, decide_eq_true_iff] at hq
    simp [rejects, hq.2]
  have hpermits : (d.accept r l).permits = d.permits := by
    rw [Dispatcher.accept, hrej]
    rfl
  have hline : (d.accept r l).line = d.line := by rw [line, hpermits, line]
  have hhas := has_accept d r l
  refine ⟨?_, Nat.le_refl 1, fun j => ?_, fun j => ?_, fun j => ?_, ?_, ?_, fun j hj => ?_,
    fun j hj => ?_⟩
  · rw [Dispatcher.queues, hpermits]
    exact hl.queues
  · rw [hhas, hl.granted]
    split_ifs with hj
    · subst hj
      simp [has, Task.granted]
    · rfl
  · rw [hline, hhas, hl.lined]
    split_ifs with hj
    · subst hj
      simp [has, Task.lined]
    · rfl
  · rw [hhas, List.mem_singleton]
    split_ifs with hj
    · simp [hj, Task.fresh]
    · rw [← hl.fresh]
      simp [hj]
  · rw [hline]
    have hsorted := hl.sorted
    rw [List.nil_append, List.append_nil] at hsorted
    rw [List.nil_append, ← List.append_assoc]
    refine List.pairwise_append.2 ⟨hsorted, List.pairwise_singleton _ _, fun j hj k hk => ?_⟩
    rw [List.mem_singleton.1 hk]
    rcases List.mem_append.1 hj with hj | hj
    · exact lt_of_has (hl.started j hj)
    · exact lt_of_has ((hl.lined j).1 hj)
  · rw [hline, free, hpermits]
    exact hl.idle
  · have hold := hl.started j hj
    rw [hhas, if_neg (Nat.ne_of_lt (lt_of_has hold))]
    exact hold
  · rw [hhas] at hj
    split_ifs at hj
    · cases hj
    · exact hl.running j hj

/-- Every turn of a task keeps the order. -/
theorem Lined.move (hl : d.Lined g a) (hb : d.Balanced limit) (hm : Move ended heeds d i d') :
    ∃ g' a', d'.Lined g' a' := by
  cases hm with
  | @abandon t ht hu =>
    obtain ⟨g', a', hl', -⟩ := hl.retire hb i fun t' ht' hrun => by
      obtain rfl : t = t' := Option.some.inj (ht.symm.trans ht')
      rw [hrun] at hu
      cases hu
    exact ⟨g', a', hl'⟩
  | join ht hp hq hf =>
    have hperm : _ = false := (hb.permit_of_accepted ht hp).trans (by rw [hq]; rfl)
    exact ⟨_, _, hl.join ht (by simp [Task.fresh, hp]) hperm hf⟩
  | take ht hp hq hf => exact ⟨_, _, hl.take ht (by simp [Task.fresh, hp]) hf⟩
  | start ht hp =>
    rcases hp with ⟨hp, hq⟩ | ⟨hp, hw⟩
    · rw [hl.queues] at hq
      cases hq
    · exact ⟨_, _, hl.start ht (by simp [Task.granted, hp, hw])⟩

end Dispatcher

end Tunnel
