import Mathlib.Logic.Relation
import Mathlib.Tactic.SplitIfs
import Tunnel.Dispatch
import Tunnel.Proofs.Lists

/-!
# How tasks proceed

What a task does in a turn is a move: it gets in line, starts, or is abandoned because its link has
ended. Nothing else happens to tasks by themselves: no task changes its request or its link, and
runs are only added.
-/
namespace Tunnel

def TaskPhase.unstarted : TaskPhase → Bool
  | .accepted => true
  | .waiting => true
  | .running => false
  | .ended => false

namespace Dispatcher

variable {ended : LinkId → Bool} {heeds : Bool} {d d' : Dispatcher} {i j : TaskId} {t : Task}

/-- What a task does in a turn. A task that heeds its link does not start when this has ended. -/
inductive Move (ended : LinkId → Bool) (heeds : Bool) (d : Dispatcher) (i : TaskId) :
    Dispatcher → Prop where
  | abandon {t : Task} (ht : d.tasks[i]? = some t) (hu : t.phase.unstarted = true)
    (he : ended t.link = true) : Move ended heeds d i (d.retire i)
  | join {t : Task} (ht : d.tasks[i]? = some t) (hp : t.phase = .accepted)
    (hq : d.queues = true) (hf : d.free = 0) : Move ended heeds d i (d.join i)
  | start {t : Task} (ht : d.tasks[i]? = some t)
    (hp : t.phase = .accepted ∧ d.queues = false ∨ t.phase = .waiting ∧ t.permit = true)
    (he : heeds = true → ended t.link = false) : Move ended heeds d i (d.start i)
  | take {t : Task} (ht : d.tasks[i]? = some t) (hp : t.phase = .accepted)
    (hq : d.queues = true) (hf : d.free ≠ 0) (he : heeds = true → ended t.link = false) :
    Move ended heeds d i ((d.takePermit.grant i).start i)

/-- A turn is a move, or nothing happens. A task heeds its link if it looks at that first, unless it
gets its first turn after the link has ended. -/
theorem turn_cases (d : Dispatcher) (i : TaskId) (linkFirst : Bool)
    (hh : heeds = true → linkFirst = true ∧
      ∀ t, d.tasks[i]? = some t → t.phase = .accepted → ended t.link = false) :
    d.turn ended i linkFirst = d ∨ Move ended heeds d i (d.turn ended i linkFirst) := by
  unfold turn
  cases ht : d.tasks[i]? with
  | none => exact .inl rfl
  | some t =>
    have hlast : t.phase = .accepted → heeds = true → ended t.link = false :=
      fun hp hh' => (hh hh').2 t ht hp
    cases hp : t.phase with
    | accepted =>
      simp only [hp]
      split_ifs with hq he hf
      · exact .inr (.start ht (.inl ⟨hp, by simpa using hq⟩) (hlast hp))
      · simp only [Bool.and_eq_true] at he
        exact .inr (.abandon ht (by rw [hp]; rfl) he.1)
      · exact .inr (.join ht hp (by simpa using hq) hf)
      · exact .inr (.take ht hp (by simpa using hq) hf (hlast hp))
    | waiting =>
      simp only [hp]
      split_ifs with he hperm
      · simp only [Bool.and_eq_true] at he
        exact .inr (.abandon ht (by rw [hp]; rfl) he.1)
      · refine .inr (.start ht (.inr ⟨hp, hperm⟩) fun hh' => ?_)
        simpa [(hh hh').1] using he
      · exact .inl rfl
    | running => exact .inl (by simp only [hp])
    | ended => exact .inl (by simp only [hp])

def Proceeds (ended : LinkId → Bool) : Dispatcher → Dispatcher → Prop :=
  Relation.ReflTransGen fun d d' => ∃ i, Move ended true d i d'

theorem turn_proceeds (d : Dispatcher) (i : TaskId)
    (hl : ∀ t, d.tasks[i]? = some t → t.phase = .accepted → ended t.link = false) :
    Proceeds ended d (d.turn ended i true) := by
  have hturn : d.turn ended i true = d ∨ Move ended true d i (d.turn ended i true) :=
    turn_cases d i true fun _ => ⟨rfl, hl⟩
  rcases hturn with heq | hm
  · rw [heq]
    exact .refl
  · exact .single ⟨i, hm⟩

theorem settleTask_proceeds (d : Dispatcher) (i : TaskId) :
    Proceeds ended d (d.settleTask ended i) := by
  unfold settleTask
  cases ht : d.tasks[i]? with
  | none => exact .refl
  | some t =>
    simp only
    split_ifs with hw
    · refine turn_proceeds d i fun t' ht' hp => ?_
      obtain rfl : t = t' := Option.some.inj (ht.symm.trans ht')
      rw [hw] at hp
      cases hp
    · exact .refl

theorem settle_proceeds (d : Dispatcher) : Proceeds ended d (d.settle ended) := by
  unfold settle
  induction List.range d.tasks.length generalizing d with
  | nil => exact .refl
  | cons i is ih => exact (settleTask_proceeds d i).trans (ih _)

theorem Proceeds.keeps {P : Dispatcher → Prop}
    (hmove : ∀ {d d' i}, P d → Move ended true d i d' → P d') (hp : Proceeds ended d d')
    (hd : P d) : P d' := by
  induction hp with
  | refl => exact hd
  | tail _ hm ih => exact hmove ih hm.choose_spec

def requests (d : Dispatcher) : List (Request × LinkId) :=
  d.tasks.map fun t => (t.request, t.link)

theorem requests_getElem? (ht : d.tasks[i]? = some t) :
    d.requests[i]? = some (t.request, t.link) := by
  simp [Dispatcher.requests, ht]

theorem modifyTask_getElem? (d : Dispatcher) (i : TaskId) (f : Task → Task) (j : TaskId) :
    (d.modifyTask i f).tasks[j]? = d.tasks[j]?.map fun t => if i = j then f t else t := by
  simp only [modifyTask, List.getElem?_modify]
  cases d.tasks[j]? with
  | none => rfl
  | some t => by_cases hj : i = j <;> simp [hj]

/-- Task `i` is in a phase now. The others are as they were, but for the permits they hold. -/
structure Puts (d d' : Dispatcher) (i : TaskId) (p : TaskPhase) : Prop where
  length : d'.tasks.length = d.tasks.length
  task : ∀ {j : TaskId} {t : Task}, d'.tasks[j]? = some t → ∃ t₀, d.tasks[j]? = some t₀ ∧
    t.request = t₀.request ∧ t.link = t₀.link ∧ t.phase = if i = j then p else t₀.phase

theorem Puts.of_tasks_eq {b : Dispatcher} {p : TaskPhase} (hp : Puts d b i p)
    (ht : d'.tasks = b.tasks) : Puts d d' i p :=
  ⟨by rw [ht, hp.length], fun hj => hp.task (by rwa [ht] at hj)⟩

theorem Puts.grant {b : Dispatcher} {p : TaskPhase} (hp : Puts d b i p) (k : TaskId) :
    Puts d (b.grant k) i p := by
  refine ⟨by rw [Dispatcher.grant, modifyTask, List.length_modify, hp.length], fun {j t} hj => ?_⟩
  rw [Dispatcher.grant, modifyTask_getElem?] at hj
  obtain ⟨t₁, ht₁, rfl⟩ := Option.map_eq_some_iff.1 hj
  obtain ⟨t₀, ht₀, hr, hl, hph⟩ := hp.task ht₁
  refine ⟨t₀, ht₀, ?_⟩
  split
  · exact ⟨hr, hl, hph⟩
  · exact ⟨hr, hl, hph⟩

theorem puts_modifyTask (d : Dispatcher) (i : TaskId) {f : Task → Task} {p : TaskPhase}
    (hf : ∀ t, (f t).request = t.request ∧ (f t).link = t.link ∧ (f t).phase = p) :
    Puts d (d.modifyTask i f) i p := by
  refine ⟨by rw [modifyTask, List.length_modify], fun {j t} hj => ?_⟩
  rw [modifyTask_getElem?] at hj
  obtain ⟨t₀, ht₀, rfl⟩ := Option.map_eq_some_iff.1 hj
  refine ⟨t₀, ht₀, ?_⟩
  by_cases hij : i = j
  · rw [if_pos hij, if_pos hij]
    exact hf t₀
  · rw [if_neg hij, if_neg hij]
    exact ⟨rfl, rfl, rfl⟩

theorem puts_start (d : Dispatcher) (i : TaskId) : Puts d (d.start i) i .running :=
  (puts_modifyTask d i (f := fun t => { t with phase := .running })
    fun _ => ⟨rfl, rfl, rfl⟩).of_tasks_eq rfl

theorem puts_join (d : Dispatcher) (i : TaskId) : Puts d (d.join i) i .waiting :=
  (puts_modifyTask d i (f := fun t => { t with phase := .waiting })
    fun _ => ⟨rfl, rfl, rfl⟩).of_tasks_eq rfl

theorem puts_take (d : Dispatcher) (i : TaskId) :
    Puts d ((d.takePermit.grant i).start i) i .running := by
  have hp := puts_modifyTask d i (f := fun t => { t with permit := true, phase := .running })
    fun _ => ⟨rfl, rfl, rfl⟩
  refine hp.of_tasks_eq ?_
  change (d.tasks.modify i _).modify i _ = d.tasks.modify i _
  rw [List.modify_modify_eq]
  rfl

theorem Puts.release {b : Dispatcher} {p : TaskPhase} (hp : Puts d b i p) :
    Puts d b.release i p := by
  unfold Dispatcher.release
  split
  · exact hp.of_tasks_eq rfl
  · exact Puts.grant (b := b.modifyPermits _) (hp.of_tasks_eq rfl) _

/-- A task ends, and what permit it has is yet to be given back. -/
def leave (d : Dispatcher) (i : TaskId) (t : Task) : Dispatcher :=
  { (d.modifyPermits fun p => { p with line := p.line.erase i }).modifyTask i fun t =>
      { t with phase := .ended, permit := false } with
    pending := d.pending.remove t.request.id }

/-- A task that has not ended ends. One that has, or is not there, does not. -/
theorem retire_cases (d : Dispatcher) (i : TaskId) :
    d.retire i = d ∧ (∀ t, d.tasks[i]? = some t → t.phase = .ended) ∨
      ∃ t, d.tasks[i]? = some t ∧ t.phase ≠ .ended ∧
        d.retire i = if t.permit then (d.leave i t).release else d.leave i t := by
  unfold retire
  cases ht : d.tasks[i]? with
  | none => exact .inl ⟨rfl, nofun⟩
  | some t =>
    by_cases hl : t.phase = .ended
    · refine .inl ⟨if_pos hl, fun t' ht' => ?_⟩
      rwa [← Option.some.inj ht']
    · exact .inr ⟨t, rfl, hl, if_neg hl⟩

/-- A task that ends is in its last phase, if there is such a task. -/
theorem puts_retire (d : Dispatcher) (i : TaskId) : Puts d (d.retire i) i .ended := by
  rcases d.retire_cases i with ⟨hsame, hall⟩ | ⟨t, ht, -, hretire⟩
  · rw [hsame]
    refine ⟨rfl, fun {j t} hj => ⟨t, hj, rfl, rfl, ?_⟩⟩
    split_ifs with hij
    · exact hall t (hij ▸ hj)
    · rfl
  · have hleave : Puts d (d.leave i t) i .ended :=
      (puts_modifyTask d i (f := fun t => { t with phase := .ended, permit := false })
        fun _ => ⟨rfl, rfl, rfl⟩).of_tasks_eq rfl
    rw [hretire]
    split_ifs
    · exact hleave.release
    · exact hleave

theorem Puts.requests {p : TaskPhase} (hp : Puts d d' i p) : d'.requests = d.requests := by
  refine List.ext_getElem? fun j => ?_
  simp only [Dispatcher.requests, List.getElem?_map]
  cases ht : d'.tasks[j]? with
  | some t =>
    obtain ⟨t₀, ht₀, hr, hl, -⟩ := hp.task ht
    simp [ht₀, hr, hl]
  | none =>
    rw [List.getElem?_eq_none_iff, hp.length, ← List.getElem?_eq_none_iff] at ht
    rw [ht]

theorem Puts.exists_task {p : TaskPhase} (hp : Puts d d' i p) (ht : d.tasks[j]? = some t) :
    ∃ t', d'.tasks[j]? = some t' := by
  have hlt := (List.getElem?_eq_some_iff.1 ht).1
  rw [← hp.length] at hlt
  exact ⟨_, List.getElem?_eq_getElem hlt⟩

/-- A task that is in another phase now has been there before. -/
theorem Puts.old {p : TaskPhase} (hp : Puts d d' i p) {t : Task} (ht : d'.tasks[j]? = some t)
    (hne : t.phase ≠ p) : i ≠ j ∧ ∃ t₀, d.tasks[j]? = some t₀ ∧ t.request = t₀.request ∧
      t.link = t₀.link ∧ t.phase = t₀.phase := by
  obtain ⟨t₀, ht₀, hr, hl, hph⟩ := hp.task ht
  split_ifs at hph with hij
  · exact absurd hph hne
  · exact ⟨hij, t₀, ht₀, hr, hl, hph⟩

/-- The task that is put is in its phase, if there is one. -/
theorem Puts.self {p : TaskPhase} (hp : Puts d d' i p) (ht : d.tasks[i]? = some t) :
    ∃ t', d'.tasks[i]? = some t' ∧ t'.phase = p := by
  obtain ⟨t', ht'⟩ := hp.exists_task ht
  obtain ⟨t₀, -, -, -, hph⟩ := hp.task ht'
  rw [if_pos rfl] at hph
  exact ⟨t', ht', hph⟩

theorem Puts.other {p : TaskPhase} (hp : Puts d d' i p) (hij : i ≠ j)
    (ht : d.tasks[j]? = some t) : ∃ t', d'.tasks[j]? = some t' ∧ t'.phase = t.phase := by
  obtain ⟨t', ht'⟩ := hp.exists_task ht
  obtain ⟨t₀, ht₀, -, -, hph⟩ := hp.task ht'
  obtain rfl : t = t₀ := Option.some.inj (ht.symm.trans ht₀)
  rw [if_neg hij] at hph
  exact ⟨t', ht', hph⟩

/-- A task that has started does not wait again. -/
theorem Puts.started {p : TaskPhase} (hp : Puts d d' i p) (hs : p.unstarted = false)
    (ht : ∃ t, d.tasks[j]? = some t ∧ t.phase.unstarted = false) :
    ∃ t, d'.tasks[j]? = some t ∧ t.phase.unstarted = false := by
  obtain ⟨t, ht, hw⟩ := ht
  by_cases hij : i = j
  · subst hij
    obtain ⟨t', ht', hph⟩ := hp.self ht
    exact ⟨t', ht', hph ▸ hs⟩
  · obtain ⟨t', ht', hph⟩ := hp.other hij ht
    exact ⟨t', ht', hph ▸ hw⟩

@[simp] theorem release_runs (d : Dispatcher) : d.release.runs = d.runs := by
  unfold release
  split <;> rfl

@[simp] theorem retire_runs (d : Dispatcher) (i : TaskId) : (d.retire i).runs = d.runs := by
  rcases d.retire_cases i with ⟨hsame, -⟩ | ⟨t, -, -, hretire⟩
  · rw [hsame]
  · rw [hretire]
    split_ifs
    · exact release_runs _
    · rfl

/-- A move puts a task in another phase, and starts it, or not. -/
theorem Move.puts (hm : Move ended heeds d i d') :
    (∃ t, d.tasks[i]? = some t ∧ t.phase.unstarted = true) ∧
      (Puts d d' i .running ∧ d'.runs = d.runs ++ [i] ∧
          (heeds = true → ∀ t, d.tasks[i]? = some t → ended t.link = false) ∨
        Puts d d' i .waiting ∧ d'.runs = d.runs ∨
        Puts d d' i .ended ∧ d'.runs = d.runs ∧
          ∃ t, d.tasks[i]? = some t ∧ ended t.link = true) := by
  cases hm with
  | @abandon t ht hu he =>
    exact ⟨⟨t, ht, hu⟩, .inr (.inr ⟨puts_retire d i, retire_runs d i, t, ht, he⟩)⟩
  | @join t ht hp hq hf => exact ⟨⟨t, ht, by rw [hp]; rfl⟩, .inr (.inl ⟨puts_join d i, rfl⟩)⟩
  | @start t ht hp he =>
    refine ⟨⟨t, ht, ?_⟩, .inl ⟨puts_start d i, rfl, fun hh t' ht' => ?_⟩⟩
    · rcases hp with ⟨hp, -⟩ | ⟨hp, -⟩
      · rw [hp]
        rfl
      · rw [hp]
        rfl
    · obtain rfl : t = t' := Option.some.inj (ht.symm.trans ht')
      exact he hh
  | @take t ht hp hq hf he =>
    refine ⟨⟨t, ht, by rw [hp]; rfl⟩, .inl ⟨puts_take d i, rfl, fun hh t' ht' => ?_⟩⟩
    obtain rfl : t = t' := Option.some.inj (ht.symm.trans ht')
    exact he hh

theorem Move.requests (hm : Move ended heeds d i d') : d'.requests = d.requests := by
  rcases hm.puts.2 with ⟨hp, -⟩ | ⟨hp, -⟩ | ⟨hp, -⟩ <;> exact hp.requests

theorem Move.runs_prefix (hm : Move ended heeds d i d') : d.runs <+: d'.runs := by
  rcases hm.puts.2 with ⟨-, hr, -⟩ | ⟨-, hr⟩ | ⟨-, hr, -⟩
  · rw [hr]
    exact List.prefix_append _ _
  · exact hr ▸ List.prefix_refl _
  · exact hr ▸ List.prefix_refl _

theorem Proceeds.requests (hp : Proceeds ended d d') : d'.requests = d.requests :=
  hp.keeps (P := fun d' => d'.requests = d.requests) (fun hd hm => hm.requests.trans hd) rfl

theorem Proceeds.runs_prefix (hp : Proceeds ended d d') : d.runs <+: d'.runs :=
  hp.keeps (P := fun d' => d.runs <+: d'.runs) (fun hd hm => hd.trans hm.runs_prefix)
    (List.prefix_refl _)

theorem liveRun?_eq_some {run : Nat} :
    d.liveRun? run = some (i, t) ↔
      d.runs[run]? = some i ∧ d.tasks[i]? = some t ∧ t.phase = .running := by
  unfold liveRun?
  cases hi : d.runs[run]? with
  | none => simp
  | some j =>
    cases ht : d.tasks[j]? with
    | none =>
      simp only [Option.bind_eq_bind, Option.bind_some, ht, Option.bind_none, reduceCtorEq,
        Option.some.injEq, false_iff, not_and]
      rintro rfl hi
      simp [ht] at hi
    | some t' =>
      simp only [Option.bind_eq_bind, Option.bind_some, ht, Option.some.injEq]
      constructor
      · intro h
        split_ifs at h with hr
        obtain ⟨rfl, rfl⟩ := Prod.mk.inj (Option.some.inj h)
        exact ⟨rfl, ht, hr⟩
      · rintro ⟨rfl, hi, hr⟩
        obtain rfl := Option.some.inj (ht.symm.trans hi)
        rw [if_pos hr]

/-- A run whose link has ended was there before. -/
theorem Move.liveRun? (hm : Move ended true d i d') {run : Nat}
    (hr : d'.liveRun? run = some (j, t)) (he : ended t.link = true) :
    ∃ t₀, d.liveRun? run = some (j, t₀) ∧ t₀.link = t.link := by
  obtain ⟨hj, ht, hp⟩ := liveRun?_eq_some.1 hr
  rcases hm.puts.2 with ⟨hput, hruns, hlast⟩ | ⟨hput, hruns⟩ | ⟨hput, hruns, -⟩
  · obtain ⟨t₀, ht₀, -, hl, hph⟩ := hput.task ht
    rw [hl] at he
    split_ifs at hph with hij
    · -- a task starts only while its link lasts
      rw [hlast rfl t₀ (hij ▸ ht₀)] at he
      cases he
    · rw [hruns] at hj
      rcases getElem?_concat_cases hj with hj | ⟨-, rfl⟩
      · exact ⟨t₀, liveRun?_eq_some.2 ⟨hj, ht₀, hph ▸ hp⟩, hl.symm⟩
      · exact absurd rfl hij
  all_goals
    obtain ⟨-, t₀, ht₀, -, hl, hph⟩ := hput.old ht (by rw [hp]; nofun)
    exact ⟨t₀, liveRun?_eq_some.2 ⟨hruns ▸ hj, ht₀, hph ▸ hp⟩, hl.symm⟩

theorem accept_requests (d : Dispatcher) (r : Request) (l : LinkId) :
    (d.accept r l).requests = d.requests ++ [(r, l)] := by
  rw [requests, accept, List.map_append]
  rfl

theorem accept_new (d : Dispatcher) (r : Request) (l : LinkId) :
    (d.accept r l).tasks[d.tasks.length]? = some ⟨r, l, .accepted, d.rejects⟩ :=
  List.getElem?_concat_length

/-- A task that is not there does nothing. -/
theorem turn_of_none (h : d.tasks[i]? = none) (linkFirst : Bool) : d.turn ended i linkFirst = d := by
  rw [turn, h]

theorem accept_turn_proceeds (d : Dispatcher) (r : Request) {l : LinkId} (hl : ended l = false) :
    Proceeds ended (d.accept r l) ((d.accept r l).turn ended d.tasks.length true) := by
  refine turn_proceeds _ _ fun t ht _ => ?_
  rw [accept_new, Option.some.injEq] at ht
  rw [← ht]
  exact hl

theorem finish_eq {run : Nat} (hr : d.liveRun? run = some (i, t)) :
    d.finish run = (true, d.retire i) := by
  simp only [finish, hr]

end Dispatcher

end Tunnel
