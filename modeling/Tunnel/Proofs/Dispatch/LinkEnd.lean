import Tunnel.Proofs.Dispatch.Parting
import Tunnel.Proofs.Dispatch.Pending

/-!
# The end of one connection

When a link ends and no task can proceed any more, only its own requests have noticed: the runs on
it are cancelled, and those that waited on it are gone. The link takes nothing from then on.
-/
namespace Tunnel

namespace Board

variable {b b' : Board} {l k : LinkId} {link : Link} {ms : List Message}

def Shut (l : LinkId) (ms : List Message) (b : Board) : Prop :=
  ∃ link, b.links[l]? = some link ∧ link.ended = true ∧ link.sent = ms

theorem Shut.sendOn_eq (h : b.Shut l ms) (m : Message) : b.sendOn l m = (false, b) := by
  obtain ⟨link, hl, hend, -⟩ := h
  have hsend : link.send m = (false, link) := by
    rw [Link.send, Link.isOpen, hend]
    rfl
  obtain ⟨hlt, hget⟩ := List.getElem?_eq_some_iff.1 hl
  have hset : b.links.set l link = b.links := hget ▸ List.set_getElem_self hlt
  simp only [sendOn, hl, hsend, hset]

theorem Shut.sendOn (h : b.Shut l ms) (k : LinkId) (m : Message) : (b.sendOn k m).2.Shut l ms := by
  by_cases hk : k = l
  · rw [hk, h.sendOn_eq]
    exact h
  · obtain ⟨link, hl, hend⟩ := h
    unfold Board.sendOn
    split
    · exact ⟨link, by rwa [List.getElem?_set_ne hk], hend⟩
    · exact ⟨link, hl, hend⟩

theorem Shut.modify (h : b.Shut l ms) (k : LinkId) {f : Link → Link}
    (hf : ∀ link, link.ended = true → (f link).ended = true ∧ (f link).sent = link.sent) :
    Shut l ms { b with links := b.links.modify k f } := by
  obtain ⟨link, hl, hend, hs⟩ := h
  by_cases hk : k = l
  · subst hk
    exact ⟨f link, by simp [hl], (hf link hend).1, (hf link hend).2.trans hs⟩
  · exact ⟨link, by simp [hk, hl], hend, hs⟩

/-- A link that has ended takes nothing more, whatever happens. -/
theorem Shut.apply (h : b.Shut l ms) (e : Event) : (b.apply e).Shut l ms := by
  cases e with
  | turn i linkFirst => exact h
  | act s =>
    cases s with
    | link =>
      obtain ⟨link, hl, hend⟩ := h
      exact ⟨link, (List.getElem?_append_left (List.getElem?_eq_some_iff.1 hl).1).trans hl, hend⟩
    | handle k m =>
      change (b.handle k m).2.Shut l ms
      unfold Board.handle
      split
      rename_i d answer _
      cases answer with
      | none => exact h
      | some m => exact Shut.sendOn (b := { b with dispatcher := d }) h k m
    | runSend run m =>
      change (b.act (.runSend run m)).2.Shut l ms
      unfold Board.act
      simp only
      split
      · exact h.sendOn _ m
      · exact h
    | linkSend k m => exact h.sendOn k m
    | close k => exact h.modify k fun _ hend => ⟨rfl, rfl⟩
    | dropReader k => exact h.modify k fun _ hend => ⟨hend, rfl⟩
    | finish run => exact h
    | abort i => exact h

theorem Shut.after (h : b.Shut l ms) (events : List Event) : (b.after events).Shut l ms := by
  induction events generalizing b with
  | nil => exact h
  | cons e events ih => exact ih (h.apply e)

theorem Shut.close (hl : b.links[l]? = some link) :
    Shut l link.sent (b.apply (.act (.close l))) :=
  ⟨link.close, by simp [Board.apply, act, hl], rfl, rfl⟩

theorem hasEnded_close (hl : b.links[l]? = some link) (k : LinkId) :
    (b.apply (.act (.close l))).hasEnded k = (decide (k = l) || b.hasEnded k) := by
  have hget : (b.apply (.act (.close l))).links[k]? =
      if l = k then b.links[k]?.map Link.close else b.links[k]? := by
    simp only [Board.apply, act, List.getElem?_modify]
    split_ifs
    · rfl
    · simp
  unfold hasEnded
  rw [hget]
  by_cases hk : k = l
  · subst hk
    simp [hl, Link.close]
  · simp [hk, Ne.symm hk]

theorem after_turns_links (turns : List (TaskId × Bool)) (b : Board) :
    (b.after (turns.map fun x => .turn x.1 x.2)).links = b.links := by
  induction turns generalizing b with
  | nil => rfl
  | cons x turns ih => exact ih (b.turn x.1 x.2)

/-- What a task did in some turn of a row, it has done after all of them. -/
theorem parting_turns {d : Dispatcher} {ended : LinkId → Bool} (ho : d.Orderly)
    (hrest : ∀ t ∈ d.tasks, t.rests ended = true) (turns : List (TaskId × Bool)) (b : Board)
    (hended : ∀ k, b.hasEnded k = (decide (k = l) || ended k)) (hp : d.Parting l b.dispatcher) :
    d.Parting l (b.after (turns.map fun x => .turn x.1 x.2)).dispatcher := by
  induction turns generalizing b with
  | nil => exact hp
  | cons x turns ih => exact ih (b.turn x.1 x.2) hended (hp.turn ho hrest hended x.1 x.2).1

/-- What is different after the end of a link where no task could proceed before, and none can. All
else is as it was. -/
structure Parted (l : LinkId) (b b' : Board) : Prop where
  links : b'.links = b.links.modify l Link.close
  overflow : b'.dispatcher.overflow = b.dispatcher.overflow
  runs : b'.dispatcher.runs = b.dispatcher.runs
  tasks : b'.dispatcher.tasks = b.dispatcher.tasks.map (Task.parted l)
  permits : b'.dispatcher.permits = b.dispatcher.permits.map fun p =>
    { p with line := p.line.filter fun i => !b.dispatcher.has i (Task.waitsOn l) }
  pending : ∀ id, b.dispatcher.pending.count id = b'.dispatcher.pending.count id +
    b.dispatcher.tasks.countP fun t => t.waitsOn l && decide (t.request.id = id)

/-- A count of the tasks that have not ended loses those that are abandoned. -/
theorem countP_parted (l : LinkId) (id : RequestId) (ts : List Task) :
    (ts.countP fun t => t.phase ≠ .ended ∧ t.request.id = id) =
      ((ts.map (Task.parted l)).countP fun t => t.phase ≠ .ended ∧ t.request.id = id) +
        ts.countP fun t => t.waitsOn l && decide (t.request.id = id) := by
  induction ts with
  | nil => rfl
  | cons t ts ih =>
    simp only [List.map_cons, List.countP_cons, ih]
    cases hw : t.waitsOn l with
    | true =>
      have hph := (Task.waitsOn_iff.1 hw).1
      by_cases hid : t.request.id = id
      · simp [Task.parted, hw, hph, hid, Task.abandoned]
        omega
      · simp [Task.parted, hw, hid, Task.abandoned]
    | false =>
      simp [Task.parted, hw]
      omega

/-- In whatever order the tasks get their turns, when none can proceed it has come to this. -/
theorem parted_of_still (ho : b.dispatcher.Orderly) (hcount : b.dispatcher.Counted)
    (hs : b.Still) (hl : b.links[l]? = some link) (turns : List (TaskId × Bool))
    (hs' : ((b.apply (.act (.close l))).after (turns.map fun x => .turn x.1 x.2)).Still) :
    Parted l b ((b.apply (.act (.close l))).after (turns.map fun x => .turn x.1 x.2)) := by
  have hrest := still_iff.1 hs
  have hended := hasEnded_close hl
  have hp : b.dispatcher.Parting l
      ((b.apply (.act (.close l))).after (turns.map fun x => .turn x.1 x.2)).dispatcher :=
    parting_turns ho hrest turns _ hended (.refl ho l)
  have hlinks := after_turns_links turns (b.apply (.act (.close l)))
  have hcount' : ((b.apply (.act (.close l))).after
      (turns.map fun x => .turn x.1 x.2)).dispatcher.Counted :=
    after_keeps (P := Dispatcher.Counted) Dispatcher.Counted.change _ _ hcount
  revert hs' hp hlinks hcount'
  generalize (b.apply (.act (.close l))).after (turns.map fun x => .turn x.1 x.2) = b'
  intro hs' hp hlinks hcount'
  have htasks : b'.dispatcher.tasks = b.dispatcher.tasks.map (Task.parted l) := by
    refine hp.tasks_eq fun i t ht hw => (hp.task ht).resolve_left (fun ht' => ?_) |>.2
    -- who still waited on the link would have something to do
    have hr := still_iff.1 hs' t (List.mem_of_getElem? ht')
    obtain ⟨hph, hlink⟩ := Task.waitsOn_iff.1 hw
    have hend : b'.hasEnded l = true := by
      have := hended l
      rw [hasEnded, ← hlinks] at this
      rw [hasEnded, this]
      simp
    simp [Task.rests, hph, hlink, hend] at hr
  refine ⟨hlinks, hp.overflow, hp.runs, htasks, hp.permits_eq ho htasks, fun id => ?_⟩
  rw [hcount.count, hcount'.count, htasks]
  exact countP_parted l id _

/-- A link is closed and the tasks are left to themselves: these are turns after which none can
proceed. -/
theorem step_close (ho : b.dispatcher.Orderly) (hs : b.Still) (hl : b.links[l]? = some link) :
    ∃ turns : List (TaskId × Bool), (b.step (.close l)).2 =
      (b.apply (.act (.close l))).after (turns.map fun x => .turn x.1 x.2) ∧
      (b.step (.close l)).2.Still := by
  let c := b.apply (.act (.close l))
  have hended := hasEnded_close hl
  have hrest := still_iff.1 hs
  have hfirst : c.dispatcher.turn c.hasEnded b.dispatcher.tasks.length true = c.dispatcher :=
    Dispatcher.turn_of_none (List.getElem?_eq_none (Nat.le_refl _)) true
  have hstep : (b.step (.close l)).2 =
      { c with dispatcher := c.dispatcher.settle c.hasEnded } := by
    rw [← hfirst]
    rfl
  obtain ⟨turns, hturns⟩ := exists_turns (List.range c.dispatcher.tasks.length) c
  refine ⟨turns, hstep.trans hturns, ?_⟩
  obtain ⟨hparting, hall⟩ :=
    (Dispatcher.Parting.refl ho l).settle ho hrest hended
  rw [hstep, still_iff]
  change ∀ t ∈ (b.dispatcher.settle c.hasEnded).tasks, t.rests c.hasEnded = true
  rw [hparting.tasks_eq hall]
  intro t' ht'
  obtain ⟨t, ht, rfl⟩ := List.mem_map.1 ht'
  have hr := hrest t ht
  cases hw : t.waitsOn l with
  | true => simp [Task.parted, hw, Task.abandoned, Task.rests]
  | false =>
    rw [Task.parted, hw]
    cases hph : t.phase with
    | accepted => rw [Task.rests, hph] at hr; cases hr
    | waiting =>
      have hne : t.link ≠ l := fun h => by simp [Task.waitsOn, hph, h] at hw
      simp only [Task.rests, hph] at hr ⊢
      simpa [c, hended, hne, hph] using hr
    | running | ended => simp [Task.rests, hph]

theorem Parted.hasEnded (hp : Parted l b b') (hl : b.links[l]? = some link) (k : LinkId) :
    b'.hasEnded k = (decide (k = l) || b.hasEnded k) := by
  rw [← hasEnded_close hl k, Board.hasEnded, hp.links]
  rfl

theorem Parted.liveRun? (hp : Parted l b b') (run : Nat) :
    b'.dispatcher.liveRun? run = b.dispatcher.liveRun? run := by
  refine Option.ext fun ⟨i, t⟩ => ?_
  rw [Dispatcher.liveRun?_eq_some, Dispatcher.liveRun?_eq_some, hp.runs, hp.tasks,
    List.getElem?_map]
  refine and_congr_right fun _ => ?_
  cases ht : b.dispatcher.tasks[i]? with
  | none => rfl
  | some t₀ =>
    rw [Option.map_some, Task.parted]
    split_ifs with hw
    · -- neither before nor after does it run
      have hph := (Task.waitsOn_iff.1 hw).1
      rw [Option.some.injEq, Option.some.injEq]
      constructor
      · rintro ⟨rfl, hrun⟩
        cases hrun
      · rintro ⟨rfl, hrun⟩
        rw [hph] at hrun
        cases hrun
    · rfl

theorem cancelled_of_live {d : Dispatcher} {run : Nat} {i : TaskId} {t : Task}
    (hr : d.liveRun? run = some (i, t)) (ended : LinkId → Bool) :
    (d.cancelled ended)[run]? = some (ended t.link) := by
  obtain ⟨hi, ht, -⟩ := Dispatcher.liveRun?_eq_some.1 hr
  simp [Dispatcher.cancelled, hi, ht]

/-- The runs on the link, and no others, learn now that their connection has ended. -/
theorem Parted.newly_cancelled_iff (hp : Parted l b b') (hl : b.links[l]? = some link)
    (hlast : link.ended = false) {run : Nat} {i : TaskId} {t : Task}
    (hr : b.dispatcher.liveRun? run = some (i, t)) :
    (b.dispatcher.cancelled b.hasEnded)[run]? = some false ∧
      (b'.dispatcher.cancelled b'.hasEnded)[run]? = some true ↔ t.link = l := by
  have hbefore : b.hasEnded l = false := by rw [Board.hasEnded, hl]; exact hlast
  rw [cancelled_of_live hr, cancelled_of_live ((hp.liveRun? run).trans hr), hp.hasEnded hl]
  by_cases ht : t.link = l
  · simp [ht, hbefore]
  · simp [ht]

/-- Who waits has no permit where no task can proceed, so nobody holds more or less. -/
theorem Parted.holds (hp : Parted l b b') (hs : b.Still) :
    b'.dispatcher.tasks.map Task.holds = b.dispatcher.tasks.map Task.holds := by
  rw [hp.tasks, List.map_map]
  refine List.map_congr_left fun t ht => ?_
  rw [Function.comp_apply, Task.parted]
  split_ifs with hw
  · have hr := still_iff.1 hs t ht
    simp only [Task.rests, (Task.waitsOn_iff.1 hw).1, Bool.and_eq_true, Bool.not_eq_true'] at hr
    simp [Task.holds, Task.abandoned, hr.1]
  · rfl

/-- Who was abandoned has not started before and never will. -/
theorem Parted.gone (hp : Parted l b b') (hstarted : b.dispatcher.Started) {i : TaskId} {t : Task}
    (ht : b.dispatcher.tasks[i]? = some t) (hw : t.waitsOn l = true) : b'.dispatcher.Gone i := by
  refine ⟨fun hi => ?_, t.abandoned, ?_, rfl⟩
  · obtain ⟨t₀, ht₀, hu⟩ := hstarted i (hp.runs ▸ hi)
    rw [Option.some.inj (ht₀.symm.trans ht), (Task.waitsOn_iff.1 hw).1] at hu
    cases hu
  · rw [hp.tasks, List.getElem?_map, ht, Option.map_some, Task.parted, if_pos hw]

/-- After every schedule, when no task can proceed and an open link ends (steps that are run to their
ends lead to nothing else, by `run_still`): the tasks have turns after which none can proceed, and in
whatever order they have them it comes to the same. The runs on the link are cancelled now, and no
others. The tasks that waited on it have ended for good without a start, and the rest is as it was:
runs, permits and who holds them, the line but for those tasks, the pending requests but for theirs,
and the other links. From then on the link takes nothing, from a run or otherwise. -/
theorem link_end (config : DispatchConfig) (events : List Event) {l : LinkId} {link : Link}
    (hs : ((Board.new config).after events).Still)
    (hl : ((Board.new config).after events).links[l]? = some link) (ho : link.isOpen = true) :
    let b := (Board.new config).after events
    let closed := b.apply (.act (.close l))
    (∃ turns : List (TaskId × Bool),
      (b.step (.close l)).2 = closed.after (turns.map fun x => .turn x.1 x.2) ∧
        (b.step (.close l)).2.Still) ∧
    ∀ turns : List (TaskId × Bool),
      let b' := closed.after (turns.map fun x => .turn x.1 x.2)
      b'.Still →
      Parted l b b' ∧
      (∀ run, b'.dispatcher.liveRun? run = b.dispatcher.liveRun? run) ∧
      (∀ run i t, b.dispatcher.liveRun? run = some (i, t) →
        ((b.dispatcher.cancelled b.hasEnded)[run]? = some false ∧
          (b'.dispatcher.cancelled b'.hasEnded)[run]? = some true ↔ t.link = l)) ∧
      b'.dispatcher.tasks.map Task.holds = b.dispatcher.tasks.map Task.holds ∧
      (∀ i t, b.dispatcher.tasks[i]? = some t → t.waitsOn l = true →
        ∀ later, (b'.after later).dispatcher.Gone i) ∧
      ∀ later,
        (∃ link', (b'.after later).links[l]? = some link' ∧ link'.sent = link.sent) ∧
        (∀ m, (b'.after later).sendOn l m = (false, b'.after later)) ∧
        ∀ run i t m, (b'.after later).dispatcher.liveRun? run = some (i, t) → t.link = l →
          (b'.after later).act (.runSend run m) = (some false, b'.after later) := by
  intro b closed
  have hord : b.dispatcher.Orderly := orderly_after config events
  have hcount : b.dispatcher.Counted :=
    after_keeps (P := Dispatcher.Counted) Dispatcher.Counted.change events _
      (Dispatcher.new_counted config)
  have hstarted : b.dispatcher.Started :=
    after_keeps (P := Dispatcher.Started) Dispatcher.Started.change events _ nofun
  have hlast : link.ended = false := by
    rw [Link.isOpen, Bool.and_eq_true, Bool.not_eq_true'] at ho
    exact ho.1
  refine ⟨step_close hord hs hl, fun turns => ?_⟩
  intro b' hs'
  have hp : Parted l b b' := parted_of_still hord hcount hs hl turns hs'
  refine ⟨hp, hp.liveRun?, fun run i t hr => hp.newly_cancelled_iff hl hlast hr, hp.holds hs,
    fun i t ht hw later => ?_, fun later => ?_⟩
  · exact after_keeps (P := Dispatcher.Gone i) Dispatcher.Gone.change later b'
      (hp.gone hstarted ht hw)
  · have hshut : (b'.after later).Shut l link.sent := ((Shut.close hl).after _).after later
    obtain ⟨link', hl', -, hsent⟩ := id hshut
    refine ⟨⟨link', hl', hsent⟩, hshut.sendOn_eq, fun run i t m hr ht => ?_⟩
    simp only [act, hr, ht, hshut.sendOn_eq]

/-- Two requests of one label wait on different links behind a run on the first link. When that link
ends, the run keeps its permit, and the request of the other link is next in line. -/
theorem link_end_duplicate :
    let r : Request :=
      ⟨⟨"r1"⟩, ⟨"GET", "/", "http://target.example.com", ⟨[]⟩, none, .utf8⟩, 0⟩
    let events : List Event := [.act .link, .act .link, .act (.handle 0 (.request r)), .turn 0 true,
      .act (.handle 0 (.request r)), .turn 1 true, .act (.handle 1 (.request r)), .turn 2 true]
    let b := (Board.new ⟨some 1, .queue⟩).after events
    let b' := (b.step (.close 0)).2
    b.Still ∧ b.links[0]? = some ⟨false, true, []⟩ ∧ (Link.mk false true []).isOpen = true ∧
      b'.dispatcher.line = [2] ∧ b'.dispatcher.runs = [0] ∧ b'.dispatcher.pending.count r.id = 2 ∧
      ∀ later, 1 ∉ (b'.after later).dispatcher.runs ∧
        ∀ m, (b'.after later).sendOn 0 m = (false, b'.after later) := by
  intro r events b b'
  have hs : b.Still := by decide
  have hl : b.links[0]? = some ⟨false, true, []⟩ := by decide
  obtain ⟨⟨turns, hturns, hstill⟩, hall⟩ := link_end ⟨some 1, .queue⟩ events hs hl (by decide)
  rw [hturns] at hstill
  obtain ⟨hp, -, -, -, hgone, hafter⟩ := hall turns hstill
  rw [← hturns] at hp hgone hafter
  have hruns : b.dispatcher.runs = [0] := by decide
  refine ⟨hs, hl, by decide, ?_, hp.runs.trans hruns, ?_, fun later => ⟨?_, (hafter later).2.1⟩⟩
  · rw [Dispatcher.line, hp.permits]
    decide
  · have hcount : b.dispatcher.pending.count r.id = b'.dispatcher.pending.count r.id +
        b.dispatcher.tasks.countP fun t => t.waitsOn 0 && decide (t.request.id = r.id) :=
      hp.pending r.id
    have hbefore : b.dispatcher.pending.count r.id = 3 := by decide
    have hlost : (b.dispatcher.tasks.countP fun t =>
        t.waitsOn 0 && decide (t.request.id = r.id)) = 1 := by decide
    omega
  · have ht : b.dispatcher.tasks[1]? = some ⟨r, 0, .waiting, false⟩ := by decide
    exact (hgone 1 _ ht (by decide) later).1

end Board

end Tunnel
