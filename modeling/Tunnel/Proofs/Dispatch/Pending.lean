import Tunnel.Proofs.Dispatch.Event
import Tunnel.Proofs.Dispatch.Tally

/-!
# Pending requests

The tally of a dispatcher counts each accepted request from when it is accepted until its task ends,
in whatever way it does.
-/
namespace Tunnel.Dispatcher

variable {ended : LinkId → Bool} {heeds : Bool} {d d' : Dispatcher} {i : TaskId} {t : Task}
  {e : Board.Event}

/-- The tally counts the requests whose tasks have not ended. -/
structure Counted (d : Dispatcher) : Prop where
  proper : d.pending.Proper
  total : d.pending.total = d.tasks.countP fun t => t.phase ≠ .ended
  count : ∀ id, d.pending.count id =
    d.tasks.countP fun t => t.phase ≠ .ended ∧ t.request.id = id

theorem new_counted (config : DispatchConfig) : (new config).Counted :=
  ⟨Tally.empty_proper, rfl, fun _ => rfl⟩

@[simp] theorem release_pending (d : Dispatcher) : d.release.pending = d.pending := by
  unfold release
  split <;> rfl

theorem Counted.accept (hc : d.Counted) (r : Request) (l : LinkId) : (d.accept r l).Counted := by
  have hp : (d.accept r l).pending = d.pending.add r.id := rfl
  have ht : (d.accept r l).tasks = d.tasks ++ [⟨r, l, .accepted, d.rejects⟩] := rfl
  refine ⟨hp ▸ hc.proper.add _, ?_, fun id => ?_⟩
  · rw [hp, ht, Tally.total_add, hc.total, List.countP_append]
    rfl
  · rw [hp, ht, Tally.count_add, hc.count, List.countP_append]
    by_cases hid : r.id = id
    · simp [hid]
    · simp [hid]

/-- The tally stays as it is while no task ends. -/
theorem Counted.puts (hc : d.Counted) {p : TaskPhase} (hp : Puts d d' i p)
    (ht : d.tasks[i]? = some t) (hl : t.phase ≠ .ended) (hne : p ≠ .ended)
    (hpend : d'.pending = d.pending) : d'.Counted := by
  refine ⟨hpend ▸ hc.proper, ?_, fun id => ?_⟩
  · have hcount := hp.countP ht fun _ p => p ≠ .ended
    simp only [hl, hne, not_false_eq_true, ne_eq, decide_true] at hcount
    rw [hpend, hc.total]
    exact (Nat.add_right_cancel hcount).symm
  · have hcount := hp.countP ht fun r p => p ≠ .ended ∧ r.id = id
    simp only [hl, hne, not_false_eq_true, ne_eq, true_and] at hcount
    rw [hpend, hc.count]
    exact (Nat.add_right_cancel hcount).symm

theorem Counted.retire (hc : d.Counted) (i : TaskId) : (d.retire i).Counted := by
  rcases d.retire_cases i with ⟨hsame, -⟩ | ⟨t, ht, hl, hretire⟩
  · rw [hsame]
    exact hc
  · have hp := puts_retire d i
    have hpend : (d.retire i).pending = d.pending.remove t.request.id := by
      rw [hretire]
      split_ifs
      · exact release_pending _
      · rfl
    have hmine : 0 < d.pending.count t.request.id := by
      rw [hc.count, List.countP_pos_iff]
      exact ⟨t, List.mem_of_getElem? ht, by simp [hl]⟩
    have htotal := Tally.total_remove hmine
    refine ⟨?_, ?_, fun id => ?_⟩
    · rw [hpend]
      exact hc.proper.remove _
    · have hcount := hp.countP ht fun _ p => p ≠ .ended
      simp only [hl, not_false_eq_true, ne_eq, decide_true, not_true_eq_false, decide_false,
        Bool.toNat_true, Bool.toNat_false] at hcount
      have hbefore := hc.total
      simp only [ne_eq] at hbefore ⊢
      rw [hpend]
      omega
    · have hcount := hp.countP ht fun r p => p ≠ .ended ∧ r.id = id
      simp only [hl, not_false_eq_true, ne_eq, true_and, not_true_eq_false, false_and, decide_false,
        Bool.toNat_false] at hcount
      have hbefore := hc.count id
      simp only [ne_eq] at hbefore ⊢
      rw [hpend, hc.proper.count_remove]
      by_cases hid : t.request.id = id
      · simp only [hid, decide_true, Bool.toNat_true, if_true] at hcount ⊢
        omega
      · simp only [hid, decide_false, Bool.toNat_false, if_false] at hcount ⊢
        omega

theorem Counted.move (hc : d.Counted) (hm : Move ended heeds d i d') : d'.Counted := by
  obtain ⟨⟨t, ht, hu⟩, -⟩ := hm.puts
  have hl : t.phase ≠ .ended := by
    intro he
    rw [he] at hu
    cases hu
  cases hm with
  | abandon => exact hc.retire i
  | join => exact hc.puts (puts_join d i) ht hl nofun rfl
  | start => exact hc.puts (puts_start d i) ht hl nofun rfl
  | take => exact hc.puts (puts_take d i) ht hl nofun rfl

theorem Counted.change (hc : d.Counted) (hch : Board.Change ended d e d') : d'.Counted := by
  cases hch with
  | stay => exact hc
  | accept ha => exact hc.accept _ _
  | finish hr => exact hc.retire _
  | abort => exact hc.retire _
  | move hm => exact hc.move hm

theorem Counted.isPending_iff (hc : d.Counted) (id : RequestId) :
    d.isPending id = true ↔ ∃ t ∈ d.tasks, t.phase ≠ .ended ∧ t.request.id = id := by
  rw [isPending, hc.proper.contains_iff, hc.count, List.countP_pos_iff]
  simp only [decide_eq_true_eq]

theorem Counted.entries_eq_nil (hc : d.Counted) (hall : ∀ t ∈ d.tasks, t.phase = .ended) :
    d.pending.entries = [] := by
  refine hc.proper.entries_eq_nil fun id => ?_
  rw [hc.count, List.countP_eq_zero]
  intro t ht
  simp [hall t ht]

end Tunnel.Dispatcher

namespace Tunnel.Board

/-- After every schedule, the pending requests are those that were accepted and whose tasks have not
ended: there are as many, each label is counted as often as it is in use, and nothing is left when
all tasks have ended. A request that is turned away and any other message leave them as they are. -/
theorem pending_exact (config : DispatchConfig) (events : List Event) :
    let b := (Board.new config).after events
    let d := b.dispatcher
    d.pendingCount = d.tasks.countP (fun t => t.phase ≠ .ended) ∧
    (∀ id, d.isPending id = true ↔ ∃ t ∈ d.tasks, t.phase ≠ .ended ∧ t.request.id = id) ∧
    (∀ id, d.pending.count id = d.tasks.countP fun t => t.phase ≠ .ended ∧ t.request.id = id) ∧
    ((∀ t ∈ d.tasks, t.phase = .ended) → d.pending.entries = []) ∧
    (∀ l r, (b.handle l (.request r)).1 = false → (b.handle l (.request r)).2.dispatcher = d) ∧
    ∀ l m, (∀ r, m ≠ .request r) → (b.handle l m).2.dispatcher = d := by
  intro b d
  have hc : d.Counted :=
    after_keeps (P := Dispatcher.Counted) Dispatcher.Counted.change events (Board.new config)
      (Dispatcher.new_counted config)
  refine ⟨hc.total, hc.isPending_iff, hc.count, hc.entries_eq_nil, fun l r hr => ?_, fun l m hm => ?_⟩
  · rcases b.handle_cases l (.request r) with ⟨-, -, -, ht, -⟩ | ⟨-, -, -, -, hd⟩ | ⟨hm, -⟩
    · rw [hr] at ht
      cases ht
    · exact hd
    · exact absurd rfl (hm r)
  · rcases b.handle_cases l m with ⟨r, rfl, -⟩ | ⟨r, rfl, -⟩ | ⟨-, hd⟩
    · exact absurd rfl (hm r)
    · exact absurd rfl (hm r)
    · exact hd

end Tunnel.Board
