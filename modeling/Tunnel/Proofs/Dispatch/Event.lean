import Tunnel.Dispatch.Board
import Tunnel.Proofs.Dispatch

/-!
# What events do to a dispatcher

An event does one of few things to a dispatcher: a request is accepted, a task ends, or a task makes
a move of its own. What all of these keep holds after every schedule.
-/
namespace Tunnel

namespace Dispatcher

variable {d d' : Dispatcher} {i : TaskId} {t : Task}

/-- How a count of tasks changes when one of them is put in another phase. -/
theorem Puts.countP {p : TaskPhase} (hp : Puts d d' i p) (ht : d.tasks[i]? = some t)
    (q : Request → TaskPhase → Bool) :
    d'.tasks.countP (fun t => q t.request t.phase) + (q t.request t.phase).toNat =
      d.tasks.countP (fun t => q t.request t.phase) + (q t.request p).toNat := by
  obtain ⟨t', ht'⟩ := hp.exists_task ht
  obtain ⟨t₀, ht₀, hr, -, hph⟩ := hp.task ht'
  obtain rfl : t = t₀ := Option.some.inj (ht.symm.trans ht₀)
  rw [if_pos rfl] at hph
  have hcount := countP_of_eq_off (p := fun t => q t.request t.phase) hp.length ht ht' ?_
  · rwa [hr, hph] at hcount
  · intro j x y hij hx hy
    obtain ⟨x₀, hx₀, hr, -, hph⟩ := hp.task hy
    obtain rfl : x = x₀ := Option.some.inj (hx.symm.trans hx₀)
    rw [if_neg hij] at hph
    rw [hr, hph]

end Dispatcher

namespace Board

variable {ended : LinkId → Bool} {d d' : Dispatcher} {b : Board} {e : Event}

inductive Change (ended : LinkId → Bool) (d : Dispatcher) : Event → Dispatcher → Prop where
  | stay {e : Event} : Change ended d e d
  | accept {l : LinkId} {r : Request} (ha : d.admits = true) :
    Change ended d (.act (.handle l (.request r))) (d.accept r l)
  | finish {run : Nat} {i : TaskId} {t : Task} (hr : d.liveRun? run = some (i, t)) :
    Change ended d (.act (.finish run)) (d.retire i)
  | abort {i : TaskId} : Change ended d (.act (.abort i)) (d.retire i)
  | move {i : TaskId} {linkFirst : Bool} {d' : Dispatcher} (hm : Dispatcher.Move ended false d i d') :
    Change ended d (.turn i linkFirst) d'

@[simp] theorem sendOn_dispatcher (b : Board) (l : LinkId) (m : Message) :
    (b.sendOn l m).2.dispatcher = b.dispatcher := by
  unfold sendOn
  split <;> rfl

theorem handle_dispatcher (b : Board) (l : LinkId) (m : Message) :
    (b.handle l m).2.dispatcher = (b.dispatcher.handle m l).1 := by
  unfold handle
  split
  rename_i d answer h
  rw [h]
  cases answer with
  | none => rfl
  | some m => exact sendOn_dispatcher ..

/-- A request is accepted, or the dispatcher stays as it is. -/
theorem handle_cases (b : Board) (l : LinkId) (m : Message) :
    (∃ r, m = .request r ∧ b.dispatcher.admits = true ∧ (b.handle l m).1 = true ∧
      (b.handle l m).2.dispatcher = b.dispatcher.accept r l) ∨
    (∃ r, m = .request r ∧ b.dispatcher.admits = false ∧ (b.handle l m).1 = false ∧
      (b.handle l m).2.dispatcher = b.dispatcher) ∨
    (∀ r, m ≠ .request r) ∧ (b.handle l m).2.dispatcher = b.dispatcher := by
  rw [handle_dispatcher]
  cases m with
  | request r =>
    cases ha : b.dispatcher.admits with
    | true =>
      refine .inl ⟨r, rfl, rfl, ?_, ?_⟩
      · simp only [handle, Dispatcher.handle, Dispatcher.dispatch, ha, if_true]
      · simp only [Dispatcher.handle, Dispatcher.dispatch, ha, if_true]
    | false =>
      refine .inr (.inl ⟨r, rfl, rfl, ?_, ?_⟩)
      · simp only [handle, Dispatcher.handle, Dispatcher.dispatch, ha, Bool.false_eq_true, if_false]
      · simp only [Dispatcher.handle, Dispatcher.dispatch, ha, Bool.false_eq_true, if_false]
  | _ => exact .inr (.inr ⟨nofun, rfl⟩)

theorem apply_change (b : Board) (e : Event) :
    Change b.hasEnded b.dispatcher e (b.apply e).dispatcher := by
  cases e with
  | turn i linkFirst =>
    have hturn : b.dispatcher.turn b.hasEnded i linkFirst = b.dispatcher ∨
        Dispatcher.Move b.hasEnded false b.dispatcher i
          (b.dispatcher.turn b.hasEnded i linkFirst) :=
      Dispatcher.turn_cases _ i linkFirst nofun
    rcases hturn with heq | hm
    · change Change _ _ _ (b.dispatcher.turn b.hasEnded i linkFirst)
      rw [heq]
      exact .stay
    · exact .move hm
  | act s =>
    cases s with
    | handle l m =>
      change Change _ _ _ (b.handle l m).2.dispatcher
      rcases b.handle_cases l m with ⟨r, rfl, ha, -, hd⟩ | ⟨r, rfl, -, -, hd⟩ | ⟨-, hd⟩
      · rw [hd]
        exact .accept ha
      · rw [hd]
        exact .stay
      · rw [hd]
        exact .stay
    | finish run =>
      change Change _ _ _ (b.dispatcher.finish run).2
      cases hr : b.dispatcher.liveRun? run with
      | some x =>
        rw [Dispatcher.finish_eq hr]
        exact .finish hr
      | none =>
        rw [Dispatcher.finish, hr]
        exact .stay
    | abort i => exact .abort
    | linkSend l m =>
      change Change _ _ _ (b.sendOn l m).2.dispatcher
      rw [sendOn_dispatcher]
      exact .stay
    | runSend run m =>
      have hd : (b.apply (.act (.runSend run m))).dispatcher = b.dispatcher := by
        unfold apply act
        simp only
        split
        · exact sendOn_dispatcher ..
        · rfl
      rw [hd]
      exact .stay
    | link | close l | dropReader l => exact .stay

theorem after_keeps {P : Dispatcher → Prop}
    (hchange : ∀ {ended d e d'}, P d → Change ended d e d' → P d') (events : List Event) (b : Board)
    (hb : P b.dispatcher) : P (b.after events).dispatcher := by
  induction events generalizing b with
  | nil => exact hb
  | cons e events ih => exact ih (b.apply e) (hchange hb (b.apply_change e))

end Board

end Tunnel
