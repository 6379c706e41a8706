import Tunnel.Connector
import Tunnel.Proofs.Channel.Connectivity
import Tunnel.Proofs.Dispatch

/-!
# How states of a connector are reached

A step of a connector is many small ones: moves of its channel, waiting tasks that proceed, executions
that begin, end or send a frame.
-/
namespace Tunnel.Connector

def withDispatcher (c : Connector) (d : Dispatcher) : Connector :=
  { c with channel := { c.channel with handler := d } }

/-- One small step. Callers send only what they may. -/
inductive Move (P : Message → Prop) (c : Connector) : Connector → Prop where
  | channel {ch : Channel Dispatcher} (hm : Channel.Move handler c.channel ch) :
    Move P c { c with channel := ch }
  | touch {ch : Channel Dispatcher} (ht : Channel.Touch handler c.channel ch) :
    Move P c { c with channel := ch }
  | send {k : LinkId} {m : Message} (hm : P m) (ho : c.channel.isOpen k = true) :
    Move P c { c with channel := c.channel.take k [m] }
  | proceed {i : TaskId} {d : Dispatcher} (hd : Dispatcher.Move c.hasEnded true c.dispatcher i d) :
    Move P c (c.withDispatcher d)
  | begin : Move P c c.begin
  | finish {run : Nat} {i : TaskId} {t : Task} (hr : c.dispatcher.liveRun? run = some (i, t))
    (hf : c.hasEnded t.link = true ∨ c.unsent[run]? = some []) :
    Move P c (c.withDispatcher (c.dispatcher.retire i))
  | emit {run : Nat} {i : TaskId} {t : Task} {m : Message} {ms : List Message}
    (hr : c.dispatcher.liveRun? run = some (i, t)) (hu : c.unsent[run]? = some (m :: ms))
    (ho : c.channel.isOpen t.link = true) :
    Move P c { c with channel := c.channel.take t.link [m], unsent := c.unsent.set run ms }

def Path (P : Message → Prop) : Connector → Connector → Prop :=
  Relation.ReflTransGen (Move P)

variable {P : Message → Prop} {c c' : Connector} {run : Nat} {i : TaskId} {t : Task}

theorem Path.keeps {Q : Connector → Prop} (hmove : ∀ {c c'}, Q c → Move P c c' → Q c')
    (hp : Path P c c') (hc : Q c) : Q c' := by
  induction hp with
  | refl => exact hc
  | tail _ hm ih => exact hmove ih hm

theorem channel_path {ch : Channel Dispatcher} {w : List (LinkId × Message)}
    (hp : Channel.Path handler c.channel w ch) (hw : ∀ x ∈ w, P x.2) :
    Path P c { c with channel := ch } := by
  induction hp with
  | refl => exact .refl
  | move _ hm ih => exact (ih hw).tail (.channel (c := { c with channel := _ }) hm)
  | touch _ ht ih => exact (ih hw).tail (.touch (c := { c with channel := _ }) ht)
  | @send w d _ k m ho ih =>
    have hall : ∀ x ∈ w, P x.2 := fun x hx => hw x (List.mem_append_left _ hx)
    have hm : P m := hw (k, m) (List.mem_append_right _ (List.mem_singleton.2 rfl))
    exact (ih hall).tail (.send (c := { c with channel := d }) hm ho)

theorem proceeds_path {d : Dispatcher} (hp : Dispatcher.Proceeds c.hasEnded c.dispatcher d) :
    Path P c (c.withDispatcher d) := by
  induction hp with
  | refl => exact .refl
  | tail _ hm ih => exact ih.tail (.proceed (c := c.withDispatcher _) hm.choose_spec)

/-- The task of a run that returns ends, and then waiting tasks proceed. -/
theorem finish_eq (hr : c.dispatcher.liveRun? run = some (i, t)) : c.finish run =
    (c.withDispatcher (c.dispatcher.retire i)).withDispatcher
      ((c.dispatcher.retire i).settle c.hasEnded) := by
  rw [finish, Dispatcher.finish_eq hr]
  rfl

theorem finish_path (hr : c.dispatcher.liveRun? run = some (i, t))
    (hf : c.hasEnded t.link = true ∨ c.unsent[run]? = some []) : Path P c (c.finish run) := by
  have hend : Path P c (c.withDispatcher (c.dispatcher.retire i)) := .single (.finish hr hf)
  rw [finish_eq hr]
  exact hend.trans (proceeds_path (Dispatcher.settle_proceeds _))

theorem cancelRun_path (c : Connector) (run : Nat) : Path P c (c.cancelRun run) := by
  unfold cancelRun
  split
  · rename_i i t hr
    split_ifs with he
    · exact finish_path hr (.inl he)
    · exact .refl
  · exact .refl

theorem cancelRuns_path (runs : List Nat) (c : Connector) : Path P c (runs.foldl cancelRun c) := by
  induction runs generalizing c with
  | nil => exact .refl
  | cons run runs ih => exact (cancelRun_path c run).trans (ih _)

theorem settle_path (c : Connector) : Path P c c.settle :=
  ((cancelRuns_path _ c.begin).head .begin).tail .begin

end Tunnel.Connector
