import Tunnel.Proofs.Connector.Orderly

/-!
# Connectors at rest

After each step the channel of a connector is at rest, all executions have begun whose tasks have
started, and those whose links have ended are over. An execution that goes on finds its link open.
-/
namespace Tunnel.Connector

variable {P : Message → Prop} {c c' : Connector} {run : Nat} {i : TaskId} {t : Task}

/-- After a step, all executions have begun whose tasks have started, and the links of those that have
not returned have not ended. -/
structure Settled (c : Connector) : Prop where
  resting : c.channel.Resting
  begun : c.unsent.length = c.dispatcher.runs.length
  live : ∀ run i t, c.dispatcher.liveRun? run = some (i, t) → c.hasEnded t.link = false

/-- What is left of the runs whose links have ended. -/
def Stale (c : Connector) (run : Nat) : Prop :=
  ∃ i t, c.dispatcher.liveRun? run = some (i, t) ∧ c.hasEnded t.link = true

theorem Stale.of_proceeds {d : Dispatcher} (hp : Dispatcher.Proceeds c.hasEnded c.dispatcher d)
    (hs : (c.withDispatcher d).Stale run) : c.Stale run := by
  induction hp with
  | refl => exact hs
  | tail _ hm ih =>
    obtain ⟨j, hm⟩ := hm
    obtain ⟨i, t, hr, he⟩ := hs
    obtain ⟨t₀, hr₀, hl⟩ := hm.liveRun? hr he
    have he₀ : c.hasEnded t₀.link = true := by
      rw [hl]
      exact he
    exact ih ⟨i, t₀, hr₀, he₀⟩

theorem stale_of_finish {m : Nat} (hr : c.dispatcher.liveRun? run = some (i, t))
    (hs : (c.finish run).Stale m) : c.Stale m ∧ m ≠ run := by
  rw [finish_eq hr] at hs
  obtain ⟨j, t', hr', he⟩ := hs.of_proceeds (Dispatcher.settle_proceeds _)
  obtain ⟨hj, ht', hp⟩ := Dispatcher.liveRun?_eq_some.1 hr'
  have hj' : c.dispatcher.runs[m]? = some j := by
    rwa [← Dispatcher.retire_runs c.dispatcher i]
  obtain ⟨hij, t₀, ht₀, -, hl, hp₀⟩ :=
    (Dispatcher.puts_retire c.dispatcher i).old ht' (by rw [hp]; nofun)
  have he₀ : c.hasEnded t₀.link = true := by
    rw [← hl]
    exact he
  refine ⟨⟨j, t₀, Dispatcher.liveRun?_eq_some.2 ⟨hj', ht₀, hp₀ ▸ hp⟩, he₀⟩, ?_⟩
  -- a run has one task, and that of the run that returns has ended
  rintro rfl
  have hi := (Dispatcher.liveRun?_eq_some.1 hr).1
  rw [hi] at hj'
  exact hij (Option.some.inj hj')

theorem stale_of_cancelRun {m : Nat} (hs : (c.cancelRun run).Stale m) : c.Stale m ∧ m ≠ run := by
  unfold cancelRun at hs
  split at hs
  · rename_i i t hr
    split_ifs at hs with he
    · exact stale_of_finish hr hs
    · refine ⟨hs, ?_⟩
      rintro rfl
      obtain ⟨j, t', hr', he'⟩ := hs
      rw [hr] at hr'
      obtain ⟨rfl, rfl⟩ := Prod.mk.inj (Option.some.inj hr')
      exact he he'
  · rename_i hnone
    refine ⟨hs, ?_⟩
    rintro rfl
    obtain ⟨j, t', hr', -⟩ := hs
    rw [hnone] at hr'
    cases hr'

theorem not_stale_settle (hb : c.begin.unsent.length = c.begin.dispatcher.runs.length) {m : Nat} :
    ¬ c.settle.Stale m := by
  -- a run that was gone through is not stale afterwards, and none becomes so
  have hfold : ∀ (runs : List Nat) (c : Connector), (runs.foldl cancelRun c).Stale m →
      c.Stale m ∧ m ∉ runs := by
    intro runs
    induction runs with
    | nil => exact fun c hs => ⟨hs, List.not_mem_nil⟩
    | cons run runs ih =>
      intro c hs
      obtain ⟨hs', hm⟩ := ih _ hs
      obtain ⟨hs'', hne⟩ := stale_of_cancelRun hs'
      exact ⟨hs'', by simp [hne, hm]⟩
  intro hs
  have hs' : ((List.range c.begin.unsent.length).foldl cancelRun c.begin).Stale m := hs
  obtain ⟨⟨i, t, hr, -⟩, hm⟩ := hfold _ _ hs'
  have hlt := (List.getElem?_eq_some_iff.1 (Dispatcher.liveRun?_eq_some.1 hr).1).1
  rw [← hb] at hlt
  exact hm (List.mem_range.2 hlt)

def SameChannel (c c' : Connector) : Prop :=
  ∃ d, c'.channel = { c.channel with handler := d }

theorem SameChannel.trans {b : Connector} (h : SameChannel c b) (g : SameChannel b c') :
    SameChannel c c' := by
  obtain ⟨d, hd⟩ := h
  obtain ⟨d', hd'⟩ := g
  exact ⟨d', by rw [hd', hd]⟩

theorem finish_sameChannel (c : Connector) (run : Nat) : SameChannel c (c.finish run) := by
  simp only [finish]
  split
  · exact ⟨_, rfl⟩
  · exact ⟨_, rfl⟩

theorem cancelRun_sameChannel (c : Connector) (run : Nat) : SameChannel c (c.cancelRun run) := by
  unfold cancelRun
  split
  · split
    · exact finish_sameChannel c run
    · exact ⟨_, rfl⟩
  · exact ⟨_, rfl⟩

theorem settle_sameChannel (c : Connector) : SameChannel c c.settle := by
  have hfold : ∀ (runs : List Nat) (c : Connector), SameChannel c (runs.foldl cancelRun c) := by
    intro runs
    induction runs with
    | nil => exact fun c => ⟨_, rfl⟩
    | cons run runs ih => exact fun c => (cancelRun_sameChannel c run).trans (ih _)
  exact hfold _ c.begin

theorem SameChannel.resting (h : SameChannel c c') (hr : c.channel.Resting) :
    c'.channel.Resting := by
  obtain ⟨d, hd⟩ := h
  rw [hd]
  exact hr.congr rfl rfl rfl rfl fun _ _ _ he => he

/-- After executions have begun and ended, a connector is at rest if its channel is. -/
theorem Orderly.settled (ho : c.Orderly) (hr : c.channel.Resting) : c.settle.Settled := by
  -- runs that end let others start, and these are the last to begin
  have hfold : ((List.range c.begin.unsent.length).foldl cancelRun c.begin).Orderly :=
    ho.begin.path (P := fun _ => True) (cancelRuns_path _ c.begin)
  refine ⟨(settle_sameChannel c).resting hr, length_begin hfold.begun, fun run i t hlive => ?_⟩
  cases he : c.settle.hasEnded t.link with
  | false => rfl
  | true => exact absurd ⟨i, t, hlive, he⟩ (not_stale_settle (length_begin ho.begun))

def Step.message? : Step → Option Message
  | .channel s => s.message?
  | .emit _ => none

theorem Settled.isOpen (hs : c.Settled) (ho : c.Orderly)
    (hr : c.dispatcher.liveRun? run = some (i, t)) : c.channel.isOpen t.link = true := by
  have he := hs.live run i t hr
  rw [hs.resting.isOpen_iff ho.coherent, ← hs.resting.hasEnded_iff ho.coherent]
  exact he

theorem Settled.exists_unsent (hs : c.Settled) (hr : c.dispatcher.liveRun? run = some (i, t)) :
    ∃ rest, c.unsent[run]? = some rest := by
  have hlt := (List.getElem?_eq_some_iff.1 (Dispatcher.liveRun?_eq_some.1 hr).1).1
  rw [← hs.begun] at hlt
  exact ⟨_, List.getElem?_eq_getElem hlt⟩

theorem finish_of_not_live (hr : c.dispatcher.liveRun? run = none) : c.finish run = c := by
  simp only [finish, Dispatcher.finish, hr, Bool.false_eq_true, if_false]

theorem finish_path_of_empty (hu : c.unsent[run]? = some []) : Path P c (c.finish run) := by
  cases hr : c.dispatcher.liveRun? run with
  | none =>
    rw [finish_of_not_live hr]
    exact .refl
  | some x => exact finish_path (i := x.1) (t := x.2) hr (.inr hu)

/-- The connector after a frame is sent on the link of its task and written. -/
def sent (c : Connector) (run : Nat) (l : LinkId) (m : Message) (ms : List Message) : Connector :=
  { c with
    channel := (c.channel.take l [m]).settle handler
    unsent := c.unsent.set run ms }

theorem emit_eq (hr : c.dispatcher.liveRun? run = some (i, t)) {m : Message} {ms : List Message}
    (hu : c.unsent[run]? = some (m :: ms)) (hopen : c.channel.isOpen t.link = true) :
    c.emit run = (if ms.isEmpty then (c.sent run t.link m ms).finish run
      else c.sent run t.link m ms).settle := by
  have hsend : (c.channel.sendThrough handler t.link m).2 =
      (c.channel.take t.link [m]).settle handler := by
    unfold Channel.sendThrough
    rw [Channel.sendOn_of_isOpen hopen]
  unfold emit
  simp only [hr, hu, hsend]
  rfl

theorem emit_eq_of_empty (hr : c.dispatcher.liveRun? run = some (i, t))
    (hu : c.unsent[run]? = some []) : c.emit run = (c.finish run).settle := by
  unfold emit
  simp only [hr, hu]

theorem emit_of_not_live (hr : c.dispatcher.liveRun? run = none) : c.emit run = c := by
  unfold emit
  rw [hr]

/-- What happens before a connector settles after a step. -/
theorem exists_act_eq (ho : c.Orderly) (hs : c.Settled) (s : Step)
    (hP : ∀ m, s.message? = some m → P m) :
    c.act s = c ∨ ∃ b : Connector, c.act s = b.settle ∧ Path P c b ∧ b.channel.Resting := by
  cases s with
  | channel s =>
    refine .inr ⟨_, rfl, channel_path (Channel.act_path c.channel s) fun x hx => ?_, ?_⟩
    · exact hP x.2 (Channel.message?_of_mem_granted hx)
    · exact ho.coherent.act_resting hs.resting s
  | emit run =>
    change c.emit run = c ∨ ∃ b : Connector, c.emit run = b.settle ∧ _
    cases hr : c.dispatcher.liveRun? run with
    | none => exact .inl (emit_of_not_live hr)
    | some x =>
      obtain ⟨i, t⟩ := x
      obtain ⟨rest, hu⟩ := hs.exists_unsent hr
      cases rest with
      | nil =>
        exact .inr ⟨_, emit_eq_of_empty hr hu, finish_path_of_empty hu,
          (finish_sameChannel c run).resting hs.resting⟩
      | cons m ms =>
        have hopen := hs.isOpen ho hr
        have hgo : Path P { c with channel := c.channel.take t.link [m], unsent := c.unsent.set run ms }
            (c.sent run t.link m ms) := channel_path (Channel.settle_path _) (by simp)
        have hsent : Path P c (c.sent run t.link m ms) := hgo.head (.emit hr hu hopen)
        have hrest : (c.sent run t.link m ms).channel.Resting :=
          (ho.coherent.take hopen [m]).settle_resting
        refine .inr ⟨_, emit_eq hr hu hopen, ?_, ?_⟩
        · split_ifs with hms
          · obtain rfl := List.isEmpty_iff.1 hms
            have hempty : (c.sent run t.link m []).unsent[run]? = some [] :=
              List.getElem?_set_self (List.getElem?_eq_some_iff.1 hu).1
            exact hsent.trans (finish_path_of_empty hempty)
          · exact hsent
        · split_ifs
          · exact (finish_sameChannel _ run).resting hrest
          · exact hrest

theorem act_path (ho : c.Orderly) (hs : c.Settled) (s : Step)
    (hP : ∀ m, s.message? = some m → P m) : Path P c (c.act s) := by
  rcases exists_act_eq ho hs s hP with heq | ⟨b, heq, hp, -⟩
  · rw [heq]
    exact .refl
  · rw [heq]
    exact hp.trans (settle_path b)

theorem act_settled (ho : c.Orderly) (hs : c.Settled) (s : Step) : (c.act s).Settled := by
  rcases exists_act_eq (P := fun _ => True) ho hs s fun _ _ => trivial with heq | ⟨b, heq, hp, hr⟩
  · rw [heq]
    exact hs
  · rw [heq]
    exact (ho.path hp).settled hr

theorem run_path (ho : c.Orderly) (hs : c.Settled) (steps : List Step)
    (hP : ∀ s ∈ steps, ∀ m, s.message? = some m → P m) :
    Path P c (c.run steps) ∧ (c.run steps).Orderly ∧ (c.run steps).Settled := by
  induction steps generalizing c with
  | nil => exact ⟨.refl, ho, hs⟩
  | cons s steps ih =>
    have hact := act_path ho hs s (hP s List.mem_cons_self)
    obtain ⟨hp, ho', hs'⟩ := ih (ho.path hact) (act_settled ho hs s)
      fun s' hs' => hP s' (List.mem_cons_of_mem _ hs')
    exact ⟨hact.trans hp, ho', hs'⟩

theorem among_orderly {channel : ChannelConfig} {credentials : Credentials}
    {dispatch : DispatchConfig} {executor : ExecutorConfig} {clients : TaskId → Client}
    (hb : 0 < channel.heartbeat.nanos) :
    (among channel credentials dispatch executor clients).Orderly := by
  refine ⟨Channel.new_coherent hb, Nat.le_refl _, List.nodup_nil, ?_, ?_, ?_, ?_⟩
  · intro i hi
    cases hi
  · intro t ht
    cases ht
  · intro n i rest hi
    cases hi
  · intro i t ht
    cases ht

theorem among_settled (channel : ChannelConfig) (credentials : Credentials)
    (dispatch : DispatchConfig) (executor : ExecutorConfig) (clients : TaskId → Client) :
    (among channel credentials dispatch executor clients).Settled := by
  refine ⟨trivial, rfl, fun run i t hr => ?_⟩
  have hi := (Dispatcher.liveRun?_eq_some.1 hr).1
  cases hi

end Tunnel.Connector
