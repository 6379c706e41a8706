import Tunnel.Proofs.Connector.Reach

/-!
# Orderly connectors

What each execution has yet to send is a last part of all that it sends, no execution begins twice, and
a task ends only when its link has ended or nothing is left to be sent.
-/
namespace Tunnel.Connector

open Channel (Coherent Later)

variable {P : Message → Prop} {c c' : Connector} {run : Nat} {i : TaskId} {t : Task}

structure Orderly (c : Connector) : Prop where
  coherent : c.channel.Coherent
  begun : c.unsent.length ≤ c.dispatcher.runs.length
  nodup : c.dispatcher.runs.Nodup
  started : ∀ i ∈ c.dispatcher.runs, ∃ t, c.dispatcher.tasks[i]? = some t ∧
    t.phase.unstarted = false
  linked : ∀ t ∈ c.dispatcher.tasks, t.link < c.channel.connections.length
  scripted : ∀ (n : Nat) (i : TaskId) (rest : List Message), c.dispatcher.runs[n]? = some i →
    c.unsent[n]? = some rest → rest <:+ c.script i
  finished : ∀ (i : TaskId) (t : Task), c.dispatcher.tasks[i]? = some t → t.phase = .ended →
    c.hasEnded t.link = true ∨ ∃ n : Nat, c.dispatcher.runs[n]? = some i ∧ c.unsent[n]? = some []

theorem script_eq (c : Connector) (i : TaskId) : c.script i =
    match c.dispatcher.requests[i]? with
    | some (r, _) => (r.execute c.executor (c.clients i)).messages
    | none => [] := by
  rw [script, Dispatcher.requests, List.getElem?_map]
  cases c.dispatcher.tasks[i]? with
  | none => rfl
  | some t => rfl

theorem script_of_task (ht : c.dispatcher.tasks[i]? = some t) :
    c.script i = (t.request.execute c.executor (c.clients i)).messages := by
  rw [script, ht]
  rfl

theorem script_congr (he : c'.executor = c.executor) (hcl : c'.clients = c.clients)
    (hr : c'.dispatcher.requests[i]? = c.dispatcher.requests[i]?) : c'.script i = c.script i := by
  rw [script_eq, script_eq, hr, he, hcl]

/-- A channel that goes on leaves a connector orderly while its handler does not change. -/
theorem Orderly.withChannel (ho : c.Orderly) {ch : Channel Dispatcher} (hch : ch.Coherent)
    (hl : Later c.channel ch) (hh : ch.handler = c.channel.handler) :
    Orderly { c with channel := ch } := by
  have hd : ({ c with channel := ch } : Connector).dispatcher = c.dispatcher := hh
  refine ⟨hch, by rw [hd]; exact ho.begun, by rw [hd]; exact ho.nodup, by rw [hd]; exact ho.started,
    ?_, ?_, ?_⟩
  · rw [hd]
    exact fun t ht => Nat.lt_of_lt_of_le (ho.linked t ht) (hl.length_le ho.coherent)
  · rw [hd]
    intro n i rest hi hu
    have hscript : ({ c with channel := ch } : Connector).script i = c.script i :=
      script_congr rfl rfl (by rw [hd])
    rw [hscript]
    exact ho.scripted n i rest hi hu
  · rw [hd]
    intro i t ht hp
    rcases ho.finished i t ht hp with he | hn
    · exact .inl (hl.hasEnded ho.coherent (ho.linked t (List.mem_of_getElem? ht)) he)
    · exact .inr hn

theorem withDispatcher_coherent (hc : c.channel.Coherent) (d : Dispatcher) :
    (c.withDispatcher d).channel.Coherent :=
  hc.congr rfl rfl rfl rfl (fun _ => rfl) hc.shown

/-- A dispatcher whose tasks have other phases leaves a connector orderly. -/
theorem Orderly.withDispatcher (ho : c.Orderly) {d : Dispatcher}
    (hreq : d.requests = c.dispatcher.requests) (hbegun : c.unsent.length ≤ d.runs.length)
    (hnodup : d.runs.Nodup)
    (hstarted : ∀ i ∈ d.runs, ∃ t, d.tasks[i]? = some t ∧ t.phase.unstarted = false)
    (hruns : ∀ (n : Nat) (i : TaskId) (rest : List Message), d.runs[n]? = some i →
      c.unsent[n]? = some rest → c.dispatcher.runs[n]? = some i)
    (hfinished : ∀ (i : TaskId) (t : Task), d.tasks[i]? = some t → t.phase = .ended →
      c.hasEnded t.link = true ∨ ∃ n : Nat, d.runs[n]? = some i ∧ c.unsent[n]? = some []) :
    (c.withDispatcher d).Orderly := by
  refine ⟨withDispatcher_coherent ho.coherent d, hbegun, hnodup, hstarted, ?_, ?_, hfinished⟩
  · intro t ht
    have hm : (t.request, t.link) ∈ c.dispatcher.requests := by
      rw [← hreq]
      exact List.mem_map_of_mem (f := fun t : Task => (t.request, t.link)) ht
    obtain ⟨t₀, ht₀, he⟩ := List.mem_map.1 hm
    rw [← (Prod.mk.inj he).2]
    exact ho.linked t₀ ht₀
  · intro n i rest hi hu
    have hscript : (c.withDispatcher d).script i = c.script i :=
      script_congr rfl rfl (congrArg (·[i]?) hreq)
    rw [hscript]
    exact ho.scripted n i rest (hruns n i rest hi hu) hu

/-- A task that ends has its link ended, or has nothing more to send. -/
theorem Orderly.retire (ho : c.Orderly)
    (hend : ∀ t, c.dispatcher.tasks[i]? = some t →
      c.hasEnded t.link = true ∨
        ∃ n : Nat, c.dispatcher.runs[n]? = some i ∧ c.unsent[n]? = some []) :
    (c.withDispatcher (c.dispatcher.retire i)).Orderly := by
  have hp := Dispatcher.puts_retire c.dispatcher i
  have hruns := Dispatcher.retire_runs c.dispatcher i
  refine ho.withDispatcher hp.requests ?_ ?_ ?_ ?_ ?_
  · rw [hruns]
    exact ho.begun
  · rw [hruns]
    exact ho.nodup
  · rw [hruns]
    exact fun j hj => hp.started rfl (ho.started j hj)
  · rw [hruns]
    exact fun _ _ _ hj _ => hj
  · rw [hruns]
    intro j t ht hph
    obtain ⟨t₀, ht₀, -, hl, hph₀⟩ := hp.task ht
    rw [hl]
    by_cases hij : i = j
    · subst hij
      exact hend t₀ ht₀
    · rw [if_neg hij] at hph₀
      exact ho.finished j t₀ ht₀ (hph₀ ▸ hph)

/-- A task that gets in line, or starts, has not started before, so that no execution begins twice. -/
theorem Orderly.puts (ho : c.Orderly) {d : Dispatcher} {p : TaskPhase} {new : List TaskId}
    (hp : Dispatcher.Puts c.dispatcher d i p) (hne : p ≠ .ended)
    (hu : ∃ t, c.dispatcher.tasks[i]? = some t ∧ t.phase.unstarted = true)
    (hnew : new = [] ∨ new = [i] ∧ p = .running) (hruns : d.runs = c.dispatcher.runs ++ new) :
    (c.withDispatcher d).Orderly := by
  have hnot : i ∉ c.dispatcher.runs := by
    intro hi
    obtain ⟨t, ht, hun⟩ := hu
    obtain ⟨t₀, ht₀, hp⟩ := ho.started i hi
    obtain rfl : t = t₀ := Option.some.inj (ht.symm.trans ht₀)
    rw [hun] at hp
    cases hp
  refine ho.withDispatcher hp.requests ?_ ?_ ?_ ?_ ?_
  · rw [hruns, List.length_append]
    exact Nat.le_trans ho.begun (Nat.le_add_right _ _)
  · rw [hruns]
    rcases hnew with rfl | ⟨rfl, -⟩
    · rw [List.append_nil]
      exact ho.nodup
    · refine List.nodup_append.2 ⟨ho.nodup, List.pairwise_singleton _ _, ?_⟩
      rintro j hj _ hlast rfl
      exact hnot (List.mem_singleton.1 hlast ▸ hj)
  · intro j hj
    rw [hruns] at hj
    rcases List.mem_append.1 hj with hj | hj
    · obtain ⟨t, ht, hs⟩ := ho.started j hj
      obtain ⟨t', ht', hph⟩ := hp.other (fun hij => hnot (hij ▸ hj)) ht
      exact ⟨t', ht', hph ▸ hs⟩
    · rcases hnew with rfl | ⟨rfl, rfl⟩
      · cases hj
      · obtain rfl := List.mem_singleton.1 hj
        obtain ⟨t', ht', hph⟩ := hp.self hu.choose_spec.1
        exact ⟨t', ht', hph ▸ rfl⟩
  · intro n j rest hj hrest
    rw [hruns] at hj
    -- a new run is the last one, and it has not begun
    have hlt := Nat.lt_of_lt_of_le (List.getElem?_eq_some_iff.1 hrest).1 ho.begun
    rwa [List.getElem?_append_left hlt] at hj
  · intro j t ht hph
    obtain ⟨-, t₀, ht₀, -, hl, hph₀⟩ := hp.old ht (by rw [hph]; exact hne.symm)
    rw [hl]
    rcases ho.finished j t₀ ht₀ (hph₀ ▸ hph) with hend | ⟨n, hn, hrest⟩
    · exact .inl hend
    · refine .inr ⟨n, ?_, hrest⟩
      rw [hruns, List.getElem?_append_left (List.getElem?_eq_some_iff.1 hn).1]
      exact hn

theorem Orderly.proceed (ho : c.Orderly) {ended : LinkId → Bool} {d : Dispatcher}
    (hm : Dispatcher.Move ended true c.dispatcher i d)
    (he : ∀ l, ended l = true → c.hasEnded l = true) : (c.withDispatcher d).Orderly := by
  have hput := hm.puts
  cases hm with
  | @abandon t ht hu hend =>
    refine ho.retire fun t' ht' => .inl ?_
    obtain rfl : t = t' := Option.some.inj (ht.symm.trans ht')
    exact he _ hend
  | join ht hp =>
    exact ho.puts (Dispatcher.puts_join _ _) nofun hput.1 (.inl rfl) (List.append_nil _).symm
  | start ht hp => exact ho.puts (Dispatcher.puts_start _ _) nofun hput.1 (.inr ⟨rfl, rfl⟩) rfl
  | take ht hp => exact ho.puts (Dispatcher.puts_take _ _) nofun hput.1 (.inr ⟨rfl, rfl⟩) rfl

theorem Orderly.proceeds (ho : c.Orderly) {ended : LinkId → Bool} {d : Dispatcher}
    (hp : Dispatcher.Proceeds ended c.dispatcher d)
    (he : ∀ l, ended l = true → c.hasEnded l = true) : (c.withDispatcher d).Orderly :=
  hp.keeps (P := fun d => (c.withDispatcher d).Orderly) (fun hd hm => hd.proceed hm he) ho

theorem Orderly.accept (ho : c.Orderly) (r : Request) {l : LinkId}
    (hl : l < c.channel.connections.length) :
    (c.withDispatcher (c.dispatcher.accept r l)).Orderly := by
  have hold : ∀ {j t}, c.dispatcher.tasks[j]? = some t →
      (c.dispatcher.accept r l).tasks[j]? = some t := fun {j t} hj => by
    have hlt := (List.getElem?_eq_some_iff.1 hj).1
    rw [← hj]
    exact List.getElem?_append_left hlt
  refine ⟨withDispatcher_coherent ho.coherent _, ho.begun, ho.nodup, ?_, ?_, ?_, ?_⟩
  · intro j hj
    obtain ⟨t, ht, hp⟩ := ho.started j hj
    exact ⟨t, hold ht, hp⟩
  · intro t ht
    rcases List.mem_append.1 ht with ht | ht
    · exact ho.linked t ht
    · rw [List.mem_singleton.1 ht]
      exact hl
  · intro n j rest hj hu
    obtain ⟨t, ht, -⟩ := ho.started j (List.mem_of_getElem? hj)
    have hscript : (c.withDispatcher (c.dispatcher.accept r l)).script j = c.script j := by
      rw [script_of_task ht]
      exact script_of_task (hold ht)
    rw [hscript]
    exact ho.scripted n j rest hj hu
  · intro j t ht hp
    have ht' : (c.dispatcher.tasks ++ [⟨r, l, .accepted, c.dispatcher.rejects⟩])[j]? = some t := ht
    rcases getElem?_concat_cases ht' with hold | ⟨-, rfl⟩
    · exact ho.finished j t hold hp
    · cases hp

/-- A request is accepted or turned away, and other messages are passed over. -/
theorem handle_cases (d : Dispatcher) (k : LinkId) (m : Message) :
    (∃ r d', m = .request r ∧ handler.handle d k m = (d', []) ∧
      Dispatcher.Proceeds (fun l => decide (l < k)) (d.accept r k) d') ∨
    (∃ r, m = .request r ∧ handler.handle d k m = (d, [.failure r.id atCapacity])) ∨
    (∀ r, m ≠ .request r) ∧ handler.handle d k m = (d, []) := by
  have hnone : d.tasks[d.tasks.length]? = none := List.getElem?_eq_none (Nat.le_refl _)
  have hstay : d.turn (fun l => decide (l < k)) d.tasks.length true = d :=
    Dispatcher.turn_of_none hnone true
  cases m with
  | request r =>
    simp only [handler, Dispatcher.handle, Dispatcher.dispatch]
    split_ifs with ha
    · exact .inl ⟨r, _, rfl, rfl, Dispatcher.accept_turn_proceeds d r (by simp)⟩
    · exact .inr (.inl ⟨r, rfl, by rw [hstay]; rfl⟩)
  | _ => exact .inr (.inr ⟨nofun, by simp only [handler, Dispatcher.handle, hstay]; rfl⟩)

theorem Orderly.deliver (ho : c.Orderly) {k : LinkId} (hp : c.channel.phase = .connected k)
    (m : Message) : (c.withDispatcher (handler.handle c.dispatcher k m).1).Orderly := by
  have hlt : k < c.channel.connections.length := by
    rw [ho.coherent.length_of_connected hp]
    exact Nat.lt_succ_self k
  have hended : ∀ l : LinkId, decide (l < k) = true → c.hasEnded l = true := fun l hl =>
    ho.coherent.hasEnded_of_ne hp (Nat.ne_of_lt (of_decide_eq_true hl))
  rcases handle_cases c.dispatcher k m with ⟨r, d, -, hd, hproc⟩ | ⟨r, -, hd⟩ | ⟨-, hd⟩
  · rw [hd]
    exact (ho.accept r hlt).proceeds hproc hended
  · rw [hd]
    exact ho
  · rw [hd]
    exact ho

theorem Orderly.linkEnded (ho : c.Orderly) {k : LinkId} (he : ∀ l, c.hasEnded l = true) :
    (c.withDispatcher (handler.linkEnded c.dispatcher k)).Orderly :=
  ho.proceeds (Dispatcher.settle_proceeds _) fun l _ => he l

theorem Orderly.channelMove (ho : c.Orderly) {ch : Channel Dispatcher}
    (hm : Channel.Move handler c.channel ch) : Orderly { c with channel := ch } := by
  have hch := ho.coherent.move hm
  have hl := ho.coherent.move_later hm
  cases hm.effect ho.coherent with
  | nothing hh | heartbeat _ hh => exact ho.withChannel hch hl hh
  | @deliver k m hp hs hb hh hd ht =>
    -- the dispatcher hears of the message first, then the channel goes on
    have hsame : Later { c.channel with handler := (handler.handle c.dispatcher k m).1 } c.channel :=
      .of_eq rfl rfl fun hs => hs
    exact (ho.deliver hp m).withChannel hch (hsame.trans hl) hh
  | @hangUp k hp hp' hh hd ht =>
    have hsame : Later ch { ch with handler := c.channel.handler } := .of_eq rfl rfl fun hs => hs
    have hback : ({ ch with handler := c.channel.handler } : Channel Dispatcher).Coherent :=
      hch.congr rfl rfl rfl rfl (fun _ => rfl) hch.shown
    have hgone := (ho.withChannel hback (hl.trans hsame) rfl).linkEnded (k := k)
      (hback.hasEnded_of_closing hp')
    change Orderly { c with channel := { ch with handler := handler.linkEnded c.channel.handler k } }
      at hgone
    rw [← hh] at hgone
    exact hgone

theorem Orderly.touch (ho : c.Orderly) {ch : Channel Dispatcher}
    (ht : Channel.Touch handler c.channel ch) : Orderly { c with channel := ch } := by
  refine ho.withChannel (ho.coherent.touch ht) ht.later ?_
  cases ht <;> rfl

theorem length_begin (hb : c.unsent.length ≤ c.dispatcher.runs.length) :
    c.begin.unsent.length = c.begin.dispatcher.runs.length := by
  have hu : c.begin.unsent =
      c.unsent ++ (c.dispatcher.runs.drop c.unsent.length).map c.script := rfl
  have hd : c.begin.dispatcher.runs = c.dispatcher.runs := rfl
  rw [hu, hd, List.length_append, List.length_map, List.length_drop]
  omega

theorem Orderly.begin (ho : c.Orderly) : c.begin.Orderly := by
  have hu : c.begin.unsent =
      c.unsent ++ (c.dispatcher.runs.drop c.unsent.length).map c.script := rfl
  refine ⟨ho.coherent, Nat.le_of_eq (length_begin ho.begun), ho.nodup, ho.started, ho.linked, ?_, ?_⟩
  · intro n i rest hi hrest
    have hscript : c.begin.script i = c.script i := rfl
    rw [hscript]
    rw [hu] at hrest
    rcases Nat.lt_or_ge n c.unsent.length with hlt | hge
    · rw [List.getElem?_append_left hlt] at hrest
      exact ho.scripted n i rest hi hrest
    · rw [List.getElem?_append_right hge, List.getElem?_map, List.getElem?_drop,
        Nat.add_sub_cancel' hge] at hrest
      have hi' : c.dispatcher.runs[n]? = some i := hi
      rw [hi', Option.map_some, Option.some.injEq] at hrest
      exact hrest ▸ List.suffix_rfl
  · intro i t ht hp
    rcases ho.finished i t ht hp with he | ⟨n, hn, hrest⟩
    · exact .inl he
    · refine .inr ⟨n, hn, ?_⟩
      rw [hu, List.getElem?_append_left (List.getElem?_eq_some_iff.1 hrest).1]
      exact hrest

theorem Orderly.finish (ho : c.Orderly) (hr : c.dispatcher.liveRun? run = some (i, t))
    (hf : c.hasEnded t.link = true ∨ c.unsent[run]? = some []) :
    (c.withDispatcher (c.dispatcher.retire i)).Orderly := by
  obtain ⟨hi, ht, -⟩ := Dispatcher.liveRun?_eq_some.1 hr
  refine ho.retire fun t' ht' => ?_
  obtain rfl : t = t' := Option.some.inj (ht.symm.trans ht')
  exact hf.imp_right fun hu => ⟨run, hi, hu⟩

theorem Orderly.emit (ho : c.Orderly) (hr : c.dispatcher.liveRun? run = some (i, t)) {m : Message}
    {ms : List Message} (hu : c.unsent[run]? = some (m :: ms))
    (hopen : c.channel.isOpen t.link = true) :
    Orderly { c with channel := c.channel.take t.link [m], unsent := c.unsent.set run ms } := by
  obtain ⟨hi, ht, hp⟩ := Dispatcher.liveRun?_eq_some.1 hr
  have hsent := ho.withChannel (ho.coherent.take hopen [m]) (Later.take hopen [m]) rfl
  have hrest : ∀ {n : Nat} {rest : List Message}, (c.unsent.set run ms)[n]? = some rest →
      n = run ∧ rest = ms ∨ n ≠ run ∧ c.unsent[n]? = some rest := fun {n rest} hn => by
    by_cases hnr : n = run
    · subst hnr
      rw [List.getElem?_set_self (List.getElem?_eq_some_iff.1 hu).1] at hn
      exact .inl ⟨rfl, (Option.some.inj hn).symm⟩
    · rw [List.getElem?_set_ne (Ne.symm hnr)] at hn
      exact .inr ⟨hnr, hn⟩
  refine ⟨hsent.coherent, ?_, hsent.nodup, hsent.started, hsent.linked, ?_, ?_⟩
  · rw [List.length_set]
    exact ho.begun
  · intro n j rest hj hn
    rcases hrest hn with ⟨rfl, rfl⟩ | ⟨hnr, hn⟩
    · exact (List.suffix_cons m rest).trans (hsent.scripted n j (m :: rest) hj hu)
    · exact hsent.scripted n j rest hj hn
  · intro j t' ht' hp'
    rcases hsent.finished j t' ht' hp' with he | ⟨n, hn, hempty⟩
    · exact .inl he
    · refine .inr ⟨n, hn, ?_⟩
      -- a run that has a frame to send has not sent all
      have hnr : n ≠ run := by
        rintro rfl
        rw [hu] at hempty
        cases hempty
      rw [List.getElem?_set_ne (Ne.symm hnr)]
      exact hempty

theorem Orderly.move (ho : c.Orderly) (hm : Move P c c') : c'.Orderly := by
  cases hm with
  | channel hm => exact ho.channelMove hm
  | touch ht => exact ho.touch ht
  | send hm hopen => exact ho.withChannel (ho.coherent.take hopen _) (Later.take hopen _) rfl
  | proceed hd => exact ho.proceed hd fun l hl => hl
  | begin => exact ho.begin
  | finish hr hf => exact ho.finish hr hf
  | emit hr hu hopen => exact ho.emit hr hu hopen

theorem Orderly.path (ho : c.Orderly) (hp : Path P c c') : c'.Orderly :=
  hp.keeps (Q := Orderly) Orderly.move ho

end Tunnel.Connector
