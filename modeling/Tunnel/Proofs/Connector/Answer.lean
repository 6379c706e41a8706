import Tunnel.Proofs.Connector.Orderly
import Tunnel.Proofs.Execution

/-!
# How a request is answered

What a link has taken for a request, with what the execution of the request has yet to send, is all that
the execution sends. For a request that is turned away the link takes one failure. Here this is shown of
every state that small steps lead to, for a request whose label does not come twice on its link.
-/
namespace Tunnel

def Message.ofCall (id : RequestId) (ms : List Message) : List Message :=
  ms.filter fun m => m.requestId? = some id

namespace Message

variable {id : RequestId} {ms : List Message}

theorem ofCall_append (id : RequestId) (ms ns : List Message) :
    ofCall id (ms ++ ns) = ofCall id ms ++ ofCall id ns := List.filter_append ..

theorem ofCall_eq_self (hms : ∀ m ∈ ms, m.requestId? = some id) : ofCall id ms = ms :=
  List.filter_eq_self.2 fun m hm => decide_eq_true (hms m hm)

theorem ofCall_eq_nil (hms : ∀ m ∈ ms, m.requestId? ≠ some id) : ofCall id ms = [] :=
  List.filter_eq_nil_iff.2 fun m hm => by simpa using hms m hm

theorem ofCall_prefix {ns : List Message} (hp : ms <+: ns) : ofCall id ms <+: ofCall id ns :=
  hp.filter _

end Message

open Message (ofCall)

namespace Channel

variable {σ : Type} {c c' : Channel σ} {j k : LinkId} {id : RequestId}

def requestsOn (c : Channel σ) (k : LinkId) (id : RequestId) : List Request :=
  c.delivered.filterMap fun
    | (j, .request r) => if j = k ∧ r.id = id then some r else none
    | _ => none

def takenFor (c : Channel σ) (k : LinkId) (id : RequestId) : List Message :=
  ofCall id (c.takenOn k)

theorem takenFor_of_takes {ms : List Message} (ht : Takes c c' j ms) :
    c'.takenFor k id = c.takenFor k id ++ if k = j then ofCall id ms else [] := by
  rw [takenFor, ht k, Message.ofCall_append, takenFor]
  split_ifs <;> rfl

/-- What belongs to no call or to another one adds nothing. -/
theorem takenFor_of_takes_other {ms : List Message} (ht : Takes c c' j ms)
    (hms : k = j → ∀ m ∈ ms, m.requestId? ≠ some id) : c'.takenFor k id = c.takenFor k id := by
  rw [takenFor_of_takes ht]
  split_ifs with hk
  · rw [Message.ofCall_eq_nil (hms hk), List.append_nil]
  · rw [List.append_nil]

theorem requestsOn_of_eq (hd : c'.delivered = c.delivered) :
    c'.requestsOn k id = c.requestsOn k id := by
  rw [requestsOn, hd, requestsOn]

theorem requestsOn_of_request {r : Request} (hd : c'.delivered = c.delivered ++ [(j, .request r)]) :
    c'.requestsOn k id = c.requestsOn k id ++ if j = k ∧ r.id = id then [r] else [] := by
  rw [requestsOn, hd, List.filterMap_append, requestsOn]
  congr 1
  by_cases hj : j = k ∧ r.id = id
  · simp only [List.filterMap_cons, List.filterMap_nil, if_pos hj]
  · simp only [List.filterMap_cons, List.filterMap_nil, if_neg hj]

theorem requestsOn_of_other {m : Message} (hm : ∀ r, m ≠ .request r)
    (hd : c'.delivered = c.delivered ++ [(j, m)]) : c'.requestsOn k id = c.requestsOn k id := by
  rw [requestsOn, hd, List.filterMap_append, requestsOn]
  cases m with
  | request r => exact absurd rfl (hm r)
  | _ => exact List.append_nil _

end Channel

namespace Connector

variable {P : Message → Prop} {c c' : Connector} {run : Nat} {i : TaskId} {t : Task} {k : LinkId}
  {id : RequestId} {r : Request} {rest : List Message}

inductive Left (c : Connector) (i : TaskId) : List Message → Prop where
  | begun {n : Nat} {rest : List Message} (hi : c.dispatcher.runs[n]? = some i)
    (hu : c.unsent[n]? = some rest) : Left c i rest
  | unbegun (hn : ∀ n : Nat, c.dispatcher.runs[n]? = some i → c.unsent.length ≤ n) :
    Left c i (c.script i)

/-- No task has a request of a label that came on a link. -/
def NoTask (c : Connector) (k : LinkId) (id : RequestId) : Prop :=
  ∀ r, (r, k) ∈ c.dispatcher.requests → r.id ≠ id

/-- One task has a request that came on a link, and no other has one of its label. -/
structure SoleTask (c : Connector) (k : LinkId) (r : Request) (i : TaskId) : Prop where
  request : c.dispatcher.requests[i]? = some (r, k)
  unique : ∀ j r', c.dispatcher.requests[j]? = some (r', k) → r'.id = r.id → j = i

/-- How far the answer to a request is: it has not come, it was turned away, or a task sends it. Nothing
is said about labels that come twice. -/
inductive Answered (k : LinkId) (id : RequestId) (c : Connector) : Prop where
  | unasked (hr : c.channel.requestsOn k id = []) (hn : c.NoTask k id)
    (ht : c.channel.takenFor k id = [])
  | turnedAway {r : Request} (hr : c.channel.requestsOn k id = [r]) (hn : c.NoTask k id)
    (ht : c.channel.takenFor k id = [.failure id atCapacity])
  | accepted {r : Request} {i : TaskId} {rest : List Message} (hr : c.channel.requestsOn k id = [r])
    (hid : r.id = id) (hi : c.SoleTask k r i) (hl : c.Left i rest)
    (ht : c.channel.takenFor k id ++ rest = c.script i)
  | reused (hr : 1 < (c.channel.requestsOn k id).length)

/-! ## What is left

A run has left what it has yet to send, and a task whose execution has not begun has the whole of its
script.
-/

theorem Left.of_runs (hl : c.Left i rest) (hb : c.unsent.length ≤ c.dispatcher.runs.length)
    (hu : c'.unsent = c.unsent) (hruns : c.dispatcher.runs <+: c'.dispatcher.runs)
    (hs : c'.script i = c.script i) : c'.Left i rest := by
  obtain ⟨more, hmore⟩ := hruns
  have hget : ∀ n : Nat, n < c.dispatcher.runs.length →
      c'.dispatcher.runs[n]? = c.dispatcher.runs[n]? := fun n hn => by
    rw [← hmore, List.getElem?_append_left hn]
  cases hl with
  | @begun n rest hi hr =>
    have hn := (List.getElem?_eq_some_iff.1 hi).1
    exact .begun ((hget n hn).trans hi) (by rwa [hu])
  | unbegun hn =>
    rw [← hs]
    refine .unbegun fun n hi => ?_
    rw [hu]
    rcases Nat.lt_or_ge n c.dispatcher.runs.length with hlt | hge
    · exact hn n ((hget n hlt).symm.trans hi)
    · exact Nat.le_trans hb hge

theorem Left.begin (hl : c.Left i rest) : c.begin.Left i rest := by
  have hu : c.begin.unsent =
      c.unsent ++ (c.dispatcher.runs.drop c.unsent.length).map c.script := rfl
  cases hl with
  | @begun n rest hi hr =>
    refine .begun (n := n) hi ?_
    rw [hu, List.getElem?_append_left (List.getElem?_eq_some_iff.1 hr).1]
    exact hr
  | unbegun hn =>
    by_cases hi : ∃ n : Nat, c.dispatcher.runs[n]? = some i
    · obtain ⟨n, hi⟩ := hi
      refine .begun (n := n) hi ?_
      rw [hu, List.getElem?_append_right (hn n hi), List.getElem?_map, List.getElem?_drop,
        Nat.add_sub_cancel' (hn n hi), hi]
      rfl
    · exact .unbegun fun n hn => absurd ⟨n, hn⟩ hi

theorem Left.unique (hl : c.Left i rest) (hnd : c.dispatcher.runs.Nodup) {n : Nat}
    {ms : List Message} (hi : c.dispatcher.runs[n]? = some i) (hu : c.unsent[n]? = some ms) :
    rest = ms := by
  cases hl with
  | @begun n' rest hi' hu' =>
    obtain rfl : n' = n :=
      (List.getElem?_inj (List.getElem?_eq_some_iff.1 hi').1 hnd).1 (hi'.trans hi.symm)
    exact Option.some.inj (hu'.symm.trans hu)
  | unbegun hn =>
    have hlt := (List.getElem?_eq_some_iff.1 hu).1
    exact absurd (hn n hi) (Nat.not_le_of_lt hlt)

theorem Left.set {j : TaskId} {ms : List Message} (hl : c.Left i rest)
    (hj : c.dispatcher.runs[run]? = some j) (hij : i ≠ j)
    (hd : c'.dispatcher = c.dispatcher) (hu : c'.unsent = c.unsent.set run ms)
    (hs : c'.script i = c.script i) : c'.Left i rest := by
  cases hl with
  | @begun n rest hi hr =>
    have hne : run ≠ n := by
      rintro rfl
      exact hij (Option.some.inj (hi.symm.trans hj))
    exact .begun (n := n) (by rwa [hd]) (by rwa [hu, List.getElem?_set_ne hne])
  | unbegun hn =>
    rw [← hs]
    refine .unbegun fun n hi => ?_
    rw [hu, List.length_set]
    exact hn n (by rwa [hd] at hi)

/-! ## Small steps

A link takes a frame of the call only where the request is turned away or its run sends the next frame,
since callers leave the label to the executions. Then the frame goes from what is left to what is taken.
-/

/-- An answer stays as far as it is while nothing of it is sent and no request of its label comes. -/
theorem Answered.keep (ha : c.Answered k id) {new : List (Request × LinkId)}
    (hex : c'.executor = c.executor) (hcl : c'.clients = c.clients)
    (hreq : c'.dispatcher.requests = c.dispatcher.requests ++ new)
    (hnew : ∀ r, (r, k) ∈ new → r.id ≠ id)
    (hasked : c'.channel.requestsOn k id = c.channel.requestsOn k id)
    (htaken : c'.channel.takenFor k id = c.channel.takenFor k id)
    (hleft : ∀ i r rest, c.dispatcher.requests[i]? = some (r, k) → r.id = id →
      c'.script i = c.script i → c.Left i rest → c'.Left i rest) : c'.Answered k id := by
  have hnone : c.NoTask k id → c'.NoTask k id := by
    intro hn r hr
    rw [hreq] at hr
    rcases List.mem_append.1 hr with hr | hr
    · exact hn r hr
    · exact hnew r hr
  cases ha with
  | unasked hr hn ht => exact .unasked (hasked.trans hr) (hnone hn) (htaken.trans ht)
  | turnedAway hr hn ht => exact .turnedAway (hasked.trans hr) (hnone hn) (htaken.trans ht)
  | @accepted r i rest hr hid hi hl ht =>
    -- new tasks come after that of the request
    have hlt := (List.getElem?_eq_some_iff.1 hi.request).1
    have hi' : c'.dispatcher.requests[i]? = c.dispatcher.requests[i]? := by
      rw [hreq, List.getElem?_append_left hlt]
    have hs : c'.script i = c.script i := script_congr hex hcl hi'
    refine .accepted (hasked.trans hr) hid ⟨hi'.trans hi.request, fun j r' hj hr' => ?_⟩
      (hleft i r rest hi.request hid hs hl) ?_
    · rw [hreq] at hj
      rcases Nat.lt_or_ge j c.dispatcher.requests.length with hjlt | hjge
      · rw [List.getElem?_append_left hjlt] at hj
        exact hi.unique j r' hj hr'
      · rw [List.getElem?_append_right hjge] at hj
        exact absurd (hr'.trans hid) (hnew r' (List.mem_of_getElem? hj))
    · rw [htaken, hs]
      exact ht
  | reused hr => exact .reused (by rwa [hasked])

theorem Answered.same (ha : c.Answered k id) (ho : c.Orderly) (hex : c'.executor = c.executor)
    (hcl : c'.clients = c.clients) (hu : c'.unsent = c.unsent)
    (hreq : c'.dispatcher.requests = c.dispatcher.requests)
    (hruns : c.dispatcher.runs <+: c'.dispatcher.runs)
    (hasked : c'.channel.requestsOn k id = c.channel.requestsOn k id)
    (htaken : c'.channel.takenFor k id = c.channel.takenFor k id) : c'.Answered k id :=
  ha.keep hex hcl (hreq.trans (List.append_nil _).symm) nofun hasked htaken
    fun _ _ _ _ _ hs hl => hl.of_runs ho.begun hu hruns hs

theorem Answered.withChannel (ha : c.Answered k id) (ho : c.Orderly) {ch : Channel Dispatcher}
    (hh : ch.handler = c.channel.handler)
    (hasked : ch.requestsOn k id = c.channel.requestsOn k id)
    (htaken : ch.takenFor k id = c.channel.takenFor k id) :
    Answered k id { c with channel := ch } := by
  have hd : ({ c with channel := ch } : Connector).dispatcher = c.dispatcher := hh
  refine ha.same ho rfl rfl rfl ?_ ?_ hasked htaken
  · rw [hd]
  · exact hd ▸ List.prefix_refl _

/-- A label that comes again is of no concern. -/
theorem Answered.asked (ha : c.Answered k id)
    (hasked : c'.channel.requestsOn k id = c.channel.requestsOn k id ++ [r])
    (hnew : c.channel.requestsOn k id = [] → c.NoTask k id → c.channel.takenFor k id = [] →
      c'.Answered k id) : c'.Answered k id := by
  -- a second request of the label makes it one that is reused
  have hagain : ∀ r₀, c.channel.requestsOn k id = [r₀] → c'.Answered k id := by
    intro r₀ hr
    rw [hr] at hasked
    exact .reused (by rw [hasked]; exact Nat.lt_add_one 1)
  cases ha with
  | unasked hr hn ht => exact hnew hr hn ht
  | turnedAway hr | accepted hr => exact hagain _ hr
  | reused hr =>
    refine .reused (Nat.lt_of_lt_of_le hr ?_)
    rw [hasked, List.length_append]
    exact Nat.le_add_right _ _

theorem Orderly.length_requests_not_mem (ho : c.Orderly) :
    c.dispatcher.requests.length ∉ c.dispatcher.runs := by
  intro hi
  obtain ⟨t, ht, -⟩ := ho.started _ hi
  have hlt := (List.getElem?_eq_some_iff.1 ht).1
  rw [Dispatcher.requests, List.length_map] at hlt
  exact Nat.lt_irrefl _ hlt

/-- A task that has not started before has all yet to send, even if it starts now. -/
theorem Orderly.left_of_new (ho : c.Orderly) (hi : i ∉ c.dispatcher.runs)
    (hu : c'.unsent = c.unsent) (hruns : c.dispatcher.runs <+: c'.dispatcher.runs) :
    c'.Left i (c'.script i) := by
  obtain ⟨more, hmore⟩ := hruns
  refine .unbegun fun n hn => ?_
  rw [hu]
  rw [← hmore] at hn
  rcases Nat.lt_or_ge n c.dispatcher.runs.length with hlt | hge
  · rw [List.getElem?_append_left hlt] at hn
    exact absurd (List.mem_of_getElem? hn) hi
  · exact Nat.le_trans ho.begun hge

theorem NoTask.soleTask (hn : c.NoTask k r.id)
    (hreq : c'.dispatcher.requests = c.dispatcher.requests ++ [(r, k)]) :
    c'.SoleTask k r c.dispatcher.requests.length := by
  refine ⟨?_, fun j r' hj hr' => ?_⟩
  · rw [hreq]
    exact List.getElem?_concat_length
  · rw [hreq] at hj
    rcases getElem?_concat_cases hj with hj | ⟨rfl, -⟩
    · exact absurd hr' (hn r' (List.mem_of_getElem? hj))
    · rfl

/-- A request that is accepted has a task of its own, which has all yet to send. -/
theorem Answered.accept (ha : c.Answered k id) (ho : c.Orderly) {ended : LinkId → Bool}
    {d : Dispatcher} {j : LinkId} (hex : c'.executor = c.executor) (hcl : c'.clients = c.clients)
    (hu : c'.unsent = c.unsent) (hd : c'.dispatcher = d)
    (hp : Dispatcher.Proceeds ended (c.dispatcher.accept r j) d)
    (hasked : c'.channel.requestsOn k id =
      c.channel.requestsOn k id ++ if j = k ∧ r.id = id then [r] else [])
    (htaken : c'.channel.takenFor k id = c.channel.takenFor k id) : c'.Answered k id := by
  subst hd
  have hreq : c'.dispatcher.requests = c.dispatcher.requests ++ [(r, j)] := by
    rw [hp.requests, Dispatcher.accept_requests]
  by_cases hours : j = k ∧ r.id = id
  · obtain ⟨rfl, rfl⟩ := hours
    rw [if_pos ⟨rfl, rfl⟩] at hasked
    refine ha.asked hasked fun hr hn ht => ?_
    rw [hr, List.nil_append] at hasked
    rw [ht] at htaken
    have hleft := ho.left_of_new ho.length_requests_not_mem hu hp.runs_prefix
    exact .accepted hasked rfl (hn.soleTask hreq) hleft (by rw [htaken, List.nil_append])
  · rw [if_neg hours, List.append_nil] at hasked
    refine ha.keep hex hcl hreq (fun r' hr' hid => ?_) hasked htaken
      fun _ _ _ _ _ hs hl => hl.of_runs ho.begun hu hp.runs_prefix hs
    obtain ⟨rfl, rfl⟩ := Prod.mk.inj (List.mem_singleton.1 hr')
    exact hours ⟨rfl, hid⟩

theorem Answered.deliver (ha : c.Answered k id) (ho : c.Orderly) {ch : Channel Dispatcher}
    {j : LinkId} {m : Message} (hh : ch.handler = (handler.handle c.dispatcher j m).1)
    (hd : ch.delivered = c.channel.delivered ++ [(j, m)])
    (ht : Channel.Takes c.channel ch j (handler.handle c.dispatcher j m).2) :
    Answered k id { c with channel := ch } := by
  rcases handle_cases c.dispatcher j m with ⟨r, d, rfl, he, hp⟩ | ⟨r, rfl, he⟩ | ⟨hm, he⟩
  · rw [he] at hh ht
    exact ha.accept ho rfl rfl rfl hh hp
      (Channel.requestsOn_of_request hd) (Channel.takenFor_of_takes_other ht fun _ _ hm => nomatch hm)
  · rw [he] at hh ht
    have hasked : ch.requestsOn k id =
        c.channel.requestsOn k id ++ if j = k ∧ r.id = id then [r] else [] :=
      Channel.requestsOn_of_request hd
    by_cases hours : j = k ∧ r.id = id
    · obtain ⟨rfl, rfl⟩ := hours
      rw [if_pos ⟨rfl, rfl⟩] at hasked
      refine ha.asked hasked fun hr hn hnil => ?_
      rw [hr, List.nil_append] at hasked
      refine .turnedAway hasked ?_ ?_
      · have hsame : ({ c with channel := ch } : Connector).dispatcher = c.dispatcher := hh
        unfold NoTask
        rwa [hsame]
      · have hmine : Message.ofCall r.id [.failure r.id atCapacity] = [.failure r.id atCapacity] :=
          Message.ofCall_eq_self fun m hm => by rw [List.mem_singleton.1 hm]; rfl
        change ch.takenFor j r.id = _
        rw [Channel.takenFor_of_takes ht, if_pos rfl, hmine, hnil, List.nil_append]
    · rw [if_neg hours, List.append_nil] at hasked
      refine ha.withChannel ho hh hasked (Channel.takenFor_of_takes_other ht fun hk m hm hid => ?_)
      rw [List.mem_singleton.1 hm] at hid
      exact hours ⟨hk.symm, Option.some.inj hid⟩
  · rw [he] at hh ht
    exact ha.withChannel ho hh (Channel.requestsOn_of_other hm hd)
      (Channel.takenFor_of_takes_other ht fun _ _ hm => nomatch hm)

theorem Answered.channelMove (ha : c.Answered k id) (ho : c.Orderly) {ch : Channel Dispatcher}
    (hm : Channel.Move handler c.channel ch) : Answered k id { c with channel := ch } := by
  cases hm.effect ho.coherent with
  | nothing hh hd ht =>
    refine ha.withChannel ho hh (Channel.requestsOn_of_eq hd) ?_
    rw [Channel.takenFor, ht, Channel.takenFor]
  | heartbeat hb hh hd ht =>
    refine ha.withChannel ho hh (Channel.requestsOn_of_eq hd)
      (Channel.takenFor_of_takes_other ht fun _ m hm => ?_)
    rw [List.mem_singleton.1 hm]
    rcases hb with rfl | rfl <;> nofun
  | deliver hp hs hb hh hd ht => exact ha.deliver ho hh hd ht
  | @hangUp j hp hp' hh hd ht =>
    -- tasks that wait are abandoned, and their requests stay with them
    have hproc : Dispatcher.Proceeds (fun l => decide (l ≤ j)) c.dispatcher ch.handler := by
      rw [hh]
      exact Dispatcher.settle_proceeds _
    refine ha.same ho rfl rfl rfl hproc.requests hproc.runs_prefix (Channel.requestsOn_of_eq hd) ?_
    change Message.ofCall id (ch.takenOn k) = _
    rw [ht, Channel.takenFor]

theorem Answered.touch (ha : c.Answered k id) (ho : c.Orderly) {ch : Channel Dispatcher}
    (ht : Channel.Touch handler c.channel ch) : Answered k id { c with channel := ch } := by
  cases ht <;> exact ha.withChannel ho rfl rfl rfl

theorem requestId_of_mem_script (ht : c.dispatcher.tasks[i]? = some t) {m : Message}
    (hm : m ∈ c.script i) : m.requestId? = some t.request.id := by
  rw [script_of_task ht, Execution.messages_eq] at hm
  have hw := t.request.execute_whole c.executor (c.clients i)
  exact (hw.sent (Nat.le_refl _)).requestId hm

/-- What a task sends is sent for its own request, on the link that this came on. -/
theorem Answered.emit (ha : c.Answered k id) (ho : c.Orderly)
    (hr : c.dispatcher.liveRun? run = some (i, t)) {m : Message} {ms : List Message}
    (hu : c.unsent[run]? = some (m :: ms)) (hopen : c.channel.isOpen t.link = true) :
    Answered k id { c with channel := c.channel.take t.link [m], unsent := c.unsent.set run ms } := by
  obtain ⟨hi, ht, -⟩ := Dispatcher.liveRun?_eq_some.1 hr
  have htakes := Channel.take_takes (Channel.lt_of_isOpen hopen) [m]
  have hreq := Dispatcher.requests_getElem? ht
  have hid : m.requestId? = some t.request.id :=
    requestId_of_mem_script ht ((ho.scripted run i _ hi hu).subset List.mem_cons_self)
  by_cases hours : t.link = k ∧ t.request.id = id
  · obtain ⟨rfl, rfl⟩ := hours
    have hmine : Message.ofCall t.request.id [m] = [m] :=
      Message.ofCall_eq_self fun m' hm' => by rwa [List.mem_singleton.1 hm']
    have htaken : (c.channel.take t.link [m]).takenFor t.link t.request.id =
        c.channel.takenFor t.link t.request.id ++ [m] := by
      rw [Channel.takenFor_of_takes htakes, if_pos rfl, hmine]
    cases ha with
    | unasked hq hn | turnedAway hq hn => exact absurd rfl (hn _ (List.mem_of_getElem? hreq))
    | reused hq => exact .reused hq
    | @accepted r i₀ rest hq hid₀ hi₀ hl hsent =>
      -- the frame is the first of those that the task has yet to send
      obtain rfl : i = i₀ := hi₀.unique i t.request hreq hid₀.symm
      obtain rfl := hl.unique ho.nodup hi hu
      have hleft : (c.unsent.set run ms)[run]? = some ms :=
        List.getElem?_set_self (List.getElem?_eq_some_iff.1 hu).1
      refine .accepted hq hid₀ ⟨hi₀.request, hi₀.unique⟩ (.begun hi hleft) ?_
      change (c.channel.take t.link [m]).takenFor t.link t.request.id ++ ms = c.script i
      rw [htaken, List.append_assoc]
      exact hsent
  · -- the frame belongs to another call or goes out on another link
    refine ha.keep rfl rfl (List.append_nil _).symm nofun rfl
      (Channel.takenFor_of_takes_other htakes fun hk m' hm' hid' => ?_) fun j r rest hj hrid hs hl =>
        hl.set hi ?_ rfl rfl hs
    · rw [List.mem_singleton.1 hm', hid] at hid'
      exact hours ⟨hk.symm, Option.some.inj hid'⟩
    · rintro rfl
      obtain ⟨rfl, rfl⟩ := Prod.mk.inj (Option.some.inj (hreq.symm.trans hj))
      exact hours ⟨rfl, hrid⟩

/-- Every small step keeps what is known of an answer, if callers send nothing that belongs to the
call. -/
theorem Answered.move (ha : c.Answered k id) (ho : c.Orderly)
    (hP : ∀ m, P m → m.requestId? ≠ some id) (hm : Move P c c') : c'.Answered k id := by
  cases hm with
  | channel hm => exact ha.channelMove ho hm
  | touch ht => exact ha.touch ho ht
  | send hm hopen =>
    refine ha.withChannel ho rfl rfl (Channel.takenFor_of_takes_other
      (Channel.take_takes (Channel.lt_of_isOpen hopen) _) fun _ m' hm' => ?_)
    rw [List.mem_singleton.1 hm']
    exact hP _ hm
  | proceed hd => exact ha.same ho rfl rfl rfl hd.requests hd.runs_prefix rfl rfl
  | begin =>
    exact ha.keep rfl rfl (List.append_nil _).symm nofun rfl rfl
      fun _ _ _ _ _ _ hl => hl.begin
  | finish hr hf =>
    exact ha.same ho rfl rfl rfl (Dispatcher.puts_retire _ _).requests
      (Dispatcher.retire_runs _ _ ▸ List.prefix_refl _) rfl rfl
  | emit hr hu hopen => exact ha.emit ho hr hu hopen

theorem Answered.path (ha : c.Answered k id) (ho : c.Orderly)
    (hP : ∀ m, P m → m.requestId? ≠ some id) (hp : Path P c c') : c'.Answered k id := by
  have hkeep : c'.Orderly ∧ c'.Answered k id :=
    hp.keeps (Q := fun c => c.Orderly ∧ c.Answered k id)
      (fun h hm => ⟨h.1.move hm, h.2.move h.1 hP hm⟩) ⟨ho, ha⟩
  exact hkeep.2

end Connector

end Tunnel
