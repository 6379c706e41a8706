import Tunnel.Proofs.Channel.Delivery
import Tunnel.Proofs.Connector.Answer
import Tunnel.Proofs.Connector.Rest

/-!
# Responses

A response is a failure alone, or a start, numbered chunks, and an end or a failure. All that an
execution sends is one response, no response goes on after its last message, and none is a proper part of
another.

What a link takes for a request is a first part of one response, and this is so in every state that small
steps lead to. When the execution is over and the lifetime of the link is not, the link has taken the
whole. A connector takes nothing of this back: what was delivered, taken or written stays so.
-/
namespace Tunnel

open Message (ofCall)

/-- A response to a call: a failure alone, or a start, chunks that are numbered from zero, and an end or
a failure. -/
inductive IsResponse (id : RequestId) : List Message → Prop where
  | alone (error : String) : IsResponse id [.failure id error]
  | whole (status : UInt16) (headers : Headers) (bodies : List (List UInt8)) {last : Message}
    (hl : last = .finish id ∨ ∃ error, last = .failure id error) :
    IsResponse id (.start id status headers ::
      ((bodies.mapIdx fun i data => .chunkOf id data (UInt64.ofNat i)) ++ [last]))

namespace IsResponse

variable {id : RequestId} {w w' : List Message}

/-- A response is ended by its last message, and by no other. -/
theorem exists_last (h : IsResponse id w) :
    ∃ ms last, w = ms ++ [last] ∧ last.isTerminal = true ∧ ∀ m ∈ ms, m.isTerminal = false := by
  cases h with
  | alone error => exact ⟨[], _, rfl, rfl, nofun⟩
  | @whole status headers bodies last hl =>
    refine ⟨_ :: _, last, rfl, ?_, fun m hm => ?_⟩
    · rcases hl with rfl | ⟨error, rfl⟩ <;> rfl
    · rcases List.mem_cons.1 hm with rfl | hm
      · rfl
      · obtain ⟨i, hi, rfl⟩ := List.mem_mapIdx.1 hm
        rfl

/-- Nothing comes after what ends a response. -/
theorem eq_nil_of_terminal (h : IsResponse id w) {before after : List Message} {m : Message}
    (hw : w = before ++ m :: after) (hm : m.isTerminal = true) : after = [] := by
  obtain ⟨ms, last, rfl, -, hms⟩ := h.exists_last
  rcases append_cons_concat_cases hw.symm with ⟨hnil, -, -⟩ | ⟨after', -, rfl⟩
  · exact hnil
  · rw [hms m (List.mem_append_right _ List.mem_cons_self)] at hm
    cases hm

/-- No response is a proper first part of another. -/
theorem eq_of_prefix (h : IsResponse id w) (h' : IsResponse id w') (hp : w <+: w') : w = w' := by
  obtain ⟨ms, last, rfl, hlast, -⟩ := h.exists_last
  obtain ⟨more, rfl⟩ := hp
  have hnil : more = [] :=
    h'.eq_nil_of_terminal (by rw [List.append_assoc, List.singleton_append]) hlast
  rw [hnil, List.append_nil]

/-- What has a response for a first part and is a first part of one is that response. -/
theorem eq_of_between (h : IsResponse id w) (h' : IsResponse id w') {ms : List Message}
    (hw : w <+: ms) (hp : ms <+: w') : ms = w' := by
  rw [h.eq_of_prefix h' (hw.trans hp)] at hw
  exact hp.eq_of_length_le hw.length_le

theorem eq_nil_of_prefix {ms before after : List Message} {m : Message} (h : IsResponse id w)
    (hp : ms <+: w) (hms : ms = before ++ m :: after) (hm : m.isTerminal = true) : after = [] := by
  obtain ⟨more, hmore⟩ := hp
  have hsplit : w = before ++ m :: (after ++ more) := by
    rw [← hmore, hms, List.append_assoc, List.cons_append]
  exact (List.append_eq_nil_iff.1 (h.eq_nil_of_terminal hsplit hm)).1

end IsResponse

theorem Execution.Whole.isResponse {id : RequestId}
    {x : Option (ResponseHead × List (List UInt8))} {fs : List (Option Message)} {o : Outcome}
    (hw : Whole id x fs o) : IsResponse id (fs.filterMap fun m => m) := by
  cases hw with
  | alone error => exact .alone error
  | @response head ps last o he =>
    have hl : last = .finish id ∨ ∃ error, last = .failure id error := by
      cases he with
      | finished => exact .inl rfl
      | failed error => exact .inr ⟨error, rfl⟩
    have hall := IsResponse.whole head.status (Headers.ofResponse head.lines)
      (ps.filter fun data => data ≠ []) hl
    rw [List.filterMap_cons, List.filterMap_append, frames_messages, chunksFrom]
    simp only [Nat.zero_add]
    exact hall

theorem Request.execute_isResponse (c : ExecutorConfig) (client : Client) (r : Request) :
    IsResponse r.id (r.execute c client).messages := by
  rw [Execution.messages_eq]
  exact (r.execute_whole c client).isResponse

def Channel.writtenFor {σ : Type} (c : Channel σ) (k : LinkId) (id : RequestId) : List Message :=
  ofCall id (c.writtenOn k)

namespace Connector

variable {P : Message → Prop} {c c' : Connector} {run : Nat} {i : TaskId} {t : Task} {k : LinkId}
  {id : RequestId} {r : Request} {rest : List Message}

structure Grows (c c' : Connector) : Prop where
  executor : c'.executor = c.executor
  clients : c'.clients = c.clients
  delivered : c.channel.delivered <+: c'.channel.delivered
  later : Channel.Later c.channel c'.channel

theorem Grows.trans {b : Connector} (h : Grows c b) (g : Grows b c') : Grows c c' :=
  ⟨g.executor.trans h.executor, g.clients.trans h.clients, h.delivered.trans g.delivered,
    h.later.trans g.later⟩

theorem Grows.requestsOn_prefix (h : Grows c c') (k : LinkId) (id : RequestId) :
    c.channel.requestsOn k id <+: c'.channel.requestsOn k id := h.delivered.filterMap _

theorem Grows.of_channel {ch : Channel Dispatcher} (hd : c.channel.delivered <+: ch.delivered)
    (hl : Channel.Later c.channel ch) : Grows c { c with channel := ch } := ⟨rfl, rfl, hd, hl⟩

theorem grows_withDispatcher (c : Connector) (d : Dispatcher) : Grows c (c.withDispatcher d) :=
  .of_channel (List.prefix_refl _) (.of_eq rfl rfl fun hs => hs)

theorem Orderly.move_grows (ho : c.Orderly) (hm : Move P c c') : Grows c c' := by
  cases hm with
  | @channel ch hm =>
    have hd : c.channel.delivered <+: ch.delivered := by
      cases hm.effect ho.coherent with
      | nothing _ hd | heartbeat _ _ hd | hangUp _ _ _ hd => exact hd ▸ List.prefix_refl _
      | deliver _ _ _ _ hd =>
        rw [hd]
        exact List.prefix_append _ _
    exact .of_channel hd (ho.coherent.move_later hm)
  | touch ht =>
    refine .of_channel ?_ ht.later
    cases ht <;> exact List.prefix_refl _
  | send hm hopen => exact .of_channel (List.prefix_refl _) (.take hopen _)
  | proceed hd => exact grows_withDispatcher c _
  | begin => exact ⟨rfl, rfl, List.prefix_refl _, .refl _⟩
  | finish hr hf => exact grows_withDispatcher c _
  | emit hr hu hopen => exact ⟨rfl, rfl, List.prefix_refl _, .take hopen _⟩

theorem Orderly.grows (ho : c.Orderly) (hp : Path P c c') : Grows c c' := by
  have hkeep : c'.Orderly ∧ Grows c c' :=
    hp.keeps (Q := fun d => d.Orderly ∧ Grows c d)
      (fun h hm => ⟨h.1.move hm, h.2.trans (h.1.move_grows hm)⟩)
      ⟨ho, rfl, rfl, List.prefix_refl _, .refl _⟩
  exact hkeep.2

def nextFrame (c : Connector) (run : Nat) : List Message := (c.unsent[run]?.getD []).take 1

theorem SameChannel.writtenOn (h : SameChannel c c') (j : LinkId) :
    c'.channel.writtenOn j = c.channel.writtenOn j := by
  obtain ⟨d, hd⟩ := h
  rw [hd]
  rfl

theorem SameChannel.hasEnded (h : SameChannel c c') (j : LinkId) : c'.hasEnded j = c.hasEnded j := by
  obtain ⟨d, hd⟩ := h
  rw [Connector.hasEnded, hd]
  rfl

/-- A run sends its next frame, if there is one, and nothing else of the channel changes. -/
theorem Settled.emit_cases (hs : c.Settled) (ho : c.Orderly)
    (hr : c.dispatcher.liveRun? run = some (i, t)) :
    c.nextFrame run = [] ∧ SameChannel c (c.emit run) ∨
    ∃ m ms, c.nextFrame run = [m] ∧ SameChannel (c.sent run t.link m ms) (c.emit run) := by
  obtain ⟨rest, hu⟩ := hs.exists_unsent hr
  cases rest with
  | nil =>
    refine .inl ⟨by rw [nextFrame, hu]; rfl, ?_⟩
    rw [emit_eq_of_empty hr hu]
    exact (finish_sameChannel c run).trans (settle_sameChannel _)
  | cons m ms =>
    refine .inr ⟨m, ms, by rw [nextFrame, hu]; rfl, ?_⟩
    rw [emit_eq hr hu (hs.isOpen ho hr)]
    split_ifs
    · exact (finish_sameChannel _ run).trans (settle_sameChannel _)
    · exact settle_sameChannel _

/-- What a run sends is written to the connection of its task and to no other, and ends none. -/
theorem Settled.emit_written (hs : c.Settled) (ho : c.Orderly)
    (hr : c.dispatcher.liveRun? run = some (i, t)) (j : LinkId) :
    (c.emit run).channel.writtenOn j =
      c.channel.writtenOn j ++ (if j = t.link then c.nextFrame run else []) ∧
    (c.emit run).hasEnded j = c.hasEnded j := by
  rcases hs.emit_cases ho hr with ⟨hnone, hsame⟩ | ⟨m, ms, hnext, hsame⟩
  · rw [hsame.writtenOn, hsame.hasEnded, hnone, ite_self, List.append_nil]
    exact ⟨rfl, rfl⟩
  · have hopen := hs.isOpen ho hr
    rw [hsame.writtenOn, hsame.hasEnded, hnext]
    exact ⟨hs.resting.writtenOn_settle_take ho.coherent hopen m j,
      hs.resting.hasEnded_settle_take ho.coherent hopen m j⟩

/-- A request has come and waits for nothing more: no task has it, or its task has ended. -/
def IsOver (c : Connector) (k : LinkId) (id : RequestId) : Prop :=
  c.channel.requestsOn k id ≠ [] ∧ ∀ (i : TaskId) (t : Task), c.dispatcher.tasks[i]? = some t →
    t.link = k → t.request.id = id → t.phase = .ended

theorem exists_task (hi : c.dispatcher.requests[i]? = some (r, k)) :
    ∃ t, c.dispatcher.tasks[i]? = some t ∧ t.request = r ∧ t.link = k := by
  rw [Dispatcher.requests, List.getElem?_map] at hi
  obtain ⟨t, ht, he⟩ := Option.map_eq_some_iff.1 hi
  obtain ⟨rfl, rfl⟩ := Prod.mk.inj he
  exact ⟨t, ht, rfl, rfl⟩

theorem script_isResponse (hi : c.dispatcher.requests[i]? = some (r, k)) :
    IsResponse r.id (c.script i) := by
  obtain ⟨t, ht, rfl, rfl⟩ := exists_task hi
  rw [script_of_task ht]
  exact t.request.execute_isResponse _ _

/-- What a link takes for a request is a first part of one response, which says whether the request was
turned away. -/
theorem Answered.exists_response (ha : c.Answered k id) (hr : c.channel.requestsOn k id = [r]) :
    ∃ word, IsResponse id word ∧ c.channel.takenFor k id <+: word ∧
      (c.NoTask k id → word = [.failure id atCapacity] ∧ c.channel.takenFor k id = word) ∧
      ∀ (i : TaskId) (t : Task), c.dispatcher.tasks[i]? = some t → t.link = k →
        t.request.id = id → t.request = r ∧ word = c.script i := by
  cases ha with
  | unasked hq => rw [hq] at hr; cases hr
  | reused hq => rw [hr] at hq; exact absurd hq (Nat.lt_irrefl 1)
  | turnedAway hq hn ht =>
    refine ⟨_, .alone atCapacity, ht ▸ List.prefix_refl _, fun _ => ⟨rfl, ht⟩, fun i t hi hl hid => ?_⟩
    subst hl
    exact absurd hid (hn _ (List.mem_of_getElem? (Dispatcher.requests_getElem? hi)))
  | @accepted r₀ i rest hq hid hi hl ht =>
    obtain rfl : r = r₀ := List.singleton_inj.1 (hr.symm.trans hq)
    subst hid
    refine ⟨c.script i, script_isResponse hi.request, ⟨rest, ht⟩, fun hn => ?_, fun j t hj hl' hid => ?_⟩
    · exact absurd rfl (hn r (List.mem_of_getElem? hi.request))
    · subst hl'
      have hreq := Dispatcher.requests_getElem? hj
      obtain rfl : j = i := hi.unique j t.request hreq hid
      exact ⟨(Prod.mk.inj (Option.some.inj (hreq.symm.trans hi.request))).1, rfl⟩

theorem Answered.taken_eq_nil (ha : c.Answered k id) (hr : c.channel.requestsOn k id = []) :
    c.channel.takenFor k id = [] := by
  cases ha with
  | unasked hq hn ht => exact ht
  | turnedAway hq | accepted hq => rw [hr] at hq; cases hq
  | reused hq => rw [hr] at hq; cases hq

/-- When a request is over whose link has not ended, the link has taken a response to it. -/
theorem Answered.taken_of_isOver (ha : c.Answered k id) (ho : c.Orderly)
    (hr : (c.channel.requestsOn k id).length ≤ 1) (hover : c.IsOver k id)
    (he : c.hasEnded k = false) : IsResponse id (c.channel.takenFor k id) := by
  cases ha with
  | unasked hq => exact absurd hq hover.1
  | reused hq => exact absurd hr (Nat.not_le_of_lt hq)
  | turnedAway hq hn ht =>
    rw [ht]
    exact .alone atCapacity
  | @accepted r i rest hq hid hi hl ht =>
    -- while the link lasts, a task ends only when nothing is left
    obtain ⟨t, htask, rfl, rfl⟩ := exists_task hi.request
    have hnil : rest = [] := by
      rcases ho.finished i t htask (hover.2 i t htask rfl hid) with hend | ⟨n, hn, hu⟩
      · rw [he] at hend
        cases hend
      · exact hl.unique ho.nodup hn hu
    rw [hnil, List.append_nil] at ht
    rw [ht, ← hid]
    exact script_isResponse hi.request

theorem Settled.written_of_isOver (hs : c.Settled) (ho : c.Orderly) (ha : c.Answered k id)
    (hr : (c.channel.requestsOn k id).length ≤ 1) (hover : c.IsOver k id)
    (he : c.hasEnded k = false) : IsResponse id (c.channel.writtenFor k id) := by
  rw [Channel.writtenFor, hs.resting.writtenOn_eq ho.coherent he]
  exact ha.taken_of_isOver ho hr hover he

theorem among_answered (channel : ChannelConfig) (credentials : Credentials)
    (dispatch : DispatchConfig) (executor : ExecutorConfig) (clients : TaskId → Client) (k : LinkId)
    (id : RequestId) : (among channel credentials dispatch executor clients).Answered k id :=
  .unasked rfl nofun rfl

end Connector

end Tunnel
