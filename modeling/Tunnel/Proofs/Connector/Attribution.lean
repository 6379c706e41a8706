import Tunnel.Proofs.Connector.Response

/-!
# What is written in answer to a request

A frame goes a long way: an execution sends it, the link of its connection takes it or not, the writer
of the connection writes it when its turn comes, and all the while the relay may go away, the channel may
be closed and another connection may be made. What is said here of the frames of one request holds
between any two of these small steps, not only after a caller has waited for all of them.

What was written to a connection for a request is a first part of what its link took, and that is a first
part of one response. If the request was turned away, or if its execution was over while the link lasted,
the link took the whole of it. While the relay is there, what is taken and not written is in the queue of
the connection; the writer gets to it before the relay sees the connection closed, and before the channel
has nothing left to do.

To take is not to write, though. A relay that goes away leaves the queue unwritten, and this may be the
end of a response whose execution was over while the connection was open. The last part has a run in
which this happens: the end of the response is taken, the task is over, and the relay goes away before
the writer gets to it. So the response is not complete for the relay, and it will never be, since a later
connection has another link.
-/
namespace Tunnel

open Message (ofCall)

namespace Connector

variable {c c' : Connector} {k : LinkId} {id : RequestId} {r : Request} {word : List Message}

/-- While the relay is there, the writer has written what the link took, but for the queue. When there is
nothing left to do, or when the relay sees the connection closed, it has written all. -/
theorem Orderly.written_eq_taken (ho : c.Orderly) {l : Connection} {peer : Peer}
    (he : c.channel.endpoints? k = some (l, peer)) (hd : peer.dropped = false) (id : RequestId) :
    c.channel.writtenFor k id ++ ofCall id l.queued = c.channel.takenFor k id ∧
      (c.channel.step? handler = none ∨ peer.closed = true →
        c.channel.writtenFor k id = c.channel.takenFor k id) := by
  rw [Channel.writtenFor, Channel.writtenOn_of_endpoints he, Channel.takenFor,
    Channel.takenOn_of_endpoints he]
  constructor
  · rw [← Message.ofCall_append, (ho.coherent.fits k l peer he).all hd]
  · rintro (hrest | hclosed)
    · have hr : c.channel.Resting := ho.coherent.step?_eq_none.1 hrest
      rw [hr.outbox_eq ho.coherent he hd]
    · rw [ho.coherent.outbox_of_closed he hclosed hd]

theorem Orderly.written_prefix (ho : c.Orderly) (k : LinkId) (id : RequestId) :
    c.channel.writtenFor k id <+: c.channel.takenFor k id :=
  Message.ofCall_prefix (ho.coherent.written_prefix k)

theorem Grows.length_requestsOn_le {b : Connector} (h : Grows b c)
    (hr : c.channel.requestsOn k id = [r]) : (b.channel.requestsOn k id).length ≤ 1 := by
  have hle := (h.requestsOn_prefix k id).length_le
  rwa [hr] at hle

/-- What a link took when the request was over and it lasted is all that it ever takes for it. -/
theorem Answered.taken_eq_of_isOver {b : Connector} (ha : b.Answered k id) (ho : b.Orderly)
    (hgrows : Grows b c) (hr : c.channel.requestsOn k id = [r]) (hover : b.IsOver k id)
    (he : b.hasEnded k = false) (hword : IsResponse id word)
    (hp : c.channel.takenFor k id <+: word) : c.channel.takenFor k id = word := by
  have hwhole : IsResponse id (b.channel.takenFor k id) :=
    ha.taken_of_isOver ho (hgrows.length_requestsOn_le hr) hover he
  -- no response is a proper part of another
  exact hwhole.eq_of_between hword
    (Message.ofCall_prefix (hgrows.later.taken_prefix ho.coherent k)) hp

theorem run_append (c : Connector) (s t : List Step) : c.run (s ++ t) = (c.run s).run t :=
  List.foldl_append

/-- A response that had been written when the request was over is all that is ever written. -/
theorem Settled.written_eq_of_isOver {b : Connector} (hs : b.Settled) (ho : b.Orderly)
    (ha : b.Answered k id) (hgrows : Grows b c) (hr : c.channel.requestsOn k id = [r])
    (hover : b.IsOver k id) (he : b.hasEnded k = false) (hword : IsResponse id word)
    (hp : c.channel.writtenFor k id <+: word) : c.channel.writtenFor k id = word := by
  have hwhole : IsResponse id (b.channel.writtenFor k id) :=
    hs.written_of_isOver ho ha (hgrows.length_requestsOn_le hr) hover he
  exact hwhole.eq_of_between hword (Message.ofCall_prefix (hgrows.later.written_prefix k)) hp

/-- In every state that small steps of a connector lead to, and for every link and every request that
came on it with a label that came only once there: what is written to that connection for it is a first
part of what the link took for it, and that of one response, in which nothing comes after an end or a
failure. For a request that was turned away this is the failure, which the link has taken, for another
one it is what its execution sends. What was written stays written. If all that was to be sent had been
sent while the link lasted, the link has taken the whole response. Unless the relay is gone, what is taken
is written but for the queue, and all of it when the channel has nothing left to do or the relay sees the
connection closed. On links where the label never came nothing is taken for it.

After every sequence of whole steps it is written, too, if all had been sent while the link lasted. The
frame that a run sends next is then written to the connection of its task, nothing is written to any other
with it, and no lifetime ends. Callers who also send on the channel have to leave the label to the
executions. -/
theorem attribution (channel : ChannelConfig) (credentials : Credentials)
    (dispatch : DispatchConfig) (executor : ExecutorConfig) (clients : TaskId → Client)
    (hb : 0 < channel.heartbeat.nanos) (k : LinkId) (r : Request) :
    let start := among channel credentials dispatch executor clients
    let P : Message → Prop := fun m => m.requestId? ≠ some r.id
    (∀ c, Path P start c →
      (c.channel.requestsOn k r.id = [] → c.channel.takenFor k r.id = [] ∧
        c.channel.writtenFor k r.id = []) ∧
      (c.channel.requestsOn k r.id = [r] → ∃ word, IsResponse r.id word ∧
        c.channel.writtenFor k r.id <+: c.channel.takenFor k r.id ∧
        c.channel.takenFor k r.id <+: word ∧
        (∀ before m after, c.channel.takenFor k r.id = before ++ m :: after →
          m.isTerminal = true → after = []) ∧
        (∀ before m after, c.channel.writtenFor k r.id = before ++ m :: after →
          m.isTerminal = true → after = []) ∧
        (c.NoTask k r.id →
          word = [.failure r.id atCapacity] ∧ c.channel.takenFor k r.id = word) ∧
        (∀ (i : TaskId) (t : Task), c.dispatcher.tasks[i]? = some t → t.link = k →
          t.request.id = r.id → t.request = r ∧ word = (r.execute executor (clients i)).messages) ∧
        (∀ b, Path P start b → Path P b c →
          b.channel.writtenFor k r.id <+: c.channel.writtenFor k r.id ∧
          (b.IsOver k r.id → b.hasEnded k = false → c.channel.takenFor k r.id = word)) ∧
        ∀ l peer, c.channel.endpoints? k = some (l, peer) → peer.dropped = false →
          c.channel.writtenFor k r.id ++ ofCall r.id l.queued = c.channel.takenFor k r.id ∧
          (c.channel.step? handler = none ∨ peer.closed = true →
            c.channel.writtenFor k r.id = c.channel.takenFor k r.id))) ∧
    ∀ steps, (∀ s ∈ steps, ∀ m, s.message? = some m → P m) →
      let c := start.run steps
      Path P start c ∧
      (c.channel.requestsOn k r.id = [r] → ∀ earlier, earlier <+: steps →
        (start.run earlier).IsOver k r.id → (start.run earlier).hasEnded k = false →
        IsResponse r.id (c.channel.writtenFor k r.id) ∧
        c.channel.writtenFor k r.id = c.channel.takenFor k r.id) ∧
      ∀ run i t, c.dispatcher.liveRun? run = some (i, t) → ∀ j,
        (c.act (.emit run)).channel.writtenOn j =
          c.channel.writtenOn j ++ (if j = t.link then c.nextFrame run else []) ∧
        (c.act (.emit run)).hasEnded j = c.hasEnded j := by
  intro start P
  have ho₀ : start.Orderly := among_orderly hb
  have hs₀ : start.Settled := among_settled ..
  have hanswered : ∀ {c}, Path P start c → c.Answered k r.id := fun hp =>
    (among_answered channel credentials dispatch executor clients k r.id).path ho₀ (fun _ hm => hm) hp
  refine ⟨fun c hpath => ⟨fun hr => ?_, fun hr => ?_⟩, fun steps hown => ?_⟩
  · have ho := ho₀.path hpath
    have hnil := (hanswered hpath).taken_eq_nil hr
    have hwritten := ho.written_prefix k r.id
    rw [hnil] at hwritten
    exact ⟨hnil, List.prefix_nil.1 hwritten⟩
  · have ho := ho₀.path hpath
    have hgrows := ho₀.grows hpath
    obtain ⟨word, hword, htaken, hnone, htask⟩ := (hanswered hpath).exists_response hr
    have hwritten := ho.written_prefix k r.id
    refine ⟨word, hword, hwritten, htaken, fun before m after => hword.eq_nil_of_prefix htaken,
      fun before m after => hword.eq_nil_of_prefix (hwritten.trans htaken), hnone,
      fun i t hi hl hid => ?_, fun b hpb hpc => ?_,
      fun l peer hends hd => ho.written_eq_taken hends hd r.id⟩
    · obtain ⟨rfl, hscript⟩ := htask i t hi hl hid
      rw [hscript, script_of_task hi, hgrows.executor, hgrows.clients]
      exact ⟨rfl, rfl⟩
    · have hob := ho₀.path hpb
      have hgrown := hob.grows hpc
      exact ⟨Message.ofCall_prefix (hgrown.later.written_prefix k), fun hover he =>
        (hanswered hpb).taken_eq_of_isOver hob hgrown hr hover he hword htaken⟩
  · intro c
    obtain ⟨hpath, ho, hs⟩ : Path P start c ∧ c.Orderly ∧ c.Settled := run_path ho₀ hs₀ steps hown
    refine ⟨hpath, fun hr earlier hearlier hover he => ?_,
      fun run i t hlive j => hs.emit_written ho hlive j⟩
    obtain ⟨later, rfl⟩ := hearlier
    obtain ⟨hpb, hob, hsb⟩ : Path P start (start.run earlier) ∧ (start.run earlier).Orderly ∧
        (start.run earlier).Settled :=
      run_path ho₀ hs₀ earlier fun s hs => hown s (List.mem_append_left _ hs)
    have hpc : Path P (start.run earlier) c := by
      have hrun : (start.run earlier).run later = c := (run_append ..).symm
      rw [← hrun]
      exact (run_path hob hsb later fun s hs => hown s (List.mem_append_right _ hs)).1
    have hgrows := hob.grows hpc
    obtain ⟨word, hword, htaken, -⟩ := (hanswered hpath).exists_response hr
    have hwritten : c.channel.writtenFor k r.id = word :=
      hsb.written_eq_of_isOver hob (hanswered hpb) hgrows hr hover he hword
        ((ho.written_prefix k r.id).trans htaken)
    have htook : c.channel.takenFor k r.id = word :=
      (hanswered hpb).taken_eq_of_isOver hob hgrows hr hover he hword htaken
    exact ⟨hwritten ▸ hword, hwritten.trans htook.symm⟩

/-! ## A request that is answered

The relay accepts the first attempt and sends one request, whose target answers at once and without a
body.
-/

def sampleRequest : Request :=
  ⟨⟨"r1"⟩, ⟨"GET", "/", "http://target.example.com", ⟨[]⟩, none, .utf8⟩, 0⟩

def sampleClient : Client := fun _ _ => ⟨some (0, .ok ⟨204, []⟩), [(0, .finished)]⟩

def sampleStart : Connector :=
  among {} ⟨"wss://relay.example.com/c", "t0k"⟩ {} {} fun _ => sampleClient

/-- The relay accepts the first attempt and sends the request. -/
def sampleSteps : List Step := [.channel .acceptNext, .channel .connect,
  .channel (.feed 0 (.frame (Message.request sampleRequest).encode))]

def sampleConnected : Channel Dispatcher :=
  ({ sampleStart.channel.acceptNext.2 with phase := .attempting } : Channel Dispatcher).attempt

/-- The connector that has yet to send the two frames of the response. -/
def sampleBegun : Connector :=
  { sampleStart with
    channel := (sampleConnected.hear 0 0 []).deliver handler 0 (.request sampleRequest)
    unsent := [[.start sampleRequest.id 204 ⟨[]⟩, .finish sampleRequest.id]] }

theorem sample_messages : (sampleRequest.execute {} sampleClient).messages =
    [.start sampleRequest.id 204 ⟨[]⟩, .finish sampleRequest.id] := by decide +kernel

theorem sample_decode :
    Message.decode (Message.request sampleRequest).encode = .ok (.request sampleRequest) := by
  have hok : (match Message.decode (Message.request sampleRequest).encode with
    | .ok m => decide (m = .request sampleRequest)
    | .error _ => false) = true := by decide +kernel
  revert hok
  cases Message.decode (Message.request sampleRequest).encode with
  | ok m => exact fun hok => congrArg Except.ok (of_decide_eq_true hok)
  | error e => nofun

theorem sample_run : sampleStart.run sampleSteps = sampleBegun := by
  have hconnect : (sampleStart.channel.acceptNext.2.connect handler).2 = sampleConnected := by
    have hsnd : (sampleStart.channel.acceptNext.2.connect handler).2 = sampleConnected.settle handler :=
      Channel.connect_snd (by decide +kernel) rfl
    rw [hsnd, Channel.settle_of_settled (by rfl)]
  let fed := sampleConnected.modifyPeer 0 fun peer =>
    { peer with inbox := [.frame (Message.request sampleRequest).encode] }
  let told := (fed.hear 0 0 []).deliver handler 0 (.request sampleRequest)
  have hfeed :
      (sampleConnected.feed handler 0 (.frame (Message.request sampleRequest).encode)).2 = told := by
    have hstep : fed.step? handler = some told := by
      change some ((fed.hear 0 0 []).receive handler 0 (Message.request sampleRequest).encode) =
        some told
      rw [Channel.receive, sample_decode]
    change fed.settle handler = told
    rw [Channel.settle_of_step? hstep, Channel.settle_of_settled (by rfl)]
  change (settle { sampleStart with
    channel := (sampleStart.channel.acceptNext.2.connect handler).2 }).act
      (.channel (.feed 0 (.frame (Message.request sampleRequest).encode))) = _
  rw [hconnect]
  change settle { sampleStart with channel :=
    (sampleConnected.feed handler 0 (.frame (Message.request sampleRequest).encode)).2 } = _
  rw [hfeed, sampleBegun, ← sample_messages]
  rfl

theorem sample_own : ∀ s ∈ sampleSteps, ∀ m, s.message? = some m →
    m.requestId? ≠ some sampleRequest.id := by
  intro s hs m hm
  have hall : ∀ s ∈ sampleSteps, s.message? = none := by
    simp [sampleSteps, Step.message?, Channel.Step.message?]
  rw [hall s hs] at hm
  cases hm

/-- A request that comes on the first connection is executed, and its response begins there. -/
theorem attribution_started :
    let config : ChannelConfig := {}
    let c := sampleStart.run sampleSteps
    0 < config.heartbeat.nanos ∧ c.channel.requestsOn 0 sampleRequest.id = [sampleRequest] ∧
      c.channel.takenFor 0 sampleRequest.id <+:
        [.start sampleRequest.id 204 ⟨[]⟩, .finish sampleRequest.id] ∧
      (c.act (.emit 0)).channel.writtenOn 0 = [.start sampleRequest.id 204 ⟨[]⟩] ∧
      ∀ j, j ≠ 0 → (c.act (.emit 0)).channel.writtenOn j = c.channel.writtenOn j := by
  intro config c
  have hb : 0 < config.heartbeat.nanos := by decide
  have hc : c = sampleBegun := sample_run
  have hasked : c.channel.requestsOn 0 sampleRequest.id = [sampleRequest] := by
    rw [hc]
    rfl
  obtain ⟨hstates, hruns⟩ := attribution config ⟨"wss://relay.example.com/c", "t0k"⟩ {} {}
    (fun _ => sampleClient) hb 0 sampleRequest
  obtain ⟨hpath, -, hframe⟩ := hruns sampleSteps sample_own
  obtain ⟨word, -, -, htaken, -, -, -, htask, -⟩ := (hstates _ hpath).2 hasked
  have hlive : c.dispatcher.liveRun? 0 = some (0, ⟨sampleRequest, 0, .running, false⟩) := by
    rw [hc]
    rfl
  have hword : word = [.start sampleRequest.id 204 ⟨[]⟩, .finish sampleRequest.id] := by
    have ht := (Dispatcher.liveRun?_eq_some.1 hlive).2.1
    rw [← sample_messages]
    exact (htask 0 _ ht rfl rfl).2
  have hwrite : ∀ j, (c.act (.emit 0)).channel.writtenOn j =
      c.channel.writtenOn j ++ if j = 0 then c.nextFrame 0 else [] :=
    fun j => (hframe 0 0 _ hlive j).1
  refine ⟨hb, hasked, hword ▸ htaken, ?_, fun j hj => ?_⟩
  · rw [hwrite, hc]
    rfl
  · rw [hwrite, if_neg hj, List.append_nil]

/-! ## A response that is not written

The same request again, but now the steps are small ones. The end of the response is in the queue when
the task is over, and then the relay goes away.
-/

theorem not_isResponse_start (id : RequestId) (status : UInt16) (headers : Headers) :
    ¬ IsResponse id [.start id status headers] := by
  intro h
  obtain ⟨ms, last, hw, hlast, -⟩ := h.exists_last
  have hsplit : ([] : List Message) ++ [.start id status headers] = ms ++ [last] := hw
  obtain ⟨-, hsame⟩ := List.append_inj' hsplit rfl
  rw [← (List.cons.inj hsame).1] at hlast
  cases hlast

/-- The link has taken both frames of the response and the task is over, but only the first is
written. -/
def sampleFinished : Connector :=
  let start : Message := .start sampleRequest.id 204 ⟨[]⟩
  let channel := ((sampleBegun.channel.take 0 [start]).write 0 0 start []).take 0
    [.finish sampleRequest.id]
  ({ sampleBegun with channel, unsent := [[]] } : Connector).withDispatcher
    (sampleBegun.dispatcher.retire 0)

/-- Then the relay has gone away, so that the next write has failed and the connection has been shut. -/
def sampleLost : Connector :=
  let channel := sampleFinished.channel.modifyPeer 0 fun peer => { peer with dropped := true }
  { sampleFinished with
    channel := ((((channel.stopWriting 0).hangUp handler 0).stopWriting 0).letGo 0).retry }

theorem sampleFinished_path (P : Message → Prop) : Path P sampleBegun sampleFinished := by
  let start : Message := .start sampleRequest.id 204 ⟨[]⟩
  let finish : Message := .finish sampleRequest.id
  let task : Task := ⟨sampleRequest, 0, .running, false⟩
  let taken : Connector :=
    { sampleBegun with channel := sampleBegun.channel.take 0 [start], unsent := [[finish]] }
  let written : Connector := { taken with channel := taken.channel.write 0 0 start [] }
  let complete : Connector :=
    { written with channel := written.channel.take 0 [finish], unsent := [[]] }
  have hstart : Move P sampleBegun taken := by
    have hlive : sampleBegun.dispatcher.liveRun? 0 = some (0, task) := rfl
    have hopen : sampleBegun.channel.isOpen task.link = true := rfl
    exact .emit hlive rfl hopen
  have hwrite : Move P taken written := by
    obtain ⟨l, peer, he, hl, hq, hd⟩ : ∃ l peer, taken.channel.endpoints? 0 = some (l, peer) ∧
        l.peer = 0 ∧ l.queued = [start] ∧ peer.dropped = false := ⟨_, _, rfl, rfl, rfl, rfl⟩
    have hmove : Channel.Move handler taken.channel (taken.channel.write 0 l.peer start []) :=
      .write (.inl rfl) he hq hd
    rw [hl] at hmove
    exact .channel hmove
  have hfinish : Move P written complete := by
    have hlive : written.dispatcher.liveRun? 0 = some (0, task) := rfl
    have hopen : written.channel.isOpen task.link = true := rfl
    exact .emit hlive rfl hopen
  have hover : Move P complete sampleFinished := by
    have hlive : complete.dispatcher.liveRun? 0 = some (0, task) := rfl
    exact .finish hlive (.inr rfl)
  exact (((Relation.ReflTransGen.single hstart).tail hwrite).tail hfinish).tail hover

theorem sampleLost_path (P : Message → Prop) : Path P sampleFinished sampleLost := by
  let gone : Connector := { sampleFinished with
    channel := sampleFinished.channel.modifyPeer 0 fun peer => { peer with dropped := true } }
  let failed : Connector :=
    { gone with channel := (gone.channel.stopWriting 0).hangUp handler 0 }
  have hdrop : Move P sampleFinished gone := .touch (.dropPeer 0)
  have hfail : Move P gone failed := by
    obtain ⟨l, peer, he, hd⟩ : ∃ l peer, gone.channel.endpoints? 0 = some (l, peer) ∧
        peer.dropped = true := ⟨_, _, rfl, rfl⟩
    exact .channel (.failWrite rfl he hd)
  have hshut : Move P failed sampleLost := by
    obtain ⟨l, peer, he, hl, hq⟩ : ∃ l peer, failed.channel.endpoints? 0 = some (l, peer) ∧
        l.peer = 0 ∧ l.queued = [] := ⟨_, _, rfl, rfl, rfl⟩
    have hmove : Channel.Move handler failed.channel
        ((failed.channel.stopWriting 0).letGo l.peer).retry := .shut rfl he hq
    rw [hl] at hmove
    exact .channel hmove
  exact ((Relation.ReflTransGen.single hdrop).tail hfail).tail hshut

/-- The execution was over while the connection was open and its link had taken the whole response, yet
the relay went away before the end of it was written, and no later step writes it. -/
theorem response_not_written :
    let P : Message → Prop := fun m => m.requestId? ≠ some sampleRequest.id
    ∃ b c, Path P sampleStart b ∧ b.IsOver 0 sampleRequest.id ∧ b.hasEnded 0 = false ∧
      b.channel.isOpen 0 = true ∧ Path P b c ∧
      c.channel.requestsOn 0 sampleRequest.id = [sampleRequest] ∧
      ∀ d, Path P c d → ¬ IsResponse sampleRequest.id (d.channel.writtenFor 0 sampleRequest.id) := by
  intro P
  have ho : sampleStart.Orderly := among_orderly (by decide)
  have hbegun : Path P sampleStart sampleBegun := by
    rw [← sample_run]
    exact (run_path ho (among_settled ..) sampleSteps sample_own).1
  have hfinished : Path P sampleStart sampleFinished := hbegun.trans (sampleFinished_path P)
  have hlost : Path P sampleStart sampleLost := hfinished.trans (sampleLost_path P)
  refine ⟨sampleFinished, sampleLost, hfinished, ⟨by decide +kernel, fun i t hi _ _ => ?_⟩, rfl, rfl,
    sampleLost_path P, by rfl, fun d hd => ?_⟩
  · have htasks : sampleFinished.dispatcher.tasks = [⟨sampleRequest, 0, .ended, false⟩] := by rfl
    rw [htasks, List.getElem?_singleton] at hi
    split at hi
    · rw [← Option.some.inj hi]
    · cases hi
  · obtain ⟨l, peer, he, hclosed, hout⟩ : ∃ l peer,
        sampleLost.channel.endpoints? 0 = some (l, peer) ∧ peer.closed = true ∧
        peer.outbox = [.start sampleRequest.id 204 ⟨[]⟩] := ⟨_, _, rfl, rfl, rfl⟩
    obtain ⟨l', peer', he', honward⟩ := ((ho.path hlost).grows hd).later.onward he
    have hwritten : d.channel.writtenFor 0 sampleRequest.id =
        [.start sampleRequest.id 204 ⟨[]⟩] := by
      rw [Channel.writtenFor, Channel.writtenOn_of_endpoints he', (honward.closed hclosed).2, hout]
      rfl
    rw [hwritten]
    exact not_isResponse_start _ _ _

end Connector

end Tunnel
