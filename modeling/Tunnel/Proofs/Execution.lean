import Tunnel.Execution
import Tunnel.Proofs.Base64

/-!
# What an execution sends

An execution sends a whole response, in which the chunks are numbered from zero without a gap and carry
the bytes of the body, or a failure alone. An execution that is cancelled has sent a first part of it,
up to the read that was its last, and nothing that ends it.
-/
namespace Tunnel

def Message.data? : Message → Option String
  | .chunk _ data _ => some data
  | _ => none

namespace Execution

/-- The pieces of a body that come in time, before it ends or fails. -/
def pieces (limit : Duration) : List (Nat × BodyRead) → List (List UInt8)
  | [] => []
  | (delay, read) :: rest =>
    if limit.nanos < delay then []
    else match read with
      | .bytes data => data :: pieces limit rest
      | .finished => []
      | .failed _ => []

/-- The chunks of a body, numbered from `n` on. There is none for a piece that is empty. -/
def chunksFrom (id : RequestId) (n : Nat) (ps : List (List UInt8)) : List Message :=
  (ps.filter fun data => data ≠ []).mapIdx fun i data => .chunkOf id data (UInt64.ofNat (n + i))

/-- The frames of the steps that read the pieces of a body, with `n` chunks sent before. -/
def frames (id : RequestId) : Nat → List (List UInt8) → List (Option Message)
  | _, [] => []
  | n, [] :: ps => none :: frames id n ps
  | n, (b :: bs) :: ps => some (.chunkOf id (b :: bs) (UInt64.ofNat n)) :: frames id (n + 1) ps

/-- How an execution ends by itself, and the frame that says so. -/
inductive Ends (id : RequestId) (chunks : Nat) : Message → Outcome → Prop where
  | finished : Ends id chunks (.finish id) (.completed chunks)
  | failed (error : String) : Ends id chunks (.failure id error) .failed

variable {id : RequestId} {limit : Duration}

@[simp] theorem frames_length (n : Nat) (ps : List (List UInt8)) : (frames id n ps).length = ps.length := by
  fun_induction frames id n ps with
  | case1 => rfl
  | case2 n ps ih | case3 n b bs ps ih => rw [List.length_cons, List.length_cons, ih]

@[simp] theorem frames_take (n k : Nat) (ps : List (List UInt8)) :
    (frames id n ps).take k = frames id n (ps.take k) := by
  fun_induction frames id n ps generalizing k with
  | case1 => rw [List.take_nil, List.take_nil, frames]
  | case2 n ps ih | case3 n b bs ps ih =>
    cases k with
    | zero => rfl
    | succ k => rw [List.take_succ_cons, List.take_succ_cons, frames, ih]

theorem chunksFrom_cons (n : Nat) (b : UInt8) (bs : List UInt8) (ps : List (List UInt8)) :
    chunksFrom id n ((b :: bs) :: ps) =
      .chunkOf id (b :: bs) (UInt64.ofNat n) :: chunksFrom id (n + 1) ps := by
  rw [chunksFrom, List.filter_cons_of_pos (by simp), List.mapIdx_cons, chunksFrom]
  simp only [Nat.add_zero, Nat.add_assoc, Nat.add_comm 1]

theorem chunksFrom_nil_cons (n : Nat) (ps : List (List UInt8)) :
    chunksFrom id n ([] :: ps) = chunksFrom id n ps := by
  rw [chunksFrom, List.filter_cons_of_neg (by simp), chunksFrom]

theorem frames_messages (n : Nat) (ps : List (List UInt8)) :
    (frames id n ps).filterMap (fun m => m) = chunksFrom id n ps := by
  fun_induction frames id n ps with
  | case1 => rfl
  | case2 n ps ih =>
    rw [List.filterMap_cons_none rfl, ih, chunksFrom_nil_cons]
  | case3 n b bs ps ih =>
    rw [List.filterMap_cons, ih, chunksFrom_cons]

/-- Nothing but a chunk carries bytes, and what a chunk carries are the bytes it was made of. -/
theorem mapM_decode_chunksFrom (n : Nat) (ps : List (List UInt8)) :
    ((chunksFrom id n ps).filterMap Message.data?).mapM Base64.decode =
      .ok (ps.filter fun data => data ≠ []) := by
  rw [chunksFrom]
  induction ps.filter fun data => data ≠ [] generalizing n with
  | nil => rfl
  | cons data rest ih =>
    have hrest := ih (n + 1)
    simp only [Nat.add_assoc, Nat.add_comm 1] at hrest
    have hdata : (Message.chunkOf id data (UInt64.ofNat (n + 0))).data? =
        some (Base64.encode data) := rfl
    rw [List.mapIdx_cons, List.filterMap_cons_some hdata, List.mapM_cons, Base64.decode_encode, hrest]
    rfl

theorem ofReads_steps (id : RequestId) (limit : Duration) (now n : Nat) (reads : List (Nat × BodyRead)) :
    ∃ last, (ofReads id limit now n reads).steps.map Prod.snd =
        frames id n (pieces limit reads) ++ [some last] ∧
      Ends id (n + (chunksFrom id n (pieces limit reads)).length) last
        (ofReads id limit now n reads).outcome := by
  induction reads generalizing now n with
  | nil => exact ⟨_, rfl, .failed _⟩
  | cons x rest ih =>
    obtain ⟨delay, read⟩ := x
    unfold ofReads pieces
    split_ifs
    · exact ⟨_, rfl, .failed _⟩
    · cases read with
      | finished => exact ⟨_, rfl, .finished⟩
      | failed f => exact ⟨_, rfl, .failed _⟩
      | bytes data =>
        cases data with
        | nil =>
          obtain ⟨last, hs, he⟩ := ih (now + delay) n
          refine ⟨last, ?_, he⟩
          rw [frames, List.cons_append, ← hs]
          rfl
        | cons b bs =>
          obtain ⟨last, hs, he⟩ := ih (now + delay) (n + 1)
          refine ⟨last, ?_, ?_⟩
          · rw [frames, List.cons_append, ← hs]
            rfl
          · rw [chunksFrom_cons, List.length_cons, Nat.add_comm _ 1, ← Nat.add_assoc]
            exact he

def response? (limit : Duration) (a : Answer) : Option (ResponseHead × List (List UInt8)) :=
  match a.head with
  | none => none
  | some (delay, head) =>
    if limit.nanos < delay then none
    else match head with
      | .error _ => none
      | .ok head => some (head, pieces limit a.reads)

def startOf (id : RequestId) (head : ResponseHead) : Message :=
  .start id head.status (Headers.ofResponse head.lines)

/-- What the steps of a whole execution send, given the response that comes in time. -/
inductive Whole (id : RequestId) :
    Option (ResponseHead × List (List UInt8)) → List (Option Message) → Outcome → Prop where
  | alone (error : String) : Whole id none [some (.failure id error)] .failed
  | response (head : ResponseHead) (ps : List (List UInt8)) {last : Message} {o : Outcome}
    (he : Ends id (chunksFrom id 0 ps).length last o) :
    Whole id (some (head, ps)) (some (startOf id head) :: (frames id 0 ps ++ [some last])) o

theorem ofAnswer_whole (a : Answer) :
    Whole id (response? limit a) ((ofAnswer id limit a).steps.map Prod.snd)
      (ofAnswer id limit a).outcome := by
  unfold response? ofAnswer
  cases a.head with
  | none => exact .alone _
  | some x =>
    obtain ⟨delay, head⟩ := x
    simp only
    split_ifs
    · exact .alone _
    · cases head with
      | error f => exact .alone _
      | ok head =>
        obtain ⟨last, hs, he⟩ := ofReads_steps id limit delay 0 a.reads
        rw [Nat.zero_add] at he
        simp only [after, List.map_cons, hs]
        exact .response head _ he

theorem messages_eq (e : Execution) :
    e.messages = (e.steps.map Prod.snd).filterMap fun m => m := by
  rw [messages, List.filterMap_map]
  rfl

/-- What an execution has sent after the pieces that were read, and how it turned out. -/
inductive Sent (id : RequestId) (x : Option (ResponseHead × List (List UInt8)))
    (read : List (List UInt8)) : List Message → Outcome → Prop where
  | alone (error : String) (hx : x = none) (hr : read = []) :
    Sent id x read [.failure id error] .failed
  | finished (head : ResponseHead) (hx : x = some (head, read)) :
    Sent id x read (startOf id head :: (chunksFrom id 0 read ++ [.finish id]))
      (.completed (chunksFrom id 0 read).length)
  | failed (head : ResponseHead) (error : String) (hx : x = some (head, read)) :
    Sent id x read (startOf id head :: (chunksFrom id 0 read ++ [.failure id error])) .failed
  | unstarted (hr : read = []) : Sent id x read [] .cancelled
  | cut (head : ResponseHead) (ps : List (List UInt8)) (hx : x = some (head, ps)) :
    Sent id x read (startOf id head :: chunksFrom id 0 read) .cancelled

/-- A whole execution has sent all it has to. -/
theorem Whole.sent {x : Option (ResponseHead × List (List UInt8))} {fs : List (Option Message)}
    {o : Outcome} (hw : Whole id x fs o) {taken : Nat} (ht : fs.length ≤ taken) :
    Sent id x ((x.map fun y => y.2.take (taken - 1)).getD []) (fs.filterMap fun m => m) o := by
  cases hw with
  | alone error => exact .alone error rfl rfl
  | response head ps he =>
    have hps : ps.length ≤ taken - 1 := by
      simp at ht
      omega
    rw [List.filterMap_cons, List.filterMap_append, frames_messages, Option.map_some,
      Option.getD_some, List.take_of_length_le hps]
    cases he with
    | finished => exact .finished head rfl
    | failed error => exact .failed head error rfl

/-- An execution that is cut short has sent nothing that ends it. -/
theorem Whole.sent_take {x : Option (ResponseHead × List (List UInt8))} {fs : List (Option Message)}
    {o : Outcome} (hw : Whole id x fs o) {taken : Nat} (ht : taken < fs.length) :
    Sent id x ((x.map fun y => y.2.take (taken - 1)).getD [])
      ((fs.take taken).filterMap fun m => m) .cancelled := by
  cases taken with
  | zero =>
    refine .unstarted ?_
    cases x <;> rfl
  | succ k =>
    cases hw with
    | alone error => exact absurd ht (by simp)
    | response head ps he =>
      -- the step that is left out is that of the last frame or one before
      have hk : k ≤ ps.length := by
        simp at ht
        omega
      rw [List.take_succ_cons, List.take_append_of_le_length (by simpa using hk), frames_take,
        List.filterMap_cons, frames_messages]
      exact .cut head ps rfl

theorem sent_cancel {x : Option (ResponseHead × List (List UInt8))} {e : Execution}
    (hw : Whole id x (e.steps.map Prod.snd) e.outcome) (time taken : Nat) :
    Sent id x ((x.map fun y => y.2.take (taken - 1)).getD []) (e.cancel time taken).messages
      (e.cancel time taken).outcome := by
  unfold cancel
  split_ifs with ht
  · rw [messages_eq]
    exact hw.sent (by rwa [List.length_map])
  · rw [messages_eq, List.map_take]
    exact hw.sent_take (by rw [List.length_map]; exact Nat.lt_of_not_le ht)

theorem requestId_of_mem_chunksFrom {n : Nat} {ps : List (List UInt8)} {m : Message}
    (hm : m ∈ chunksFrom id n ps) : m.requestId? = some id := by
  rw [chunksFrom, List.mem_mapIdx] at hm
  obtain ⟨i, hi, rfl⟩ := hm
  rfl

theorem Sent.requestId {x : Option (ResponseHead × List (List UInt8))} {read : List (List UInt8)}
    {ms : List Message} {o : Outcome} (hs : Sent id x read ms o) {m : Message} (hm : m ∈ ms) :
    m.requestId? = some id := by
  have hbody : ∀ last : Message, last.requestId? = some id → ∀ head,
      m ∈ startOf id head :: (chunksFrom id 0 read ++ [last]) → m.requestId? = some id := by
    intro last hlast head hm
    rcases List.mem_cons.1 hm with rfl | hm
    · rfl
    · rcases List.mem_append.1 hm with hm | hm
      · exact requestId_of_mem_chunksFrom hm
      · rwa [List.mem_singleton.1 hm]
  cases hs with
  | alone error hx hr =>
    rw [List.mem_singleton.1 hm]
    rfl
  | finished head hx => exact hbody _ rfl head hm
  | failed head error hx => exact hbody _ rfl head hm
  | unstarted hr => cases hm
  | cut head ps hx =>
    rcases List.mem_cons.1 hm with rfl | hm
    · rfl
    · exact requestId_of_mem_chunksFrom hm

theorem Sent.decode {x : Option (ResponseHead × List (List UInt8))} {read : List (List UInt8)}
    {ms : List Message} {o : Outcome} (hs : Sent id x read ms o) :
    ∃ parts, (ms.filterMap Message.data?).mapM Base64.decode = .ok parts ∧
      parts.flatten = read.flatten := by
  have hbody : ∃ parts,
      ((chunksFrom id 0 read).filterMap Message.data?).mapM Base64.decode = .ok parts ∧
        parts.flatten = read.flatten :=
    ⟨_, mapM_decode_chunksFrom 0 read, List.flatten_filter_ne_nil⟩
  cases hs with
  | alone error hx hr => exact ⟨[], rfl, by rw [hr]⟩
  | finished head hx | failed head error hx =>
    rw [List.filterMap_cons_none rfl, List.filterMap_append, List.filterMap_cons_none rfl,
      List.filterMap_nil, List.append_nil]
    exact hbody
  | unstarted hr => exact ⟨[], rfl, by rw [hr]⟩
  | cut head ps hx =>
    rw [List.filterMap_cons_none rfl]
    exact hbody

end Execution

namespace Request

open Execution

/-- The head of the response to a request that comes in time, and the pieces of its body. -/
def response? (c : ExecutorConfig) (client : Client) (r : Request) :
    Option (ResponseHead × List (List UInt8)) :=
  match Outbound.ofTarget r.target with
  | .error _ => none
  | .ok o =>
    match o.refusal? with
    | some _ => none
    | none => Execution.response? (r.limit c) (client c.followRedirects o)

theorem execute_whole (c : ExecutorConfig) (client : Client) (r : Request) :
    Whole r.id (r.response? c client) ((r.execute c client).steps.map Prod.snd)
      (r.execute c client).outcome := by
  unfold response? execute
  cases Outbound.ofTarget r.target with
  | error e => exact .alone _
  | ok o =>
    simp only
    cases o.refusal? with
    | some f => exact .alone _
    | none => exact ofAnswer_whole _

/-- The pieces of the body that an execution has read after a number of steps, the first of which gives
the head of the response. -/
def piecesRead (c : ExecutorConfig) (client : Client) (taken : Nat) (r : Request) :
    List (List UInt8) :=
  ((r.response? c client).map fun x => x.2.take (taken - 1)).getD []

/-- The messages of an execution that is cancelled at some time after some steps, unless these are all,
carry the label of its request. If it is completed they are the start of the response, a chunk for each
piece of its body that is not empty, numbered from zero, and the end. If it failed they are a failure
alone, or the start of the response, such chunks and a failure. If it is cancelled they are nothing, or
the start of the response and such chunks. The bytes of the chunks are those that were read, which are
all that came in time unless the execution is cancelled. -/
theorem execute_cancel_messages (c : ExecutorConfig) (client : Client) (r : Request)
    (time taken : Nat) :
    let e := (r.execute c client).cancel time taken
    let read := r.piecesRead c client taken
    let chunks := (read.filter fun data => data ≠ []).mapIdx fun i data =>
      Message.chunkOf r.id data (UInt64.ofNat i)
    (∀ m ∈ e.messages, m.requestId? = some r.id) ∧
    (∀ n, e.outcome = .completed n → n = chunks.length ∧
      ∃ head ps, r.response? c client = some (head, ps) ∧ e.messages =
        .start r.id head.status (Headers.ofResponse head.lines) :: (chunks ++ [.finish r.id])) ∧
    (e.outcome = .failed →
      (∃ error, r.response? c client = none ∧ e.messages = [.failure r.id error]) ∨
      ∃ head ps error, r.response? c client = some (head, ps) ∧ e.messages =
        .start r.id head.status (Headers.ofResponse head.lines) ::
          (chunks ++ [.failure r.id error])) ∧
    (e.outcome = .cancelled → e.messages = [] ∧ read = [] ∨
      ∃ head ps, r.response? c client = some (head, ps) ∧ e.messages =
        .start r.id head.status (Headers.ofResponse head.lines) :: chunks) ∧
    (e.outcome ≠ .cancelled → ∀ head ps, r.response? c client = some (head, ps) → read = ps) ∧
    ∃ parts, (e.messages.filterMap Message.data?).mapM Base64.decode = .ok parts ∧
      parts.flatten = read.flatten := by
  intro e read chunks
  have hs : Sent r.id (r.response? c client) read e.messages e.outcome :=
    sent_cancel (r.execute_whole c client) time taken
  have hchunks : chunksFrom r.id 0 read = chunks := by
    simp only [chunksFrom, Nat.zero_add, chunks]
  refine ⟨fun m => hs.requestId, fun n hn => ?_, fun hf => ?_, fun hc => ?_, fun hne head ps hx => ?_,
    hs.decode⟩
  · rw [← hchunks]
    generalize e.messages = ms at hs
    rw [hn] at hs
    cases hs with
    | finished head hx => exact ⟨rfl, head, read, hx, rfl⟩
  · rw [← hchunks]
    generalize e.messages = ms at hs
    rw [hf] at hs
    cases hs with
    | alone error hx hr => exact .inl ⟨error, hx, rfl⟩
    | failed head error hx => exact .inr ⟨head, read, error, hx, rfl⟩
  · rw [← hchunks]
    generalize e.messages = ms at hs
    rw [hc] at hs
    cases hs with
    | unstarted hr => exact .inl ⟨rfl, hr⟩
    | cut head ps hx => exact .inr ⟨head, ps, hx, rfl⟩
  · generalize e.messages = ms at hs
    generalize e.outcome = o at hs hne
    cases hs with
    | alone error hx' hr => simp [hx] at hx'
    | finished head' hx' | failed head' error hx' =>
      rw [hx] at hx'
      exact (Prod.mk.inj (Option.some.inj hx')).2.symm
    | unstarted | cut => exact absurd rfl hne

end Request

end Tunnel
