import Tunnel.Proofs.Backoff
import Tunnel.Proofs.Execution
import Tunnel.Proofs.Outbound

/-!
# Delays of a target

A target may take the limit of a command anew for the head of its response and for each read of the
body. A response of which nothing takes longer is sent as a whole, however long all of it takes. What
takes longer is the last thing that the execution waits for: it fails when the limit is over, after what
came before.
-/
namespace Tunnel

namespace Execution

def readsOf (ps : List (Nat × List UInt8)) : List (Nat × BodyRead) :=
  ps.map fun p => (p.1, .bytes p.2)

def elapsed (ps : List (Nat × List UInt8)) : Nat := (ps.map Prod.fst).sum

/-- Reads of which the first takes longer than the limit, or there is none. -/
inductive Late (limit : Duration) : List (Nat × BodyRead) → Prop where
  | silent : Late limit []
  | delayed {delay : Nat} (h : limit.nanos < delay) (read : BodyRead) (later : List (Nat × BodyRead)) :
    Late limit ((delay, read) :: later)

/-- An execution that sends messages and goes on as another. -/
structure GoesOn (sent : List Message) (e next : Execution) : Prop where
  messages : e.messages = sent ++ next.messages
  outcome : e.outcome = next.outcome
  ended : e.ended = next.ended

variable {id : RequestId} {limit : Duration}

theorem GoesOn.after_none {sent : List Message} {e next : Execution} (h : GoesOn sent e next)
    (time : Nat) : GoesOn sent (e.after time none) next :=
  ⟨h.messages, h.outcome, h.ended⟩

theorem GoesOn.after_some {sent : List Message} {e next : Execution} (h : GoesOn sent e next)
    (time : Nat) (m : Message) : GoesOn (m :: sent) (e.after time (some m)) next :=
  ⟨congrArg _ h.messages, h.outcome, h.ended⟩

theorem ofReads_of_late {reads : List (Nat × BodyRead)} (h : Late limit reads) (now n : Nat) :
    ofReads id limit now n reads = fail id (now + limit.nanos) (.timedOut limit) := by
  cases h with
  | silent => rfl
  | delayed h read later =>
    unfold ofReads
    rw [if_pos h]

theorem ofReads_finished {delay : Nat} (h : delay ≤ limit.nanos) (now n : Nat)
    (later : List (Nat × BodyRead)) :
    ofReads id limit now n ((delay, .finished) :: later) =
      ⟨[(now + delay, some (.finish id))], now + delay, .completed n⟩ := by
  rw [ofReads, if_neg (Nat.not_lt.2 h)]

theorem ofReads_bytes {delay : Nat} (h : delay ≤ limit.nanos) (now n : Nat) (data : List UInt8)
    (rest : List (Nat × BodyRead)) :
    ofReads id limit now n ((delay, .bytes data) :: rest) =
      if data = [] then (ofReads id limit (now + delay) n rest).after (now + delay) none
      else (ofReads id limit (now + delay) (n + 1) rest).after (now + delay)
        (some (.chunkOf id data (UInt64.ofNat n))) := by
  cases data with
  | nil => rw [ofReads, if_neg (Nat.not_lt.2 h), if_pos rfl]
  | cons b bs =>
    rw [ofReads, if_neg (Nat.not_lt.2 h), if_neg (List.cons_ne_nil b bs)]
    exact List.cons_ne_nil b bs

/-- Reads that come in time give their chunks and are done with: what follows is read as it would be from
then on, with the limit that it was. -/
theorem ofReads_append (id : RequestId) {ps : List (Nat × List UInt8)}
    (hps : ∀ p ∈ ps, p.1 ≤ limit.nanos) (rest : List (Nat × BodyRead)) (now n : Nat) :
    GoesOn (chunksFrom id n (ps.map Prod.snd)) (ofReads id limit now n (readsOf ps ++ rest))
      (ofReads id limit (now + elapsed ps) (n + (chunksFrom id n (ps.map Prod.snd)).length) rest) := by
  induction ps generalizing now n with
  | nil => exact ⟨rfl, rfl, rfl⟩
  | cons p ps ih =>
    obtain ⟨delay, data⟩ := p
    obtain ⟨hdelay, htail⟩ := List.forall_mem_cons.1 hps
    have htime : now + elapsed ((delay, data) :: ps) = now + delay + elapsed ps := by
      rw [elapsed, List.map_cons, List.sum_cons, Nat.add_assoc, elapsed]
    have hreads : readsOf ((delay, data) :: ps) ++ rest =
        (delay, .bytes data) :: (readsOf ps ++ rest) := rfl
    rw [htime, hreads, ofReads_bytes hdelay, List.map_cons]
    cases data with
    | nil =>
      rw [chunksFrom_nil_cons, if_pos rfl]
      exact (ih htail (now + delay) n).after_none _
    | cons b bs =>
      have hcount : n + ((chunksFrom id (n + 1) (ps.map Prod.snd)).length + 1) =
          n + 1 + (chunksFrom id (n + 1) (ps.map Prod.snd)).length := by omega
      rw [chunksFrom_cons, if_neg (List.cons_ne_nil b bs), List.length_cons, hcount]
      exact (ih htail (now + delay) (n + 1)).after_some _ _

/-- A head that comes in time starts the response, and the limit starts anew for the body. -/
theorem ofAnswer_of_head {a : Answer} {delay : Nat} {head : ResponseHead}
    (ha : a.head = some (delay, .ok head)) (h : delay ≤ limit.nanos) :
    ofAnswer id limit a =
      (ofReads id limit delay 0 a.reads).after delay (some (startOf id head)) := by
  rw [ofAnswer, ha]
  exact if_neg (Nat.not_lt.2 h)

theorem ofAnswer_of_late {a : Answer} (h : ∀ delay head, a.head = some (delay, head) →
    limit.nanos < delay) : ofAnswer id limit a = fail id limit.nanos (.timedOut limit) := by
  unfold ofAnswer
  cases ha : a.head with
  | none => rfl
  | some x => exact if_pos (h x.1 x.2 ha)

/-- A response is what its start, the reads that come in time and the rest of it give one after the
other. -/
theorem ofAnswer_append (id : RequestId) {a : Answer} {delay : Nat} {head : ResponseHead}
    {ps : List (Nat × List UInt8)} {rest : List (Nat × BodyRead)}
    (ha : a.head = some (delay, .ok head)) (hr : a.reads = readsOf ps ++ rest)
    (h : delay ≤ limit.nanos) (hps : ∀ p ∈ ps, p.1 ≤ limit.nanos) :
    GoesOn (startOf id head :: chunksFrom id 0 (ps.map Prod.snd)) (ofAnswer id limit a)
      (ofReads id limit (delay + elapsed ps) (chunksFrom id 0 (ps.map Prod.snd)).length rest) := by
  rw [ofAnswer_of_head ha h, hr]
  have hreads := (ofReads_append id hps rest delay 0).after_some delay (startOf id head)
  rw [Nat.zero_add] at hreads
  exact hreads

end Execution

namespace Request

open Execution

theorem limit_nanos (c : ExecutorConfig) (r : Request) :
    (r.limit c).nanos =
      if r.timeoutMs = 0 then c.defaultTimeout.nanos else r.timeoutMs.toNat * 1000000 := by
  unfold limit
  split_ifs with h
  · rfl
  · -- a number of milliseconds of 64 bits is below the longest span
    have hbound : r.timeoutMs.toNat * Duration.perMilli ≤ 0x10000000000000000 * 1000000000 - 1 := by
      have hlt := r.timeoutMs.toNat_lt
      rw [Duration.perMilli]
      omega
    rw [Duration.ofMillis, Duration.ofNanos_nanos]
    exact Nat.min_eq_left hbound

theorem execute_of_sendable {c : ExecutorConfig} {client : Client} {r : Request} {o : Outbound}
    (ho : Outbound.ofTarget r.target = .ok o) (hr : o.refusal? = none) :
    r.execute c client = .ofAnswer r.id (r.limit c) (client c.followRedirects o) := by
  rw [execute, ho]
  simp only [hr]

/-- The limit of a command whose request is made is its number of milliseconds, or the default when that
is zero. If neither the head of the response nor a read of its body takes longer, the execution sends the
start of the response, a chunk for each piece that is not empty and the end, and it lasts as long as all
of it takes. If the head takes longer or does not come, the execution sends a failure alone when the
limit is over. If it comes in time and a read is the first to take longer, the execution sends the start,
the chunks of the reads before and a failure, as long after these reads as the limit is. What would come
later makes no difference. -/
theorem execute_of_delays (c : ExecutorConfig) (client : Client) (r : Request) (o : Outbound)
    (ho : Outbound.ofTarget r.target = .ok o) (hr : o.refusal? = none) :
    let a := client c.followRedirects o
    let e := r.execute c client
    let limit := (r.limit c).nanos
    let error := (Failure.timedOut (r.limit c)).describe
    (limit = if r.timeoutMs = 0 then c.defaultTimeout.nanos else r.timeoutMs.toNat * 1000000) ∧
    (∀ first head ps last later, a.head = some (first, .ok head) →
      a.reads = readsOf ps ++ (last, .finished) :: later →
      first ≤ limit → (∀ p ∈ ps, p.1 ≤ limit) → last ≤ limit →
      e.messages = startOf r.id head :: (chunksFrom r.id 0 (ps.map Prod.snd) ++ [.finish r.id]) ∧
      e.outcome = .completed (chunksFrom r.id 0 (ps.map Prod.snd)).length ∧
      e.ended = first + elapsed ps + last) ∧
    ((∀ first head, a.head = some (first, head) → limit < first) →
      e.messages = [.failure r.id error] ∧ e.outcome = .failed ∧ e.ended = limit) ∧
    ∀ first head ps rest, a.head = some (first, .ok head) → a.reads = readsOf ps ++ rest →
      first ≤ limit → (∀ p ∈ ps, p.1 ≤ limit) → Late (r.limit c) rest →
      e.messages = startOf r.id head ::
        (chunksFrom r.id 0 (ps.map Prod.snd) ++ [.failure r.id error]) ∧
      e.outcome = .failed ∧ e.ended = first + elapsed ps + limit := by
  intro a e limit error
  have he : e = .ofAnswer r.id (r.limit c) a := execute_of_sendable ho hr
  refine ⟨limit_nanos c r, fun first head ps last later ha hreads hfirst hps hlast => ?_,
    fun hlate => ?_, fun first head ps rest ha hreads hfirst hps hlate => ?_⟩
  · have hgoes := ofAnswer_append r.id ha hreads hfirst hps
    rw [← he, ofReads_finished hlast] at hgoes
    exact ⟨hgoes.messages, hgoes.outcome, hgoes.ended⟩
  · rw [he, ofAnswer_of_late hlate]
    exact ⟨rfl, rfl, rfl⟩
  · have hgoes := ofAnswer_append r.id ha hreads hfirst hps
    rw [← he, ofReads_of_late hlate] at hgoes
    exact ⟨hgoes.messages, hgoes.outcome, hgoes.ended⟩

/-- No read of a body takes longer than a quarter of a second but the fourth, which fails the execution
after more than a second. -/
theorem execute_of_delays_fourth :
    let r : Request := ⟨⟨"r"⟩, ⟨"GET", "items", "http://svc.local/", ⟨[]⟩, none, .utf8⟩, 250⟩
    let a : Answer := ⟨some (200000000, .ok ⟨200, []⟩), readsOf [(240000000, [104]), (230000000, []),
      (240000000, [105])] ++ [(260000000, .bytes [106]), (0, .finished)]⟩
    ∃ o, Outbound.ofTarget r.target = .ok o ∧ o.refusal? = none ∧
      (r.execute {} fun _ _ => a).messages =
        [.start r.id 200 (Headers.ofResponse []), .chunkOf r.id [104] 0, .chunkOf r.id [105] 1,
          .failure r.id (Failure.timedOut (r.limit {})).describe] ∧
      (r.execute {} fun _ _ => a).ended = 1160000000 := by
  intro r a
  have hresolved : ∃ u ∈ (resolveUrl r.target.baseUrl r.target.path).toOption,
      u.Anonymous ∧ u.host?.isNone = false ∧
        (Outbound.mk r.target.method.toUpper u ⟨[]⟩ none).refusal? = none := by decide +kernel
  obtain ⟨u, hu, hanonymous, hhost, hr⟩ := hresolved
  have hm : Http.isToken r.target.method.toUpper = true := by
    rw [Http.isToken_toUpper]
    decide +kernel
  have ho := Outbound.ofTarget_of_parts (Outbound.resolveUrl_of_mem hu) hanonymous hhost hm rfl rfl
  have htimes := execute_of_delays {} (fun _ _ => a) r _ ho hr
  have hps : ∀ p ∈ [(240000000, [104]), (230000000, []), (240000000, [(105 : UInt8)])],
      p.1 ≤ (r.limit {}).nanos := by decide +kernel
  obtain ⟨hmessages, -, hended⟩ :=
    htimes.2.2.2 200000000 ⟨200, []⟩ _ _ rfl rfl (by decide +kernel) hps
      (.delayed (by decide +kernel) _ _)
  have hlast : 200000000 + elapsed [(240000000, [104]), (230000000, []), (240000000, [105])] +
      (r.limit {}).nanos = 1160000000 := by decide +kernel
  exact ⟨_, ho, hr, hmessages, hended.trans hlast⟩

end Request

end Tunnel
