import BlindNet.Platform
import BlindNet.Lib.Machine
import Mathlib.Data.List.Infix

/-!
# DNS worker

The task that forwards queued queries to the upstream server and hands the answers
to the clients. One socket serves all jobs: what arrives on it waits in order until it
is read. The network may delay, reorder and lose what is under way, and the server
answers a query with its id.
-/

namespace BlindNet

set_option autoImplicit false

open ByteLayout EventMachine

def dnsBufSize : Nat := 512
def dnsJobQueueLen : Nat := 8

structure DnsClient where
  ip : UInt32
  port : UInt16
  deriving DecidableEq

/-- A query of a client. The DNS task queues only what has a whole header and came
into a buffer of 512 bytes. -/
structure DnsJob where
  query : Bytes
  client : DnsClient
  header : 12 ≤ query.length
  fits : query.length ≤ dnsBufSize
  deriving DecidableEq

def dnsId (message : Bytes) : Bytes := message.take 2

inductive SendToOutcome where
  | sent
  | noMemory
  | failed
  deriving DecidableEq, Repr

/-- Where the worker is. Attempts to send are counted from 0. -/
inductive WorkerPhase where
  | waiting
  | sending (job : DnsJob) (attempt : Nat)
  | receiving (job : DnsJob)
  | finished
  deriving DecidableEq

structure DnsWorker where
  stopped : Bool
  jobs : List DnsJob
  phase : WorkerPhase
  /-- Whether there is an upstream socket. -/
  connected : Bool
  /-- What arrived on the upstream socket and was not read yet. -/
  datagrams : List Bytes
  /-- The queries whose answers may still arrive. -/
  outstanding : List Bytes
  allowed : UInt64
  errors : UInt64

structure DnsForward where
  job : DnsJob
  response : Bytes

inductive DnsInput where
  /-- The DNS task queues a job. -/
  | queueSend (job : DnsJob)
  /-- The worker passes the head of its loop; whether a socket can be created. -/
  | takeJob (socket : Bool)
  | sendTo (outcome : SendToOutcome)
  | recvFrom
  | recvTimeout
  /-- The answer to one of the outstanding queries arrives. -/
  | arrive (index : Nat) (content : Bytes)
  /-- One of the outstanding queries, or its answer, is lost. -/
  | lose (index : Nat)
  | stop

namespace DnsWorker

def started : DnsWorker := ⟨false, [], .waiting, false, [], [], 0, 0⟩

def fail (worker : DnsWorker) : DnsWorker :=
  { worker with phase := .waiting, errors := worker.errors + 1 }

/-- The next socket has a port of its own, which no answer under way can reach. -/
def closeUpstream (worker : DnsWorker) : DnsWorker :=
  { worker with connected := false, datagrams := [], outstanding := [] }

/-- `forward_dns_to_upstream` up to its loop of attempts. -/
def beginForward (worker : DnsWorker) (job : DnsJob) (socket : Bool) : DnsWorker :=
  if job.query.length = 0 then
    worker.fail
  else if worker.connected then
    { worker with phase := .sending job 0 }
  else if socket then
    { worker with phase := .sending job 0, connected := true }
  else
    worker.fail

/-- One attempt to send. A full network stack is tried again, three times in all. -/
def attemptSend (worker : DnsWorker) (job : DnsJob) (attempt : Nat) :
    SendToOutcome → DnsWorker
  | .sent =>
      { worker with
        phase := .receiving job
        outstanding := worker.outstanding ++ [job.query] }
  | .noMemory =>
      if attempt + 1 < 3 then
        { worker with phase := .sending job (attempt + 1) }
      else
        worker.closeUpstream.fail
  | .failed => worker.closeUpstream.fail

/-- The first datagram on the socket is taken for the answer, whoever it answers. -/
def deliver (worker : DnsWorker) (job : DnsJob) (datagram : Bytes) (rest : List Bytes) :
    DnsWorker × List DnsForward :=
  let read := { worker with datagrams := rest }
  let response := datagram.take dnsBufSize
  if 0 < response.length then
    ({ read with phase := .waiting, allowed := read.allowed + 1 },
      if worker.stopped then [] else [⟨job, response⟩])
  else
    (read.fail, [])

/-- An input that is not possible in the present phase changes nothing. -/
def step (worker : DnsWorker) : DnsInput → DnsWorker × List DnsForward
  | .queueSend job =>
      if worker.stopped then
        (worker, [])
      else if worker.jobs.length < dnsJobQueueLen then
        ({ worker with jobs := worker.jobs ++ [job] }, [])
      else
        ({ worker with errors := worker.errors + 1 }, [])
  | .takeJob socket =>
      match worker.phase with
      | .waiting =>
          if worker.stopped then
            ({ worker with phase := .finished }, [])
          else
            match worker.jobs with
            | [] => (worker, [])
            | job :: rest => ({ worker with jobs := rest }.beginForward job socket, [])
      | _ => (worker, [])
  | .sendTo outcome =>
      match worker.phase with
      | .sending job attempt =>
          (worker.attemptSend job attempt (if worker.connected then outcome else .failed), [])
      | _ => (worker, [])
  | .recvFrom =>
      match worker.phase, worker.datagrams with
      | .receiving job, datagram :: rest => worker.deliver job datagram rest
      | _, _ => (worker, [])
  | .recvTimeout =>
      match worker.phase, worker.datagrams with
      | .receiving _, [] => (worker.fail, [])
      | _, _ => (worker, [])
  | .arrive index content =>
      match worker.outstanding[index]? with
      | none => (worker, [])
      | some query =>
          ({ worker with
            outstanding := worker.outstanding.eraseIdx index
            datagrams :=
              if worker.connected then worker.datagrams ++ [dnsId query ++ content]
              else worker.datagrams }, [])
  | .lose index => ({ worker with outstanding := worker.outstanding.eraseIdx index }, [])
  | .stop => ({ worker.closeUpstream with stopped := true, jobs := [] }, [])

/-! ## What a step can do -/

theorem step_silent {worker : DnsWorker} {input : DnsInput} (other : input ≠ .recvFrom) :
    (worker.step input).2 = [] := by
  cases input with
  | recvFrom => exact absurd rfl other
  | queueSend job =>
      unfold step
      split_ifs
      all_goals rfl
  | takeJob socket =>
      simp only [step]
      split
      · split_ifs
        · rfl
        · split
          all_goals rfl
      · rfl
  | sendTo outcome =>
      simp only [step]
      split
      all_goals rfl
  | recvTimeout =>
      simp only [step]
      split
      all_goals rfl
  | arrive index content =>
      simp only [step]
      split
      all_goals rfl
  | lose index => rfl
  | stop => rfl

theorem deliver_forwards {worker : DnsWorker} {job : DnsJob} {datagram : Bytes}
    {rest : List Bytes} {forward : DnsForward}
    (member : forward ∈ (worker.deliver job datagram rest).2) :
    forward = ⟨job, datagram.take dnsBufSize⟩ := by
  unfold deliver at member
  simp only at member
  split_ifs at member
  · cases member
  · exact List.mem_singleton.mp member
  · cases member

theorem step_forwards {worker : DnsWorker} {input : DnsInput} {forward : DnsForward}
    (member : forward ∈ (worker.step input).2) :
    worker.phase = .receiving forward.job ∧ ∃ datagram ∈ worker.datagrams,
      forward.response = datagram.take dnsBufSize := by
  have isRead : input = .recvFrom := by
    by_contra other
    rw [step_silent other] at member
    cases member
  rw [isRead] at member
  simp only [step] at member
  split at member
  · rename_i job datagram rest isPhase isQueue
    rw [deliver_forwards member]
    exact ⟨isPhase, datagram, by simp [isQueue], rfl⟩
  · cases member

/-- If the worker waits for an answer afterwards, it did so before, and nothing can
reach it that could not before. -/
def Keeps (worker next : DnsWorker) : Prop :=
  ∀ job, next.phase = .receiving job → worker.phase = .receiving job ∧
    (∀ query ∈ next.outstanding, query ∈ worker.outstanding) ∧
    ∀ datagram ∈ next.datagrams, datagram ∈ worker.datagrams ∨
      ∃ query ∈ worker.outstanding, ∃ content, datagram = dnsId query ++ content

theorem Keeps.same {worker next : DnsWorker} (samePhase : next.phase = worker.phase)
    (sameOutstanding : next.outstanding = worker.outstanding)
    (sameDatagrams : next.datagrams = worker.datagrams) : Keeps worker next := by
  intro job receiving
  rw [sameOutstanding, sameDatagrams]
  exact ⟨samePhase.symm.trans receiving, fun _ member => member, fun _ member => Or.inl member⟩

theorem Keeps.idle {worker next : DnsWorker} (idle : ∀ job, next.phase ≠ .receiving job) :
    Keeps worker next := by
  intro job receiving
  exact absurd receiving (idle job)

theorem begin_forward_idle (worker : DnsWorker) (other : DnsJob) (socket : Bool) (job : DnsJob) :
    (worker.beginForward other socket).phase ≠ .receiving job := by
  unfold beginForward
  split_ifs
  all_goals simp [fail]

theorem attempt_send_idle (worker : DnsWorker) (other : DnsJob) (attempt : Nat)
    {outcome : SendToOutcome} (unsent : outcome ≠ .sent) (job : DnsJob) :
    (worker.attemptSend other attempt outcome).phase ≠ .receiving job := by
  cases outcome with
  | sent => exact absurd rfl unsent
  | noMemory =>
      simp only [attemptSend]
      split_ifs
      all_goals simp [fail]
  | failed => simp [attemptSend, fail]

theorem deliver_idle (worker : DnsWorker) (other : DnsJob) (datagram : Bytes) (rest : List Bytes)
    (job : DnsJob) : (worker.deliver other datagram rest).1.phase ≠ .receiving job := by
  simp only [deliver]
  split_ifs
  all_goals simp [fail]

theorem step_keeps {worker : DnsWorker} {input : DnsInput} (other : input ≠ .sendTo .sent) :
    Keeps worker (worker.step input).1 := by
  cases input with
  | queueSend queued =>
      simp only [step]
      split_ifs
      all_goals exact .same rfl rfl rfl
  | takeJob socket =>
      simp only [step]
      split
      · rename_i waiting
        split_ifs
        · exact .idle (by simp)
        · split
          · exact .idle (by simp [waiting])
          · exact .idle (begin_forward_idle _ _ socket)
      · exact .same rfl rfl rfl
  | sendTo tried =>
      simp only [step]
      split
      · apply Keeps.idle
        apply attempt_send_idle
        split_ifs
        · exact fun isSent => other (by rw [isSent])
        · decide
      · exact .same rfl rfl rfl
  | recvFrom =>
      simp only [step]
      split
      · exact .idle (deliver_idle worker _ _ _)
      · exact .same rfl rfl rfl
  | recvTimeout =>
      simp only [step]
      split
      · exact .idle (by simp [fail])
      · exact .same rfl rfl rfl
  | arrive index content =>
      simp only [step]
      split
      · exact .same rfl rfl rfl
      · rename_i query found
        intro job receiving
        refine ⟨receiving, fun other member => List.mem_of_mem_eraseIdx member, ?_⟩
        intro datagram member
        simp only at member
        split_ifs at member
        · rcases List.mem_append.mp member with old | arrived
          · exact Or.inl old
          · rw [List.mem_singleton] at arrived
            exact Or.inr ⟨query, List.mem_of_getElem? found, content, arrived⟩
        · exact Or.inl member
  | lose index =>
      intro job receiving
      exact ⟨receiving, fun other member => List.mem_of_mem_eraseIdx member,
        fun datagram member => Or.inl member⟩
  | stop =>
      intro job receiving
      exact ⟨receiving, fun query member => (by cases member),
        fun datagram member => (by cases member)⟩

/-- After a send the worker waits for the answer to that query, or nothing changed. -/
theorem step_sent (worker : DnsWorker) :
    Keeps worker (worker.step (.sendTo .sent)).1 ∨
    ∃ job attempt, worker.phase = .sending job attempt ∧
      (worker.step (.sendTo .sent)).1 = worker.attemptSend job attempt .sent := by
  simp only [step]
  split
  · rename_i job attempt sending
    by_cases connected : worker.connected = true
    · exact Or.inr ⟨job, attempt, sending, by rw [if_pos connected]⟩
    · rw [if_neg connected]
      exact Or.inl (.idle (attempt_send_idle worker job attempt (by decide)))
  · exact Or.inl (.same rfl rfl rfl)

/-! ## Answers and queries -/

/-- The ids under way: of unanswered queries, of answers that wait on the socket, and
of the queries that were not sent yet. -/
def openIds (worker : DnsWorker) : List Bytes :=
  worker.outstanding.map dnsId ++ worker.datagrams.map dnsId ++
    (match worker.phase with
      | .sending job _ => [dnsId job.query]
      | _ => []) ++
    worker.jobs.map fun job => dnsId job.query

/-- If no two ids under way are ever the same, every response has the id of the query
in its job. -/
def AnswersMatch (inputs : List DnsInput) : Prop :=
  (∀ early late, inputs = early ++ late → (run step started early).1.openIds.Nodup) →
    ∀ forward ∈ (run step started inputs).2,
      dnsId forward.response = dnsId forward.job.query

/-- Whenever a query is sent, no earlier one can still be answered: nothing waits on
the socket and nothing is under way. -/
def SendsAlone (inputs : List DnsInput) : Prop :=
  ∀ before after, inputs = before ++ .sendTo .sent :: after →
    ∀ job attempt, (run step started before).1.phase = .sending job attempt →
      (run step started before).1.outstanding = [] ∧ (run step started before).1.datagrams = []

theorem job_id_length (job : DnsJob) : (dnsId job.query).length = 2 := by
  have header := job.header
  rw [dnsId, List.length_take]
  omega

theorem dns_id_append {id content : Bytes} (whole : id.length = 2) :
    dnsId (id ++ content) = id := by
  rw [dnsId, ← whole, List.take_left]

theorem dns_id_take (message : Bytes) : dnsId (message.take dnsBufSize) = dnsId message := by
  rw [dnsId, dnsId, List.take_take]
  rfl

/-- All that can reach a worker that waits for an answer has the id it waits for. -/
def AwaitsOwn (worker : DnsWorker) : Prop :=
  ∀ job, worker.phase = .receiving job →
    (∀ query ∈ worker.outstanding, dnsId query = dnsId job.query) ∧
      ∀ datagram ∈ worker.datagrams, dnsId datagram = dnsId job.query

theorem Keeps.awaits_own {worker next : DnsWorker} (keeps : Keeps worker next)
    (own : worker.AwaitsOwn) : next.AwaitsOwn := by
  intro job receiving
  rcases keeps job receiving with ⟨before, outstanding, datagrams⟩
  rcases own job before with ⟨ownQueries, ownDatagrams⟩
  refine ⟨fun query member => ownQueries query (outstanding query member), ?_⟩
  intro datagram member
  rcases datagrams datagram member with old | ⟨query, asked, content, rfl⟩
  · exact ownDatagrams datagram old
  · have isOwn := ownQueries query asked
    rw [dns_id_append (by rw [isOwn, job_id_length])]
    exact isOwn

theorem step_awaits_own {worker : DnsWorker} {input : DnsInput}
    (alone : input = .sendTo .sent → ∀ job attempt, worker.phase = .sending job attempt →
      worker.outstanding = [] ∧ worker.datagrams = [])
    (own : worker.AwaitsOwn) : (worker.step input).1.AwaitsOwn := by
  by_cases isSend : input = .sendTo .sent
  · rw [isSend]
    rcases step_sent worker with keeps | ⟨job, attempt, sending, sent⟩
    · exact keeps.awaits_own own
    · rcases alone isSend job attempt sending with ⟨noQuery, noDatagram⟩
      rw [sent]
      intro other receiving
      cases receiving
      simp [attemptSend, noQuery, noDatagram]
  · exact (step_keeps isSend).awaits_own own

/-- When every query is sent alone, every answer matches its query. -/
theorem dns_answers_match {inputs : List DnsInput} (alone : SendsAlone inputs) :
    AnswersMatch inputs := by
  intro _
  have carried := guarded_history_run step
    (fun worker input => input = .sendTo .sent → ∀ job attempt,
      worker.phase = .sending job attempt → worker.outstanding = [] ∧ worker.datagrams = [])
    (fun worker history => worker.AwaitsOwn ∧
      ∀ forward ∈ history, dnsId forward.response = dnsId forward.job.query)
    (by
      rintro worker history input guarded ⟨own, matching⟩
      refine ⟨step_awaits_own guarded own, ?_⟩
      intro forward member
      rcases List.mem_append.mp member with earlier | now
      · exact matching forward earlier
      · rcases step_forwards now with ⟨receiving, datagram, waits, isResponse⟩
        rw [isResponse, dns_id_take]
        exact (own forward.job receiving).2 datagram waits)
    started [] inputs
    (by
      rintro before input after split rfl
      exact alone before after split)
    ⟨fun job receiving => (by cases receiving), fun forward member => (by cases member)⟩
  exact carried.2

def lampQuery (id : UInt8) : DnsJob where
  query := [0, id, 1, 0, 0, 1, 0, 0, 0, 0, 0, 0]
  client := ⟨0xC0A80410, 40000⟩
  header := by simp
  fits := by simp [dnsBufSize]

def answeredRun : List DnsInput :=
  [.queueSend (lampQuery 1), .queueSend (lampQuery 2), .takeJob true, .sendTo .sent,
    .arrive 0 [0x81], .recvFrom, .takeJob true, .sendTo .sent, .arrive 0 [0x82], .recvFrom]

theorem lamp_answer_matches :
    (run step started answeredRun).2.map DnsForward.response =
        [[0, 1, 0x81], [0, 2, 0x82]] ∧
      AnswersMatch answeredRun := by
  refine ⟨by decide +kernel, dns_answers_match ?_⟩
  have quiet : ∀ before ∈ answeredRun.inits,
      (match (run step started before).1.phase with
        | .sending _ _ => decide ((run step started before).1.outstanding = [] ∧
            (run step started before).1.datagrams = [])
        | _ => true) = true := by
    decide +kernel
  intro before after split job attempt sending
  have here := quiet before ((List.mem_inits _ _).mpr ⟨_, split.symm⟩)
  rw [sending] at here
  exact of_decide_eq_true here

/-- The first query times out; its answer arrives late and is read for the second. -/
def lateRun : List DnsInput :=
  [.queueSend (lampQuery 1), .takeJob true, .sendTo .sent, .recvTimeout, .arrive 0 [0x81],
    .queueSend (lampQuery 2), .takeJob true, .sendTo .sent, .recvFrom]

theorem late_answer_mismatched : ¬ AnswersMatch lateRun := by
  intro matching
  have distinct : ∀ early ∈ lateRun.inits, (run step started early).1.openIds.Nodup := by
    decide +kernel
  have mismatch : ∃ forward ∈ (run step started lateRun).2,
      dnsId forward.response ≠ dnsId forward.job.query := by
    decide +kernel
  rcases mismatch with ⟨forward, member, different⟩
  apply different
  apply matching _ forward member
  intro early late split
  exact distinct early ((List.mem_inits _ _).mpr ⟨late, split.symm⟩)

end DnsWorker

end BlindNet
