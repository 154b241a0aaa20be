import Mathlib.Logic.Function.Basic
import XpuManager.Lib.Runs

/-! # The asynchronous log sink

The sink (`hal/core/logger/async_sink.h`) puts records into a bounded queue, from which a worker
thread takes them in batches and hands them to the backend. Producers, the worker, callers of
`flushNow` and at last the destructor take steps in any order; what happens under `queueMutex`
happens in one step, and a record is queued when its producer leaves the mutex.

The counters are 64 bits wide; they are natural numbers here, since as many records as it takes to
wrap them cannot be logged. -/

namespace XpuManager

/-- What to do when the queue is full. -/
inductive OverflowPolicy where
  | block
  | dropOldest
  | dropNewest
  deriving DecidableEq

/-- The configuration; the constructor refuses a queue without room and a null backend. -/
structure AsyncSinkConfig where
  maxQueueSize : Nat
  maxQueueSize_pos : 0 < maxQueueSize
  overflowPolicy : OverflowPolicy

/-- The largest number of records in a batch. -/
def kBatchCap : Nat := 256

/-- A record of one producer thread, with the number of the thread's call of `log`, which the code
does not keep. -/
structure LogEvent (P R : Type) where
  threadId : P
  call : Nat
  record : R
  deriving DecidableEq

/-- What came of handing a record to the backend: `Sink::log` may fail to write it and says so on
`stderr`, and an exception is caught. -/
inductive BackendOutcome where
  | delivered
  | failed
  | threw
  deriving DecidableEq

/-- Where a producer stands: in no call of `log`, before it has the mutex, or waiting for room. -/
inductive ProducerPhase (E : Type) where
  | idle
  | calling (event : E)
  | waiting (event : E)
  deriving DecidableEq

/-- Where the worker stands: at the top of its loop, before the next record of its batch, after the
record was handed to the backend, or after it was counted; after the loop, or at its end. `drain`
says that the batch is that of `drainQueue`. -/
inductive WorkerPhase (E : Type) where
  | waiting
  | processing (drain : Bool) (batch : List E)
  | handed (drain : Bool) (outcome : BackendOutcome) (batch : List E)
  | counted (drain : Bool) (batch : List E)
  | draining
  | finished
  deriving DecidableEq

/-- Where a caller of `flushNow` stands; `before` is the number of records that had been queued when
it was called. -/
inductive FlushPhase where
  | idle
  | called (before : Nat)
  | waiting (before target : Nat)
  deriving DecidableEq

/-- The sink with its producers `P` and callers `Q` of `flushNow`. The last five fields are there
for the statements only: all calls of `log`, all records that were queued, those that were refused
or put out of the queue because it was full, and those handed to the backend. -/
structure AsyncSinkState (P Q R : Type) where
  queue : List (LogEvent P R)
  nQueued : Nat
  nRetired : Nat
  nProcessed : Nat
  nDropped : Nat
  stopRequested : Bool
  producer : P → ProducerPhase (LogEvent P R)
  calls : P → Nat
  worker : WorkerPhase (LogEvent P R)
  flush : Q → FlushPhase
  logged : List (LogEvent P R)
  queued : List (LogEvent P R)
  refused : List (LogEvent P R)
  evicted : List (LogEvent P R)
  backend : List (LogEvent P R × BackendOutcome)

/-- The steps: a producer calls `log`, enters the mutex, or wakes up when there is room; the worker
takes a batch or leaves its loop, hands over a record, counts it, retires it, ends its batch, or
drains the queue; `flushNow` is called, reads its target, or returns; the destructor requests the
stop. -/
inductive AsyncSinkAction (P Q R : Type) where
  | log (p : P) (record : R)
  | enqueue (p : P)
  | wake (p : P)
  | takeBatch
  | hand (outcome : BackendOutcome)
  | count
  | retire
  | endBatch
  | drainQueue
  | flushNow (q : Q)
  | loadTarget (q : Q)
  | flushReturn (q : Q)
  | requestStop

variable {P Q R : Type} [DecidableEq P] [DecidableEq Q]

namespace AsyncSinkState

/-- The end of `enqueue`: the record is put into the queue. -/
def push (p : P) (event : LogEvent P R) (s : AsyncSinkState P Q R) : AsyncSinkState P Q R :=
  { s with
    queue := s.queue ++ [event]
    nQueued := s.nQueued + 1
    producer := Function.update s.producer p .idle
    queued := s.queued ++ [event] }

/-- The record is not put into the queue. -/
def refuse (p : P) (event : LogEvent P R) (s : AsyncSinkState P Q R) : AsyncSinkState P Q R :=
  { s with
    nDropped := s.nDropped + 1
    producer := Function.update s.producer p .idle
    refused := s.refused ++ [event] }

/-- The oldest record is put out of the queue. -/
def evict (oldest : LogEvent P R) (queue : List (LogEvent P R)) (s : AsyncSinkState P Q R) :
    AsyncSinkState P Q R :=
  { s with
    queue := queue
    nDropped := s.nDropped + 1
    nRetired := s.nRetired + 1
    evicted := s.evicted ++ [oldest] }

/-- The oldest record is put out of the queue. -/
def popFront (s : AsyncSinkState P Q R) : AsyncSinkState P Q R :=
  match s.queue with
  | [] => s
  | oldest :: queue => s.evict oldest queue

/-- `enqueue` with a full queue, up to the wait for room. -/
def handleOverflow (cfg : AsyncSinkConfig) (p : P) (event : LogEvent P R)
    (s : AsyncSinkState P Q R) : AsyncSinkState P Q R :=
  match cfg.overflowPolicy with
  | .block =>
    if s.stopRequested then s.refuse p event
    else { s with producer := Function.update s.producer p (.waiting event) }
  | .dropOldest => s.popFront.push p event
  | .dropNewest => s.refuse p event

/-- A producer queues its record; where the queue is full the policy decides. -/
def enqueue (cfg : AsyncSinkConfig) (p : P) (event : LogEvent P R) (s : AsyncSinkState P Q R) :
    AsyncSinkState P Q R :=
  if cfg.maxQueueSize ≤ s.queue.length then s.handleOverflow cfg p event else s.push p event

/-- The end of the wait for room in `handleOverflow`. -/
def wakeUp (cfg : AsyncSinkConfig) (p : P) (event : LogEvent P R) (s : AsyncSinkState P Q R) :
    AsyncSinkState P Q R :=
  if cfg.maxQueueSize ≤ s.queue.length then s.refuse p event else s.push p event

/-- A step of any thread; none where it cannot be taken. -/
def step (cfg : AsyncSinkConfig) (s : AsyncSinkState P Q R) :
    AsyncSinkAction P Q R → Option (AsyncSinkState P Q R)
  | .log p record =>
    match s.producer p with
    | .idle =>
      let event := ⟨p, s.calls p, record⟩
      some { s with
        producer := Function.update s.producer p (.calling event)
        calls := Function.update s.calls p (s.calls p + 1)
        logged := s.logged ++ [event] }
    | _ => none
  | .enqueue p =>
    match s.producer p with
    | .calling event => some (s.enqueue cfg p event)
    | _ => none
  | .wake p =>
    match s.producer p with
    | .waiting event =>
      if s.queue.length < cfg.maxQueueSize ∨ s.stopRequested then some (s.wakeUp cfg p event)
      else none
    | _ => none
  | .takeBatch =>
    match s.worker with
    | .waiting =>
      if s.queue = [] then
        if s.stopRequested then some { s with worker := .draining } else none
      else
        let worker := .processing false (s.queue.take kBatchCap)
        some { s with
          queue := s.queue.drop kBatchCap
          worker := worker }
    | _ => none
  | .hand outcome =>
    match s.worker with
    | .processing drain (event :: batch) =>
      some { s with
        worker := .handed drain outcome batch
        backend := s.backend ++ [(event, outcome)] }
    | _ => none
  | .count =>
    match s.worker with
    | .handed drain .threw batch =>
      some { s with
        nDropped := s.nDropped + 1
        worker := .counted drain batch }
    | .handed drain _ batch =>
      some { s with
        nProcessed := s.nProcessed + 1
        worker := .counted drain batch }
    | _ => none
  | .retire =>
    match s.worker with
    | .counted drain batch =>
      some { s with
        nRetired := s.nRetired + 1
        worker := .processing drain batch }
    | _ => none
  | .endBatch =>
    match s.worker with
    | .processing drain [] =>
      let worker := if drain then .finished else .waiting
      some { s with worker := worker }
    | _ => none
  | .drainQueue =>
    match s.worker with
    | .draining =>
      some { s with
        queue := []
        worker := .processing true s.queue }
    | _ => none
  | .flushNow q =>
    match s.flush q with
    | .idle =>
      let phase := .called s.queued.length
      some { s with flush := Function.update s.flush q phase }
    | _ => none
  | .loadTarget q =>
    match s.flush q with
    | .called before =>
      let phase := .waiting before s.nQueued
      some { s with flush := Function.update s.flush q phase }
    | _ => none
  | .flushReturn q =>
    match s.flush q with
    | .waiting _ target =>
      if target ≤ s.nRetired ∨ s.stopRequested then
        some { s with flush := Function.update s.flush q .idle }
      else none
    | _ => none
  | .requestStop => some { s with stopRequested := true }

/-- A new sink. -/
def init : AsyncSinkState P Q R where
  queue := []
  nQueued := 0
  nRetired := 0
  nProcessed := 0
  nDropped := 0
  stopRequested := false
  producer := fun _ => .idle
  calls := fun _ => 0
  worker := .waiting
  flush := fun _ => .idle
  logged := []
  queued := []
  refused := []
  evicted := []
  backend := []

end AsyncSinkState

end XpuManager
