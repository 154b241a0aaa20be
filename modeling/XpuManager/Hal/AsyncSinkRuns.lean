import Mathlib.Data.List.Nodup
import Mathlib.Data.List.Perm.Basic
import XpuManager.Hal.AsyncSink

/-! # Every record delivered or dropped

The invariants of the sink, over all runs of its threads. -/

namespace XpuManager

variable {P Q R : Type}

namespace WorkerPhase

variable {E : Type}

/-- The records of the batch that were not yet handed to the backend. -/
def batch : WorkerPhase E → List E
  | .processing _ batch | .handed _ _ batch | .counted _ batch => batch
  | .waiting | .draining | .finished => []

/-- The records handed to the backend that were not yet retired. -/
def inHand : WorkerPhase E → Nat
  | .handed .. | .counted .. => 1
  | .waiting | .processing .. | .draining | .finished => 0

/-- The records handed to the backend that were not yet counted. -/
def uncounted : WorkerPhase E → Nat
  | .handed .. => 1
  | .waiting | .processing .. | .counted .. | .draining | .finished => 0

/-- The queue has been drained. -/
def Drained : WorkerPhase E → Prop
  | .processing drain _ | .handed drain _ _ | .counted drain _ => drain = true
  | .finished => True
  | .waiting | .draining => False

end WorkerPhase

namespace AsyncSinkState

/-- The records handed to the backend. -/
def backendRecords (s : AsyncSinkState P Q R) : List (LogEvent P R) := s.backend.map Prod.fst

/-- A producer has a record that it has yet to queue. -/
def Holds (s : AsyncSinkState P Q R) (p : P) (event : LogEvent P R) : Prop :=
  s.producer p = .calling event ∨ s.producer p = .waiting event

/-- A call before another one of the same thread. -/
def Before (a b : LogEvent P R) : Prop := a.threadId = b.threadId → a.call < b.call

/-- The invariant of the calls of `log`. -/
structure Calls (s : AsyncSinkState P Q R) : Prop where
  held : ∀ p event, s.Holds p event → event.threadId = p ∧ event.call + 1 = s.calls p ∧
    event ∈ s.logged
  older : ∀ p event, s.Holds p event → ∀ e ∈ s.queued ++ s.refused, Before e event
  begun : ∀ event ∈ s.logged, event.call < s.calls event.threadId
  placed : ∀ event ∈ s.queued ++ s.refused, event ∈ s.logged
  cases : ∀ event ∈ s.logged, event ∈ s.queued ++ s.refused ∨ s.Holds event.threadId event
  logged_nodup : s.logged.Nodup
  placed_nodup : (s.queued ++ s.refused).Nodup
  ordered : s.queued.Pairwise Before

/-- Where the queued records are: those the worker is done with, its batch, those put out of the
queue since it took the batch, and the queue; and the counters. -/
structure Batches (cfg : AsyncSinkConfig) (s : AsyncSinkState P Q R)
    (done gap : List (LogEvent P R)) : Prop where
  queued_eq : s.queued = done ++ (s.worker.batch ++ (gap ++ s.queue))
  backend_sublist : s.backendRecords.Sublist done
  done_cases : ∀ event ∈ done, event ∈ s.backendRecords ∨ event ∈ s.evicted
  gap_evicted : ∀ event ∈ gap, event ∈ s.evicted
  evicted_eq : s.backend.length + s.evicted.length = done.length + gap.length
  nQueued_eq : s.nQueued = s.queued.length
  nRetired_eq : s.nRetired + s.worker.inHand = done.length + gap.length
  counted_eq : s.nProcessed + s.nDropped + s.worker.uncounted =
    s.backend.length + s.evicted.length + s.refused.length
  queue_le : s.queue.length ≤ cfg.maxQueueSize

variable [DecidableEq P] [DecidableEq Q] {cfg : AsyncSinkConfig} {s t : AsyncSinkState P Q R}
  {p : P} {event : LogEvent P R}

/-! ## The ways through a step -/

/-- A step, with one case for each way through it. -/
inductive Steps (cfg : AsyncSinkConfig) (s : AsyncSinkState P Q R) :
    AsyncSinkAction P Q R → AsyncSinkState P Q R → Prop where
  | log {p : P} {record : R} (hidle : s.producer p = .idle) :
      Steps cfg s (.log p record) { s with
        producer := Function.update s.producer p (.calling ⟨p, s.calls p, record⟩)
        calls := Function.update s.calls p (s.calls p + 1)
        logged := s.logged ++ [⟨p, s.calls p, record⟩] }
  | enqueue {p : P} {event : LogEvent P R} (hcalling : s.producer p = .calling event) :
      Steps cfg s (.enqueue p) (s.enqueue cfg p event)
  | wake {p : P} {event : LogEvent P R} (hwaiting : s.producer p = .waiting event)
      (hready : s.queue.length < cfg.maxQueueSize ∨ s.stopRequested = true) :
      Steps cfg s (.wake p) (s.wakeUp cfg p event)
  | leaveLoop (hworker : s.worker = .waiting) (hempty : s.queue = [])
      (hstop : s.stopRequested = true) :
      Steps cfg s .takeBatch { s with worker := .draining }
  | takeBatch (hworker : s.worker = .waiting) (hne : s.queue ≠ []) :
      Steps cfg s .takeBatch { s with
        queue := s.queue.drop kBatchCap
        worker := .processing false (s.queue.take kBatchCap) }
  | hand {drain : Bool} {event : LogEvent P R} {batch : List (LogEvent P R)}
      {outcome : BackendOutcome} (hworker : s.worker = .processing drain (event :: batch)) :
      Steps cfg s (.hand outcome) { s with
        worker := .handed drain outcome batch
        backend := s.backend ++ [(event, outcome)] }
  | countDropped {drain : Bool} {batch : List (LogEvent P R)}
      (hworker : s.worker = .handed drain .threw batch) :
      Steps cfg s .count { s with nDropped := s.nDropped + 1, worker := .counted drain batch }
  | countProcessed {drain : Bool} {outcome : BackendOutcome} {batch : List (LogEvent P R)}
      (hworker : s.worker = .handed drain outcome batch) (hne : outcome ≠ .threw) :
      Steps cfg s .count { s with nProcessed := s.nProcessed + 1, worker := .counted drain batch }
  | retire {drain : Bool} {batch : List (LogEvent P R)} (hworker : s.worker = .counted drain batch) :
      Steps cfg s .retire { s with nRetired := s.nRetired + 1, worker := .processing drain batch }
  | endDrain (hworker : s.worker = .processing true []) :
      Steps cfg s .endBatch { s with worker := .finished }
  | endBatch (hworker : s.worker = .processing false []) :
      Steps cfg s .endBatch { s with worker := .waiting }
  | drainQueue (hworker : s.worker = .draining) :
      Steps cfg s .drainQueue { s with queue := [], worker := .processing true s.queue }
  | flushNow {q : Q} (hidle : s.flush q = .idle) :
      Steps cfg s (.flushNow q) { s with
        flush := Function.update s.flush q (.called s.queued.length) }
  | loadTarget {q : Q} {before : Nat} (hcalled : s.flush q = .called before) :
      Steps cfg s (.loadTarget q) { s with
        flush := Function.update s.flush q (.waiting before s.nQueued) }
  | flushReturn {q : Q} {before target : Nat} (hwaiting : s.flush q = .waiting before target)
      (hready : target ≤ s.nRetired ∨ s.stopRequested = true) :
      Steps cfg s (.flushReturn q) { s with flush := Function.update s.flush q .idle }
  | requestStop : Steps cfg s .requestStop { s with stopRequested := true }

/-- The worker takes a batch, or leaves its loop. -/
theorem steps_takeBatch (hstep : s.step cfg .takeBatch = some t) : Steps cfg s .takeBatch t := by
  rw [step] at hstep
  split at hstep
  case h_2 => cases hstep
  case h_1 hworker =>
  split at hstep
  case isTrue hempty =>
    obtain ⟨hstop, ht⟩ := Option.ite_none_right_eq_some.mp hstep
    obtain rfl := Option.some.inj ht
    exact .leaveLoop hworker hempty hstop
  case isFalse hne =>
    obtain rfl := Option.some.inj hstep
    exact .takeBatch hworker hne

/-- The worker counts what the backend has made of a record. -/
theorem steps_count (hstep : s.step cfg .count = some t) : Steps cfg s .count t := by
  rw [step] at hstep
  split at hstep
  case h_3 => cases hstep
  case h_1 hworker =>
    obtain rfl := Option.some.inj hstep
    exact .countDropped hworker
  case h_2 drain outcome batch hne hworker =>
    obtain rfl := Option.some.inj hstep
    exact .countProcessed hworker hne

/-- The worker is done with a batch, which may be the last one. -/
theorem steps_endBatch (hstep : s.step cfg .endBatch = some t) : Steps cfg s .endBatch t := by
  rw [step] at hstep
  split at hstep
  case h_2 => cases hstep
  case h_1 drain hworker =>
  obtain rfl := Option.some.inj hstep
  cases drain with
  | true => exact .endDrain hworker
  | false => exact .endBatch hworker

/-- **What a step does.** -/
theorem steps_of_step {a : AsyncSinkAction P Q R} (hstep : s.step cfg a = some t) :
    Steps cfg s a t := by
  cases a with
  | log p record =>
    rw [step] at hstep
    split at hstep
    case h_2 => cases hstep
    case h_1 hidle =>
    obtain rfl := Option.some.inj hstep
    exact .log hidle
  | enqueue p =>
    rw [step] at hstep
    split at hstep
    case h_2 => cases hstep
    case h_1 event hcalling =>
    obtain rfl := Option.some.inj hstep
    exact .enqueue hcalling
  | wake p =>
    rw [step] at hstep
    split at hstep
    case h_2 => cases hstep
    case h_1 event hwaiting =>
    obtain ⟨hready, ht⟩ := Option.ite_none_right_eq_some.mp hstep
    obtain rfl := Option.some.inj ht
    exact .wake hwaiting hready
  | takeBatch => exact steps_takeBatch hstep
  | hand outcome =>
    rw [step] at hstep
    split at hstep
    case h_2 => cases hstep
    case h_1 hworker =>
    obtain rfl := Option.some.inj hstep
    exact .hand hworker
  | count => exact steps_count hstep
  | retire =>
    rw [step] at hstep
    split at hstep
    case h_2 => cases hstep
    case h_1 hworker =>
    obtain rfl := Option.some.inj hstep
    exact .retire hworker
  | endBatch => exact steps_endBatch hstep
  | drainQueue =>
    rw [step] at hstep
    split at hstep
    case h_2 => cases hstep
    case h_1 hworker =>
    obtain rfl := Option.some.inj hstep
    exact .drainQueue hworker
  | flushNow q =>
    rw [step] at hstep
    split at hstep
    case h_2 => cases hstep
    case h_1 hidle =>
    obtain rfl := Option.some.inj hstep
    exact .flushNow hidle
  | loadTarget q =>
    rw [step] at hstep
    split at hstep
    case h_2 => cases hstep
    case h_1 before hcalled =>
    obtain rfl := Option.some.inj hstep
    exact .loadTarget hcalled
  | flushReturn q =>
    rw [step] at hstep
    split at hstep
    case h_2 => cases hstep
    case h_1 hwaiting =>
    obtain ⟨hready, ht⟩ := Option.ite_none_right_eq_some.mp hstep
    obtain rfl := Option.some.inj ht
    exact .flushReturn hwaiting hready
  | requestStop =>
    obtain rfl := Option.some.inj hstep
    exact .requestStop

/-! ## What a producer does in the mutex -/

/-- What a producer does in the mutex: it queues its record, puts the oldest one out of a full queue
first, gives its record up, or waits. -/
inductive Enqueues (cfg : AsyncSinkConfig) (s : AsyncSinkState P Q R) (p : P)
    (event : LogEvent P R) : AsyncSinkState P Q R → Prop where
  | push (hroom : s.queue.length < cfg.maxQueueSize) : Enqueues cfg s p event (s.push p event)
  | replace {oldest : LogEvent P R} {queue : List (LogEvent P R)}
      (hpolicy : cfg.overflowPolicy = .dropOldest) (hfull : cfg.maxQueueSize ≤ s.queue.length)
      (hqueue : s.queue = oldest :: queue) :
      Enqueues cfg s p event ((s.evict oldest queue).push p event)
  | refuse (hfull : cfg.maxQueueSize ≤ s.queue.length)
      (hcause : cfg.overflowPolicy = .dropNewest ∨ s.stopRequested = true) :
      Enqueues cfg s p event (s.refuse p event)
  | wait : Enqueues cfg s p event
      { s with producer := Function.update s.producer p (.waiting event) }

omit [DecidableEq Q] in
/-- One case per branch of `enqueue`: pushed, evicted and pushed, or refused. -/
theorem enqueues_enqueue (cfg : AsyncSinkConfig) (s : AsyncSinkState P Q R) (p : P)
    (event : LogEvent P R) : Enqueues cfg s p event (s.enqueue cfg p event) := by
  rw [enqueue]
  split
  case isFalse hroom => exact .push (Nat.lt_of_not_le hroom)
  case isTrue hfull =>
  unfold handleOverflow
  split
  case h_1 =>
    split
    case isTrue hstop => exact .refuse hfull (.inr hstop)
    case isFalse => exact .wait
  case h_2 hpolicy =>
    have hlength := Nat.lt_of_lt_of_le cfg.maxQueueSize_pos hfull
    cases hqueue : s.queue with
    | nil => rw [hqueue] at hlength; exact absurd hlength (Nat.lt_irrefl 0)
    | cons oldest queue =>
      have hpop : s.popFront = s.evict oldest queue := by unfold popFront; rw [hqueue]
      rw [hpop]
      exact .replace hpolicy hfull hqueue
  case h_3 hpolicy => exact .refuse hfull (.inl hpolicy)

omit [DecidableEq Q] in
theorem enqueues_wakeUp (hready : s.queue.length < cfg.maxQueueSize ∨ s.stopRequested = true) (p : P)
    (event : LogEvent P R) : Enqueues cfg s p event (s.wakeUp cfg p event) := by
  rw [wakeUp]
  split
  case isTrue hfull => exact .refuse hfull (.inr (hready.resolve_left (Nat.not_lt_of_le hfull)))
  case isFalse hroom => exact .push (Nat.lt_of_not_le hroom)

/-! ## The calls of `log` -/

omit [DecidableEq P] [DecidableEq Q] in
/-- A producer has one record at a time. -/
theorem Holds.unique {event' : LogEvent P R} (h : s.Holds p event) (h' : s.Holds p event') :
    event = event' := by
  rcases h with h | h
  · rcases h' with h' | h'
    · exact ProducerPhase.calling.inj (h.symm.trans h')
    · cases h.symm.trans h'
  · rcases h' with h' | h'
    · cases h.symm.trans h'
    · exact ProducerPhase.waiting.inj (h.symm.trans h')

omit [DecidableEq Q] in
/-- Other producers keep their records when one has a new phase. -/
theorem holds_update_of_ne {phase : ProducerPhase (LogEvent P R)}
    (hproducer : t.producer = Function.update s.producer p phase) {p' : P} (hne : p' ≠ p)
    (event : LogEvent P R) : t.Holds p' event ↔ s.Holds p' event := by
  rw [Holds, Holds, hproducer, Function.update_of_ne hne]

omit [DecidableEq Q] in
/-- An idle producer has no record. -/
theorem not_holds_update_idle (hproducer : t.producer = Function.update s.producer p .idle)
    (event : LogEvent P R) : ¬t.Holds p event := by
  rw [Holds, hproducer, Function.update_self]
  rintro (h | h)
  · cases h
  · cases h

omit [DecidableEq Q] in
/-- **A call of `log`** keeps the invariant. -/
theorem Calls.log (h : Calls s) {record : R} (hidle : s.producer p = .idle)
    (hproducer : t.producer = Function.update s.producer p (.calling ⟨p, s.calls p, record⟩))
    (hcalls : t.calls = Function.update s.calls p (s.calls p + 1))
    (hlogged : t.logged = s.logged ++ [⟨p, s.calls p, record⟩]) (hqueued : t.queued = s.queued)
    (hrefused : t.refused = s.refused) : Calls t := by
  have hnone (event : LogEvent P R) : ¬s.Holds p event := by
    rw [Holds, hidle]
    rintro (h | h)
    · cases h
    · cases h
  have hnew (event : LogEvent P R) (hh : t.Holds p event) : event = ⟨p, s.calls p, record⟩ := by
    rw [Holds, hproducer, Function.update_self] at hh
    rcases hh with hh | hh
    · exact (ProducerPhase.calling.inj hh).symm
    · cases hh
  have hbegun (event : LogEvent P R) (hmem : event ∈ s.logged) :
      event.call < t.calls event.threadId := by
    have hlt := h.begun event hmem
    rw [hcalls]
    by_cases hp : event.threadId = p
    · rw [hp] at hlt
      rw [hp, Function.update_self]
      exact Nat.lt_succ_of_lt hlt
    · rw [Function.update_of_ne hp]
      exact hlt
  refine ⟨fun p' event hh => ?_, fun p' event hh e he => ?_, fun event hmem => ?_,
    fun event hmem => ?_, fun event hmem => ?_, ?_, by rw [hqueued, hrefused]; exact h.placed_nodup,
    by rw [hqueued]; exact h.ordered⟩
  · by_cases hp : p' = p
    · subst hp
      obtain rfl := hnew event hh
      refine ⟨rfl, ?_, ?_⟩
      · rw [hcalls, Function.update_self]
      · rw [hlogged]
        exact List.mem_append_right _ (List.mem_singleton_self _)
    · obtain ⟨hthread, hcall, hmem⟩ := h.held p' event ((holds_update_of_ne hproducer hp event).mp hh)
      refine ⟨hthread, ?_, ?_⟩
      · rw [hcalls, Function.update_of_ne hp]
        exact hcall
      · rw [hlogged]
        exact List.mem_append_left _ hmem
  · rw [hqueued, hrefused] at he
    by_cases hp : p' = p
    · subst hp
      obtain rfl := hnew event hh
      intro hthread
      have hlt := h.begun e (h.placed e he)
      rw [hthread] at hlt
      exact hlt
    · exact h.older p' event ((holds_update_of_ne hproducer hp event).mp hh) e he
  · rw [hlogged] at hmem
    rcases List.mem_append.mp hmem with hmem | hmem
    · exact hbegun event hmem
    · rw [List.mem_singleton.mp hmem, hcalls, Function.update_self]
      exact Nat.lt_succ_self _
  · rw [hqueued, hrefused] at hmem
    rw [hlogged]
    exact List.mem_append_left _ (h.placed event hmem)
  · rw [hlogged] at hmem
    rw [hqueued, hrefused]
    rcases List.mem_append.mp hmem with hmem | hmem
    · refine (h.cases event hmem).imp_right fun hh => ?_
      have hp : event.threadId ≠ p := by
        intro hp
        rw [hp] at hh
        exact hnone event hh
      exact (holds_update_of_ne hproducer hp event).mpr hh
    · obtain rfl := List.mem_singleton.mp hmem
      right
      rw [Holds, hproducer, Function.update_self]
      exact .inl rfl
  · rw [hlogged, ← List.concat_eq_append]
    refine h.logged_nodup.concat fun hmem => ?_
    exact absurd (h.begun _ hmem) (Nat.lt_irrefl _)

omit [DecidableEq Q] in
/-- **The end of a call**, with its record queued or refused, keeps the invariant. -/
theorem Calls.place (h : Calls s) (hh : s.Holds p event)
    (hproducer : t.producer = Function.update s.producer p .idle) (hcalls : t.calls = s.calls)
    (hlogged : t.logged = s.logged)
    (hplaced : (t.queued ++ t.refused).Perm ((s.queued ++ s.refused).concat event))
    (hordered : t.queued.Pairwise Before) : Calls t := by
  obtain ⟨hthread, hcall, hmem⟩ := h.held p event hh
  have hmem_iff (e : LogEvent P R) :
      e ∈ t.queued ++ t.refused ↔ e ∈ s.queued ++ s.refused ∨ e = event := by
    rw [hplaced.mem_iff, List.concat_eq_append, List.mem_append, List.mem_singleton]
  refine ⟨fun p' e hh' => ?_, fun p' e hh' e' he' => ?_, by rw [hlogged, hcalls]; exact h.begun,
    fun e he => ?_, fun e he => ?_, by rw [hlogged]; exact h.logged_nodup, ?_, hordered⟩
  · by_cases hp : p' = p
    · subst hp
      exact absurd hh' (not_holds_update_idle hproducer e)
    · rw [hcalls, hlogged]
      exact h.held p' e ((holds_update_of_ne hproducer hp e).mp hh')
  · by_cases hp : p' = p
    · subst hp
      exact absurd hh' (not_holds_update_idle hproducer e)
    · have hold := (holds_update_of_ne hproducer hp e).mp hh'
      rcases (hmem_iff e').mp he' with he' | rfl
      · exact h.older p' e hold e' he'
      · intro hsame
        exact absurd ((h.held p' e hold).1.symm.trans (hsame.symm.trans hthread)) hp
  · rw [hlogged]
    rcases (hmem_iff e).mp he with he | rfl
    · exact h.placed e he
    · exact hmem
  · rw [hlogged] at he
    rw [hmem_iff]
    rcases h.cases e he with he | he
    · exact .inl (.inl he)
    · by_cases hp : e.threadId = p
      · rw [hp] at he
        exact .inl (.inr (he.unique hh))
      · exact .inr ((holds_update_of_ne hproducer hp e).mpr he)
  · rw [hplaced.nodup_iff]
    refine h.placed_nodup.concat fun hmem' => ?_
    exact absurd (h.older p event hh event hmem' rfl) (Nat.lt_irrefl _)

omit [DecidableEq Q] in
/-- Queueing a record behind those of earlier calls. -/
theorem Calls.push (h : Calls s) (hh : s.Holds p event) : Calls (s.push p event) := by
  refine h.place hh rfl rfl rfl ?_ ?_
  · change ((s.queued ++ [event]) ++ s.refused).Perm _
    rw [List.concat_eq_append, List.append_assoc, List.append_assoc]
    exact List.perm_append_comm.append_left _
  · change (s.queued ++ [event]).Pairwise Before
    refine List.pairwise_append.mpr ⟨h.ordered, List.pairwise_singleton _ _, fun e he e' he' => ?_⟩
    rw [List.mem_singleton.mp he']
    exact h.older p event hh e (List.mem_append_left _ he)

omit [DecidableEq Q] in
theorem Calls.refuse (h : Calls s) (hh : s.Holds p event) : Calls (s.refuse p event) := by
  refine h.place hh rfl rfl rfl ?_ h.ordered
  change (s.queued ++ (s.refused ++ [event])).Perm _
  rw [List.concat_eq_append, List.append_assoc]

omit [DecidableEq Q] in
/-- A producer that waits has its record still. -/
theorem Calls.wait (h : Calls s) (hh : s.Holds p event)
    (hproducer : t.producer = Function.update s.producer p (.waiting event))
    (hcalls : t.calls = s.calls) (hlogged : t.logged = s.logged) (hqueued : t.queued = s.queued)
    (hrefused : t.refused = s.refused) : Calls t := by
  have hiff (p' : P) (e : LogEvent P R) : t.Holds p' e ↔ s.Holds p' e := by
    by_cases hp : p' = p
    · subst hp
      constructor
      · intro hh'
        rw [Holds, hproducer, Function.update_self] at hh'
        rcases hh' with hh' | hh'
        · cases hh'
        · obtain rfl := ProducerPhase.waiting.inj hh'
          exact hh
      · intro hh'
        rw [Holds, hproducer, Function.update_self, hh.unique hh']
        exact .inr rfl
    · exact holds_update_of_ne hproducer hp e
  refine ⟨fun p' e hh' => ?_, fun p' e hh' => ?_, by rw [hlogged, hcalls]; exact h.begun,
    by rw [hqueued, hrefused, hlogged]; exact h.placed, fun e he => ?_,
    by rw [hlogged]; exact h.logged_nodup, by rw [hqueued, hrefused]; exact h.placed_nodup,
    by rw [hqueued]; exact h.ordered⟩
  · rw [hcalls, hlogged]
    exact h.held p' e ((hiff p' e).mp hh')
  · rw [hqueued, hrefused]
    exact h.older p' e ((hiff p' e).mp hh')
  · rw [hlogged] at he
    rw [hqueued, hrefused, hiff]
    exact h.cases e he

omit [DecidableEq Q] in
theorem Calls.enqueues (h : Calls s) (hh : s.Holds p event) (ht : Enqueues cfg s p event t) :
    Calls t := by
  cases ht with
  | push => exact h.push hh
  | @replace oldest queue =>
    have hevict : Calls (s.evict oldest queue) := ⟨h.held, h.older, h.begun, h.placed, h.cases,
      h.logged_nodup, h.placed_nodup, h.ordered⟩
    exact hevict.push hh
  | refuse => exact h.refuse hh
  | wait => exact h.wait hh rfl rfl rfl rfl rfl

/-- **Every step keeps the invariant of the calls.** -/
theorem Calls.step (h : Calls s) {a : AsyncSinkAction P Q R} (hstep : s.step cfg a = some t) :
    Calls t := by
  -- most steps leave the calls alone
  have hframe {u : AsyncSinkState P Q R} (hp : u.producer = s.producer) (hc : u.calls = s.calls)
      (hl : u.logged = s.logged) (hq : u.queued = s.queued) (hr : u.refused = s.refused) :
      Calls u := by
    have hholds (p : P) (e : LogEvent P R) : u.Holds p e ↔ s.Holds p e := by rw [Holds, Holds, hp]
    refine ⟨?_, ?_, by rw [hl, hc]; exact h.begun, by rw [hq, hr, hl]; exact h.placed, ?_,
      by rw [hl]; exact h.logged_nodup, by rw [hq, hr]; exact h.placed_nodup,
      by rw [hq]; exact h.ordered⟩
    · simp only [hholds, hc, hl]
      exact h.held
    · simp only [hholds, hq, hr]
      exact h.older
    · simp only [hholds, hl, hq, hr]
      exact h.cases
  cases steps_of_step hstep with
  | log hidle => exact h.log hidle rfl rfl rfl rfl rfl
  | enqueue hcalling => exact h.enqueues (.inl hcalling) (enqueues_enqueue ..)
  | wake hwaiting hready => exact h.enqueues (.inr hwaiting) (enqueues_wakeUp hready ..)
  | leaveLoop | takeBatch | hand | countDropped | countProcessed | retire | endDrain | endBatch
  | drainQueue | flushNow | loadTarget | flushReturn | requestStop =>
    exact hframe rfl rfl rfl rfl rfl

/-! ## The queue, the batch and the counters -/

/-- How a step moves the records that the worker is done with and those that were put out of the
queue since it took its batch. -/
inductive Moves (cfg : AsyncSinkConfig) (s : AsyncSinkState P Q R) (a : AsyncSinkAction P Q R)
    (t : AsyncSinkState P Q R) (done gap : List (LogEvent P R)) :
    List (LogEvent P R) → List (LogEvent P R) → Prop where
  | same (hbatch : t.worker.batch = s.worker.batch) : Moves cfg s a t done gap done gap
  | taken (hbatch : s.worker.batch = []) : Moves cfg s a t done gap (done ++ gap) []
  | handed (event : LogEvent P R) (hbatch : s.worker.batch = event :: t.worker.batch) :
      Moves cfg s a t done gap (done ++ [event]) gap
  | evicted {p : P} {oldest : LogEvent P R} {queue : List (LogEvent P R)} (ha : a = .enqueue p)
      (hpolicy : cfg.overflowPolicy = .dropOldest) (hfull : cfg.maxQueueSize ≤ s.queue.length)
      (hqueue : s.queue = oldest :: queue) (hbatch : t.worker.batch = s.worker.batch) :
      Moves cfg s a t done gap done (gap ++ [oldest])

section Batches

variable {done gap : List (LogEvent P R)}

omit [DecidableEq Q] in
/-- A pushed record waits at the end of the queue. -/
theorem Batches.push (h : Batches cfg s done gap) (hroom : s.queue.length < cfg.maxQueueSize) :
    Batches cfg (s.push p event) done gap where
  queued_eq := by
    change s.queued ++ [event] = done ++ (s.worker.batch ++ (gap ++ (s.queue ++ [event])))
    rw [h.queued_eq]
    simp only [List.append_assoc]
  backend_sublist := h.backend_sublist
  done_cases := h.done_cases
  gap_evicted := h.gap_evicted
  evicted_eq := h.evicted_eq
  nQueued_eq := by
    change s.nQueued + 1 = (s.queued ++ [event]).length
    rw [h.nQueued_eq, List.length_append]
    rfl
  nRetired_eq := h.nRetired_eq
  counted_eq := h.counted_eq
  queue_le := by
    change (s.queue ++ [event]).length ≤ _
    rw [List.length_append]
    exact hroom

omit [DecidableEq P] [DecidableEq Q] in
/-- An evicted record leaves the queue for the gap. -/
theorem Batches.evict {oldest : LogEvent P R} {queue : List (LogEvent P R)}
    (h : Batches cfg s done gap) (hqueue : s.queue = oldest :: queue) :
    Batches cfg (s.evict oldest queue) done (gap ++ [oldest]) where
  queued_eq := by
    change s.queued = done ++ (s.worker.batch ++ ((gap ++ [oldest]) ++ queue))
    rw [h.queued_eq, hqueue, List.append_assoc gap]
    rfl
  backend_sublist := h.backend_sublist
  done_cases e he := (h.done_cases e he).imp_right fun hmem => List.mem_append_left _ hmem
  gap_evicted e he := by
    rcases List.mem_append.mp he with he | he
    · exact List.mem_append_left _ (h.gap_evicted e he)
    · exact List.mem_append_right _ he
  evicted_eq := by
    change s.backend.length + (s.evicted ++ [oldest]).length = _
    rw [List.length_append, List.length_append, ← Nat.add_assoc, ← Nat.add_assoc, h.evicted_eq]
  nQueued_eq := h.nQueued_eq
  nRetired_eq := by
    have hretired := h.nRetired_eq
    change s.nRetired + 1 + s.worker.inHand = _
    rw [List.length_append, List.length_singleton]
    omega
  counted_eq := by
    have hcounted := h.counted_eq
    change s.nProcessed + (s.nDropped + 1) + s.worker.uncounted =
      s.backend.length + (s.evicted ++ [oldest]).length + s.refused.length
    rw [List.length_append, List.length_singleton]
    omega
  queue_le := by
    have hle := h.queue_le
    rw [hqueue, List.length_cons] at hle
    exact Nat.le_of_succ_le hle

omit [DecidableEq Q] in
/-- A refused record touches no batch. -/
theorem Batches.refuse (h : Batches cfg s done gap) :
    Batches cfg (s.refuse p event) done gap where
  queued_eq := h.queued_eq
  backend_sublist := h.backend_sublist
  done_cases := h.done_cases
  gap_evicted := h.gap_evicted
  evicted_eq := h.evicted_eq
  nQueued_eq := h.nQueued_eq
  nRetired_eq := h.nRetired_eq
  counted_eq := by
    have hcounted := h.counted_eq
    change s.nProcessed + (s.nDropped + 1) + s.worker.uncounted =
      s.backend.length + s.evicted.length + (s.refused ++ [event]).length
    rw [List.length_append, List.length_singleton]
    omega
  queue_le := h.queue_le

omit [DecidableEq Q] in
/-- A producer in the mutex. -/
theorem Batches.enqueues (h : Batches cfg s done gap) (ht : Enqueues cfg s p event t) :
    ∃ done' gap', Batches cfg t done' gap' ∧ Moves cfg s (.enqueue p) t done gap done' gap' := by
  cases ht with
  | push hroom => exact ⟨_, _, h.push hroom, .same rfl⟩
  | @replace oldest queue hpolicy hfull hqueue =>
    have hle := h.queue_le
    rw [hqueue, List.length_cons] at hle
    exact ⟨_, _, (h.evict hqueue).push hle, .evicted rfl hpolicy hfull hqueue rfl⟩
  | refuse => exact ⟨_, _, h.refuse, .same rfl⟩
  | wait =>
    exact ⟨_, _, ⟨h.queued_eq, h.backend_sublist, h.done_cases, h.gap_evicted, h.evicted_eq,
      h.nQueued_eq, h.nRetired_eq, h.counted_eq, h.queue_le⟩, .same rfl⟩

omit [DecidableEq P] [DecidableEq Q] in
/-- The worker takes the first records of the queue as its next batch. -/
theorem Batches.take (h : Batches cfg s done gap) (hbatch : s.worker.batch = [])
    (hinHand : s.worker.inHand = 0) (huncounted : s.worker.uncounted = 0) {drain : Bool}
    {batch queue : List (LogEvent P R)} (hsplit : s.queue = batch ++ queue) :
    Batches cfg { s with queue := queue, worker := .processing drain batch } (done ++ gap) [] where
  queued_eq := by
    change s.queued = done ++ gap ++ (batch ++ ([] ++ queue))
    rw [h.queued_eq, hbatch, hsplit, List.append_assoc]
    rfl
  backend_sublist := h.backend_sublist.trans (List.sublist_append_left _ _)
  done_cases e he := by
    rcases List.mem_append.mp he with he | he
    · exact h.done_cases e he
    · exact .inr (h.gap_evicted e he)
  gap_evicted _ he := absurd he List.not_mem_nil
  evicted_eq := by
    change s.backend.length + s.evicted.length = (done ++ gap).length + 0
    rw [h.evicted_eq, List.length_append, Nat.add_zero]
  nQueued_eq := h.nQueued_eq
  nRetired_eq := by
    have hretired := h.nRetired_eq
    rw [hinHand] at hretired
    change s.nRetired + 0 = (done ++ gap).length + 0
    rw [hretired, List.length_append, Nat.add_zero]
  counted_eq := by
    have hcounted := h.counted_eq
    rw [huncounted] at hcounted
    exact hcounted
  queue_le := by
    have hle := h.queue_le
    rw [hsplit, List.length_append] at hle
    exact Nat.le_trans (Nat.le_add_left _ _) hle

omit [DecidableEq P] [DecidableEq Q] in
/-- The worker hands a record to the backend. -/
theorem Batches.hand (h : Batches cfg s done gap) {drain : Bool} {outcome : BackendOutcome}
    {event : LogEvent P R} {batch : List (LogEvent P R)}
    (hworker : s.worker = .processing drain (event :: batch)) :
    Batches cfg
      { s with
        worker := .handed drain outcome batch
        backend := s.backend ++ [(event, outcome)] } (done ++ [event]) gap where
  queued_eq := by
    change s.queued = done ++ [event] ++ (batch ++ (gap ++ s.queue))
    rw [h.queued_eq, hworker, List.append_assoc]
    rfl
  backend_sublist := by
    change ((s.backend ++ [(event, outcome)]).map Prod.fst).Sublist _
    rw [List.map_append]
    exact h.backend_sublist.append (List.Sublist.refl _)
  done_cases e he := by
    change e ∈ (s.backend ++ [(event, outcome)]).map Prod.fst ∨ _
    rw [List.map_append]
    rcases List.mem_append.mp he with he | he
    · exact (h.done_cases e he).imp_left fun hmem => List.mem_append_left _ hmem
    · exact .inl (List.mem_append_right _ he)
  gap_evicted := h.gap_evicted
  evicted_eq := by
    have hevicted := h.evicted_eq
    change (s.backend ++ [(event, outcome)]).length + s.evicted.length = (done ++ [event]).length + _
    rw [List.length_append, List.length_append, List.length_singleton, List.length_singleton]
    omega
  nQueued_eq := h.nQueued_eq
  nRetired_eq := by
    have hretired := h.nRetired_eq
    rw [hworker] at hretired
    change s.nRetired + 0 = _ at hretired
    change s.nRetired + 1 = (done ++ [event]).length + _
    rw [List.length_append, List.length_singleton]
    omega
  counted_eq := by
    have hcounted := h.counted_eq
    rw [hworker] at hcounted
    change s.nProcessed + s.nDropped + 0 = _ at hcounted
    change s.nProcessed + s.nDropped + 1 =
      (s.backend ++ [(event, outcome)]).length + s.evicted.length + s.refused.length
    rw [List.length_append, List.length_singleton]
    omega
  queue_le := h.queue_le

/-- **Every step keeps the records and counters together.** -/
theorem Batches.step (h : Batches cfg s done gap) {a : AsyncSinkAction P Q R}
    (hstep : s.step cfg a = some t) :
    ∃ done' gap', Batches cfg t done' gap' ∧ Moves cfg s a t done gap done' gap' := by
  have hqueued := h.queued_eq
  have hretired := h.nRetired_eq
  have hcounted := h.counted_eq
  cases steps_of_step hstep with
  | enqueue => exact h.enqueues (enqueues_enqueue ..)
  | wake =>
    rw [wakeUp]
    split
    case isTrue => exact ⟨_, _, h.refuse, .same rfl⟩
    case isFalse hroom => exact ⟨_, _, h.push (Nat.lt_of_not_le hroom), .same rfl⟩
  | leaveLoop hworker =>
    rw [hworker] at hqueued hretired hcounted
    exact ⟨done, gap, ⟨hqueued, h.backend_sublist, h.done_cases, h.gap_evicted, h.evicted_eq,
      h.nQueued_eq, hretired, hcounted, h.queue_le⟩, .same (by rw [hworker]; rfl)⟩
  | takeBatch hworker =>
    have hbatch : s.worker.batch = [] := by rw [hworker]; rfl
    exact ⟨_, _, h.take hbatch (by rw [hworker]; rfl) (by rw [hworker]; rfl)
      (List.take_append_drop _ _).symm, .taken hbatch⟩
  | drainQueue hworker =>
    have hbatch : s.worker.batch = [] := by rw [hworker]; rfl
    exact ⟨_, _, h.take hbatch (by rw [hworker]; rfl) (by rw [hworker]; rfl)
      (List.append_nil _).symm, .taken hbatch⟩
  | @hand _ event _ _ hworker =>
    exact ⟨_, _, h.hand hworker, .handed event (by rw [hworker]; rfl)⟩
  | countDropped hworker =>
    rw [hworker] at hqueued hretired hcounted
    exact ⟨done, gap, ⟨hqueued, h.backend_sublist, h.done_cases, h.gap_evicted, h.evicted_eq,
      h.nQueued_eq, hretired, hcounted, h.queue_le⟩, .same (by rw [hworker]; rfl)⟩
  | countProcessed hworker =>
    rw [hworker] at hqueued hretired hcounted
    refine ⟨done, gap, ⟨hqueued, h.backend_sublist, h.done_cases, h.gap_evicted, h.evicted_eq,
      h.nQueued_eq, hretired, ?_, h.queue_le⟩, .same (by rw [hworker]; rfl)⟩
    change s.nProcessed + s.nDropped + 1 = s.backend.length + s.evicted.length + s.refused.length
      at hcounted
    change s.nProcessed + 1 + s.nDropped + 0 =
      s.backend.length + s.evicted.length + s.refused.length
    omega
  | retire hworker | endDrain hworker | endBatch hworker =>
    rw [hworker] at hqueued hretired hcounted
    exact ⟨done, gap, ⟨hqueued, h.backend_sublist, h.done_cases, h.gap_evicted, h.evicted_eq,
      h.nQueued_eq, hretired, hcounted, h.queue_le⟩, .same (by rw [hworker]; rfl)⟩
  | log | flushNow | loadTarget | flushReturn | requestStop =>
    exact ⟨done, gap, ⟨hqueued, h.backend_sublist, h.done_cases, h.gap_evicted, h.evicted_eq,
      h.nQueued_eq, hretired, hcounted, h.queue_le⟩, .same rfl⟩

end Batches

/-! ## The end -/

/-- No producer calls `log` any more when the destructor requests the stop, nor after it. -/
def DestroyedLast (s : AsyncSinkState P Q R) : AsyncSinkAction P Q R → Prop
  | .log _ _ => s.stopRequested = false
  | .requestStop => ∀ p, s.producer p = .idle
  | _ => True

/-- The invariant of the end of the sink: after the stop no producer is in a call, and the queue
that was drained stays empty. -/
structure Closing (s : AsyncSinkState P Q R) : Prop where
  idle : s.stopRequested = true → ∀ p, s.producer p = .idle
  stopped : s.worker = .draining ∨ s.worker.Drained → s.stopRequested = true
  empty : s.worker.Drained → s.queue = []

omit [DecidableEq Q] in
/-- The phase of the worker and the stop are none of the producers' business. -/
theorem Enqueues.frame (ht : Enqueues cfg s p event t) :
    t.worker = s.worker ∧ t.stopRequested = s.stopRequested := by
  cases ht with
  | push => exact ⟨rfl, rfl⟩
  | replace => exact ⟨rfl, rfl⟩
  | refuse => exact ⟨rfl, rfl⟩
  | wait => exact ⟨rfl, rfl⟩

omit [DecidableEq Q] in
/-- A producer that has a record comes before the stop. -/
theorem Closing.enqueues (h : Closing s) (hh : s.Holds p event) (ht : Enqueues cfg s p event t) :
    Closing t := by
  obtain ⟨hworker, hstop⟩ := ht.frame
  have hrunning : s.stopRequested ≠ true := by
    intro hs
    have hidle := h.idle hs p
    rcases hh with hh | hh
    · cases hh.symm.trans hidle
    · cases hh.symm.trans hidle
  refine ⟨fun hs => absurd (hstop.symm.trans hs) hrunning, fun hw => ?_, fun hd => ?_⟩
  · rw [hstop]
    rw [hworker] at hw
    exact h.stopped hw
  · rw [hworker] at hd
    exact absurd (h.stopped (.inr hd)) hrunning

omit [DecidableEq P] [DecidableEq Q] in
/-- A step of the worker inside its batch. -/
theorem Closing.works (h : Closing s) (hproducer : t.producer = s.producer)
    (hstop : t.stopRequested = s.stopRequested) (hqueue : t.queue = s.queue)
    (hworker : t.worker ≠ .draining) (hdrained : t.worker.Drained → s.worker.Drained) :
    Closing t := by
  refine ⟨?_, fun hw => ?_, fun hd => ?_⟩
  · rw [hproducer, hstop]
    exact h.idle
  · rw [hstop]
    exact h.stopped (.inr (hdrained (hw.resolve_left hworker)))
  · rw [hqueue]
    exact h.empty (hdrained hd)

/-- **Every step keeps the end** if no producer calls `log` after the stop. -/
theorem Closing.step (h : Closing s) {a : AsyncSinkAction P Q R} (hlast : DestroyedLast s a)
    (hstep : s.step cfg a = some t) : Closing t := by
  cases steps_of_step hstep with
  | log => exact ⟨fun hs => absurd (hs.symm.trans hlast) (by decide), h.stopped, h.empty⟩
  | enqueue hcalling => exact h.enqueues (.inl hcalling) (enqueues_enqueue ..)
  | wake hwaiting hready => exact h.enqueues (.inr hwaiting) (enqueues_wakeUp hready ..)
  | leaveLoop _ _ hstop => exact ⟨h.idle, fun _ => hstop, fun hd => hd.elim⟩
  | takeBatch =>
    refine ⟨h.idle, fun hw => ?_, fun hd => absurd hd (by simp [WorkerPhase.Drained])⟩
    rcases hw with hw | hw
    · cases hw
    · exact absurd hw (by simp [WorkerPhase.Drained])
  | drainQueue hworker => exact ⟨h.idle, fun _ => h.stopped (.inl hworker), fun _ => rfl⟩
  | hand hworker | countDropped hworker | countProcessed hworker | retire hworker =>
    exact h.works rfl rfl rfl (by simp) fun hd => by rw [hworker]; exact hd
  | endDrain hworker => exact h.works rfl rfl rfl (by simp) fun _ => by rw [hworker]; rfl
  | endBatch => exact h.works rfl rfl rfl (by simp) fun hd => hd.elim
  | flushNow | loadTarget | flushReturn => exact ⟨h.idle, h.stopped, h.empty⟩
  | requestStop => exact ⟨fun _ => hlast, fun _ => rfl, h.empty⟩

/-! ## Overflows -/

/-- The record that is dropped by an overflow when a producer enters the mutex and the queue is full:
its own one under `dropNewest`, the oldest one of the queue under `dropOldest`. -/
inductive Overflows (cfg : AsyncSinkConfig) (s : AsyncSinkState P Q R) (dropped : LogEvent P R) :
    AsyncSinkAction P Q R → Prop where
  | newest {p : P} (hpolicy : cfg.overflowPolicy = .dropNewest)
      (hfull : s.queue.length = cfg.maxQueueSize) (hcalling : s.producer p = .calling dropped) :
      Overflows cfg s dropped (.enqueue p)
  | oldest {p : P} {event : LogEvent P R} {queue : List (LogEvent P R)}
      (hpolicy : cfg.overflowPolicy = .dropOldest) (hfull : s.queue.length = cfg.maxQueueSize)
      (hcalling : s.producer p = .calling event) (hqueue : s.queue = dropped :: queue) :
      Overflows cfg s dropped (.enqueue p)

/-- The record was dropped by an overflow in one of the steps of a run. -/
def Overflowed (cfg : AsyncSinkConfig) (as : List (AsyncSinkAction P Q R)) (dropped : LogEvent P R) :
    Prop :=
  ∃ before a s, before ++ [a] <+: as ∧ Runs.follow (step cfg) init before = some s ∧
    Overflows cfg s dropped a

/-- The records that were dropped before they were handed to the backend. -/
def dropped (s : AsyncSinkState P Q R) : List (LogEvent P R) := s.refused ++ s.evicted

omit [DecidableEq Q] in
/-- A producer in the mutex drops its own record or the oldest one. -/
theorem Enqueues.dropped_cases (ht : Enqueues cfg s p event t) {e : LogEvent P R}
    (he : e ∈ t.dropped) : e ∈ s.dropped ∨
      cfg.maxQueueSize ≤ s.queue.length ∧
        (e = event ∧ (cfg.overflowPolicy = .dropNewest ∨ s.stopRequested = true) ∨
          cfg.overflowPolicy = .dropOldest ∧ ∃ queue, s.queue = e :: queue) := by
  cases ht with
  | push | wait => exact .inl he
  | @replace oldest queue hpolicy hfull hqueue =>
    rcases List.mem_append.mp he with he | he
    · exact .inl (List.mem_append_left _ he)
    · rcases List.mem_append.mp he with he | he
      · exact .inl (List.mem_append_right _ he)
      · obtain rfl := List.mem_singleton.mp he
        exact .inr ⟨hfull, .inr ⟨hpolicy, queue, hqueue⟩⟩
  | refuse hfull hcause =>
    rcases List.mem_append.mp he with he | he
    · rcases List.mem_append.mp he with he | he
      · exact .inl (List.mem_append_left _ he)
      · exact .inr ⟨hfull, .inl ⟨List.mem_singleton.mp he, hcause⟩⟩
    · exact .inl (List.mem_append_right _ he)

/-- **A step drops a record by an overflow only** if no producer is in a call after the stop. -/
theorem overflows_of_step {done gap : List (LogEvent P R)} (hbatches : Batches cfg s done gap)
    (hclosing : Closing s) {a : AsyncSinkAction P Q R} (hstep : s.step cfg a = some t)
    {e : LogEvent P R} (he : e ∈ t.dropped) : e ∈ s.dropped ∨ Overflows cfg s e a := by
  have hrunning {p : P} {event : LogEvent P R} (hh : s.Holds p event) : s.stopRequested ≠ true := by
    intro hstop
    have hidle := hclosing.idle hstop p
    rcases hh with hh | hh
    · cases hh.symm.trans hidle
    · cases hh.symm.trans hidle
  cases steps_of_step hstep with
  | enqueue hcalling =>
    rcases (enqueues_enqueue cfg s _ _).dropped_cases he with hold | ⟨hfull, hcase⟩
    · exact .inl hold
    have hfull := Nat.le_antisymm hbatches.queue_le hfull
    rcases hcase with ⟨rfl, hcause⟩ | ⟨hpolicy, queue, hqueue⟩
    · exact .inr (.newest (hcause.resolve_right (hrunning (.inl hcalling))) hfull hcalling)
    · exact .inr (.oldest hpolicy hfull hcalling hqueue)
  | wake hwaiting hready =>
    -- a producer that waits has the policy `block`, and only the stop makes it give up
    rw [wakeUp] at he
    split at he
    case isTrue hfull =>
      have hstop := hready.resolve_left (Nat.not_lt_of_le hfull)
      exact absurd hstop (hrunning (.inr hwaiting))
    case isFalse => exact .inl he
  | _ => exact .inl he

/-! ## Runs -/

omit [DecidableEq P] [DecidableEq Q] in
theorem calls_init : Calls (init : AsyncSinkState P Q R) where
  held _ _ h := by
    rcases h with h | h
    · cases h
    · cases h
  older _ _ _ _ h := absurd h List.not_mem_nil
  begun _ h := absurd h List.not_mem_nil
  placed _ h := absurd h List.not_mem_nil
  cases _ h := absurd h List.not_mem_nil
  logged_nodup := List.nodup_nil
  placed_nodup := List.nodup_nil
  ordered := List.Pairwise.nil

omit [DecidableEq P] [DecidableEq Q] in
theorem batches_init (cfg : AsyncSinkConfig) :
    Batches cfg (init : AsyncSinkState P Q R) [] [] where
  queued_eq := rfl
  backend_sublist := List.Sublist.refl _
  done_cases _ h := absurd h List.not_mem_nil
  gap_evicted _ h := absurd h List.not_mem_nil
  evicted_eq := rfl
  nQueued_eq := rfl
  nRetired_eq := rfl
  counted_eq := rfl
  queue_le := Nat.zero_le _

omit [DecidableEq P] [DecidableEq Q] in
theorem closing_init : Closing (init : AsyncSinkState P Q R) where
  idle h := by cases h
  stopped h := by
    rcases h with h | h
    · cases h
    · exact h.elim
  empty h := h.elim

/-- What is promised of the sink: the queue is bounded; the backend gets no record twice, and those
of one thread in the order of its calls; and at the end of the worker the queue is empty, every
record that was logged was handed to the backend or dropped, and the counters add up. -/
structure Balanced (cfg : AsyncSinkConfig) (s : AsyncSinkState P Q R) : Prop where
  queue_le : s.queue.length ≤ cfg.maxQueueSize
  nodup : s.backendRecords.Nodup
  in_order : s.backendRecords.Pairwise Before
  empty : s.worker = .finished → s.queue = []
  handed_or_dropped : s.worker = .finished → ∀ event ∈ s.logged,
    event ∈ s.backendRecords ∨ event ∈ s.evicted ∨ event ∈ s.refused
  counted : s.worker = .finished → s.nProcessed + s.nDropped = s.logged.length

omit [DecidableEq P] [DecidableEq Q] in
/-- The promise follows from the invariants. -/
theorem balanced_of_invariants {done gap : List (LogEvent P R)} (hcalls : Calls s)
    (hbatches : Batches cfg s done gap) (hclosing : Closing s) : Balanced cfg s := by
  have hsub : s.backendRecords.Sublist s.queued := by
    rw [hbatches.queued_eq]
    exact hbatches.backend_sublist.trans (List.sublist_append_left _ _)
  have hfinished (hworker : s.worker = .finished) :
      s.queue = [] ∧ s.queued = done ++ gap ∧ ∀ event ∈ s.logged, event ∈ s.queued ++ s.refused := by
    have hdrained : s.worker.Drained := by rw [hworker]; trivial
    have hempty := hclosing.empty hdrained
    refine ⟨hempty, ?_, fun event hmem => (hcalls.cases event hmem).resolve_right fun hh => ?_⟩
    · rw [hbatches.queued_eq, hworker, hempty, List.append_nil]
      rfl
    · have hidle := hclosing.idle (hclosing.stopped (.inr hdrained)) event.threadId
      rcases hh with hh | hh
      · cases hh.symm.trans hidle
      · cases hh.symm.trans hidle
  refine ⟨hbatches.queue_le, (List.nodup_append.mp hcalls.placed_nodup).1.sublist hsub,
    hcalls.ordered.sublist hsub, fun hworker => (hfinished hworker).1, fun hworker event hmem => ?_,
    fun hworker => ?_⟩
  · obtain ⟨-, hqueued, hplaced⟩ := hfinished hworker
    rcases List.mem_append.mp (hplaced event hmem) with hq | hr
    · rw [hqueued] at hq
      rcases List.mem_append.mp hq with hd | hg
      · exact (hbatches.done_cases event hd).imp_right .inl
      · exact .inr (.inl (hbatches.gap_evicted event hg))
    · exact .inr (.inr hr)
  · obtain ⟨-, hqueued, hplaced⟩ := hfinished hworker
    have hperm : s.logged.Perm (s.queued ++ s.refused) :=
      (List.perm_ext_iff_of_nodup hcalls.logged_nodup hcalls.placed_nodup).mpr
        fun event => ⟨hplaced event, hcalls.placed event⟩
    have hcounted := hbatches.counted_eq
    rw [hworker, hbatches.evicted_eq] at hcounted
    rw [hperm.length_eq, hqueued, List.length_append, List.length_append]
    exact hcounted

/-- What the runs of the sink keep. -/
structure Kept (cfg : AsyncSinkConfig) (as : List (AsyncSinkAction P Q R))
    (s : AsyncSinkState P Q R) : Prop where
  run : Runs.follow (step cfg) init as = some s
  calls : Calls s
  batches : ∃ done gap, Batches cfg s done gap
  closing : Closing s
  overflowed : ∀ event ∈ s.dropped, Overflowed cfg as event

theorem Kept.init (cfg : AsyncSinkConfig) :
    Kept cfg [] (AsyncSinkState.init : AsyncSinkState P Q R) where
  run := rfl
  calls := calls_init
  batches := ⟨[], [], batches_init cfg⟩
  closing := closing_init
  overflowed _ h := absurd h List.not_mem_nil

/-- **One more step.** -/
theorem Kept.snoc {as : List (AsyncSinkAction P Q R)} (h : Kept cfg as s)
    {a : AsyncSinkAction P Q R} (hlast : DestroyedLast s a) (hstep : s.step cfg a = some t) :
    Kept cfg (as ++ [a]) t := by
  obtain ⟨done, gap, hbatches⟩ := h.batches
  obtain ⟨done', gap', hbatches', -⟩ := hbatches.step hstep
  refine ⟨?_, h.calls.step hstep, ⟨done', gap', hbatches'⟩, h.closing.step hlast hstep, ?_⟩
  · rw [Runs.follow_concat, h.run]
    exact hstep
  · intro event hmem
    rcases overflows_of_step hbatches h.closing hstep hmem with hold | hover
    · obtain ⟨before, b, u, hprefix, hbefore⟩ := h.overflowed event hold
      exact ⟨before, b, u, hprefix.trans (List.prefix_append as [a]), hbefore⟩
    · exact ⟨as, a, s, List.prefix_refl _, h.run, hover⟩

end AsyncSinkState

open AsyncSinkState in
/-- **Every record is delivered or dropped.** In every run of any number of producers, the worker,
callers of `flushNow` and, after the producers, the destructor; and the records that were dropped
before the backend had them were dropped by an overflow. -/
theorem asyncSink_balanced [DecidableEq P] [DecidableEq Q] (cfg : AsyncSinkConfig)
    {s : AsyncSinkState P Q R} {as : List (AsyncSinkAction P Q R)}
    (hlast : Runs.Meets (step cfg) DestroyedLast init as)
    (hrun : Runs.follow (step cfg) init as = some s) :
    s.Balanced cfg ∧ ∀ event ∈ s.refused ++ s.evicted, Overflowed cfg as event := by
  obtain ⟨-, hcalls, ⟨done, gap, hbatches⟩, hclosing, hdropped⟩ :=
    hlast.follow_history (fun _ _ _ _ h hlast hstep => h.snoc hlast hstep) (Kept.init cfg) hrun
  exact ⟨balanced_of_invariants hcalls hbatches hclosing, hdropped⟩

/-- A sink with room for one record, which drops a record if there is another one. -/
def sampleSink : AsyncSinkConfig := ⟨1, by decide, .dropNewest⟩

/-- Two records are logged before the worker takes the first, then the sink is destroyed. -/
def logTwice : List (AsyncSinkAction Unit Unit Unit) :=
  [.log () (), .enqueue (), .log () (), .enqueue (), .takeBatch, .hand .delivered, .count, .retire,
    .endBatch, .requestStop, .takeBatch, .drainQueue, .endBatch]

/-- One record delivered and one dropped. -/
theorem asyncSink_balanced_sample :
    ∃ s, Runs.follow (AsyncSinkState.step sampleSink) AsyncSinkState.init logTwice = some s ∧
      s.worker = .finished ∧ s.nProcessed = 1 ∧ s.nDropped = 1 ∧ s.refused = [⟨(), 1, ()⟩] ∧
        s.Balanced sampleSink ∧ AsyncSinkState.Overflowed sampleSink logTwice ⟨(), 1, ()⟩ := by
  refine ⟨_, rfl, rfl, rfl, rfl, rfl, ?_⟩
  refine (@asyncSink_balanced Unit Unit Unit _ _ sampleSink _ logTwice ?_ rfl).imp_right fun hdropped =>
    hdropped ⟨(), 1, ()⟩ (.head _)
  exact .cons rfl rfl (.cons trivial rfl (.cons rfl rfl (.cons trivial rfl (.cons trivial rfl
    (.cons trivial rfl (.cons trivial rfl (.cons trivial rfl (.cons trivial rfl
      (.cons (fun _ => rfl) rfl (.cons trivial rfl (.cons trivial rfl (.cons trivial rfl
        trivial))))))))))))

end XpuManager
