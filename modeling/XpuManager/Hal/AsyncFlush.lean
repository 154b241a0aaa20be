import XpuManager.Hal.AsyncSinkRuns

/-! # Flushing the asynchronous sink

`flushNow` waits until as many records were retired as had been queued when it was called. With
`DropOldest` a record that is put out of the queue counts, although the worker may still hold older
records in its batch; so the count can be reached before those were handed to the backend. -/

namespace XpuManager

variable {P Q R : Type} [DecidableEq P] [DecidableEq Q]

namespace AsyncSinkState

variable {cfg : AsyncSinkConfig} {s t : AsyncSinkState P Q R} {done gap : List (LogEvent P R)}

/-- A record that is put out of the queue was queued before the waiting callers of `flushNow` read
their target, unless the batch holds no record that had been queued when they were called. -/
def KeepsOrder (cfg : AsyncSinkConfig) (s : AsyncSinkState P Q R) : AsyncSinkAction P Q R → Prop
  | .enqueue _ => cfg.overflowPolicy = .dropOldest → cfg.maxQueueSize ≤ s.queue.length →
      ∀ oldest ∈ s.queue.head?, ∀ q before target, s.flush q = .waiting before target →
        oldest ∈ s.queued.take target ∨ ∀ event ∈ s.worker.batch, event ∉ s.queued.take before
  | _ => True

/-- The invariant of a caller that waits until `target` records were retired: unless the batch holds
no record that it is called for, all that were put out of the queue since are among the `target`. -/
def Unhurried (s : AsyncSinkState P Q R) (done gap : List (LogEvent P R)) (before target : Nat) :
    Prop :=
  before ≤ done.length ∨ s.worker.batch = [] ∨ gap = [] ∨
    done.length + s.worker.batch.length + gap.length ≤ target

/-- The invariant of all callers. -/
structure Flushing (s : AsyncSinkState P Q R) (done gap : List (LogEvent P R)) : Prop where
  called : ∀ q before, s.flush q = .called before → before ≤ s.queued.length
  waiting : ∀ q before target, s.flush q = .waiting before target → before ≤ target
  unhurried : ∀ q before target, s.flush q = .waiting before target →
    s.Unhurried done gap before target

section Take

variable {α : Type} {xs ys : List α} {x : α} {n : Nat}

theorem mem_take_of_lt (h : xs.length < n) : x ∈ (xs ++ x :: ys).take n := by
  rw [List.take_append, List.mem_append]
  right
  obtain ⟨k, hk⟩ := Nat.exists_eq_add_of_lt h
  rw [hk, show xs.length + k + 1 - xs.length = k + 1 by omega, List.take_succ_cons]
  exact List.mem_cons_self

theorem lt_of_mem_take (hnodup : (xs ++ x :: ys).Nodup) (h : x ∈ (xs ++ x :: ys).take n) :
    xs.length < n := by
  refine Nat.lt_of_not_le fun hle => ?_
  rw [List.take_append_of_le_length hle] at h
  exact (List.nodup_append.mp hnodup).2.2 x (List.mem_of_mem_take h) x List.mem_cons_self rfl

end Take

omit [DecidableEq P] [DecidableEq Q] in
/-- The records that the worker is done with come first. -/
theorem mem_done_of_mem_take (h : Batches cfg s done gap) {n : Nat} (hn : n ≤ done.length)
    {event : LogEvent P R} (hmem : event ∈ s.queued.take n) : event ∈ done := by
  rw [h.queued_eq, List.take_append_of_le_length hn] at hmem
  exact List.mem_of_mem_take hmem

omit [DecidableEq P] [DecidableEq Q] in
/-- **A step does not hurry a waiting caller.** -/
theorem Unhurried.moves {a : AsyncSinkAction P Q R} {done' gap' : List (LogEvent P R)} {q : Q}
    {before target : Nat} (hbatches : Batches cfg s done gap) (hnodup : s.queued.Nodup)
    (h : s.Unhurried done gap before target) (hwait : s.flush q = .waiting before target)
    (hkeeps : KeepsOrder cfg s a) (hmoves : Moves cfg s a t done gap done' gap') :
    t.Unhurried done' gap' before target := by
  cases hmoves with
  | same hbatch =>
    rw [Unhurried, hbatch]
    exact h
  | taken hbatch => exact .inr (.inr (.inl rfl))
  | handed event hbatch =>
    rw [Unhurried, hbatch] at h
    rw [Unhurried, List.length_append, List.length_singleton]
    rcases h with h | h | h | h
    · exact .inl (Nat.le_succ_of_le h)
    · cases h
    · exact .inr (.inr (.inl h))
    · refine .inr (.inr (.inr ?_))
      rw [List.length_cons] at h
      omega
  | @evicted p oldest queue ha hpolicy hfull hqueue hbatch =>
    subst ha
    have hqueued := hbatches.queued_eq
    have hhead : oldest ∈ s.queue.head? := by
      rw [hqueue]
      exact rfl
    rw [Unhurried, hbatch]
    rcases hkeeps hpolicy hfull oldest hhead q before target hwait with hold | hnone
    · -- the record put out is one that the caller waits for
      right; right; right
      have hsplit : s.queued = (done ++ (s.worker.batch ++ gap)) ++ oldest :: queue := by
        rw [hqueued, hqueue]
        simp only [List.append_assoc]
      rw [hsplit] at hold hnodup
      have hlt := lt_of_mem_take hnodup hold
      rw [List.length_append, List.length_append] at hlt
      rw [List.length_append, List.length_singleton]
      omega
    · -- the batch has no record that the caller waits for
      cases hw : s.worker.batch with
      | nil => exact .inr (.inl rfl)
      | cons event batch =>
        refine .inl (Nat.le_of_not_lt fun hlt => hnone event ?_ ?_)
        · rw [hw]
          exact List.mem_cons_self
        · rw [hqueued, hw]
          exact mem_take_of_lt hlt

/-- What a step does to a caller of `flushNow`. -/
inductive FlushMoves (s t : AsyncSinkState P Q R) (q : Q) : Prop where
  | same (hflush : t.flush q = s.flush q)
  | called (hflush : t.flush q = .called t.queued.length)
  | loaded (before : Nat) (hcalled : s.flush q = .called before)
      (hflush : t.flush q = .waiting before t.nQueued)
  | returned (hflush : t.flush q = .idle)

omit [DecidableEq Q] in
/-- The callers of `flushNow` are none of the producers' business. -/
theorem Enqueues.flush_eq {p : P} {event : LogEvent P R} (ht : Enqueues cfg s p event t) :
    t.flush = s.flush := by
  cases ht with
  | push => rfl
  | replace => rfl
  | refuse => rfl
  | wait => rfl

omit [DecidableEq Q] in
/-- What was queued stays queued. -/
theorem Enqueues.queued_le {p : P} {event : LogEvent P R} (ht : Enqueues cfg s p event t) :
    s.queued.length ≤ t.queued.length := by
  have hsnoc : s.queued.length ≤ (s.queued ++ [event]).length := by
    rw [List.length_append]
    exact Nat.le_add_right _ _
  cases ht with
  | push => exact hsnoc
  | replace => exact hsnoc
  | refuse => exact Nat.le_refl _
  | wait => exact Nat.le_refl _

/-- **What a step does** to a caller of `flushNow` and to the number of queued records. -/
theorem flushMoves_of_step {a : AsyncSinkAction P Q R} (hstep : s.step cfg a = some t) (q : Q) :
    FlushMoves s t q ∧ s.queued.length ≤ t.queued.length := by
  -- the other callers keep their phase when one has a new one
  have hother {q' : Q} {phase : FlushPhase} (hne : q ≠ q')
      (hflush : t.flush = Function.update s.flush q' phase) : FlushMoves s t q := by
    refine .same ?_
    rw [hflush, Function.update_of_ne hne]
  cases steps_of_step hstep with
  | @enqueue p event =>
    have ht := enqueues_enqueue cfg s p event
    exact ⟨.same (congrFun ht.flush_eq q), ht.queued_le⟩
  | @wake p event _ hready =>
    have ht := enqueues_wakeUp hready p event
    exact ⟨.same (congrFun ht.flush_eq q), ht.queued_le⟩
  | @flushNow q' =>
    by_cases hq : q = q'
    · subst hq
      exact ⟨.called (Function.update_self ..), Nat.le_refl _⟩
    · exact ⟨hother hq rfl, Nat.le_refl _⟩
  | @loadTarget q' before hcalled =>
    by_cases hq : q = q'
    · subst hq
      exact ⟨.loaded before hcalled (Function.update_self ..), Nat.le_refl _⟩
    · exact ⟨hother hq rfl, Nat.le_refl _⟩
  | @flushReturn q' =>
    by_cases hq : q = q'
    · subst hq
      exact ⟨.returned (Function.update_self ..), Nat.le_refl _⟩
    · exact ⟨hother hq rfl, Nat.le_refl _⟩
  | log | leaveLoop | takeBatch | hand | countDropped | countProcessed | retire | endDrain | endBatch
  | drainQueue | requestStop => exact ⟨.same rfl, Nat.le_refl _⟩

/-- **Every step keeps the callers** if it keeps the order. -/
theorem Flushing.step {a : AsyncSinkAction P Q R} {done' gap' : List (LogEvent P R)}
    (h : Flushing s done gap) (hbatches : Batches cfg s done gap) (hnodup : s.queued.Nodup)
    (hbatches' : Batches cfg t done' gap') (hkeeps : KeepsOrder cfg s a)
    (hstep : s.step cfg a = some t) (hmoves : Moves cfg s a t done gap done' gap') :
    Flushing t done' gap' := by
  refine ⟨fun q before hcalled => ?_, fun q before target hwait => ?_,
    fun q before target hwait => ?_⟩
  · obtain ⟨hflush, hle⟩ := flushMoves_of_step hstep q
    cases hflush with
    | same hflush => exact Nat.le_trans (h.called q before (hflush.symm.trans hcalled)) hle
    | called hflush =>
      obtain rfl := FlushPhase.called.inj (hflush.symm.trans hcalled)
      exact Nat.le_refl _
    | loaded before' _ hflush => cases hflush.symm.trans hcalled
    | returned hflush => cases hflush.symm.trans hcalled
  · obtain ⟨hflush, hle⟩ := flushMoves_of_step hstep q
    cases hflush with
    | same hflush => exact h.waiting q before target (hflush.symm.trans hwait)
    | called hflush => cases hflush.symm.trans hwait
    | loaded before' hcalled hflush =>
      obtain ⟨rfl, rfl⟩ := FlushPhase.waiting.inj (hflush.symm.trans hwait)
      rw [hbatches'.nQueued_eq]
      exact Nat.le_trans (h.called q before' hcalled) hle
    | returned hflush => cases hflush.symm.trans hwait
  · obtain ⟨hflush, -⟩ := flushMoves_of_step hstep q
    cases hflush with
    | same hflush =>
      have hwait' := hflush.symm.trans hwait
      exact (h.unhurried q before target hwait').moves hbatches hnodup hwait' hkeeps hmoves
    | called hflush => cases hflush.symm.trans hwait
    | loaded before' hcalled hflush =>
      obtain ⟨rfl, rfl⟩ := FlushPhase.waiting.inj (hflush.symm.trans hwait)
      -- the records out of the queue are all among those of the target
      refine .inr (.inr (.inr ?_))
      rw [hbatches'.nQueued_eq, hbatches'.queued_eq, List.length_append, List.length_append,
        List.length_append]
      omega
    | returned hflush => cases hflush.symm.trans hwait

omit [DecidableEq P] [DecidableEq Q] in
/-- What a caller finds that waited long enough. -/
theorem Flushing.delivered (h : Flushing s done gap) (hbatches : Batches cfg s done gap) {q : Q}
    {before target : Nat} (hwait : s.flush q = .waiting before target)
    (hretired : target ≤ s.nRetired) {event : LogEvent P R} (hmem : event ∈ s.queued.take before) :
    event ∈ s.backendRecords ∨ event ∈ s.evicted := by
  have hbefore := h.waiting q before target hwait
  have hcount := hbatches.nRetired_eq
  have hdone (hle : before ≤ done.length) : event ∈ s.backendRecords ∨ event ∈ s.evicted :=
    hbatches.done_cases event (mem_done_of_mem_take hbatches hle hmem)
  have hnone (hbatch : s.worker.batch = []) : event ∈ s.backendRecords ∨ event ∈ s.evicted := by
    rw [hbatches.queued_eq, hbatch, List.nil_append, ← List.append_assoc,
      List.take_append_of_le_length (by rw [List.length_append]; omega)] at hmem
    rcases List.mem_append.mp (List.mem_of_mem_take hmem) with hmem | hmem
    · exact hbatches.done_cases event hmem
    · exact .inr (hbatches.gap_evicted event hmem)
  rcases h.unhurried q before target hwait with hle | hbatch | hgap | hle
  · exact hdone hle
  · exact hnone hbatch
  · refine hdone ?_
    rw [hgap, List.length_nil] at hcount
    omega
  · exact hnone (List.length_eq_zero_iff.mp (by omega))

omit [DecidableEq P] [DecidableEq Q] in
theorem flushing_init : Flushing (init : AsyncSinkState P Q R) [] [] where
  called _ _ h := by cases h
  waiting _ _ _ h := by cases h
  unhurried _ _ _ h := by cases h

end AsyncSinkState

open AsyncSinkState in
/-- **`flushNow` keeps its promise** as long as no newer record is put out of the queue while the
worker's batch holds one that a caller waits for: when it returns and no stop was requested, every
record that had been queued when it was called was handed to the backend or dropped. -/
theorem flushNow_delivers (cfg : AsyncSinkConfig)
    {s t : AsyncSinkState P Q R} {as : List (AsyncSinkAction P Q R)} {q : Q} {before target : Nat}
    (hkeeps : Runs.Meets (step cfg) (KeepsOrder cfg) init as)
    (hrun : Runs.follow (step cfg) init as = some s) (hstop : s.stopRequested = false)
    (hwait : s.flush q = .waiting before target) (hreturn : step cfg s (.flushReturn q) = some t) :
    ∀ event ∈ s.queued.take before, event ∈ s.backendRecords ∨ event ∈ s.evicted := by
  have hkeep : ∀ (s : AsyncSinkState P Q R) a t,
      (Calls s ∧ ∃ done gap, Batches cfg s done gap ∧ Flushing s done gap) →
        KeepsOrder cfg s a → step cfg s a = some t →
          Calls t ∧ ∃ done gap, Batches cfg t done gap ∧ Flushing t done gap := by
    rintro s a t ⟨hcalls, done, gap, hbatches, hflushing⟩ hkeeps hstep
    obtain ⟨done', gap', hbatches', hmoves⟩ := hbatches.step hstep
    have hnodup : s.queued.Nodup := (List.nodup_append.mp hcalls.placed_nodup).1
    exact ⟨hcalls.step hstep, done', gap', hbatches',
      hflushing.step hbatches hnodup hbatches' hkeeps hstep hmoves⟩
  obtain ⟨-, done, gap, hbatches, hflushing⟩ := Runs.follow_invariant hkeep
    ⟨calls_init, [], [], batches_init cfg, flushing_init⟩ hkeeps hrun
  have hretired : target ≤ s.nRetired := by
    rw [AsyncSinkState.step, hwait] at hreturn
    obtain ⟨hready, -⟩ := Option.ite_none_right_eq_some.mp hreturn
    exact hready.resolve_right fun hs => by cases hs.symm.trans hstop
  exact fun event hmem => hflushing.delivered hbatches hwait hretired hmem

/-- A sink with room for one record, which puts out the older one if there is another one. -/
def hastySink : AsyncSinkConfig := ⟨1, Nat.one_pos, .dropOldest⟩

/-- The second of two records that `flushNow` waits for is put out of the queue, the first is handed
to the backend. -/
def flushInOrder : List (AsyncSinkAction Unit Unit Unit) :=
  [.log () (), .enqueue (), .takeBatch, .log () (), .enqueue (), .flushNow (), .loadTarget (),
    .log () (), .enqueue (), .hand .delivered, .count, .retire]

omit [DecidableEq P] in
/-- The order is kept where the only caller waits for the record that is put out of the queue. -/
theorem keepsOrder_of_awaited {cfg : AsyncSinkConfig} {s : AsyncSinkState P Unit R} {p : P}
    {oldest : LogEvent P R} {before target : Nat} (hold : s.queue.head? = some oldest)
    (hwait : s.flush () = .waiting before target) (hmem : oldest ∈ s.queued.take target) :
    AsyncSinkState.KeepsOrder cfg s (.enqueue p) := by
  intro _ _ e he q b n hq
  obtain rfl := Option.some.inj (hold.symm.trans he)
  obtain ⟨-, rfl⟩ := FlushPhase.waiting.inj (hwait.symm.trans hq)
  exact .inl hmem

/-- One record was handed to the backend and one dropped when `flushNow` returns. -/
theorem flushNow_delivers_sample :
    ∃ s t, Runs.follow (AsyncSinkState.step hastySink) AsyncSinkState.init flushInOrder = some s ∧
      AsyncSinkState.step hastySink s (.flushReturn ()) = some t ∧
        s.queued.take 2 = [⟨(), 0, ()⟩, ⟨(), 1, ()⟩] ∧
          ∀ event ∈ s.queued.take 2, event ∈ s.backendRecords ∨ event ∈ s.evicted := by
  refine ⟨_, _, rfl, rfl, rfl, @flushNow_delivers Unit Unit Unit _ _ hastySink _ _ flushInOrder ()
    2 2 ?_ rfl rfl rfl rfl⟩
  refine .cons trivial rfl (.cons ?_ rfl (.cons trivial rfl (.cons trivial rfl (.cons ?_ rfl
    (.cons trivial rfl (.cons trivial rfl (.cons trivial rfl (.cons ?_ rfl (.cons trivial rfl
      (.cons trivial rfl (.cons trivial rfl trivial)))))))))))
  · exact fun _ hfull => absurd hfull (by decide)
  · exact fun _ hfull => absurd hfull (by decide)
  · exact keepsOrder_of_awaited rfl rfl (List.mem_cons_of_mem _ List.mem_cons_self)

/-- Two newer records are put out of the queue while the worker has the first one in its batch. -/
def flushOvertaken : List (AsyncSinkAction Unit Unit Unit) :=
  [.log () (), .enqueue (), .takeBatch, .log () (), .enqueue (), .flushNow (), .loadTarget (),
    .log () (), .enqueue (), .log () (), .enqueue ()]

/-- `flushNow` returns before the first record was handed to the backend. -/
theorem flushNow_returns_early :
    ∃ s t, Runs.follow (AsyncSinkState.step hastySink) AsyncSinkState.init flushOvertaken = some s ∧
      s.stopRequested = false ∧ s.flush () = .waiting 2 2 ∧
        AsyncSinkState.step hastySink s (.flushReturn ()) = some t ∧
          ¬∀ event ∈ s.queued.take 2, event ∈ s.backendRecords ∨ event ∈ s.evicted := by
  refine ⟨_, _, rfl, rfl, rfl, rfl, fun h => ?_⟩
  rcases h ⟨(), 0, ()⟩ List.mem_cons_self with hb | he
  · exact List.not_mem_nil hb
  · rcases List.mem_cons.mp he with he | he
    · cases he
    · cases List.mem_singleton.mp he

end XpuManager
