import XpuManager.Xpumd.SysmanWatch

/-! # Deadlocks of the Level Zero stub

A start takes the lock of the state before that of the lifecycle. A stop waits for the watcher with the
lifecycle, and the watcher may wait for the state. -/

namespace XpuManager

namespace SysmanStub

open Mutexes

variable {F : Type}

/-! ## What a run should be -/

/-- The path that a thread is about to load. -/
def loadOf (s : Stub F) (t : Thread) : Option (Option Text) :=
  match s.pc t with
  | .load path => some path
  | .watchLoad _ => some (some s.watchPath)
  | _ => none

/-- A start that fails because there is a watcher leaves its path alone, and a load that fails the
store. -/
structure StepRight (s : Stub F) (a : Action F) (s' : Stub F) : Prop where
  watchPath : ∀ t answers, a = .go t answers → s.pc t = .start → s.store.configPath ≠ [] →
    s.started = true → s'.watchPath = s.watchPath
  store : ∀ t answers path, a = .go t answers → loadOf s t = some path →
    (stateLoadLocked answers.toLoadAnswers path s.store).1 = -1 → s'.store = s.store

/-- No deadlock, a path that is left alone, and loads that fail without a trace. -/
structure RunRight (as : List (Action F)) : Prop where
  noDeadlock : ∀ bs, bs <+: as → ∀ s, Runs.follow step (Stub.init F) bs = some s →
    ¬Deadlock discipline s.threads
  steps : ∀ bs a, bs ++ [a] <+: as → ∀ s s', Runs.follow step (Stub.init F) bs = some s →
    step s a = some s' → StepRight s a s'

/-! ## When it is -/

/-- A start with the state waits for the lifecycle. -/
def Starting (s : Stub F) : Prop := ∃ t, s.pc t = .startLifecycleLock

/-- A stop with the lifecycle waits for a watcher. -/
def Stopping (s : Stub F) (w : Nat) : Prop := ∃ t, s.pc t = .stopJoin w

/-- A watcher waits for the state. -/
def Reloading (s : Stub F) (w : Nat) : Prop := ∃ fname, s.pc (.watcher w) = .watchLoadLock fname

/-- Three threads wait for each other: one starts the watcher, one stops it, and it reloads. -/
def Stuck (s : Stub F) : Prop := Starting s ∧ ∃ w, Stopping s w ∧ Reloading s w

/-- No deadlock is closed, by a start that takes the state, a stop that signals, or a watcher that misses
the signal; and a start that finds a watcher has the path of that. -/
structure GoOk (s : Stub F) (t : Thread) (answers : Answers F) : Prop where
  start : s.pc t = .startStateLock → s.holder .state = none → ¬∃ w, Stopping s w ∧ Reloading s w
  stop : s.pc t = .stop → s.started = true → ¬(Starting s ∧ Reloading s s.watchThread)
  reload : ∀ fname, s.pc t = .watchStopPoll fname → ¬(answers.stopPoll ∧ s.stopEfd = some true) →
    ¬(Starting s ∧ ∃ w, t = .watcher w ∧ Stopping s w)
  path : s.pc t = .start → s.store.configPath ≠ [] → s.started = true →
    copyPath s.store.configPath = s.watchPath

def StepOk (s : Stub F) : Action F → Prop
  | .call _ _ => True
  | .go t answers => GoOk s t answers

/-! ## Deadlocks -/

section

variable {s s' : Stub F} {t u : Thread} {a : Action F} {w : Nat}

theorem ends_of_startJoin (hs : Inv s) (hp : s.pc t = .startJoin w) : Ends discipline s.threads t := by
  obtain ⟨-, rfl, hnone⟩ := (hp ▸ hs.phase t : PhaseAt s (.startJoin w))
  refine ends_of_joins (congrArg Pc.wants hp) (congrArg Pc.joins hp) fun hgone => ?_
  cases hnone.symm.trans hgone

/-- Whoever has the mutex of the condition goes on. -/
theorem ends_of_wants_ready (hs : Inv s) (hwants : (s.pc t).wants = some .ready)
    (hjoins : (s.pc t).joins = none) : Ends discipline s.threads t := by
  refine ends_of_wants hwants hjoins fun u hu => ?_
  have hmem : .ready ∈ (s.pc u).holds := (hs.consistent .ready u).mp hu
  apply ends_of_free
  · cases hp : s.pc u <;> first | exact congrArg Pc.wants hp | exact absurd (hp ▸ hmem) (by simp [Pc.holds])
  · cases hp : s.pc u <;> first | exact congrArg Pc.joins hp | exact absurd (hp ▸ hmem) (by simp [Pc.holds])

/-- A watcher ends unless it waits for the state. -/
theorem ends_watcher (hs : Inv s) (h : Reloading s w → Ends discipline s.threads (.watcher w)) :
    Ends discipline s.threads (.watcher w) := by
  have hfits : (s.pc (.watcher w)).gone = true ∨ (s.pc (.watcher w)).watching = true := hs.fits (.watcher w)
  cases hp : s.pc (.watcher w) with
  | watchLoadLock fname => exact h ⟨fname, hp⟩
  | watchReadyLock fname => exact ends_of_wants_ready hs (hp ▸ rfl) (hp ▸ rfl)
  | idle _ | watchBegin | watchReady _ | watchPoll _ | watchStopPoll _ | watchLoad _ =>
    exact ends_of_free (congrArg Pc.wants hp) (congrArg Pc.joins hp)
  | _ => exact absurd (hp ▸ hfits) (by simp [Pc.gone, Pc.watching])

/-- Who has the state may wait for the lifecycle. -/
theorem ends_of_state (hs : Inv s) (hmem : .state ∈ (s.pc t).holds)
    (h : s.pc t = .startLifecycleLock → Ends discipline s.threads t) : Ends discipline s.threads t := by
  cases hp : s.pc t with
  | startLifecycleLock => exact h hp
  | startJoin w => exact ends_of_startJoin hs hp
  | startPendingLock | startReadyLock =>
    exact ends_of_wants_ready hs (congrArg Pc.wants hp) (congrArg Pc.joins hp)
  | load _ | reset | watchLoad _ | start | startPending | startCreate | startReady | startWait =>
    exact ends_of_free (congrArg Pc.wants hp) (congrArg Pc.joins hp)
  | _ => exact absurd (hp ▸ hmem) (by simp [Pc.holds])

/-- Who has the lifecycle may wait for a watcher. -/
theorem ends_of_lifecycle (hs : Inv s) (hmem : .lifecycle ∈ (s.pc t).holds)
    (h : ∀ w, s.pc t = .stopJoin w → Ends discipline s.threads (.watcher w)) :
    Ends discipline s.threads t := by
  cases hp : s.pc t with
  | stopJoin w => exact ends_of_joins (congrArg Pc.wants hp) (congrArg Pc.joins hp) fun _ => h w hp
  | stop => exact ends_of_free (congrArg Pc.wants hp) (congrArg Pc.joins hp)
  | start | startPendingLock | startPending | startCreate | startReadyLock | startReady | startWait
  | startJoin _ =>
    exact ends_of_state hs (by simp [hp, Pc.holds]) fun heq => by cases hp.symm.trans heq
  | _ => exact absurd (hp ▸ hmem) (by simp [Pc.holds])

theorem joins_of_wants {p : Pc} {l : Lock} (h : p.wants = some l) : p.joins = none := by
  cases p <;> first | rfl | cases h

/-- A start, a stop and a reload wait for each other. -/
theorem Stuck.deadlock (hs : Inv s) (h : Stuck s) : Deadlock discipline s.threads := by
  obtain ⟨⟨t, ht⟩, w, ⟨u, hu⟩, fname, hw⟩ := h
  have hlifecycle : s.holder .lifecycle = some u :=
    (hs.consistent .lifecycle u).mpr ((congrArg (.lifecycle ∈ Pc.holds ·) hu).mpr (by simp [Pc.holds]))
  have hstate : s.holder .state = some t :=
    (hs.consistent .state t).mpr ((congrArg (.state ∈ Pc.holds ·) ht).mpr (by simp [Pc.holds]))
  have hstart : WaitsFor discipline s.threads t u := .inl ⟨.lifecycle, congrArg Pc.wants ht, hlifecycle⟩
  have hstop : WaitsFor discipline s.threads u (.watcher w) :=
    .inr ⟨congrArg Pc.joins hu, congrArg Pc.gone hw⟩
  have hload : WaitsFor discipline s.threads (.watcher w) t := .inl ⟨.state, congrArg Pc.wants hw, hstate⟩
  exact ⟨t, .tail (.tail (.single hstart) hstop) hload⟩

/-- **The only deadlock** is that of a start, a stop and a reload. -/
theorem deadlock_iff (hs : Inv s) : Deadlock discipline s.threads ↔ Stuck s := by
  refine ⟨fun hdead => ?_, Stuck.deadlock hs⟩
  by_contra hstuck
  have hwants {l : Lock} (h : ∀ u, l ∈ (s.pc u).holds → Ends discipline s.threads u) (t : Thread)
      (ht : (s.pc t).wants = some l) : Ends discipline s.threads t :=
    ends_of_wants ht (joins_of_wants ht) fun u hu => h u ((hs.consistent l u).mp hu)
  have hends : (∀ u, .state ∈ (s.pc u).holds → Ends discipline s.threads u) ∧
      ∀ u, .lifecycle ∈ (s.pc u).holds → Ends discipline s.threads u := by
    by_cases hstarting : Starting s
    · -- a stop waits for a watcher that does not wait for the state
      have hlifecycle : ∀ u, .lifecycle ∈ (s.pc u).holds → Ends discipline s.threads u := fun u hu =>
        ends_of_lifecycle hs hu fun w hw => ends_watcher hs fun hload =>
          absurd ⟨hstarting, w, ⟨u, hw⟩, hload⟩ hstuck
      exact ⟨fun u hu => ends_of_state hs hu fun hp => hwants hlifecycle u (congrArg Pc.wants hp), hlifecycle⟩
    · -- nobody who has the state waits for the lifecycle
      have hstate : ∀ u, .state ∈ (s.pc u).holds → Ends discipline s.threads u := fun u hu =>
        ends_of_state hs hu fun hp => absurd ⟨u, hp⟩ hstarting
      refine ⟨hstate, fun u hu => ends_of_lifecycle hs hu fun w _ => ends_watcher hs ?_⟩
      rintro ⟨fname, hw⟩
      exact hwants hstate _ (congrArg Pc.wants hw)
  refine not_deadlock (fun t => ?_) hdead
  cases ht : (s.pc t).wants with
  | none =>
    cases hp : s.pc t with
    | stopJoin w => exact hends.2 t (by simp [hp, Pc.holds])
    | startJoin w => exact hends.2 t (by simp [hp, Pc.holds])
    | _ => exact ends_of_free ht (congrArg Pc.joins hp)
  | some l =>
    cases l with
    | state => exact hwants hends.1 t ht
    | lifecycle => exact hwants hends.2 t ht
    | ready => exact ends_of_wants_ready hs ht (joins_of_wants ht)

end

/-! ## Steps -/

section

variable {s s' : Stub F} {t u : Thread} {p q : Pc} {a : Action F} {answers : Answers F} {l : Lock}
  {ls : List Lock} {w : Nat}

/-- Points that the threads of a deadlock are at. -/
def Pc.critical : Pc → Bool
  | .startLifecycleLock | .stopJoin _ | .watchLoadLock _ => true
  | _ => false

/-- Each thread that has come to a point of a deadlock has been there. -/
def Stays (s s' : Stub F) : Prop := ∀ u, (s'.pc u).critical = true → s'.pc u = s.pc u

theorem Stays.not_stuck (h : Stays s s') (hs : ¬Stuck s) : ¬Stuck s' := by
  rintro ⟨⟨t, ht⟩, w, ⟨u, hu⟩, fname, hw⟩
  refine hs ⟨⟨t, ?_⟩, w, ⟨u, ?_⟩, fname, ?_⟩
  · rw [← h t (congrArg Pc.critical ht), ht]
  · rw [← h u (congrArg Pc.critical hu), hu]
  · rw [← h _ (congrArg Pc.critical hw), hw]

theorem stays_unlock {s₀ : Stub F} (hthreads : s₀.threads = s.threads) (hq : q.critical = false) :
    Stays s (s₀.unlock ls t q) := by
  intro u hu
  have hpc : (s₀.unlock ls t q).pc = Function.update s.pc t q :=
    congrArg (fun threads : Threads Thread Lock Pc => Function.update threads.pc t q) hthreads
  rw [hpc] at hu ⊢
  by_cases h : u = t
  · subst h
    rw [Function.update_self, hq] at hu
    cases hu
  · exact Function.update_of_ne h _ _

theorem stays_lock (h : s.lock l t q = some s') (hq : q.critical = false) : Stays s s' := by
  obtain ⟨-, rfl⟩ := Stub.lock_eq_some h
  intro u hu
  by_cases h : u = t
  · subst h
    cases hq.symm.trans (Function.update_self u q s.pc ▸ hu : q.critical = true)
  · exact Function.update_of_ne h _ _

theorem Stays.trans {s'' : Stub F} (h : Stays s s') (h' : Stays s' s'') : Stays s s'' := fun u hu =>
  (h' u hu).trans (h u (h' u hu ▸ hu))

theorem Stays.rfl : Stays s s := fun _ _ => Eq.refl _

theorem stays_watchStartLocked {eventfd : Bool} : Stays s (s.watchStartLocked t eventfd) := by
  rw [Stub.watchStartLocked]
  split
  case isTrue => exact stays_unlock rfl rfl
  case isFalse =>
    dsimp only
    split
    case isTrue => exact stays_unlock rfl rfl
    case isFalse => split <;> exact stays_unlock rfl rfl

theorem stays_watchCreate {h : Option Nat} (hcreate : s.watchCreate t h = some s') : Stays s s' := by
  cases h with
  | none =>
    obtain rfl := Option.some.inj hcreate
    exact stays_unlock rfl rfl
  | some w =>
    obtain ⟨-, hcreate⟩ := Option.ite_none_right_eq_some.mp hcreate
    obtain rfl := Option.some.inj hcreate
    exact (stays_unlock rfl rfl : Stays s _).trans (stays_unlock rfl rfl)

theorem stays_watchStarted : Stays s (s.watchStarted t) := by
  rw [Stub.watchStarted]
  split
  · exact stays_unlock rfl rfl
  · exact stays_unlock rfl rfl
  · split <;> exact stays_unlock rfl rfl

/-- A turn of the watcher. -/
theorem stays_watchPoll {fname : Text} {answer : PollAnswer} : Stays s (s.watchPoll t fname answer) := by
  cases answer with
  | interrupted => exact Stays.rfl
  | failed => exact stays_unlock rfl rfl
  | ready names =>
    rw [Stub.watchPoll]
    split
    case isTrue => exact stays_unlock rfl rfl
    case isFalse =>
      split
      case isTrue => exact stays_unlock rfl rfl
      case isFalse => exact Stays.rfl

/-! ## The steps into a deadlock -/

theorem exists_pc_iff {x : Pc} (hpc : s'.pc = Function.update s.pc t q) (hne : s.pc t ≠ x) :
    (∃ u, s'.pc u = x) ↔ q = x ∨ ∃ u, s.pc u = x := by
  rw [hpc]
  constructor
  · rintro ⟨u, hu⟩
    by_cases h : u = t
    · subst h
      exact .inl (Function.update_self u q s.pc ▸ hu)
    · exact .inr ⟨u, Function.update_of_ne h q s.pc ▸ hu⟩
  · rintro (rfl | ⟨u, hu⟩)
    · exact ⟨t, Function.update_self t q s.pc⟩
    · exact ⟨u, (Function.update_of_ne (fun h : u = t => hne (h ▸ hu)) q s.pc).trans hu⟩

theorem reloading_iff (hpc : s'.pc = Function.update s.pc t q) (hne : (s.pc t).critical = false) :
    Reloading s' w ↔ (t = .watcher w ∧ ∃ fname, q = .watchLoadLock fname) ∨ Reloading s w := by
  by_cases h : t = .watcher w
  · subst h
    rw [Reloading, hpc, Function.update_self, or_iff_left, and_iff_right rfl]
    rintro ⟨fname, hw⟩
    cases (congrArg Pc.critical hw).symm.trans hne
  · rw [Reloading, hpc, Function.update_of_ne (Ne.symm h), or_iff_right fun h' => h h'.1]
    rfl

/-- What a move to a point of a deadlock does to it. -/
theorem stuck_iff (hpc : s'.pc = Function.update s.pc t q) (hne : (s.pc t).critical = false) :
    Stuck s' ↔ (q = .startLifecycleLock ∨ Starting s) ∧ ∃ w, (q = .stopJoin w ∨ Stopping s w) ∧
      ((t = .watcher w ∧ ∃ fname, q = .watchLoadLock fname) ∨ Reloading s w) := by
  have hpoint {x : Pc} (hx : x.critical = true) : s.pc t ≠ x := fun h => by
    rw [h, hx] at hne
    cases hne
  refine and_congr (exists_pc_iff hpc (hpoint rfl)) (exists_congr fun w => and_congr ?_ ?_)
  · exact exists_pc_iff hpc (hpoint rfl)
  · exact reloading_iff hpc hne

theorem stuck_start_iff (hp : s.pc t = .startStateLock)
    (h : s.lock .state t .startLifecycleLock = some s') : Stuck s' ↔ ∃ w, Stopping s w ∧ Reloading s w := by
  obtain ⟨-, rfl⟩ := Stub.lock_eq_some h
  rw [stuck_iff rfl (congrArg Pc.critical hp)]
  simp

theorem stuck_stop_iff (hs : ¬Stuck s) (hp : s.pc t = .stop) :
    Stuck (s.signalStop.goto t (.stopJoin s.watchThread)) ↔ Starting s ∧ Reloading s s.watchThread := by
  rw [stuck_iff rfl (congrArg Pc.critical hp)]
  simp only [reduceCtorEq, false_or, Pc.stopJoin.injEq, exists_false, and_false]
  refine and_congr_right fun hstarting => ⟨?_, fun h => ⟨_, .inl rfl, h⟩⟩
  rintro ⟨w, rfl | hstopping, hreloading⟩
  · exact hreloading
  · exact absurd ⟨hstarting, w, hstopping, hreloading⟩ hs

theorem stuck_reload_iff {fname : Text} (hs : ¬Stuck s) (hp : s.pc t = .watchStopPoll fname) :
    Stuck (s.goto t (.watchLoadLock fname)) ↔ Starting s ∧ ∃ w, t = .watcher w ∧ Stopping s w := by
  rw [stuck_iff rfl (congrArg Pc.critical hp)]
  simp only [reduceCtorEq, false_or, Pc.watchLoadLock.injEq, exists_eq', and_true]
  refine and_congr_right fun hstarting => ⟨?_, fun ⟨w, ht, hstopping⟩ => ⟨w, hstopping, .inl ht⟩⟩
  rintro ⟨w, hstopping, ht | hreloading⟩
  · exact ⟨w, ht, hstopping⟩
  · exact absurd ⟨hstarting, w, hstopping, hreloading⟩ hs

/-- **A step leads into a deadlock** exactly if it is one of three. -/
theorem go_not_stuck_iff (hs : ¬Stuck s) (h : s.go t answers = some s') : ¬Stuck s' ↔
    (s.pc t = .startStateLock → s.holder .state = none → ¬∃ w, Stopping s w ∧ Reloading s w) ∧
      (s.pc t = .stop → s.started = true → ¬(Starting s ∧ Reloading s s.watchThread)) ∧
      ∀ fname, s.pc t = .watchStopPoll fname → ¬(answers.stopPoll ∧ s.stopEfd = some true) →
        ¬(Starting s ∧ ∃ w, t = .watcher w ∧ Stopping s w) := by
  rw [Stub.go] at h
  cases hp : s.pc t with
  | idle rc =>
    rw [hp] at h
    cases h
  | startStateLock =>
    rw [hp] at h
    rw [stuck_start_iff hp h]
    simp [(Stub.lock_eq_some h).1]
  | stop =>
    rw [hp] at h
    dsimp only at h
    by_cases hstarted : s.started = true
    · rw [if_pos hstarted] at h
      obtain rfl := Option.some.inj h
      rw [stuck_stop_iff hs hp]
      simp [hstarted]
    · rw [if_neg hstarted] at h
      obtain rfl := Option.some.inj h
      exact iff_of_true ((stays_unlock rfl rfl).not_stuck hs) (by simp [hstarted])
  | watchStopPoll fname =>
    rw [hp] at h
    dsimp only at h
    by_cases hsignal : answers.stopPoll ∧ s.stopEfd = some true
    · rw [if_pos hsignal] at h
      obtain rfl := Option.some.inj h
      exact iff_of_true ((stays_unlock rfl rfl).not_stuck hs) (by simp [hsignal])
    · rw [if_neg hsignal] at h
      obtain rfl := Option.some.inj h
      rw [stuck_reload_iff hs hp]
      simp [hsignal]
  | loadLock _ | resetLock | stopLock | startLifecycleLock | startPendingLock | startReadyLock
  | watchReadyLock _ | watchLoadLock _ =>
    rw [hp] at h
    exact iff_of_true ((stays_lock h rfl).not_stuck hs) (by simp)
  | load _ | reset | startPending | startWait | watchBegin | watchLoad _ =>
    rw [hp] at h
    obtain rfl := Option.some.inj h
    exact iff_of_true ((stays_unlock rfl rfl).not_stuck hs) (by simp)
  | stopJoin _ | startJoin _ =>
    rw [hp] at h
    obtain ⟨-, h⟩ := Option.ite_none_right_eq_some.mp h
    obtain rfl := Option.some.inj h
    exact iff_of_true ((stays_unlock rfl rfl).not_stuck hs) (by simp)
  | start =>
    rw [hp] at h
    obtain rfl := Option.some.inj h
    exact iff_of_true (stays_watchStartLocked.not_stuck hs) (by simp)
  | startCreate =>
    rw [hp] at h
    exact iff_of_true ((stays_watchCreate h).not_stuck hs) (by simp)
  | startReady =>
    rw [hp] at h
    obtain rfl := Option.some.inj h
    exact iff_of_true (stays_watchStarted.not_stuck hs) (by simp)
  | watchPoll _ =>
    rw [hp] at h
    obtain rfl := Option.some.inj h
    exact iff_of_true (stays_watchPoll.not_stuck hs) (by simp)
  | watchReady fname =>
    rw [hp] at h
    cases fname with
    | none =>
      obtain rfl := Option.some.inj h
      exact iff_of_true ((stays_unlock rfl rfl).not_stuck hs) (by simp)
    | some fname =>
      obtain rfl := Option.some.inj h
      exact iff_of_true ((stays_unlock rfl rfl).not_stuck hs) (by simp)

/-- A load that fails changes nothing, in a call or in the watcher. -/
theorem go_store {path : Option Text} (h : s.go t answers = some s') (hload : loadOf s t = some path)
    (hfailed : (stateLoadLocked answers.toLoadAnswers path s.store).1 = -1) : s'.store = s.store := by
  have hsame : (stateLoadLocked answers.toLoadAnswers path s.store).2 = s.store :=
    stateLoadLocked_failed hfailed
  rw [Stub.go] at h
  rw [loadOf] at hload
  cases hp : s.pc t with
  | load path' =>
    rw [hp] at h hload
    obtain rfl := Option.some.inj hload
    obtain rfl := Option.some.inj h
    exact hsame
  | watchLoad fname =>
    rw [hp] at h hload
    obtain rfl := Option.some.inj hload
    obtain rfl := Option.some.inj h
    exact hsame
  | _ =>
    rw [hp] at hload
    cases hload

/-- A start that finds a watcher writes its path. -/
theorem go_watchPath (h : s.go t answers = some s') (hp : s.pc t = .start)
    (hpath : s.store.configPath ≠ []) (hstarted : s.started = true) :
    s'.watchPath = copyPath s.store.configPath := by
  rw [Stub.go, hp] at h
  obtain rfl := Option.some.inj h
  rw [Stub.watchStartLocked, if_neg hpath]
  exact congrArg Stub.watchPath (if_pos hstarted)

/-- **A step is right**, and leads into no deadlock, exactly under the condition. -/
theorem step_right_iff (hs : ¬Stuck s) (h : step s a = some s') :
    ¬Stuck s' ∧ StepRight s a s' ↔ StepOk s a := by
  cases a with
  | call n c =>
    obtain ⟨-, h⟩ := Option.ite_none_right_eq_some.mp h
    obtain rfl := Option.some.inj h
    have hentry : c.entry.critical = false := by cases c <;> rfl
    refine iff_of_true ⟨(stays_unlock rfl hentry).not_stuck hs, ?_, ?_⟩ trivial
    · exact fun _ _ heq => by cases heq
    · exact fun _ _ _ heq => by cases heq
  | go t answers =>
    have hgo : s.go t answers = some s' := h
    rw [go_not_stuck_iff hs hgo]
    constructor
    · rintro ⟨⟨hstart, hstop, hreload⟩, hright⟩
      refine ⟨hstart, hstop, hreload, fun hp hpath hstarted => ?_⟩
      rw [← go_watchPath hgo hp hpath hstarted]
      exact hright.watchPath t answers rfl hp hpath hstarted
    · rintro ⟨hstart, hstop, hreload, hpath⟩
      refine ⟨⟨hstart, hstop, hreload⟩, ?_, ?_⟩
      · rintro t answers heq hp hne hstarted
        obtain ⟨rfl, rfl⟩ := Action.go.inj heq
        rw [go_watchPath hgo hp hne hstarted, hpath hp hne hstarted]
      · rintro t answers path heq hload hfailed
        obtain ⟨rfl, rfl⟩ := Action.go.inj heq
        exact go_store hgo hload hfailed

end

/-! ## Runs -/

/-- Where no step is possible nothing is asked. -/
theorem stepOk_of_none {s : Stub F} {a : Action F} (h : step s a = none) : StepOk s a := by
  cases a with
  | call n c => trivial
  | go t answers =>
    have hgo : s.go t answers = none := h
    rw [Stub.go] at hgo
    refine ⟨fun hp hfree => ?_, fun hp hstarted => ?_, fun fname hp hsignal => ?_, fun hp => ?_⟩
    · rw [hp] at hgo
      dsimp only at hgo
      rw [Stub.lock, Threads.lock, if_pos (show s.threads.holder .state = none from hfree)] at hgo
      cases hgo
    · rw [hp] at hgo
      dsimp only at hgo
      rw [if_pos hstarted] at hgo
      cases hgo
    · rw [hp] at hgo
      dsimp only at hgo
      rw [if_neg hsignal] at hgo
      cases hgo
    · rw [hp] at hgo
      cases hgo

theorem not_stuck_init : ¬Stuck (Stub.init F) := fun h => by
  obtain ⟨⟨t, ht⟩, -⟩ := h
  cases ht

theorem inv_of_run {as : List (Action F)} {s : Stub F} (h : Runs.follow step (Stub.init F) as = some s) :
    Inv s :=
  Runs.follow_invariant_of_forall (fun _ _ _ => Inv.step) Inv.init h

/-- **A run is right** exactly if each of its steps meets the condition. -/
theorem stub_runs_iff (as : List (Action F)) : RunRight as ↔ Runs.Meets step StepOk (Stub.init F) as := by
  have hinit : Inv (Stub.init F) ∧ ¬Stuck (Stub.init F) := ⟨Inv.init, not_stuck_init⟩
  have hkeep : ∀ (s : Stub F) (a : Action F) (s' : Stub F), Inv s ∧ ¬Stuck s → step s a = some s' →
      ((Inv s' ∧ ¬Stuck s') ∧ StepRight s a s' ↔ StepOk s a) := fun s a s' hs hstep => by
    rw [and_assoc, step_right_iff hs.2 hstep, and_iff_right (hs.1.step hstep)]
  refine Iff.trans ?_ (Runs.forall_step_iff (fun _ _ => stepOk_of_none) hkeep hinit as)
  constructor
  · intro hright bs a hbs s s' hrun hstep
    have hrun' : Runs.follow step (Stub.init F) (bs ++ [a]) = some s' := by
      rw [Runs.follow_concat, hrun, Option.bind_some, hstep]
    have hs' := inv_of_run hrun'
    refine ⟨⟨hs', fun hstuck => ?_⟩, hright.steps bs a hbs s s' hrun hstep⟩
    exact hright.noDeadlock _ hbs s' hrun' (hstuck.deadlock hs')
  · intro hall
    refine ⟨fun bs hbs s hrun hdead => ?_, fun bs a hbs s s' hrun hstep =>
      (hall bs a hbs s s' hrun hstep).2⟩
    have hstuck : Stuck s := (deadlock_iff (inv_of_run hrun)).mp hdead
    rcases List.eq_nil_or_concat bs with rfl | ⟨bs, a, rfl⟩
    · obtain rfl := Option.some.inj hrun
      exact hinit.2 hstuck
    · rw [List.concat_eq_append] at hrun hbs
      rw [Runs.follow_concat] at hrun
      obtain ⟨t, ht, hstep⟩ := Option.bind_eq_some_iff.mp hrun
      exact (hall bs a hbs t s ht hstep).1.2 hstuck

/-- A file `/a` whose events are reported, and no failures. -/
def fileAnswers : Answers Unit where
  getenv := none
  loader _ := some (some {})
  eventfd := true
  pthreadCreate := some 0
  watchAdded := true
  poll := .ready [['a']]
  stopPoll := true

/-- One thread starts a watcher, and then again while another stops it and it loads the file. -/
def deadlockRun : List (Action Unit) :=
  let go t := Action.go t fileAnswers
  [.call 0 (.load (some ['/', 'a'])), go (.caller 0), go (.caller 0), .call 0 .watchStart] ++
    List.replicate 6 (go (.caller 0)) ++ List.replicate 3 (go (.watcher 0)) ++
    List.replicate 2 (go (.caller 0)) ++ List.replicate 2 (go (.watcher 0)) ++
    [.call 1 .watchStop, go (.caller 1), go (.caller 1), .call 0 .watchStart, go (.caller 0)]

/-- This run ends in a deadlock. -/
theorem runs_not_right : ¬∀ as : List (Action Unit), RunRight as := by
  intro h
  have hpcs : (Runs.follow step (Stub.init Unit) deadlockRun).map
      (fun s => (s.pc (.caller 0), s.pc (.caller 1), s.pc (.watcher 0))) =
        some (.startLifecycleLock, .stopJoin 0, .watchLoadLock ['a']) := rfl
  obtain ⟨s, hrun, hs⟩ := Option.map_eq_some_iff.mp hpcs
  obtain ⟨hstart, hrest⟩ := Prod.mk.inj hs
  obtain ⟨hstop, hreload⟩ := Prod.mk.inj hrest
  have hstuck : Stuck s := ⟨⟨_, hstart⟩, 0, ⟨_, hstop⟩, _, hreload⟩
  exact (h deadlockRun).noDeadlock _ (List.prefix_refl _) s hrun (hstuck.deadlock (inv_of_run hrun))

end SysmanStub

end XpuManager
