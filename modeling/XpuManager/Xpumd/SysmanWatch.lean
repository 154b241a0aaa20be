import XpuManager.Lib.Mutexes
import XpuManager.Lib.Runs
import XpuManager.Xpumd.SysmanState

/-! # The watcher of the Level Zero stub

Threads load and reset the state of the stub, and start and stop another thread that loads it again when
its file changes (`xpumd/level-zero-go/level-zero-stub/sysman_state.c`). What a thread does between two
calls that may block is one step. -/

namespace XpuManager

namespace SysmanStub

open Mutexes

/-! ## Threads -/

inductive Lock where
  | state
  | lifecycle
  | ready
  deriving DecidableEq

/-- The threads that call the stub, and those that it creates. -/
inductive Thread where
  | caller (n : Nat)
  | watcher (w : Nat)
  deriving DecidableEq

inductive WatchReady where
  | pending
  | ready
  | error
  deriving DecidableEq

/-- Points of the program. At those with `Lock` a thread is about to take a mutex, and at those with
`Join` about to wait for a watcher. `startWait` is inside `pthread_cond_wait`. -/
inductive Pc where
  /-- Outside all calls, behind one with this result. -/
  | idle (rc : Int)
  | loadLock (path : Option Text)
  | load (path : Option Text)
  | resetLock
  | reset
  | stopLock
  | stop
  | stopJoin (w : Nat)
  | startStateLock
  | startLifecycleLock
  | start
  | startPendingLock
  | startPending
  | startCreate
  | startReadyLock
  | startReady
  | startWait
  | startJoin (w : Nat)
  | watchBegin
  /-- With the name that is watched, or none if the watch is not registered. -/
  | watchReadyLock (fname : Option Text)
  | watchReady (fname : Option Text)
  | watchPoll (fname : Text)
  | watchStopPoll (fname : Text)
  | watchLoadLock (fname : Text)
  | watchLoad (fname : Text)
  deriving DecidableEq

namespace Pc

/-- The mutexes that a thread holds. -/
def holds : Pc → List Lock
  | load _ | reset | startLifecycleLock | watchLoad _ => [.state]
  | stop | stopJoin _ => [.lifecycle]
  | start | startPendingLock | startCreate | startReadyLock | startWait | startJoin _ =>
    [.state, .lifecycle]
  | startPending | startReady => [.state, .lifecycle, .ready]
  | watchReady _ => [.ready]
  | _ => []

/-- The mutex that a thread waits for. -/
def wants : Pc → Option Lock
  | loadLock _ | resetLock | startStateLock | watchLoadLock _ => some .state
  | stopLock | startLifecycleLock => some .lifecycle
  | startPendingLock | startReadyLock | watchReadyLock _ => some .ready
  | _ => none

/-- The thread that a thread waits for. -/
def joins : Pc → Option Thread
  | stopJoin w | startJoin w => some (.watcher w)
  | _ => none

def gone : Pc → Bool
  | idle _ => true
  | _ => false

/-- Inside `watch_thread_fn`. -/
def watching : Pc → Bool
  | watchBegin | watchReadyLock _ | watchReady _ | watchPoll _ | watchStopPoll _ | watchLoadLock _
  | watchLoad _ => true
  | _ => false

end Pc

theorem Pc.nodup_holds (p : Pc) : p.holds.Nodup := by cases p <;> simp [holds]

def discipline : Discipline Thread Lock Pc := ⟨Pc.holds, Pc.nodup_holds, Pc.wants, Pc.joins, Pc.gone⟩

/-- The threads, and what they share. -/
structure Stub (F : Type) where
  threads : Threads Thread Lock Pc
  store : Store F
  /-- `g_watch_thread_started`. -/
  started : Bool
  watchThread : Nat
  /-- `g_stop_efd`, if it is open, and whether it has been written. -/
  stopEfd : Option Bool
  readyVal : WatchReady
  watchPath : Text

/-- Before any call. -/
def Stub.init (F : Type) : Stub F where
  threads := ⟨fun _ => .idle 0, fun _ => none⟩
  store := {}
  started := false
  watchThread := 0
  stopEfd := none
  readyVal := .pending
  watchPath := []

inductive PollAnswer where
  | interrupted
  | failed
  /-- The names of the files with events. -/
  | ready (names : List Text)

/-- What the environment answers in one step; each step asks for a part of it. -/
structure Answers (F : Type) extends LoadAnswers F where
  eventfd : Bool
  /-- The handle of a new thread. -/
  pthreadCreate : Option Nat
  /-- `strdup`, `inotify_init1` and `inotify_add_watch` succeed. -/
  watchAdded : Bool
  poll : PollAnswer
  /-- The second `poll` for the stop signal succeeds. -/
  stopPoll : Bool

/-- The calls of the stub. -/
inductive Call where
  | load (path : Option Text)
  | reset
  | watchStart
  | watchStop

/-- Where a call begins. -/
def Call.entry : Call → Pc
  | load path => .loadLock path
  | reset => .resetLock
  | watchStart => .startStateLock
  | watchStop => .stopLock

/-- The last part of a path. -/
def basename (path : Text) : Text :=
  let name := ((path.reverse.dropWhile (· = '/')).takeWhile (· ≠ '/')).reverse
  if path = [] then ['.'] else if name = [] then ['/'] else name

/-! ## Steps -/

namespace Stub

variable {F : Type} (s : Stub F)

def pc (t : Thread) : Pc := s.threads.pc t

def holder (l : Lock) : Option Thread := s.threads.holder l

/-- A thread takes a mutex that is free. -/
def lock (l : Lock) (t : Thread) (p : Pc) : Option (Stub F) :=
  (s.threads.lock l t p).map fun threads => { s with threads }

/-- A thread gives mutexes back. -/
def unlock (ls : List Lock) (t : Thread) (p : Pc) : Stub F :=
  { s with threads := s.threads.unlock ls t p }

def goto (t : Thread) (p : Pc) : Stub F := s.unlock [] t p

/-- `sysman_watch_start` returns. -/
def startReturn (t : Thread) (rc : Int) : Stub F := s.unlock [.lifecycle, .state] t (.idle rc)

/-- `sysman_watch_stop_locked`, up to `pthread_join`. -/
def signalStop : Stub F := { s with stopEfd := s.stopEfd.map fun _ => true, started := false }

/-- `sysman_watch_start_locked`, up to the first lock. -/
def watchStartLocked (t : Thread) (eventfd : Bool) : Stub F :=
  if s.store.configPath = [] then s.startReturn t (-1)
  else
    let s := { s with watchPath := copyPath s.store.configPath }
    if s.started then s.startReturn t (-1)
    else if eventfd then { s with stopEfd := some false }.goto t .startPendingLock
    else { s with stopEfd := none }.startReturn t (-1)

/-- `pthread_create`: a new thread takes a handle that no thread has that is running. -/
def watchCreate (t : Thread) : Option Nat → Option (Stub F)
  | none => some ({ s with stopEfd := none }.startReturn t (-1))
  | some w =>
    if (s.pc (.watcher w)).gone then
      some (({ s with watchThread := w, started := true }.goto (.watcher w) .watchBegin).goto t
        .startReadyLock)
    else none

/-- The watcher is known to be ready, or not. -/
def watchStarted (t : Thread) : Stub F :=
  match s.readyVal with
  | .pending => s.unlock [.ready] t .startWait
  | .ready => s.unlock [.ready, .lifecycle, .state] t (.idle 0)
  | .error =>
    if s.started then s.signalStop.unlock [.ready] t (.startJoin s.watchThread)
    else s.unlock [.ready, .lifecycle, .state] t (.idle (-1))

def load (answers : LoadAnswers F) (path : Option Text) : Stub F :=
  { s with store := (stateLoadLocked answers path s.store).2 }

/-- A round of the loop of the watcher, up to the second `poll`. -/
def watchPoll (t : Thread) (fname : Text) : PollAnswer → Stub F
  | .interrupted => s
  | .failed => s.goto t (.idle 0)
  | .ready names =>
    if s.stopEfd = some true then s.goto t (.idle 0)
    else if fname ∈ names then s.goto t (.watchStopPoll fname)
    else s

/-- A thread goes on from where it is. -/
def go (t : Thread) (answers : Answers F) : Option (Stub F) :=
  match s.pc t with
  | .idle _ => none
  | .loadLock path => s.lock .state t (.load path)
  | .load path =>
    some ((s.load answers.toLoadAnswers path).unlock [.state] t
      (.idle (stateLoadLocked answers.toLoadAnswers path s.store).1))
  | .resetLock => s.lock .state t .reset
  | .reset => some ({ s with store := {} }.unlock [.state] t (.idle 0))
  | .stopLock => s.lock .lifecycle t .stop
  | .stop =>
    if s.started then some (s.signalStop.goto t (.stopJoin s.watchThread))
    else some (s.unlock [.lifecycle] t (.idle 0))
  | .stopJoin w =>
    if (s.pc (.watcher w)).gone then some ({ s with stopEfd := none }.unlock [.lifecycle] t (.idle 0))
    else none
  | .startStateLock => s.lock .state t .startLifecycleLock
  | .startLifecycleLock => s.lock .lifecycle t .start
  | .start => some (s.watchStartLocked t answers.eventfd)
  | .startPendingLock => s.lock .ready t .startPending
  | .startPending => some ({ s with readyVal := .pending }.unlock [.ready] t .startCreate)
  | .startCreate => s.watchCreate t answers.pthreadCreate
  | .startReadyLock => s.lock .ready t .startReady
  | .startReady => some (s.watchStarted t)
  | .startWait => some (s.goto t .startReadyLock)
  | .startJoin w =>
    if (s.pc (.watcher w)).gone then some ({ s with stopEfd := none }.startReturn t (-1)) else none
  | .watchBegin =>
    some (s.goto t (.watchReadyLock (if answers.watchAdded then some (basename s.watchPath) else none)))
  | .watchReadyLock fname => s.lock .ready t (.watchReady fname)
  | .watchReady none => some ({ s with readyVal := .error }.unlock [.ready] t (.idle 0))
  | .watchReady (some fname) => some ({ s with readyVal := .ready }.unlock [.ready] t (.watchPoll fname))
  | .watchPoll fname => some (s.watchPoll t fname answers.poll)
  | .watchStopPoll fname =>
    if answers.stopPoll ∧ s.stopEfd = some true then some (s.goto t (.idle 0))
    else some (s.goto t (.watchLoadLock fname))
  | .watchLoadLock fname => s.lock .state t (.watchLoad fname)
  | .watchLoad fname =>
    some ((s.load answers.toLoadAnswers (some s.watchPath)).unlock [.state] t (.watchPoll fname))

end Stub

/-- A call that begins, or a thread that goes on with an answer. -/
inductive Action (F : Type) where
  | call (n : Nat) (c : Call)
  | go (t : Thread) (answers : Answers F)

variable {F : Type}

/-- A step: a call that begins, or a thread that goes on. -/
def step (s : Stub F) : Action F → Option (Stub F)
  | .call n c => if (s.pc (.caller n)).gone then some (s.goto (.caller n) c.entry) else none
  | .go t answers => s.go t answers

/-! ## What a move is -/

section

variable {F : Type} {s s' : Stub F} {t u : Thread} {p : Pc} {l : Lock} {ls : List Lock} {w : Nat}

theorem Stub.lock_eq_some (h : s.lock l t p = some s') : s.holder l = none ∧
    s' = { s with threads := ⟨Function.update s.pc t p, Function.update s.holder l (some t)⟩ } := by
  obtain ⟨threads, hthreads, rfl⟩ := Option.map_eq_some_iff.mp h
  obtain ⟨hnone, rfl⟩ := Mutexes.lock_eq_some hthreads
  exact ⟨hnone, rfl⟩

theorem Stub.pc_unlock (s : Stub F) (ls : List Lock) (t : Thread) (p : Pc) :
    (s.unlock ls t p).pc = Function.update s.pc t p := rfl

/-! ## The invariant -/

/-- The thread that `g_watch_thread` names does not run. -/
def NoWatcher (s : Stub F) : Prop := (s.pc (.watcher s.watchThread)).gone = true

/-- Between calls for the lifecycle. -/
def Settled (s : Stub F) : Prop := s.started = false → NoWatcher s

/-- What holds while a thread with the lifecycle is at a point. -/
def PhaseAt (s : Stub F) : Pc → Prop
  | .stop | .start => Settled s
  | .stopJoin w => s.started = false ∧ w = s.watchThread
  | .startPendingLock | .startPending => s.started = false ∧ NoWatcher s
  | .startCreate => s.started = false ∧ NoWatcher s ∧ s.readyVal = .pending
  | .startReadyLock | .startReady | .startWait => s.started = true ∧ (s.readyVal = .error → NoWatcher s)
  | .startJoin w => s.started = false ∧ w = s.watchThread ∧ NoWatcher s
  | _ => True

/-- A thread is where its kind can be. -/
def Fits (t : Thread) (p : Pc) : Prop :=
  match t with
  | .caller _ => p.watching = false
  | .watcher _ => p.gone = true ∨ p.watching = true

/-- The invariant of all runs: who holds which mutex, and when there is a watcher. -/
structure Inv (s : Stub F) : Prop where
  consistent : Accounted discipline s.threads
  fits : ∀ t, Fits t (s.pc t)
  others : ∀ w, w ≠ s.watchThread → (s.pc (.watcher w)).gone = true
  free : s.holder .lifecycle = none → Settled s
  phase : ∀ t, PhaseAt s (s.pc t)

theorem phaseAt_of_not_mem (h : .lifecycle ∉ p.holds) : PhaseAt s p := by
  cases p <;> first | trivial | exact absurd (by simp [Pc.holds]) h

/-- Threads that the fields of the lifecycle do not change for, and no watcher begins. -/
structure Aside (s s' : Stub F) : Prop where
  started : s'.started = s.started
  watchThread : s'.watchThread = s.watchThread
  readyVal : s'.readyVal = s.readyVal
  noWatcher : NoWatcher s → NoWatcher s'

theorem Aside.settled (h : Aside s s') (hs : Settled s) : Settled s' :=
  fun hstarted => h.noWatcher (hs (h.started ▸ hstarted))

theorem Aside.phaseAt (h : Aside s s') (hs : PhaseAt s p) : PhaseAt s' p := by
  cases p with
  | stop => exact h.settled hs
  | start => exact h.settled hs
  | stopJoin w => exact ⟨h.started.trans hs.1, hs.2.trans h.watchThread.symm⟩
  | startPendingLock => exact ⟨h.started.trans hs.1, h.noWatcher hs.2⟩
  | startPending => exact ⟨h.started.trans hs.1, h.noWatcher hs.2⟩
  | startCreate => exact ⟨h.started.trans hs.1, h.noWatcher hs.2.1, h.readyVal.trans hs.2.2⟩
  | startReadyLock =>
    exact ⟨h.started.trans hs.1, fun herror => h.noWatcher (hs.2 (h.readyVal.symm.trans herror))⟩
  | startReady =>
    exact ⟨h.started.trans hs.1, fun herror => h.noWatcher (hs.2 (h.readyVal.symm.trans herror))⟩
  | startWait =>
    exact ⟨h.started.trans hs.1, fun herror => h.noWatcher (hs.2 (h.readyVal.symm.trans herror))⟩
  | startJoin w =>
    exact ⟨h.started.trans hs.1, hs.2.1.trans h.watchThread.symm, h.noWatcher hs.2.2⟩
  | _ => trivial

/-- Where a thread may go from a point, as a caller or in `watch_thread_fn`. -/
def Pc.leads (p q : Pc) : Bool :=
  !p.gone && if p.watching then q.gone || q.watching else !q.watching

theorem leads_iff {q : Pc} : p.leads q = true ↔
    p.gone = false ∧ (if p.watching then q.gone || q.watching else !q.watching) = true := by
  rw [Pc.leads, Bool.and_eq_true, Bool.not_eq_true']

theorem Fits.of_leads {q : Pc} (h : Fits t p) (hleads : p.leads q = true) : Fits t q := by
  obtain ⟨hgone, hleads⟩ := leads_iff.mp hleads
  cases t with
  | caller n =>
    have hp : p.watching = false := h
    rw [hp, if_neg Bool.false_ne_true, Bool.not_eq_true'] at hleads
    exact hleads
  | watcher w =>
    have hp : p.watching = true := h.resolve_left (Bool.eq_false_iff.mp hgone)
    rw [if_pos hp, Bool.or_eq_true] at hleads
    exact hleads

/-- One thread moves from a point to another, and may change the rest of the stub. -/
structure Moves (s s' : Stub F) (t : Thread) (p q : Pc) : Prop where
  from_ : s.pc t = p
  pc : s'.pc = Function.update s.pc t q
  consistent : Accounted discipline s'.threads
  runs : p.gone = false ∨ ∃ n, t = .caller n
  fits : Fits t q
  watchThread : s'.watchThread = s.watchThread

theorem Moves.gone {q : Pc} (h : Moves s s' t p q) (hgone : (s.pc (.watcher w)).gone = true) :
    (s'.pc (.watcher w)).gone = true := by
  rw [h.pc]
  by_cases hw : .watcher w = t
  · subst hw
    rw [h.from_] at hgone
    rcases h.runs with hruns | ⟨n, hn⟩
    · exact absurd hgone (Bool.eq_false_iff.mp hruns)
    · exact nomatch hn
  · rw [Function.update_of_ne hw, hgone]

theorem Moves.noWatcher {q : Pc} (h : Moves s s' t p q) (hnone : NoWatcher s) : NoWatcher s' := by
  rw [NoWatcher, h.watchThread]
  exact h.gone hnone

theorem Moves.pc_of_ne {q : Pc} (h : Moves s s' t p q) (hu : u ≠ t) : s'.pc u = s.pc u := by
  rw [h.pc, Function.update_of_ne hu]

theorem Moves.pc_self {q : Pc} (h : Moves s s' t p q) : s'.pc t = q := by
  rw [h.pc, Function.update_self]

theorem Inv.moves {q : Pc} (hs : Inv s) (h : Moves s s' t p q)
    (hfree : s'.holder .lifecycle = none → Settled s') (hphase : ∀ u, PhaseAt s' (s'.pc u)) : Inv s' where
  consistent := h.consistent
  fits u := by
    by_cases hu : u = t
    · subst hu
      rw [h.pc_self]
      exact h.fits
    · rw [h.pc_of_ne hu]
      exact hs.fits u
  others w hw := h.gone (hs.others w (h.watchThread ▸ hw))
  free := hfree
  phase := hphase

/-- A thread without the lifecycle moves. -/
theorem Inv.aside {q : Pc} (hs : Inv s) (h : Moves s s' t p q) (hp : .lifecycle ∉ p.holds)
    (hq : .lifecycle ∉ q.holds) (hstarted : s'.started = s.started) (hready : s'.readyVal = s.readyVal) :
    Inv s' := by
  have haside : Aside s s' := ⟨hstarted, h.watchThread, hready, h.noWatcher⟩
  refine hs.moves h (fun hnone => haside.settled (hs.free ?_)) fun u => ?_
  · refine Option.eq_none_iff_forall_ne_some.mpr fun u hu => ?_
    have hmem : .lifecycle ∈ (s.pc u).holds := (hs.consistent .lifecycle u).mp hu
    have hne : u ≠ t := fun heq => hp (h.from_ ▸ heq ▸ hmem)
    rw [← h.pc_of_ne hne] at hmem
    exact nomatch hnone.symm.trans ((h.consistent .lifecycle u).mpr hmem)
  · by_cases hu : u = t
    · subst hu
      rw [h.pc_self]
      exact phaseAt_of_not_mem hq
    · rw [h.pc_of_ne hu]
      exact haside.phaseAt (hs.phase u)

/-- A thread moves that nobody else has the lifecycle beside. -/
theorem Inv.alone {q : Pc} (hs : Inv s) (h : Moves s s' t p q)
    (halone : ∀ u, u ≠ t → .lifecycle ∉ (s.pc u).holds) (hphase : PhaseAt s' q)
    (hsettled : .lifecycle ∉ q.holds → Settled s') : Inv s' := by
  refine hs.moves h (fun hnone => hsettled fun hmem => ?_) fun u => ?_
  · rw [← h.pc_self] at hmem
    exact nomatch hnone.symm.trans ((h.consistent .lifecycle t).mpr hmem)
  · by_cases hu : u = t
    · subst hu
      rw [h.pc_self]
      exact hphase
    · rw [h.pc_of_ne hu]
      exact phaseAt_of_not_mem (halone u hu)

theorem Inv.alone_of_mem (hs : Inv s) (hp : s.pc t = p) (hmem : .lifecycle ∈ p.holds) (u : Thread)
    (hu : u ≠ t) : .lifecycle ∉ (s.pc u).holds :=
  fun h => hu (hs.consistent.eq_of_mem h ((congrArg (.lifecycle ∈ Pc.holds ·) hp).mpr hmem))

theorem Inv.alone_of_free (hs : Inv s) (hnone : s.holder .lifecycle = none) (u : Thread) :
    .lifecycle ∉ (s.pc u).holds :=
  fun h => nomatch hnone.symm.trans ((hs.consistent .lifecycle u).mpr h)

/-! ## Moves -/

theorem Inv.moves_lock {q : Pc} (hs : Inv s) (hp : s.pc t = p) (h : s.lock l t q = some s')
    (hholds : q.holds = p.holds ++ [l]) (hleads : p.leads q = true) : Moves s s' t p q := by
  obtain ⟨threads, hthreads, rfl⟩ := Option.map_eq_some_iff.mp h
  have hpc : threads.pc = Function.update s.pc t q := by
    obtain ⟨-, rfl⟩ := Mutexes.lock_eq_some hthreads
    rfl
  refine ⟨hp, hpc, hs.consistent.lock hthreads ?_, .inl ?_, ?_, rfl⟩
  · exact hholds.trans (congrArg (Pc.holds · ++ [l]) hp.symm)
  · exact (leads_iff.mp hleads).1
  · exact (hp ▸ hs.fits t).of_leads hleads

theorem Inv.moves_unlock {s₀ : Stub F} {q : Pc} (hs : Inv s) (hp : s.pc t = p)
    (hthreads : s₀.threads = s.threads) (hwatch : s₀.watchThread = s.watchThread)
    (hholds : p.holds = q.holds ++ ls.reverse) (hleads : p.leads q = true) :
    Moves s (s₀.unlock ls t q) t p q := by
  refine ⟨hp, ?_, ?_, .inl ?_, (hp ▸ hs.fits t).of_leads hleads, hwatch⟩
  · exact congrArg (fun threads : Threads Thread Lock Pc => Function.update threads.pc t q) hthreads
  · have hcons : Accounted discipline s₀.threads := hthreads ▸ hs.consistent
    refine hcons.unlock ?_
    rw [hthreads]
    exact (congrArg Pc.holds hp).trans hholds
  · exact (leads_iff.mp hleads).1

theorem Inv.unlock_aside {s₀ : Stub F} {q : Pc} (hs : Inv s) (hp : s.pc t = p)
    (hthreads : s₀.threads = s.threads) (hwatch : s₀.watchThread = s.watchThread)
    (hstarted : s₀.started = s.started) (hready : s₀.readyVal = s.readyVal)
    (hholds : p.holds = q.holds ++ ls.reverse) (hleads : p.leads q = true) (hnot : .lifecycle ∉ p.holds) :
    Inv (s₀.unlock ls t q) := by
  refine hs.aside (hs.moves_unlock hp hthreads hwatch hholds hleads) hnot (fun hmem => hnot ?_) hstarted hready
  rw [hholds]
  exact List.mem_append_left _ hmem

theorem Stub.lock_fields (h : s.lock l t p = some s') :
    s'.started = s.started ∧ s'.watchThread = s.watchThread ∧ s'.readyVal = s.readyVal := by
  obtain ⟨threads, -, rfl⟩ := Option.map_eq_some_iff.mp h
  exact ⟨rfl, rfl, rfl⟩

theorem Inv.lock_aside {q : Pc} (hs : Inv s) (hp : s.pc t = p) (h : s.lock l t q = some s')
    (hholds : q.holds = p.holds ++ [l]) (hleads : p.leads q = true) (hnot : .lifecycle ∉ q.holds) :
    Inv s' := by
  obtain ⟨hstarted, -, hready⟩ := Stub.lock_fields h
  refine hs.aside (hs.moves_lock hp h hholds hleads) (fun hmem => hnot ?_) hnot hstarted hready
  rw [hholds]
  exact List.mem_append_left _ hmem

/-- A thread takes a mutex, and has the lifecycle then. -/
theorem Inv.lock_alone {q : Pc} (hs : Inv s) (hp : s.pc t = p) (h : s.lock l t q = some s')
    (hholds : q.holds = p.holds ++ [l]) (hleads : p.leads q = true)
    (hmem : l = .lifecycle ∨ .lifecycle ∈ p.holds) (hphase : PhaseAt s q) : Inv s' := by
  have hmoves := hs.moves_lock hp h hholds hleads
  obtain ⟨hstarted, hwatch, hready⟩ := Stub.lock_fields h
  have haside : Aside s s' := ⟨hstarted, hwatch, hready, hmoves.noWatcher⟩
  refine hs.alone hmoves (fun u hu => ?_) (haside.phaseAt hphase) fun hnot => absurd ?_ hnot
  · rcases hmem with rfl | hmem
    · exact hs.alone_of_free (Stub.lock_eq_some h).1 u
    · exact hs.alone_of_mem hp hmem u hu
  · rw [hholds]
    rcases hmem with rfl | hmem
    · exact List.mem_append_right _ (List.mem_singleton_self _)
    · exact List.mem_append_left _ hmem

/-- A thread that has the lifecycle goes on with it. -/
theorem Inv.goto_alone {s₀ : Stub F} {q : Pc} (hs : Inv s) (hp : s.pc t = p)
    (hthreads : s₀.threads = s.threads) (hwatch : s₀.watchThread = s.watchThread)
    (hholds : p.holds = q.holds ++ ls.reverse) (hleads : p.leads q = true) (hmem : .lifecycle ∈ q.holds)
    (hphase : (NoWatcher s → NoWatcher (s₀.unlock ls t q)) → PhaseAt (s₀.unlock ls t q) q) :
    Inv (s₀.unlock ls t q) := by
  have hmoves := hs.moves_unlock hp hthreads hwatch hholds hleads
  refine hs.alone hmoves (hs.alone_of_mem hp ?_) (hphase hmoves.noWatcher) fun hnot => absurd hmem hnot
  rw [hholds]
  exact List.mem_append_left _ hmem

/-- A thread returns that has the lifecycle. -/
theorem Inv.return_alone {s₀ : Stub F} {rc : Int} (hs : Inv s) (hp : s.pc t = p)
    (hthreads : s₀.threads = s.threads) (hwatch : s₀.watchThread = s.watchThread)
    (hholds : p.holds = ls.reverse) (hleads : p.leads (.idle rc) = true) (hmem : .lifecycle ∈ p.holds)
    (hsettled : s₀.started = false → NoWatcher s) : Inv (s₀.unlock ls t (.idle rc)) := by
  have hmoves : Moves s (s₀.unlock ls t (.idle rc)) t p (.idle rc) :=
    hs.moves_unlock hp hthreads hwatch hholds hleads
  exact hs.alone hmoves (hs.alone_of_mem hp hmem) trivial fun _ hstarted => hmoves.noWatcher (hsettled hstarted)

/-- A watcher says that it is ready, or that it is not and ends. -/
theorem Inv.signal {q : Pc} {v : WatchReady} {fname : Option Text} (hs : Inv s)
    (hp : s.pc t = .watchReady fname) (hholds : q.holds = []) (hleads : (Pc.watchReady fname).leads q = true)
    (herror : v = .error → q.gone = true) :
    Inv ({ s with readyVal := v }.unlock [.ready] t q) := by
  set s₀ : Stub F := { s with readyVal := v }
  have hmoves : Moves s (s₀.unlock [.ready] t q) t (.watchReady fname) q :=
    hs.moves_unlock hp rfl rfl (by rw [hholds]; rfl) hleads
  obtain ⟨w, rfl⟩ : ∃ w, t = .watcher w := by
    cases t with
    | caller n => exact nomatch (hp ▸ hs.fits (.caller n) : Pc.watching (.watchReady fname) = false)
    | watcher w => exact ⟨w, rfl⟩
  have hw : w = s.watchThread := by
    by_contra hne
    exact nomatch hp ▸ hs.others w hne
  subst hw
  have hruns : ¬NoWatcher s := fun hnone => nomatch (hp ▸ hnone : Pc.gone (.watchReady fname) = true)
  have hgone : v = .error → NoWatcher (s₀.unlock [.ready] (.watcher s.watchThread) q) := fun h => by
    rw [NoWatcher, hmoves.watchThread, hmoves.pc_self, herror h]
  refine hs.moves hmoves (fun hnone hstarted => ?_) fun u => ?_
  · exact absurd (hs.free hnone hstarted) hruns
  · by_cases hu : u = .watcher s.watchThread
    · subst hu
      rw [hmoves.pc_self]
      exact phaseAt_of_not_mem (hholds ▸ List.not_mem_nil)
    · rw [hmoves.pc_of_ne hu]
      have hphase := hs.phase u
      cases hpu : s.pc u with
      | stop => exact fun hstarted => absurd ((hpu ▸ hphase : PhaseAt s .stop) hstarted) hruns
      | start => exact fun hstarted => absurd ((hpu ▸ hphase : PhaseAt s .start) hstarted) hruns
      | stopJoin w => exact (hpu ▸ hphase : PhaseAt s (.stopJoin w))
      | startPendingLock => exact absurd (hpu ▸ hphase : PhaseAt s .startPendingLock).2 hruns
      | startPending => exact absurd (hpu ▸ hphase : PhaseAt s .startPending).2 hruns
      | startCreate => exact absurd (hpu ▸ hphase : PhaseAt s .startCreate).2.1 hruns
      | startReadyLock => exact ⟨(hpu ▸ hphase : PhaseAt s .startReadyLock).1, hgone⟩
      | startReady => exact ⟨(hpu ▸ hphase : PhaseAt s .startReady).1, hgone⟩
      | startWait => exact ⟨(hpu ▸ hphase : PhaseAt s .startWait).1, hgone⟩
      | startJoin w => exact absurd (hpu ▸ hphase : PhaseAt s (.startJoin w)).2.2 hruns
      | _ => trivial

/-- A new thread has a handle of its own, and it is the only watcher. -/
theorem Inv.create {h : Option Nat} (hs : Inv s) (hp : s.pc t = .startCreate)
    (hcreate : s.watchCreate t h = some s') : Inv s' := by
  obtain ⟨hstarted, hnone, hpending⟩ := (hp ▸ hs.phase t : PhaseAt s .startCreate)
  cases h with
  | none =>
    obtain rfl := Option.some.inj hcreate
    exact hs.return_alone hp rfl rfl rfl rfl (by simp [Pc.holds]) fun _ => hnone
  | some w =>
    obtain ⟨hgone, hcreate⟩ := Option.ite_none_right_eq_some.mp hcreate
    obtain rfl := Option.some.inj hcreate
    have hall : ∀ w, (s.pc (.watcher w)).gone = true := fun w' => by
      by_cases hw : w' = s.watchThread
      · rw [hw]
        exact hnone
      · exact hs.others w' hw
    have hidle : (s.pc (.watcher w)).holds = [] := by
      cases hpw : s.pc (.watcher w) with
      | idle rc => rfl
      | _ => exact nomatch hpw ▸ hgone
    have hne : t ≠ .watcher w := fun heq => nomatch (heq ▸ hp) ▸ hgone
    have hpc (u : Thread) : ((({ s with watchThread := w, started := true } : Stub F).goto (.watcher w)
        .watchBegin).goto t .startReadyLock).pc u =
        if u = t then .startReadyLock else if u = .watcher w then .watchBegin else s.pc u := by
      rw [Stub.goto, Stub.pc_unlock, Function.update_apply, Stub.goto, Stub.pc_unlock,
        Function.update_apply]
      rfl
    have hcons : Accounted discipline (s.threads.unlock [] (.watcher w) .watchBegin) :=
      hs.consistent.unlock hidle
    constructor
    · refine hcons.unlock ?_
      have hpct : (s.threads.unlock [] (.watcher w) Pc.watchBegin).pc t = .startCreate :=
        (Function.update_of_ne hne _ _).trans hp
      rw [hpct]
      rfl
    · intro u
      rw [hpc]
      split
      case isTrue hu => exact hu ▸ (hp ▸ hs.fits t).of_leads rfl
      case isFalse =>
        split
        case isTrue hu => exact hu ▸ Or.inr rfl
        case isFalse => exact hs.fits u
    · intro w' hw'
      rw [hpc, if_neg (fun heq => nomatch (heq ▸ hp) ▸ hall w'),
        if_neg (fun heq : Thread.watcher w' = .watcher w => hw' (Thread.watcher.inj heq))]
      exact hall w'
    · intro hfree
      have hholder : s.holder .lifecycle = some t :=
        (hs.consistent .lifecycle t).mpr ((congrArg (.lifecycle ∈ Pc.holds ·) hp).mpr (by simp [Pc.holds]))
      exact nomatch hholder.symm.trans hfree
    · intro u
      rw [hpc]
      split
      case isTrue => exact ⟨rfl, fun herror => nomatch hpending.symm.trans herror⟩
      case isFalse hu =>
        split
        case isTrue => trivial
        case isFalse => exact phaseAt_of_not_mem (hs.alone_of_mem hp (by simp [Pc.holds]) u hu)

theorem Inv.watchStartLocked {eventfd : Bool} (hs : Inv s) (hp : s.pc t = .start) :
    Inv (s.watchStartLocked t eventfd) := by
  have hsettled : Settled s := (hp ▸ hs.phase t : PhaseAt s .start)
  rw [Stub.watchStartLocked]
  split
  case isTrue => exact hs.return_alone hp rfl rfl rfl rfl (by simp [Pc.holds]) hsettled
  case isFalse =>
    dsimp only
    split
    case isTrue => exact hs.return_alone hp rfl rfl rfl rfl (by simp [Pc.holds]) hsettled
    case isFalse hstarted =>
      have hstarted : s.started = false := Bool.eq_false_iff.mpr hstarted
      split
      case isTrue =>
        exact hs.goto_alone hp rfl rfl rfl rfl (by simp [Pc.holds]) fun h => ⟨hstarted, h (hsettled hstarted)⟩
      case isFalse => exact hs.return_alone hp rfl rfl rfl rfl (by simp [Pc.holds]) hsettled

/-- A watcher has started. -/
theorem Inv.watchStarted (hs : Inv s) (hp : s.pc t = .startReady) : Inv (s.watchStarted t) := by
  obtain ⟨hstarted, herror⟩ := (hp ▸ hs.phase t : PhaseAt s .startReady)
  rw [Stub.watchStarted]
  cases hready : s.readyVal with
  | pending =>
    exact hs.goto_alone hp rfl rfl rfl rfl (by simp [Pc.holds]) fun h =>
      ⟨hstarted, fun heq => h (herror heq)⟩
  | ready =>
    exact hs.return_alone hp rfl rfl rfl rfl (by simp [Pc.holds]) fun hnot =>
      nomatch hstarted.symm.trans hnot
  | error =>
    dsimp only
    rw [if_pos hstarted]
    exact hs.goto_alone hp rfl rfl rfl rfl (by simp [Pc.holds]) fun h => ⟨rfl, rfl, h (herror hready)⟩

theorem Inv.watchPoll {fname : Text} {answer : PollAnswer} (hs : Inv s) (hp : s.pc t = .watchPoll fname) :
    Inv (s.watchPoll t fname answer) := by
  have hgoto {q : Pc} (hholds : [] = q.holds ++ []) (hleads : (Pc.watchPoll fname).leads q = true) :
      Inv (s.goto t q) :=
    hs.unlock_aside hp rfl rfl rfl rfl hholds hleads (by simp [Pc.holds])
  cases answer with
  | interrupted => exact hs
  | failed => exact hgoto rfl rfl
  | ready names =>
    rw [Stub.watchPoll]
    split
    case isTrue => exact hgoto rfl rfl
    case isFalse =>
      split
      case isTrue => exact hgoto rfl rfl
      case isFalse => exact hs

/-- Every step keeps the invariant, by where its thread stands. -/
theorem Inv.go {answers : Answers F} (hs : Inv s) (h : s.go t answers = some s') : Inv s' := by
  have hphase := hs.phase t
  rw [Stub.go] at h
  cases hp : s.pc t with
  | idle rc => exact nomatch hp ▸ h
  | loadLock path => exact hs.lock_aside hp (hp ▸ h) rfl rfl (by simp [Pc.holds])
  | load path =>
    rw [hp] at h
    obtain rfl := Option.some.inj h
    exact hs.unlock_aside hp rfl rfl rfl rfl rfl rfl (by simp [Pc.holds])
  | resetLock => exact hs.lock_aside hp (hp ▸ h) rfl rfl (by simp [Pc.holds])
  | reset =>
    rw [hp] at h
    obtain rfl := Option.some.inj h
    exact hs.unlock_aside hp rfl rfl rfl rfl rfl rfl (by simp [Pc.holds])
  | stopLock =>
    rw [hp] at h
    exact hs.lock_alone hp h rfl rfl (.inl rfl) (hs.free (Stub.lock_eq_some h).1)
  | stop =>
    rw [hp] at h hphase
    dsimp only at h
    split at h
    case isTrue =>
      obtain rfl := Option.some.inj h
      exact hs.goto_alone hp rfl rfl rfl rfl (by simp [Pc.holds]) fun _ => ⟨rfl, rfl⟩
    case isFalse =>
      obtain rfl := Option.some.inj h
      exact hs.return_alone hp rfl rfl rfl rfl (by simp [Pc.holds]) hphase
  | stopJoin w =>
    rw [hp] at h hphase
    obtain ⟨hgone, h⟩ := Option.ite_none_right_eq_some.mp h
    obtain rfl := Option.some.inj h
    exact hs.return_alone hp rfl rfl rfl rfl (by simp [Pc.holds]) fun _ => by
      rw [NoWatcher, ← hphase.2]
      exact hgone
  | startStateLock => exact hs.lock_aside hp (hp ▸ h) rfl rfl (by simp [Pc.holds])
  | startLifecycleLock =>
    rw [hp] at h
    exact hs.lock_alone hp h rfl rfl (.inl rfl) (hs.free (Stub.lock_eq_some h).1)
  | start =>
    rw [hp] at h
    obtain rfl := Option.some.inj h
    exact hs.watchStartLocked hp
  | startPendingLock =>
    rw [hp] at h hphase
    exact hs.lock_alone hp h rfl rfl (.inr (by simp [Pc.holds])) (show PhaseAt s .startPending from hphase)
  | startPending =>
    rw [hp] at h hphase
    obtain rfl := Option.some.inj h
    exact hs.goto_alone hp rfl rfl rfl rfl (by simp [Pc.holds]) fun h => ⟨hphase.1, h hphase.2, rfl⟩
  | startCreate => exact hs.create hp (hp ▸ h)
  | startReadyLock =>
    rw [hp] at h hphase
    exact hs.lock_alone hp h rfl rfl (.inr (by simp [Pc.holds])) (show PhaseAt s .startReady from hphase)
  | startReady =>
    rw [hp] at h
    obtain rfl := Option.some.inj h
    exact hs.watchStarted hp
  | startWait =>
    rw [hp] at h hphase
    obtain rfl := Option.some.inj h
    exact hs.goto_alone hp rfl rfl rfl rfl (by simp [Pc.holds]) fun h =>
      ⟨hphase.1, fun heq => h (hphase.2 heq)⟩
  | startJoin w =>
    rw [hp] at h hphase
    obtain ⟨hgone, h⟩ := Option.ite_none_right_eq_some.mp h
    obtain rfl := Option.some.inj h
    exact hs.return_alone hp rfl rfl rfl rfl (by simp [Pc.holds]) fun _ => hphase.2.2
  | watchBegin =>
    rw [hp] at h
    obtain rfl := Option.some.inj h
    exact hs.unlock_aside hp rfl rfl rfl rfl rfl rfl (by simp [Pc.holds])
  | watchReadyLock fname => exact hs.lock_aside hp (hp ▸ h) rfl rfl (by simp [Pc.holds])
  | watchReady fname =>
    rw [hp] at h
    cases fname with
    | none =>
      obtain rfl := Option.some.inj h
      exact hs.signal hp rfl rfl fun _ => rfl
    | some fname =>
      obtain rfl := Option.some.inj h
      exact hs.signal hp rfl rfl nofun
  | watchPoll fname =>
    rw [hp] at h
    obtain rfl := Option.some.inj h
    exact hs.watchPoll hp
  | watchStopPoll fname =>
    rw [hp] at h
    dsimp only at h
    split at h
    all_goals
      obtain rfl := Option.some.inj h
      exact hs.unlock_aside hp rfl rfl rfl rfl rfl rfl (by simp [Pc.holds])
  | watchLoadLock fname => exact hs.lock_aside hp (hp ▸ h) rfl rfl (by simp [Pc.holds])
  | watchLoad fname =>
    rw [hp] at h
    obtain rfl := Option.some.inj h
    exact hs.unlock_aside hp rfl rfl rfl rfl rfl rfl (by simp [Pc.holds])

theorem Inv.init : Inv (Stub.init F) where
  consistent _ _ := iff_of_false nofun List.not_mem_nil
  fits t := by
    cases t with
    | caller n => exact rfl
    | watcher w => exact .inl rfl
  others _ _ := rfl
  free _ _ := rfl
  phase _ := trivial

/-- **Every step keeps the invariant.** -/
theorem Inv.step {a : Action F} (hs : Inv s) (h : step s a = some s') : Inv s' := by
  cases a with
  | go t answers => exact hs.go h
  | call n c =>
    obtain ⟨hgone, h⟩ := Option.ite_none_right_eq_some.mp h
    obtain rfl := Option.some.inj h
    have hentry : c.entry.watching = false ∧ c.entry.holds = [] := by cases c <;> exact ⟨rfl, rfl⟩
    have hholds : (s.pc (.caller n)).holds = [] := by
      cases hp : s.pc (.caller n) with
      | idle rc => rfl
      | _ => exact nomatch hp ▸ hgone
    have hmoves : Moves s (s.goto (.caller n) c.entry) (.caller n) (s.pc (.caller n)) c.entry := by
      refine ⟨rfl, rfl, hs.consistent.unlock ?_, .inr ⟨n, rfl⟩, hentry.1, rfl⟩
      exact hholds.trans (congrArg (· ++ []) hentry.2).symm
    exact hs.aside hmoves (hholds ▸ List.not_mem_nil) (hentry.2 ▸ List.not_mem_nil) rfl rfl

end

end SysmanStub

end XpuManager
