import XpuManager.Lib.FileLocks
import XpuManager.Lib.Runs

/-! # The lock of a firmware update

An update holds a lock on a file (`oal/lin/fs_lock.cpp`), so that there is one at a time on the
system. `acquire` tries two paths for the file; `release` gives the lock back and then removes the
file.

The processes take their system calls in any order. What a process keeps in its own memory changes
with the system call before it. -/

namespace XpuManager

open FileLocks

/-- The lock files that are tried. -/
def candidates : List String :=
  ["/var/lock/xpum_firmware_update.lock", "/tmp/xpum_firmware_update.lock"]

/-- The error numbers that `acquire` tells apart. -/
inductive LockErrno where
  | wouldBlock
  | other
  deriving DecidableEq

/-- `FSLock`: the handle, the path, and whether the lock was acquired. -/
structure FSLock where
  handle : Nat
  lockFilePath : String
  acquired : Bool

/-- Where a process stands: outside of `acquire` and `release`, before it opens a candidate, before it
locks the file, before it closes a file that it could not lock; or when `acquire` returned; or in
`release` after the lock was given back, the file closed, or removed. -/
inductive FSLockPhase where
  | idle
  | opening (path : String) (paths : List String)
  | opened (path : String) (fd : Nat) (paths : List String)
  | refused (fd : Nat) (errno : LockErrno) (paths : List String)
  | returned
  | unlocked
  | closed
  | unlinked
  deriving DecidableEq

/-- The lock of a process, and where the process stands. -/
structure FSLockProcess where
  lock : FSLock
  phase : FSLockPhase

/-- The kernel and the processes. -/
structure FSLockState (P : Type) where
  kernel : Kernel String P
  process : P → FSLockProcess

/-- The steps: a process calls `acquire`, opens a candidate or fails to, tries to lock it, fails for
another reason than that it is locked, or closes a file that it could not lock, which may set `errno`
anew; it calls `release`, which gives the lock back or fails to, closes the file, removes it or fails
to, and returns; or it ends. -/
inductive FSLockAction (P : Type) where
  | acquire (p : P)
  | openPath (p : P) (fd : Option Nat)
  | flock (p : P)
  | flockFails (p : P)
  | closeRefused (p : P) (errno : Option LockErrno)
  | release (p : P) (unlocks : Bool)
  | close (p : P)
  | unlink (p : P) (removes : Bool)
  | finish (p : P)
  | exit (p : P)

/-- The next turn of the loop of `acquire`. -/
def tryNext : List String → FSLockPhase
  | [] => .returned
  | path :: paths => .opening path paths

/-- A process without a lock. -/
def FSLockProcess.new : FSLockProcess := ⟨⟨0, "", false⟩, .idle⟩

variable {P : Type} [DecidableEq P]

namespace FSLockState

def setProcess (p : P) (process : FSLockProcess) (s : FSLockState P) : FSLockState P :=
  { s with process := Function.update s.process p process }

def setPhase (p : P) (phase : FSLockPhase) (s : FSLockState P) : FSLockState P :=
  s.setProcess p { s.process p with phase := phase }

def setKernel (kernel : Kernel String P) (s : FSLockState P) : FSLockState P :=
  { s with kernel := kernel }

/-- A step of any process; none where it cannot be taken. -/
def step (s : FSLockState P) : FSLockAction P → Option (FSLockState P)
  | .acquire p =>
    match (s.process p).phase with
    | .idle => some (s.setPhase p (tryNext candidates))
    | _ => none
  | .openPath p fd =>
    match (s.process p).phase with
    | .opening path paths =>
      match fd with
      | none => some (s.setPhase p (tryNext paths))
      | some fd =>
        (s.kernel.openFile p fd path).map fun kernel =>
          (s.setKernel kernel).setPhase p (.opened path fd paths)
    | _ => none
  | .flock p =>
    match (s.process p).phase with
    | .opened path fd paths =>
      match s.kernel.lock p fd with
      | some kernel => some ((s.setKernel kernel).setProcess p ⟨⟨fd, path, true⟩, .returned⟩)
      | none => some (s.setPhase p (.refused fd .wouldBlock paths))
    | _ => none
  | .flockFails p =>
    match (s.process p).phase with
    | .opened _ fd paths => some (s.setPhase p (.refused fd .other paths))
    | _ => none
  | .closeRefused p errno =>
    match (s.process p).phase with
    | .refused fd errno' paths =>
      let phase := if errno.getD errno' = .wouldBlock then .returned else tryNext paths
      some ((s.setKernel (s.kernel.close p fd)).setPhase p phase)
    | _ => none
  | .release p unlocks =>
    match (s.process p).phase with
    | .returned =>
      let lock := (s.process p).lock
      if lock.acquired = true ∧ lock.handle ≠ 0 then
        let kernel := if unlocks then s.kernel.unlock p lock.handle else s.kernel
        some ((s.setKernel kernel).setPhase p .unlocked)
      else some (s.setProcess p ⟨⟨lock.handle, "", false⟩, .idle⟩)
    | _ => none
  | .close p =>
    match (s.process p).phase with
    | .unlocked =>
      let lock := (s.process p).lock
      some ((s.setKernel (s.kernel.close p lock.handle)).setProcess p
        ⟨{ lock with handle := 0 }, .closed⟩)
    | _ => none
  | .unlink p removes =>
    match (s.process p).phase with
    | .closed =>
      let path := (s.process p).lock.lockFilePath
      let kernel := if path ≠ "" ∧ removes = true then s.kernel.unlink path else s.kernel
      some ((s.setKernel kernel).setPhase p .unlinked)
    | _ => none
  | .finish p =>
    match (s.process p).phase with
    | .unlinked => some (s.setProcess p ⟨⟨(s.process p).lock.handle, "", false⟩, .idle⟩)
    | _ => none
  | .exit p => some ((s.setKernel (s.kernel.exit p)).setProcess p .new)

/-- Any files, and no process that has opened one. -/
def init (dir : Directory String) : FSLockState P where
  kernel := ⟨dir, fun _ _ => none, fun _ => none⟩
  process := fun _ => .new

/-- The process takes itself to have the lock. -/
def acquired (s : FSLockState P) (p : P) : Bool := (s.process p).lock.acquired

/-! ## Exclusion -/

end FSLockState

/-- A process is in `release` and has given the lock back. -/
def FSLockPhase.Releasing : FSLockPhase → Prop
  | .unlocked | .closed | .unlinked => True
  | .idle | .opening .. | .opened .. | .refused .. | .returned => False

/-- The process has not begun with `acquire` yet, or is not at its end. -/
def FSLockPhase.Acquiring : FSLockPhase → Prop
  | .idle | .opening .. | .opened .. | .refused .. => True
  | .returned | .unlocked | .closed | .unlinked => False

theorem FSLockPhase.Acquiring.not_releasing {phase : FSLockPhase} (h : phase.Acquiring) :
    ¬phase.Releasing := by
  intro hreleasing
  cases phase <;> first | exact h | exact hreleasing

/-- A process has acquired the lock only after `acquire`, and until the end of `release`. -/
structure FSLockProcess.Proper (x : FSLockProcess) : Prop where
  early : x.lock.acquired = true → x.phase = .returned ∨ x.phase.Releasing
  late : x.phase.Releasing → x.lock.acquired = true

theorem FSLockProcess.Proper.of_not_acquired {x : FSLockProcess} (hacquired : x.lock.acquired = false)
    (hreleasing : ¬x.phase.Releasing) : x.Proper where
  early hacq := by cases hacquired.symm.trans hacq
  late hrel := absurd hrel hreleasing

theorem FSLockProcess.Proper.of_acquired {x : FSLockProcess} (hacquired : x.lock.acquired = true)
    (hreleasing : x.phase.Releasing) : x.Proper where
  early _ := .inr hreleasing
  late _ := hacquired

namespace FSLockState

/-- The lock is taken on a file that has its name still, and every other process that has acquired
it did so under the same path and is not about to release it. -/
def LocksSafely (s : FSLockState P) : FSLockAction P → Prop
  | .flock p => ∀ path fd paths inode, (s.process p).phase = .opened path fd paths →
      s.kernel.files p fd = some inode → s.kernel.holder inode = none →
        s.kernel.dir.entries path = some inode ∧ ∀ q, s.acquired q = true →
          (s.process q).lock.lockFilePath = path ∧ ¬(s.process q).phase.Releasing
  | _ => True

/-- The invariant: one process at a time has acquired the lock, and it holds the lock of the file
that its path stands for until it releases it. -/
structure Exclusive (s : FSLockState P) : Prop where
  proper : ∀ p, (s.process p).Proper
  unique : ∀ p q, s.acquired p = true → s.acquired q = true → p = q
  held : ∀ p, s.acquired p = true → (s.process p).phase = .returned →
    ∃ inode, s.kernel.Locks p (s.process p).lock.handle (s.process p).lock.lockFilePath inode

variable {s t : FSLockState P} {p q : P} {kernel : Kernel String P} {x : FSLockProcess}

@[simp] theorem setProcess_process_self : (s.setProcess p x).process p = x :=
  Function.update_self ..

theorem setProcess_process_of_ne (h : q ≠ p) : (s.setProcess p x).process q = s.process q :=
  Function.update_of_ne h ..

omit [DecidableEq P] in
/-- A process that is not at the end of `acquire` yet has not acquired the lock. -/
theorem acquired_eq_false (h : (s.process p).Proper) (hacquiring : (s.process p).phase.Acquiring) :
    (s.process p).lock.acquired = false := by
  refine Bool.eq_false_iff.mpr fun hacquired => ?_
  rcases h.early hacquired with hreturned | hreleasing
  · rw [hreturned] at hacquiring
    exact hacquiring
  · exact hacquiring.not_releasing hreleasing

/-- **A process that does not take the lock** keeps the invariant, if the others keep their lock. -/
theorem Exclusive.act (h : Exclusive s) (hproper : x.Proper)
    (hacquired : x.lock.acquired = true → s.acquired p = true)
    (hreturned : x.phase = .returned → x.lock.acquired = false)
    (hothers : ∀ q fd path inode, q ≠ p → s.acquired q = true → s.kernel.Locks q fd path inode →
      kernel.Locks q fd path inode) : Exclusive ((s.setKernel kernel).setProcess p x) := by
  have hprocess (q : P) (hne : q ≠ p) :
      ((s.setKernel kernel).setProcess p x).process q = s.process q := Function.update_of_ne hne _ _
  have hold (q : P) (hq : ((s.setKernel kernel).setProcess p x).acquired q = true) :
      s.acquired q = true := by
    by_cases hqp : q = p
    · subst hqp
      rw [acquired, setProcess_process_self] at hq
      exact hacquired hq
    · rw [acquired, hprocess q hqp] at hq
      exact hq
  refine ⟨fun q => ?_, fun q r hq hr => h.unique q r (hold q hq) (hold r hr), fun q hq hphase => ?_⟩
  · by_cases hqp : q = p
    · subst hqp
      rw [setProcess_process_self]
      exact hproper
    · rw [hprocess q hqp]
      exact h.proper q
  · by_cases hqp : q = p
    · subst hqp
      rw [acquired, setProcess_process_self] at hq
      rw [setProcess_process_self] at hphase
      cases hq.symm.trans (hreturned hphase)
    · have hacq := hold q hq
      rw [hprocess q hqp] at hphase ⊢
      obtain ⟨inode, hlocks⟩ := h.held q hacq hphase
      exact ⟨inode, hothers q _ _ _ hqp hacq hlocks⟩

/-- **Taking the lock** where nobody else has it. -/
theorem Exclusive.take (h : Exclusive s) {fd inode : Nat} {path : String} {paths : List String}
    (hphase : (s.process p).phase = .opened path fd paths) (hlock : s.kernel.lock p fd = some kernel)
    (hopened : s.kernel.files p fd = some inode) (hsafe : LocksSafely s (.flock p)) :
    Exclusive ((s.setKernel kernel).setProcess p ⟨⟨fd, path, true⟩, .returned⟩) := by
  obtain ⟨hnamed, hothers⟩ := hsafe path fd paths inode hphase hopened
    (Kernel.holder_of_lock hlock hopened)
  have hnone (q : P) : s.acquired q ≠ true := by
    intro hq
    obtain ⟨hpath, hreleasing⟩ := hothers q hq
    obtain ⟨inode', hlocks⟩ := h.held q hq (((h.proper q).early hq).resolve_right hreleasing)
    rw [hpath] at hlocks
    exact hlocks.refuses hlock hopened hnamed
  have honly (q : P) (hq : ((s.setKernel kernel).setProcess p ⟨⟨fd, path, true⟩, .returned⟩).acquired
      q = true) : q = p := by
    by_contra hqp
    rw [acquired, setProcess_process_of_ne hqp] at hq
    exact hnone q hq
  refine ⟨fun q => ?_, fun q r hq hr => (honly q hq).trans (honly r hr).symm, fun q hq _ => ?_⟩
  · by_cases hqp : q = p
    · subst hqp
      rw [setProcess_process_self]
      exact ⟨fun _ => .inl rfl, fun h => h.elim⟩
    · rw [setProcess_process_of_ne hqp]
      exact h.proper q
  · obtain rfl := honly q hq
    rw [setProcess_process_self]
    exact ⟨inode, Kernel.locks_of_lock hlock hopened hnamed⟩

theorem not_releasing_tryNext (paths : List String) : ¬(tryNext paths).Releasing := by
  cases paths with
  | nil => exact id
  | cons path paths => exact id

/-- **A process that has not acquired the lock** and goes on in `acquire`. -/
theorem Exclusive.goOn (h : Exclusive s) {phase : FSLockPhase}
    (hnot : (s.process p).lock.acquired = false) (hphase : ¬phase.Releasing)
    (hothers : ∀ q fd path inode, q ≠ p → s.acquired q = true → s.kernel.Locks q fd path inode →
      kernel.Locks q fd path inode) : Exclusive ((s.setKernel kernel).setPhase p phase) := by
  have hfalse : ¬(s.process p).lock.acquired = true := Bool.eq_false_iff.mp hnot
  exact h.act ⟨fun hacq => absurd hacq hfalse, fun hrel => absurd hrel hphase⟩
    (fun hacq => hacq) (fun _ => hnot) hothers

/-- **A process in `release`**: nobody else has acquired the lock. -/
theorem Exclusive.releasing (h : Exclusive s) (hacquired : s.acquired p = true) (hproper : x.Proper)
    (hreturned : x.phase = .returned → x.lock.acquired = false) :
    Exclusive ((s.setKernel kernel).setProcess p x) := by
  refine h.act hproper (fun _ => hacquired) hreturned fun q _ _ _ hqp hq _ => ?_
  exact absurd (h.unique q p hq hacquired) hqp

/-- Opening a lock file, which may fail. -/
theorem Exclusive.openPath (h : Exclusive s) {fd : Option Nat}
    (hstep : s.step (.openPath p fd) = some t) : Exclusive t := by
  rw [FSLockState.step] at hstep
  split at hstep
  case h_2 => cases hstep
  case h_1 path paths hphase =>
  have hnot := acquired_eq_false (h.proper p) (by rw [hphase]; trivial)
  cases fd with
  | none =>
    obtain rfl := Option.some.inj hstep
    exact h.goOn hnot (not_releasing_tryNext _) fun _ _ _ _ _ _ hlocks => hlocks
  | some fd =>
    obtain ⟨kernel, hopen, rfl⟩ := Option.map_eq_some_iff.mp hstep
    exact h.goOn hnot id fun _ _ _ _ hqp _ hlocks => hlocks.openFile hqp hopen

/-- Asking for the lock, which somebody else may have. -/
theorem Exclusive.flock (h : Exclusive s) (hsafe : LocksSafely s (.flock p))
    (hstep : s.step (.flock p) = some t) : Exclusive t := by
  rw [FSLockState.step] at hstep
  split at hstep
  case h_2 => cases hstep
  case h_1 path fd paths hphase =>
  split at hstep
  case h_1 kernel hlock =>
    obtain rfl := Option.some.inj hstep
    cases hopened : s.kernel.files p fd with
    | none =>
      rw [Kernel.lock, hopened] at hlock
      cases hlock
    | some inode => exact h.take hphase hlock hopened hsafe
  case h_2 =>
    obtain rfl := Option.some.inj hstep
    have hnot := acquired_eq_false (h.proper p) (by rw [hphase]; trivial)
    exact h.goOn hnot id fun _ _ _ _ _ _ hlocks => hlocks

/-- The begin of `release`, which does nothing where the lock was not acquired. -/
theorem Exclusive.release (h : Exclusive s) {unlocks : Bool}
    (hstep : s.step (.release p unlocks) = some t) : Exclusive t := by
  rw [FSLockState.step] at hstep
  split at hstep
  case h_2 => cases hstep
  case h_1 =>
  dsimp only at hstep
  by_cases hheld : (s.process p).lock.acquired = true ∧ (s.process p).lock.handle ≠ 0
  · rw [if_pos hheld] at hstep
    obtain rfl := Option.some.inj hstep
    exact h.releasing hheld.1 (.of_acquired hheld.1 trivial) fun hphase => by cases hphase
  · rw [if_neg hheld] at hstep
    obtain rfl := Option.some.inj hstep
    exact @Exclusive.act _ _ _ _ s.kernel _ h (.of_not_acquired rfl id)
      (fun hacq => by cases hacq) (fun _ => rfl) fun _ _ _ _ _ _ hlocks => hlocks

/-- **Every step keeps the invariant** if the lock is taken safely. -/
theorem Exclusive.step (h : Exclusive s) {a : FSLockAction P} (hsafe : LocksSafely s a)
    (hstep : s.step a = some t) : Exclusive t := by
  cases a with
  | acquire p =>
    rw [FSLockState.step] at hstep
    split at hstep
    case h_2 => cases hstep
    case h_1 hphase =>
    obtain rfl := Option.some.inj hstep
    have hnot := acquired_eq_false (h.proper p) (by rw [hphase]; trivial)
    exact h.goOn hnot (not_releasing_tryNext _) fun _ _ _ _ _ _ hlocks => hlocks
  | openPath p fd => exact h.openPath hstep
  | flock p => exact h.flock hsafe hstep
  | flockFails p =>
    rw [FSLockState.step] at hstep
    split at hstep
    case h_2 => cases hstep
    case h_1 hphase =>
    obtain rfl := Option.some.inj hstep
    have hnot := acquired_eq_false (h.proper p) (by rw [hphase]; trivial)
    exact h.goOn hnot id fun _ _ _ _ _ _ hlocks => hlocks
  | closeRefused p errno =>
    rw [FSLockState.step] at hstep
    split at hstep
    case h_2 => cases hstep
    case h_1 fd errno' paths hphase =>
    obtain rfl := Option.some.inj hstep
    have hnot := acquired_eq_false (h.proper p) (by rw [hphase]; trivial)
    refine h.goOn hnot ?_ fun _ _ _ _ hqp _ hlocks => hlocks.close hqp
    split
    · exact id
    · exact not_releasing_tryNext _
  | release p unlocks => exact h.release hstep
  | close p =>
    rw [FSLockState.step] at hstep
    split at hstep
    case h_2 => cases hstep
    case h_1 hphase =>
    obtain rfl := Option.some.inj hstep
    have hacquired := (h.proper p).late (by rw [hphase]; trivial)
    exact h.releasing hacquired (.of_acquired hacquired trivial) fun hphase => by cases hphase
  | unlink p removes =>
    rw [FSLockState.step] at hstep
    split at hstep
    case h_2 => cases hstep
    case h_1 hphase =>
    obtain rfl := Option.some.inj hstep
    have hacquired := (h.proper p).late (by rw [hphase]; trivial)
    exact h.releasing hacquired (.of_acquired hacquired trivial) fun hphase => by cases hphase
  | finish p =>
    rw [FSLockState.step] at hstep
    split at hstep
    case h_2 => cases hstep
    case h_1 hphase =>
    obtain rfl := Option.some.inj hstep
    have hacquired := (h.proper p).late (by rw [hphase]; trivial)
    exact @Exclusive.releasing _ _ _ _ s.kernel _ h hacquired (.of_not_acquired rfl id)
      fun _ => rfl
  | exit p =>
    obtain rfl := Option.some.inj hstep
    exact h.act (.of_not_acquired rfl id) (fun hacq => by cases hacq) (fun _ => rfl)
      fun _ _ _ _ hqp _ hlocks => hlocks.exit hqp

omit [DecidableEq P] in
theorem exclusive_init (dir : Directory String) : Exclusive (init dir : FSLockState P) where
  proper _ := .of_not_acquired rfl id
  unique _ _ h := by cases h
  held _ h := by cases h

end FSLockState

omit [DecidableEq P] in
/-- Nobody has acquired the lock, and the file has its name still. -/
theorem FSLockState.locksSafely_of_free {s : FSLockState P} {p : P} {path : String} {fd : Nat}
    {paths : List String} (hphase : (s.process p).phase = .opened path fd paths)
    (hnamed : s.kernel.dir.entries path = s.kernel.files p fd)
    (hfree : ∀ q, s.acquired q = false) : s.LocksSafely (.flock p) := by
  intro path' fd' paths' inode hphase' hopened _
  obtain ⟨rfl, rfl, rfl⟩ := FSLockPhase.opened.inj (hphase.symm.trans hphase')
  exact ⟨hnamed.trans hopened, fun q hq => by cases (hfree q).symm.trans hq⟩

open FSLockState in
/-- **One update at a time**, for any number of processes and any order of their steps in which the
lock is taken safely. -/
theorem fsLock_exclusive (dir : Directory String) {s : FSLockState P} {as : List (FSLockAction P)}
    (hsafe : Runs.Meets step LocksSafely (init dir) as)
    (hrun : Runs.follow step (init dir) as = some s) (p q : P) (hp : s.acquired p = true)
    (hq : s.acquired q = true) : p = q := by
  have hkeep : ∀ (s : FSLockState P) a t, Exclusive s → LocksSafely s a → s.step a = some t →
      Exclusive t := fun s a t h hsafe hstep => h.step hsafe hstep
  exact (Runs.follow_invariant hkeep (exclusive_init dir) hsafe hrun).unique p q hp hq

/-- No files. -/
def noFiles : Directory String := ⟨fun _ => none, 0, nofun⟩

/-- One process has the lock and releases it, then another one takes it. -/
def oneAfterTheOther : List (FSLockAction Bool) :=
  [.acquire true, .openPath true (some 3), .flock true, .release true true, .close true,
    .unlink true true, .finish true, .acquire false, .openPath false (some 3), .flock false]

/-- The second process has acquired the lock, and the first one has not. -/
theorem fsLock_exclusive_sample :
    ∃ s, Runs.follow FSLockState.step (.init noFiles) oneAfterTheOther = some s ∧
      s.acquired false = true ∧ ∀ p, s.acquired p = true → p = false := by
  refine ⟨_, rfl, rfl, fun p hp => @fsLock_exclusive Bool _ noFiles _ oneAfterTheOther ?_ rfl p false
    hp rfl⟩
  refine .cons trivial rfl (.cons trivial rfl (.cons ?_ rfl (.cons trivial rfl (.cons trivial rfl
    (.cons trivial rfl (.cons trivial rfl (.cons trivial rfl (.cons trivial rfl (.cons ?_ rfl
      trivial)))))))))
  · exact FSLockState.locksSafely_of_free rfl rfl fun q => by cases q <;> rfl
  · exact FSLockState.locksSafely_of_free rfl rfl fun q => by cases q <;> rfl

/-- The second process opens the file that the first one has locked, and locks it before the first one
removes it; the third one finds no file and creates another one. -/
def lockRemoved : List (FSLockAction (Fin 3)) :=
  [.acquire 0, .openPath 0 (some 3), .flock 0, .acquire 1, .openPath 1 (some 3), .release 0 true,
    .close 0, .flock 1, .unlink 0 true, .finish 0, .acquire 2, .openPath 2 (some 3), .flock 2]

/-- Two processes have acquired the lock, and neither is about to release it. -/
theorem fsLock_taken_twice :
    ∃ s, Runs.follow FSLockState.step (.init noFiles) lockRemoved = some s ∧
      (s.process 1).phase = .returned ∧ (s.process 2).phase = .returned ∧
        ¬∀ p q, s.acquired p = true → s.acquired q = true → p = q :=
  ⟨_, rfl, rfl, rfl, fun h => absurd (h 1 2 rfl rfl) (by decide)⟩

end XpuManager
