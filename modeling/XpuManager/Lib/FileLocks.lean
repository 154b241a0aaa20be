import Mathlib.Logic.Function.Basic

/-! # Advisory locks on files

The part of a kernel that knows names of files, file descriptors of processes and exclusive locks. A
name stands for at most one inode; opening a name that is absent creates a new inode; a lock is held
on an inode by the descriptor that took it, until it is given back or the descriptor is closed. The
name of an inode can be removed while it is open or locked. -/

namespace FileLocks

variable {N P : Type*} [DecidableEq N]

/-- The names of files; `next` is the first inode that was never used. -/
structure Directory (N : Type*) where
  entries : N → Option Nat
  next : Nat
  entries_lt : ∀ path inode, entries path = some inode → inode < next

namespace Directory

/-- A name for a new inode. -/
def add (d : Directory N) (path : N) : Directory N where
  entries := Function.update d.entries path (some d.next)
  next := d.next + 1
  entries_lt path' inode h := by
    by_cases hp : path' = path
    · rw [hp, Function.update_self] at h
      obtain rfl := Option.some.inj h
      exact Nat.lt_succ_self _
    · rw [Function.update_of_ne hp] at h
      exact Nat.lt_succ_of_lt (d.entries_lt path' inode h)

/-- The inode of a name, which is created if there is none. -/
def create (d : Directory N) (path : N) : Directory N × Nat :=
  match d.entries path with
  | some inode => (d, inode)
  | none => (d.add path, d.next)

/-- A name is taken out of the directory; the file stays. -/
def unlink (d : Directory N) (path : N) : Directory N where
  entries := Function.update d.entries path none
  next := d.next
  entries_lt path' inode h := by
    by_cases hp : path' = path
    · rw [hp, Function.update_self] at h
      cases h
    · rw [Function.update_of_ne hp] at h
      exact d.entries_lt path' inode h

/-- Creating a file leaves the other names alone. -/
theorem create_entries {d : Directory N} {path path' : N} {inode : Nat}
    (h : d.entries path' = some inode) : (d.create path).1.entries path' = some inode := by
  unfold create
  split
  case h_1 => exact h
  case h_2 hnone =>
    have hne : path' ≠ path := by
      rintro rfl
      cases h.symm.trans hnone
    exact (Function.update_of_ne hne _ _).trans h

end Directory

/-- Names, open files of processes, and for each inode the descriptor that has locked it. -/
structure Kernel (N P : Type*) where
  dir : Directory N
  files : P → Nat → Option Nat
  holder : Nat → Option (P × Nat)

variable [DecidableEq P]

namespace Kernel

/-- `open` with a descriptor that is free. -/
def openFile (k : Kernel N P) (p : P) (fd : Nat) (path : N) : Option (Kernel N P) :=
  match k.files p fd with
  | some _ => none
  | none =>
    let created := k.dir.create path
    some { k with
      dir := created.1
      files := Function.update k.files p (Function.update (k.files p) fd (some created.2)) }

/-- `flock` for an exclusive lock, without waiting. -/
def lock (k : Kernel N P) (p : P) (fd : Nat) : Option (Kernel N P) :=
  match k.files p fd with
  | none => none
  | some inode =>
    if k.holder inode = none then
      some { k with holder := Function.update k.holder inode (some (p, fd)) }
    else none

/-- A process gives back the lock of a file. -/
def unlock (k : Kernel N P) (p : P) (fd : Nat) : Kernel N P :=
  match k.files p fd with
  | none => k
  | some inode =>
    if k.holder inode = some (p, fd) then
      { k with holder := Function.update k.holder inode none }
    else k

/-- `close` gives the lock back. -/
def close (k : Kernel N P) (p : P) (fd : Nat) : Kernel N P :=
  { k.unlock p fd with
    files := Function.update k.files p (Function.update (k.files p) fd none) }

def unlink (k : Kernel N P) (path : N) : Kernel N P := { k with dir := k.dir.unlink path }

/-- The end of a process: its descriptors are closed. -/
def exit (k : Kernel N P) (p : P) : Kernel N P :=
  { k with
    files := Function.update k.files p fun _ => none
    holder := fun inode =>
      match k.holder inode with
      | none => none
      | some (q, fd) => if q = p then none else some (q, fd) }

/-- A process holds the lock of the file that a name stands for. -/
structure Locks (k : Kernel N P) (p : P) (fd : Nat) (path : N) (inode : Nat) : Prop where
  opened : k.files p fd = some inode
  named : k.dir.entries path = some inode
  locked : k.holder inode = some (p, fd)

variable {k k' : Kernel N P} {p q : P} {fd fd' : Nat} {path path' : N} {inode : Nat}

omit [DecidableEq N] [DecidableEq P] in
/-- A lock that is taken on a file that has its name still. -/
theorem locks_of_lock (h : k.lock p fd = some k') (hopened : k.files p fd = some inode)
    (hnamed : k.dir.entries path = some inode) : k'.Locks p fd path inode := by
  rw [lock, hopened] at h
  obtain ⟨-, hk⟩ := Option.ite_none_right_eq_some.mp h
  obtain rfl := Option.some.inj hk
  exact ⟨hopened, hnamed, Function.update_self ..⟩

omit [DecidableEq N] [DecidableEq P] in
/-- A lock is taken where nobody has it. -/
theorem holder_of_lock (h : k.lock p fd = some k') (hopened : k.files p fd = some inode) :
    k.holder inode = none := by
  rw [lock, hopened] at h
  exact (Option.ite_none_right_eq_some.mp h).1

omit [DecidableEq N] [DecidableEq P] in
/-- **Exclusion**: who holds the lock of a named file keeps others from taking it under that name. -/
theorem Locks.refuses (h : k.Locks p fd path inode) {inode' : Nat}
    (hlock : k.lock q fd' = some k') (hopened : k.files q fd' = some inode')
    (hnamed : k.dir.entries path = some inode') : False := by
  obtain rfl := Option.some.inj (h.named.symm.trans hnamed)
  cases h.locked.symm.trans (holder_of_lock hlock hopened)

/-! ## What other processes leave alone -/

/-- Another process opens a file. -/
theorem Locks.openFile (h : k.Locks p fd path inode) (hne : p ≠ q)
    (hopen : k.openFile q fd' path' = some k') : k'.Locks p fd path inode := by
  unfold Kernel.openFile at hopen
  split at hopen
  case h_1 => cases hopen
  case h_2 =>
  obtain rfl := Option.some.inj hopen
  refine ⟨?_, Directory.create_entries h.named, h.locked⟩
  change Function.update k.files q _ p fd = some inode
  rw [Function.update_of_ne hne]
  exact h.opened

omit [DecidableEq N] in
/-- Another process unlocks. -/
theorem Locks.unlock (h : k.Locks p fd path inode) (hne : p ≠ q) :
    (k.unlock q fd').Locks p fd path inode := by
  unfold Kernel.unlock
  split
  case h_1 => exact h
  case h_2 inode' hopened =>
  split
  case isFalse => exact h
  case isTrue hheld =>
    have hinode : inode ≠ inode' := by
      rintro rfl
      exact hne (Prod.mk.inj (Option.some.inj (h.locked.symm.trans hheld))).1
    exact ⟨h.opened, h.named, (Function.update_of_ne hinode _ _).trans h.locked⟩

omit [DecidableEq N] in
theorem Locks.close (h : k.Locks p fd path inode) (hne : p ≠ q) :
    (k.close q fd').Locks p fd path inode := by
  have hunlock : (k.unlock q fd').Locks p fd path inode := h.unlock hne
  refine ⟨?_, hunlock.named, hunlock.locked⟩
  change Function.update k.files q _ p fd = some inode
  rw [Function.update_of_ne hne]
  exact h.opened

omit [DecidableEq N] in
/-- Another process ends. -/
theorem Locks.exit (h : k.Locks p fd path inode) (hne : p ≠ q) :
    (k.exit q).Locks p fd path inode := by
  refine ⟨?_, h.named, ?_⟩
  · change Function.update k.files q _ p fd = some inode
    rw [Function.update_of_ne hne]
    exact h.opened
  · change (match k.holder inode with
      | none => none
      | some (r, fd) => if r = q then none else some (r, fd)) = some (p, fd)
    rw [h.locked]
    exact if_neg hne

end Kernel

end FileLocks
