import Mathlib.Data.List.Basic
import Mathlib.Logic.Function.Basic
import Mathlib.Logic.Relation
import Mathlib.Order.WellFounded

/-! # Threads and mutexes

Threads take and release mutexes, and wait for each other to end. A point of a program says which
mutexes a thread holds there, and what it waits for. -/

namespace Mutexes

variable {T L P : Type}

/-- Where each thread is, and who has each mutex. -/
structure Threads (T L P : Type) where
  pc : T → P
  holder : L → Option T

namespace Threads

variable [DecidableEq T] [DecidableEq L]

/-- A thread takes a mutex that nobody has. -/
def lock (s : Threads T L P) (l : L) (t : T) (p : P) : Option (Threads T L P) :=
  if s.holder l = none then
    some { pc := Function.update s.pc t p, holder := Function.update s.holder l (some t) }
  else none

/-- A thread releases some mutexes, or none. -/
def unlock (s : Threads T L P) (ls : List L) (t : T) (p : P) : Threads T L P where
  pc := Function.update s.pc t p
  holder l := if l ∈ ls then none else s.holder l

end Threads

/-- What the points of a program say about a thread. The mutexes are in the order they are taken in. -/
structure Discipline (T L P : Type) where
  holds : P → List L
  nodup : ∀ p, (holds p).Nodup
  wants : P → Option L
  joins : P → Option T
  gone : P → Bool

variable (d : Discipline T L P)

/-- Each mutex belongs to the thread that holds it. -/
def Accounted (s : Threads T L P) : Prop := ∀ l t, s.holder l = some t ↔ l ∈ d.holds (s.pc t)

/-- A thread that cannot go on before another one does. -/
def WaitsFor (s : Threads T L P) (t u : T) : Prop :=
  (∃ l, d.wants (s.pc t) = some l ∧ s.holder l = some u) ∨
    d.joins (s.pc t) = some u ∧ d.gone (s.pc u) = false

/-- A cycle of threads, each waiting for the next. -/
def Deadlock (s : Threads T L P) : Prop := ∃ t, Relation.TransGen (WaitsFor d s) t t

/-- Each chain of waiting threads that begins with this one ends. -/
def Ends (s : Threads T L P) (t : T) : Prop := Acc (fun u v => WaitsFor d s v u) t

variable {d} {s s' : Threads T L P} {l : L} {ls : List L} {t u : T} {p : P}

/-! ## Who has a mutex -/

theorem Accounted.eq_of_mem (h : Accounted d s) (ht : l ∈ d.holds (s.pc t)) (hu : l ∈ d.holds (s.pc u)) :
    t = u :=
  Option.some.inj (((h l t).mpr ht).symm.trans ((h l u).mpr hu))

section

variable [DecidableEq T] [DecidableEq L]

theorem lock_eq_some (h : s.lock l t p = some s') : s.holder l = none ∧
    s' = { pc := Function.update s.pc t p, holder := Function.update s.holder l (some t) } := by
  obtain ⟨hnone, hs'⟩ := Option.ite_none_right_eq_some.mp h
  exact ⟨hnone, (Option.some.inj hs').symm⟩

/-- A thread that has taken a mutex is where it holds one more. -/
theorem Accounted.lock (hs : Accounted d s) (h : s.lock l t p = some s')
    (hholds : d.holds p = d.holds (s.pc t) ++ [l]) : Accounted d s' := by
  obtain ⟨hnone, rfl⟩ := lock_eq_some h
  have hp : ∀ m, m ∈ d.holds p ↔ m ∈ d.holds (s.pc t) ∨ m = l := fun m => by
    rw [hholds, List.mem_append, List.mem_singleton]
  intro m u
  by_cases hm : m = l
  · subst hm
    by_cases hu : u = t
    · subst hu
      simp [hp]
    · have hfree : m ∉ d.holds (s.pc u) := fun hmem => by
        rw [(hs m u).mpr hmem] at hnone
        exact nomatch hnone
      simp [Function.update_of_ne hu, Ne.symm hu, hfree]
  · by_cases hu : u = t
    · subst hu
      simp [hp, hm, hs m u]
    · simp [Function.update_of_ne hm, Function.update_of_ne hu, hs m u]

/-- A thread that has released some mutexes, the last one first, is where it holds the others. -/
theorem Accounted.unlock (hs : Accounted d s) (hholds : d.holds (s.pc t) = d.holds p ++ ls.reverse) :
    Accounted d (s.unlock ls t p) := by
  have hdisjoint := (List.nodup_append.mp (hholds ▸ d.nodup (s.pc t))).2.2
  have hls : ∀ m ∈ ls, m ∈ d.holds (s.pc t) := fun m hm => by
    rw [hholds]
    exact List.mem_append_right _ (List.mem_reverse.mpr hm)
  have hp : ∀ m, m ∉ ls → (m ∈ d.holds p ↔ m ∈ d.holds (s.pc t)) := fun m hm => by
    rw [hholds, List.mem_append, List.mem_reverse, or_iff_left hm]
  intro m u
  dsimp only [Threads.unlock]
  by_cases hm : m ∈ ls
  · rw [if_pos hm]
    refine iff_of_false nofun fun hmem => ?_
    by_cases hu : u = t
    · subst hu
      rw [Function.update_self] at hmem
      exact hdisjoint m hmem m (List.mem_reverse.mpr hm) rfl
    · rw [Function.update_of_ne hu] at hmem
      exact hu (hs.eq_of_mem hmem (hls m hm))
  · rw [if_neg hm, hs m u]
    by_cases hu : u = t
    · subst hu
      rw [Function.update_self, hp m hm]
    · rw [Function.update_of_ne hu]

end

/-! ## Chains of waiting threads -/

/-- There is no deadlock where all chains of waiting threads end. -/
theorem not_deadlock (h : ∀ t, Ends d s t) : ¬Deadlock d s := by
  rintro ⟨t, ht⟩
  have hwf : WellFounded (Relation.TransGen fun u v => WaitsFor d s v u) := WellFounded.transGen ⟨h⟩
  exact hwf.irrefl.irrefl t (Relation.transGen_swap.mpr ht)

/-- A thread that waits for nothing. -/
theorem ends_of_free (hwants : d.wants (s.pc t) = none) (hjoins : d.joins (s.pc t) = none) :
    Ends d s t := by
  refine Acc.intro t fun u hu => ?_
  rcases hu with ⟨l, hl, -⟩ | ⟨hu, -⟩
  · exact nomatch hwants.symm.trans hl
  · exact nomatch hjoins.symm.trans hu

/-- A thread that waits for a mutex, if it ends for those who may have it. -/
theorem ends_of_wants (hwants : d.wants (s.pc t) = some l) (hjoins : d.joins (s.pc t) = none)
    (h : ∀ u, s.holder l = some u → Ends d s u) : Ends d s t := by
  refine Acc.intro t fun u hu => ?_
  rcases hu with ⟨m, hm, hholder⟩ | ⟨hu, -⟩
  · obtain rfl := Option.some.inj (hwants.symm.trans hm)
    exact h u hholder
  · exact nomatch hjoins.symm.trans hu

/-- A thread that waits for the end of another one. -/
theorem ends_of_joins (hwants : d.wants (s.pc t) = none) (hjoins : d.joins (s.pc t) = some u)
    (h : d.gone (s.pc u) = false → Ends d s u) : Ends d s t := by
  refine Acc.intro t fun v hv => ?_
  rcases hv with ⟨l, hl, -⟩ | ⟨hv, hgone⟩
  · exact nomatch hwants.symm.trans hl
  · obtain rfl := Option.some.inj (hjoins.symm.trans hv)
    exact h hgone

end Mutexes
