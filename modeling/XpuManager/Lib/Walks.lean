import Mathlib.Data.Fintype.Pigeonhole
import Mathlib.Logic.Relation

/-! # Walks from entry to entry

Entries of a list in memory, each of which may name a next one. -/

namespace Walks

open Relation

variable {α : Type*} {next : α → Option α} {a b : α} {m n : ℕ}

/-- The entry that `n` moves lead to. -/
def walk (next : α → Option α) : ℕ → α → Option α
  | 0, a => some a
  | n + 1, a => (next a).bind (walk next n)

/-- An entry names the other as the next one. -/
def Leads (next : α → Option α) (a b : α) : Prop := next a = some b

/-- From `a` on there are only so many moves. -/
def Stops (next : α → Option α) (a : α) : Prop := ∃ n, walk next n a = none

/-- The moves from `a` come to an entry and then back to it. -/
def Circles (next : α → Option α) (a : α) : Prop :=
  ∃ b, ReflTransGen (Leads next) a b ∧ TransGen (Leads next) b b

theorem walk_add (next : α → Option α) (m n : ℕ) (a : α) :
    walk next (m + n) a = (walk next m a).bind (walk next n) := by
  induction m generalizing a with
  | zero => rw [Nat.zero_add]; rfl
  | succ m ih =>
    rw [Nat.succ_add]
    show (next a).bind (walk next (m + n)) = ((next a).bind (walk next m)).bind (walk next n)
    rw [Option.bind_assoc]
    exact congrArg _ (funext ih)

theorem walk_isSome_of_le (hmn : m ≤ n) (h : (walk next n a).isSome) : (walk next m a).isSome := by
  obtain ⟨k, rfl⟩ := Nat.exists_eq_add_of_le hmn
  rw [walk_add] at h
  exact Option.isSome_of_isSome_bind h

theorem reflTransGen_of_walk (h : walk next n a = some b) : ReflTransGen (Leads next) a b := by
  induction n generalizing a with
  | zero =>
    obtain rfl := Option.some.inj h
    exact .refl
  | succ n ih =>
    obtain ⟨c, hnext, hrest⟩ := Option.bind_eq_some_iff.mp h
    exact .head hnext (ih hrest)

theorem transGen_of_walk (h : walk next (n + 1) a = some b) : TransGen (Leads next) a b := by
  obtain ⟨c, hnext, hrest⟩ := Option.bind_eq_some_iff.mp h
  exact .head' hnext (reflTransGen_of_walk hrest)

theorem exists_walk_of_transGen (h : TransGen (Leads next) a b) :
    ∃ n, walk next (n + 1) a = some b := by
  induction h using TransGen.head_induction_on with
  | single hnext => exact ⟨0, Option.bind_eq_some_iff.mpr ⟨_, hnext, rfl⟩⟩
  | head hnext _ ih =>
    obtain ⟨n, hwalk⟩ := ih
    exact ⟨n + 1, Option.bind_eq_some_iff.mpr ⟨_, hnext, hwalk⟩⟩

/-- A walk stops where the rest of it does. -/
theorem stops_iff_of_leads (h : Leads next a b) : Stops next a ↔ Stops next b := by
  have hwalk : ∀ n, walk next (n + 1) a = walk next n b := fun n => by
    show (next a).bind (walk next n) = _
    rw [show next a = some b from h]
    rfl
  constructor
  · rintro ⟨_ | n, hnone⟩
    · cases hnone
    · exact ⟨n, hwalk n ▸ hnone⟩
  · rintro ⟨n, hnone⟩
    exact ⟨n + 1, (hwalk n).trans hnone⟩

theorem stops_iff_of_reflTransGen (h : ReflTransGen (Leads next) a b) :
    Stops next a ↔ Stops next b := by
  induction h with
  | refl => exact Iff.rfl
  | tail _ hnext ih => exact ih.trans (stops_iff_of_leads hnext)

/-- A circle can be walked as often as one likes. -/
theorem not_stops_of_transGen (h : TransGen (Leads next) b b) : ¬ Stops next b := by
  rintro ⟨n, hnone⟩
  obtain ⟨k, hround⟩ := exists_walk_of_transGen h
  have hrounds : ∀ m, walk next (m * (k + 1)) b = some b := by
    intro m
    induction m with
    | zero => rw [Nat.zero_mul]; rfl
    | succ m ih => rw [Nat.succ_mul, walk_add, ih]; exact hround
  have hsome : (walk next n b).isSome :=
    walk_isSome_of_le (Nat.le_mul_of_pos_right n k.succ_pos) (by rw [hrounds n]; rfl)
  rw [hnone] at hsome
  cases hsome

theorem Circles.not_stops (h : Circles next a) : ¬ Stops next a := by
  obtain ⟨b, hcome, hback⟩ := h
  rw [stops_iff_of_reflTransGen hcome]
  exact not_stops_of_transGen hback

/-- With as many moves as there are entries, some entry is met twice. -/
theorem circles_of_walk [Fintype α] (h : (walk next (Fintype.card α) a).isSome) :
    Circles next a := by
  have hsome : ∀ i : Fin (Fintype.card α + 1), (walk next i a).isSome :=
    fun i => walk_isSome_of_le (Nat.le_of_lt_succ i.isLt) h
  obtain ⟨i, j, hne, heq⟩ := Fintype.exists_ne_map_eq_of_card_lt
    (fun i : Fin (Fintype.card α + 1) => (walk next i a).get (hsome i)) (by simp)
  wlog hlt : i < j generalizing i j
  · exact this j i hne.symm heq.symm (lt_of_le_of_ne (not_lt.mp hlt) hne.symm)
  obtain ⟨k, hk⟩ := Nat.exists_eq_add_of_lt hlt
  obtain ⟨b, hi⟩ := Option.isSome_iff_exists.mp (hsome i)
  have hj : walk next j a = some b := by
    rw [← hi]
    exact (Option.get_inj.mp heq).symm
  have hround : walk next (k + 1) b = some b := by
    rwa [hk, Nat.add_assoc, walk_add, hi] at hj
  exact ⟨b, reflTransGen_of_walk hi, transGen_of_walk hround⟩

/-- **A walk among finitely many entries** ends unless it circles. -/
theorem stops_iff_not_circles [Fintype α] : Stops next a ↔ ¬ Circles next a := by
  refine ⟨fun h hcircles => hcircles.not_stops h, fun h => ⟨Fintype.card α, ?_⟩⟩
  exact Option.not_isSome_iff_eq_none.mp fun hsome => h (circles_of_walk hsome)

/-- A walk that ends takes no more moves than there are entries. -/
theorem walk_card_eq_none [Fintype α] (h : Stops next a) : walk next (Fintype.card α) a = none :=
  Option.not_isSome_iff_eq_none.mp fun hsome => (circles_of_walk hsome).not_stops h

end Walks
