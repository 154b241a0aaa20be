import Mathlib.Logic.Function.Iterate
import XpuManager.Lib.Prog

/-! # Polling

A loop that asks for something at regular times, until it is told or a limit is reached. What one
question does to the state is the same each time; only the answers differ. -/

namespace Polling

variable {σ α : Type} {limit interval : Nat}

/-- `while (elapsed < limit)`: ask, and leave with the answer or wait for another `interval`. -/
def turn (limit interval : Nat) (ask : Nat → Prog σ (Option α)) (late : Nat → α) (elapsed : Nat) :
    Prog σ (Nat ⊕ α) :=
  if elapsed < limit then ask elapsed >>= fun
    | some a => pure (.inr a)
    | none => pure (.inl (elapsed + interval))
  else pure (.inr (late elapsed))

variable {ask : Nat → Prog σ (Option α)} {late : Nat → α} {answer : Nat → Option α} {step : σ → σ}

theorem turn_of_answer {elapsed : Nat} {a : α} {s : σ}
    (hask : ∀ elapsed s, ask elapsed s = (.ret (answer elapsed), step s)) (hlt : elapsed < limit)
    (ha : answer elapsed = some a) :
    turn limit interval ask late elapsed s = (.ret (.inr a), step s) := by
  rw [turn, if_pos hlt, Prog.bind_of_ret (hask elapsed s), ha]
  rfl

theorem turn_of_none {elapsed : Nat} {s : σ}
    (hask : ∀ elapsed s, ask elapsed s = (.ret (answer elapsed), step s)) (hlt : elapsed < limit)
    (ha : answer elapsed = none) :
    turn limit interval ask late elapsed s = (.ret (.inl (elapsed + interval)), step s) := by
  rw [turn, if_pos hlt, Prog.bind_of_ret (hask elapsed s), ha]
  rfl

/-- **Polling.** With `n` questions to come, the loop leaves with the first answer that it is given,
or is told nothing and leaves when the limit is reached. -/
theorem loop_turn_cases (hask : ∀ elapsed s, ask elapsed s = (.ret (answer elapsed), step s))
    (hinterval : 0 < interval) {n elapsed : Nat} (hn : limit = elapsed + n * interval)
    (late : Nat → α) (s : σ) :
    (∃ k < n, ∃ a, answer (elapsed + k * interval) = some a ∧
        (∀ j < k, answer (elapsed + j * interval) = none) ∧
        Prog.loop (turn limit interval ask late) (n + 1) elapsed s = (.ret a, step^[k + 1] s)) ∨
      ((∀ k < n, answer (elapsed + k * interval) = none) ∧
        Prog.loop (turn limit interval ask late) (n + 1) elapsed s =
          (.ret (late limit), step^[n] s)) := by
  induction n generalizing elapsed s with
  | zero =>
    rw [Nat.zero_mul, Nat.add_zero] at hn
    subst hn
    refine .inr ⟨fun k hk => absurd hk (Nat.not_lt_zero k), Prog.loop_succ_of_leave ?_⟩
    rw [turn, if_neg (Nat.lt_irrefl _)]
    rfl
  | succ n ih =>
    have hshift (k : Nat) : elapsed + (k + 1) * interval = elapsed + interval + k * interval := by
      rw [Nat.succ_mul, Nat.add_assoc, Nat.add_comm interval]
    have hlt : elapsed < limit := by
      rw [hn, hshift]
      omega
    cases hanswer : answer elapsed with
    | some a =>
      refine .inl ⟨0, Nat.succ_pos n, a, ?_, fun j hj => absurd hj (Nat.not_lt_zero j),
        Prog.loop_succ_of_leave (turn_of_answer hask hlt hanswer)⟩
      rw [Nat.zero_mul, Nat.add_zero, hanswer]
    | none =>
      have hfirst : answer (elapsed + 0 * interval) = none := by
        rw [Nat.zero_mul, Nat.add_zero, hanswer]
      rw [Prog.loop_succ_of_turn (turn_of_none hask hlt hanswer)]
      rcases ih (hn.trans (hshift n)) (step s) with ⟨k, hk, a, ha, hbefore, hloop⟩ | ⟨hnone, hloop⟩
      · refine .inl ⟨k + 1, Nat.succ_lt_succ hk, a, ?_, fun j hj => ?_, ?_⟩
        · rw [hshift, ha]
        · cases j with
          | zero => exact hfirst
          | succ j =>
            rw [hshift]
            exact hbefore j (Nat.lt_of_succ_lt_succ hj)
        · rw [hloop, Function.iterate_succ_apply step (k + 1)]
      · refine .inr ⟨fun k hk => ?_, ?_⟩
        · cases k with
          | zero => exact hfirst
          | succ k =>
            rw [hshift]
            exact hnone k (Nat.lt_of_succ_lt_succ hk)
        · rw [hloop, Function.iterate_succ_apply]

end Polling
