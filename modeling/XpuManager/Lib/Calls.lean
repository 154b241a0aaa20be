import Mathlib.Data.List.Basic
import XpuManager.Lib.Prog

/-! # Calls in order

A program that makes one call after another, each of which is recorded, and one of which may leave. A
value is carried from call to call. -/

namespace Calls

variable {α β ρ ι : Type}

/-- How a call leaves, if it does, and what it does to the value otherwise. -/
structure Effect (α β ρ : Type) where
  leaves : α → Option ρ
  note : α → β → β

variable (effect : Effect α β ρ)

/-- What the calls leave. -/
def run : List α → β → ρ ⊕ β
  | [], b => .inr b
  | call :: calls, b =>
    match effect.leaves call with
    | some r => .inl r
    | none => run calls (effect.note call b)

/-- The calls that are made: up to the first that leaves. -/
def made : List α → List α
  | [] => []
  | call :: calls => call :: if (effect.leaves call).isSome then [] else made calls

/-- **A program that makes these calls**, and records them. -/
def Performs (m : β → Prog (List α) (ρ ⊕ β)) (calls : List α) : Prop :=
  ∀ b t, m b t = (.ret (run effect calls b), t ++ made effect calls)

variable {effect} {call : α} {calls later : List α} {b : β}

section Single

theorem run_cons_of_leaves {r : ρ} (h : effect.leaves call = some r) :
    run effect (call :: calls) b = .inl r := by
  rw [run, h]

theorem run_cons_of_note (h : effect.leaves call = none) :
    run effect (call :: calls) b = run effect calls (effect.note call b) := by
  rw [run, h]

theorem made_singleton : made effect [call] = [call] := by
  rw [made, made, ite_self]

theorem made_cons_of_leaves {r : ρ} (h : effect.leaves call = some r) :
    made effect (call :: calls) = [call] := by
  rw [made, h]
  rfl

theorem made_cons_of_note (h : effect.leaves call = none) :
    made effect (call :: calls) = call :: made effect calls := by
  rw [made, h]
  rfl

end Single

/-! ## One after another -/

theorem run_append_of_leaves {r : ρ} (h : run effect calls b = .inl r) :
    run effect (calls ++ later) b = .inl r ∧ made effect (calls ++ later) = made effect calls := by
  induction calls generalizing b with
  | nil => cases h
  | cons call calls ih =>
    rw [List.cons_append]
    cases hcall : effect.leaves call with
    | some r' =>
      rw [run_cons_of_leaves hcall] at h ⊢
      exact ⟨h, by rw [made_cons_of_leaves hcall, made_cons_of_leaves hcall]⟩
    | none =>
      rw [run_cons_of_note hcall] at h ⊢
      rw [made_cons_of_note hcall, made_cons_of_note hcall, (ih h).2]
      exact ⟨(ih h).1, rfl⟩

/-- A run that is done made all its calls, and the later ones go on from its end. -/
theorem run_append_of_done {b' : β} (h : run effect calls b = .inr b') :
    run effect (calls ++ later) b = run effect later b' ∧ made effect calls = calls ∧
      made effect (calls ++ later) = calls ++ made effect later := by
  induction calls generalizing b with
  | nil =>
    obtain rfl := Sum.inr.inj h
    exact ⟨rfl, rfl, rfl⟩
  | cons call calls ih =>
    rw [List.cons_append]
    cases hcall : effect.leaves call with
    | some r =>
      rw [run_cons_of_leaves hcall] at h
      cases h
    | none =>
      rw [run_cons_of_note hcall] at h ⊢
      obtain ⟨hrun, hall, hmade⟩ := ih h
      rw [made_cons_of_note hcall, made_cons_of_note hcall, hall, hmade]
      exact ⟨hrun, rfl, rfl⟩

namespace Performs

theorem nil : Performs effect (fun b => pure (.inr b)) [] := by
  intro b t
  rw [made, List.append_nil]
  rfl

/-- **Loop rule.** A loop makes the calls of its turns. -/
theorem forEach {body : ι → β → Prog (List α) (ρ ⊕ β)} {calls : ι → List α} (is : List ι)
    (h : ∀ i, Performs effect (body i) (calls i)) :
    Performs effect (Prog.forEach body is) (is.flatMap calls) := by
  induction is with
  | nil => exact nil
  | cons i is ih =>
    intro b t
    rw [List.flatMap_cons]
    cases hturn : run effect (calls i) b with
    | inl r =>
      obtain ⟨hrun, hmade⟩ := @run_append_of_leaves _ _ _ effect _ (is.flatMap calls) _ _ hturn
      rw [hrun, hmade]
      exact Prog.forEach_cons_of_leave (by rw [h i, hturn])
    | inr b' =>
      obtain ⟨hrun, hall, hmade⟩ :=
        @run_append_of_done _ _ _ effect _ (is.flatMap calls) _ _ hturn
      rw [hrun, hmade, ← List.append_assoc, ← ih]
      exact Prog.forEach_cons_of_next (by rw [h i, hturn, hall])

end Performs

/-! ## All calls -/

/-- **When all calls are made.** No call that leaves comes before another. -/
theorem made_perm_iff : (made effect calls).Perm calls ↔
    calls.Pairwise fun earlier _ => effect.leaves earlier = none := by
  induction calls with
  | nil => exact iff_of_true .nil .nil
  | cons call calls ih =>
    rw [List.pairwise_cons]
    cases hcall : effect.leaves call with
    | some r =>
      rw [made_cons_of_leaves hcall, List.perm_cons]
      constructor
      · intro hnil
        obtain rfl := List.nil_perm.mp hnil
        exact ⟨fun _ hmem => absurd hmem List.not_mem_nil, .nil⟩
      · rintro ⟨hfirst, -⟩
        cases calls with
        | nil => exact .nil
        | cons other calls => cases hfirst other List.mem_cons_self
    | none =>
      rw [made_cons_of_note hcall, List.perm_cons, ih]
      exact ⟨fun hrest => ⟨fun _ _ => rfl, hrest⟩, fun hall => hall.2⟩

/-- A run that leaves does so at the first call that leaves. -/
theorem run_eq_leave_iff {r : ρ} : run effect calls b = .inl r ↔
    ∃ before call after, calls = before ++ call :: after ∧
      (∀ earlier ∈ before, effect.leaves earlier = none) ∧ effect.leaves call = some r := by
  induction calls generalizing b with
  | nil =>
    constructor
    · intro h
      cases h
    · rintro ⟨before, call, after, heq, -⟩
      cases before <;> cases heq
  | cons call calls ih =>
    cases hcall : effect.leaves call with
    | some r' =>
      rw [run_cons_of_leaves hcall]
      constructor
      · intro h
        obtain rfl := Sum.inl.inj h
        exact ⟨[], call, calls, rfl, fun _ hmem => absurd hmem List.not_mem_nil, hcall⟩
      · rintro ⟨before, other, after, heq, hbefore, hother⟩
        cases before with
        | nil =>
          obtain ⟨rfl, rfl⟩ := List.cons.inj heq
          rw [Option.some.inj (hcall.symm.trans hother)]
        | cons first before =>
          obtain ⟨rfl, rfl⟩ := List.cons.inj heq
          rw [hbefore _ List.mem_cons_self] at hcall
          cases hcall
    | none =>
      rw [run_cons_of_note hcall, ih]
      constructor
      · rintro ⟨before, other, after, rfl, hbefore, hother⟩
        exact ⟨call :: before, other, after, rfl,
          List.forall_mem_cons.mpr ⟨hcall, hbefore⟩, hother⟩
      · rintro ⟨before, other, after, heq, hbefore, hother⟩
        cases before with
        | nil =>
          obtain ⟨rfl, rfl⟩ := List.cons.inj heq
          rw [hcall] at hother
          cases hother
        | cons first before =>
          obtain ⟨rfl, rfl⟩ := List.cons.inj heq
          exact ⟨before, other, after, rfl, (List.forall_mem_cons.mp hbefore).2, hother⟩

/-- A run that does not leave notes all calls. -/
theorem run_eq_done_iff {b' : β} : run effect calls b = .inr b' ↔
    (∀ call ∈ calls, effect.leaves call = none) ∧ calls.foldl (fun b call => effect.note call b) b = b' := by
  induction calls generalizing b with
  | nil =>
    rw [run, Sum.inr.injEq]
    exact ⟨fun h => ⟨fun _ hmem => absurd hmem List.not_mem_nil, h⟩, fun h => h.2⟩
  | cons call calls ih =>
    rw [List.forall_mem_cons, List.foldl_cons]
    cases hcall : effect.leaves call with
    | some r =>
      rw [run_cons_of_leaves hcall]
      exact iff_of_false nofun fun h => nomatch h.1.1
    | none =>
      rw [run_cons_of_note hcall, ih]
      exact ⟨fun h => ⟨⟨rfl, h.1⟩, h.2⟩, fun h => ⟨h.1.2, h.2⟩⟩

end Calls
