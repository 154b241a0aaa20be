import Mathlib.Data.List.Induction
import Mathlib.Logic.Function.Basic

/-! # Slots that keep the last value written

A list of writes to slots that were empty before. Where no two writes disagree about a slot, their
order does not matter. -/

namespace LastWrite

variable {κ ν : Type*} [DecidableEq κ]

/-- What the slots hold after the writes. -/
def lastWrites (slots : κ → Option ν) (writes : List (κ × ν)) : κ → Option ν :=
  writes.foldl (fun slots write => Function.update slots write.1 (some write.2)) slots

/-- No two writes disagree about a slot. -/
def Agree (writes : List (κ × ν)) : Prop :=
  ∀ k v v', (k, v) ∈ writes → (k, v') ∈ writes → v = v'

section

variable {slots : κ → Option ν} {writes writes' : List (κ × ν)} {k : κ} {v : ν}

@[simp] theorem lastWrites_nil : lastWrites slots [] = slots := rfl

theorem lastWrites_append :
    lastWrites slots (writes ++ writes') = lastWrites (lastWrites slots writes) writes' :=
  List.foldl_append

theorem lastWrites_concat (write : κ × ν) : lastWrites slots (writes ++ [write]) =
    Function.update (lastWrites slots writes) write.1 (some write.2) :=
  lastWrites_append

/-- A slot holds what it held, or what was written to it. -/
theorem mem_of_lastWrites (h : lastWrites slots writes k = some v) :
    slots k = some v ∨ (k, v) ∈ writes := by
  induction writes using List.reverseRecOn with
  | nil => exact .inl h
  | append_singleton writes write ih =>
    rw [lastWrites_concat] at h
    by_cases hk : k = write.1
    · subst hk
      rw [Function.update_self] at h
      obtain rfl := Option.some.inj h
      exact .inr (List.mem_append_right _ (List.mem_singleton.mpr rfl))
    · rw [Function.update_of_ne hk] at h
      exact (ih h).imp_right (List.mem_append_left _)

/-- A slot that was written holds something. -/
theorem exists_lastWrites (h : (k, v) ∈ writes) : ∃ v', lastWrites slots writes k = some v' := by
  induction writes using List.reverseRecOn with
  | nil => exact absurd h List.not_mem_nil
  | append_singleton writes write ih =>
    rw [lastWrites_concat]
    by_cases hk : k = write.1
    · exact ⟨write.2, by rw [hk, Function.update_self]⟩
    · rw [Function.update_of_ne hk]
      refine ih ((List.mem_append.mp h).resolve_right fun hmem => ?_)
      exact hk (congrArg Prod.fst (List.mem_singleton.mp hmem))

/-- Where the writes agree, each of them is kept, and nothing else. -/
theorem lastWrites_eq_some_iff (h : Agree writes) :
    lastWrites (fun _ => none) writes k = some v ↔ (k, v) ∈ writes := by
  constructor
  · exact fun hk => (mem_of_lastWrites hk).resolve_left (by simp)
  · intro hmem
    obtain ⟨v', hv'⟩ : ∃ v', lastWrites (fun _ => none) writes k = some v' := exists_lastWrites hmem
    have hmem' : (k, v') ∈ writes := (mem_of_lastWrites hv').resolve_left (by simp)
    rw [hv', h k v' v hmem' hmem]

/-- What the slots held is there where nothing was written. -/
theorem lastWrites_eq_or :
    lastWrites slots writes k = (lastWrites (fun _ => none) writes k).or (slots k) := by
  induction writes using List.reverseRecOn with
  | nil => rfl
  | append_singleton writes write ih =>
    rw [lastWrites_concat, lastWrites_concat]
    by_cases hk : k = write.1
    · rw [hk, Function.update_self, Function.update_self, Option.some_or]
    · rw [Function.update_of_ne hk, Function.update_of_ne hk, ih]

/-- A slot that is not written holds what it held. -/
theorem lastWrites_of_forall_not_mem (h : ∀ v, (k, v) ∉ writes) : lastWrites slots writes k = slots k := by
  have hnone : lastWrites (fun _ => none) writes k = none := by
    refine Option.eq_none_iff_forall_ne_some.mpr fun v hv => ?_
    exact h v ((mem_of_lastWrites hv).resolve_left nofun)
  rw [lastWrites_eq_or, hnone, Option.none_or]

/-- A write is kept if the later ones write the same. -/
theorem lastWrites_append_cons_iff {later : List (κ × ν)} :
    lastWrites slots (writes ++ (k, v) :: later) k = some v ↔
      ∀ w ∈ lastWrites (fun _ => none) later k, w = v := by
  have hlater : lastWrites slots (writes ++ (k, v) :: later) k =
      (lastWrites (fun _ => none) later k).or (some v) := by
    rw [List.append_cons, lastWrites_append, lastWrites_eq_or, lastWrites_concat, Function.update_self]
  rw [hlater]
  cases lastWrites (fun _ => none) later k with
  | none => exact iff_of_true rfl nofun
  | some w =>
    constructor
    · intro h w' hw'
      obtain rfl := Option.some.inj hw'
      exact Option.some.inj h
    · exact fun h => congrArg some (h w rfl)

/-- Where the writes agree, each of them is kept, and what was held where nothing was written. -/
theorem lastWrites_eq_some_iff_or (h : Agree writes) : lastWrites slots writes k = some v ↔
    (k, v) ∈ writes ∨ (∀ v', (k, v') ∉ writes) ∧ slots k = some v := by
  have hnone : lastWrites (fun _ => none) writes k = none ↔ ∀ v', (k, v') ∉ writes := by
    simp only [← lastWrites_eq_some_iff h, Option.eq_none_iff_forall_ne_some]
  rw [lastWrites_eq_or, Option.or_eq_some_iff, lastWrites_eq_some_iff h, hnone]

end

end LastWrite
