import Mathlib.Data.List.Perm.Basic
import XpuManager.Lib.LastWrite

/-! # Orders of a list

A loop over a list may depend on the order. What holds of its result in every order holds whichever item
comes first, or last. -/

namespace Orders

open LastWrite

variable {α κ ν : Type*} {items : List α} {a : α}

/-- An item may come first. -/
theorem exists_perm_cons (h : a ∈ items) : ∃ rest, (a :: rest).Perm items := by
  obtain ⟨before, after, rfl⟩ := List.append_of_mem h
  exact ⟨before ++ after, List.perm_middle.symm⟩

/-- An item may come last. -/
theorem exists_perm_concat (h : a ∈ items) : ∃ rest, (rest ++ [a]).Perm items := by
  obtain ⟨rest, hperm⟩ := exists_perm_cons h
  exact ⟨rest, (List.perm_append_singleton a rest).trans hperm⟩

/-- **What is found first** in any order is what any item has. -/
theorem forall_perm_findSome?_iff {f : α → Option ν} {P : Option ν → Prop} :
    (∀ items' : List α, items'.Perm items → P (items'.findSome? f)) ↔
      (∀ a ∈ items, ∀ v, f a = some v → P (some v)) ∧ ((∀ a ∈ items, f a = none) → P none) := by
  constructor
  · intro h
    refine ⟨fun a ha v hv => ?_, fun hnone => ?_⟩
    · obtain ⟨rest, hperm⟩ := exists_perm_cons ha
      have hfound := h _ hperm
      rwa [List.findSome?_cons_of_isSome (by rw [hv]; rfl), hv] at hfound
    · have hfound := h items (List.Perm.refl items)
      rwa [List.findSome?_eq_none_iff.mpr hnone] at hfound
  · rintro ⟨hsome, hnone⟩ items' hperm
    cases hfind : items'.findSome? f with
    | none =>
      exact hnone fun a ha => List.findSome?_eq_none_iff.mp hfind a (hperm.mem_iff.mpr ha)
    | some v =>
      obtain ⟨a, ha, hv⟩ := List.exists_of_findSome?_eq_some hfind
      exact hsome a (hperm.mem_iff.mp ha) v hv

theorem forall_perm_find?_iff {p : α → Bool} {P : Option α → Prop} :
    (∀ items' : List α, items'.Perm items → P (items'.find? p)) ↔
      (∀ a ∈ items, p a → P (some a)) ∧ ((∀ a ∈ items, ¬ p a) → P none) := by
  simp only [List.find?_eq_findSome?_guard, forall_perm_findSome?_iff, Option.guard_eq_some_iff,
    Option.guard_eq_none_iff, and_imp, forall_eq', Bool.not_eq_true]

/-- What is found first is the same in any order if all items that have anything have the same. -/
theorem findSome?_perm_iff {f : α → Option ν} :
    (∀ items' : List α, items'.Perm items → items'.findSome? f = items.findSome? f) ↔
      ∀ a ∈ items, ∀ b ∈ items, ∀ v w, f a = some v → f b = some w → v = w := by
  rw [forall_perm_findSome?_iff (P := fun found => found = items.findSome? f)]
  constructor
  · rintro ⟨hfirst, -⟩ a ha b hb v w hv hw
    exact Option.some.inj ((hfirst a ha v hv).trans (hfirst b hb w hw).symm)
  · intro h
    refine ⟨fun a ha v hv => ?_, fun hnone => (List.findSome?_eq_none_iff.mpr hnone).symm⟩
    cases hfind : items.findSome? f with
    | none => rw [← hv, List.findSome?_eq_none_iff.mp hfind a ha]
    | some w =>
      obtain ⟨b, hb, hw⟩ := List.exists_of_findSome?_eq_some hfind
      rw [h a ha b hb v w hv hw]

variable [DecidableEq κ]

/-- **What a slot holds** after the writes of some items in any order is any value written to it. -/
theorem forall_perm_lastWrites_iff {write : α → Option (κ × ν)} {k : κ} {P : Option ν → Prop} :
    (∀ items' : List α, items'.Perm items →
        P (lastWrites (fun _ => none) (items'.filterMap write) k)) ↔
      (∀ a ∈ items, ∀ v, write a = some (k, v) → P (some v)) ∧
        ((∀ a ∈ items, ∀ v, write a ≠ some (k, v)) → P none) := by
  have hmem : ∀ {items' : List α} {v}, (k, v) ∈ items'.filterMap write ↔
      ∃ a ∈ items', write a = some (k, v) := List.mem_filterMap
  constructor
  · intro h
    refine ⟨fun a ha v hwrite => ?_, fun hnone => ?_⟩
    · obtain ⟨rest, hperm⟩ := exists_perm_concat ha
      have hheld := h _ hperm
      rwa [List.filterMap_append, List.filterMap_cons_some hwrite, List.filterMap_nil,
        lastWrites_concat, Function.update_self] at hheld
    · have hheld := h items (List.Perm.refl items)
      cases hlast : lastWrites (fun _ => none) (items.filterMap write) k with
      | none => rwa [hlast] at hheld
      | some v =>
        obtain ⟨a, ha, hwrite⟩ := hmem.mp ((mem_of_lastWrites hlast).resolve_left nofun)
        exact absurd hwrite (hnone a ha v)
  · rintro ⟨hsome, hnone⟩ items' hperm
    cases hlast : lastWrites (fun _ => none) (items'.filterMap write) k with
    | none =>
      refine hnone fun a ha v hwrite => ?_
      obtain ⟨v', hv'⟩ : ∃ v', lastWrites (fun _ => none) (items'.filterMap write) k = some v' :=
        exists_lastWrites (hmem.mpr ⟨a, hperm.mem_iff.mpr ha, hwrite⟩)
      rw [hlast] at hv'
      cases hv'
    | some v =>
      obtain ⟨a, ha, hwrite⟩ := hmem.mp ((mem_of_lastWrites hlast).resolve_left nofun)
      exact hsome a (hperm.mem_iff.mp ha) v hwrite

/-- What a slot holds is the same in any order if all items write the same to it. -/
theorem lastWrites_perm_iff {write : α → Option (κ × ν)} {k : κ} :
    (∀ items' : List α, items'.Perm items →
        lastWrites (fun _ => none) (items'.filterMap write) k =
          lastWrites (fun _ => none) (items.filterMap write) k) ↔
      ∀ a ∈ items, ∀ b ∈ items, ∀ v w, write a = some (k, v) → write b = some (k, w) → v = w := by
  rw [forall_perm_lastWrites_iff
    (P := fun held => held = lastWrites (fun _ => none) (items.filterMap write) k)]
  have hheld : ∀ {v}, lastWrites (fun _ => none) (items.filterMap write) k = some v →
      ∃ a ∈ items, write a = some (k, v) :=
    fun hv => List.mem_filterMap.mp ((mem_of_lastWrites hv).resolve_left nofun)
  constructor
  · rintro ⟨hlast, -⟩ a ha b hb v w hv hw
    exact Option.some.inj ((hlast a ha v hv).trans (hlast b hb w hw).symm)
  · intro h
    refine ⟨fun a ha v hv => ?_, fun hnone => ?_⟩
    · obtain ⟨w, hw⟩ : ∃ w, lastWrites (fun _ => none) (items.filterMap write) k = some w :=
        exists_lastWrites (List.mem_filterMap.mpr ⟨a, ha, hv⟩)
      obtain ⟨b, hb, hwrite⟩ := hheld hw
      rw [hw, h a ha b hb v w hv hwrite]
    · cases hlast : lastWrites (fun _ => none) (items.filterMap write) k with
      | none => rfl
      | some w =>
        obtain ⟨b, hb, hwrite⟩ := hheld hlast
        exact absurd hwrite (hnone b hb w)

end Orders
