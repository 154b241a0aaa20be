import XpuManager.Lib.Prog

/-! # Programs on a part of the state

A program runs on a larger state than its own, of which its own is a part. -/

namespace Prog

variable {σ τ α β ρ ι : Type} {view : τ → σ} {put : σ → τ → τ} {m : Prog σ α}

/-- Run `m` on the part that `view` shows, and put back what it leaves there. -/
def zoom (view : τ → σ) (put : σ → τ → τ) (m : Prog σ α) : Prog τ α := fun t =>
  ((m (view t)).1, put (m (view t)).2 t)

/-- The run on the part decides. -/
theorem zoom_of_eq {o : Outcome α} {s : σ} {t : τ} (h : m (view t) = (o, s)) :
    zoom view put m t = (o, put s t) := by
  rw [zoom, h]

/-- **A relation between parts** that shows as one between the larger states. -/
theorem Within.zoom {R : σ → σ → Prop} {S : τ → τ → Prop} (h : Within R m)
    (hput : ∀ s t, R (view t) s → S t (put s t)) : Within S (zoom view put m) :=
  fun t => hput _ t (h (view t))

/-! ## Programs that run on the larger state themselves -/

/-- Wherever `I` holds, `m'` ends as `m` does on the part, leaves it as `m` does, and keeps `I`. -/
def Mirrors (view : τ → σ) (I : τ → Prop) (m' : Prog τ α) (m : Prog σ α) : Prop :=
  ∀ t, I t → (m' t).1 = (m (view t)).1 ∧ view (m' t).2 = (m (view t)).2 ∧ I (m' t).2

namespace Mirrors

variable {I : τ → Prop} {m' : Prog τ α}

/-- A run on the part is one on the larger state. -/
theorem run {t : τ} {o : Outcome α} {s : σ} (h : Mirrors view I m' m) (ht : I t)
    (hm : m (view t) = (o, s)) : ∃ t', m' t = (o, t') ∧ view t' = s ∧ I t' := by
  obtain ⟨ho, hview, hI⟩ := h t ht
  rw [hm] at ho hview
  exact ⟨_, Prod.ext ho rfl, hview, hI⟩

theorem pure (a : α) : Mirrors view I (Pure.pure a) (Pure.pure a) := fun _ ht => ⟨rfl, rfl, ht⟩

theorem fault : Mirrors view I (Prog.fault : Prog τ α) Prog.fault := fun _ ht => ⟨rfl, rfl, ht⟩

theorem cut : Mirrors view I (Prog.cut : Prog τ α) Prog.cut := fun _ ht => ⟨rfl, rfl, ht⟩

theorem zoom (hview : ∀ s t, view (put s t) = s) (hput : ∀ s t, I t → I (put s t)) :
    Mirrors view I (Prog.zoom view put m) m :=
  fun _ ht => ⟨rfl, hview _ _, hput _ _ ht⟩

/-- One after the other. -/
theorem bind {f' : α → Prog τ β} {f : α → Prog σ β} (hm : Mirrors view I m' m)
    (hf : ∀ a, Mirrors view I (f' a) (f a)) : Mirrors view I (m' >>= f') (m >>= f) := by
  intro t ht
  rcases hrun : m (view t) with ⟨a | _ | _, s⟩
  · obtain ⟨t', hrun', rfl, ht'⟩ := hm.run ht hrun
    rw [bind_of_ret hrun', bind_of_ret hrun]
    exact hf a t' ht'
  · obtain ⟨t', hrun', rfl, ht'⟩ := hm.run ht hrun
    rw [bind_of_fault hrun', bind_of_fault hrun]
    exact ⟨rfl, rfl, ht'⟩
  · obtain ⟨t', hrun', rfl, ht'⟩ := hm.run ht hrun
    rw [bind_of_cut hrun', bind_of_cut hrun]
    exact ⟨rfl, rfl, ht'⟩

theorem ite {c : Prop} [Decidable c] {n' : Prog τ α} {n : Prog σ α} (hm : Mirrors view I m' m)
    (hn : Mirrors view I n' n) : Mirrors view I (if c then m' else n') (if c then m else n) := by
  split
  · exact hm
  · exact hn

theorem chain [DecidableEq α] {ok : α} {k' : Prog τ α} {k : Prog σ α} (hm : Mirrors view I m' m)
    (hk : Mirrors view I k' k) : Mirrors view I (chain ok m' k') (chain ok m k) :=
  hm.bind fun _ => hk.ite (pure _)

theorem loop {body' : β → Prog τ (β ⊕ α)} {body : β → Prog σ (β ⊕ α)}
    (h : ∀ b, Mirrors view I (body' b) (body b)) (n : Nat) (b : β) :
    Mirrors view I (loop body' n b) (loop body n b) := by
  induction n generalizing b with
  | zero => exact cut
  | succ n ih =>
    refine (h b).bind fun r => ?_
    rcases r with b' | a
    · exact ih b'
    · exact pure a

theorem forEach {body' : ι → β → Prog τ (ρ ⊕ β)} {body : ι → β → Prog σ (ρ ⊕ β)}
    (h : ∀ i b, Mirrors view I (body' i b) (body i b)) (is : List ι) (b : β) :
    Mirrors view I (forEach body' is b) (forEach body is b) := by
  induction is generalizing b with
  | nil => exact pure _
  | cons i is ih =>
    refine (h i b).bind fun r => ?_
    rcases r with r | b'
    · exact pure _
    · exact ih b'

end Mirrors

end Prog
