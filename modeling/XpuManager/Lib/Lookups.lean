import XpuManager.Lib.Prog

/-! # Programs that look something up first

Many programs read and check some things before they change any, and give up when a check fails.
What they look up is then a function of what they can see of the state. -/

namespace Lookups

open Prog

variable {σ ρ α β γ : Type}

/-- What is seen of a state, and a relation of states between which it does not change. -/
structure Observation (σ ρ : Type) where
  Quiet : σ → σ → Prop
  seen : σ → ρ
  refl : ∀ s, Quiet s s
  trans : ∀ {s t u}, Quiet s t → Quiet t u → Quiet s u
  seen_eq : ∀ {s t}, Quiet s t → seen t = seen s

/-- The program changes nothing that is seen, and returns what is found there. It may end in another
way where nothing is found. -/
structure Finds (O : Observation σ ρ) (m : Prog σ (Option α)) (v : ρ → Option α) : Prop where
  quiet : ∀ s, O.Quiet s (m s).2
  ret_iff : ∀ s a, (m s).1 = .ret (some a) ↔ v (O.seen s) = some a

/-- The program goes on with what is found as `k` does; where nothing is found it changes nothing
that is seen. -/
structure Leads (O : Observation σ ρ) (m : Prog σ β) (v : ρ → Option α) (k : α → Prog σ β) : Prop where
  none : ∀ s, v (O.seen s) = none → O.Quiet s (m s).2
  some : ∀ s a, v (O.seen s) = some a → ∃ t, O.Quiet s t ∧ m s = k a t

variable {O : Observation σ ρ}

/-! ## Finding -/

namespace Finds

variable {m : Prog σ (Option α)} {v : ρ → Option α} {s : σ}

theorem pure (a : Option α) : Finds O (Pure.pure a) fun _ => a :=
  ⟨fun s => O.refl s, fun s a' => by rw [pure_apply, Outcome.ret.injEq]⟩

/-- What is seen decides between two programs. -/
theorem ite {n : Prog σ (Option α)} {w : ρ → Option α} (c : Prop) [Decidable c] (hm : Finds O m v)
    (hn : Finds O n w) : Finds O (if c then m else n) fun x => if c then v x else w x := by
  by_cases hc : c
  · simpa only [if_pos hc] using hm
  · simpa only [if_neg hc] using hn

/-- A value that is there or not. -/
theorem ofOption_bind (a : Option α) {f : α → Prog σ (Option β)} {w : α → ρ → Option β}
    (hf : ∀ a, Finds O (f a) (w a)) : Finds O (ofOption a >>= f) fun x => a >>= fun a => w a x := by
  cases a with
  | none => exact ⟨fun s => O.refl s, fun s b => iff_of_false nofun nofun⟩
  | some a => exact hf a

/-- Without the value the run ends. -/
theorem of_option (a : Option α) :
    Finds O (ofOption a >>= fun a => Pure.pure (some a)) fun _ => a := by
  cases a with
  | none => exact ⟨fun s => O.refl s, fun s b => iff_of_false nofun nofun⟩
  | some a => exact pure (some a)

/-- A program that always returns. -/
theorem bind_of_ret {m : Prog σ γ} {g : ρ → γ} {f : γ → Prog σ (Option β)} {w : γ → ρ → Option β}
    (hquiet : ∀ s, O.Quiet s (m s).2) (hret : ∀ s, (m s).1 = .ret (g (O.seen s)))
    (hf : ∀ c, Finds O (f c) (w c)) : Finds O (m >>= f) fun x => w (g x) x := by
  refine ⟨fun s => ?_, fun s b => ?_⟩
  · rw [Prog.bind_of_ret (eq_of_fst_eq (hret s))]
    exact O.trans (hquiet s) ((hf _).quiet _)
  · rw [Prog.bind_of_ret (eq_of_fst_eq (hret s)), (hf _).ret_iff, O.seen_eq (hquiet s)]

/-- Where something is found it is looked further, else nothing is found. -/
theorem bind {f : Option α → Prog σ (Option β)} {w : α → ρ → Option β} (hm : Finds O m v)
    (hnone : f none = Pure.pure none) (hf : ∀ a, Finds O (f (some a)) (w a)) :
    Finds O (m >>= f) fun x => v x >>= fun a => w a x := by
  refine ⟨fun s => ?_, fun s b => ?_⟩
  · rcases hrun : m s with ⟨(_ | a) | _ | _, t⟩
    all_goals
      have hquiet := hm.quiet s
      rw [hrun] at hquiet
    · rw [Prog.bind_of_ret hrun, hnone]
      exact hquiet
    · rw [Prog.bind_of_ret hrun]
      exact O.trans hquiet ((hf a).quiet t)
    · rw [bind_of_fault hrun]
      exact hquiet
    · rw [bind_of_cut hrun]
      exact hquiet
  · constructor
    · intro h
      obtain ⟨a, t, hrun, hrest⟩ := bind_eq_ret_iff.mp (eq_of_fst_eq h)
      have hquiet := hm.quiet s
      rw [hrun] at hquiet
      cases a with
      | none =>
        rw [hnone] at hrest
        cases (pure_eq_ret_iff.mp hrest).1
      | some a =>
        have hv := (hm.ret_iff s a).mp (congrArg Prod.fst hrun)
        have hw := ((hf a).ret_iff t b).mp (congrArg Prod.fst hrest)
        rw [O.seen_eq hquiet] at hw
        rw [hv]
        exact hw
    · intro h
      obtain ⟨a, hv, hw⟩ := Option.bind_eq_some_iff.mp h
      have hrun := eq_of_fst_eq ((hm.ret_iff s a).mpr hv)
      rw [Prog.bind_of_ret hrun, (hf a).ret_iff, O.seen_eq (hm.quiet s)]
      exact hw

end Finds

/-! ## Going on -/

namespace Leads

variable {m : Prog σ (Option α)} {v : ρ → Option α} {k : γ → Prog σ β}

/-- Nothing more is looked up. -/
theorem of_found {n : Prog σ β} (c : γ) (h : n = k c) : Leads O n (fun _ => Option.some c) k :=
  ⟨nofun, fun s _ hc => ⟨s, O.refl s, by rw [h, Option.some.inj hc]⟩⟩

/-- The program gives up. -/
theorem of_quiet {n : Prog σ β} (h : ∀ s, O.Quiet s (n s).2) : Leads O n (fun _ => Option.none) k :=
  ⟨fun s _ => h s, nofun⟩

/-- The value of the state decides between giving up and going on. -/
theorem ite {n n' : Prog σ β} {w : ρ → Option γ} (c : Prop) [Decidable c]
    (hn : ∀ s, O.Quiet s (n s).2) (hn' : Leads O n' w k) :
    Leads O (if c then n else n') (fun x => if c then Option.none else w x) k := by
  by_cases hc : c
  · simpa only [if_pos hc] using of_quiet hn
  · simpa only [if_neg hc] using hn'

theorem ofOption_bind (a : Option α) {f : α → Prog σ β} {w : α → ρ → Option γ}
    (hf : ∀ a' ∈ a, Leads O (f a') (w a') k) :
    Leads O (ofOption a >>= f) (fun x => a >>= fun a => w a x) k := by
  cases a with
  | none => exact of_quiet fun s => O.refl s
  | some a => exact hf a rfl

/-- Where something is found the program goes on, else it gives up. -/
theorem bind {f : Option α → Prog σ β} {w : α → ρ → Option γ} (hm : Finds O m v)
    (hnone : ∀ s, O.Quiet s (f Option.none s).2)
    (hf : ∀ a x, v x = Option.some a → Leads O (f (Option.some a)) (w a) k) :
    Leads O (m >>= f) (fun x => v x >>= fun a => w a x) k := by
  refine ⟨fun s h => ?_, fun s c h => ?_⟩
  · have hquiet := hm.quiet s
    rcases hrun : m s with ⟨(_ | a) | _ | _, t⟩
    all_goals rw [hrun] at hquiet
    · rw [Prog.bind_of_ret hrun]
      exact O.trans hquiet (hnone t)
    · rw [Prog.bind_of_ret hrun]
      have hv := (hm.ret_iff s a).mp (congrArg Prod.fst hrun)
      rw [hv] at h
      refine O.trans hquiet ((hf a _ hv).none t ?_)
      rw [O.seen_eq hquiet]
      exact h
    · rw [bind_of_fault hrun]
      exact hquiet
    · rw [bind_of_cut hrun]
      exact hquiet
  · obtain ⟨a, hv, hw⟩ := Option.bind_eq_some_iff.mp h
    have hrun := eq_of_fst_eq ((hm.ret_iff s a).mpr hv)
    rw [← O.seen_eq (hm.quiet s)] at hw
    obtain ⟨t, hquiet, hrest⟩ := (hf a _ hv).some _ c hw
    exact ⟨t, O.trans (hm.quiet s) hquiet, (Prog.bind_of_ret hrun).trans hrest⟩

end Leads

end Lookups
