import XpuManager.Lib.Prog

/-! # Parsers and encoders

A parser is a program whose state is the input it has not read yet. -/

namespace Prog

variable {α β σ : Type}

/-- The parser reads `bs`, whatever comes behind, and returns `a`. -/
def Consumes (p : Prog (List σ) α) (bs : List σ) (a : α) : Prop :=
  ∀ rest, p (bs ++ rest) = (.ret a, rest)

/-- What the parser reads is the encoding of what it returns. -/
def Accepts (p : Prog (List σ) α) (encode : α → List σ) : Prop :=
  ∀ {bs a rest}, p bs = (.ret a, rest) → bs = encode a ++ rest

namespace Consumes

theorem pure (a : α) : Consumes (Pure.pure a : Prog (List σ) α) [] a := fun _ => rfl

/-- One parser after the other reads one input after the other. -/
theorem bind {p : Prog (List σ) α} {f : α → Prog (List σ) β} {bs bs' : List σ} {a : α} {b : β}
    (hp : Consumes p bs a) (hf : Consumes (f a) bs' b) : Consumes (p >>= f) (bs ++ bs') b := by
  intro rest
  rw [List.append_assoc, Prog.bind_of_ret (hp _)]
  exact hf rest

/-- A last parser whose value is put into the result. -/
theorem map {p : Prog (List σ) α} {f : α → β} {bs : List σ} {a : α} (hp : Consumes p bs a) :
    Consumes (p >>= fun x => Pure.pure (f x)) bs (f a) := by
  intro rest
  rw [Prog.bind_of_ret (hp _)]
  rfl

end Consumes

/-- With `k` symbols the parser comes to an end, and has not read more. -/
def Needs (k : Nat) (p : Prog (List σ) α) : Prop :=
  ∀ bs, k ≤ bs.length → ∃ a rest, p bs = (.ret a, rest) ∧ bs.length ≤ rest.length + k

namespace Needs

variable {p : Prog (List σ) α} {f : α → Prog (List σ) β} {k k' : Nat}

theorem pure (a : α) : Needs 0 (Pure.pure a : Prog (List σ) α) :=
  fun bs _ => ⟨a, bs, rfl, Nat.le_refl _⟩

theorem mono (h : Needs k p) (hle : k ≤ k') : Needs k' p := by
  intro bs hbs
  obtain ⟨a, rest, hp, hrest⟩ := h bs (Nat.le_trans hle hbs)
  exact ⟨a, rest, hp, by omega⟩

/-- One parser after the other needs what both need. -/
theorem bind (hp : Needs k p) (hf : ∀ a, Needs k' (f a)) : Needs (k + k') (p >>= f) := by
  intro bs hbs
  obtain ⟨a, t, ha, ht⟩ := hp bs (by omega)
  obtain ⟨b, rest, hb, hrest⟩ := hf a t (by omega)
  exact ⟨b, rest, (Prog.bind_of_ret ha).trans hb, by omega⟩

end Needs

end Prog
