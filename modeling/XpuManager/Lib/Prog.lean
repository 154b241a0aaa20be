import Mathlib.Logic.Basic
import Mathlib.Logic.Relation
import Mathlib.Order.Defs.Unbundled
import Mathlib.Data.List.Basic

/-! # Imperative programs as state transformers

A shallow embedding of imperative code over an arbitrary state `σ`. A program `Prog σ α` maps a
state to an `Outcome` and a final state; the final state is kept even when the run does not
return, so that what a program did before it got stuck stays visible. -/

/-- How a run ends: with a value, in undefined behaviour, or out of fuel. -/
inductive Outcome (α : Type) where
  | ret (a : α)
  | fault
  | cut
  deriving DecidableEq, Repr

/-- A program over the state `σ` with result `α`. -/
def Prog (σ α : Type) : Type := σ → Outcome α × σ

namespace Prog

variable {σ α β γ ρ ι : Type}

/-! ## The monad -/

/-- Continue with `f` when `m` returned; undefined behaviour and spent fuel end the run. -/
protected def bind (m : Prog σ α) (f : α → Prog σ β) : Prog σ β := fun s =>
  match m s with
  | (.ret a, s') => f a s'
  | (.fault, s') => (.fault, s')
  | (.cut, s') => (.cut, s')

instance : Monad (Prog σ) where
  pure a := fun s => (.ret a, s)
  bind := Prog.bind

/-- Read the state. -/
def get : Prog σ σ := fun s => (.ret s, s)

/-- Update the state. -/
def modify (f : σ → σ) : Prog σ Unit := fun s => (.ret (), f s)

/-- Undefined behaviour. -/
def fault : Prog σ α := fun s => (.fault, s)

/-- The fuel is spent. -/
def cut : Prog σ α := fun s => (.cut, s)

/-- A computation without state; `none` is undefined behaviour. -/
def ofOption : Option α → Prog σ α
  | none => fault
  | some a => pure a

@[simp] theorem ofOption_none : (ofOption none : Prog σ α) = fault := rfl

@[simp] theorem ofOption_some (a : α) : (ofOption (some a) : Prog σ α) = pure a := rfl

@[simp] theorem pure_apply (a : α) (s : σ) : (pure a : Prog σ α) s = (.ret a, s) := rfl

@[simp] theorem get_apply (s : σ) : (get : Prog σ σ) s = (.ret s, s) := rfl

@[simp] theorem modify_apply (f : σ → σ) (s : σ) : modify f s = (.ret (), f s) := rfl

@[simp] theorem fault_apply (s : σ) : (fault : Prog σ α) s = (.fault, s) := rfl

@[simp] theorem cut_apply (s : σ) : (cut : Prog σ α) s = (.cut, s) := rfl

@[simp] protected theorem ite_apply (c : Prop) [Decidable c] (m n : Prog σ α) (s : σ) :
    (if c then m else n) s = if c then m s else n s := by
  split <;> rfl

/-- A bind whose first half returns runs its continuation. -/
theorem bind_of_ret {m : Prog σ α} {f : α → Prog σ β} {s s' : σ} {a : α}
    (h : m s = (.ret a, s')) : (m >>= f) s = f a s' := by
  change Prog.bind m f s = _
  simp only [Prog.bind, h]

/-- A bind whose first half faults faults in the same state. -/
theorem bind_of_fault {m : Prog σ α} {f : α → Prog σ β} {s s' : σ}
    (h : m s = (.fault, s')) : (m >>= f) s = (.fault, s') := by
  change Prog.bind m f s = _
  simp only [Prog.bind, h]

/-- A bind whose first half runs out of fuel does too, in the same state. -/
theorem bind_of_cut {m : Prog σ α} {f : α → Prog σ β} {s s' : σ}
    (h : m s = (.cut, s')) : (m >>= f) s = (.cut, s') := by
  change Prog.bind m f s = _
  simp only [Prog.bind, h]

@[simp] protected theorem pure_bind (a : α) (f : α → Prog σ β) : (pure a >>= f) = f a := rfl

@[simp] theorem get_bind_apply (f : σ → Prog σ β) (s : σ) : (get >>= f) s = f s s := rfl

@[simp] theorem modify_bind_apply (g : σ → σ) (f : Unit → Prog σ β) (s : σ) :
    (modify g >>= f) s = f () (g s) := rfl

@[simp] theorem fault_bind (f : α → Prog σ β) : ((fault : Prog σ α) >>= f) = fault := rfl

@[simp] theorem cut_bind (f : α → Prog σ β) : ((cut : Prog σ α) >>= f) = cut := rfl

@[simp] protected theorem bind_assoc (m : Prog σ α) (f : α → Prog σ β) (g : β → Prog σ γ) :
    ((m >>= f) >>= g) = m >>= fun a => f a >>= g := by
  funext s
  rcases hm : m s with ⟨o | _ | _, s'⟩
  · rw [bind_of_ret hm]
    change Prog.bind (m >>= f) g s = Prog.bind (f o) g s'
    simp only [Prog.bind, bind_of_ret hm]
  · rw [bind_of_fault hm, bind_of_fault (bind_of_fault hm)]
  · rw [bind_of_cut hm, bind_of_cut (bind_of_cut hm)]

@[simp] protected theorem ite_bind (c : Prop) [Decidable c] (m n : Prog σ α) (f : α → Prog σ β) :
    ((if c then m else n) >>= f) = if c then m >>= f else n >>= f := by
  split <;> rfl

/-- **Inversion of a bind that returned.** Both halves returned, through a middle state. -/
theorem bind_eq_ret_iff {m : Prog σ α} {f : α → Prog σ β} {s s' : σ} {b : β} :
    (m >>= f) s = (.ret b, s') ↔ ∃ a t, m s = (.ret a, t) ∧ f a t = (.ret b, s') := by
  rcases hm : m s with ⟨o | _ | _, t⟩
  · rw [bind_of_ret hm]
    simp
  · rw [bind_of_fault hm]
    simp
  · rw [bind_of_cut hm]
    simp

/-- A run that is known by its outcome. -/
theorem eq_of_fst_eq {m : Prog σ α} {s : σ} {o : Outcome α} (h : (m s).1 = o) :
    m s = (o, (m s).2) := Prod.ext h rfl

theorem pure_eq_ret_iff {a b : α} {s s' : σ} :
    (pure a : Prog σ α) s = (.ret b, s') ↔ a = b ∧ s = s' := by
  rw [pure_apply, Prod.mk.injEq, Outcome.ret.injEq]

theorem ofOption_eq_ret_iff {a : Option α} {b : α} {s s' : σ} :
    (ofOption a : Prog σ α) s = (.ret b, s') ↔ a = some b ∧ s = s' := by
  cases a with
  | none => rw [ofOption_none, fault_apply]; simp
  | some a => rw [ofOption_some, pure_eq_ret_iff, Option.some.injEq]

/-- **The three ways a bind can run.** The first half returned and the second half decides, or
the first half already decided. -/
theorem bind_cases (m : Prog σ α) (f : α → Prog σ β) (s : σ) :
    (∃ a t, m s = (.ret a, t) ∧ (m >>= f) s = f a t) ∨
      (∃ t, m s = (.fault, t) ∧ (m >>= f) s = (.fault, t)) ∨
      (∃ t, m s = (.cut, t) ∧ (m >>= f) s = (.cut, t)) := by
  rcases hm : m s with ⟨o | _ | _, t⟩
  · exact .inl ⟨o, t, rfl, bind_of_ret hm⟩
  · exact .inr (.inl ⟨t, rfl, bind_of_fault hm⟩)
  · exact .inr (.inr ⟨t, rfl, bind_of_cut hm⟩)

/-! ## Status codes

Code that returns a status runs its steps in order and leaves with the first code that is not
the success code. -/

/-- Run `m`; go on with `k` when it returned `ok`, otherwise leave with its code. -/
def chain [DecidableEq α] (ok : α) (m k : Prog σ α) : Prog σ α :=
  m >>= fun r => if r = ok then k else pure r

/-- A chain returned `ok` exactly when both halves did, provided `k` decides. -/
theorem chain_eq_ret_iff [DecidableEq α] {ok r : α} {m k : Prog σ α} {s s' : σ} :
    chain ok m k s = (.ret r, s') ↔
      (∃ t, m s = (.ret ok, t) ∧ k t = (.ret r, s')) ∨ (r ≠ ok ∧ m s = (.ret r, s')) := by
  rw [chain, bind_eq_ret_iff]
  constructor
  · rintro ⟨a, t, hm, hk⟩
    rw [Prog.ite_apply] at hk
    split at hk
    case isTrue h => exact .inl ⟨t, h ▸ hm, hk⟩
    case isFalse h =>
      obtain ⟨rfl, rfl⟩ : a = r ∧ t = s' := by simpa using hk
      exact .inr ⟨h, hm⟩
  · rintro (⟨t, hm, hk⟩ | ⟨hr, hm⟩)
    · exact ⟨ok, t, hm, by simpa using hk⟩
    · exact ⟨r, s', hm, by simp [hr]⟩

/-- A chain whose first half did not return `ok` ends with it. -/
theorem chain_of_ne [DecidableEq α] {ok : α} {m k : Prog σ α} {s : σ} (h : (m s).1 ≠ .ret ok) :
    chain ok m k s = m s := by
  rcases hm : m s with ⟨r | _ | _, t⟩
  · have hr : r ≠ ok := by
      rw [hm] at h
      exact fun hr => h (congrArg Outcome.ret hr)
    rw [chain, bind_of_ret hm, if_neg hr, pure_apply]
  · exact bind_of_fault hm
  · exact bind_of_cut hm

/-! ## Postconditions -/

/-- `Q` holds at the end of the run of `m` from `s`, however it ends. -/
def wp (m : Prog σ α) (Q : Outcome α → σ → Prop) (s : σ) : Prop := Q (m s).1 (m s).2

/-- What the first half of a bind must establish for `Q` to hold after the second. -/
def bindPost (f : α → Prog σ β) (Q : Outcome β → σ → Prop) : Outcome α → σ → Prop
  | .ret a, t => wp (f a) Q t
  | .fault, t => Q .fault t
  | .cut, t => Q .cut t

section WP

variable {m k : Prog σ α} {f : α → Prog σ β} {Q Q' : Outcome α → σ → Prop} {s : σ}

/-- A run that is known to end in `t` with `o` establishes what holds there. -/
theorem wp_of_eq {o : Outcome α} {t : σ} (h : m s = (o, t)) : wp m Q s ↔ Q o t := by
  rw [wp, h]

theorem wp_mono (h : wp m Q s) (hQ : ∀ o t, Q o t → Q' o t) : wp m Q' s := hQ _ _ h

@[simp] theorem wp_pure (a : α) : wp (pure a) Q s ↔ Q (.ret a) s := Iff.rfl

@[simp] theorem wp_get {Q : Outcome σ → σ → Prop} : wp get Q s ↔ Q (.ret s) s := Iff.rfl

@[simp] theorem wp_modify {Q : Outcome Unit → σ → Prop} (g : σ → σ) :
    wp (modify g) Q s ↔ Q (.ret ()) (g s) := Iff.rfl

@[simp] theorem wp_fault : wp (fault : Prog σ α) Q s ↔ Q .fault s := Iff.rfl

@[simp] theorem wp_cut : wp (cut : Prog σ α) Q s ↔ Q .cut s := Iff.rfl

theorem wp_bind {Q : Outcome β → σ → Prop} :
    wp (m >>= f) Q s ↔ wp m (bindPost f Q) s := by
  rcases bind_cases m f s with ⟨a, t, hm, h⟩ | ⟨t, hm, h⟩ | ⟨t, hm, h⟩
  · rw [wp_of_eq hm]
    simp only [wp, h, bindPost]
  · rw [wp_of_eq hm, wp_of_eq h]
    rfl
  · rw [wp_of_eq hm, wp_of_eq h]
    rfl

/-- **Sequence rule.** Establish a middle condition, and `Q` from each way it can be met. -/
theorem wp_bind_of {Q : Outcome β → σ → Prop} {P : Outcome α → σ → Prop} (hm : wp m P s)
    (hret : ∀ a t, P (.ret a) t → wp (f a) Q t) (hfault : ∀ t, P .fault t → Q .fault t)
    (hcut : ∀ t, P .cut t → Q .cut t) : wp (m >>= f) Q s := by
  rw [wp_bind]
  refine wp_mono hm fun o t h => ?_
  cases o with
  | ret a => exact hret a t h
  | fault => exact hfault t h
  | cut => exact hcut t h

@[simp] theorem wp_get_bind {f : σ → Prog σ β} {Q : Outcome β → σ → Prop} :
    wp (get >>= f) Q s ↔ wp (f s) Q s := Iff.rfl

@[simp] theorem wp_modify_bind {f : Unit → Prog σ β} {Q : Outcome β → σ → Prop} (g : σ → σ) :
    wp (modify g >>= f) Q s ↔ wp (f ()) Q (g s) := Iff.rfl

theorem wp_ite {c : Prop} [Decidable c] :
    wp (if c then m else k) Q s ↔ if c then wp m Q s else wp k Q s := by
  split <;> rfl

end WP

/-! ## Programs that stay within a relation -/

/-- Every run of `m`, however it ends, relates its first and last state by `R`. -/
def Within (R : σ → σ → Prop) (m : Prog σ α) : Prop := ∀ s, R s (m s).2

namespace Within

variable {R R' : σ → σ → Prop} {m : Prog σ α} {f : α → Prog σ β}

theorem mono (h : Within R m) (hR : ∀ s t, R s t → R' s t) : Within R' m :=
  fun s => hR _ _ (h s)

theorem and (h : Within R m) (h' : Within R' m) : Within (fun s t => R s t ∧ R' s t) m :=
  fun s => ⟨h s, h' s⟩

theorem of_state_eq [Std.Refl R] (h : ∀ s, (m s).2 = s) : Within R m :=
  fun s => by rw [h s]; exact Std.Refl.refl s

theorem pure [Std.Refl R] (a : α) : Within R (Pure.pure a : Prog σ α) := of_state_eq fun _ => rfl

theorem get [Std.Refl R] : Within R (Prog.get : Prog σ σ) := of_state_eq fun _ => rfl

theorem fault [Std.Refl R] : Within R (Prog.fault : Prog σ α) := of_state_eq fun _ => rfl

theorem cut [Std.Refl R] : Within R (Prog.cut : Prog σ α) := of_state_eq fun _ => rfl

theorem modify {g : σ → σ} (h : ∀ s, R s (g s)) : Within R (Prog.modify g) := h

theorem bind [IsTrans σ R] (hm : Within R m) (hf : ∀ a, Within R (f a)) :
    Within R (m >>= f) := by
  intro s
  have h₁ := hm s
  rcases bind_cases m f s with ⟨a, t, hm', h⟩ | ⟨t, hm', h⟩ | ⟨t, hm', h⟩
  · rw [h]
    rw [hm'] at h₁
    exact IsTrans.trans _ _ _ h₁ (hf a t)
  · rw [h]
    rwa [hm'] at h₁
  · rw [h]
    rwa [hm'] at h₁

theorem ite {c : Prop} [Decidable c] {n : Prog σ α} (hm : Within R m) (hn : Within R n) :
    Within R (if c then m else n) := by
  split
  · exact hm
  · exact hn

end Within

/-! ## Unbounded loops -/

/-- Run `body` until it leaves with `.inr`; a turn uses one unit of fuel. -/
def loop (body : β → Prog σ (β ⊕ α)) : Nat → β → Prog σ α
  | 0, _ => cut
  | n + 1, b => body b >>= fun
      | .inl b' => loop body n b'
      | .inr a => pure a

/-- One turn of the loop: `body` returned and asks for another turn. -/
def Turn (body : β → Prog σ (β ⊕ α)) (x y : β × σ) : Prop :=
  body x.1 x.2 = (.ret (.inl y.1), y.2)

/-- The loop passes from `x` to `y` in some number of turns. -/
abbrev Turns (body : β → Prog σ (β ⊕ α)) : β × σ → β × σ → Prop :=
  Relation.ReflTransGen (Turn body)

section Loop

variable {body : β → Prog σ (β ⊕ α)} {n : Nat} {b b' : β} {s s' : σ}

@[simp] theorem loop_zero_apply : loop body 0 b s = (.cut, s) := rfl

/-- A turn that asks for another one leaves the rest of the loop to the remaining fuel. -/
theorem loop_succ_of_turn (h : body b s = (.ret (.inl b'), s')) :
    loop body (n + 1) b s = loop body n b' s' := bind_of_ret h

/-- A turn that leaves ends the loop. -/
theorem loop_succ_of_leave {a : α} (h : body b s = (.ret (.inr a), s')) :
    loop body (n + 1) b s = (.ret a, s') := bind_of_ret h

/-- A turn that faults ends the loop. -/
theorem loop_succ_of_fault (h : body b s = (.fault, s')) :
    loop body (n + 1) b s = (.fault, s') := bind_of_fault h

/-- A turn that runs out of fuel inside its body ends the loop. -/
theorem loop_succ_of_cut (h : body b s = (.cut, s')) :
    loop body (n + 1) b s = (.cut, s') := bind_of_cut h

/-- **Loop rule.** An invariant kept by every turn, and giving `Q` wherever the loop stops, gives
`Q` at the end of every run. -/
theorem loop_induct {I : β → σ → Prop} {Q : Outcome α → σ → Prop}
    (hcut : ∀ b s, I b s → Q .cut s)
    (hturn : ∀ b s b' s', I b s → body b s = (.ret (.inl b'), s') → I b' s')
    (hleave : ∀ b s a s', I b s → body b s = (.ret (.inr a), s') → Q (.ret a) s')
    (hfault : ∀ b s s', I b s → body b s = (.fault, s') → Q .fault s')
    (hcut' : ∀ b s s', I b s → body b s = (.cut, s') → Q .cut s')
    (h : I b s) : wp (loop body n b) Q s := by
  induction n generalizing b s with
  | zero => exact hcut b s h
  | succ n ih =>
    rcases hb : body b s with ⟨(b' | a) | _ | _, s'⟩
    · rw [wp, loop_succ_of_turn hb]
      exact ih (hturn b s b' s' h hb)
    · rw [wp_of_eq (loop_succ_of_leave hb)]
      exact hleave b s a s' h hb
    · rw [wp_of_eq (loop_succ_of_fault hb)]
      exact hfault b s s' h hb
    · rw [wp_of_eq (loop_succ_of_cut hb)]
      exact hcut' b s s' h hb

/-- Of two states that the loop passes from the same one, it passes one first. -/
theorem turns_total {x y z : β × σ} (hy : Turns body x y) (hz : Turns body x z) :
    Turns body y z ∨ Turns body z y := by
  refine Relation.ReflTransGen.total_of_right_unique (fun u v w hv hw => ?_) hy hz
  obtain ⟨hval, hstate⟩ := Prod.mk.inj (hv.symm.trans hw)
  exact Prod.ext (Sum.inl.inj (Outcome.ret.inj hval)) hstate

/-- Turns only use up fuel: a loop that can still turn `k` times reaches the later state. -/
theorem loop_of_turns {x y : β × σ} (h : Turns body x y) :
    ∃ k, ∀ n, loop body (k + n) x.1 x.2 = loop body n y.1 y.2 := by
  induction h using Relation.ReflTransGen.head_induction_on with
  | refl => exact ⟨0, fun n => by rw [Nat.zero_add]⟩
  | head hturn _ ih =>
    obtain ⟨k, hk⟩ := ih
    refine ⟨k + 1, fun n => ?_⟩
    rw [Nat.add_right_comm, loop_succ_of_turn hturn, hk n]

/-- **Where a loop stops.** A run that did not spend the loop's own fuel stopped at a state the
loop passes through, and stopped there as the body did. -/
theorem loop_stops (h : ∀ t, loop body n b s ≠ (.cut, t)) :
    ∃ y, Turns body (b, s) y ∧
      ((∃ a t, body y.1 y.2 = (.ret (.inr a), t) ∧ loop body n b s = (.ret a, t)) ∨
        ∃ t, body y.1 y.2 = (.fault, t) ∧ loop body n b s = (.fault, t)) := by
  induction n generalizing b s with
  | zero => exact absurd rfl (h s)
  | succ n ih =>
    rcases hb : body b s with ⟨(b' | a) | _ | _, s'⟩
    · rw [loop_succ_of_turn hb] at h ⊢
      obtain ⟨y, hy, hstop⟩ := ih h
      have hturn : Turn body (b, s) (b', s') := hb
      exact ⟨y, hy.head hturn, hstop⟩
    · exact ⟨(b, s), .refl, .inl ⟨a, s', hb, loop_succ_of_leave hb⟩⟩
    · exact ⟨(b, s), .refl, .inr ⟨s', hb, loop_succ_of_fault hb⟩⟩
    · exact absurd (loop_succ_of_cut hb) (h s')

/-- More fuel does not change a run that stopped by itself. -/
theorem loop_add_of_ne_cut (h : ∀ t, loop body n b s ≠ (.cut, t)) (k : Nat) :
    loop body (n + k) b s = loop body n b s := by
  induction n generalizing b s with
  | zero => exact absurd rfl (h s)
  | succ n ih =>
    rw [Nat.add_right_comm]
    rcases hb : body b s with ⟨(b' | a) | _ | _, s'⟩
    · rw [loop_succ_of_turn hb] at h ⊢
      rw [loop_succ_of_turn hb]
      exact ih h
    · rw [loop_succ_of_leave hb, loop_succ_of_leave hb]
    · rw [loop_succ_of_fault hb, loop_succ_of_fault hb]
    · exact absurd (loop_succ_of_cut hb) (h s')

/-- **When a loop is free of undefined behaviour.** No amount of fuel makes the loop fault exactly
when the body faults at no state the loop passes through. -/
theorem loop_never_faults_iff :
    (∀ n, (loop body n b s).1 ≠ .fault) ↔
      ∀ y, Turns body (b, s) y → (body y.1 y.2).1 ≠ .fault := by
  constructor
  · rintro h y hy hfault
    obtain ⟨k, hk⟩ := loop_of_turns hy
    have hb : body y.1 y.2 = (.fault, (body y.1 y.2).2) := Prod.ext hfault rfl
    exact h (k + 1) (by rw [hk 1, loop_succ_of_fault hb])
  · intro h n hfault
    have hcut : ∀ t, loop body n b s ≠ (.cut, t) := by
      intro t ht
      rw [ht] at hfault
      cases hfault
    obtain ⟨y, hy, ⟨a, t, -, hl⟩ | ⟨t, hb, -⟩⟩ := loop_stops hcut
    · rw [hl] at hfault
      cases hfault
    · exact h y hy (by rw [hb])

/-- A loop depends on its body only at the states it passes through. -/
theorem loop_congr_of_turns {body' : β → Prog σ (β ⊕ α)}
    (h : ∀ y, Turns body (b, s) y → body' y.1 y.2 = body y.1 y.2) :
    loop body' n b s = loop body n b s := by
  induction n generalizing b s with
  | zero => rfl
  | succ n ih =>
    have hb' := h (b, s) .refl
    rcases hb : body b s with ⟨(b' | a) | _ | _, s'⟩
    · rw [loop_succ_of_turn hb, loop_succ_of_turn (hb'.trans hb)]
      have hturn : Turn body (b, s) (b', s') := hb
      exact ih fun y hy => h y (hy.head hturn)
    · rw [loop_succ_of_leave hb, loop_succ_of_leave (hb'.trans hb)]
    · rw [loop_succ_of_fault hb, loop_succ_of_fault (hb'.trans hb)]
    · rw [loop_succ_of_cut hb, loop_succ_of_cut (hb'.trans hb)]

end Loop

theorem Within.loop {R : σ → σ → Prop} [Std.Refl R] [IsTrans σ R] {body : β → Prog σ (β ⊕ α)}
    (h : ∀ b, Within R (body b)) (n : Nat) (b : β) : Within R (loop body n b) := by
  induction n generalizing b with
  | zero => exact Within.cut
  | succ n ih =>
    refine Within.bind (h b) fun r => ?_
    rcases r with b' | a
    · exact ih b'
    · exact Within.pure a

/-! ## Bounded loops -/

/-- Run `body` for the elements of a list in order, carrying a value; a turn may leave early. -/
def forEach (body : ι → β → Prog σ (ρ ⊕ β)) : List ι → β → Prog σ (ρ ⊕ β)
  | [], b => pure (.inr b)
  | i :: is, b => body i b >>= fun
      | .inl r => pure (.inl r)
      | .inr b' => forEach body is b'

section ForEach

variable {body : ι → β → Prog σ (ρ ⊕ β)} {i : ι} {is js : List ι} {b b' : β} {s s' : σ}

@[simp] theorem forEach_nil : forEach body [] b = pure (.inr b) := rfl

/-- A turn that goes on leaves the rest of the list to the loop. -/
theorem forEach_cons_of_next (h : body i b s = (.ret (.inr b'), s')) :
    forEach body (i :: is) b s = forEach body is b' s' := bind_of_ret h

/-- A turn that leaves ends the loop. -/
theorem forEach_cons_of_leave {r : ρ} (h : body i b s = (.ret (.inl r), s')) :
    forEach body (i :: is) b s = (.ret (.inl r), s') := bind_of_ret h

/-- A turn that faults ends the loop. -/
theorem forEach_cons_of_fault (h : body i b s = (.fault, s')) :
    forEach body (i :: is) b s = (.fault, s') := bind_of_fault h

/-- A turn that runs out of fuel ends the loop. -/
theorem forEach_cons_of_cut (h : body i b s = (.cut, s')) :
    forEach body (i :: is) b s = (.cut, s') := bind_of_cut h

/-- A loop that ran through a first part of the list goes on with the rest. -/
theorem forEach_append_of_done (h : forEach body is b s = (.ret (.inr b'), s')) :
    forEach body (is ++ js) b s = forEach body js b' s' := by
  induction is generalizing b s with
  | nil =>
    obtain ⟨rfl, rfl⟩ : b = b' ∧ s = s' := by simpa using h
    rfl
  | cons i is ih =>
    rcases hb : body i b s with ⟨(r | c) | _ | _, t⟩
    · rw [forEach_cons_of_leave hb] at h
      simp at h
    · rw [forEach_cons_of_next hb] at h
      rw [List.cons_append, forEach_cons_of_next hb, ih h]
    · rw [forEach_cons_of_fault hb] at h
      simp at h
    · rw [forEach_cons_of_cut hb] at h
      simp at h

/-- **Inversion of a bounded loop that left.** It ran through a first part of the list and left at
the element behind it. -/
theorem forEach_eq_leave_iff {r : ρ} :
    forEach body is b s = (.ret (.inl r), s') ↔ ∃ pre i post b' u, is = pre ++ i :: post ∧
      forEach body pre b s = (.ret (.inr b'), u) ∧ body i b' u = (.ret (.inl r), s') := by
  constructor
  · intro h
    induction is generalizing b s with
    | nil => simp at h
    | cons i is ih =>
      rcases hb : body i b s with ⟨(q | c) | _ | _, t⟩
      · rw [forEach_cons_of_leave hb] at h
        obtain ⟨rfl, rfl⟩ : q = r ∧ t = s' := by simpa using h
        exact ⟨[], i, is, b, s, rfl, rfl, hb⟩
      · rw [forEach_cons_of_next hb] at h
        obtain ⟨pre, j, post, b', u, rfl, hpre, hj⟩ := ih h
        exact ⟨i :: pre, j, post, b', u, rfl, by rw [forEach_cons_of_next hb, hpre], hj⟩
      · rw [forEach_cons_of_fault hb] at h
        simp at h
      · rw [forEach_cons_of_cut hb] at h
        simp at h
  · rintro ⟨pre, i, post, b', u, rfl, hpre, hi⟩
    rw [forEach_append_of_done hpre, forEach_cons_of_leave hi]

/-- **Bounded loop rule.** `I` relates the elements already done to the state. It holds before
the loop, every turn that goes on keeps it, and it gives `Q` wherever the loop stops. -/
theorem forEach_induct {I : List ι → β → σ → Prop} {Q : Outcome (ρ ⊕ β) → σ → Prop}
    {done : List ι}
    (hdone : ∀ b s, I (done ++ is) b s → Q (.ret (.inr b)) s)
    (hnext : ∀ pre i post b s b' s', is = pre ++ i :: post → I (done ++ pre) b s →
      body i b s = (.ret (.inr b'), s') → I (done ++ pre ++ [i]) b' s')
    (hstop : ∀ pre i post b s, is = pre ++ i :: post → I (done ++ pre) b s →
      (∀ b' s', body i b s ≠ (.ret (.inr b'), s')) → wp (body i b) Q s)
    (h : I done b s) : wp (forEach body is b) Q s := by
  induction is generalizing done b s with
  | nil => exact hdone b s (by rwa [List.append_nil])
  | cons i is ih =>
    have hleave := hstop [] i is b s rfl (by rwa [List.append_nil])
    rcases hb : body i b s with ⟨(r | b') | _ | _, s'⟩
    · rw [wp_of_eq (forEach_cons_of_leave hb)]
      simpa [wp, hb] using hleave
    · rw [wp, forEach_cons_of_next hb]
      refine @ih b' s' (done ++ [i]) (fun b s hI => hdone b s (by simpa using hI)) ?_ ?_ ?_
      · intro pre j post b s b' s' his hI hj
        have := hnext (i :: pre) j post b s b' s' (by rw [his]; rfl) (by simpa using hI) hj
        simpa using this
      · intro pre j post b s his hI
        exact hstop (i :: pre) j post b s (by rw [his]; rfl) (by simpa using hI)
      · have := hnext [] i is b s b' s' rfl (by rwa [List.append_nil]) hb
        simpa using this
    · rw [wp_of_eq (forEach_cons_of_fault hb)]
      simpa [wp, hb] using hleave
    · rw [wp_of_eq (forEach_cons_of_cut hb)]
      simpa [wp, hb] using hleave

/-- What every turn keeps of the carried value holds of the value that a loop has run through with. -/
theorem forEach_ret_induct {P : β → Prop}
    (hturn : ∀ i b s b' s', P b → body i b s = (.ret (.inr b'), s') → P b')
    (hrun : forEach body is b s = (.ret (.inr b'), s')) (h : P b) : P b' := by
  induction is generalizing b s with
  | nil =>
    obtain ⟨rfl, -⟩ : b = b' ∧ s = s' := by simpa using hrun
    exact h
  | cons i is ih =>
    rcases hb : body i b s with ⟨(r | c) | _ | _, t⟩
    · rw [forEach_cons_of_leave hb] at hrun
      simp at hrun
    · rw [forEach_cons_of_next hb] at hrun
      exact ih hrun (hturn i b s c t h hb)
    · rw [forEach_cons_of_fault hb] at hrun
      simp at hrun
    · rw [forEach_cons_of_cut hb] at hrun
      simp at hrun

end ForEach

theorem Within.forEach {R : σ → σ → Prop} [Std.Refl R] [IsTrans σ R]
    {body : ι → β → Prog σ (ρ ⊕ β)} (h : ∀ i b, Within R (body i b)) (is : List ι) (b : β) :
    Within R (forEach body is b) := by
  induction is generalizing b with
  | nil => exact Within.pure _
  | cons i is ih =>
    refine Within.bind (h i b) fun r => ?_
    rcases r with r | b'
    · exact Within.pure _
    · exact ih b'

/-! ## Programs over a list -/

/-- Run `f` for the elements of a list in order and collect the results. -/
def mapList (f : ι → Prog σ α) : List ι → Prog σ (List α)
  | [] => pure []
  | i :: is => f i >>= fun a => mapList f is >>= fun as => pure (a :: as)

section MapList

variable {f : ι → Prog σ α} {i : ι} {is js : List ι} {as : List α} {a : α} {s s' : σ}

@[simp] theorem mapList_nil : mapList f [] = pure [] := rfl

/-- The results of a list that ran through. -/
theorem mapList_cons_eq_ret_iff : mapList f (i :: is) s = (.ret as, s') ↔
    ∃ a t bs, f i s = (.ret a, t) ∧ mapList f is t = (.ret bs, s') ∧ as = a :: bs := by
  rw [mapList, bind_eq_ret_iff]
  refine exists_congr fun a => exists_congr fun t => ?_
  rw [bind_eq_ret_iff]
  constructor
  · rintro ⟨hi, bs, u, his, hpure⟩
    obtain ⟨rfl, rfl⟩ : a :: bs = as ∧ u = s' := by simpa using hpure
    exact ⟨bs, hi, his, rfl⟩
  · rintro ⟨bs, hi, his, rfl⟩
    exact ⟨hi, bs, s', his, rfl⟩

/-- A list whose first part ran through goes on with the rest. -/
theorem mapList_append_of_ret (h : mapList f is s = (.ret as, s')) :
    mapList f (is ++ js) s = (mapList f js >>= fun bs => pure (as ++ bs)) s' := by
  induction is generalizing as s with
  | nil =>
    obtain ⟨rfl, rfl⟩ : [] = as ∧ s = s' := by simpa using h
    rcases hj : mapList f js s with ⟨o | _ | _, t⟩
    · rw [List.nil_append, hj, bind_of_ret hj]
      rfl
    · rw [List.nil_append, hj, bind_of_fault hj]
    · rw [List.nil_append, hj, bind_of_cut hj]
  | cons i is ih =>
    obtain ⟨a, t, bs, hi, his, rfl⟩ := mapList_cons_eq_ret_iff.mp h
    rw [List.cons_append, mapList, bind_of_ret hi]
    rcases hj : mapList f js s' with ⟨o | _ | _, u⟩
    · rw [bind_of_ret ((ih his).trans (bind_of_ret hj)), bind_of_ret hj]
      rfl
    · rw [bind_of_fault ((ih his).trans (bind_of_fault hj)), bind_of_fault hj]
    · rw [bind_of_cut ((ih his).trans (bind_of_cut hj)), bind_of_cut hj]

/-- Programs that agree wherever the list ran through so far agree on the list. -/
theorem mapList_congr {g : ι → Prog σ α}
    (h : ∀ before i after as t, is = before ++ i :: after → mapList f before s = (.ret as, t) →
      g i t = f i t) : mapList g is s = mapList f is s := by
  induction is generalizing s with
  | nil => rfl
  | cons i is ih =>
    have hi := h [] i is [] s rfl rfl
    rw [mapList, mapList]
    rcases hf : f i s with ⟨a | _ | _, t⟩
    · have hrest : mapList g is t = mapList f is t := by
        refine ih fun before j after as u his hbefore => h (i :: before) j after (a :: as) u ?_ ?_
        · rw [his, List.cons_append]
        · exact mapList_cons_eq_ret_iff.mpr ⟨a, t, as, hf, hbefore, rfl⟩
      rw [bind_of_ret hf, bind_of_ret (hi.trans hf)]
      rcases hm : mapList f is t with ⟨o | _ | _, u⟩
      · rw [bind_of_ret hm, bind_of_ret (hrest.trans hm)]
      · rw [bind_of_fault hm, bind_of_fault (hrest.trans hm)]
      · rw [bind_of_cut hm, bind_of_cut (hrest.trans hm)]
    · rw [bind_of_fault hf, bind_of_fault (hi.trans hf)]
    · rw [bind_of_cut hf, bind_of_cut (hi.trans hf)]

/-- A program that returns whatever another one returns does so on lists. -/
theorem mapList_of_ret {g : ι → Prog σ α}
    (h : ∀ i s a t, f i s = (.ret a, t) → g i s = (.ret a, t))
    (hf : mapList f is s = (.ret as, s')) : mapList g is s = (.ret as, s') := by
  induction is generalizing as s with
  | nil => exact hf
  | cons i is ih =>
    obtain ⟨a, t, bs, hi, his, rfl⟩ := mapList_cons_eq_ret_iff.mp hf
    exact mapList_cons_eq_ret_iff.mpr ⟨a, t, bs, h i s a t hi, ih his, rfl⟩

end MapList

/-! ## Programs without undefined behaviour -/

/-- No run of `m` meets undefined behaviour. -/
def Faultless (m : Prog σ α) : Prop := ∀ s, (m s).1 ≠ .fault

namespace Faultless

variable {m : Prog σ α} {f : α → Prog σ β}

theorem pure (a : α) : Faultless (Pure.pure a : Prog σ α) := fun _ h => by cases h

theorem get : Faultless (Prog.get : Prog σ σ) := fun _ h => by cases h

theorem modify (g : σ → σ) : Faultless (Prog.modify g) := fun _ h => by cases h

theorem cut : Faultless (Prog.cut : Prog σ α) := fun _ h => by cases h

theorem bind (hm : Faultless m) (hf : ∀ a, Faultless (f a)) : Faultless (m >>= f) := by
  intro s
  rcases bind_cases m f s with ⟨a, t, -, h⟩ | ⟨t, hfault, -⟩ | ⟨t, -, h⟩
  · rw [h]
    exact hf a t
  · exact absurd (by rw [hfault]) (hm s)
  · rw [h]
    exact fun h' => by cases h'

theorem loop {body : β → Prog σ (β ⊕ α)} (h : ∀ b, Faultless (body b)) (n : Nat) (b : β) :
    Faultless (Prog.loop body n b) := by
  induction n generalizing b with
  | zero => exact Faultless.cut
  | succ n ih =>
    refine Faultless.bind (h b) fun r => ?_
    rcases r with b' | a
    · exact ih b'
    · exact Faultless.pure a

theorem forEach {body : ι → β → Prog σ (ρ ⊕ β)} (h : ∀ i b, Faultless (body i b)) (is : List ι)
    (b : β) : Faultless (Prog.forEach body is b) := by
  induction is generalizing b with
  | nil => exact Faultless.pure _
  | cons i is ih =>
    refine Faultless.bind (h i b) fun r => ?_
    rcases r with r | b'
    · exact Faultless.pure _
    · exact ih b'

theorem mapList {f : ι → Prog σ α} (h : ∀ i, Faultless (f i)) (is : List ι) :
    Faultless (Prog.mapList f is) := by
  induction is with
  | nil => exact Faultless.pure _
  | cons i is ih => exact Faultless.bind (h i) fun _ => Faultless.bind ih fun _ => Faultless.pure _

end Faultless

end Prog
