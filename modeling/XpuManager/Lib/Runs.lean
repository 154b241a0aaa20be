import Mathlib.Data.List.Basic

/-! # Runs of a step function

A system is given by what each action does to a state, if it is possible there. A run is a list of
actions, possible one after the other. -/

namespace Runs

variable {S A : Type*} (step : S → A → Option S)

/-- The state after some actions, if they are possible one after the other. -/
def follow : S → List A → Option S
  | s, [] => some s
  | s, a :: as => (step s a).bind fun t => follow t as

/-- Every action of a run meets a condition in the state before it. -/
def Meets (ok : S → A → Prop) : S → List A → Prop
  | _, [] => True
  | s, a :: as => ok s a ∧ ∀ t, step s a = some t → Meets ok t as

variable {step}

/-- **Induction over a run.** What the actions that meet a condition keep, a run of them keeps. -/
theorem follow_invariant {ok : S → A → Prop} {inv : S → Prop}
    (hkeep : ∀ s a t, inv s → ok s a → step s a = some t → inv t) {s t : S} {as : List A}
    (hinv : inv s) (hok : Meets step ok s as) (hrun : follow step s as = some t) : inv t := by
  induction as generalizing s with
  | nil =>
    obtain rfl := Option.some.inj hrun
    exact hinv
  | cons a as ih =>
    obtain ⟨u, hstep, hrest⟩ := Option.bind_eq_some_iff.mp hrun
    exact ih (hkeep s a u hinv hok.1 hstep) (hok.2 u hstep) hrest

/-- A condition that the first action meets, and the others from the state it leads to. -/
theorem Meets.cons {ok : S → A → Prop} {s t : S} {a : A} {as : List A} (hok : ok s a)
    (hstep : step s a = some t) (hrest : Meets step ok t as) : Meets step ok s (a :: as) := by
  refine ⟨hok, fun u hu => ?_⟩
  obtain rfl := Option.some.inj (hstep.symm.trans hu)
  exact hrest

/-- A condition that holds everywhere is met. -/
theorem meets_of_forall {ok : S → A → Prop} (h : ∀ s a, ok s a) (s : S) (as : List A) :
    Meets step ok s as := by
  induction as generalizing s with
  | nil => trivial
  | cons a as ih => exact ⟨h s a, fun t _ => ih t⟩

/-- What every action keeps, every run keeps. -/
theorem follow_invariant_of_forall {inv : S → Prop}
    (hkeep : ∀ s a t, inv s → step s a = some t → inv t) {s t : S} {as : List A} (hinv : inv s)
    (hrun : follow step s as = some t) : inv t := by
  have hall : ∀ s a t, inv s → True → step s a = some t → inv t :=
    fun s a t h _ hstep => hkeep s a t h hstep
  exact follow_invariant hall hinv (meets_of_forall (fun _ _ => trivial) s as) hrun

/-- What is known after some actions, and is known again after one more that meets a condition. -/
theorem Meets.follow_history {ok : S → A → Prop} {inv : List A → S → Prop}
    (hkeep : ∀ as s a t, inv as s → ok s a → step s a = some t → inv (as ++ [a]) t) {s t : S}
    {as bs : List A} (hok : Meets step ok s bs) (hinv : inv as s) (hrun : follow step s bs = some t) :
    inv (as ++ bs) t := by
  induction bs generalizing s as with
  | nil =>
    obtain rfl := Option.some.inj hrun
    rwa [List.append_nil]
  | cons b bs ih =>
    obtain ⟨u, hstep, hrest⟩ := Option.bind_eq_some_iff.mp hrun
    have hu := ih (hok.2 u hstep) (hkeep as s b u hinv hok.1 hstep) hrest
    rwa [List.append_assoc] at hu

/-- The same where every action meets the condition. -/
theorem follow_history {inv : List A → S → Prop}
    (hkeep : ∀ as s a t, inv as s → step s a = some t → inv (as ++ [a]) t) {s t : S} {as bs : List A}
    (hinv : inv as s) (hrun : follow step s bs = some t) : inv (as ++ bs) t :=
  (meets_of_forall (fun _ _ => trivial) s bs).follow_history
    (fun as s a t h _ hstep => hkeep as s a t h hstep) hinv hrun

/-- **The length of a run.** Where every action makes a measure less, there are no more actions than that. -/
theorem follow_length_le {inv : S → Prop} {measure : S → Nat}
    (hless : ∀ s a t, inv s → step s a = some t → inv t ∧ measure t < measure s) {s t : S} {as : List A}
    (hinv : inv s) (hrun : follow step s as = some t) : as.length + measure t ≤ measure s := by
  induction as generalizing s with
  | nil =>
    obtain rfl := Option.some.inj hrun
    simp
  | cons a as ih =>
    obtain ⟨u, hstep, hrest⟩ := Option.bind_eq_some_iff.mp hrun
    obtain ⟨hu, hlt⟩ := hless s a u hinv hstep
    have hlength := ih hu hrest
    rw [List.length_cons]
    omega

/-- **A run is possible** if and only if each of its actions is, in the state before it. -/
theorem follow_isSome_iff {ok : S → A → Prop} (h : ∀ s a, (step s a).isSome ↔ ok s a) (s : S)
    (as : List A) : (follow step s as).isSome ↔ Meets step ok s as := by
  induction as generalizing s with
  | nil => exact iff_of_true rfl trivial
  | cons a as ih =>
    rw [follow, Meets, ← h]
    cases hstep : step s a with
    | none => exact iff_of_false nofun fun hmeets => absurd hmeets.1 nofun
    | some t =>
      rw [Option.bind_some, ih]
      constructor
      · intro hmeets
        refine ⟨rfl, fun u hu => ?_⟩
        obtain rfl := Option.some.inj hu
        exact hmeets
      · intro hmeets
        exact hmeets.2 t rfl

/-- A condition on the actions alone. -/
theorem meets_iff_forall {ok : A → Prop} (h : ∀ s a, ok a → (step s a).isSome) (s : S)
    (as : List A) : Meets step (fun _ a => ok a) s as ↔ ∀ a ∈ as, ok a := by
  induction as generalizing s with
  | nil => exact iff_of_true trivial nofun
  | cons a as ih =>
    rw [Meets, List.forall_mem_cons]
    refine and_congr_right fun hok => ?_
    obtain ⟨t, hstep⟩ := Option.isSome_iff_exists.mp (h s a hok)
    rw [← ih t]
    constructor
    · intro hmeets
      exact hmeets t hstep
    · intro hmeets u hu
      obtain rfl := Option.some.inj (hstep.symm.trans hu)
      exact hmeets

/-- Where an action keeps the invariant exactly if it meets a condition, a run keeps it all along
exactly if all its actions do. -/
theorem forall_prefix_iff {ok : S → A → Prop} {inv : S → Prop} (htotal : ∀ s a, (step s a).isSome)
    (hkeep : ∀ s a t, inv s → step s a = some t → (inv t ↔ ok s a)) {s : S} (hinv : inv s)
    (as : List A) : (∀ bs, bs <+: as → ∀ t, follow step s bs = some t → inv t) ↔
      Meets step ok s as := by
  induction as generalizing s with
  | nil =>
    refine iff_of_true (fun bs hbs t hrun => ?_) trivial
    obtain rfl := List.prefix_nil.mp hbs
    obtain rfl := Option.some.inj hrun
    exact hinv
  | cons a as ih =>
    obtain ⟨u, hstep⟩ := Option.isSome_iff_exists.mp (htotal s a)
    constructor
    · intro hall
      have hu : inv u := hall [a] ⟨as, rfl⟩ u (by rw [follow, hstep, Option.bind_some, follow])
      refine Meets.cons ((hkeep s a u hinv hstep).mp hu) hstep ((ih hu).mp fun bs hbs t hrun => ?_)
      refine hall (a :: bs) ((List.prefix_cons_inj a).mpr hbs) t ?_
      rw [follow, hstep, Option.bind_some, hrun]
    · intro hmeets bs hbs t hrun
      cases bs with
      | nil =>
        obtain rfl := Option.some.inj hrun
        exact hinv
      | cons b bs =>
        obtain ⟨rfl, htail⟩ := List.cons_prefix_cons.mp hbs
        rw [follow, hstep, Option.bind_some] at hrun
        have hu : inv u := (hkeep s b u hinv hstep).mpr hmeets.1
        exact (ih hu).mpr (hmeets.2 u hstep) bs htail t hrun

theorem follow_concat (s : S) (as : List A) (a : A) :
    follow step s (as ++ [a]) = (follow step s as).bind fun t => step t a := by
  induction as generalizing s with
  | nil =>
    rw [List.nil_append, follow, follow, Option.bind_some]
    exact Option.bind_fun_some _
  | cons b as ih =>
    rw [List.cons_append, follow, follow, Option.bind_assoc]
    exact congrArg (step s b).bind (funext ih)

/-- Where a step is right, and keeps the invariant, exactly if it meets a condition, a run is right all
along exactly if all its steps do. Impossible steps meet any condition. -/
theorem forall_step_iff {ok : S → A → Prop} {inv : S → Prop} {right : S → A → S → Prop}
    (hnone : ∀ s a, step s a = none → ok s a)
    (hkeep : ∀ s a t, inv s → step s a = some t → (inv t ∧ right s a t ↔ ok s a)) {s : S}
    (hinv : inv s) (as : List A) :
    (∀ bs a, bs ++ [a] <+: as → ∀ t u, follow step s bs = some t → step t a = some u →
      inv u ∧ right t a u) ↔ Meets step ok s as := by
  induction as generalizing s with
  | nil => exact iff_of_true (fun bs a h => absurd (List.prefix_nil.mp h) (by simp)) trivial
  | cons a as ih =>
    constructor
    · intro hall
      cases hstep : step s a with
      | none => exact ⟨hnone s a hstep, fun t ht => nomatch hstep.symm.trans ht⟩
      | some u =>
        have hu := hall [] a ⟨as, rfl⟩ s u rfl hstep
        refine Meets.cons ((hkeep s a u hinv hstep).mp hu) hstep ((ih hu.1).mp ?_)
        intro bs b hbs t v hrun hlast
        refine hall (a :: bs) b ((List.prefix_cons_inj a).mpr hbs) t v ?_ hlast
        rw [follow, hstep, Option.bind_some, hrun]
    · intro hmeets bs b hbs t v hrun hlast
      cases bs with
      | nil =>
        obtain rfl := Option.some.inj hrun
        obtain ⟨rfl, -⟩ := List.cons_prefix_cons.mp hbs
        exact (hkeep s b v hinv hlast).mpr hmeets.1
      | cons c bs =>
        obtain ⟨rfl, htail⟩ := List.cons_prefix_cons.mp hbs
        obtain ⟨u, hfirst, hrest⟩ := Option.bind_eq_some_iff.mp hrun
        have hu := (hkeep s c u hinv hfirst).mpr hmeets.1
        exact (ih hu.1).mpr (hmeets.2 u hfirst) bs b htail t v hrest hlast

end Runs
