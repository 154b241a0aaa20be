import Mathlib.Data.Set.Insert
import Mathlib.Logic.Function.Basic

/-! # Resources behind handles

Calls that create, use and destroy resources of some kinds. A resource is known by its handle, which is
that of the call that created it. -/

namespace Resources

/-- A handle: that of no resource, one from before, or that of the resource that a call created. -/
inductive Handle where
  | null
  | stale (n : Nat)
  | created (call : Nat)
  deriving DecidableEq

/-- A call that creates, uses or destroys a resource. -/
inductive Action (κ : Type) where
  | create (kind : κ)
  | use (kind : κ) (handle : Handle)
  | destroy (kind : κ) (handle : Handle)
  | other
  deriving DecidableEq

/-- A call, and whether it succeeded. -/
structure Call (κ : Type) where
  action : Action κ
  ok : Bool
  deriving DecidableEq

variable {κ : Type} {calls before after : List (Call κ)} {call : Call κ} {kind k : κ} {h : Handle}
  {i : Nat} {ok : Bool}

/-! ## Balanced calls -/

/-- A resource has been created, and not been destroyed since. -/
def Opened (before : List (Call κ)) (kind : κ) (h : Handle) : Prop :=
  ∃ start rest, before = start ++ ⟨.create kind, true⟩ :: rest ∧ h = .created start.length ∧
    ∀ ok, ⟨.destroy kind h, ok⟩ ∉ rest

/-- Only what is there is used or destroyed, and all that was created is destroyed. -/
structure Balanced (calls : List (Call κ)) : Prop where
  used : ∀ before kind h ok after, calls = before ++ ⟨.use kind h, ok⟩ :: after →
    Opened before kind h
  destroyed : ∀ before kind h ok after, calls = before ++ ⟨.destroy kind h, ok⟩ :: after →
    Opened before kind h
  closed : ∀ before kind after, calls = before ++ ⟨.create kind, true⟩ :: after →
    ∃ ok, ⟨.destroy kind (.created before.length), ok⟩ ∈ after

/-- What the last call changes. -/
theorem opened_concat : Opened (calls ++ [call]) kind h ↔
    call = ⟨.create kind, true⟩ ∧ h = .created calls.length ∨
      Opened calls kind h ∧ ∀ ok, call ≠ ⟨.destroy kind h, ok⟩ := by
  constructor
  · rintro ⟨start, rest, heq, rfl, hrest⟩
    rcases List.eq_nil_or_concat rest with rfl | ⟨rest, last, rfl⟩
    · obtain ⟨rfl, hcall⟩ := List.append_inj' heq rfl
      exact .inl ⟨(List.cons.inj hcall).1, rfl⟩
    · rw [List.concat_eq_append, ← List.cons_append, ← List.append_assoc] at heq
      obtain ⟨rfl, hcall⟩ := List.append_inj' heq rfl
      obtain rfl := (List.cons.inj hcall).1
      rw [List.concat_eq_append] at hrest
      refine .inr ⟨⟨start, rest, rfl, rfl, fun ok hmem => hrest ok (List.mem_append_left _ hmem)⟩, ?_⟩
      rintro ok rfl
      exact hrest ok (List.mem_append_right _ List.mem_cons_self)
  · rintro (⟨rfl, rfl⟩ | ⟨⟨start, rest, rfl, rfl, hrest⟩, hcall⟩)
    · exact ⟨calls, [], rfl, rfl, fun ok hmem => absurd hmem List.not_mem_nil⟩
    · refine ⟨start, rest ++ [call], by simp, rfl, fun ok hmem => ?_⟩
      rcases List.mem_append.mp hmem with hmem | hmem
      · exact hrest ok hmem
      · exact hcall ok (List.mem_singleton.mp hmem).symm

theorem Opened.lt (hopened : Opened calls kind (.created i)) : i < calls.length := by
  obtain ⟨start, rest, rfl, hi, -⟩ := hopened
  obtain rfl := Handle.created.inj hi
  simp

/-! ## Traces -/

/-- The resources that are there after some calls, each of which used or destroyed one that was. -/
inductive Trace : List (Call κ) → Set (κ × Nat) → Prop where
  | nil : Trace [] ∅
  | created {calls live} (trace : Trace calls live) (kind : κ) :
      Trace (calls ++ [⟨.create kind, true⟩]) (insert (kind, calls.length) live)
  | failed {calls live} (trace : Trace calls live) (kind : κ) :
      Trace (calls ++ [⟨.create kind, false⟩]) live
  | used {calls live kind i} (trace : Trace calls live) (ok : Bool) (hmem : (kind, i) ∈ live) :
      Trace (calls ++ [⟨.use kind (.created i), ok⟩]) live
  | destroyed {calls live kind i} (trace : Trace calls live) (ok : Bool) (hmem : (kind, i) ∈ live) :
      Trace (calls ++ [⟨.destroy kind (.created i), ok⟩]) (live \ {(kind, i)})
  | other {calls live} (trace : Trace calls live) (ok : Bool) :
      Trace (calls ++ [⟨.other, ok⟩]) live

variable {live : Set (κ × Nat)}

/-- What is there has been created and not been destroyed. -/
theorem Trace.mem_iff (trace : Trace calls live) (kind : κ) (i : Nat) :
    (kind, i) ∈ live ↔ Opened calls kind (.created i) := by
  induction trace with
  | nil =>
    refine iff_of_false (Set.notMem_empty _) ?_
    rintro ⟨start, rest, heq, -⟩
    simp at heq
  | @created calls live trace k ih =>
    rw [Set.mem_insert_iff, ih, opened_concat]
    simp only [Prod.mk.injEq, Call.mk.injEq, Action.create.injEq, and_true, Handle.created.injEq,
      reduceCtorEq, false_and, ne_eq, not_false_eq_true, implies_true]
    rw [eq_comm (a := kind)]
  | failed trace k ih =>
    rw [ih, opened_concat]
    simp
  | used trace ok hmem ih =>
    rw [ih, opened_concat]
    simp
  | @destroyed calls live k j trace ok hmem ih =>
    rw [Set.mem_sdiff, Set.mem_singleton_iff, ih, opened_concat, Prod.mk.injEq]
    simp [eq_comm]
  | other trace ok ih =>
    rw [ih, opened_concat]
    simp

/-- Where a list ends is where its last element is. -/
theorem concat_eq_append_cons {last : Call κ} (heq : calls ++ [last] = before ++ call :: after) :
    before = calls ∧ call = last ∧ after = [] ∨
      ∃ rest, after = rest ++ [last] ∧ calls = before ++ call :: rest := by
  rcases List.eq_nil_or_concat after with rfl | ⟨rest, other, rfl⟩
  · obtain ⟨rfl, hcall⟩ := List.append_inj' heq rfl
    exact .inl ⟨rfl, (List.cons.inj hcall).1.symm, rfl⟩
  · rw [List.concat_eq_append, ← List.cons_append, ← List.append_assoc] at heq
    obtain ⟨rfl, hother⟩ := List.append_inj' heq rfl
    exact .inr ⟨rest, by rw [List.concat_eq_append, (List.cons.inj hother).1], rfl⟩

/-- A call of a trace used or destroyed something that was there. -/
theorem Trace.opened (trace : Trace calls live) (heq : calls = before ++ call :: after)
    (hcall : (∃ ok, call = ⟨.use kind h, ok⟩) ∨ ∃ ok, call = ⟨.destroy kind h, ok⟩) :
    Opened before kind h := by
  induction trace generalizing after with
  | nil => simp at heq
  | @created calls live trace k ih =>
    rcases concat_eq_append_cons heq with ⟨rfl, rfl, rfl⟩ | ⟨rest, rfl, hcalls⟩
    · simp at hcall
    · exact ih hcalls
  | @failed calls live trace k ih =>
    rcases concat_eq_append_cons heq with ⟨rfl, rfl, rfl⟩ | ⟨rest, rfl, hcalls⟩
    · simp at hcall
    · exact ih hcalls
  | @used calls live k i trace ok hmem ih =>
    rcases concat_eq_append_cons heq with ⟨rfl, rfl, rfl⟩ | ⟨rest, rfl, hcalls⟩
    · obtain ⟨rfl, rfl⟩ : k = kind ∧ .created i = h := by simpa using hcall
      exact (trace.mem_iff _ _).mp hmem
    · exact ih hcalls
  | @destroyed calls live k i trace ok hmem ih =>
    rcases concat_eq_append_cons heq with ⟨rfl, rfl, rfl⟩ | ⟨rest, rfl, hcalls⟩
    · obtain ⟨rfl, rfl⟩ : k = kind ∧ .created i = h := by simpa using hcall
      exact (trace.mem_iff _ _).mp hmem
    · exact ih hcalls
  | @other calls live trace ok ih =>
    rcases concat_eq_append_cons heq with ⟨rfl, rfl, rfl⟩ | ⟨rest, rfl, hcalls⟩
    · simp at hcall
    · exact ih hcalls

/-- **Calls after which nothing is there are balanced.** -/
theorem balanced_of_trace (trace : Trace calls ∅) : Balanced calls where
  used before kind h ok after heq := trace.opened heq (.inl ⟨ok, rfl⟩)
  destroyed before kind h ok after heq := trace.opened heq (.inr ⟨ok, rfl⟩)
  closed before kind after heq := by
    by_contra hnone
    have hopened : Opened calls kind (.created before.length) :=
      ⟨before, after, heq, rfl, fun ok hmem => hnone ⟨ok, hmem⟩⟩
    exact Set.notMem_empty _ ((trace.mem_iff kind before.length).mpr hopened)

/-! ## Tables of handles -/

/-- Calls, and the handles that are kept after them. -/
structure Table (ω κ : Type) where
  calls : List (Call κ)
  handles : ω → Option Handle

namespace Table

variable {ω : Type} [DecidableEq ω]

/-- A call is noted. -/
def log (table : Table ω κ) (action : Action κ) (ok : Bool) : Table ω κ :=
  { table with calls := table.calls ++ [⟨action, ok⟩] }

/-- An owner has another handle, or none. -/
def put (table : Table ω κ) (owner : ω) (handle : Option Handle) : Table ω κ :=
  { table with handles := Function.update table.handles owner handle }

/-- A resource is created, and its handle kept if it is. -/
def create (table : Table ω κ) (kind : κ) (owner : ω) (ok : Bool) : Table ω κ :=
  let next := table.log (.create kind) ok
  if ok then next.put owner (some (.created table.calls.length)) else next

/-- The handle that is kept, or none. -/
def handle (table : Table ω κ) (owner : ω) : Handle := (table.handles owner).getD .null

end Table

section

variable {ω : Type} {kindOf : ω → κ} {table : Table ω κ} {owners : Set ω} {owner : ω}

/-- The resources that some owners have. -/
def Table.held (kindOf : ω → κ) (table : Table ω κ) (owners : Set ω) : Set (κ × Nat) :=
  {x | ∃ owner ∈ owners, kindOf owner = x.1 ∧ table.handles owner = some (.created x.2)}

theorem Table.held_empty (kindOf : ω → κ) (table : Table ω κ) : table.held kindOf ∅ = ∅ :=
  Set.eq_empty_of_forall_notMem fun _ ⟨_, hmem, _⟩ => hmem

/-- The owners, each of a resource of its kind, have the handles of all resources that are there. -/
structure Owns (kindOf : ω → κ) (table : Table ω κ) (owners : Set ω) : Prop where
  trace : Trace table.calls (table.held kindOf owners)
  handles : ∀ owner ∈ owners, ∃ i, table.handles owner = some (.created i)
  inj : ∀ owner ∈ owners, ∀ other ∈ owners, table.handles owner = table.handles other → owner = other

namespace Owns

theorem other (h : Owns kindOf table owners) (ok : Bool) :
    Owns kindOf (table.log .other ok) owners :=
  ⟨h.trace.other ok, h.handles, h.inj⟩

theorem handle_eq (h : Owns kindOf table owners) (hmem : owner ∈ owners) :
    ∃ i, table.handles owner = some (.created i) ∧ table.handle owner = .created i := by
  obtain ⟨i, hi⟩ := h.handles owner hmem
  exact ⟨i, hi, by rw [Table.handle, hi]; rfl⟩

theorem use (h : Owns kindOf table owners) (hmem : owner ∈ owners) (ok : Bool) :
    Owns kindOf (table.log (.use (kindOf owner) (table.handle owner)) ok) owners := by
  obtain ⟨i, hi, hhandle⟩ := h.handle_eq hmem
  rw [hhandle]
  exact ⟨h.trace.used ok ⟨owner, hmem, rfl, hi⟩, h.handles, h.inj⟩

/-- Destroying a handle takes it off the owners. -/
theorem destroy (h : Owns kindOf table owners) (hmem : owner ∈ owners) (ok : Bool) :
    Owns kindOf (table.log (.destroy (kindOf owner) (table.handle owner)) ok) (owners \ {owner}) := by
  obtain ⟨i, hi, hhandle⟩ := h.handle_eq hmem
  rw [hhandle]
  have hheld : table.held kindOf owners \ {(kindOf owner, i)} =
      table.held kindOf (owners \ {owner}) := by
    ext ⟨kind, j⟩
    constructor
    · rintro ⟨⟨other, hother, rfl, hj⟩, hne⟩
      refine ⟨other, ⟨hother, ?_⟩, rfl, hj⟩
      rintro rfl
      rw [hi, Option.some_inj, Handle.created.injEq] at hj
      exact hne (Prod.ext rfl hj.symm)
    · rintro ⟨other, ⟨hother, hne⟩, rfl, hj⟩
      refine ⟨⟨other, hother, rfl, hj⟩, fun heq => hne (h.inj other hother owner hmem ?_)⟩
      obtain rfl : j = i := congrArg Prod.snd heq
      rw [hi, hj]
  have htrace := h.trace.destroyed ok ⟨owner, hmem, rfl, hi⟩
  rw [hheld] at htrace
  exact ⟨htrace, fun other hother => h.handles other hother.1,
    fun other hother other' hother' => h.inj other hother.1 other' hother'.1⟩

/-- Before any call nobody owns anything. -/
theorem nil (kindOf : ω → κ) (handles : ω → Option Handle) : Owns kindOf ⟨[], handles⟩ ∅ where
  trace := by
    rw [Table.held_empty]
    exact Trace.nil
  handles owner hmem := absurd hmem (Set.notMem_empty owner)
  inj owner hmem := absurd hmem (Set.notMem_empty owner)

/-- Where nobody owns anything the kinds do not matter. -/
theorem empty_congr (h : Owns kindOf table ∅) (kindOf' : ω → κ) : Owns kindOf' table ∅ := by
  have htrace := h.trace
  rw [Table.held_empty, ← Table.held_empty kindOf'] at htrace
  exact ⟨htrace, fun owner hmem => absurd hmem (Set.notMem_empty owner),
    fun owner hmem => absurd hmem (Set.notMem_empty owner)⟩

theorem balanced (h : Owns kindOf table ∅) : Balanced table.calls := by
  have htrace := h.trace
  rw [Table.held_empty] at htrace
  exact balanced_of_trace htrace

variable [DecidableEq ω]

theorem create_failed (h : Owns kindOf table owners) (kind : κ) (owner : ω) :
    Owns kindOf (table.create kind owner false) owners :=
  ⟨h.trace.failed kind, h.handles, h.inj⟩

/-- The handles of others do not matter. -/
theorem put (h : Owns kindOf table owners) (hmem : owner ∉ owners) (handle : Option Handle) :
    Owns kindOf (table.put owner handle) owners := by
  have hsame {other : ω} (hother : other ∈ owners) :
      (table.put owner handle).handles other = table.handles other :=
    Function.update_of_ne (ne_of_mem_of_not_mem hother hmem) _ _
  have hheld : (table.put owner handle).held kindOf owners = table.held kindOf owners := by
    ext x
    refine exists_congr fun other => and_congr_right fun hother => ?_
    rw [hsame hother]
  refine ⟨hheld ▸ h.trace, fun other hother => ?_, fun other hother other' hother' heq => ?_⟩
  · rw [hsame hother]
    exact h.handles other hother
  · rw [hsame hother, hsame hother'] at heq
    exact h.inj other hother other' hother' heq

/-- A new resource has a handle of its own. -/
theorem create_ok (h : Owns kindOf table owners) (hmem : owner ∉ owners) :
    Owns kindOf (table.create (kindOf owner) owner true) (insert owner owners) := by
  have hnew : (table.create (kindOf owner) owner true).handles owner =
      some (.created table.calls.length) := Function.update_self ..
  have hsame {other : ω} (hother : other ∈ owners) :
      (table.create (kindOf owner) owner true).handles other = table.handles other :=
    Function.update_of_ne (ne_of_mem_of_not_mem hother hmem) _ _
  -- the calls so far have created no resource with that handle
  have hfresh {other : ω} (hother : other ∈ owners) :
      table.handles other ≠ some (.created table.calls.length) := fun heq =>
    absurd ((h.trace.mem_iff _ _).mp ⟨other, hother, rfl, heq⟩).lt (Nat.lt_irrefl _)
  have hheld : insert (kindOf owner, table.calls.length) (table.held kindOf owners) =
      (table.create (kindOf owner) owner true).held kindOf (insert owner owners) := by
    ext ⟨kind, i⟩
    constructor
    · rintro (heq | ⟨other, hother, rfl, hi⟩)
      · obtain ⟨rfl, rfl⟩ := Prod.mk.inj heq
        exact ⟨owner, Set.mem_insert _ _, rfl, hnew⟩
      · exact ⟨other, Set.mem_insert_of_mem _ hother, rfl, (hsame hother).trans hi⟩
    · rintro ⟨other, rfl | hother, rfl, hi⟩
      · rw [hnew, Option.some_inj, Handle.created.injEq] at hi
        exact .inl (Prod.ext rfl hi.symm)
      · exact .inr ⟨other, hother, rfl, (hsame hother).symm.trans hi⟩
  refine ⟨hheld ▸ h.trace.created (kindOf owner), ?_, ?_⟩
  · rintro other (rfl | hother)
    · exact ⟨_, hnew⟩
    · rw [hsame hother]
      exact h.handles other hother
  · rintro other (rfl | hother) other' (rfl | hother') heq
    · rfl
    · rw [hnew, hsame hother'] at heq
      exact absurd heq.symm (hfresh hother')
    · rw [hnew, hsame hother] at heq
      exact absurd heq (hfresh hother)
    · rw [hsame hother, hsame hother'] at heq
      exact h.inj other hother other' hother' heq

end Owns

end

end Resources
