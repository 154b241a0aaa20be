import Mathlib.Data.List.Basic
import Mathlib.Data.Nat.Find
import Mathlib.Data.Nat.ModEq

/-! # Reassembly of numbered fragments

A sender cuts a message into fragments numbered modulo `m`; a receiver puts them together again,
up to `limit` elements. The elements are arbitrary. -/

namespace Reassembly

variable {α : Type}

/-- A fragment of a message. -/
structure Fragment (α : Type) where
  /-- It starts a message. -/
  som : Bool
  /-- It ends a message. -/
  eom : Bool
  seq : Nat
  body : List α

/-- What a receiver holds: the contents so far and, once a message has started, the number of the
fragment to come. -/
structure Assembly (α : Type) where
  buffer : List α
  next : Option Nat

/-- Nothing has been received. -/
def Assembly.empty : Assembly α := ⟨[], none⟩

/-! ## The sender -/

/-- The fragments of a message behind the first one, numbered from `n` on. -/
def continuations (m : Nat) : Nat → List (List α) → List (Fragment α)
  | _, [] => []
  | n, body :: bodies => ⟨false, bodies.isEmpty, n % m, body⟩ :: continuations m (n + 1) bodies

/-- The fragments of a message, numbered from `n` on. -/
def fragments (m n : Nat) (first : List α) (rest : List (List α)) : List (Fragment α) :=
  ⟨true, rest.isEmpty, n % m, first⟩ :: continuations m (n + 1) rest

/-! ## The receiver -/

variable (m limit : Nat)

/-- Take one fragment: a first one starts over, any other must be the one to come. -/
def accept (a : Assembly α) (f : Fragment α) : Option (Assembly α) :=
  if f.som then
    if f.body.length ≤ limit then some ⟨f.body, some ((f.seq + 1) % m)⟩ else none
  else if a.next = some f.seq ∧ a.buffer.length + f.body.length ≤ limit then
    some ⟨a.buffer ++ f.body, some ((f.seq + 1) % m)⟩
  else none

/-- Take fragments none of which ends a message. -/
def gather (a : Assembly α) : List (Fragment α) → Option (Assembly α)
  | [] => some a
  | f :: fs => if f.eom then none else (accept m limit a f).bind fun a' => gather a' fs

/-- Take fragments up to the end of a message. -/
def assemble (a : Assembly α) : List (Fragment α) → Option (List α)
  | [] => none
  | f :: fs => (accept m limit a f).bind fun a' =>
    if f.eom then some a'.buffer else assemble a' fs

section

variable {m limit} {a a' : Assembly α} {f : Fragment α} {fs : List (Fragment α)}

/-- Taking fragments inside a message takes each of them. -/
theorem gather_cons_eq_some_iff : gather m limit a (f :: fs) = some a' ↔
    f.eom = false ∧ ∃ b, accept m limit a f = some b ∧ gather m limit b fs = some a' := by
  rw [gather]
  split
  case isTrue h => simp [h]
  case isFalse h => simp [h, Option.bind_eq_some_iff]

/-- A message is assembled from its first fragment and the others. -/
theorem assemble_cons_eq_some_iff {buf : List α} : assemble m limit a (f :: fs) = some buf ↔
    ∃ b, accept m limit a f = some b ∧
      if f.eom then b.buffer = buf else assemble m limit b fs = some buf := by
  rw [assemble, Option.bind_eq_some_iff]
  refine exists_congr fun b => and_congr_right fun _ => ?_
  split
  case isTrue => exact Option.some_inj
  case isFalse => exact Iff.rfl

/-- A first fragment is taken when it fits. -/
theorem accept_first_iff (hsom : f.som = true) : accept m limit a f = some a' ↔
    f.body.length ≤ limit ∧ a' = ⟨f.body, some ((f.seq + 1) % m)⟩ := by
  rw [accept, if_pos hsom]
  split
  case isTrue hle => rw [Option.some_inj, and_iff_right hle, eq_comm]
  case isFalse hle => exact iff_of_false (by simp) fun h => hle h.1

/-- A later fragment is taken when it is the one to come and still fits. -/
theorem accept_later_iff (hsom : f.som = false) : accept m limit a f = some a' ↔
    (a.next = some f.seq ∧ a.buffer.length + f.body.length ≤ limit) ∧
      a' = ⟨a.buffer ++ f.body, some ((f.seq + 1) % m)⟩ := by
  rw [accept, if_neg (by simp [hsom])]
  split
  case isTrue hc => rw [Option.some_inj, and_iff_right hc, eq_comm]
  case isFalse hc => exact iff_of_false (by simp) fun h => hc h.1

/-- The fragments behind the first one complete the message. -/
theorem assemble_continuations {n : Nat} {bodies : List (List α)} (hne : bodies ≠ [])
    (hnext : a.next = some (n % m)) (hlen : a.buffer.length + bodies.flatten.length ≤ limit) :
    assemble m limit a (continuations m n bodies) = some (a.buffer ++ bodies.flatten) := by
  induction bodies generalizing a n with
  | nil => exact absurd rfl hne
  | cons body bodies ih =>
    rw [List.flatten_cons, List.length_append, ← Nat.add_assoc] at hlen
    let b : Assembly α := ⟨a.buffer ++ body, some ((n % m + 1) % m)⟩
    have hfit : a.buffer.length + body.length ≤ limit := by omega
    have hb : accept m limit a ⟨false, bodies.isEmpty, n % m, body⟩ = some b :=
      (accept_later_iff rfl).mpr ⟨⟨hnext, hfit⟩, rfl⟩
    refine assemble_cons_eq_some_iff.mpr ⟨b, hb, ?_⟩
    cases bodies with
    | nil => simp [b]
    | cons body' bodies =>
      -- the number to come is that of the next fragment
      have hnum : b.next = some ((n + 1) % m) := by simp [b]
      have hrest := ih (a := b) (List.cons_ne_nil _ _) hnum (by rwa [List.length_append])
      rw [if_neg (by simp), hrest]
      simp [b]

/-- **Reassembly undoes fragmentation.** A receiver in any state, given the fragments of a message
within the limit, has that message. -/
theorem assemble_fragments {n : Nat} {first : List α} {rest : List (List α)}
    (hlen : first.length + rest.flatten.length ≤ limit) :
    assemble m limit a (fragments m n first rest) = some (first ++ rest.flatten) := by
  let b : Assembly α := ⟨first, some ((n % m + 1) % m)⟩
  have hfit : first.length ≤ limit := by omega
  have hb : accept m limit a ⟨true, rest.isEmpty, n % m, first⟩ = some b :=
    (accept_first_iff rfl).mpr ⟨hfit, rfl⟩
  refine assemble_cons_eq_some_iff.mpr ⟨b, hb, ?_⟩
  cases rest with
  | nil => simp [b]
  | cons body rest =>
    rw [if_neg (by simp)]
    exact assemble_continuations (List.cons_ne_nil _ _) (by simp [b]) hlen

end

/-! ## Streams of fragments -/

section Streams

/-- What has been put together behind a fragment of a stream. -/
def size (frags : Nat → Fragment α) : Nat → Nat
  | 0 => (frags 0).body.length
  | n + 1 => if (frags (n + 1)).som then (frags (n + 1)).body.length
      else size frags n + (frags (n + 1)).body.length

/-- The fragment is taken if those before it were: it is a first one, or the one to come, and what
has been put together keeps to the limit. -/
structure Due (frags : Nat → Fragment α) (n : Nat) : Prop where
  size_le : size frags n ≤ limit
  seq : (frags n).som = false → ∃ k, n = k + 1 ∧ (frags n).seq = ((frags k).seq + 1) % m

/-- What a receiver holds in front of a fragment if it took those before it. -/
def Held (frags : Nat → Fragment α) : Nat → Assembly α → Prop
  | 0, a => a.buffer = [] ∧ a.next = none
  | n + 1, a => a.buffer.length = size frags n ∧ a.next = some (((frags n).seq + 1) % m)

variable {m limit} {frags : Nat → Fragment α} {n : Nat} {a a' : Assembly α}

theorem held_empty : Held m frags 0 Assembly.empty := ⟨rfl, rfl⟩

theorem size_of_som (hsom : (frags n).som = true) : size frags n = (frags n).body.length := by
  cases n with
  | zero => rfl
  | succ n => rw [size, if_pos hsom]

theorem length_held (h : Held m frags n a) (hsom : (frags n).som = false) :
    size frags n = a.buffer.length + (frags n).body.length := by
  cases n with
  | zero => rw [size, h.1, List.length_nil, Nat.zero_add]
  | succ n => rw [size, if_neg (by simp [hsom]), h.1]

/-- **What is taken** behind the fragments before it. -/
theorem accept_iff_due (h : Held m frags n a) :
    (∃ a', accept m limit a (frags n) = some a') ↔ Due m limit frags n := by
  cases hsom : (frags n).som with
  | true =>
    have hsize := size_of_som hsom
    refine ⟨fun ⟨a', ha'⟩ => ?_, fun hdue => ⟨_, (accept_first_iff hsom).mpr ⟨?_, rfl⟩⟩⟩
    · rw [accept_first_iff hsom] at ha'
      exact ⟨hsize ▸ ha'.1, fun hlater => by rw [hsom] at hlater; cases hlater⟩
    · exact hsize ▸ hdue.size_le
  | false =>
    have hsize := length_held h hsom
    constructor
    · rintro ⟨a', ha'⟩
      obtain ⟨⟨hnext, hle⟩, -⟩ := (accept_later_iff hsom).mp ha'
      refine ⟨hsize ▸ hle, fun _ => ?_⟩
      cases n with
      | zero => rw [h.2] at hnext; cases hnext
      | succ n => exact ⟨n, rfl, (Option.some.inj (h.2.symm.trans hnext)).symm⟩
    · rintro ⟨hle, hseq⟩
      obtain ⟨k, rfl, hk⟩ := hseq hsom
      refine ⟨_, (accept_later_iff hsom).mpr ⟨⟨?_, hsize ▸ hle⟩, rfl⟩⟩
      rw [h.2, hk]

theorem Held.succ (h : Held m frags n a) (ha : accept m limit a (frags n) = some a') :
    Held m frags (n + 1) a' := by
  cases hsom : (frags n).som with
  | true =>
    obtain ⟨-, rfl⟩ := (accept_first_iff hsom).mp ha
    exact ⟨(size_of_som hsom).symm, rfl⟩
  | false =>
    obtain ⟨-, rfl⟩ := (accept_later_iff hsom).mp ha
    exact ⟨by rw [length_held h hsom, List.length_append], rfl⟩

/-- **How a stream can go on for ever.** It starts over again and again, or comes to bring nothing
any more. -/
theorem endless_kinds (h : ∀ n, Due m limit frags n) :
    (∀ n, ∃ k, n ≤ k ∧ (frags k).som = true) ∨
      ∃ n, ∀ k, n ≤ k → (frags k).som = false ∧ (frags k).body = [] := by
  by_cases hsom : ∀ n, ∃ k, n ≤ k ∧ (frags k).som = true
  · exact .inl hsom
  right
  obtain ⟨start, hstart⟩ := not_forall.mp hsom
  have hlater (k : Nat) (hk : start ≤ k) : (frags k).som = false := by
    refine Bool.eq_false_iff.mpr fun htrue => hstart ⟨k, hk, htrue⟩
  have hstep (k : Nat) (hk : start ≤ k) :
      size frags (k + 1) = size frags k + (frags (k + 1)).body.length := by
    rw [size, if_neg (by simp [hlater (k + 1) (by omega)])]
  have hmono (k j : Nat) (hk : start ≤ k) : size frags k ≤ size frags (k + j) := by
    induction j with
    | zero => exact Nat.le_refl _
    | succ j ih =>
      rw [← Nat.add_assoc, hstep (k + j) (by omega)]
      omega
  -- a place behind which the room that is left does not shrink
  have hlast : ∃ room k, start ≤ k ∧ limit - size frags k = room := ⟨_, start, Nat.le_refl _, rfl⟩
  classical
  obtain ⟨last, hlast_le, hroom⟩ := Nat.find_spec hlast
  have hleast (k : Nat) (hk : start ≤ k) : limit - size frags last ≤ limit - size frags k := by
    rw [hroom]
    exact Nat.find_min' hlast ⟨k, hk, rfl⟩
  refine ⟨last + 1, fun k hk => ⟨hlater k (by omega), List.eq_nil_of_length_eq_zero ?_⟩⟩
  obtain ⟨j, rfl⟩ := Nat.exists_eq_add_of_le hk
  have hsizes := hstep (last + j) (by omega)
  have hle := hmono last j hlast_le
  have hroom' := hleast (last + j + 1) (by omega)
  have hlimit := (h (last + j + 1)).size_le
  rw [show last + 1 + j = last + j + 1 by omega]
  omega

end Streams

end Reassembly
