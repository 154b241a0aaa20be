import XpuManager.Amc.FruText
import XpuManager.Amc.FruInitialize

/-! # Copying a text out of the FRU table

The length that a query of a text reports counts the terminator. The copy behind it passes one less
to `snprintf`, which counts the terminator too: into a buffer of the reported size the text goes
without its last character. -/

namespace XpuManager

open Prog

/-- The table is there and holds a text, of 1 to 254 characters. -/
structure FruObject.HoldsText (s : FruObject) (τ : GeneralText) (text : Bytes) : Prop where
  initialized : s.mFruTableInitialized = true
  stored : cString ((s.mFruTable.text τ).slice 0 (fruDataMaxLength - 1)) = text
  pos : 0 < text.length

variable {fuel : Nat} {s : FruObject} {τ : GeneralText} {text : Bytes}

/-! ## Stored texts -/

/-- A text has no NUL in it. -/
theorem FruObject.HoldsText.ne_zero (h : s.HoldsText τ text) : ∀ c ∈ text, c ≠ 0 := by
  intro c hc
  rw [← h.stored] at hc
  simpa using List.mem_takeWhile_imp hc

/-- A terminator behind some bytes does not change their C string. -/
theorem cString_append_terminator (bs : Bytes) : cString (bs ++ [0]) = cString bs := by
  rw [cString, List.takeWhile_append]
  split
  case isTrue hall =>
    have htake : bs.takeWhile (· ≠ 0) = bs := List.takeWhile_eq_self_iff.mpr fun c hc => by
      have hsub := List.takeWhile_sublist (l := bs) (· ≠ (0 : UInt8))
      rw [← hsub.eq_of_length hall] at hc
      simpa using List.mem_takeWhile_imp hc
    rw [cString, htake]
    simp
  case isFalse => rfl

theorem terminated_text_self (s : FruObject) (τ : GeneralText) :
    (s.terminated τ).mFruTable.text τ = (s.mFruTable.text τ).setByte (fruDataMaxLength - 1) 0 :=
  if_pos rfl

/-- The terminator lies behind what the query measures. -/
theorem slice_terminated (s : FruObject) (τ : GeneralText) :
    ((s.terminated τ).mFruTable.text τ).slice 0 (fruDataMaxLength - 1) =
      (s.mFruTable.text τ).slice 0 (fruDataMaxLength - 1) := by
  rw [terminated_text_self]
  exact Buf.slice_congr fun k hk => Buf.byte_setByte_of_ne (by omega)

/-- A query leaves the text as it is. -/
theorem FruObject.HoldsText.terminated (h : s.HoldsText τ text) :
    (s.terminated τ).HoldsText τ text := by
  obtain ⟨hinit, hstored, hpos⟩ := h
  refine ⟨hinit, ?_, hpos⟩
  rw [slice_terminated]
  exact hstored

/-- What `snprintf` reads from the terminated array. -/
theorem FruObject.HoldsText.cString_slice (h : s.HoldsText τ text) :
    cString (((s.terminated τ).mFruTable.text τ).slice 0 fruDataMaxLength) = text := by
  have hsplit := ((s.terminated τ).mFruTable.text τ).slice_add 0 (fruDataMaxLength - 1) 1
  have hlast : ((s.terminated τ).mFruTable.text τ).slice (0 + (fruDataMaxLength - 1)) 1 = [0] := by
    rw [terminated_text_self]
    exact Buf.slice_overlay (Nat.le_refl _)
  rw [hlast, slice_terminated] at hsplit
  exact (congrArg cString hsplit).trans ((cString_append_terminator _).trans h.stored)

/-! ## The outcomes of a query -/

/-- A query of a stored text goes on to the copy. -/
theorem getFruText_of_holds (h : s.HoldsText τ text) (q : FruQuery) :
    getFruText fuel τ q s =
      copyFruText (((s.terminated τ).mFruTable.text τ).slice 0 fruDataMaxLength) (text.length + 1) q
        (s.terminated τ) := by
  have hlen : (cString (((s.terminated τ).mFruTable.text τ).slice 0
      (fruDataMaxLength - 1))).length = text.length := congrArg List.length h.terminated.stored
  rw [getFruText, Prog.get_bind_apply, h.initialized, if_pos rfl, Prog.pure_bind]
  dsimp only
  rw [if_neg (not_not_intro rfl), Prog.modify_bind_apply, Prog.get_bind_apply, hlen,
    if_neg (Nat.pos_iff_ne_zero.mp h.pos)]

/-- The length query. -/
theorem getFruText_length (h : s.HoldsText τ text) (n : Nat) :
    getFruText fuel τ ⟨none, some n⟩ s =
      (.ret (pldmSuccess, ⟨none, some (text.length + 1)⟩), s.terminated τ) :=
  getFruText_of_holds h _

/-- A copy into a buffer that is too small. -/
theorem getFruText_small (h : s.HoldsText τ text) {size : Nat} (hsize : size < text.length + 1)
    (buffer : Bytes) : getFruText fuel τ ⟨some buffer, some size⟩ s =
      (.ret (pldmError, ⟨some buffer, some (text.length + 1)⟩), s.terminated τ) := by
  rw [getFruText_of_holds h, copyFruText]
  dsimp only
  rw [if_pos hsize]
  rfl

/-- A copy leaves all but the last two bytes of the buffer to the text. -/
theorem getFruText_copy (fuel : Nat) (h : s.HoldsText τ text) {buffer : Bytes}
    (hsize : text.length + 1 ≤ buffer.length) : ∃ left,
      getFruText fuel τ ⟨some buffer, some buffer.length⟩ s =
        (.ret (pldmSuccess, ⟨some left, some buffer.length⟩), s.terminated τ) ∧
      cString left = text.take (buffer.length - 2) := by
  have hpos := h.pos
  have hcopied : (text.take (buffer.length - 2) ++ [0]).length ≤ buffer.length - 1 := by
    rw [List.length_append, List.length_take, List.length_singleton]
    omega
  have hcopy : strncpyInto buffer
      (((s.terminated τ).mFruTable.text τ).slice 0 fruDataMaxLength) (buffer.length - 1)
      (s.terminated τ) = (.ret (text.take (buffer.length - 2) ++ [0] ++
        buffer.drop (text.take (buffer.length - 2) ++ [0]).length), s.terminated τ) := by
    rw [strncpyInto, if_neg (by omega), h.cString_slice, Nat.sub_sub]
    exact congrFun (if_pos (hcopied.trans (Nat.sub_le _ _))) _
  refine ⟨(text.take (buffer.length - 2) ++ [(0 : UInt8)] ++
    buffer.drop (text.take (buffer.length - 2) ++ [0]).length).set (buffer.length - 1) 0, ?_, ?_⟩
  · rw [getFruText_of_holds h, copyFruText]
    dsimp only
    rw [if_neg (by omega), Prog.bind_of_ret hcopy, terminateAt, if_pos]
    · rfl
    · rw [List.length_append, List.length_drop]
      omega
  · rw [List.append_assoc, List.set_append_right _ _ (by rw [List.length_take]; omega)]
    -- the first terminator is the one that `snprintf` has written
    obtain ⟨k, hk⟩ : ∃ k, buffer.length - 1 - (text.take (buffer.length - 2)).length = k + 1 :=
      Nat.exists_eq_succ_of_ne_zero (by rw [List.length_take]; omega)
    rw [hk, List.singleton_append, List.set_cons_succ]
    exact cString_append_zero fun c hc => h.ne_zero c (List.take_subset _ _ hc)

/-! ## The two calls -/

/-- A copy into a buffer of a size gets the whole text. -/
def CopiesWhole (query : FruQuery → Prog FruObject (UInt8 × FruQuery)) (s : FruObject)
    (text : Bytes) (size : Nat) : Prop :=
  ∀ buffer : Bytes, buffer.length = size → ∃ left t,
    query ⟨some buffer, some size⟩ s = (.ret (pldmSuccess, ⟨some left, some size⟩), t) ∧
      cString left = text

/-- A copy into a smaller buffer is refused with the size that is needed. -/
def RefusesSmaller (query : FruQuery → Prog FruObject (UInt8 × FruQuery)) (s : FruObject)
    (text : Bytes) : Prop :=
  ∀ (buffer : Bytes) (size : Nat), size < text.length + 1 → ∃ t,
    query ⟨some buffer, some size⟩ s = (.ret (pldmError, ⟨some buffer, some (text.length + 1)⟩), t)

/-- The length is asked for, and the copies then get the whole text with exactly that size and are
refused with less. -/
def TwoCalls (query : FruQuery → Prog FruObject (UInt8 × FruQuery)) (s : FruObject)
    (text : Bytes) : Prop :=
  ∀ n, ∃ t, query ⟨none, some n⟩ s = (.ret (pldmSuccess, ⟨none, some (text.length + 1)⟩), t) ∧
    CopiesWhole query t text (text.length + 1) ∧ RefusesSmaller query t text

/-- What the two calls come to: the whole text needs one byte more than was reported. -/
structure NeedsOneMore (query : FruQuery → Prog FruObject (UInt8 × FruQuery)) (s : FruObject)
    (text : Bytes) : Prop where
  not_twoCalls : ¬TwoCalls query s text
  reports : ∀ n, ∃ t,
    query ⟨none, some n⟩ s = (.ret (pldmSuccess, ⟨none, some (text.length + 1)⟩), t) ∧
      RefusesSmaller query t text ∧
      ∀ size, text.length + 1 ≤ size → (CopiesWhole query t text size ↔ text.length + 2 ≤ size)

theorem getFruText_refusesSmaller (h : s.HoldsText τ text) :
    RefusesSmaller (getFruText fuel τ) s text :=
  fun buffer _ hsize => ⟨_, getFruText_small h hsize buffer⟩

/-- The buffers that get the whole text. -/
theorem getFruText_copiesWhole_iff (h : s.HoldsText τ text) {size : Nat}
    (hsize : text.length + 1 ≤ size) :
    CopiesWhole (getFruText fuel τ) s text size ↔ text.length + 2 ≤ size := by
  constructor
  · intro hwhole
    have hlen : (List.replicate size (0 : UInt8)).length = size := List.length_replicate
    obtain ⟨left, hrun, hleft⟩ := getFruText_copy fuel h (hsize.trans_eq hlen.symm)
    obtain ⟨left', t, hrun', hleft'⟩ := hwhole _ hlen
    rw [hlen] at hrun hleft
    rw [hrun] at hrun'
    obtain ⟨hret, -⟩ := Prod.mk.inj hrun'
    simp only [Outcome.ret.injEq, Prod.mk.injEq, FruQuery.mk.injEq, Option.some.injEq, true_and,
      and_true] at hret
    have htake := congrArg List.length (hleft.symm.trans ((congrArg cString hret).trans hleft'))
    have hpos := h.pos
    rw [List.length_take] at htake
    omega
  · rintro hroom buffer rfl
    obtain ⟨left, hrun, hleft⟩ := getFruText_copy fuel h hsize
    exact ⟨left, _, hrun, by rw [hleft, List.take_of_length_le (by omega)]⟩

/-- The two calls lose the last character. -/
theorem getFruText_not_twoCalls (h : s.HoldsText τ text) : ¬TwoCalls (getFruText fuel τ) s text := by
  intro hcalls
  obtain ⟨t, hask, hwhole, -⟩ := hcalls 0
  rw [getFruText_length h] at hask
  obtain ⟨-, rfl⟩ := Prod.mk.inj hask
  have hmore := (getFruText_copiesWhole_iff h.terminated (Nat.le_refl _)).mp hwhole
  omega

theorem getFruText_needsOneMore (h : s.HoldsText τ text) :
    NeedsOneMore (getFruText fuel τ) s text where
  not_twoCalls := getFruText_not_twoCalls h
  reports := fun n => ⟨s.terminated τ, getFruText_length h n,
    getFruText_refusesSmaller h.terminated, fun _ => getFruText_copiesWhole_iff h.terminated⟩

/-- **The reported size is one too small.** For every stored serial number and every stored version:
a copy of the reported size is not the whole text, one more byte is needed, and with less than the
reported size the copy is refused. -/
theorem fruQueries_size_iff (fuel : Nat) (s : FruObject) (text : Bytes) :
    (s.HoldsText .serialNum text → NeedsOneMore (getFruSerialNum fuel) s text) ∧
      (s.HoldsText .version text → NeedsOneMore (getAmcVersion fuel) s text) :=
  ⟨getFruText_needsOneMore, getFruText_needsOneMore⟩

/-- An object whose texts are all `A1`. -/
def labelled : FruObject where
  pldm := default
  mFruTable := { FruTable.cleared with text := fun _ => (Buf.zero _).overlay 0 [65, 49] }
  mFruTableInitialized := true

theorem labelled_holdsText (τ : GeneralText) : labelled.HoldsText τ [65, 49] where
  initialized := rfl
  stored := by
    have hslice : ((Buf.zero fruDataMaxLength).overlay 0 [65, 49]).slice 0 (2 + (1 + 251)) =
        [65, 49] ++ (Buf.zero fruDataMaxLength).slice (0 + 2) (1 + 251) :=
      Buf.slice_overlay_add (Nat.le_of_ble_eq_true rfl) (1 + 251)
    have hzero : (Buf.zero fruDataMaxLength).slice (0 + 2) 1 = [0] := rfl
    rw [Buf.slice_add _ _ 1 251, hzero, List.singleton_append] at hslice
    exact (congrArg cString hslice).trans (cString_append_zero (by simp))
  pos := Nat.two_pos

theorem fruQueries_size_labelled : NeedsOneMore (getFruSerialNum 0) labelled [65, 49] ∧
    NeedsOneMore (getAmcVersion 0) labelled [65, 49] :=
  ⟨(fruQueries_size_iff 0 labelled [65, 49]).1 (labelled_holdsText _),
    (fruQueries_size_iff 0 labelled [65, 49]).2 (labelled_holdsText _)⟩

/-- Of the serial number `A1`, asked for and then copied, `A` arrives. -/
theorem getFruSerialNum_loses_last : ¬∀ (fuel : Nat) (s : FruObject) (text : Bytes),
    s.HoldsText .serialNum text → TwoCalls (getFruSerialNum fuel) s text :=
  fun h => getFruText_not_twoCalls (labelled_holdsText _) (h 0 labelled [65, 49] (labelled_holdsText _))

end XpuManager
