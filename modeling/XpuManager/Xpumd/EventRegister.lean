import XpuManager.Lib.FlagBits

/-! # Registering for events

`EventRegister` (`level-zero-go/sysman/sysman_static.go`) registers a device for a set of events. A
driver that does not know one of them refuses the whole set; then the events are registered one by one.
-/

namespace XpuManager

open FlagBits

/-- `core.Result`. -/
abbrev Result := BitVec 32

def RESULT_SUCCESS : Result := 0
def RESULT_ERROR_INVALID_ENUMERATION : Result := 2013265932
def RESULT_ERROR_UNSUPPORTED_ENUMERATION : Result := 2013265933

/-- `ToError`. -/
def Result.toError (ret : Result) : Option Result := if ret = RESULT_SUCCESS then none else some ret

/-- A set of event types. -/
abbrev EventTypeFlags := BitVec 32

/-- The registrations so far, with their results. -/
abbrev Registrations := List (EventTypeFlags × Result)

/-- `zesDeviceEventRegister`: what a driver answers to a registration after others. -/
abbrev EventDriver := Registrations → EventTypeFlags → Result

/-- The driver does not know one of the events, or does not support it. -/
def isEnumerationError (ret : Result) : Prop :=
  ret = RESULT_ERROR_INVALID_ENUMERATION ∨ ret = RESULT_ERROR_UNSUPPORTED_ENUMERATION

instance (ret : Result) : Decidable (isEnumerationError ret) := inferInstanceAs (Decidable (_ ∨ _))

variable (zesDeviceEventRegister : EventDriver)

/-- The loop over the single events: those registered, unless there was an unexpected error, and the
calls. -/
def registerEach (registered : EventTypeFlags) (calls : Registrations) :
    List EventTypeFlags → Except Result EventTypeFlags × Registrations
  | [] => (.ok registered, calls)
  | f :: flags =>
    let ret := zesDeviceEventRegister calls f
    let calls := calls ++ [(f, ret)]
    if ret ≠ RESULT_SUCCESS then
      if isEnumerationError ret then registerEach registered calls flags
      else (.error ret, calls)
    else registerEach (registered ||| f) calls flags

/-- `EventRegister`: the events registered and an error, and the calls. -/
def eventRegister (flags : EventTypeFlags) :
    (EventTypeFlags × Option Result) × Registrations :=
  let ret := zesDeviceEventRegister [] flags
  let calls := [(flags, ret)]
  if ret = RESULT_SUCCESS then ((flags, none), calls)
  else if flags ≤ 1 ∨ ¬isEnumerationError ret then ((0, ret.toError), calls)
  else
    match registerEach zesDeviceEventRegister 0 calls (flagsToBits flags) with
    | (.error ret, calls) => ((0, ret.toError), calls)
    | (.ok registered, calls) =>
      let ret := zesDeviceEventRegister calls registered
      let calls := calls ++ [(registered, ret)]
      if ret ≠ RESULT_SUCCESS then ((0, ret.toError), calls) else ((registered, none), calls)

/-- The driver accepts a set of events exactly where it accepts each of them, apart from calls that
fail with other errors. -/
structure FollowsAccepted (accepted : EventTypeFlags) : Prop where
  accepts : ∀ calls flags, zesDeviceEventRegister calls flags = RESULT_SUCCESS →
    flags &&& accepted = flags
  refuses : ∀ calls flags, isEnumerationError (zesDeviceEventRegister calls flags) →
    flags &&& accepted ≠ flags

/-- What is asked of a registration: an unexpected error of a call is returned, and without one the
events that are accepted are registered, and no others. -/
def RegistersAccepted (accepted flags : EventTypeFlags) : Prop :=
  match eventRegister zesDeviceEventRegister flags with
  | ((registered, error), calls) =>
    (∀ call ∈ calls, call.2 ≠ RESULT_SUCCESS → ¬isEnumerationError call.2 →
      registered = 0 ∧ error = some call.2) ∧
    ((∀ call ∈ calls, call.2 = RESULT_SUCCESS ∨ isEnumerationError call.2) →
      registered = flags &&& accepted ∧ error = none ∧
        (calls.filter fun call => call.2 = RESULT_SUCCESS).getLast? =
          some (flags &&& accepted, RESULT_SUCCESS))

section

variable {zesDeviceEventRegister : EventDriver} {accepted flags registered : EventTypeFlags}
  {calls : Registrations}

/-- The loop registers the accepted events, or it ends with the first unexpected error. -/
theorem registerEach_spec (h : FollowsAccepted zesDeviceEventRegister accepted)
    (registered : EventTypeFlags) (calls : Registrations) (fs : List EventTypeFlags) :
    (∃ ret f calls', registerEach zesDeviceEventRegister registered calls fs =
        (.error ret, calls ++ calls' ++ [(f, ret)]) ∧ ret ≠ RESULT_SUCCESS ∧ ¬isEnumerationError ret ∧
      ∀ call ∈ calls', call.2 = RESULT_SUCCESS ∨ isEnumerationError call.2) ∨
    ∃ calls', registerEach zesDeviceEventRegister registered calls fs =
        (.ok ((fs.filter fun f => f &&& accepted = f).foldl (· ||| ·) registered), calls ++ calls') ∧
      ∀ call ∈ calls', call.2 = RESULT_SUCCESS ∨ isEnumerationError call.2 := by
  induction fs generalizing registered calls with
  | nil => exact .inr ⟨[], by rw [List.append_nil]; rfl, fun call hcall => absurd hcall List.not_mem_nil⟩
  | cons f fs ih =>
    rw [registerEach]
    split
    case isTrue hret =>
      split
      case isTrue henum =>
        have hfilter : (f :: fs).filter (fun f => f &&& accepted = f) =
            fs.filter fun f => f &&& accepted = f :=
          List.filter_cons_of_neg (by simpa using h.refuses calls f henum)
        rw [hfilter]
        rcases ih registered (calls ++ [(f, zesDeviceEventRegister calls f)]) with
          ⟨ret, f', calls', heq, herr, hcalls'⟩ | ⟨calls', heq, hcalls'⟩
        · refine .inl ⟨ret, f', (f, zesDeviceEventRegister calls f) :: calls', by rw [heq]; simp, herr, hcalls'.1, ?_⟩
          exact List.forall_mem_cons.mpr ⟨.inr henum, hcalls'.2⟩
        · refine .inr ⟨(f, zesDeviceEventRegister calls f) :: calls', by rw [heq]; simp, ?_⟩
          exact List.forall_mem_cons.mpr ⟨.inr henum, hcalls'⟩
      case isFalse henum =>
        exact .inl ⟨_, f, [], by simp, hret, henum, fun call hcall => absurd hcall List.not_mem_nil⟩
    case isFalse hret =>
      have hsuccess := not_not.mp hret
      have hfilter : (f :: fs).filter (fun f => f &&& accepted = f) =
          f :: fs.filter fun f => f &&& accepted = f :=
        List.filter_cons_of_pos (by simpa using h.accepts calls f hsuccess)
      rw [hfilter, List.foldl_cons]
      rcases ih (registered ||| f) (calls ++ [(f, zesDeviceEventRegister calls f)]) with
        ⟨ret, f', calls', heq, herr, hcalls'⟩ | ⟨calls', heq, hcalls'⟩
      · refine .inl ⟨ret, f', (f, zesDeviceEventRegister calls f) :: calls', by rw [heq]; simp, herr, hcalls'.1, ?_⟩
        exact List.forall_mem_cons.mpr ⟨.inl hsuccess, hcalls'.2⟩
      · refine .inr ⟨(f, zesDeviceEventRegister calls f) :: calls', by rw [heq]; simp, ?_⟩
        exact List.forall_mem_cons.mpr ⟨.inl hsuccess, hcalls'⟩

theorem getLsbD_foldl_or (fs : List EventTypeFlags) (registered : EventTypeFlags) (i : Nat) :
    (fs.foldl (· ||| ·) registered).getLsbD i = true ↔
      registered.getLsbD i = true ∨ ∃ f ∈ fs, f.getLsbD i = true := by
  induction fs generalizing registered with
  | nil => simp
  | cons f fs ih =>
    rw [List.foldl_cons, ih, BitVec.getLsbD_or, Bool.or_eq_true, List.exists_mem_cons_iff, or_assoc]

/-- The accepted ones of the single events are the accepted part of the set. -/
theorem foldl_or_flagsToBits (accepted flags : EventTypeFlags) :
    ((flagsToBits flags).filter fun f => f &&& accepted = f).foldl (· ||| ·) 0 = flags &&& accepted := by
  refine BitVec.eq_of_getLsbD_eq fun i hi => Bool.eq_iff_iff.mpr ?_
  rw [getLsbD_foldl_or, BitVec.getLsbD_and, Bool.and_eq_true]
  simp only [List.mem_filter, mem_flagsToBits, decide_eq_true_eq]
  constructor
  · rintro (hzero | ⟨f, ⟨⟨j, hj, rfl⟩, haccepted⟩, hbit⟩)
    · simp at hzero
    · obtain ⟨-, rfl⟩ : j < 32 ∧ j = i := by simpa [BitVec.getLsbD_twoPow] using hbit
      have hbit' := congrArg (BitVec.getLsbD · j) haccepted
      exact ⟨hj, by simpa [BitVec.getLsbD_twoPow, hi] using hbit'⟩
  · rintro ⟨hflag, haccepted⟩
    refine .inr ⟨BitVec.twoPow 32 i, ⟨⟨i, hflag, rfl⟩, ?_⟩, by simp [hi]⟩
    rw [BitVec.twoPow_and, if_pos haccepted]

theorem le_one_iff : flags ≤ 1 ↔ flags = 0 ∨ flags = 1 := by
  rw [BitVec.le_def, ← BitVec.toNat_inj, ← BitVec.toNat_inj]
  change flags.toNat ≤ 1 ↔ flags.toNat = 0 ∨ flags.toNat = 1
  omega

theorem isEnumerationError.ne_success {ret : Result} (h : isEnumerationError ret) :
    ret ≠ RESULT_SUCCESS := by
  rintro rfl
  exact absurd h (by decide)

/-- The call that failed is the last one, and its error is returned. -/
theorem registersAccepted_of_error {ret : Result} {f : EventTypeFlags}
    (h : eventRegister zesDeviceEventRegister flags = ((0, ret.toError), calls ++ [(f, ret)]))
    (hret : ret ≠ RESULT_SUCCESS) (henum : ¬isEnumerationError ret)
    (hcalls : ∀ call ∈ calls, call.2 = RESULT_SUCCESS ∨ isEnumerationError call.2) :
    RegistersAccepted zesDeviceEventRegister accepted flags := by
  rw [RegistersAccepted, h]
  refine ⟨fun call hcall hne hnot => ?_, fun hall => ?_⟩
  · rcases List.mem_append.mp hcall with hmem | hmem
    · exact ((hcalls call hmem).elim hne hnot).elim
    · obtain rfl := List.mem_singleton.mp hmem
      exact ⟨rfl, if_neg hret⟩
  · exact ((hall (f, ret) (by simp)).elim hret henum).elim

/-- No call failed unexpectedly, and the last one registered what is accepted. -/
theorem registersAccepted_of_success
    (h : eventRegister zesDeviceEventRegister flags =
      ((flags &&& accepted, none), calls ++ [(flags &&& accepted, RESULT_SUCCESS)]))
    (hcalls : ∀ call ∈ calls, call.2 = RESULT_SUCCESS ∨ isEnumerationError call.2) :
    RegistersAccepted zesDeviceEventRegister accepted flags := by
  rw [RegistersAccepted, h]
  refine ⟨fun call hcall hne hnot => ?_, fun _ => ⟨rfl, rfl, ?_⟩⟩
  · rcases List.mem_append.mp hcall with hmem | hmem
    · exact ((hcalls call hmem).elim hne hnot).elim
    · obtain rfl := List.mem_singleton.mp hmem
      exact absurd rfl hne
  · rw [List.filter_append]
    simp

/-- **The accepted events are registered**, unless the only event that is wanted is the first one and
the driver does not know it. -/
theorem eventRegister_iff (zesDeviceEventRegister : EventDriver) (accepted flags : EventTypeFlags)
    (h : FollowsAccepted zesDeviceEventRegister accepted) :
    RegistersAccepted zesDeviceEventRegister accepted flags ↔
      ¬(flags = 1 ∧ isEnumerationError (zesDeviceEventRegister [] flags)) := by
  constructor
  · rintro hregisters ⟨rfl, henum⟩
    have hrun : eventRegister zesDeviceEventRegister 1 =
        ((0, (zesDeviceEventRegister [] 1).toError), [(1, zesDeviceEventRegister [] 1)]) := by
      rw [eventRegister, if_neg henum.ne_success, if_pos (.inl (by decide))]
    rw [RegistersAccepted, hrun] at hregisters
    have hnone := (hregisters.2 (List.forall_mem_singleton.mpr (.inr henum))).2.1
    rw [Result.toError, if_neg henum.ne_success] at hnone
    cases hnone
  · intro hfirst
    by_cases hsuccess : zesDeviceEventRegister [] flags = RESULT_SUCCESS
    · have hsubset := h.accepts [] flags hsuccess
      have hrun : eventRegister zesDeviceEventRegister flags =
          ((flags &&& accepted, none), [] ++ [(flags &&& accepted, RESULT_SUCCESS)]) := by
        rw [eventRegister, if_pos hsuccess, hsuccess, hsubset, List.nil_append]
      exact registersAccepted_of_success hrun fun call hcall => absurd hcall List.not_mem_nil
    · by_cases henum : isEnumerationError (zesDeviceEventRegister [] flags)
      · have hmany : ¬(flags ≤ 1 ∨ ¬isEnumerationError (zesDeviceEventRegister [] flags)) := by
          rintro (hle | hnot)
          · rcases le_one_iff.mp hle with rfl | rfl
            · exact h.refuses [] 0 henum (BitVec.zero_and)
            · exact hfirst ⟨rfl, henum⟩
          · exact hnot henum
        have hfirstCall : ∀ call ∈ [(flags, zesDeviceEventRegister [] flags)],
            call.2 = RESULT_SUCCESS ∨ isEnumerationError call.2 :=
          List.forall_mem_singleton.mpr (.inr henum)
        rcases registerEach_spec h 0 [(flags, zesDeviceEventRegister [] flags)] (flagsToBits flags) with
          ⟨ret, f, calls', heq, hne, hnot, hcalls'⟩ | ⟨calls', heq, hcalls'⟩
        · refine registersAccepted_of_error (f := f) ?_ hne hnot
            (List.forall_mem_append.mpr ⟨hfirstCall, hcalls'⟩)
          rw [eventRegister, if_neg hsuccess, if_neg hmany, heq]
        · rw [foldl_or_flagsToBits] at heq
          have hall := List.forall_mem_append.mpr ⟨hfirstCall, hcalls'⟩
          -- the accepted events are a set that the driver knows
          have hnot : ¬isEnumerationError (zesDeviceEventRegister
              ([(flags, zesDeviceEventRegister [] flags)] ++ calls') (flags &&& accepted)) := by
            intro henum'
            refine h.refuses _ _ henum' ?_
            rw [BitVec.and_assoc, BitVec.and_self]
          by_cases hlast : zesDeviceEventRegister
              ([(flags, zesDeviceEventRegister [] flags)] ++ calls') (flags &&& accepted) =
                RESULT_SUCCESS
          · refine registersAccepted_of_success ?_ hall
            rw [eventRegister, if_neg hsuccess, if_neg hmany, heq]
            dsimp only
            rw [if_neg (not_not_intro hlast), hlast]
          · refine registersAccepted_of_error (f := flags &&& accepted) ?_ hlast hnot hall
            rw [eventRegister, if_neg hsuccess, if_neg hmany, heq]
            exact if_pos hlast
      · have hrun : eventRegister zesDeviceEventRegister flags =
            ((0, (zesDeviceEventRegister [] flags).toError),
              [] ++ [(flags, zesDeviceEventRegister [] flags)]) := by
          rw [eventRegister, if_neg hsuccess, if_pos (.inr henum)]
          rfl
        exact registersAccepted_of_error hrun hsuccess henum fun call hcall =>
          absurd hcall List.not_mem_nil

end

/-- A driver that knows only the second event. -/
def attachDriver : EventDriver := fun _ flags =>
  if flags &&& 2 = flags then RESULT_SUCCESS else RESULT_ERROR_UNSUPPORTED_ENUMERATION

theorem attachDriver_followsAccepted : FollowsAccepted attachDriver 2 where
  accepts calls flags h := by
    rw [attachDriver] at h
    split at h
    case isTrue hsubset => exact hsubset
    case isFalse => exact absurd h (by decide)
  refuses calls flags h := by
    rw [attachDriver] at h
    split at h
    case isTrue => exact absurd h (by decide)
    case isFalse hsubset => exact hsubset

/-- Of the first two events it gets the second. -/
theorem eventRegister_iff_attach : RegistersAccepted attachDriver 2 3 :=
  (eventRegister_iff attachDriver 2 3 attachDriver_followsAccepted).mpr (by decide)

/-- The first event alone is an error; the third one alone would be no event. -/
theorem eventRegister_detach : FollowsAccepted attachDriver 2 ∧ ¬RegistersAccepted attachDriver 2 1 := by
  refine ⟨attachDriver_followsAccepted, fun h => ?_⟩
  have hcalls : (eventRegister attachDriver 1).2 = [(1, RESULT_ERROR_UNSUPPORTED_ENUMERATION)] := rfl
  have hexpected : ∀ call ∈ (eventRegister attachDriver 1).2,
      call.2 = RESULT_SUCCESS ∨ isEnumerationError call.2 := by
    rw [hcalls, List.forall_mem_singleton]
    exact .inr (by decide)
  have hnone : (eventRegister attachDriver 1).1.2 = none := (h.2 hexpected).2.1
  exact absurd hnone (by decide)

end XpuManager
