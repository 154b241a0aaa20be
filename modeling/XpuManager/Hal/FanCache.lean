import Mathlib.Logic.Relation
import Mathlib.Data.List.Nodup
import XpuManager.Hal.Fan

/-! # What is kept of the fans' configurations

The module keeps configurations for half a second, and every setter forgets those of the fans that it
has set (`hal/core/fan.cpp`). -/

namespace XpuManager

namespace Fan

open Relation

/-! ## Moves -/

/-- Something about a fan is read, and kept. -/
inductive Learn (i : Nat) : FanSystem → FanSystem → Prop
  | keep {s : FanSystem} {slot slot' : FanSlot} (hslot : s.fans[i]? = some slot)
      (hhandle : slot'.handle = slot.handle)
      (hconfig : slot'.config = slot.config ∨ ∃ ms, slot'.config = some (s.driver slot.handle, ms)) :
      Learn i s (s.setSlot i slot')

abbrev Learns (i : Nat) : FanSystem → FanSystem → Prop := ReflTransGen (Learn i)

/-- The steps of the operations, which set only some of the fans. -/
inductive Move (touched : Nat → Prop) : FanSystem → FanSystem → Prop
  | enumerate {s : FanSystem} {slots : List FanSlot} (hempty : s.fans = [])
      (hnodup : (slots.map FanSlot.handle).Nodup) (hfresh : ∀ slot ∈ slots, slot.config = none) :
      Move touched s { s with fans := slots }
  | learn {s t : FanSystem} {i : Nat} (hlearn : Learn i s t) : Move touched s t
  | store {s : FanSystem} {i : Nat} {slot : FanSlot} (config : FanConfig) (htouched : touched i)
      (hslot : s.fans[i]? = some slot) :
      Move touched s
        { s.setSlot i { slot with config := none } with
          driver := Function.update s.driver slot.handle config }

abbrev Moves (touched : Nat → Prop) : FanSystem → FanSystem → Prop := ReflTransGen (Move touched)

/-- What is kept is what the driver holds. -/
structure Coherent (s : FanSystem) : Prop where
  nodup : (s.fans.map FanSlot.handle).Nodup
  current : ∀ slot ∈ s.fans, ∀ config ms, slot.config = some (config, ms) →
    config = s.driver slot.handle

/-- The driver holds a configuration of some kind for a fan. -/
def Holds (P : FanConfig → Prop) (i : Nat) (s : FanSystem) : Prop :=
  ∃ slot, s.fans[i]? = some slot ∧ P (s.driver slot.handle)

section

variable {touched touched' : Nat → Prop} {s t : FanSystem} {P : FanConfig → Prop} {i j : Nat}
  {slot slot' : FanSlot}

theorem Move.mono (h : ∀ i, touched i → touched' i) (hmove : Move touched s t) : Move touched' s t := by
  cases hmove with
  | enumerate hempty hnodup hfresh => exact .enumerate hempty hnodup hfresh
  | learn hlearn => exact .learn hlearn
  | store config htouched hslot => exact .store config (h _ htouched) hslot

theorem moves_mono (h : ∀ i, touched i → touched' i) (hmoves : Moves touched s t) :
    Moves touched' s t :=
  ReflTransGen.mono (fun _ _ hmove => hmove.mono h) _ _ hmoves

theorem moves_of_learns (hlearns : Learns i s t) : Moves touched s t :=
  ReflTransGen.mono (fun _ _ => .learn) _ _ hlearns

theorem learns_of_eq {α : Type} {run : α × FanSystem} {a : α} (hlearns : Learns i s run.2)
    (h : run = (a, t)) : Learns i s t := by
  subst h
  exact hlearns

/-- The moves of a part of an operation. -/
theorem moves_of_eq {α : Type} {run : α × FanSystem} {a : α} (hmoves : Moves touched s run.2)
    (h : run = (a, t)) : Moves touched s t := by
  subst h
  exact hmoves

/-- Once there are fans, they stay. -/
theorem moves_ne_nil (hmoves : Moves touched s t) (hfans : s.fans ≠ []) :
    t.fans ≠ [] ∧ t.fans.length = s.fans.length := by
  induction hmoves with
  | refl => exact ⟨hfans, rfl⟩
  | tail _ hmove ih =>
    obtain ⟨hne, hlen⟩ := ih
    cases hmove with
    | enumerate hempty => exact absurd hempty hne
    | learn hlearn =>
      obtain ⟨-, -, -⟩ := hlearn
      exact ⟨fun h => hne ((List.set_eq_nil_iff _ _).mp h), List.length_set.trans hlen⟩
    | store => exact ⟨fun h => hne ((List.set_eq_nil_iff _ _).mp h), List.length_set.trans hlen⟩

theorem map_handle_set (hslot : s.fans[i]? = some slot) (hhandle : slot'.handle = slot.handle) :
    (s.fans.set i slot').map FanSlot.handle = s.fans.map FanSlot.handle := by
  rw [List.map_set, hhandle]
  refine List.ext_getElem? fun j => ?_
  rw [List.getElem?_set]
  split
  case isTrue h =>
    obtain ⟨hlt, rfl⟩ := List.getElem?_eq_some_iff.mp hslot
    subst h
    simp [hlt]
  case isFalse => rfl

/-- Fans have handles of their own. -/
theorem Coherent.handle_inj (hs : Coherent s) (hi : s.fans[i]? = some slot)
    (hj : s.fans[j]? = some slot') (hhandle : slot.handle = slot'.handle) : i = j := by
  have hlt : i < (s.fans.map FanSlot.handle).length := by
    rw [List.length_map]
    exact (List.getElem?_eq_some_iff.mp hi).1
  refine (List.getElem?_inj hlt hs.nodup).mp ?_
  rw [List.getElem?_map, List.getElem?_map, hi, hj]
  exact congrArg some hhandle

/-- **What is kept stays current.** -/
theorem Coherent.move (hs : Coherent s) (hmove : Move touched s t) : Coherent t := by
  cases hmove with
  | enumerate hempty hnodup hfresh =>
    refine ⟨hnodup, fun slot hmem config ms hconfig => ?_⟩
    rw [hfresh slot hmem] at hconfig
    cases hconfig
  | learn hlearn =>
    obtain @⟨slot, slot', hslot, hhandle, hconfig⟩ := hlearn
    refine ⟨(map_handle_set hslot hhandle).symm ▸ hs.nodup, fun other hmem config ms hother => ?_⟩
    rcases List.mem_or_eq_of_mem_set hmem with hmem | rfl
    · exact hs.current other hmem config ms hother
    · rw [hhandle]
      rcases hconfig with hkept | ⟨ms', hlive⟩
      · exact hs.current slot (List.mem_of_getElem? hslot) config ms (hkept.symm.trans hother)
      · obtain ⟨rfl, -⟩ := Prod.mk.inj (Option.some.inj (hother.symm.trans hlive))
        rfl
  | @store i slot config htouched hslot =>
    have hnodup : ((s.fans.set i { slot with config := none }).map FanSlot.handle).Nodup := by
      have hhandle : ({ slot with config := none } : FanSlot).handle = slot.handle := rfl
      rw [map_handle_set hslot hhandle]
      exact hs.nodup
    refine ⟨hnodup, fun other hmem config' ms hother => ?_⟩
    obtain ⟨j, hj⟩ := List.mem_iff_getElem?.mp hmem
    change (s.fans.set i _)[j]? = some other at hj
    rw [List.getElem?_set] at hj
    split at hj
    case isTrue h =>
      subst h
      split at hj
      · obtain rfl := Option.some.inj hj
        cases hother
      · cases hj
    case isFalse h =>
      have hne : other.handle ≠ slot.handle := fun hhandle => h (hs.handle_inj hj hslot hhandle).symm
      exact (hs.current other (List.mem_of_getElem? hj) config' ms hother).trans
        (Function.update_of_ne hne _ _).symm

theorem Coherent.moves (hs : Coherent s) (hmoves : Moves touched s t) : Coherent t := by
  induction hmoves with
  | refl => exact hs
  | tail _ hmove ih => exact ih.move hmove

/-- A fan that is not set keeps its configuration. -/
theorem Holds.move (hs : Coherent s) (hmove : Move touched s t) (hspared : ¬touched i)
    (hholds : Holds P i s) : Holds P i t := by
  obtain ⟨slot, hslot, hP⟩ := hholds
  cases hmove with
  | enumerate hempty => rw [hempty] at hslot; cases hslot
  | @learn _ j hlearn =>
    obtain @⟨other, other', hother, hhandle, hconfig⟩ := hlearn
    by_cases hij : j = i
    · subst hij
      obtain rfl := Option.some.inj (hslot.symm.trans hother)
      refine ⟨other', ?_, hhandle ▸ hP⟩
      obtain ⟨hlt, -⟩ := List.getElem?_eq_some_iff.mp hslot
      exact List.getElem?_set_self hlt
    · exact ⟨slot, (List.getElem?_set_ne hij).trans hslot, hP⟩
  | @store j other config htouched hother =>
    have hij : j ≠ i := fun h => hspared (h ▸ htouched)
    refine ⟨slot, (List.getElem?_set_ne hij).trans hslot, ?_⟩
    have hne : slot.handle ≠ other.handle := fun h => hij (hs.handle_inj hslot hother h).symm
    change P (Function.update s.driver other.handle config slot.handle)
    rwa [Function.update_of_ne hne]

theorem Holds.moves (hs : Coherent s) (hmoves : Moves touched s t) (hspared : ¬touched i)
    (hholds : Holds P i s) : Holds P i t := by
  induction hmoves with
  | refl => exact hholds
  | tail hmoves hmove ih => exact ih.move (hs.moves hmoves) hmove hspared

end

/-! ## The moves of the operations -/

/-- A call that sets a fan to a configuration of some kind, or leaves everything. -/
def SetsTo (P : FanConfig → Prop) (call : FanSystem.SetCall) : Prop :=
  ∀ s handle propRes, ∃ config, P config ∧
    call s handle propRes = s.driverSet (call s handle propRes).1 handle config

/-- The fans that are selected. -/
def Selects (fanId : Int) (i : Nat) : Prop := fanId = -1 ∨ fanId = i

namespace FanSystem

variable {touched : Nat → Prop} {P : FanConfig → Prop} (answers : FanAnswers) (s : FanSystem)

/-- The slots are built afresh, or nothing moves. -/
theorem moves_ensureFansEnumerated : Moves touched s (s.ensureFansEnumerated answers).2 := by
  have hnone (hempty : s.fans = []) : Moves touched s { s with fans := [] } :=
    .single (.enumerate hempty List.nodup_nil nofun)
  rw [ensureFansEnumerated]
  split
  case isTrue => exact .refl
  case isFalse hfans =>
    have hempty : s.fans = [] := not_not.mp hfans
    split
    · exact .refl
    · rw [enumFans]
      split
      · exact hnone hempty
      · split
        · exact hnone hempty
        · split
          · exact hnone hempty
          · refine .single (.enumerate hempty ?_ fun slot hmem => ?_)
            · rw [List.map_map]
              exact (List.map_id answers.fans.items).symm ▸ answers.nodup
            · obtain ⟨handle, -, rfl⟩ := List.mem_map.mp hmem
              rfl

theorem ensureFansEnumerated_of_ne_nil (h : s.fans ≠ []) :
    s.ensureFansEnumerated answers = (.success, s) := if_pos h

theorem resolveTargetFanIndexes_snd (fanId : Int) :
    (s.resolveTargetFanIndexes answers fanId).2 = (s.ensureFansEnumerated answers).2 := by
  simp only [resolveTargetFanIndexes]
  split
  · rfl
  · split
    · rfl
    · split
      · rfl
      · split <;> rfl

/-- The targets: all fans, or the one that is selected. -/
theorem resolveTargetFanIndexes_eq_ok {fanId : Int} {targets : List Nat} {t : FanSystem}
    (h : s.resolveTargetFanIndexes answers fanId = (.ok targets, t)) :
    fanId = -1 ∧ targets = List.range t.fans.length ∨
      0 ≤ fanId ∧ fanId.toNat < t.fans.length ∧ targets = [fanId.toNat] := by
  rw [resolveTargetFanIndexes] at h
  dsimp only at h
  split at h
  · cases h
  · split at h
    · cases h
    · split at h
      case isTrue hall =>
        obtain ⟨htargets, rfl⟩ := Prod.mk.inj h
        exact .inl ⟨hall, (Except.ok.inj htargets).symm⟩
      case isFalse hall =>
        split at h
        case isTrue => cases h
        case isFalse hvalid =>
          obtain ⟨htargets, rfl⟩ := Prod.mk.inj h
          rw [not_or, not_lt, not_le] at hvalid
          exact .inr ⟨hvalid.1, hvalid.2, (Except.ok.inj htargets).symm⟩

/-- There is a fan where one is found. -/
theorem ne_nil_of_resolve_ok {fanId : Int} {targets : List Nat} {t : FanSystem}
    (h : s.resolveTargetFanIndexes answers fanId = (.ok targets, t)) : t.fans ≠ [] := by
  intro hnil
  rw [resolveTargetFanIndexes] at h
  dsimp only at h
  split at h
  · cases h
  · split at h
    case isTrue => cases h
    case isFalse hlen =>
      have hsnd := congrArg Prod.snd h
      rw [apply_ite Prod.snd, apply_ite Prod.snd, ite_self, ite_self] at hsnd
      have ht : (s.ensureFansEnumerated answers).2 = t := hsnd
      rw [ht, hnil] at hlen
      exact hlen rfl

theorem ne_success_of_resolve_error {fanId : Int} {result : ZeResult} {t : FanSystem}
    (h : s.resolveTargetFanIndexes answers fanId = (.error result, t)) : result ≠ .success := by
  have herror := congrArg Prod.fst h
  rw [resolveTargetFanIndexes] at herror
  dsimp only at herror
  split at herror
  case isTrue hfails => exact Except.error.inj herror ▸ hfails
  case isFalse =>
    split at herror
    · exact Except.error.inj herror ▸ by decide
    · split at herror
      · cases herror
      · split at herror
        · exact Except.error.inj herror ▸ by decide
        · cases herror

theorem nodup_targets {fanId : Int} {targets : List Nat} {t : FanSystem}
    (h : s.resolveTargetFanIndexes answers fanId = (.ok targets, t)) : targets.Nodup := by
  rcases s.resolveTargetFanIndexes_eq_ok answers h with ⟨-, rfl⟩ | ⟨-, -, rfl⟩
  · exact List.nodup_range
  · exact List.nodup_singleton _

theorem mem_targets {fanId : Int} {targets : List Nat} {t : FanSystem}
    (h : s.resolveTargetFanIndexes answers fanId = (.ok targets, t)) (i : Nat) :
    i ∈ targets ↔ Selects fanId i ∧ i < t.fans.length := by
  rcases s.resolveTargetFanIndexes_eq_ok answers h with ⟨hall, rfl⟩ | ⟨hnonneg, hlt, rfl⟩
  · rw [List.mem_range]
    exact (and_iff_right (.inl hall)).symm
  · rw [List.mem_singleton, Selects]
    omega

theorem learns_getPropertiesById (attempt i : Nat) :
    Learns i s (s.getPropertiesById answers attempt i).2 := by
  rw [getPropertiesById]
  split
  case h_1 => exact .refl
  case h_2 slot hslot =>
    split
    · exact .refl
    · split
      · exact .refl
      · exact .single (.keep hslot rfl (.inl rfl))

theorem learns_getConfigById (i : Nat) : Learns i s (s.getConfigById answers i).2 := by
  rw [getConfigById]
  split
  case h_1 => exact .refl
  case h_2 slot hslot =>
    split
    · exact .refl
    · split
      · exact .refl
      · exact .single (.keep hslot rfl (.inr ⟨_, rfl⟩))

theorem moves_resolve (fanId : Int) :
    Moves touched s (s.resolveTargetFanIndexes answers fanId).2 :=
  s.resolveTargetFanIndexes_snd answers fanId ▸ s.moves_ensureFansEnumerated answers

theorem moves_getConfig (fanId : Int) : Moves touched s (s.getConfig answers fanId).2 := by
  have hresolve : Moves touched s _ := s.moves_resolve answers fanId
  rw [getConfig]
  split
  case h_1 h => exact moves_of_eq hresolve h
  case h_2 h => exact moves_of_eq hresolve h
  case h_3 i _ t h =>
    exact (moves_of_eq hresolve h).trans (moves_of_learns (t.learns_getConfigById answers i))

theorem learns_setpointReading (i : Nat) (setpoint : Option FanSpeed) :
    Learns i s (s.setpointReading answers i setpoint).2 := by
  rw [setpointReading.eq_def]
  split
  · exact .refl
  · have hprops := s.learns_getPropertiesById answers 0 i
    split
    case h_1 h => exact learns_of_eq hprops h
    case h_2 h => exact learns_of_eq hprops h
  · exact .refl

theorem learns_measuredRpm (i : Nat) (handle : Handle) :
    Learns i s (s.measuredRpm answers i handle).2 := by
  rw [measuredRpm]
  split
  · exact .refl
  · split
    · exact .refl
    · have hprops := s.learns_getPropertiesById answers 1 i
      split
      case h_1 h => exact learns_of_eq hprops h
      case h_2 h =>
        split
        · exact learns_of_eq hprops h
        · exact learns_of_eq hprops h

theorem learns_measuredReading (i : Nat) (handle : Handle) :
    Learns i s (s.measuredReading answers i handle).2 := by
  rw [measuredReading]
  split
  · split
    · exact .refl
    · exact s.learns_measuredRpm answers i handle
  · exact s.learns_measuredRpm answers i handle

/-- Once the fans are enumerated, reading a speed only learns about the fan. -/
theorem learns_getReadingById (i : Nat) :
    Learns i (s.ensureFansEnumerated answers).2 (s.getReadingById answers i).2 := by
  rw [getReadingById]
  dsimp only
  generalize (s.ensureFansEnumerated answers).2 = t
  split
  · exact .refl
  · split
    · exact .refl
    · have hconfig := t.learns_getConfigById answers i
      generalize t.getConfigById answers i = run at hconfig ⊢
      have hsetpoint := hconfig.trans
        (run.2.learns_setpointReading answers i (run.1.toOption.bind FanConfig.setpoint))
      split
      case h_1 h => exact learns_of_eq hsetpoint h
      case h_2 slot _ _ t h =>
        exact (learns_of_eq hsetpoint h).trans (t.learns_measuredReading answers i slot.handle)

theorem moves_getReadingById (i : Nat) : Moves touched s (s.getReadingById answers i).2 :=
  (s.moves_ensureFansEnumerated answers).trans (moves_of_learns (s.learns_getReadingById answers i))

theorem moves_getSpeedPercentById (i : Nat) :
    Moves touched s (s.getSpeedPercentById answers i).2 := s.moves_getReadingById answers i

theorem moves_addSpeeds (totalPct : Int) (validCount : Nat) (is : List Nat) :
    Moves touched s (addSpeeds answers totalPct validCount s is).2 := by
  induction is generalizing totalPct validCount s with
  | nil => exact .refl
  | cons i is ih =>
    have hreading : Moves touched s _ := s.moves_getSpeedPercentById answers i
    rw [addSpeeds]
    split
    case h_1 h =>
      have hrest := moves_of_eq hreading h
      split
      · exact hrest.trans (ih _ _ _)
      · exact hrest.trans (ih _ _ _)
    case h_2 h => exact (moves_of_eq hreading h).trans (ih _ _ _)

theorem moves_getSpeedPercent : Moves touched s (s.getSpeedPercent answers).2 := by
  have hensure : Moves touched s _ := s.moves_ensureFansEnumerated answers
  rw [getSpeedPercent]
  dsimp only
  generalize (s.ensureFansEnumerated answers).2 = t at hensure ⊢
  split
  · exact hensure
  · split
    · exact hensure
    · have hsum := hensure.trans (t.moves_addSpeeds answers 0 0 (List.range t.fans.length))
      split
      · exact hsum
      · exact hsum

/-! ## The setters -/

theorem driverSet_of_ne {result : ZeResult} (h : result ≠ .success) (handle : Handle)
    (config : FanConfig) : s.driverSet result handle config = (result, s) := by
  rw [driverSet, if_neg h]

theorem zesFanSetFixedSpeedMode_of_ne {handle : Handle} {speed : FanSpeed}
    (h : answers.setFixed handle speed ≠ .success) :
    (s.zesFanSetFixedSpeedMode answers handle speed).2 = s :=
  congrArg Prod.snd (s.driverSet_of_ne h _ _)

theorem zesFanSetSpeedTableMode_of_ne {handle : Handle} {table : FanSpeedTable}
    (h : answers.setTable handle table ≠ .success) :
    (s.zesFanSetSpeedTableMode answers handle table).2 = s :=
  congrArg Prod.snd (s.driverSet_of_ne h _ _)

theorem driverSet_of_success (handle : Handle) (config : FanConfig) :
    s.driverSet .success handle config =
      (.success, { s with driver := Function.update s.driver handle config }) := rfl

/-- **One fan is set**, and then what is kept of it is forgotten. -/
theorem setTarget_spec {call : SetCall} (hcall : SetsTo P call) {i : Nat} (hi : touched i) :
    Moves touched s (s.setTarget answers call i).2 ∧
      ((s.setTarget answers call i).1 = .success → Holds P i (s.setTarget answers call i).2) := by
  have hprops : Moves touched s _ := moves_of_learns (s.learns_getPropertiesById answers 0 i)
  rw [setTarget]
  dsimp only
  generalize s.getPropertiesById answers 0 i = run at hprops ⊢
  obtain ⟨propRes, t⟩ := run
  dsimp only at hprops ⊢
  split
  · exact ⟨hprops, nofun⟩
  · split
    case h_1 => exact ⟨hprops, nofun⟩
    case h_2 slot hslot =>
      obtain ⟨config, hP, hset⟩ := hcall t slot.handle propRes
      dsimp only
      by_cases hresult : (call t slot.handle propRes).1 = .success
      · rw [hresult, driverSet_of_success] at hset
        rw [hset, if_pos rfl, invalidateFanConfigCacheById]
        dsimp only
        split
        case h_1 hnone =>
          rw [hslot] at hnone
          cases hnone
        case h_2 other hother =>
          obtain rfl := Option.some.inj (hslot.symm.trans hother)
          refine ⟨hprops.tail (.store config hi hslot), fun _ => ?_⟩
          refine ⟨{ slot with config := none }, ?_, ?_⟩
          · exact List.getElem?_set_self (List.getElem?_eq_some_iff.mp hslot).1
          · exact (congrArg P (Function.update_self slot.handle config t.driver)).mpr hP
      · rw [if_neg hresult]
        rw [driverSet, if_neg hresult] at hset
        rw [hset]
        exact ⟨hprops, fun h => absurd h hresult⟩

theorem moves_setTargets {call : SetCall} (hcall : SetsTo P call) (lastResult : ZeResult)
    {targets : List Nat} (htouched : ∀ i ∈ targets, touched i) :
    Moves touched s (setTargets answers call lastResult s targets).2 := by
  induction targets generalizing s lastResult with
  | nil => exact .refl
  | cons i is ih =>
    rw [List.forall_mem_cons] at htouched
    rw [setTargets]
    exact (s.setTarget_spec answers hcall htouched.1).1.trans (ih _ _ htouched.2)

/-- **The loop of a setter.** A success is one for each of the targets. -/
theorem holds_of_setTargets {call : SetCall} (hcall : SetsTo P call) (lastResult : ZeResult)
    {targets : List Nat} (hnodup : targets.Nodup) (hs : Coherent s)
    (h : (setTargets answers call lastResult s targets).1 = .success) :
    lastResult = .success ∧
      ∀ i ∈ targets, Holds P i (setTargets answers call lastResult s targets).2 := by
  induction targets generalizing s lastResult with
  | nil => exact ⟨h, nofun⟩
  | cons i is ih =>
    obtain ⟨hi, his⟩ := List.nodup_cons.mp hnodup
    have hi' : (· = i) i := rfl
    obtain ⟨hmoves, hset⟩ := s.setTarget_spec answers hcall hi'
    rw [setTargets] at h ⊢
    dsimp only at h ⊢
    generalize s.setTarget answers call i = run at hmoves hset h ⊢
    obtain ⟨result, t⟩ := run
    dsimp only at hmoves hset h ⊢
    have ht : Coherent t := hs.moves hmoves
    obtain ⟨hlast, hholds⟩ := ih t _ his ht h
    have hresult : result = .success := by
      by_contra hne
      rw [if_neg hne] at hlast
      exact hne hlast
    rw [if_pos hresult] at hlast
    refine ⟨hlast, List.forall_mem_cons.mpr ⟨?_, hholds⟩⟩
    -- The rest of the loop spares this fan.
    have hrest : Moves (· ∈ is) t _ := t.moves_setTargets answers hcall
      (if result = .success then lastResult else result) fun _ h => h
    exact (hset hresult).moves ht hrest hi

end FanSystem

/-! ## Runs -/

/-- The operations of the module. -/
inductive FanOp where
  | getConfig (fanId : Int)
  | getFanCount
  | getSpeedPercentById (i : Nat)
  | getSpeedPercent
  | setFixedSpeedPercent (speedPercent : Int32) (fanId : Int)
  | setDefaultMode (fanId : Int)
  | setSpeedTableMode (table : List (UInt32 × Int32)) (units : FanUnits) (fanId : Int)

namespace FanOp

/-- The fans that an operation may set. -/
def Touches : FanOp → Nat → Prop
  | setFixedSpeedPercent _ fanId => Selects fanId
  | setDefaultMode fanId => Selects fanId
  | setSpeedTableMode _ _ fanId => Selects fanId
  | _ => fun _ => False

/-- What an operation leaves behind. -/
def run (answers : FanAnswers) (s : FanSystem) : FanOp → FanSystem
  | getConfig fanId => (s.getConfig answers fanId).2
  | getFanCount => (s.getFanCount answers).2
  | getSpeedPercentById i => (s.getSpeedPercentById answers i).2
  | getSpeedPercent => (s.getSpeedPercent answers).2
  | setFixedSpeedPercent speedPercent fanId => (s.setFixedSpeedPercent answers speedPercent fanId).2
  | setDefaultMode fanId => (s.setDefaultMode answers fanId).2
  | setSpeedTableMode table units fanId => (s.setSpeedTableMode answers table units fanId).2

end FanOp

/-- The operations one after the other, with the driver's answers to each. -/
def runAll (s : FanSystem) (ops : List (FanOp × FanAnswers)) : FanSystem :=
  ops.foldl (fun s op => op.1.run op.2 s) s

/-- A configuration that asks for a percentage. -/
def Asks (speedPercent : Int32) (config : FanConfig) : Prop :=
  config.setpoint = some { speed := speedPercent, units := .percent }

section

variable (answers : FanAnswers) {touched : Nat → Prop} {P : FanConfig → Prop}

theorem asks_flatTable (config : FanConfig) (speedPercent : Int32) :
    Asks speedPercent { config with
      mode := .table,
      speedTable := FanSystem.flatTable { speed := speedPercent, units := .percent } } := by
  simp [Asks, FanConfig.setpoint, FanSystem.flatTable]

/-- A fan that does not take a fixed speed takes a flat table, or nothing. -/
theorem setsTo_setFixedCall (speedPercent : Int32) : SetsTo (Asks speedPercent)
    (FanSystem.setFixedCall answers { speed := speedPercent, units := .percent }) := by
  intro s handle propRes
  rw [FanSystem.setFixedCall]
  dsimp only
  split
  case isTrue hretry =>
    refine ⟨_, asks_flatTable (s.driver handle) speedPercent, ?_⟩
    have hfails : answers.setFixed handle { speed := speedPercent, units := .percent } ≠ .success := by
      rcases hretry.1 with h | h
      · exact fun hsuccess => nomatch h.symm.trans hsuccess
      · exact fun hsuccess => nomatch h.symm.trans hsuccess
    -- A call that fails leaves the configuration, so the second one starts from it.
    rw [s.zesFanSetFixedSpeedMode_of_ne answers hfails]
    rfl
  case isFalse => exact ⟨{ s.driver handle with mode := .fixed, speedFixed := _ }, rfl, rfl⟩

theorem setsTo_setDefaultMode :
    SetsTo (fun _ => True) fun s handle _ => s.zesFanSetDefaultMode answers handle :=
  fun _ _ _ => ⟨_, trivial, rfl⟩

theorem setsTo_setTableCall (units : FanUnits) (table : FanSpeedTable) :
    SetsTo (fun _ => True) (FanSystem.setTableCall answers units table) := by
  intro s handle propRes
  rw [FanSystem.setTableCall.eq_def]
  dsimp only
  split
  case h_2 => exact ⟨_, trivial, rfl⟩
  case h_1 props =>
    split
    case isFalse => exact ⟨_, trivial, rfl⟩
    case isTrue hretry =>
      have hfails : answers.setTable handle table ≠ .success :=
        fun hsuccess => nomatch hretry.1.symm.trans hsuccess
      rw [s.zesFanSetSpeedTableMode_of_ne answers hfails]
      exact ⟨_, trivial, rfl⟩

/-- **Every operation is made of moves**, and sets only fans that are selected. -/
theorem FanOp.moves_run (s : FanSystem) (op : FanOp) : Moves op.Touches s (op.run answers s) := by
  cases op with
  | getConfig fanId => exact s.moves_getConfig answers fanId
  | getFanCount =>
    have hensure : Moves (fun _ => False) s _ := s.moves_ensureFansEnumerated answers
    rw [run, FanSystem.getFanCount]
    dsimp only
    split
    · exact hensure
    · exact hensure
  | getSpeedPercentById i => exact s.moves_getSpeedPercentById answers i
  | getSpeedPercent => exact s.moves_getSpeedPercent answers
  | setFixedSpeedPercent speedPercent fanId =>
    rw [run, FanSystem.setFixedSpeedPercent]
    split
    case h_1 h => exact moves_of_eq (s.moves_resolve answers fanId) h
    case h_2 targets t h =>
      have hresolve : Moves (Selects fanId) s t := moves_of_eq (s.moves_resolve answers fanId) h
      have htargets := s.mem_targets answers h
      split
      · exact hresolve
      · exact hresolve.trans (t.moves_setTargets answers (setsTo_setFixedCall answers speedPercent) _
          fun i hi => ((htargets i).mp hi).1)
  | setDefaultMode fanId =>
    rw [run, FanSystem.setDefaultMode]
    split
    case h_1 h => exact moves_of_eq (s.moves_resolve answers fanId) h
    case h_2 targets t h =>
      have htargets := s.mem_targets answers h
      exact (moves_of_eq (s.moves_resolve answers fanId) h).trans
        (t.moves_setTargets answers (setsTo_setDefaultMode answers) _
          fun i hi => ((htargets i).mp hi).1)
  | setSpeedTableMode table units fanId =>
    rw [run, FanSystem.setSpeedTableMode]
    split
    case h_1 h => exact moves_of_eq (s.moves_resolve answers fanId) h
    case h_2 targets t h =>
      have hresolve : Moves (Selects fanId) s t := moves_of_eq (s.moves_resolve answers fanId) h
      have htargets := s.mem_targets answers h
      split
      · exact hresolve
      · exact hresolve.trans (t.moves_setTargets answers (setsTo_setTableCall answers units _) _
          fun i hi => ((htargets i).mp hi).1)

theorem moves_runAll (s : FanSystem) {ops : List (FanOp × FanAnswers)}
    (h : ∀ op ∈ ops, ∀ i, op.1.Touches i → touched i) : Moves touched s (runAll s ops) := by
  induction ops generalizing s with
  | nil => exact .refl
  | cons op ops ih =>
    rw [List.forall_mem_cons] at h
    exact (moves_mono h.1 (op.1.moves_run op.2 s)).trans (ih _ h.2)

/-- Nothing is kept in the beginning. -/
theorem coherent_init (deviceHandle : Bool) (driver : Handle → FanConfig) :
    Coherent { deviceHandle := deviceHandle, driver := driver } :=
  ⟨List.nodup_nil, nofun⟩

theorem coherent_runAll (deviceHandle : Bool) (driver : Handle → FanConfig)
    (ops : List (FanOp × FanAnswers)) :
    Coherent (runAll { deviceHandle := deviceHandle, driver := driver } ops) := by
  have hmoves : Moves (fun _ => True) _
      (runAll { deviceHandle := deviceHandle, driver := driver } ops) :=
    moves_runAll _ fun _ _ _ _ => trivial
  exact (coherent_init deviceHandle driver).moves hmoves

/-! ## The configurations that are returned -/

variable {answers} {s : FanSystem}

/-- In a coherent system the configuration answered is the driver's. -/
theorem getConfigById_eq_ok (hs : Coherent s) {i : Nat} {config : FanConfig}
    (h : (s.getConfigById answers i).1 = .ok config) :
    ∃ slot, s.fans[i]? = some slot ∧ config = s.driver slot.handle := by
  rw [FanSystem.getConfigById] at h
  split at h
  case h_1 => cases h
  case h_2 slot hslot =>
    refine ⟨slot, hslot, ?_⟩
    split at h
    case h_1 kept hcached =>
      obtain rfl := Except.ok.inj h
      rw [FanSlot.cached] at hcached
      split at hcached
      case h_1 config' ms hconfig =>
        split at hcached
        · obtain rfl := Option.some.inj hcached
          exact hs.current slot (List.mem_of_getElem? hslot) _ ms hconfig
        · cases hcached
      case h_2 => cases hcached
    case h_2 =>
      split at h
      · cases h
      · exact (Except.ok.inj h).symm

/-- The fan whose configuration is returned: the first of all, or the one that is selected. -/
def firstTarget (fanId : Int) : Nat := if fanId = -1 then 0 else fanId.toNat

/-- The same for the fan an id chooses first. -/
theorem getConfig_eq_ok (hs : Coherent s) {fanId : Int} {config : FanConfig}
    (h : (s.getConfig answers fanId).1 = .ok config) :
    Holds (config = ·) (firstTarget fanId) (s.getConfig answers fanId).2 := by
  have hresolve : Moves (fun _ => False) s (s.resolveTargetFanIndexes answers fanId).2 :=
    s.moves_resolve answers fanId
  rw [FanSystem.getConfig] at h ⊢
  generalize hrun : s.resolveTargetFanIndexes answers fanId = run at h hresolve ⊢
  split at h
  case h_1 => cases h
  case h_2 => cases h
  case h_3 i is t =>
    have htarget : firstTarget fanId = i := by
      rw [firstTarget]
      rcases s.resolveTargetFanIndexes_eq_ok answers hrun with ⟨rfl, htargets⟩ | ⟨hnonneg, -, htargets⟩
      · rw [if_pos rfl]
        cases hlen : t.fans.length with
        | zero => rw [hlen] at htargets; cases htargets
        | succ n =>
          rw [hlen, List.range_succ_eq_map] at htargets
          exact (List.cons.inj htargets).1.symm
      · rw [if_neg (by omega)]
        exact (List.cons.inj htargets).1.symm
    rw [htarget]
    have ht : Coherent t := hs.moves hresolve
    have hread : Moves (fun _ => False) t _ := moves_of_learns (t.learns_getConfigById answers i)
    exact Holds.moves ht hread not_false (getConfigById_eq_ok ht h)

/-- The speed that is configured is the one that is read, if the configuration can be read. -/
theorem getSpeedPercentById_of_asks (hs : Coherent s) {i : Nat} {speedPercent : Int32}
    {config : FanConfig} (hasks : Holds (Asks speedPercent) i s)
    (hread : (s.getConfigById answers i).1 = .ok config) :
    (s.getSpeedPercentById answers i).1 = .ok speedPercent := by
  obtain ⟨slot, hslot, hsetpoint⟩ := hasks
  obtain ⟨slot', hslot', rfl⟩ := getConfigById_eq_ok hs hread
  obtain rfl := Option.some.inj (hslot.symm.trans hslot')
  have hfans : s.fans ≠ [] := List.ne_nil_of_mem (List.mem_of_getElem? hslot)
  have hreading : (s.getReadingById answers i).1 = .ok (.percent speedPercent) := by
    rw [FanSystem.getReadingById, s.ensureFansEnumerated_of_ne_nil answers hfans]
    dsimp only
    rw [if_neg (not_not.mpr rfl), hslot]
    dsimp only
    rw [hread]
    have hbind : (Except.ok (ε := ZeResult) (s.driver slot.handle)).toOption.bind FanConfig.setpoint =
        some { speed := speedPercent, units := .percent } := hsetpoint
    rw [hbind]
    rfl
  rw [FanSystem.getSpeedPercentById, hreading]
  rfl

end

/-- Every configuration that `getConfig` returns is the one that the driver holds. -/
def ReturnsCurrent (s : FanSystem) : Prop :=
  ∀ answers fanId config, (s.getConfig answers fanId).1 = .ok config →
    Holds (config = ·) (firstTarget fanId) (s.getConfig answers fanId).2

/-- After a fixed speed has been set, every target reads it back where a condition is met, until it is
set again. -/
def ReadsBack (readable : FanSystem → FanAnswers → Nat → Prop) (s : FanSystem) : Prop :=
  ∀ answers speedPercent fanId t, s.setFixedSpeedPercent answers speedPercent fanId = (.success, t) →
    ∀ i, Selects fanId i → i < t.fans.length →
      ∀ later : List (FanOp × FanAnswers), (∀ op ∈ later, ¬op.1.Touches i) →
        ∀ answers', readable (runAll t later) answers' i →
          ((runAll t later).getSpeedPercentById answers' i).1 = .ok speedPercent

/-- The configuration of a fan can be read. -/
def ConfigReadable (s : FanSystem) (answers : FanAnswers) (i : Nat) : Prop :=
  ∃ config, (s.getConfigById answers i).1 = .ok config

/-- What was set reads back in a coherent system. -/
theorem readsBack_of_coherent {s : FanSystem} (hs : Coherent s) : ReadsBack ConfigReadable s := by
  intro answers speedPercent fanId t hset i hselects hlt later hspares answers' hreadable
  obtain ⟨config, hread⟩ := hreadable
  have hmoves := (FanOp.setFixedSpeedPercent speedPercent fanId).moves_run answers s
  have ht : Coherent t := hs.moves (moves_of_eq hmoves hset)
  have hholds : Holds (Asks speedPercent) i t := by
    rw [FanSystem.setFixedSpeedPercent] at hset
    split at hset
    case h_1 result u hresolve =>
      exact absurd (Prod.mk.inj hset).1 (s.ne_success_of_resolve_error answers hresolve)
    case h_2 targets u hresolve =>
      have hu : Coherent u := hs.moves
        (show Moves (fun _ => False) s u from moves_of_eq (s.moves_resolve answers fanId) hresolve)
      split at hset
      case isTrue => cases hset
      case isFalse =>
        obtain ⟨-, hall⟩ := u.holds_of_setTargets answers (setsTo_setFixedCall answers speedPercent)
          .success (s.nodup_targets answers hresolve) hu (congrArg Prod.fst hset)
        rw [hset] at hall
        have hset' : Moves (Selects fanId) u t := moves_of_eq (u.moves_setTargets answers
          (setsTo_setFixedCall answers speedPercent) _ fun i hi =>
            ((s.mem_targets answers hresolve i).mp hi).1) hset
        rw [(moves_ne_nil hset' (s.ne_nil_of_resolve_ok answers hresolve)).2] at hlt
        exact hall i ((s.mem_targets answers hresolve i).mpr ⟨hselects, hlt⟩)
  have hlater : Moves (fun j => ¬j = i) t (runAll t later) :=
    moves_runAll t fun op hop j htouches hji => hspares op hop (hji ▸ htouches)
  exact getSpeedPercentById_of_asks (ht.moves hlater) (hholds.moves ht hlater (not_not.mpr rfl)) hread

/-- **Configurations are current.** Every configuration that is returned is the one that the driver
holds, and a fixed speed that has been set is read back from every target whose configuration can be
read. -/
theorem getConfig_current (deviceHandle : Bool) (driver : Handle → FanConfig)
    (ops : List (FanOp × FanAnswers)) :
    ReturnsCurrent (runAll { deviceHandle := deviceHandle, driver := driver } ops) ∧
      ReadsBack ConfigReadable (runAll { deviceHandle := deviceHandle, driver := driver } ops) :=
  have hs := coherent_runAll deviceHandle driver ops
  ⟨fun _ _ _ h => getConfig_eq_ok hs h, readsBack_of_coherent hs⟩

/-- The driver of one fan, which runs at some percentage. -/
def oneFan (configError : Option ZeError) : FanAnswers where
  fans := { countResult := .success, count := 1, fillResult := .success, items := [0],
            fits := le_refl 1, leftCount := 0 }
  nodup := List.nodup_singleton 0
  properties := fun _ _ => .ok { canControl := true, maxRPM := 3000 }
  configError := fun _ => configError
  fanState := fun _ _ => .ok 35
  setFixed := fun _ _ => .success
  setTable := fun _ _ => .success
  setDefault := fun _ => .success
  monotonicMs := fun _ => 0

def defaultConfig : FanConfig where
  mode := .default
  speedFixed := { speed := 0, units := .percent }
  speedTable := { points := [], fits := Nat.zero_le _ }

/-- A configuration that cannot be read: the fan is still on its way to the speed that has been set. -/
theorem setFixedSpeedPercent_not_read_back : ¬∀ (deviceHandle : Bool) (driver : Handle → FanConfig)
    (ops : List (FanOp × FanAnswers)),
    ReturnsCurrent (runAll { deviceHandle := deviceHandle, driver := driver } ops) ∧
      ReadsBack (fun _ _ _ => True)
        (runAll { deviceHandle := deviceHandle, driver := driver } ops) := by
  intro h
  have hback := (h true (fun _ => defaultConfig) []).2 (oneFan none) 50 0 _ rfl 0 (.inr rfl)
    (by decide) [] nofun (oneFan (some ZeError.notAvailable)) trivial
  have hread : Except.ok (ε := ZeResult) (35 : Int32) = .ok 50 := hback
  exact absurd (Except.ok.inj hread) (by decide)

end Fan

end XpuManager
