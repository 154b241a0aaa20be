import XpuManager.Hal.FanCache

/-! # Fan speeds in percent

The speed of a fan in percent is what is configured, or else what is measured, in percent or in RPM
(`hal/core/fan.cpp`). Only some of these values are clamped, and those after they are narrowed. -/

namespace XpuManager

namespace Fan

/-! ## Percentages -/

namespace FanReading

/-- The quotient can be narrowed to 32 bits. -/
def Narrows (speed maxRPM : Int32) : Prop :=
  -2 ^ 31 ≤ quotient speed maxRPM ∧ quotient speed maxRPM < 2 ^ 31

/-- Between 0 and 100. Where it comes from RPM, they are divided by a positive number, the quotient is
narrowed without overflow, and the percentage is the one of the RPM. -/
def Right (reading : FanReading) : Prop :=
  (0 ≤ reading.value.toInt ∧ reading.value.toInt ≤ 100) ∧
    match reading with
    | percent _ => True
    | rpm speed maxRPM => 0 < maxRPM ∧ Narrows speed maxRPM ∧
        (0 ≤ speed → (rpm speed maxRPM).value.toInt = min 100 (100 * speed.toInt / maxRPM.toInt))

theorem toInt_clamp (pct : Int32) : (clamp pct).toInt = max 0 (min 100 pct.toInt) := by
  have hzero : (0 : Int32).toInt = 0 := rfl
  have hhundred : (100 : Int32).toInt = 100 := rfl
  rw [clamp]
  split
  case isTrue h =>
    rw [Int32.lt_iff_toInt_lt] at h
    omega
  case isFalse h =>
    split
    case isTrue h' =>
      rw [Int32.lt_iff_toInt_lt] at h h'
      omega
    case isFalse h' =>
      rw [Int32.lt_iff_toInt_lt] at h h'
      omega

theorem right_percent_iff (speed : Int32) :
    (percent speed).Right ↔ 0 ≤ speed.toInt ∧ speed.toInt ≤ 100 := and_iff_left trivial

/-- A speed in rpm is turned into the right percentage. -/
theorem right_rpm_iff (speed maxRPM : Int32) :
    (rpm speed maxRPM).Right ↔ 0 < maxRPM ∧ Narrows speed maxRPM := by
  constructor
  · rintro ⟨-, hpos, hnarrows, -⟩
    exact ⟨hpos, hnarrows⟩
  · rintro ⟨hpos, hnarrows⟩
    have hvalue : (rpm speed maxRPM).value.toInt = max 0 (min 100 (quotient speed maxRPM)) := by
      rw [value, toInt_clamp, Int32.toInt_ofInt_of_le hnarrows.1 hnarrows.2]
    refine ⟨by rw [hvalue]; omega, hpos, hnarrows, fun hspeed => ?_⟩
    have hspeed' : 0 ≤ speed.toInt := Int32.le_iff_toInt_le.mp hspeed
    have hpos' : 0 < maxRPM.toInt := Int32.lt_iff_toInt_lt.mp hpos
    have hquotient : quotient speed maxRPM = 100 * speed.toInt / maxRPM.toInt := by
      rw [quotient, mul_comm, Int.tdiv_eq_ediv_of_nonneg (by omega)]
    have hnonneg : 0 ≤ 100 * speed.toInt / maxRPM.toInt := Int.ediv_nonneg (by omega) hpos'.le
    rw [hvalue, hquotient]
    omega

end FanReading

/-! ## Where a percentage comes from -/

section

variable (answers : FanAnswers) (driver : Handle → FanConfig) (i : Nat) (slot : FanSlot)

/-- The configuration that is read. -/
def configNow : Option FanConfig :=
  match slot.cached (answers.monotonicMs i) with
  | some config => some config
  | none => if (answers.configError slot.handle).isSome then none else some (driver slot.handle)

/-- The speed that is configured, as far as it can be read. -/
def setpointNow : Option FanSpeed := (configNow answers driver i slot).bind FanConfig.setpoint

/-- The properties that are read for a speed that is configured in RPM. -/
def setpointProps : Option FanProperties :=
  slot.props.or (answers.properties 0 slot.handle).toOption

/-- The properties that are read for a speed that is measured in RPM. -/
def measuredProps : Option FanProperties :=
  if (setpointNow answers driver i slot).any (·.units = .rpm) then
    (setpointProps answers slot).or (answers.properties 1 slot.handle).toOption
  else slot.props.or (answers.properties 1 slot.handle).toOption

/-- A speed is configured that can be given in percent. -/
def Configured : Prop :=
  ∃ speed, setpointNow answers driver i slot = some speed ∧
    (speed.units = .percent ∨
      speed.units = .rpm ∧ ∃ props, setpointProps answers slot = some props ∧ 0 < props.maxRPM)

/-- What a percentage is read from. -/
inductive Source : FanReading → Prop
  | setpointPercent {speed : Int32}
      (hsetpoint : setpointNow answers driver i slot = some { speed := speed, units := .percent }) :
      Source (.percent speed)
  | setpointRpm {speed : Int32} {props : FanProperties}
      (hsetpoint : setpointNow answers driver i slot = some { speed := speed, units := .rpm })
      (hprops : setpointProps answers slot = some props) (hpos : 0 < props.maxRPM) :
      Source (.rpm speed props.maxRPM)
  | percent {speed : Int32} (hmeasured : ¬Configured answers driver i slot)
      (hstate : answers.fanState slot.handle .percent = .ok speed) (hspeed : 0 ≤ speed) :
      Source (.percent speed)
  | rpm {speed : Int32} {props : FanProperties} (hmeasured : ¬Configured answers driver i slot)
      (hpercent : ∀ pct, answers.fanState slot.handle .percent = .ok pct → ¬0 ≤ pct)
      (hstate : answers.fanState slot.handle .rpm = .ok speed) (hspeed : ¬speed < 0)
      (hprops : measuredProps answers driver i slot = some props) (hne : props.maxRPM ≠ 0) :
      Source (.rpm speed props.maxRPM)

/-- A fan with its handle and its properties, as far as they are known. -/
def Knows (handle : Handle) (props : Option FanProperties) (s : FanSystem) : Prop :=
  ∃ slot, s.fans[i]? = some slot ∧ slot.handle = handle ∧ slot.props = props

end

section

variable {answers : FanAnswers} {s : FanSystem} {i : Nat} {slot : FanSlot} {handle : Handle}
  {props : Option FanProperties}

theorem knows_setSlot {slot' : FanSlot} (hslot : s.fans[i]? = some slot) :
    Knows i slot'.handle slot'.props (s.setSlot i slot') :=
  ⟨slot', List.getElem?_set_self (List.getElem?_eq_some_iff.mp hslot).1, rfl, rfl⟩

/-- The properties kept, or else those the driver answers, are given and kept. -/
theorem getPropertiesById_spec (answers : FanAnswers) (attempt : Nat) (h : Knows i handle props s) :
    (s.getPropertiesById answers attempt i).1.toOption =
        props.or (answers.properties attempt handle).toOption ∧
      Knows i handle (props.or (answers.properties attempt handle).toOption)
        (s.getPropertiesById answers attempt i).2 := by
  obtain ⟨slot, hslot, rfl, rfl⟩ := h
  rw [FanSystem.getPropertiesById, hslot]
  dsimp only
  split
  case h_1 props hprops =>
    rw [hprops]
    exact ⟨rfl, slot, hslot, rfl, hprops⟩
  case h_2 hprops =>
    rw [hprops]
    split
    case h_1 result hanswer =>
      rw [hanswer]
      exact ⟨rfl, slot, hslot, rfl, hprops⟩
    case h_2 props hanswer =>
      rw [hanswer]
      exact ⟨rfl, knows_setSlot hslot⟩

theorem getConfigById_spec (answers : FanAnswers) (hslot : s.fans[i]? = some slot) :
    (s.getConfigById answers i).1.toOption = configNow answers s.driver i slot ∧
      Knows i slot.handle slot.props (s.getConfigById answers i).2 := by
  rw [FanSystem.getConfigById, hslot, configNow]
  dsimp only
  cases slot.cached (answers.monotonicMs i) with
  | some config => exact ⟨rfl, slot, hslot, rfl, rfl⟩
  | none =>
    cases answers.configError slot.handle with
    | some result => exact ⟨rfl, slot, hslot, rfl, rfl⟩
    | none => exact ⟨rfl, knows_setSlot hslot⟩

/-- A speed that is measured, in percent or else in RPM. -/
theorem measuredReading_eq_ok_iff (h : Knows i handle props s) {reading : FanReading} :
    (s.measuredReading answers i handle).1 = .ok reading ↔
      (∃ speed, answers.fanState handle .percent = .ok speed ∧ 0 ≤ speed ∧ reading = .percent speed) ∨
        (∀ pct, answers.fanState handle .percent = .ok pct → ¬0 ≤ pct) ∧
          ∃ speed props', answers.fanState handle .rpm = .ok speed ∧ ¬speed < 0 ∧
            props.or (answers.properties 1 handle).toOption = some props' ∧ props'.maxRPM ≠ 0 ∧
            reading = .rpm speed props'.maxRPM := by
  have hrpm : (s.measuredRpm answers i handle).1 = .ok reading ↔
      ∃ speed props', answers.fanState handle .rpm = .ok speed ∧ ¬speed < 0 ∧
        props.or (answers.properties 1 handle).toOption = some props' ∧ props'.maxRPM ≠ 0 ∧
        reading = .rpm speed props'.maxRPM := by
    obtain ⟨hprops, -⟩ := getPropertiesById_spec answers 1 h
    rw [FanSystem.measuredRpm, ← hprops]
    cases answers.fanState handle .rpm with
    | error result => exact iff_of_false (by simp) (by simp)
    | ok speed =>
      dsimp only
      by_cases hspeed : speed < 0
      · rw [if_pos hspeed]
        refine iff_of_false (by simp) ?_
        rintro ⟨speed', props', hok, hspeed', -⟩
        obtain rfl := Except.ok.inj hok
        exact hspeed' hspeed
      · rw [if_neg hspeed]
        obtain ⟨result, t⟩ := s.getPropertiesById answers 1 i
        cases result with
        | error result => exact iff_of_false (by simp) (by simp [Except.toOption])
        | ok props' =>
          dsimp only
          by_cases hne : props'.maxRPM = 0
          · rw [if_pos hne]
            refine iff_of_false (by simp) ?_
            rintro ⟨speed', props'', -, -, hok, hne', -⟩
            obtain rfl := Option.some.inj hok
            exact hne' hne
          · rw [if_neg hne]
            constructor
            · intro hok
              exact ⟨speed, props', rfl, hspeed, rfl, hne, (Except.ok.inj hok).symm⟩
            · rintro ⟨speed', props'', hok, -, hok', -, rfl⟩
              obtain rfl := Except.ok.inj hok
              obtain rfl := Option.some.inj hok'
              rfl
  rw [FanSystem.measuredReading]
  cases hstate : answers.fanState handle .percent with
  | error result =>
    dsimp only
    rw [hrpm, or_iff_right (by rintro ⟨speed, hspeed, -⟩; cases hspeed)]
    exact (and_iff_right (by simp)).symm
  | ok speed =>
    dsimp only
    by_cases hspeed : 0 ≤ speed
    · rw [if_pos hspeed, or_iff_left fun h => h.1 speed rfl hspeed]
      constructor
      · intro hok
        exact ⟨speed, rfl, hspeed, (Except.ok.inj hok).symm⟩
      · rintro ⟨speed', hok, -, rfl⟩
        obtain rfl := Except.ok.inj hok
        rfl
    · rw [if_neg hspeed, hrpm, or_iff_right, and_iff_right]
      · intro pct hpct
        obtain rfl := Except.ok.inj hpct
        exact hspeed
      · rintro ⟨speed', hok, hspeed', -⟩
        obtain rfl := Except.ok.inj hok
        exact hspeed hspeed'

/-- The rest of `getSpeedPercentById`, where no speed that is configured can be given in percent. -/
theorem source_of_measured_iff {driver : Handle → FanConfig} {t : FanSystem}
    (hmeasured : ¬Configured answers driver i slot)
    (hprops : props.or (answers.properties 1 slot.handle).toOption = measuredProps answers driver i slot)
    (h : Knows i slot.handle props t) {reading : FanReading} :
    (t.measuredReading answers i slot.handle).1 = .ok reading ↔
      Source answers driver i slot reading := by
  rw [measuredReading_eq_ok_iff h, hprops]
  constructor
  · rintro (⟨speed, hstate, hspeed, rfl⟩ | ⟨hpercent, speed, props', hstate, hspeed, hprops, hne, rfl⟩)
    · exact .percent hmeasured hstate hspeed
    · exact .rpm hmeasured hpercent hstate hspeed hprops hne
  · rintro (hsetpoint | ⟨hsetpoint, hprops, hpos⟩ | ⟨-, hstate, hspeed⟩ |
      ⟨-, hpercent, hstate, hspeed, hprops, hne⟩)
    · exact absurd ⟨_, hsetpoint, .inl rfl⟩ hmeasured
    · exact absurd ⟨_, hsetpoint, .inr ⟨rfl, _, hprops, hpos⟩⟩ hmeasured
    · exact .inl ⟨_, hstate, hspeed, rfl⟩
    · exact .inr ⟨hpercent, _, _, hstate, hspeed, hprops, hne, rfl⟩

/-- **Where a percentage comes from.** -/
theorem getReadingById_eq_ok_iff (answers : FanAnswers) (hslot : s.fans[i]? = some slot)
    {reading : FanReading} :
    (s.getReadingById answers i).1 = .ok reading ↔ Source answers s.driver i slot reading := by
  have hfans : s.fans ≠ [] := List.ne_nil_of_mem (List.mem_of_getElem? hslot)
  obtain ⟨hconfig, hknows⟩ := getConfigById_spec answers hslot
  rw [FanSystem.getReadingById, s.ensureFansEnumerated_of_ne_nil answers hfans]
  dsimp only
  rw [if_neg (not_not.mpr rfl), hslot]
  dsimp only
  rw [hconfig, ← setpointNow]
  generalize (s.getConfigById answers i).2 = t at hknows ⊢
  cases hsetpoint : setpointNow answers s.driver i slot with
  | none =>
    refine source_of_measured_iff ?_ ?_ hknows
    · rintro ⟨speed, hspeed, -⟩
      rw [hsetpoint] at hspeed
      cases hspeed
    · rw [measuredProps, hsetpoint]
      rfl
  | some setpoint =>
    obtain ⟨speed, units⟩ := setpoint
    cases units with
    | other =>
      refine source_of_measured_iff ?_ ?_ hknows
      · rintro ⟨speed', hspeed, hunits⟩
        obtain rfl := Option.some.inj (hsetpoint.symm.trans hspeed)
        rcases hunits with hunits | ⟨hunits, -⟩
        · cases hunits
        · cases hunits
      · rw [measuredProps, hsetpoint]
        rfl
    | percent =>
      have hconfigured : Configured answers s.driver i slot := ⟨_, hsetpoint, .inl rfl⟩
      constructor
      · intro hok
        obtain rfl := Except.ok.inj hok
        exact .setpointPercent hsetpoint
      · rintro (hsetpoint' | ⟨hsetpoint', -, -⟩ | ⟨hmeasured, -, -⟩ | ⟨hmeasured, -, -, -, -, -⟩)
        · cases hsetpoint.symm.trans hsetpoint'
          rfl
        · cases hsetpoint.symm.trans hsetpoint'
        · exact absurd hconfigured hmeasured
        · exact absurd hconfigured hmeasured
    | rpm =>
      obtain ⟨hprops, hlearnt⟩ := getPropertiesById_spec answers 0 hknows
      have hsource (h : ¬∃ props, setpointProps answers slot = some props ∧ 0 < props.maxRPM)
          {t : FanSystem} (ht : Knows i slot.handle (setpointProps answers slot) t) :
          (t.measuredReading answers i slot.handle).1 = .ok reading ↔
            Source answers s.driver i slot reading := by
        refine source_of_measured_iff ?_ ?_ ht
        · rintro ⟨speed', hspeed, hunits⟩
          obtain rfl := Option.some.inj (hsetpoint.symm.trans hspeed)
          rcases hunits with hunits | ⟨-, hpos⟩
          · cases hunits
          · exact h hpos
        · rw [measuredProps, hsetpoint]
          rfl
      change _ = setpointProps answers slot at hprops
      change Knows i slot.handle (setpointProps answers slot) _ at hlearnt
      rw [FanSystem.setpointReading]
      generalize t.getPropertiesById answers 0 i = run at hprops hlearnt ⊢
      obtain ⟨result, u⟩ := run
      cases result with
      | error result =>
        refine hsource ?_ hlearnt
        rintro ⟨props', hprops', -⟩
        cases hprops.trans hprops'
      | ok props' =>
        have hprops' : some props' = setpointProps answers slot := hprops
        dsimp only
        by_cases hpos : 0 < props'.maxRPM
        · rw [if_pos hpos]
          have hconfigured : Configured answers s.driver i slot :=
            ⟨_, hsetpoint, .inr ⟨rfl, props', hprops'.symm, hpos⟩⟩
          constructor
          · intro hok
            obtain rfl := Except.ok.inj hok
            exact .setpointRpm hsetpoint hprops'.symm hpos
          · rintro (hsetpoint' | ⟨hsetpoint', hprops'', -⟩ | ⟨hmeasured, -, -⟩ |
              ⟨hmeasured, -, -, -, -, -⟩)
            · cases hsetpoint.symm.trans hsetpoint'
            · cases hsetpoint.symm.trans hsetpoint'
              obtain rfl := Option.some.inj (hprops'.trans hprops'')
              rfl
            · exact absurd hconfigured hmeasured
            · exact absurd hconfigured hmeasured
        · rw [if_neg hpos]
          refine hsource ?_ hlearnt
          rintro ⟨props'', hprops'', hpos'⟩
          obtain rfl := Option.some.inj (hprops'.trans hprops'')
          exact hpos hpos'

end

/-! ## When percentages are right -/

section

variable (answers : FanAnswers)

/-- What is configured in percent, and what is measured in percent, is in range. What is in RPM is
divided by a positive number, and the quotient has 32 bits. -/
structure SpeedsFit (driver : Handle → FanConfig) (i : Nat) (slot : FanSlot) : Prop where
  setpointPercent : ∀ speed,
    setpointNow answers driver i slot = some { speed := speed, units := .percent } →
      0 ≤ speed.toInt ∧ speed.toInt ≤ 100
  setpointRpm : ∀ speed props,
    setpointNow answers driver i slot = some { speed := speed, units := .rpm } →
      setpointProps answers slot = some props → 0 < props.maxRPM → FanReading.Narrows speed props.maxRPM
  percent : ¬Configured answers driver i slot → ∀ speed,
    answers.fanState slot.handle .percent = .ok speed → speed.toInt ≤ 100
  rpm : ¬Configured answers driver i slot →
    (∀ pct, answers.fanState slot.handle .percent = .ok pct → ¬0 ≤ pct) → ∀ speed props,
      answers.fanState slot.handle .rpm = .ok speed → ¬speed < 0 →
        measuredProps answers driver i slot = some props → props.maxRPM ≠ 0 →
          0 < props.maxRPM ∧ FanReading.Narrows speed props.maxRPM

variable {answers}

/-- Every way to a reading is right exactly where the speeds fit. -/
theorem forall_source_right_iff {driver : Handle → FanConfig} {i : Nat} {slot : FanSlot} :
    (∀ reading, Source answers driver i slot reading → reading.Right) ↔
      SpeedsFit answers driver i slot := by
  constructor
  · intro h
    refine ⟨fun speed hsetpoint => ?_, fun speed props hsetpoint hprops hpos => ?_,
      fun hmeasured speed hstate => ?_,
      fun hmeasured hpercent speed props hstate hspeed hprops hne => ?_⟩
    · exact (FanReading.right_percent_iff speed).mp (h _ (.setpointPercent hsetpoint))
    · exact ((FanReading.right_rpm_iff _ _).mp (h _ (.setpointRpm hsetpoint hprops hpos))).2
    · by_cases hspeed : 0 ≤ speed
      · exact ((FanReading.right_percent_iff speed).mp (h _ (.percent hmeasured hstate hspeed))).2
      · have hneg : ¬(0 : Int32).toInt ≤ speed.toInt := mt Int32.le_iff_toInt_le.mpr hspeed
        have hzero : (0 : Int32).toInt = 0 := rfl
        omega
    · exact (FanReading.right_rpm_iff _ _).mp (h _ (.rpm hmeasured hpercent hstate hspeed hprops hne))
  · intro hfit reading hsource
    cases hsource with
    | setpointPercent hsetpoint =>
      exact (FanReading.right_percent_iff _).mpr (hfit.setpointPercent _ hsetpoint)
    | setpointRpm hsetpoint hprops hpos =>
      exact (FanReading.right_rpm_iff _ _).mpr ⟨hpos, hfit.setpointRpm _ _ hsetpoint hprops hpos⟩
    | percent hmeasured hstate hspeed =>
      exact (FanReading.right_percent_iff _).mpr
        ⟨Int32.le_iff_toInt_le.mp hspeed, hfit.percent hmeasured _ hstate⟩
    | rpm hmeasured hpercent hstate hspeed hprops hne =>
      exact (FanReading.right_rpm_iff _ _).mpr
        (hfit.rpm hmeasured hpercent _ _ hstate hspeed hprops hne)

variable {s t : FanSystem} {i : Nat}

/-- An enumeration that fails leaves no fans. -/
theorem fans_of_not_enumerated (h : (s.ensureFansEnumerated answers).1 ≠ .success) :
    (s.ensureFansEnumerated answers).2.fans = [] := by
  rw [FanSystem.ensureFansEnumerated] at h ⊢
  split
  case isTrue hfans => exact absurd (if_pos hfans ▸ rfl) h
  case isFalse hfans =>
    rw [if_neg hfans] at h
    split
    case isTrue => exact not_not.mp hfans
    case isFalse hdevice =>
      rw [if_neg hdevice, FanSystem.enumFans] at h
      rw [FanSystem.enumFans]
      split
      · rfl
      · split
        · rfl
        · split
          · rfl
          · rename_i hcount hzero hfill
            rw [if_neg hcount, if_neg hzero, if_neg hfill] at h
            exact absurd rfl h

/-- A reading is one of a fan that has been enumerated. -/
theorem getReadingById_eq_ok_iff_enumerated {reading : FanReading} :
    (s.getReadingById answers i).1 = .ok reading ↔
      ∃ slot, (s.ensureFansEnumerated answers).2.fans[i]? = some slot ∧
        Source answers (s.ensureFansEnumerated answers).2.driver i slot reading := by
  by_cases hresult : (s.ensureFansEnumerated answers).1 = .success
  · cases hslot : (s.ensureFansEnumerated answers).2.fans[i]? with
    | none =>
      refine iff_of_false ?_ (by simp)
      rw [FanSystem.getReadingById]
      dsimp only
      rw [if_neg (not_not.mpr hresult), hslot]
      simp
    | some slot =>
      have hfans : (s.ensureFansEnumerated answers).2.fans ≠ [] :=
        List.ne_nil_of_mem (List.mem_of_getElem? hslot)
      have hagain := FanSystem.ensureFansEnumerated_of_ne_nil answers _ hfans
      have hsame : s.getReadingById answers i =
          (s.ensureFansEnumerated answers).2.getReadingById answers i := by
        rw [FanSystem.getReadingById, FanSystem.getReadingById, hagain]
        dsimp only
        rw [hresult]
      rw [hsame, getReadingById_eq_ok_iff answers hslot]
      constructor
      · intro hsource
        exact ⟨slot, rfl, hsource⟩
      · rintro ⟨slot', hslot', hsource⟩
        obtain rfl := Option.some.inj hslot'
        exact hsource
  · rw [fans_of_not_enumerated hresult]
    refine iff_of_false ?_ (by simp)
    rw [FanSystem.getReadingById]
    dsimp only
    rw [if_pos hresult]
    simp

/-- What is learnt about a fan leaves the others. -/
theorem learns_frame (h : Learns i s t) :
    t.driver = s.driver ∧ (∀ j, i ≠ j → t.fans[j]? = s.fans[j]?) ∧ (s.fans ≠ [] → t.fans ≠ []) := by
  induction h with
  | refl => exact ⟨rfl, fun _ _ => rfl, id⟩
  | tail _ hlearn ih =>
    obtain ⟨hslot, -, -⟩ := hlearn
    refine ⟨ih.1, fun j hj => ?_, fun hs => ?_⟩
    · exact (List.getElem?_set_ne hj).trans (ih.2.1 j hj)
    · exact fun hnil => ih.2.2 hs ((List.set_eq_nil_iff _ _).mp hnil)

theorem getSpeedPercentById_eq_ok {pct : Int32} (h : (s.getSpeedPercentById answers i).1 = .ok pct) :
    ∃ reading, (s.getReadingById answers i).1 = .ok reading ∧ reading.value = pct := by
  rw [FanSystem.getSpeedPercentById] at h
  cases hreading : (s.getReadingById answers i).1 with
  | error result =>
    rw [hreading] at h
    cases h
  | ok reading =>
    rw [hreading] at h
    exact ⟨reading, rfl, Except.ok.inj h⟩

/-- The sum is the one of as many percentages. -/
theorem addSpeeds_bounds {is : List Nat} (hnodup : is.Nodup) (hfans : s.fans ≠ [])
    (hfit : ∀ i ∈ is, ∀ slot, s.fans[i]? = some slot → SpeedsFit answers s.driver i slot)
    {totalPct : Int} {validCount : Nat} (hsum : 0 ≤ totalPct ∧ totalPct ≤ 100 * validCount) :
    0 ≤ (FanSystem.addSpeeds answers totalPct validCount s is).1.1 ∧
      (FanSystem.addSpeeds answers totalPct validCount s is).1.1 ≤
        100 * (FanSystem.addSpeeds answers totalPct validCount s is).1.2 := by
  induction is generalizing s totalPct validCount with
  | nil => exact hsum
  | cons i is ih =>
    obtain ⟨hi, his⟩ := List.nodup_cons.mp hnodup
    rw [List.forall_mem_cons] at hfit
    have hlearns : Learns i s (s.getSpeedPercentById answers i).2 := by
      have h := s.learns_getReadingById answers i
      rwa [s.ensureFansEnumerated_of_ne_nil answers hfans] at h
    have hright : ∀ pct, (s.getSpeedPercentById answers i).1 = .ok pct →
        0 ≤ pct.toInt ∧ pct.toInt ≤ 100 := by
      intro pct hpct
      obtain ⟨reading, hreading, rfl⟩ := getSpeedPercentById_eq_ok hpct
      obtain ⟨slot, hslot, hsource⟩ := getReadingById_eq_ok_iff_enumerated.mp hreading
      rw [s.ensureFansEnumerated_of_ne_nil answers hfans] at hslot hsource
      exact (forall_source_right_iff.mpr (hfit.1 slot hslot) reading hsource).1
    generalize hrun : s.getSpeedPercentById answers i = run at hlearns hright
    obtain ⟨result, t⟩ := run
    obtain ⟨hdriver, hsame, hfans'⟩ := learns_frame hlearns
    have hfit' : ∀ j ∈ is, ∀ slot, t.fans[j]? = some slot → SpeedsFit answers t.driver j slot := by
      intro j hj slot hslot
      rw [hdriver]
      exact hfit.2 j hj slot ((hsame j fun h => hi (h ▸ hj)).symm.trans hslot)
    rw [FanSystem.addSpeeds, hrun]
    cases result with
    | error result => exact ih his (hfans' hfans) hfit' hsum
    | ok pct =>
      dsimp only
      split
      · refine ih his (hfans' hfans) hfit' ?_
        have hpct := hright pct rfl
        push_cast
        omega
      · exact ih his (hfans' hfans) hfit' hsum

end

variable (answers : FanAnswers) (s : FanSystem)

/-- All speeds of fans, and their average. -/
def SpeedsRight : Prop :=
  (∀ i reading, (s.getReadingById answers i).1 = .ok reading → reading.Right) ∧
    ∀ pct, (s.getSpeedPercent answers).1 = .ok pct → 0 ≤ pct.toInt ∧ pct.toInt ≤ 100

/-- The average of percentages is one. -/
theorem getSpeedPercent_bounds {answers : FanAnswers} {s : FanSystem}
    (hfit : ∀ i slot, (s.ensureFansEnumerated answers).2.fans[i]? = some slot →
      SpeedsFit answers (s.ensureFansEnumerated answers).2.driver i slot) {pct : Int32}
    (h : (s.getSpeedPercent answers).1 = .ok pct) : 0 ≤ pct.toInt ∧ pct.toInt ≤ 100 := by
  rw [FanSystem.getSpeedPercent] at h
  dsimp only at h
  generalize (s.ensureFansEnumerated answers).2 = t at hfit h
  split at h
  case isTrue => cases h
  case isFalse =>
    split at h
    case isTrue => cases h
    case isFalse hlen =>
      have hfans : t.fans ≠ [] := fun hnil => hlen (congrArg List.length hnil)
      have hstart : (0 : Int) ≤ 0 ∧ (0 : Int) ≤ 100 * (0 : Nat) := ⟨le_refl 0, le_refl 0⟩
      have hnodup : (List.range t.fans.length).Nodup := List.nodup_range
      have hsum := addSpeeds_bounds hnodup hfans (fun i _ => hfit i) hstart
      generalize FanSystem.addSpeeds answers 0 0 t (List.range t.fans.length) = run at h hsum
      obtain ⟨⟨totalPct, validCount⟩, u⟩ := run
      dsimp only at h hsum
      split at h
      case isTrue => cases h
      case isFalse hvalid =>
        obtain rfl := Except.ok.inj h
        have hpos : (0 : Int) < validCount := by omega
        have hnonneg : 0 ≤ totalPct / validCount := Int.ediv_nonneg hsum.1 hpos.le
        have hle : totalPct / validCount ≤ 100 := Int.ediv_le_of_le_mul hpos hsum.2
        rw [Int.tdiv_eq_ediv_of_nonneg hsum.1, Int32.toInt_ofInt_of_le (by omega) (by omega)]
        exact ⟨hnonneg, hle⟩

/-- **When percentages are right.** All speeds are between 0 and 100 and the ones of the RPM, without
overflow, exactly if the driver's answers for every fan fit: what is in percent is in range, and what is
in RPM is divided by a positive number, to a quotient of 32 bits. -/
theorem getSpeedPercent_right_iff : SpeedsRight answers s ↔
    ∀ i slot, (s.ensureFansEnumerated answers).2.fans[i]? = some slot →
      SpeedsFit answers (s.ensureFansEnumerated answers).2.driver i slot := by
  constructor
  · intro hright i slot hslot
    refine forall_source_right_iff.mp fun reading hsource => hright.1 i reading ?_
    exact getReadingById_eq_ok_iff_enumerated.mpr ⟨slot, hslot, hsource⟩
  · intro hfit
    refine ⟨fun i reading hreading => ?_, fun pct hpct => getSpeedPercent_bounds hfit hpct⟩
    obtain ⟨slot, hslot, hsource⟩ := getReadingById_eq_ok_iff_enumerated.mp hreading
    exact forall_source_right_iff.mpr (hfit i slot hslot) reading hsource

/-- A fan that runs at 120 percent of its nominal speed. -/
theorem getSpeedPercent_above : ¬∀ answers s, SpeedsRight answers s := by
  intro h
  have hright := (h { oneFan none with fanState := fun _ _ => .ok 120 }
    { deviceHandle := true, driver := fun _ => defaultConfig }).1 0 (.percent 120) rfl
  exact absurd hright.1.2 (by decide)

end Fan

end XpuManager
