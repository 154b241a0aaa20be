import XpuManager.Xpumd.SysmanNames
import XpuManager.Xpumd.TrafficRates

/-! # Power limits

A scrape of a power domain (`receiver/intelxpu/sysman/power.go`) records its energy, its power since the
last scrape, and its limits, as long as there are any. Floating-point numbers are exact here. -/

namespace XpuManager

namespace Sysman

/-! ## The code -/

/-- `zes_power_energy_counter_t`, in microjoules and microseconds. -/
structure PowerEnergyCounter where
  energy : UInt64
  timestamp : UInt64
  deriving DecidableEq

/-- `zes_power_limit_ext_desc_t`. -/
structure PowerLimitExtDesc where
  level : UInt32
  source : UInt32
  limitUnit : UInt32
  enabled : UInt8
  limit : Int32
  deriving DecidableEq

def LIMIT_UNIT_POWER : UInt32 := 2
def bogusPowerThreshold : ℚ := 2000

def powerLevelString : UInt32 → String :=
  enumString "PowerLevel" ["UNKNOWN", "SUSTAINED", "BURST", "PEAK", "INSTANTANEOUS"]

def powerSourceString : UInt32 → String := enumString "PowerSource" ["ANY", "MAINS", "BATTERY"]

/-- `powerState`. -/
structure PowerState where
  hasLimits : Bool
  counter : Option PowerEnergyCounter
  deriving DecidableEq

/-- A data point; the other attributes are those of the power domain. -/
inductive PowerPoint where
  | energy (value : ℚ)
  | power (value : ℚ)
  | powerLimit (value : ℚ) (level source : String)
  deriving DecidableEq

/-- What the driver answers to a scrape, each answer if it is asked for. -/
structure PowerAnswers where
  counter : Option PowerEnergyCounter
  limits : Option (List PowerLimitExtDesc)

/-- An enabled limit of the power. -/
def PowerLimitExtDesc.Suitable (limit : PowerLimitExtDesc) : Prop :=
  ¬(limit.enabled = 0 ∨ limit.limitUnit ≠ LIMIT_UNIT_POWER)

instance (limit : PowerLimitExtDesc) : Decidable limit.Suitable := inferInstanceAs (Decidable (¬_))

/-- The data point of a limit. -/
def PowerLimitExtDesc.point (limit : PowerLimitExtDesc) : PowerPoint :=
  .powerLimit (limit.limit.toInt * 1000) (powerLevelString limit.level).toLower
    (powerSourceString limit.source).toLower

/-- The end of `scrape`, which records the limits. -/
def scrapeLimits (state : PowerState) (answer : Option (List PowerLimitExtDesc)) :
    PowerState × List PowerPoint :=
  if state.hasLimits = false then (state, [])
  else match answer with
    | none => ({ state with hasLimits := false }, [])
    | some limits =>
      let points := (limits.filter fun limit => limit.Suitable).map PowerLimitExtDesc.point
      (if points.length = 0 then { state with hasLimits := false } else state, points)

/-- `scrape`. -/
def Power.scrape (state : PowerState) (answers : PowerAnswers) : PowerState × List PowerPoint :=
  match state.counter, answers.counter with
  | none, _ => (state, [])
  | some _, none => ({ state with counter := none }, [])
  | some old, some new =>
    let energy := .energy (new.energy.toNat / 1000000)
    let tdiff := u64CounterDiff old.timestamp new.timestamp
    let ediff := u64CounterDiff old.energy new.energy
    let state := { state with counter := some new }
    if tdiff = 0 then (state, [energy])
    else
      let watts : ℚ := ediff.toNat / tdiff.toNat
      let limits := scrapeLimits state answers.limits
      (limits.1, [energy] ++ (if watts < bogusPowerThreshold then [.power watts] else []) ++ limits.2)

/-- Scrapes one after the other. -/
def Power.run (state : PowerState) : List PowerAnswers → PowerState × List (List PowerPoint)
  | [] => (state, [])
  | answers :: scrapes =>
    let scraped := Power.scrape state answers
    let rest := Power.run scraped.1 scrapes
    (rest.1, scraped.2 :: rest.2)

/-! ## What is asked of the limits -/

def PowerPoint.isLimit : PowerPoint → Bool
  | .powerLimit .. => true
  | _ => false

/-- A limit in watts, as it should be recorded: the driver has milliwatts. -/
def PowerLimitExtDesc.wattsPoint (limit : PowerLimitExtDesc) : PowerPoint :=
  .powerLimit (limit.limit.toInt / 1000) (powerLevelString limit.level).toLower
    (powerSourceString limit.source).toLower

/-- What is asked of a list of limits: a scrape after some time records those that are enabled and of
power, in watts; no list changes what is recorded of the energy and the power; and the limits are not
recorded any more only after a call that failed or a list without any such limit. -/
structure RecordsLimits (limits : List PowerLimitExtDesc) : Prop where
  recorded : ∀ old new : PowerEnergyCounter, u64CounterDiff old.timestamp new.timestamp ≠ 0 →
    (Power.scrape ⟨true, some old⟩ ⟨some new, some limits⟩).2.filter PowerPoint.isLimit =
      (limits.filter fun limit => limit.Suitable).map PowerLimitExtDesc.wattsPoint
  unchanged : ∀ state counter scrapes answer,
    (Power.run state (⟨counter, some limits⟩ :: scrapes)).2.map
        (fun points => points.filter fun point => !point.isLimit) =
      (Power.run state (⟨counter, answer⟩ :: scrapes)).2.map
        (fun points => points.filter fun point => !point.isLimit)
  stops : ∀ old counter scrapes, (∃ limit ∈ limits, limit.Suitable) →
    (∀ answers ∈ scrapes, ∃ limits', answers.limits = some limits' ∧
      ∃ limit ∈ limits', limit.Suitable) →
    (Power.run ⟨true, old⟩ (⟨counter, some limits⟩ :: scrapes)).1.hasLimits = true
  stopped : ∀ old counter scrapes,
    (Power.run ⟨false, old⟩ (⟨counter, some limits⟩ :: scrapes)).2.flatMap
      (fun points => points.filter PowerPoint.isLimit) = []

/-! ## One scrape -/

theorem hasLimits_scrapeLimits (state : PowerState) (answer : Option (List PowerLimitExtDesc)) :
    (scrapeLimits state answer).1.hasLimits = true ↔
      state.hasLimits = true ∧ ∃ limits, answer = some limits ∧ ∃ limit ∈ limits, limit.Suitable := by
  cases hstate : state.hasLimits with
  | false => simp [scrapeLimits, hstate]
  | true =>
    cases answer with
    | none => simp [scrapeLimits, hstate]
    | some limits =>
      have hempty : ((limits.filter fun limit => limit.Suitable).map PowerLimitExtDesc.point).length = 0 ↔
          ¬∃ limit ∈ limits, limit.Suitable := by
        simp [List.filter_eq_nil_iff]
      rw [scrapeLimits.eq_def, hstate, if_neg Bool.noConfusion]
      dsimp only
      split
      · rename_i hlength
        simpa using hempty.mp hlength
      · rename_i hlength
        simpa [hstate] using mt hempty.mpr hlength

@[simp] theorem counter_scrapeLimits (state : PowerState) (answer : Option (List PowerLimitExtDesc)) :
    (scrapeLimits state answer).1.counter = state.counter := by
  rw [scrapeLimits.eq_def]
  split
  · rfl
  · cases answer with
    | none => rfl
    | some limits =>
      dsimp only
      split <;> rfl

/-- The points of the limits are those of limits. -/
theorem isLimit_of_mem_scrapeLimits {state : PowerState} {answer : Option (List PowerLimitExtDesc)}
    {point : PowerPoint} (h : point ∈ (scrapeLimits state answer).2) : point.isLimit = true := by
  rw [scrapeLimits.eq_def] at h
  split at h
  · cases h
  · cases answer with
    | none => cases h
    | some limits =>
      obtain ⟨limit, -, rfl⟩ := List.mem_map.mp h
      rfl

/-- The counter after a scrape, and what it records besides the limits, are not up to the limits. -/
theorem scrape_counter (state state' : PowerState) (answers answers' : PowerAnswers)
    (hcounter : state.counter = state'.counter) (hnew : answers.counter = answers'.counter) :
    (Power.scrape state answers).1.counter = (Power.scrape state' answers').1.counter ∧
      (Power.scrape state answers).2.filter (fun point => !point.isLimit) =
        (Power.scrape state' answers').2.filter fun point => !point.isLimit := by
  rw [Power.scrape, Power.scrape, hcounter, hnew]
  have hnone (state : PowerState) (answer : Option (List PowerLimitExtDesc)) :
      (scrapeLimits state answer).2.filter (fun point => !point.isLimit) = [] := by
    rw [List.filter_eq_nil_iff]
    intro point hpoint
    simp [isLimit_of_mem_scrapeLimits hpoint]
  cases state'.counter with
  | none => exact ⟨hcounter, rfl⟩
  | some old =>
    cases answers'.counter with
    | none => exact ⟨rfl, rfl⟩
    | some new =>
      dsimp only
      split
      · exact ⟨rfl, rfl⟩
      · rw [counter_scrapeLimits, counter_scrapeLimits]
        simp only [List.filter_append, hnone, and_self]

/-- The limits of a scrape are recorded if some time has passed, and else they are not asked for. -/
theorem scrape_hasLimits (state : PowerState) (answers : PowerAnswers) :
    (Power.scrape state answers).1.hasLimits = state.hasLimits ∨
      (Power.scrape state answers).1.hasLimits = (scrapeLimits state answers.limits).1.hasLimits := by
  rw [Power.scrape]
  split
  · exact .inl rfl
  · exact .inl rfl
  · dsimp only
    split
    · exact .inl rfl
    · rename_i old new _ _ _
      refine .inr (Bool.eq_iff_iff.mpr ?_)
      rw [hasLimits_scrapeLimits, hasLimits_scrapeLimits]

/-- Where the limits are not recorded any more no scrape records one. -/
theorem scrape_stopped {state : PowerState} (h : state.hasLimits = false) (answers : PowerAnswers) :
    (Power.scrape state answers).1.hasLimits = false ∧
      (Power.scrape state answers).2.filter PowerPoint.isLimit = [] := by
  rw [Power.scrape]
  split
  · exact ⟨h, rfl⟩
  · exact ⟨h, rfl⟩
  · dsimp only
    split
    · exact ⟨h, rfl⟩
    · rw [scrapeLimits.eq_def, if_pos h]
      refine ⟨h, ?_⟩
      split <;> rfl

/-! ## Scrapes one after the other -/

/-- The counter's points do not depend on the limits. -/
theorem run_unchanged {state state' : PowerState} (hcounter : state.counter = state'.counter)
    {scrapes scrapes' : List PowerAnswers}
    (hscrapes : scrapes.map PowerAnswers.counter = scrapes'.map PowerAnswers.counter) :
    (Power.run state scrapes).2.map (fun points => points.filter fun point => !point.isLimit) =
      (Power.run state' scrapes').2.map fun points => points.filter fun point => !point.isLimit := by
  induction scrapes generalizing state state' scrapes' with
  | nil =>
    cases scrapes' with
    | nil => rfl
    | cons answers' scrapes' => cases hscrapes
  | cons answers scrapes ih =>
    cases scrapes' with
    | nil => cases hscrapes
    | cons answers' scrapes' =>
      rw [List.map_cons, List.map_cons, List.cons.injEq] at hscrapes
      obtain ⟨hnext, hpoints⟩ := scrape_counter state state' answers answers' hcounter hscrapes.1
      rw [Power.run, Power.run, List.map_cons, List.map_cons, hpoints, ih hnext hscrapes.2]

/-- The flag stays while there are limits. -/
theorem run_hasLimits {state : PowerState} (h : state.hasLimits = true) {scrapes : List PowerAnswers}
    (hscrapes : ∀ answers ∈ scrapes, ∃ limits, answers.limits = some limits ∧
      ∃ limit ∈ limits, limit.Suitable) :
    (Power.run state scrapes).1.hasLimits = true := by
  induction scrapes generalizing state with
  | nil => exact h
  | cons answers scrapes ih =>
    refine ih ?_ fun answers h => hscrapes answers (List.mem_cons_of_mem _ h)
    obtain hsame | hasked := scrape_hasLimits state answers
    · rw [hsame, h]
    · rw [hasked, hasLimits_scrapeLimits]
      exact ⟨h, hscrapes answers List.mem_cons_self⟩

theorem run_stopped {state : PowerState} (h : state.hasLimits = false) (scrapes : List PowerAnswers) :
    (Power.run state scrapes).2.flatMap (fun points => points.filter PowerPoint.isLimit) = [] := by
  induction scrapes generalizing state with
  | nil => rfl
  | cons answers scrapes ih =>
    obtain ⟨hnext, hpoints⟩ := scrape_stopped h answers
    rw [Power.run, List.flatMap_cons, hpoints, ih hnext, List.nil_append]

/-! ## The limits that are recorded -/

/-- What a scrape after some time records of the limits. -/
theorem scrape_limits (limits : List PowerLimitExtDesc) {old new : PowerEnergyCounter}
    (htime : u64CounterDiff old.timestamp new.timestamp ≠ 0) :
    (Power.scrape ⟨true, some old⟩ ⟨some new, some limits⟩).2.filter PowerPoint.isLimit =
      (limits.filter fun limit => limit.Suitable).map PowerLimitExtDesc.point := by
  have hlimits : ((limits.filter fun limit => limit.Suitable).map PowerLimitExtDesc.point).filter
      PowerPoint.isLimit = (limits.filter fun limit => limit.Suitable).map PowerLimitExtDesc.point := by
    rw [List.filter_eq_self]
    intro point hpoint
    obtain ⟨limit, -, rfl⟩ := List.mem_map.mp hpoint
    rfl
  rw [Power.scrape]
  dsimp only
  rw [if_neg htime, scrapeLimits, if_neg Bool.noConfusion]
  dsimp only
  rw [List.filter_append, List.filter_append, hlimits]
  split <;> rfl

/-- Thousand times a number of milliwatts are as many watts only if there are none. -/
theorem point_eq_wattsPoint_iff (limit : PowerLimitExtDesc) :
    limit.point = limit.wattsPoint ↔ limit.limit = 0 := by
  rw [PowerLimitExtDesc.point, PowerLimitExtDesc.wattsPoint, PowerPoint.powerLimit.injEq,
    and_iff_left ⟨rfl, rfl⟩, ← Int32.toInt_inj, Int32.toInt_zero]
  constructor
  · intro h
    have hzero : (limit.limit.toInt : ℚ) = 0 := by grind
    exact_mod_cast hzero
  · intro h
    rw [h]
    norm_num

/-- **Power limits**: what is asked holds of exactly the lists whose limits are zero. All else is as
asked, whatever the list. -/
theorem recordsLimits_iff (limits : List PowerLimitExtDesc) :
    RecordsLimits limits ↔ ∀ limit ∈ limits, limit.Suitable → limit.limit = 0 := by
  have hvalues : (limits.filter fun limit => limit.Suitable).map PowerLimitExtDesc.point =
      (limits.filter fun limit => limit.Suitable).map PowerLimitExtDesc.wattsPoint ↔
        ∀ limit ∈ limits, limit.Suitable → limit.limit = 0 := by
    simp [List.map_inj_left, point_eq_wattsPoint_iff]
  constructor
  · intro h
    have htime : u64CounterDiff (⟨0, 0⟩ : PowerEnergyCounter).timestamp
        (⟨0, 1⟩ : PowerEnergyCounter).timestamp ≠ 0 := by decide
    rw [← hvalues, ← scrape_limits limits htime]
    exact h.recorded ⟨0, 0⟩ ⟨0, 1⟩ htime
  · intro h
    exact {
      recorded := fun old new htime => (scrape_limits limits htime).trans (hvalues.mpr h)
      unchanged := fun state counter scrapes answer => run_unchanged rfl rfl
      stops := fun old counter scrapes hany hscrapes => run_hasLimits rfl fun answers hanswers => by
        obtain rfl | hanswers := List.mem_cons.mp hanswers
        · exact ⟨limits, rfl, hany⟩
        · exact hscrapes answers hanswers
      stopped := fun old counter scrapes => run_stopped rfl _ }

/-- A limit of 150 W. -/
def peakLimit : PowerLimitExtDesc := ⟨3, 1, LIMIT_UNIT_POWER, 1, 150000⟩

/-- It is recorded as 150 MW. -/
theorem recordsLimits_peakLimit : ¬RecordsLimits [peakLimit] := by
  intro h
  have hrecorded := h.recorded ⟨0, 0⟩ ⟨0, 1⟩ (by decide)
  rw [scrape_limits [peakLimit] (by decide)] at hrecorded
  have hvalue : peakLimit.point = peakLimit.wattsPoint := (List.cons.inj hrecorded).1
  rw [PowerLimitExtDesc.point, PowerLimitExtDesc.wattsPoint, PowerPoint.powerLimit.injEq] at hvalue
  exact absurd hvalue.1 (by decide +kernel)

end Sysman

end XpuManager
