import Mathlib.Logic.Function.Basic
import XpuManager.Hal.Driver

/-! # Fans

The fan module reads and sets the speeds of a device's fans (`hal/core/fan.cpp`). It keeps what it has
read of a fan's configuration for half a second, and forgets it when it sets the fan. -/

namespace XpuManager

namespace Fan

/-! ## Configurations -/

/-- `zes_fan_speed_mode_t`. -/
inductive FanMode where
  | default
  | fixed
  | table
  | other
  deriving DecidableEq

/-- `zes_fan_speed_units_t`. -/
inductive FanUnits where
  | rpm
  | percent
  | other
  deriving DecidableEq

/-- `zes_fan_speed_t`. -/
structure FanSpeed where
  speed : Int32
  units : FanUnits
  deriving DecidableEq

/-- `zes_fan_temp_speed_t`. -/
structure FanPoint where
  temperature : UInt32
  speed : FanSpeed
  deriving DecidableEq

/-- `ZES_FAN_TEMP_SPEED_PAIR_COUNT`. -/
def tempSpeedPairCount : Nat := 32

/-- `zes_fan_speed_table_t`, with the points in use. -/
structure FanSpeedTable where
  points : List FanPoint
  fits : points.length ≤ tempSpeedPairCount

/-- `zes_fan_config_t`. -/
structure FanConfig where
  mode : FanMode
  speedFixed : FanSpeed
  speedTable : FanSpeedTable

/-- What the driver says of a fan. -/
structure FanProperties where
  canControl : Bool
  maxRPM : Int32

/-! ## The driver -/

/-- What the driver answers during an operation. -/
structure FanAnswers where
  fans : Listing Handle
  /-- Fans have handles of their own. -/
  nodup : fans.items.Nodup
  /-- `zesFanGetProperties`, which may be asked twice. -/
  properties : Nat → Handle → Except ZeError FanProperties
  /-- `zesFanGetConfig` fails. Otherwise it gives what the driver holds. -/
  configError : Handle → Option ZeError
  fanState : Handle → FanUnits → Except ZeError Int32
  setFixed : Handle → FanSpeed → ZeResult
  setTable : Handle → FanSpeedTable → ZeResult
  setDefault : Handle → ZeResult
  /-- The clock when a fan's configuration is wanted. -/
  monotonicMs : Nat → UInt64

/-! ## The module -/

/-- A handle, and what is kept for it. -/
structure FanSlot where
  handle : Handle
  props : Option FanProperties := none
  /-- The configuration, and when it was read. -/
  config : Option (FanConfig × UInt64) := none

/-- The module, and the configurations that the driver holds. -/
structure FanSystem where
  /-- The module knows its device. -/
  deviceHandle : Bool
  fans : List FanSlot := []
  /-- The configurations that the driver holds. -/
  driver : Handle → FanConfig

/-- `FAN_CONFIG_CACHE_TTL_MS`. -/
def configCacheTtlMs : UInt64 := 500

/-- What is kept of the configuration, while it is young enough. -/
def FanSlot.cached (slot : FanSlot) (nowMs : UInt64) : Option FanConfig :=
  match slot.config with
  | some (config, cachedAtMs) => if nowMs - cachedAtMs ≤ configCacheTtlMs then some config else none
  | none => none

namespace FanSystem

variable (answers : FanAnswers) (s : FanSystem)

/-- What is kept of a fan changes. -/
def setSlot (i : Nat) (slot : FanSlot) : FanSystem := { s with fans := s.fans.set i slot }

/-- The fans are enumerated. -/
def enumFans : ZeResult × FanSystem :=
  if answers.fans.countResult ≠ .success then (answers.fans.countResult, { s with fans := [] })
  else if answers.fans.count = 0 then (.success, { s with fans := [] })
  else if answers.fans.fillResult ≠ .success then (answers.fans.fillResult, { s with fans := [] })
  else (.success, { s with fans := answers.fans.items.map fun handle => { handle := handle } })

/-- They are enumerated once. -/
def ensureFansEnumerated : ZeResult × FanSystem :=
  if s.fans ≠ [] then (.success, s)
  else if ¬s.deviceHandle then (.uninitialized, s)
  else s.enumFans answers

/-- `-1` selects all fans. -/
def resolveTargetFanIndexes (fanId : Int) : Except ZeResult (List Nat) × FanSystem :=
  let (result, s) := s.ensureFansEnumerated answers
  if result ≠ .success then (.error result, s)
  else if s.fans.length = 0 then (.error .notAvailable, s)
  else if fanId = -1 then (.ok (List.range s.fans.length), s)
  else if fanId < 0 ∨ s.fans.length ≤ fanId.toNat then (.error .invalidArgument, s)
  else (.ok [fanId.toNat], s)

/-- The properties of a fan, which are asked for each time. -/
def getPropertiesById (attempt i : Nat) : Except ZeResult FanProperties × FanSystem :=
  match s.fans[i]? with
  | none => (.error .invalidArgument, s)
  | some slot =>
    match slot.props with
    | some props => (.ok props, s)
    | none =>
      match answers.properties attempt slot.handle with
      | .error result => (.error result.1, s)
      | .ok props => (.ok props, s.setSlot i { slot with props := some props })

/-- The configuration of a fan, from the cache if it is not too old. -/
def getConfigById (i : Nat) : Except ZeResult FanConfig × FanSystem :=
  match s.fans[i]? with
  | none => (.error .invalidArgument, s)
  | some slot =>
    match slot.cached (answers.monotonicMs i) with
    | some config => (.ok config, s)
    | none =>
      match answers.configError slot.handle with
      | some result => (.error result.1, s)
      | none =>
        let liveConfig := s.driver slot.handle
        (.ok liveConfig,
          s.setSlot i { slot with config := some (liveConfig, answers.monotonicMs i) })

/-- The configuration of one fan. -/
def getConfig (fanId : Int) : Except ZeResult FanConfig × FanSystem :=
  match s.resolveTargetFanIndexes answers fanId with
  | (.error result, s) => (.error result, s)
  | (.ok [], s) => (.error .notAvailable, s)
  | (.ok (i :: _), s) => s.getConfigById answers i

/-- The number of fans. -/
def getFanCount : Except ZeResult Nat × FanSystem :=
  let (result, s) := s.ensureFansEnumerated answers
  if result ≠ .success then (.error result, s) else (.ok s.fans.length, s)

end FanSystem

/-! ## Reading the speed -/

/-- The speed that a configuration asks for. A table that is flat is a fixed speed too. -/
def FanConfig.setpoint (config : FanConfig) : Option FanSpeed :=
  match config.mode, config.speedTable.points with
  | .fixed, _ => some config.speedFixed
  | .table, point :: points =>
    if ∀ p ∈ points, p.speed = point.speed then some point.speed else none
  | _, _ => none

/-- What a percentage is read from. -/
inductive FanReading where
  | percent (speed : Int32)
  | rpm (speed maxRPM : Int32)
  deriving DecidableEq

namespace FanReading

/-- The quotient has 64 bits. -/
def quotient (speed maxRPM : Int32) : Int := (speed.toInt * 100).tdiv maxRPM.toInt

/-- A percentage is kept between 0 and 100. -/
def clamp (pct : Int32) : Int32 := if pct < 0 then 0 else if 100 < pct then 100 else pct

/-- A quotient is narrowed to 32 bits before it is clamped. -/
def value : FanReading → Int32
  | percent speed => speed
  | rpm speed maxRPM => clamp (Int32.ofInt (quotient speed maxRPM))

end FanReading

namespace FanSystem

variable (answers : FanAnswers) (s : FanSystem)

/-- The branches of `getSpeedPercentById` for a speed that is configured. -/
def setpointReading (i : Nat) : Option FanSpeed → Option FanReading × FanSystem
  | some { speed := speed, units := .percent } => (some (.percent speed), s)
  | some { speed := speed, units := .rpm } =>
    match s.getPropertiesById answers 0 i with
    | (.ok props, s) => (if 0 < props.maxRPM then some (.rpm speed props.maxRPM) else none, s)
    | (.error _, s) => (none, s)
  | _ => (none, s)

/-- The end of `getSpeedPercentById`. -/
def measuredRpm (i : Nat) (handle : Handle) : Except ZeResult FanReading × FanSystem :=
  match answers.fanState handle .rpm with
  | .error _ => (.error .notAvailable, s)
  | .ok speedRpm =>
    if speedRpm < 0 then (.error .notAvailable, s)
    else
      match s.getPropertiesById answers 1 i with
      | (.error _, s) => (.error .notAvailable, s)
      | (.ok props, s) =>
        if props.maxRPM = 0 then (.error .notAvailable, s)
        else (.ok (.rpm speedRpm props.maxRPM), s)

/-- The speed that the driver measures. -/
def measuredReading (i : Nat) (handle : Handle) : Except ZeResult FanReading × FanSystem :=
  match answers.fanState handle .percent with
  | .ok speed => if 0 ≤ speed then (.ok (.percent speed), s) else s.measuredRpm answers i handle
  | .error _ => s.measuredRpm answers i handle

/-- `getSpeedPercentById`, up to the percentage. -/
def getReadingById (i : Nat) : Except ZeResult FanReading × FanSystem :=
  let (result, s) := s.ensureFansEnumerated answers
  if result ≠ .success then (.error result, s)
  else
    match s.fans[i]? with
    | none => (.error .invalidArgument, s)
    | some slot =>
      let (config, s) := s.getConfigById answers i
      match s.setpointReading answers i (config.toOption.bind FanConfig.setpoint) with
      | (some reading, s) => (.ok reading, s)
      | (none, s) => s.measuredReading answers i slot.handle

/-- The speed of a fan in percent. -/
def getSpeedPercentById (i : Nat) : Except ZeResult Int32 × FanSystem :=
  ((s.getReadingById answers i).1.map FanReading.value, (s.getReadingById answers i).2)

/-- `totalPct` and `validCount`. -/
def addSpeeds (totalPct : Int) (validCount : Nat) (s : FanSystem) :
    List Nat → (Int × Nat) × FanSystem
  | [] => ((totalPct, validCount), s)
  | i :: is =>
    match s.getSpeedPercentById answers i with
    | (.ok speedPct, s) =>
      if 0 ≤ speedPct then addSpeeds (totalPct + speedPct.toInt) (validCount + 1) s is
      else addSpeeds totalPct validCount s is
    | (.error _, s) => addSpeeds totalPct validCount s is

/-- The mean speed of all fans in percent. -/
def getSpeedPercent : Except ZeResult Int32 × FanSystem :=
  let (result, s) := s.ensureFansEnumerated answers
  if result ≠ .success then (.error result, s)
  else if s.fans.length = 0 then (.error .notAvailable, s)
  else
    let ((totalPct, validCount), s) := addSpeeds answers 0 0 s (List.range s.fans.length)
    if validCount = 0 then (.error .notAvailable, s)
    else (.ok (Int32.ofInt (totalPct.tdiv validCount)), s)

/-! ## Setting the speed -/

/-- A call that sets a fan. It changes the configuration exactly if it succeeds. -/
def driverSet (result : ZeResult) (handle : Handle) (config : FanConfig) : ZeResult × FanSystem :=
  (result, if result = .success then { s with driver := Function.update s.driver handle config } else s)

/-- The driver sets a fixed speed. -/
def zesFanSetFixedSpeedMode (handle : Handle) (speed : FanSpeed) : ZeResult × FanSystem :=
  s.driverSet (answers.setFixed handle speed) handle
    { s.driver handle with mode := .fixed, speedFixed := speed }

/-- The driver sets a table of speeds. -/
def zesFanSetSpeedTableMode (handle : Handle) (table : FanSpeedTable) : ZeResult × FanSystem :=
  s.driverSet (answers.setTable handle table) handle
    { s.driver handle with mode := .table, speedTable := table }

/-- The driver sets the default mode. -/
def zesFanSetDefaultMode (handle : Handle) : ZeResult × FanSystem :=
  s.driverSet (answers.setDefault handle) handle { s.driver handle with mode := .default }

/-- The configuration of a fan is forgotten. -/
def invalidateFanConfigCacheById (i : Nat) : FanSystem :=
  match s.fans[i]? with
  | none => s
  | some slot => s.setSlot i { slot with config := none }

/-- How a setter sets one fan, whose properties may be known. -/
abbrev SetCall := FanSystem → Handle → Except ZeResult FanProperties → ZeResult × FanSystem

/-- The body of the setters' loops. -/
def setTarget (call : SetCall) (i : Nat) : ZeResult × FanSystem :=
  let (propRes, s) := s.getPropertiesById answers 0 i
  if ∃ props ∈ propRes.toOption, ¬props.canControl then (.unsupportedFeature, s)
  else
    match s.fans[i]? with
    | none => (.invalidArgument, s)
    | some slot =>
      let (result, s) := call s slot.handle propRes
      (result, if result = .success then s.invalidateFanConfigCacheById i else s)

/-- The loops of the setters. The last error stays. -/
def setTargets (call : SetCall) (lastResult : ZeResult) (s : FanSystem) :
    List Nat → ZeResult × FanSystem
  | [] => (lastResult, s)
  | i :: is =>
    let (result, s) := s.setTarget answers call i
    setTargets call (if result = .success then lastResult else result) s is

/-- The two points of a table that stands for a fixed speed. -/
def flatTable (speed : FanSpeed) : FanSpeedTable :=
  { points := [{ temperature := 0, speed := speed }, { temperature := 100, speed := speed }],
    fits := show 2 ≤ 32 by decide }

/-- A fixed speed for one fan. -/
def setFixedCall (speed : FanSpeed) : SetCall := fun s handle propRes =>
  let (result, s) := s.zesFanSetFixedSpeedMode answers handle speed
  if (result = .unsupportedFeature ∨ result = .invalidArgument) ∧ propRes.isOk then
    s.zesFanSetSpeedTableMode answers handle (flatTable speed)
  else (result, s)

/-- A fixed speed, for one fan or all. -/
def setFixedSpeedPercent (speedPercent : Int32) (fanId : Int) : ZeResult × FanSystem :=
  match s.resolveTargetFanIndexes answers fanId with
  | (.error result, s) => (result, s)
  | (.ok targets, s) =>
    if speedPercent < 0 ∨ 100 < speedPercent then (.invalidArgument, s)
    else
      setTargets answers (setFixedCall answers { speed := speedPercent, units := .percent }) .success s
        targets

/-- The default mode, for one fan or all. -/
def setDefaultMode (fanId : Int) : ZeResult × FanSystem :=
  match s.resolveTargetFanIndexes answers fanId with
  | (.error result, s) => (result, s)
  | (.ok targets, s) =>
    setTargets answers (fun s handle _ => s.zesFanSetDefaultMode answers handle) .success s targets

/-- A point of a table in percent, clamped before it is narrowed. -/
def percentPoint (maxRPM : Int32) (point : FanPoint) : FanPoint where
  temperature := point.temperature
  speed :=
    { speed := Int32.ofInt (max 0 (min 100 (FanReading.quotient point.speed.speed maxRPM))),
      units := .percent }

/-- A table of speeds, each in percent. -/
def percentTable (maxRPM : Int32) (table : FanSpeedTable) : FanSpeedTable :=
  { points := table.points.map (percentPoint maxRPM),
    fits := (List.length_map _).trans_le table.fits }

/-- A table of speeds for one fan. -/
def setTableCall (units : FanUnits) (table : FanSpeedTable) : SetCall := fun s handle propRes =>
  let (result, s) := s.zesFanSetSpeedTableMode answers handle table
  match propRes with
  | .ok props =>
    if result = .invalidArgument ∧ units = .rpm ∧ 0 < props.maxRPM then
      s.zesFanSetSpeedTableMode answers handle (percentTable props.maxRPM table)
    else (result, s)
  | .error _ => (result, s)

def tablePoint (units : FanUnits) (point : UInt32 × Int32) : FanPoint where
  temperature := point.1
  speed := { speed := point.2, units := units }

/-- A table of speeds, for one fan or all. -/
def setSpeedTableMode (table : List (UInt32 × Int32)) (units : FanUnits) (fanId : Int) :
    ZeResult × FanSystem :=
  match s.resolveTargetFanIndexes answers fanId with
  | (.error result, s) => (result, s)
  | (.ok targets, s) =>
    if h : table = [] ∨ tempSpeedPairCount < table.length then (.invalidArgument, s)
    else
      setTargets answers
        (setTableCall answers units
          { points := table.map (tablePoint units),
            fits := (List.length_map _).trans_le (not_lt.mp (not_or.mp h).2) })
        .success s targets

end FanSystem

end Fan

end XpuManager
