import XpuManager.Hal.Fan
import XpuManager.Hal.PowerLimits
import XpuManager.Lib.Doubles
import XpuManager.Lib.Text

/-! # The texts of the config command

`setPowerLimit`, `setScheduler`, `setFanCurve` and `setFanCurveRpm` read a text and set what it says
(`ial/cmn/cmd_config.cpp`). -/

namespace XpuManager

namespace ConfigSetters

open Doubles Fan

/-! ## The device -/

/-- A call of a setter. Without a tile, a scheduler mode is for all. -/
inductive HalCall where
  | powerExpLimit (limitMw : UInt32)
  | limitsExt (level : Power.PowerLevel) (limitMw : UInt32)
  | timeoutMode (tile : Option UInt32) (timeout : UInt64)
  | timesliceMode (tile : Option UInt32) (interval yieldTimeout : UInt64)
  | exclusiveMode (tile : Option UInt32)
  | speedTableMode (table : List (UInt32 × Int32)) (units : FanUnits) (fanId : Int)
  deriving DecidableEq

/-- The components that a device has, and what their setters return. -/
structure ConfigDevice where
  power : Bool
  /-- The experimental interface, and whether it is enabled. -/
  powerExp : Option Bool
  scheduler : Bool
  frequency : Bool
  fan : Bool
  answer : HalCall → ZeResult

/-- The values of the options. -/
structure SetterOptions where
  powerLimit : Text := []
  powerType : Text := []
  tile : Option Text := none
  schedulerMode : Text := []
  fanId : Option Text := none
  fanCurve : Text := []
  fanCurveRpm : Text := []

/-- How a function ends, with its calls of setters. -/
inductive SetterRun where
  | returns (result : ZeResult) (calls : List HalCall)
  /-- An exception escapes. -/
  | throws
  /-- The behaviour is undefined. -/
  | undefined

def invalid : SetterRun := .returns .invalidArgument []

def ConfigDevice.call (device : ConfigDevice) (call : HalCall) : SetterRun :=
  .returns (device.answer call) [call]

/-! ## Parts of texts -/

/-- `std::getline` finds no token behind the last delimiter. -/
def split (str : Text) (delimiter : Char) : List Text :=
  let tokens := str.splitOn delimiter
  if tokens.getLast? = some [] then tokens.dropLast else tokens

/-- Not empty, and `isdigit` for all. -/
def isNumeric (str : Text) : Bool := str ≠ [] && str.all Char.isDigit

def parseUint32NoThrow (input : Text) : Option UInt32 :=
  let value := Numerals.ofDigits 10 0 (Numerals.leadingDigits 10 input)
  if isNumeric input ∧ value < 0x100000000 then some (UInt32.ofNat value) else none

/-- Whole numbers from -1 on; `std::stoll` skips white space. -/
def getSelectedFanId : Option Text → Option Int
  | none => some (-1)
  | some fanIdStr =>
    let (negative, digits) := Numerals.takeSign (fanIdStr.dropWhile Numerals.isSpace)
    let value : Int := Numerals.ofDigits 10 0 (Numerals.leadingDigits 10 digits)
    let parsed := if negative then -value else value
    if isNumeric digits ∧ -1 ≤ parsed ∧ parsed < 0x80000000 then some parsed else none

/-! ## The power limit -/

/-- The level that a word stands for. -/
def powerLevel (powerType : Text) : Option Power.PowerLevel :=
  if powerType = [] ∨ powerType = "sustain".toList then some .sustained
  else if powerType = "burst".toList then some .burst
  else if powerType = "peak".toList then some .peak
  else none

/-- The conversion may be undefined. -/
def wToMw (arith : Arithmetic) (w : Double) : Option UInt32 := (arith.mul 1000 w).toUInt32

/-- What follows in `setPowerLimit`, once there is a number and the component. -/
def setLimit (arith : Arithmetic) (device : ConfigDevice) (options : SetterOptions)
    (powerLimit : Double) : SetterRun :=
  match wToMw arith powerLimit with
  | none => .undefined
  | some limitMw =>
    if device.powerExp = some true then device.call (.powerExpLimit limitMw)
    else
      match powerLevel options.powerType with
      | none => invalid
      | some level => device.call (.limitsExt level limitMw)

/-- `--powerlimit`. -/
def setPowerLimit (arith : Arithmetic) (device : ConfigDevice) (options : SetterOptions) : SetterRun :=
  match arith.stod options.powerLimit with
  | none => invalid
  | some powerLimit =>
    if powerLimit.IsNegative then invalid
    else if ¬device.power then .returns .unknown []
    else setLimit arith device options powerLimit

/-! ## The scheduler -/

def schedulerTimeMin : UInt64 := 5000
def schedulerTimeMax : UInt64 := 100000000

/-- In microseconds. -/
def SchedulerTime (time : UInt64) : Prop := schedulerTimeMin ≤ time ∧ time ≤ schedulerTimeMax

instance (time : UInt64) : Decidable (SchedulerTime time) := inferInstanceAs (Decidable (_ ∧ _))

/-- The modes of the scheduler. -/
inductive SchedulerMode where
  | timeout (timeout : UInt64)
  | timeslice (interval yieldTimeout : UInt64)
  | exclusive
  deriving DecidableEq

/-- How a text is read. -/
inductive SchedulerParse where
  | mode (mode : SchedulerMode)
  | invalid
  | throws
  deriving DecidableEq

/-- `std::stoull`. -/
def stoull (str : Text) : Option UInt64 := Numerals.stoul 10 (String.ofList str)

/-- The time of the timeout mode. -/
def parseTimeout : List Text → SchedulerParse
  | [timeoutStr] =>
    if ¬isNumeric timeoutStr then .invalid
    else
      match stoull timeoutStr with
      | none => .throws
      | some timeout => if SchedulerTime timeout then .mode (.timeout timeout) else .invalid
  | _ => .invalid

/-- The two times of the timeslice mode. -/
def parseTimeslice : List Text → SchedulerParse
  | [intervalStr, yieldStr] =>
    if ¬isNumeric intervalStr ∨ ¬isNumeric yieldStr then .invalid
    else
      match stoull intervalStr, stoull yieldStr with
      | some interval, some yieldTimeout =>
        if SchedulerTime interval ∧ SchedulerTime yieldTimeout then
          .mode (.timeslice interval yieldTimeout)
        else .invalid
      | _, _ => .throws
  | _ => .invalid

/-- The word is read in small letters. -/
def parseScheduler : List Text → SchedulerParse
  | [] => .invalid
  | mode :: args =>
    if Text.lower mode = "timeout".toList then parseTimeout args
    else if Text.lower mode = "timeslice".toList then parseTimeslice args
    else if Text.lower mode = "exclusive".toList then if args = [] then .mode .exclusive else .invalid
    else .invalid

/-- The tile, if there is one; an error for one that is no number. -/
def selectedTile : Option Text → Option (Option UInt32)
  | none => some none
  | some tile => (parseUint32NoThrow tile).map some

def SchedulerMode.call (tile : Option UInt32) : SchedulerMode → HalCall
  | .timeout time => .timeoutMode tile time
  | .timeslice interval yieldTimeout => .timesliceMode tile interval yieldTimeout
  | .exclusive => .exclusiveMode tile

/-- The component that sets the scheduler of a tile, or of all. -/
def ConfigDevice.setsScheduler (device : ConfigDevice) (tile : Option UInt32) : Bool :=
  match tile with
  | none => device.scheduler
  | some _ => device.frequency

/-- `--scheduler`. -/
def setScheduler (device : ConfigDevice) (options : SetterOptions) : SetterRun :=
  match selectedTile options.tile with
  | none => invalid
  | some tile =>
    match parseScheduler (split options.schedulerMode ',') with
    | .invalid => invalid
    | .throws => .throws
    | .mode mode =>
      if ¬device.setsScheduler tile then .returns .unknown [] else device.call (mode.call tile)

/-! ## Fan curves -/

def fanCurveTempMinC : UInt32 := 0
def fanCurveTempMaxC : UInt32 := 150
def fanCurveRpmMin : UInt32 := 0
def fanCurveRpmMax : UInt32 := 20000

/-- What the two functions for fan curves differ in. -/
structure CurveUnits where
  units : FanUnits
  suffix : Text
  speedMin : UInt32
  speedMax : UInt32
  fits : speedMax.toNat < 0x80000000
  /-- The speed without its suffix; an error for the suffix of the other function. -/
  strip : Text → Option Text

/-- A text without the end that it has. -/
def stripEnd (suffix str : Text) : Option Text :=
  if suffix <:+ str then some (str.take (str.length - suffix.length)) else none

/-- Speeds in percent. -/
def percentCurve : CurveUnits where
  units := .percent
  suffix := "%".toList
  speedMin := 0
  speedMax := 100
  fits := by decide
  strip speedStr :=
    match stripEnd "%".toList speedStr with
    | some speedStr => some speedStr
    | none => if "rpm".toList <:+ speedStr then none else some speedStr

/-- Speeds in revolutions. -/
def rpmCurve : CurveUnits where
  units := .rpm
  suffix := "rpm".toList
  speedMin := fanCurveRpmMin
  speedMax := fanCurveRpmMax
  fits := by decide
  strip speedStr :=
    if "%".toList <:+ speedStr then none else some ((stripEnd "rpm".toList speedStr).getD speedStr)

/-- One `temp:speed`. -/
def parsePoint (u : CurveUnits) (entry : Text) : Option (UInt32 × UInt32) := do
  let colonPos := entry.idxOf ':'
  guard (0 < colonPos ∧ colonPos + 1 < entry.length)
  let tempStr := entry.take colonPos
  guard (isNumeric tempStr)
  let speedStr ← u.strip (entry.drop (colonPos + 1))
  guard (isNumeric speedStr)
  let temp ← parseUint32NoThrow tempStr
  guard (fanCurveTempMinC ≤ temp ∧ temp ≤ fanCurveTempMaxC)
  let speed ← parseUint32NoThrow speedStr
  guard (u.speedMin ≤ speed ∧ speed ≤ u.speedMax)
  return (temp, speed)

/-- The loop over the points, with the temperature before. -/
def parsePoints (u : CurveUnits) (previousTemp : Option UInt32) :
    List Text → Option (List (UInt32 × Int32))
  | [] => some []
  | entry :: points => do
    let (temp, speed) ← parsePoint u entry
    if ∃ previous ∈ previousTemp, temp ≤ previous then none
    else do
      let table ← parsePoints u (some temp) points
      some ((temp, speed.toInt32) :: table)

/-- The loop, and the setting of its table. -/
def setPoints (u : CurveUnits) (fanId : Int) (device : ConfigDevice) (points : List Text) : SetterRun :=
  if points = [] then invalid
  else
    match parsePoints u none points with
    | none => invalid
    | some table => device.call (.speedTableMode table u.units fanId)

/-- What the options for the fan curves have in common. -/
def setCurve (u : CurveUnits) (curve : Text) (device : ConfigDevice) (options : SetterOptions) :
    SetterRun :=
  match getSelectedFanId options.fanId with
  | none => invalid
  | some fanId =>
    if ¬device.fan then .returns .unsupportedFeature []
    else if curve = [] then invalid
    else setPoints u fanId device (split curve ',')

/-- The fan curve in percent. -/
def setFanCurve (device : ConfigDevice) (options : SetterOptions) : SetterRun :=
  setCurve percentCurve options.fanCurve device options

/-- The fan curve in revolutions. -/
def setFanCurveRpm (device : ConfigDevice) (options : SetterOptions) : SetterRun :=
  setCurve rpmCurve options.fanCurveRpm device options

/-! ## What texts say -/

/-- A decimal number, of any length. -/
def Decimal (cs : Text) (n : Nat) : Prop :=
  (cs ≠ [] ∧ ∀ c ∈ cs, c.isDigit) ∧ Numerals.ofDigits 10 0 (Numerals.leadingDigits 10 cs) = n

/-- One number that is finite and not negative, with its milliwatts. -/
def PowerText (text : Text) (limitMw : UInt32) : Prop :=
  ∃ watts : ℚ, strtod text = some (.finite watts, []) ∧ 0 ≤ watts ∧
    (limitMw.toNat : ℤ) = ⌊watts * 1000⌋

/-- The texts that name a mode of the scheduler, with its times. -/
inductive SchedulerText : Text → SchedulerMode → Prop
  | timeout {word time : Text} {timeout : UInt64} (hword : Text.lower word = "timeout".toList)
      (htime : Decimal time timeout.toNat) (hrange : SchedulerTime timeout) :
      SchedulerText (word ++ ',' :: time) (.timeout timeout)
  | timeslice {word time time' : Text} {interval yieldTimeout : UInt64}
      (hword : Text.lower word = "timeslice".toList) (htime : Decimal time interval.toNat)
      (hrange : SchedulerTime interval) (htime' : Decimal time' yieldTimeout.toNat)
      (hrange' : SchedulerTime yieldTimeout) :
      SchedulerText (word ++ ',' :: (time ++ ',' :: time')) (.timeslice interval yieldTimeout)
  | exclusive {word : Text} (hword : Text.lower word = "exclusive".toList) :
      SchedulerText word .exclusive

/-- A temperature and a speed, which may have its suffix. -/
def PointText (u : CurveUnits) (entry : Text) (point : UInt32 × Int32) : Prop :=
  ∃ t s n, (entry = t ++ ':' :: s ∨ entry = t ++ ':' :: (s ++ u.suffix)) ∧
    Decimal t point.1.toNat ∧ fanCurveTempMinC ≤ point.1 ∧ point.1 ≤ fanCurveTempMaxC ∧
    Decimal s n ∧ point.2.toInt = n ∧ u.speedMin.toNat ≤ n ∧ n ≤ u.speedMax.toNat

/-- Points between single commas, with temperatures that increase. -/
def CurveText (u : CurveUnits) (text : Text) (table : List (UInt32 × Int32)) : Prop :=
  List.Forall₂ (PointText u) (text.splitOn ',') table ∧ (table.map Prod.fst).Pairwise (· < ·)

/-- A text that says something is set as it says, and any other is refused. Nothing is set where the
component is missing. -/
def SetRight (denotes : HalCall → Prop) (missing : Prop) (run : SetterRun) : Prop :=
  run = invalid ∨ (∃ result call, run = .returns result [call] ∧ denotes call) ∨
    missing ∧ ∃ result, run = .returns result []

/-! ## Digits -/

section

variable {cs : Text}

theorem isNumeric_iff : isNumeric cs ↔ cs ≠ [] ∧ ∀ c ∈ cs, c.isDigit := by
  simp [isNumeric]

theorem Decimal.isNumeric {n : Nat} (h : Decimal cs n) : isNumeric cs := isNumeric_iff.mpr h.1

theorem Decimal.not_mem {n : Nat} (h : Decimal cs n) {c : Char} (hc : c.isDigit = false) : c ∉ cs := by
  intro hmem
  rw [h.1.2 c hmem] at hc
  cases hc

theorem exists_decimal (h : isNumeric cs) : ∃ n, Decimal cs n := ⟨_, isNumeric_iff.mp h, rfl⟩

/-- The decimal numerals of 32 bits. -/
theorem parseUint32NoThrow_eq_some_iff {n : UInt32} :
    parseUint32NoThrow cs = some n ↔ Decimal cs n.toNat := by
  rw [parseUint32NoThrow, Decimal, ← isNumeric_iff]
  constructor
  · intro h
    split at h
    case isTrue hdecimal =>
      obtain rfl := Option.some.inj h
      refine ⟨hdecimal.1, ?_⟩
      rw [UInt32.toNat_ofNat', Nat.mod_eq_of_lt hdecimal.2]
    case isFalse => cases h
  · rintro ⟨hdigits, hvalue⟩
    rw [hvalue, if_pos ⟨hdigits, n.toNat_lt⟩, UInt32.ofNat_toNat]

theorem stoull_eq {n : Nat} (h : Decimal cs n) :
    stoull cs = if n < UInt64.size then some (UInt64.ofNat n) else none := by
  rw [stoull, Numerals.stoul_of_digits h.1.1 h.1.2, h.2]

/-- The numerals of 64 bits. -/
theorem stoull_eq_some_iff (h : isNumeric cs) {n : UInt64} : stoull cs = some n ↔ Decimal cs n.toNat := by
  obtain ⟨m, hm⟩ := exists_decimal h
  rw [stoull_eq hm]
  constructor
  · intro hsome
    split at hsome
    case isTrue hlt =>
      obtain rfl := Option.some.inj hsome
      rwa [UInt64.toNat_ofNat_of_lt' hlt]
    case isFalse => cases hsome
  · intro hn
    obtain rfl : m = n.toNat := hm.2.symm.trans hn.2
    rw [if_pos n.toNat_lt, UInt64.ofNat_toNat]

/-- It throws for numerals that are too large. -/
theorem stoull_eq_none_iff (h : isNumeric cs) : stoull cs = none ↔ ∃ n, Decimal cs n ∧ UInt64.size ≤ n := by
  obtain ⟨m, hm⟩ := exists_decimal h
  rw [stoull_eq hm]
  constructor
  · intro hnone
    split at hnone
    case isTrue => cases hnone
    case isFalse hle => exact ⟨m, hm, not_lt.mp hle⟩
  · rintro ⟨n, hn, hle⟩
    obtain rfl : m = n := hm.2.symm.trans hn.2
    exact if_neg (not_lt.mpr hle)

end

/-! ## Commas -/

section

variable {str : Text} {d : Char}

theorem split_append_singleton (str : Text) (d : Char) : split (str ++ [d]) d = str.splitOn d := by
  have htokens : (str ++ [d]).splitOn d = str.splitOn d ++ [[]] := by
    rw [List.splitOn_append_cons_self, List.splitOn_nil]
  rw [split, htokens, List.getLast?_concat]
  exact (if_pos rfl).trans List.dropLast_concat

/-- Only a delimiter at the end is lost. -/
theorem split_cases (str : Text) (d : Char) :
    str = [] ∨ (∃ body, str = body ++ [d]) ∨ split str d = str.splitOn d := by
  by_cases hmem : d ∈ str
  · -- What follows the last delimiter is the last token.
    obtain ⟨as, bs, hstr, hnot⟩ := List.eq_append_cons_of_mem (List.mem_reverse.mpr hmem)
    have hstr' : str = bs.reverse ++ d :: as.reverse := by
      rw [← List.reverse_reverse str, hstr]
      simp
    by_cases has : as = []
    · exact .inr (.inl ⟨bs.reverse, by rw [hstr', has, List.reverse_nil]⟩)
    · right; right
      have hnot' : d ∉ as.reverse := mt List.mem_reverse.mp hnot
      have hlast : str.splitOn d = bs.reverse.splitOn d ++ [as.reverse] := by
        rw [hstr', List.splitOn_append_cons_self, List.splitOn_eq_singleton hnot']
      rw [split, hlast, List.getLast?_concat]
      exact if_neg fun h => has (List.reverse_eq_nil_iff.mp (Option.some.inj h))
  · by_cases hstr : str = []
    · exact .inl hstr
    · right; right
      rw [split, List.splitOn_eq_singleton hmem]
      exact if_neg fun h => hstr (Option.some.inj h)

theorem split_nil (d : Char) : split [] d = [] := by
  rw [split, List.splitOn_nil]
  exact if_pos rfl

theorem split_eq_splitOn (hne : str ≠ []) (h : ∀ body, str ≠ body ++ [d]) :
    split str d = str.splitOn d := by
  rcases split_cases str d with hstr | ⟨body, hstr⟩ | hsplit
  · exact absurd hstr hne
  · exact absurd hstr (h body)
  · exact hsplit

end

/-! ## Schedulers -/

section

variable {args : List Text} {text body : Text} {mode : SchedulerMode}

/-- A time that does not fit 64 bits. -/
def Overlong (time : Text) : Prop := ∃ n, Decimal time n ∧ UInt64.size ≤ n

/-- The texts that are read as a timeout. -/
theorem parseTimeout_eq_mode_iff : parseTimeout args = .mode mode ↔
    ∃ (time : Text) (timeout : UInt64), args = [time] ∧ Decimal time timeout.toNat ∧
      SchedulerTime timeout ∧ mode = .timeout timeout := by
  constructor
  · intro h
    rw [parseTimeout.eq_def] at h
    split at h
    case h_1 time =>
      split at h
      case isTrue => cases h
      case isFalse hnumeric =>
        split at h
        case h_1 => cases h
        case h_2 timeout hsome =>
          split at h
          case isTrue hrange =>
            obtain rfl := SchedulerParse.mode.inj h
            exact ⟨time, timeout, rfl, (stoull_eq_some_iff (not_not.mp hnumeric)).mp hsome, hrange, rfl⟩
          case isFalse => cases h
    case h_2 => cases h
  · rintro ⟨time, timeout, rfl, htime, hrange, rfl⟩
    rw [parseTimeout, if_neg (not_not.mpr htime.isNumeric), (stoull_eq_some_iff htime.isNumeric).mpr htime]
    exact if_pos hrange

theorem parseTimeout_eq_throws_iff : parseTimeout args = .throws ↔
    ∃ time, args = [time] ∧ Overlong time := by
  constructor
  · intro h
    rw [parseTimeout.eq_def] at h
    split at h
    case h_1 time =>
      split at h
      case isTrue => cases h
      case isFalse hnumeric =>
        split at h
        case h_1 hnone => exact ⟨time, rfl, (stoull_eq_none_iff (not_not.mp hnumeric)).mp hnone⟩
        case h_2 => split at h <;> cases h
    case h_2 => cases h
  · rintro ⟨time, rfl, n, hn, hle⟩
    rw [parseTimeout, if_neg (not_not.mpr hn.isNumeric),
      (stoull_eq_none_iff hn.isNumeric).mpr ⟨n, hn, hle⟩]

/-- The texts that are read as a timeslice. -/
theorem parseTimeslice_eq_mode_iff : parseTimeslice args = .mode mode ↔
    ∃ (time time' : Text) (interval yieldTimeout : UInt64), args = [time, time'] ∧
      (Decimal time interval.toNat ∧ SchedulerTime interval) ∧
      (Decimal time' yieldTimeout.toNat ∧ SchedulerTime yieldTimeout) ∧
      mode = .timeslice interval yieldTimeout := by
  constructor
  · intro h
    rw [parseTimeslice.eq_def] at h
    split at h
    case h_1 time time' =>
      split at h
      case isTrue => cases h
      case isFalse hnumeric =>
        rw [not_or, not_not, not_not] at hnumeric
        split at h
        case h_1 interval yieldTimeout hsome hsome' =>
          split at h
          case isTrue hrange =>
            obtain rfl := SchedulerParse.mode.inj h
            exact ⟨time, time', interval, yieldTimeout, rfl,
              ⟨(stoull_eq_some_iff hnumeric.1).mp hsome, hrange.1⟩,
              ⟨(stoull_eq_some_iff hnumeric.2).mp hsome', hrange.2⟩, rfl⟩
          case isFalse => cases h
        case h_2 => cases h
    case h_2 => cases h
  · rintro ⟨time, time', interval, yieldTimeout, rfl, ⟨htime, hrange⟩, ⟨htime', hrange'⟩, rfl⟩
    have hnumeric := not_or.mpr ⟨not_not.mpr htime.isNumeric, not_not.mpr htime'.isNumeric⟩
    rw [parseTimeslice, if_neg hnumeric, (stoull_eq_some_iff htime.isNumeric).mpr htime,
      (stoull_eq_some_iff htime'.isNumeric).mpr htime']
    exact if_pos ⟨hrange, hrange'⟩

theorem parseTimeslice_eq_throws_iff : parseTimeslice args = .throws ↔
    ∃ time time', args = [time, time'] ∧ isNumeric time ∧ isNumeric time' ∧
      (Overlong time ∨ Overlong time') := by
  constructor
  · intro h
    rw [parseTimeslice.eq_def] at h
    split at h
    case h_1 time time' =>
      split at h
      case isTrue => cases h
      case isFalse hnumeric =>
        rw [not_or, not_not, not_not] at hnumeric
        split at h
        case h_1 => split at h <;> cases h
        case h_2 hnone =>
          refine ⟨time, time', rfl, hnumeric.1, hnumeric.2, ?_⟩
          rw [Overlong, Overlong, ← stoull_eq_none_iff hnumeric.1, ← stoull_eq_none_iff hnumeric.2]
          cases hfirst : stoull time with
          | none => exact .inl rfl
          | some n =>
            cases hsecond : stoull time' with
            | none => exact .inr rfl
            | some m => exact absurd hsecond (hnone n m hfirst)
    case h_2 => cases h
  · rintro ⟨time, time', rfl, hnumeric, hnumeric', hlong⟩
    rw [parseTimeslice, if_neg (not_or.mpr ⟨not_not.mpr hnumeric, not_not.mpr hnumeric'⟩)]
    rw [Overlong, Overlong, ← stoull_eq_none_iff hnumeric, ← stoull_eq_none_iff hnumeric'] at hlong
    rcases hlong with hlong | hlong
    · rw [hlong]
    · rw [hlong]
      cases stoull time <;> rfl

/-- A word of small letters has no commas, however it is written. -/
theorem comma_not_mem {word small : Text} (hword : Text.lower word = small) (h : ',' ∉ small) :
    ',' ∉ word := by
  rw [← Text.mem_lower_iff (by decide), hword]
  exact h

/-- **The modes that texts say**, where no comma is lost. -/
theorem parseScheduler_splitOn_iff :
    parseScheduler (text.splitOn ',') = .mode mode ↔ SchedulerText text mode := by
  constructor
  · intro h
    have htext : [','].intercalate (text.splitOn ',') = text := List.intercalate_splitOn ','
    rcases hparts : text.splitOn ',' with _ | ⟨word, args⟩
    · exact absurd hparts (List.splitOn_ne_nil ',' text)
    · rw [hparts] at h htext
      rw [parseScheduler] at h
      split at h
      case isTrue hword =>
        obtain ⟨time, timeout, rfl, htime, hrange, rfl⟩ := parseTimeout_eq_mode_iff.mp h
        have htext' : text = word ++ ',' :: time := by simpa [List.intercalate] using htext.symm
        exact htext' ▸ .timeout hword htime hrange
      case isFalse =>
        split at h
        case isTrue hword =>
          obtain ⟨time, time', interval, yieldTimeout, rfl, htime, htime', rfl⟩ :=
            parseTimeslice_eq_mode_iff.mp h
          have htext' : text = word ++ ',' :: (time ++ ',' :: time') := by
            simpa [List.intercalate] using htext.symm
          exact htext' ▸ .timeslice hword htime.1 htime.2 htime'.1 htime'.2
        case isFalse =>
          split at h
          case isTrue hword =>
            split at h
            case isTrue hargs =>
              obtain rfl := SchedulerParse.mode.inj h
              subst hargs
              have htext' : text = word := by simpa [List.intercalate] using htext.symm
              exact htext' ▸ .exclusive hword
            case isFalse => cases h
          case isFalse => cases h
  · have hcomma : Char.isDigit ',' = false := by decide
    intro h
    cases h with
    | timeout hword htime hrange =>
      rw [List.splitOn_append_cons_self_of_not_mem (comma_not_mem hword (by decide)),
        List.splitOn_eq_singleton (htime.not_mem hcomma), parseScheduler, if_pos hword]
      exact parseTimeout_eq_mode_iff.mpr ⟨_, _, rfl, htime, hrange, rfl⟩
    | timeslice hword htime hrange htime' hrange' =>
      rw [List.splitOn_append_cons_self_of_not_mem (comma_not_mem hword (by decide)),
        List.splitOn_append_cons_self_of_not_mem (htime.not_mem hcomma),
        List.splitOn_eq_singleton (htime'.not_mem hcomma), parseScheduler, hword,
        if_neg (by decide), if_pos rfl]
      exact parseTimeslice_eq_mode_iff.mpr
        ⟨_, _, _, _, rfl, ⟨htime, hrange⟩, ⟨htime', hrange'⟩, rfl⟩
    | exclusive hword =>
      rw [List.splitOn_eq_singleton (comma_not_mem hword (by decide)), parseScheduler, hword,
        if_neg (by decide), if_neg (by decide), if_pos rfl]
      exact if_pos rfl

/-- A text of digits does not end with a comma. -/
theorem Decimal.append_ne {time : Text} {n : Nat} (h : Decimal time n) (pre : Text) :
    pre ++ time ≠ body ++ [','] := by
  intro heq
  have hlast := congrArg List.getLast? heq
  rw [List.getLast?_append_of_ne_nil _ h.1.1, List.getLast?_concat] at hlast
  exact h.not_mem (by decide) (List.mem_of_getLast? hlast)

theorem not_schedulerText_comma (body : Text) (mode : SchedulerMode) :
    ¬SchedulerText (body ++ [',']) mode := by
  intro h
  generalize htext : body ++ [','] = text at h
  cases h with
  | @timeout word time _ _ htime _ =>
    exact htime.append_ne (word ++ [',']) (by simpa using htext.symm)
  | @timeslice word time time' _ _ _ _ _ htime' _ =>
    exact htime'.append_ne (word ++ [','] ++ time ++ [',']) (by simpa using htext.symm)
  | exclusive hword =>
    refine comma_not_mem hword (by decide) ?_
    rw [← htext]
    exact List.mem_append_right _ (List.mem_singleton_self _)

/-- Fields with a time that does not fit 64 bits. -/
def OverlongFields (fields : List Text) : Prop :=
  (∃ word time, fields = [word, time] ∧ Text.lower word = "timeout".toList ∧ Overlong time) ∨
    ∃ word time time', fields = [word, time, time'] ∧ Text.lower word = "timeslice".toList ∧
      isNumeric time ∧ isNumeric time' ∧ (Overlong time ∨ Overlong time')

/-- An exception escapes exactly for a number too long. -/
theorem parseScheduler_eq_throws_iff {fields : List Text} :
    parseScheduler fields = .throws ↔ OverlongFields fields := by
  constructor
  · intro h
    rw [parseScheduler.eq_def] at h
    split at h
    case h_1 => cases h
    case h_2 word args =>
      split at h
      case isTrue hword =>
        obtain ⟨time, rfl, hlong⟩ := parseTimeout_eq_throws_iff.mp h
        exact .inl ⟨word, time, rfl, hword, hlong⟩
      case isFalse =>
        split at h
        case isTrue hword =>
          obtain ⟨time, time', rfl, hlong⟩ := parseTimeslice_eq_throws_iff.mp h
          exact .inr ⟨word, time, time', rfl, hword, hlong⟩
        case isFalse =>
          split at h
          · split at h <;> cases h
          · cases h
  · rintro (⟨word, time, rfl, hword, hlong⟩ | ⟨word, time, time', rfl, hword, hlong⟩)
    · rw [parseScheduler, if_pos hword]
      exact parseTimeout_eq_throws_iff.mpr ⟨time, rfl, hlong⟩
    · rw [parseScheduler, hword, if_neg (by decide), if_pos rfl]
      exact parseTimeslice_eq_throws_iff.mpr ⟨time, time', rfl, hlong⟩

end

/-! ## Points -/

section

variable {u : CurveUnits} {entry str s : Text} {suffix : Text}

/-- Exactly this ending is taken off. -/
theorem stripEnd_eq_some_iff : stripEnd suffix str = some s ↔ str = s ++ suffix := by
  rw [stripEnd]
  constructor
  · intro h
    split at h
    case isTrue hsuffix =>
      obtain ⟨t, rfl⟩ := hsuffix
      rw [List.length_append, Nat.add_sub_cancel, List.take_left] at h
      rw [Option.some.inj h]
    case isFalse => cases h
  · rintro rfl
    rw [if_pos (List.suffix_append _ _), List.length_append, Nat.add_sub_cancel, List.take_left]

/-- The speed that is left is followed by the suffix, or by nothing. -/
def CurveUnits.Strips (u : CurveUnits) : Prop :=
  ∀ str s, isNumeric s → (u.strip str = some s ↔ str = s ∨ str = s ++ u.suffix)

/-- A text with another last character has no such suffix. -/
theorem not_suffix_of_isNumeric (hs : isNumeric s) {c : Char} (hsuffix : suffix.getLast? = some c)
    (hc : c.isDigit = false) : ¬suffix <:+ s := by
  intro h
  have hmem : c ∈ s := h.subset (List.mem_of_getLast? hsuffix)
  rw [(isNumeric_iff.mp hs).2 c hmem] at hc
  cases hc

theorem strips_percentCurve : percentCurve.Strips := by
  intro str s hs
  change (match stripEnd "%".toList str with
    | some speedStr => some speedStr
    | none => if "rpm".toList <:+ str then none else some str) = some s ↔ _
  have hnot : ¬"%".toList <:+ s := not_suffix_of_isNumeric hs rfl (by decide)
  have hnot' : ¬"rpm".toList <:+ s := not_suffix_of_isNumeric hs rfl (by decide)
  constructor
  · intro h
    split at h
    case h_1 speedStr hstrip =>
      obtain rfl := Option.some.inj h
      exact .inr (stripEnd_eq_some_iff.mp hstrip)
    case h_2 =>
      split at h
      case isTrue => cases h
      case isFalse => exact .inl (Option.some.inj h)
  · rintro (rfl | rfl)
    · rw [stripEnd, if_neg hnot]
      exact if_neg hnot'
    · have hstrip : stripEnd "%".toList (s ++ "%".toList) = some s := stripEnd_eq_some_iff.mpr rfl
      change (match stripEnd "%".toList (s ++ "%".toList) with
        | some speedStr => some speedStr
        | none => _) = some s
      rw [hstrip]

theorem strips_rpmCurve : rpmCurve.Strips := by
  intro str s hs
  change (if "%".toList <:+ str then none
    else some ((stripEnd "rpm".toList str).getD str)) = some s ↔ _
  have hnot : ¬"%".toList <:+ s := not_suffix_of_isNumeric hs rfl (by decide)
  have hnot' : ¬"rpm".toList <:+ s := not_suffix_of_isNumeric hs rfl (by decide)
  constructor
  · intro h
    split at h
    case isTrue => cases h
    case isFalse =>
      cases hstrip : stripEnd "rpm".toList str with
      | none =>
        rw [hstrip] at h
        exact .inl (Option.some.inj h)
      | some speedStr =>
        rw [hstrip] at h
        obtain rfl := Option.some.inj h
        exact .inr (stripEnd_eq_some_iff.mp hstrip)
  · rintro (rfl | rfl)
    · rw [if_neg hnot, stripEnd, if_neg hnot']
      rfl
    · have hstrip : stripEnd "rpm".toList (s ++ "rpm".toList) = some s := stripEnd_eq_some_iff.mpr rfl
      have hlast : ¬"%".toList <:+ s ++ "rpm".toList := by
        rintro ⟨t, ht⟩
        have hlast := congrArg List.getLast? ht
        simp at hlast
      change (if "%".toList <:+ s ++ "rpm".toList then none
        else some ((stripEnd "rpm".toList (s ++ "rpm".toList)).getD _)) = _
      rw [if_neg hlast, hstrip]
      rfl

/-- The texts that are read as a point of the curve. -/
theorem parsePoint_eq_some_iff (hstrips : u.Strips) {temp speed : UInt32} :
    parsePoint u entry = some (temp, speed) ↔
      ∃ t s, (entry = t ++ ':' :: s ∨ entry = t ++ ':' :: (s ++ u.suffix)) ∧
        Decimal t temp.toNat ∧ fanCurveTempMinC ≤ temp ∧ temp ≤ fanCurveTempMaxC ∧
        Decimal s speed.toNat ∧ u.speedMin ≤ speed ∧ speed ≤ u.speedMax := by
  simp only [parsePoint, guard, Option.bind_eq_bind, Option.bind_eq_some_iff, Option.pure_def]
  constructor
  · rintro ⟨_, hcolon, _, htemp, s, hstrip, _, hspeed, temp', htemp', _, htempRange, speed', hspeed',
      _, hspeedRange, hpoint⟩
    have hguard {p : Prop} [Decidable p] {a : Unit} (h : (if p then some () else failure) = some a) :
        p := by
      by_contra hp
      rw [if_neg hp] at h
      cases h
    replace hcolon := hguard hcolon
    replace hspeed := hguard hspeed
    replace htempRange := hguard htempRange
    replace hspeedRange := hguard hspeedRange
    obtain ⟨rfl, rfl⟩ := Prod.mk.inj (Option.some.inj hpoint)
    have hmem : entry.idxOf ':' < entry.length := (Nat.lt_succ_self _).trans hcolon.2
    have hentry : entry = entry.take (entry.idxOf ':') ++ ':' :: entry.drop (entry.idxOf ':' + 1) := by
      conv_lhs => rw [← List.take_append_drop (entry.idxOf ':') entry, List.drop_eq_getElem_cons hmem,
        List.getElem_idxOf hmem]
    refine ⟨entry.take (entry.idxOf ':'), s, ?_, parseUint32NoThrow_eq_some_iff.mp htemp',
      htempRange.1, htempRange.2, parseUint32NoThrow_eq_some_iff.mp hspeed', hspeedRange.1,
      hspeedRange.2⟩
    rcases (hstrips _ s hspeed).mp hstrip with hs | hs
    · left
      rwa [hs] at hentry
    · right
      rwa [hs] at hentry
  · rintro ⟨t, s, hentry, ht, htemp, htemp', hs, hspeed, hspeed'⟩
    have hcolon : ':' ∉ t := ht.not_mem (by decide)
    obtain ⟨rest, rfl, hrest, hstrip⟩ : ∃ rest, entry = t ++ ':' :: rest ∧ rest ≠ [] ∧
        u.strip rest = some s := by
      rcases hentry with rfl | rfl
      · exact ⟨s, rfl, hs.1.1, (hstrips s s hs.isNumeric).mpr (.inl rfl)⟩
      · exact ⟨s ++ u.suffix, rfl, fun h => hs.1.1 (List.append_eq_nil_iff.mp h).1,
          (hstrips _ s hs.isNumeric).mpr (.inr rfl)⟩
    have hidx : (t ++ ':' :: rest).idxOf ':' = t.length := by
      rw [List.idxOf_append_of_notMem hcolon, List.idxOf_cons_self, Nat.add_zero]
    have hlt : 0 < t.length := List.length_pos_of_ne_nil ht.1.1
    have hlt' : t.length + 1 < (t ++ ':' :: rest).length := by
      have := List.length_pos_of_ne_nil hrest
      rw [List.length_append, List.length_cons]
      omega
    have hdrop : (t ++ ':' :: rest).drop (t.length + 1) = rest := by
      rw [List.drop_append, List.drop_of_length_le (Nat.le_succ _)]
      simp
    rw [hidx, List.take_left, hdrop]
    exact ⟨(), if_pos ⟨hlt, hlt'⟩, (), if_pos ht.isNumeric, s, hstrip, (), if_pos hs.isNumeric, temp,
      parseUint32NoThrow_eq_some_iff.mpr ht, (), if_pos ⟨htemp, htemp'⟩, speed,
      parseUint32NoThrow_eq_some_iff.mpr hs, (), if_pos ⟨hspeed, hspeed'⟩, rfl⟩

theorem toInt_toInt32 {n : UInt32} (h : n.toNat < 0x80000000) : n.toInt32.toInt = n.toNat := by
  change n.toBitVec.toInt = (n.toBitVec.toNat : Int)
  exact BitVec.toInt_eq_toNat_of_lt (by change 2 * n.toNat < 2 ^ 32; omega)

theorem pointText_iff (hstrips : u.Strips) {temp : UInt32} {v : Int32} :
    PointText u entry (temp, v) ↔
      ∃ speed, parsePoint u entry = some (temp, speed) ∧ v = speed.toInt32 := by
  have hfits := u.fits
  constructor
  · rintro ⟨t, s, n, hentry, ht, htemp, htemp', hs, hv, hspeed, hspeed'⟩
    dsimp only at ht htemp htemp' hv
    have hn : n < UInt32.size := lt_of_le_of_lt hspeed' (hfits.trans (by decide))
    have hnat : (UInt32.ofNat n).toNat = n := UInt32.toNat_ofNat_of_lt' hn
    refine ⟨UInt32.ofNat n, (parsePoint_eq_some_iff hstrips).mpr ⟨t, s, hentry, ht, htemp, htemp', ?_⟩, ?_⟩
    · rw [UInt32.le_iff_toNat_le, UInt32.le_iff_toNat_le, hnat]
      exact ⟨hs, hspeed, hspeed'⟩
    · refine Int32.toInt_inj.mp ?_
      rw [hv, toInt_toInt32 (by omega), hnat]
  · rintro ⟨speed, hpoint, rfl⟩
    obtain ⟨t, s, hentry, ht, htemp, htemp', hs, hspeed, hspeed'⟩ :=
      (parsePoint_eq_some_iff hstrips).mp hpoint
    rw [UInt32.le_iff_toNat_le] at hspeed hspeed'
    exact ⟨t, s, speed.toNat, hentry, ht, htemp, htemp', hs, toInt_toInt32 (by omega), hspeed, hspeed'⟩

/-- **The loop over the points.** -/
theorem parsePoints_eq_some_iff (hstrips : u.Strips) {previousTemp : Option UInt32}
    {points : List Text} {table : List (UInt32 × Int32)} :
    parsePoints u previousTemp points = some table ↔
      List.Forall₂ (PointText u) points table ∧ (table.map Prod.fst).Pairwise (· < ·) ∧
        ∀ previous ∈ previousTemp, ∀ temp ∈ table.map Prod.fst, previous < temp := by
  induction points generalizing previousTemp table with
  | nil =>
    constructor
    · intro h
      obtain rfl := Option.some.inj h
      exact ⟨.nil, .nil, nofun⟩
    · rintro ⟨hforall, -, -⟩
      cases hforall
      rfl
  | cons entry points ih =>
    rw [parsePoints]
    simp only [Option.bind_eq_bind, Option.bind_eq_some_iff, Prod.exists]
    constructor
    · rintro ⟨temp, speed, hpoint, hrest⟩
      split at hrest
      case isTrue => cases hrest
      case isFalse hincreasing =>
        obtain ⟨rest, hparse, htable⟩ := Option.bind_eq_some_iff.mp hrest
        obtain rfl := Option.some.inj htable
        obtain ⟨hforall, hpairwise, hlt⟩ := ih.mp hparse
        have hfirst : ∀ previous ∈ previousTemp, previous < temp := fun previous hprevious =>
          UInt32.not_le.mp fun hle => hincreasing ⟨previous, hprevious, hle⟩
        have hall : ∀ temp' ∈ rest.map Prod.fst, temp < temp' := hlt temp rfl
        refine ⟨.cons ((pointText_iff hstrips).mpr ⟨speed, hpoint, rfl⟩) hforall,
          List.pairwise_cons.mpr ⟨hall, hpairwise⟩, fun previous hprevious => ?_⟩
        refine List.forall_mem_cons.mpr ⟨hfirst previous hprevious, fun temp' htemp' => ?_⟩
        exact UInt32.lt_trans (hfirst previous hprevious) (hall temp' htemp')
    · rintro ⟨hforall, hpairwise, hlt⟩
      cases hforall with
      | @cons _ point _ rest hpoint hforall =>
        obtain ⟨temp, v⟩ := point
        obtain ⟨speed, hparse, rfl⟩ := (pointText_iff hstrips).mp hpoint
        obtain ⟨hall, hpairwise⟩ := List.pairwise_cons.mp hpairwise
        refine ⟨temp, speed, hparse, ?_⟩
        rw [if_neg]
        · refine Option.bind_eq_some_iff.mpr ⟨rest, ih.mpr ⟨hforall, hpairwise, ?_⟩, rfl⟩
          rintro previous ⟨⟩
          exact hall
        · rintro ⟨previous, hprevious, hle⟩
          exact absurd (hlt previous hprevious temp List.mem_cons_self) (UInt32.not_lt.mpr hle)

theorem parsePoints_splitOn_iff (hstrips : u.Strips) {text : Text} {table : List (UInt32 × Int32)} :
    parsePoints u none (text.splitOn ',') = some table ↔ CurveText u text table := by
  rw [parsePoints_eq_some_iff hstrips, CurveText]
  exact and_congr_right fun _ => and_iff_left nofun

/-- No point is empty. -/
theorem not_curveText_comma (body : Text) (table : List (UInt32 × Int32)) :
    ¬CurveText u (body ++ [',']) table := by
  rintro ⟨hforall, -⟩
  rw [List.splitOn_append_cons_self, List.splitOn_nil] at hforall
  have hflip : List.Forall₂ (flip (PointText u)) table (body.splitOn ',' ++ [[]]) := hforall.flip
  obtain ⟨point, -, hpoint, -, -⟩ :=
    List.forall₂_cons_right_iff.mp (List.forall₂_drop_append _ _ _ hflip)
  obtain ⟨t, s, n, hentry | hentry, -⟩ := hpoint
  · exact List.append_ne_nil_of_right_ne_nil t (List.cons_ne_nil _ _) hentry.symm
  · exact List.append_ne_nil_of_right_ne_nil t (List.cons_ne_nil _ _) hentry.symm

end

/-! ## When texts are set as they say -/

section

variable (arith : Arithmetic) (device : ConfigDevice) (options : SetterOptions)

/-- The call of a power limit. -/
def PowerCall (call : HalCall) : Prop :=
  ∃ limitMw, PowerText options.powerLimit limitMw ∧
    if device.powerExp = some true then call = .powerExpLimit limitMw
    else ∃ level, powerLevel options.powerType = some level ∧ call = .limitsExt level limitMw

/-- The call of a scheduler mode. -/
def SchedulerCall (call : HalCall) : Prop :=
  ∃ tile mode, selectedTile options.tile = some tile ∧ SchedulerText options.schedulerMode mode ∧
    call = mode.call tile

/-- The call of a fan curve. -/
def CurveCall (u : CurveUnits) (curve : Text) (call : HalCall) : Prop :=
  ∃ fanId table, getSelectedFanId options.fanId = some fanId ∧ CurveText u curve table ∧
    call = .speedTableMode table u.units fanId

/-- A number that is not refused is finite, and its milliwatts fit 32 bits. Where it is set it is the
whole text, it is not negative, and its milliwatts are computed exactly. -/
def PowerFits : Prop :=
  ∀ value rest rounded, strtod options.powerLimit = some (value, rest) →
    arith.read value = some rounded → ¬rounded.IsNegative → device.power →
      ∃ watts, value = .finite watts ∧ arith.round (arith.round watts * 1000) < 0x100000000 ∧
        (device.powerExp = some true ∨ (powerLevel options.powerType).isSome →
          rest = [] ∧ 0 ≤ watts ∧ ⌊arith.round (arith.round watts * 1000)⌋ = ⌊watts * 1000⌋)

/-- No time is too long for 64 bits, and no comma follows a text that says a mode. -/
def SchedulerFits : Prop :=
  ∀ tile, selectedTile options.tile = some tile →
    ¬OverlongFields (split options.schedulerMode ',') ∧
      (device.setsScheduler tile → ∀ body mode, options.schedulerMode = body ++ [','] →
        ¬SchedulerText body mode)

/-- No comma follows a text that says a curve. -/
def CurveFits (u : CurveUnits) (curve : Text) : Prop :=
  (getSelectedFanId options.fanId).isSome → device.fan →
    ∀ body table, curve = body ++ [','] → ¬CurveText u body table

end

section

variable {arith : Arithmetic} {device : ConfigDevice} {options : SetterOptions}
  {denotes : HalCall → Prop} {missing : Prop}

theorem setRight_invalid : SetRight denotes missing invalid := .inl rfl

theorem setRight_call_iff {call : HalCall} :
    SetRight denotes missing (device.call call) ↔ denotes call := by
  constructor
  · rintro (hinvalid | ⟨result, call', hcall, hdenotes⟩ | ⟨-, result, hnone⟩)
    · exact absurd (SetterRun.returns.inj hinvalid).2 (List.cons_ne_nil _ _)
    · obtain rfl := List.singleton_inj.mp (SetterRun.returns.inj hcall).2
      exact hdenotes
    · exact absurd (SetterRun.returns.inj hnone).2 (List.cons_ne_nil _ _)
  · intro hdenotes
    exact .inr (.inl ⟨_, call, rfl, hdenotes⟩)

theorem setRight_missing {result : ZeResult} (h : missing) :
    SetRight denotes missing (.returns result []) := .inr (.inr ⟨h, result, rfl⟩)

theorem not_setRight_throws : ¬SetRight denotes missing .throws := by
  rintro (hinvalid | ⟨result, call', hcall, -⟩ | ⟨-, result, hnone⟩)
  · cases hinvalid
  · cases hcall
  · cases hnone

theorem not_setRight_undefined : ¬SetRight denotes missing .undefined := by
  rintro (hinvalid | ⟨result, call', hcall, -⟩ | ⟨-, result, hnone⟩)
  · cases hinvalid
  · cases hcall
  · cases hnone

/-- The points are set right exactly where the table read off is what the text says. -/
theorem setPoints_right_iff {u : CurveUnits} {curve : Text} {fanId : Int} {points : List Text}
    (hfanId : getSelectedFanId options.fanId = some fanId) (hne : points ≠ []) :
    SetRight (CurveCall options u curve) missing (setPoints u fanId device points) ↔
      ∀ table, parsePoints u none points = some table → CurveText u curve table := by
  rw [setPoints, if_neg hne]
  cases parsePoints u none points with
  | none => exact iff_of_true setRight_invalid nofun
  | some table =>
    dsimp only
    rw [setRight_call_iff]
    constructor
    · rintro ⟨fanId', table', -, htext, hcall⟩ table'' htable
      obtain rfl := Option.some.inj htable
      obtain ⟨rfl, -, -⟩ := HalCall.speedTableMode.inj hcall
      exact htext
    · intro h
      exact ⟨fanId, table, hfanId, h table rfl, rfl⟩

/-- **A fan curve is set right** exactly if no comma follows it. -/
theorem setCurve_right_iff {u : CurveUnits} (hstrips : u.Strips) (curve : Text) :
    SetRight (CurveCall options u curve) (¬device.fan) (setCurve u curve device options) ↔
      CurveFits device options u curve := by
  rw [setCurve, CurveFits]
  cases hfanId : getSelectedFanId options.fanId with
  | none => exact iff_of_true setRight_invalid nofun
  | some fanId =>
    dsimp only
    by_cases hfan : device.fan
    · rw [if_neg (not_not.mpr hfan)]
      by_cases hempty : curve = []
      · rw [if_pos hempty]
        refine iff_of_true setRight_invalid fun _ _ body table hbody => ?_
        exact absurd (hempty.symm.trans hbody).symm (List.append_ne_nil_of_right_ne_nil _ (by decide))
      · rw [if_neg hempty]
        by_cases hcomma : ∃ body, curve = body ++ [',']
        · obtain ⟨body, rfl⟩ := hcomma
          rw [split_append_singleton, setPoints_right_iff hfanId (List.splitOn_ne_nil ',' body)]
          simp only [parsePoints_splitOn_iff hstrips]
          constructor
          · intro h _ _ body' table hbody htext
            obtain rfl := List.append_cancel_right hbody
            exact not_curveText_comma body table (h table htext)
          · intro h table htext
            exact absurd htext (h rfl hfan body table rfl)
        · have hcomma' : ∀ body, curve ≠ body ++ [','] := fun body h => hcomma ⟨body, h⟩
          rw [split_eq_splitOn hempty hcomma',
            setPoints_right_iff hfanId (List.splitOn_ne_nil ',' curve)]
          simp only [parsePoints_splitOn_iff hstrips]
          exact iff_of_true (fun _ h => h) fun _ _ body _ hbody => absurd hbody (hcomma' body)
    · rw [if_pos hfan]
      exact iff_of_true (setRight_missing hfan) fun _ h => absurd h hfan

/-- **A scheduler mode is set right** exactly if no comma follows it, and no time is too long. -/
theorem setScheduler_right_iff :
    SetRight (SchedulerCall options)
        (∃ tile, selectedTile options.tile = some tile ∧ ¬device.setsScheduler tile)
        (setScheduler device options) ↔
      SchedulerFits device options := by
  rw [setScheduler, SchedulerFits]
  cases htile : selectedTile options.tile with
  | none => exact iff_of_true setRight_invalid nofun
  | some tile =>
    dsimp only
    simp only [Option.some.injEq, forall_eq', ← parseScheduler_eq_throws_iff]
    have hset : ∀ mode, SetRight (SchedulerCall options)
        (∃ tile', tile = tile' ∧ ¬device.setsScheduler tile')
        (if ¬device.setsScheduler tile then .returns .unknown [] else device.call (mode.call tile)) ↔
          (device.setsScheduler tile → SchedulerText options.schedulerMode mode) := by
      intro mode
      by_cases hsets : device.setsScheduler tile
      · rw [if_neg (not_not.mpr hsets), setRight_call_iff, forall_prop_of_true hsets]
        constructor
        · rintro ⟨tile', mode', htile', htext, hcall⟩
          obtain rfl := Option.some.inj (htile.symm.trans htile')
          have hmode : mode = mode' := by
            cases mode <;> cases mode' <;> simp_all [SchedulerMode.call]
          rwa [hmode]
        · intro htext
          exact ⟨tile, mode, htile, htext, rfl⟩
      · rw [if_pos hsets]
        exact iff_of_true (setRight_missing ⟨tile, rfl, hsets⟩) fun h => absurd h hsets
    cases hparse : parseScheduler (split options.schedulerMode ',') with
    | invalid =>
      refine iff_of_true setRight_invalid ⟨nofun, fun _ body mode hbody htext => ?_⟩
      rw [hbody, split_append_singleton] at hparse
      exact absurd (hparse.symm.trans (parseScheduler_splitOn_iff.mpr htext)) nofun
    | throws => exact iff_of_false not_setRight_throws fun h => h.1 rfl
    | mode mode =>
      refine (hset mode).trans ?_
      by_cases hcomma : ∃ body, options.schedulerMode = body ++ [',']
      · obtain ⟨body, hbody⟩ := hcomma
        rw [hbody, split_append_singleton, parseScheduler_splitOn_iff] at hparse
        rw [hbody]
        constructor
        · intro h
          exact ⟨nofun, fun hsets => absurd (h hsets) (not_schedulerText_comma body mode)⟩
        · rintro ⟨-, h⟩ hsets
          exact absurd hparse (h hsets body mode rfl)
      · have hcomma' : ∀ body, options.schedulerMode ≠ body ++ [','] := fun body h => hcomma ⟨body, h⟩
        have hne : options.schedulerMode ≠ [] := by
          intro hempty
          rw [hempty, split_nil] at hparse
          cases hparse
        rw [split_eq_splitOn hne hcomma', parseScheduler_splitOn_iff] at hparse
        exact iff_of_true (fun _ => hparse)
          ⟨nofun, fun _ body _ hbody => absurd hbody (hcomma' body)⟩

/-- The power limit, with the rounding and the conversion to milliwatts. -/
theorem setLimit_right_iff {value rounded : Double} {rest : Text}
    (hstrtod : strtod options.powerLimit = some (value, rest)) (hread : arith.read value = some rounded)
    (hnegative : ¬rounded.IsNegative) :
    SetRight (PowerCall device options) missing (setLimit arith device options rounded) ↔
      ∃ watts, value = .finite watts ∧ arith.round (arith.round watts * 1000) < 0x100000000 ∧
        (device.powerExp = some true ∨ (powerLevel options.powerType).isSome →
          rest = [] ∧ 0 ≤ watts ∧ ⌊arith.round (arith.round watts * 1000)⌋ = ⌊watts * 1000⌋) := by
  rw [setLimit]
  cases value with
  | infinity negative =>
    obtain rfl := Option.some.inj hread
    exact iff_of_false not_setRight_undefined fun ⟨_, h, _⟩ => nomatch h
  | nan =>
    obtain rfl := Option.some.inj hread
    exact iff_of_false not_setRight_undefined fun ⟨_, h, _⟩ => nomatch h
  | finite watts =>
    rw [Arithmetic.read] at hread
    split at hread
    case isTrue => cases hread
    case isFalse =>
      obtain rfl := Option.some.inj hread
      have hnonneg : 0 ≤ arith.round (arith.round watts * 1000) :=
        arith.round_nonneg _ (mul_nonneg (not_lt.mp hnegative) (by norm_num))
      have htext : ∀ {limitMw}, PowerText options.powerLimit limitMw ↔
          rest = [] ∧ 0 ≤ watts ∧ (limitMw.toNat : ℤ) = ⌊watts * 1000⌋ := by
        intro limitMw
        rw [PowerText, hstrtod]
        constructor
        · rintro ⟨watts', hsome, htext⟩
          obtain ⟨hwatts, hrest⟩ := Prod.mk.inj (Option.some.inj hsome)
          obtain rfl := Double.finite.inj hwatts
          exact ⟨hrest, htext⟩
        · rintro ⟨rfl, htext⟩
          exact ⟨watts, rfl, htext⟩
      simp only [Double.finite.injEq, exists_eq_left']
      cases hlimit : wToMw arith (.finite (arith.round watts)) with
      | none =>
        exact iff_of_false not_setRight_undefined fun ⟨hlt, _⟩ =>
          absurd hlt (not_lt.mpr ((toUInt32_eq_none hnonneg).mp hlimit))
      | some limitMw =>
        obtain ⟨hlt, hfloor⟩ := (toUInt32_eq_some hnonneg).mp hlimit
        have hset : ∀ {call}, (PowerCall device options call ↔ PowerText options.powerLimit limitMw) →
            (SetRight (PowerCall device options) missing (device.call call) ↔
              rest = [] ∧ 0 ≤ watts ∧ ⌊arith.round (arith.round watts * 1000)⌋ = ⌊watts * 1000⌋) := by
          intro call hcall
          rw [setRight_call_iff, hcall, htext, hfloor]
        rw [and_iff_right hlt]
        by_cases hexp : device.powerExp = some true
        · dsimp only
          rw [if_pos hexp, forall_prop_of_true (.inl hexp)]
          refine hset ⟨?_, fun h => ⟨limitMw, h, by rw [if_pos hexp]⟩⟩
          rintro ⟨limitMw', h, hcall⟩
          rw [if_pos hexp] at hcall
          rwa [HalCall.powerExpLimit.inj hcall]
        · dsimp only
          rw [if_neg hexp]
          cases hlevel : powerLevel options.powerType with
          | none =>
            exact iff_of_true setRight_invalid fun h => h.elim (absurd · hexp) nofun
          | some level =>
            dsimp only
            rw [forall_prop_of_true (.inr rfl)]
            refine hset ⟨?_, fun h => ⟨limitMw, h, by rw [if_neg hexp]; exact ⟨level, hlevel, rfl⟩⟩⟩
            rintro ⟨limitMw', h, hcall⟩
            rw [if_neg hexp] at hcall
            obtain ⟨level', -, hcall⟩ := hcall
            rwa [(HalCall.limitsExt.inj hcall).2]

/-- **A power limit is set right** exactly if it fits. -/
theorem setPowerLimit_right_iff :
    SetRight (PowerCall device options) (¬device.power) (setPowerLimit arith device options) ↔
      PowerFits arith device options := by
  rw [setPowerLimit, PowerFits, Arithmetic.stod]
  cases hstrtod : strtod options.powerLimit with
  | none => exact iff_of_true setRight_invalid nofun
  | some read =>
    obtain ⟨value, rest⟩ := read
    dsimp only [Option.bind_some]
    cases hread : arith.read value with
    | none =>
      refine iff_of_true setRight_invalid fun value' rest' rounded hvalue hrounded => ?_
      obtain ⟨rfl, rfl⟩ := Prod.mk.inj (Option.some.inj hvalue)
      exact absurd (hread.symm.trans hrounded) nofun
    | some rounded =>
      have hfits : ∀ {P : Double → Text → Double → Prop},
          (∀ value' rest' rounded', some (value, rest) = some (value', rest') →
            arith.read value' = some rounded' → P value' rest' rounded') ↔ P value rest rounded := by
        intro P
        constructor
        · intro h
          exact h value rest rounded rfl hread
        · intro h value' rest' rounded' hvalue hrounded
          obtain ⟨rfl, rfl⟩ := Prod.mk.inj (Option.some.inj hvalue)
          obtain rfl := Option.some.inj (hread.symm.trans hrounded)
          exact h
      rw [hfits]
      dsimp only
      by_cases hnegative : rounded.IsNegative
      · rw [if_pos hnegative]
        exact iff_of_true setRight_invalid fun h => absurd hnegative h
      · rw [if_neg hnegative, forall_prop_of_true hnegative]
        by_cases hpower : device.power
        · rw [if_neg (not_not.mpr hpower), forall_prop_of_true hpower]
          exact setLimit_right_iff hstrtod hread hnegative
        · rw [if_pos hpower]
          exact iff_of_true (setRight_missing hpower) fun h => absurd h hpower

/-- **Each text is set as it says**, and other texts are refused, exactly if a power limit fits, no time is
too long, and no comma is at the end. -/
theorem configSetters_iff (arith : Arithmetic) (device : ConfigDevice) (options : SetterOptions) :
    (SetRight (PowerCall device options) (¬device.power) (setPowerLimit arith device options) ↔
      PowerFits arith device options) ∧
    (SetRight (SchedulerCall options)
        (∃ tile, selectedTile options.tile = some tile ∧ ¬device.setsScheduler tile)
        (setScheduler device options) ↔ SchedulerFits device options) ∧
    (SetRight (CurveCall options percentCurve options.fanCurve) (¬device.fan)
        (setFanCurve device options) ↔ CurveFits device options percentCurve options.fanCurve) ∧
    (SetRight (CurveCall options rpmCurve options.fanCurveRpm) (¬device.fan)
        (setFanCurveRpm device options) ↔ CurveFits device options rpmCurve options.fanCurveRpm) :=
  ⟨setPowerLimit_right_iff, setScheduler_right_iff,
    setCurve_right_iff strips_percentCurve options.fanCurve,
    setCurve_right_iff strips_rpmCurve options.fanCurveRpm⟩

/-- What follows a power limit is dropped, and the exception for a time of twenty digits escapes. -/
theorem configSetters_not_right :
    ¬SetRight (PowerCall ⟨true, none, true, true, true, fun _ => .success⟩ { powerLimit := "200abc".toList })
        (¬true) (setPowerLimit default ⟨true, none, true, true, true, fun _ => .success⟩
          { powerLimit := "200abc".toList }) ∧
      setScheduler ⟨true, none, true, true, true, fun _ => .success⟩
        { schedulerMode := "timeout,99999999999999999999".toList } = .throws := by
  constructor
  · intro hright
    have hstrtod : strtod "200abc".toList = some (.finite 200, "abc".toList) := by decide +kernel
    obtain ⟨watts, -, -, hfits⟩ := setPowerLimit_right_iff.mp hright (.finite 200) "abc".toList
      (.finite 200) hstrtod (by decide +kernel) (by decide +kernel) rfl
    exact absurd (hfits (.inr rfl)).1 (by decide)
  · have hparse : parseScheduler (split "timeout,99999999999999999999".toList ',') = .throws := by
      decide +kernel
    rw [setScheduler, hparse]
    rfl

end

end ConfigSetters

end XpuManager
