import XpuManager.Xpumd.EventRegister
import XpuManager.Xpumd.SysmanNames
import XpuManager.Xpumd.Translator

/-! # Device events

The receiver makes a log record of each event that a driver reports for a device
(`receiver/intelxpu/sysman/events.go`), and the exporter makes an event for its clients of each such record
(`exporter/intelxpuinfo/events_translator.go`). -/

namespace XpuManager

open FlagBits

/-! ## Names and severities -/

/-- `_EventTypeFlag_map`. -/
def eventTypeFlagMap : List (EventTypeFlags × String) :=
  [(1, "DEVICE_DETACH"), (2, "DEVICE_ATTACH"), (4, "DEVICE_SLEEP_STATE_ENTER"),
    (8, "DEVICE_SLEEP_STATE_EXIT"), (16, "FREQ_THROTTLED"), (32, "ENERGY_THRESHOLD_CROSSED"),
    (64, "TEMP_CRITICAL"), (128, "TEMP_THRESHOLD1"), (256, "TEMP_THRESHOLD2"), (512, "MEM_HEALTH"),
    (1024, "FABRIC_PORT_HEALTH"), (2048, "PCI_LINK_HEALTH"), (4096, "RAS_CORRECTABLE_ERRORS"),
    (8192, "RAS_UNCORRECTABLE_ERRORS"), (16384, "DEVICE_RESET_REQUIRED"),
    (32768, "SURVIVABILITY_MODE_DETECTED"), (2147483647, "FORCE_UINT32")]

/-- `EventTypeFlag.String`. -/
def eventTypeString (flag : EventTypeFlags) : String :=
  (eventTypeFlagMap.lookup flag).getD ("EventTypeFlag(" ++ toString flag.toNat ++ ")")

/-- `plog.SeverityNumber`, as far as the code names its values. -/
abbrev SeverityNumber := Int

def severityNumberTrace : SeverityNumber := 1
def severityNumberDebug : SeverityNumber := 5
def severityNumberInfo : SeverityNumber := 9
def severityNumberWarn : SeverityNumber := 13
def severityNumberError : SeverityNumber := 17
def severityNumberFatal : SeverityNumber := 21

/-- `eventSeverity`. -/
def eventSeverity (flag : EventTypeFlags) : SeverityNumber :=
  if flag ∈ [8192, 64, 1, 16384, 32768] then severityNumberError
  else if flag ∈ [4096, 16, 128, 256, 512, 1024, 2048, 32] then severityNumberWarn
  else severityNumberInfo

inductive EventSeverityLevel where
  | unspecified
  | trace
  | debug
  | info
  | warn
  | error
  | fatal
  deriving DecidableEq

/-- `otelSevToProto`. -/
def otelSevToProto (sev : SeverityNumber) : EventSeverityLevel :=
  if severityNumberFatal ≤ sev then .fatal
  else if severityNumberError ≤ sev then .error
  else if severityNumberWarn ≤ sev then .warn
  else if severityNumberInfo ≤ sev then .info
  else if severityNumberDebug ≤ sev then .debug
  else if severityNumberTrace ≤ sev then .trace
  else .unspecified

/-! ## The receiver -/

def eventNamePrefix : String := "com.intel.gpu."

/-- The attributes of a device that its events carry. -/
structure EventAttributes where
  hwID : String
  hwName : String
  hwModel : String
  pciBDF : String
  pciDeviceID : String
  pciVendorID : String

/-- A log record, as far as it is read again. -/
structure LogRecord where
  severityNumber : SeverityNumber
  eventName : String
  body : Value
  attributes : AttrMap

/-- `plog.Logs`: the records of the scopes of the resources. -/
abbrev Logs := List (List (List LogRecord))

/-- `appendDeviceEventLogs`. -/
def deviceEventLogs (attrs : EventAttributes) (flags : EventTypeFlags) : List LogRecord :=
  (flagsToBits flags).map fun flag =>
    { severityNumber := eventSeverity flag
      eventName := eventNamePrefix ++ eventTypeString flag
      body := .string (eventTypeString flag)
      attributes := [("hw.id", attrs.hwID), ("hw.name", attrs.hwName), ("hw.model", attrs.hwModel),
        ("pci.bdf", attrs.pciBDF), ("pci.device_id", attrs.pciDeviceID),
        ("pci.vendor_id", attrs.pciVendorID)].foldl (fun m kv => AttrMap.putStr m kv.1 kv.2) [] }

/-- What `EventListenEx` returns. -/
structure ListenResult where
  deviceCount : UInt32
  /-- The flags of each device. -/
  deviceEvents : List EventTypeFlags
  failed : Bool

/-- The logs of one round, if there are any. -/
def listen (devices : List EventAttributes) (r : ListenResult) : Option Logs :=
  if r.failed then none
  else if r.deviceCount = 0 then none
  else some [[(devices.zip r.deviceEvents).flatMap fun d =>
    if d.2 ≠ 0 then deviceEventLogs d.1 d.2 else []]]

/-! ## The exporter -/

structure EventDevice where
  uuid : String
  model : String
  pci : PciInfo
  deriving DecidableEq

/-- An event as the clients are sent it. -/
structure DeviceEventResponse where
  device : EventDevice
  reason : String
  message : String
  severity : EventSeverityLevel
  deriving DecidableEq

/-- `strings.TrimPrefix`. -/
def trimPrefix (s pre : String) : String :=
  if pre.toList <+: s.toList then String.ofList (s.toList.drop pre.toList.length) else s

/-- `translateLogRecord`. -/
def translateLogRecord (lr : LogRecord) : Option DeviceEventResponse :=
  if lr.eventName = "" then none
  else
    let attrs := lr.attributes
    let id := attrs.getStr "hw.id"
    if id = "" then none
    else some
      { device :=
          { uuid := id
            model := attrs.getStr "hw.model"
            pci :=
              { bdf := attrs.getStr "pci.bdf"
                deviceId := attrs.getStr "pci.device_id"
                vendorId := attrs.getStr "pci.vendor_id" } }
        reason := trimPrefix lr.eventName.toLower eventNamePrefix
        message := lr.body.str
        severity := otelSevToProto lr.severityNumber }

/-- `translateEvents`. -/
def translateEvents (ld : Logs) : List DeviceEventResponse :=
  ld.flatMap fun rl => rl.flatMap fun sl => sl.filterMap translateLogRecord

/-! ## From flags to events -/

/-- The event of one flag of a device. -/
def deviceEvent (attrs : EventAttributes) (flag : EventTypeFlags) : DeviceEventResponse where
  device :=
    { uuid := attrs.hwID
      model := attrs.hwModel
      pci := ⟨attrs.pciBDF, attrs.pciDeviceID, attrs.pciVendorID⟩ }
  reason := (eventTypeString flag).toLower
  message := eventTypeString flag
  severity := otelSevToProto (eventSeverity flag)

/-- The events of the flags of some devices, in their order; a device without an ID has none. -/
def deviceEvents (devices : List EventAttributes) (flags : List EventTypeFlags) :
    List DeviceEventResponse :=
  (devices.zip flags).flatMap fun d =>
    if d.1.hwID = "" then [] else (flagsToBits d.2).map (deviceEvent d.1)

theorem trimPrefix_append (pre s : String) : trimPrefix (pre ++ s) pre = s := by
  rw [trimPrefix, String.toList_append, if_pos (List.prefix_append _ _), List.drop_left,
    String.ofList_toList]

/-- The reason is the name of the event in small letters. -/
theorem trimPrefix_eventName (name : String) :
    trimPrefix (eventNamePrefix ++ name).toLower eventNamePrefix = name.toLower := by
  have hlower : eventNamePrefix.toLower = eventNamePrefix := by
    rw [← String.toList_inj, Sysman.toList_toLower]
    decide
  rw [Sysman.toLower_append, hlower, trimPrefix_append]

theorem eventNamePrefix_ne_empty : eventNamePrefix ≠ "" := by decide

/-- The records of one device. -/
theorem filterMap_deviceEventLogs (attrs : EventAttributes) (flags : EventTypeFlags) :
    (deviceEventLogs attrs flags).filterMap translateLogRecord =
      if attrs.hwID = "" then [] else (flagsToBits flags).map (deviceEvent attrs) := by
  rw [deviceEventLogs, List.filterMap_map]
  split
  case isTrue hid =>
    refine List.filterMap_eq_nil_iff.mpr fun flag _ => ?_
    simp [translateLogRecord, AttrMap.getStr, AttrMap.get_putStr, Value.str, hid]
  case isFalse hid =>
    rw [← List.filterMap_eq_map]
    refine List.filterMap_congr fun flag _ => ?_
    simp [translateLogRecord, AttrMap.getStr, AttrMap.get_putStr, Value.str, hid, deviceEvent,
      eventNamePrefix_ne_empty, trimPrefix_eventName]

/-- **One event for each flag.** The clients are told the flags that a driver reports for devices with an
ID, one event each, in the order of the devices and of the flags. -/
theorem translateEvents_listen {devices : List EventAttributes} {r : ListenResult} {ld : Logs}
    (h : listen devices r = some ld) : translateEvents ld = deviceEvents devices r.deviceEvents := by
  rw [listen] at h
  split at h
  case isTrue => cases h
  case isFalse =>
    split at h
    case isTrue => cases h
    case isFalse =>
      obtain rfl := Option.some.inj h
      rw [translateEvents, deviceEvents, List.flatMap_singleton, List.flatMap_singleton,
        List.filterMap_flatMap]
      refine List.flatMap_congr fun d _ => ?_
      split
      case isTrue => rw [filterMap_deviceEventLogs]
      case isFalse hzero =>
        have hnone : flagsToBits d.2 = [] := by
          rw [not_not.mp hzero]
          exact flagsToBits_zero
        rw [hnone, List.map_nil, ite_self]
        rfl

end XpuManager
