import Mathlib.Data.List.Sort
import Mathlib.Data.Prod.Lex
import Mathlib.Data.String.Basic
import XpuManager.Lib.KeepWorse
import XpuManager.Xpumd.HealthMapping

/-! # Translating metrics into device health

The device info exporter (`exporter/intelxpuinfo/translator.go`) goes once over a batch of metrics
and collects, for each device, its metadata, the status of its health domains and its memory. A map
of the source is a map here; where the source sorts keys before it ranges over a map, so does the
model. `toInt64` is the conversion of a `float64`. -/

namespace XpuManager

variable {F : Type}

/-! ## The response -/

/-- The PCI address of a device, with its IDs. -/
structure PciInfo where
  bdf : String
  deviceId : String
  vendorId : String
  deriving DecidableEq

/-- A firmware as it is reported. -/
structure FirmwareInfo where
  name : String
  subdeviceId : String
  version : String
  deriving DecidableEq

/-- The memory of a type as it is reported. -/
structure MemoryInfo where
  type : String
  subdeviceId : String
  size : UInt64
  deriving DecidableEq

/-- A device as it is reported. -/
structure DeviceInformation where
  uuid : String
  model : String
  pci : Option PciInfo
  firmwares : List FirmwareInfo
  memory : List MemoryInfo
  deriving DecidableEq

/-- Status of a health domain. -/
structure HealthStatus where
  /-- Name of the health domain. -/
  name : String
  severity : SeverityLevel
  /-- Short reason for the status. -/
  reason : String
  /-- Detailed message about the status. -/
  message : String
  deriving DecidableEq

/-- A device with the health of its domains. -/
structure DeviceHealth where
  info : DeviceInformation
  health : List HealthStatus
  deriving DecidableEq

/-- The key of a status: the health domain and, where all states are shown, the state. -/
structure HealthStatusKey where
  domain : String
  state : String
  deriving DecidableEq

/-- Keys are sorted by domain and then by state. -/
instance : LinearOrder HealthStatusKey :=
  LinearOrder.lift' (fun k => toLex (k.domain, k.state)) fun a b h => by
    cases a
    cases b
    simpa using h

/-- The health statuses of a device. -/
abbrev HealthStatuses := AList fun _ : HealthStatusKey => HealthStatus

/-- What has been collected so far. -/
structure MetricsTranslator where
  resp : AList fun _ : String => DeviceHealth
  health : AList fun _ : String => HealthStatuses
  memory : AList fun _ : String => List MemoryInfo

def newMetricsTranslator : MetricsTranslator := ⟨∅, ∅, ∅⟩

/-! ## Metadata -/

/-- Split at the first separators into at most `n` parts. -/
def splitN (sep : Char) : Nat → List Char → List (List Char)
  | 0, _ => []
  | 1, s => [s]
  | n + 2, s =>
    match s.span (· ≠ sep) with
    | (part, []) => [part]
    | (part, _ :: rest) => part :: splitN sep (n + 1) rest

/-- The firmwares of a version string; entries of another form are skipped. -/
def parseFirmwares (fwVersionStr : String) : List FirmwareInfo :=
  (fwVersionStr.toList.splitOn ',').filterMap fun fwEntry =>
    if fwEntry = [] then none
    else match splitN ':' 4 fwEntry with
      | [_, name, subdeviceId, version] =>
        some ⟨String.ofList name, String.ofList subdeviceId, String.ofList version⟩
      | _ => none

/-- The metadata of one data point; points without a hardware ID are skipped. -/
def updateMetadata (t : MetricsTranslator) (dp : NumberDataPoint F) : MetricsTranslator :=
  let attrs := dp.attributes
  let id := attrs.getStr "hw.id"
  if id = "" then t
  else
    let resp := (t.resp.lookup id).getD ⟨⟨"", "", none, [], []⟩, []⟩
    let info := { resp.info with
      uuid := id
      model := attrs.getStr "hw.model"
      pci := some ⟨attrs.getStr "pci.bdf", attrs.getStr "pci.device_id",
        attrs.getStr "pci.vendor_id"⟩
      firmwares := parseFirmwares (attrs.getStr "hw.firmware_version") }
    { t with resp := t.resp.insert id { resp with info := info } }

/-! ## Health -/

/-- The `hw.parent` of a data point if it has one, otherwise its `hw.id`. -/
def getParentID (attrs : AttrMap) : String :=
  let id := attrs.getStr "hw.parent"
  if id = "" then attrs.getStr "hw.id" else id

/-- Enter the status of one active state into the statuses of its device. -/
def updateDeviceHealthStatus (mappings : List HwStatusMapping) (statuses : HealthStatuses)
    (attrs : AttrMap) : HealthStatuses :=
  match matchHwStatusMapping mappings attrs with
  | none => statuses
  | some m =>
    match m.healthDomainFor attrs with
    | none => statuses
    | some healthDomain =>
      let hwState := attrs.getStr "hw.state"
      match m.healthStatusFor hwState with
      | none => statuses
      | some sm =>
        let reason := if sm.reason = "" then hwState else sm.reason
        let key : HealthStatusKey := ⟨healthDomain, if m.showAllStates then hwState else ""⟩
        match statuses.lookup key with
        | none => statuses.insert key ⟨healthDomain, sm.severityLevel, reason, sm.message⟩
        | some status =>
          if sm.severityLevel ≠ .ok then
            -- the worst severity level of several statuses of one domain
            if status.severity < sm.severityLevel then
              statuses.insert key { status with
                severity := sm.severityLevel
                reason := reason
                message := sm.message }
            else statuses
          else statuses

/-- The health status of one data point: its value must be an integer other than zero. -/
def updateHealthStatus (mappings : List HwStatusMapping) (t : MetricsTranslator)
    (dp : NumberDataPoint F) : MetricsTranslator :=
  match dp.value with
  | .int v =>
    if v = 0 then t
    else
      let id := getParentID dp.attributes
      if id = "" then t
      else
        let health := (t.health.lookup id).getD ∅
        { t with health :=
            t.health.insert id (updateDeviceHealthStatus mappings health dp.attributes) }
  | _ => t

/-! ## Memory -/

/-- Add a size to the entry of its type and subdevice, or make a new entry. -/
def aggregateMemoryInfo (memType subdeviceId : String) (size : UInt64) :
    List MemoryInfo → List MemoryInfo
  | [] => [⟨memType, subdeviceId, size⟩]
  | mem :: memList =>
    if mem.type = memType ∧ mem.subdeviceId = subdeviceId then
      { mem with size := mem.size + size } :: memList
    else mem :: aggregateMemoryInfo memType subdeviceId size memList

/-- The memory size of one data point; only memory on the device counts. -/
def updateMemoryInfo (toInt64 : F → Int64) (t : MetricsTranslator) (dp : NumberDataPoint F) :
    MetricsTranslator :=
  let attrs := dp.attributes
  if attrs.getStr "hw.memory.location" ≠ "device" then t
  else
    let id := getParentID attrs
    if id = "" then t
    else
      let aggregate (size : Int64) : MetricsTranslator :=
        if size < 0 then t
        else
          let memList := aggregateMemoryInfo (attrs.getStr "hw.memory.type")
            (attrs.getStr "subdevice_id") size.toUInt64 ((t.memory.lookup id).getD [])
          { t with memory := t.memory.insert id memList }
      match dp.value with
      | .int v => aggregate v
      | .double v => aggregate (toInt64 v)
      | .empty => t

/-! ## Translation -/

/-- One metric: the names that matter, for metrics with number data points. -/
def processMetric (toInt64 : F → Int64) (mappings : List HwStatusMapping)
    (t : MetricsTranslator) (metric : Metric F) : MetricsTranslator :=
  match metric.getNumberDatapoints with
  | none => t
  | some dps =>
    if metric.name = "hw.gpu.info" then dps.foldl updateMetadata t
    else if metric.name = "hw.status" then dps.foldl (updateHealthStatus mappings) t
    else if metric.name = "hw.memory.size" then dps.foldl (updateMemoryInfo toInt64) t
    else t

/-- The statuses of a device, sorted by their keys. -/
def sortedStatuses (health : HealthStatuses) : List HealthStatus :=
  (health.keys.insertionSort (· ≤ ·)).filterMap health.lookup

/-- The turn of a loop over collected data for one device: one without metadata is skipped. -/
def fillDevice {V : Type} (fill : V → DeviceHealth → DeviceHealth)
    (resp : AList fun _ : String => DeviceHealth) (entry : (_ : String) × V) :
    AList fun _ : String => DeviceHealth :=
  match resp.lookup entry.1 with
  | none => resp
  | some r => resp.insert entry.1 (fill entry.2 r)

/-- Append the statuses of each device. -/
def fillHealthData (t : MetricsTranslator) : MetricsTranslator :=
  let fill := fillDevice fun statuses r => { r with health := r.health ++ sortedStatuses statuses }
  { t with resp := t.health.entries.foldl fill t.resp }

/-- Memory is sorted by type and subdevice. -/
def memoryLe (a b : MemoryInfo) : Prop :=
  toLex (a.type, a.subdeviceId) ≤ toLex (b.type, b.subdeviceId)

instance : DecidableRel memoryLe := fun a b =>
  inferInstanceAs (Decidable (toLex (a.type, a.subdeviceId) ≤ toLex (b.type, b.subdeviceId)))

/-- Set the memory of each device. -/
def fillMemoryData (t : MetricsTranslator) : MetricsTranslator :=
  let fill := fillDevice fun memList r =>
    { r with info := { r.info with memory := memList.insertionSort memoryLe } }
  { t with resp := t.memory.entries.foldl fill t.resp }

/-- What the loop over all metrics of a batch collects. -/
def processAll (toInt64 : F → Int64) (mappings : List HwStatusMapping) (md : Metrics F) :
    MetricsTranslator :=
  md.foldl (fun t rm => rm.scopeMetrics.foldl (fun t sm =>
    sm.metrics.foldl (processMetric toInt64 mappings) t) t) newMetricsTranslator

/-- The response: the devices with metadata, sorted by ID. -/
def translate (toInt64 : F → Int64) (mappings : List HwStatusMapping) (md : Metrics F) :
    List DeviceHealth :=
  let t := fillMemoryData (fillHealthData (processAll toInt64 mappings md))
  (t.resp.keys.insertionSort (· ≤ ·)).filterMap t.resp.lookup

end XpuManager
