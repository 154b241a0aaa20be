import XpuManager.Ial.MetricsRegistry
import XpuManager.Lib.Csv

/-! # The lines of a dump

The dump command and the query write one line for each device and sample, in CSV form
(`ial/cmn/cmd_dump.cpp`, `utility/table/table_builder.cpp`). -/

namespace XpuManager

/-! ## Columns -/

namespace QueryMetric

/-- The units of the metrics that have one. -/
def units : List (Text × List Text) :=
  [("C".toList, ["temperature.gpu".toList, "temperature.memory".toList]),
    ("%".toList,
      ["utilization.gpu".toList, "utilization.compute".toList, "utilization.render".toList,
        "utilization.media".toList, "utilization.copy".toList, "utilization.memory".toList,
        "eu.active".toList, "eu.stall".toList, "eu.idle".toList, "fan.speed".toList,
        "memory.bandwidth.utilization".toList]),
    ("MB/s".toList, ["pcie.tx.throughput".toList, "pcie.rx.throughput".toList]),
    ("kB/s".toList,
      ["pcie.rx.throughput.kbs".toList, "pcie.tx.throughput.kbs".toList, "memory.read.bandwidth".toList,
        "memory.write.bandwidth".toList]),
    ("MiB".toList, ["memory.total".toList, "memory.used".toList, "memory.free".toList]),
    ("W".toList,
      ["power.draw".toList, "power.draw.gpu".toList, "power.limit".toList, "power.max_limit".toList]),
    ("J".toList, ["energy.consumed".toList]),
    ("MHz".toList,
      ["clocks.current.graphics".toList, "clocks.current.media".toList, "clocks.max.graphics".toList,
        "clocks.max.media".toList])]

/-- The unit of a column; most have none. -/
def unit (f : QueryMetric) : Text := ((units.find? fun entry => f.name ∈ entry.2).map Prod.fst).getD []

end QueryMetric

/-- What a getter makes its text of. -/
inductive MetricKind where
  /-- Formatted numbers and fixed words. -/
  | plain
  /-- A text of the driver or the firmware. -/
  | driverText
  | throttleReason
  deriving DecidableEq

/-- A text without commas. -/
abbrev PlainText := { text : Text // ',' ∉ text }

/-- What a getter that succeeds is answered. -/
def MetricKind.Answer : MetricKind → Type
  | plain => PlainText
  | driverText => Text
  | throttleReason => UInt32

/-- The reasons for throttling, in the order in which they are named. -/
def throttleReasonTable : List (UInt32 × Text) :=
  [(8, "Thermal".toList), (1, "Power".toList), (2, "PowerBurst".toList), (4, "Current".toList),
    (32, "SW".toList), (64, "HW".toList), (128, "Voltage".toList), (256, "ThermalAlert".toList),
    (512, "PowerAlert".toList)]

/-- The names of the flags that are set. -/
def throttleReasons (flags : UInt32) : List Text :=
  (throttleReasonTable.filter fun entry => flags &&& entry.1 ≠ 0).map Prod.snd

/-- One more name behind a comma. -/
def addReason (resultStr name : Text) : Text :=
  (if resultStr ≠ [] then resultStr ++ [','] else resultStr) ++ name

/-- `throttleReasonGetter`, once the flags are read. -/
def throttleReasonText (flags : UInt32) : Text :=
  let resultStr := (throttleReasons flags).foldl addReason []
  if resultStr = [] then "None".toList else resultStr

def MetricKind.text : (kind : MetricKind) → kind.Answer → Text
  | plain, text => text.1
  | driverText, text => text
  | throttleReason, flags => throttleReasonText flags

/-- The getters that copy a text, and the one for the reasons of throttling. -/
def QueryMetric.kind (f : QueryMetric) : MetricKind :=
  if f.name ∈ ["name".toList, "serial".toList, "driver_version".toList, "vbios_version".toList,
      "pci.sub_device_id".toList] then
    .driverText
  else if f.name = "clocks.throttle.reason".toList then .throttleReason
  else .plain

/-- Resolved fields: some metrics of the registry. -/
structure DumpFields where
  fields : List QueryMetric
  nonempty : fields ≠ []
  known : fields ⊆ getQueryMetrics

/-- A device at the time of a sample. -/
structure DeviceSample where
  index : Nat
  /-- `getTimestamp`, with the date or without it. -/
  timestamp : Bool → PlainText
  /-- What the getters are answered; some fail. -/
  answer : (f : QueryMetric) → Option f.kind.Answer

def notAvailableText : Text := "N/A".toList

/-- The value of a metric. -/
def DeviceSample.value (sample : DeviceSample) (f : QueryMetric) : Text :=
  ((sample.answer f).map f.kind.text).getD notAvailableText

/-! ## Lines -/

/-- The options of the sink. -/
structure DumpOptions where
  showDate : Bool := false
  useFile : Bool := false
  prependTimestamp : Bool := true
  prependDeviceId : Bool := true
  noheader : Bool := false
  nounits : Bool := false

/-- The name of a column, with its unit. -/
def columnLabel (nounits : Bool) (f : QueryMetric) : Text :=
  if ¬nounits ∧ f.unit ≠ [] then f.name ++ " (".toList ++ f.unit ++ ")".toList else f.name

/-- `TableBuilder::headerLine` in CSV form. -/
def csvHeaderLine (columns : List Text) : Text := Csv.join columns

/-- `TableBuilder::rowLine` in CSV form: one cell for each column. An empty cell stays empty. -/
def csvRowLine (columns values : List Text) : Text :=
  Csv.join (columns.mapIdx fun i _ => values.getD i [])

/-- The columns: two that are prepended, and the fields. -/
def DumpOptions.columns (options : DumpOptions) (fields : List QueryMetric) : List Text :=
  (if options.prependTimestamp then ["Timestamp".toList] else []) ++
    (if options.prependDeviceId then ["DeviceId".toList] else []) ++
    fields.map (columnLabel options.nounits)

/-- The values before those of the fields. -/
def DumpOptions.prepended (options : DumpOptions) (timestamp : Bool → PlainText) (index : Nat) :
    List Text :=
  (if options.prependTimestamp then [(timestamp options.showDate).1] else []) ++
    if options.prependDeviceId then [(toString index).toList] else []

/-- The sink and the lines that it has written, to the file or to the terminal. -/
structure DumpOutput where
  options : DumpOptions
  row : List Text := []
  alignedFormatter : List Text := []
  headerEmitted : Bool := false
  currentDev : Nat := 0
  written : List Text := []

namespace DumpOutput

/-- A line is written. -/
def emit (out : DumpOutput) (line : Text) : DumpOutput := { out with written := out.written ++ [line] }

/-- The columns are set, and the header line is written if there is to be one. -/
def onBegin (fields : List QueryMetric) (out : DumpOutput) : DumpOutput :=
  let alignedFormatter := out.options.columns fields
  let emitted := { out with alignedFormatter, headerEmitted := true }
  if out.options.noheader ∨ out.headerEmitted ∨ out.options.useFile then emitted
  else emitted.emit (csvHeaderLine alignedFormatter)

/-- A row begins. -/
def onBeginDevice (index : Nat) (out : DumpOutput) : DumpOutput :=
  { out with currentDev := index, row := [] }

/-- A value is put behind those of the row. -/
def onMetric (val : Text) (out : DumpOutput) : DumpOutput := { out with row := out.row ++ [val] }

/-- The row is written. -/
def onEndDevice (timestamp : Bool → PlainText) (out : DumpOutput) : DumpOutput :=
  let rowValues := out.options.prepended timestamp out.currentDev ++ out.row
  out.emit (csvRowLine out.alignedFormatter rowValues)

/-- The metrics of one device. -/
def emitDevice (fields : List QueryMetric) (out : DumpOutput) (sample : DeviceSample) : DumpOutput :=
  (fields.foldl (fun out f => out.onMetric (sample.value f)) (out.onBeginDevice sample.index)).onEndDevice
    sample.timestamp

/-- One sample of all devices. -/
def emitMetrics (fields : List QueryMetric) (out : DumpOutput) (devices : List DeviceSample) :
    DumpOutput :=
  devices.foldl (emitDevice fields) (out.onBegin fields)

end DumpOutput

/-- The header that `run` writes. -/
def fileHeader (nounits : Bool) (fields : List QueryMetric) : Text :=
  fields.foldl (fun header f =>
    header ++ if ¬nounits ∧ f.unit ≠ [] then ", ".toList ++ f.name ++ " (".toList ++ f.unit ++ ")".toList
      else ", ".toList ++ f.name) "Timestamp, DeviceId".toList

/-- The lines of a run over some samples. Only the dump command writes to a file, with a header before
the first sample. -/
def dumpLines (options : DumpOptions) (fields : List QueryMetric) (samples : List (List DeviceSample)) :
    List Text :=
  let header := if options.useFile ∧ ¬options.noheader then [fileHeader options.nounits fields] else []
  (samples.foldl (DumpOutput.emitMetrics fields) { options, written := header }).written

/-! ## What lines say -/

/-- The values of the columns. -/
def DumpOptions.values (options : DumpOptions) (fields : List QueryMetric) (sample : DeviceSample) :
    List Text :=
  options.prepended sample.timestamp sample.index ++ fields.map sample.value

/-- The header, which the sink writes with the first sample. -/
def headerLines (options : DumpOptions) (fields : List QueryMetric) (samples : List (List DeviceSample)) :
    List Text :=
  if options.noheader then []
  else if options.useFile then [fileHeader options.nounits fields]
  else if samples = [] then [] else [csvHeaderLine (options.columns fields)]

/-- Between its commas, a line has as many cells as the header, and they are the values of the columns. -/
def LineRight (options : DumpOptions) (fields : List QueryMetric) (line : Text) (sample : DeviceSample) :
    Prop :=
  (Csv.cells line).length = (Csv.cells (csvHeaderLine (options.columns fields))).length ∧
    Csv.cells line = options.values fields sample

/-- The dump command prepends both columns; only this command writes to a file. -/
def DumpOptions.forFile (options : DumpOptions) : DumpOptions :=
  { options with prependTimestamp := true, prependDeviceId := true }

/-- Behind the header there is a right line for each device of each sample. -/
def LinesRight (options : DumpOptions) (fields : List QueryMetric) (samples : List (List DeviceSample)) :
    Prop :=
  ∃ lines, dumpLines options fields samples = headerLines options fields samples ++ lines ∧
    List.Forall₂ (LineRight options fields) lines samples.flatten

/-- A text without commas, or no more than one reason for throttling. -/
def MetricKind.CommaFree : (kind : MetricKind) → kind.Answer → Prop
  | plain => fun _ => True
  | driverText => fun text : Text => ',' ∉ text
  | throttleReason => fun flags : UInt32 => (throttleReasons flags).length ≤ 1

/-- No getter is answered with a comma, and none finds two reasons for throttling. -/
def NoCommas (fields : List QueryMetric) (samples : List (List DeviceSample)) : Prop :=
  ∀ sample ∈ samples.flatten, ∀ f ∈ fields, ∀ answer, sample.answer f = some answer →
    f.kind.CommaFree answer

/-! ## Values -/

section

variable {flags : UInt32} {names : List Text} {name text : Text}

theorem comma_mem_addReason (h : ',' ∈ text ∨ text ≠ []) : ',' ∈ addReason text name := by
  refine List.mem_append_left _ ?_
  by_cases hne : text ≠ []
  · rw [if_pos hne]
    exact List.mem_append_right _ (List.mem_singleton_self _)
  · exact absurd (h.resolve_right hne) (not_not.mp hne ▸ List.not_mem_nil)

theorem comma_mem_foldl_addReason (h : ',' ∈ text) : ',' ∈ names.foldl addReason text := by
  induction names generalizing text with
  | nil => exact h
  | cons name names ih => exact ih (comma_mem_addReason (.inl h))

theorem throttleReasonTable_plain :
    ∀ entry ∈ throttleReasonTable, ',' ∉ entry.2 ∧ entry.2 ≠ [] := by decide

theorem mem_throttleReasons (h : name ∈ throttleReasons flags) : ',' ∉ name ∧ name ≠ [] := by
  obtain ⟨entry, hentry, rfl⟩ := List.mem_map.mp h
  exact throttleReasonTable_plain entry (List.mem_of_mem_filter hentry)

/-- The names of two reasons have a comma between them. -/
theorem comma_notMem_throttleReasonText_iff :
    ',' ∉ throttleReasonText flags ↔ (throttleReasons flags).length ≤ 1 := by
  have hnames : ∀ name ∈ throttleReasons flags, ',' ∉ name ∧ name ≠ [] := fun name => mem_throttleReasons
  rw [throttleReasonText]
  cases hreasons : throttleReasons flags with
  | nil => exact iff_of_true (by decide) (Nat.zero_le 1)
  | cons name rest =>
    rw [hreasons, List.forall_mem_cons] at hnames
    cases rest with
    | nil =>
      refine iff_of_true ?_ le_rfl
      change ',' ∉ if name = [] then _ else name
      rw [if_neg hnames.1.2]
      exact hnames.1.1
    | cons name' rest =>
      have hcomma : ',' ∈ rest.foldl addReason (addReason name name') :=
        comma_mem_foldl_addReason (comma_mem_addReason (.inr hnames.1.2))
      refine iff_of_false (fun hnone => hnone ?_) (by simp)
      change ',' ∈ if rest.foldl addReason (addReason name name') = [] then _ else _
      rw [if_neg (List.ne_nil_of_mem hcomma)]
      exact hcomma

theorem comma_notMem_text_iff (kind : MetricKind) (answer : kind.Answer) :
    ',' ∉ kind.text answer ↔ kind.CommaFree answer := by
  cases kind with
  | plain => exact iff_of_true answer.2 trivial
  | driverText => exact Iff.rfl
  | throttleReason => exact comma_notMem_throttleReasonText_iff

theorem comma_notMem_value_iff (sample : DeviceSample) (f : QueryMetric) :
    ',' ∉ sample.value f ↔ ∀ answer, sample.answer f = some answer → f.kind.CommaFree answer := by
  rw [DeviceSample.value]
  cases hanswer : sample.answer f with
  | none =>
    have hnone : ',' ∉ notAvailableText := by decide
    exact iff_of_true hnone nofun
  | some answer => simp [comma_notMem_text_iff]

end

/-! ## Lines -/

section

variable {options : DumpOptions} {fields : List QueryMetric} {samples : List (List DeviceSample)}
  {sample : DeviceSample}

theorem unit_plain (f : QueryMetric) : ',' ∉ f.unit := by
  have hunits : ∀ entry ∈ QueryMetric.units, ',' ∉ entry.1 := by decide
  rw [QueryMetric.unit]
  cases hfind : QueryMetric.units.find? fun entry => f.name ∈ entry.2 with
  | none => exact List.not_mem_nil
  | some entry => exact hunits entry (List.mem_of_find?_eq_some hfind)

/-- No metric has a comma in its name. -/
theorem name_plain : ∀ f ∈ getQueryMetrics, ',' ∉ f.name := by decide +kernel

theorem columnLabel_plain {f : QueryMetric} (h : f ∈ getQueryMetrics) :
    ',' ∉ columnLabel options.nounits f := by
  rw [columnLabel]
  split
  case isTrue =>
    simp only [List.mem_append, not_or]
    exact ⟨⟨⟨name_plain f h, by decide⟩, unit_plain f⟩, by decide⟩
  case isFalse => exact name_plain f h

theorem columns_plain (h : fields ⊆ getQueryMetrics) :
    ∀ column ∈ options.columns fields, ',' ∉ column := by
  rw [DumpOptions.columns, List.forall_mem_append, List.forall_mem_append, List.forall_mem_map]
  refine ⟨⟨?_, ?_⟩, fun f hf => columnLabel_plain (h hf)⟩
  · split <;> decide
  · split <;> decide

theorem comma_notMem_toString (n : Nat) : ',' ∉ (toString n).toList := by
  intro hcomma
  have hdigit : ',' ∈ Nat.toDigits 10 n := by simpa using hcomma
  exact absurd (Nat.isDigit_of_mem_toDigits (by decide) (by decide) hdigit) (by decide)

theorem prepended_plain (timestamp : Bool → PlainText) (index : Nat) :
    ∀ value ∈ options.prepended timestamp index, ',' ∉ value := by
  rw [DumpOptions.prepended, List.forall_mem_append]
  constructor
  · split
    · rw [List.forall_mem_singleton]
      exact (timestamp options.showDate).2
    · nofun
  · split
    · rw [List.forall_mem_singleton]
      exact comma_notMem_toString index
    · nofun

theorem length_values : (options.values fields sample).length = (options.columns fields).length := by
  rw [DumpOptions.values, DumpOptions.columns, DumpOptions.prepended, List.length_append,
    List.length_append, List.length_append, List.length_append, List.length_map, List.length_map]
  split <;> split <;> rfl

/-- The line of a device has its values. -/
theorem csvRowLine_values :
    csvRowLine (options.columns fields) (options.values fields sample) =
      Csv.join (options.values fields sample) := by
  rw [csvRowLine]
  refine congrArg Csv.join (List.ext_getElem ?_ fun i hi hi' => ?_)
  · rw [List.length_mapIdx, length_values]
  · rw [List.getElem_mapIdx, List.getD_eq_getElem?_getD, List.getElem?_eq_getElem hi', Option.getD_some]

/-- **A line is right** exactly if none of its values has a comma. -/
theorem lineRight_iff (hne : fields ≠ []) (hknown : fields ⊆ getQueryMetrics) :
    LineRight options fields (csvRowLine (options.columns fields) (options.values fields sample)) sample ↔
      ∀ f ∈ fields, ∀ answer, sample.answer f = some answer → f.kind.CommaFree answer := by
  have hcolumns : options.columns fields ≠ [] :=
    List.append_ne_nil_of_right_ne_nil _ (List.map_eq_nil_iff.not.mpr hne)
  have hvalues : options.values fields sample ≠ [] :=
    List.append_ne_nil_of_right_ne_nil _ (List.map_eq_nil_iff.not.mpr hne)
  have hlength : (options.values fields sample).length = (options.columns fields).length := length_values
  rw [LineRight, csvRowLine_values, csvHeaderLine, Csv.cells_join hcolumns (columns_plain hknown),
    ← hlength, and_iff_right_of_imp fun h => congrArg List.length h,
    Csv.cells_join_iff hvalues, DumpOptions.values, List.forall_mem_append, List.forall_mem_map,
    and_iff_right (prepended_plain sample.timestamp sample.index)]
  exact forall₂_congr fun f _ => comma_notMem_value_iff sample f

end

/-! ## Runs -/

section

variable {fields : List QueryMetric} {samples : List (List DeviceSample)}

namespace DumpOutput

theorem foldl_onMetric (values : List Text) (out : DumpOutput) :
    values.foldl (fun out value => out.onMetric value) out = { out with row := out.row ++ values } := by
  induction values generalizing out with
  | nil => rw [List.append_nil]; rfl
  | cons value values ih => rw [List.foldl_cons, ih, onMetric, List.append_assoc]; rfl

/-- A device adds its line. -/
theorem emitDevice_eq (out : DumpOutput) (sample : DeviceSample)
    (hcolumns : out.alignedFormatter = out.options.columns fields) :
    out.emitDevice fields sample =
      { out with
        row := fields.map sample.value, currentDev := sample.index
        written := out.written ++
          [csvRowLine (out.options.columns fields) (out.options.values fields sample)] } := by
  have hrow : fields.foldl (fun out f => out.onMetric (sample.value f)) (out.onBeginDevice sample.index) =
      { out with row := fields.map sample.value, currentDev := sample.index } := by
    rw [← List.foldl_map (f := sample.value) (g := fun out value => onMetric value out), foldl_onMetric]
    rfl
  rw [emitDevice, hrow, onEndDevice, emit, hcolumns]
  rfl

/-- What a sink keeps over a run: its options, its columns once it has begun, and its lines. -/
theorem foldl_emitDevice (devices : List DeviceSample) (out : DumpOutput)
    (hcolumns : out.alignedFormatter = out.options.columns fields) :
    (devices.foldl (emitDevice fields) out).options = out.options ∧
      (devices.foldl (emitDevice fields) out).headerEmitted = out.headerEmitted ∧
      (devices.foldl (emitDevice fields) out).written = out.written ++
        devices.map fun sample =>
          csvRowLine (out.options.columns fields) (out.options.values fields sample) := by
  induction devices generalizing out with
  | nil => exact ⟨rfl, rfl, (List.append_nil _).symm⟩
  | cons sample devices ih =>
    rw [List.foldl_cons, emitDevice_eq out sample hcolumns]
    obtain ⟨hoptions, hheader, hwritten⟩ := ih { out with
      row := fields.map sample.value, currentDev := sample.index
      written := out.written ++
        [csvRowLine (out.options.columns fields) (out.options.values fields sample)] } hcolumns
    refine ⟨hoptions, hheader, hwritten.trans ?_⟩
    rw [List.map_cons, List.append_assoc]
    rfl

/-- The header is written with the first sample. -/
def newHeader (fields : List QueryMetric) (out : DumpOutput) : List Text :=
  if out.options.noheader ∨ out.headerEmitted ∨ out.options.useFile then []
  else [csvHeaderLine (out.options.columns fields)]

/-- One line for each device, behind the header. -/
theorem emitMetrics_spec (fields : List QueryMetric) (out : DumpOutput) (devices : List DeviceSample) :
    (out.emitMetrics fields devices).options = out.options ∧
      (out.emitMetrics fields devices).headerEmitted = true ∧
      (out.emitMetrics fields devices).written = out.written ++ (out.newHeader fields ++
        devices.map fun sample =>
          csvRowLine (out.options.columns fields) (out.options.values fields sample)) := by
  have hbegin : out.onBegin fields = { out with
      alignedFormatter := out.options.columns fields, headerEmitted := true
      written := out.written ++ out.newHeader fields } := by
    rw [onBegin, newHeader]
    split
    · rw [List.append_nil]
    · rfl
  rw [emitMetrics, hbegin, ← List.append_assoc]
  exact foldl_emitDevice devices _ rfl

/-- The lines of some samples, in order. -/
theorem foldl_emitMetrics (samples : List (List DeviceSample)) (out : DumpOutput) :
    (samples.foldl (emitMetrics fields) out).written = out.written ++
      ((if samples = [] then [] else out.newHeader fields) ++ samples.flatten.map fun sample =>
        csvRowLine (out.options.columns fields) (out.options.values fields sample)) := by
  induction samples generalizing out with
  | nil => exact (List.append_nil _).symm
  | cons devices samples ih =>
    obtain ⟨hoptions, hheader, hwritten⟩ := emitMetrics_spec fields out devices
    have hnone : (out.emitMetrics fields devices).newHeader fields = [] := by
      rw [newHeader, if_pos (.inr (.inl hheader))]
    rw [List.foldl_cons, ih, hnone, hwritten, hoptions, if_neg (List.cons_ne_nil _ _), ite_self,
      List.nil_append, List.flatten_cons, List.map_append, List.append_assoc, List.append_assoc]

end DumpOutput

/-- Behind the header come the lines of the devices, sample by sample. -/
theorem dumpLines_eq (options : DumpOptions) :
    dumpLines options fields samples = headerLines options fields samples ++
      samples.flatten.map fun sample =>
        csvRowLine (options.columns fields) (options.values fields sample) := by
  rw [dumpLines, DumpOutput.foldl_emitMetrics, headerLines, DumpOutput.newHeader]
  cases options.noheader <;> cases options.useFile <;> simp

/-- The header of a file is that of the terminal. -/
theorem fileHeader_eq (options : DumpOptions) (fields : List QueryMetric) :
    fileHeader options.nounits fields = csvHeaderLine (options.forFile.columns fields) := by
  have hstep : ∀ (header : Text) (f : QueryMetric),
      (header ++ if ¬options.nounits ∧ f.unit ≠ [] then
          ", ".toList ++ f.name ++ " (".toList ++ f.unit ++ ")".toList else ", ".toList ++ f.name) =
        header ++ ", ".toList ++ columnLabel options.nounits f := by
    intro header f
    rw [columnLabel]
    split
    · simp only [List.append_assoc]
    · rw [List.append_assoc]
  have hcolumns : options.forFile.columns fields =
      ["Timestamp".toList, "DeviceId".toList] ++ fields.map (columnLabel options.nounits) := rfl
  rw [fileHeader, csvHeaderLine, hcolumns, ← Csv.foldl_join (List.cons_ne_nil _ _), List.foldl_map]
  simp only [hstep]
  rfl

/-- **The lines are right** exactly if there are no commas in what the getters find. -/
theorem linesRight_iff (options : DumpOptions) (fields : DumpFields) :
    LinesRight options fields.fields samples ↔ NoCommas fields.fields samples := by
  rw [LinesRight, dumpLines_eq]
  simp only [List.append_cancel_left_eq, exists_eq_left', List.forall₂_map_left_iff, List.forall₂_same]
  exact forall₂_congr fun sample _ => lineRight_iff fields.nonempty fields.known

end

/-- **Each line has the values of its columns between its commas** exactly if no getter is answered with a
comma and none finds two reasons for throttling. The header of a file is that of the terminal. -/
theorem dump_csv_iff (options : DumpOptions) (fields : DumpFields) (samples : List (List DeviceSample)) :
    fileHeader options.nounits fields.fields = csvHeaderLine (options.forFile.columns fields.fields) ∧
      (LinesRight options fields.fields samples ↔ NoCommas fields.fields samples) :=
  ⟨fileHeader_eq options fields.fields, linesRight_iff options fields⟩

def throttleMetric : QueryMetric := { name := "clocks.throttle.reason".toList, groups := .CLOCK }

/-- A device that has reached its limits of power and temperature. -/
def throttled : DeviceSample where
  index := 0
  timestamp _ := ⟨[], List.not_mem_nil⟩
  answer f :=
    match f.kind with
    | .plain => none
    | .driverText => none
    | .throttleReason => some (9 : UInt32)

/-- Two reasons for throttling take two columns. -/
theorem dump_csv_not_right :
    ¬LinesRight { prependTimestamp := false, prependDeviceId := false } [throttleMetric] [[throttled]] := by
  intro hright
  have hnone := (linesRight_iff _ ⟨[throttleMetric], List.cons_ne_nil _ _, by decide +kernel⟩).mp hright
  have hfree := hnone throttled (by simp) throttleMetric (List.mem_singleton_self _) (9 : UInt32) rfl
  have htwo : ¬(throttleReasons 9).length ≤ 1 := by decide
  exact htwo hfree

end XpuManager
