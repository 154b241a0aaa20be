import Mathlib.Data.List.ProdSigma
import XpuManager.Hal.Driver
import XpuManager.Lib.Calls
import XpuManager.Oal.ColdReset

/-! # The `config` command

`cmdConfig::run` (`ial/cmn/cmd_config.cpp`) applies the settings that were given as options to the selected
devices, in the order of a hash map. A reset that succeeds ends the process. -/

namespace XpuManager

/-! ## The options -/

inductive ConfigCmdType where
  | configHelp
  | configJson
  | configDevice
  | tile
  | frequencyRange
  | powerLimit
  | powerType
  | standbyMode
  | schedulerMode
  | memoryEcc
  | reset
  | coldReset
  | ignoreGpuUserProcesses
  | forceResetGpus
  | clearRas
  | pcieDowngrade
  | fanSpeed
  | fanCurve
  | fanCurveRpm
  | fanId
  deriving DecidableEq

inductive ConfigSubCmdFunc where
  | setFrequencyRange
  | setPowerLimit
  | setStandby
  | setScheduler
  | setMemoryEcc
  | setPCIeGenUpdate
  | resetDevice
  | clearRasErrors
  | setFanSpeed
  | setFanCurve
  | setFanCurveRpm
  | coldResetDevice
  deriving DecidableEq

namespace ConfigCmdType

/-- The function of an entry of `configCmds`. -/
def func : ConfigCmdType → Option ConfigSubCmdFunc
  | frequencyRange => some .setFrequencyRange
  | powerLimit => some .setPowerLimit
  | standbyMode => some .setStandby
  | schedulerMode => some .setScheduler
  | memoryEcc => some .setMemoryEcc
  | pcieDowngrade => some .setPCIeGenUpdate
  | reset => some .resetDevice
  | clearRas => some .clearRasErrors
  | fanSpeed => some .setFanSpeed
  | fanCurve => some .setFanCurve
  | fanCurveRpm => some .setFanCurveRpm
  | coldReset => some .coldResetDevice
  | configHelp | configJson | configDevice | tile | fanId | ignoreGpuUserProcesses | forceResetGpus
  | powerType => none

/-- The keys of `configCmds`, as they are written down. -/
def all : List ConfigCmdType :=
  [configHelp, configJson, configDevice, tile, frequencyRange, powerLimit, standbyMode, schedulerMode,
    memoryEcc, pcieDowngrade, reset, clearRas, fanSpeed, fanCurve, fanCurveRpm, fanId, coldReset,
    ignoreGpuUserProcesses, forceResetGpus, powerType]

/-- The options whose callbacks end the query mode. -/
def ofCallbacks : List ConfigCmdType :=
  [frequencyRange, powerLimit, standbyMode, schedulerMode, memoryEcc, pcieDowngrade, fanSpeed, fanCurve,
    fanCurveRpm]

end ConfigCmdType

/-- The hash map `configCmds`: its keys in the order of an iteration. -/
structure ConfigCmds where
  keys : List ConfigCmdType
  perm : keys.Perm ConfigCmdType.all

/-- What the entries hold after the options have been parsed. -/
structure ConfigOptions where
  enabled : ConfigCmdType → Bool
  val : ConfigCmdType → String

/-- How `CLI::App::parse` ends. -/
inductive ConfigParse where
  | callForHelp
  | parseError
  | parsed (options : ConfigOptions)

def ConfigOptions.isQueryMode (options : ConfigOptions) : Bool :=
  ConfigCmdType.ofCallbacks.all (fun cmd => !options.enabled cmd) &&
    !(options.enabled .reset || options.enabled .clearRas || options.enabled .coldReset)

/-- `cmd.second.enabled && cmd.second.func != nullptr`. -/
def ConfigOptions.setter (options : ConfigOptions) (cmd : ConfigCmdType) : Option ConfigSubCmdFunc :=
  if options.enabled cmd then cmd.func else none

/-! ## The setters -/

/-- How a function ends: it returns, or the process ends in it. -/
inductive CallEnd where
  | returned (result : ZeResult)
  | exited (status : Nat)
  /-- An exception that nothing catches. -/
  | terminated
  deriving DecidableEq

/-- What is below the command. -/
structure ConfigAnswers where
  /-- The setters that do not reset the device. An exception may escape from one: `std::stoull` throws. -/
  setter : ConfigSubCmdFunc → DevInfo → Option ZeResult
  /-- `device::resetDevice`. -/
  reset : DevInfo → ZeResult
  privilege : Bool
  gpuProcesses : String → List UInt32
  devicesSharingSlot : String → List String
  /-- `device::coldResetDevice`. -/
  coldReset : DevInfo → ZeResult

section Setters

variable (options : ConfigOptions) (answers : ConfigAnswers)

/-- The reset of a device, at whose success the process ends. -/
def resetDevice (device : DevInfo) : CallEnd :=
  if answers.reset device ≠ .success then .returned (answers.reset device)
  else .exited 0

namespace ZeResult

def insufficientPermissions : ZeResult := .error 0x70010000
def handleObjectInUse : ZeResult := .error 0x78000006

end ZeResult

/-- The cold reset of a device, which is checked first, and at whose success the process ends. -/
def coldResetDevice (device : DevInfo) : CallEnd :=
  let bdfStr := device.dev.bdfStr
  if !answers.privilege then .returned .insufficientPermissions
  else if !options.enabled .ignoreGpuUserProcesses ∧ answers.gpuProcesses bdfStr ≠ [] then
    .returned .handleObjectInUse
  else if !options.enabled .forceResetGpus ∧ answers.devicesSharingSlot bdfStr ≠ [] then
    .returned .notAvailable
  else if answers.coldReset device ≠ .success then .returned (answers.coldReset device)
  else .exited 0

/-- `(this->*cmd.second.func)(&device)`. -/
def callSetter (device : DevInfo) : ConfigSubCmdFunc → CallEnd
  | .resetDevice => resetDevice answers device
  | .coldResetDevice => coldResetDevice options answers device
  | func =>
    match answers.setter func device with
    | some result => .returned result
    | none => .terminated

end Setters

/-! ## The command -/

/-- A call of a setter. -/
abbrev ConfigCall := DevInfo × ConfigSubCmdFunc

/-- The two variables for the first error. -/
structure FirstError where
  firstError : ZeResult := .success
  hadError : Bool := false
  fails : hadError = true → firstError ≠ .success := by decide

namespace FirstError

/-- The first error is kept. -/
def note (errors : FirstError) (result : ZeResult) : FirstError :=
  if h : result ≠ .success ∧ errors.hadError = false then
    { firstError := result, hadError := true, fails := fun _ => h.1 }
  else errors

def result (errors : FirstError) : ZeResult :=
  if errors.hadError then errors.firstError else .success

end FirstError

section Run

variable (configCmds : ConfigCmds) (d : Driver) (options : ConfigOptions) (answers : ConfigAnswers)

/-- The checks of `run`, which select the devices. -/
def selectDevices : Outcome (Except ZeResult (List DevInfo)) :=
  let device := options.val .configDevice
  if device = "" then .ret (.error .invalidArgument)
  else if options.enabled .coldReset ∧ !isValidBdf device then .ret (.error .invalidArgument)
  else
    match d.findDevice device [] with
    | .fault => .fault
    | .cut => .cut
    | .ret (result, deviceList) =>
      if result ≠ .success then .ret (.error result)
      else if options.enabled .reset ∧ (options.enabled .tile ∨ deviceList.length ≠ 1) then
        .ret (.error .invalidArgument)
      else if options.enabled .coldReset ∧ (options.enabled .tile ∨ deviceList.length ≠ 1) then
        .ret (.error .invalidArgument)
      else .ret (.ok deviceList)

/-- The body of the inner loop. -/
def applyCmd (device : DevInfo) (cmd : ConfigCmdType) (errors : FirstError) :
    Prog (List ConfigCall) (CallEnd ⊕ FirstError) :=
  match options.setter cmd with
  | some func => do
    Prog.modify (· ++ [(device, func)])
    match callSetter options answers device func with
    | .returned result => pure (.inr (errors.note result))
    | ends => pure (.inl ends)
  | none => pure (.inr errors)

/-- `run`, after the devices have been selected. -/
def runSelected (deviceList : List DevInfo) : Prog (List ConfigCall) CallEnd :=
  if options.isQueryMode then pure (.returned .success)
  else do
    match ← Prog.forEach (fun device => Prog.forEach (applyCmd options answers device) configCmds.keys)
      deviceList {} with
    | .inl ends => pure ends
    | .inr errors => pure (.returned errors.result)

/-- `cmdConfig::run`. -/
def cmdConfig : ConfigParse → Prog (List ConfigCall) CallEnd
  | .callForHelp => pure (.returned .success)
  | .parseError => pure (.returned .invalidArgument)
  | .parsed options =>
    match selectDevices d options with
    | .fault => Prog.fault
    | .cut => Prog.cut
    | .ret (.error result) => pure (.returned result)
    | .ret (.ok deviceList) => runSelected configCmds options answers deviceList

end Run

/-! ## What a run is for -/

namespace CallEnd

/-- The status of the process (`runCli`); a signal is none. -/
def status : CallEnd → Option Nat
  | returned result => some (if result ≠ .success then 1 else 0)
  | exited status => some status
  | terminated => none

/-- The call comes back. -/
def Returns (ends : CallEnd) : Prop := ∃ result, ends = .returned result

/-- Success is returned, or the process ends with it. -/
def Succeeds (ends : CallEnd) : Prop := ends.status = some 0

instance (ends : CallEnd) : Decidable ends.Succeeds :=
  inferInstanceAs (Decidable (ends.status = some 0))

theorem succeeds_returned {result : ZeResult} : (returned result).Succeeds ↔ result = .success := by
  rw [Succeeds, status, Option.some.injEq]
  split <;> rename_i h
  · exact iff_of_false one_ne_zero h
  · exact iff_of_true rfl (not_not.mp h)

end CallEnd

/-- The setters of the enabled options, in the order of the options. -/
def ConfigOptions.setters (options : ConfigOptions) (keys : List ConfigCmdType) :
    List ConfigSubCmdFunc :=
  keys.filterMap options.setter

section Spec

variable (configCmds : ConfigCmds) (options : ConfigOptions) (answers : ConfigAnswers)
variable (deviceList : List DevInfo)

/-- Every setter is called once for every device, and the process ends with status 0 only if all of
them succeed. -/
structure AppliesAll (run : Outcome CallEnd × List ConfigCall) : Prop where
  calls : run.2.Perm (deviceList ×ˢ options.setters ConfigCmdType.all)
  status : ∀ ends, run.1 = .ret ends → ends.status = some 0 →
    ∀ device ∈ deviceList, ∀ func ∈ options.setters ConfigCmdType.all,
      (callSetter options answers device func).Succeeds

/-- The calls in the order of the two loops. -/
def orderedCalls : List ConfigCall := deviceList ×ˢ options.setters configCmds.keys

/-- **Nothing is lost.** No call comes after one in which the process ends, and all calls before one that
ends it with success succeed. -/
structure NothingLost : Prop where
  last : (orderedCalls configCmds options deviceList).Pairwise fun earlier _ =>
    (callSetter options answers earlier.1 earlier.2).Returns
  shown : (orderedCalls configCmds options deviceList).Pairwise fun earlier later =>
    ¬(callSetter options answers later.1 later.2).Returns →
      (callSetter options answers later.1 later.2).Succeeds →
        (callSetter options answers earlier.1 earlier.2).Succeeds

end Spec

/-! ## The loops -/

section Loops

variable {configCmds : ConfigCmds} {d : Driver} {options : ConfigOptions} {answers : ConfigAnswers}
variable {deviceList : List DevInfo} {device : DevInfo} {cmd : ConfigCmdType}

/-- How a call leaves the loops. -/
def CallEnd.leaves : CallEnd → Option CallEnd
  | returned _ => none
  | exited status => some (.exited status)
  | terminated => some .terminated

/-- What a call does to the first error. -/
def CallEnd.note : CallEnd → FirstError → FirstError
  | returned result, errors => errors.note result
  | exited _, errors | terminated, errors => errors

def settersEffect (options : ConfigOptions) (answers : ConfigAnswers) :
    Calls.Effect ConfigCall FirstError CallEnd where
  leaves call := (callSetter options answers call.1 call.2).leaves
  note call errors := (callSetter options answers call.1 call.2).note errors

theorem CallEnd.leaves_eq_none_iff {ends : CallEnd} : ends.leaves = none ↔ ends.Returns := by
  cases ends with
  | returned result => exact iff_of_true rfl ⟨result, rfl⟩
  | exited status => exact iff_of_false nofun fun ⟨_, h⟩ => nomatch h
  | terminated => exact iff_of_false nofun fun ⟨_, h⟩ => nomatch h

theorem CallEnd.eq_of_leaves {ends left : CallEnd} (h : ends.leaves = some left) : left = ends := by
  cases ends with
  | returned result => cases h
  | exited status => exact (Option.some.inj h).symm
  | terminated => exact (Option.some.inj h).symm

/-- One turn of the inner loop makes a call, or none. -/
theorem performs_applyCmd (device : DevInfo) (cmd : ConfigCmdType) :
    Calls.Performs (settersEffect options answers) (applyCmd options answers device cmd)
      ((options.setter cmd).toList.map (Prod.mk device)) := by
  intro errors t
  rw [applyCmd]
  cases options.setter cmd with
  | none => exact Calls.Performs.nil errors t
  | some func =>
    change (match callSetter options answers device func with
      | .returned result => pure (.inr (errors.note result))
      | ends => pure (.inl ends) : Prog (List ConfigCall) (CallEnd ⊕ FirstError))
        (t ++ [(device, func)]) = (.ret (Calls.run _ [(device, func)] errors),
          t ++ Calls.made _ [(device, func)])
    rw [Calls.made_singleton, Calls.run, settersEffect]
    dsimp only
    cases callSetter options answers device func with
    | returned result => rfl
    | exited status => rfl
    | terminated => rfl

theorem map_setters (device : DevInfo) (keys : List ConfigCmdType) :
    keys.flatMap (fun cmd => (options.setter cmd).toList.map (Prod.mk device)) =
      (options.setters keys).map (Prod.mk device) := by
  rw [ConfigOptions.setters, List.filterMap_eq_flatMap_toList, List.map_flatMap]

/-- **Both loops.** -/
theorem performs_loops (configCmds : ConfigCmds) (options : ConfigOptions) (answers : ConfigAnswers)
    (deviceList : List DevInfo) :
    Calls.Performs (settersEffect options answers)
      (Prog.forEach (fun device => Prog.forEach (applyCmd options answers device) configCmds.keys)
        deviceList) (orderedCalls configCmds options deviceList) := by
  refine Calls.Performs.forEach deviceList fun device => ?_
  rw [← map_setters]
  exact Calls.Performs.forEach configCmds.keys (performs_applyCmd device)

theorem perm_orderedCalls : (orderedCalls configCmds options deviceList).Perm
    (deviceList ×ˢ options.setters ConfigCmdType.all) :=
  (List.Perm.refl deviceList).product (configCmds.perm.filterMap options.setter)

/-! ## The first error -/

theorem FirstError.result_eq_success_iff (errors : FirstError) :
    errors.result = .success ↔ errors.hadError = false := by
  rw [FirstError.result]
  split
  case isTrue h => exact iff_of_false (errors.fails h) (ne_false_of_eq_true h)
  case isFalse h => exact iff_of_true rfl (Bool.eq_false_of_not_eq_true h)

theorem FirstError.hadError_note (errors : FirstError) (result : ZeResult) :
    (errors.note result).hadError = false ↔ errors.hadError = false ∧ result = .success := by
  rw [FirstError.note]
  split
  case isTrue h => exact iff_of_false nofun fun hnot => h.1 hnot.2
  case isFalse h =>
    refine ⟨fun hnot => ⟨hnot, ?_⟩, fun hnot => hnot.1⟩
    by_contra hfails
    exact h ⟨hfails, hnot⟩

/-- An error is remembered. -/
theorem hadError_foldl {calls : List ConfigCall} {errors : FirstError}
    (hreturn : ∀ call ∈ calls, (callSetter options answers call.1 call.2).Returns) :
    (calls.foldl (fun errors call => (settersEffect options answers).note call errors)
      errors).hadError = false ↔ errors.hadError = false ∧
        ∀ call ∈ calls, (callSetter options answers call.1 call.2).Succeeds := by
  induction calls generalizing errors with
  | nil => exact ⟨fun h => ⟨h, fun _ hmem => absurd hmem List.not_mem_nil⟩, fun h => h.1⟩
  | cons call calls ih =>
    rw [List.forall_mem_cons] at hreturn ⊢
    obtain ⟨⟨result, hresult⟩, hrest⟩ := hreturn
    have hnote : (settersEffect options answers).note call errors = errors.note result := by
      rw [settersEffect]
      dsimp only
      rw [hresult, CallEnd.note]
    rw [List.foldl_cons, ih hrest, hnote, FirstError.hadError_note, hresult,
      CallEnd.succeeds_returned, and_assoc]

/-! ## The command -/

theorem ConfigCmdType.mem_of_func {func : ConfigSubCmdFunc} (h : cmd.func = some func) :
    cmd ∈ ofCallbacks ∨ cmd = reset ∨ cmd = clearRas ∨ cmd = coldReset := by
  cases cmd <;> first | decide | cases h

/-- A query sets nothing. -/
theorem setter_eq_none_of_query (hmode : options.isQueryMode = true) (cmd : ConfigCmdType) :
    options.setter cmd = none := by
  rw [ConfigOptions.isQueryMode, Bool.and_eq_true, List.all_eq_true, Bool.not_eq_true',
    Bool.or_eq_false_iff, Bool.or_eq_false_iff] at hmode
  obtain ⟨hcallbacks, ⟨hreset, hclearRas⟩, hcoldReset⟩ := hmode
  rw [ConfigOptions.setter]
  cases hfunc : cmd.func with
  | none => exact ite_self none
  | some func =>
    obtain hmem | rfl | rfl | rfl := ConfigCmdType.mem_of_func hfunc
    · have henabled := hcallbacks cmd hmem
      rw [Bool.not_eq_true'] at henabled
      exact if_neg (ne_true_of_eq_false henabled)
    · exact if_neg (ne_true_of_eq_false hreset)
    · exact if_neg (ne_true_of_eq_false hclearRas)
    · exact if_neg (ne_true_of_eq_false hcoldReset)

theorem setters_eq_nil_of_query (hmode : options.isQueryMode = true) (keys : List ConfigCmdType) :
    options.setters keys = [] :=
  List.filterMap_eq_nil_iff.mpr fun cmd _ => setter_eq_none_of_query hmode cmd

/-- What the command makes of the end of the loops. -/
def endOfLoops : CallEnd ⊕ FirstError → CallEnd :=
  Sum.elim id fun errors => .returned errors.result

/-- **Run lemma.** The calls up to the first that ends the process. -/
theorem runSelected_apply (hmode : options.isQueryMode = false) :
    runSelected configCmds options answers deviceList [] =
      (.ret (endOfLoops (Calls.run (settersEffect options answers)
          (orderedCalls configCmds options deviceList) {})),
        Calls.made (settersEffect options answers) (orderedCalls configCmds options deviceList)) := by
  have hloops := performs_loops configCmds options answers deviceList {} []
  rw [runSelected, if_neg (ne_true_of_eq_false hmode), Prog.bind_of_ret hloops, List.nil_append]
  cases Calls.run (settersEffect options answers) (orderedCalls configCmds options deviceList) {} with
  | inl ends => rfl
  | inr errors => rfl

theorem returns_of_last {before after : List ConfigCall} {call : ConfigCall}
    (hlast : (before ++ call :: after).Pairwise fun earlier _ =>
      (callSetter options answers earlier.1 earlier.2).Returns)
    (hcall : ¬(callSetter options answers call.1 call.2).Returns) :
    (∀ earlier ∈ before, (callSetter options answers earlier.1 earlier.2).Returns) ∧ after = [] := by
  obtain ⟨-, hrest, hbefore⟩ := List.pairwise_append.mp hlast
  refine ⟨fun earlier hearlier => hbefore earlier hearlier call List.mem_cons_self, ?_⟩
  cases after with
  | nil => rfl
  | cons other after => exact absurd ((List.pairwise_cons.mp hrest).1 other List.mem_cons_self) hcall

theorem appliesAll_of_query (hmode : options.isQueryMode = true) :
    AppliesAll options answers deviceList (runSelected configCmds options answers deviceList []) := by
  have hnone := setters_eq_nil_of_query hmode ConfigCmdType.all
  constructor
  · rw [hnone, List.product_nil, runSelected, if_pos hmode]
    exact .nil
  · intro ends _ _ device _ func hfunc
    rw [hnone] at hfunc
    cases hfunc

theorem nothingLost_of_query (hmode : options.isQueryMode = true) :
    NothingLost configCmds options answers deviceList := by
  have hnone : orderedCalls configCmds options deviceList = [] := by
    rw [orderedCalls, setters_eq_nil_of_query hmode, List.product_nil]
  constructor
  · rw [hnone]
    exact .nil
  · rw [hnone]
    exact .nil

/-- If all settings are applied, the process has not ended too early, and not with a status that hides
an error. -/
theorem nothingLost_of_appliesAll (hmode : options.isQueryMode = false)
    (happlies : AppliesAll options answers deviceList
      (runSelected configCmds options answers deviceList [])) :
    NothingLost configCmds options answers deviceList := by
  rw [runSelected_apply hmode] at happlies
  have hlast : (orderedCalls configCmds options deviceList).Pairwise fun earlier _ =>
      (callSetter options answers earlier.1 earlier.2).Returns :=
    (Calls.made_perm_iff.mp (happlies.calls.trans perm_orderedCalls.symm)).imp
      CallEnd.leaves_eq_none_iff.mp
  refine ⟨hlast, List.pairwise_of_forall_mem_list ?_⟩
  intro earlier hearlier later hlater hleaves hsucceeds
  -- The later call is the last one, and the status of the process is its status.
  obtain ⟨before, after, hcalls⟩ := List.append_of_mem hlater
  rw [hcalls] at hlast
  obtain ⟨hbefore, rfl⟩ := returns_of_last hlast hleaves
  obtain ⟨left, hleft⟩ := Option.ne_none_iff_exists'.mp (mt CallEnd.leaves_eq_none_iff.mp hleaves)
  have hrun : Calls.run (settersEffect options answers) (orderedCalls configCmds options deviceList) {} =
      .inl left :=
    Calls.run_eq_leave_iff.mpr ⟨before, later, [], hcalls, fun call hcall =>
      CallEnd.leaves_eq_none_iff.mpr (hbefore call hcall), hleft⟩
  have hstatus := happlies.status left (by rw [hrun]; rfl) (CallEnd.eq_of_leaves hleft ▸ hsucceeds)
  obtain ⟨hdevice, hfunc⟩ := List.pair_mem_product.mp (perm_orderedCalls.mem_iff.mp hearlier)
  exact hstatus earlier.1 hdevice earlier.2 hfunc

/-- The status of a run tells whether all calls succeed. -/
theorem succeeds_of_status (hnothing : NothingLost configCmds options answers deviceList)
    (hstatus : (endOfLoops (Calls.run (settersEffect options answers)
      (orderedCalls configCmds options deviceList) {})).status = some 0) {call : ConfigCall}
    (hmem : call ∈ orderedCalls configCmds options deviceList) :
    (callSetter options answers call.1 call.2).Succeeds := by
  cases hrun : Calls.run (settersEffect options answers)
    (orderedCalls configCmds options deviceList) {} with
  | inr errors =>
    obtain ⟨hreturn, hfold⟩ := Calls.run_eq_done_iff.mp hrun
    rw [hrun] at hstatus
    have hresult := (FirstError.result_eq_success_iff errors).mp (CallEnd.succeeds_returned.mp hstatus)
    rw [← hfold] at hresult
    exact ((hadError_foldl fun call hcall =>
      CallEnd.leaves_eq_none_iff.mp (hreturn call hcall)).mp hresult).2 call hmem
  | inl left =>
    obtain ⟨before, last, after, hcalls, hbefore, hleft⟩ := Calls.run_eq_leave_iff.mp hrun
    rw [hrun] at hstatus
    have hleaves : ¬(callSetter options answers last.1 last.2).Returns := by
      intro hreturns
      have hnone := CallEnd.leaves_eq_none_iff.mpr hreturns
      exact Option.some_ne_none left (hleft.symm.trans hnone)
    have hsucceeds : (callSetter options answers last.1 last.2).Succeeds :=
      CallEnd.eq_of_leaves hleft ▸ hstatus
    have hlast := hnothing.last
    have hshown := hnothing.shown
    rw [hcalls] at hlast hshown hmem
    obtain rfl := (returns_of_last hlast hleaves).2
    obtain hearlier | hself := List.mem_append.mp hmem
    · exact (List.pairwise_append.mp hshown).2.2 _ hearlier last List.mem_cons_self hleaves hsucceeds
    · obtain rfl := List.mem_singleton.mp hself
      exact hsucceeds

/-- Where nothing is lost all is applied. -/
theorem appliesAll_of_nothingLost (hmode : options.isQueryMode = false)
    (hnothing : NothingLost configCmds options answers deviceList) :
    AppliesAll options answers deviceList (runSelected configCmds options answers deviceList []) := by
  rw [runSelected_apply hmode]
  have hmade : (Calls.made (settersEffect options answers)
      (orderedCalls configCmds options deviceList)).Perm (orderedCalls configCmds options deviceList) :=
    Calls.made_perm_iff.mpr (hnothing.last.imp CallEnd.leaves_eq_none_iff.mpr)
  refine ⟨hmade.trans perm_orderedCalls, ?_⟩
  intro ends hends hstatus device hdevice func hfunc
  obtain rfl := Outcome.ret.inj hends
  have hmem : (device, func) ∈ orderedCalls configCmds options deviceList :=
    perm_orderedCalls.mem_iff.mpr (List.pair_mem_product.mpr ⟨hdevice, hfunc⟩)
  exact succeeds_of_status hnothing hstatus hmem

/-- **When all settings are applied.** Exactly if nothing is lost. -/
theorem cmdConfig_appliesAll_iff (configCmds : ConfigCmds) (d : Driver) (options : ConfigOptions)
    (answers : ConfigAnswers) (deviceList : List DevInfo)
    (h : selectDevices d options = .ret (.ok deviceList)) :
    AppliesAll options answers deviceList (cmdConfig configCmds d answers (.parsed options) []) ↔
      NothingLost configCmds options answers deviceList := by
  have hrun : cmdConfig configCmds d answers (.parsed options) =
      runSelected configCmds options answers deviceList := by
    rw [cmdConfig, h]
  rw [hrun]
  cases hmode : options.isQueryMode with
  | true => exact iff_of_true (appliesAll_of_query hmode) (nothingLost_of_query hmode)
  | false => exact ⟨nothingLost_of_appliesAll hmode, appliesAll_of_nothingLost hmode⟩

end Loops

/-! ## A reset before a setting -/

deriving instance DecidableEq for DevInfo

/-- One device. -/
def oneGpu : Driver where
  initialized := true
  driverCount := 1
  devs := some [{ totalDevicesCount := 1, dev := [{ bdfStr := "0000:4d:00.0" }], zeDevices := [] }]

/-- `config -d 0 --powerlimit 250 --reset`. -/
def limitAndReset : ConfigOptions where
  enabled cmd := cmd ∈ [ConfigCmdType.configDevice, .powerLimit, .reset]
  val
    | .configDevice => "0"
    | .powerLimit => "250"
    | _ => ""

def allSucceed : ConfigAnswers where
  setter _ _ := some .success
  reset _ := .success
  privilege := true
  gpuProcesses _ := []
  devicesSharingSlot _ := []
  coldReset _ := .success

def gpuInfo : DevInfo := ⟨0, { bdfStr := "0000:4d:00.0" }, none, none⟩

theorem cmdConfig_appliesAll_iff_sample :
    AppliesAll limitAndReset allSucceed [gpuInfo]
        (cmdConfig ⟨ConfigCmdType.all, .refl _⟩ oneGpu allSucceed (.parsed limitAndReset) []) ↔
      NothingLost ⟨ConfigCmdType.all, .refl _⟩ limitAndReset allSucceed [gpuInfo] :=
  cmdConfig_appliesAll_iff ⟨ConfigCmdType.all, .refl _⟩ oneGpu limitAndReset allSucceed [gpuInfo]
    (by decide)

/-- In the other order the power limit is never set, and the status is 0. -/
theorem cmdConfig_skips : ¬∀ (configCmds : ConfigCmds) (d : Driver) (options : ConfigOptions)
    (answers : ConfigAnswers) (deviceList : List DevInfo),
      selectDevices d options = .ret (.ok deviceList) →
        AppliesAll options answers deviceList
          (cmdConfig configCmds d answers (.parsed options) []) := by
  intro h
  have happlies := h ⟨ConfigCmdType.all.reverse, List.reverse_perm _⟩ oneGpu limitAndReset allSucceed
    [gpuInfo] (by decide)
  have hlength := happlies.calls.length_eq
  revert hlength
  decide

end XpuManager
