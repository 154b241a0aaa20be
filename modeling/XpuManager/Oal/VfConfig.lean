import XpuManager.Oal.FileIo

/-! # The configuration of virtual functions

`vgpu.conf` has sections for devices, one with default values and some for numbers of virtual
functions (`oal/lin/linvf.cpp`). -/

namespace XpuManager

open Numerals

/-- The attributes that a section of the file sets. -/
structure AttrFromConfigFile where
  driversAutoprobe : Bool := false
  schedIfIdle : Bool := false
  vfLmem : UInt64 := 0
  vfLmemEcc : UInt64 := 0
  vfContexts : UInt32 := 0
  vfDoorbells : UInt32 := 0
  vfGgtt : UInt64 := 0
  vfExec : UInt64 := 0
  vfPreempt : UInt64 := 0
  pfExec : UInt64 := 0
  pfPreempt : UInt64 := 0
  deriving DecidableEq

def vgpuConfFile : String := "resources/config/vgpu.conf"

def xpumMaxVfNum : UInt32 := 128
def pfExecQuantumMs : UInt64 := 64
def pfPreemptTimeoutUs : UInt64 := 128000
def vfExecQuantumUs : Nat := 2000
def maxVfExecQuantumMs : Nat := 50
def oneMsInUs : Nat := 1000

/-! ## The map of sections -/

/-- A `std::map` from the number of functions of a section to its attributes, by increasing keys. -/
abbrev VfConfigMap := List (UInt32 × AttrFromConfigFile)

namespace VfConfigMap

/-- A change of the entry of a key, which is made if there is none. -/
def modify (key : UInt32) (change : AttrFromConfigFile → AttrFromConfigFile) :
    VfConfigMap → VfConfigMap
  | [] => [(key, change {})]
  | (key', attrs) :: rest =>
    if key = key' then (key', change attrs) :: rest
    else if key < key' then (key, change {}) :: (key', attrs) :: rest
    else (key', attrs) :: modify key change rest

/-- The entry of a key, or a new one. -/
def get (data : VfConfigMap) (key : UInt32) : AttrFromConfigFile := (data.lookup key).getD {}

end VfConfigMap

/-! ## The scheduler -/

/-- The scheduling parameters for a number of functions. -/
def schedulerParameters (numVfs : Int) (attrs : AttrFromConfigFile) : AttrFromConfigFile :=
  let share := vfExecQuantumUs / (max (numVfs - 1) 1).toNat
  let vfExec := min (share / 2) maxVfExecQuantumMs
  { attrs with
    pfExec := pfExecQuantumMs
    pfPreempt := pfPreemptTimeoutUs
    schedIfIdle := false
    vfExec := UInt64.ofNat vfExec
    vfPreempt := UInt64.ofNat ((share - vfExec) * oneMsInUs) }

def updateVgpuSchedulerConfigParameters (numVfs : UInt32) (data : VfConfigMap) : VfConfigMap :=
  data.modify numVfs (schedulerParameters numVfs.toInt32.toInt)

/-! ## The two sections -/

/-- The share of one function; `none` is a division by zero. -/
def shareOf (total : UInt64) (numVfs : UInt32) : Option UInt64 :=
  if numVfs = 0 then none else some (total / numVfs.toUInt64)

/-- A value of a section, or the share of the default one. -/
def orShareOf (value total : UInt64) (numVfs : UInt32) : Option UInt64 :=
  if value = 0 ∧ total ≠ 0 then shareOf total numVfs else some value

/-- The attributes of each function, from the two sections. -/
def combineAttrConfig (data : VfConfigMap) (numVfs : UInt32) : Option AttrFromConfigFile :=
  match data with
  | [(_, attrs)] => some attrs
  | _ => do
    let defaults := data.get xpumMaxVfNum
    let attrs : AttrFromConfigFile :=
      match data.lookup numVfs with
      | some attrs => attrs
      | none =>
        { driversAutoprobe := defaults.driversAutoprobe
          schedIfIdle := defaults.schedIfIdle }
    let vfLmem ← orShareOf attrs.vfLmem defaults.vfLmem numVfs
    let vfLmemEcc ← orShareOf attrs.vfLmemEcc defaults.vfLmemEcc numVfs
    let vfContexts := if attrs.vfContexts = 0 then defaults.vfContexts else attrs.vfContexts
    let vfDoorbells ← orShareOf attrs.vfDoorbells.toUInt64 defaults.vfDoorbells.toUInt64 numVfs
    let vfGgtt ← orShareOf attrs.vfGgtt defaults.vfGgtt numVfs
    pure (schedulerParameters numVfs.toInt32.toInt { attrs with
      vfLmem := vfLmem
      vfLmemEcc := vfLmemEcc
      vfContexts := vfContexts
      vfDoorbells := vfDoorbells.toUInt32
      vfGgtt := vfGgtt })

/-! ## The file -/

/-- What is known after some lines: the section that the last name stands for, 0 for none that is
wanted, and the sections so far. -/
structure ConfigState where
  currentNameId : UInt32
  data : VfConfigMap

/-- The section of a list of names: the first that is that of the device and its default values or
the number of functions; `none` is an exception. -/
def sectionOf (deviceId : List Char) (numVfs : UInt32) : List String → UInt32 → Option UInt32
  | [], current => some current
  | item :: items, _ =>
    let cs := item.toList
    if hasInfix "DEF".toList cs then
      if 7 ≤ cs.length ∧ (cs.drop 4).take 3 = "DEF".toList ∧ cs.take 4 = deviceId then
        some xpumMaxVfNum
      else sectionOf deviceId numVfs items 0
    else if cs.findIdx? (· = 'N') = some 4 then
      match stoi (String.ofList (cs.drop 5)) with
      | none => none
      | some i =>
        if cs.take 4 = deviceId ∧ UInt32.ofInt i = numVfs then some (UInt32.ofInt i)
        else sectionOf deviceId numVfs items 0
    else sectionOf deviceId numVfs items 0

/-- A change of the current section; there is none for 0. -/
def ConfigState.set (st : ConfigState) (change : AttrFromConfigFile → AttrFromConfigFile) :
    ConfigState :=
  if st.currentNameId = 0 then st else { st with data := st.data.modify st.currentNameId change }

/-- What a key and its value do; the flag says that no more lines are read. -/
def configEntry (deviceId : List Char) (numVfs : UInt32) (st : ConfigState) (key value : String) :
    Option (Bool × ConfigState) :=
  if key = "NAME" then do
    let current ← sectionOf deviceId numVfs (split value ',') st.currentNameId
    pure (false, { st with currentNameId := current })
  else if st.currentNameId = 0 then some (false, st)
  else if key = "VF_LMEM" then do
    let v ← stoul 10 value
    pure (false, st.set fun attrs => { attrs with vfLmem := v })
  else if key = "VF_LMEM_ECC" then do
    let v ← stoul 10 value
    pure (false, st.set fun attrs => { attrs with vfLmemEcc := v })
  else if key = "VF_CONTEXTS" then do
    let v ← stoi value
    pure (false, st.set fun attrs => { attrs with vfContexts := UInt32.ofInt v })
  else if key = "VF_DOORBELLS" then do
    let v ← stoi value
    pure (false, st.set fun attrs => { attrs with vfDoorbells := UInt32.ofInt v })
  else if key = "VF_GGTT" then do
    let v ← stoul 10 value
    pure (false, st.set fun attrs => { attrs with vfGgtt := v })
  else if key = "VGPU_SCHEDULER" then
    some (false,
      { st with data := updateVgpuSchedulerConfigParameters st.currentNameId st.data })
  else if key = "DRIVERS_AUTOPROBE" then do
    let v ← stoi value
    pure (st.currentNameId ≠ xpumMaxVfNum, st.set fun attrs => { attrs with driversAutoprobe := v ≠ 0 })
  else some (false, st)

/-- What a line does: white space is taken out, a comment is skipped, and so is a line without a
value. -/
def configLine (deviceId : List Char) (numVfs : UInt32) (st : ConfigState) (line : List Char) :
    Option (Bool × ConfigState) :=
  let cs := line.filter fun c => !isSpace c
  match cs with
  | [] => some (false, st)
  | '#' :: _ => some (false, st)
  | _ =>
    match cs.span (· ≠ '=') with
    | (_, []) => some (false, st)
    | (_, [_]) => some (false, st)
    | (key, _ :: value) => configEntry deviceId numVfs st (String.ofList key) (String.ofList value)

/-- The lines of the file, one after the other. -/
def configLines (deviceId : List Char) (numVfs : UInt32) :
    List (List Char) → ConfigState → Option ConfigState
  | [], st => some st
  | line :: lines, st =>
    match configLine deviceId numVfs st line with
    | none => none
    | some (true, st') => some st'
    | some (false, st') => configLines deviceId numVfs lines st'

/-- A device ID with four hexadecimal digits. -/
def deviceIdStr (deviceId : UInt32) : List Char :=
  (Nat.toDigits 16 deviceId.toNat).leftpad 4 '0'

/-- The attributes that a file has for a device and a number of functions; `none` is an exception or
a division by zero. -/
def vfConfigOf (content : String) (deviceId numVfs : UInt32) : Option AttrFromConfigFile := do
  let st ← configLines (deviceIdStr deviceId) numVfs (fileLines content) ⟨0, []⟩
  match st.data with
  | [] => pure {}
  | data => combineAttrConfig data numVfs

/-- `none` is the result `false`. -/
def readVfConfigFromFile (io : FileIo) (deviceId numVfs : UInt32) :
    Prog FileState (Option AttrFromConfigFile) := do
  let fileName := io.findResourceFile vgpuConfFile
  let present ← fileExists io fileName
  if present = false then pure none
  else
    let content ← readStream io fileName
    match content with
    | none => pure none
    | some content =>
      let attrs ← Prog.ofOption (vfConfigOf content deviceId numVfs)
      pure (some attrs)

end XpuManager
