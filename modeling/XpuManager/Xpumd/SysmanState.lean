import XpuManager.Lib.Numerals
import XpuManager.Lib.Text

/-! # The state of the Level Zero stub

`sysman_state_load` (`xpumd/level-zero-go/level-zero-stub/sysman_state.c`) reads the devices that the stub
simulates from a file. Strings for UUIDs are resolved before the state is replaced. -/

namespace XpuManager

namespace SysmanStub

/-- The bytes of an UUID. -/
abbrev StubUuid := List UInt8

/-! ## UUIDs -/

/-- `%02x` of `sscanf`: two characters at most, of which a sign is one. -/
def scanByte (cs : Text) : Option (UInt8 × Text) :=
  let cs := cs.dropWhile Numerals.isSpace
  let field := cs.take 2
  let (negative, digits) := Numerals.takeSign field
  let ds := Numerals.leadingDigits 16 digits
  let value := UInt8.ofNat (Numerals.ofDigits 16 0 ds)
  if ds = [] ∨ field = "0x".toList ∨ field = "0X".toList then none
  else some (if negative then -value else value, cs.drop (field.length - digits.length + ds.length))

def scanBytes : Nat → Text → Option (List UInt8 × Text)
  | 0, cs => some ([], cs)
  | n + 1, cs => do
    let (byte, cs) ← scanByte cs
    let (bytes, cs) ← scanBytes n cs
    return (byte :: bytes, cs)

/-- Groups of bytes with dashes between them. -/
def scanGroups : List Nat → Text → Option (List UInt8)
  | [], _ => some []
  | [n], cs => (scanBytes n cs).map Prod.fst
  | n :: ns, cs => do
    let (bytes, cs) ← scanBytes n cs
    guard (cs.head? = some '-')
    let rest ← scanGroups ns cs.tail
    return bytes ++ rest

/-- An empty string is an UUID of zeros. -/
def parseUuid (str : Text) : Option StubUuid :=
  if str = [] then some (List.replicate 16 0)
  else if str.length ≠ 36 then none
  else scanGroups [4, 2, 2, 2, 6] str

/-! ## States -/

/-- The properties of a device as `ze_device_properties_t`. -/
structure CoreProperties (F : Type) where
  uuid : StubUuid
  fields : F

/-- `core.ze`, `coreUuid` and `uuid` are what the loader fills in. -/
structure DeviceProperties (F : Type) where
  baseCore : CoreProperties F
  extendedUuid : StubUuid
  coreZe : CoreProperties F
  coreUuid : Text
  uuid : Text
  fields : F

/-- A device of the file. -/
structure DeviceState (F : Type) where
  properties : Option (DeviceProperties F)
  fields : F

/-- A driver of the file, with its devices. -/
structure DriverState (F : Type) where
  devices : List (DeviceState F)
  fields : F

/-- `g_sysman_state`, where `none` is a field with zeros. -/
structure SysmanState (F : Type) where
  drivers : List (DriverState F) := []
  returnValues : Option F := none

/-- What is guarded by the lock of the state. -/
structure Store (F : Type) where
  state : SysmanState F := {}
  configPath : Text := []

/-- What a load asks of the environment: a variable, and the YAML loader, which may give an empty state. -/
structure LoadAnswers (F : Type) where
  getenv : Option Text
  loader : Text → Option (Option (SysmanState F))

variable {F : Type}

/-- The identifiers of a device are parsed. -/
def DeviceProperties.resolve (p : DeviceProperties F) : Option (DeviceProperties F) := do
  let coreUuid ← parseUuid p.coreUuid
  let uuid ← parseUuid p.uuid
  return { p with baseCore := { p.coreZe with uuid := coreUuid }, extendedUuid := uuid }

def DeviceState.resolve (dev : DeviceState F) : Option (DeviceState F) :=
  match dev.properties with
  | none => some dev
  | some p => p.resolve.map fun p => { dev with properties := some p }

def DriverState.resolve (drv : DriverState F) : Option (DriverState F) :=
  (drv.devices.mapM DeviceState.resolve).map fun devices => { drv with devices }

/-- The identifiers of all devices are parsed; one that is none fails all. -/
def resolveUuids (state : SysmanState F) : Option (SysmanState F) :=
  (state.drivers.mapM DriverState.resolve).map fun drivers => { state with drivers }

/-- `snprintf` into a buffer of `PATH_MAX` bytes. -/
def copyPath (path : Text) : Text := path.take 4095

/-- Loads the state, or leaves none. -/
def stateLoadLocked (answers : LoadAnswers F) (path : Option Text) (store : Store F) : Int × Store F :=
  match path.or answers.getenv with
  | none => (0, {})
  | some resolved =>
    match answers.loader resolved with
    | none => (-1, store)
    | some none => (-1, store)
    | some (some parsed) =>
      match resolveUuids parsed with
      | none => (-1, store)
      | some parsed => (0, ⟨parsed, copyPath resolved⟩)

/-- A load that fails changes nothing. -/
theorem stateLoadLocked_failed {answers : LoadAnswers F} {path : Option Text} {store : Store F}
    (h : (stateLoadLocked answers path store).1 = -1) : (stateLoadLocked answers path store).2 = store := by
  revert h
  rw [stateLoadLocked]
  cases path.or answers.getenv with
  | none => exact nofun
  | some resolved =>
    dsimp only
    rcases answers.loader resolved with _ | _ | parsed
    · exact fun _ => rfl
    · exact fun _ => rfl
    · dsimp only
      cases resolveUuids parsed with
      | none => exact fun _ => rfl
      | some parsed => exact nofun

end SysmanStub

end XpuManager
