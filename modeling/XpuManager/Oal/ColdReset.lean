import XpuManager.Lib.Bytes
import XpuManager.Lib.Polling
import XpuManager.Oal.DrmPath

/-! # The cold reset of a device

`coldResetViaSysfs` (`oal/lin/lin.cpp`) unbinds the driver of a device, switches the power of its slot
off and on again, and waits until the device is back. It may fail on every step of the way. -/

namespace XpuManager

open Prog

/-- A stream for writing cannot be opened, fails as it is written to, loses what was written when it is
closed, or passes it on. -/
inductive StreamWrite where
  | notOpened
  | failed
  | lost
  | taken
  deriving DecidableEq

/-- Nothing shows that the write went wrong. -/
def StreamWrite.passes : StreamWrite → Bool
  | .notOpened | .failed => false
  | .lost | .taken => true

/-- What the file system answers to one reset. -/
structure ResetAnswers where
  /-- There is a directory of the device at the beginning. -/
  gpuPresent : Bool
  /-- The names on the physical path of the device, from the root down. -/
  canonical : Option (List String)
  /-- The configuration space of the root port. -/
  config : Option (List UInt8)
  powerPresent : Bool
  /-- The first line of the address file of the slot. -/
  slotAddress : Option String
  /-- Where the driver link of the device leads at the beginning. -/
  driverLink : Option String
  unbind : StreamWrite
  powerOff : StreamWrite
  /-- The first line of the power file of the slot, a second after the power was switched off. -/
  powerState : Option String
  powerOn : StreamWrite
  /-- Whether the directory of the device is there, by the milliseconds after the power was on. -/
  presentAt : Nat → Bool
  /-- Where the driver link leads, by the milliseconds after the device was back. -/
  driverLinkAt : Nat → Option String
  bind : StreamWrite

/-- A write to a file, and how it went. -/
structure SysWrite where
  path : String
  content : String
  outcome : StreamWrite
  deriving DecidableEq

/-- An access to the file system. -/
inductive SysEvent where
  | looked (path : String)
  | read (path : String)
  | readLink (path : String)
  | written (write : SysWrite)
  deriving DecidableEq

def SysEvent.write? : SysEvent → Option SysWrite
  | .written write => some write
  | .looked _ | .read _ | .readLink _ => none

/-- The accesses so far. -/
abbrev SysTrace := List SysEvent

/-- An event is noted. -/
def note (event : SysEvent) : Prog SysTrace Unit := Prog.modify fun t => t ++ [event]

/-- What has been written so far. -/
def writes (t : SysTrace) : List SysWrite := t.filterMap SysEvent.write?

/-! ## Paths -/

/-- The directory of a device. -/
def devicePath (bdf : String) : String := "/sys/bus/pci/devices/" ++ bdf

/-- A file of a driver. -/
def driverFilePath (driverName action : String) : String :=
  "/sys/bus/pci/drivers/" ++ driverName ++ "/" ++ action

def slotDir (slotNum : Nat) : String := "/sys/bus/pci/slots/" ++ toString slotNum

def slotPowerPath (slotNum : Nat) : String := slotDir slotNum ++ "/power"

def slotAddrPath (slotNum : Nat) : String := slotDir slotNum ++ "/address"

/-! ## The slot of a device -/

def isHex (c : Char) : Bool :=
  ('0' ≤ c && c ≤ '9') || ('a' ≤ c && c ≤ 'f') || ('A' ≤ c && c ≤ 'F')

/-- An address as sysfs writes it. -/
def isValidBdf (bdf : String) : Bool :=
  match bdf.toList with
  | [d₀, d₁, d₂, d₃, ':', b₀, b₁, ':', n₀, n₁, '.', f] =>
    [d₀, d₁, d₂, d₃, b₀, b₁, n₀, n₁, f].all isHex
  | _ => false

/-- The way up from a device, given the names on it from the device to the root. -/
def walkUp : List String → Option String → Option String
  | [], candidate => candidate
  | name :: parents, candidate =>
    if "pci".toList.isPrefixOf (parents.headD "").toList then some name
    else walkUp parents (if isValidBdf name then some name else candidate)

/-- The root port above a device. -/
def rootPortOf (answers : ResetAnswers) (gpuBdf : String) : Option String :=
  if isValidBdf gpuBdf ∧ answers.gpuPresent then
    answers.canonical.bind fun names => walkUp names.reverse none
  else none

/-- The address of the root port above the device. -/
def findRootPortBdf (answers : ResetAnswers) (gpuBdf : String) : Prog SysTrace (Option String) := do
  if isValidBdf gpuBdf then
    note (.looked (devicePath gpuBdf))
    if answers.gpuPresent then
      note (.readLink (devicePath gpuBdf))
  pure (rootPortOf answers gpuBdf)

def pciCapIdExp : UInt8 := 0x10
def pciExpSltcapOffset : Nat := 0x14
def pciExpSltcapPcp : UInt32 := 0x0002
def pciExpSltcapHpc : UInt32 := 0x0040
def pciExpSltcapPsn : UInt32 := 0xFFF80000

/-- The walk over the capabilities, for so many entries at most. -/
def walkCapabilities (config : List UInt8) : Nat → UInt8 → Option UInt32
  | 0, _ => none
  | n + 1, capPtr =>
    if capPtr = 0 then none
    else
      match config[capPtr.toNat]? with
      | none => none
      | some capId =>
        if capId = pciCapIdExp then
          let register := (config.drop (capPtr.toNat + pciExpSltcapOffset)).take 4
          if register.length = 4 then some (UInt32.ofNat (ofLeBytes register)) else none
        else
          match config[capPtr.toNat + 1]? with
          | none => none
          | some nextPtr => walkCapabilities config n (nextPtr &&& 0xFC)

def maxCapEntries : Nat := 48

/-- The slot capabilities in a configuration space. -/
def slotCapabilities (config : List UInt8) : Option UInt32 :=
  match config[pciCapabilityList]? with
  | none => none
  | some capPtr => walkCapabilities config maxCapEntries (capPtr &&& 0xFC)

/-- The slot register of the root port. -/
def readSlotCapabilities (answers : ResetAnswers) (rootPortBdf : String) :
    Prog SysTrace (Option UInt32) := do
  note (.read (devicePath rootPortBdf ++ "/config"))
  pure (answers.config.bind slotCapabilities)

/-- The power of the slot can be switched. -/
def Switchable (slotCap : UInt32) : Prop :=
  slotCap &&& pciExpSltcapPcp ≠ 0 ∧ slotCap &&& pciExpSltcapHpc ≠ 0

instance (slotCap : UInt32) : Decidable (Switchable slotCap) := instDecidableAnd

/-- The number of the slot in its register. -/
def slotNumber (slotCap : UInt32) : Nat := ((slotCap &&& pciExpSltcapPsn) >>> 19).toNat

/-- An address without its function. -/
def withoutFunction (bdf : String) : String :=
  if '.' ∈ bdf.toList then
    String.ofList ((bdf.toList.reverse.dropWhile (· ≠ '.')).drop 1).reverse
  else bdf

/-! ## The power cycle -/

def reenumTimeoutMs : Nat := 10000
def bindTimeoutMs : Nat := 5000
def pollIntervalMs : Nat := 200

/-- The name of the driver that a link leads to. -/
def driverNameOf : Option String → String
  | none => ""
  | some target => fileName target

/-- The name of the driver that the device is bound to. -/
def getPciDriverName (link : Option String) (bdf : String) : Prog SysTrace String := do
  note (.readLink (devicePath bdf ++ "/driver"))
  pure (driverNameOf link)

/-- A file is written through a stream. -/
def writeStream (path content : String) (outcome : StreamWrite) : Prog SysTrace Bool := do
  note (.written ⟨path, content, outcome⟩)
  pure outcome.passes

/-- The address of a device is written to a file of its driver. -/
def writeToPciDriverFile (outcome : StreamWrite) (driverName action bdf : String) :
    Prog SysTrace Bool :=
  writeStream (driverFilePath driverName action) bdf outcome

section Cycle

variable (answers : ResetAnswers) (gpuBdf : String) (slotNum : Nat)

/-- A code of 0 goes on. -/
def unbindDriver (driverName : String) : Prog SysTrace Int := do
  if driverName ≠ "" then
    let ok ← writeToPciDriverFile answers.unbind driverName "unbind" gpuBdf
    pure (if ok then 0 else 1)
  else pure 0

/-- The slot is switched off. -/
def switchOff : Prog SysTrace Int := do
  let ok ← writeStream (slotPowerPath slotNum) "0" answers.powerOff
  pure (if ok then 0 else 1)

/-- The slot has to say that it is off. -/
def confirmOff : Prog SysTrace Int := do
  note (.read (slotPowerPath slotNum))
  pure (if answers.powerState = some "0" then 0 else 1)

/-- The slot is switched on. -/
def switchOn : Prog SysTrace Int := do
  let ok ← writeStream (slotPowerPath slotNum) "1" answers.powerOn
  pure (if ok then 0 else 1)

/-- One poll for the device, after the wait. The answer is the time that has passed. -/
def lookForDevice (elapsed : Nat) : Prog SysTrace (Option Nat) := do
  note (.looked (devicePath gpuBdf))
  pure (if answers.presentAt (elapsed + pollIntervalMs) then some (elapsed + pollIntervalMs) else none)

/-- The device is waited for. -/
def awaitDevice : Prog SysTrace Int := do
  let elapsed ← Prog.loop (Polling.turn reenumTimeoutMs pollIntervalMs (lookForDevice answers gpuBdf)
    id) (reenumTimeoutMs / pollIntervalMs + 1) 0
  pure (if reenumTimeoutMs ≤ elapsed then 1 else 0)

/-- One poll for a driver, before the wait. -/
def lookForDriver (bindElapsed : Nat) : Prog SysTrace (Option String) := do
  let boundDriver ← getPciDriverName (answers.driverLinkAt bindElapsed) gpuBdf
  pure (if boundDriver ≠ "" then some boundDriver else none)

/-- The driver is waited for, and bound where it does not come by itself. -/
def rebindDriver (driverName : String) : Prog SysTrace Int := do
  if driverName ≠ "" then
    let boundDriver ← Prog.loop (Polling.turn bindTimeoutMs pollIntervalMs
      (lookForDriver answers gpuBdf) fun _ => "") (bindTimeoutMs / pollIntervalMs + 1) 0
    if boundDriver = "" then
      let ok ← writeToPciDriverFile answers.bind driverName "bind" gpuBdf
      pure (if ok then 0 else 1)
    else pure 0
  else pure 0

/-- Off and on again. -/
def cycleSlot (driverName : String) : Prog SysTrace Int :=
  Prog.chain 0 (switchOff answers slotNum) <|
    Prog.chain 0 (confirmOff answers slotNum) <|
    Prog.chain 0 (switchOn answers slotNum) <|
    Prog.chain 0 (awaitDevice answers gpuBdf) (rebindDriver answers gpuBdf driverName)

/-- What is left to do once the slot is known to be that of the device. -/
def cyclePower : Prog SysTrace Int := do
  let driverName ← getPciDriverName answers.driverLink gpuBdf
  Prog.chain 0 (unbindDriver answers gpuBdf driverName)
    (cycleSlot answers gpuBdf slotNum driverName)

/-- 0 on success, -1 if the slot cannot be switched, 1 if something fails. -/
def coldResetViaSysfs : Prog SysTrace Int := do
  match ← findRootPortBdf answers gpuBdf with
  | none => pure 1
  | some rootPortBdf =>
    match ← readSlotCapabilities answers rootPortBdf with
    | none => pure 1
    | some slotCap =>
      if Switchable slotCap then
        note (.looked (slotPowerPath (slotNumber slotCap)))
        if answers.powerPresent then
          note (.read (slotAddrPath (slotNumber slotCap)))
          if answers.slotAddress = some (withoutFunction rootPortBdf) then
            cyclePower answers gpuBdf (slotNumber slotCap)
          else pure 1
        else pure (-1)
      else pure (-1)

end Cycle

/-! ## What a reset does -/

@[simp] theorem writes_append (t u : SysTrace) : writes (t ++ u) = writes t ++ writes u :=
  List.filterMap_append

/-- A run leaves with a code, and `E` holds of the code and of what it has written, which is known if
the code is not 0. -/
def LeavesWith (m : Prog SysTrace Int) (t : SysTrace) (E : Int → List SysWrite → Prop) : Prop :=
  ∃ code u ws, m t = (.ret code, u) ∧ (code ≠ 0 → writes u = writes t ++ ws) ∧ E code ws

/-- A step that writes `ws` goes on if `c` holds, and leaves with 1 otherwise. -/
def Checks (m : Prog SysTrace Int) (t : SysTrace) (c : Prop) (ws : List SysWrite) : Prop :=
  ∃ u, writes u = writes t ++ ws ∧ (c ∧ m t = (.ret 0, u) ∨ ¬c ∧ m t = (.ret 1, u))

/-- **Chain rule.** -/
theorem Checks.chain {m k : Prog SysTrace Int} {t : SysTrace} {c : Prop} {ws : List SysWrite}
    {E : Int → List SysWrite → Prop} (hm : Checks m t c ws) (hstop : ¬c → E 1 ws)
    (hgo : c → ∀ u, LeavesWith k u fun code ws' => E code (ws ++ ws')) :
    LeavesWith (Prog.chain 0 m k) t E := by
  obtain ⟨u, hu, ⟨hc, hrun⟩ | ⟨hc, hrun⟩⟩ := hm
  · obtain ⟨code, v, ws', hv, hwrites, hE⟩ := hgo hc u
    refine ⟨code, v, ws ++ ws', ?_, fun hcode => ?_, hE⟩
    · rw [Prog.chain, bind_of_ret hrun, if_pos rfl, hv]
    · rw [hwrites hcode, hu, List.append_assoc]
  · refine ⟨1, u, ws, ?_, fun _ => hu, hstop hc⟩
    rw [Prog.chain, bind_of_ret hrun, if_neg (by decide), pure_apply]

/-- An access that is no write does not count. -/
theorem writes_note {event : SysEvent} (hevent : event.write? = none) (t : SysTrace) :
    writes (t ++ [event]) = writes t := by
  have hnone : writes [event] = [] := List.filterMap_cons_none hevent
  rw [writes_append, hnone, List.append_nil]

/-- A step that has written nothing. -/
theorem LeavesWith.bind {α : Type} {m : Prog SysTrace α} {k : α → Prog SysTrace Int}
    {t u : SysTrace} {x : α} {E : Int → List SysWrite → Prop} (hm : m t = (.ret x, u))
    (hu : writes u = writes t) (hk : LeavesWith (k x) u E) : LeavesWith (m >>= k) t E := by
  obtain ⟨code, v, ws, hrun, hwrites, hE⟩ := hk
  refine ⟨code, v, ws, (bind_of_ret hm).trans hrun, fun hcode => ?_, hE⟩
  rw [hwrites hcode, hu]

theorem LeavesWith.mono {m : Prog SysTrace Int} {t : SysTrace} {E E' : Int → List SysWrite → Prop}
    (h : LeavesWith m t E) (hE : ∀ code ws, E code ws → E' code ws) : LeavesWith m t E' := by
  obtain ⟨code, u, ws, hrun, hwrites, hends⟩ := h
  exact ⟨code, u, ws, hrun, hwrites, hE code ws hends⟩

/-- Nothing has been written yet. -/
theorem leavesWith_pure (code : Int) (t : SysTrace) {E : Int → List SysWrite → Prop} (h : E code []) :
    LeavesWith (pure code) t E :=
  ⟨code, t, [], rfl, fun _ => (List.append_nil _).symm, h⟩

/-- An access after which the code is a matter of `c`. -/
theorem checks_note (event : SysEvent) (c : Prop) [Decidable c] (t : SysTrace) :
    Checks (do note event; pure (if c then 0 else 1)) t c (writes [event]) := by
  refine ⟨t ++ [event], writes_append t _, ?_⟩
  by_cases hc : c
  · exact .inl ⟨hc, by rw [if_pos hc]; rfl⟩
  · exact .inr ⟨hc, by rw [if_neg hc]; rfl⟩

section Steps

variable (answers : ResetAnswers) (gpuBdf : String) (slotNum : Nat) (driverName : String)

/-- The write to the power file that switches the slot off. -/
def offWrite : SysWrite := ⟨slotPowerPath slotNum, "0", answers.powerOff⟩

/-- The write to the power file that switches the slot on. -/
def onWrite : SysWrite := ⟨slotPowerPath slotNum, "1", answers.powerOn⟩

def unbindWrite : SysWrite := ⟨driverFilePath driverName "unbind", gpuBdf, answers.unbind⟩

def bindWrite : SysWrite := ⟨driverFilePath driverName "bind", gpuBdf, answers.bind⟩

/-- The driver that is bound at the beginning. -/
def initialDriver : String := driverNameOf answers.driverLink

/-- What is written before the slot is switched off. -/
def unbindWrites : List SysWrite :=
  if initialDriver answers = "" then [] else [unbindWrite answers gpuBdf (initialDriver answers)]

/-- The driver lets go of the device, if there is one. -/
def Unbinds : Prop := initialDriver answers = "" ∨ answers.unbind.passes = true

/-- The device is seen before the last poll. -/
def ReEnumerates : Prop :=
  ∃ k, (k + 1) * pollIntervalMs < reenumTimeoutMs ∧ answers.presentAt ((k + 1) * pollIntervalMs) = true

/-- **How a slot that is switched off and on again ends**, by the code and what has been written. -/
inductive SlotEnds : Int → List SysWrite → Prop
  | staysOn (hoff : answers.powerOff.passes = false) : SlotEnds 1 [offWrite answers slotNum]
  | notConfirmed (hoff : answers.powerOff.passes = true) (hstate : answers.powerState ≠ some "0") :
      SlotEnds 1 [offWrite answers slotNum]
  | staysOff (hoff : answers.powerOff.passes = true) (hstate : answers.powerState = some "0")
      (hon : answers.powerOn.passes = false) :
      SlotEnds 1 [offWrite answers slotNum, onWrite answers slotNum]
  | timesOut (hoff : answers.powerOff.passes = true) (hstate : answers.powerState = some "0")
      (hon : answers.powerOn.passes = true) (hback : ¬ReEnumerates answers) :
      SlotEnds 1 [offWrite answers slotNum, onWrite answers slotNum]
  | notRebound (hoff : answers.powerOff.passes = true) (hstate : answers.powerState = some "0")
      (hon : answers.powerOn.passes = true) (hback : ReEnumerates answers) :
      SlotEnds 1 [offWrite answers slotNum, onWrite answers slotNum,
        bindWrite answers gpuBdf driverName]
  | done (hoff : answers.powerOff.passes = true) (hstate : answers.powerState = some "0")
      (hon : answers.powerOn.passes = true) (hback : ReEnumerates answers) (ws : List SysWrite) :
      SlotEnds 0 ws

variable {answers gpuBdf slotNum driverName} {t : SysTrace}

theorem switchOff_checks (slotNum : Nat) (t : SysTrace) : Checks (switchOff answers slotNum) t
    (answers.powerOff.passes = true) [offWrite answers slotNum] :=
  checks_note (.written (offWrite answers slotNum)) _ t

theorem confirmOff_checks (slotNum : Nat) (t : SysTrace) :
    Checks (confirmOff answers slotNum) t (answers.powerState = some "0") [] :=
  checks_note (.read (slotPowerPath slotNum)) _ t

theorem switchOn_checks (slotNum : Nat) (t : SysTrace) : Checks (switchOn answers slotNum) t
    (answers.powerOn.passes = true) [onWrite answers slotNum] :=
  checks_note (.written (onWrite answers slotNum)) _ t

theorem unbindDriver_checks (gpuBdf : String) (t : SysTrace) :
    Checks (unbindDriver answers gpuBdf (initialDriver answers)) t (Unbinds answers)
      (unbindWrites answers gpuBdf) := by
  rw [unbindDriver, unbindWrites, Unbinds]
  by_cases hdriver : initialDriver answers = ""
  · rw [if_neg (not_not_intro hdriver), if_pos hdriver]
    exact ⟨t, (List.append_nil _).symm, .inl ⟨.inl hdriver, rfl⟩⟩
  · rw [if_pos hdriver, if_neg hdriver, or_iff_right hdriver]
    exact checks_note (.written (unbindWrite answers gpuBdf (initialDriver answers))) _ t

/-- Polls write nothing. -/
theorem writes_iterate (event : SysEvent) (hevent : event.write? = none) (k : Nat) :
    writes ((fun t => t ++ [event])^[k] t) = writes t := by
  induction k generalizing t with
  | zero => rfl
  | succ k ih =>
    rw [Function.iterate_succ_apply, ih, writes_note hevent]

/-- The time that has passed when the poll `k` is made. -/
theorem pollTime (k : Nat) : 0 + k * pollIntervalMs + pollIntervalMs = (k + 1) * pollIntervalMs := by
  rw [Nat.zero_add, Nat.succ_mul]

/-- The device is seen at some poll for the first time, or at none. -/
theorem awaitDevice_cases (answers : ResetAnswers) (gpuBdf : String) (t : SysTrace) :
    (∃ k < reenumTimeoutMs / pollIntervalMs, answers.presentAt ((k + 1) * pollIntervalMs) = true ∧
        (∀ j < k, answers.presentAt ((j + 1) * pollIntervalMs) = false) ∧
        awaitDevice answers gpuBdf t =
          (.ret (if reenumTimeoutMs ≤ (k + 1) * pollIntervalMs then 1 else 0),
            (fun t => t ++ [.looked (devicePath gpuBdf)])^[k + 1] t)) ∨
      ((∀ k < reenumTimeoutMs / pollIntervalMs,
          answers.presentAt ((k + 1) * pollIntervalMs) = false) ∧
        awaitDevice answers gpuBdf t =
          (.ret 1, (fun t => t ++ [.looked (devicePath gpuBdf)])^[reenumTimeoutMs / pollIntervalMs] t)) := by
  have hask (elapsed : Nat) (s : SysTrace) : lookForDevice answers gpuBdf elapsed s =
      (.ret (if answers.presentAt (elapsed + pollIntervalMs) then some (elapsed + pollIntervalMs)
        else none), s ++ [.looked (devicePath gpuBdf)]) := rfl
  have hturns : reenumTimeoutMs = 0 + reenumTimeoutMs / pollIntervalMs * pollIntervalMs := by decide
  have hcode {elapsed : Nat} {u : SysTrace} (hloop : Prog.loop (Polling.turn reenumTimeoutMs
      pollIntervalMs (lookForDevice answers gpuBdf) id) (reenumTimeoutMs / pollIntervalMs + 1) 0 t =
        (.ret elapsed, u)) :
      awaitDevice answers gpuBdf t = (.ret (if reenumTimeoutMs ≤ elapsed then 1 else 0), u) := by
    rw [awaitDevice, bind_of_ret hloop, pure_apply]
  rcases Polling.loop_turn_cases hask (by decide) hturns id t with
    ⟨k, hk, a, ha, hbefore, hloop⟩ | ⟨hnone, hloop⟩
  · rw [pollTime, Option.ite_none_right_eq_some] at ha
    obtain ⟨hpresent, ha⟩ := ha
    obtain rfl := Option.some.inj ha
    refine .inl ⟨k, hk, hpresent, fun j hj => ?_, hcode hloop⟩
    have hnot := hbefore j hj
    rw [pollTime] at hnot
    simpa using hnot
  · refine .inr ⟨fun j hj => ?_, by rw [hcode hloop, id_eq, if_pos (Nat.le_refl _)]⟩
    have hnot := hnone j hj
    rw [pollTime] at hnot
    simpa using hnot

theorem not_reEnumerates {n : Nat} (hn : ∀ j < n, answers.presentAt ((j + 1) * pollIntervalMs) = false)
    (hlate : reenumTimeoutMs ≤ (n + 1) * pollIntervalMs) : ¬ReEnumerates answers := by
  rintro ⟨j, hj, hpresent⟩
  have hjn : j < n := by
    have := Nat.lt_of_mul_lt_mul_right (hj.trans_le hlate)
    omega
  rw [hn j hjn] at hpresent
  cases hpresent

theorem awaitDevice_checks (t : SysTrace) :
    Checks (awaitDevice answers gpuBdf) t (ReEnumerates answers) [] := by
  have hwrites (k : Nat) := writes_iterate (t := t) (.looked (devicePath gpuBdf)) rfl k
  rcases awaitDevice_cases answers gpuBdf t with ⟨k, -, hpresent, hearlier, hrun⟩ | ⟨hnever, hrun⟩
  · refine ⟨_, (hwrites (k + 1)).trans (List.append_nil _).symm, ?_⟩
    -- The device may be there at the last poll, and still be too late.
    by_cases htime : reenumTimeoutMs ≤ (k + 1) * pollIntervalMs
    · exact .inr ⟨not_reEnumerates hearlier htime, by rw [hrun, if_pos htime]⟩
    · exact .inl ⟨⟨k, Nat.lt_of_not_le htime, hpresent⟩, by rw [hrun, if_neg htime]⟩
  · refine ⟨_, (hwrites (reenumTimeoutMs / pollIntervalMs)).trans (List.append_nil _).symm, ?_⟩
    exact .inr ⟨not_reEnumerates hnever (by decide), hrun⟩

/-- A driver is seen at some poll, or it is tried to bind one. -/
theorem rebindDriver_cases (answers : ResetAnswers) (gpuBdf : String) {driverName : String}
    (hname : driverName ≠ "") (t : SysTrace) :
    (∃ k < bindTimeoutMs / pollIntervalMs,
        driverNameOf (answers.driverLinkAt (k * pollIntervalMs)) ≠ "" ∧
        ∃ u, rebindDriver answers gpuBdf driverName t = (.ret 0, u)) ∨
      ((∀ k < bindTimeoutMs / pollIntervalMs,
          driverNameOf (answers.driverLinkAt (k * pollIntervalMs)) = "") ∧
        rebindDriver answers gpuBdf driverName t = (.ret (if answers.bind.passes then 0 else 1),
          (fun t => t ++ [.readLink (devicePath gpuBdf ++ "/driver")])^[bindTimeoutMs / pollIntervalMs] t ++
            [.written (bindWrite answers gpuBdf driverName)])) := by
  have hask (elapsed : Nat) (s : SysTrace) : lookForDriver answers gpuBdf elapsed s =
      (.ret (if driverNameOf (answers.driverLinkAt elapsed) ≠ "" then
        some (driverNameOf (answers.driverLinkAt elapsed)) else none),
        s ++ [.readLink (devicePath gpuBdf ++ "/driver")]) := rfl
  have hturns : bindTimeoutMs = 0 + bindTimeoutMs / pollIntervalMs * pollIntervalMs := by decide
  rcases Polling.loop_turn_cases hask (by decide) hturns (fun _ => "") t with
    ⟨k, hk, a, ha, -, hloop⟩ | ⟨hnone, hloop⟩
  · rw [Option.ite_none_right_eq_some, Nat.zero_add] at ha
    obtain ⟨hbound, ha⟩ := ha
    obtain rfl := Option.some.inj ha
    refine .inl ⟨k, hk, hbound, ?_⟩
    rw [rebindDriver, if_pos hname, bind_of_ret hloop, if_neg hbound]
    exact ⟨_, rfl⟩
  · refine .inr ⟨fun k hk => ?_, ?_⟩
    · have hnot := hnone k hk
      rw [Nat.zero_add] at hnot
      simpa using hnot
    · rw [rebindDriver, if_pos hname, bind_of_ret hloop, if_pos rfl]
      rfl

/-- A driver that cannot be bound has been tried. -/
theorem rebindDriver_leaves (answers : ResetAnswers) (gpuBdf driverName : String) (t : SysTrace) :
    LeavesWith (rebindDriver answers gpuBdf driverName) t fun code ws =>
      code = 0 ∨ code = 1 ∧ ws = [bindWrite answers gpuBdf driverName] := by
  have hdone (hrun : ∃ u, rebindDriver answers gpuBdf driverName t = (.ret 0, u)) :
      LeavesWith (rebindDriver answers gpuBdf driverName) t fun code ws =>
        code = 0 ∨ code = 1 ∧ ws = [bindWrite answers gpuBdf driverName] := by
    obtain ⟨u, hu⟩ := hrun
    exact ⟨0, u, [], hu, fun h => absurd rfl h, .inl rfl⟩
  by_cases hname : driverName ≠ ""
  case neg => exact hdone ⟨t, by rw [rebindDriver, if_neg hname]; rfl⟩
  rcases rebindDriver_cases answers gpuBdf hname t with ⟨_, _, _, hrun⟩ | ⟨-, hrun⟩
  · exact hdone hrun
  · by_cases hbind : answers.bind.passes
    · exact hdone ⟨_, by rw [hrun, if_pos hbind]⟩
    · refine ⟨1, _, [bindWrite answers gpuBdf driverName], by rw [hrun, if_neg hbind], fun _ => ?_,
        .inr ⟨rfl, rfl⟩⟩
      rw [writes_append, writes_iterate _ rfl]
      rfl

/-- **Step lemma.** Switching the slot off and on leaves in one of these ways. -/
theorem cycleSlot_leaves (t : SysTrace) :
    LeavesWith (cycleSlot answers gpuBdf slotNum driverName) t
      (SlotEnds answers gpuBdf slotNum driverName) := by
  refine (switchOff_checks slotNum t).chain (fun hoff => .staysOn (Bool.eq_false_iff.mpr hoff))
    fun hoff u => ?_
  refine (confirmOff_checks slotNum u).chain (fun hstate => .notConfirmed hoff hstate) fun hstate u => ?_
  refine (switchOn_checks slotNum u).chain (fun hon => .staysOff hoff hstate (Bool.eq_false_iff.mpr hon))
    fun hon u => ?_
  refine (awaitDevice_checks u).chain (fun hback => .timesOut hoff hstate hon hback) fun hback u => ?_
  obtain ⟨code, v, ws, hrun, hwrites, rfl | ⟨rfl, rfl⟩⟩ :=
    rebindDriver_leaves answers gpuBdf driverName u
  · exact ⟨0, v, ws, hrun, hwrites, .done hoff hstate hon hback _⟩
  · exact ⟨1, v, _, hrun, hwrites, .notRebound hoff hstate hon hback⟩

end Steps

/-! ## Ways to end -/

section Ends

variable (answers : ResetAnswers) (gpuBdf : String)

/-- The slot of the device is found and can be switched. -/
def SlotFound (slotNum : Nat) : Prop :=
  ∃ rootPortBdf slotCap, rootPortOf answers gpuBdf = some rootPortBdf ∧
    answers.config.bind slotCapabilities = some slotCap ∧ Switchable slotCap ∧
    slotNum = slotNumber slotCap ∧ answers.powerPresent = true ∧
    answers.slotAddress = some (withoutFunction rootPortBdf)

/-- **How a reset ends**, by its code and what it has written. -/
inductive ResetEnds : Int → List SysWrite → Prop
  | turnedDown (code : Int) (hslot : ∀ slotNum, ¬SlotFound answers gpuBdf slotNum) :
      ResetEnds code []
  | keepsDriver (hunbind : ¬Unbinds answers) : ResetEnds 1 (unbindWrites answers gpuBdf)
  | cycled {slotNum : Nat} {code : Int} {ws : List SysWrite}
      (hslot : SlotFound answers gpuBdf slotNum) (hunbind : Unbinds answers)
      (hends : SlotEnds answers gpuBdf slotNum (initialDriver answers) code ws) :
      ResetEnds code (unbindWrites answers gpuBdf ++ ws)

variable {answers gpuBdf}

theorem cyclePower_leaves {slotNum : Nat} (hslot : SlotFound answers gpuBdf slotNum) (t : SysTrace) :
    LeavesWith (cyclePower answers gpuBdf slotNum) t (ResetEnds answers gpuBdf) := by
  have hdriver : getPciDriverName answers.driverLink gpuBdf t = (.ret (initialDriver answers),
      t ++ [.readLink (devicePath gpuBdf ++ "/driver")]) := rfl
  refine .bind hdriver (writes_note rfl t) ?_
  refine (unbindDriver_checks gpuBdf _).chain (fun hunbind => .keepsDriver hunbind) fun hunbind u => ?_
  exact (cycleSlot_leaves u).mono fun _ _ hends => .cycled hslot hunbind hends

/-- The walk finds the root port and writes nothing. -/
theorem findRootPortBdf_apply (answers : ResetAnswers) (gpuBdf : String) (t : SysTrace) :
    ∃ u, findRootPortBdf answers gpuBdf t = (.ret (rootPortOf answers gpuBdf), u) ∧
      writes u = writes t := by
  by_cases hvalid : isValidBdf gpuBdf
  · by_cases hpresent : answers.gpuPresent
    · refine ⟨t ++ [.looked (devicePath gpuBdf)] ++ [.readLink (devicePath gpuBdf)], ?_, ?_⟩
      · rw [findRootPortBdf, if_pos hvalid, if_pos hpresent]
        rfl
      · rw [writes_note rfl, writes_note rfl]
    · refine ⟨t ++ [.looked (devicePath gpuBdf)], ?_, writes_note rfl t⟩
      rw [findRootPortBdf, if_pos hvalid, if_neg hpresent]
      rfl
  · refine ⟨t, ?_, rfl⟩
    rw [findRootPortBdf, if_neg hvalid]
    rfl

/-- **Run lemma.** A reset ends in one of these ways. -/
theorem coldResetViaSysfs_leaves (answers : ResetAnswers) (gpuBdf : String) (t : SysTrace) :
    LeavesWith (coldResetViaSysfs answers gpuBdf) t (ResetEnds answers gpuBdf) := by
  -- Each check that fails turns the reset down before anything is written.
  have hdown (code : Int) {v : SysTrace} (hnot : ∀ slotNum, ¬SlotFound answers gpuBdf slotNum) :
      LeavesWith (pure code) v (ResetEnds answers gpuBdf) :=
    leavesWith_pure code v (.turnedDown code hnot)
  obtain ⟨u, hroot, hu⟩ := findRootPortBdf_apply answers gpuBdf t
  refine .bind hroot hu ?_
  cases hport : rootPortOf answers gpuBdf with
  | none =>
    refine hdown 1 ?_
    rintro slotNum ⟨rootPortBdf, slotCap, hfound, -⟩
    rw [hport] at hfound
    cases hfound
  | some rootPortBdf =>
  refine .bind rfl (writes_note rfl u) ?_
  cases hcap : answers.config.bind slotCapabilities with
  | none =>
    refine hdown 1 ?_
    rintro slotNum ⟨-, slotCap, -, hfound, -⟩
    rw [hcap] at hfound
    cases hfound
  | some slotCap =>
  have honly {slotNum : Nat} (hslot : SlotFound answers gpuBdf slotNum) : Switchable slotCap ∧
      answers.powerPresent = true ∧ answers.slotAddress = some (withoutFunction rootPortBdf) := by
    obtain ⟨rootPortBdf', slotCap', hport', hcap', hswitch, -, hpresent, haddress⟩ := hslot
    obtain rfl := Option.some.inj (hport.symm.trans hport')
    obtain rfl := Option.some.inj (hcap.symm.trans hcap')
    exact ⟨hswitch, hpresent, haddress⟩
  dsimp only
  by_cases hswitch : Switchable slotCap
  case neg =>
    rw [if_neg hswitch]
    exact hdown (-1) fun _ h => hswitch (honly h).1
  rw [if_pos hswitch]
  refine .bind rfl (writes_note rfl _) ?_
  by_cases hpresent : answers.powerPresent
  case neg =>
    rw [if_neg hpresent]
    exact hdown (-1) fun _ h => hpresent (honly h).2.1
  rw [if_pos hpresent]
  refine .bind rfl (writes_note rfl _) ?_
  by_cases haddress : answers.slotAddress = some (withoutFunction rootPortBdf)
  case neg =>
    rw [if_neg haddress]
    exact hdown 1 fun _ h => haddress (honly h).2.2
  rw [if_pos haddress]
  exact cyclePower_leaves ⟨rootPortBdf, slotCap, hport, hcap, hswitch, rfl, hpresent, haddress⟩ _

end Ends

/-! ## What a reset should not leave behind -/

/-- The last value that a file has taken. -/
def lastValue (path : String) (ws : List SysWrite) : Option String :=
  ((ws.filter fun w => w.path = path ∧ w.outcome = .taken).getLast?).map SysWrite.content

/-- A reset that has switched a slot off has tried to switch it on, and one that has unbound a driver
has tried to bind it. -/
@[mk_iff]
structure Restored (gpuBdf : String) (ws : List SysWrite) : Prop where
  power : ∀ slotNum, lastValue (slotPowerPath slotNum) ws = some "0" →
    ∃ w ∈ ws, w.path = slotPowerPath slotNum ∧ w.content = "1"
  driver : ∀ driverName, ⟨driverFilePath driverName "unbind", gpuBdf, .taken⟩ ∈ ws →
    ∃ w ∈ ws, w.path = driverFilePath driverName "bind" ∧ w.content = gpuBdf

/-- The reset unbinds a driver. -/
def TakesDriver (answers : ResetAnswers) : Prop :=
  initialDriver answers ≠ "" ∧ answers.unbind = .taken

/-- Whatever is undone can be made good: the device comes back after its driver was unbound, and the
slot is seen to be off when it has been switched off. -/
structure Recovers (answers : ResetAnswers) : Prop where
  driver : TakesDriver answers → answers.powerOff.passes = true ∧ answers.powerState = some "0" ∧
    answers.powerOn.passes = true ∧ ReEnumerates answers
  power : answers.powerOff = .taken → answers.powerState = some "0"

theorem driverFilePath_eq (driverName action : String) : driverFilePath driverName action =
    "/sys/bus/pci/drivers/" ++ driverName ++ ("/" ++ action) := String.append_assoc

theorem driverFilePath_inj {driverName driverName' action action' : String}
    (haction : IsLeaf ("/" ++ action)) (haction' : IsLeaf ("/" ++ action'))
    (h : driverFilePath driverName action = driverFilePath driverName' action') :
    driverName = driverName' ∧ "/" ++ action = "/" ++ action' := by
  rw [driverFilePath_eq, driverFilePath_eq] at h
  obtain ⟨hdir, hleaf⟩ := path_inj haction haction' h
  have hlist := congrArg String.toList hdir
  rw [String.toList_append, String.toList_append] at hlist
  exact ⟨String.toList_inj.mp (List.append_cancel_left hlist), hleaf⟩

theorem unbindPath_inj {driverName driverName' : String}
    (h : driverFilePath driverName "unbind" = driverFilePath driverName' "unbind") :
    driverName = driverName' :=
  (driverFilePath_inj (by decide) (by decide) h).1

theorem unbindPath_ne_bindPath (driverName driverName' : String) :
    driverFilePath driverName "unbind" ≠ driverFilePath driverName' "bind" := fun h =>
  absurd (driverFilePath_inj (by decide) (by decide) h).2 (by decide)

theorem driverFilePath_ne_slotPowerPath {action : String} (haction : IsLeaf ("/" ++ action))
    (hne : "/" ++ action ≠ "/power") (driverName : String) (slotNum : Nat) :
    driverFilePath driverName action ≠ slotPowerPath slotNum := by
  rw [driverFilePath_eq, slotPowerPath]
  exact fun h => hne (path_inj haction (by decide) h).2

theorem unbindPath_ne_slotPowerPath (driverName : String) (slotNum : Nat) :
    driverFilePath driverName "unbind" ≠ slotPowerPath slotNum :=
  driverFilePath_ne_slotPowerPath (by decide) (by decide) driverName slotNum

theorem bindPath_ne_slotPowerPath (driverName : String) (slotNum : Nat) :
    driverFilePath driverName "bind" ≠ slotPowerPath slotNum :=
  driverFilePath_ne_slotPowerPath (by decide) (by decide) driverName slotNum

section Restores

variable {answers : ResetAnswers} {gpuBdf : String} {slotNum : Nat} {ws : List SysWrite} {w : SysWrite}

theorem mem_unbindWrites : w ∈ unbindWrites answers gpuBdf ↔
    initialDriver answers ≠ "" ∧ w = unbindWrite answers gpuBdf (initialDriver answers) := by
  rw [unbindWrites]
  split
  case isTrue h => simp [h]
  case isFalse h => simp [h]

/-- A file with a last value has been written. -/
theorem exists_of_lastValue {path value : String} (h : lastValue path ws = some value) :
    ∃ w ∈ ws, w.path = path ∧ w.content = value ∧ w.outcome = .taken := by
  obtain ⟨w, hw, hcontent⟩ := Option.map_eq_some_iff.mp h
  obtain ⟨hmem, hpath⟩ := List.mem_filter.mp (List.mem_of_getLast? hw)
  have hw := of_decide_eq_true hpath
  exact ⟨w, hmem, hw.1, hcontent, hw.2⟩

theorem slotPath_ne_of_unbind (hw : w ∈ unbindWrites answers gpuBdf) (slotNum : Nat) :
    w.path ≠ slotPowerPath slotNum := by
  obtain ⟨-, rfl⟩ := mem_unbindWrites.mp hw
  exact unbindPath_ne_slotPowerPath _ slotNum

/-- Writes to the power file of a slot, and such that bind a driver. -/
def CycleWrites (slotNum : Nat) (ws : List SysWrite) : Prop :=
  ∀ w ∈ ws, w.path = slotPowerPath slotNum ∨ ∃ driverName, w.path = driverFilePath driverName "bind"

/-- A slot that is only switched off. -/
theorem power_off_iff : (∀ slot, lastValue (slotPowerPath slot)
      (unbindWrites answers gpuBdf ++ [offWrite answers slotNum]) = some "0" →
        ∃ w ∈ unbindWrites answers gpuBdf ++ [offWrite answers slotNum],
          w.path = slotPowerPath slot ∧ w.content = "1") ↔ answers.powerOff ≠ .taken := by
  constructor
  · intro h htaken
    obtain ⟨w, hw, hpath, hone⟩ := h slotNum (by
      rw [lastValue, List.filter_append, List.filter_cons_of_pos (by simp [offWrite, htaken]),
        List.filter_nil, List.getLast?_append]
      rfl)
    rcases List.mem_append.mp hw with hw | hw
    · exact slotPath_ne_of_unbind hw slotNum hpath
    · obtain rfl := List.mem_singleton.mp hw
      have hcontent : "0" = "1" := hone
      exact absurd hcontent (by decide)
  · intro hnot slot hlast
    obtain ⟨w, hw, hpath, -, htaken⟩ := exists_of_lastValue hlast
    rcases List.mem_append.mp hw with hw | hw
    · exact absurd hpath (slotPath_ne_of_unbind hw slot)
    · obtain rfl := List.mem_singleton.mp hw
      exact absurd htaken hnot

/-- A slot that is switched on, or at least tried to. -/
theorem power_on (hon : onWrite answers slotNum ∈ ws) (hws : CycleWrites slotNum ws) (slot : Nat)
    (h : lastValue (slotPowerPath slot) (unbindWrites answers gpuBdf ++ ws) = some "0") :
    ∃ w ∈ unbindWrites answers gpuBdf ++ ws, w.path = slotPowerPath slot ∧ w.content = "1" := by
  obtain ⟨w, hw, hpath, -⟩ := exists_of_lastValue h
  rcases List.mem_append.mp hw with hw | hw
  · exact absurd hpath (slotPath_ne_of_unbind hw slot)
  · rcases hws w hw with hslot | ⟨driverName, hbind⟩
    · exact ⟨_, List.mem_append_right _ hon, hslot.symm.trans hpath, rfl⟩
    · exact absurd (hbind.symm.trans hpath) (bindPath_ne_slotPowerPath _ slot)

/-- A driver that is not bound again. -/
theorem driver_left_iff (hws : ∀ w ∈ ws, w.path = slotPowerPath slotNum) :
    (∀ driverName, ⟨driverFilePath driverName "unbind", gpuBdf, .taken⟩ ∈
        unbindWrites answers gpuBdf ++ ws →
      ∃ w ∈ unbindWrites answers gpuBdf ++ ws,
        w.path = driverFilePath driverName "bind" ∧ w.content = gpuBdf) ↔ ¬TakesDriver answers := by
  constructor
  · rintro h ⟨hdriver, htaken⟩
    have hmem : (⟨driverFilePath (initialDriver answers) "unbind", gpuBdf, .taken⟩ : SysWrite) ∈
        unbindWrites answers gpuBdf :=
      mem_unbindWrites.mpr ⟨hdriver, by rw [unbindWrite, htaken]⟩
    obtain ⟨w, hw, hpath, -⟩ := h _ (List.mem_append_left _ hmem)
    rcases List.mem_append.mp hw with hw | hw
    · obtain ⟨-, rfl⟩ := mem_unbindWrites.mp hw
      exact unbindPath_ne_bindPath _ _ hpath
    · exact bindPath_ne_slotPowerPath _ slotNum (hpath.symm.trans (hws w hw))
  · intro hnot driverName hmem
    rcases List.mem_append.mp hmem with hmem | hmem
    · obtain ⟨hdriver, hw⟩ := mem_unbindWrites.mp hmem
      exact absurd ⟨hdriver, (congrArg SysWrite.outcome hw).symm⟩ hnot
    · exact absurd (hws _ hmem) (unbindPath_ne_slotPowerPath driverName slotNum)

/-- A slot that is switched off and on, and nothing else. -/
theorem restored_off_on_iff : Restored gpuBdf (unbindWrites answers gpuBdf ++
    [offWrite answers slotNum, onWrite answers slotNum]) ↔ ¬TakesDriver answers := by
  have hpaths : ∀ w ∈ [offWrite answers slotNum, onWrite answers slotNum],
      w.path = slotPowerPath slotNum := by
    intro w hw
    rcases List.mem_pair.mp hw with rfl | rfl <;> rfl
  rw [restored_iff, driver_left_iff hpaths]
  refine and_iff_right fun slot hlast => ?_
  exact power_on (List.mem_cons_of_mem _ List.mem_cons_self) (fun w hw => .inl (hpaths w hw)) slot hlast

/-- A driver that is bound again, or at least tried to. -/
theorem driver_back (hbind : bindWrite answers gpuBdf (initialDriver answers) ∈ ws)
    (hws : CycleWrites slotNum ws) (driverName : String)
    (h : ⟨driverFilePath driverName "unbind", gpuBdf, .taken⟩ ∈ unbindWrites answers gpuBdf ++ ws) :
    ∃ w ∈ unbindWrites answers gpuBdf ++ ws,
      w.path = driverFilePath driverName "bind" ∧ w.content = gpuBdf := by
  rcases List.mem_append.mp h with hmem | hmem
  · obtain ⟨-, hw⟩ := mem_unbindWrites.mp hmem
    obtain rfl := unbindPath_inj (congrArg SysWrite.path hw)
    exact ⟨_, List.mem_append_right _ hbind, rfl, rfl⟩
  · rcases hws _ hmem with hslot | hpath
    · exact absurd hslot (unbindPath_ne_slotPowerPath driverName slotNum)
    · obtain ⟨driverName', hbindPath⟩ := hpath
      exact absurd hbindPath (unbindPath_ne_bindPath driverName driverName')

/-- Once the driver is out of the way, it is a matter of what the slot does. -/
theorem restored_iff_of_slotEnds {code : Int}
    (h : SlotEnds answers gpuBdf slotNum (initialDriver answers) code ws) :
    (code ≠ 0 → Restored gpuBdf (unbindWrites answers gpuBdf ++ ws)) ↔ Recovers answers := by
  have hfails : (1 : Int) ≠ 0 := by decide
  cases h with
  | staysOn hoff =>
    have hnot : answers.powerOff ≠ .taken := by
      intro htaken
      rw [htaken] at hoff
      cases hoff
    rw [imp_iff_right hfails, restored_iff, power_off_iff,
      driver_left_iff (List.forall_mem_singleton.mpr rfl)]
    constructor
    · rintro ⟨-, hdriver⟩
      exact ⟨fun htakes => absurd htakes hdriver, fun htaken => absurd htaken hnot⟩
    · intro hrecovers
      refine ⟨hnot, fun htakes => ?_⟩
      rw [(hrecovers.driver htakes).1] at hoff
      cases hoff
  | notConfirmed hoff hstate =>
    rw [imp_iff_right hfails, restored_iff, power_off_iff,
      driver_left_iff (List.forall_mem_singleton.mpr rfl)]
    constructor
    · rintro ⟨hpower, hdriver⟩
      exact ⟨fun htakes => absurd htakes hdriver, fun htaken => absurd htaken hpower⟩
    · intro hrecovers
      exact ⟨fun htaken => hstate (hrecovers.power htaken),
        fun htakes => hstate (hrecovers.driver htakes).2.1⟩
  | staysOff hoff hstate hon =>
    rw [imp_iff_right hfails, restored_off_on_iff]
    constructor
    · intro hdriver
      exact ⟨fun htakes => absurd htakes hdriver, fun _ => hstate⟩
    · intro hrecovers htakes
      rw [(hrecovers.driver htakes).2.2.1] at hon
      cases hon
  | timesOut hoff hstate hon hback =>
    rw [imp_iff_right hfails, restored_off_on_iff]
    constructor
    · intro hdriver
      exact ⟨fun htakes => absurd htakes hdriver, fun _ => hstate⟩
    · intro hrecovers htakes
      exact hback (hrecovers.driver htakes).2.2.2
  | notRebound hoff hstate hon hback =>
    have hon' : onWrite answers slotNum ∈ [offWrite answers slotNum, onWrite answers slotNum,
        bindWrite answers gpuBdf (initialDriver answers)] :=
      List.mem_cons_of_mem _ List.mem_cons_self
    have hws : CycleWrites slotNum [offWrite answers slotNum, onWrite answers slotNum,
        bindWrite answers gpuBdf (initialDriver answers)] := by
      intro w hw
      simp only [List.mem_cons, List.not_mem_nil, or_false] at hw
      rcases hw with rfl | rfl | rfl
      · exact .inl rfl
      · exact .inl rfl
      · exact .inr ⟨_, rfl⟩
    have hbind := List.mem_cons_of_mem (offWrite answers slotNum) (List.mem_cons_of_mem
      (onWrite answers slotNum) (List.mem_singleton_self (bindWrite answers gpuBdf
        (initialDriver answers))))
    refine iff_of_true (fun _ => ⟨power_on hon' hws, driver_back hbind hws⟩) ?_
    exact ⟨fun _ => ⟨hoff, hstate, hon, hback⟩, fun _ => hstate⟩
  | done hoff hstate hon hback =>
    exact iff_of_true (fun h => absurd rfl h)
      ⟨fun _ => ⟨hoff, hstate, hon, hback⟩, fun _ => hstate⟩

/-- A reset that writes nothing leaves nothing behind. -/
theorem restored_nil (gpuBdf : String) : Restored gpuBdf [] where
  power := fun _ h => by cases h
  driver := fun _ h => by cases h

/-- A driver that does not let go of the device is still there. -/
theorem restored_unbindWrites (h : ¬Unbinds answers) :
    Restored gpuBdf (unbindWrites answers gpuBdf) where
  power := by
    intro slotNum hlast
    obtain ⟨w, hw, hpath, -⟩ := exists_of_lastValue hlast
    exact absurd hpath (slotPath_ne_of_unbind hw slotNum)
  driver := by
    intro driverName hmem
    obtain ⟨-, hw⟩ := mem_unbindWrites.mp hmem
    have htaken : StreamWrite.taken = answers.unbind := congrArg SysWrite.outcome hw
    refine absurd (.inr ?_) h
    rw [← htaken]
    rfl

/-- What holds of the writes in each way to leave holds of what a run has written. -/
theorem LeavesWith.iff {m : Prog SysTrace Int} {E : Int → List SysWrite → Prop}
    {P : List SysWrite → Prop} {c : Prop} (h : LeavesWith m [] E)
    (hE : ∀ code ws, E code ws → ((code ≠ 0 → P ws) ↔ c)) :
    (∃ code t, m [] = (.ret code, t) ∧ (code ≠ 0 → P (writes t))) ↔ c := by
  obtain ⟨code, t, ws, hrun, hwrites, hends⟩ := h
  have hws (hcode : code ≠ 0) : writes t = ws := hwrites hcode
  rw [← hE code ws hends]
  constructor
  · rintro ⟨code', t', hrun', hP⟩ hcode
    obtain ⟨hret, rfl⟩ := Prod.mk.inj (hrun.symm.trans hrun')
    obtain rfl := Outcome.ret.inj hret
    rw [← hws hcode]
    exact hP hcode
  · refine fun hP => ⟨code, t, hrun, fun hcode => ?_⟩
    rw [hws hcode]
    exact hP hcode

/-- **When a failed reset has tried to make good what it did.** It has exactly if a reset that finds the
slot and whose driver lets go of the device is one that recovers. -/
theorem coldResetViaSysfs_restores_iff (answers : ResetAnswers) (gpuBdf : String) :
    (∃ code t, coldResetViaSysfs answers gpuBdf [] = (.ret code, t) ∧
      (code ≠ 0 → Restored gpuBdf (writes t))) ↔
    (∀ slotNum, SlotFound answers gpuBdf slotNum → Unbinds answers → Recovers answers) := by
  refine (coldResetViaSysfs_leaves answers gpuBdf []).iff fun code ws hends => ?_
  cases hends with
  | turnedDown code hslot =>
    exact iff_of_true (fun _ => restored_nil gpuBdf) fun slotNum h => absurd h (hslot slotNum)
  | keepsDriver hunbind =>
    exact iff_of_true (fun _ => restored_unbindWrites hunbind) fun _ _ h => absurd h hunbind
  | cycled hslot hunbind hends =>
    rw [restored_iff_of_slotEnds hends]
    exact ⟨fun h _ _ _ => h, fun h => h _ hslot hunbind⟩

end Restores

/-! ## A slot that is left off -/

/-- A configuration space with one capability, whose slot 7 has a power controller and is hot-plug
capable. -/
def sampleConfig : List UInt8 :=
  List.replicate 0x34 0 ++ [0x40] ++ List.replicate 11 0 ++ [0x10, 0x00] ++ List.replicate 18 0 ++
    [0x42, 0x00, 0x38, 0x00]

/-- Everything goes well but for the slot, which is not seen to be off. -/
def notConfirmedAnswers : ResetAnswers where
  gpuPresent := true
  canonical := some ["sys", "devices", "pci0000:4c", "0000:4c:01.0", "0000:4d:00.0"]
  config := some sampleConfig
  powerPresent := true
  slotAddress := some "0000:4c:01"
  driverLink := some "../../../../bus/pci/drivers/xe"
  unbind := .taken
  powerOff := .taken
  powerState := some "1"
  powerOn := .taken
  presentAt := fun _ => true
  driverLinkAt := fun _ => some "../../../../bus/pci/drivers/xe"
  bind := .taken

/-- A reset that fails with the slot switched off, the driver unbound, and nothing tried. -/
theorem coldResetViaSysfs_gives_up : ¬∀ (answers : ResetAnswers) (gpuBdf : String),
    ∃ code t, coldResetViaSysfs answers gpuBdf [] = (.ret code, t) ∧
      (code ≠ 0 → Restored gpuBdf (writes t)) := by
  intro h
  obtain ⟨code, t, hrun, hrestored⟩ := h notConfirmedAnswers "0000:4d:00.0"
  have hret : (coldResetViaSysfs notConfirmedAnswers "0000:4d:00.0" []).1 = .ret 1 := by
    decide
  have hwrites : writes (coldResetViaSysfs notConfirmedAnswers "0000:4d:00.0" []).2 =
      [⟨driverFilePath "xe" "unbind", "0000:4d:00.0", .taken⟩, ⟨slotPowerPath 7, "0", .taken⟩] := by
    decide
  rw [hrun] at hret hwrites
  obtain rfl := Outcome.ret.inj hret
  obtain ⟨w, hw, -, hone⟩ := (hrestored (by decide)).power 7 (by rw [hwrites]; decide)
  rw [hwrites] at hw
  revert w
  decide

end XpuManager
