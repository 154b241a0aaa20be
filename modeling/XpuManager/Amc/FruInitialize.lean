import XpuManager.Lib.Zoom
import XpuManager.Amc.FruTable

/-! # Reading and querying the FRU table

The FRU functions of a `pldm` object above its commands: the table is fetched part by part, parsed
into `mFruTable`, and its serial number and version are copied out of it. -/

namespace XpuManager

open Prog

/-- A `pldm` object with its FRU table. -/
structure FruObject where
  pldm : Pldm
  mFruTable : FruTable
  mFruTableInitialized : Bool

/-- A program on the `Pldm` part. -/
def onFruPldm {α : Type} (m : Prog Pldm α) : Prog FruObject α :=
  zoom FruObject.pldm (fun p s => { s with pldm := p }) m

/-- A program on `mFruTable`. -/
def onFruTable {α : Type} (m : Prog FruTable α) : Prog FruObject α :=
  zoom FruObject.mFruTable (fun t s => { s with mFruTable := t }) m

/-! ## Fetching the table -/

/-- The table bytes that the last response has left, `mFruCurrentDataLength` of them; past the end of
`fruTableData` is undefined behaviour. -/
def fruChunk : Prog Pldm Bytes := do
  let s ← Prog.get
  if s.fru.mFruCurrentDataLength.toNat ≤ 512 then
    pure (s.fru.mFruTableResponse.fruTableData.slice 0 s.fru.mFruCurrentDataLength.toNat)
  else Prog.fault

/-- The local variables of `pldmFruInitialize`. -/
structure FruLocals where
  dataXferHandle : UInt32
  xferOpFlag : UInt8
  completeFruData : Bytes

/-- One turn of the loop of `pldmFruInitialize`; it leaves with the whole data, or with none if a part
could not be read. -/
def fruFetchTurn (b : FruLocals) : Prog Pldm (FruLocals ⊕ Option Bytes) := do
  let ret ← getFruRecordTable b.dataXferHandle b.xferOpFlag
  if ret ≠ pldmSuccess then pure (.inr none)
  else do
    let chunk ← fruChunk
    let s ← Prog.get
    let resp := s.fru.mFruTableResponse
    pure (if resp.xferFlag = pldmEnd ∨ resp.xferFlag = pldmStartAndEnd then
        .inr (some (b.completeFruData ++ chunk))
      else .inl ⟨resp.nextDataXferHandle, pldmGetNextPart, b.completeFruData ++ chunk⟩)

/-- `pldmFruInitialize`. -/
def pldmFruInitialize (fuel : Nat) : Prog FruObject UInt8 := do
  let ret ← onFruPldm getFruRecordTableMetadata
  if ret ≠ pldmSuccess then pure pldmError
  else do
    let fetched ← onFruPldm (Prog.loop fruFetchTurn fuel ⟨0, pldmGetFirstPart, []⟩)
    match fetched with
    | none => pure pldmError
    | some completeFruData => do
        let s ← Prog.get
        if completeFruData.length ≠ s.pldm.fru.mFruMetadata.fruTableLen.toNat then pure pldmError
        else do
          let ret ← onFruTable (parseFruTable fuel completeFruData)
          if ret ≠ pldmSuccess then pure pldmError
          else do
            Prog.modify fun s => { s with mFruTableInitialized := true }
            pure pldmSuccess

/-! ## Queries -/

/-- What a query is given and leaves: a buffer, and the variable that `bufferSize` points to. Both may
be null pointers. -/
structure FruQuery where
  buffer : Option Bytes
  bufferSize : Option Nat
  deriving DecidableEq

/-- `STRNCPY_S` into a buffer; past its end is undefined behaviour. -/
def strncpyInto (dest src : Bytes) (sz : Nat) : Prog FruObject Bytes :=
  if sz = 0 then pure dest
  else
    let text := (cString src).take (sz - 1) ++ [0]
    if text.length ≤ dest.length then pure (text ++ dest.drop text.length) else Prog.fault

/-- `dest[i] = '\0'`; past the end is undefined behaviour. -/
def terminateAt (dest : Bytes) (i : Nat) : Prog FruObject Bytes :=
  if i < dest.length then pure (dest.set i 0) else Prog.fault

/-- What a query does with a stored text: its length is reported, or it is copied into the buffer. -/
def copyFruText (stored : Bytes) (requiredLength : Nat) (q : FruQuery) :
    Prog FruObject (UInt8 × FruQuery) :=
  match q.buffer, q.bufferSize with
  | none, none => pure (pldmSuccess, q)
  | none, some _ => pure (pldmSuccess, { q with bufferSize := some requiredLength })
  | some _, none => pure (pldmError, q)
  | some dest, some bufferSize =>
    if bufferSize < requiredLength then
      pure (pldmError, { q with bufferSize := some requiredLength })
    else do
      let dest ← strncpyInto dest stored (bufferSize - 1)
      let dest ← terminateAt dest (bufferSize - 1)
      pure (pldmSuccess, { q with buffer := some dest })

/-- The last byte of the array of a text is set to zero. -/
def FruObject.terminated (s : FruObject) (τ : GeneralText) : FruObject :=
  { s with mFruTable := { s.mFruTable with
      text := fun τ' => if τ' = τ then (s.mFruTable.text τ').setByte (fruDataMaxLength - 1) 0
        else s.mFruTable.text τ' } }

/-- The query of a text of the table, which `getFruSerialNum` and `getAmcVersion` both are; the result
is paired with what the query leaves. -/
def getFruText (fuel : Nat) (τ : GeneralText) (q : FruQuery) : Prog FruObject (UInt8 × FruQuery) := do
  let s ← Prog.get
  let ret ← if s.mFruTableInitialized then pure pldmSuccess
    else do
      Prog.modify fun s => { s with mFruTable := FruTable.cleared }
      pldmFruInitialize fuel
  if ret ≠ pldmSuccess then pure (pldmError, q)
  else do
    Prog.modify fun s => s.terminated τ
    let s ← Prog.get
    let len := (cString ((s.mFruTable.text τ).slice 0 (fruDataMaxLength - 1))).length
    if len = 0 then pure (pldmError, q)
    else copyFruText ((s.mFruTable.text τ).slice 0 fruDataMaxLength) (len + 1) q

/-- `getFruSerialNum`. -/
def getFruSerialNum (fuel : Nat) (q : FruQuery) : Prog FruObject (UInt8 × FruQuery) :=
  getFruText fuel .serialNum q

/-- `getAmcVersion`. -/
def getAmcVersion (fuel : Nat) (q : FruQuery) : Prog FruObject (UInt8 × FruQuery) :=
  getFruText fuel .version q

end XpuManager
