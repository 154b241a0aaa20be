import XpuManager.Lib.Zoom
import XpuManager.Amc.FwUpdate

/-! # The package file of an update

`fwUpdInitialize` opens the package file; the parser, the function that sends a chunk and
`fwUpdInitialize` itself close it. Here these functions run with the calls on `mCompFp` they make, and
the results of the calls are arbitrary. -/

namespace XpuManager

open Prog

/-- A call on `mCompFp`. -/
inductive FileOp where
  /-- The parser's, which does not look at the result. -/
  | fseek
  | ftell
  | fread
  /-- That of `writeToAMCCompXfer`, and whether it went through. -/
  | fseekChunk (ok : Bool)
  | fclose
  deriving DecidableEq, Repr

/-- A `pldm` object with the calls on its package file since it was opened. -/
structure PackageObject where
  pldm : Pldm
  /-- The results of the coming calls; none is what the file says. -/
  ftells : Stream' (Option Nat)
  fseeks : Stream' Bool
  freads : Stream' (Option Bytes)
  /-- The results of the coming allocations. -/
  allocs : Stream' Bool
  ops : List FileOp

namespace PackageFile

/-! ## Calls -/

/-- A program on the `Pldm` part. -/
def onPldm {α : Type} (m : Prog Pldm α) : Prog PackageObject α :=
  zoom PackageObject.pldm (fun p s => { s with pldm := p }) m

/-- A call on the file is noted. -/
def call (op : FileOp) : Prog PackageObject Unit := Prog.modify fun s => { s with ops := s.ops ++ [op] }

/-- `fclose`, which may be called at any time. -/
def fclose : Prog PackageObject Unit := call .fclose

/-- `ftell`, with the next of its answers. -/
def ftell : Prog PackageObject Nat := do
  call .ftell
  let s ← Prog.get
  Prog.modify fun s => { s with ftells := s.ftells.tail }
  pure (s.ftells.head.getD s.pldm.fw.compFile.length)

/-- `fread` of `n` bytes at `pos`. -/
def fread (pos n : Nat) : Prog PackageObject Bytes := do
  call .fread
  let s ← Prog.get
  Prog.modify fun s => { s with freads := s.freads.tail }
  pure ((s.freads.head.getD (s.pldm.fw.compFile.drop pos)).take n)

/-- `fseek` to a chunk, with the next of its answers. -/
def fseekChunk : Prog PackageObject Bool := do
  let s ← Prog.get
  call (.fseekChunk s.fseeks.head)
  Prog.modify fun s => { s with fseeks := s.fseeks.tail }
  pure s.fseeks.head

/-- The memory for the package, which there may not be. -/
def alloc : Prog PackageObject Bool := do
  let s ← Prog.get
  Prog.modify fun s => { s with allocs := s.allocs.tail }
  pure s.allocs.head

/-- An error exit that closes the file. -/
def closeThen {α : Type} (a : α) : Prog PackageObject α := do
  fclose
  pure a

/-! ## The parser -/

/-- `fwpkgParseInfo`. The vector is not empty when the file is large enough. -/
def fwpkgParseInfo : Prog PackageObject UInt8 := do
  call .fseek
  let fileSize ← ftell
  call .fseek
  if fileSize < fwPkgSize then closeThen pldmError
  else do
    -- a vector that cannot be had is an exception, which nothing catches
    if (← alloc) = false then Prog.fault
    else do
      let pkgbuf ← fread 0 fileSize
      if pkgbuf.length ≠ fileSize then closeThen pldmError
      else do
        if (← alloc) = false then closeThen pldmError
        else
          match fwpkgParse pkgbuf with
          | .ret (some pkg) => do
              onPldm (Prog.modify fun s => { s with fw := { s.fw with pkg := some pkg } })
              pure pldmSuccess
          | .ret none => closeThen pldmError
          | .fault => Prog.fault
          | .cut => Prog.cut

/-! ## The data phase -/

/-- `fread(amcfilebuffer, 1, n, mCompFp)`. -/
def freadComp (pos n : Nat) : Prog PackageObject Bytes :=
  if n ≤ pldmFwupdateMaxPayloadSize then do
    let got ← fread pos n
    onPldm (emit (.fread pos n got))
    pure (got ++ List.replicate (pldmFwupdateMaxPayloadSize - got.length) 0)
  else Prog.fault

/-- The part of `writeToAMCCompXfer` that reads the component. -/
def copyCompData (comp : CompImageInfo) (offset lenToSend : UInt32) : Prog PackageObject Unit := do
  let pos := (comp.compLocOffset + offset).toNat
  if offset + lenToSend ≤ comp.compSize then do
    let amcfilebuffer ← freadComp pos lenToSend.toNat
    onPldm (payloadCopy 1 (amcfilebuffer.take lenToSend.toNat))
  else do
    onPldm (payloadZero payloadSize)
    let remBytes := comp.compSize - offset
    let amcfilebuffer ← freadComp pos remBytes.toNat
    onPldm (payloadCopy 1 (amcfilebuffer.take remBytes.toNat))

/-- `writeToAMCCompXfer`. A failing `fseek` closes the file. -/
def writeToAMCCompXfer (offset lenToSend : UInt32) (completioncode : UInt8) :
    Prog PackageObject UInt8 := do
  let comp ← onPldm curComp
  let totalLen : UInt8 := 9 + 3 + 1 + lenToSend.toUInt8
  onPldm (responseHeaders totalLen)
  if (← fseekChunk) = false then closeThen pldmError
  else do
    copyCompData comp offset lenToSend
    onPldm (payloadSet 0 completioncode)
    onPldm (payloadSetCrc totalLen.toNat (totalLen.toNat - 1))
    onPldm (sendRequest fun _ => totalLen)

/-- The answer to a RequestFirmwareData message. -/
def answerRequestFirmwareData (offset lenToSend : UInt32) : Prog PackageObject UInt8 := do
  let comp ← onPldm curComp
  if comp.compSize = 0 then Prog.fault
  else do
    onPldm (Prog.modify fun s =>
      { s with fw := { s.fw with mProgPercent := (offset * 100 / comp.compSize).toInt32 } })
    if offset ≥ comp.compSize then onPldm (respondtoamc dataOutOfRange)
    else if lenToSend > pldmMctpMaxTransferSize then onPldm (respondtoamc invalidTransferLength)
    else writeToAMCCompXfer offset lenToSend pldmResponseCompletion

/-- The message in the read frame, answered; only RequestFirmwareData takes bytes from the file. -/
def answerFD (f : Frame) : Prog PackageObject (Unit ⊕ UInt8) :=
  if f.cmdCode = requestFirmwareData then do
    let ret ← answerRequestFirmwareData f.rfdOffset f.rfdLength
    pure (if ret = pldmSuccess then .inl () else .inr pldmError)
  else onPldm (XpuManager.answerFD f)

/-- One turn of the loop of `readFromFD`. -/
def readFromFDTurn (_ : Unit) : Prog PackageObject (Unit ⊕ UInt8) := do
  let ok ← onPldm readAmc
  let s ← Prog.get
  let f := s.pldm.mI2cPldmRead
  if ok = false then pure (.inr pldmError)
  else if f.smbusCmdCode ≠ mctpCmdCode then pure (.inl ())
  else if f.cmdType ≠ pldmFirmwareUpdate then pure (.inr pldmError)
  else answerFD f

/-- `readFromFD`. -/
def readFromFD (fuel : Nat) : Prog PackageObject UInt8 := do
  let ret ← Prog.loop readFromFDTurn fuel ()
  let s ← Prog.get
  onPldm (emit (.transfer s.pldm.fw.mCurComp s.pldm.mI2cPldmRead ret))
  pure ret

/-! ## The update of a package -/

/-- The inventory commands and the data phase of component `n`; both failures close the file. -/
def runComponent (fuel n : Nat) (ret : UInt8) : Prog PackageObject (UInt8 ⊕ UInt8) := do
  onPldm (Prog.modify fun s => { s with fw := { s.fw with mCurComp := UInt8.ofNat n } })
  match ← onPldm (Prog.forEach (runInventoryCmd fuel) cmdTable ret) with
  | .inl ret => closeThen (.inl ret)
  | .inr ret => do
      let fd ← readFromFD fuel
      if fd = pldmSuccess then pure (.inr ret)
      else do
        let _ ← onPldm (fwUpdCmd fuel cancelUpdate fwuCommandBaseSize)
        closeThen (.inl pldmError)

/-- The component loop of `fwUpdInitialize`. -/
def runComponents (fuel : Nat) (count : Nat) : Prog PackageObject (UInt8 ⊕ UInt8) :=
  Prog.forEach (runComponent fuel) (List.range count) pldmError

/-- Open and parse the package file (`none` when it cannot be opened). -/
def openPackage (pkgFile : Option Bytes) : Prog PackageObject UInt8 := do
  onPldm (Prog.modify fun s =>
    { s with fw := { s.fw with mReqUpdate := default, mPassCompTable := default,
                               mUpdComp := default } })
  match pkgFile with
  | none => pure pldmError
  | some file => do
      onPldm (Prog.modify fun s => { s with fw := { s.fw with compFile := file } })
      Prog.modify fun s => { s with ops := [] }
      let result ← fwpkgParseInfo
      pure (if result = pldmSuccess then pldmSuccess else pldmError)

/-- `fwUpdInitialize`. Each of the exits behind the component loop closes the file. -/
def fwUpdInitialize (fuel : Nat) (pkgFile : Option Bytes) : Prog PackageObject UInt8 :=
  Prog.chain pldmSuccess (openPackage pkgFile) do
    let pkg ← onPldm getPkg
    match ← runComponents fuel pkg.compImageCount with
    | .inl ret => pure ret
    | .inr ret => do
        let ret ← onPldm (runActivation fuel ret)
        closeThen ret

/-! ## A file that gives what is asked for -/

/-- Every call goes through, and every read gets the bytes of the file. -/
structure FileWorks (s : PackageObject) : Prop where
  ftells : s.ftells = Stream'.const none
  fseeks : s.fseeks = Stream'.const true
  freads : s.freads = Stream'.const none
  allocs : s.allocs = Stream'.const true

/-- A program with calls does to the `pldm` object what the program without them does. -/
abbrev DoesAs {α : Type} (m' : Prog PackageObject α) (m : Prog Pldm α) : Prop :=
  Mirrors PackageObject.pldm FileWorks m' m

theorem doesAs_onPldm {α : Type} (m : Prog Pldm α) : DoesAs (onPldm m) m :=
  Mirrors.zoom (fun _ _ => rfl) fun _ _ h => ⟨h.ftells, h.fseeks, h.freads, h.allocs⟩

theorem doesAs_call (op : FileOp) : DoesAs (call op) (pure ()) :=
  fun _ h => ⟨rfl, rfl, h.ftells, h.fseeks, h.freads, h.allocs⟩

/-- A call whose result is not looked at. -/
theorem doesAs_call_bind {α : Type} {m' : Prog PackageObject α} {m : Prog Pldm α} (op : FileOp)
    (h : DoesAs m' m) : DoesAs (call op >>= fun _ => m') m :=
  (doesAs_call op).bind fun _ => h

theorem doesAs_closeThen {α : Type} (a : α) : DoesAs (closeThen a) (pure a) :=
  doesAs_call_bind _ (Mirrors.pure a)

/-- A program that closes the file at its end. -/
theorem DoesAs.closing {α : Type} {m' : Prog PackageObject α} {m : Prog Pldm α} (h : DoesAs m' m) :
    DoesAs (m' >>= closeThen) m := by
  intro t ht
  rcases hrun : m t.pldm with ⟨a | _ | _, s⟩
  · obtain ⟨t', hrun', rfl, ht'⟩ := h.run ht hrun
    rw [bind_of_ret hrun']
    exact doesAs_closeThen a t' ht'
  · obtain ⟨t', hrun', rfl, ht'⟩ := h.run ht hrun
    rw [bind_of_fault hrun']
    exact ⟨rfl, rfl, ht'⟩
  · obtain ⟨t', hrun', rfl, ht'⟩ := h.run ht hrun
    rw [bind_of_cut hrun']
    exact ⟨rfl, rfl, ht'⟩

/-- A failure that does not happen. -/
theorem DoesAs.unless {α : Type} {m' : Prog PackageObject Bool} {e' k' : Prog PackageObject α}
    {k : Prog Pldm α} (h : DoesAs m' (pure true)) (hk : DoesAs k' k) :
    DoesAs (m' >>= fun ok => if ok = false then e' else k') k := by
  intro t ht
  obtain ⟨t', hrun, hview, ht'⟩ := h.run ht rfl
  rw [bind_of_ret hrun, ← hview]
  exact hk t' ht'

theorem doesAs_fseekChunk : DoesAs fseekChunk (pure true) := by
  intro t h
  have htrue : t.fseeks.head = true := by rw [h.fseeks]; rfl
  have htail : t.fseeks.tail = Stream'.const true := by rw [h.fseeks]; rfl
  exact ⟨congrArg Outcome.ret htrue, rfl, h.ftells, htail, h.freads, h.allocs⟩

theorem doesAs_alloc : DoesAs alloc (pure true) := by
  intro t h
  have htrue : t.allocs.head = true := by rw [h.allocs]; rfl
  have htail : t.allocs.tail = Stream'.const true := by rw [h.allocs]; rfl
  exact ⟨congrArg Outcome.ret htrue, rfl, h.ftells, h.fseeks, h.freads, htail⟩

theorem doesAs_ftell : DoesAs ftell (do
    let s ← Prog.get
    pure s.fw.compFile.length) := by
  intro t h
  have hnone : t.ftells.head = none := by rw [h.ftells]; rfl
  have htail : t.ftells.tail = Stream'.const none := by rw [h.ftells]; rfl
  refine ⟨congrArg Outcome.ret ?_, rfl, htail, h.fseeks, h.freads, h.allocs⟩
  exact congrArg (Option.getD · t.pldm.fw.compFile.length) hnone

theorem doesAs_fread (pos n : Nat) : DoesAs (fread pos n) (do
    let s ← Prog.get
    pure ((s.fw.compFile.drop pos).take n)) := by
  intro t h
  have hnone : t.freads.head = none := by rw [h.freads]; rfl
  have htail : t.freads.tail = Stream'.const none := by rw [h.freads]; rfl
  refine ⟨congrArg Outcome.ret ?_, rfl, h.ftells, h.fseeks, htail, h.allocs⟩
  exact congrArg (fun answer => (Option.getD answer (t.pldm.fw.compFile.drop pos)).take n) hnone

/-- What the parser does with the bytes it has read. -/
def storePkg (file : Bytes) : Prog Pldm UInt8 :=
  match fwpkgParse file with
  | .ret (some pkg) => do
      Prog.modify fun s => { s with fw := { s.fw with pkg := some pkg } }
      pure pldmSuccess
  | .ret none => pure pldmError
  | .fault => Prog.fault
  | .cut => Prog.cut

/-- A file that is too small is not accepted either when it is parsed. -/
theorem storePkg_of_short {file : Bytes} (h : file.length < fwPkgSize) :
    storePkg file = pure pldmError := by
  rw [storePkg, fwpkgParse, if_pos h]

/-- The parser reads the whole file. -/
theorem doesAs_fwpkgParseInfo : DoesAs fwpkgParseInfo XpuManager.fwpkgParseInfo := by
  have hparse : XpuManager.fwpkgParseInfo = (do
      let fileSize ← (do
        let s ← Prog.get
        pure s.fw.compFile.length)
      if fileSize < fwPkgSize then pure pldmError
      else do
        let pkgbuf ← (do
          let s ← Prog.get
          pure ((s.fw.compFile.drop 0).take fileSize))
        if pkgbuf.length ≠ fileSize then pure pldmError else storePkg pkgbuf) := by
    funext s
    change storePkg s.fw.compFile s = _
    have hfile : (s.fw.compFile.drop 0).take s.fw.compFile.length = s.fw.compFile := List.take_length
    simp only [Prog.bind_assoc, Prog.pure_bind, Prog.get_bind_apply, Prog.ite_apply, hfile, ne_eq,
      not_true_eq_false, if_false]
    split
    case isTrue hshort => rw [storePkg_of_short hshort]
    case isFalse => rfl
  rw [hparse, fwpkgParseInfo]
  refine doesAs_call_bind _ ?_
  refine doesAs_ftell.bind fun fileSize => ?_
  refine doesAs_call_bind _ ?_
  refine (doesAs_closeThen _).ite ?_
  refine doesAs_alloc.unless ?_
  refine (doesAs_fread _ _).bind fun pkgbuf => ?_
  refine (doesAs_closeThen _).ite ?_
  refine doesAs_alloc.unless ?_
  rw [storePkg]
  rcases fwpkgParse pkgbuf with (_ | pkg) | _ | _
  · exact doesAs_closeThen _
  · exact (doesAs_onPldm _).bind fun _ => Mirrors.pure _
  · exact Mirrors.fault
  · exact Mirrors.cut

/-- A program that looks only at the `Pldm` part of the state. -/
theorem doesAs_get_bind {α : Type} {f' : PackageObject → Prog PackageObject α}
    {f : Pldm → Prog Pldm α} (h : ∀ s, DoesAs (f' s) (f s.pldm)) :
    DoesAs (Prog.get >>= f') (Prog.get >>= f) :=
  fun t ht => h t t ht

/-- The read of a component does on the file what it does on the bytes. -/
theorem doesAs_freadComp (pos n : Nat) : DoesAs (freadComp pos n) (XpuManager.freadComp pos n) := by
  rw [freadComp]
  by_cases hn : n ≤ pldmFwupdateMaxPayloadSize
  · have hread : XpuManager.freadComp pos n = (do
        let got ← (do
          let s ← Prog.get
          pure ((s.fw.compFile.drop pos).take n))
        emit (.fread pos n got)
        pure (got ++ List.replicate (pldmFwupdateMaxPayloadSize - got.length) 0)) := by
      funext s
      exact congrFun (if_pos hn) s
    rw [if_pos hn, hread]
    exact (doesAs_fread pos n).bind fun _ => (doesAs_onPldm _).bind fun _ => Mirrors.pure _
  · have hread : XpuManager.freadComp pos n = Prog.fault := by
      funext s
      exact congrFun (if_neg hn) s
    rw [if_neg hn, hread]
    exact Mirrors.fault

theorem doesAs_copyCompData (comp : CompImageInfo) (offset lenToSend : UInt32) :
    DoesAs (copyCompData comp offset lenToSend) (XpuManager.copyCompData comp offset lenToSend) := by
  refine Mirrors.ite ?_ ?_
  · exact (doesAs_freadComp _ _).bind fun _ => doesAs_onPldm _
  · exact (doesAs_onPldm _).bind fun _ => (doesAs_freadComp _ _).bind fun _ => doesAs_onPldm _

theorem doesAs_writeToAMCCompXfer (offset lenToSend : UInt32) (completioncode : UInt8) :
    DoesAs (writeToAMCCompXfer offset lenToSend completioncode)
      (XpuManager.writeToAMCCompXfer offset lenToSend completioncode) := by
  refine (doesAs_onPldm curComp).bind fun comp => ?_
  refine (doesAs_onPldm _).bind fun _ => ?_
  refine doesAs_fseekChunk.unless ?_
  refine (doesAs_copyCompData comp offset lenToSend).bind fun _ => ?_
  exact (doesAs_onPldm _).bind fun _ => (doesAs_onPldm _).bind fun _ => doesAs_onPldm _

theorem doesAs_answerRequestFirmwareData (offset lenToSend : UInt32) :
    DoesAs (answerRequestFirmwareData offset lenToSend)
      (XpuManager.answerRequestFirmwareData offset lenToSend) := by
  refine (doesAs_onPldm curComp).bind fun comp => Mirrors.fault.ite ?_
  refine (doesAs_onPldm _).bind fun _ => ?_
  exact (doesAs_onPldm _).ite ((doesAs_onPldm _).ite (doesAs_writeToAMCCompXfer _ _ _))

theorem doesAs_readFromFDTurn (b : Unit) :
    DoesAs (readFromFDTurn b) (XpuManager.readFromFDTurn b) := by
  refine (doesAs_onPldm readAmc).bind fun ok => doesAs_get_bind fun s => ?_
  refine (Mirrors.pure _).ite ((Mirrors.pure _).ite ((Mirrors.pure _).ite ?_))
  rw [answerFD]
  split
  case isTrue hcmd =>
    rw [XpuManager.answerFD, if_pos hcmd]
    exact (doesAs_answerRequestFirmwareData _ _).bind fun _ => Mirrors.pure _
  case isFalse => exact doesAs_onPldm _

theorem doesAs_readFromFD (fuel : Nat) : DoesAs (readFromFD fuel) (XpuManager.readFromFD fuel) := by
  refine (Mirrors.loop doesAs_readFromFDTurn fuel ()).bind fun ret => doesAs_get_bind fun s => ?_
  exact (doesAs_onPldm _).bind fun _ => Mirrors.pure _

theorem doesAs_runComponent (fuel n : Nat) (ret : UInt8) :
    DoesAs (runComponent fuel n ret) (XpuManager.runComponent fuel n ret) := by
  refine (doesAs_onPldm _).bind fun _ => (doesAs_onPldm _).bind fun left => ?_
  rcases left with ret | ret
  · exact doesAs_closeThen _
  · refine (doesAs_readFromFD fuel).bind fun fd => (Mirrors.pure _).ite ?_
    exact (doesAs_onPldm _).bind fun _ => doesAs_closeThen _

theorem doesAs_openPackage (pkgFile : Option Bytes) :
    DoesAs (openPackage pkgFile) (XpuManager.openPackage pkgFile) := by
  refine (doesAs_onPldm _).bind fun _ => ?_
  cases pkgFile with
  | none => exact Mirrors.pure _
  | some file =>
    have hlog : DoesAs (Prog.modify fun s => { s with ops := [] }) (pure ()) :=
      fun _ h => ⟨rfl, rfl, h.ftells, h.fseeks, h.freads, h.allocs⟩
    refine (doesAs_onPldm _).bind fun _ => hlog.bind (f := fun _ => orError _) fun _ => ?_
    exact doesAs_fwpkgParseInfo.bind fun _ => Mirrors.pure _

/-- **The update of a package over a file that gives what is asked for** does to the `pldm` object what
the update does that takes the bytes from the file. -/
theorem doesAs_fwUpdInitialize (fuel : Nat) (pkgFile : Option Bytes) :
    DoesAs (fwUpdInitialize fuel pkgFile) (XpuManager.fwUpdInitialize fuel pkgFile) := by
  refine (doesAs_openPackage pkgFile).chain ((doesAs_onPldm getPkg).bind fun pkg => ?_)
  refine (Mirrors.forEach (doesAs_runComponent fuel) _ _).bind fun left => ?_
  rcases left with ret | ret
  · exact Mirrors.pure _
  · exact (doesAs_onPldm _).closing

end PackageFile

end XpuManager
