import XpuManager.Lib.Prog
import XpuManager.Amc.Frame

/-! # The PLDM firmware package

`fwpkgParseInfo`: the parser of the package file. The parser walks one pointer over the file's
bytes, so it is a program whose state is the bytes not yet consumed; reading past them is
undefined behaviour, as is writing past one of the fixed arrays of `fwPkg`. A result of `none` is
the parser's `PLDM_ERROR`. -/

namespace XpuManager

/-! ## The parsed package -/

/-- `sizeof(fwPkg)`, the least size of a package file. -/
abbrev fwPkgSize : Nat := 6751

abbrev pldmFwuMaxRecordDescriptors : Nat := 4
abbrev pldmFwuMaxRecords : Nat := 4
abbrev pldmFwuMaxImages : Nat := 4
abbrev pldmDescriptorSizeBytes : Nat := 6
abbrev pldmFwuCompVerStrSizeMax : Nat := 256

/-- `fwPkgHdr`. -/
structure FwPkgHdr where
  uuid : Bytes
  revision : UInt8
  size : UInt16
  rlsDateTime : Bytes
  compBitmapLen : UInt16
  pkgVerStrType : UInt8
  pkgVerStrLen : UInt8
  pkgVersion : Bytes

/-- One entry of `fwDevRecord.recordDesc`; `descLength` is the length of `descData`. -/
structure RecordDesc where
  descType : UInt16
  descData : Bytes
  descLength_le : descData.length ≤ pldmDescriptorSizeBytes

/-- `fwDevRecord`; `descCount` is the length of `recordDesc`. -/
structure FwDevRecord where
  recordLen : UInt16
  devUpdateOptionFlags : UInt32
  compImageSetVerStrType : UInt8
  compImageSetVerStrLen : UInt8
  fwDevPkgDataLen : UInt16
  applicableComp : UInt8
  compImageSetVerStr : Bytes
  recordDesc : List RecordDesc

/-- `compImageInfo`. -/
structure CompImageInfo where
  compClassification : UInt16
  id : UInt16
  compComparisionStamp : UInt32
  compOptions : UInt16
  rqstdCompActivMethod : UInt16
  compLocOffset : UInt32
  compSize : UInt32
  verStrType : UInt8
  verStrLen : UInt8
  verStr : Bytes
  verStr_length : verStr.length = verStrLen.toNat

/-- `fwPkg`; `recordCount` and `compImageCount` are the lengths of the two lists. -/
structure FwPkg where
  hdr : FwPkgHdr
  records : List FwDevRecord
  compImages : List CompImageInfo
  checksum : UInt32
  pkgInfoSize : UInt32
  recordCount_le : records.length ≤ pldmFwuMaxRecords
  compImageCount_le : compImages.length ≤ pldmFwuMaxImages

/-- `pkg->compImagesInfo.compImageCount`. -/
def FwPkg.compImageCount (pkg : FwPkg) : Nat := pkg.compImages.length

/-! ## Reading the file's bytes -/

/-- Read `n` bytes at the pointer and move it past them. -/
def readBytes (n : Nat) : Prog Bytes {bs : Bytes // bs.length = n} := fun bs =>
  if h : n ≤ bs.length then (.ret ⟨bs.take n, List.length_take_of_le h⟩, bs.drop n)
  else (.fault, bs)

/-- A number of one byte. -/
def readU8 : Prog Bytes UInt8 := do
  let bs ← readBytes 1
  pure (UInt8.ofNat (ofLeBytes bs))

/-- A number of two bytes, the low one first. -/
def readU16 : Prog Bytes UInt16 := do
  let bs ← readBytes 2
  pure (UInt16.ofNat (ofLeBytes bs))

/-- A number of four bytes, the low ones first. -/
def readU32 : Prog Bytes UInt32 := do
  let bs ← readBytes 4
  pure (UInt32.ofNat (ofLeBytes bs))

/-- Fill the entries `i`, `i + 1`, … of an array of `limit` entries with `n` items. -/
def parseArray {α : Type} (limit : Nat) (item : Prog Bytes (Option α)) :
    Nat → (n : Nat) → Prog Bytes (Option {as : List α // as.length = n})
  | _, 0 => pure (some ⟨[], rfl⟩)
  | i, n + 1 =>
    -- the source indexes the array without a check of its own
    if limit ≤ i then Prog.fault
    else do
      match ← item with
      | none => pure none
      | some a =>
        let rest ← parseArray limit item (i + 1) n
        pure (rest.map fun as => ⟨a :: as.1, congrArg (· + 1) as.2⟩)

/-! ## The parser -/

/-- The header of the package. -/
def parseHdr : Prog Bytes FwPkgHdr := do
  let uuid ← readBytes 16
  let revision ← readU8
  let size ← readU16
  let rlsDateTime ← readBytes 13
  let compBitmapLen ← readU16
  let pkgVerStrType ← readU8
  let pkgVerStrLen ← readU8
  let pkgVersion ← readBytes pkgVerStrLen.toNat
  pure { uuid, revision, size, rlsDateTime, compBitmapLen, pkgVerStrType, pkgVerStrLen, pkgVersion }

/-- A descriptor longer than `descData` is a parse error. -/
def parseDesc : Prog Bytes (Option RecordDesc) := do
  let descType ← readU16
  let descLength ← readU16
  if h : descLength.toNat ≤ pldmDescriptorSizeBytes then do
    let descData ← readBytes descLength.toNat
    pure (some { descType, descData, descLength_le := by rw [descData.2]; exact h })
  else
    pure none

/-- The device package data that follows the descriptors is not skipped by the source. -/
def parseRecord : Prog Bytes (Option FwDevRecord) := do
  let recordLen ← readU16
  let descCount ← readU8
  let devUpdateOptionFlags ← readU32
  let compImageSetVerStrType ← readU8
  let compImageSetVerStrLen ← readU8
  let fwDevPkgDataLen ← readU16
  let applicableComp ← readU8
  let compImageSetVerStr ← readBytes compImageSetVerStrLen.toNat
  let descs ← parseArray pldmFwuMaxRecordDescriptors parseDesc 0 descCount.toNat
  pure (descs.map fun recordDesc =>
    { recordLen, devUpdateOptionFlags, compImageSetVerStrType, compImageSetVerStrLen,
      fwDevPkgDataLen, applicableComp, compImageSetVerStr, recordDesc })

/-- One component image. -/
def parseImage : Prog Bytes (Option CompImageInfo) := do
  let compClassification ← readU16
  let id ← readU16
  let compComparisionStamp ← readU32
  let compOptions ← readU16
  let rqstdCompActivMethod ← readU16
  let compLocOffset ← readU32
  let compSize ← readU32
  let verStrType ← readU8
  let verStrLen ← readU8
  let verStr ← readBytes verStrLen.toNat
  pure (some { compClassification, id, compComparisionStamp, compOptions, rqstdCompActivMethod,
               compLocOffset, compSize, verStrType, verStrLen, verStr := verStr.1,
               verStr_length := verStr.2 })

/-- `compImageCount`: the source takes the low byte of the two-byte field, and steps over the high one
without looking at it. -/
def readImageCount : Prog Bytes UInt8 := do
  let low ← readU8
  Prog.modify (List.drop 1)
  pure low

/-- The body of `fwpkgParseInfo` on a file of `fileSize` bytes. -/
def parsePkg (fileSize : Nat) : Prog Bytes (Option FwPkg) := do
  let hdr ← parseHdr
  let recordCount ← readU8
  if hr : recordCount.toNat ≤ pldmFwuMaxRecords then do
    match ← parseArray pldmFwuMaxRecords parseRecord 0 recordCount.toNat with
    | none => pure none
    | some records =>
      let compImageCount ← readImageCount
      if hc : compImageCount.toNat ≤ pldmFwuMaxImages then do
        match ← parseArray pldmFwuMaxImages parseImage 0 compImageCount.toNat with
        | none => pure none
        | some compImages =>
          let checksum ← readU32
          let left ← Prog.get
          pure (some { hdr, records, compImages, checksum,
                       pkgInfoSize := UInt32.ofNat (fileSize - left.length),
                       recordCount_le := by rw [records.2]; exact hr,
                       compImageCount_le := by rw [compImages.2]; exact hc })
      else
        pure none
  else
    pure none

/-- `dumpPldmFwpkgInfo` prints `fwDevPkgDataLen` bytes of each record's version string, whose
array holds 256; the printed values are evaluated whatever the log level is. -/
def dumpPldmFwpkgInfo (pkg : FwPkg) : Outcome (Option FwPkg) :=
  if pkg.records.all (fun r => r.fwDevPkgDataLen.toNat ≤ pldmFwuCompVerStrSizeMax) then
    .ret (some pkg)
  else
    .fault

/-- `fwpkgParseInfo` on the bytes of an opened package file. -/
def fwpkgParse (file : Bytes) : Outcome (Option FwPkg) :=
  if file.length < fwPkgSize then .ret none
  else
    match (parsePkg file.length file).1 with
    | .ret (some pkg) => dumpPldmFwpkgInfo pkg
    | o => o

/-! ## Sample packages -/

/-- A component image of `size` bytes at file position `loc`, with an empty version string. -/
def sampleImage (loc size : Nat) : Bytes :=
  leBytes 2 10 ++ leBytes 2 1 ++ leBytes 4 0 ++ leBytes 2 0 ++ leBytes 2 0 ++ leBytes 4 loc
    ++ leBytes 4 size ++ [1, 0]

/-- A package file with these images and no device records. -/
def samplePackage (images : List Bytes) : Bytes :=
  List.replicate 37 0 ++ [UInt8.ofNat images.length, 0] ++ images.flatten
    ++ List.replicate fwPkgSize 0

/-- Positions and sizes of the component images of an accepted package. -/
def acceptedRegions : Outcome (Option FwPkg) → Option (List (UInt32 × UInt32))
  | .ret (some pkg) => some (pkg.compImages.map fun comp => (comp.compLocOffset, comp.compSize))
  | _ => none

theorem exists_of_acceptedRegions {o : Outcome (Option FwPkg)} {regions : List (UInt32 × UInt32)}
    (h : acceptedRegions o = some regions) : ∃ pkg, o = .ret (some pkg) ∧
      pkg.compImages.map (fun comp => (comp.compLocOffset, comp.compSize)) = regions := by
  rcases o with (_ | pkg) | _ | _
  · cases h
  · exact ⟨pkg, rfl, Option.some.inj h⟩
  · cases h
  · cases h

/-- A package with one region has one component. -/
theorem exists_comp_of_region {images : List CompImageInfo} {loc size : UInt32}
    (h : images.map (fun comp => (comp.compLocOffset, comp.compSize)) = [(loc, size)]) :
    ∃ comp, images = [comp] ∧ comp.compLocOffset = loc ∧ comp.compSize = size := by
  obtain ⟨comp, rfl, hcomp⟩ := List.map_eq_singleton_iff.mp h
  exact ⟨comp, rfl, congrArg Prod.fst hcomp, congrArg Prod.snd hcomp⟩

end XpuManager
