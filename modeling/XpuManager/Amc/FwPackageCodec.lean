import Mathlib.Algebra.Order.BigOperators.Group.List
import Mathlib.Algebra.Order.Ring.Nat
import XpuManager.Lib.Codec
import XpuManager.Amc.FwPackage

/-! # Decoding an encoded firmware package

A package value as the file format has it, its header written field by field, and what
`fwpkgParseInfo` makes of such a file. The parser never steps over the package data of a device
record. -/

namespace XpuManager

/-! ## Fields -/

theorem consumes_readBytes {n : Nat} (bs : {bs : Bytes // bs.length = n}) :
    Prog.Consumes (readBytes n) bs.1 bs := by
  obtain ⟨bs, rfl⟩ := bs
  intro rest
  simp [readBytes]

theorem accepts_readBytes (n : Nat) : Prog.Accepts (readBytes n) Subtype.val := by
  intro bs a rest h
  rw [readBytes] at h
  split at h
  · obtain ⟨rfl, rfl⟩ := Prod.mk.inj h |>.imp_left Outcome.ret.inj
    exact (List.take_append_drop n bs).symm
  · cases h

section Field

variable {α : Type} {k : Nat} {f : Nat → α} {g : α → Nat}

/-- A field of `k` bytes that holds a number. -/
theorem consumes_field {v : Nat} {a : α} (hv : v < 256 ^ k) (ha : f v = a) :
    Prog.Consumes (readBytes k >>= fun bs => pure (f (ofLeBytes bs.1))) (leBytes k v) a := by
  have h := (consumes_readBytes ⟨leBytes k v, length_leBytes k v⟩).map
    (f := fun bs => f (ofLeBytes bs.1))
  rwa [ofLeBytes_leBytes, Nat.mod_eq_of_lt hv, ha] at h

theorem accepts_field (hg : ∀ v < 256 ^ k, g (f v) = v) :
    Prog.Accepts (readBytes k >>= fun bs => pure (f (ofLeBytes bs.1))) fun a => leBytes k (g a) := by
  intro bs a rest h
  obtain ⟨⟨field, hlen⟩, t, hfield, hpure⟩ := Prog.bind_eq_ret_iff.mp h
  obtain ⟨rfl, rfl⟩ := Prod.mk.inj hpure |>.imp_left Outcome.ret.inj
  have hv : g (f (ofLeBytes field)) = ofLeBytes field := hg _ (hlen ▸ ofLeBytes_lt field)
  rw [accepts_readBytes k hfield]
  change field ++ t = leBytes k (g (f (ofLeBytes field))) ++ t
  rw [hv, ← hlen, leBytes_ofLeBytes]

end Field

theorem consumes_readU8 (v : UInt8) : Prog.Consumes readU8 (leBytes 1 v.toNat) v :=
  consumes_field v.toNat_lt UInt8.ofNat_toNat

theorem consumes_readU16 (v : UInt16) : Prog.Consumes readU16 (leBytes 2 v.toNat) v :=
  consumes_field v.toNat_lt UInt16.ofNat_toNat

theorem consumes_readU32 (v : UInt32) : Prog.Consumes readU32 (leBytes 4 v.toNat) v :=
  consumes_field v.toNat_lt UInt32.ofNat_toNat

/-- A count in a byte. -/
theorem consumes_count {n : Nat} (h : n < 256) :
    Prog.Consumes readU8 (leBytes 1 n) (UInt8.ofNat n) := consumes_field h rfl

theorem accepts_readU8 : Prog.Accepts readU8 fun v => leBytes 1 v.toNat :=
  accepts_field fun _ hv => UInt8.toNat_ofNat_of_lt' hv

theorem accepts_readU16 : Prog.Accepts readU16 fun v => leBytes 2 v.toNat :=
  accepts_field fun _ hv => UInt16.toNat_ofNat_of_lt' hv

theorem accepts_readU32 : Prog.Accepts readU32 fun v => leBytes 4 v.toNat :=
  accepts_field fun _ hv => UInt32.toNat_ofNat_of_lt' hv

/-! ## Descriptors, records, images and the file header -/

/-- A descriptor as it is written. -/
def RecordDesc.encode (desc : RecordDesc) : Bytes :=
  [leBytes 2 desc.descType.toNat, leBytes 2 desc.descData.length, desc.descData].flatten

/-- `fwDevRecord` as it is written, up to its descriptors. -/
def FwDevRecord.encode (record : FwDevRecord) : Bytes :=
  [leBytes 2 record.recordLen.toNat, leBytes 1 record.recordDesc.length,
    leBytes 4 record.devUpdateOptionFlags.toNat, leBytes 1 record.compImageSetVerStrType.toNat,
    leBytes 1 record.compImageSetVerStrLen.toNat, leBytes 2 record.fwDevPkgDataLen.toNat,
    leBytes 1 record.applicableComp.toNat, record.compImageSetVerStr,
    record.recordDesc.flatMap RecordDesc.encode].flatten

/-- The fields of `fwDevRecord` in front of its descriptors, as they are written. -/
def FwDevRecord.head (record : FwDevRecord) (descCount : UInt8) : Bytes :=
  [leBytes 2 record.recordLen.toNat, leBytes 1 descCount.toNat,
    leBytes 4 record.devUpdateOptionFlags.toNat, leBytes 1 record.compImageSetVerStrType.toNat,
    leBytes 1 record.compImageSetVerStrLen.toNat, leBytes 2 record.fwDevPkgDataLen.toNat,
    leBytes 1 record.applicableComp.toNat, record.compImageSetVerStr].flatten

/-- `compImageInfo` as it is written. -/
def CompImageInfo.encode (image : CompImageInfo) : Bytes :=
  [leBytes 2 image.compClassification.toNat, leBytes 2 image.id.toNat,
    leBytes 4 image.compComparisionStamp.toNat, leBytes 2 image.compOptions.toNat,
    leBytes 2 image.rqstdCompActivMethod.toNat, leBytes 4 image.compLocOffset.toNat,
    leBytes 4 image.compSize.toNat, leBytes 1 image.verStrType.toNat,
    leBytes 1 image.verStrLen.toNat, image.verStr].flatten

/-- `fwPkgHdr` as it is written. -/
def FwPkgHdr.encode (hdr : FwPkgHdr) : Bytes :=
  [hdr.uuid, leBytes 1 hdr.revision.toNat, leBytes 2 hdr.size.toNat, hdr.rlsDateTime,
    leBytes 2 hdr.compBitmapLen.toNat, leBytes 1 hdr.pkgVerStrType.toNat,
    leBytes 1 hdr.pkgVerStrLen.toNat, hdr.pkgVersion].flatten

theorem consumes_parseDesc (desc : RecordDesc) :
    Prog.Consumes parseDesc desc.encode (some desc) := by
  obtain ⟨descType, descData, hle⟩ := desc
  have hlt : descData.length < 256 ^ 2 := Nat.lt_of_le_of_lt hle (by decide)
  have hlen : (UInt16.ofNat descData.length).toNat = descData.length :=
    UInt16.toNat_ofNat_of_lt' hlt
  refine (consumes_readU16 descType).bind ((consumes_field hlt rfl).bind ?_)
  rw [dif_pos (by rw [hlen]; exact hle)]
  exact (consumes_readBytes ⟨descData, hlen.symm⟩).bind (Prog.Consumes.pure _)

/-- What is accepted as a descriptor is the encoding of one. -/
theorem accepts_parseDesc {bs rest : Bytes} {desc : RecordDesc}
    (h : parseDesc bs = (.ret (some desc), rest)) : bs = desc.encode ++ rest := by
  obtain ⟨descType, t, htype, h⟩ := Prog.bind_eq_ret_iff.mp h
  obtain ⟨descLength, u, hlength, h⟩ := Prog.bind_eq_ret_iff.mp h
  split at h
  case isFalse => cases h
  case isTrue hle =>
    obtain ⟨⟨descData, hdata⟩, v, hbytes, h⟩ := Prog.bind_eq_ret_iff.mp h
    obtain ⟨hdesc, rfl⟩ := Prod.mk.inj h
    obtain rfl := Option.some_inj.mp (Outcome.ret.inj hdesc)
    rw [accepts_readU16 htype, accepts_readU16 hlength, accepts_readBytes _ hbytes]
    simp [RecordDesc.encode, hdata]

/-- An array of items that are each read as they are written. -/
theorem consumes_parseArray {α : Type} {limit : Nat} {item : Prog Bytes (Option α)}
    {encode : α → Bytes} {i n : Nat} {as : List α} (has : as.length = n)
    (hitem : ∀ a ∈ as, Prog.Consumes item (encode a) (some a)) (hlimit : i + n ≤ limit) :
    Prog.Consumes (parseArray limit item i n) (as.flatMap encode) (some ⟨as, has⟩) := by
  subst has
  induction as generalizing i with
  | nil => exact Prog.Consumes.pure _
  | cons a as ih =>
    have hlimit' : i + (as.length + 1) ≤ limit := hlimit
    change Prog.Consumes (parseArray limit item i (as.length + 1)) _ _
    rw [parseArray, if_neg (by omega), List.flatMap_cons]
    refine (hitem a List.mem_cons_self).bind ?_
    exact (ih (fun b hb => hitem b (List.mem_cons_of_mem _ hb)) (by omega)).map

/-- **One step of `parseArray`** that comes back. -/
theorem parseArray_succ_ret {α : Type} {limit : Nat} {item : Prog Bytes (Option α)} {i n : Nat}
    {bs rest : Bytes} {r : Option {as : List α // as.length = n + 1}}
    (h : parseArray limit item i (n + 1) bs = (.ret r, rest)) :
    i < limit ∧ ((r = none ∧ item bs = (.ret none, rest)) ∨ ∃ a t others,
      item bs = (.ret (some a), t) ∧ parseArray limit item (i + 1) n t = (.ret others, rest) ∧
        r.map Subtype.val = others.map fun as => a :: as.1) := by
  rw [parseArray] at h
  split at h
  case isTrue => cases h
  case isFalse hlt =>
    refine ⟨Nat.lt_of_not_le hlt, ?_⟩
    obtain ⟨first, t, hfirst, h⟩ := Prog.bind_eq_ret_iff.mp h
    cases first with
    | none =>
      obtain ⟨hr, rfl⟩ := Prod.mk.inj h
      exact .inl ⟨(Outcome.ret.inj hr).symm, hfirst⟩
    | some a =>
      obtain ⟨others, u, hothers, h⟩ := Prog.bind_eq_ret_iff.mp h
      obtain ⟨hr, rfl⟩ := Prod.mk.inj h
      obtain rfl := Outcome.ret.inj hr
      exact .inr ⟨a, t, others, hfirst, hothers, by cases others <;> rfl⟩

/-- One step of an array that is read. -/
theorem parseArray_succ_some {α : Type} {limit : Nat} {item : Prog Bytes (Option α)} {i n : Nat}
    {bs rest : Bytes} {as : {as : List α // as.length = n + 1}}
    (h : parseArray limit item i (n + 1) bs = (.ret (some as), rest)) :
    i < limit ∧ ∃ a t others, item bs = (.ret (some a), t) ∧
      parseArray limit item (i + 1) n t = (.ret (some others), rest) ∧ as.1 = a :: others.1 := by
  obtain ⟨hlt, ⟨hnone, -⟩ | ⟨a, t, others, hfirst, hothers, has⟩⟩ := parseArray_succ_ret h
  · cases hnone
  · cases others with
    | none => cases has
    | some others => exact ⟨hlt, a, t, others, hfirst, hothers, Option.some_inj.mp has⟩

/-- Item by item, in order. -/
theorem accepts_parseArray {α : Type} {limit : Nat} {item : Prog Bytes (Option α)}
    {encode : α → Bytes}
    (hitem : ∀ {bs a rest}, item bs = (.ret (some a), rest) → bs = encode a ++ rest)
    {i n : Nat} {bs rest : Bytes} {as : {as : List α // as.length = n}}
    (h : parseArray limit item i n bs = (.ret (some as), rest)) :
    bs = as.1.flatMap encode ++ rest := by
  induction n generalizing i bs with
  | zero =>
    obtain ⟨has, rfl⟩ := Prod.mk.inj h
    obtain rfl := Option.some_inj.mp (Outcome.ret.inj has)
    rfl
  | succ n ih =>
    obtain ⟨-, a, t, others, hfirst, hothers, has⟩ := parseArray_succ_some h
    rw [hitem hfirst, ih hothers, has, List.flatMap_cons, List.append_assoc]

/-- The lengths in a device record are those of its fields, and it fits into `fwDevRecord`. -/
structure FwDevRecord.WellFormed (record : FwDevRecord) : Prop where
  verStr_length : record.compImageSetVerStr.length = record.compImageSetVerStrLen.toNat
  descCount_le : record.recordDesc.length ≤ pldmFwuMaxRecordDescriptors

/-- The lengths in the file header are those of its fields. -/
structure FwPkgHdr.WellFormed (hdr : FwPkgHdr) : Prop where
  uuid_length : hdr.uuid.length = 16
  rlsDateTime_length : hdr.rlsDateTime.length = 13
  pkgVersion_length : hdr.pkgVersion.length = hdr.pkgVerStrLen.toNat

theorem consumes_parseRecord {record : FwDevRecord} (hwf : record.WellFormed) :
    Prog.Consumes parseRecord record.encode (some record) := by
  obtain ⟨recordLen, flags, verStrType, verStrLen, dataLen, applicable, verStr, descs⟩ := record
  obtain ⟨hverStr, hcount⟩ := hwf
  have hlt : descs.length < 256 := Nat.lt_of_le_of_lt hcount (by decide)
  have hlen : (UInt8.ofNat descs.length).toNat = descs.length := UInt8.toNat_ofNat_of_lt' hlt
  refine (consumes_readU16 recordLen).bind ((consumes_count hlt).bind
    ((consumes_readU32 flags).bind ((consumes_readU8 verStrType).bind
    ((consumes_readU8 verStrLen).bind ((consumes_readU16 dataLen).bind
    ((consumes_readU8 applicable).bind ((consumes_readBytes ⟨verStr, hverStr⟩).bind ?_)))))))
  exact (consumes_parseArray hlen.symm (fun desc _ => consumes_parseDesc desc)
    (by rw [hlen, Nat.zero_add]; exact hcount)).bind (Prog.Consumes.pure _)

/-- The items of an array that was read. -/
theorem all_ok_of_parseArray {α : Type} {limit : Nat} {item : Prog Bytes (Option α)}
    {encode : α → Bytes} {ok : α → Prop}
    (hitem : ∀ {bs a rest}, item bs = (.ret (some a), rest) → bs = encode a ++ rest ∧ ok a)
    {i n : Nat} {bs rest : Bytes} {as : {as : List α // as.length = n}}
    (h : parseArray limit item i n bs = (.ret (some as), rest)) : ∀ a ∈ as.1, ok a := by
  induction n generalizing i bs with
  | zero =>
    obtain ⟨has, -⟩ := Prod.mk.inj h
    obtain rfl := Option.some_inj.mp (Outcome.ret.inj has)
    nofun
  | succ n ih =>
    obtain ⟨-, a, t, others, hfirst, hothers, has⟩ := parseArray_succ_some h
    rw [has]
    exact List.forall_mem_cons.mpr ⟨(hitem hfirst).2, ih hothers⟩

/-- An array that is read has room for its items. -/
theorem le_limit_of_parseArray {α : Type} {limit : Nat} {item : Prog Bytes (Option α)} {i n : Nat}
    {bs rest : Bytes} {as : {as : List α // as.length = n}}
    (h : parseArray limit item i n bs = (.ret (some as), rest)) (hi : i ≤ limit) :
    i + n ≤ limit := by
  induction n generalizing i bs with
  | zero => exact hi
  | succ n ih =>
    obtain ⟨hlt, -, t, others, -, hothers, -⟩ := parseArray_succ_some h
    have hroom := ih hothers hlt
    omega

/-- **The fields of a device record** that comes back lie in front of its descriptors. -/
theorem parseRecord_ret {bs rest : Bytes} {r : Option FwDevRecord}
    (h : parseRecord bs = (.ret r, rest)) :
    ∃ (record : FwDevRecord) (descCount : UInt8) (tail : Bytes)
      (descs : Option {as : List RecordDesc // as.length = descCount.toNat}),
      record.compImageSetVerStr.length = record.compImageSetVerStrLen.toNat ∧
      bs = record.head descCount ++ tail ∧
      parseArray pldmFwuMaxRecordDescriptors parseDesc 0 descCount.toNat tail = (.ret descs, rest) ∧
      r = descs.map fun recordDesc => { record with recordDesc := recordDesc.1 } := by
  obtain ⟨recordLen, t, hrecordLen, h⟩ := Prog.bind_eq_ret_iff.mp h
  obtain ⟨descCount, u, hdescCount, h⟩ := Prog.bind_eq_ret_iff.mp h
  obtain ⟨flags, v, hflags, h⟩ := Prog.bind_eq_ret_iff.mp h
  obtain ⟨verStrType, w, hverStrType, h⟩ := Prog.bind_eq_ret_iff.mp h
  obtain ⟨verStrLen, t₁, hverStrLen, h⟩ := Prog.bind_eq_ret_iff.mp h
  obtain ⟨dataLen, u₁, hdataLen, h⟩ := Prog.bind_eq_ret_iff.mp h
  obtain ⟨applicable, v₁, happlicable, h⟩ := Prog.bind_eq_ret_iff.mp h
  obtain ⟨⟨verStr, hverStr⟩, w₁, hstr, h⟩ := Prog.bind_eq_ret_iff.mp h
  obtain ⟨descs, t₂, hdescs, h⟩ := Prog.bind_eq_ret_iff.mp h
  obtain ⟨hrecord, rfl⟩ := Prod.mk.inj h
  obtain rfl := Outcome.ret.inj hrecord
  refine ⟨⟨recordLen, flags, verStrType, verStrLen, dataLen, applicable, verStr, []⟩, descCount, w₁,
    descs, hverStr, ?_, hdescs, by cases descs <;> rfl⟩
  rw [accepts_readU16 hrecordLen, accepts_readU8 hdescCount, accepts_readU32 hflags,
    accepts_readU8 hverStrType, accepts_readU8 hverStrLen, accepts_readU16 hdataLen,
    accepts_readU8 happlicable, accepts_readBytes _ hstr]
  simp [FwDevRecord.head]

/-- What is accepted as a device record is the encoding of one without package data. -/
theorem parseRecord_accepted {bs rest : Bytes} {record : FwDevRecord}
    (h : parseRecord bs = (.ret (some record), rest)) :
    bs = record.encode ++ rest ∧ record.WellFormed := by
  obtain ⟨fields, descCount, tail, descs, hverStr, rfl, hdescs, hrecord⟩ := parseRecord_ret h
  cases descs with
  | none => cases hrecord
  | some descs =>
    obtain rfl := Option.some_inj.mp hrecord
    have hcount := le_limit_of_parseArray hdescs (Nat.zero_le _)
    refine ⟨?_, hverStr, show descs.1.length ≤ _ by rw [descs.2]; omega⟩
    rw [accepts_parseArray accepts_parseDesc hdescs]
    simp [FwDevRecord.encode, FwDevRecord.head, descs.2]

/-- What is accepted as a record is the encoding of one without package data. -/
theorem accepts_parseRecord {bs rest : Bytes} {record : FwDevRecord}
    (h : parseRecord bs = (.ret (some record), rest)) : bs = record.encode ++ rest :=
  (parseRecord_accepted h).1

theorem consumes_parseImage (image : CompImageInfo) :
    Prog.Consumes parseImage image.encode (some image) := by
  obtain ⟨classification, id, stamp, options, activMethod, locOffset, size, verStrType, verStrLen,
    verStr, hverStr⟩ := image
  exact (consumes_readU16 classification).bind ((consumes_readU16 id).bind
    ((consumes_readU32 stamp).bind ((consumes_readU16 options).bind
    ((consumes_readU16 activMethod).bind ((consumes_readU32 locOffset).bind
    ((consumes_readU32 size).bind ((consumes_readU8 verStrType).bind
    ((consumes_readU8 verStrLen).bind ((consumes_readBytes ⟨verStr, hverStr⟩).bind
    (Prog.Consumes.pure _))))))))))

/-- What is accepted as a component image is the encoding of one. -/
theorem accepts_parseImage {bs rest : Bytes} {image : CompImageInfo}
    (h : parseImage bs = (.ret (some image), rest)) : bs = image.encode ++ rest := by
  obtain ⟨classification, t, hclassification, h⟩ := Prog.bind_eq_ret_iff.mp h
  obtain ⟨id, u, hid, h⟩ := Prog.bind_eq_ret_iff.mp h
  obtain ⟨stamp, v, hstamp, h⟩ := Prog.bind_eq_ret_iff.mp h
  obtain ⟨options, w, hoptions, h⟩ := Prog.bind_eq_ret_iff.mp h
  obtain ⟨activMethod, t₁, hactivMethod, h⟩ := Prog.bind_eq_ret_iff.mp h
  obtain ⟨locOffset, u₁, hlocOffset, h⟩ := Prog.bind_eq_ret_iff.mp h
  obtain ⟨size, v₁, hsize, h⟩ := Prog.bind_eq_ret_iff.mp h
  obtain ⟨verStrType, w₁, hverStrType, h⟩ := Prog.bind_eq_ret_iff.mp h
  obtain ⟨verStrLen, t₂, hverStrLen, h⟩ := Prog.bind_eq_ret_iff.mp h
  obtain ⟨⟨verStr, hverStr⟩, u₂, hstr, h⟩ := Prog.bind_eq_ret_iff.mp h
  obtain ⟨himage, rfl⟩ := Prod.mk.inj h
  obtain rfl := Option.some_inj.mp (Outcome.ret.inj himage)
  rw [accepts_readU16 hclassification, accepts_readU16 hid, accepts_readU32 hstamp,
    accepts_readU16 hoptions, accepts_readU16 hactivMethod, accepts_readU32 hlocOffset,
    accepts_readU32 hsize, accepts_readU8 hverStrType, accepts_readU8 hverStrLen,
    accepts_readBytes _ hstr]
  simp [CompImageInfo.encode]

theorem consumes_parseHdr {hdr : FwPkgHdr} (hwf : hdr.WellFormed) :
    Prog.Consumes parseHdr hdr.encode hdr := by
  obtain ⟨uuid, revision, size, rlsDateTime, bitmapLen, verStrType, verStrLen, version⟩ := hdr
  obtain ⟨huuid, hdate, hversion⟩ := hwf
  exact (consumes_readBytes ⟨uuid, huuid⟩).bind ((consumes_readU8 revision).bind
    ((consumes_readU16 size).bind ((consumes_readBytes ⟨rlsDateTime, hdate⟩).bind
    ((consumes_readU16 bitmapLen).bind ((consumes_readU8 verStrType).bind
    ((consumes_readU8 verStrLen).bind ((consumes_readBytes ⟨version, hversion⟩).bind
    (Prog.Consumes.pure _))))))))

/-- What is accepted as a file header is the encoding of one. -/
theorem parseHdr_accepted {bs rest : Bytes} {hdr : FwPkgHdr}
    (h : parseHdr bs = (.ret hdr, rest)) : bs = hdr.encode ++ rest ∧ hdr.WellFormed := by
  obtain ⟨⟨uuid, huuid⟩, t, hreadUuid, h⟩ := Prog.bind_eq_ret_iff.mp h
  obtain ⟨revision, u, hrevision, h⟩ := Prog.bind_eq_ret_iff.mp h
  obtain ⟨size, v, hsize, h⟩ := Prog.bind_eq_ret_iff.mp h
  obtain ⟨⟨date, hdate⟩, w, hreadDate, h⟩ := Prog.bind_eq_ret_iff.mp h
  obtain ⟨bitmapLen, t₁, hbitmapLen, h⟩ := Prog.bind_eq_ret_iff.mp h
  obtain ⟨verStrType, u₁, hverStrType, h⟩ := Prog.bind_eq_ret_iff.mp h
  obtain ⟨verStrLen, v₁, hverStrLen, h⟩ := Prog.bind_eq_ret_iff.mp h
  obtain ⟨⟨version, hversion⟩, w₁, hreadVersion, h⟩ := Prog.bind_eq_ret_iff.mp h
  obtain ⟨hhdr, rfl⟩ := Prod.mk.inj h
  obtain rfl := Outcome.ret.inj hhdr
  refine ⟨?_, huuid, hdate, hversion⟩
  rw [accepts_readBytes _ hreadUuid, accepts_readU8 hrevision, accepts_readU16 hsize,
    accepts_readBytes _ hreadDate, accepts_readU16 hbitmapLen, accepts_readU8 hverStrType,
    accepts_readU8 hverStrLen, accepts_readBytes _ hreadVersion]
  simp [FwPkgHdr.encode]

theorem accepts_parseHdr {bs rest : Bytes} {hdr : FwPkgHdr}
    (h : parseHdr bs = (.ret hdr, rest)) : bs = hdr.encode ++ rest := (parseHdr_accepted h).1

/-! ## Packages -/

/-- A device record of a package: `fwDevRecord` and the package data behind its descriptors. -/
structure PackageRecord where
  record : FwDevRecord
  wellFormed : record.WellFormed
  fwDevPkgData : Bytes
  fwDevPkgDataLen_eq : record.fwDevPkgDataLen.toNat = fwDevPkgData.length
  recordLen_eq : record.recordLen.toNat = (record.encode ++ fwDevPkgData).length

/-- The whole record as it is written. -/
def PackageRecord.encode (r : PackageRecord) : Bytes := r.record.encode ++ r.fwDevPkgData

/-- A package: what its header says, and the checksum of the header. -/
structure Package where
  hdr : FwPkgHdr
  hdr_wellFormed : hdr.WellFormed
  records : List PackageRecord
  compImages : List CompImageInfo
  checksum : UInt32
  recordCount_le : records.length ≤ pldmFwuMaxRecords
  compImageCount_le : compImages.length ≤ pldmFwuMaxImages

namespace Package

variable (p : Package)

/-- The device records as `fwPkg` holds them. -/
def devRecords : List FwDevRecord := p.records.map PackageRecord.record

/-- The header of the package file. -/
def encode : Bytes :=
  [p.hdr.encode, leBytes 1 p.records.length, p.records.flatMap PackageRecord.encode,
    leBytes 2 p.compImages.length, p.compImages.flatMap CompImageInfo.encode,
    leBytes 4 p.checksum.toNat].flatten

/-- The parser's result holds what the package holds, and the size of the header. -/
def RecoveredFrom (file : Bytes) : Prop :=
  ∃ pkg, fwpkgParse file = .ret (some pkg) ∧ pkg.hdr = p.hdr ∧ pkg.records = p.devRecords ∧
    pkg.compImages = p.compImages ∧ pkg.checksum = p.checksum ∧
      pkg.pkgInfoSize.toNat = p.encode.length

end Package

/-- The bytes of package data in some device records. -/
def pkgDataSize (records : List PackageRecord) : Nat :=
  (records.map fun r => r.fwDevPkgData.length).sum

theorem length_flatMap_encode (records : List PackageRecord) :
    (records.flatMap PackageRecord.encode).length =
      ((records.map PackageRecord.record).flatMap FwDevRecord.encode).length +
        pkgDataSize records := by
  induction records with
  | nil => rfl
  | cons r records ih =>
    have hsum : pkgDataSize (r :: records) = r.fwDevPkgData.length + pkgDataSize records := by
      rw [pkgDataSize, List.map_cons, List.sum_cons, pkgDataSize]
    rw [List.flatMap_cons, List.length_append, ih, PackageRecord.encode, List.length_append,
      List.map_cons, List.flatMap_cons, List.length_append, hsum]
    omega

/-- The two bytes of the image count; the parser takes up the first. -/
theorem accepts_readImageCount {bs rest : Bytes} {count : UInt8}
    (h : readImageCount bs = (.ret count, rest)) (hrest : rest ≠ []) :
    ∃ high : UInt8, bs = leBytes 1 count.toNat ++ leBytes 1 high.toNat ++ rest := by
  obtain ⟨low, t, hlow, h⟩ := Prog.bind_eq_ret_iff.mp h
  rw [Prog.modify_bind_apply] at h
  obtain ⟨hcount, rfl⟩ := Prod.mk.inj h
  obtain rfl := Outcome.ret.inj hcount
  cases t with
  | nil => exact absurd rfl hrest
  | cons high t =>
    refine ⟨high, ?_⟩
    rw [accepts_readU8 hlow, List.append_assoc]
    simp [leBytes]

/-- **What an accepted file is made of.** The second byte of the image count may be any. -/
theorem parsePkg_accepted {fileSize : Nat} {file left : Bytes} {pkg : FwPkg}
    (h : parsePkg fileSize file = (.ret (some pkg), left)) :
    pkg.pkgInfoSize = UInt32.ofNat (fileSize - left.length) ∧ pkg.hdr.WellFormed ∧
      (∀ record ∈ pkg.records, record.WellFormed) ∧
      ∃ low high : UInt8, low.toNat = pkg.compImages.length ∧
        file = pkg.hdr.encode ++ (leBytes 1 pkg.records.length ++
          (pkg.records.flatMap FwDevRecord.encode ++ (leBytes 1 low.toNat ++ leBytes 1 high.toNat ++
          (pkg.compImages.flatMap CompImageInfo.encode ++
          (leBytes 4 pkg.checksum.toNat ++ left))))) := by
  obtain ⟨hdr, t, hhdr, h⟩ := Prog.bind_eq_ret_iff.mp h
  obtain ⟨recordCount, u, hrecordCount, h⟩ := Prog.bind_eq_ret_iff.mp h
  split at h
  case isFalse => cases h
  case isTrue =>
    obtain ⟨records, v, hrecords, h⟩ := Prog.bind_eq_ret_iff.mp h
    cases records with
    | none => cases h
    | some records =>
      obtain ⟨low, w, hlow, h⟩ := Prog.bind_eq_ret_iff.mp h
      split at h
      case isFalse => cases h
      case isTrue =>
        obtain ⟨images, t₁, himages, h⟩ := Prog.bind_eq_ret_iff.mp h
        cases images with
        | none => cases h
        | some images =>
          obtain ⟨checksum, u₁, hchecksum, h⟩ := Prog.bind_eq_ret_iff.mp h
          obtain ⟨hpkg, rfl⟩ := Prod.mk.inj h
          obtain rfl := Option.some_inj.mp (Outcome.ret.inj hpkg)
          have hchecksum := accepts_readU32 hchecksum
          have hleft : w ≠ [] := by
            rw [accepts_parseArray accepts_parseImage himages, hchecksum]
            exact List.append_ne_nil_of_right_ne_nil _ (by simp [leBytes])
          obtain ⟨high, hcount⟩ := accepts_readImageCount hlow hleft
          refine ⟨rfl, (parseHdr_accepted hhdr).2, all_ok_of_parseArray parseRecord_accepted hrecords,
            low, high, images.2.symm, ?_⟩
          rw [accepts_parseHdr hhdr, accepts_readU8 hrecordCount,
            accepts_parseArray accepts_parseRecord hrecords, hcount,
            accepts_parseArray accepts_parseImage himages, hchecksum, records.2]

/-- **Size of what is parsed.** The bytes a successful run has read are those of the parsed package
without package data. -/
theorem parsePkg_size {fileSize : Nat} {file left : Bytes} {pkg : FwPkg}
    (h : parsePkg fileSize file = (.ret (some pkg), left)) :
    pkg.pkgInfoSize = UInt32.ofNat (fileSize - left.length) ∧
      file.length = pkg.hdr.encode.length + 1 + (pkg.records.flatMap FwDevRecord.encode).length +
        2 + (pkg.compImages.flatMap CompImageInfo.encode).length + 4 + left.length := by
  obtain ⟨hsize, -, -, low, high, -, rfl⟩ := parsePkg_accepted h
  refine ⟨hsize, ?_⟩
  simp only [List.length_append, length_leBytes]
  omega

theorem consumes_readImageCount {n : Nat} (h : n < 256) :
    Prog.Consumes readImageCount (leBytes 2 n) (UInt8.ofNat n) := by
  have hbytes : leBytes 2 n = leBytes 1 n ++ [0] := by
    have hdiv : n / 256 = 0 := Nat.div_eq_of_lt h
    simp [leBytes, hdiv]
  rw [hbytes]
  exact (consumes_count h).bind fun rest => rfl

/-- A parse that succeeds is a run of `parsePkg` on the whole file. -/
theorem exists_run_of_fwpkgParse {file : Bytes} {pkg : FwPkg}
    (h : fwpkgParse file = .ret (some pkg)) :
    ∃ left, parsePkg file.length file = (.ret (some pkg), left) := by
  rw [fwpkgParse] at h
  split at h
  · cases h
  · rcases hrun : parsePkg file.length file with ⟨(_ | parsed) | _ | _, left⟩
    all_goals simp only [hrun] at h
    · cases h
    · rw [dumpPldmFwpkgInfo] at h
      split at h
      · cases h
        exact ⟨left, rfl⟩
      · cases h
    · cases h
    · cases h

/-- Without package data the records are written as `fwDevRecord`s. -/
theorem flatMap_encode_of_empty {records : List PackageRecord}
    (h : ∀ r ∈ records, r.fwDevPkgData = []) : records.flatMap PackageRecord.encode =
      (records.map PackageRecord.record).flatMap FwDevRecord.encode := by
  rw [List.flatMap_map]
  refine List.flatMap_congr fun r hr => ?_
  rw [PackageRecord.encode, h r hr, List.append_nil]

/-- **A header without package data is recovered**, and the parser stops at its end. -/
theorem parsePkg_encode (p : Package) (hdata : ∀ r ∈ p.records, r.fwDevPkgData = [])
    (fileSize : Nat) (rest : Bytes) : ∃ pkg,
      parsePkg fileSize (p.encode ++ rest) = (.ret (some pkg), rest) ∧ pkg.hdr = p.hdr ∧
        pkg.records = p.devRecords ∧ pkg.compImages = p.compImages ∧ pkg.checksum = p.checksum := by
  have hrecordCount : (UInt8.ofNat p.records.length).toNat = p.records.length :=
    UInt8.toNat_ofNat_of_lt' (Nat.lt_of_le_of_lt p.recordCount_le (by decide))
  have himageCount : (UInt8.ofNat p.compImages.length).toNat = p.compImages.length :=
    UInt8.toNat_ofNat_of_lt' (Nat.lt_of_le_of_lt p.compImageCount_le (by decide))
  have hrecords : Prog.Consumes
      (parseArray pldmFwuMaxRecords parseRecord 0 (UInt8.ofNat p.records.length).toNat)
      (p.devRecords.flatMap FwDevRecord.encode)
      (some ⟨p.devRecords, by rw [hrecordCount, Package.devRecords, List.length_map]⟩) := by
    refine consumes_parseArray _ (fun record hrecord => ?_) ?_
    · obtain ⟨r, -, rfl⟩ := List.mem_map.mp hrecord
      exact consumes_parseRecord r.wellFormed
    · rw [hrecordCount, Nat.zero_add]
      exact p.recordCount_le
  have himages : Prog.Consumes
      (parseArray pldmFwuMaxImages parseImage 0 (UInt8.ofNat p.compImages.length).toNat)
      (p.compImages.flatMap CompImageInfo.encode) (some ⟨p.compImages, himageCount.symm⟩) := by
    refine consumes_parseArray _ (fun image _ => consumes_parseImage image) ?_
    rw [himageCount, Nat.zero_add]
    exact p.compImageCount_le
  have hencode : p.encode ++ rest = p.hdr.encode ++ (leBytes 1 p.records.length ++
      (p.devRecords.flatMap FwDevRecord.encode ++ (leBytes 2 p.compImages.length ++
      (p.compImages.flatMap CompImageInfo.encode ++ (leBytes 4 p.checksum.toNat ++ rest))))) := by
    simp [Package.encode, flatMap_encode_of_empty hdata, Package.devRecords]
  refine ⟨{
    hdr := p.hdr
    records := p.devRecords
    compImages := p.compImages
    checksum := p.checksum
    pkgInfoSize := UInt32.ofNat (fileSize - rest.length)
    recordCount_le := by rw [Package.devRecords, List.length_map]; exact p.recordCount_le
    compImageCount_le := p.compImageCount_le }, ?_, rfl, rfl, rfl, rfl⟩
  rw [hencode, parsePkg, Prog.bind_of_ret (consumes_parseHdr p.hdr_wellFormed _),
    Prog.bind_of_ret (consumes_count (Nat.lt_of_le_of_lt p.recordCount_le (by decide)) _),
    dif_pos (by rw [hrecordCount]; exact p.recordCount_le), Prog.bind_of_ret (hrecords _)]
  dsimp only
  rw [Prog.bind_of_ret
      (consumes_readImageCount (Nat.lt_of_le_of_lt p.compImageCount_le (by decide)) _),
    dif_pos (by rw [himageCount]; exact p.compImageCount_le), Prog.bind_of_ret (himages _)]
  dsimp only
  rw [Prog.bind_of_ret (consumes_readU32 _ _)]
  rfl

/-! ## The round trip -/

theorem length_flatMap_le {α : Type} {f : α → Bytes} {as : List α} {n : Nat}
    (h : ∀ a ∈ as, (f a).length ≤ n) : (as.flatMap f).length ≤ as.length * n := by
  rw [List.length_flatMap, ← List.length_map fun a => (f a).length]
  refine List.sum_le_card_nsmul _ n fun k hk => ?_
  obtain ⟨a, ha, rfl⟩ := List.mem_map.mp hk
  exact h a ha

/-- The header of a package is far shorter than 4 GiB. -/
theorem length_encode_lt (p : Package) : p.encode.length < 2 ^ 32 := by
  have hrecords := @length_flatMap_le _ PackageRecord.encode p.records (2 ^ 16) fun r _ => by
    have hlen := r.recordLen_eq
    have hlt := r.record.recordLen.toNat_lt
    rw [PackageRecord.encode]
    omega
  have himages := @length_flatMap_le _ CompImageInfo.encode p.compImages (22 + 256) fun image _ => by
    have hlen := image.verStr_length
    have hlt := image.verStrLen.toNat_lt
    simp only [CompImageInfo.encode, List.flatten_cons, List.flatten_nil, List.length_append,
      length_leBytes, List.length_nil]
    omega
  have hversion := p.hdr_wellFormed.pkgVersion_length
  have hlt := p.hdr.pkgVerStrLen.toNat_lt
  have hrecordCount : p.records.length ≤ 4 := p.recordCount_le
  have himageCount : p.compImages.length ≤ 4 := p.compImageCount_le
  have hhdr : p.hdr.encode.length = 36 + p.hdr.pkgVersion.length := by
    simp only [FwPkgHdr.encode, List.flatten_cons, List.flatten_nil, List.length_append,
      length_leBytes, List.length_nil, p.hdr_wellFormed.uuid_length,
      p.hdr_wellFormed.rlsDateTime_length]
    omega
  simp only [Package.encode, List.flatten_cons, List.flatten_nil, List.length_append,
    length_leBytes, List.length_nil, hhdr]
  omega

/-- A recovered package has no package data: the header the parser has read is shorter by it. -/
theorem pkgDataSize_of_recovered {p : Package} {payload : Bytes}
    (h : p.RecoveredFrom (p.encode ++ payload)) : pkgDataSize p.records = 0 := by
  obtain ⟨pkg, hparse, hhdr, hrecords, himages, -, hsize⟩ := h
  obtain ⟨left, hrun⟩ := exists_run_of_fwpkgParse hparse
  obtain ⟨hinfo, hlen⟩ := parsePkg_size hrun
  have hlt := length_encode_lt p
  rw [hhdr, hrecords, himages] at hlen
  have henc : p.encode.length = p.hdr.encode.length + 1 +
      ((p.devRecords.flatMap FwDevRecord.encode).length + pkgDataSize p.records) + 2 +
      (p.compImages.flatMap CompImageInfo.encode).length + 4 := by
    rw [Package.devRecords, ← length_flatMap_encode]
    simp only [Package.encode, List.flatten_cons, List.flatten_nil, List.length_append,
      length_leBytes, List.length_nil]
    omega
  -- the parser's size is the header's without package data, and neither wraps
  rw [hinfo, UInt32.toNat_ofNat_of_lt' (by simp only [UInt32.size]; omega)] at hsize
  omega

/-- **When decoding undoes encoding.** For every package and whatever follows its header in the
file: what the parser makes of the file holds the package's records, component images and checksum
and the size of the header, if and only if the file is at least as large as `fwPkg` and no device
record has package data. -/
theorem fwpkgParse_recovers_iff (p : Package) (payload : Bytes) :
    p.RecoveredFrom (p.encode ++ payload) ↔
      fwPkgSize ≤ (p.encode ++ payload).length ∧ ∀ r ∈ p.records, r.fwDevPkgData = [] := by
  constructor
  · intro h
    have hsize := pkgDataSize_of_recovered h
    obtain ⟨pkg, hparse, -⟩ := h
    refine ⟨?_, fun r hr => ?_⟩
    · by_contra hlt
      rw [fwpkgParse, if_pos (Nat.lt_of_not_le hlt)] at hparse
      cases hparse
    · have hzero := List.sum_eq_zero_iff_forall_eq_nat.mp hsize _ (List.mem_map_of_mem hr)
      exact List.eq_nil_of_length_eq_zero hzero
  · rintro ⟨hlen, hdata⟩
    obtain ⟨pkg, hrun, hhdr, hrecords, himages, hchecksum⟩ :=
      parsePkg_encode p hdata (p.encode ++ payload).length payload
    refine ⟨pkg, ?_, hhdr, hrecords, himages, hchecksum, ?_⟩
    · have hdump : pkg.records.all
          (fun r => r.fwDevPkgDataLen.toNat ≤ pldmFwuCompVerStrSizeMax) = true := by
        rw [hrecords, Package.devRecords, List.all_eq_true]
        intro record hrecord
        obtain ⟨r, hr, rfl⟩ := List.mem_map.mp hrecord
        simp [r.fwDevPkgDataLen_eq, hdata r hr]
      rw [fwpkgParse, if_neg (Nat.not_lt.mpr hlen), hrun]
      exact if_pos hdump
    · have hlt := length_encode_lt p
      rw [(parsePkg_size hrun).1, List.length_append, Nat.add_sub_cancel,
        UInt32.toNat_ofNat_of_lt' (by simpa [UInt32.size] using hlt)]

/-! ## A package with package data -/

/-- A device record with one byte of package data. -/
def recordWithData : PackageRecord where
  record := ⟨13, 0, 1, 0, 1, 0, [], []⟩
  wellFormed := ⟨rfl, by decide⟩
  fwDevPkgData := [7]
  fwDevPkgDataLen_eq := rfl
  recordLen_eq := by decide

/-- A package with that record and one component image. -/
def packageWithData : Package where
  hdr := ⟨List.replicate 16 0, 1, 36, List.replicate 13 0, 0, 1, 0, []⟩
  hdr_wellFormed := ⟨rfl, rfl, rfl⟩
  records := [recordWithData]
  compImages := [⟨10, 1, 0, 0, 0, 8192, 32, 1, 0, [], rfl⟩]
  checksum := 0
  recordCount_le := by decide
  compImageCount_le := by decide

/-- A package file with it that is large enough. -/
def fileWithData : Bytes := packageWithData.encode ++ List.replicate fwPkgSize 0

/-- **Package data is not stepped over.** The package is not recovered from its own file. -/
theorem packageWithData_not_recovered :
    fwPkgSize ≤ fileWithData.length ∧ ¬packageWithData.RecoveredFrom fileWithData := by
  constructor
  · rw [fileWithData, List.length_append, List.length_replicate]
    exact Nat.le_add_left _ _
  · intro h
    exact absurd (pkgDataSize_of_recovered h) (by decide)

end XpuManager
