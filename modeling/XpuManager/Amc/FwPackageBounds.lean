import XpuManager.Amc.FwPackageCodec

/-! # Package files of any content

The walk of `fwpkgParseInfo` over a file that may hold anything. What the parser checks bounds the walk
by less than the least size of a package file, except for the number of descriptors of a record. -/

namespace XpuManager

/-! ## Arrays that are refused -/

/-- Behind some items of an array that has room for one more comes one that is refused. -/
def ArrayRefused {α : Type} (encode : α → Bytes) (ok : α → Prop) (refused : Bytes → Prop)
    (limit n : Nat) (bs : Bytes) : Prop :=
  ∃ (as : List α) (tail : Bytes), as.length < n ∧ as.length < limit ∧ (∀ a ∈ as, ok a) ∧
    bs = as.flatMap encode ++ tail ∧ refused tail

section Arrays

variable {α : Type} {limit : Nat} {item : Prog Bytes (Option α)} {encode : α → Bytes}
  {ok : α → Prop} {refused : Bytes → Prop} {i n : Nat} {bs rest : Bytes}

/-- An array is refused only at an item that is. -/
theorem refused_of_parseArray
    (hitem : ∀ {bs a rest}, item bs = (.ret (some a), rest) → bs = encode a ++ rest ∧ ok a)
    (hrefused : ∀ {bs rest}, item bs = (.ret none, rest) → refused bs)
    (h : parseArray limit item i n bs = (.ret none, rest)) :
    ArrayRefused encode ok refused (limit - i) n bs := by
  induction n generalizing i bs with
  | zero => cases (Prod.mk.inj h).1
  | succ n ih =>
    obtain ⟨hlt, ⟨-, hfirst⟩ | ⟨a, t, others, hfirst, hothers, has⟩⟩ := parseArray_succ_ret h
    · exact ⟨[], bs, by simp, by simp; omega, fun _ hmem => absurd hmem List.not_mem_nil, rfl,
        hrefused hfirst⟩
    · obtain ⟨hbs, hok⟩ := hitem hfirst
      cases others with
      | some others => cases has
      | none =>
        obtain ⟨as, tail, hn, hroom, hall, htail, hlast⟩ := ih hothers
        refine ⟨a :: as, tail, ?_, ?_, List.forall_mem_cons.mpr ⟨hok, hall⟩, ?_, hlast⟩
        · rw [List.length_cons]
          omega
        · rw [List.length_cons]
          omega
        · rw [hbs, htail, List.flatMap_cons, List.append_assoc]

/-- An array stops at an item at which the parser stops: with an error, or in undefined behaviour. -/
theorem parseArray_of_refused (hitem : ∀ a, ok a → Prog.Consumes item (encode a) (some a))
    (h : ArrayRefused encode ok refused (limit - i) n bs) :
    ((∀ bs, refused bs → ∃ rest, item bs = (.ret none, rest)) →
      ∃ rest, parseArray limit item i n bs = (.ret none, rest)) ∧
    ((∀ bs, refused bs → ∃ rest, item bs = (.fault, rest)) →
      ∃ rest, parseArray limit item i n bs = (.fault, rest)) := by
  obtain ⟨as, tail, hn, hroom, hall, rfl, hlast⟩ := h
  induction as generalizing i n with
  | nil =>
    obtain ⟨n, rfl⟩ := Nat.exists_eq_succ_of_ne_zero (Nat.ne_of_gt hn)
    rw [List.length_nil] at hroom
    rw [Nat.succ_eq_add_one, parseArray, if_neg (by omega)]
    refine ⟨fun hrefused => ?_, fun hrefused => ?_⟩
    · obtain ⟨rest, hrest⟩ := hrefused tail hlast
      exact ⟨rest, Prog.bind_of_ret hrest⟩
    · obtain ⟨rest, hrest⟩ := hrefused tail hlast
      exact ⟨rest, Prog.bind_of_fault hrest⟩
  | cons a as ih =>
    rw [List.length_cons] at hn hroom
    obtain ⟨n, rfl⟩ := Nat.exists_eq_succ_of_ne_zero (Nat.ne_zero_of_lt hn)
    obtain ⟨hnone, hfault⟩ := @ih (i + 1) n (by omega) (by omega)
      fun b hb => hall b (List.mem_cons_of_mem a hb)
    rw [Nat.succ_eq_add_one, parseArray, if_neg (by omega), List.flatMap_cons, List.append_assoc,
      Prog.bind_of_ret (hitem a (hall a List.mem_cons_self) _)]
    refine ⟨fun hrefused => ?_, fun hrefused => ?_⟩
    · obtain ⟨rest, hrest⟩ := hnone hrefused
      exact ⟨rest, Prog.bind_of_ret hrest⟩
    · obtain ⟨rest, hrest⟩ := hfault hrefused
      exact ⟨rest, Prog.bind_of_fault hrest⟩

end Arrays

/-! ## Records that are refused -/

/-- A descriptor that is longer than there is room. -/
def DescTooLong (bs : Bytes) : Prop :=
  ∃ (descType descLength : UInt16) (rest : Bytes), pldmDescriptorSizeBytes < descLength.toNat ∧
    bs = leBytes 2 descType.toNat ++ (leBytes 2 descLength.toNat ++ rest)

/-- A descriptor is refused exactly where it is too long. -/
theorem parseDesc_refuses_iff {bs : Bytes} :
    (∃ rest, parseDesc bs = (.ret none, rest)) ↔ DescTooLong bs := by
  constructor
  · rintro ⟨rest, h⟩
    obtain ⟨descType, t, htype, h⟩ := Prog.bind_eq_ret_iff.mp h
    obtain ⟨descLength, u, hlength, h⟩ := Prog.bind_eq_ret_iff.mp h
    split at h
    case isTrue =>
      obtain ⟨descData, v, -, h⟩ := Prog.bind_eq_ret_iff.mp h
      cases h
    case isFalse hlong =>
      refine ⟨descType, descLength, u, Nat.lt_of_not_le hlong, ?_⟩
      rw [accepts_readU16 htype, accepts_readU16 hlength]
  · rintro ⟨descType, descLength, rest, hlong, rfl⟩
    refine ⟨rest, ?_⟩
    rw [parseDesc, Prog.bind_of_ret (consumes_readU16 _ _),
      Prog.bind_of_ret (consumes_readU16 _ _), dif_neg (Nat.not_le.mpr hlong), Prog.pure_apply]

/-- Behind the fields of a device record come its descriptors. -/
theorem parseRecord_append {record : FwDevRecord}
    (hverStr : record.compImageSetVerStr.length = record.compImageSetVerStrLen.toNat)
    (descCount : UInt8) (tail : Bytes) : parseRecord (record.head descCount ++ tail) =
      (parseArray pldmFwuMaxRecordDescriptors parseDesc 0 descCount.toNat >>= fun descs =>
        pure (descs.map fun recordDesc => { record with recordDesc := recordDesc.1 })) tail := by
  obtain ⟨recordLen, flags, verStrType, verStrLen, dataLen, applicable, verStr, descs⟩ := record
  have hhead : FwDevRecord.head ⟨recordLen, flags, verStrType, verStrLen, dataLen, applicable, verStr,
      descs⟩ descCount ++ tail = leBytes 2 recordLen.toNat ++ (leBytes 1 descCount.toNat ++
      (leBytes 4 flags.toNat ++ (leBytes 1 verStrType.toNat ++ (leBytes 1 verStrLen.toNat ++
      (leBytes 2 dataLen.toNat ++ (leBytes 1 applicable.toNat ++ (verStr ++ tail))))))) := by
    simp [FwDevRecord.head]
  rw [hhead, parseRecord, Prog.bind_of_ret (consumes_readU16 _ _),
    Prog.bind_of_ret (consumes_readU8 _ _), Prog.bind_of_ret (consumes_readU32 _ _),
    Prog.bind_of_ret (consumes_readU8 _ _), Prog.bind_of_ret (consumes_readU8 _ _),
    Prog.bind_of_ret (consumes_readU16 _ _), Prog.bind_of_ret (consumes_readU8 _ _),
    Prog.bind_of_ret (consumes_readBytes ⟨verStr, hverStr⟩ _)]
  refine congrArg (fun k => (parseArray pldmFwuMaxRecordDescriptors parseDesc 0 descCount.toNat >>= k)
    tail) (funext fun descs => ?_)
  cases descs with
  | none => rfl
  | some descs => rfl

/-- One of the descriptors for which a device record has room is too long. -/
def RecordRefused (bs : Bytes) : Prop :=
  ∃ (record : FwDevRecord) (descCount : UInt8) (tail : Bytes),
    record.compImageSetVerStr.length = record.compImageSetVerStrLen.toNat ∧
    bs = record.head descCount ++ tail ∧ ArrayRefused RecordDesc.encode (fun _ => True) DescTooLong
      pldmFwuMaxRecordDescriptors descCount.toNat tail

/-- A record is refused exactly where it or one of its descriptors is. -/
theorem parseRecord_refuses_iff {bs : Bytes} :
    (∃ rest, parseRecord bs = (.ret none, rest)) ↔ RecordRefused bs := by
  constructor
  · rintro ⟨rest, h⟩
    obtain ⟨record, descCount, tail, descs, hverStr, hbs, hdescs, hrecord⟩ := parseRecord_ret h
    cases descs with
    | some descs => cases hrecord
    | none =>
      refine ⟨record, descCount, tail, hverStr, hbs, ?_⟩
      exact refused_of_parseArray (fun h => ⟨accepts_parseDesc h, trivial⟩)
        (fun h => parseDesc_refuses_iff.mp ⟨_, h⟩) hdescs
  · rintro ⟨record, descCount, tail, hverStr, rfl, hdescs⟩
    obtain ⟨rest, hrest⟩ := (@parseArray_of_refused _ pldmFwuMaxRecordDescriptors parseDesc _ _ _ 0
      _ _ (fun desc _ => consumes_parseDesc desc) hdescs).1 fun bs h => parseDesc_refuses_iff.mpr h
    refine ⟨rest, ?_⟩
    rw [parseRecord_append hverStr]
    exact Prog.bind_of_ret hrest

theorem parseImage_ne_none {bs rest : Bytes} : parseImage bs ≠ (.ret none, rest) := by
  intro h
  repeat obtain ⟨_, _, -, h⟩ := Prog.bind_eq_ret_iff.mp h
  cases h

/-! ## Files -/

/-- A file whose walk ends at one of the parser's checks. -/
inductive Refused : Bytes → Prop where
  /-- There are too many device records. -/
  | recordCount {hdr : FwPkgHdr} {count : UInt8} (rest : Bytes) (hhdr : hdr.WellFormed)
      (hcount : pldmFwuMaxRecords < count.toNat) :
      Refused (hdr.encode ++ (leBytes 1 count.toNat ++ rest))
  /-- A descriptor is too long. -/
  | descriptor {hdr : FwPkgHdr} {count : UInt8} {rest : Bytes} (hhdr : hdr.WellFormed)
      (hcount : count.toNat ≤ pldmFwuMaxRecords)
      (hrest : ArrayRefused FwDevRecord.encode FwDevRecord.WellFormed RecordRefused
        pldmFwuMaxRecords count.toNat rest) :
      Refused (hdr.encode ++ (leBytes 1 count.toNat ++ rest))
  /-- The low byte of the number of component images is too large. -/
  | imageCount {hdr : FwPkgHdr} {records : List FwDevRecord} {low : UInt8} (rest : Bytes)
      (hhdr : hdr.WellFormed) (hrecords : ∀ record ∈ records, record.WellFormed)
      (hrecordCount : records.length ≤ pldmFwuMaxRecords)
      (hlow : pldmFwuMaxImages < low.toNat) :
      Refused (hdr.encode ++ (leBytes 1 records.length ++
        (records.flatMap FwDevRecord.encode ++ (leBytes 1 low.toNat ++ rest))))

/-- What a file holds. -/
structure FileLayout where
  hdr : FwPkgHdr
  records : List FwDevRecord
  /-- The number of component images, as it is stored. -/
  imageCount : UInt16
  compImages : List CompImageInfo
  checksum : UInt32
  rest : Bytes
  hdr_wellFormed : hdr.WellFormed
  records_wellFormed : ∀ record ∈ records, record.WellFormed
  recordCount_le : records.length ≤ pldmFwuMaxRecords
  compImageCount_le : compImages.length ≤ pldmFwuMaxImages

/-- The bytes of the file. -/
def FileLayout.bytes (layout : FileLayout) : Bytes :=
  layout.hdr.encode ++ (leBytes 1 layout.records.length ++
    (layout.records.flatMap FwDevRecord.encode ++ (leBytes 2 layout.imageCount.toNat ++
    (layout.compImages.flatMap CompImageInfo.encode ++
    (leBytes 4 layout.checksum.toNat ++ layout.rest)))))

/-- The package has the records and component images that the file says it has. -/
def CountsMatch (file : Bytes) (pkg : FwPkg) : Prop :=
  ∃ layout : FileLayout, file = layout.bytes ∧ layout.records = pkg.records ∧
    layout.compImages = pkg.compImages ∧ layout.imageCount.toNat = pkg.compImages.length

/-! ## The parser's results -/

theorem leBytes_two (v : UInt16) :
    leBytes 2 v.toNat = leBytes 1 v.toUInt8.toNat ++ [UInt8.ofNat (v.toNat / 256)] := by
  have hlow : UInt8.ofNat v.toUInt8.toNat = UInt8.ofNat v.toNat := by
    rw [UInt16.toNat_toUInt8]
    exact UInt8.toNat_inj.mp (by simp)
  simp only [leBytes, hlow, List.cons_append, List.nil_append]

theorem readImageCount_apply (v : UInt16) (rest : Bytes) :
    readImageCount (leBytes 2 v.toNat ++ rest) = (.ret v.toUInt8, rest) := by
  rw [leBytes_two, List.append_assoc, readImageCount, Prog.bind_of_ret (consumes_readU8 _ _)]
  rfl

theorem consumes_records {records : List FwDevRecord}
    (hwf : ∀ record ∈ records, record.WellFormed) (hfew : records.length ≤ pldmFwuMaxRecords) :
    ∃ hcount : records.length = (UInt8.ofNat records.length).toNat, Prog.Consumes
      (parseArray pldmFwuMaxRecords parseRecord 0 (UInt8.ofNat records.length).toNat)
      (records.flatMap FwDevRecord.encode) (some ⟨records, hcount⟩) := by
  have hcount : (UInt8.ofNat records.length).toNat = records.length :=
    UInt8.toNat_ofNat_of_lt' (Nat.lt_of_le_of_lt hfew (by decide))
  refine ⟨hcount.symm, consumes_parseArray _ (fun record hmem => ?_) ?_⟩
  · exact consumes_parseRecord (hwf record hmem)
  · rw [hcount, Nat.zero_add]
    exact hfew

/-- **What a file is accepted as.** The high byte of the number of component images does not count. -/
theorem parsePkg_layout {layout : FileLayout}
    (hcount : layout.imageCount.toUInt8.toNat = layout.compImages.length) (fileSize : Nat) :
    ∃ pkg, parsePkg fileSize layout.bytes = (.ret (some pkg), layout.rest) ∧
      pkg.hdr = layout.hdr ∧ pkg.records = layout.records ∧ pkg.compImages = layout.compImages := by
  obtain ⟨hrecordCount, hrecords⟩ :=
    consumes_records layout.records_wellFormed layout.recordCount_le
  have himages : Prog.Consumes
      (parseArray pldmFwuMaxImages parseImage 0 layout.imageCount.toUInt8.toNat)
      (layout.compImages.flatMap CompImageInfo.encode) (some ⟨layout.compImages, hcount.symm⟩) := by
    refine consumes_parseArray _ (fun image _ => consumes_parseImage image) ?_
    rw [hcount, Nat.zero_add]
    exact layout.compImageCount_le
  refine ⟨{
    hdr := layout.hdr
    records := layout.records
    compImages := layout.compImages
    checksum := layout.checksum
    pkgInfoSize := UInt32.ofNat (fileSize - layout.rest.length)
    recordCount_le := layout.recordCount_le
    compImageCount_le := layout.compImageCount_le }, ?_, rfl, rfl, rfl⟩
  rw [FileLayout.bytes, parsePkg, Prog.bind_of_ret (consumes_parseHdr layout.hdr_wellFormed _),
    Prog.bind_of_ret (consumes_count (Nat.lt_of_le_of_lt layout.recordCount_le (by decide)) _),
    dif_pos (by rw [← hrecordCount]; exact layout.recordCount_le), Prog.bind_of_ret (hrecords _)]
  dsimp only
  rw [Prog.bind_of_ret (readImageCount_apply _ _),
    dif_pos (by rw [hcount]; exact layout.compImageCount_le)]
  refine (Prog.bind_of_ret (himages _)).trans ?_
  dsimp only
  rw [Prog.bind_of_ret (consumes_readU32 _ _)]
  rfl

/-- What is accepted is laid out like a package. -/
theorem exists_layout_of_parsePkg {fileSize : Nat} {file left : Bytes} {pkg : FwPkg}
    (h : parsePkg fileSize file = (.ret (some pkg), left)) :
    ∃ layout : FileLayout, file = layout.bytes ∧
      layout.imageCount.toUInt8.toNat = layout.compImages.length := by
  obtain ⟨-, hhdr, hrecords, low, high, hlength, hfile⟩ := parsePkg_accepted h
  let imageCount : UInt16 := UInt16.ofNat (low.toNat + 256 * high.toNat)
  have hlt : low.toNat + 256 * high.toNat < 2 ^ 16 := by
    have := low.toNat_lt
    have := high.toNat_lt
    omega
  have hstored : imageCount.toNat = low.toNat + 256 * high.toNat := UInt16.toNat_ofNat_of_lt' hlt
  have hlowCount : imageCount.toUInt8 = low := by
    refine UInt8.toNat_inj.mp ?_
    rw [UInt16.toNat_toUInt8, hstored]
    have := low.toNat_lt
    omega
  have hhigh : UInt8.ofNat (imageCount.toNat / 256) = high := by
    have := low.toNat_lt
    rw [hstored, show (low.toNat + 256 * high.toNat) / 256 = high.toNat by omega,
      UInt8.ofNat_toNat]
  refine ⟨⟨pkg.hdr, pkg.records, imageCount, pkg.compImages, pkg.checksum, left, hhdr, hrecords,
    pkg.recordCount_le, pkg.compImageCount_le⟩, ?_, ?_⟩
  · rw [FileLayout.bytes, leBytes_two]
    dsimp only
    rw [hlowCount, hhigh, hfile]
    simp [leBytes]
  · change imageCount.toUInt8.toNat = pkg.compImages.length
    rw [hlowCount, hlength]

/-- **The parser's errors** are those at its checks. -/
theorem parsePkg_refuses_iff {fileSize : Nat} {file : Bytes} :
    (∃ left, parsePkg fileSize file = (.ret none, left)) ↔ Refused file := by
  constructor
  · rintro ⟨left, h⟩
    obtain ⟨hdr, t, hhdr, h⟩ := Prog.bind_eq_ret_iff.mp h
    obtain ⟨hfile, hwf⟩ := parseHdr_accepted hhdr
    obtain ⟨recordCount, u, hrecordCount, h⟩ := Prog.bind_eq_ret_iff.mp h
    rw [hfile, accepts_readU8 hrecordCount]
    split at h
    case isFalse hmany => exact .recordCount u hwf (Nat.lt_of_not_le hmany)
    case isTrue hfew =>
      obtain ⟨records, v, hrecords, h⟩ := Prog.bind_eq_ret_iff.mp h
      cases records with
      | none =>
        exact .descriptor hwf hfew (refused_of_parseArray parseRecord_accepted
          (fun h => parseRecord_refuses_iff.mp ⟨_, h⟩) hrecords)
      | some records =>
        obtain ⟨low, w, hlow, h⟩ := Prog.bind_eq_ret_iff.mp h
        split at h
        case isTrue =>
          obtain ⟨images, t₁, himages, h⟩ := Prog.bind_eq_ret_iff.mp h
          cases images with
          | none =>
            have hrefused : ArrayRefused CompImageInfo.encode (fun _ => True) (fun _ => False)
                _ _ _ := refused_of_parseArray (fun h => ⟨accepts_parseImage h, trivial⟩)
              (fun h => parseImage_ne_none h) himages
            obtain ⟨-, -, -, -, -, -, hnone⟩ := hrefused
            exact hnone.elim
          | some images =>
            obtain ⟨checksum, u₁, -, h⟩ := Prog.bind_eq_ret_iff.mp h
            cases h
        case isFalse hmany =>
          obtain ⟨low', w', hlow', hskip⟩ := Prog.bind_eq_ret_iff.mp hlow
          obtain rfl := Outcome.ret.inj (Prod.mk.inj hskip).1
          have hrefused := Refused.imageCount w' hwf
            (all_ok_of_parseArray parseRecord_accepted hrecords)
            (by rw [records.2]; exact hfew) (Nat.lt_of_not_le hmany)
          rw [records.2] at hrefused
          rw [accepts_parseArray accepts_parseRecord hrecords, accepts_readU8 hlow']
          exact hrefused
  · intro h
    cases h with
    | recordCount rest hwf hmany =>
      refine ⟨rest, ?_⟩
      rw [parsePkg, Prog.bind_of_ret (consumes_parseHdr hwf _),
        Prog.bind_of_ret (consumes_readU8 _ _), dif_neg (Nat.not_le.mpr hmany), Prog.pure_apply]
    | descriptor hwf hfew hrecords =>
      obtain ⟨left, hleft⟩ := (@parseArray_of_refused _ pldmFwuMaxRecords parseRecord _ _ _ 0 _ _
        (fun record => consumes_parseRecord) hrecords).1 fun bs h => parseRecord_refuses_iff.mpr h
      refine ⟨left, ?_⟩
      rw [parsePkg, Prog.bind_of_ret (consumes_parseHdr hwf _),
        Prog.bind_of_ret (consumes_readU8 _ _), dif_pos hfew]
      exact Prog.bind_of_ret hleft
    | @imageCount hdr records low rest hwf hrecords hfew hmany =>
      obtain ⟨hcount, harray⟩ := consumes_records hrecords hfew
      have hlow : readImageCount (leBytes 1 low.toNat ++ rest) = (.ret low, rest.drop 1) := by
        rw [readImageCount, Prog.bind_of_ret (consumes_readU8 _ _)]
        rfl
      refine ⟨rest.drop 1, ?_⟩
      rw [parsePkg, Prog.bind_of_ret (consumes_parseHdr hwf _),
        Prog.bind_of_ret (consumes_count (Nat.lt_of_le_of_lt hfew (by decide)) _),
        dif_pos (by rw [← hcount]; exact hfew), Prog.bind_of_ret (harray _)]
      dsimp only
      rw [Prog.bind_of_ret hlow, dif_neg (Nat.not_le.mpr hmany), Prog.pure_apply]

/-! ## Files that are long enough -/

theorem needs_readBytes (n : Nat) : Prog.Needs n (readBytes n) := by
  intro bs hbs
  refine ⟨⟨bs.take n, List.length_take_of_le hbs⟩, bs.drop n, ?_, ?_⟩
  · rw [readBytes, dif_pos hbs]
  · rw [List.length_drop]
    omega

theorem needs_readU8 : Prog.Needs 1 readU8 := (needs_readBytes 1).bind fun _ => Prog.Needs.pure _

theorem needs_readU16 : Prog.Needs 2 readU16 := (needs_readBytes 2).bind fun _ => Prog.Needs.pure _

theorem needs_readU32 : Prog.Needs 4 readU32 := (needs_readBytes 4).bind fun _ => Prog.Needs.pure _

/-- A string whose length is in a byte. -/
theorem needs_string (len : UInt8) : Prog.Needs 255 (readBytes len.toNat) :=
  (needs_readBytes len.toNat).mono (Nat.le_of_lt_succ len.toNat_lt)

theorem needs_parseHdr : Prog.Needs 291 parseHdr :=
  (needs_readBytes 16).bind fun _ => needs_readU8.bind fun _ => needs_readU16.bind fun _ =>
    (needs_readBytes 13).bind fun _ => needs_readU16.bind fun _ => needs_readU8.bind fun _ =>
    needs_readU8.bind fun len => (needs_string len).bind fun _ => Prog.Needs.pure _

theorem needs_parseDesc : Prog.Needs 10 parseDesc := by
  refine needs_readU16.bind fun _ => @Prog.Needs.bind _ _ _ _ _ 2 6 needs_readU16 fun descLength => ?_
  split
  case isTrue hle =>
    exact ((needs_readBytes descLength.toNat).mono hle).bind fun _ => Prog.Needs.pure _
  case isFalse => exact (Prog.Needs.pure _).mono (Nat.zero_le 6)

theorem needs_parseImage : Prog.Needs 277 parseImage :=
  needs_readU16.bind fun _ => needs_readU16.bind fun _ => needs_readU32.bind fun _ =>
    needs_readU16.bind fun _ => needs_readU16.bind fun _ => needs_readU32.bind fun _ =>
    needs_readU32.bind fun _ => needs_readU8.bind fun _ => needs_readU8.bind fun len =>
    (needs_string len).bind fun _ => Prog.Needs.pure _

/-- An array that has room for its items needs what they need. -/
theorem needs_parseArray {α : Type} {limit k : Nat} {item : Prog Bytes (Option α)}
    (h : Prog.Needs k item) {i n : Nat} (hroom : i + n ≤ limit) :
    Prog.Needs (n * k) (parseArray limit item i n) := by
  induction n generalizing i with
  | zero => exact (Prog.Needs.pure _).mono (Nat.zero_le _)
  | succ n ih =>
    have hcount : (n + 1) * k = k + n * k := by rw [Nat.succ_mul, Nat.add_comm]
    rw [hcount, parseArray, if_neg (by omega)]
    refine h.bind fun first => ?_
    cases first with
    | none => exact (Prog.Needs.pure _).mono (Nat.zero_le _)
    | some a => exact (ih (by omega)).bind fun _ => Prog.Needs.pure _

/-- The parser reports an error, or reads an item from `k` bytes at most. -/
def Passes {α : Type} (k : Nat) (item : Prog Bytes (Option α)) (bs : Bytes) : Prop :=
  (∃ rest, item bs = (.ret none, rest)) ∨
    ∃ a rest, item bs = (.ret (some a), rest) ∧ bs.length ≤ rest.length + k

theorem passes_of_needs {α : Type} {k : Nat} {item : Prog Bytes (Option α)} {bs : Bytes}
    (h : Prog.Needs k item) (hbs : k ≤ bs.length) : Passes k item bs := by
  obtain ⟨first, rest, hrest, hlen⟩ := h bs hbs
  cases first with
  | none => exact .inl ⟨rest, hrest⟩
  | some a => exact .inr ⟨a, rest, hrest, hlen⟩

section Lengths

variable {α : Type} {limit k : Nat} {item : Prog Bytes (Option α)} {encode : α → Bytes}
  {ok : α → Prop} {bad : Bytes → Prop} {i n : Nat} {bs : Bytes}

/-- An array that has room for its items passes on enough bytes, unless it comes to an item that does
not. -/
theorem passes_parseArray
    (haccepts : ∀ {bs a rest}, item bs = (.ret (some a), rest) → bs = encode a ++ rest ∧ ok a)
    (hitem : ∀ bs, k ≤ bs.length → Passes k item bs ∨ bad bs)
    (hroom : i + n ≤ limit) (hbs : n * k ≤ bs.length) :
    Passes (n * k) (parseArray limit item i n) bs ∨
      ArrayRefused encode ok bad (limit - i) n bs := by
  induction n generalizing i bs with
  | zero => exact .inl (.inr ⟨_, bs, rfl, Nat.le_add_right _ _⟩)
  | succ n ih =>
    have hcount : (n + 1) * k = n * k + k := Nat.succ_mul n k
    rw [hcount] at hbs ⊢
    rw [Passes, parseArray, if_neg (by omega)]
    rcases hitem bs (by omega) with (⟨t, hfirst⟩ | ⟨a, t, hfirst, hlen⟩) | hbad
    · exact .inl (.inl ⟨t, Prog.bind_of_ret hfirst⟩)
    · obtain ⟨hsplit, hok⟩ := haccepts hfirst
      rw [Prog.bind_of_ret hfirst]
      rcases @ih (i + 1) t (by omega) (by omega) with (⟨rest, hrest⟩ | ⟨as, rest, hrest, hleft⟩) | h
      · exact .inl (.inl ⟨rest, Prog.bind_of_ret hrest⟩)
      · exact .inl (.inr ⟨_, rest, Prog.bind_of_ret hrest, by omega⟩)
      · obtain ⟨as, tail, hn, hfew, hall, htail, hlast⟩ := h
        refine .inr ⟨a :: as, tail, ?_, ?_, ?_, ?_, hlast⟩
        · rw [List.length_cons]
          omega
        · rw [List.length_cons]
          omega
        · exact List.forall_mem_cons.mpr ⟨hok, hall⟩
        · rw [hsplit, htail, List.flatMap_cons, List.append_assoc]
    · exact .inr ⟨[], bs, Nat.succ_pos n, by simp; omega,
        fun _ hmem => absurd hmem List.not_mem_nil, rfl, hbad⟩

/-- An array without enough room stops at one of its items, or behind the last for which there is
room. -/
theorem parseArray_of_many (hneeds : Prog.Needs k item)
    (hitem : ∀ {bs a rest}, item bs = (.ret (some a), rest) → bs = encode a ++ rest)
    (hi : i ≤ limit) (hbs : (limit - i) * k ≤ bs.length) (hmany : limit < i + n) :
    (∃ rest, parseArray limit item i n bs = (.ret none, rest)) ∨
      ∃ (as : List α) (tail : Bytes), as.length = limit - i ∧ bs = as.flatMap encode ++ tail := by
  induction n generalizing i bs with
  | zero => omega
  | succ n ih =>
    rcases Nat.lt_or_eq_of_le hi with hlt | rfl
    · have hcount : (limit - i) * k = (limit - (i + 1)) * k + k := by
        rw [← Nat.succ_mul]
        congr 1
        omega
      obtain ⟨first, t, hfirst, hlen⟩ := hneeds bs (by omega)
      rw [parseArray, if_neg (by omega)]
      cases first with
      | none => exact .inl ⟨t, Prog.bind_of_ret hfirst⟩
      | some a =>
        rw [Prog.bind_of_ret hfirst]
        rcases @ih (i + 1) t hlt (by omega) (by omega) with ⟨rest, hrest⟩ | ⟨as, tail, has, htail⟩
        · exact .inl ⟨rest, Prog.bind_of_ret hrest⟩
        · refine .inr ⟨a :: as, tail, ?_, ?_⟩
          · rw [List.length_cons]
            omega
          · rw [hitem hfirst, htail, List.flatMap_cons, List.append_assoc]
    · exact .inr ⟨[], bs, by simp, rfl⟩

/-- Behind the last item for which there is room the parser leaves the array. -/
theorem parseArray_overrun (hitem : ∀ a, Prog.Consumes item (encode a) (some a)) {as : List α}
    (has : as.length = limit - i) (hi : i ≤ limit) (hmany : limit < i + n) (tail : Bytes) :
    ∃ rest, parseArray limit item i n (as.flatMap encode ++ tail) = (.fault, rest) := by
  induction as generalizing i n with
  | nil =>
    obtain ⟨n, rfl⟩ := Nat.exists_eq_succ_of_ne_zero (show n ≠ 0 by omega)
    rw [List.length_nil] at has
    refine ⟨tail, ?_⟩
    rw [Nat.succ_eq_add_one, parseArray, if_pos (by omega)]
    rfl
  | cons a as ih =>
    obtain ⟨n, rfl⟩ := Nat.exists_eq_succ_of_ne_zero (show n ≠ 0 by omega)
    rw [List.length_cons] at has
    obtain ⟨rest, hrest⟩ := @ih (i + 1) n (by omega) (by omega) (by omega)
    refine ⟨rest, ?_⟩
    rw [Nat.succ_eq_add_one, parseArray, if_neg (by omega), List.flatMap_cons, List.append_assoc,
      Prog.bind_of_ret (hitem a _)]
    exact Prog.bind_of_fault hrest

end Lengths

/-- A device record begins with its fields. -/
theorem exists_head {bs : Bytes} (hbs : 267 ≤ bs.length) :
    ∃ (record : FwDevRecord) (descCount : UInt8) (tail : Bytes),
      record.compImageSetVerStr.length = record.compImageSetVerStrLen.toNat ∧
      bs = record.head descCount ++ tail ∧ bs.length ≤ tail.length + 267 := by
  obtain ⟨recordLen, t, hrecordLen, h₁⟩ := needs_readU16 bs (by omega)
  obtain ⟨descCount, u, hdescCount, h₂⟩ := needs_readU8 t (by omega)
  obtain ⟨flags, v, hflags, h₃⟩ := needs_readU32 u (by omega)
  obtain ⟨verStrType, w, hverStrType, h₄⟩ := needs_readU8 v (by omega)
  obtain ⟨verStrLen, t₁, hverStrLen, h₅⟩ := needs_readU8 w (by omega)
  obtain ⟨dataLen, u₁, hdataLen, h₆⟩ := needs_readU16 t₁ (by omega)
  obtain ⟨applicable, v₁, happlicable, h₇⟩ := needs_readU8 u₁ (by omega)
  obtain ⟨⟨verStr, hverStr⟩, w₁, hstr, h₈⟩ := needs_string verStrLen v₁ (by omega)
  refine ⟨⟨recordLen, flags, verStrType, verStrLen, dataLen, applicable, verStr, []⟩, descCount, w₁,
    hverStr, ?_, by omega⟩
  rw [accepts_readU16 hrecordLen, accepts_readU8 hdescCount, accepts_readU32 hflags,
    accepts_readU8 hverStrType, accepts_readU8 hverStrLen, accepts_readU16 hdataLen,
    accepts_readU8 happlicable, accepts_readBytes _ hstr]
  simp [FwDevRecord.head]

/-- A device record with more descriptors than there is room for; those that there is room for are
read. -/
def TooManyDescs (bs : Bytes) : Prop :=
  ∃ (record : FwDevRecord) (descCount : UInt8) (descs : List RecordDesc) (tail : Bytes),
    record.compImageSetVerStr.length = record.compImageSetVerStrLen.toNat ∧
    pldmFwuMaxRecordDescriptors < descCount.toNat ∧
    descs.length = pldmFwuMaxRecordDescriptors ∧
    bs = record.head descCount ++ (descs.flatMap RecordDesc.encode ++ tail)

/-- A device record that is long enough passes, unless it has too many descriptors. -/
theorem passes_parseRecord {bs : Bytes} (hbs : 307 ≤ bs.length) :
    Passes 307 parseRecord bs ∨ TooManyDescs bs := by
  obtain ⟨record, descCount, tail, hverStr, rfl, hlen⟩ :=
    exists_head (Nat.le_trans (by decide) hbs)
  rw [Passes, parseRecord_append hverStr]
  by_cases hcount : descCount.toNat ≤ pldmFwuMaxRecordDescriptors
  · have hneeds : Prog.Needs 40 (parseArray pldmFwuMaxRecordDescriptors parseDesc 0 descCount.toNat) :=
      (needs_parseArray needs_parseDesc (by rw [Nat.zero_add]; exact hcount)).mono
        (Nat.mul_le_mul_right 10 hcount)
    rcases passes_of_needs hneeds (show 40 ≤ tail.length by omega) with ⟨rest, h⟩ | ⟨descs, rest, h, hleft⟩
    · exact .inl (.inl ⟨rest, Prog.bind_of_ret h⟩)
    · exact .inl (.inr ⟨_, rest, Prog.bind_of_ret h, by omega⟩)
  · rcases @parseArray_of_many _ pldmFwuMaxRecordDescriptors 10 parseDesc _ 0 descCount.toNat tail
      needs_parseDesc accepts_parseDesc (Nat.zero_le _) (show 40 ≤ tail.length by omega) (by omega)
      with ⟨rest, h⟩ | ⟨descs, rest, hdescs, rfl⟩
    · exact .inl (.inl ⟨rest, Prog.bind_of_ret h⟩)
    · exact .inr ⟨record, descCount, descs, rest, hverStr, Nat.lt_of_not_le hcount, hdescs, rfl⟩

theorem parseRecord_of_tooManyDescs {bs : Bytes} (h : TooManyDescs bs) :
    ∃ rest, parseRecord bs = (.fault, rest) := by
  obtain ⟨record, descCount, descs, tail, hverStr, hcount, hdescs, rfl⟩ := h
  obtain ⟨rest, hrest⟩ := @parseArray_overrun _ pldmFwuMaxRecordDescriptors parseDesc _ 0
    descCount.toNat consumes_parseDesc descs hdescs (Nat.zero_le _) (by omega) tail
  rw [parseRecord_append hverStr]
  exact ⟨rest, Prog.bind_of_fault hrest⟩

/-! ## Files of any content -/

/-- One of the device records has too many descriptors. -/
def RecordOverrun (file : Bytes) : Prop :=
  ∃ (hdr : FwPkgHdr) (count : UInt8) (rest : Bytes), hdr.WellFormed ∧
    count.toNat ≤ pldmFwuMaxRecords ∧ file = hdr.encode ++ (leBytes 1 count.toNat ++ rest) ∧
    ArrayRefused FwDevRecord.encode FwDevRecord.WellFormed TooManyDescs pldmFwuMaxRecords
      count.toNat rest

/-- The number of component images does not fit a byte, and its low byte is that of those behind
it. -/
def ImageCountCut (file : Bytes) : Prop :=
  ∃ layout : FileLayout, file = layout.bytes ∧ 256 ≤ layout.imageCount.toNat ∧
    layout.imageCount.toUInt8.toNat = layout.compImages.length

theorem parsePkg_of_recordOverrun {fileSize : Nat} {file : Bytes} (h : RecordOverrun file) :
    ∃ left, parsePkg fileSize file = (.fault, left) := by
  obtain ⟨hdr, count, rest, hwf, hcount, rfl, hrecords⟩ := h
  obtain ⟨left, hleft⟩ := (@parseArray_of_refused _ pldmFwuMaxRecords parseRecord _ _ _ 0 _ _
    (fun record => consumes_parseRecord) hrecords).2 fun bs h => parseRecord_of_tooManyDescs h
  refine ⟨left, ?_⟩
  rw [parsePkg, Prog.bind_of_ret (consumes_parseHdr hwf _), Prog.bind_of_ret (consumes_readU8 _ _),
    dif_pos hcount]
  exact Prog.bind_of_fault hleft

/-- **A file of the least size** is walked to an end, unless a record has too many descriptors. -/
theorem parsePkg_ends {file : Bytes} (hfile : fwPkgSize ≤ file.length)
    (h : ¬RecordOverrun file) (fileSize : Nat) :
    ∃ o left, parsePkg fileSize file = (.ret o, left) := by
  have hlong : 6751 ≤ file.length := hfile
  obtain ⟨hdr, t, hhdr, h₁⟩ := needs_parseHdr file (by omega)
  obtain ⟨count, u, hcount, h₂⟩ := needs_readU8 t (by omega)
  rw [parsePkg, Prog.bind_of_ret hhdr, Prog.bind_of_ret hcount]
  split
  case isFalse => exact ⟨none, u, rfl⟩
  case isTrue hfew =>
    have hfew' : count.toNat ≤ 4 := hfew
    rcases @passes_parseArray _ pldmFwuMaxRecords 307 parseRecord _ _ TooManyDescs 0 count.toNat u
      parseRecord_accepted (fun bs => passes_parseRecord) (by omega) (by omega) with
      (⟨left, hnone⟩ | ⟨records, v, hrecords, h₃⟩) | hrefused
    · exact ⟨none, left, Prog.bind_of_ret hnone⟩
    · rw [Prog.bind_of_ret hrecords]
      dsimp only
      obtain ⟨low, w, hlow, h₄⟩ := needs_readU8 v (by omega)
      have hskip : readImageCount v = (.ret low, w.drop 1) := by
        rw [readImageCount, Prog.bind_of_ret hlow]
        rfl
      have h₅ : w.length ≤ (w.drop 1).length + 1 := by
        rw [List.length_drop]
        omega
      rw [Prog.bind_of_ret hskip]
      split
      case isFalse => exact ⟨none, _, rfl⟩
      case isTrue hfewImages =>
        have hfewImages' : low.toNat ≤ 4 := hfewImages
        obtain ⟨images, x, himages, h₆⟩ := @needs_parseArray _ pldmFwuMaxImages 277 _
          needs_parseImage 0 low.toNat (by omega) (w.drop 1) (by omega)
        rw [Prog.bind_of_ret himages]
        cases images with
        | none => exact ⟨none, x, rfl⟩
        | some images =>
          obtain ⟨checksum, y, hchecksum, -⟩ := needs_readU32 x (by omega)
          exact ⟨_, y, Prog.bind_of_ret hchecksum⟩
    · refine absurd ⟨hdr, count, u, (parseHdr_accepted hhdr).2, hfew, ?_, hrefused⟩ h
      rw [accepts_parseHdr hhdr, accepts_readU8 hcount]

/-- A count that does not fit a byte is not that of the package. -/
theorem not_countsMatch_of_cut {layout : FileLayout} (hlarge : 256 ≤ layout.imageCount.toNat)
    (hlow : layout.imageCount.toUInt8.toNat = layout.compImages.length) {fileSize : Nat}
    {left : Bytes} {pkg : FwPkg} (hrun : parsePkg fileSize layout.bytes = (.ret (some pkg), left)) :
    ¬CountsMatch layout.bytes pkg := by
  rintro ⟨stored, hstored, hsrecords, hsimages, hscount⟩
  obtain ⟨pkg₁, hpkg₁, hhdr₁, hrecords₁, -⟩ := parsePkg_layout hlow fileSize
  rw [hrun] at hpkg₁
  obtain rfl := Option.some.inj (Outcome.ret.inj (Prod.mk.inj hpkg₁).1)
  have hle : stored.compImages.length ≤ 4 := stored.compImageCount_le
  have hslow : stored.imageCount.toUInt8.toNat = stored.compImages.length := by
    rw [UInt16.toNat_toUInt8, hscount, ← hsimages]
    omega
  obtain ⟨pkg₂, hpkg₂, hhdr₂, -⟩ := parsePkg_layout hslow fileSize
  rw [← hstored, hrun] at hpkg₂
  obtain rfl := Option.some.inj (Outcome.ret.inj (Prod.mk.inj hpkg₂).1)
  -- both layouts begin alike, so their counts stand in one place
  rw [FileLayout.bytes, FileLayout.bytes, hsrecords, ← hrecords₁, ← hhdr₂, ← hhdr₁] at hstored
  have hcounts := List.append_cancel_left (List.append_cancel_left
    (List.append_cancel_left hstored))
  have htwo := congrArg (List.take 2) hcounts
  rw [List.take_left' (length_leBytes _ _), List.take_left' (length_leBytes _ _)] at htwo
  have hsame := congrArg ofLeBytes htwo
  rw [ofLeBytes_leBytes, ofLeBytes_leBytes] at hsame
  have := layout.imageCount.toNat_lt
  rw [hsimages] at hle
  omega

theorem countsMatch_of_layout {layout : FileLayout} {fileSize : Nat} {left : Bytes} {pkg : FwPkg}
    (hcount : layout.imageCount.toNat = layout.compImages.length)
    (hrun : parsePkg fileSize layout.bytes = (.ret (some pkg), left)) :
    CountsMatch layout.bytes pkg := by
  have hlow : layout.imageCount.toUInt8.toNat = layout.compImages.length := by
    have hle : layout.compImages.length ≤ 4 := layout.compImageCount_le
    rw [UInt16.toNat_toUInt8, hcount]
    omega
  obtain ⟨pkg', hpkg, -, hrecords, himages⟩ := parsePkg_layout hlow fileSize
  rw [hrun] at hpkg
  obtain rfl := Option.some.inj (Outcome.ret.inj (Prod.mk.inj hpkg).1)
  exact ⟨layout, rfl, hrecords.symm, himages.symm, by rw [himages, hcount]⟩

/-- **When the walk stays inside.** For every file of the least size: the parser comes to an end
without having left the file or the arrays of `fwPkg`, and accepts only what is stored, exactly if no
device record has too many descriptors and the number of component images is not cut. -/
theorem parsePkg_stays_iff {file : Bytes} (hfile : fwPkgSize ≤ file.length) :
    ((∃ o left, parsePkg file.length file = (.ret o, left)) ∧
      ∀ pkg left, parsePkg file.length file = (.ret (some pkg), left) → CountsMatch file pkg) ↔
    ¬RecordOverrun file ∧ ¬ImageCountCut file := by
  constructor
  · rintro ⟨⟨o, left, hrun⟩, hcounts⟩
    refine ⟨fun hover => ?_, fun hcut => ?_⟩
    · obtain ⟨left', hfault⟩ := @parsePkg_of_recordOverrun file.length file hover
      rw [hrun] at hfault
      cases hfault
    · obtain ⟨layout, rfl, hlarge, hlow⟩ := hcut
      obtain ⟨pkg, hpkg, -⟩ := parsePkg_layout hlow layout.bytes.length
      exact not_countsMatch_of_cut hlarge hlow hpkg (hcounts pkg _ hpkg)
  · rintro ⟨hover, hcut⟩
    refine ⟨parsePkg_ends hfile hover _, fun pkg left hrun => ?_⟩
    obtain ⟨layout, rfl, hlow⟩ := exists_layout_of_parsePkg hrun
    have hsmall : layout.imageCount.toNat < 256 := by
      by_contra hlarge
      exact hcut ⟨layout, rfl, Nat.not_lt.mp hlarge, hlow⟩
    refine countsMatch_of_layout ?_ hrun
    rw [← hlow, UInt16.toNat_toUInt8]
    omega

/-! ## Sample files -/

/-- A header of zeros, in front of nothing but zeros. -/
def emptyLayout (imageCount : UInt16) : FileLayout where
  hdr := ⟨List.replicate 16 0, 0, 0, List.replicate 13 0, 0, 0, 0, []⟩
  records := []
  imageCount := imageCount
  compImages := []
  checksum := 0
  rest := List.replicate fwPkgSize 0
  hdr_wellFormed := ⟨rfl, rfl, rfl⟩
  records_wellFormed := fun _ hmem => absurd hmem List.not_mem_nil
  recordCount_le := Nat.zero_le _
  compImageCount_le := Nat.zero_le _

theorem emptyLayout_long (imageCount : UInt16) :
    fwPkgSize ≤ (emptyLayout imageCount).bytes.length := by
  simp only [emptyLayout, FileLayout.bytes, List.length_append, List.length_replicate]
  omega

/-- A device record with two descriptors, and a component image. -/
def cardLayout : FileLayout where
  hdr := (emptyLayout 0).hdr
  records := [⟨29, 0, 1, 2, 0, 1, [49, 48], [⟨0, [0x86, 0x80], by decide⟩, ⟨256, [7], by decide⟩]⟩]
  imageCount := 1
  compImages := [⟨10, 1, 0, 0, 0, 256, 64, 1, 2, [49, 48], rfl⟩]
  checksum := 0
  rest := List.replicate fwPkgSize 0
  hdr_wellFormed := ⟨rfl, rfl, rfl⟩
  records_wellFormed := List.forall_mem_singleton.mpr ⟨rfl, by decide⟩
  recordCount_le := by decide
  compImageCount_le := by decide

theorem parsePkg_stays_iff_sample :
    ¬RecordOverrun cardLayout.bytes ∧ ¬ImageCountCut cardLayout.bytes := by
  have hlong : fwPkgSize ≤ cardLayout.bytes.length := by
    simp only [cardLayout, FileLayout.bytes, List.length_append, List.length_replicate]
    omega
  obtain ⟨pkg, hpkg, -⟩ := @parsePkg_layout cardLayout rfl cardLayout.bytes.length
  exact (parsePkg_stays_iff hlong).mp
    ⟨⟨_, _, hpkg⟩, fun _ _ hrun => @countsMatch_of_layout cardLayout _ _ _ rfl hrun⟩

/-- A device record with five descriptors in front of nothing but zeros. -/
def fiveDescriptors : Bytes :=
  (emptyLayout 0).hdr.encode ++ (leBytes 1 1 ++
    (FwDevRecord.head ⟨0, 0, 0, 0, 0, 0, [], []⟩ 5 ++
      ((List.replicate 4 (⟨0, [], by decide⟩ : RecordDesc)).flatMap RecordDesc.encode ++
        List.replicate fwPkgSize 0)))

theorem fiveDescriptors_overrun : RecordOverrun fiveDescriptors :=
  ⟨(emptyLayout 0).hdr, 1, _, (emptyLayout 0).hdr_wellFormed, by decide, rfl, [], _, by decide,
    by decide, nofun, rfl, ⟨0, 0, 0, 0, 0, 0, [], []⟩, 5, List.replicate 4 ⟨0, [], by decide⟩, _, rfl,
    by decide, by decide, rfl⟩

/-- A record with five descriptors is written past the four of `fwPkg`, and a file that counts 256
component images is accepted with none. -/
theorem parsePkg_leaves :
    (fwPkgSize ≤ fiveDescriptors.length ∧
      ∃ left, parsePkg fiveDescriptors.length fiveDescriptors = (.fault, left)) ∧
    ∃ file pkg, fwPkgSize ≤ file.length ∧ fwpkgParse file = .ret (some pkg) ∧
      ¬CountsMatch file pkg := by
  refine ⟨⟨?_, parsePkg_of_recordOverrun fiveDescriptors_overrun⟩, ?_⟩
  · simp only [fiveDescriptors, List.length_append, List.length_replicate]
    omega
  · obtain ⟨pkg, hpkg, -, hrecords, -⟩ :=
      @parsePkg_layout (emptyLayout 256) rfl (emptyLayout 256).bytes.length
    refine ⟨_, pkg, emptyLayout_long 256, ?_, @not_countsMatch_of_cut (emptyLayout 256)
      (by decide) rfl _ _ _ hpkg⟩
    rw [fwpkgParse, if_neg (Nat.not_lt.mpr (emptyLayout_long 256)), hpkg]
    refine if_pos ?_
    rw [hrecords]
    rfl

end XpuManager
