import Mathlib.Data.List.TakeWhile
import Mathlib.Data.List.TakeDrop
import XpuManager.Xpumd.Translator

/-! # The firmware versions of a device

The receiver (`receiver/intelxpu/sysman/device.go`, `firmware.go`) puts the firmwares of a device
into one attribute: entries separated by commas, their fields by colons, the version URL-encoded.
The exporter takes the attribute apart again with `parseFirmwares`, which does not undo the encoding.
-/

namespace XpuManager

/-! ## URL encoding -/

/-- The characters that `url.QueryEscape` leaves alone. -/
def isUnreserved (c : Char) : Bool :=
  c.isAlphanum || c = '-' || c = '_' || c = '.' || c = '~'

def upperHexDigit (n : UInt8) : Char := "0123456789ABCDEF".toList.getD n.toNat '0'

/-- A byte as a percent sign and two digits. -/
def percentEncode (b : UInt8) : List Char := ['%', upperHexDigit (b / 16), upperHexDigit (b % 16)]

/-- What `url.QueryEscape` makes of one character, which is encoded byte by byte. -/
def escapeChar (c : Char) : List Char :=
  if isUnreserved c then [c]
  else if c = ' ' then ['+']
  else (String.utf8EncodeChar c).flatMap percentEncode

/-- `url.QueryEscape`. -/
def queryEscape (s : String) : String := String.ofList (s.toList.flatMap escapeChar)

/-! ## The receiver -/

/-- The properties of a firmware as the driver reports them. -/
structure FirmwareProperties where
  name : String
  version : String
  onSubdevice : UInt8
  subdeviceId : UInt32

/-- `firmwareAttributes`. -/
structure FirmwareAttributes where
  firmwareName : String
  firmwareVersion : String
  subdeviceId : String
  deriving DecidableEq

/-- The subdevice as an attribute, empty for the device itself. -/
def subDeviceIdString (onSubdevice : UInt8) (subdeviceId : UInt32) : String :=
  if onSubdevice ≠ 0 then toString subdeviceId.toNat else ""

/-- The attributes of a firmware. -/
def newFirmware (props : FirmwareProperties) : FirmwareAttributes where
  firmwareName := props.name.toLower
  firmwareVersion := props.version
  subdeviceId := subDeviceIdString props.onSubdevice props.subdeviceId

/-- The entry of the firmware with index `i`. -/
def firmwareEntry (i : Nat) (fw : FirmwareAttributes) : String :=
  toString i ++ ":" ++ fw.firmwareName ++ ":" ++ fw.subdeviceId ++ ":" ++
    queryEscape fw.firmwareVersion

/-- `hwFirmwareVersion` of a device with these firmwares. -/
def hwFirmwareVersion (fws : List FirmwareAttributes) : String :=
  ",".intercalate (fws.mapIdx firmwareEntry)

/-- What there is to know about a firmware. -/
def FirmwareAttributes.info (fw : FirmwareAttributes) : FirmwareInfo :=
  ⟨fw.firmwareName, fw.subdeviceId, fw.firmwareVersion⟩

/-- An ID that is empty or decimal. -/
def IsSubdeviceId (s : String) : Prop := ∀ c ∈ s.toList, c.isDigit = true

theorem isDigit_of_mem_toString (n : Nat) : IsSubdeviceId (toString n) := by
  intro c hc
  rw [Nat.toString_eq_repr, Nat.repr, String.toList_ofList] at hc
  exact Nat.isDigit_of_mem_toDigits (by decide) (by decide) hc

/-! ## Splitting -/

section Splitting

variable {α : Type} [DecidableEq α] {sep : α}

/-- No piece contains the separator. -/
theorem notMem_of_mem_splitOn {xs part : List α} (h : part ∈ xs.splitOn sep) : sep ∉ part := by
  induction xs generalizing part with
  | nil =>
    rw [List.splitOn_nil, List.mem_singleton] at h
    rw [h]
    exact List.not_mem_nil
  | cons x xs ih =>
    rw [List.splitOn_cons_eq_if_modifyHead] at h
    split at h
    case isTrue =>
      rcases List.mem_cons.mp h with rfl | h
      · exact List.not_mem_nil
      · exact ih h
    case isFalse hx =>
      have hx' : sep ≠ x := fun heq => hx (by simp [heq])
      rcases hxs : xs.splitOn sep with _ | ⟨head, rest⟩
      · exact absurd hxs (List.splitOn_ne_nil sep xs)
      · rw [hxs, List.modifyHead_cons] at h
        rcases List.mem_cons.mp h with rfl | h
        · exact List.not_mem_cons_of_ne_of_not_mem hx' (ih (by rw [hxs]; exact List.mem_cons_self))
        · exact ih (by rw [hxs]; exact List.mem_cons_of_mem _ h)

end Splitting

/-- A first part without separators is cut off. -/
theorem splitN_append {sep : Char} {part : List Char} (h : sep ∉ part) (n : Nat)
    (rest : List Char) :
    splitN sep (n + 2) (part ++ sep :: rest) = part :: splitN sep (n + 1) rest := by
  have hspan : (part ++ sep :: rest).span (· ≠ sep) = (part, sep :: rest) := by
    rw [List.span_eq_takeWhile_dropWhile, List.takeWhile_append_of_pos, List.dropWhile_append_of_pos]
    · simp
    · exact fun c hc => decide_eq_true (ne_of_mem_of_not_mem hc h)
    · exact fun c hc => decide_eq_true (ne_of_mem_of_not_mem hc h)
  rw [splitN, hspan]

/-- The part in front of the first separator, and what is left. -/
theorem span_ne_eq {sep : Char} {s part rest : List Char}
    (h : s.span (· ≠ sep) = (part, rest)) : s = part ++ rest ∧ sep ∉ part := by
  rw [List.span_eq_takeWhile_dropWhile] at h
  obtain ⟨rfl, rfl⟩ := Prod.mk.inj h
  refine ⟨List.takeWhile_append_dropWhile.symm, fun hmem => ?_⟩
  have hne := List.mem_takeWhile_imp hmem
  exact of_decide_eq_true hne rfl

/-- The parts are made of what is split, and all but the last have no separator. -/
theorem of_mem_splitN (sep : Char) (n : Nat) (s : List Char) :
    (∀ part ∈ splitN sep n s, part ⊆ s) ∧ ∀ part ∈ (splitN sep n s).dropLast, sep ∉ part := by
  fun_induction splitN sep n s with
  | case1 s => simp
  | case2 s => simp
  | case3 n s part hspan =>
    obtain ⟨hs, -⟩ := span_ne_eq hspan
    rw [List.append_nil] at hs
    simp [hs]
  | case4 n s part head rest hspan ih =>
    obtain ⟨hs, hpart⟩ := span_ne_eq hspan
    subst hs
    constructor
    · intro p hp
      rcases List.mem_cons.mp hp with rfl | hp
      · exact List.subset_append_left _ _
      · exact fun c hc => List.mem_append_right _ (List.mem_cons_of_mem _ (ih.1 p hp hc))
    · intro p hp
      rcases hparts : splitN sep (n + 1) rest with _ | ⟨q, qs⟩
      · simp [hparts] at hp
      · rw [hparts, List.dropLast_cons_cons] at hp
        rcases List.mem_cons.mp hp with rfl | hp
        · exact hpart
        · exact ih.2 p (by rw [hparts]; exact hp)

/-! ## What the exporter reads -/

/-- A name the exporter reads has no separator. -/
theorem name_of_mem_parseFirmwares {s : String} {info : FirmwareInfo}
    (h : info ∈ parseFirmwares s) : ',' ∉ info.name.toList ∧ ':' ∉ info.name.toList := by
  rw [parseFirmwares] at h
  obtain ⟨entry, hentry, heq⟩ := List.mem_filterMap.mp h
  split at heq
  case isTrue => simp at heq
  case isFalse =>
    split at heq
    case h_1 first name subdeviceId version hparts =>
      obtain rfl := Option.some.inj heq
      obtain ⟨hsubset, hlast⟩ := of_mem_splitN ':' 4 entry
      rw [hparts] at hsubset hlast
      rw [String.toList_ofList]
      exact ⟨fun hmem => notMem_of_mem_splitOn hentry (hsubset name (by simp) hmem),
        hlast name (by simp)⟩
    case h_2 => simp at heq

/-- A name without separators. -/
def PlainName (s : String) : Prop := ',' ∉ s.toList ∧ ':' ∉ s.toList

instance (s : String) : Decidable (PlainName s) := inferInstanceAs (Decidable (_ ∧ _))

/-- Neither separator is a digit. -/
theorem IsSubdeviceId.plain {s : String} (h : IsSubdeviceId s) : PlainName s :=
  ⟨fun hmem => absurd (h _ hmem) (by decide), fun hmem => absurd (h _ hmem) (by decide)⟩

/-- The encoding leaves no comma. -/
theorem comma_notMem_escapeChar (c : Char) : ',' ∉ escapeChar c := by
  rw [escapeChar]
  split
  case isTrue hc =>
    rw [List.mem_singleton]
    rintro rfl
    exact absurd hc (by decide)
  case isFalse =>
  split
  case isTrue => decide
  case isFalse =>
    intro hmem
    obtain ⟨b, -, hb⟩ := List.mem_flatMap.mp hmem
    have hdigit (n : UInt8) : upperHexDigit n ≠ ',' := by
      rw [upperHexDigit, List.getD_eq_getElem?_getD]
      intro heq
      have hd : ∀ d ∈ "0123456789ABCDEF".toList, d ≠ ',' := by simp
      rcases hget : "0123456789ABCDEF".toList[n.toNat]? with _ | d
      · rw [hget] at heq
        exact absurd heq (by decide)
      · rw [hget] at heq
        exact hd d (List.mem_of_getElem? hget) heq
    rcases List.mem_cons.mp hb with h | hb
    · exact absurd h (by decide)
    · rcases List.mem_cons.mp hb with h | hb
      · exact hdigit _ h.symm
      · exact hdigit _ (List.mem_singleton.mp hb).symm

theorem comma_notMem_queryEscape (s : String) : ',' ∉ (queryEscape s).toList := by
  rw [queryEscape, String.toList_ofList]
  intro hmem
  obtain ⟨c, -, hc⟩ := List.mem_flatMap.mp hmem
  exact comma_notMem_escapeChar c hc

/-- The characters of an entry. -/
theorem toList_firmwareEntry (i : Nat) (fw : FirmwareAttributes) :
    (firmwareEntry i fw).toList = (toString i).toList ++ ':' :: (fw.firmwareName.toList ++
      ':' :: (fw.subdeviceId.toList ++ ':' :: (queryEscape fw.firmwareVersion).toList)) := by
  simp [firmwareEntry]

/-- An entry, split at its first three colons. -/
theorem splitN_firmwareEntry {i : Nat} {fw : FirmwareAttributes} (hname : PlainName fw.firmwareName)
    (hsub : IsSubdeviceId fw.subdeviceId) : splitN ':' 4 (firmwareEntry i fw).toList =
      [(toString i).toList, fw.firmwareName.toList, fw.subdeviceId.toList,
        (queryEscape fw.firmwareVersion).toList] := by
  rw [toList_firmwareEntry, splitN_append (isDigit_of_mem_toString i).plain.2,
    splitN_append hname.2, splitN_append hsub.plain.2, splitN]

theorem comma_notMem_firmwareEntry {i : Nat} {fw : FirmwareAttributes}
    (hname : PlainName fw.firmwareName) (hsub : IsSubdeviceId fw.subdeviceId) :
    ',' ∉ (firmwareEntry i fw).toList := by
  rw [toList_firmwareEntry]
  simp only [List.mem_append, List.mem_cons, not_or]
  exact ⟨(isDigit_of_mem_toString i).plain.1, by decide, hname.1, by decide, hsub.plain.1,
    by decide, comma_notMem_queryEscape _⟩

/-- A function that takes every indexed element to the same as one without index. -/
theorem filterMap_mapIdx {α β γ : Type} {l : List α} {f : Nat → α → β} {g : β → Option γ}
    {h : α → Option γ} (hg : ∀ i, ∀ a ∈ l, g (f i a) = h a) :
    (l.mapIdx f).filterMap g = l.filterMap h := by
  induction l generalizing f with
  | nil => rfl
  | cons a l ih =>
    rw [List.mapIdx_cons, List.filterMap_cons, List.filterMap_cons, hg 0 a List.mem_cons_self,
      ih fun i a ha => hg (i + 1) a (List.mem_cons_of_mem _ ha)]

/-- **What the exporter reads** when no name has a separator: the versions as they were encoded. -/
theorem parseFirmwares_hwFirmwareVersion {fws : List FirmwareAttributes}
    (hname : ∀ fw ∈ fws, PlainName fw.firmwareName)
    (hsub : ∀ fw ∈ fws, IsSubdeviceId fw.subdeviceId) :
    parseFirmwares (hwFirmwareVersion fws) =
      fws.map fun fw => ⟨fw.firmwareName, fw.subdeviceId, queryEscape fw.firmwareVersion⟩ := by
  rcases fws with _ | ⟨fw, fws⟩
  · rfl
  · have hsplit : (hwFirmwareVersion (fw :: fws)).toList.splitOn ',' =
        ((fw :: fws).mapIdx firmwareEntry).map String.toList := by
      rw [hwFirmwareVersion, String.toList_intercalate]
      refine List.splitOn_intercalate ',' (fun part hpart => ?_) (by simp)
      obtain ⟨entry, hentry, rfl⟩ := List.mem_map.mp hpart
      obtain ⟨i, hi, rfl⟩ := List.mem_mapIdx.mp hentry
      exact comma_notMem_firmwareEntry (hname _ (List.getElem_mem hi)) (hsub _ (List.getElem_mem hi))
    rw [parseFirmwares, hsplit, List.filterMap_map, ← List.filterMap_eq_map]
    refine filterMap_mapIdx fun i fw' hfw => ?_
    have hne : (firmwareEntry i fw').toList ≠ [] := by
      rw [toList_firmwareEntry]
      simp
    rw [Function.comp, if_neg hne, splitN_firmwareEntry (hname fw' hfw) (hsub fw' hfw)]
    simp only [String.ofList_toList]
    rfl

/-! ## Versions that survive -/

theorem length_percentEncode_flatMap (bs : List UInt8) :
    (bs.flatMap percentEncode).length = 3 * bs.length := by
  induction bs with
  | nil => rfl
  | cons b bs ih =>
    rw [List.flatMap_cons, List.length_append, ih, List.length_cons]
    exact (show 3 + 3 * bs.length = _ by omega)

/-- Encoding a character other than a space makes it longer. -/
theorem length_escapeChar_of_reserved {c : Char} (h : isUnreserved c = false) (hspace : c ≠ ' ') :
    3 ≤ (escapeChar c).length := by
  rw [escapeChar, if_neg (by simp [h]), if_neg hspace, length_percentEncode_flatMap]
  have hpos : 0 < (String.utf8EncodeChar c).length := by
    rw [String.length_utf8EncodeChar]
    exact c.utf8Size_pos
  omega

/-- Escaping makes no text shorter. -/
theorem length_le_escape (s : List Char) : s.length ≤ (s.flatMap escapeChar).length := by
  induction s with
  | nil => exact Nat.le_refl 0
  | cons c s ih =>
    have hc : 1 ≤ (escapeChar c).length := by
      by_cases h : isUnreserved c = true
      · rw [escapeChar, if_pos h]
        exact Nat.le_refl 1
      · by_cases hspace : c = ' '
        · rw [hspace]
          decide
        · have := length_escapeChar_of_reserved (by simpa using h) hspace
          omega
    rw [List.flatMap_cons, List.length_append, List.length_cons]
    omega

/-- A text the encoding leaves alone has unreserved characters only. -/
theorem escape_eq_self_iff (s : List Char) :
    s.flatMap escapeChar = s ↔ ∀ c ∈ s, isUnreserved c = true := by
  induction s with
  | nil => simp
  | cons c s ih =>
    rw [List.flatMap_cons, List.forall_mem_cons]
    by_cases h : isUnreserved c = true
    · rw [escapeChar, if_pos h, List.singleton_append, List.cons_inj_right, ih,
        and_iff_right h]
    · refine iff_of_false (fun heq => ?_) fun hc => h hc.1
      by_cases hspace : c = ' '
      · subst hspace
        exact absurd (List.cons.inj heq).1 (by decide)
      · have hlen := congrArg List.length heq
        have h3 := length_escapeChar_of_reserved (by simpa using h) hspace
        have hle := length_le_escape s
        rw [List.length_append, List.length_cons] at hlen
        omega

/-- **The versions that the encoding leaves alone.** -/
theorem queryEscape_eq_self_iff (s : String) :
    queryEscape s = s ↔ ∀ c ∈ s.toList, isUnreserved c = true := by
  rw [queryEscape, ← escape_eq_self_iff, ← String.toList_inj, String.toList_ofList]

/-! ## The round trip -/

/-- The firmware has a name without separators, and a version that is encoded as itself. -/
def FirmwareAttributes.Survives (fw : FirmwareAttributes) : Prop :=
  PlainName fw.firmwareName ∧ ∀ c ∈ fw.firmwareVersion.toList, isUnreserved c = true

/-- **When the exporter reads what the receiver wrote.** -/
theorem parseFirmwares_roundTrip_iff (fws : List FirmwareAttributes)
    (hsub : ∀ fw ∈ fws, IsSubdeviceId fw.subdeviceId) :
    parseFirmwares (hwFirmwareVersion fws) = fws.map FirmwareAttributes.info ↔
      ∀ fw ∈ fws, fw.Survives := by
  constructor
  · intro heq
    have hname (fw) (hfw : fw ∈ fws) : PlainName fw.firmwareName := by
      have hmem : fw.info ∈ parseFirmwares (hwFirmwareVersion fws) := by
        rw [heq]
        exact List.mem_map_of_mem hfw
      exact name_of_mem_parseFirmwares hmem
    rw [parseFirmwares_hwFirmwareVersion hname hsub] at heq
    intro fw hfw
    have hinfo := List.map_inj_left.mp heq fw hfw
    refine ⟨hname fw hfw, (queryEscape_eq_self_iff _).mp ?_⟩
    exact congrArg FirmwareInfo.version hinfo
  · intro hall
    rw [parseFirmwares_hwFirmwareVersion (fun fw hfw => (hall fw hfw).1) hsub]
    refine List.map_congr_left fun fw hfw => ?_
    rw [(queryEscape_eq_self_iff _).mpr (hall fw hfw).2]
    rfl

/-- Two firmwares, one of them on a subdevice. -/
theorem parseFirmwares_roundTrip_sample :
    parseFirmwares (hwFirmwareVersion [⟨"gfx", "1.2.3", ""⟩, ⟨"opcode", "4_5", "1"⟩]) =
      [⟨"gfx", "", "1.2.3"⟩, ⟨"opcode", "1", "4_5"⟩] :=
  (parseFirmwares_roundTrip_iff [⟨"gfx", "1.2.3", ""⟩, ⟨"opcode", "4_5", "1"⟩]
    (by simp [IsSubdeviceId])).mpr
      (by simp [FirmwareAttributes.Survives, PlainName, isUnreserved])

/-- A version with a colon comes back as it was encoded. -/
theorem versionWithColon_not_restored :
    parseFirmwares (hwFirmwareVersion [⟨"gfx", "1:2", ""⟩]) ≠
      [⟨"gfx", "1:2", ""⟩].map FirmwareAttributes.info := by
  decide

end XpuManager
