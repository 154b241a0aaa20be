import XpuManager.Hal.Driver

/-! # Finding a device

`driver::findDevice` takes an index or an address, and compares the address with those of the devices
(`hal/core/driver.cpp`, `pci.cpp`). A device prints its own address with as many digits as it needs.
-/

namespace XpuManager

/-! ## Texts -/

/-- The parts of `domain:bus:device.function`. -/
def bdfParts (bdf : String) : Option (List Char × List Char × List Char × List Char) :=
  match bdf.toList.splitOn ':' with
  | [dmn, b, rest] =>
    match rest.splitOn '.' with
    | [device, function] => some (dmn, b, device, function)
    | _ => none
  | _ => none

/-- Hexadecimal digits, as many as there are, that stand for a number. -/
def IsHex (part : List Char) (n : UInt32) : Prop :=
  part ≠ [] ∧ (∀ c ∈ part, (Numerals.digit 16 c).isSome) ∧ n.toNat = Device.partValue part

/-- A text that stands for an address. -/
def DenotesAddress (bdf : String) (address : PciAddress) : Prop :=
  ∃ dmn b device function, bdfParts bdf = some (dmn, b, device, function) ∧
    IsHex dmn address.domain ∧ IsHex b address.bus ∧ IsHex device address.device ∧
    IsHex function address.function

/-- A text that stands for an index. -/
def DenotesIndex (bdf : String) (k : Nat) : Prop :=
  bdf.toList ≠ [] ∧ (∀ c ∈ bdf.toList, c.isDigit) ∧
    Numerals.ofDigits 10 0 (Numerals.leadingDigits 10 bdf.toList) = k

/-- An address that is printed with no more digits than an address is read with. -/
structure Printable (address : PciAddress) : Prop where
  domain : address.domain.toNat < 2 ^ 16
  bus : address.bus.toNat < 2 ^ 8
  device : address.device.toNat < 2 ^ 8
  function : address.function.toNat < 2 ^ 4

/-! ## Printed addresses -/

section

variable {part : List Char} {width : Nat} {n : UInt32} {address : PciAddress} {bdf : String}
  {dev : Device}

theorem isBdfPart_iff : Device.isBdfPart width part ↔
    part ≠ [] ∧ (∀ c ∈ part, (Numerals.digit 16 c).isSome) ∧ part.length ≤ width := by
  simp [Device.isBdfPart, and_assoc]

/-- The four parts, compared one by one. -/
theorem isBDF_eq : dev.isBDF bdf = match bdfParts bdf with
    | some (dmn, b, device, function) =>
      Device.isBdfPart 4 dmn && Device.isBdfPart 2 b && Device.isBdfPart 2 device &&
        Device.isBdfPart 1 function && dev.address.domain.toNat = Device.partValue dmn &&
        dev.address.bus.toNat = Device.partValue b &&
        dev.address.device.toNat = Device.partValue device &&
        dev.address.function.toNat = Device.partValue function
    | none => false := by
  rw [Device.isBDF, bdfParts]
  rcases bdf.toList.splitOn ':' with _ | ⟨dmn, _ | ⟨b, _ | ⟨rest, _ | _⟩⟩⟩
  case cons.cons.cons.nil =>
    dsimp only
    rcases rest.splitOn '.' with _ | ⟨device, _ | ⟨function, _ | _⟩⟩ <;> rfl
  all_goals rfl

/-- An address of a device is a text that stands for it, with no more digits than allowed. -/
theorem isBDF_iff : dev.isBDF bdf ↔
    ∃ dmn b device function, bdfParts bdf = some (dmn, b, device, function) ∧
      (IsHex dmn dev.address.domain ∧ dmn.length ≤ 4) ∧ (IsHex b dev.address.bus ∧ b.length ≤ 2) ∧
      (IsHex device dev.address.device ∧ device.length ≤ 2) ∧
      (IsHex function dev.address.function ∧ function.length ≤ 1) := by
  rw [isBDF_eq]
  cases hparts : bdfParts bdf with
  | none => exact iff_of_false nofun nofun
  | some parts =>
    obtain ⟨dmn, b, device, function⟩ := parts
    simp only [Bool.and_eq_true, decide_eq_true_eq, isBdfPart_iff, Option.some.injEq, Prod.mk.injEq,
      IsHex]
    constructor
    · rintro ⟨⟨⟨⟨⟨⟨⟨hdmn, hb⟩, hdevice⟩, hfunction⟩, hdmn'⟩, hb'⟩, hdevice'⟩, hfunction'⟩
      exact ⟨dmn, b, device, function, ⟨rfl, rfl, rfl, rfl⟩,
        ⟨⟨hdmn.1, hdmn.2.1, hdmn'⟩, hdmn.2.2⟩, ⟨⟨hb.1, hb.2.1, hb'⟩, hb.2.2⟩,
        ⟨⟨hdevice.1, hdevice.2.1, hdevice'⟩, hdevice.2.2⟩,
        ⟨⟨hfunction.1, hfunction.2.1, hfunction'⟩, hfunction.2.2⟩⟩
    · rintro ⟨_, _, _, _, ⟨rfl, rfl, rfl, rfl⟩, ⟨⟨hdmn, hdmn', hvalue⟩, hlen⟩,
        ⟨⟨hb, hb', hvalue'⟩, hlen'⟩, ⟨⟨hdevice, hdevice', hvalue''⟩, hlen''⟩,
        ⟨⟨hfunction, hfunction', hvalue'''⟩, hlen'''⟩⟩
      exact ⟨⟨⟨⟨⟨⟨⟨⟨hdmn, hdmn', hlen⟩, ⟨hb, hb', hlen'⟩⟩, ⟨hdevice, hdevice', hlen''⟩⟩,
        ⟨hfunction, hfunction', hlen'''⟩⟩, hvalue⟩, hvalue'⟩, hvalue''⟩, hvalue'''⟩

theorem denotesAddress_of_isBDF (h : dev.isBDF bdf) : DenotesAddress bdf dev.address := by
  obtain ⟨dmn, b, device, function, hparts, hdmn, hb, hdevice, hfunction⟩ := isBDF_iff.mp h
  exact ⟨dmn, b, device, function, hparts, hdmn.1, hb.1, hdevice.1, hfunction.1⟩

/-- A field stands for its number. -/
theorem isHex_hexField (width : Nat) (n : UInt32) : IsHex (hexField width n).toList n := by
  obtain ⟨hdigits, hvalue⟩ := Numerals.toDigits_sixteen n.toNat
  rw [hexField, String.toList_ofList]
  refine ⟨fun hnil => ?_, fun c hc => ?_, ?_⟩
  · rw [List.leftpad, List.append_eq_nil_iff] at hnil
    exact Nat.toDigits_ne_nil hnil.2
  · rcases List.mem_append.mp hc with hc | hc
    · rw [List.eq_of_mem_replicate hc]
      decide
    · exact hdigits c hc
  · rw [Device.partValue, Numerals.ofDigits_leftpad, hvalue]

/-- A field is wider than it should be exactly if its number needs it. -/
theorem length_hexField_le_iff (hwidth : 0 < width) :
    (hexField width n).toList.length ≤ width ↔ n.toNat < 16 ^ width := by
  rw [hexField, String.toList_ofList, List.leftpad, List.length_append, List.length_replicate,
    ← Nat.length_toDigits_le_iff (by decide) hwidth]
  omega

/-- No hexadecimal digit separates parts. -/
theorem not_mem_of_isHex {c : Char} (h : IsHex part n) (hc : Numerals.digit 16 c = none) : c ∉ part :=
  fun hmem => Numerals.ne_of_digit (h.2.1 c hmem) hc rfl

/-- **A printed address** has the fields as its parts. -/
theorem bdfParts_bdfString (address : PciAddress) : bdfParts (bdfString address) =
    some ((hexField 4 address.domain).toList, (hexField 2 address.bus).toList,
      (hexField 2 address.device).toList, (hexField 1 address.function).toList) := by
  have hcolon : Numerals.digit 16 ':' = none := by decide
  have hdot : Numerals.digit 16 '.' = none := by decide
  have hrest : ':' ∉ (hexField 2 address.device).toList ++
      '.' :: (hexField 1 address.function).toList := by
    rw [List.mem_append, List.mem_cons, not_or, not_or]
    exact ⟨not_mem_of_isHex (isHex_hexField _ _) hcolon, by decide,
      not_mem_of_isHex (isHex_hexField _ _) hcolon⟩
  have htext : (bdfString address).toList = (hexField 4 address.domain).toList ++
      ':' :: ((hexField 2 address.bus).toList ++
        ':' :: ((hexField 2 address.device).toList ++ '.' :: (hexField 1 address.function).toList)) := by
    simp [bdfString, String.toList_append]
  rw [bdfParts, htext,
    List.splitOn_append_cons_self_of_not_mem (not_mem_of_isHex (isHex_hexField _ _) hcolon),
    List.splitOn_append_cons_self_of_not_mem (not_mem_of_isHex (isHex_hexField _ _) hcolon),
    List.splitOn_eq_singleton hrest]
  dsimp only
  rw [List.splitOn_append_cons_self_of_not_mem (not_mem_of_isHex (isHex_hexField _ _) hdot),
    List.splitOn_eq_singleton (not_mem_of_isHex (isHex_hexField _ _) hdot)]

/-- **A printed address is recognized** exactly if it is printable, and by no other device. -/
theorem isBDF_bdfString_iff :
    dev.isBDF (bdfString address) ↔ dev.address = address ∧ Printable address := by
  have hwidth (width : Nat) (hwidth : 0 < width) (n : UInt32) :
      (hexField width n).toList.length ≤ width ↔ n.toNat < 16 ^ width := length_hexField_le_iff hwidth
  have heq (width : Nat) (n m : UInt32) : IsHex (hexField width n).toList m ↔ m = n := by
    constructor
    · intro hm
      exact UInt32.toNat_inj.mp (hm.2.2.trans (isHex_hexField width n).2.2.symm)
    · rintro rfl
      exact isHex_hexField width m
  rw [isBDF_iff, bdfParts_bdfString]
  constructor
  · rintro ⟨_, _, _, _, heq', hdmn, hb, hdevice, hfunction⟩
    cases heq'
    rw [heq, hwidth _ (by decide)] at hdmn hb hdevice hfunction
    have hext : ∀ a a' : PciAddress, a.domain = a'.domain → a.bus = a'.bus → a.device = a'.device →
        a.function = a'.function → a = a' := by
      rintro ⟨_, _, _, _⟩ ⟨_, _, _, _⟩ rfl rfl rfl rfl
      rfl
    exact ⟨hext _ _ hdmn.1 hb.1 hdevice.1 hfunction.1, hdmn.2, hb.2, hdevice.2, hfunction.2⟩
  · rintro ⟨rfl, hprintable⟩
    refine ⟨_, _, _, _, rfl, ?_, ?_, ?_, ?_⟩
    all_goals rw [heq, hwidth _ (by decide)]
    · exact ⟨rfl, hprintable.domain⟩
    · exact ⟨rfl, hprintable.bus⟩
    · exact ⟨rfl, hprintable.device⟩
    · exact ⟨rfl, hprintable.function⟩

/-- A text is read as the index it denotes, below 2^32. -/
theorem numericId_eq_some_iff {k : Nat} :
    numericId bdf = some k ↔ DenotesIndex bdf k ∧ k < 0x100000000 := by
  rw [numericId, DenotesIndex]
  dsimp only
  by_cases hdigits : bdf.toList ≠ [] ∧ ∀ c ∈ bdf.toList, c.isDigit
  · rw [if_pos ⟨hdigits.1, List.all_eq_true.mpr hdigits.2⟩]
    constructor
    · intro h
      split at h
      case isTrue hlt =>
        obtain rfl := Option.some.inj h
        exact ⟨⟨hdigits.1, hdigits.2, rfl⟩, hlt⟩
      case isFalse => cases h
    · rintro ⟨⟨-, -, rfl⟩, hlt⟩
      exact if_pos hlt
  · rw [if_neg fun h => hdigits ⟨h.1, List.all_eq_true.mp h.2⟩]
    exact iff_of_false nofun fun h => hdigits ⟨h.1.1, h.1.2.1⟩

/-- A printed number stands for itself. -/
theorem denotesIndex_toString (k j : Nat) : DenotesIndex (toString k) j ↔ j = k := by
  have hlist : (toString k).toList = Nat.toDigits 10 k := Nat.toList_repr
  have hdigits : ∀ c ∈ Nat.toDigits 10 k, c.isDigit :=
    fun c hc => Nat.isDigit_of_mem_toDigits (by decide) (by decide) hc
  rw [DenotesIndex, hlist, Numerals.ofDigits_leadingDigits hdigits, Nat.ofDigitChars_ten_toDigits]
  constructor
  · rintro ⟨-, -, rfl⟩
    rfl
  · rintro rfl
    exact ⟨Nat.toDigits_ne_nil, hdigits, rfl⟩

/-- A number is not an address. -/
theorem isBDF_of_denotesIndex {k : Nat} (h : DenotesIndex bdf k) : ¬dev.isBDF bdf := by
  have hcolon : ':' ∉ bdf.toList := fun hmem => absurd (h.2.1 ':' hmem) (by decide)
  rw [isBDF_eq, bdfParts, List.splitOn_eq_singleton hcolon]
  nofun

/-- An address is not a number. -/
theorem numericId_bdfString (address : PciAddress) : numericId (bdfString address) = none := by
  rw [Option.eq_none_iff_forall_ne_some]
  intro k hk
  have hcolon : ':' ∈ (bdfString address).toList := by simp [bdfString, String.toList_append]
  exact absurd ((numericId_eq_some_iff.mp hk).1.2.1 ':' hcolon) (by decide)

end

/-! ## The loop -/

/-- The entry of a device. -/
def entry (k : Nat) (dev : Device) : DevInfo := ⟨k, dev, dev.zeDevice, dev.zesDevice⟩

/-- A text that finds a device. -/
def Hits (bdf : String) (k : Nat) (dev : Device) : Prop := dev.isBDF bdf ∨ numericId bdf = some k

section

variable {bdf : String} {devices : List Device}

theorem processDevices_empty (devices : List Device) (i : Nat) (devList : List DevInfo) :
    processDevices "" (devices.map some) i devList =
      .ret (.success, devList ++ devices.mapIdx fun k dev => entry (i + k) dev) := by
  induction devices generalizing i devList with
  | nil =>
    rw [List.mapIdx_nil, List.append_nil]
    exact if_neg fun h => h.1 rfl
  | cons dev devices ih =>
    rw [List.map_cons, processDevices, if_pos rfl, ih, Device.addInfo, List.mapIdx_cons,
      List.append_assoc]
    simp only [Nat.add_assoc, Nat.add_comm 1]
    rfl

/-- The first device that is hit is the one that is found. -/
theorem processDevices_of_hit (hbdf : bdf ≠ "") {k : Nat} {dev : Device} (hdev : devices[k]? = some dev)
    {i : Nat} (hhit : Hits bdf (i + k) dev)
    (hfirst : ∀ j < k, ∀ dev', devices[j]? = some dev' → ¬Hits bdf (i + j) dev') :
    processDevices bdf (devices.map some) i [] = .ret (.success, [entry (i + k) dev]) := by
  induction devices generalizing i k with
  | nil => cases hdev
  | cons head devices ih =>
    rw [List.map_cons, processDevices, if_neg hbdf]
    cases k with
    | zero =>
      obtain rfl := Option.some.inj hdev
      exact if_pos hhit
    | succ k =>
      have hnot : ¬Hits bdf i head := hfirst 0 (Nat.succ_pos k) head rfl
      rw [Nat.add_comm k 1, ← Nat.add_assoc] at hhit ⊢
      refine (if_neg hnot).trans (ih hdev hhit fun j hj dev' hdev' => ?_)
      have h := hfirst (j + 1) (Nat.succ_lt_succ hj) dev' hdev'
      rwa [Nat.add_comm j 1, ← Nat.add_assoc] at h

theorem processDevices_of_none (hbdf : bdf ≠ "") {i : Nat}
    (hnone : ∀ (j : Nat) dev, devices[j]? = some dev → ¬Hits bdf (i + j) dev) :
    processDevices bdf (devices.map some) i [] = .ret (.invalidArgument, []) := by
  induction devices generalizing i with
  | nil => exact if_pos ⟨hbdf, rfl⟩
  | cons head devices ih =>
    rw [List.map_cons, processDevices, if_neg hbdf]
    refine (if_neg (hnone 0 head rfl)).trans (ih fun j dev hdev => ?_)
    have h := hnone (j + 1) dev hdev
    rwa [Nat.add_comm j 1, ← Nat.add_assoc] at h

end

/-! ## Consistency -/

/-- The devices of a driver, with addresses of their own, which they print. -/
structure Lists (d : Driver) (devices : List Device) : Prop where
  accesses : d.accesses = devices.map some
  nodup : (devices.map Device.address).Nodup
  bdfStr : ∀ dev ∈ devices, dev.bdfStr = bdfString dev.address

/-- Every device is found by its index and by its address, and nothing else finds one. -/
structure Consistent (d : Driver) (devices : List Device) : Prop where
  all : d.findDevice "" [] = .ret (.success, devices.mapIdx entry)
  byIndex : ∀ (k : Nat) dev, devices[k]? = some dev →
    d.findDevice (toString k) [] = .ret (.success, [entry k dev])
  byAddress : ∀ (k : Nat) dev, devices[k]? = some dev →
    d.findDevice dev.bdfStr [] = .ret (.success, [entry k dev])
  other : ∀ bdf, bdf ≠ "" → (∀ k < devices.length, ¬DenotesIndex bdf k) →
    (∀ dev ∈ devices, ¬DenotesAddress bdf dev.address) →
    d.findDevice bdf [] = .ret (.invalidArgument, [])

section

variable {d : Driver} {devices : List Device}

theorem findDevice_eq (h : Lists d devices) (bdf : String) :
    d.findDevice bdf [] = processDevices bdf (devices.map some) 0 [] := by
  rw [Driver.findDevice, h.accesses]

/-- A device that is found has been hit. -/
theorem exists_hit_of_success (h : Lists d devices) {bdf : String} (hbdf : bdf ≠ "")
    {devList : List DevInfo} (hfound : d.findDevice bdf [] = .ret (.success, devList)) :
    ∃ (k : Nat) (dev : Device), devices[k]? = some dev ∧ Hits bdf k dev := by
  by_contra hnone
  rw [findDevice_eq h, processDevices_of_none hbdf fun j dev hdev hhit =>
    hnone ⟨j, dev, hdev, Nat.zero_add j ▸ hhit⟩] at hfound
  cases hfound

/-- A device that alone is hit is found. -/
theorem findDevice_of_hit (h : Lists d devices) {bdf : String} (hbdf : bdf ≠ "") {k : Nat} {dev : Device}
    (hdev : devices[k]? = some dev)
    (honly : ∀ (j : Nat) dev', devices[j]? = some dev' → (Hits bdf j dev' ↔ j = k)) :
    d.findDevice bdf [] = .ret (.success, [entry k dev]) := by
  have hhit : Hits bdf (0 + k) dev := by
    rw [Nat.zero_add]
    exact (honly k dev hdev).mpr rfl
  rw [findDevice_eq h, processDevices_of_hit hbdf hdev hhit fun j hj dev' hdev' hhit' => ?_,
    Nat.zero_add]
  rw [Nat.zero_add] at hhit'
  exact hj.ne ((honly j dev' hdev').mp hhit')

theorem toString_ne_empty (k : Nat) : toString k ≠ "" := by
  intro hempty
  have hlist : (toString k).toList = Nat.toDigits 10 k := Nat.toList_repr
  rw [hempty] at hlist
  exact Nat.toDigits_ne_nil hlist.symm

theorem bdfString_ne_empty (address : PciAddress) : bdfString address ≠ "" := by
  intro hempty
  have hcolon : ':' ∈ (bdfString address).toList := by simp [bdfString, String.toList_append]
  rw [hempty] at hcolon
  cases hcolon

/-- **Devices are found consistently** with their listing exactly if every address can be printed with
the digits that an address is read with, and there are no more devices than indexes. -/
theorem findDevice_consistent_iff (h : Lists d devices) : Consistent d devices ↔
    devices.length ≤ 0x100000000 ∧ ∀ dev ∈ devices, Printable dev.address := by
  constructor
  · intro hconsistent
    constructor
    · by_contra hlong
      have hlt : 0x100000000 < devices.length := not_le.mp hlong
      obtain ⟨j, dev, -, hhit⟩ := exists_hit_of_success h (toString_ne_empty _)
        (hconsistent.byIndex _ _ (List.getElem?_eq_getElem hlt))
      have hindex : DenotesIndex (toString 0x100000000) 0x100000000 :=
        (denotesIndex_toString _ _).mpr rfl
      rcases hhit with hhit | hhit
      · exact isBDF_of_denotesIndex hindex hhit
      · obtain ⟨hdenotes, hlt⟩ := numericId_eq_some_iff.mp hhit
        rw [(denotesIndex_toString _ _).mp hdenotes] at hlt
        exact hlt.false
    · intro dev hmem
      obtain ⟨k, hk⟩ := List.mem_iff_getElem?.mp hmem
      have hfound := hconsistent.byAddress k dev hk
      rw [h.bdfStr dev hmem] at hfound
      obtain ⟨j, dev', -, hhit⟩ := exists_hit_of_success h (bdfString_ne_empty _) hfound
      rcases hhit with hhit | hhit
      · exact (isBDF_bdfString_iff.mp hhit).2
      · rw [numericId_bdfString] at hhit
        cases hhit
  · rintro ⟨hlen, hprintable⟩
    have hlt {k : Nat} {dev : Device} (hdev : devices[k]? = some dev) : k < devices.length :=
      (List.getElem?_eq_some_iff.mp hdev).1
    refine ⟨?_, fun k dev hdev => ?_, fun k dev hdev => ?_, fun bdf hbdf hindex haddress => ?_⟩
    · rw [findDevice_eq h, processDevices_empty, List.nil_append]
      simp only [Nat.zero_add]
    · have hdenotes : DenotesIndex (toString k) k := (denotesIndex_toString k k).mpr rfl
      refine findDevice_of_hit h (toString_ne_empty k) hdev fun j dev' hdev' => ?_
      rw [Hits, or_iff_right (isBDF_of_denotesIndex hdenotes), numericId_eq_some_iff,
        denotesIndex_toString, and_iff_left_of_imp]
      rintro rfl
      exact (hlt hdev).trans_le hlen
    · have hmem := List.mem_of_getElem? hdev
      rw [h.bdfStr dev hmem]
      refine findDevice_of_hit h (bdfString_ne_empty _) hdev fun j dev' hdev' => ?_
      rw [Hits, numericId_bdfString, or_iff_left nofun, isBDF_bdfString_iff,
        and_iff_left (hprintable dev hmem)]
      constructor
      · intro hsame
        have hj : j < (devices.map Device.address).length := by
          rw [List.length_map]
          exact hlt hdev'
        refine (List.getElem?_inj hj h.nodup).mp ?_
        rw [List.getElem?_map, List.getElem?_map, hdev', hdev]
        exact congrArg some hsame
      · rintro rfl
        rw [Option.some.inj (hdev'.symm.trans hdev)]
    · rw [findDevice_eq h, processDevices_of_none hbdf]
      intro j dev hdev hhit
      rcases hhit with hhit | hhit
      · exact haddress dev (List.mem_of_getElem? hdev) (denotesAddress_of_isBDF hhit)
      · rw [Nat.zero_add] at hhit
        exact hindex j (hlt hdev) (numericId_eq_some_iff.mp hhit).1

end

/-- A device in a PCI domain of its own. -/
def vmdDevice : Device where
  address := { domain := 0x10000, bus := 3 }
  bdfStr := bdfString { domain := 0x10000, bus := 3 }

def vmdDriver : Driver where
  svZesDevs := { survDevCount := 1, survDevices := [vmdDevice] }

theorem lists_vmdDriver : Lists vmdDriver [vmdDevice] where
  accesses := rfl
  nodup := List.nodup_singleton _
  bdfStr := fun _ hmem => List.mem_singleton.mp hmem ▸ rfl

theorem findDevice_consistent_vmd : Consistent vmdDriver [vmdDevice] ↔
    [vmdDevice].length ≤ 0x100000000 ∧ ∀ dev ∈ [vmdDevice], Printable dev.address :=
  findDevice_consistent_iff lists_vmdDriver

/-- A domain of five digits is printed, and not read. -/
theorem findDevice_not_consistent :
    ¬∀ (d : Driver) (devices : List Device), Lists d devices → Consistent d devices := by
  intro h
  have hfound := (h vmdDriver [vmdDevice] lists_vmdDriver).byAddress 0 vmdDevice rfl
  obtain ⟨j, dev, hdev, hhit⟩ := exists_hit_of_success lists_vmdDriver (bdfString_ne_empty _) hfound
  rcases hhit with hhit | hhit
  · exact absurd (isBDF_bdfString_iff.mp hhit).2.domain (by decide)
  · rw [numericId_bdfString] at hhit
    cases hhit

end XpuManager
