import XpuManager.Hal.Driver
import XpuManager.Lib.Completion

/-! # Devices in survivability mode

Devices that sysman knows and the core interface does not are found by their addresses, and by how many
there should be (`hal/core/driver.cpp`). -/

namespace XpuManager

/-- The devices of the core interface. -/
def Driver.normalDevices (d : Driver) : List Device := (d.devs.getD []).flatMap DevGroup.devices

/-- Every device of sysman is represented once, as a normal device or in survivability mode, and every
slot for the latter has a device whose address is not that of a normal device. -/
structure Represents (d : Driver) : Prop where
  once : (d.normalDevices.map Device.zesDevice ++
    d.svZesDevs.survDevices.map Device.zesDevice).Perm
      (d.sysmanDevices.map fun zes => some zes.handle)
  apart : ∀ slot ∈ d.svZesDevs.survDevices, ∃ zes ∈ d.sysmanDevices,
    slot.zesDevice = some zes.handle ∧ ∀ other ∈ d.sysmanDevices,
      some other.handle ∈ d.normalDevices.map Device.zesDevice → other.address ≠ zes.address

/-! ## What the answers say -/

namespace LevelZero

variable (l0 : LevelZero)

/-- The core interface can be initialised. -/
def CoreWorks : Prop :=
  l0.zeInit = .success ∧ l0.zeDrivers.countResult = .success ∧ l0.zeDrivers.fillResult = .success

instance : Decidable l0.CoreWorks := instDecidableAnd

/-- The device of sysman with the UUID of a device of the core interface, and the address that is kept
for it. -/
def normalDevice (i : Nat) (device : Handle × Nat) : Option (ZesDevice × String) :=
  let answers := (l0.driver i).device device.2
  (l0.sysman.find? fun zes => zes.uuid = answers.properties.getD (List.replicate 16 0)).map fun zes =>
    (zes, if answers.pciProperties zes.handle then bdfString zes.address else answers.memory)

/-- The devices of all drivers of the core interface. -/
def normal : List (ZesDevice × String) :=
  if l0.CoreWorks then
    (List.range l0.zeDrivers.items.length).flatMap fun i =>
      (l0.driver i).devices.items.zipIdx.filterMap (l0.normalDevice i)
  else []

/-- The devices of sysman that are normal devices. -/
def normalZes : List ZesDevice := l0.normal.map Prod.fst

/-- The addresses that are kept for them. -/
def normalBdfs : List String := l0.normal.map Prod.snd

end LevelZero

/-- **Answers that tell the families apart.** No two devices of the core interface are one device of
sysman, or have one address. A device of sysman that is not a normal device is not seen with the address
of one, and is none by its true address; and the normal devices before it are seen with an address that
is known. -/
structure TellsApart (l0 : LevelZero) : Prop where
  devices : l0.normalZes.Nodup
  addresses : l0.normalBdfs.Nodup
  new : ∀ zes ∈ l0.sysman, zes ∉ l0.normalZes → searchedBdf l0 zes ∉ l0.normalBdfs
  known : l0.sysman.Pairwise fun earlier later => later ∉ l0.normalZes → earlier ∈ l0.normalZes →
    searchedBdf l0 earlier ∈ l0.normalBdfs
  apart : ∀ zes ∈ l0.sysman, zes ∉ l0.normalZes → ∀ other ∈ l0.normalZes,
    other.address ≠ zes.address

/-! ## What initialisation finds -/

section Found

variable {l0 : LevelZero} {d : Driver}

theorem matchSysman_ok {answers : DeviceAnswers} {uuid : Uuid} {devices : List ZesDevice}
    {zes : ZesDevice} (h : matchSysman answers uuid devices = .ok zes) :
    devices.find? (fun zes => zes.uuid = uuid) = some zes := by
  induction devices with
  | nil => cases h
  | cons other devices ih =>
    rw [matchSysman] at h
    split_ifs at h with hfails huuid
    · obtain rfl := Except.ok.inj h
      exact List.find?_cons_of_pos (decide_eq_true huuid)
    · rw [List.find?_cons_of_neg (by simpa using huuid)]
      exact ih h

/-- **Spec of one device.** -/
theorem initDevice_ok {i : Nat} {device : Handle × Nat} {dev : Device}
    (hsysman : d.sysmanDevices = l0.sysman) (h : initDevice l0 d i device = .ok dev) :
    ∃ zes bdfStr, l0.normalDevice i device = some (zes, bdfStr) ∧
      dev.zesDevice = some zes.handle ∧ dev.bdfStr = bdfStr := by
  rw [initDevice] at h
  cases hfirst : d.firstZesDriver with
  | error stop =>
    rw [hfirst] at h
    cases h
  | ok zesDriver =>
    rw [hfirst] at h
    change Device.init _ _ _ _ = _ at h
    rw [Device.init] at h
    split_ifs at h
    cases hmatch : matchSysman ((l0.driver i).device device.2)
      (((l0.driver i).device device.2).properties.getD (List.replicate 16 0)) d.sysmanDevices with
    | error stop =>
      rw [hmatch] at h
      cases h
    | ok zes =>
      rw [hmatch] at h
      obtain rfl := Except.ok.inj h
      refine ⟨zes, _, ?_, rfl, rfl⟩
      rw [LevelZero.normalDevice, ← hsysman, matchSysman_ok hmatch]
      rfl

/-- What is known about a list of devices. -/
def Shows (devices : List Device) (known : List (ZesDevice × String)) : Prop :=
  List.Forall₂ (fun dev entry => dev.zesDevice = some entry.1.handle ∧ dev.bdfStr = entry.2) devices
    known

theorem shows_of_mapM {i : Nat} {devices : List (Handle × Nat)} {devs : List Device}
    (hsysman : d.sysmanDevices = l0.sysman) (h : devices.mapM (initDevice l0 d i) = .ok devs) :
    Shows devs (devices.filterMap (l0.normalDevice i)) := by
  have hall := forall₂_of_mapM h
  clear h
  induction hall with
  | nil => exact .nil
  | cons hdev hrest ih =>
    obtain ⟨zes, bdfStr, hnormal, hzes, hbdf⟩ := initDevice_ok hsysman hdev
    rw [List.filterMap_cons_some hnormal]
    exact .cons ⟨hzes, hbdf⟩ ih

/-- Group by group. -/
theorem shows_of_groups {drivers : List Nat} {groups : List DevGroup}
    (hsysman : d.sysmanDevices = l0.sysman) (h : drivers.mapM (initGroup l0 d) = .ok groups) :
    Shows (groups.flatMap DevGroup.devices) (drivers.flatMap fun i =>
      (l0.driver i).devices.items.zipIdx.filterMap (l0.normalDevice i)) := by
  have hall := forall₂_of_mapM h
  clear h
  induction hall with
  | nil => exact .nil
  | cons hgroup hrest ih =>
    rw [List.flatMap_cons, List.flatMap_cons]
    exact List.rel_append (shows_of_mapM hsysman (initGroup_ok hgroup).2) ih

variable {d' : Driver} {devBdfs : Finset String}

/-- **Spec of the search.** -/
theorem findSurvivability_slots {result : ZeResult}
    (h : findSurvivability l0 d devBdfs = (.ret result, d')) (hnew : d.svZesDevs = {}) :
    ∃ zesDriver, d'.sysmanDevices = d.sysmanDevices ∧ d'.devs = d.devs ∧
      d'.svZesDevs.survDevices = fillSlots l0 zesDriver devBdfs
        (d.totalZesDevicesCount - devBdfs.card) d.sysmanDevices := by
  rw [findSurvivability] at h
  split at h
  case isTrue =>
    split at h
    case h_1 => cases h
    case h_2 zesDriver _ =>
      obtain ⟨-, rfl⟩ := Prod.mk.inj h
      exact ⟨zesDriver, rfl, rfl, rfl⟩
  case isFalse hfull =>
    obtain ⟨-, rfl⟩ := Prod.mk.inj h
    refine ⟨none, rfl, rfl, ?_⟩
    have hnone : (fillSlots l0 none devBdfs 0 d.sysmanDevices).length = 0 := length_fillSlots _ _ _ _
    rw [Nat.sub_eq_zero_of_le (Nat.le_of_not_lt hfull), List.eq_nil_of_length_eq_zero hnone]
    exact congrArg SurvivabilityDevices.survDevices hnew

/-- What is there after an initialisation that succeeds. -/
structure Initialised (l0 : LevelZero) (d : Driver) : Prop where
  sysman : d.sysmanDevices = l0.sysman
  normal : Shows d.normalDevices l0.normal
  slots : ∃ zesDriver, d.svZesDevs.survDevices = fillSlots l0 zesDriver l0.normalBdfs.toFinset
    (l0.sysman.length - l0.normalBdfs.toFinset.card) l0.sysman

theorem Shows.map_bdfStr {devices : List Device} {known : List (ZesDevice × String)}
    (h : Shows devices known) : devices.map Device.bdfStr = known.map Prod.snd := by
  induction h with
  | nil => rfl
  | cons hdev _ ih => rw [List.map_cons, List.map_cons, hdev.2, ih]

theorem Shows.map_zesDevice {devices : List Device} {known : List (ZesDevice × String)}
    (h : Shows devices known) :
    devices.map Device.zesDevice = (known.map Prod.fst).map fun zes => some zes.handle := by
  induction h with
  | nil => rfl
  | cons hdev _ ih => rw [List.map_cons, List.map_cons, List.map_cons, hdev.1, ih]

/-- **Spec of the initialisation**, for the two families. -/
theorem initialised_of_init (h : ({} : Driver).init l0 = (.ret .success, d)) : Initialised l0 d := by
  obtain ⟨d₁, result, d₂, hzes, hze, hends⟩ := init_success h
  have hd₁ := zesInitialize_success hzes
  have hfails (hd₂ : d₂.sysmanDevices = d₁.sysmanDevices) (hnew : d₂.svZesDevs = d₁.svZesDevs)
      (htotal : d₂.totalZesDevicesCount = d₁.totalZesDevicesCount) (hdevs : d₂.devs = d₁.devs)
      (hcore : ¬l0.CoreWorks) (hsurv : findSurvivability l0 d₂ ∅ = (.ret .success, d)) :
      Initialised l0 d := by
    have hnormal : l0.normal = [] := if_neg hcore
    obtain ⟨zesDriver, hsysman, hdevs', hslots⟩ :=
      findSurvivability_slots hsurv (hnew.trans hd₁.svZesDevs)
    refine ⟨hsysman.trans (hd₂.trans hd₁.sysman), ?_, zesDriver, ?_⟩
    · rw [Driver.normalDevices, hdevs', hdevs, hd₁.devs, hnormal]
      exact .nil
    · rw [hslots, hd₂, htotal, hd₁.sysman, hd₁.total, LevelZero.normalBdfs, hnormal]
      rfl
  rcases zeInitialize_cases l0 d₁ with ⟨hinit, hrun⟩ | ⟨hinit, hcount, hrun⟩ |
    ⟨hinit, hcount, hfill, hrun⟩ | ⟨hinit, hcount, hfill, hrun⟩
  all_goals obtain ⟨rfl, rfl⟩ := Prod.mk.inj (hze.symm.trans hrun)
  · obtain ⟨-, hsurv⟩ | ⟨hok, -⟩ := hends
    · exact hfails rfl rfl rfl rfl (fun hcore => hinit hcore.1) hsurv
    · exact absurd hok hinit
  · obtain ⟨-, hsurv⟩ | ⟨hok, -⟩ := hends
    · exact hfails rfl rfl rfl rfl (fun hcore => hcount hcore.2.1) hsurv
    · exact absurd hok hcount
  · obtain ⟨-, hsurv⟩ | ⟨hok, -⟩ := hends
    · exact hfails rfl rfl rfl rfl (fun hcore => hfill hcore.2.2) hsurv
    · exact absurd hok hfill
  · obtain ⟨hfails, -⟩ | ⟨-, groups, hgroups, hsurv⟩ := hends
    · exact absurd rfl hfails
    · have hnormal : l0.normal = (List.range l0.zeDrivers.items.length).flatMap fun i =>
          (l0.driver i).devices.items.zipIdx.filterMap (l0.normalDevice i) :=
        if_pos ⟨hinit, hcount, hfill⟩
      have hshows : Shows (groups.flatMap DevGroup.devices) l0.normal :=
        hnormal ▸ shows_of_groups hd₁.sysman hgroups
      obtain ⟨zesDriver, hsysman, hdevs, hslots⟩ := findSurvivability_slots hsurv hd₁.svZesDevs
      refine ⟨hsysman.trans hd₁.sysman, ?_, zesDriver, ?_⟩
      · rw [Driver.normalDevices, hdevs]
        exact hshows
      · have hbdfs : bdfsOf groups = l0.normalBdfs.toFinset := by
          rw [bdfsOf, hshows.map_bdfStr, LevelZero.normalBdfs]
        rw [hslots, hbdfs]
        change fillSlots l0 zesDriver _ (d₁.totalZesDevicesCount - _) d₁.sysmanDevices = _
        rw [hd₁.total, hd₁.sysman]

end Found

/-! ## The two families -/

section Families

variable {l0 : LevelZero} {d : Driver}

/-- The devices of sysman that the search takes for devices in survivability mode. -/
def LevelZero.found (l0 : LevelZero) : List ZesDevice :=
  (l0.sysman.filter (isNew l0 l0.normalBdfs.toFinset)).take
    (l0.sysman.length - l0.normalBdfs.toFinset.card)

theorem LevelZero.nodup_zes (l0 : LevelZero) : l0.sysman.Nodup := l0.nodup_sysman.of_map _

theorem LevelZero.nodup_handles (l0 : LevelZero) :
    (l0.sysman.map fun zes => some zes.handle).Nodup := by
  have hsome := l0.nodup_sysman.map (Option.some_injective Handle)
  rwa [List.map_map] at hsome

theorem LevelZero.found_subset (l0 : LevelZero) : l0.found ⊆ l0.sysman :=
  fun _ hzes => List.mem_of_mem_filter (List.mem_of_mem_take hzes)

theorem LevelZero.normalZes_subset (l0 : LevelZero) : l0.normalZes ⊆ l0.sysman := by
  intro zes hzes
  obtain ⟨entry, hentry, rfl⟩ := List.mem_map.mp hzes
  rw [LevelZero.normal] at hentry
  split at hentry
  · obtain ⟨i, -, hi⟩ := List.mem_flatMap.mp hentry
    obtain ⟨device, -, hdevice⟩ := List.mem_filterMap.mp hi
    rw [LevelZero.normalDevice] at hdevice
    obtain ⟨zes, hfound, rfl⟩ := Option.map_eq_some_iff.mp hdevice
    exact List.mem_of_find?_eq_some hfound
  · cases hentry

theorem LevelZero.length_normalBdfs (l0 : LevelZero) :
    l0.normalBdfs.length = l0.normalZes.length := by
  rw [LevelZero.normalBdfs, LevelZero.normalZes, List.length_map, List.length_map]

/-- A handle is the handle of one device. -/
theorem LevelZero.mem_of_handle_mem {devices : List ZesDevice} (hdevices : devices ⊆ l0.sysman)
    {zes : ZesDevice} (hzes : zes ∈ l0.sysman)
    (h : some zes.handle ∈ devices.map fun zes => some zes.handle) : zes ∈ devices := by
  obtain ⟨other, hother, heq⟩ := List.mem_map.mp h
  have hsame := List.inj_on_of_nodup_map l0.nodup_sysman (hdevices hother) hzes (Option.some.inj heq)
  rwa [← hsame]

theorem LevelZero.perm_of_handles {devices : List ZesDevice} (hdevices : devices ⊆ l0.sysman)
    (h : (devices.map fun zes => some zes.handle).Perm
      (l0.sysman.map fun zes => some zes.handle)) : devices.Perm l0.sysman := by
  refine (List.perm_ext_iff_of_nodup ((h.nodup_iff.mpr l0.nodup_handles).of_map _)
    l0.nodup_zes).mpr ?_
  refine fun zes => ⟨fun hzes => hdevices hzes, fun hzes => ?_⟩
  exact LevelZero.mem_of_handle_mem hdevices hzes (h.mem_iff.mpr (List.mem_map_of_mem hzes))

/-- The slots, by what they have been initialised with. -/
theorem Initialised.map_zesDevice (h : Initialised l0 d) :
    d.svZesDevs.survDevices.map Device.zesDevice =
      (l0.found.map fun zes => some zes.handle) ++
        List.replicate (l0.sysman.length - l0.normalBdfs.toFinset.card -
          (l0.sysman.filter (isNew l0 l0.normalBdfs.toFinset)).length) none := by
  obtain ⟨zesDriver, hslots⟩ := h.slots
  rw [hslots, fillSlots_eq, List.map_append, List.map_map, List.map_replicate]
  rfl

/-- **Once.** With the slots that are left blank, if any. -/
theorem Initialised.once_iff (h : Initialised l0 d) :
    (d.normalDevices.map Device.zesDevice ++
      d.svZesDevs.survDevices.map Device.zesDevice).Perm
        (d.sysmanDevices.map fun zes => some zes.handle) ↔
      l0.normalBdfs.Nodup ∧ (l0.normalZes ++ l0.found).Perm l0.sysman := by
  have hcard := l0.normalBdfs.toFinset_card_le
  have hlength := l0.length_normalBdfs
  have hfound : l0.found.length = min (l0.sysman.length - l0.normalBdfs.toFinset.card)
      (l0.sysman.filter (isNew l0 l0.normalBdfs.toFinset)).length := List.length_take
  rw [h.sysman, h.normal.map_zesDevice, h.map_zesDevice, ← List.append_assoc, ← List.map_append]
  constructor
  · intro hperm
    have hblank : l0.sysman.length - l0.normalBdfs.toFinset.card -
        (l0.sysman.filter (isNew l0 l0.normalBdfs.toFinset)).length = 0 := by
      by_contra hne
      have hmem := hperm.mem_iff.mp
        (List.mem_append_right _ (List.mem_replicate.mpr ⟨hne, rfl⟩))
      obtain ⟨zes, -, hzes⟩ := List.mem_map.mp hmem
      exact Option.some_ne_none _ hzes
    rw [hblank, List.replicate_zero, List.append_nil] at hperm
    have hall := LevelZero.perm_of_handles
      (List.append_subset.mpr ⟨l0.normalZes_subset, l0.found_subset⟩) hperm
    refine ⟨?_, hall⟩
    have hsum := hall.length_eq
    rw [List.length_append] at hsum
    rw [← List.dedup_eq_self]
    refine (List.dedup_sublist _).eq_of_length ?_
    rw [← List.card_toFinset]
    omega
  · rintro ⟨hnodup, hall⟩
    have hsum := hall.length_eq
    rw [List.length_append] at hsum
    have hbdfs : l0.normalBdfs.toFinset.card = l0.normalBdfs.length :=
      List.toFinset_card_of_nodup hnodup
    have hblank : l0.sysman.length - l0.normalBdfs.toFinset.card -
        (l0.sysman.filter (isNew l0 l0.normalBdfs.toFinset)).length = 0 := by
      omega
    rw [hblank, List.replicate_zero, List.append_nil]
    exact hall.map _

/-- **Apart**, if all devices are there once. -/
theorem Initialised.apart_iff (h : Initialised l0 d) (hnodup : l0.normalBdfs.Nodup)
    (hall : (l0.normalZes ++ l0.found).Perm l0.sysman) :
    (∀ slot ∈ d.svZesDevs.survDevices, ∃ zes ∈ d.sysmanDevices,
      slot.zesDevice = some zes.handle ∧ ∀ other ∈ d.sysmanDevices,
        some other.handle ∈ d.normalDevices.map Device.zesDevice → other.address ≠ zes.address) ↔
      ∀ zes ∈ l0.sysman, zes ∉ l0.normalZes → ∀ other ∈ l0.normalZes,
        other.address ≠ zes.address := by
  have hperm := h.once_iff.mpr ⟨hnodup, hall⟩
  have hnormal := h.normal.map_zesDevice
  rw [h.sysman] at hperm ⊢
  rw [hnormal] at hperm ⊢
  constructor
  · intro hslots zes hzes hsurv other hother
    have hmem : some zes.handle ∈ d.svZesDevs.survDevices.map Device.zesDevice := by
      rw [h.map_zesDevice]
      refine List.mem_append_left _ (List.mem_map_of_mem ?_)
      exact (List.mem_append.mp (hall.mem_iff.mpr hzes)).resolve_left hsurv
    obtain ⟨slot, hslot, hhandle⟩ := List.mem_map.mp hmem
    obtain ⟨zes', hzes', hhandle', hother'⟩ := hslots slot hslot
    have hsame := List.inj_on_of_nodup_map l0.nodup_sysman hzes' hzes
      (Option.some.inj (hhandle'.symm.trans hhandle))
    rw [← hsame]
    exact hother' other (l0.normalZes_subset hother) (List.mem_map_of_mem hother)
  · intro happart slot hslot
    have hmem := hperm.mem_iff.mp (List.mem_append_right _ (List.mem_map_of_mem hslot))
    obtain ⟨zes, hzes, hhandle⟩ := List.mem_map.mp hmem
    refine ⟨zes, hzes, hhandle.symm, fun other hother hknown => ?_⟩
    refine happart zes hzes (fun hnone => ?_) other
      (LevelZero.mem_of_handle_mem l0.normalZes_subset hother hknown)
    -- A normal device would be there twice.
    have htwice := (List.nodup_append.mp (hperm.nodup_iff.mpr l0.nodup_handles)).2.2
    exact htwice _ (List.mem_map_of_mem hnone) _ (List.mem_map_of_mem hslot) hhandle

/-- What the search has to see. -/
theorem LevelZero.perm_iff (l0 : LevelZero) (hnodup : l0.normalBdfs.Nodup) :
    (l0.normalZes ++ l0.found).Perm l0.sysman ↔ l0.normalZes.Nodup ∧
      (∀ zes ∈ l0.sysman, zes ∉ l0.normalZes → searchedBdf l0 zes ∉ l0.normalBdfs) ∧
        l0.sysman.Pairwise fun earlier later => later ∉ l0.normalZes → earlier ∈ l0.normalZes →
          searchedBdf l0 earlier ∈ l0.normalBdfs := by
  have hnew (zes : ZesDevice) :
      isNew l0 l0.normalBdfs.toFinset zes = true ↔ searchedBdf l0 zes ∉ l0.normalBdfs := by
    rw [isNew, decide_eq_true_eq, List.mem_toFinset]
  have hold (zes : ZesDevice) :
      isNew l0 l0.normalBdfs.toFinset zes = false ↔ searchedBdf l0 zes ∈ l0.normalBdfs := by
    rw [← Bool.not_eq_true, hnew, not_not]
  by_cases hle : l0.normalZes.length ≤ l0.sysman.length
  · have hcard : l0.normalBdfs.toFinset.card = l0.normalZes.length :=
      (List.toFinset_card_of_nodup hnodup).trans l0.length_normalBdfs
    rw [LevelZero.found, hcard, Completion.append_take_filter_perm_iff l0.nodup_zes
      l0.normalZes_subset (Nat.sub_add_cancel hle)]
    simp only [hnew, hold]
  · refine iff_of_false (fun hperm => hle ?_) fun hsees => hle ?_
    · have hlength := hperm.length_eq
      rw [List.length_append] at hlength
      omega
    · exact (hsees.1.subperm l0.normalZes_subset).length_le

/-- **When every device is represented.** After an initialisation that returns success: exactly if the
answers tell the families apart. -/
theorem init_represents_iff (l0 : LevelZero) (d : Driver)
    (h : ({} : Driver).init l0 = (.ret .success, d)) : Represents d ↔ TellsApart l0 := by
  have hinit := initialised_of_init h
  constructor
  · intro hd
    obtain ⟨hnodup, hall⟩ := hinit.once_iff.mp hd.once
    obtain ⟨hdevices, hnew, hknown⟩ := (l0.perm_iff hnodup).mp hall
    exact ⟨hdevices, hnodup, hnew, hknown, (hinit.apart_iff hnodup hall).mp hd.apart⟩
  · intro htells
    have hall := (l0.perm_iff htells.addresses).mpr ⟨htells.devices, htells.new, htells.known⟩
    exact ⟨hinit.once_iff.mpr ⟨htells.addresses, hall⟩,
      (hinit.apart_iff htells.addresses hall).mpr htells.apart⟩

/-- Two devices of sysman, the first of which the core interface knows too. The search may not be able
to read its address. -/
def twoDevices (readable : Bool) : LevelZero :=
  { oneDevice .success with
    zesDevices :=
      { countResult := .success
        count := 2
        fillResult := .success
        items := [⟨100, [1], { bus := 0x4d }⟩, ⟨101, [2], { bus := 0x4e }⟩]
        fits := Nat.le_refl 2
        leftCount := 2 }
    nodup := by decide
    pciProperties := fun zes => readable || zes == 101 }

/-- Both addresses can be read: one device is normal, and the other one is in survivability mode. -/
theorem init_represents_iff_sample : Represents (({} : Driver).init (twoDevices true)).2 ∧
    (({} : Driver).init (twoDevices true)).2.svZesDevs.survDevices.map Device.zesDevice =
      [some 101] :=
  ⟨(init_represents_iff (twoDevices true) _ (Prod.ext (by decide) rfl)).mpr
    ⟨by decide, by decide, by decide, by decide, by decide⟩, by decide⟩

end Families

/-! ## An address that cannot be read -/

/-- The normal device is taken for the one in survivability mode, which is nowhere. -/
theorem init_not_represents : ¬∀ (l0 : LevelZero) (d : Driver),
    ({} : Driver).init l0 = (.ret .success, d) → Represents d := by
  intro h
  have hinit : (({} : Driver).init (twoDevices false)).1 = .ret .success := by decide
  have hd := (h _ _ (Prod.ext hinit rfl)).once
  have htwice : ¬((({} : Driver).init (twoDevices false)).2.normalDevices.map Device.zesDevice ++
      (({} : Driver).init (twoDevices false)).2.svZesDevs.survDevices.map Device.zesDevice).Nodup := by
    decide
  refine htwice (hd.nodup_iff.mpr ?_)
  decide

end XpuManager
