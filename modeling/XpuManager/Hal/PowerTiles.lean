import XpuManager.Hal.Driver
import XpuManager.Ial.MetricCache
import XpuManager.Lib.Orders

/-! # The energy of each tile

Power domains belong to the device or to one of its tiles, and are of different kinds
(`hal/core/power.cpp`). -/

namespace XpuManager

namespace Power

open LastWrite

/-! ## The driver -/

structure PowerProperties where
  onSubdevice : Bool
  subdeviceId : UInt32
  domain : PowerDomain

/-- What the driver answers for a power domain. -/
structure PwrHandle where
  properties : Except ZeError PowerProperties
  energyCounter : Except ZeError EnergySnapshot

abbrev TileEnergy := UInt32 → Option EnergySnapshot

/-- What the first pass writes for a domain: the energy of a sub-device. -/
def subdeviceEnergy (handle : PwrHandle) : Option (UInt32 × EnergySnapshot) :=
  match handle.properties, handle.energyCounter with
  | .ok properties, .ok energy =>
    if properties.onSubdevice then some (properties.subdeviceId, energy) else none
  | _, _ => none

/-- What the second pass takes for tile 0. -/
def deviceEnergy (handle : PwrHandle) : Option EnergySnapshot :=
  match handle.properties, handle.energyCounter with
  | .ok properties, .ok energy =>
    if properties.domain = .card ∨ properties.domain = .package ∨ properties.domain = .gpu then
      some energy
    else none
  | _, _ => none

/-- The second pass is only made if the first one has found nothing, and ends with the first domain that
can be read. -/
def getEnergyPerTile (handles : List PwrHandle) : ZeResult × TileEnergy :=
  let writes := handles.filterMap subdeviceEnergy
  (.success,
    if writes ≠ [] then lastWrites (fun _ => none) writes
    else Function.update (fun _ => none) 0 (handles.findSome? deviceEnergy))

/-! ## What an entry should be -/

/-- A domain that can be read. -/
structure PowerReading where
  properties : PowerProperties
  energy : EnergySnapshot

namespace PowerReading

def handle (reading : PowerReading) : PwrHandle := ⟨.ok reading.properties, .ok reading.energy⟩

/-- A domain of a tile. -/
def OnTile (t : UInt32) (reading : PowerReading) : Prop :=
  reading.properties.onSubdevice ∧ reading.properties.subdeviceId = t

/-- A domain whose energy can stand for the device. -/
def ForDevice (reading : PowerReading) : Prop :=
  reading.properties.domain = .card ∨ reading.properties.domain = .package ∨
    reading.properties.domain = .gpu

/-- Card and package come before the GPU. -/
def Preferred (readings : List PowerReading) (reading : PowerReading) : Prop :=
  reading.properties.domain = .card ∨ reading.properties.domain = .package ∨
    reading.properties.domain = .gpu ∧
      ∀ other ∈ readings, other.properties.domain ≠ .card ∧ other.properties.domain ≠ .package

end PowerReading

/-- The entries are right for some domains. -/
structure EnergyRight (readings : List PowerReading) (tileEnergy : TileEnergy) : Prop where
  /-- With domains of tiles, an entry is the energy of all domains of one kind of its tile. -/
  tile : (∃ reading ∈ readings, reading.properties.onSubdevice) →
    ∀ t energy, tileEnergy t = some energy → ∃ reading ∈ readings, reading.OnTile t ∧
      ∀ other ∈ readings, other.OnTile t →
        other.properties.domain = reading.properties.domain → other.energy = energy
  /-- A tile with a domain has an entry. -/
  entry : ∀ reading ∈ readings, ∀ t, reading.OnTile t → (tileEnergy t).isSome
  /-- Without any, there is an entry for tile 0 only: that of a preferred domain. -/
  device : (∀ reading ∈ readings, ¬reading.properties.onSubdevice) →
    (∀ t ≠ 0, tileEnergy t = none) ∧
      (∀ energy, tileEnergy 0 = some energy →
        ∃ reading ∈ readings, reading.energy = energy ∧ reading.Preferred readings) ∧
      (tileEnergy 0 = none → ∀ reading ∈ readings, ¬reading.ForDevice)

/-! ## Any order -/

section

variable {readings : List PowerReading}

/-- What a domain writes in the first pass. -/
def PowerReading.tileWrite (reading : PowerReading) : Option (UInt32 × EnergySnapshot) :=
  if reading.properties.onSubdevice then some (reading.properties.subdeviceId, reading.energy) else none

instance (reading : PowerReading) : Decidable reading.ForDevice :=
  inferInstanceAs (Decidable (_ ∨ _ ∨ _))

/-- What a domain has for tile 0 in the second pass. -/
def PowerReading.deviceWrite (reading : PowerReading) : Option EnergySnapshot :=
  if reading.ForDevice then some reading.energy else none

theorem tileWrite_eq_some_iff {reading : PowerReading} {t : UInt32} {energy : EnergySnapshot} :
    reading.tileWrite = some (t, energy) ↔ reading.OnTile t ∧ reading.energy = energy := by
  rw [PowerReading.tileWrite, PowerReading.OnTile]
  split_ifs with hsub
  · simp [hsub]
  · simp [hsub]

theorem deviceWrite_eq_some_iff {reading : PowerReading} {energy : EnergySnapshot} :
    reading.deviceWrite = some energy ↔ reading.ForDevice ∧ reading.energy = energy := by
  rw [PowerReading.deviceWrite]
  split_ifs with hdevice <;> simp [hdevice]

theorem getEnergyPerTile_eq (readings : List PowerReading) :
    getEnergyPerTile (readings.map PowerReading.handle) = (.success,
      if readings.filterMap PowerReading.tileWrite ≠ [] then
        lastWrites (fun _ => none) (readings.filterMap PowerReading.tileWrite)
      else Function.update (fun _ => none) 0 (readings.findSome? PowerReading.deviceWrite)) := by
  rw [getEnergyPerTile, List.filterMap_map, List.findSome?_map]
  rfl

theorem tileWrites_ne_nil_iff : readings.filterMap PowerReading.tileWrite ≠ [] ↔
    ∃ reading ∈ readings, reading.properties.onSubdevice := by
  rw [Ne, List.filterMap_eq_nil_iff]
  simp [PowerReading.tileWrite]

theorem getEnergyPerTile_of_tile (h : ∃ reading ∈ readings, reading.properties.onSubdevice) :
    getEnergyPerTile (readings.map PowerReading.handle) =
      (.success, lastWrites (fun _ => none) (readings.filterMap PowerReading.tileWrite)) := by
  rw [getEnergyPerTile_eq, if_pos (tileWrites_ne_nil_iff.mpr h)]

theorem getEnergyPerTile_of_device (h : ∀ reading ∈ readings, ¬reading.properties.onSubdevice) :
    getEnergyPerTile (readings.map PowerReading.handle) =
      (.success, Function.update (fun _ => none) 0 (readings.findSome? PowerReading.deviceWrite)) := by
  rw [getEnergyPerTile_eq, if_neg]
  rw [tileWrites_ne_nil_iff]
  rintro ⟨reading, hmem, hsub⟩
  exact h reading hmem hsub

/-- With domains of tiles: what is written is right if those of a tile have the same energy. -/
theorem energyRight_of_tile (hsub : ∃ reading ∈ readings, reading.properties.onSubdevice)
    (h : ∀ a ∈ readings, ∀ b ∈ readings, ∀ t, a.OnTile t → b.OnTile t → a.energy = b.energy) :
    EnergyRight readings (lastWrites (fun _ => none) (readings.filterMap PowerReading.tileWrite)) where
  tile := by
    intro _ t energy hentry
    obtain ⟨reading, hmem, hwrite⟩ :=
      List.mem_filterMap.mp ((mem_of_lastWrites hentry).resolve_left nofun)
    obtain ⟨hon, rfl⟩ := tileWrite_eq_some_iff.mp hwrite
    exact ⟨reading, hmem, hon, fun other hother hon' _ => h other hother reading hmem t hon' hon⟩
  entry := by
    intro reading hmem t hon
    have hwrite := tileWrite_eq_some_iff.mpr ⟨hon, rfl⟩
    exact Option.isSome_iff_exists.mpr
      (exists_lastWrites (List.mem_filterMap.mpr ⟨reading, hmem, hwrite⟩))
  device := by
    intro hnone
    obtain ⟨reading, hmem, hon⟩ := hsub
    exact absurd hon (hnone reading hmem)

/-- Without any: the energy that is found first is that of a preferred domain. -/
theorem energyRight_of_device (hnone : ∀ reading ∈ readings, ¬reading.properties.onSubdevice)
    (h : ∀ a ∈ readings, ∀ b ∈ readings, a.ForDevice → b.ForDevice → a.energy = b.energy) :
    EnergyRight readings
      (Function.update (fun _ => none) 0 (readings.findSome? PowerReading.deviceWrite)) where
  tile := by
    rintro ⟨reading, hmem, hon⟩
    exact absurd hon (hnone reading hmem)
  entry := fun reading hmem t hon => absurd hon.1 (hnone reading hmem)
  device := by
    intro _
    rw [Function.update_self]
    refine ⟨fun t ht => Function.update_of_ne ht _ _, fun energy hentry => ?_,
      fun hentry reading hmem => ?_⟩
    · obtain ⟨reading, hmem, hwrite⟩ := List.exists_of_findSome?_eq_some hentry
      obtain ⟨hdevice, rfl⟩ := deviceWrite_eq_some_iff.mp hwrite
      by_cases hcard : ∃ other ∈ readings,
          other.properties.domain = .card ∨ other.properties.domain = .package
      · obtain ⟨other, hother, hkind⟩ := hcard
        have hdevice' : other.ForDevice := hkind.elim .inl fun hpackage => .inr (.inl hpackage)
        exact ⟨other, hother, h other hother reading hmem hdevice' hdevice,
          hkind.elim .inl fun hpackage => .inr (.inl hpackage)⟩
      · refine ⟨reading, hmem, rfl, hdevice.imp_right (Or.imp_right fun hgpu => ⟨hgpu, ?_⟩)⟩
        exact fun other hother => not_or.mp fun hkind => hcard ⟨other, hother, hkind⟩
    · intro hdevice
      have hwrite := deviceWrite_eq_some_iff.mpr ⟨hdevice, rfl⟩
      rw [List.findSome?_eq_none_iff.mp hentry reading hmem] at hwrite
      cases hwrite

/-- With domains of tiles, the order does not matter exactly if those of a tile have the same energy. -/
theorem perm_iff_of_tile (hsub : ∃ reading ∈ readings, reading.properties.onSubdevice) :
    (∀ readings' : List PowerReading, readings'.Perm readings →
        getEnergyPerTile (readings'.map PowerReading.handle) =
          getEnergyPerTile (readings.map PowerReading.handle)) ↔
      ∀ a ∈ readings, ∀ b ∈ readings, ∀ t, a.OnTile t → b.OnTile t → a.energy = b.energy := by
  have hslots : (∀ readings' : List PowerReading, readings'.Perm readings →
      getEnergyPerTile (readings'.map PowerReading.handle) =
        getEnergyPerTile (readings.map PowerReading.handle)) ↔
      ∀ t, ∀ readings' : List PowerReading, readings'.Perm readings →
        lastWrites (fun _ => none) (readings'.filterMap PowerReading.tileWrite) t =
          lastWrites (fun _ => none) (readings.filterMap PowerReading.tileWrite) t := by
    rw [forall_comm]
    refine forall_congr' fun readings' => ?_
    rw [forall_comm]
    refine forall_congr' fun hperm => ?_
    have hsub' : ∃ reading ∈ readings', reading.properties.onSubdevice := by
      simpa only [hperm.mem_iff] using hsub
    rw [getEnergyPerTile_of_tile hsub, getEnergyPerTile_of_tile hsub', Prod.mk.injEq, funext_iff]
    exact and_iff_right rfl
  rw [hslots]
  simp only [Orders.lastWrites_perm_iff, tileWrite_eq_some_iff]
  constructor
  · exact fun h a ha b hb t hon hon' => h t a ha b hb _ _ ⟨hon, rfl⟩ ⟨hon', rfl⟩
  · rintro h t a ha b hb _ _ ⟨hon, rfl⟩ ⟨hon', rfl⟩
    exact h a ha b hb t hon hon'

/-- Without any, the order does not matter exactly if those for the device have the same energy. -/
theorem perm_iff_of_device (hnone : ∀ reading ∈ readings, ¬reading.properties.onSubdevice) :
    (∀ readings' : List PowerReading, readings'.Perm readings →
        getEnergyPerTile (readings'.map PowerReading.handle) =
          getEnergyPerTile (readings.map PowerReading.handle)) ↔
      ∀ a ∈ readings, ∀ b ∈ readings, a.ForDevice → b.ForDevice → a.energy = b.energy := by
  have hfound : (∀ readings' : List PowerReading, readings'.Perm readings →
      getEnergyPerTile (readings'.map PowerReading.handle) =
        getEnergyPerTile (readings.map PowerReading.handle)) ↔
      ∀ readings' : List PowerReading, readings'.Perm readings →
        readings'.findSome? PowerReading.deviceWrite = readings.findSome? PowerReading.deviceWrite := by
    refine forall₂_congr fun readings' hperm => ?_
    have hnone' : ∀ reading ∈ readings', ¬reading.properties.onSubdevice := by
      simpa only [hperm.mem_iff] using hnone
    rw [getEnergyPerTile_of_device hnone, getEnergyPerTile_of_device hnone', Prod.mk.injEq]
    exact (and_iff_right rfl).trans (Function.update_injective _ _).eq_iff
  rw [hfound, Orders.findSome?_perm_iff]
  simp only [deviceWrite_eq_some_iff]
  constructor
  · exact fun h a ha b hb hdevice hdevice' => h a ha b hb _ _ ⟨hdevice, rfl⟩ ⟨hdevice', rfl⟩
  · rintro h a ha b hb _ _ ⟨hdevice, rfl⟩ ⟨hdevice', rfl⟩
    exact h a ha b hb hdevice hdevice'

/-- **When the energy of each tile is right**, in whichever order the domains come: exactly if the
domains of a tile have the same energy, and without any the domains that can stand for the device. -/
theorem getEnergyPerTile_iff (readings : List PowerReading) :
    (∃ tileEnergy, (∀ readings' : List PowerReading, readings'.Perm readings →
        getEnergyPerTile (readings'.map PowerReading.handle) = (.success, tileEnergy)) ∧
        EnergyRight readings tileEnergy) ↔
      (∀ a ∈ readings, ∀ b ∈ readings, ∀ t, a.OnTile t → b.OnTile t → a.energy = b.energy) ∧
        ((∀ reading ∈ readings, ¬reading.properties.onSubdevice) →
          ∀ a ∈ readings, ∀ b ∈ readings, a.ForDevice → b.ForDevice → a.energy = b.energy) := by
  have hsame : ∀ {tileEnergy}, (∀ readings' : List PowerReading, readings'.Perm readings →
      getEnergyPerTile (readings'.map PowerReading.handle) = (.success, tileEnergy)) →
      ∀ readings' : List PowerReading, readings'.Perm readings →
        getEnergyPerTile (readings'.map PowerReading.handle) =
          getEnergyPerTile (readings.map PowerReading.handle) :=
    fun hall readings' hperm => (hall readings' hperm).trans (hall readings (List.Perm.refl _)).symm
  by_cases hsub : ∃ reading ∈ readings, reading.properties.onSubdevice
  · constructor
    · rintro ⟨tileEnergy, hall, -⟩
      obtain ⟨reading, hmem, hon⟩ := id hsub
      exact ⟨(perm_iff_of_tile hsub).mp (hsame hall), fun hnone => absurd hon (hnone reading hmem)⟩
    · rintro ⟨h, -⟩
      exact ⟨_, fun readings' hperm => ((perm_iff_of_tile hsub).mpr h readings' hperm).trans
        (getEnergyPerTile_of_tile hsub), energyRight_of_tile hsub h⟩
  · have hnone : ∀ reading ∈ readings, ¬reading.properties.onSubdevice :=
      fun reading hmem hon => hsub ⟨reading, hmem, hon⟩
    constructor
    · rintro ⟨tileEnergy, hall, -⟩
      exact ⟨fun a ha b hb t hon => absurd hon.1 (hnone a ha),
        fun _ => (perm_iff_of_device hnone).mp (hsame hall)⟩
    · rintro ⟨-, h⟩
      exact ⟨_, fun readings' hperm => ((perm_iff_of_device hnone).mpr (h hnone) readings' hperm).trans
        (getEnergyPerTile_of_device hnone), energyRight_of_device hnone (h hnone)⟩

/-- A tile with a domain for its GPU and one for its memory. -/
def twoDomains : List PowerReading :=
  [⟨⟨true, 0, .gpu⟩, ⟨100, 1⟩⟩, ⟨⟨true, 0, .memory⟩, ⟨40, 1⟩⟩]

/-- The order decides which one the tile's energy is. -/
theorem getEnergyPerTile_twoDomains : ¬∀ readings : List PowerReading, ∃ tileEnergy,
    (∀ readings' : List PowerReading, readings'.Perm readings →
      getEnergyPerTile (readings'.map PowerReading.handle) = (.success, tileEnergy)) ∧
      EnergyRight readings tileEnergy := by
  intro h
  obtain ⟨tileEnergy, hall, -⟩ := h twoDomains
  have hfirst : tileEnergy 0 = some ⟨40, 1⟩ :=
    congrFun (Prod.mk.inj (hall twoDomains (List.Perm.refl _))).2.symm 0
  have hsecond : tileEnergy 0 = some ⟨100, 1⟩ :=
    congrFun (Prod.mk.inj (hall twoDomains.reverse (List.reverse_perm _))).2.symm 0
  rw [hfirst] at hsecond
  exact absurd hsecond (by decide)

end

end Power

end XpuManager
