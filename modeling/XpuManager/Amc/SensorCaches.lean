import Mathlib.Data.List.Nodup
import XpuManager.Amc.PdrManagerSteps

/-! # The sensor caches

The caches of sensors by unit (`hal/amc/pldm_pdr_manager.cpp`). Every address in one is that of a
stored sensor of its unit, after any public calls. -/

namespace XpuManager

open Prog

variable {ρ : Type}

/-! ## Sensors -/

/-- A numeric sensor record of full size. -/
def IsNumericSensor (record : Bytes) : Prop :=
  pdrType record = pldmNumericSensorPdr ∧ numericSensorPdrSize ≤ record.length

instance : DecidablePred IsNumericSensor := fun _ => inferInstanceAs (Decidable (_ ∧ _))

/-- A record that the cache of a unit takes. -/
def AcceptedFor (unit : UInt8) (record : Bytes) : Prop :=
  IsNumericSensor record ∧ baseUnit record = unit

instance (unit : UInt8) : DecidablePred (AcceptedFor unit) :=
  fun _ => inferInstanceAs (Decidable (_ ∧ _))

/-- The addresses in a cache are those of stored sensors of a unit, in the order of the records. -/
structure CacheOf (s : PldmObject ρ) (unit : UInt8) (cache : List PdrPtr) : Prop where
  stored : ∀ ptr ∈ cache, ptr.storage = s.storage ∧
    ∃ record, s.pldm.pf.mPdrs[ptr.index]? = some record ∧ AcceptedFor unit record
  ordered : cache.Pairwise fun ptr ptr' => ptr.index < ptr'.index

/-- All four caches are valid. -/
structure CachesValid (s : PldmObject ρ) : Prop where
  temp : CacheOf s pldmUnitDegreesC s.mTempSensors
  voltage : CacheOf s pldmUnitVolts s.mVoltageSensors
  current : CacheOf s pldmUnitCurrentAmps s.mCurrentSensors
  power : CacheOf s pldmUnitWatts s.mPowerSensors

theorem CacheOf.nil (s : PldmObject ρ) (unit : UInt8) : CacheOf s unit [] :=
  ⟨fun _ h => absurd h List.not_mem_nil, .nil⟩

/-- The addresses stay valid while the records stay where they are. -/
theorem CacheOf.congr {s t : PldmObject ρ} {unit : UInt8} {cache : List PdrPtr}
    (h : CacheOf s unit cache) (hstorage : t.storage = s.storage)
    (hpdrs : t.pldm.pf.mPdrs = s.pldm.pf.mPdrs) : CacheOf t unit cache := by
  refine ⟨fun ptr hptr => ?_, h.ordered⟩
  rw [hstorage, hpdrs]
  exact h.stored ptr hptr

/-! ## Building the caches -/

/-- The addresses of the sensors of a unit among some records with their indexes. -/
def sensorAddresses (storage : Nat) (unit : UInt8) (entries : List (Bytes × Nat)) : List PdrPtr :=
  (entries.filter fun entry => AcceptedFor unit entry.1).map fun entry => ⟨storage, entry.2⟩

/-- The object with some records added to its caches. -/
def PldmObject.cached (s : PldmObject ρ) (entries : List (Bytes × Nat)) : PldmObject ρ :=
  { s with
    mTempSensors := s.mTempSensors ++ sensorAddresses s.storage pldmUnitDegreesC entries
    mVoltageSensors := s.mVoltageSensors ++ sensorAddresses s.storage pldmUnitVolts entries
    mCurrentSensors := s.mCurrentSensors ++ sensorAddresses s.storage pldmUnitCurrentAmps entries
    mPowerSensors := s.mPowerSensors ++ sensorAddresses s.storage pldmUnitWatts entries
    sensorCasts := s.sensorCasts ++ (entries.map Prod.fst).filter IsNumericSensor }

theorem sensorAddresses_append (storage : Nat) (unit : UInt8) (entries entries' : List (Bytes × Nat)) :
    sensorAddresses storage unit (entries ++ entries') =
      sensorAddresses storage unit entries ++ sensorAddresses storage unit entries' := by
  rw [sensorAddresses, List.filter_append, List.map_append]
  rfl

theorem PldmObject.cached_append (s : PldmObject ρ) (entries entries' : List (Bytes × Nat)) :
    (s.cached entries).cached entries' = s.cached (entries ++ entries') := by
  simp only [cached, sensorAddresses_append, List.map_append, List.filter_append, List.append_assoc]

theorem sensorAddresses_singleton (storage : Nat) (unit : UInt8) (entry : Bytes × Nat) :
    sensorAddresses storage unit [entry] =
      if AcceptedFor unit entry.1 then [⟨storage, entry.2⟩] else [] := by
  rw [sensorAddresses, List.filter_singleton]
  by_cases h : AcceptedFor unit entry.1 <;> simp [h]

/-- One turn of the loop, whatever the record is. -/
theorem cacheSensor_eq (s : PldmObject ρ) (entry : Bytes × Nat) :
    cacheSensor s entry = s.cached [entry] := by
  unfold cacheSensor PldmObject.cached
  simp only [sensorAddresses_singleton, AcceptedFor, IsNumericSensor, List.map_cons, List.map_nil,
    List.filter_singleton]
  by_cases htype : pdrType entry.1 = pldmNumericSensorPdr
  case neg => simp [htype]
  by_cases hsize : numericSensorPdrSize ≤ entry.1.length
  case neg => simp [htype, hsize, Nat.lt_of_not_le hsize]
  rw [if_neg (not_not.mpr htype), if_neg (Nat.not_lt.mpr hsize)]
  simp only [htype, hsize, true_and]
  by_cases htemp : baseUnit entry.1 = pldmUnitDegreesC
  · simp +decide [htemp]
  by_cases hvolt : baseUnit entry.1 = pldmUnitVolts
  · simp +decide [hvolt]
  by_cases hcurrent : baseUnit entry.1 = pldmUnitCurrentAmps
  · simp +decide [hcurrent]
  by_cases hpower : baseUnit entry.1 = pldmUnitWatts
  · simp +decide [hpower]
  · simp [htemp, hvolt, hcurrent, hpower]

/-- **The caches that are built.** -/
theorem buildSensorCache_apply (s : PldmObject ρ) :
    buildSensorCache s = (.ret (), s.withoutCaches.cached s.pldm.pf.mPdrs.zipIdx) := by
  have hfold (entries : List (Bytes × Nat)) (u : PldmObject ρ) :
      entries.foldl cacheSensor u = u.cached entries := by
    induction entries generalizing u with
    | nil => simp [PldmObject.cached, sensorAddresses]
    | cons entry entries ih =>
      rw [List.foldl_cons, ih, cacheSensor_eq, PldmObject.cached_append, List.singleton_append]
  rw [buildSensorCache, modify_apply, hfold]

/-- The addresses of the stored sensors of a unit are valid. -/
theorem cacheOf_sensorAddresses (s : PldmObject ρ) (unit : UInt8) :
    CacheOf s unit (sensorAddresses s.storage unit s.pldm.pf.mPdrs.zipIdx) := by
  constructor
  · intro ptr hptr
    obtain ⟨entry, hentry, rfl⟩ := List.mem_map.mp hptr
    obtain ⟨hmem, haccept⟩ := List.mem_filter.mp hentry
    exact ⟨rfl, entry.1, List.mem_zipIdx_iff_getElem?.mp hmem, of_decide_eq_true haccept⟩
  · refine List.pairwise_map.mpr (List.Pairwise.filter _ ?_)
    have hindexes : (s.pldm.pf.mPdrs.zipIdx.map Prod.snd).Pairwise (· < ·) := by
      rw [List.zipIdx_map_snd]
      exact List.pairwise_lt_range'
    exact List.pairwise_map.mp hindexes

/-! ## What keeps the caches valid -/

/-- Valid caches stay valid. -/
def KeepsValid (s t : PldmObject ρ) : Prop := CachesValid s → CachesValid t

instance : Std.Refl (KeepsValid (ρ := ρ)) := ⟨fun _ h => h⟩

instance : IsTrans (PldmObject ρ) KeepsValid := ⟨fun _ _ _ h h' hs => h' (h hs)⟩

/-- The caches are empty. -/
structure NoCaches (s : PldmObject ρ) : Prop where
  temp : s.mTempSensors = []
  voltage : s.mVoltageSensors = []
  current : s.mCurrentSensors = []
  power : s.mPowerSensors = []

theorem NoCaches.valid {s : PldmObject ρ} (h : NoCaches s) : CachesValid s := by
  constructor
  · rw [h.temp]
    exact .nil _ _
  · rw [h.voltage]
    exact .nil _ _
  · rw [h.current]
    exact .nil _ _
  · rw [h.power]
    exact .nil _ _

theorem PldmOnly.keepsValid {s t : PldmObject ρ} (h : PldmOnly s t) : KeepsValid s t := by
  obtain ⟨p, hp, rfl⟩ := h
  exact fun hs => ⟨hs.temp.congr rfl hp, hs.voltage.congr rfl hp, hs.current.congr rfl hp,
    hs.power.congr rfl hp⟩

theorem keepsValid_onPldm {α : Type} {m : Prog Pldm α} (h : Within KeepsPdrs m) :
    Within (KeepsValid (ρ := ρ)) (onPldm m) :=
  (pldmOnly_onPldm h).mono fun _ _ => PldmOnly.keepsValid

theorem keepsValid_castSensor (record : Bytes) :
    Within (KeepsValid (ρ := ρ)) (castSensor record) :=
  fun _ hs => ⟨hs.temp.congr rfl rfl, hs.voltage.congr rfl rfl, hs.current.congr rfl rfl,
    hs.power.congr rfl rfl⟩

/-- A reading moves no entry of the caches. -/
theorem keepsValid_pfGetSensorValue (arith : DoubleArith ρ) (fuel : Nat) (sensor : Bytes) :
    Within KeepsValid (pfGetSensorValue arith fuel sensor) := by
  intro s hs
  obtain ⟨p, infos, hp, ht, -⟩ := pfGetSensorValue_took arith fuel sensor s
  rw [ht]
  exact ⟨hs.temp.congr rfl hp, hs.voltage.congr rfl hp, hs.current.congr rfl hp,
    hs.power.congr rfl hp⟩

theorem keepsValid_pfGetSensorValuesById (arith : DoubleArith ρ) (fuel : Nat) (sensorId : UInt16) :
    Within KeepsValid (pfGetSensorValuesById arith fuel sensorId) := by
  refine Within.bind Within.get fun s => Within.bind (Within.forEach (fun record _ => ?_) _ _)
    fun ret => ?_
  · refine Within.bind (keepsValid_castSensor record) fun _ => Within.bind ?_ fun id =>
      Within.ite (Within.pure _)
        (Within.bind (keepsValid_pfGetSensorValue arith fuel record) fun _ => Within.pure _)
    exact (pldmOnly_readField record 12 2).mono fun _ _ => PldmOnly.keepsValid
  · cases ret <;> exact Within.pure _

/-- Reading the sensors of a unit does what looking at a record and reading its sensor do. -/
theorem within_pfGetSensorValuesByUnit {R : PldmObject ρ → PldmObject ρ → Prop} [Std.Refl R]
    [IsTrans (PldmObject ρ) R] {arith : DoubleArith ρ} {fuel : Nat}
    (hcast : ∀ record, Within R (castSensor record))
    (hread : ∀ record, Within R (pfGetSensorValue arith fuel record)) (unit : UInt8) :
    Within R (pfGetSensorValuesByUnit arith fuel unit) := by
  refine Within.bind Within.get fun s => Within.ite (Within.pure _)
    (Within.bind (Within.forEach (fun ptr _ => ?_) _ _) fun ret => ?_)
  · exact Within.bind (Within.of_state_eq fun s => followPtr_apply ptr s) fun record =>
      Within.bind (hcast record) fun _ => Within.bind (hread record) fun _ => Within.pure _
  · cases ret <;> exact Within.pure _

theorem keepsValid_pfGetSensorValuesByUnit (arith : DoubleArith ρ) (fuel : Nat) (unit : UInt8) :
    Within KeepsValid (pfGetSensorValuesByUnit arith fuel unit) :=
  within_pfGetSensorValuesByUnit keepsValid_castSensor (keepsValid_pfGetSensorValue arith fuel) unit

/-- The caches are emptied before any record is dropped or received. -/
theorem keepsValid_pfGetTotalPdrs (fuel : Nat) :
    Within (KeepsValid (ρ := ρ)) (PldmObject.pfGetTotalPdrs fuel) := by
  have hnone {α : Type} (m : Prog Pldm α) :
      Within (fun s t : PldmObject ρ => NoCaches s → NoCaches t) (onPldm m) :=
    fun s hs => ⟨hs.temp, hs.voltage, hs.current, hs.power⟩
  intro s _
  refine NoCaches.valid ?_
  have hclear : pdrManagerClear s = (.ret (), (onPldm clearPdrs s).2.withoutCaches) := rfl
  rw [PldmObject.pfGetTotalPdrs, bind_of_ret hclear]
  exact hnone _ _ ⟨rfl, rfl, rfl, rfl⟩

theorem keepsValid_pfMonCtrlInitialize (fuel : Nat) :
    Within (KeepsValid (ρ := ρ)) (PldmObject.pfMonCtrlInitialize fuel) :=
  Within.bind (keepsValid_onPldm (keepsPdrs_pfGetPdrRepositoryInfo fuel)) fun _ =>
    Within.ite (keepsValid_pfGetTotalPdrs fuel) (Within.pure _)

/-- The caches are valid once built, whatever they were before. -/
theorem keepsValid_buildSensorCache : Within (KeepsValid (ρ := ρ)) buildSensorCache := by
  intro s _
  rw [buildSensorCache_apply]
  let u := s.withoutCaches.cached s.pldm.pf.mPdrs.zipIdx
  have hcache (unit : UInt8) := cacheOf_sensorAddresses u unit
  exact ⟨hcache _, hcache _, hcache _, hcache _⟩

/-! ## Runs of public calls -/

/-- A public call of a `pldm` object. -/
inductive PldmCall where
  | getSensorInfoById (fuel : Nat) (sensorId : UInt16)
  | getSensorInfoByUnit (fuel : Nat) (unit : UInt8)
  | getFile (fuel : Nat) (filePdrId : UInt16) (fileData : Bytes)

/-- The object as a call leaves it, wherever the call ends. -/
def PldmCall.run (arith : DoubleArith ρ) (s : PldmObject ρ) : PldmCall → PldmObject ρ
  | .getSensorInfoById fuel sensorId => (XpuManager.getSensorInfoById arith fuel sensorId s).2
  | .getSensorInfoByUnit fuel unit => (XpuManager.getSensorInfoByUnit arith fuel unit s).2
  | .getFile fuel filePdrId fileData => (XpuManager.getFile fuel filePdrId fileData s).2

/-- The object after some calls. -/
def PldmObject.afterCalls (arith : DoubleArith ρ) (s : PldmObject ρ) (calls : List PldmCall) :
    PldmObject ρ := calls.foldl (PldmCall.run arith) s

/-- An object before any call. -/
def PldmObject.init (ρ : Type) (p : Pldm) : PldmObject ρ where
  pldm := p
  storage := 0
  mTempSensors := []
  mVoltageSensors := []
  mCurrentSensors := []
  mPowerSensors := []
  mSensorInfoList := []
  sensorCasts := []

/-- What the parts of the public calls do, in a relation that holds from start to end of each. -/
structure PartsDo (R : PldmObject ρ → PldmObject ρ → Prop) (arith : DoubleArith ρ) : Prop where
  init : ∀ fuel, Within R (PldmObject.pfMonCtrlInitialize fuel)
  byId : ∀ fuel sensorId, Within R (pfGetSensorValuesById arith fuel sensorId)
  build : Within R buildSensorCache
  byUnit : ∀ fuel unit, Within R (pfGetSensorValuesByUnit arith fuel unit)
  dfOpen : ∀ fuel file, Within R (onPldm (pldmDfOpenCommand fuel file 0))
  receive : ∀ fuel fd, Within R (onPldm (pldmMultipartReceiveCommand fuel fd []))
  dfClose : ∀ fuel fd, Within R (onPldm (pldmDfCloseCommand fuel fd))

/-- **One call** does what its parts do, however it ends. -/
theorem PartsDo.run {R : PldmObject ρ → PldmObject ρ → Prop} [Std.Refl R]
    [IsTrans (PldmObject ρ) R] {arith : DoubleArith ρ} (h : PartsDo R arith) (call : PldmCall)
    (s : PldmObject ρ) : R s (call.run arith s) := by
  cases call with
  | getSensorInfoById fuel sensorId =>
    exact Within.bind (h.init fuel) (fun _ => Within.ite (Within.pure _)
      (Within.bind (h.byId fuel sensorId) fun _ => Within.pure _)) s
  | getSensorInfoByUnit fuel unit =>
    exact Within.bind (h.init fuel) (fun _ => Within.ite (Within.pure _)
      (Within.bind h.build fun _ => Within.bind (h.byUnit fuel unit) fun _ => Within.pure _)) s
  | getFile fuel filePdrId fileData =>
    refine Within.bind (h.init fuel) (fun _ => Within.ite (Within.pure _)
      (Within.bind Within.get fun u => ?_)) s
    cases u.getFilePdrById filePdrId with
    | none => exact Within.pure _
    | some record =>
      exact Within.bind (h.dfOpen fuel _) fun _ => Within.ite (Within.pure _)
        (Within.bind (h.receive fuel _) fun _ => Within.bind (h.dfClose fuel _) fun _ =>
          Within.pure _)

/-- The parts keep the caches valid. -/
theorem keepsValid_parts (arith : DoubleArith ρ) : PartsDo KeepsValid arith where
  init := keepsValid_pfMonCtrlInitialize
  byId := keepsValid_pfGetSensorValuesById arith
  build := keepsValid_buildSensorCache
  byUnit := keepsValid_pfGetSensorValuesByUnit arith
  dfOpen fuel file := keepsValid_onPldm (keepsPdrs_pldmDfOpenCommand fuel file 0)
  receive fuel fd := keepsValid_onPldm (keepsPdrs_pldmMultipartReceiveCommand fuel fd [])
  dfClose fuel fd := keepsValid_onPldm (keepsPdrs_pldmDfCloseCommand fuel fd)

/-- **The caches after any calls.** Every address in them is that of a stored numeric sensor of its
unit, in the order of the records and without repetition. -/
theorem sensorCaches_valid (arith : DoubleArith ρ) (p : Pldm) (calls : List PldmCall) :
    CachesValid ((PldmObject.init ρ p).afterCalls arith calls) := by
  have hinit : CachesValid (PldmObject.init ρ p) := NoCaches.valid ⟨rfl, rfl, rfl, rfl⟩
  have hrun (s : PldmObject ρ) (hs : CachesValid s) : CachesValid (s.afterCalls arith calls) := by
    unfold PldmObject.afterCalls
    induction calls generalizing s with
    | nil => exact hs
    | cons call calls ih => exact ih _ ((keepsValid_parts arith).run call s hs)
  exact hrun _ hinit

end XpuManager
