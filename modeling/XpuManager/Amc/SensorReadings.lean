import XpuManager.Amc.SensorCaches

/-! # Readings by sensor ID

What `pfGetSensorValuesById` looks at among the records of the repository, and which readings
`mSensorInfoList` holds after any calls. -/

namespace XpuManager

open Prog

variable {ρ : Type}

/-! ## Looking for a sensor -/

/-- The bytes that hold the ID of a sensor record hold this one. -/
def NamesSensor (sensorId : UInt16) (record : Bytes) : Prop := pdrField record 12 2 = sensorId.toNat

instance (sensorId : UInt16) : DecidablePred (NamesSensor sensorId) :=
  fun _ => inferInstanceAs (Decidable (_ = _))

/-- The records that are looked at: up to one that names the sensor or that has no such bytes. -/
def lookedAt (sensorId : UInt16) : List Bytes → List Bytes
  | [] => []
  | record :: records =>
    record :: if record.length < 14 ∨ NamesSensor sensorId record then []
      else lookedAt sensorId records

/-- What looking for a sensor among some records leaves behind. -/
def Looked (sensorId : UInt16) (records : List Bytes) (s : PldmObject ρ) (o : Outcome (UInt8 ⊕ Unit))
    (t : PldmObject ρ) : Prop :=
  ∃ p infos, KeepsPdrs s.pldm p ∧
    t = { s with
      pldm := p
      mSensorInfoList := s.mSensorInfoList ++ infos
      sensorCasts := s.sensorCasts ++ lookedAt sensorId records } ∧
    if o = .ret (.inl pldmSuccess) then
      ∃ info : PldmSensorInfo ρ, infos = [info] ∧ info.sensorId = sensorId
    else infos = []

/-- **Looking for a sensor.** The induction is on the records; one that is passed over leaves only
the cast behind. -/
theorem forEach_looked (arith : DoubleArith ρ) (fuel : Nat) (sensorId : UInt16)
    (records : List Bytes) (s : PldmObject ρ) :
    wp (Prog.forEach (sensorByIdTurn arith fuel sensorId) records ()) (Looked sensorId records s) s := by
  induction records generalizing s with
  | nil => exact ⟨s.pldm, [], rfl, by simp [lookedAt], by simp⟩
  | cons record records ih =>
    let u : PldmObject ρ := { s with sensorCasts := s.sensorCasts ++ [record] }
    have hturn : sensorByIdTurn arith fuel sensorId record () s =
        (readField record 12 2 >>= fun id => if id ≠ sensorId.toNat then pure (.inr ())
          else pfGetSensorValue arith fuel record >>= fun ret => pure (.inl ret)) u := rfl
    rcases readField_cases record 12 2 u with ⟨hlong, hread⟩ | ⟨hshort, hread⟩
    case inr =>
      rw [wp_of_eq (forEach_cons_of_fault (hturn.trans (bind_of_fault hread)))]
      exact ⟨s.pldm, [], rfl, by simp [lookedAt, hshort, u], by simp⟩
    rw [bind_of_ret hread, Prog.ite_apply] at hturn
    by_cases hname : NamesSensor sensorId record
    case neg =>
      rw [if_pos (show pdrField record 12 2 ≠ sensorId.toNat from hname)] at hturn
      rw [wp, forEach_cons_of_next hturn]
      obtain ⟨p, infos, hp, ht, hinfos⟩ := ih u
      refine ⟨p, infos, hp, ht.trans ?_, hinfos⟩
      simp [lookedAt, Nat.not_lt.mpr hlong, hname, u]
    have hlooked : lookedAt sensorId (record :: records) = [record] := by simp [lookedAt, hname]
    rw [if_neg (not_not.mpr (show pdrField record 12 2 = sensorId.toNat from hname))] at hturn
    obtain ⟨p, infos, hp, ht, hinfos⟩ := pfGetSensorValue_took arith fuel record u
    -- a reading of this record is one of the sensor
    have hid : UInt16.ofNat (pdrField record 12 2) = sensorId := by
      rw [show pdrField record 12 2 = sensorId.toNat from hname, UInt16.ofNat_toNat]
    rcases hvalue : pfGetSensorValue arith fuel record u with ⟨ret | _ | _, t⟩
    · rw [hvalue] at ht hinfos
      rw [wp_of_eq (forEach_cons_of_leave (hturn.trans (bind_of_ret hvalue)))]
      refine ⟨p, infos, hp, by rw [hlooked]; exact ht, ?_⟩
      rw [hid] at hinfos
      simpa using hinfos
    · rw [hvalue] at ht hinfos
      rw [wp_of_eq (forEach_cons_of_fault (hturn.trans (bind_of_fault hvalue)))]
      exact ⟨p, infos, hp, by rw [hlooked]; exact ht, by simpa using hinfos⟩
    · rw [hvalue] at ht hinfos
      rw [wp_of_eq (forEach_cons_of_cut (hturn.trans (bind_of_cut hvalue)))]
      exact ⟨p, infos, hp, by rw [hlooked]; exact ht, by simpa using hinfos⟩

/-- What `pfGetSensorValuesById` leaves behind. -/
def ReadById (sensorId : UInt16) (s : PldmObject ρ) (o : Outcome UInt8) (t : PldmObject ρ) : Prop :=
  ∃ p infos, KeepsPdrs s.pldm p ∧
    t = { s with
      pldm := p
      mSensorInfoList := s.mSensorInfoList ++ infos
      sensorCasts := s.sensorCasts ++ lookedAt sensorId s.pldm.pf.mPdrs } ∧
    if o = .ret pldmSuccess then
      ∃ info : PldmSensorInfo ρ, infos = [info] ∧ info.sensorId = sensorId
    else infos = []

theorem pfGetSensorValuesById_read (arith : DoubleArith ρ) (fuel : Nat) (sensorId : UInt16)
    (s : PldmObject ρ) : wp (pfGetSensorValuesById arith fuel sensorId) (ReadById sensorId s) s := by
  have herror : Outcome.ret pldmError ≠ .ret pldmSuccess := by decide
  rw [pfGetSensorValuesById, wp_get_bind]
  refine wp_bind_of (forEach_looked arith fuel sensorId s.pldm.pf.mPdrs s) ?_ ?_ ?_
  · rintro (ret | u) t ⟨p, infos, hp, ht, hinfos⟩
    · exact ⟨p, infos, hp, ht, by simpa using hinfos⟩
    · rw [if_neg (by simp)] at hinfos
      exact ⟨p, infos, hp, ht, (if_neg herror).mpr hinfos⟩
  · rintro t ⟨p, infos, hp, ht, hinfos⟩
    exact ⟨p, infos, hp, ht, by simpa using hinfos⟩
  · rintro t ⟨p, infos, hp, ht, hinfos⟩
    exact ⟨p, infos, hp, ht, by simpa using hinfos⟩

/-! ## Looking at sensors only -/

/-- The records up to the first one that names a sensor. -/
def upToSensor (sensorId : UInt16) : List Bytes → List Bytes
  | [] => []
  | record :: records =>
    record :: if NamesSensor sensorId record then [] else upToSensor sensorId records

/-- The record that is taken for the sensor. -/
def PldmObject.sensorRecord (s : PldmObject ρ) (sensorId : UInt16) : Option Bytes :=
  s.pldm.pf.mPdrs.find? fun record => NamesSensor sensorId record

/-- `pfGetSensorValuesById` takes a numeric sensor of full size for the sensor, as the caches do, and
reads only such records as sensors. -/
structure LooksAtSensors (arith : DoubleArith ρ) (fuel : Nat) (sensorId : UInt16)
    (s : PldmObject ρ) : Prop where
  chosen : ∀ record, s.sensorRecord sensorId = some record → IsNumericSensor record
  casts : ∃ casts, (pfGetSensorValuesById arith fuel sensorId s).2.sensorCasts = s.sensorCasts ++ casts ∧
    ∀ record ∈ casts, IsNumericSensor record

theorem IsNumericSensor.not_short {record : Bytes} (h : IsNumericSensor record) :
    ¬record.length < 14 := by
  have hsize : 105 ≤ record.length := h.2
  omega

/-- A record without a sensor ID is no sensor, so it does not matter that the search ends there. -/
theorem forall_lookedAt_iff (sensorId : UInt16) (records : List Bytes) :
    (∀ record ∈ lookedAt sensorId records, IsNumericSensor record) ↔
      ∀ record ∈ upToSensor sensorId records, IsNumericSensor record := by
  induction records with
  | nil => rfl
  | cons record records ih =>
    rw [lookedAt, upToSensor, List.forall_mem_cons, List.forall_mem_cons]
    refine and_congr_right fun hsensor => ?_
    by_cases hname : NamesSensor sensorId record
    · rw [if_pos (.inr hname), if_pos hname]
    · rw [if_neg (not_or.mpr ⟨hsensor.not_short, hname⟩), if_neg hname, ih]

/-- The record that is taken for the sensor is the last one of these. -/
theorem mem_upToSensor_of_find {sensorId : UInt16} {records : List Bytes} {record : Bytes}
    (h : (records.find? fun record => NamesSensor sensorId record) = some record) :
    record ∈ upToSensor sensorId records := by
  induction records with
  | nil => cases h
  | cons first records ih =>
    rw [upToSensor, List.mem_cons]
    rw [List.find?_cons] at h
    by_cases hname : NamesSensor sensorId first
    · rw [decide_eq_true hname] at h
      exact .inl (Option.some.inj h).symm
    · rw [decide_eq_false hname] at h
      rw [if_neg hname]
      exact .inr (ih h)

/-- **Which lookups read only sensors as sensors.** Those where every record up to the one that names
the sensor, or every record at all, is a numeric sensor of full size. -/
theorem pfGetSensorValuesById_sensors_iff (arith : DoubleArith ρ) (fuel : Nat) (sensorId : UInt16)
    (s : PldmObject ρ) : LooksAtSensors arith fuel sensorId s ↔
      ∀ record ∈ upToSensor sensorId s.pldm.pf.mPdrs, IsNumericSensor record := by
  obtain ⟨p, infos, -, ht, -⟩ := pfGetSensorValuesById_read arith fuel sensorId s
  constructor
  · rintro ⟨-, casts, hcasts, hsensors⟩
    rw [ht] at hcasts
    obtain rfl := List.append_cancel_left hcasts
    exact (forall_lookedAt_iff _ _).mp hsensors
  · intro h
    refine ⟨fun record hrecord => h record (mem_upToSensor_of_find hrecord), ?_⟩
    exact ⟨lookedAt sensorId s.pldm.pf.mPdrs, by rw [ht], (forall_lookedAt_iff _ _).mpr h⟩

/-- The record of a file with the identifier 5. -/
def fileRecord : Bytes :=
  [1, 0, 0, 0, 1, pldmFileDescriptorPdr, 0, 0, 26, 0, 1, 0, 5, 0] ++ List.replicate 22 0

/-- The arithmetic of integers. -/
def intArith : DoubleArith Int where
  ofInt := id
  ofFloat := fun bits => bits.toNat
  add := fun a b => a + b
  mul := fun a b => a * b
  pow10 := fun n => 10 ^ n.toNat

/-- The record of a file is taken for the sensor whose ID is the identifier of the file. -/
theorem pfGetSensorValuesById_takes_file : ¬LooksAtSensors intArith 1 5 (PldmObject.init Int
    { (default : Pldm) with pf := { (default : PlatformState) with mPdrs := [fileRecord] } }) := by
  intro h
  have hchosen := h.chosen fileRecord (by decide)
  exact absurd hchosen.1 (by decide)

/-! ## The list of readings -/

/-- Readings are only added. -/
def AddsReadings (s t : PldmObject ρ) : Prop :=
  ∃ infos, t.mSensorInfoList = s.mSensorInfoList ++ infos

instance : Std.Refl (AddsReadings (ρ := ρ)) := ⟨fun _ => ⟨[], (List.append_nil _).symm⟩⟩

instance : IsTrans (PldmObject ρ) AddsReadings where
  trans := by
    rintro s t u ⟨infos, ht⟩ ⟨infos', hu⟩
    exact ⟨infos ++ infos', by rw [hu, ht, List.append_assoc]⟩

/-- The readings that were added. -/
def PldmObject.readingsSince (s t : PldmObject ρ) : List (PldmSensorInfo ρ) :=
  t.mSensorInfoList.drop s.mSensorInfoList.length

theorem AddsReadings.eq {s t : PldmObject ρ} (h : AddsReadings s t) :
    t.mSensorInfoList = s.mSensorInfoList ++ s.readingsSince t := by
  obtain ⟨infos, ht⟩ := h
  rw [PldmObject.readingsSince, ht, List.drop_left]

/-- The list stays as it is. -/
def KeepsReadings (s t : PldmObject ρ) : Prop := t.mSensorInfoList = s.mSensorInfoList

instance : Std.Refl (KeepsReadings (ρ := ρ)) := ⟨fun _ => rfl⟩

instance : IsTrans (PldmObject ρ) KeepsReadings := ⟨fun _ _ _ h h' => h'.trans h⟩

theorem KeepsReadings.adds {s t : PldmObject ρ} (h : KeepsReadings s t) : AddsReadings s t :=
  ⟨[], by rw [List.append_nil]; exact h⟩

theorem keepsReadings_onPldm {α : Type} (m : Prog Pldm α) :
    Within (KeepsReadings (ρ := ρ)) (onPldm m) := fun _ => rfl

theorem keepsReadings_pfMonCtrlInitialize (fuel : Nat) :
    Within (KeepsReadings (ρ := ρ)) (PldmObject.pfMonCtrlInitialize fuel) := by
  have hclear : Within (KeepsReadings (ρ := ρ)) pdrManagerClear := fun _ => rfl
  exact Within.bind (keepsReadings_onPldm _) fun _ => Within.ite
    (Within.bind hclear fun _ => keepsReadings_onPldm _) (Within.pure _)

theorem addsReadings_pfMonCtrlInitialize (fuel : Nat) :
    Within (AddsReadings (ρ := ρ)) (PldmObject.pfMonCtrlInitialize fuel) :=
  (keepsReadings_pfMonCtrlInitialize fuel).mono fun _ _ => KeepsReadings.adds

theorem addsReadings_pfGetSensorValue (arith : DoubleArith ρ) (fuel : Nat) (sensor : Bytes) :
    Within AddsReadings (pfGetSensorValue arith fuel sensor) := by
  intro s
  obtain ⟨p, infos, -, ht, -⟩ := pfGetSensorValue_took arith fuel sensor s
  exact ⟨infos, by rw [ht]⟩

theorem addsReadings_pfGetSensorValuesById (arith : DoubleArith ρ) (fuel : Nat) (sensorId : UInt16) :
    Within AddsReadings (pfGetSensorValuesById arith fuel sensorId) := by
  intro s
  obtain ⟨p, infos, -, ht, -⟩ := pfGetSensorValuesById_read arith fuel sensorId s
  exact ⟨infos, by rw [ht]⟩

theorem addsReadings_pfGetSensorValuesByUnit (arith : DoubleArith ρ) (fuel : Nat) (unit : UInt8) :
    Within AddsReadings (pfGetSensorValuesByUnit arith fuel unit) :=
  within_pfGetSensorValuesByUnit (fun _ _ => KeepsReadings.adds rfl)
    (addsReadings_pfGetSensorValue arith fuel) unit

theorem addsReadings_onPldm {α : Type} (m : Prog Pldm α) :
    Within (AddsReadings (ρ := ρ)) (onPldm m) :=
  (keepsReadings_onPldm m).mono fun _ _ => KeepsReadings.adds

theorem addsReadings_buildSensorCache : Within (AddsReadings (ρ := ρ)) buildSensorCache := by
  intro s
  rw [buildSensorCache_apply]
  exact KeepsReadings.adds rfl

/-- The parts of a call only add readings. -/
theorem addsReadings_parts (arith : DoubleArith ρ) : PartsDo AddsReadings arith where
  init := addsReadings_pfMonCtrlInitialize
  byId := addsReadings_pfGetSensorValuesById arith
  build := addsReadings_buildSensorCache
  byUnit := addsReadings_pfGetSensorValuesByUnit arith
  dfOpen _ _ := addsReadings_onPldm _
  receive _ _ := addsReadings_onPldm _
  dfClose _ _ := addsReadings_onPldm _

/-- The readings that some calls take, one after the other. -/
def readingsTaken (arith : DoubleArith ρ) : PldmObject ρ → List PldmCall → List (PldmSensorInfo ρ)
  | _, [] => []
  | s, call :: calls =>
    s.readingsSince (call.run arith s) ++ readingsTaken arith (call.run arith s) calls

/-- **The list of readings** holds what all calls so far have read. -/
theorem readings_afterCalls (arith : DoubleArith ρ) (s : PldmObject ρ) (calls : List PldmCall) :
    (s.afterCalls arith calls).mSensorInfoList = s.mSensorInfoList ++ readingsTaken arith s calls := by
  induction calls generalizing s with
  | nil => exact (List.append_nil _).symm
  | cons call calls ih =>
    rw [readingsTaken, ← List.append_assoc, ← ((addsReadings_parts arith).run call s).eq]
    exact ih (call.run arith s)

/-! ## Answers -/

/-- An answer adds to what was there an entry for each reading that its call has taken, and nothing
else. -/
def ReturnsFresh (s t : PldmObject ρ) (sensorInfo returned : List (AmcSensorInfo ρ)) : Prop :=
  returned = sensorInfo ++ (s.readingsSince t).map PldmSensorInfo.amc

/-- **A successful query** takes one reading and returns all that there are of its sensor. -/
theorem amcGetSensorInfoBySensorId_success {arith : DoubleArith ρ} {fuel : Nat} {sensorId : UInt16}
    {sensorInfo returned : List (AmcSensorInfo ρ)} {s t : PldmObject ρ}
    (h : amcGetSensorInfoBySensorId arith fuel sensorId sensorInfo s = (.ret (amcSuccess, returned), t)) :
    ∃ info : PldmSensorInfo ρ, s.readingsSince t = [info] ∧ returned = sensorInfo ++
      (s.mSensorInfoList.filter fun info => info.sensorId = sensorId).map PldmSensorInfo.amc ++
        [info.amc] := by
  obtain ⟨ret, u, hquery, hanswer⟩ := bind_eq_ret_iff.mp h
  rw [Prog.ite_apply] at hanswer
  split at hanswer
  case isTrue => simp at hanswer
  case isFalse hret =>
    obtain rfl : ret = pldmSuccess := not_not.mp hret
    obtain ⟨hreturned, rfl⟩ := pure_eq_ret_iff.mp hanswer
    obtain ⟨init, v, hinit, hrest⟩ := bind_eq_ret_iff.mp hquery
    rw [Prog.ite_apply] at hrest
    split at hrest
    case isTrue => simp at hrest
    case isFalse =>
      obtain ⟨ret, w, hread, hpure⟩ := bind_eq_ret_iff.mp hrest
      obtain ⟨hret, rfl⟩ := pure_eq_ret_iff.mp hpure
      have hret' : ret = pldmSuccess := by
        by_contra hne
        rw [if_pos hne] at hret
        exact absurd hret (by decide)
      have hkeep : v.mSensorInfoList = s.mSensorInfoList := by
        have hk := keepsReadings_pfMonCtrlInitialize (ρ := ρ) fuel s
        rwa [hinit] at hk
      obtain ⟨p, infos, -, ht, hinfos⟩ := pfGetSensorValuesById_read arith fuel sensorId v
      rw [hread] at ht hinfos
      rw [if_pos (congrArg Outcome.ret hret')] at hinfos
      obtain ⟨info, rfl, hid⟩ := hinfos
      have hlist : w.mSensorInfoList = s.mSensorInfoList ++ [info] := by
        rw [show w = _ from ht]
        exact congrArg (· ++ [info]) hkeep
      refine ⟨info, by rw [PldmObject.readingsSince, hlist, List.drop_left], ?_⟩
      rw [← (Prod.mk.inj hreturned).2, hlist, List.filter_append, List.map_append, List.append_assoc]
      simp [hid]

/-- **Which answers are fresh.** In any run of calls, the answer of a query that succeeds holds only
the readings of this query exactly if the calls before it have read no sensor with its ID. -/
theorem amcGetSensorInfoBySensorId_fresh_iff (arith : DoubleArith ρ) (p : Pldm)
    (calls : List PldmCall) (fuel : Nat) (sensorId : UInt16)
    (sensorInfo returned : List (AmcSensorInfo ρ)) (t : PldmObject ρ)
    (h : amcGetSensorInfoBySensorId arith fuel sensorId sensorInfo
      ((PldmObject.init ρ p).afterCalls arith calls) = (.ret (amcSuccess, returned), t)) :
    ReturnsFresh ((PldmObject.init ρ p).afterCalls arith calls) t sensorInfo returned ↔
      ∀ info ∈ readingsTaken arith (PldmObject.init ρ p) calls, info.sensorId ≠ sensorId := by
  obtain ⟨info, hsince, rfl⟩ := amcGetSensorInfoBySensorId_success h
  have hlist := readings_afterCalls arith (PldmObject.init ρ p) calls
  rw [show (PldmObject.init ρ p).mSensorInfoList = [] from rfl, List.nil_append] at hlist
  rw [ReturnsFresh, hsince, hlist, List.map_singleton, List.append_left_inj, List.append_right_eq_self,
    List.map_eq_nil_iff, List.filter_eq_nil_iff]
  simp

/-! ## One sensor, asked twice -/

/-- The record of a numeric sensor with the ID 5 in degrees Celsius. -/
def tempRecord : Bytes :=
  [1, 0, 0, 0, 1, pldmNumericSensorPdr, 0, 0, 95, 0, 1, 0, 5, 0] ++ List.replicate 8 0 ++
    [pldmUnitDegreesC] ++ List.replicate 10 0 ++ [1] ++ List.replicate 71 0

/-- The bytes delivered for a response with this payload. -/
def deliveredFrame (payload : Bytes) : Option Bytes := some (List.replicate 11 0 ++ payload)

/-- The responses to a query of the sensor: the repository, its record, and a reading. -/
def queryAnswers (reading : UInt8) : List (Option Bytes) :=
  [deliveredFrame ([0, 0] ++ List.replicate 26 0 ++ leBytes 4 1 ++ leBytes 4 105 ++ leBytes 4 105),
    deliveredFrame (List.replicate 9 0 ++ [pldmStartAndEnd] ++ leBytes 2 105 ++ tempRecord),
    deliveredFrame ([0, 0, 0, 0, 0, 0, 0, reading])]

/-- A card with this sensor, which reads 20 and then 21. -/
def tempCard : PldmObject Int :=
  PldmObject.init Int
    (Pldm.init (fun n => (queryAnswers 20 ++ queryAnswers 21).getD n none) fun _ => true)

/-- The first answer is fresh. -/
theorem amcGetSensorInfoBySensorId_fresh_first :
    (amcGetSensorInfoBySensorId intArith 1 5 [] tempCard).1 = .ret (amcSuccess, [⟨5, 20⟩]) ∧
      (ReturnsFresh tempCard (amcGetSensorInfoBySensorId intArith 1 5 [] tempCard).2 [] [⟨5, 20⟩] ↔
        ∀ info ∈ readingsTaken intArith tempCard [], info.sensorId ≠ 5) := by
  have hfirst : (amcGetSensorInfoBySensorId intArith 1 5 [] tempCard).1 =
      .ret (amcSuccess, [⟨5, 20⟩]) := by decide +kernel
  exact ⟨hfirst, amcGetSensorInfoBySensorId_fresh_iff intArith _ [] 1 5 [] _ _
    (Prog.eq_of_fst_eq hfirst)⟩

/-- The second answer holds the first reading too, though its query has taken one only. -/
theorem amcGetSensorInfoBySensorId_stale_second :
    let before := tempCard.afterCalls intArith [.getSensorInfoById 1 5]
    (amcGetSensorInfoBySensorId intArith 1 5 [] before).1 =
        .ret (amcSuccess, [⟨5, 20⟩, ⟨5, 21⟩]) ∧
      ¬ReturnsFresh before (amcGetSensorInfoBySensorId intArith 1 5 [] before).2 []
        [⟨5, 20⟩, ⟨5, 21⟩] := by
  unfold ReturnsFresh
  decide +kernel

end XpuManager
