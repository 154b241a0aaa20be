import XpuManager.Hal.PowerTiles
import XpuManager.Lib.FirstMatch

/-! # Power limits

A power domain has limits of different levels, which are read and written as one list
(`hal/core/power.cpp`). -/

namespace XpuManager

namespace Power

open LastWrite FirstMatch

/-! ## The driver -/

/-- `zes_power_level_t`. -/
inductive PowerLevel where
  | unknown
  | sustained
  | burst
  | peak
  | instantaneous
  deriving DecidableEq

/-- `zes_power_limit_ext_desc_t`. -/
structure LimitDesc where
  level : PowerLevel
  limit : Int32
  limitValueLocked : Bool
  enabled : Bool
  interval : Int32

/-- The limits that the driver holds for a power domain, and what it answers. -/
structure LimitDomain where
  properties : Except ZeError PowerProperties
  countResult : ZeResult
  fillResult : ZeResult
  limits : List LimitDesc
  /-- A call that succeeds replaces the limits, and one that fails leaves them. -/
  setResult : ZeResult

/-- A sub-device, or the device itself. -/
abbrev Target := Option UInt32

/-- The domain is the one that is meant, of the device or of a tile. -/
def PowerProperties.Matches (target : Target) (properties : PowerProperties) : Prop :=
  match target with
  | some subdeviceId => properties.onSubdevice ∧ properties.subdeviceId = subdeviceId
  | none => ¬properties.onSubdevice

instance (target : Target) (properties : PowerProperties) : Decidable (properties.Matches target) := by
  unfold PowerProperties.Matches
  cases target <;> infer_instance

namespace LimitDomain

/-- The limits can be read. -/
def Readable (d : LimitDomain) : Prop := d.countResult = .success ∧ d.fillResult = .success

instance (d : LimitDomain) : Decidable d.Readable := inferInstanceAs (Decidable (_ ∧ _))

/-- A domain that is not passed over: it is of the target, and can be read. -/
def Found (target : Target) (d : LimitDomain) : Prop :=
  match d.properties with
  | .ok properties => properties.Matches target ∧ d.Readable
  | .error _ => False

instance (target : Target) (d : LimitDomain) : Decidable (d.Found target) := by
  unfold Found
  cases d.properties <;> infer_instance

/-- The domain has a limit of the level. -/
def Offers (level : PowerLevel) (d : LimitDomain) : Prop := ∃ desc ∈ d.limits, desc.level = level

end LimitDomain

/-! ## Setting a limit -/

/-- The first descriptor of the level, unless it is locked. -/
def setLimit (level : PowerLevel) (limit : Int32) : List LimitDesc → Except ZeResult (List LimitDesc)
  | [] => .error .unsupportedFeature
  | desc :: descs =>
    if desc.level = level then
      if desc.limitValueLocked then .error .notAvailable else .ok ({ desc with limit := limit } :: descs)
    else (setLimit level limit descs).map (desc :: ·)

/-- The body of the loop, for a domain that is not passed over. -/
def LimitDomain.set (level : PowerLevel) (limit : Int32) (d : LimitDomain) : ZeResult × LimitDomain :=
  match setLimit level limit d.limits with
  | .error result => (result, d)
  | .ok limits =>
    if d.setResult = .success then (.success, { d with limits := limits }) else (d.setResult, d)

/-- The loop of `setLimitsExt`. -/
def setTarget (target : Target) (level : PowerLevel) (limit : Int32) :
    List LimitDomain → ZeResult × List LimitDomain
  | [] => (.unknown, [])
  | d :: domains =>
    if d.Found target then ((d.set level limit).1, (d.set level limit).2 :: domains)
    else ((setTarget target level limit domains).1, d :: (setTarget target level limit domains).2)

/-- The sub-device of a tile. -/
def resolve (deviceHandle : Option (UInt32 → Except ZeError UInt32)) (tileId : Int32) :
    Except ZeResult Target :=
  if tileId = -1 then .ok none
  else
    match deviceHandle with
    | none => .error .uninitialized
    | some getSubdeviceProperties =>
      match getSubdeviceProperties tileId.toUInt32 with
      | .error result => .error result.1
      | .ok subdeviceId => .ok (some subdeviceId)

/-- Sets the power limit of a level, for the device or one of its tiles. -/
def setLimitsExt (deviceHandle : Option (UInt32 → Except ZeError UInt32)) (tileId : Int32)
    (level : PowerLevel) (limitMw : UInt32) (domains : List LimitDomain) :
    ZeResult × List LimitDomain :=
  match resolve deviceHandle tileId with
  | .error result => (result, domains)
  | .ok target => setTarget target level limitMw.toInt32 domains

/-! ## Reading the limits -/

abbrev LimitKey := PowerDomain × PowerLevel

/-- What a domain of the device reports. -/
def LimitDomain.reported (d : LimitDomain) : List (LimitKey × Int32) :=
  match d.properties with
  | .ok properties =>
    if ¬properties.onSubdevice ∧ d.Readable then
      d.limits.map fun desc => ((properties.domain, desc.level), desc.limit)
    else []
  | .error _ => []

/-- The power limits of the device, by kind of domain and level. -/
def getDomainLimits (domains : List LimitDomain) : ZeResult × (LimitKey → Option Int32) :=
  (.success, lastWrites (fun _ => none) (domains.flatMap LimitDomain.reported))

/-! ## What a call should do -/

/-- One descriptor of the level, which is not locked, has a new limit. -/
def Changed (level : PowerLevel) (limit : Int32) (d d' : LimitDomain) : Prop :=
  ∃ before desc after, d.limits = before ++ desc :: after ∧ desc.level = level ∧
    desc.limitValueLocked = false ∧
    d' = { d with limits := before ++ { desc with limit := limit } :: after }

/-- A call is right, if it ends with a result and leaves some domains. -/
structure SetRight (deviceHandle : Option (UInt32 → Except ZeError UInt32)) (tileId : Int32)
    (level : PowerLevel) (limitMw : UInt32) (domains : List LimitDomain)
    (run : ZeResult × List LimitDomain) : Prop where
  unchanged : run.1 ≠ .success → run.2 = domains
  /-- One domain of the target is changed: the first one that can be read. -/
  changed : run.1 = .success → ∃ target before d after d', resolve deviceHandle tileId = .ok target ∧
    FirstAt (LimitDomain.Found target) domains before d after ∧ Changed level limitMw.toInt32 d d' ∧
    run.2 = before ++ d' :: after
  unsupported : run.1 = .unsupportedFeature → ∀ target, resolve deviceHandle tileId = .ok target →
    ∀ d ∈ domains, d.Found target → ¬d.Offers level
  /-- The new limit of the device is read back, under the kind of that domain. -/
  reported : run.1 = .success → tileId = -1 → ∀ before d after properties,
    FirstAt (LimitDomain.Found none) domains before d after → d.properties = .ok properties →
    (getDomainLimits run.2).2 (properties.domain, level) = some limitMw.toInt32

/-- The first domain of a target that can be read, and the domains behind it, do what is expected of
them. -/
structure SetFits (target : Target) (level : PowerLevel) (limit : Int32) (domains : List LimitDomain)
    (d : LimitDomain) (after : List LimitDomain) : Prop where
  /-- It offers the level, if any domain of the target does. -/
  offers : (∃ other ∈ domains, other.Found target ∧ other.Offers level) → d.Offers level
  /-- The driver does not reject a level that it offers as unsupported. -/
  accepts : ∀ descs desc descs', FirstAt (fun desc => desc.level = level) d.limits descs desc descs' →
    desc.limitValueLocked = false → d.setResult ≠ .unsupportedFeature
  /-- What comes later for the device, under the same kind and level, has the same limit. -/
  last : target = none → d.setResult = .success → ∀ descs desc descs' properties,
    FirstAt (fun desc => desc.level = level) d.limits descs desc descs' →
    desc.limitValueLocked = false → d.properties = .ok properties →
    ∀ limit' ∈ lastWrites (fun _ => none)
      (descs'.map (fun desc => ((properties.domain, desc.level), desc.limit)) ++
        after.flatMap LimitDomain.reported) (properties.domain, level), limit' = limit

/-! ## What the call does -/

section

variable {target : Target} {level : PowerLevel} {limit : Int32} {domains before after : List LimitDomain}
  {d : LimitDomain}

theorem setTarget_of_none (h : ∀ d ∈ domains, ¬d.Found target) :
    setTarget target level limit domains = (.unknown, domains) := by
  induction domains with
  | nil => rfl
  | cons d domains ih =>
    rw [List.forall_mem_cons] at h
    rw [setTarget, if_neg h.1, ih h.2]

/-- **Spec of the loop.** The first domain of the target that can be read is the only one to be set. -/
theorem setTarget_of_first (h : FirstAt (LimitDomain.Found target) domains before d after) :
    setTarget target level limit domains =
      ((d.set level limit).1, before ++ (d.set level limit).2 :: after) := by
  obtain ⟨rfl, hfound, hbefore⟩ := h
  induction before with
  | nil => exact if_pos hfound
  | cons other before ih =>
    rw [List.forall_mem_cons] at hbefore
    rw [List.cons_append, setTarget, if_neg hbefore.1, ih hbefore.2]
    rfl

theorem setLimit_of_none {limits : List LimitDesc} (h : ∀ desc ∈ limits, desc.level ≠ level) :
    setLimit level limit limits = .error .unsupportedFeature := by
  induction limits with
  | nil => rfl
  | cons desc limits ih =>
    rw [List.forall_mem_cons] at h
    rw [setLimit, if_neg h.1, ih h.2]
    rfl

theorem setLimit_of_first (limit : Int32) {limits descs descs' : List LimitDesc} {desc : LimitDesc}
    (h : FirstAt (fun desc => desc.level = level) limits descs desc descs') :
    setLimit level limit limits = if desc.limitValueLocked then .error .notAvailable
      else .ok (descs ++ { desc with limit := limit } :: descs') := by
  obtain ⟨rfl, hlevel, hbefore⟩ := h
  induction descs with
  | nil => exact if_pos hlevel
  | cons other descs ih =>
    rw [List.forall_mem_cons] at hbefore
    rw [List.cons_append, setLimit, if_neg hbefore.1, ih hbefore.2]
    split_ifs <;> rfl

/-- **Spec of one domain.** It lacks the level, or the level is locked, or the driver decides. -/
theorem set_cases (level : PowerLevel) (limit : Int32) (d : LimitDomain) :
    (¬d.Offers level ∧ d.set level limit = (.unsupportedFeature, d)) ∨
      ∃ descs desc descs', FirstAt (fun desc => desc.level = level) d.limits descs desc descs' ∧
        (desc.limitValueLocked ∧ d.set level limit = (.notAvailable, d) ∨
          desc.limitValueLocked = false ∧ d.setResult = .success ∧ d.set level limit =
            (.success, { d with limits := descs ++ { desc with limit := limit } :: descs' }) ∨
          desc.limitValueLocked = false ∧ d.setResult ≠ .success ∧
            d.set level limit = (d.setResult, d)) := by
  by_cases hoffers : d.Offers level
  · obtain ⟨descs, desc, descs', hfirst⟩ := exists_firstAt hoffers
    refine .inr ⟨descs, desc, descs', hfirst, ?_⟩
    have hlimit := setLimit_of_first limit hfirst
    cases hlocked : desc.limitValueLocked with
    | true =>
      rw [hlocked, if_pos rfl] at hlimit
      exact .inl ⟨rfl, by rw [LimitDomain.set, hlimit]⟩
    | false =>
      rw [hlocked, if_neg Bool.false_ne_true] at hlimit
      rw [LimitDomain.set, hlimit]
      by_cases hset : d.setResult = .success
      · exact .inr (.inl ⟨rfl, hset, if_pos hset⟩)
      · exact .inr (.inr ⟨rfl, hset, if_neg hset⟩)
  · refine .inl ⟨hoffers, ?_⟩
    have hnone : ∀ desc ∈ d.limits, desc.level ≠ level :=
      fun desc hmem hlevel => hoffers ⟨desc, hmem, hlevel⟩
    rw [LimitDomain.set, setLimit_of_none hnone]

theorem reported_of_found {properties : PowerProperties} (h : d.Found none)
    (hproperties : d.properties = .ok properties) : d.reported =
      d.limits.map fun desc => ((properties.domain, desc.level), desc.limit) := by
  rw [LimitDomain.Found, hproperties] at h
  rw [LimitDomain.reported, hproperties]
  exact if_pos h

/-- What is read back under the kind and level of a descriptor that has been set. -/
theorem reported_iff {properties : PowerProperties} {descs descs' : List LimitDesc} {desc : LimitDesc}
    (hfound : d.Found none) (hproperties : d.properties = .ok properties) :
    (getDomainLimits (before ++ { d with limits := descs ++ { desc with limit := limit } :: descs' } ::
        after)).2 (properties.domain, desc.level) = some limit ↔
      ∀ limit' ∈ lastWrites (fun _ => none)
        (descs'.map (fun desc => ((properties.domain, desc.level), desc.limit)) ++
          after.flatMap LimitDomain.reported) (properties.domain, desc.level), limit' = limit := by
  have hchanged : ({ d with limits := descs ++ { desc with limit := limit } :: descs' } :
      LimitDomain).reported =
        descs.map (fun desc => ((properties.domain, desc.level), desc.limit)) ++
          ((properties.domain, desc.level), limit) ::
            descs'.map fun desc => ((properties.domain, desc.level), desc.limit) := by
    have hlimits : ({ d with limits := descs ++ { desc with limit := limit } :: descs' } :
        LimitDomain).reported = (descs ++ { desc with limit := limit } :: descs').map fun desc =>
          ((properties.domain, desc.level), desc.limit) :=
      reported_of_found hfound hproperties
    rw [hlimits, List.map_append, List.map_cons]
  have hwrites : (before ++ { d with limits := descs ++ { desc with limit := limit } :: descs' } ::
      after).flatMap LimitDomain.reported =
        (before.flatMap LimitDomain.reported ++
          descs.map fun desc => ((properties.domain, desc.level), desc.limit)) ++
          ((properties.domain, desc.level), limit) ::
            (descs'.map (fun desc => ((properties.domain, desc.level), desc.limit)) ++
              after.flatMap LimitDomain.reported) := by
    rw [List.flatMap_append, List.flatMap_cons, hchanged]
    simp only [List.append_assoc, List.cons_append]
  rw [getDomainLimits, hwrites]
  exact lastWrites_append_cons_iff

/-- An error of the choice of the target is never the success code. -/
theorem resolve_error {deviceHandle : Option (UInt32 → Except ZeError UInt32)} {tileId : Int32}
    {result : ZeResult} (h : resolve deviceHandle tileId = .error result) : result ≠ .success := by
  unfold resolve at h
  split_ifs at h
  cases deviceHandle with
  | none =>
    obtain rfl := Except.error.inj h
    exact nofun
  | some getSubdeviceProperties =>
    cases hget : getSubdeviceProperties tileId.toUInt32 with
    | error error =>
      simp only [hget] at h
      obtain rfl := Except.error.inj h
      exact error.2
    | ok subdeviceId =>
      simp only [hget] at h
      cases h

/-- No target is chosen for tile -1 only. -/
theorem resolve_none_iff {deviceHandle : Option (UInt32 → Except ZeError UInt32)} {tileId : Int32}
    (h : resolve deviceHandle tileId = .ok target) : target = none ↔ tileId = -1 := by
  unfold resolve at h
  by_cases htile : tileId = -1
  · rw [if_pos htile] at h
    exact iff_of_true (Except.ok.inj h).symm htile
  · rw [if_neg htile] at h
    refine iff_of_false ?_ htile
    rintro rfl
    cases deviceHandle with
    | none => cases h
    | some getSubdeviceProperties =>
      cases hget : getSubdeviceProperties tileId.toUInt32 with
      | error error =>
        simp only [hget] at h
        cases h
      | ok subdeviceId =>
        simp only [hget] at h
        cases h

/-- **When a call is right that sets a domain**, by what happens to the domain. -/
theorem setRight_iff_of_first {deviceHandle : Option (UInt32 → Except ZeError UInt32)} {tileId : Int32}
    {limitMw : UInt32} (hresolve : resolve deviceHandle tileId = .ok target)
    (hfirst : FirstAt (LimitDomain.Found target) domains before d after) :
    SetRight deviceHandle tileId level limitMw domains
        ((d.set level limitMw.toInt32).1, before ++ (d.set level limitMw.toInt32).2 :: after) ↔
      SetFits target level limitMw.toInt32 domains d after := by
  have htarget : ∀ {target'}, resolve deviceHandle tileId = .ok target' → target' = target :=
    fun h => Except.ok.inj (h.symm.trans hresolve)
  rcases set_cases level limitMw.toInt32 d with ⟨hlacks, hset⟩ | ⟨descs, desc, descs', hat, hcases⟩
  · rw [hset]
    have hnone : ∀ {descs desc descs'},
        ¬FirstAt (fun desc => desc.level = level) d.limits descs desc descs' :=
      fun hat => hlacks ⟨_, hat.mem, hat.holds⟩
    constructor
    · intro h
      refine ⟨?_, fun _ _ _ hat => absurd hat hnone, fun _ _ _ _ _ _ hat => absurd hat hnone⟩
      rintro ⟨other, hmem, hfound, hoffers⟩
      exact absurd hoffers (h.unsupported rfl target hresolve other hmem hfound)
    · intro h
      refine ⟨fun _ => hfirst.split.symm, nofun, fun _ target' htarget' other hmem hfound => ?_, nofun⟩
      rw [htarget htarget'] at hfound
      exact fun hoffers => hlacks (h.offers ⟨other, hmem, hfound, hoffers⟩)
  · have hoffers : d.Offers level := ⟨desc, hat.mem, hat.holds⟩
    rcases hcases with ⟨hlocked, hset⟩ | ⟨hunlocked, hok, hset⟩ | ⟨hunlocked, hfails, hset⟩
    · rw [hset]
      refine iff_of_true ⟨fun _ => hfirst.split.symm, nofun, nofun, nofun⟩
        ⟨fun _ => hoffers, fun _ _ _ hat' hopen => ?_, fun _ _ _ _ _ _ hat' hopen => ?_⟩
      all_goals
        obtain ⟨-, rfl, -⟩ := hat.unique hat'
        rw [hlocked] at hopen
        cases hopen
    · rw [hset]
      have hlevel : desc.level = level := hat.holds
      constructor
      · intro h
        refine ⟨fun _ => hoffers, fun _ _ _ _ _ hunsupported => ?_, ?_⟩
        · rw [hok] at hunsupported
          cases hunsupported
        · rintro rfl - descs₁ desc₁ descs₁' properties hat' - hproperties
          obtain ⟨-, rfl, rfl⟩ := hat.unique hat'
          have hread := h.reported rfl ((resolve_none_iff hresolve).mp rfl) before d after properties
            hfirst hproperties
          rw [← hlevel] at hread ⊢
          exact (reported_iff hfirst.holds hproperties).mp hread
      · intro h
        refine ⟨fun hne => absurd rfl hne, fun _ => ?_, nofun, ?_⟩
        · exact ⟨target, before, d, after, _, hresolve, hfirst,
            ⟨descs, desc, descs', hat.split, hlevel, hunlocked, rfl⟩, rfl⟩
        · intro _ htile before' d' after' properties hfirst' hproperties
          obtain rfl := (resolve_none_iff hresolve).mpr htile
          obtain ⟨-, rfl, -⟩ := hfirst.unique hfirst'
          rw [← hlevel]
          refine (reported_iff hfirst.holds hproperties).mpr ?_
          rw [hlevel]
          exact h.last rfl hok descs desc descs' properties hat hunlocked hproperties
    · rw [hset]
      constructor
      · intro h
        refine ⟨fun _ => hoffers, fun _ _ _ _ _ hunsupported => ?_, fun _ hok => absurd hok hfails⟩
        exact h.unsupported hunsupported target hresolve d hfirst.mem hfirst.holds hoffers
      · intro h
        refine ⟨fun _ => hfirst.split.symm, fun hok => absurd hok hfails, fun hunsupported => ?_,
          fun hok => absurd hok hfails⟩
        exact absurd hunsupported (h.accepts descs desc descs' hat hunlocked)

/-- **When a limit is set as it should be**: exactly if the first domain of the target that can be read,
and what comes after it, fit. -/
theorem setLimitsExt_iff (deviceHandle : Option (UInt32 → Except ZeError UInt32)) (tileId : Int32)
    (level : PowerLevel) (limitMw : UInt32) (domains : List LimitDomain) :
    SetRight deviceHandle tileId level limitMw domains
        (setLimitsExt deviceHandle tileId level limitMw domains) ↔
      ∀ target, resolve deviceHandle tileId = .ok target → ∀ before d after,
        FirstAt (LimitDomain.Found target) domains before d after →
        SetFits target level limitMw.toInt32 domains d after := by
  cases hresolve : resolve deviceHandle tileId with
  | error result =>
    have hne := resolve_error hresolve
    rw [setLimitsExt, hresolve]
    refine iff_of_true ⟨fun _ => rfl, fun hok => absurd hok hne, fun _ target htarget => ?_,
      fun hok => absurd hok hne⟩ nofun
    rw [hresolve] at htarget
    cases htarget
  | ok target =>
    rw [setLimitsExt, hresolve]
    change SetRight _ _ _ _ _ (setTarget target level limitMw.toInt32 domains) ↔ _
    by_cases hany : ∃ d ∈ domains, d.Found target
    · obtain ⟨before, d, after, hfirst⟩ := exists_firstAt hany
      rw [setTarget_of_first hfirst, setRight_iff_of_first hresolve hfirst]
      constructor
      · rintro h target' htarget before' d' after' hfirst'
        obtain rfl := Except.ok.inj htarget
        obtain ⟨-, rfl, rfl⟩ := hfirst.unique hfirst'
        exact h
      · exact fun h => h target rfl before d after hfirst
    · have hnone : ∀ d ∈ domains, ¬d.Found target := fun d hmem hfound => hany ⟨d, hmem, hfound⟩
      rw [setTarget_of_none hnone]
      refine iff_of_true ⟨fun _ => rfl, nofun, nofun, nofun⟩ ?_
      rintro target' htarget before d after hfirst
      obtain rfl := Except.ok.inj htarget
      exact absurd hfirst.holds (hnone d hfirst.mem)

end

/-- A domain of the device whose limits can be read and set. -/
def cardDomain (domain : PowerDomain) (limits : List LimitDesc) : LimitDomain where
  properties := .ok ⟨false, 0, domain⟩
  countResult := .success
  fillResult := .success
  limits := limits
  setResult := .success

/-- The card has no sustained limit, and the package behind it has one. -/
theorem setLimitsExt_card_first : ¬∀ (deviceHandle : Option (UInt32 → Except ZeError UInt32))
    (tileId : Int32) (level : PowerLevel) (limitMw : UInt32) (domains : List LimitDomain),
    SetRight deviceHandle tileId level limitMw domains
      (setLimitsExt deviceHandle tileId level limitMw domains) := by
  intro h
  have hright := h none (-1) .sustained 300000
    [cardDomain .card [⟨.peak, 500000, false, true, 0⟩],
      cardDomain .package [⟨.sustained, 400000, false, true, 0⟩]]
  refine hright.unsupported (by decide) none rfl (cardDomain .package
    [⟨.sustained, 400000, false, true, 0⟩]) (by simp) (by decide) ⟨_, List.mem_singleton_self _, rfl⟩

end Power

end XpuManager
