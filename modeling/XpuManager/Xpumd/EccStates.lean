import Mathlib.Data.List.Basic
import XpuManager.Lib.History
import XpuManager.Xpumd.PciState

/-! # States of error correction

The scan of a device and its scrapes (`init`, `updateEccState`, `scrape`,
`receiver/intelxpu/sysman/device.go`) keep the names of the ECC states that the device has been in. As
soon as the state cannot be configured the driver is not asked any more, up to the next scan. -/

namespace XpuManager

namespace Sysman

open History

/-! ## The code -/

abbrev DeviceEccState := UInt32

def DEVICE_ECC_STATE_UNAVAILABLE : DeviceEccState := 0

def deviceEccStateString : DeviceEccState → String :=
  enumString "DeviceEccState" ["UNAVAILABLE", "ENABLED", "DISABLED"]

/-- How the driver answers `EccAvailable`, `EccConfigurable` and `GetEccState`, as far as it is asked. -/
structure EccAnswers where
  available : Option Bool
  configurable : Option Bool
  currentState : Option DeviceEccState

/-- `eccState`; the states are a map's keys. -/
structure EccState where
  states : List String
  current : String
  configurable : Bool

/-- The name of the state, and whether it can be configured. -/
def EccAnswers.state (answers : EccAnswers) : String × Bool :=
  match answers.available with
  | none => ("unknown", false)
  | some available =>
    if ¬available then ("unavailable", false)
    else match answers.configurable with
      | none => ("unknown", false)
      | some isConfigurable =>
        if ¬isConfigurable then ("available", false)
        else match answers.currentState with
          | none => ("unknown", false)
          | some state => ((deviceEccStateString state).toLower,
              decide (state ≠ DEVICE_ECC_STATE_UNAVAILABLE))

def EccAnswers.name (answers : EccAnswers) : String := answers.state.1

def EccAnswers.isConfigurable (answers : EccAnswers) : Bool := answers.state.2

/-- The state that was read is the current one, and one of those to record. -/
def updateEccState (ecc : EccState) (answers : EccAnswers) : EccState where
  configurable := answers.isConfigurable
  states := ecc.states.insert answers.name
  current := answers.name

/-- `init`, once the properties of the device are there. -/
def initEcc (answers : EccAnswers) : EccState := updateEccState ⟨[], "", false⟩ answers

/-- What `scrape` does about ECC. -/
def scrapeEcc (ecc : EccState) (answers : EccAnswers) : EccState × List StatePoint :=
  let ecc := if ecc.configurable then updateEccState ecc answers else ecc
  (ecc, if ecc.configurable ∨ 1 < ecc.states.length then
      ecc.states.map fun state => ⟨if state = ecc.current then 1 else 0, "ecc_" ++ state⟩
    else [])

/-- What happens to a device: a scan that finds its properties or fails, or a scrape. -/
inductive EccEvent where
  | init (answers : EccAnswers)
  | failedInit
  | scrape (answers : EccAnswers) (points : List StatePoint)

/-- A run of a device from its first scan on, the latest event last. The states are recorded in any
order. -/
inductive EccRun : List EccEvent → EccState → Prop where
  | first (answers : EccAnswers) : EccRun [.init answers] (initEcc answers)
  | rescan {run ecc} (answers : EccAnswers) (before : EccRun run ecc) :
      EccRun (run ++ [.init answers]) (initEcc answers)
  | failedRescan {run ecc} (before : EccRun run ecc) : EccRun (run ++ [.failedInit]) ecc
  | scrape {run ecc} (answers : EccAnswers) (points : List StatePoint) (before : EccRun run ecc)
      (hpoints : points.Perm (scrapeEcc ecc answers).2) :
      EccRun (run ++ [.scrape answers points]) (scrapeEcc ecc answers).1

/-! ## What is to be recorded -/

def EccEvent.addAnswers (answers : List EccAnswers) : EccEvent → List EccAnswers
  | .init first => [first]
  | .failedInit => answers
  | .scrape next _ => answers ++ [next]

/-- The answers that there are since the last scan that succeeded. -/
def answersSince (run : List EccEvent) : List EccAnswers := run.foldl EccEvent.addAnswers []

/-- The answers up to the first with a state that cannot be configured. -/
def asked : List EccAnswers → List EccAnswers
  | [] => []
  | a :: as => if a.isConfigurable then a :: asked as else [a]

/-- A state is recorded if it can be configured, or has not been one and the same. -/
def Recorded (answers : List EccAnswers) : Prop :=
  (∀ a ∈ answers, a.isConfigurable) ∨ ∃ a ∈ answers, ∃ b ∈ answers, a.name ≠ b.name

/-- What is recorded of some answers: all of their states, each of them once, and 1 for the last one
only. -/
structure EccPoints (answers : List EccAnswers) (points : List StatePoint) : Prop where
  nodup : (points.map StatePoint.state).Nodup
  states : ∀ state, state ∈ points.map StatePoint.state ↔
    Recorded answers ∧ ∃ a ∈ answers, state = "ecc_" ++ a.name
  active : ∀ p ∈ points, ∀ last ∈ answers.getLast?,
    p.value = if p.state = "ecc_" ++ last.name then 1 else 0

/-! ## Answers -/

section

variable {answers : List EccAnswers} {a : EccAnswers} {ecc : EccState} {run : List EccEvent}

theorem asked_of_forall (h : ∀ a ∈ answers, a.isConfigurable) : asked answers = answers := by
  induction answers with
  | nil => rfl
  | cons a as ih =>
    rw [List.forall_mem_cons] at h
    rw [asked, if_pos h.1, ih h.2]

theorem asked_snoc_of_forall (h : ∀ a ∈ answers, a.isConfigurable) (a : EccAnswers) :
    asked (answers ++ [a]) = answers ++ [a] := by
  induction answers with
  | nil =>
    rw [List.nil_append, asked, asked]
    exact ite_self _
  | cons b as ih =>
    rw [List.forall_mem_cons] at h
    rw [List.cons_append, asked, if_pos h.1, ih h.2]

/-- After a state that cannot be configured no answer counts. -/
theorem asked_snoc_of_not (h : ¬∀ a ∈ answers, a.isConfigurable) (a : EccAnswers) :
    asked (answers ++ [a]) = asked answers := by
  induction answers with
  | nil => exact absurd (by simp) h
  | cons b as ih =>
    rw [List.cons_append, asked, asked]
    by_cases hb : b.isConfigurable
    · rw [if_pos hb, if_pos hb, ih fun has => h (List.forall_mem_cons.mpr ⟨hb, has⟩)]
    · rw [if_neg hb, if_neg hb]

theorem forall_asked_iff :
    (∀ a ∈ asked answers, a.isConfigurable) ↔ ∀ a ∈ answers, a.isConfigurable := by
  induction answers with
  | nil => exact Iff.rfl
  | cons b as ih =>
    rw [asked]
    by_cases hb : b.isConfigurable
    · rw [if_pos hb, List.forall_mem_cons, List.forall_mem_cons, ih]
    · rw [if_neg hb, List.forall_mem_cons, List.forall_mem_cons]
      exact iff_of_false (fun h => hb h.1) fun h => hb h.1

/-! ## The invariant -/

/-- What is known of a device after some answers since its last scan. -/
structure EccOk (answers : List EccAnswers) (ecc : EccState) : Prop where
  nodup : ecc.states.Nodup
  states : ∀ name, name ∈ ecc.states ↔ ∃ a ∈ asked answers, name = a.name
  current : (asked answers).getLast?.map EccAnswers.name = some ecc.current
  configurable : ecc.configurable ↔ ∀ a ∈ answers, a.isConfigurable

theorem eccOk_init (a : EccAnswers) : EccOk [a] (initEcc a) where
  nodup := (List.nodup_nil).insert
  states name := by
    rw [initEcc, updateEccState, asked, asked, ite_self]
    simp
  current := by
    rw [asked, asked, ite_self]
    rfl
  configurable := by
    rw [List.forall_mem_singleton]
    exact Iff.rfl

/-- **A device is asked** while its state can be configured. -/
theorem EccOk.update (h : EccOk answers ecc) (hconf : ecc.configurable) (a : EccAnswers) :
    EccOk (answers ++ [a]) (updateEccState ecc a) := by
  have hall := h.configurable.mp hconf
  have hasked := asked_snoc_of_forall hall a
  refine ⟨h.nodup.insert, fun name => ?_, ?_, ?_⟩
  · rw [updateEccState, List.mem_insert_iff, h.states name, asked_of_forall hall, hasked]
    constructor
    · rintro (rfl | ⟨b, hb, rfl⟩)
      · exact ⟨a, by simp, rfl⟩
      · exact ⟨b, List.mem_append_left _ hb, rfl⟩
    · rintro ⟨b, hb, rfl⟩
      rcases List.mem_append.mp hb with hb | hb
      · exact .inr ⟨b, hb, rfl⟩
      · rw [List.mem_singleton.mp hb]
        exact .inl rfl
  · rw [hasked, List.getLast?_concat]
    rfl
  · rw [updateEccState, List.forall_mem_append, List.forall_mem_singleton]
    exact (and_iff_right hall).symm

/-- **It stays as it is** from then on. -/
theorem EccOk.keep (h : EccOk answers ecc) (hconf : ecc.configurable = false) (a : EccAnswers) :
    EccOk (answers ++ [a]) ecc := by
  have hnot : ¬∀ a ∈ answers, a.isConfigurable := fun hall => by
    rw [h.configurable.mpr hall] at hconf
    cases hconf
  have hasked := asked_snoc_of_not hnot a
  refine ⟨h.nodup, by rw [hasked]; exact h.states, by rw [hasked]; exact h.current, ?_⟩
  rw [hconf, List.forall_mem_append]
  exact iff_of_false Bool.false_ne_true fun hall => hnot hall.1

/-- One scrape more. -/
theorem EccOk.scrape (h : EccOk answers ecc) (a : EccAnswers) :
    EccOk (answers ++ [a]) (scrapeEcc ecc a).1 := by
  rw [scrapeEcc]
  dsimp only
  cases hconf : ecc.configurable with
  | true =>
    rw [if_pos rfl]
    exact h.update hconf a
  | false =>
    rw [if_neg Bool.false_ne_true]
    exact h.keep hconf a

/-- A device has been in more than one state. -/
theorem EccOk.one_lt_length_iff (h : EccOk answers ecc) : 1 < ecc.states.length ↔
    ∃ a ∈ asked answers, ∃ b ∈ asked answers, a.name ≠ b.name := by
  constructor
  · intro hlt
    have hne : ecc.states[0] ≠ ecc.states[1] := fun heq =>
      absurd ((h.nodup.getElem_inj_iff).mp heq) (by decide)
    obtain ⟨a, ha, hname⟩ := (h.states _).mp (List.getElem_mem (by omega : 0 < ecc.states.length))
    obtain ⟨b, hb, hname'⟩ := (h.states _).mp (List.getElem_mem hlt)
    exact ⟨a, ha, b, hb, by rw [← hname, ← hname']; exact hne⟩
  · rintro ⟨a, ha, b, hb, hne⟩
    have hmem := (h.states a.name).mpr ⟨a, ha, rfl⟩
    have hmem' := (h.states b.name).mpr ⟨b, hb, rfl⟩
    by_contra hle
    obtain ⟨name, hone⟩ : ∃ name, ecc.states = [name] :=
      List.length_eq_one_iff.mp (le_antisymm (not_lt.mp hle) (List.length_pos_of_mem hmem))
    rw [hone, List.mem_singleton] at hmem hmem'
    exact hne (hmem.trans hmem'.symm)

theorem ecc_append_injective : Function.Injective fun name : String => "ecc_" ++ name := by
  intro s t h
  rw [← String.toList_inj] at h ⊢
  simpa using h

/-- **What a scrape records.** -/
theorem EccOk.points (h : EccOk answers ecc) (a : EccAnswers) {points : List StatePoint}
    (hpoints : points.Perm (scrapeEcc ecc a).2) : EccPoints (asked (answers ++ [a])) points := by
  have hok := h.scrape a
  generalize hecc : (scrapeEcc ecc a).1 = ecc' at hok
  have hlist : (scrapeEcc ecc a).2 = if ecc'.configurable ∨ 1 < ecc'.states.length then
      ecc'.states.map fun state =>
        (⟨if state = ecc'.current then 1 else 0, "ecc_" ++ state⟩ : StatePoint) else [] := by
    rw [← hecc]
    rfl
  have hrecorded : ecc'.configurable ∨ 1 < ecc'.states.length ↔ Recorded (asked (answers ++ [a])) := by
    rw [hok.configurable, hok.one_lt_length_iff, ← forall_asked_iff]
    exact Iff.rfl
  rw [hlist] at hpoints
  by_cases hrec : Recorded (asked (answers ++ [a]))
  · rw [if_pos (hrecorded.mpr hrec)] at hpoints
    have hstates : (points.map StatePoint.state).Perm (ecc'.states.map fun state => "ecc_" ++ state) := by
      have hmap := hpoints.map StatePoint.state
      rwa [List.map_map] at hmap
    refine ⟨hstates.nodup_iff.mpr (hok.nodup.map ecc_append_injective), fun state => ?_,
      fun p hp last hlast => ?_⟩
    · rw [hstates.mem_iff, List.mem_map, and_iff_right hrec]
      constructor
      · rintro ⟨name, hname, rfl⟩
        obtain ⟨b, hb, rfl⟩ := (hok.states name).mp hname
        exact ⟨b, hb, rfl⟩
      · rintro ⟨b, hb, rfl⟩
        exact ⟨b.name, (hok.states b.name).mpr ⟨b, hb, rfl⟩, rfl⟩
    · obtain ⟨name, -, rfl⟩ := List.mem_map.mp (hpoints.mem_iff.mp hp)
      have hcurrent := hok.current
      rw [Option.mem_def.mp hlast, Option.map_some, Option.some_inj] at hcurrent
      dsimp only
      rw [← hcurrent]
      exact if_congr ecc_append_injective.eq_iff.symm rfl rfl
  · rw [if_neg (mt hrecorded.mp hrec)] at hpoints
    obtain rfl := hpoints.eq_nil
    exact ⟨List.nodup_nil, fun state => iff_of_false List.not_mem_nil fun hmem => hrec hmem.1,
      fun p hp => absurd hp List.not_mem_nil⟩

theorem answersSince_snoc (run : List EccEvent) (e : EccEvent) :
    answersSince (run ++ [e]) = e.addAnswers (answersSince run) := by
  rw [answersSince, List.foldl_append]
  rfl

/-- Over a run. -/
theorem eccOk_of_run (h : EccRun run ecc) : EccOk (answersSince run) ecc := by
  induction h with
  | first answers => exact eccOk_init answers
  | rescan answers before ih =>
    rw [answersSince_snoc]
    exact eccOk_init answers
  | failedRescan before ih =>
    rw [answersSince_snoc]
    exact ih
  | scrape answers points before hpoints ih =>
    rw [answersSince_snoc]
    exact ih.scrape answers

/-- A scrape was right after the events before it. -/
def RightScrape (before : List EccEvent) (e : EccEvent) : Prop :=
  ∀ answers points, e = .scrape answers points →
    EccPoints (asked (answersSince (before ++ [e]))) points

theorem each_rightScrape (h : EccRun run ecc) : Each RightScrape run := by
  induction h with
  | first answers =>
    have hnone : Each RightScrape [] := each_nil
    exact hnone.snoc fun _ _ h => by cases h
  | rescan answers before ih => exact ih.snoc fun _ _ h => by cases h
  | failedRescan before ih => exact ih.snoc fun _ _ h => by cases h
  | scrape answers points before hpoints ih =>
    refine ih.snoc fun answers' points' heq => ?_
    obtain ⟨rfl, rfl⟩ := EccEvent.scrape.inj heq
    rw [answersSince_snoc]
    exact (eccOk_of_run before).points answers hpoints

/-- **The states of error correction.** Each scrape of a run looks back on the states that the device has
been in since its last scan, up to the first that could not be configured. If they all could, or were not
one and the same, it records each of them once, the last one alone as active; else it records none. -/
theorem ecc_records (h : EccRun run ecc) {before after : List EccEvent} {points : List StatePoint}
    (hsplit : run = before ++ .scrape a points :: after) :
    EccPoints (asked (answersSince (before ++ [.scrape a points]))) points :=
  each_rightScrape h before _ after hsplit a points rfl

/-- Error correction is enabled, and then cannot be configured any more. -/
def eccEnabled : EccAnswers := ⟨some true, some true, some 1⟩

def eccFixed : EccAnswers := ⟨some true, some false, none⟩

theorem eccName_enabled : eccEnabled.name = "enabled" :=
  LinkState.toLower_eq_of_toList (by decide)

theorem ecc_records_fixed : ∃ run ecc points, EccRun run ecc ∧
    run = [.init eccEnabled] ++ .scrape eccFixed points :: [.scrape eccEnabled points] ∧
      points = [⟨1, "ecc_available"⟩, ⟨0, "ecc_enabled"⟩] ∧
      EccPoints (asked (answersSince ([.init eccEnabled] ++ [.scrape eccFixed points]))) points := by
  have hinit : initEcc eccEnabled = ⟨["enabled"], "enabled", true⟩ := by
    rw [initEcc, updateEccState, eccName_enabled]
    rfl
  have hfirst : scrapeEcc ⟨["enabled"], "enabled", true⟩ eccFixed =
      (⟨["available", "enabled"], "available", false⟩,
        [⟨1, "ecc_available"⟩, ⟨0, "ecc_enabled"⟩]) := rfl
  have hsecond : scrapeEcc ⟨["available", "enabled"], "available", false⟩ eccEnabled =
      (⟨["available", "enabled"], "available", false⟩,
        [⟨1, "ecc_available"⟩, ⟨0, "ecc_enabled"⟩]) := rfl
  have hrun := EccRun.first eccEnabled
  rw [hinit] at hrun
  have hrun' := hrun.scrape eccFixed [⟨1, "ecc_available"⟩, ⟨0, "ecc_enabled"⟩] (by rw [hfirst])
  rw [hfirst] at hrun'
  have hrun'' := hrun'.scrape eccEnabled [⟨1, "ecc_available"⟩, ⟨0, "ecc_enabled"⟩] (by rw [hsecond])
  exact ⟨_, _, _, hrun'', rfl, rfl, ecc_records hrun'' rfl⟩

end

end Sysman

end XpuManager
