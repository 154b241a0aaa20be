import Mathlib.Data.List.Nodup
import XpuManager.Lib.Runs
import XpuManager.Xpumd.CrashlogReceiver

/-! # Every crash log once

When the receiver emits every version once. A version can be missed, because the path of an earlier
one is still marked, and it can be emitted twice, because an event that is still queued takes its
mark away. What matters to a path is therefore whether it is marked and what is waiting for it, the
looks at it and the events that make the receiver forget it. -/

namespace XpuManager

/-- What can be waiting for a path: a look at it, or an event that takes its mark away. -/
inductive Visit where
  | look
  | forget
  deriving DecidableEq

/-- How often a wanted file that stays in place is emitted by what is waiting for it. -/
def emissions : Bool → List Visit → Nat
  | _, [] => 0
  | true, .look :: vs => emissions true vs
  | false, .look :: vs => emissions true vs + 1
  | _, .forget :: vs => emissions false vs

/-- A new version may be put in place: the path is unmarked, or will be before the look at the new
version, and no other look at the unmarked path comes before it is made to forget it. -/
def Clear : Bool → List Visit → Prop
  | marked, [] => marked = false
  | true, .look :: vs => Clear true vs
  | false, .look :: vs => .forget ∉ vs
  | _, .forget :: vs => Clear false vs

section Emissions

variable {marked : Bool} {vs ws : List Visit}

/-- Looks at a marked path emit nothing. -/
theorem emissions_true_of_notMem (h : .forget ∉ vs) : emissions true vs = 0 := by
  induction vs with
  | nil => rfl
  | cons v vs ih =>
    cases v with
    | look => exact ih fun hmem => h (List.mem_cons_of_mem _ hmem)
    | forget => exact absurd List.mem_cons_self h

/-- At a clear path a further look emits, and emits once. -/
theorem emissions_of_clear (h : Clear marked vs) : emissions marked (vs ++ [.look]) = 1 := by
  induction vs generalizing marked with
  | nil =>
    rw [Clear] at h
    rw [h]
    rfl
  | cons v vs ih =>
    cases v with
    | look =>
      cases marked with
      | true => exact ih h
      | false =>
        have hquiet : .forget ∉ vs ++ [Visit.look] := by
          rw [List.mem_append, not_or]
          exact ⟨h, by decide⟩
        exact congrArg (· + 1) (emissions_true_of_notMem hquiet)
    | forget =>
      cases marked with
      | true => exact ih h
      | false => exact ih h

theorem emissions_false_le (vs : List Visit) : emissions false vs ≤ emissions true vs + 1 := by
  induction vs with
  | nil => exact Nat.zero_le _
  | cons v vs ih =>
    cases v with
    | look => exact Nat.le_refl _
    | forget => exact Nat.le_succ _

/-- A path that is looked at is emitted from, unless it is marked. -/
theorem emissions_false_pos (h : .look ∈ vs) : 0 < emissions false vs := by
  induction vs with
  | nil => exact absurd h List.not_mem_nil
  | cons v vs ih =>
    cases v with
    | look => exact Nat.succ_pos _
    | forget => exact ih ((List.mem_cons.mp h).resolve_left (by decide))

/-- Looking often is like looking once. -/
theorem emissions_replicate (marked : Bool) (k : Nat) (vs : List Visit) :
    emissions marked (List.replicate (k + 1) .look ++ vs) = emissions marked (.look :: vs) := by
  have htrue : ∀ k, emissions true (List.replicate k .look ++ vs) = emissions true vs := by
    intro k
    induction k with
    | zero => rfl
    | succ k ih => exact ih
  cases marked with
  | true => exact htrue (k + 1)
  | false => exact congrArg (· + 1) (htrue k)

/-- Not looking at all emits no more than looking. -/
theorem emissions_le_look (marked : Bool) (vs : List Visit) :
    emissions marked vs ≤ emissions marked (.look :: vs) := by
  cases marked with
  | true => exact Nat.le_refl _
  | false => exact emissions_false_le vs

/-- If a look would emit the only time, and there is another one, it need not be made. -/
theorem emissions_eq_of_look (hmem : .look ∈ vs) (h : emissions marked (.look :: vs) = 1) :
    emissions marked vs = 1 := by
  cases marked with
  | true => exact h
  | false =>
    have hpos := emissions_false_pos hmem
    have hle := emissions_false_le vs
    change emissions true vs + 1 = 1 at h
    omega

end Emissions

namespace CrashlogState

/-- What a queued event does to a path. -/
def eventVisit (name : String) (event : FsEvent) : Option Visit :=
  if event.name = name then some (if event.op = .create then .look else .forget) else none

/-- The looks of the scan that are still to come. -/
def scanLooks (name : String) : CrashlogPhase → List Visit
  | .starting => [.look]
  | .scanning entries => List.replicate (entries.count name) .look
  | .watching => []

/-- A path that the receiver is looking at, and the version of the `Create` event. -/
abbrev Hand := Option (String × Option Nat)

def hand (s : CrashlogState) : Hand := s.inspecting.map fun i => (i.name, i.origin)

/-- The look that is in hand for a path. -/
def handLook (name : String) : Hand → List Visit
  | none => []
  | some h => if h.1 = name then [.look] else []

/-- What is waiting for a path. -/
def visits (hand : Hand) (s : CrashlogState) (name : String) : List Visit :=
  handLook name hand ++ (scanLooks name s.phase ++ s.events.filterMap (eventVisit name))

/-- A wanted version is only put in place if its contents can be read and its path is clear. -/
def Ready (cfg : CrashlogConfig) (s : CrashlogState) : CrashlogAction → Prop
  | .place name regular modTime data =>
    cfg.wants name ⟨s.nextVersion, regular, modTime, data⟩ →
      data.isSome ∧ Clear (s.processedFiles name) (s.visits s.hand name)
  | _ => True

/-- How often a version was emitted, and may still be. -/
def copies (hand : Hand) (s : CrashlogState) (name : String) (file : CrashFile) : Nat :=
  s.emittedVersions.count file.version + emissions (s.processedFiles name) (s.visits hand name)

/-- The `Create` event of a version is queued, or being handled. -/
def Announced (hand : Hand) (s : CrashlogState) (name : String) (version : Nat) : Prop :=
  ⟨name, .create, version⟩ ∈ s.events ∨ hand = some (name, some version)

/-- The invariant of a run in which every version was put in place at a clear path. -/
structure Tracked (cfg : CrashlogConfig) (hand : Hand) (s : CrashlogState) : Prop where
  version_lt : ∀ name file, s.files name = some file → file.version < s.nextVersion
  version_inj : ∀ name name' file file', s.files name = some file → s.files name' = some file' →
    file.version = file'.version → name = name'
  emitted_lt : ∀ version ∈ s.emittedVersions, version < s.nextVersion
  event_lt : ∀ event ∈ s.events, event.version < s.nextVersion
  starting : s.phase = .starting → hand = none
  hand_lt : ∀ name version, hand = some (name, some version) → version < s.nextVersion
  hand_last : ∀ name version, hand = some (name, some version) → ∀ file,
    s.files name = some file → file.version = version →
      s.phase = .watching ∧ ∀ event ∈ s.events, event.name ≠ name
  last : ∀ before event after, s.events = before ++ event :: after → event.op = .create →
    ∀ file, s.files event.name = some file → file.version = event.version →
      ∀ event' ∈ after, event'.name ≠ event.name
  once : ∀ name file, s.files name = some file → cfg.wants name file →
    s.copies hand name file ≤ 1
  announced : ∀ name file, s.files name = some file → cfg.wants name file →
    s.Announced hand name file.version → file.data.isSome ∧ s.copies hand name file = 1
  emitsOnce : s.EmitsOnce

/-- What holds of the file that is read next: its path is unmarked, and if the file in place is not
wanted, it was not emitted. -/
structure Inspects (cfg : CrashlogConfig) (s : CrashlogState) : Prop where
  unmarked : ∀ i, s.inspecting = some i → s.processedFiles i.name = false
  unwanted : ∀ i file, s.inspecting = some i → s.files i.name = some file →
    cfg.wants i.name file = false → file.version ∉ s.emittedVersions

section Steps

variable {cfg : CrashlogConfig} {h : Hand} {s t : CrashlogState} {name : String}

/-! ## The directory -/

/-- An event comes in, and the receiver stays as it is. -/
structure Queues (s : CrashlogState) (event : FsEvent) (t : CrashlogState) : Prop where
  phase : t.phase = s.phase
  events : t.events = s.events ++ [event]
  processedFiles : t.processedFiles = s.processedFiles
  emitted : t.emitted = s.emitted

/-- What an event that comes in adds to what is waiting. -/
theorem Queues.copies_eq {event : FsEvent} (hq : Queues s event t) (name : String)
    (file : CrashFile) : t.copies h name file = s.emittedVersions.count file.version +
      emissions (s.processedFiles name) (s.visits h name ++ (eventVisit name event).toList) := by
  have hvisits : t.visits h name = s.visits h name ++ (eventVisit name event).toList := by
    simp only [visits, hq.phase, hq.events, List.filterMap_append, List.append_assoc]
    rfl
  rw [copies, hvisits, hq.processedFiles, emittedVersions, hq.emitted, emittedVersions]

/-- An event does not matter to the other paths. -/
theorem Queues.copies_of_ne {event : FsEvent} (hq : Queues s event t) (hne : event.name ≠ name)
    (file : CrashFile) : t.copies h name file = s.copies h name file := by
  rw [hq.copies_eq, eventVisit, if_neg hne, Option.toList_none, List.append_nil, copies]

/-- An event leaves the other paths as they were: what is waiting for them, and what was announced. -/
theorem Tracked.other (hs : Tracked cfg h s) {event : FsEvent} (hq : Queues s event t)
    {file : CrashFile} (hne : name ≠ event.name) (hold : s.files name = some file)
    (hwants : cfg.wants name file) : t.copies h name file ≤ 1 ∧
      (t.Announced h name file.version → file.data.isSome ∧ t.copies h name file = 1) := by
  rw [hq.copies_of_ne hne.symm]
  refine ⟨hs.once name file hold hwants, fun hann => hs.announced name file hold hwants ?_⟩
  refine hann.imp_left fun hmem => ?_
  rw [hq.events] at hmem
  refine (List.mem_append.mp hmem).resolve_right fun hmem => ?_
  exact hne (congrArg FsEvent.name (List.mem_singleton.mp hmem))

/-- An event for another path stays clear of the file in the receiver's hand. -/
theorem Tracked.hand_append (hs : Tracked cfg h s) {event : FsEvent} (hq : Queues s event t)
    {version : Nat} {file : CrashFile} (hhand : h = some (name, some version))
    (hne : name ≠ event.name) (hold : s.files name = some file) (hversion : file.version = version) :
    t.phase = .watching ∧ ∀ event ∈ t.events, event.name ≠ name := by
  obtain ⟨hphase, hlast⟩ := hs.hand_last name version hhand file hold hversion
  refine ⟨hq.phase.trans hphase, ?_⟩
  rw [hq.events]
  exact List.forall_mem_append.mpr ⟨hlast, List.forall_mem_singleton.mpr hne.symm⟩

/-- An event that comes in behind the others is for another path than an earlier `Create` event of
a version that is still in place. -/
theorem Tracked.last_append (hs : Tracked cfg h s) {event : FsEvent}
    {files : String → Option CrashFile}
    (hfiles : ∀ name file, files name = some file → file.version < s.nextVersion →
      s.files name = some file)
    (hnew : ∀ file, files event.name = some file → file.version = s.nextVersion)
    (before : List FsEvent) (e : FsEvent) (after : List FsEvent)
    (hsplit : s.events ++ [event] = before ++ e :: after) (hop : e.op = .create) (file : CrashFile)
    (hfile : files e.name = some file) (hversion : file.version = e.version) :
    ∀ event' ∈ after, event'.name ≠ e.name := by
  rcases List.eq_nil_or_concat after with rfl | ⟨after', e', rfl⟩
  · intro event' hmem
    exact absurd hmem List.not_mem_nil
  · rw [List.concat_eq_append, ← List.cons_append, ← List.append_assoc] at hsplit
    obtain ⟨hold, hsame⟩ := List.append_inj' hsplit rfl
    obtain rfl := List.singleton_inj.mp hsame
    have hlt := hs.event_lt e (by rw [hold]; simp)
    have hlast := hs.last before e after' hold hop file
      (hfiles _ _ hfile (by rw [hversion]; exact hlt)) hversion
    rw [List.concat_eq_append]
    intro event' hmem
    rcases List.mem_append.mp hmem with hmem | hmem
    · exact hlast event' hmem
    · obtain rfl := List.mem_singleton.mp hmem
      intro heq
      rw [← heq] at hfile
      have hn := hnew file hfile
      omega

/-- **Putting a file in place** keeps the invariant, if its path is clear. -/
theorem Tracked.place (hs : Tracked cfg s.hand s) {regular : Bool} {modTime : Int}
    {data : Option Bytes} (hready : Ready cfg s (.place name regular modTime data))
    (hstep : s.step cfg (.place name regular modTime data) = some t) :
    Tracked cfg t.hand t := by
  have hq : Queues s ⟨name, .create, s.nextVersion⟩ t := by
    obtain rfl := Option.some.inj hstep
    exact ⟨rfl, rfl, rfl, rfl⟩
  obtain rfl := Option.some.inj hstep
  have hfiles (name' : String) (file : CrashFile) (hfile : Function.update s.files name
      (some ⟨s.nextVersion, regular, modTime, data⟩) name' = some file) :
      (name' = name ∧ file = ⟨s.nextVersion, regular, modTime, data⟩) ∨
        (name' ≠ name ∧ s.files name' = some file) := by
    by_cases hname : name' = name
    · subst hname
      rw [Function.update_self, Option.some_inj] at hfile
      exact .inl ⟨rfl, hfile.symm⟩
    · rw [Function.update_of_ne hname] at hfile
      exact .inr ⟨hname, hfile⟩
  have hfresh : s.emittedVersions.count s.nextVersion = 0 :=
    List.count_eq_zero.mpr fun hmem => absurd (hs.emitted_lt _ hmem) (Nat.lt_irrefl _)
  refine ⟨fun name' file hfile => ?_, fun name₁ name₂ file₁ file₂ h₁ h₂ heq => ?_,
    fun version hmem => Nat.lt_succ_of_lt (hs.emitted_lt version hmem), fun event hmem => ?_,
    hs.starting, fun name' version hhand => Nat.lt_succ_of_lt (hs.hand_lt name' version hhand),
    fun name' version hhand file hfile hversion => ?_,
    fun before event after hsplit hop file hfile hversion => ?_,
    fun name' file hfile hwants => ?_, fun name' file hfile hwants hann => ?_,
    ⟨hs.emitsOnce.nodup, hs.emitsOnce.due⟩⟩
  · rcases hfiles name' file hfile with ⟨-, rfl⟩ | ⟨-, hold⟩
    · exact Nat.lt_succ_self _
    · exact Nat.lt_succ_of_lt (hs.version_lt name' file hold)
  · rcases hfiles name₁ file₁ h₁ with ⟨rfl, rfl⟩ | ⟨-, hold₁⟩
    · rcases hfiles name₂ file₂ h₂ with ⟨rfl, rfl⟩ | ⟨-, hold₂⟩
      · rfl
      · exact absurd heq (Nat.ne_of_gt (hs.version_lt name₂ file₂ hold₂))
    · rcases hfiles name₂ file₂ h₂ with ⟨rfl, rfl⟩ | ⟨-, hold₂⟩
      · exact absurd heq (Nat.ne_of_lt (hs.version_lt name₁ file₁ hold₁))
      · exact hs.version_inj name₁ name₂ file₁ file₂ hold₁ hold₂ heq
  · rcases List.mem_append.mp hmem with hmem | hmem
    · exact Nat.lt_succ_of_lt (hs.event_lt event hmem)
    · rw [List.mem_singleton.mp hmem]
      exact Nat.lt_succ_self _
  · rcases hfiles name' file hfile with ⟨rfl, rfl⟩ | ⟨hne, hold⟩
    · exact absurd hversion (Nat.ne_of_gt (hs.hand_lt name' version hhand))
    · exact hs.hand_append hq hhand hne hold hversion
  · refine hs.last_append (fun name' file hfile hlt => ?_) (fun file hfile => ?_) before event after
      hsplit hop file hfile hversion
    · rcases hfiles name' file hfile with ⟨-, rfl⟩ | ⟨-, hold⟩
      · exact absurd hlt (Nat.lt_irrefl _)
      · exact hold
    · rcases hfiles name file hfile with ⟨-, rfl⟩ | ⟨hne, -⟩
      · rfl
      · exact absurd rfl hne
  · rcases hfiles name' file hfile with ⟨rfl, rfl⟩ | ⟨hne, hold⟩
    · rw [hq.copies_eq, hfresh, eventVisit, if_pos rfl, if_pos rfl, Nat.zero_add]
      exact Nat.le_of_eq (emissions_of_clear (hready hwants).2)
    · exact (hs.other hq hne hold hwants).1
  · rcases hfiles name' file hfile with ⟨rfl, rfl⟩ | ⟨hne, hold⟩
    · refine ⟨(hready hwants).1, ?_⟩
      rw [hq.copies_eq, hfresh, eventVisit, if_pos rfl, if_pos rfl, Nat.zero_add]
      exact emissions_of_clear (hready hwants).2
    · exact (hs.other hq hne hold hwants).2 hann

/-- **Removing a file** keeps the invariant. -/
theorem Tracked.remove (hs : Tracked cfg s.hand s) {moved : Bool}
    (hstep : s.step cfg (.remove name moved) = some t) : Tracked cfg t.hand t := by
  rw [step] at hstep
  split at hstep
  case h_1 => cases hstep
  case h_2 removed hremoved =>
  have hq : Queues s ⟨name, if moved then .rename else .remove, removed.version⟩ t := by
    obtain rfl := Option.some.inj hstep
    exact ⟨rfl, rfl, rfl, rfl⟩
  obtain rfl := Option.some.inj hstep
  have hfiles (name' : String) (file : CrashFile)
      (hfile : Function.update s.files name none name' = some file) :
      name' ≠ name ∧ s.files name' = some file := by
    by_cases hname : name' = name
    · subst hname
      rw [Function.update_self] at hfile
      cases hfile
    · rw [Function.update_of_ne hname] at hfile
      exact ⟨hname, hfile⟩
  refine ⟨fun name' file hfile => hs.version_lt name' file (hfiles name' file hfile).2,
    fun name₁ name₂ file₁ file₂ h₁ h₂ => hs.version_inj name₁ name₂ file₁ file₂
      (hfiles name₁ file₁ h₁).2 (hfiles name₂ file₂ h₂).2,
    hs.emitted_lt, fun event hmem => ?_, hs.starting, hs.hand_lt,
    fun name' version hhand file hfile hversion => ?_,
    fun before event after hsplit hcreate file hfile hversion => ?_,
    fun name' file hfile hwants => ?_, fun name' file hfile hwants hann => ?_,
    ⟨hs.emitsOnce.nodup, hs.emitsOnce.due⟩⟩
  · rcases List.mem_append.mp hmem with hmem | hmem
    · exact hs.event_lt event hmem
    · rw [List.mem_singleton.mp hmem]
      exact hs.version_lt name removed hremoved
  · obtain ⟨hne, hold⟩ := hfiles name' file hfile
    exact hs.hand_append hq hhand hne hold hversion
  · refine hs.last_append (fun name' file hfile _ => (hfiles name' file hfile).2)
      (fun file hfile => absurd rfl (hfiles name file hfile).1) before event after hsplit hcreate
        file hfile hversion
  · obtain ⟨hne, hold⟩ := hfiles name' file hfile
    exact (hs.other hq hne hold hwants).1
  · obtain ⟨hne, hold⟩ := hfiles name' file hfile
    exact (hs.other hq hne hold hwants).2 hann

/-! ## The receiver -/

/-- **Reading the directory** keeps the invariant, whatever entries it brings. -/
theorem Tracked.readDir (hs : Tracked cfg s.hand s) {entries : List String}
    (hstep : s.step cfg (.readDir entries) = some t) : Tracked cfg t.hand t := by
  obtain ⟨hstarting, ht⟩ := Option.ite_none_right_eq_some.mp hstep
  obtain rfl := Option.some.inj ht
  have hhand : s.hand = none := hs.starting hstarting
  have hbefore (name : String) : s.visits s.hand name =
      .look :: s.events.filterMap (eventVisit name) := by
    rw [visits, hhand, hstarting]
    rfl
  have hafter (name : String) : visits s.hand { s with phase := .scanning entries } name =
      List.replicate (entries.count name) .look ++ s.events.filterMap (eventVisit name) := by
    rw [visits, hhand]
    rfl
  have hle (name : String) (file : CrashFile) :
      copies s.hand { s with phase := .scanning entries } name file ≤ s.copies s.hand name file := by
    rw [copies, copies, hbefore, hafter]
    refine Nat.add_le_add_left ?_ _
    cases entries.count name with
    | zero => exact emissions_le_look _ _
    | succ k => exact Nat.le_of_eq (emissions_replicate _ k _)
  refine ⟨hs.version_lt, hs.version_inj, hs.emitted_lt, hs.event_lt, fun h => (by cases h),
    hs.hand_lt, fun name version h => ?_, hs.last,
    fun name file hfile hwants => Nat.le_trans (hle name file) (hs.once name file hfile hwants),
    fun name file hfile hwants hann => ?_, ⟨hs.emitsOnce.nodup, hs.emitsOnce.due⟩⟩
  · exact absurd (hhand.symm.trans h) (by simp)
  · refine (hs.announced name file hfile hwants hann).imp_right fun hcopies => ?_
    change copies s.hand { s with phase := .scanning entries } name file = 1
    have hlook : .look ∈ s.events.filterMap (eventVisit name) := by
      have hmem : ⟨name, .create, file.version⟩ ∈ s.events :=
        hann.resolve_right fun h => absurd (hhand.symm.trans h) (by simp)
      exact List.mem_filterMap.mpr ⟨_, hmem, if_pos rfl⟩
    rw [copies, hbefore] at hcopies
    rw [copies, hafter]
    cases entries.count name with
    | succ k => rw [emissions_replicate]; exact hcopies
    | zero =>
      have hle := emissions_le_look (s.processedFiles name)
        (s.events.filterMap (eventVisit name))
      change s.emittedVersions.count file.version +
        emissions (s.processedFiles name) (s.events.filterMap (eventVisit name)) = 1
      rcases Nat.eq_zero_or_pos (s.emittedVersions.count file.version) with hzero | hpos
      · rw [hzero, Nat.zero_add] at hcopies ⊢
        exact emissions_eq_of_look hlook hcopies
      · omega

/-- What is waiting may be taken from one place to another. -/
theorem Tracked.of_visits {h' : Hand} (hs : Tracked cfg h s) (hfiles : t.files = s.files)
    (hnext : t.nextVersion = s.nextVersion) (hevents : ∃ before, s.events = before ++ t.events)
    (hmarks : t.processedFiles = s.processedFiles) (hemitted : t.emitted = s.emitted)
    (hdue : t.due = s.due) (hstarting : t.phase ≠ .starting)
    (hlt : ∀ name version, h' = some (name, some version) → version < s.nextVersion)
    (hlast : ∀ name version, h' = some (name, some version) → ∀ file,
      s.files name = some file → file.version = version →
        t.phase = .watching ∧ ∀ event ∈ t.events, event.name ≠ name)
    (hvisits : ∀ name, t.visits h' name = s.visits h name)
    (hann : ∀ name version, t.Announced h' name version → s.Announced h name version) :
    Tracked cfg h' t := by
  obtain ⟨old, hold⟩ := hevents
  have hcopies (name : String) (file : CrashFile) : t.copies h' name file = s.copies h name file := by
    rw [copies, copies, hvisits, hmarks, emittedVersions, hemitted, emittedVersions]
  have hversions : t.emittedVersions = s.emittedVersions := by
    rw [emittedVersions, hemitted, emittedVersions]
  refine ⟨by rw [hfiles, hnext]; exact hs.version_lt, by rw [hfiles]; exact hs.version_inj,
    by rw [hversions, hnext]; exact hs.emitted_lt, fun event hmem => ?_,
    fun h => absurd h hstarting, by rw [hnext]; exact hlt, by rw [hfiles]; exact hlast,
    fun before event after hsplit => ?_, fun name file hfile hwants => ?_,
    fun name file hfile hwants ha => ?_, ⟨?_, ?_⟩⟩
  · rw [hnext]
    exact hs.event_lt event (by rw [hold]; exact List.mem_append_right _ hmem)
  · rw [hfiles]
    exact hs.last (old ++ before) event after (by rw [hold, hsplit, List.append_assoc])
  · rw [hfiles] at hfile
    rw [hcopies]
    exact hs.once name file hfile hwants
  · rw [hfiles] at hfile
    rw [hcopies]
    exact hs.announced name file hfile hwants (hann name _ ha)
  · rw [hversions]
    exact hs.emitsOnce.nodup
  · rw [hversions, hdue]
    exact hs.emitsOnce.due

/-- What is waiting for a path that is being looked at. -/
theorem visits_hand (origin : Option Nat) (name' : String) :
    t.visits (some (name, origin)) name' =
      if name = name' then .look :: t.visits none name' else t.visits none name' := by
  by_cases hname : name = name'
  · rw [if_pos hname, visits, handLook, if_pos hname]
    rfl
  · rw [if_neg hname, visits, handLook, if_neg hname]
    rfl

/-- A version whose `Create` event is being handled has no other look to come. -/
theorem Tracked.visits_eq_nil {version : Nat} (ht : Tracked cfg (some (name, some version)) t)
    {file : CrashFile} (hfile : t.files name = some file) (hversion : file.version = version) :
    t.visits none name = [] := by
  obtain ⟨hphase, hother⟩ := ht.hand_last name version rfl file hfile hversion
  rw [visits, hphase]
  exact List.filterMap_eq_nil_iff.mpr fun event hmem => if_neg (hother event hmem)

/-- A look at a path emits nothing if the path is marked, and need not if the file in place was not
announced. -/
theorem Tracked.drop {origin : Option Nat} (ht : Tracked cfg (some (name, origin)) t)
    (hdrop : ∀ file, t.files name = some file → cfg.wants name file →
      t.Announced (some (name, origin)) name file.version → t.processedFiles name = true) :
    Tracked cfg none t := by
  have hle (name' : String) (file : CrashFile) :
      t.copies none name' file ≤ t.copies (some (name, origin)) name' file := by
    rw [copies, copies, visits_hand]
    refine Nat.add_le_add_left ?_ _
    split
    case isTrue => exact emissions_le_look _ _
    case isFalse => exact Nat.le_refl _
  refine ⟨ht.version_lt, ht.version_inj, ht.emitted_lt, ht.event_lt, fun _ => rfl,
    fun _ _ h => (by cases h), fun _ _ h => (by cases h), ht.last,
    fun name' file hfile hwants => Nat.le_trans (hle name' file) (ht.once name' file hfile hwants),
    fun name' file hfile hwants hann => ?_, ht.emitsOnce⟩
  have hann' : t.Announced (some (name, origin)) name' file.version :=
    .inl (hann.resolve_right fun h => by cases h)
  refine (ht.announced name' file hfile hwants hann').imp_right fun hcopies => ?_
  rw [copies, visits_hand] at hcopies
  rw [copies]
  by_cases hname : name = name'
  · subst hname
    rw [if_pos rfl, hdrop file hfile hwants hann'] at hcopies
    rw [hdrop file hfile hwants hann']
    exact hcopies
  · rw [if_neg hname] at hcopies
    exact hcopies

/-- The handling of a path ends, with the version emitted that was due. -/
theorem Tracked.handled (ht : Tracked cfg none t) (name : String) (origin : Option Nat)
    (hdue : ∀ file, t.files name = some file → cfg.wants name file →
      origin = some file.version → file.version ∈ t.emittedVersions) :
    Tracked cfg none (t.handled cfg name origin) := by
  rw [CrashlogState.handled]
  split
  case h_1 => exact ht
  case h_2 file hfile =>
  split
  case isFalse => exact ht
  case isTrue hcond =>
  refine ⟨ht.version_lt, ht.version_inj, ht.emitted_lt, ht.event_lt, ht.starting, ht.hand_lt,
    ht.hand_last, ht.last, ht.once, ht.announced, ht.emitsOnce.nodup, fun version hmem => ?_⟩
  rcases List.mem_cons.mp hmem with rfl | hmem
  · exact hdue file hfile hcond.2 hcond.1
  · exact ht.emitsOnce.due version hmem

theorem inspecting_handled (cfg : CrashlogConfig) (name : String) (origin : Option Nat)
    (t : CrashlogState) : (t.handled cfg name origin).inspecting = t.inspecting := by
  rw [CrashlogState.handled]
  split
  · rfl
  · split
    · rfl
    · rfl

/-- Nothing is in hand when the handling of a path has ended. -/
theorem Tracked.ends {origin : Option Nat} (ht : Tracked cfg none t) (hidle : t.inspecting = none)
    (hdue : ∀ file, t.files name = some file → cfg.wants name file →
      origin = some file.version → file.version ∈ t.emittedVersions) :
    Tracked cfg (t.handled cfg name origin).hand (t.handled cfg name origin) ∧
      Inspects cfg (t.handled cfg name origin) := by
  have hnone : (t.handled cfg name origin).inspecting = none := by
    rw [inspecting_handled, hidle]
  rw [hand, hnone]
  exact ⟨ht.handled name origin hdue, fun i h => absurd (hnone.symm.trans h) (by simp),
    fun i file h => absurd (hnone.symm.trans h) (by simp)⟩

/-- **Looking at a path** keeps the invariant. -/
theorem Tracked.handlePath {origin : Option Nat} (ht : Tracked cfg (some (name, origin)) t)
    (hidle : t.inspecting = none) :
    Tracked cfg (handlePath cfg name origin t).hand (handlePath cfg name origin t) ∧
      Inspects cfg (handlePath cfg name origin t) := by
  -- nothing comes of the look: a wanted file in place is marked, so it has been emitted
  have hskip (hmarked : ∀ file, t.files name = some file → cfg.wants name file →
      t.processedFiles name = true) :
      Tracked cfg (t.handled cfg name origin).hand (t.handled cfg name origin) ∧
        Inspects cfg (t.handled cfg name origin) := by
    have htracked := ht.drop fun file hfile hwants _ => hmarked file hfile hwants
    refine htracked.ends hidle fun file hfile hwants horigin => ?_
    subst horigin
    obtain ⟨-, hcopies⟩ := ht.announced name file hfile hwants (.inr rfl)
    rw [copies, visits_hand, if_pos rfl, ht.visits_eq_nil hfile rfl,
      hmarked file hfile hwants] at hcopies
    have hcount : t.emittedVersions.count file.version + 0 = 1 := hcopies
    exact List.count_pos_iff.mp (by omega)
  rw [CrashlogState.handlePath]
  split
  case isTrue hglob =>
    refine hskip fun file _ hwants => ?_
    simp [CrashlogConfig.wants] at hwants hglob
    simp [hglob] at hwants
  case isFalse hglob =>
  split
  case h_1 hnone => exact hskip fun file hfile => by simp [hnone] at hfile
  case h_2 info hinfo =>
  have hfile (file : CrashFile) (h : t.files name = some file) : file = info :=
    Option.some.inj (h.symm.trans hinfo)
  split
  case isTrue hregular =>
    refine hskip fun file h hwants => ?_
    rw [hfile file h] at hwants
    simp [CrashlogConfig.wants] at hwants hregular
    simp [hregular] at hwants
  case isFalse hregular =>
  split
  case isTrue hold =>
    refine hskip fun file h hwants => ?_
    rw [hfile file h] at hwants
    simp [CrashlogConfig.wants] at hwants
    omega
  case isFalse hold =>
  split
  case isTrue hmarked => exact hskip fun _ _ _ => hmarked
  case isFalse hmarked =>
    refine ⟨⟨ht.version_lt, ht.version_inj, ht.emitted_lt, ht.event_lt, ht.starting, ht.hand_lt,
      ht.hand_last, ht.last, ht.once, ht.announced, ht.emitsOnce.nodup, ht.emitsOnce.due⟩, ?_, ?_⟩
    · intro i hi
      obtain rfl := Option.some.inj hi
      exact Bool.eq_false_iff.mpr hmarked
    · intro i file hi h hunwanted
      obtain rfl := Option.some.inj hi
      obtain rfl := hfile file h
      simp [CrashlogConfig.wants] at hunwanted hglob hregular
      have hlt := hunwanted hglob hregular
      omega

/-- The contents of a file are emitted, and its path is marked. -/
def recorded (name : String) (record : Nat × CrashlogRecord) (s : CrashlogState) : CrashlogState :=
  { s with
    processedFiles := Function.update s.processedFiles name true
    emitted := s.emitted ++ [record] }

theorem emittedVersions_recorded (name : String) (record : Nat × CrashlogRecord)
    (t : CrashlogState) :
    (t.recorded name record).emittedVersions = t.emittedVersions ++ [record.1] := List.map_append

section Recorded

variable {origin : Option Nat} {file : CrashFile} {record : Nat × CrashlogRecord}

/-- The look at an unmarked path has become a record of the file in place; nothing else changes. -/
theorem Tracked.copies_recorded (ht : Tracked cfg (some (name, origin)) t)
    (hfile : t.files name = some file) (hrecord : record.1 = file.version)
    (hmark : t.processedFiles name = false) {name' : String} {file' : CrashFile}
    (h : t.files name' = some file') :
    (t.recorded name record).copies none name' file' =
      t.copies (some (name, origin)) name' file' := by
  rw [copies, copies, visits_hand, emittedVersions_recorded, hrecord, List.count_append]
  change _ + _ + emissions (Function.update t.processedFiles name true name')
    (t.visits none name') = _
  by_cases hname : name = name'
  · subst hname
    obtain rfl := Option.some.inj (h.symm.trans hfile)
    rw [Function.update_self, if_pos rfl, hmark, List.count_singleton_self, Nat.add_assoc,
      Nat.add_comm 1]
    rfl
  · have hversion : file.version ≠ file'.version :=
      fun heq => hname (ht.version_inj _ _ _ _ hfile h heq)
    rw [Function.update_of_ne (Ne.symm hname), if_neg hname, List.count_singleton,
      if_neg (by simpa using hversion), Nat.add_zero]

/-- **Emitting a file** in place keeps the invariant, and ends the look at its path. -/
theorem Tracked.recorded (ht : Tracked cfg (some (name, origin)) t)
    (hfile : t.files name = some file) (hrecord : record.1 = file.version)
    (hmark : t.processedFiles name = false)
    (hunwanted : cfg.wants name file = false → file.version ∉ t.emittedVersions) :
    Tracked cfg none (t.recorded name record) := by
  have hversions := emittedVersions_recorded name record t
  have hcopies {name' : String} {file' : CrashFile} (h : t.files name' = some file') :=
    ht.copies_recorded hfile hrecord hmark h
  rw [hrecord] at hversions
  -- a wanted file was not emitted before, for it is emitted once at most
  have hfresh : file.version ∉ t.emittedVersions := by
    cases hwants : cfg.wants name file with
    | false => exact hunwanted hwants
    | true =>
      have honce := ht.once name file hfile hwants
      rw [← hcopies hfile, copies, hversions, List.count_append,
        List.count_singleton_self] at honce
      exact List.count_eq_zero.mp (by omega)
  refine ⟨ht.version_lt, ht.version_inj, fun version hmem => ?_, ht.event_lt, fun _ => rfl,
    fun _ _ h => (by cases h), fun _ _ h => (by cases h), ht.last,
    fun name' file' h hwants => ?_, fun name' file' h hwants hann => ?_, ?_,
    fun version hmem => ?_⟩
  · rw [hversions] at hmem
    rcases List.mem_append.mp hmem with hmem | hmem
    · exact ht.emitted_lt version hmem
    · rw [List.mem_singleton.mp hmem]
      exact ht.version_lt name file hfile
  · rw [hcopies h]
    exact ht.once name' file' h hwants
  · rw [hcopies h]
    exact ht.announced name' file' h hwants (.inl (hann.resolve_right fun h => by cases h))
  · rw [hversions, ← List.concat_eq_append]
    exact ht.emitsOnce.nodup.concat hfresh
  · rw [hversions]
    exact List.mem_append_left _ (ht.emitsOnce.due version hmem)

/-- A file in place that cannot be read was not announced. -/
theorem Tracked.not_announced (ht : Tracked cfg h t) (hfile : t.files name = some file)
    (hdata : file.data = none) (hwants : cfg.wants name file) :
    ¬t.Announced h name file.version := by
  intro hann
  have hsome := (ht.announced name file hfile hwants hann).1
  rw [hdata] at hsome
  cases hsome

end Recorded

/-- **Reading the file** keeps the invariant. -/
theorem Tracked.emitFile (hs : Tracked cfg s.hand s) (hinspects : Inspects cfg s) {i : Inspection}
    (hi : s.inspecting = some i) :
    Tracked cfg (emitFile cfg i s).hand (emitFile cfg i s) ∧ Inspects cfg (emitFile cfg i s) := by
  have hhand : s.hand = some (i.name, i.origin) := by rw [hand, hi]; rfl
  -- the look is in hand, and the receiver no longer inspects
  let t : CrashlogState := { s with inspecting := none }
  have ht : Tracked cfg (some (i.name, i.origin)) t := by
    rw [hhand] at hs
    exact ⟨hs.version_lt, hs.version_inj, hs.emitted_lt, hs.event_lt, hs.starting, hs.hand_lt,
      hs.hand_last, hs.last, hs.once, hs.announced, hs.emitsOnce.nodup, hs.emitsOnce.due⟩
  rw [CrashlogState.emitFile]
  split
  case h_1 hnone =>
    have hnofile (file : CrashFile) : t.files i.name ≠ some file := by
      intro h
      have hcontra := h.symm.trans hnone
      cases hcontra
    exact (ht.drop fun file h => absurd h (hnofile file)).ends rfl
      fun file h => absurd h (hnofile file)
  case h_2 file hfile =>
  have hfile' (file' : CrashFile) (h : t.files i.name = some file') : file' = file :=
    Option.some.inj (h.symm.trans hfile)
  split
  case h_1 hdata =>
    have hunread (file' : CrashFile) (h : t.files i.name = some file')
        (hwants : cfg.wants i.name file') :
        ¬t.Announced (some (i.name, i.origin)) i.name file'.version :=
      ht.not_announced h (by rw [hfile' file' h, hdata]) hwants
    exact (ht.drop fun file' h hwants hann => absurd hann (hunread file' h hwants)).ends rfl
      fun file' h hwants horigin => absurd (.inr (by rw [horigin])) (hunread file' h hwants)
  case h_2 data hdata =>
    let record := (file.version, crashlogRecord cfg i.name i.info data)
    have hu : Tracked cfg none (t.recorded i.name record) :=
      ht.recorded hfile rfl (hinspects.unmarked i hi) (hinspects.unwanted i file hi hfile)
    refine hu.ends rfl fun file' h _ _ => ?_
    rw [hfile' file' h, emittedVersions_recorded]
    exact List.mem_append_right _ (List.mem_singleton_self _)

/-- The receiver takes the next entry of the scan. -/
theorem Tracked.scanEntry (hs : Tracked cfg s.hand s)
    (hstep : s.step cfg .scanEntry = some t) : Tracked cfg t.hand t ∧ Inspects cfg t := by
  rw [step] at hstep
  split at hstep
  case h_2 => cases hstep
  case h_1 name entries hphase hidle =>
  obtain rfl := Option.some.inj hstep
  have hhand : s.hand = none := by rw [hand, hidle]; rfl
  rw [hhand] at hs
  refine Tracked.handlePath (hs.of_visits rfl rfl ⟨[], rfl⟩ rfl rfl rfl (by simp)
    (fun _ _ h => (by simp at h)) (fun _ _ h => (by simp at h)) (fun name' => ?_)
    fun name' version h => h.imp_right fun h => (by simp at h)) hidle
  rw [visits_hand, visits, visits, hphase, scanLooks, scanLooks]
  by_cases hname : name = name'
  · rw [if_pos hname, hname, List.count_cons_self]
    rfl
  · rw [if_neg hname, List.count_cons_of_ne hname]

/-- The receiver finds that there are no more entries. -/
theorem Tracked.scanDone (hs : Tracked cfg s.hand s) (hstep : s.step cfg .scanDone = some t) :
    Tracked cfg t.hand t ∧ Inspects cfg t := by
  rw [step] at hstep
  split at hstep
  case h_2 => cases hstep
  case h_1 hphase hidle =>
  obtain rfl := Option.some.inj hstep
  have hhand : s.hand = none := by rw [hand, hidle]; rfl
  change Tracked cfg s.hand _ ∧ _
  rw [hhand] at hs ⊢
  refine ⟨hs.of_visits rfl rfl ⟨[], rfl⟩ rfl rfl rfl (by simp) (fun _ _ h => (by cases h))
    (fun _ _ h => (by cases h)) (fun name => ?_) (fun _ _ h => h),
    fun i h => absurd (hidle.symm.trans h) (by simp),
    fun i file h => absurd (hidle.symm.trans h) (by simp)⟩
  rw [visits, visits, hphase]
  rfl

section NextEvent

variable {event : FsEvent} {events : List FsEvent}

/-- What is waiting while an event is the next. -/
theorem visits_of_event (hphase : s.phase = .watching) (hevents : s.events = event :: events)
    (name : String) : s.visits none name =
      (eventVisit name event).toList ++ visits none { s with events := events } name := by
  rw [visits, visits, hphase, hevents, List.filterMap_cons]
  cases eventVisit name event with
  | none => rfl
  | some v => rfl

/-- A removal takes back the mark of the path, as was due. -/
theorem copies_of_event (hphase : s.phase = .watching) (hevents : s.events = event :: events)
    (hop : event.op ≠ .create) (name : String) (file : CrashFile) :
    copies none { s with
      events := events
      processedFiles := Function.update s.processedFiles event.name false } name file =
      s.copies none name file := by
  rw [copies, copies, visits_of_event hphase hevents, eventVisit, if_neg hop]
  change _ + emissions (Function.update s.processedFiles event.name false name)
    (visits none { s with events := events } name) = _
  by_cases hname : event.name = name
  · rw [if_pos hname, ← hname, Function.update_self]
    cases s.processedFiles event.name with
    | true => rfl
    | false => rfl
  · rw [if_neg hname, Function.update_of_ne (Ne.symm hname)]
    rfl

/-- The receiver takes a removal. -/
theorem Tracked.takeRemoval (hs : Tracked cfg none s) (hphase : s.phase = .watching)
    (hidle : s.inspecting = none) (hevents : s.events = event :: events) (hop : event.op ≠ .create)
    (ht : t = { s with
      events := events
      processedFiles := Function.update s.processedFiles event.name false }) :
    Tracked cfg t.hand t ∧ Inspects cfg t := by
  have hcopies (name : String) (file : CrashFile) :
      t.copies none name file = s.copies none name file := by
    rw [ht]
    exact copies_of_event hphase hevents hop name file
  have hidle' : t.inspecting = none := by rw [ht]; exact hidle
  have hhand' : t.hand = none := by rw [hand, hidle']; rfl
  rw [hhand']
  subst ht
  refine ⟨⟨hs.version_lt, hs.version_inj, hs.emitted_lt, fun e hmem => hs.event_lt e ?_,
    fun _ => rfl, fun _ _ h => (by cases h), fun _ _ h => (by cases h),
    fun before e after hsplit => hs.last (event :: before) e after ?_,
    fun name file hfile hwants => ?_, fun name file hfile hwants hann => ?_,
    hs.emitsOnce.nodup, hs.emitsOnce.due⟩, fun i h => absurd (hidle'.symm.trans h) (by simp),
    fun i file h => absurd (hidle'.symm.trans h) (by simp)⟩
  · rw [hevents]
    exact List.mem_cons_of_mem _ hmem
  · rw [hevents, List.cons_append]
    exact congrArg _ hsplit
  · rw [hcopies]
    exact hs.once name file hfile hwants
  · rw [hcopies]
    refine hs.announced name file hfile hwants (hann.imp_left fun hmem => ?_)
    rw [hevents]
    exact List.mem_cons_of_mem _ hmem

/-- The receiver takes the event of a new file and looks at its path. -/
theorem Tracked.takeCreate (hs : Tracked cfg none s) (hphase : s.phase = .watching)
    (hidle : s.inspecting = none) (hevents : s.events = event :: events) (hop : event.op = .create)
    (ht : t = CrashlogState.handlePath cfg event.name (some event.version)
      { s with events := events }) :
    Tracked cfg t.hand t ∧ Inspects cfg t := by
  have hevent : event = ⟨event.name, .create, event.version⟩ := by rw [← hop]
  have hmem : event ∈ s.events := by rw [hevents]; exact List.mem_cons_self
  subst ht
  refine Tracked.handlePath (hs.of_visits rfl rfl ⟨[event], hevents⟩ rfl rfl rfl
    (fun h => absurd (hphase.symm.trans h) (by simp)) (fun name version h => ?_)
    (fun name version h file hfile hversion => ⟨hphase, fun e he => ?_⟩)
    (fun name => ?_) fun name version h => ?_) hidle
  · obtain ⟨-, hv⟩ := Prod.mk.inj (Option.some.inj h)
    obtain rfl := Option.some.inj hv
    exact hs.event_lt event hmem
  · obtain ⟨rfl, hv⟩ := Prod.mk.inj (Option.some.inj h)
    obtain rfl := Option.some.inj hv
    exact hs.last [] event events hevents hop file hfile hversion e he
  · rw [visits_hand, visits_of_event hphase hevents, eventVisit, if_pos hop]
    by_cases hname : event.name = name
    · rw [if_pos hname, if_pos hname]
      rfl
    · rw [if_neg hname, if_neg hname]
      rfl
  · left
    rcases h with h | h
    · rw [hevents]
      exact List.mem_cons_of_mem _ h
    · obtain ⟨rfl, hv⟩ := Prod.mk.inj (Option.some.inj h)
      obtain rfl := Option.some.inj hv
      rw [← hevent]
      exact hmem

end NextEvent

/-- The receiver takes the next event. -/
theorem Tracked.nextEvent (hs : Tracked cfg s.hand s)
    (hstep : s.step cfg .nextEvent = some t) : Tracked cfg t.hand t ∧ Inspects cfg t := by
  rw [step] at hstep
  split at hstep
  case h_2 => cases hstep
  case h_1 event events hphase hidle hevents =>
  have hhand : s.hand = none := by rw [hand, hidle]; rfl
  rw [hhand] at hs
  cases hop : event.op with
  | create =>
    rw [hop] at hstep
    exact hs.takeCreate hphase hidle hevents hop (Option.some.inj hstep).symm
  | remove =>
    rw [hop] at hstep
    exact hs.takeRemoval hphase hidle hevents (by rw [hop]; decide) (Option.some.inj hstep).symm
  | rename =>
    rw [hop] at hstep
    exact hs.takeRemoval hphase hidle hevents (by rw [hop]; decide) (Option.some.inj hstep).symm

/-- What the directory does keeps what is known of the file that is read next. -/
theorem Inspects.place (hinspects : Inspects cfg s) (hs : Tracked cfg s.hand s) {regular : Bool}
    {modTime : Int} {data : Option Bytes}
    (hstep : s.step cfg (.place name regular modTime data) = some t) : Inspects cfg t := by
  obtain rfl := Option.some.inj hstep
  refine ⟨hinspects.unmarked, fun i file hi hfile hunwanted hmem => ?_⟩
  by_cases hname : i.name = name
  · change Function.update _ _ _ _ = _ at hfile
    rw [hname, Function.update_self] at hfile
    obtain rfl := Option.some.inj hfile
    exact absurd (hs.emitted_lt _ hmem) (Nat.lt_irrefl _)
  · change Function.update _ _ _ _ = _ at hfile
    rw [Function.update_of_ne hname] at hfile
    exact hinspects.unwanted i file hi hfile hunwanted hmem

/-- A removal. -/
theorem Inspects.remove (hinspects : Inspects cfg s) {moved : Bool}
    (hstep : s.step cfg (.remove name moved) = some t) : Inspects cfg t := by
  rw [step] at hstep
  split at hstep
  case h_1 => cases hstep
  case h_2 =>
  obtain rfl := Option.some.inj hstep
  refine ⟨hinspects.unmarked, fun i file hi hfile hunwanted => ?_⟩
  change Function.update _ _ _ _ = _ at hfile
  by_cases hname : i.name = name
  · rw [hname, Function.update_self] at hfile
    cases hfile
  · rw [Function.update_of_ne hname] at hfile
    exact hinspects.unwanted i file hi hfile hunwanted

/-! ## Runs -/

/-- **Every step keeps the invariant** if wanted versions are put in place at clear paths. -/
theorem Tracked.step {a : CrashlogAction} (h : Tracked cfg s.hand s ∧ Inspects cfg s)
    (hready : Ready cfg s a) (hstep : s.step cfg a = some t) :
    Tracked cfg t.hand t ∧ Inspects cfg t := by
  obtain ⟨hs, hinspects⟩ := h
  cases a with
  | place name regular modTime data => exact ⟨hs.place hready hstep, hinspects.place hs hstep⟩
  | remove name moved => exact ⟨hs.remove hstep, hinspects.remove hstep⟩
  | readDir entries =>
    refine ⟨hs.readDir hstep, ?_⟩
    obtain ⟨-, ht⟩ := Option.ite_none_right_eq_some.mp hstep
    obtain rfl := Option.some.inj ht
    exact ⟨hinspects.unmarked, hinspects.unwanted⟩
  | scanEntry => exact hs.scanEntry hstep
  | scanDone => exact hs.scanDone hstep
  | nextEvent => exact hs.nextEvent hstep
  | readFile =>
    rw [CrashlogState.step] at hstep
    split at hstep
    case h_1 => cases hstep
    case h_2 i hi =>
    obtain rfl := Option.some.inj hstep
    exact hs.emitFile hinspects hi

/-- The invariant holds when the watch has been added. -/
theorem Started.tracked (hs : s.Started) : Tracked cfg s.hand s ∧ Inspects cfg s := by
  have hhand : s.hand = none := by rw [hand, hs.inspecting]; rfl
  have hversions : s.emittedVersions = [] := by rw [emittedVersions, hs.emitted]; rfl
  have hcopies (name : String) (file : CrashFile) : s.copies none name file = 1 := by
    rw [copies, hversions, visits, hs.phase, hs.events, hs.processedFiles]
    rfl
  rw [hhand]
  refine ⟨⟨hs.version_lt, fun name name' file file' h h' => hs.version_inj name name' file file' h h',
    fun version h => ?_, fun event h => ?_, fun _ => rfl, fun _ _ h => (by cases h),
    fun _ _ h => (by cases h), fun before event after hsplit => ?_,
    fun name file _ _ => Nat.le_of_eq (hcopies name file), fun name file _ _ hann => ?_, ?_,
    fun version h => ?_⟩, fun i h => ?_, fun i file h => ?_⟩
  · rw [hversions] at h
    cases h
  · rw [hs.events] at h
    cases h
  · rw [hs.events] at hsplit
    exact absurd hsplit (by simp)
  · rcases hann with h | h
    · rw [hs.events] at h
      cases h
    · cases h
  · rw [hversions]
    exact List.nodup_nil
  · rw [hs.due] at h
    cases h
  · exact absurd (hs.inspecting.symm.trans h) (by simp)
  · exact absurd (hs.inspecting.symm.trans h) (by simp)

end Steps

end CrashlogState

open CrashlogState in
/-- **Every crash log once.** In every run from the time the watch is added, with files put in place
and removed at any time: if every wanted version is readable and was put in place at a clear path,
then no version is emitted twice, and every version is emitted that is in place when its `Create`
event is handled. -/
theorem crashlog_emitsOnce (cfg : CrashlogConfig) {s t : CrashlogState} (hs : s.Started)
    {as : List CrashlogAction} (hready : Runs.Meets (step cfg) (Ready cfg) s as)
    (hrun : Runs.follow (step cfg) s as = some t) : t.EmitsOnce :=
  (Runs.follow_invariant (fun _ _ _ => Tracked.step) hs.tracked hready hrun).1.emitsOnce

/-! ## Missed and repeated -/

/-- A receiver of all names. -/
def sampleReceiver : CrashlogConfig := ⟨fun _ => true, 0, []⟩

/-- The watch has been added to an empty directory. -/
def emptyDirectory : CrashlogState where
  files := fun _ => none
  nextVersion := 0
  events := []
  phase := .starting
  inspecting := none
  processedFiles := fun _ => false
  emitted := []
  due := []

theorem emptyDirectory_started : emptyDirectory.Started :=
  ⟨fun _ _ h => (by cases h), fun _ _ _ _ h => (by cases h), rfl, rfl, rfl, rfl, rfl, rfl⟩

/-- A file is put in place, and read. -/
def placeAndRead : List CrashlogAction :=
  [.readDir [], .scanDone, .place "a.bin" true 0 (some []), .nextEvent, .readFile]

/-- What was read is removed, and another version is put in place under its name. -/
def replaceAndRead : List CrashlogAction :=
  placeAndRead ++ [.remove "a.bin" false, .place "a.bin" true 0 (some []), .nextEvent, .nextEvent,
    .readFile]

/-- Two versions of one name, one after the other. -/
theorem crashlog_emitsOnce_sample :
    ∃ t, Runs.follow (CrashlogState.step sampleReceiver) emptyDirectory replaceAndRead = some t ∧
      t.due = [1, 0] ∧ t.EmitsOnce := by
  refine ⟨_, rfl, rfl, @crashlog_emitsOnce sampleReceiver emptyDirectory _ emptyDirectory_started
    replaceAndRead ?_ rfl⟩
  exact .cons trivial rfl (.cons trivial rfl (.cons (fun _ => ⟨rfl, rfl⟩) rfl
    (.cons trivial rfl (.cons trivial rfl (.cons trivial rfl (.cons (fun _ => ⟨rfl, rfl⟩) rfl
      (.cons trivial rfl (.cons trivial rfl (.cons trivial rfl trivial)))))))))

/-- **Versions are missed and repeated.** A version that replaces one that was read is not emitted,
and a version that comes after one that was removed before it was read is emitted twice. -/
theorem crashlog_misses_and_repeats : emptyDirectory.Started ∧
    (∃ t, Runs.follow (CrashlogState.step sampleReceiver) emptyDirectory
        (placeAndRead ++ [.place "a.bin" true 0 (some []), .nextEvent]) = some t ∧
      1 ∈ t.due ∧ 1 ∉ t.emittedVersions) ∧
    ∃ t, Runs.follow (CrashlogState.step sampleReceiver) emptyDirectory
        [.readDir [], .scanDone, .place "a.bin" true 0 (some []), .remove "a.bin" false,
          .place "a.bin" true 0 (some []), .nextEvent, .readFile, .nextEvent, .nextEvent,
          .readFile] = some t ∧ t.emittedVersions = [1, 1] := by
  refine ⟨emptyDirectory_started, ⟨_, rfl, ?_, ?_⟩, _, rfl, rfl⟩
  · exact List.mem_cons_self
  · change 1 ∉ [0]
    decide

end XpuManager
