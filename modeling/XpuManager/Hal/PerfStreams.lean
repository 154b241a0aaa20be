import Mathlib.Algebra.Order.BigOperators.Group.List
import Mathlib.Algebra.Order.Ring.Nat
import Mathlib.Data.List.Dedup
import Mathlib.Data.List.Sort
import XpuManager.Lib.Resources

/-! # Streams of performance metrics

The metric groups of all devices are read in batches (`getPerfMetrics`, `hal/core/metric.cpp`), as only
one group of a domain can be active on a device at a time. For each batch a context, an event pool and
an event are created for each device, and a streamer opened for each group
(`openDevicePerfMetricStream`). -/

namespace XpuManager

namespace PerfStreams

open Resources

/-! ## The code -/

abbrev Dev := UInt64

/-- A metric group object: groups of two devices are never the same. -/
structure PerfGroup where
  dev : Dev
  idx : Nat
  domain : UInt32
  deriving DecidableEq

/-- Who has a handle: the maps for each device, and the metric groups. -/
inductive Owner where
  | context (dev : Dev)
  | eventPool (dev : Dev)
  | event (dev : Dev)
  | streamer (group : PerfGroup)
  deriving DecidableEq

/-- A streamer is one of a batch. -/
inductive Kind where
  | context
  | eventPool
  | event
  | streamer (batch : Nat)
  deriving DecidableEq

def Owner.kind (batch : Nat) : Owner → Kind
  | context _ => .context
  | eventPool _ => .eventPool
  | event _ => .event
  | streamer _ => .streamer batch

/-- The device that an owner belongs to. -/
def Owner.dev : Owner → Dev
  | context dev | eventPool dev | event dev => dev
  | streamer group => group.dev

/-- `zetContextActivateMetricGroups`: the groups replace those that were active on the device. -/
structure Activation where
  dev : Dev
  groups : List PerfGroup
  ok : Bool
  deriving DecidableEq

/-- What has been called so far, and the handles that are kept. -/
structure PerfRun where
  table : Table Owner Kind
  activations : List Activation

section

-- the result of each call, by its number
variable (results : Nat → UInt32)

namespace PerfRun

/-- The next call succeeds. -/
def ok (run : PerfRun) : Bool := results run.table.calls.length = 0

/-- A call of the driver, with its answer. -/
def call (run : PerfRun) (action : Action Kind) : PerfRun :=
  { run with table := run.table.log action (run.ok results) }

/-- A call that creates a resource for its owner. -/
def create (run : PerfRun) (kind : Kind) (owner : Owner) : PerfRun :=
  { run with table := run.table.create kind owner (run.ok results) }

/-- Uses the context, or none if there is none. -/
def activate (run : PerfRun) (dev : Dev) (groups : List PerfGroup) : PerfRun × Bool :=
  ({ table := run.table.log (.use .context (run.table.handle (.context dev))) (run.ok results)
     activations := run.activations ++ [⟨dev, groups, run.ok results⟩] }, run.ok results)

/-- An owner forgets its handle. -/
def erase (run : PerfRun) (owner : Owner) : PerfRun := { run with table := run.table.put owner none }

/-- Gets what a map has for the device, or creates it. -/
def getOrCreate (run : PerfRun) (kind : Kind) (owner : Owner) : PerfRun × Bool :=
  if (run.table.handles owner).isSome then (run, true)
  else (run.create results kind owner, run.ok results)

/-- The same for the event, which is reset if there is one. -/
def getEvent (run : PerfRun) (dev : Dev) : PerfRun × Bool :=
  if (run.table.handles (.event dev)).isSome then
    (run.call results (.use .event (run.table.handle (.event dev))), true)
  else (run.create results .event (.event dev), run.ok results)

end PerfRun

/-- Stops where a step fails. -/
def ifOk (step : PerfRun × Bool) (f : PerfRun → PerfRun) : PerfRun :=
  if step.2 then f step.1 else step.1

/-- `openDevicePerfMetricStream`. A streamer that cannot be opened is no reason to stop. -/
def openDevicePerfMetricStream (batch : Nat) (groupsToActivate : List PerfGroup) (run : PerfRun)
    (dev : Dev) : PerfRun :=
  ifOk (run.getOrCreate results .context (.context dev)) fun run =>
  ifOk (run.activate results dev groupsToActivate) fun run =>
  ifOk (run.getOrCreate results .eventPool (.eventPool dev)) fun run =>
  ifOk (run.getEvent results dev) fun run =>
  groupsToActivate.foldl (fun run group => run.create results (.streamer batch) (.streamer group)) run

/-- The calls of `readPerfMetricsData` that use a streamer: one for the size, and one for the data. -/
def readStreamer (batch : Nat) (run : PerfRun) (group : PerfGroup) : PerfRun :=
  let use := .use (.streamer batch) (run.table.handle (.streamer group))
  if run.ok results then (run.call results use).call results use else run.call results use

/-- Destroys what a map has for the device, if it has it. -/
def destroyIfAny (run : PerfRun) (kind : Kind) (owner : Owner) : PerfRun :=
  if (run.table.handles owner).isSome then
    (run.call results (.destroy kind (run.table.handle owner))).erase owner
  else run

/-- The end of a batch for one device. -/
def closeDevice (batch : Nat) (groups : List PerfGroup) (run : PerfRun) (dev : Dev) : PerfRun :=
  let run := groups.foldl (readStreamer results batch) run
  let run := groups.foldl (fun run group =>
    run.call results (.destroy (.streamer batch) (run.table.handle (.streamer group)))) run
  let run := destroyIfAny results run .event (.event dev)
  let run := destroyIfAny results run .eventPool (.eventPool dev)
  let run := (run.activate results dev []).1
  (run.call results (.destroy .context (run.table.handle (.context dev)))).erase (.context dev)

/-- Moves groups from pending to active, one of each domain. -/
def distribute (active : List PerfGroup) : List PerfGroup → List PerfGroup × List PerfGroup
  | [] => (active, [])
  | group :: pending =>
    if ∃ other ∈ active, other.domain = group.domain then
      ((distribute active pending).1, group :: (distribute active pending).2)
    else distribute (active.orderedInsert (fun g g' => g.domain ≤ g'.domain) group) pending

/-- What is active of the pending groups, and what is still pending. -/
def activeGroups (pending : Dev → List PerfGroup) (dev : Dev) : List PerfGroup :=
  (distribute [] (pending dev)).1

def stillPending (pending : Dev → List PerfGroup) (dev : Dev) : List PerfGroup :=
  (distribute [] (pending dev)).2

theorem length_distribute (active pending : List PerfGroup) :
    (distribute active pending).2.length ≤ pending.length := by
  induction pending generalizing active with
  | nil => exact Nat.le_refl 0
  | cons group pending ih =>
    rw [distribute]
    split
    · exact Nat.succ_le_succ (ih active)
    · exact Nat.le_succ_of_le (ih _)

/-- A first group is always active. -/
theorem length_stillPending {pending : Dev → List PerfGroup} {dev : Dev} (h : pending dev ≠ []) :
    (stillPending pending dev).length < (pending dev).length := by
  obtain ⟨group, groups, hcons⟩ := List.exists_cons_of_ne_nil h
  rw [stillPending, hcons, distribute, if_neg (by simp)]
  exact Nat.lt_succ_of_le (length_distribute _ groups)

/-- Where all that is kept gets less, so does the sum. -/
theorem sum_filter_lt {keep : Dev → Bool} {f g : Dev → Nat} {devs : List Dev} (hdevs : devs ≠ [])
    (hkeep : ∀ dev, keep dev → f dev < g dev) (hpos : ∀ dev, 0 < g dev) :
    ((devs.filter keep).map f).sum < (devs.map g).sum := by
  have hle (devs : List Dev) : ((devs.filter keep).map f).sum ≤ (devs.map g).sum := by
    induction devs with
    | nil => exact Nat.le_refl 0
    | cons dev devs ih =>
      rw [List.filter_cons]
      split
      next h => exact Nat.add_le_add (hkeep dev h).le ih
      next h => exact Nat.le_add_left_of_le ih
  obtain ⟨dev, devs, rfl⟩ := List.exists_cons_of_ne_nil hdevs
  rw [List.filter_cons]
  split
  next h => exact Nat.add_lt_add_of_lt_of_le (hkeep dev h) (hle devs)
  next h =>
    rw [List.map_cons, List.sum_cons]
    have := hpos dev
    have := hle devs
    omega

/-- A batch: the groups that are active on each device are read, and all that was opened is closed. -/
def runBatch (batch : Nat) (devs : List Dev) (active : Dev → List PerfGroup) (run : PerfRun) :
    PerfRun :=
  let run := devs.foldl (fun run dev =>
    openDevicePerfMetricStream results batch (active dev) run dev) run
  devs.foldl (fun run dev => closeDevice results batch (active dev) run dev) run

/-- The loop over the batches: the map of pending groups is given by its keys. -/
def collect (batch : Nat) (devs : List Dev) (pending : Dev → List PerfGroup) (run : PerfRun) :
    PerfRun :=
  match _hdevs : devs with
  | [] => run
  | dev :: rest =>
    collect (batch + 1) ((dev :: rest).filter fun dev => stillPending pending dev ≠ [])
      (stillPending pending) (runBatch results batch (dev :: rest) (activeGroups pending) run)
termination_by (devs.map fun dev => (pending dev).length + 1).sum
decreasing_by
  refine sum_filter_lt (List.cons_ne_nil dev rest) (fun dev hkeep => ?_) (fun dev => Nat.succ_pos _)
  have hstill : stillPending pending dev ≠ [] := by simpa using hkeep
  refine Nat.succ_lt_succ (length_stillPending fun hnil => hstill ?_)
  rw [stillPending, hnil, distribute]

/-- The groups of a device, by what domains they have. -/
def metricGroups (domains : Dev → List UInt32) (dev : Dev) : List PerfGroup :=
  (domains dev).mapIdx fun idx domain => ⟨dev, idx, domain⟩

/-- The keys of the map: the devices that have groups, in their order. -/
def pendingDevices (domains : Dev → List UInt32) (devs : List Dev) : List Dev :=
  (devs.dedup.filter fun dev => domains dev ≠ []).insertionSort (· ≤ ·)

/-- The sub-devices, or the device if it has none. Both calls can fail. -/
def devicesToQuery (device : Dev) (subdeviceCount : Except UInt32 UInt32)
    (subdevices : Except UInt32 (List Dev)) : Except UInt32 (List Dev) := do
  if (← subdeviceCount) = 0 then pure [device] else subdevices

/-- The maps are empty, and the groups have the streamers of earlier calls, which may be null. -/
def start (streamers : PerfGroup → Option Nat) : PerfRun where
  table := { calls := [], handles := fun owner =>
    match owner with
    | .streamer group => some ((streamers group).elim .null .stale)
    | _ => none }
  activations := []

/-- `getPerfMetrics`, with what it calls. -/
def getPerfMetrics (device : Dev) (subdeviceCount : Except UInt32 UInt32)
    (subdevices : Except UInt32 (List Dev)) (domains : Dev → List UInt32)
    (streamers : PerfGroup → Option Nat) : UInt32 × PerfRun :=
  match devicesToQuery device subdeviceCount subdevices with
  | .error result => (result, start streamers)
  | .ok devs =>
    (0, collect results 0 (pendingDevices domains devs) (metricGroups domains) (start streamers))

end

/-! ## What is promised -/

/-- The groups that were active on a device, one list each time. -/
def PerfRun.activated (run : PerfRun) (dev : Dev) : List (List PerfGroup) :=
  (run.activations.filter fun a => a.dev = dev ∧ a.ok ∧ a.groups ≠ []).map (·.groups)

/-- What is used or closed is there, and is a streamer of the same batch if it is one; all that was
opened is closed; each group is active once, and no two of one domain and device at the same time. -/
structure Collects (domains : Dev → List UInt32) (devs : Except UInt32 (List Dev)) (run : PerfRun) :
    Prop where
  balanced : Balanced run.table.calls
  activated : ∀ queried, devs = .ok queried → ∀ dev ∈ queried,
    (run.activated dev).flatten.Perm (metricGroups domains dev)
  domains : ∀ dev, ∀ groups ∈ run.activated dev, (groups.map PerfGroup.domain).Nodup

/-- No call that opens something fails: the creations, and the activations of groups. -/
structure Opens (run : PerfRun) : Prop where
  created : ∀ call ∈ run.table.calls, ∀ kind, call.action = .create kind → call.ok
  activated : ∀ a ∈ run.activations, a.groups ≠ [] → a.ok

/-! ## What each call adds -/

variable {results : Nat → UInt32} {batch : Nat} {run next last : PerfRun} {dev : Dev}
  {groups : List PerfGroup} {group : PerfGroup} {owners : Set Owner}

/-- Calls are only added. -/
structure Extends (run next : PerfRun) : Prop where
  calls : run.table.calls <+: next.table.calls
  activations : run.activations <+: next.activations

namespace Extends

theorem refl (run : PerfRun) : Extends run run := ⟨List.prefix_rfl, List.prefix_rfl⟩

theorem trans (h : Extends run next) (h' : Extends next last) : Extends run last :=
  ⟨h.calls.trans h'.calls, h.activations.trans h'.activations⟩

theorem foldl {α : Type} {f : PerfRun → α → PerfRun} (h : ∀ run x, Extends run (f run x)) (xs : List α)
    (run : PerfRun) : Extends run (xs.foldl f run) := by
  induction xs generalizing run with
  | nil => exact refl run
  | cons x xs ih => exact (h run x).trans (ih _)

theorem opens (h : Extends run next) (hopens : Opens next) : Opens run where
  created call hcall := hopens.created call (h.calls.subset hcall)
  activated a ha := hopens.activated a (h.activations.subset ha)

end Extends

theorem extends_call (results : Nat → UInt32) (run : PerfRun) (action : Action Kind) :
    Extends run (run.call results action) :=
  ⟨List.prefix_append _ _, List.prefix_rfl⟩

theorem extends_erase (run : PerfRun) (owner : Owner) : Extends run (run.erase owner) :=
  ⟨List.prefix_rfl, List.prefix_rfl⟩

theorem extends_activate (results : Nat → UInt32) (run : PerfRun) (dev : Dev) (groups : List PerfGroup) :
    Extends run (run.activate results dev groups).1 :=
  ⟨List.prefix_append _ _, List.prefix_append _ _⟩

theorem extends_create (results : Nat → UInt32) (run : PerfRun) (kind : Kind) (owner : Owner) :
    Extends run (run.create results kind owner) := by
  refine ⟨?_, List.prefix_rfl⟩
  rw [PerfRun.create, Table.create]
  split <;> exact List.prefix_append _ _

theorem extends_getOrCreate (results : Nat → UInt32) (run : PerfRun) (kind : Kind) (owner : Owner) :
    Extends run (run.getOrCreate results kind owner).1 := by
  rw [PerfRun.getOrCreate]
  split
  · exact Extends.refl run
  · exact extends_create results run kind owner

theorem extends_getEvent (results : Nat → UInt32) (run : PerfRun) (dev : Dev) :
    Extends run (run.getEvent results dev).1 := by
  rw [PerfRun.getEvent]
  split
  · exact extends_call results run _
  · exact extends_create results run _ _

theorem extends_ifOk {step : PerfRun × Bool} {f : PerfRun → PerfRun} (h : Extends run step.1)
    (hf : ∀ run, Extends run (f run)) : Extends run (ifOk step f) := by
  rw [ifOk]
  split
  · exact h.trans (hf _)
  · exact h

theorem extends_open (results : Nat → UInt32) (batch : Nat) (groups : List PerfGroup) (run : PerfRun)
    (dev : Dev) : Extends run (openDevicePerfMetricStream results batch groups run dev) :=
  extends_ifOk (extends_getOrCreate results run _ _) fun run =>
    extends_ifOk (extends_activate results run dev groups) fun run =>
      extends_ifOk (extends_getOrCreate results run _ _) fun run =>
        extends_ifOk (extends_getEvent results run dev) fun run =>
          Extends.foldl (fun run _ => extends_create results run _ _) groups run

theorem extends_readStreamer (results : Nat → UInt32) (batch : Nat) (run : PerfRun) (group : PerfGroup) :
    Extends run (readStreamer results batch run group) := by
  rw [readStreamer]
  split
  · exact (extends_call results run _).trans (extends_call results _ _)
  · exact extends_call results run _

theorem extends_destroyIfAny (results : Nat → UInt32) (run : PerfRun) (kind : Kind) (owner : Owner) :
    Extends run (destroyIfAny results run kind owner) := by
  rw [destroyIfAny]
  split
  · exact (extends_call results run _).trans (extends_erase _ _)
  · exact Extends.refl run

/-- The end of the clean-up of a device, after its streamers are read. -/
theorem extends_cleanUp (results : Nat → UInt32) (batch : Nat) (groups : List PerfGroup)
    (run : PerfRun) (dev : Dev) : Extends (groups.foldl (readStreamer results batch) run)
      (closeDevice results batch groups run dev) := by
  rw [closeDevice]
  have hclosed := Extends.foldl (fun run group => extends_call results run
    (.destroy (.streamer batch) (run.table.handle (.streamer group)))) groups
    (groups.foldl (readStreamer results batch) run)
  have hevent := hclosed.trans (extends_destroyIfAny results _ .event (.event dev))
  have hpool := hevent.trans (extends_destroyIfAny results _ .eventPool (.eventPool dev))
  have hactivate := hpool.trans (extends_activate results _ dev [])
  exact (hactivate.trans (extends_call results _ _)).trans (extends_erase _ _)

theorem extends_closeDevice (results : Nat → UInt32) (batch : Nat) (groups : List PerfGroup)
    (run : PerfRun) (dev : Dev) : Extends run (closeDevice results batch groups run dev) :=
  (Extends.foldl (extends_readStreamer results batch) groups run).trans
    (extends_cleanUp results batch groups run dev)

theorem extends_runBatch (results : Nat → UInt32) (batch : Nat) (devs : List Dev)
    (active : Dev → List PerfGroup) (run : PerfRun) :
    Extends run (runBatch results batch devs active run) :=
  (Extends.foldl (fun run dev => extends_open results batch (active dev) run dev) devs run).trans
    (Extends.foldl (fun run dev => extends_closeDevice results batch (active dev) run dev) devs _)

theorem extends_collect (results : Nat → UInt32) (batch : Nat) (devs : List Dev)
    (pending : Dev → List PerfGroup) (run : PerfRun) :
    Extends run (collect results batch devs pending run) := by
  fun_induction collect results batch devs pending run with
  | case1 => exact Extends.refl _
  | case2 batch pending run dev rest ih => exact (extends_runBatch ..).trans ih

theorem calls_create (run : PerfRun) (kind : Kind) (owner : Owner) :
    (run.create results kind owner).table.calls =
      run.table.calls ++ [⟨.create kind, run.ok results⟩] := by
  rw [PerfRun.create, Table.create]
  split <;> rfl

/-- A run still opens exactly if the call goes well. -/
theorem opens_create {kind : Kind} {owner : Owner} :
    Opens (run.create results kind owner) ↔ Opens run ∧ run.ok results = true := by
  constructor
  · intro h
    refine ⟨(extends_create results run kind owner).opens h, h.created ⟨_, _⟩ ?_ kind rfl⟩
    rw [calls_create]
    exact List.mem_append_right _ List.mem_cons_self
  · rintro ⟨h, hok⟩
    refine ⟨fun call hcall k hk => ?_, h.activated⟩
    rw [calls_create] at hcall
    rcases List.mem_append.mp hcall with hcall | hcall
    · exact h.created call hcall k hk
    · obtain rfl := List.mem_singleton.mp hcall
      exact hok

theorem opens_call (results : Nat → UInt32) {action : Action Kind} (hopens : Opens run)
    (haction : ∀ kind, action ≠ .create kind) : Opens (run.call results action) := by
  refine ⟨fun call hcall kind hkind => ?_, hopens.activated⟩
  rcases List.mem_append.mp hcall with hcall | hcall
  · exact hopens.created call hcall kind hkind
  · obtain rfl := List.mem_singleton.mp hcall
    exact absurd hkind (haction kind)

theorem opens_activate : Opens (run.activate results dev groups).1 ↔
    Opens run ∧ (groups ≠ [] → run.ok results = true) := by
  constructor
  · intro h
    exact ⟨(extends_activate results run dev groups).opens h,
      h.activated ⟨dev, groups, _⟩ (List.mem_append_right _ List.mem_cons_self)⟩
  · rintro ⟨h, hok⟩
    have haction (kind : Kind) : Action.use .context (run.table.handle (.context dev)) ≠ .create kind :=
      nofun
    refine ⟨(opens_call results h haction).created, fun a ha hne => ?_⟩
    rcases List.mem_append.mp ha with ha | ha
    · exact h.activated a ha hne
    · obtain rfl := List.mem_singleton.mp ha
      exact hok hne

/-! ## Who has what -/

/-- Those who have what is opened for a device. -/
def deviceOwners (dev : Dev) (groups : List PerfGroup) : Set Owner :=
  {owner | owner = .context dev ∨ owner = .eventPool dev ∨ owner = .event dev ∨
    ∃ group ∈ groups, owner = .streamer group}

/-- The owners have all that is open, and the maps have nothing else. -/
structure Holding (batch : Nat) (run : PerfRun) (owners : Set Owner) : Prop where
  owns : Owns (Owner.kind batch) run.table owners
  absent : ∀ owner ∉ owners, (∀ group, owner ≠ .streamer group) → run.table.handles owner = none

theorem create_handles_of_ne {kind : Kind} {owner other : Owner} (hne : other ≠ owner) :
    (run.create results kind owner).table.handles other = run.table.handles other := by
  rw [PerfRun.create, Table.create]
  split
  · exact Function.update_of_ne hne _ _
  · rfl

theorem create_handles_of_not_ok {kind : Kind} {owner : Owner} (hok : run.ok results = false) :
    (run.create results kind owner).table.handles = run.table.handles := by
  rw [PerfRun.create, Table.create, hok]
  rfl

theorem Holding.create {owner : Owner} (h : Holding batch run owners) (hmem : owner ∉ owners)
    (hok : run.ok results = true) :
    Holding batch (run.create results (owner.kind batch) owner) (insert owner owners) where
  owns := by
    rw [PerfRun.create, hok]
    exact h.owns.create_ok hmem
  absent other hother hne := by
    rw [Set.mem_insert_iff, not_or] at hother
    rw [create_handles_of_ne hother.1]
    exact h.absent other hother.2 hne

theorem activations_getOrCreate (run : PerfRun) (kind : Kind) (owner : Owner) :
    (run.getOrCreate results kind owner).1.activations = run.activations := by
  rw [PerfRun.getOrCreate]
  split <;> rfl

theorem activations_getEvent (run : PerfRun) (dev : Dev) :
    (run.getEvent results dev).1.activations = run.activations := by
  rw [PerfRun.getEvent]
  split <;> rfl

theorem activations_streamers (groups : List PerfGroup) (run : PerfRun) :
    (groups.foldl (fun run group => run.create results (.streamer batch) (.streamer group))
      run).activations = run.activations := by
  induction groups generalizing run with
  | nil => rfl
  | cons group groups ih => exact ih _

/-- All openings succeed and more is known, or a group has the streamer that it had before. -/
def Outcome (run : PerfRun) (groups : List PerfGroup) (known : PerfRun → Prop) (next : PerfRun) : Prop :=
  Opens next ∧ known next ∨ ¬ Opens next ∧ ∃ group ∈ groups,
    next.table.handles (.streamer group) = run.table.handles (.streamer group)

/-- A step of `openDevicePerfMetricStream` after which some owners should have something. -/
structure Step (batch : Nat) (run : PerfRun) (owners : Set Owner) (step : PerfRun × Bool) : Prop where
  ok : step.2 = true → Opens step.1 ∧ Holding batch step.1 owners
  failed : step.2 = false → ¬ Opens step.1
  streamers : ∀ group, step.1.table.handles (.streamer group) = run.table.handles (.streamer group)

/-- A step that fails ends the opening, with the streamers as they were. -/
theorem Step.outcome {step : PerfRun × Bool} {f : PerfRun → PerfRun} {known : PerfRun → Prop}
    (h : Step batch run owners step) (hne : groups ≠ [])
    (hok : Opens step.1 → Holding batch step.1 owners → Outcome step.1 groups known (f step.1)) :
    Outcome run groups known (ifOk step f) := by
  rw [ifOk]
  split
  next hstep =>
    refine (hok (h.ok hstep).1 (h.ok hstep).2).imp_right fun ⟨hall, group, hgroup, hhandle⟩ => ?_
    exact ⟨hall, group, hgroup, hhandle.trans (h.streamers group)⟩
  next hstep =>
    obtain ⟨group, rest, rfl⟩ := List.exists_cons_of_ne_nil hne
    exact .inr ⟨h.failed (Bool.eq_false_iff.mpr hstep), group, List.mem_cons_self, h.streamers group⟩

/-- What is not in a map is created. -/
theorem Holding.getOrCreate {owner : Owner} (h : Holding batch run owners) (hopens : Opens run)
    (hmem : owner ∉ owners) (howner : ∀ group, owner ≠ .streamer group) :
    Step batch run (insert owner owners) (run.getOrCreate results (owner.kind batch) owner) := by
  rw [PerfRun.getOrCreate, h.absent owner hmem howner]
  exact {
    ok hok := ⟨opens_create.mpr ⟨hopens, hok⟩, h.create hmem hok⟩
    failed hok hall := by
      have := (opens_create.mp hall).2
      exact Bool.noConfusion (hok.symm.trans this)
    streamers group := create_handles_of_ne (howner group).symm }

theorem Holding.getEvent (h : Holding batch run owners) (hopens : Opens run)
    (hmem : .event dev ∉ owners) :
    Step batch run (insert (.event dev) owners) (run.getEvent results dev) := by
  have hcreate : Step batch run (insert (.event dev) owners)
      (run.getOrCreate results .event (.event dev)) := h.getOrCreate hopens hmem nofun
  rw [PerfRun.getOrCreate, h.absent _ hmem nofun] at hcreate
  rw [PerfRun.getEvent, h.absent _ hmem nofun]
  exact hcreate

theorem Holding.activate (h : Holding batch run owners) (hmem : .context dev ∈ owners) :
    Holding batch (run.activate results dev groups).1 owners :=
  ⟨h.owns.use hmem _, h.absent⟩

theorem Holding.stepActivate (h : Holding batch run owners) (hopens : Opens run)
    (hmem : .context dev ∈ owners) (hgroups : groups ≠ []) :
    Step batch run owners (run.activate results dev groups) where
  ok hok := ⟨opens_activate.mpr ⟨hopens, fun _ => hok⟩, h.activate hmem⟩
  failed hok hall := Bool.noConfusion (hok.symm.trans ((opens_activate.mp hall).2 hgroups))
  streamers _ := rfl

/-- The handles of others stay as they are. -/
theorem streamers_handles_of_notMem {owner : Owner} (groups : List PerfGroup) (run : PerfRun)
    (howner : ∀ group ∈ groups, owner ≠ .streamer group) :
    (groups.foldl (fun run group => run.create results (.streamer batch) (.streamer group))
      run).table.handles owner = run.table.handles owner := by
  induction groups generalizing run with
  | nil => rfl
  | cons group groups ih =>
    rw [List.foldl_cons, ih _ fun other hother => howner other (List.mem_cons_of_mem _ hother)]
    exact create_handles_of_ne (howner group List.mem_cons_self)

/-- All streamers are opened, or one has the handle that it had. -/
theorem Holding.streamers (h : Holding batch run owners) (hopens : Opens run) (hnodup : groups.Nodup)
    (hmem : ∀ group ∈ groups, .streamer group ∉ owners) :
    Outcome run groups
      (fun next => Holding batch next ({owner | ∃ group ∈ groups, owner = .streamer group} ∪ owners))
      (groups.foldl (fun run group => run.create results (.streamer batch) (.streamer group)) run) := by
  induction groups generalizing run owners with
  | nil => exact .inl ⟨hopens, by simpa using h⟩
  | cons group groups ih =>
    obtain ⟨hnot, hnodup⟩ := List.nodup_cons.mp hnodup
    rw [List.foldl_cons]
    by_cases hok : run.ok results = true
    · have hnext := h.create (hmem group List.mem_cons_self) hok
      have hrest : ∀ g ∈ groups, Owner.streamer g ∉ insert (Owner.streamer group) owners := by
        rintro g hg (heq | hmem')
        · obtain rfl := Owner.streamer.inj heq
          exact hnot hg
        · exact hmem g (List.mem_cons_of_mem _ hg) hmem'
      rcases ih hnext (opens_create.mpr ⟨hopens, hok⟩) hnodup hrest with
        ⟨hall, hholding⟩ | ⟨hall, g, hg, hhandle⟩
      · refine .inl ⟨hall, ?_⟩
        have howners : {owner | ∃ other ∈ group :: groups, owner = .streamer other} ∪ owners =
            {owner | ∃ other ∈ groups, owner = .streamer other} ∪ insert (.streamer group) owners := by
          ext owner
          simp only [List.mem_cons, exists_eq_or_imp, Set.mem_union, Set.mem_ofPred_eq,
            Set.mem_insert_iff]
          rw [or_assoc, or_left_comm]
        rwa [howners]
      · refine .inr ⟨hall, g, List.mem_cons_of_mem _ hg, hhandle.trans (create_handles_of_ne ?_)⟩
        rintro ⟨⟩
        exact hnot hg
    · have hext := Extends.foldl (fun run (g : PerfGroup) =>
        extends_create results run (.streamer batch) (.streamer g)) groups
          (run.create results (.streamer batch) (.streamer group))
      refine .inr ⟨fun hall => hok (opens_create.mp (hext.opens hall)).2, group,
        List.mem_cons_self, ?_⟩
      have hothers : ∀ other ∈ groups, Owner.streamer group ≠ .streamer other := by
        rintro other hother ⟨⟩
        exact hnot hother
      rw [streamers_handles_of_notMem groups _ hothers,
        create_handles_of_not_ok (Bool.eq_false_iff.mpr hok)]

/-- A device has all that it needs, or one of its groups has the streamer that it had. -/
theorem Holding.openDevice (results : Nat → UInt32) (h : Holding batch run owners) (hopens : Opens run)
    (hnodup : groups.Nodup) (hne : groups ≠ [])
    (hmem : ∀ owner ∈ deviceOwners dev groups, owner ∉ owners) :
    Outcome run groups
      (fun next => Holding batch next (deviceOwners dev groups ∪ owners) ∧
        next.activations = run.activations ++ [⟨dev, groups, true⟩])
      (openDevicePerfMetricStream results batch groups run dev) := by
  have hcontext : Owner.context dev ∉ owners := hmem _ (.inl rfl)
  have hpool : Owner.eventPool dev ∉ owners := hmem _ (.inr (.inl rfl))
  have hevent : Owner.event dev ∉ owners := hmem _ (.inr (.inr (.inl rfl)))
  refine (h.getOrCreate hopens hcontext fun _ => Owner.noConfusion).outcome hne fun hopens h => ?_
  refine (h.stepActivate hopens (Set.mem_insert _ _) hne).outcome hne fun hopens h => ?_
  have hactivated := (opens_activate.mp hopens).2 hne
  refine (h.getOrCreate hopens ?_ fun _ => Owner.noConfusion).outcome hne fun hopens h => ?_
  · rintro (heq | hmem')
    · cases heq
    · exact hpool hmem'
  refine (h.getEvent hopens ?_).outcome hne fun hopens h => ?_
  · rintro (heq | heq | hmem')
    · cases heq
    · cases heq
    · exact hevent hmem'
  refine (h.streamers hopens hnodup fun group hgroup => ?_).imp_left fun ⟨hall, hholding⟩ => ?_
  · rintro (heq | heq | heq | hmem')
    · cases heq
    · cases heq
    · cases heq
    · exact hmem _ (.inr (.inr (.inr ⟨group, hgroup, rfl⟩))) hmem'
  have howners : deviceOwners dev groups ∪ owners =
      {owner | ∃ group ∈ groups, owner = .streamer group} ∪ insert (.event dev)
        (insert (.eventPool dev) (insert (.context dev) owners)) := by
    ext owner
    simp only [deviceOwners, Set.mem_union, Set.mem_ofPred_eq, Set.mem_insert_iff]
    grind
  refine ⟨hall, howners ▸ hholding, ?_⟩
  rw [activations_streamers, activations_getEvent, activations_getOrCreate, PerfRun.activate,
    hactivated, activations_getOrCreate]

/-! ## Closing -/

/-- Uses a streamer that is not there. -/
def BadUse (run : PerfRun) : Prop :=
  ∃ call ∈ run.table.calls, ∃ kind h, call.action = .use kind h ∧ ∀ i, h ≠ .created i

theorem BadUse.mono (h : BadUse run) (hext : Extends run next) : BadUse next := by
  obtain ⟨call, hcall, hbad⟩ := h
  exact ⟨call, hext.calls.subset hcall, hbad⟩

theorem BadUse.not_balanced (h : BadUse run) : ¬ Balanced run.table.calls := by
  obtain ⟨⟨_, ok⟩, hcall, kind, handle, rfl, hne⟩ := h
  intro hbalanced
  obtain ⟨before, after, heq⟩ := List.append_of_mem hcall
  obtain ⟨start, rest, -, hcreated, -⟩ := hbalanced.used before kind handle ok after heq
  exact hne _ hcreated

/-- The streamer of a group is none that was opened. -/
def Unopened (run : PerfRun) (group : PerfGroup) : Prop :=
  ∀ i, run.table.handles (.streamer group) ≠ some (.created i)

theorem Unopened.handle_ne (h : Unopened run group) (i : Nat) :
    run.table.handle (.streamer group) ≠ .created i := by
  intro heq
  rw [Table.handle] at heq
  cases hhandles : run.table.handles (.streamer group) with
  | none => rw [hhandles] at heq; cases heq
  | some handle =>
    rw [hhandles, Option.getD_some] at heq
    exact h i (hhandles.trans (congrArg some heq))

theorem readStreamer_handles (run : PerfRun) (group : PerfGroup) :
    (readStreamer results batch run group).table.handles = run.table.handles := by
  rw [readStreamer]
  split <;> rfl

theorem readStreamers_handles (groups : List PerfGroup) (run : PerfRun) :
    (groups.foldl (readStreamer results batch) run).table.handles = run.table.handles := by
  induction groups generalizing run with
  | nil => rfl
  | cons group groups ih => rw [List.foldl_cons, ih, readStreamer_handles]

theorem closeStreamers_handles (groups : List PerfGroup) (run : PerfRun) :
    (groups.foldl (fun run group => run.call results
      (.destroy (.streamer batch) (run.table.handle (.streamer group)))) run).table.handles =
      run.table.handles := by
  induction groups generalizing run with
  | nil => rfl
  | cons group groups ih => exact ih _

/-- The streamers that are read are those of the groups. -/
theorem badUse_readStreamers (hgroup : group ∈ groups) (h : Unopened run group) :
    BadUse (groups.foldl (readStreamer results batch) run) := by
  induction groups generalizing run with
  | nil => cases hgroup
  | cons other groups ih =>
    rw [List.foldl_cons]
    by_cases heq : group = other
    · subst heq
      refine BadUse.mono ?_ (Extends.foldl (extends_readStreamer results batch) groups _)
      have hbad : BadUse (run.call results
          (.use (.streamer batch) (run.table.handle (.streamer group)))) :=
        ⟨_, List.mem_append_right _ List.mem_cons_self, _, _, rfl, h.handle_ne⟩
      rw [readStreamer]
      split
      · exact hbad.mono (extends_call results _ _)
      · exact hbad
    · refine ih ((List.mem_cons.mp hgroup).resolve_left heq) fun i => ?_
      rw [readStreamer_handles]
      exact h i

theorem erase_handles {owner other : Owner} (hne : other ≠ owner) :
    (run.erase owner).table.handles other = run.table.handles other :=
  Function.update_of_ne hne _ _

theorem destroyIfAny_handles {kind : Kind} {owner other : Owner} (hne : other ≠ owner) :
    (destroyIfAny results run kind owner).table.handles other = run.table.handles other := by
  rw [destroyIfAny]
  split
  · exact erase_handles hne
  · rfl

/-- The metric groups keep their handles. -/
theorem closeDevice_handles (groups : List PerfGroup) (run : PerfRun) (dev : Dev) (group : PerfGroup) :
    (closeDevice results batch groups run dev).table.handles (.streamer group) =
      run.table.handles (.streamer group) := by
  rw [closeDevice]
  have hcontext : Owner.streamer group ≠ .context dev := nofun
  have hpool : Owner.streamer group ≠ .eventPool dev := nofun
  have hevent : Owner.streamer group ≠ .event dev := nofun
  refine (erase_handles hcontext).trans ((destroyIfAny_handles hpool).trans ?_)
  rw [destroyIfAny_handles hevent, closeStreamers_handles, readStreamers_handles]

namespace Holding

theorem use {owner : Owner} (h : Holding batch run owners) (hmem : owner ∈ owners) :
    Holding batch (run.call results (.use (owner.kind batch) (run.table.handle owner))) owners :=
  ⟨h.owns.use hmem _, h.absent⟩

theorem readStreamer (h : Holding batch run owners) (hmem : .streamer group ∈ owners) :
    Holding batch (readStreamer results batch run group) owners := by
  rw [PerfStreams.readStreamer]
  split
  · exact (h.use hmem).use hmem
  · exact h.use hmem

theorem readStreamers (h : Holding batch run owners)
    (hmem : ∀ group ∈ groups, .streamer group ∈ owners) :
    Holding batch (groups.foldl (PerfStreams.readStreamer results batch) run) owners := by
  induction groups generalizing run with
  | nil => exact h
  | cons group groups ih =>
    exact ih (h.readStreamer (hmem group List.mem_cons_self)) fun other hother =>
      hmem other (List.mem_cons_of_mem _ hother)

theorem closeStreamer (h : Holding batch run owners) (hmem : .streamer group ∈ owners) :
    Holding batch (run.call results
      (.destroy (.streamer batch) (run.table.handle (.streamer group))))
      (owners \ {.streamer group}) where
  owns := h.owns.destroy hmem _
  absent other hother hne := h.absent other (fun hmem' => hother ⟨hmem', hne group⟩) hne

/-- Closing the streamers gives back exactly these. -/
theorem closeStreamers (h : Holding batch run owners) (hnodup : groups.Nodup)
    (hmem : ∀ group ∈ groups, .streamer group ∈ owners) :
    Holding batch (groups.foldl (fun run group => run.call results
      (.destroy (.streamer batch) (run.table.handle (.streamer group)))) run)
      (owners \ {owner | ∃ group ∈ groups, owner = .streamer group}) := by
  induction groups generalizing run owners with
  | nil => simpa using h
  | cons group groups ih =>
    obtain ⟨hnot, hnodup⟩ := List.nodup_cons.mp hnodup
    have hrest : ∀ other ∈ groups, Owner.streamer other ∈ owners \ {.streamer group} := by
      refine fun other hother => ⟨hmem other (List.mem_cons_of_mem _ hother), ?_⟩
      rintro ⟨⟩
      exact hnot hother
    have howners : owners \ {owner | ∃ other ∈ group :: groups, owner = .streamer other} =
        (owners \ {.streamer group}) \ {owner | ∃ other ∈ groups, owner = .streamer other} := by
      ext owner
      simp only [List.mem_cons, exists_eq_or_imp, Set.mem_sdiff, Set.mem_ofPred_eq,
        Set.mem_singleton_iff, not_or, and_assoc]
    rw [howners]
    exact ih (h.closeStreamer (hmem group List.mem_cons_self)) hnodup hrest

theorem destroyErase {owner : Owner} (h : Holding batch run owners) (hmem : owner ∈ owners) :
    Holding batch ((run.call results
      (.destroy (owner.kind batch) (run.table.handle owner))).erase owner) (owners \ {owner}) where
  owns := (h.owns.destroy hmem _).put (fun hmem' => hmem'.2 rfl) none
  absent other hother hne := by
    by_cases heq : other = owner
    · subst heq
      exact Function.update_self ..
    · rw [erase_handles heq]
      exact h.absent other (fun hmem' => hother ⟨hmem', heq⟩) hne

theorem destroyIfAny {owner : Owner} (h : Holding batch run owners) (hmem : owner ∈ owners) :
    Holding batch (destroyIfAny results run (owner.kind batch) owner) (owners \ {owner}) := by
  obtain ⟨i, hi⟩ := h.owns.handles owner hmem
  rw [PerfStreams.destroyIfAny, if_pos (by rw [hi]; rfl)]
  exact h.destroyErase hmem

/-- All that a device has is closed. -/
theorem closeDevice (results : Nat → UInt32) (h : Holding batch run owners) (hnodup : groups.Nodup)
    (hmem : ∀ owner ∈ deviceOwners dev groups, owner ∈ owners) :
    Holding batch (closeDevice results batch groups run dev) (owners \ deviceOwners dev groups) := by
  have hstreamers : ∀ group ∈ groups, Owner.streamer group ∈ owners := fun group hgroup =>
    hmem _ (.inr (.inr (.inr ⟨group, hgroup, rfl⟩)))
  have howners : owners \ deviceOwners dev groups =
      (((owners \ {owner | ∃ group ∈ groups, owner = .streamer group}) \ {.event dev}) \
        {.eventPool dev}) \ {.context dev} := by
    ext owner
    simp only [deviceOwners, Set.mem_sdiff, Set.mem_ofPred_eq, Set.mem_singleton_iff]
    grind
  -- nothing else is closed before it
  have hevent : Owner.event dev ∈ owners \ {owner | ∃ group ∈ groups, owner = .streamer group} :=
    ⟨hmem _ (.inr (.inr (.inl rfl))), by rintro ⟨group, -, ⟨⟩⟩⟩
  have hpool : Owner.eventPool dev ∈
      (owners \ {owner | ∃ group ∈ groups, owner = .streamer group}) \ {.event dev} :=
    ⟨⟨hmem _ (.inr (.inl rfl)), by rintro ⟨group, -, ⟨⟩⟩⟩, by rintro ⟨⟩⟩
  have hcontext : Owner.context dev ∈
      ((owners \ {owner | ∃ group ∈ groups, owner = .streamer group}) \ {.event dev}) \
        {.eventPool dev} :=
    ⟨⟨⟨hmem _ (.inl rfl), by rintro ⟨group, -, ⟨⟩⟩⟩, by rintro ⟨⟩⟩, by rintro ⟨⟩⟩
  rw [PerfStreams.closeDevice, howners]
  exact (((((h.readStreamers hstreamers).closeStreamers hnodup hstreamers).destroyIfAny
    hevent).destroyIfAny hpool).activate hcontext).destroyErase hcontext

end Holding

end PerfStreams

end XpuManager
