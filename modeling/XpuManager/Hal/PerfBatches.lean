import XpuManager.Hal.PerfStreams

/-! # Batches of performance metrics

What `getPerfMetrics` leaves behind, for all results of the calls that it makes. -/

namespace XpuManager

namespace PerfStreams

open Resources

variable {results : Nat → UInt32} {batch : Nat} {run next last : PerfRun} {dev : Dev}
  {groups : List PerfGroup} {group : PerfGroup} {owners : Set Owner}

/-! ## Batches -/

/-- Nothing is opened. -/
structure Closes (run next : PerfRun) : Prop where
  opens : Opens run → Opens next
  activated : ∀ dev, next.activated dev = run.activated dev

namespace Closes

theorem refl (run : PerfRun) : Closes run run := ⟨id, fun _ => rfl⟩

theorem trans (h : Closes run next) (h' : Closes next last) : Closes run last :=
  ⟨h'.opens ∘ h.opens, fun dev => (h'.activated dev).trans (h.activated dev)⟩

theorem foldl {α : Type} {f : PerfRun → α → PerfRun} (h : ∀ run x, Closes run (f run x)) (xs : List α)
    (run : PerfRun) : Closes run (xs.foldl f run) := by
  induction xs generalizing run with
  | nil => exact refl run
  | cons x xs ih => exact (h run x).trans (ih _)

end Closes

theorem closes_use (results : Nat → UInt32) (run : PerfRun) (kind : Kind)
    (h : Resources.Handle) :
    Closes run (run.call results (.use kind h)) :=
  ⟨fun hopens => opens_call results hopens (by rintro _ ⟨⟩), fun _ => rfl⟩

theorem closes_destroy (results : Nat → UInt32) (run : PerfRun) (kind : Kind)
    (h : Resources.Handle) :
    Closes run (run.call results (.destroy kind h)) :=
  ⟨fun hopens => opens_call results hopens (by rintro _ ⟨⟩), fun _ => rfl⟩

theorem closes_erase (run : PerfRun) (owner : Owner) : Closes run (run.erase owner) :=
  ⟨fun hopens => ⟨hopens.created, hopens.activated⟩, fun _ => rfl⟩

theorem activated_concat {a : Activation} (h : next.activations = run.activations ++ [a]) (dev : Dev) :
    next.activated dev = run.activated dev ++
      if a.dev = dev ∧ a.ok ∧ a.groups ≠ [] then [a.groups] else [] := by
  rw [PerfRun.activated, PerfRun.activated, h, List.filter_append, List.map_append,
    List.filter_singleton]
  congr 1
  by_cases h : a.dev = dev ∧ a.ok ∧ a.groups ≠ [] <;> simp [h]

theorem closes_activate (results : Nat → UInt32) (run : PerfRun) (dev : Dev) :
    Closes run (run.activate results dev []).1 where
  opens hopens := opens_activate.mpr ⟨hopens, fun hne => absurd rfl hne⟩
  activated other := by
    rw [activated_concat rfl, if_neg (fun h => h.2.2 rfl), List.append_nil]

theorem closes_readStreamer (results : Nat → UInt32) (batch : Nat) (run : PerfRun) (group : PerfGroup) :
    Closes run (readStreamer results batch run group) := by
  rw [readStreamer]
  split
  · exact (closes_use results run _ _).trans (closes_use results _ _ _)
  · exact closes_use results run _ _

theorem closes_destroyIfAny (results : Nat → UInt32) (run : PerfRun) (kind : Kind) (owner : Owner) :
    Closes run (destroyIfAny results run kind owner) := by
  rw [destroyIfAny]
  split
  · exact (closes_destroy results run _ _).trans (closes_erase _ _)
  · exact Closes.refl run

theorem closes_closeDevice (results : Nat → UInt32) (batch : Nat) (groups : List PerfGroup)
    (run : PerfRun) (dev : Dev) : Closes run (closeDevice results batch groups run dev) := by
  rw [closeDevice]
  have hread := Closes.foldl (closes_readStreamer results batch) groups run
  have hclosed := hread.trans (Closes.foldl (fun run (group : PerfGroup) =>
    closes_destroy results run (.streamer batch) (run.table.handle (.streamer group))) groups _)
  have hevent := hclosed.trans (closes_destroyIfAny results _ .event (.event dev))
  have hpool := hevent.trans (closes_destroyIfAny results _ .eventPool (.eventPool dev))
  have hactivate := hpool.trans (closes_activate results _ dev)
  exact (hactivate.trans (closes_destroy results _ _ _)).trans (closes_erase _ _)

/-- The groups that are active in a batch: each device has some, and they are its own. -/
structure Ready (devs : List Dev) (active : Dev → List PerfGroup) : Prop where
  distinct : devs.Nodup
  nodup : ∀ dev ∈ devs, (active dev).Nodup
  nonempty : ∀ dev ∈ devs, active dev ≠ []
  own : ∀ dev ∈ devs, ∀ group ∈ active dev, group.dev = dev

/-- Those who have what is opened in a batch. -/
def batchOwners (devs : List Dev) (active : Dev → List PerfGroup) : Set Owner :=
  {owner | ∃ dev ∈ devs, owner ∈ deviceOwners dev (active dev)}

variable {devs : List Dev} {active pending : Dev → List PerfGroup}

theorem dev_of_mem_deviceOwners {owner : Owner} (hmem : owner ∈ deviceOwners dev groups)
    (hdev : ∀ group ∈ groups, group.dev = dev) : owner.dev = dev := by
  rcases hmem with rfl | rfl | rfl | ⟨group, hgroup, rfl⟩
  · rfl
  · rfl
  · rfl
  · exact hdev group hgroup

namespace Ready

theorem tail (h : Ready (dev :: devs) active) : Ready devs active where
  distinct := (List.nodup_cons.mp h.distinct).2
  nodup other hother := h.nodup other (List.mem_cons_of_mem _ hother)
  nonempty other hother := h.nonempty other (List.mem_cons_of_mem _ hother)
  own other hother := h.own other (List.mem_cons_of_mem _ hother)

/-- What two devices have is different. -/
theorem notMem_batchOwners (h : Ready (dev :: devs) active) {owner : Owner}
    (hmem : owner ∈ deviceOwners dev (active dev)) : owner ∉ batchOwners devs active := by
  rintro ⟨other, hother, hmem'⟩
  have hdev := dev_of_mem_deviceOwners hmem (h.own dev List.mem_cons_self)
  have hdev' := dev_of_mem_deviceOwners hmem' (h.own other (List.mem_cons_of_mem _ hother))
  exact (List.nodup_cons.mp h.distinct).1 ((hdev.symm.trans hdev') ▸ hother)

end Ready

theorem batchOwners_cons : batchOwners (dev :: devs) active =
    deviceOwners dev (active dev) ∪ batchOwners devs active := by
  ext owner
  simp only [batchOwners, List.mem_cons, exists_eq_or_imp, Set.mem_ofPred_eq, Set.mem_union]

theorem ifOk_streamers {step : PerfRun × Bool} {f : PerfRun → PerfRun} {owner : Owner}
    (hstep : step.1.table.handles owner = run.table.handles owner)
    (hf : ∀ run, (f run).table.handles owner = run.table.handles owner) :
    (ifOk step f).table.handles owner = run.table.handles owner := by
  rw [ifOk]
  split
  · exact (hf _).trans hstep
  · exact hstep

theorem getOrCreate_handles {kind : Kind} {owner other : Owner} (hne : other ≠ owner) :
    (run.getOrCreate results kind owner).1.table.handles other = run.table.handles other := by
  rw [PerfRun.getOrCreate]
  split
  · rfl
  · exact create_handles_of_ne hne

theorem getEvent_handles {owner : Owner} (hne : owner ≠ .event dev) :
    (run.getEvent results dev).1.table.handles owner = run.table.handles owner := by
  rw [PerfRun.getEvent]
  split
  · rfl
  · exact create_handles_of_ne hne

/-- The other groups keep their handles. -/
theorem openDevice_handles (hnot : group ∉ groups) :
    (openDevicePerfMetricStream results batch groups run dev).table.handles (.streamer group) =
      run.table.handles (.streamer group) := by
  refine ifOk_streamers (getOrCreate_handles nofun) fun run => ?_
  refine ifOk_streamers rfl fun run => ?_
  refine ifOk_streamers (getOrCreate_handles nofun) fun run => ?_
  refine ifOk_streamers (getEvent_handles nofun) fun run => ?_
  refine streamers_handles_of_notMem groups run ?_
  rintro other hother ⟨⟩
  exact hnot hother

theorem openDevices_handles (hnot : group ∉ devs.flatMap active) :
    (devs.foldl (fun run dev => openDevicePerfMetricStream results batch (active dev) run dev)
      run).table.handles (.streamer group) = run.table.handles (.streamer group) := by
  induction devs generalizing run with
  | nil => rfl
  | cons dev devs ih =>
    rw [List.flatMap_cons, List.mem_append, not_or] at hnot
    rw [List.foldl_cons, ih hnot.2, openDevice_handles hnot.1]

namespace Ready

/-- No group is one of two devices. -/
theorem notMem_flatMap (h : Ready (dev :: devs) active) (hgroup : group ∈ active dev) :
    group ∉ devs.flatMap active := by
  intro hmem
  obtain ⟨other, hother, hgroup'⟩ := List.mem_flatMap.mp hmem
  have hdev := h.own dev List.mem_cons_self group hgroup
  have hdev' := h.own other (List.mem_cons_of_mem _ hother) group hgroup'
  exact (List.nodup_cons.mp h.distinct).1 ((hdev.symm.trans hdev') ▸ hother)

end Ready

/-- All devices have what they need, or a group has the streamer that it had before the batch. -/
theorem Holding.openDevices (results : Nat → UInt32) (h : Holding batch run owners) (hopens : Opens run)
    (hready : Ready devs active) (hmem : ∀ owner ∈ batchOwners devs active, owner ∉ owners) :
    Outcome run (devs.flatMap active)
      (fun next => Holding batch next (batchOwners devs active ∪ owners) ∧
        ∀ dev, next.activated dev = run.activated dev ++ if dev ∈ devs then [active dev] else [])
      (devs.foldl (fun run dev =>
        openDevicePerfMetricStream results batch (active dev) run dev) run) := by
  induction devs generalizing run owners with
  | nil =>
    refine .inl ⟨hopens, ?_, fun dev => by simp⟩
    simpa [batchOwners] using h
  | cons dev devs ih =>
    have hnodup := hready.nodup dev List.mem_cons_self
    have hne := hready.nonempty dev List.mem_cons_self
    rw [batchOwners_cons] at hmem ⊢
    rw [List.foldl_cons]
    rcases h.openDevice results hopens hnodup hne
      (fun owner howner => hmem owner (.inl howner)) with
      ⟨hopens', hnext, hactivations⟩ | ⟨hall, group, hgroup, hhandle⟩
    · have hfree : ∀ owner ∈ batchOwners devs active,
          owner ∉ deviceOwners dev (active dev) ∪ owners := by
        rintro owner howner (hdevice | hmem')
        · exact hready.notMem_batchOwners hdevice howner
        · exact hmem owner (.inr howner) hmem'
      refine (ih hnext hopens' hready.tail hfree).imp ?_ ?_
      · rintro ⟨hall, hholding, hactivated⟩
        rw [Set.union_left_comm, ← Set.union_assoc] at hholding
        refine ⟨hall, hholding, fun other => ?_⟩
        rw [hactivated, activated_concat hactivations, List.append_assoc]
        congr 1
        by_cases heq : dev = other
        · subst heq
          simp [hne, (List.nodup_cons.mp hready.distinct).1]
        · simp [heq, Ne.symm heq]
      · rintro ⟨hall, group, hgroup, hhandle⟩
        have hnot : group ∉ active dev := fun hmem' => hready.notMem_flatMap hmem' hgroup
        exact ⟨hall, group, List.mem_flatMap.mpr (by
          obtain ⟨other, hother, hgroup'⟩ := List.mem_flatMap.mp hgroup
          exact ⟨other, List.mem_cons_of_mem _ hother, hgroup'⟩),
          hhandle.trans (openDevice_handles hnot)⟩
    · have hext := Extends.foldl (fun run dev => extends_open results batch (active dev) run dev) devs
        (openDevicePerfMetricStream results batch (active dev) run dev)
      refine .inr ⟨fun h => hall (hext.opens h), group,
        List.mem_flatMap.mpr ⟨dev, List.mem_cons_self, hgroup⟩, ?_⟩
      rw [openDevices_handles (hready.notMem_flatMap hgroup)]
      exact hhandle

/-- All that was opened in a batch is closed. -/
theorem Holding.closeDevices (results : Nat → UInt32) (h : Holding batch run owners)
    (hready : Ready devs active) (hmem : ∀ owner ∈ batchOwners devs active, owner ∈ owners) :
    Holding batch
      (devs.foldl (fun run dev => PerfStreams.closeDevice results batch (active dev) run dev) run)
      (owners \ batchOwners devs active) := by
  induction devs generalizing run owners with
  | nil => simpa [batchOwners] using h
  | cons dev devs ih =>
    rw [batchOwners_cons] at hmem ⊢
    have hclosed := h.closeDevice results (hready.nodup dev List.mem_cons_self)
      fun owner howner => hmem owner (.inl howner)
    rw [← Set.sdiff_sdiff]
    refine ih hclosed hready.tail fun owner howner => ⟨hmem owner (.inr howner), fun hdevice => ?_⟩
    exact hready.notMem_batchOwners hdevice howner

/-- Each device reads the streamers of its groups, whatever they are. -/
theorem badUse_closeDevices (hgroup : group ∈ devs.flatMap active) (h : Unopened run group) :
    BadUse (devs.foldl (fun run dev => closeDevice results batch (active dev) run dev) run) := by
  induction devs generalizing run with
  | nil => cases hgroup
  | cons dev devs ih =>
    rw [List.foldl_cons]
    by_cases hmem : group ∈ active dev
    · refine BadUse.mono ?_ (Extends.foldl
        (fun run dev => extends_closeDevice results batch (active dev) run dev) devs _)
      exact (badUse_readStreamers hmem h).mono (extends_cleanUp results batch (active dev) run dev)
    · rw [List.flatMap_cons, List.mem_append] at hgroup
      refine ih (hgroup.resolve_left hmem) fun i => ?_
      rw [closeDevice_handles]
      exact h i

/-- **A batch leaves nothing open**, or else a call has failed and a streamer is read that is not
there. -/
theorem runBatch_cases (results : Nat → UInt32) (h : Holding batch run ∅) (hopens : Opens run)
    (hready : Ready devs active) (hunopened : ∀ group ∈ devs.flatMap active, Unopened run group) :
    (Opens (runBatch results batch devs active run) ∧
      Holding batch (runBatch results batch devs active run) ∅ ∧
        ∀ dev, (runBatch results batch devs active run).activated dev =
          run.activated dev ++ if dev ∈ devs then [active dev] else []) ∨
      ¬ Opens (runBatch results batch devs active run) ∧
        BadUse (runBatch results batch devs active run) := by
  have hcloses := Closes.foldl (fun run dev =>
    closes_closeDevice results batch (active dev) run dev) devs
      (devs.foldl (fun run dev => openDevicePerfMetricStream results batch (active dev) run dev) run)
  have hextends := Extends.foldl (fun run dev =>
    extends_closeDevice results batch (active dev) run dev) devs
      (devs.foldl (fun run dev => openDevicePerfMetricStream results batch (active dev) run dev) run)
  rw [runBatch]
  refine (h.openDevices results hopens hready fun owner _ => Set.notMem_empty owner).imp ?_ ?_
  · rintro ⟨hall, hholding, hactivated⟩
    rw [Set.union_empty] at hholding
    have hclosed := hholding.closeDevices results hready fun owner howner => howner
    rw [Set.sdiff_self] at hclosed
    exact ⟨hcloses.opens hall, hclosed, fun dev => (hcloses.activated dev).trans (hactivated dev)⟩
  · rintro ⟨hall, group, hgroup, hhandle⟩
    refine ⟨fun h => hall (hextends.opens h), badUse_closeDevices hgroup fun i => ?_⟩
    rw [hhandle]
    exact hunopened group hgroup i

/-! ## The loop -/

/-- The groups are all there once, those that are active before those that are not. -/
theorem distribute_perm (active pending : List PerfGroup) :
    ((distribute active pending).1 ++ (distribute active pending).2).Perm (active ++ pending) := by
  induction pending generalizing active with
  | nil => exact List.Perm.refl _
  | cons group pending ih =>
    rw [distribute]
    split
    · exact (List.perm_middle.trans ((ih active).cons group)).trans List.perm_middle.symm
    · refine (ih _).trans ?_
      exact ((List.perm_orderedInsert _ group active).append_right pending).trans
        List.perm_middle.symm

/-- No two of them are of one domain. -/
theorem distribute_nodup (active pending : List PerfGroup) (h : (active.map PerfGroup.domain).Nodup) :
    ((distribute active pending).1.map PerfGroup.domain).Nodup := by
  induction pending generalizing active with
  | nil => exact h
  | cons group pending ih =>
    rw [distribute]
    split
    next => exact ih active h
    next hnone =>
      refine ih _ (((List.perm_orderedInsert _ group active).map _).nodup_iff.mpr ?_)
      rw [List.map_cons, List.nodup_cons]
      refine ⟨fun hmem => hnone ?_, h⟩
      obtain ⟨other, hother, hdomain⟩ := List.mem_map.mp hmem
      exact ⟨other, hother, hdomain⟩

/-- Each device that is left has groups of its own, none of which has a streamer. -/
structure Pending (run : PerfRun) (devs : List Dev) (pending : Dev → List PerfGroup) : Prop
    extends Ready devs pending where
  unopened : ∀ dev ∈ devs, ∀ group ∈ pending dev, Unopened run group

theorem active_perm (pending : Dev → List PerfGroup) (dev : Dev) :
    (activeGroups pending dev ++ stillPending pending dev).Perm (pending dev) :=
  distribute_perm [] (pending dev)

theorem mem_of_mem_activeGroups (hgroup : group ∈ activeGroups pending dev) : group ∈ pending dev :=
  (active_perm pending dev).subset (List.mem_append_left _ hgroup)

theorem mem_of_mem_stillPending (hgroup : group ∈ stillPending pending dev) : group ∈ pending dev :=
  (active_perm pending dev).subset (List.mem_append_right _ hgroup)

namespace Pending

theorem nodup_append (h : Pending run devs pending) (hdev : dev ∈ devs) :
    (activeGroups pending dev ++ stillPending pending dev).Nodup :=
  (active_perm pending dev).nodup_iff.mpr (h.nodup dev hdev)

theorem ready (h : Pending run devs pending) : Ready devs (activeGroups pending) where
  distinct := h.distinct
  nodup dev hdev := (List.nodup_append.mp (h.nodup_append hdev)).1
  nonempty dev hdev hnil := by
    have hlt := length_stillPending (h.nonempty dev hdev)
    have hlength := (active_perm pending dev).length_eq
    rw [hnil, List.nil_append] at hlength
    omega
  own dev hdev group hgroup := h.own dev hdev group (mem_of_mem_activeGroups hgroup)

/-- What is not active in a batch keeps the handles that it had. -/
theorem runBatch_handles (hnot : group ∉ devs.flatMap active) :
    (runBatch results batch devs active run).table.handles (.streamer group) =
      run.table.handles (.streamer group) := by
  have hclose (devs : List Dev) (run : PerfRun) :
      (devs.foldl (fun run dev => closeDevice results batch (active dev) run dev) run).table.handles
        (.streamer group) = run.table.handles (.streamer group) := by
    induction devs generalizing run with
    | nil => rfl
    | cons dev devs ih => rw [List.foldl_cons, ih, closeDevice_handles]
  rw [runBatch, hclose, openDevices_handles hnot]

/-- After a batch only the devices with groups that are still pending are left. -/
theorem runBatch (h : Pending run devs pending) :
    Pending (runBatch results batch devs (activeGroups pending) run)
      (devs.filter fun dev => stillPending pending dev ≠ []) (stillPending pending) where
  distinct := h.distinct.filter _
  nodup dev hdev := (List.nodup_append.mp (h.nodup_append (List.mem_of_mem_filter hdev))).2.1
  nonempty dev hdev := by simpa using (List.mem_filter.mp hdev).2
  own dev hdev group hgroup :=
    h.own dev (List.mem_of_mem_filter hdev) group (mem_of_mem_stillPending hgroup)
  unopened dev hdev group hgroup i := by
    have hmem := List.mem_of_mem_filter hdev
    have hnot : group ∉ devs.flatMap (activeGroups pending) := by
      intro hactive
      obtain ⟨other, hother, hgroup'⟩ := List.mem_flatMap.mp hactive
      have hdev := h.own dev hmem group (mem_of_mem_stillPending hgroup)
      have hdev' := h.own other hother group (mem_of_mem_activeGroups hgroup')
      obtain rfl : dev = other := hdev.symm.trans hdev'
      exact List.disjoint_of_nodup_append (h.nodup_append hmem) hgroup' hgroup
    rw [runBatch_handles hnot]
    exact h.unopened dev hmem group (mem_of_mem_stillPending hgroup) i

end Pending

/-- **The loop leaves nothing open** and activates each group once, or else a call has failed and a
streamer is read that is not there. -/
theorem collect_cases (results : Nat → UInt32) (h : Holding batch run ∅) (hopens : Opens run)
    (hpending : Pending run devs pending) :
    (Opens (collect results batch devs pending run) ∧
      Balanced (collect results batch devs pending run).table.calls ∧
        ∀ dev, ((collect results batch devs pending run).activated dev).flatten.Perm
            ((run.activated dev).flatten ++ if dev ∈ devs then pending dev else []) ∧
          ∀ groups ∈ (collect results batch devs pending run).activated dev,
            groups ∈ run.activated dev ∨ (groups.map PerfGroup.domain).Nodup) ∨
      ¬ Opens (collect results batch devs pending run) ∧
        BadUse (collect results batch devs pending run) := by
  fun_induction collect results batch devs pending run with
  | case1 batch pending run =>
    exact .inl ⟨hopens, h.owns.balanced, fun dev => ⟨by simp, fun groups hgroups => .inl hgroups⟩⟩
  | case2 batch pending run dev rest ih =>
    have hunopened : ∀ group ∈ (dev :: rest).flatMap (activeGroups pending), Unopened run group := by
      intro group hgroup
      obtain ⟨other, hother, hgroup'⟩ := List.mem_flatMap.mp hgroup
      exact hpending.unopened other hother group (mem_of_mem_activeGroups hgroup')
    rcases runBatch_cases results h hopens hpending.ready hunopened with
      ⟨hall, hholding, hactivated⟩ | ⟨hall, hbad⟩
    · have hnext : Holding (batch + 1)
          (runBatch results batch (dev :: rest) (activeGroups pending) run) ∅ :=
        ⟨hholding.owns.empty_congr _, hholding.absent⟩
      refine (ih hnext hall hpending.runBatch).imp_left ?_
      rintro ⟨hall, hbalanced, hgroups⟩
      refine ⟨hall, hbalanced, fun other => ⟨(hgroups other).1.trans ?_, fun groups hmem => ?_⟩⟩
      · rw [hactivated, List.flatten_append, List.append_assoc]
        refine List.Perm.append_left _ ?_
        by_cases hmem : other ∈ dev :: rest
        · have hstill : (if other ∈ (dev :: rest).filter fun dev => stillPending pending dev ≠ [] then
              stillPending pending other else []) = stillPending pending other := by
            split
            next => rfl
            next hnot => exact (by simpa [hmem] using hnot : stillPending pending other = []).symm
          rw [if_pos hmem, if_pos hmem, List.flatten_singleton, hstill]
          exact active_perm pending other
        · rw [if_neg hmem, if_neg hmem, if_neg fun h => hmem (List.mem_of_mem_filter h)]
          rfl
      · rcases (hgroups other).2 groups hmem with hmem | hnodup
        · rw [hactivated] at hmem
          rcases List.mem_append.mp hmem with hmem | hmem
          · exact .inl hmem
          · split at hmem
            · rw [List.mem_singleton.mp hmem]
              exact .inr (distribute_nodup [] _ List.nodup_nil)
            · cases hmem
        · exact .inr hnodup
    · have hext := extends_collect results (batch + 1)
        ((dev :: rest).filter fun dev => stillPending pending dev ≠ []) (stillPending pending)
          (runBatch results batch (dev :: rest) (activeGroups pending) run)
      exact .inr ⟨fun h => hall (hext.opens h), hbad.mono hext⟩

/-! ## The whole call -/

theorem metricGroups_nodup (domains : Dev → List UInt32) (dev : Dev) :
    (metricGroups domains dev).Nodup := by
  have hidx : (metricGroups domains dev).map PerfGroup.idx = List.range (domains dev).length := by
    refine List.ext_getElem (by simp [metricGroups]) fun i hi _ => ?_
    simp [metricGroups]
  exact List.Nodup.of_map PerfGroup.idx (hidx ▸ List.nodup_range)

theorem mem_pendingDevices (domains : Dev → List UInt32) (devs : List Dev) (dev : Dev) :
    dev ∈ pendingDevices domains devs ↔ dev ∈ devs ∧ domains dev ≠ [] := by
  rw [pendingDevices, List.mem_insertionSort, List.mem_filter, List.mem_dedup, decide_eq_true_iff]

theorem start_pending (domains : Dev → List UInt32) (devs : List Dev)
    (streamers : PerfGroup → Option Nat) :
    Pending (start streamers) (pendingDevices domains devs) (metricGroups domains) where
  distinct := (List.perm_insertionSort _ _).nodup_iff.mpr (devs.nodup_dedup.filter _)
  nodup dev _ := metricGroups_nodup domains dev
  nonempty dev hdev := by
    rw [metricGroups, Ne, List.mapIdx_eq_nil_iff]
    exact ((mem_pendingDevices domains devs dev).mp hdev).2
  own dev _ group hgroup := by
    obtain ⟨i, hi, rfl⟩ := List.mem_mapIdx.mp hgroup
    rfl
  unopened dev _ group _ i heq := by
    have hold : some ((streamers group).elim Handle.null Handle.stale) = some (.created i) := heq
    cases hstreamer : streamers group <;> rw [hstreamer] at hold <;> cases hold

theorem start_holding (streamers : PerfGroup → Option Nat) : Holding 0 (start streamers) ∅ where
  owns := Owns.nil _ _
  absent owner _ hne := by
    cases owner with
    | streamer group => exact absurd rfl (hne group)
    | _ => rfl

/-- **Nothing is left open, nothing is used that is not there, and each group is active once**, exactly
if no call that opens something fails. -/
theorem getPerfMetrics_collects_iff (results : Nat → UInt32) (device : Dev)
    (subdeviceCount : Except UInt32 UInt32) (subdevices : Except UInt32 (List Dev))
    (domains : Dev → List UInt32) (streamers : PerfGroup → Option Nat) :
    Collects domains (devicesToQuery device subdeviceCount subdevices)
        (getPerfMetrics results device subdeviceCount subdevices domains streamers).2 ↔
      Opens (getPerfMetrics results device subdeviceCount subdevices domains streamers).2 := by
  have hopens : Opens (start streamers) := ⟨nofun, nofun⟩
  rw [getPerfMetrics]
  cases hdevs : devicesToQuery device subdeviceCount subdevices with
  | error result =>
    refine iff_of_true ⟨?_, nofun, nofun⟩ hopens
    exact (start_holding streamers).owns.balanced
  | ok devs =>
    rcases collect_cases results (start_holding streamers) hopens
      (start_pending domains devs streamers) with ⟨hall, hbalanced, hgroups⟩ | ⟨hall, hbad⟩
    · refine iff_of_true ⟨hbalanced, ?_, fun dev groups hmem => ?_⟩ hall
      · rintro _ ⟨⟩ dev hdev
        have hall : (if dev ∈ pendingDevices domains devs then metricGroups domains dev else []) =
            metricGroups domains dev := by
          split
          next => rfl
          next hnot =>
            have hnone : domains dev = [] := by
              by_contra hne
              exact hnot ((mem_pendingDevices domains devs dev).mpr ⟨hdev, hne⟩)
            rw [metricGroups, hnone, List.mapIdx_nil]
        exact hall ▸ (hgroups dev).1
      · exact ((hgroups dev).2 groups hmem).resolve_left nofun
    · exact iff_of_false (fun h => hbad.not_balanced h.balanced) hall

/-- A device with one group, which cannot be activated: no streamer is opened, and yet one is read. -/
theorem getPerfMetrics_notActivated :
    ¬ Collects (fun _ => [0]) (devicesToQuery 0 (.ok 0) (.ok []))
      (getPerfMetrics (fun n => if n = 1 then 1 else 0) 0 (.ok 0) (.ok []) (fun _ => [0])
        fun _ => none).2 := by
  have hrun : (getPerfMetrics (fun n => if n = 1 then 1 else 0) 0 (.ok 0) (.ok []) (fun _ => [0])
      fun _ => none).2 = runBatch (fun n => if n = 1 then 1 else 0) 0 [0]
        (activeGroups (metricGroups fun _ => [0])) (start fun _ => none) := by
    have hdevs : pendingDevices (fun _ => [0]) [0] = [0] := rfl
    have hnext : ([0].filter fun dev => stillPending (metricGroups fun _ => [0]) dev ≠ []) = [] := rfl
    change collect _ 0 (pendingDevices (fun _ => [0]) [0]) _ _ = _
    rw [hdevs, collect, hnext, collect]
  have hread : ⟨.use (.streamer 0) .null, true⟩ ∈ (runBatch (fun n => if n = 1 then 1 else 0) 0 [0]
      (activeGroups (metricGroups fun _ => [0])) (start fun _ => none)).table.calls := by decide
  intro h
  rw [hrun] at h
  refine BadUse.not_balanced ⟨_, hread, _, _, rfl, ?_⟩ h.balanced
  rintro i ⟨⟩

end PerfStreams

end XpuManager
