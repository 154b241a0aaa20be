import XpuManager.Amc.PdrManagerSteps

/-! # Every open file is closed

What `getFile` asks of the card, by the events that its exchanges leave in the trace. -/

namespace XpuManager

open Prog

variable {ρ : Type}

/-! ## Statuses in a trace -/

/-- The status of an exchange of the file-transfer command `cmd`. -/
def Event.ftStatus (cmd : UInt8) : Event → Option UInt8
  | .exchange cmdType c ret _ _ => if cmdType = ftCmdType cmd ∧ c = cmd then some ret else none
  | _ => none

/-- How the exchanges of `cmd` ended. -/
def ftStatuses (cmd : UInt8) (evs : List Event) : List UInt8 := evs.filterMap (Event.ftStatus cmd)

/-- The status of a run that returned. -/
def statusOf : Outcome UInt8 → List UInt8
  | .ret r => [r]
  | _ => []

/-- The run adds events with the property `P`. -/
def AddsEvents (P : List Event → Prop) (s t : Pldm) : Prop :=
  ∃ evs, t.trace = s.trace ++ evs ∧ P evs

/-- No exchange of a file-transfer command is among the events. -/
def NoFileTransfer (evs : List Event) : Prop := ∀ cmd, ftStatuses cmd evs = []

section

variable {P Q : List Event → Prop} {s t u : Pldm} {evs : List Event} {cmd : UInt8}
  {o : Outcome UInt8}

@[simp] theorem ftStatuses_append (cmd : UInt8) (evs evs' : List Event) :
    ftStatuses cmd (evs ++ evs') = ftStatuses cmd evs ++ ftStatuses cmd evs' :=
  List.filterMap_append

theorem AddsEvents.mono (h : AddsEvents P s t) (hP : ∀ evs, P evs → Q evs) : AddsEvents Q s t := by
  obtain ⟨evs, ht, hevs⟩ := h
  exact ⟨evs, ht, hP evs hevs⟩

theorem AddsEvents.trans {P' : List Event → Prop} (h : AddsEvents P s t) (h' : AddsEvents P' t u)
    (hP : ∀ evs evs', P evs → P' evs' → Q (evs ++ evs')) : AddsEvents Q s u := by
  obtain ⟨evs, ht, hevs⟩ := h
  obtain ⟨evs', hu, hevs'⟩ := h'
  exact ⟨evs ++ evs', by rw [hu, ht, List.append_assoc], hP evs evs' hevs hevs'⟩

theorem AddsEvents.of_trace (h : t.trace = s.trace) : AddsEvents NoFileTransfer s t :=
  ⟨[], by rw [h, List.append_nil], fun _ => rfl⟩

instance : Std.Refl (AddsEvents NoFileTransfer) := ⟨fun _ => .of_trace rfl⟩

instance : IsTrans Pldm (AddsEvents NoFileTransfer) where
  trans _ _ _ h h' := h.trans h' fun evs evs' hevs hevs' cmd => by
    rw [ftStatuses_append, hevs cmd, hevs' cmd, List.append_nil]

/-- What an exchange puts on the bus is no exchange. -/
theorem BusEvents.noFileTransfer {Built : Prop} {R : Bytes → Prop} {ok : Bool}
    {o : Outcome UInt8} (h : BusEvents Built R ok o evs) : NoFileTransfer evs := by
  intro cmd
  cases h with
  | unbuilt => rfl
  | sent _ _ hreads =>
    refine List.filterMap_eq_nil_iff.mpr fun e he => ?_
    rcases List.mem_cons.mp he with rfl | he
    · rfl
    · have hreceived := hreads e he
      cases e <;> first | rfl | exact absurd hreceived (by simp [Event.isReceived])

/-- The statuses that an exchange of `cmd` leaves when it ends with `o`. -/
def OneExchange (cmdType cmd : UInt8) (o : Outcome UInt8) (evs : List Event) : Prop :=
  ∀ c, ftStatuses c evs = if cmdType = ftCmdType c ∧ cmd = c then statusOf o else []

/-- An exchange adds its own status, and no other. -/
theorem exchange_adds {cmdType : UInt8} {prep recv : UInt8 → Prog Pldm UInt8} {len : Pldm → UInt8}
    (hprep : ∀ id, Within Fills (prep id)) (hrecv : ∀ id, Within Receives (recv id)) :
    wp (exchange cmdType cmd prep len recv)
      (fun o t => AddsEvents (OneExchange cmdType cmd o) s t) s := by
  refine wp_mono (@exchange_run cmdType cmd prep recv len False (fun _ => True) s hprep
    (fun _ _ => trivial) False.elim hrecv) fun o t h => ?_
  obtain ⟨bus, hbus, ht⟩ := h.trace
  refine ⟨bus ++ closing cmdType cmd o s.instanceID, by rw [ht, List.append_assoc], fun c => ?_⟩
  rw [ftStatuses_append, hbus.noFileTransfer c, List.nil_append]
  cases o with
  | ret r =>
    by_cases hc : cmdType = ftCmdType c ∧ cmd = c
    · simp [closing, ftStatuses, Event.ftStatus, statusOf, hc]
    · simp [closing, ftStatuses, Event.ftStatus, hc]
  | fault => simp [closing, ftStatuses, statusOf]
  | cut => simp [closing, ftStatuses, statusOf]

theorem fills_ftPrep (cmd size id : UInt8) : Within Fills (ftPrep cmd size id) :=
  Within.bind (fills_of_onlyFrame (onlyFrame_messageHeaders _ _ _ _ _)) fun _ =>
    Within.ite (fills_of_onlyFrame ((onlyPayload_pldmFillFileTxPayload cmd size).mono
      fun _ _ => And.left)) (Within.pure _)

/-- A command of a legal size adds its own status, and no other. -/
theorem pldmFileTransferCmd_adds (fuel : Nat) {cmd size : UInt8} (hsize : ¬ size < pldmFtCmdBaseSize)
    (s : Pldm) : wp (pldmFileTransferCmd fuel cmd size)
      (fun o t => AddsEvents (OneExchange (ftCmdType cmd) cmd o) s t) s := by
  rw [pldmFileTransferCmd, if_neg hsize]
  exact exchange_adds (fills_ftPrep cmd size) fun _ =>
    Within.bind (receives_rxMultiPartData fuel) fun _ =>
      Within.ite (receives_pldmFileTransferResp cmd) (Within.pure _)

/-! ## The commands of a file -/

/-- The platform commands are no file transfers. -/
theorem pfExchange_adds (cmd size : UInt8) :
    Within (AddsEvents NoFileTransfer) (pfExchange cmd size) := by
  intro s
  have h := @exchange_adds s cmd pldmPlatformMonitoring _ _ (fun _ => size)
    (fun id => fills_pfPrep cmd size id)
    fun id => receives_receiveThen (quiet_processPlatformResponse cmd id)
  refine AddsEvents.mono h fun evs hevs c => ?_
  rw [hevs c, if_neg]
  rw [ftCmdType]
  split
  · exact fun hc => absurd hc.1 (by decide)
  · exact fun hc => absurd hc.1 (by decide)

theorem modifyPf_adds (g : PlatformState → PlatformState) :
    Within (AddsEvents NoFileTransfer) (modifyPf g) := fun _ => .of_trace rfl

theorem pfMonCtrlCmd_adds (fuel : Nat) (cmd size : UInt8) :
    Within (AddsEvents NoFileTransfer) (pfMonCtrlCmd fuel cmd size) := by
  refine Within.loop (fun _ => ?_) fuel ()
  refine Within.bind (pfExchange_adds cmd size) fun _ => Within.ite (Within.pure _)
    (Within.ite (Within.pure _) (Within.bind Within.get fun _ =>
      Within.bind (modifyPf_adds _) fun _ => Within.ite ?_ ?_))
  · exact Within.bind (modifyPf_adds _) fun _ => Within.bind (modifyPf_adds _) fun _ =>
      Within.pure _
  · exact Within.bind (modifyPf_adds _) fun _ => Within.pure _

theorem pfGetTotalPdrs_adds (fuel : Nat) :
    Within (AddsEvents NoFileTransfer) (pfGetTotalPdrs fuel) := by
  refine Within.bind (modifyPf_adds _) fun _ => Within.bind (modifyPf_adds _) fun _ =>
    Within.bind Within.get fun _ => Within.bind (Within.forEach (fun _ _ => ?_) _ _) fun ret => ?_
  · exact Within.bind (pfMonCtrlCmd_adds fuel _ _) fun _ => Within.pure _
  · cases ret <;> exact Within.pure _

/-- Initialising the platform part is no file transfer. -/
theorem pfMonCtrlInitialize_adds (fuel : Nat) :
    Within (fun s t : PldmObject ρ => AddsEvents NoFileTransfer s.pldm t.pldm)
      (PldmObject.pfMonCtrlInitialize fuel) := by
  let R (s t : PldmObject ρ) : Prop := AddsEvents NoFileTransfer s.pldm t.pldm
  have : Std.Refl R := ⟨fun _ => .of_trace rfl⟩
  have : IsTrans (PldmObject ρ) R := ⟨fun _ _ _ h h' => IsTrans.trans _ _ _ h h'⟩
  have hpldm {α : Type} {m : Prog Pldm α} (h : Within (AddsEvents NoFileTransfer) m) :
      Within R (onPldm m) := h.zoom fun _ _ hadds => hadds
  have hclear : Within R pdrManagerClear :=
    Within.bind (hpldm (modifyPf_adds _)) fun _ => Within.modify fun _ => .of_trace rfl
  exact Within.bind (hpldm (within_orError (pfMonCtrlCmd_adds fuel _ _))) fun _ => Within.ite
    (Within.bind hclear fun _ => hpldm (pfGetTotalPdrs_adds fuel)) (Within.pure _)

theorem OneExchange.eq (h : OneExchange (ftCmdType cmd) cmd o evs) : ftStatuses cmd evs = statusOf o :=
  (h cmd).trans (if_pos ⟨rfl, rfl⟩)

theorem OneExchange.eq_nil {c : UInt8} (h : OneExchange (ftCmdType cmd) cmd o evs) (hc : cmd ≠ c) :
    ftStatuses c evs = [] :=
  (h c).trans (if_neg fun h => hc h.2)

/-- Opening a file is one exchange. -/
theorem pldmDfOpenCommand_adds (fuel : Nat) (file fd : UInt16) (s : Pldm) :
    wp (pldmDfOpenCommand fuel file fd) (fun o t => ∃ status, AddsEvents
      (OneExchange (ftCmdType dfOpen) dfOpen status) s t ∧ match o with
        | .ret opened => status = .ret opened.1
        | _ => statusOf status = []) s := by
  rw [pldmDfOpenCommand, modifyFt, wp_modify_bind]
  refine wp_bind_of (pldmFileTransferCmd_adds fuel (by decide) _) ?_ ?_ ?_
  · intro ret t hadds
    refine ⟨.ret ret, hadds, ?_⟩
    by_cases hret : ret = pldmSuccess
    · simp [hret]
    · simp [hret]
  · exact fun t hadds => ⟨.fault, hadds, rfl⟩
  · exact fun t hadds => ⟨.cut, hadds, rfl⟩

/-- Closing a file is one exchange. -/
theorem pldmDfCloseCommand_adds (fuel : Nat) (fd : UInt16) (s : Pldm) :
    wp (pldmDfCloseCommand fuel fd)
      (fun o t => AddsEvents (OneExchange (ftCmdType dfClose) dfClose o) s t) s := by
  rw [pldmDfCloseCommand, modifyFt, wp_modify_bind]
  exact pldmFileTransferCmd_adds fuel (by decide) _

/-- The events are exchanges for parts of a file, all successful where `ok` holds. -/
structure PartEvents (ok : Prop) (evs : List Event) : Prop where
  opens : ftStatuses dfOpen evs = []
  parts : ok → ∀ r ∈ ftStatuses pldmMultipartReceive evs, r = pldmSuccess
  closes : ftStatuses dfClose evs = []

theorem PartEvents.append {ok ok' : Prop} {evs' : List Event} (h : PartEvents ok evs)
    (h' : PartEvents ok' evs') : PartEvents (ok ∧ ok') (evs ++ evs') where
  opens := by rw [ftStatuses_append, h.opens, h'.opens, List.append_nil]
  parts := by
    rintro ⟨hok, hok'⟩ r hr
    rw [ftStatuses_append] at hr
    exact (List.mem_append.mp hr).elim (h.parts hok r) (h'.parts hok' r)
  closes := by rw [ftStatuses_append, h.closes, h'.closes, List.append_nil]

theorem PartEvents.imp {ok ok' : Prop} (h : PartEvents ok evs) (himp : ok' → ok) :
    PartEvents ok' evs := ⟨h.opens, fun hok => h.parts (himp hok), h.closes⟩

/-- The turn asks for another one, or leaves with success. -/
def GoesWell : Outcome (UInt32 ⊕ UInt8) → Prop
  | .ret (.inl _) => True
  | .ret (.inr r) => r = pldmSuccess
  | _ => False

theorem takePart_adds (currentOffset : UInt32) :
    Within (AddsEvents NoFileTransfer) (takePart currentOffset) := by
  have hft (g : FileTransferState → FileTransferState) :
      Within (AddsEvents NoFileTransfer) (modifyFt g) := fun _ => .of_trace rfl
  exact Within.bind Within.get fun _ => Within.ite (Within.pure _)
    (Within.bind (hft _) fun _ => Within.ite (Within.pure _)
      (Within.ite (Within.pure _) (Within.bind (hft _) fun _ => Within.pure _)))

theorem OneExchange.partEvents
    (h : OneExchange (ftCmdType pldmMultipartReceive) pldmMultipartReceive o evs) :
    PartEvents (o = .ret pldmSuccess) evs where
  opens := h.eq_nil (by decide)
  parts := by
    rintro rfl r hr
    rw [h.eq] at hr
    exact List.mem_singleton.mp hr
  closes := h.eq_nil (by decide)

theorem NoFileTransfer.partEvents (h : NoFileTransfer evs) : PartEvents True evs where
  opens := h _
  parts := fun _ r hr => by
    rw [h] at hr
    exact absurd hr List.not_mem_nil
  closes := h _

/-- A turn asks for one part, and goes well only where it was received. -/
theorem multipartTurn_adds (fuel : Nat) (currentOffset : UInt32) (s : Pldm) :
    wp (multipartTurn fuel currentOffset) (fun o t => AddsEvents (PartEvents (GoesWell o)) s t) s := by
  rw [multipartTurn, modifyFt, wp_modify_bind]
  refine wp_bind_of (pldmFileTransferCmd_adds fuel (by decide) _) ?_ ?_ ?_
  · intro ret t hadds
    by_cases hret : ret = pldmSuccess
    · subst hret
      rw [if_neg (not_not_intro rfl)]
      refine hadds.trans (takePart_adds currentOffset t) fun evs evs' hevs hevs' => ?_
      exact (hevs.partEvents.append hevs'.partEvents).imp fun _ => ⟨rfl, trivial⟩
    · rw [if_pos hret]
      exact hadds.mono fun evs hevs => hevs.partEvents.imp fun hok => absurd hok hret
  · exact fun t hadds => hadds.mono fun evs hevs => hevs.partEvents.imp False.elim
  · exact fun t hadds => hadds.mono fun evs hevs => hevs.partEvents.imp False.elim

/-- Where a file was received, every part of it was. Where it was not, `fileData` stays. -/
theorem receive_adds (fuel : Nat) (fd : UInt16) (fileData : Bytes) (s : Pldm) :
    wp (pldmMultipartReceiveCommand fuel fd fileData) (fun o t =>
      AddsEvents (PartEvents (∃ data, o = .ret (pldmSuccess, data))) s t ∧
      ∀ received, o = .ret received → received.1 ≠ pldmSuccess → received.2 = fileData) s := by
  have hloop (u : Pldm) : wp (Prog.loop (multipartTurn fuel) fuel 0)
      (fun o t => AddsEvents (PartEvents (o = .ret pldmSuccess)) u t) u := by
    have hstep {b : UInt32} {v w : Pldm} {o : Outcome (UInt32 ⊕ UInt8)}
        (hv : AddsEvents (PartEvents True) u v) (hrun : multipartTurn fuel b v = (o, w)) :
        AddsEvents (PartEvents (GoesWell o)) u w := by
      have hturn := (wp_of_eq hrun).mp (multipartTurn_adds fuel b v)
      exact hv.trans hturn fun evs evs' hevs hevs' => (hevs.append hevs').imp fun h => ⟨trivial, h⟩
    have hstart : AddsEvents (PartEvents True) u u :=
      (AddsEvents.of_trace rfl).mono fun evs => NoFileTransfer.partEvents
    refine loop_induct (I := fun _ v => AddsEvents (PartEvents True) u v) ?_ ?_ ?_ ?_ ?_ hstart
    · exact fun b v hv => hv.mono fun evs hevs => hevs.imp fun _ => trivial
    · exact fun b v b' w hv hrun => (hstep hv hrun).mono fun evs hevs => hevs.imp fun _ => trivial
    · exact fun b v r w hv hrun => (hstep hv hrun).mono fun evs hevs =>
        hevs.imp fun hr => Outcome.ret.inj hr
    · exact fun b v w hv hrun => (hstep hv hrun).mono fun evs hevs => hevs.imp (by simp)
    · exact fun b v w hv hrun => (hstep hv hrun).mono fun evs hevs => hevs.imp (by simp)
  rw [pldmMultipartReceiveCommand, modifyFt, wp_modify_bind]
  refine wp_bind_of (hloop _) ?_ ?_ ?_
  · intro ret t hadds
    rw [wp_get_bind, wp_pure]
    by_cases hret : ret = pldmSuccess
    · simp only [hret, ne_eq, not_true_eq_false, if_false]
      exact ⟨hadds.mono fun evs hevs => hevs.imp fun _ => by rw [hret], by simp⟩
    · simp only [if_pos hret]
      refine ⟨hadds.mono fun evs hevs => hevs.imp ?_, by simp⟩
      rintro ⟨data, hdata⟩
      exact absurd (Prod.mk.inj (Outcome.ret.inj hdata)).1 hret
  · exact fun t hadds => ⟨hadds.mono fun evs hevs => hevs.imp (by simp), by simp⟩
  · exact fun t hadds => ⟨hadds.mono fun evs hevs => hevs.imp (by simp), by simp⟩

/-! ## The whole file -/

/-- `getFile` opened the file as `fd`, which left the object `u`. -/
def Opened (fuel : Nat) (filePdrId : UInt16) (s : PldmObject ρ) (fd : UInt16) (u : PldmObject ρ) :
    Prop :=
  ∃ t filePdr, PldmObject.pfMonCtrlInitialize fuel s = (.ret pldmSuccess, t) ∧
    t.getFilePdrById filePdrId = some filePdr ∧
    onPldm (pldmDfOpenCommand fuel (UInt16.ofNat (pdrField filePdr 12 2)) 0) t =
      (.ret (pldmSuccess, fd), u)

/-- The file that was open as `fd` in `u` was received and closed, which left `t`; the result is the
error of receiving it, or else the status of closing it. -/
def ReceivedAndClosed (fuel : Nat) (fd : UInt16) (u : PldmObject ρ) (result : UInt8 × Bytes)
    (evs : List Event) (t : PldmObject ρ) : Prop :=
  ∃ receiveRet v closeRet,
    onPldm (pldmMultipartReceiveCommand fuel fd []) u = (.ret (receiveRet, result.2), v) ∧
    onPldm (pldmDfCloseCommand fuel fd) v = (.ret closeRet, t) ∧
    ftStatuses dfClose evs = [closeRet] ∧
    (receiveRet ≠ pldmSuccess → result = (receiveRet, [])) ∧
    (receiveRet = pldmSuccess → result.1 = closeRet)

/-- The call never came back from receiving the file that was open as `fd` in `u`, or from closing it
right after that. -/
def NeverBack (fuel : Nat) (fd : UInt16) (u : PldmObject ρ) : Prop :=
  (∀ received v, onPldm (pldmMultipartReceiveCommand fuel fd []) u ≠ (.ret received, v)) ∨
  ∃ received v, onPldm (pldmMultipartReceiveCommand fuel fd []) u = (.ret received, v) ∧
    ∀ closeRet t, onPldm (pldmDfCloseCommand fuel fd) v ≠ (.ret closeRet, t)

/-- What `getFile` leaves in the trace from `s` to `t` when it ends with `o`. A run that does not
return has at most not yet closed the file: it is still in the receive, or in the close. -/
def ClosesFile (fuel : Nat) (filePdrId : UInt16) (s : PldmObject ρ) (o : Outcome (UInt8 × Bytes))
    (t : PldmObject ρ) : Prop :=
  ∃ evs, t.pldm.trace = s.pldm.trace ++ evs ∧
    match o with
    | .ret result =>
      (ftStatuses dfClose evs).length = (ftStatuses dfOpen evs).count pldmSuccess ∧
      (result.1 = pldmSuccess → ftStatuses dfOpen evs = [pldmSuccess] ∧
        (∀ r ∈ ftStatuses pldmMultipartReceive evs, r = pldmSuccess) ∧
        ftStatuses dfClose evs = [pldmSuccess]) ∧
      ∀ fd u, Opened fuel filePdrId s fd u → ReceivedAndClosed fuel fd u result evs t
    | _ =>
      (ftStatuses dfClose evs).length ≤ (ftStatuses dfOpen evs).count pldmSuccess ∧
      ∀ fd u, Opened fuel filePdrId s fd u → NeverBack fuel fd u

section

variable {fuel : Nat} {filePdrId fd : UInt16} {s t u u' : PldmObject ρ} {evs : List Event}

/-- A run that opened nothing closes nothing. -/
theorem closesFile_of_unopened {o : Outcome (UInt8 × Bytes)}
    (hadds : AddsEvents (fun evs => pldmSuccess ∉ ftStatuses dfOpen evs ∧ ftStatuses dfClose evs = [])
      s.pldm t.pldm) (hresult : ∀ result, o = .ret result → result.1 ≠ pldmSuccess)
    (hopened : ∀ fd u, ¬ Opened fuel filePdrId s fd u) : ClosesFile fuel filePdrId s o t := by
  obtain ⟨evs, htrace, hopens, hcloses⟩ := hadds
  refine ⟨evs, htrace, ?_⟩
  have hcount : (ftStatuses dfOpen evs).count pldmSuccess = 0 := List.count_eq_zero.mpr hopens
  cases o with
  | ret result =>
    refine ⟨by rw [hcloses, hcount, List.length_nil], fun h => absurd h (hresult result rfl), ?_⟩
    exact fun fd u h => absurd h (hopened fd u)
  | fault =>
    exact ⟨by rw [hcloses]; exact Nat.zero_le _, fun fd u h => absurd h (hopened fd u)⟩
  | cut =>
    exact ⟨by rw [hcloses]; exact Nat.zero_le _, fun fd u h => absurd h (hopened fd u)⟩

/-- A run on the `Pldm` part adds what the part adds. -/
theorem onPldm_adds {α : Type} {m : Prog Pldm α} {P : Outcome α → Pldm → Prop} {o : Outcome α}
    (h : wp m P s.pldm) (hrun : onPldm m s = (o, t)) : P o t.pldm := by
  obtain ⟨rfl, rfl⟩ := Prod.mk.inj hrun
  exact h

theorem Opened.unique {fd' : UInt16} (h : Opened fuel filePdrId s fd u)
    (h' : Opened fuel filePdrId s fd' u') : fd = fd' ∧ u = u' := by
  obtain ⟨t, filePdr, hinit, hfind, hopen⟩ := h
  obtain ⟨t', filePdr', hinit', hfind', hopen'⟩ := h'
  obtain rfl := (Prod.mk.inj (hinit.symm.trans hinit')).2
  obtain rfl := Option.some.inj (hfind.symm.trans hfind')
  have hrun := Prod.mk.inj (hopen.symm.trans hopen')
  exact ⟨(Prod.mk.inj (Outcome.ret.inj hrun.1)).2, hrun.2⟩

/-- Up to there the run adds the exchange that opened the file. -/
theorem Opened.adds (h : Opened fuel filePdrId s fd u) :
    AddsEvents (fun evs => ftStatuses dfOpen evs = [pldmSuccess] ∧
      ftStatuses pldmMultipartReceive evs = [] ∧ ftStatuses dfClose evs = []) s.pldm u.pldm := by
  obtain ⟨t, filePdr, hinit, -, hopen⟩ := h
  have hbefore := pfMonCtrlInitialize_adds (ρ := ρ) fuel s
  rw [hinit] at hbefore
  obtain ⟨status, hadds, hstatus⟩ := onPldm_adds (pldmDfOpenCommand_adds fuel _ 0 _) hopen
  dsimp only at hstatus
  subst hstatus
  refine AddsEvents.trans hbefore hadds fun evs evs' hevs hevs' => ?_
  simp only [ftStatuses_append, hevs _, List.nil_append]
  exact ⟨hevs'.eq, hevs'.eq_nil (by decide), hevs'.eq_nil (by decide)⟩

/-- What `getFile` does with an open file. -/
def receiveAndClose (fuel : Nat) (fd : UInt16) : Prog (PldmObject ρ) (UInt8 × Bytes) := do
  let received ← onPldm (pldmMultipartReceiveCommand fuel fd [])
  let closeRet ← onPldm (pldmDfCloseCommand fuel fd)
  pure (if closeRet ≠ pldmSuccess ∧ received.1 = pldmSuccess then closeRet else received.1,
    received.2)

/-- A run that stops before it closes the file. -/
theorem closesFile_of_stopped {o : Outcome (UInt8 × Bytes)} (h : Opened fuel filePdrId s fd u)
    (ho : ∀ result, o ≠ .ret result) (hback : NeverBack fuel fd u)
    (hadds : AddsEvents (fun evs => ftStatuses dfOpen evs = [] ∧ ftStatuses dfClose evs = [])
      u.pldm t.pldm) : ClosesFile fuel filePdrId s o t := by
  obtain ⟨evs, htrace, hopens, -, hcloses⟩ := h.adds
  obtain ⟨evs', htrace', hopens', hcloses'⟩ := hadds
  refine ⟨evs ++ evs', by rw [htrace', htrace, List.append_assoc], ?_⟩
  have hle : (ftStatuses dfClose (evs ++ evs')).length ≤
      (ftStatuses dfOpen (evs ++ evs')).count pldmSuccess := by
    simp [hcloses, hcloses']
  have hbusy (fd' : UInt16) (u' : PldmObject ρ) (h' : Opened fuel filePdrId s fd' u') :
      NeverBack fuel fd' u' := by
    obtain ⟨rfl, rfl⟩ := h.unique h'
    exact hback
  cases o with
  | ret result => exact absurd rfl (ho result)
  | fault => exact ⟨hle, hbusy⟩
  | cut => exact ⟨hle, hbusy⟩

/-- A run that stops while it closes the file. -/
theorem closesFile_of_unclosed {received : UInt8 × Bytes} {v : PldmObject ρ} {closed : Outcome UInt8}
    {o : Outcome (UInt8 × Bytes)} (h : Opened fuel filePdrId s fd u)
    (hreceive : onPldm (pldmMultipartReceiveCommand fuel fd []) u = (.ret received, v))
    (hclose : onPldm (pldmDfCloseCommand fuel fd) v = (closed, t))
    (hclosed : ∀ closeRet, closed ≠ .ret closeRet) (ho : ∀ result, o ≠ .ret result) :
    ClosesFile fuel filePdrId s o t := by
  obtain ⟨hparts, -⟩ := onPldm_adds (receive_adds fuel fd [] _) hreceive
  have hback : NeverBack fuel fd u := by
    refine .inr ⟨received, v, hreceive, fun closeRet t' h' => ?_⟩
    exact hclosed closeRet (Prod.mk.inj (hclose.symm.trans h')).1
  refine closesFile_of_stopped h ho hback
    (hparts.trans (onPldm_adds (pldmDfCloseCommand_adds fuel fd _) hclose)
      fun evs evs' hevs hevs' => ?_)
  have hnone : ftStatuses dfClose evs' = [] := by
    rw [hevs'.eq]
    cases closed with
    | ret closeRet => exact absurd rfl (hclosed closeRet)
    | fault => rfl
    | cut => rfl
  simp [hevs.opens, hevs.closes, hnone, hevs'.eq_nil (show dfClose ≠ dfOpen by decide)]

/-- The result of both: the error of receiving, or else the status of closing. -/
theorem closeResult_eq (receiveRet closeRet : UInt8) :
    (if closeRet ≠ pldmSuccess ∧ receiveRet = pldmSuccess then closeRet else receiveRet) =
      if receiveRet = pldmSuccess then closeRet else receiveRet := by
  by_cases hreceive : receiveRet = pldmSuccess
  · by_cases hclose : closeRet = pldmSuccess
    · simp [hreceive, hclose]
    · simp [hreceive, hclose]
  · simp [hreceive]

/-- An open file is received and closed. -/
theorem closesFile_of_opened (h : Opened fuel filePdrId s fd u) :
    wp (receiveAndClose fuel fd) (ClosesFile fuel filePdrId s) u := by
  rw [receiveAndClose]
  rcases hreceive : onPldm (pldmMultipartReceiveCommand fuel fd []) u with ⟨received | _ | _, v⟩
  · obtain ⟨hparts, hdata⟩ := onPldm_adds (receive_adds fuel fd [] _) hreceive
    rw [wp, bind_of_ret hreceive]
    rcases hclose : onPldm (pldmDfCloseCommand fuel fd) v with ⟨closeRet | _ | _, t⟩
    · rw [bind_of_ret hclose]
      obtain ⟨evs, htrace, hopens, hnoparts, hcloses⟩ := h.adds
      obtain ⟨evs', htrace', hevs'⟩ := hparts
      obtain ⟨evs'', htrace'', hevs''⟩ := onPldm_adds (pldmDfCloseCommand_adds fuel fd _) hclose
      have hopen : ftStatuses dfOpen (evs ++ evs' ++ evs'') = [pldmSuccess] := by
        simp [hopens, hevs'.opens, hevs''.eq_nil (show dfClose ≠ dfOpen by decide)]
      have hclosed : ftStatuses dfClose (evs ++ evs' ++ evs'') = [closeRet] := by
        simp [hcloses, hevs'.closes, hevs''.eq, statusOf]
      have hpart : ftStatuses pldmMultipartReceive (evs ++ evs' ++ evs'') =
          ftStatuses pldmMultipartReceive evs' := by
        simp [hnoparts, hevs''.eq_nil (show dfClose ≠ pldmMultipartReceive by decide)]
      have hempty : received.1 ≠ pldmSuccess → received.2 = [] := hdata received rfl
      refine ⟨evs ++ evs' ++ evs'', ?_, ?_, fun hsuccess => ?_, fun fd' u' h' => ?_⟩
      · rw [pure_apply, htrace'', htrace', htrace, List.append_assoc, List.append_assoc,
          List.append_assoc]
      · rw [hopen, hclosed]
        rfl
      · have hret : received.1 = pldmSuccess ∧ closeRet = pldmSuccess := by
          dsimp only at hsuccess
          rw [closeResult_eq] at hsuccess
          split at hsuccess
          case isTrue hreceived => exact ⟨hreceived, hsuccess⟩
          case isFalse hreceived => exact absurd hsuccess hreceived
        refine ⟨hopen, ?_, by rw [hclosed, hret.2]⟩
        rw [hpart]
        exact hevs'.parts ⟨received.2, by rw [← hret.1]⟩
      · obtain ⟨rfl, rfl⟩ := h.unique h'
        refine ⟨received.1, v, closeRet, hreceive, hclose, hclosed, fun hne => ?_, fun heq => ?_⟩
        · rw [closeResult_eq, if_neg hne, hempty hne]
        · dsimp only
          rw [closeResult_eq, if_pos heq]
    · rw [bind_of_fault hclose]
      exact closesFile_of_unclosed h hreceive hclose (by simp) (by simp)
    · rw [bind_of_cut hclose]
      exact closesFile_of_unclosed h hreceive hclose (by simp) (by simp)
  · obtain ⟨hparts, -⟩ := onPldm_adds (receive_adds fuel fd [] _) hreceive
    rw [wp, bind_of_fault hreceive]
    exact closesFile_of_stopped h (by simp) (.inl (by simp [hreceive]))
      (hparts.mono fun evs hevs => ⟨hevs.opens, hevs.closes⟩)
  · obtain ⟨hparts, -⟩ := onPldm_adds (receive_adds fuel fd [] _) hreceive
    rw [wp, bind_of_cut hreceive]
    exact closesFile_of_stopped h (by simp) (.inl (by simp [hreceive]))
      (hparts.mono fun evs hevs => ⟨hevs.opens, hevs.closes⟩)

/-- Nothing is opened by a call that ends behind the initialization. -/
theorem closesFile_of_initialize {init : Outcome UInt8} {o : Outcome (UInt8 × Bytes)}
    (hinit : PldmObject.pfMonCtrlInitialize fuel s = (init, t))
    (hresult : ∀ result, o = .ret result → result.1 ≠ pldmSuccess)
    (hopened : ∀ fd u, ¬ Opened fuel filePdrId s fd u) : ClosesFile fuel filePdrId s o t := by
  have hbefore := pfMonCtrlInitialize_adds (ρ := ρ) fuel s
  rw [hinit] at hbefore
  refine closesFile_of_unopened (hbefore.mono fun evs hevs => ?_) hresult hopened
  exact ⟨by rw [hevs]; exact List.not_mem_nil, hevs _⟩

/-- It ends there where the initialization fails. -/
theorem closesFile_of_uninitialized {init : Outcome UInt8} {o : Outcome (UInt8 × Bytes)}
    (hinit : PldmObject.pfMonCtrlInitialize fuel s = (init, t)) (hfailed : init ≠ .ret pldmSuccess)
    (hresult : ∀ result, o = .ret result → result.1 ≠ pldmSuccess) :
    ClosesFile fuel filePdrId s o t := by
  refine closesFile_of_initialize hinit hresult fun fd u h => ?_
  obtain ⟨t', filePdr, hinit', -⟩ := h
  exact hfailed (Prod.mk.inj (hinit.symm.trans hinit')).1

/-- And where the file has no descriptor. -/
theorem closesFile_of_absent (hinit : PldmObject.pfMonCtrlInitialize fuel s = (.ret pldmSuccess, t))
    (hfind : t.getFilePdrById filePdrId = none) {o : Outcome (UInt8 × Bytes)}
    (hresult : ∀ result, o = .ret result → result.1 ≠ pldmSuccess) :
    ClosesFile fuel filePdrId s o t := by
  refine closesFile_of_initialize hinit hresult fun fd u h => ?_
  obtain ⟨t', filePdr, hinit', hfind', -⟩ := h
  obtain rfl := (Prod.mk.inj (hinit.symm.trans hinit')).2
  exact absurd (hfind.symm.trans hfind') (by simp)

/-- Nothing is opened where the device refuses to open it. -/
theorem closesFile_of_refused {filePdr : Bytes} {opened : Outcome (UInt8 × UInt16)}
    {o : Outcome (UInt8 × Bytes)}
    (hinit : PldmObject.pfMonCtrlInitialize fuel s = (.ret pldmSuccess, t))
    (hfind : t.getFilePdrById filePdrId = some filePdr)
    (hopen : onPldm (pldmDfOpenCommand fuel (UInt16.ofNat (pdrField filePdr 12 2)) 0) t =
      (opened, u)) (hrefused : ∀ fd, opened ≠ .ret (pldmSuccess, fd))
    (hresult : ∀ result, o = .ret result → result.1 ≠ pldmSuccess) :
    ClosesFile fuel filePdrId s o u := by
  have hbefore := pfMonCtrlInitialize_adds (ρ := ρ) fuel s
  rw [hinit] at hbefore
  obtain ⟨status, hadds, hstatus⟩ := onPldm_adds (pldmDfOpenCommand_adds fuel _ 0 _) hopen
  refine closesFile_of_unopened (AddsEvents.trans hbefore hadds fun evs evs' hevs hevs' => ?_) hresult
    fun fd u' h => ?_
  · have hstatuses : pldmSuccess ∉ statusOf status := by
      rcases opened with ⟨openRet, fd⟩ | _ | _
      · obtain rfl := hstatus
        intro hmem
        obtain rfl := List.mem_singleton.mp hmem
        exact hrefused fd rfl
      · exact List.eq_nil_iff_forall_not_mem.mp hstatus _
      · exact List.eq_nil_iff_forall_not_mem.mp hstatus _
    simp only [ftStatuses_append, hevs _, List.nil_append, hevs'.eq]
    exact ⟨hstatuses, hevs'.eq_nil (by decide)⟩
  · obtain ⟨t', filePdr', hinit', hfind', hopen'⟩ := h
    obtain rfl := (Prod.mk.inj (hinit.symm.trans hinit')).2
    obtain rfl := Option.some.inj (hfind.symm.trans hfind')
    exact hrefused fd (Prod.mk.inj (hopen.symm.trans hopen')).1

/-- Each successful opening of a file is followed by one attempt to close it, and there is no other.
Success means that the opening, every part and the closing succeeded; where a part failed the file is
empty, and its error is the one that is returned. -/
theorem getFile_closes (fuel : Nat) (filePdrId : UInt16) (fileData : Bytes) (s : PldmObject ρ) :
    wp (getFile fuel filePdrId fileData) (ClosesFile fuel filePdrId s) s := by
  rw [getFile]
  rcases hinit : PldmObject.pfMonCtrlInitialize fuel s with ⟨ret | _ | _, t⟩
  · rw [wp, bind_of_ret hinit]
    by_cases hret : ret = pldmSuccess
    · subst hret
      rw [if_neg (not_not_intro rfl), get_bind_apply]
      cases hfind : t.getFilePdrById filePdrId with
      | none => exact closesFile_of_absent hinit hfind (by simp)
      | some filePdr =>
        rcases hopen : onPldm (pldmDfOpenCommand fuel (UInt16.ofNat (pdrField filePdr 12 2)) 0) t
          with ⟨⟨openRet, fd⟩ | _ | _, u⟩
        · dsimp only
          rw [bind_of_ret hopen]
          by_cases hopened : openRet = pldmSuccess
          · subst hopened
            rw [if_neg (not_not_intro rfl)]
            exact closesFile_of_opened ⟨t, filePdr, hinit, hfind, hopen⟩
          · rw [if_pos hopened]
            exact closesFile_of_refused hinit hfind hopen (by simp [hopened]) (by simp [hopened])
        · dsimp only
          rw [bind_of_fault hopen]
          exact closesFile_of_refused hinit hfind hopen (by simp) (by simp)
        · dsimp only
          rw [bind_of_cut hopen]
          exact closesFile_of_refused hinit hfind hopen (by simp) (by simp)
    · rw [if_pos hret]
      exact closesFile_of_uninitialized hinit (by simp [hret]) (by simp [hret])
  · rw [wp, bind_of_fault hinit]
    exact closesFile_of_uninitialized hinit (by simp) (by simp)
  · rw [wp, bind_of_cut hinit]
    exact closesFile_of_uninitialized hinit (by simp) (by simp)

end

end

end XpuManager
