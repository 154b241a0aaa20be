import XpuManager.Amc.HostFrames
import XpuManager.Lib.History

/-! # The instance IDs of a session

What a `pldm` object puts on the bus from its construction on, command after command: the instance
ID of every request, whatever the commands are and however they end. -/

namespace XpuManager

open Prog History

/-! ## The commands -/

/-- A call of one of the command functions, with its arguments. -/
inductive PldmCommand where
  | discovery (cmd size pldmVersionType : UInt8)
  | fru (cmd size : UInt8)
  | platform (cmd size : UInt8)
  | firmwareUpdate (cmd size : UInt8)
  | fileTransfer (cmd size : UInt8)
  | vrsync (cmd : UInt8)
  | gpuReset
  /-- `readFromFD`, which answers the requests of the device. -/
  | dataPhase

/-- The function that is called. -/
def PldmCommand.run (fuel : Nat) : PldmCommand → Prog Pldm UInt8
  | discovery cmd size pldmVersionType => discoveryCmd cmd size pldmVersionType
  | fru cmd size => pldmFruCommand cmd size
  | platform cmd size => pfMonCtrlCmd fuel cmd size
  | firmwareUpdate cmd size => fwUpdCmd fuel cmd size
  | fileTransfer cmd size => pldmFileTransferCmd fuel cmd size
  | vrsync cmd => oemVrsyncCmd cmd
  | gpuReset => amcGpuReset
  | dataPhase => readFromFD fuel

/-- The states an object can get to. Between two commands its caller may change anything but the
instance ID; what went over the bus stays. -/
inductive Session : Pldm → Prop where
  | opened {s : Pldm} : s.instanceID = 1 → s.trace = [] → Session s
  | command {s : Pldm} (fuel : Nat) (c : PldmCommand) : Session s → Session (c.run fuel s).2
  | caller {s t : Pldm} : Session s → t.instanceID = s.instanceID → t.trace = s.trace → Session t

/-! ## The IDs -/

/-- An exchange that succeeded. -/
def Event.isSuccess : Event → Bool
  | .exchange _ _ ret _ _ => ret == pldmSuccess
  | _ => false

/-- The number of successful exchanges among some events. -/
def successes (events : List Event) : Nat := events.countP Event.isSuccess

/-- What is asked of an event after those before it: a request carries the ID that the successful
exchanges so far lead to, and a failed exchange leaves the stored ID as it is, but for the wrap. -/
def NumberedEvent (before : List Event) : Event → Prop
  | .write bs _ => wireRequest bs = pldmRequest →
      1 ≤ (wireInstanceID bs).toNat ∧ (wireInstanceID bs).toNat ≤ 31 ∧
        (wireInstanceID bs).toNat = 1 + successes before % 31
  | .exchange _ _ ret idBefore idAfter => ret ≠ pldmSuccess → idAfter = wrapId idBefore
  | _ => True

/-- The requests so far carry the right IDs, and so will the next one. -/
structure Numbered (s : Pldm) : Prop where
  events : Each NumberedEvent s.trace
  next : (wrapId s.instanceID).toNat = 1 + successes s.trace % 31

theorem wrapId_wrapId (id : UInt8) : wrapId (wrapId id) = wrapId id := by
  unfold wrapId
  split
  · rfl
  · rfl

theorem successes_append (evs evs' : List Event) :
    successes (evs ++ evs') = successes evs + successes evs' := List.countP_append

theorem Numbered.id_le {s : Pldm} (h : Numbered s) : s.instanceID ≤ pldmInstanceIdMax := by
  have hnext := h.next
  unfold wrapId at hnext
  split at hnext
  case isTrue heq => exact heq ▸ UInt8.le_refl _
  case isFalse =>
    rw [UInt8.le_iff_toNat_le, hnext]
    exact show 1 + successes s.trace % 31 ≤ 32 by omega

/-! ## Events that are neither requests nor exchanges -/

/-- An event that any numbering allows, and that counts for nothing. -/
def Event.IsIdle : Event → Prop
  | .write bs _ => wireRequest bs = pldmResponse
  | .exchange _ _ _ _ _ => False
  | _ => True

theorem Event.IsIdle.numbered {e : Event} (h : e.IsIdle) (before : List Event) :
    NumberedEvent before e := by
  cases e with
  | write bs ok => exact fun hreq => absurd (hreq.symm.trans h) (by decide)
  | exchange => exact h.elim
  | _ => trivial

theorem Event.IsIdle.isSuccess {e : Event} (h : e.IsIdle) : e.isSuccess = false := by
  cases e with
  | exchange => exact h.elim
  | _ => rfl

theorem Event.IsAnswer.isIdle {e : Event} (h : e.IsAnswer) : e.IsIdle := by
  cases e with
  | write => exact h.elim (fun h => absurd h (by simp [Event.isReceived])) id
  | exchange => exact h.elim (fun h => absurd h (by simp [Event.isReceived])) id
  | _ => trivial

theorem isIdle_of_isReceived {e : Event} (h : e.isReceived = true) : e.IsIdle :=
  Event.IsAnswer.isIdle (.inl h)

/-- Idle events leave the numbering of the events as it is. -/
theorem each_append_idle {events evs : List Event} (h : Each NumberedEvent events)
    (hevs : ∀ e ∈ evs, e.IsIdle) :
    Each NumberedEvent (events ++ evs) ∧ successes (events ++ evs) = successes events := by
  refine ⟨?_, ?_⟩
  · induction evs using List.reverseRecOn with
    | nil => rwa [List.append_nil]
    | append_singleton evs e ih =>
      rw [← List.append_assoc]
      have he : e.IsIdle := hevs e (by simp)
      exact (ih fun e he => hevs e (List.mem_append_left _ he)).snoc (he.numbered _)
  · rw [successes_append, Nat.add_eq_left]
    exact List.countP_eq_zero.mpr fun e he => by simp [(hevs e he).isSuccess]

/-- **A step with idle events only** keeps the numbering. -/
theorem Numbered.idle {s t : Pldm} {evs : List Event} (h : Numbered s)
    (hid : t.instanceID = s.instanceID) (htrace : t.trace = s.trace ++ evs)
    (hevs : ∀ e ∈ evs, e.IsIdle) : Numbered t := by
  obtain ⟨heach, hcount⟩ := each_append_idle h.events hevs
  refine ⟨htrace ▸ heach, ?_⟩
  rw [hid, htrace, hcount]
  exact h.next

/-- A step that leaves ID and trace alone. -/
theorem Numbered.caller {s t : Pldm} (h : Numbered s) (hid : t.instanceID = s.instanceID)
    (htrace : t.trace = s.trace) : Numbered t :=
  h.idle hid (htrace.trans (List.append_nil _).symm) (by simp)

/-! ## One exchange -/

section Exchange

variable {cmdType cmd : UInt8} {Built : Prop} {P : Bytes → Prop} {s t : Pldm} {o : Outcome UInt8}

/-- A request that carries the wrapped ID. -/
def CarriesId (id : UInt8) (bs : Bytes) : Prop :=
  wireRequest bs = pldmRequest → wireInstanceID bs = id % 32

/-- The request of an exchange carries the ID that is due. -/
theorem Numbered.request {bs : Bytes} (h : Numbered s) (hbs : CarriesId (wrapId s.instanceID) bs)
    (ok : Bool) : NumberedEvent s.trace (.write bs ok) := by
  intro hreq
  have hid : (wireInstanceID bs).toNat = 1 + successes s.trace % 31 := by
    rw [hbs hreq, UInt8.toNat_mod, h.next]
    exact Nat.mod_eq_of_lt (show 1 + successes s.trace % 31 < 32 by omega)
  exact ⟨by omega, by omega, hid⟩

/-- What goes over the bus in an exchange. -/
theorem Numbered.bus {bus : List Event} {ok : Bool} (h : Numbered s)
    (hP : ∀ bs, P bs → CarriesId (wrapId s.instanceID) bs) (hbus : BusEvents Built P ok o bus) :
    Each NumberedEvent (s.trace ++ bus) ∧ successes (s.trace ++ bus) = successes s.trace := by
  cases hbus with
  | unbuilt => exact each_append_idle h.events (by simp)
  | sent hbs _ hreads =>
    rw [← List.singleton_append, ← List.append_assoc]
    obtain ⟨heach, hcount⟩ := each_append_idle (h.events.snoc (h.request (hP _ hbs) ok))
      fun e he => isIdle_of_isReceived (hreads e he)
    exact ⟨heach, hcount.trans (by rw [successes_append]; rfl)⟩

/-- The ID after a success is due next. -/
theorem wrapId_succ {id : UInt8} {n : Nat} (h : (wrapId id).toNat = 1 + n % 31) :
    (wrapId (wrapId id + 1)).toNat = 1 + (n + 1) % 31 := by
  have hsucc : (wrapId id + 1).toNat = n % 31 + 2 := by
    rw [UInt8.toNat_add, h]
    exact show (1 + n % 31 + 1) % 256 = n % 31 + 2 by omega
  rw [wrapId]
  split
  case isTrue heq =>
    have h32 : n % 31 + 2 = 32 := hsucc.symm.trans (congrArg UInt8.toNat heq)
    exact show 1 = 1 + (n + 1) % 31 by omega
  case isFalse hne =>
    have h32 : n % 31 + 2 ≠ 32 := fun hc => hne (UInt8.toNat_inj.mp (hsucc.trans hc))
    omega

/-- **The step lemma.** An exchange keeps the numbering, however it ends. -/
theorem Numbered.exchange (h : Numbered s)
    (hP : ∀ bs, P bs → CarriesId (wrapId s.instanceID) bs)
    (hrun : ExchangeRun cmdType cmd Built P s o t) : Numbered t := by
  obtain ⟨hid, bus, hbus, htrace⟩ := hrun
  obtain ⟨heach, hcount⟩ := h.bus hP hbus
  rcases o with r | _ | _
  · have htrace' : t.trace =
        (s.trace ++ bus) ++ [.exchange cmdType cmd r s.instanceID t.instanceID] := by
      rw [htrace, hid]
      rfl
    refine ⟨?_, ?_⟩
    · rw [htrace']
      refine heach.snoc fun hr => ?_
      rw [hid, endId, if_neg hr]
    · rw [htrace', successes_append, hcount, hid, endId]
      by_cases hr : r = pldmSuccess
      · rw [if_pos hr, hr]
        exact wrapId_succ h.next
      · have hzero (after : UInt8) :
            successes [.exchange cmdType cmd r s.instanceID after] = 0 :=
          List.countP_eq_zero.mpr fun e he => by
            rw [List.mem_singleton.mp he]
            simpa [Event.isSuccess] using hr
        rw [if_neg hr, wrapId_wrapId, h.next, hzero, Nat.add_zero]
  all_goals
    have htrace' : t.trace = s.trace ++ bus := htrace.trans (List.append_nil _)
    have hend : t.instanceID = wrapId s.instanceID := hid
    refine ⟨htrace' ▸ heach, ?_⟩
    rw [htrace', hcount, hend, wrapId_wrapId]
    exact h.next

end Exchange

/-! ## Every command -/

/-- A step that keeps the numbering. -/
def KeepsNumbers (s t : Pldm) : Prop := Numbered s → Numbered t

instance : Std.Refl KeepsNumbers := ⟨fun _ => id⟩

instance : IsTrans Pldm KeepsNumbers where
  trans _ _ _ h h' hs := h' (h hs)

theorem carriesId_of_header {cmdType cmd id : UInt8} {f : Frame} {len : Nat}
    (h : RequestHeader cmdType cmd id f) : CarriesId id (f.slice 1 len) :=
  fun hreq => h.wireInstanceID hreq

theorem RequestOf.carriesId {cmdType cmd id size : UInt8} {bs : Bytes}
    (h : RequestOf cmdType cmd id size bs) : CarriesId id bs := by
  obtain ⟨f, rfl, hdr⟩ := h
  exact carriesId_of_header hdr

theorem FwRequest.carriesId {cmd id size : UInt8} {bs : Bytes} (h : FwRequest cmd size id bs) :
    CarriesId id bs := by
  obtain ⟨f, len, rfl, hdr, -⟩ := h
  exact carriesId_of_header hdr

/-- Headers that were built, and a payload that was filled after them. -/
theorem header_of_andThen {cmdType cmd size id : UInt8} {fill : Prog Pldm UInt8} {s t : Pldm}
    (hid : id ≤ pldmInstanceIdMax) (htype : cmdType < pldmTypesMax) (hfill : Within OnlyPayload fill)
    (h : andThen (requestHeaders cmdType cmd size id) fill s = (.ret pldmSuccess, t)) :
    RequestHeader cmdType cmd id t.mI2cPldmWrite := by
  obtain ⟨u, hheaders, hdr⟩ := messageHeaders_returns cmdType cmd size id pldmRequest s hid htype
  rw [andThen, chain, bind_of_ret hheaders, if_pos rfl] at h
  have hkeeps := hfill u
  rw [h] at hkeeps
  exact hdr.of_keeps hkeeps.2

/-- One exchange of the platform family. -/
theorem keepsNumbers_pfExchange (cmd size : UInt8) : Within KeepsNumbers (pfExchange cmd size) := by
  intro s h
  have hrun : wp (pfExchange cmd size) (ExchangeRun pldmPlatformMonitoring cmd False
      (CarriesId (wrapId s.instanceID)) s) s := by
    refine exchange_run (fun id => fills_pfPrep cmd size id) (fun t ht => ?_) False.elim
      fun id => receives_receiveThen (quiet_processPlatformResponse cmd id)
    exact carriesId_of_header (header_of_andThen (wrapId_le h.id_le) (by decide)
      (onlyPayload_pfFillPayload cmd size) (orError_eq_success_iff.mp ht))
  exact h.exchange (fun _ => id) hrun

/-- A change of the platform state. -/
theorem keepsNumbers_modifyPf (g : PlatformState → PlatformState) :
    Within KeepsNumbers (modifyPf g) := fun _ h => h.caller rfl rfl

theorem keepsNumbers_pfMonCtrlTurn (cmd size : UInt8) (u : Unit) :
    Within KeepsNumbers (pfMonCtrlTurn cmd size u) := by
  refine Within.bind (keepsNumbers_pfExchange cmd size) fun _ => Within.ite (Within.pure _)
    (Within.ite (Within.pure _) (Within.bind Within.get fun _ =>
      Within.bind (keepsNumbers_modifyPf _) fun _ => Within.ite ?_ ?_))
  · exact Within.bind (keepsNumbers_modifyPf _) fun _ =>
      Within.bind (keepsNumbers_modifyPf _) fun _ => Within.pure _
  · exact Within.bind (keepsNumbers_modifyPf _) fun _ => Within.pure _

/-- A file command, its reassembly included. -/
theorem keepsNumbers_pldmFileTransferCmd (fuel : Nat) (cmd size : UInt8) :
    Within KeepsNumbers (pldmFileTransferCmd fuel cmd size) := by
  refine Within.ite (Within.pure _) fun s h => ?_
  have htype : ftCmdType cmd < pldmTypesMax := by
    unfold ftCmdType
    split <;> decide
  have hrun : wp (exchange (ftCmdType cmd) cmd (ftPrep cmd size) (fun _ => size) fun _ =>
      andThen (rxMultiPartData fuel) (pldmFileTransferResp cmd)) (ExchangeRun (ftCmdType cmd) cmd False
        (CarriesId (wrapId s.instanceID)) s) s := by
    refine exchange_run (fun id => ?_) (fun t ht => ?_) False.elim fun _ => ?_
    · exact Within.bind (fills_of_onlyFrame (onlyFrame_messageHeaders _ _ _ _ _)) fun _ =>
        Within.ite (fills_of_onlyFrame ((onlyPayload_pldmFillFileTxPayload cmd size).mono
          fun _ _ => And.left)) (Within.pure _)
    · exact carriesId_of_header (header_of_andThen (wrapId_le h.id_le) htype
        (onlyPayload_pldmFillFileTxPayload cmd size) ht)
    · exact Within.bind (receives_rxMultiPartData fuel) fun _ =>
        Within.ite (receives_pldmFileTransferResp cmd) (Within.pure _)
  exact h.exchange (fun _ => id) hrun

/-- The data phase puts responses on the bus only. -/
theorem keepsNumbers_readFromFD (fuel : Nat) : Within KeepsNumbers (readFromFD fuel) := by
  have hturn (u : Unit) : Within KeepsNumbers (readFromFDTurn u) := by
    intro s h
    have hanswers := answers_readFromFDTurn u s
    obtain ⟨evs, htrace, hevs⟩ := hanswers.events
    exact h.idle hanswers.instanceID htrace fun e he => (hevs e he).isIdle
  have hlast (comp ret : UInt8) (f : Frame) : Within KeepsNumbers (emit (.transfer comp f ret)) :=
    fun _ h => h.idle rfl rfl (by simp [Event.IsIdle])
  exact Within.bind (Within.loop hturn fuel ()) fun _ => Within.bind Within.get fun _ =>
    Within.bind (hlast _ _ _) fun _ => Within.pure _

/-- **Every command keeps the numbering**, with any arguments, in any state, however it ends. -/
theorem PldmCommand.keepsNumbers (fuel : Nat) (c : PldmCommand) :
    Within KeepsNumbers (c.run fuel) := by
  cases c with
  | discovery cmd size type =>
    intro s h
    exact h.exchange (fun _ => RequestOf.carriesId) (discoveryCmd_run cmd size type h.id_le)
  | fru cmd size =>
    intro s h
    exact h.exchange (fun _ => RequestOf.carriesId) (pldmFruCommand_run cmd size h.id_le)
  | platform cmd size => exact Within.loop (keepsNumbers_pfMonCtrlTurn cmd size) fuel ()
  | firmwareUpdate cmd size =>
    intro s h
    exact h.exchange (fun _ => FwRequest.carriesId) (fwUpdCmd_run fuel cmd size h.id_le)
  | fileTransfer cmd size => exact keepsNumbers_pldmFileTransferCmd fuel cmd size
  | vrsync cmd =>
    intro s h
    exact h.exchange (fun _ => RequestOf.carriesId) (oemVrsyncCmd_run cmd h.id_le)
  | gpuReset =>
    intro s h
    exact h.exchange (fun _ => RequestOf.carriesId) (amcGpuReset_run h.id_le)
  | dataPhase => exact keepsNumbers_readFromFD fuel

/-! ## Whole sessions -/

/-- **The run lemma.** The numbering holds all along a session. -/
theorem Session.isNumbered {s : Pldm} (h : Session s) : Numbered s := by
  induction h with
  | opened hid htrace =>
    refine ⟨htrace ▸ each_nil, ?_⟩
    rw [hid, htrace]
    rfl
  | command fuel c _ ih => exact c.keepsNumbers fuel _ ih
  | caller _ hid htrace ih => exact ih.caller hid htrace

/-- **The instance IDs of a session.** Every request on the bus carries an ID between 1 and 31, which
is 1 plus the number of successful exchanges before it modulo 31; a failed exchange leaves the stored
ID as it was, but for the wrap from 32 to 1. -/
theorem session_numbered {s : Pldm} (h : Session s) : Each NumberedEvent s.trace :=
  h.isNumbered.events

/-- The instance ID of a request. -/
def Event.requestID : Event → Option UInt8
  | .write bs _ => if wireRequest bs = pldmRequest then some (wireInstanceID bs) else none
  | _ => none

/-- A session: GetTypes is answered, the GPU reset and GetTypes after it are not. -/
def resetSession : Pldm :=
  let getTypes := PldmCommand.discovery pldmGetTypes pldmGetTypesSize 0
  let answer : Bytes := List.replicate 8 0 ++ [1, 0, pldmGetTypes, pldmSuccess, 129]
  let s := Pldm.init (.cons (some answer) (.const none)) (.const true)
  (getTypes.run 0 (PldmCommand.gpuReset.run 0 (getTypes.run 0 s).2).2).2

/-- The ID moves on after the answer only. -/
theorem session_numbered_reset :
    Each NumberedEvent resetSession.trace ∧
      resetSession.trace.filterMap Event.requestID = [1, 2, 2] :=
  ⟨session_numbered (.command 0 _ (.command 0 _ (.command 0 _ (.opened rfl rfl)))),
    by decide +kernel⟩

end XpuManager
