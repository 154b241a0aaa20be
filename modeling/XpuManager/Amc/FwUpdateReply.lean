import XpuManager.Amc.FwUpdateSteps

/-! # When a firmware-update command is answered

Whether a command whose request can always be built succeeds is decided by the answers the I2C
interface gives: the write has to go through, and the frames read have to make up a response. -/

namespace XpuManager

open Prog

/-! ## One frame -/

/-- The frame with the address bytes the response handlers fill in. -/
def Frame.addressed (f : Frame) : Frame :=
  f.setByte 0 (mctpSrcSlaveAddr * 2 + mctpSrcSlaveAddrB0)

/-- What a received frame makes of the response to `cmd`: `none` rejects it, `some more` takes it
and says whether another packet follows. -/
def replyStep (cmd id : UInt8) (multi : Bool) (f : Frame) : Outcome (Option Bool) :=
  if cmd = getFirmwareParameters then
    .ret (if multi ≠ true ∧ (f.cmdCode ≠ cmd ∨ f.instanceID ≠ id ∨ f.request ≠ pldmResponse) then
      none else some (decide (f.eom = 0)))
  else if cmd = getStatus ∧ ¬((f.respPayload 1).toNat < fwuStates.length ∧
      (f.respPayload 2).toNat < fwuStates.length) then
    .fault
  else .ret (some multi)

/-- The status of a step that may reject the frame. -/
def replyStatus : Outcome (Option Bool) → Outcome UInt8
  | .ret none => .ret pldmError
  | .ret (some _) => .ret pldmSuccess
  | .fault => .fault
  | .cut => .cut

/-- The commands whose responses are read and whose requests can always be built. -/
structure AnsweredCmd (cmd : UInt8) : Prop where
  plain : PlainCmd cmd
  read : cmd ≠ activateFirmware

/-- The handler of a received frame does what `replyStep` says. -/
theorem fwUpdateResp_replyStep {cmd : UInt8} (id : UInt8) (h : AnsweredCmd cmd) (s : Pldm) :
    ∃ t, fwUpdateResp cmd id s =
        (replyStatus (replyStep cmd id s.fw.mI2cMultiResp s.mI2cPldmRead.addressed), t) ∧
      t.reads = s.reads ∧ t.mI2cPldmRead = s.mI2cPldmRead.addressed ∧
      ∀ more, replyStep cmd id s.fw.mI2cMultiResp s.mI2cPldmRead.addressed = .ret (some more) →
        t.fw.mI2cMultiResp = more := by
  by_cases hgfp : cmd = getFirmwareParameters
  · subst hgfp
    have hstep : fwUpdateResp getFirmwareParameters id s =
        pldmFwGetParamPayload getFirmwareParameters id s := rfl
    rw [hstep, replyStep, if_pos rfl, pldmFwGetParamPayload, setDestSlaveAddr, modify_bind_apply,
      get_bind_apply, Prog.ite_apply]
    split
    case isTrue hbad =>
      rw [if_pos (by exact hbad)]
      exact ⟨_, rfl, rfl, rfl, by simp⟩
    case isFalse hok =>
      rw [if_neg (by exact hok)]
      exact ⟨_, rfl, rfl, rfl, fun more hmore => Option.some.inj (Outcome.ret.inj hmore)⟩
  · have hstep : fwUpdateResp cmd id s = pldmFwUpdateRespPayload cmd s := by
      rcases h.plain with rfl | rfl | rfl | rfl | rfl | rfl
      · rfl
      · exact absurd rfl hgfp
      · rfl
      · rfl
      · rfl
      · exact absurd rfl h.read
    rw [hstep, replyStep, if_neg hgfp, pldmFwUpdateRespPayload, setDestSlaveAddr,
      modify_bind_apply, get_bind_apply]
    simp only [Prog.ite_apply, modify_bind_apply, pure_apply, fault_apply]
    by_cases hst : cmd = getStatus
    · rw [if_neg (not_not_intro hst)]
      by_cases hcur : (s.mI2cPldmRead.addressed.respPayload 1).toNat < fwuStates.length
      · rw [if_pos (by exact hcur)]
        by_cases hprev : (s.mI2cPldmRead.addressed.respPayload 2).toNat < fwuStates.length
        · rw [if_pos (by exact hprev), if_neg (by simp [hcur, hprev])]
          exact ⟨_, rfl, rfl, rfl, by simp⟩
        · rw [if_neg (by exact hprev), if_pos (by simp [hst, hprev])]
          exact ⟨_, rfl, rfl, rfl, by simp⟩
      · rw [if_neg (by exact hcur), if_pos (by simp [hst, hcur])]
        exact ⟨_, rfl, rfl, rfl, by simp⟩
    · rw [if_pos hst, if_neg (by simp [hst])]
      exact ⟨_, rfl, rfl, rfl, by simp⟩

/-! ## The response loop -/

/-- The response loop of `fwUpdCmd` on the answers to come, `multi` saying whether a first packet
has been taken and `buf` being the read frame. -/
def fwReply (cmd id : UInt8) : Nat → Bool → Frame → Stream' (Option Bytes) → Outcome UInt8
  | 0, _, _, _ => .cut
  | n + 1, multi, buf, reads =>
    match reads.head with
    | none => .ret pldmError
    | some bs =>
      let f := Frame.addressed (buf.overlay 1 (bs.take pldmMaxResponseSize))
      match replyStep cmd id multi f with
      | .ret none => .ret pldmError
      | .ret (some false) => .ret pldmSuccess
      | .ret (some true) => fwReply cmd id n true f reads.tail
      | .fault => .fault
      | .cut => .cut

/-- The read frame once `bs` has been delivered and its handler has run. -/
def Pldm.taken (s : Pldm) (bs : Bytes) : Frame := (s.received bs).addressed

/-- One turn of the response loop. -/
theorem fwUpdReadTurn_replyStep {cmd : UInt8} (id : UInt8) {bs : Bytes} {s : Pldm}
    (h : AnsweredCmd cmd)
    (hread : s.reads.head = some bs) :
    ∃ t, t.reads = s.reads.tail ∧ t.mI2cPldmRead = s.taken bs ∧
      match replyStep cmd id s.fw.mI2cMultiResp (s.taken bs) with
      | .ret none => fwUpdReadTurn cmd id () s = (.ret (.inr pldmError), t)
      | .ret (some false) => fwUpdReadTurn cmd id () s = (.ret (.inr pldmSuccess), t)
      | .ret (some true) =>
        fwUpdReadTurn cmd id () s = (.ret (.inl ()), t) ∧ t.fw.mI2cMultiResp = true
      | .fault => fwUpdReadTurn cmd id () s = (.fault, t)
      | .cut => fwUpdReadTurn cmd id () s = (.cut, t) := by
  have hrecv : receive s = (.ret pldmSuccess, s.afterRead bs) := by rw [receive_apply, hread]
  obtain ⟨t, hresp, hreads, hframe, hmulti⟩ := fwUpdateResp_replyStep id h (s.afterRead bs)
  change fwUpdateResp cmd id (s.afterRead bs) =
    (replyStatus (replyStep cmd id s.fw.mI2cMultiResp (s.taken bs)), t) at hresp
  change ∀ more, replyStep cmd id s.fw.mI2cMultiResp (s.taken bs) = _ → _ at hmulti
  have hturn : andThen receive (fwUpdateResp cmd id) s = fwUpdateResp cmd id (s.afterRead bs) :=
    bind_of_ret hrecv
  refine ⟨t, hreads, hframe, ?_⟩
  rcases hstep : replyStep cmd id s.fw.mI2cMultiResp (s.taken bs)
    with (_ | more) | _ | _
  all_goals rw [hstep] at hresp hmulti
  · rw [fwUpdReadTurn, bind_of_ret (hturn.trans hresp)]
    rfl
  · have hmore := hmulti more rfl
    have hgo : fwUpdReadTurn cmd id () s =
        (if t.fw.mI2cMultiResp = false then pure (.inr pldmSuccess) else pure (.inl ()) :
          Prog Pldm (Unit ⊕ UInt8)) t := by
      rw [fwUpdReadTurn, bind_of_ret (hturn.trans hresp)]
      rfl
    rw [hgo, hmore]
    cases more with
    | false => rfl
    | true => exact ⟨rfl, rfl⟩
  · rw [fwUpdReadTurn, bind_of_fault (hturn.trans hresp)]
  · rw [fwUpdReadTurn, bind_of_cut (hturn.trans hresp)]

/-- **The response loop follows the answers.** -/
theorem fwUpdRead_fwReply {cmd : UInt8} (id : UInt8) (h : AnsweredCmd cmd) (fuel : Nat) (s : Pldm) :
    (fwUpdRead fuel cmd id s).1 = fwReply cmd id fuel s.fw.mI2cMultiResp s.mI2cPldmRead s.reads := by
  rw [fwUpdRead, if_pos h.read]
  induction fuel generalizing s with
  | zero => rfl
  | succ n ih =>
    rw [fwReply]
    rcases hread : s.reads.head with _ | bs
    · have hrecv : receive s = (.ret pldmError, s.afterFailedRead) := by
        rw [receive_apply, hread]
      have hfail : andThen receive (fwUpdateResp cmd id) s = (.ret pldmError, s.afterFailedRead) :=
        bind_of_ret hrecv
      have hturn : fwUpdReadTurn cmd id () s = (.ret (.inr pldmError), s.afterFailedRead) := by
        rw [fwUpdReadTurn, bind_of_ret hfail]
        rfl
      rw [loop_succ_of_leave hturn]
    · obtain ⟨t, hreads, hframe, hturn⟩ := fwUpdReadTurn_replyStep id h hread
      change _ = (match replyStep cmd id s.fw.mI2cMultiResp (s.taken bs) with
        | .ret none => .ret pldmError
        | .ret (some false) => .ret pldmSuccess
        | .ret (some true) => fwReply cmd id n true (s.taken bs) s.reads.tail
        | .fault => .fault
        | .cut => .cut : Outcome UInt8)
      rcases hstep : replyStep cmd id s.fw.mI2cMultiResp (s.taken bs)
        with (_ | _ | _) | _ | _
      all_goals rw [hstep] at hturn
      · rw [loop_succ_of_leave hturn]
      · rw [loop_succ_of_leave hturn]
      · rw [loop_succ_of_turn hturn.1, ih t, hreads, hframe, hturn.2]
      · rw [loop_succ_of_fault hturn]
      · rw [loop_succ_of_cut hturn]

/-! ## Whole commands -/

/-- What the answers in `s` make of the command `cmd`. -/
def fwOutcome (fuel : Nat) (cmd : UInt8) (s : Pldm) : Outcome UInt8 :=
  if s.writes.head then
    if cmd = activateFirmware then .ret pldmSuccess
    else fwReply cmd (wrapId s.instanceID) fuel false s.mI2cPldmRead s.reads
  else .ret pldmError

/-- **The outcome of a plain command.** Its request is always built, so only the answers decide,
and exactly one write answer is used up. -/
theorem fwUpdCmd_plain (fuel : Nat) {cmd size : UInt8} {s : Pldm} (h : PlainRequest cmd size)
    (hid : s.instanceID ≤ pldmInstanceIdMax) :
    (fwUpdCmd fuel cmd size s).1 = fwOutcome fuel cmd s ∧
      (fwUpdCmd fuel cmd size s).2.writes = s.writes.tail := by
  obtain ⟨t₁, hprep, f, rfl⟩ :=
    fwUpdPrep_plain h (wrapId_le hid) (s.fwUpdStart size).wrapped
  -- the state in which the response is read
  let u : Pldm := Pldm.afterWrite { (s.fwUpdStart size).wrapped with mI2cPldmWrite := f } size.toNat
  have hbody : exchangeBody (fwUpdPrep cmd size) (fun s => s.fw.mFwuCmdLen) (fwUpdRead fuel cmd)
      (s.fwUpdStart size) =
      if s.writes.head then
        andThen (fwUpdRead fuel cmd (wrapId s.instanceID)) (succeeding nextInstanceID) u
      else (.ret pldmError, u) :=
    (exchangeBody_of_prep hprep).trans (if_pos (Nat.lt_of_le_of_lt h.fits (by decide)))
  rw [fwUpdCmd, modify_bind_apply, exchange_fst, exchange_writes, hbody, fwOutcome]
  by_cases hw : s.writes.head = true
  · simp only [if_pos hw]
    have hrecv := receives_fwUpdRead fuel cmd (wrapId s.instanceID) u
    have hout : (fwUpdRead fuel cmd (wrapId s.instanceID) u).1 =
        if cmd = activateFirmware then .ret pldmSuccess
        else fwReply cmd (wrapId s.instanceID) fuel false s.mI2cPldmRead s.reads := by
      by_cases hact : cmd = activateFirmware
      · subst hact
        rfl
      · rw [if_neg hact]
        exact fwUpdRead_fwReply _ ⟨h.plain, hact⟩ fuel u
    rw [← hout]
    rcases hr : fwUpdRead fuel cmd (wrapId s.instanceID) u with ⟨r | _ | _, t⟩
    all_goals
      rw [hr] at hrecv
      have hwrites : t.writes = s.writes.tail := hrecv.writes
    · rw [andThen, chain, bind_of_ret hr, Prog.ite_apply]
      split
      case isTrue h0 => exact ⟨by rw [h0]; rfl, hwrites⟩
      case isFalse => exact ⟨rfl, hwrites⟩
    · rw [andThen, chain, bind_of_fault hr]
      exact ⟨rfl, hwrites⟩
    · rw [andThen, chain, bind_of_cut hr]
      exact ⟨rfl, hwrites⟩
  · simp only [if_neg hw]
    exact ⟨trivial, rfl⟩

/-- The answers in `s` do not make the command `cmd` fail. -/
def Answered (fuel : Nat) (cmd : UInt8) (s : Pldm) : Prop := fwOutcome fuel cmd s ≠ .ret pldmError

instance (fuel : Nat) (cmd : UInt8) (s : Pldm) : Decidable (Answered fuel cmd s) :=
  inferInstanceAs (Decidable (_ ≠ _))

end XpuManager
