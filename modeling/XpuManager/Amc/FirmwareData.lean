import XpuManager.Amc.FwUpdateData

/-! # The firmware data a device is given

What the answers to RequestFirmwareData messages contain, over whole data phases: any messages in
any order, whatever earlier ones left in the write frame. -/

namespace XpuManager

open Prog

/-! ## Messages and their answers in a trace -/

/-- The message is a RequestFirmwareData that the data phase answers. -/
structure Frame.IsRfd (f : Frame) : Prop where
  smbusCmdCode : f.smbusCmdCode = mctpCmdCode
  cmdType : f.cmdType = pldmFirmwareUpdate
  cmdCode : f.cmdCode = requestFirmwareData

/-- The event is part of an answer. -/
def Event.isReplyStep : Event → Bool
  | .write _ _ => true
  | .fread _ _ _ => true
  | .read _ => false
  | .message _ => false
  | .exchange _ _ _ _ _ => false
  | .transfer _ _ _ => false

/-- The answer to a message, read off the events that follow it. -/
def repliesIn (evs : List Event) : List Event := evs.takeWhile Event.isReplyStep

/-- Every RequestFirmwareData in the trace and its answer are related by `A`. -/
def EachRequest (A : Frame → List Event → Prop) (evs : List Event) : Prop :=
  ∀ pre f post, evs = pre ++ .read (some f) :: post → f.IsRfd → A f (repliesIn post)

/-- The events of one turn of the data phase: a message and its answer. -/
structure TurnEvents (A : Frame → List Event → Prop) (answer : Option Frame) (rest : List Event) :
    Prop where
  replies : ∀ e ∈ rest, e.isReplyStep = true
  request : ∀ f, answer = some f → f.IsRfd → A f rest

/-- A turn: the message it took, if the read went through, and what it did then. -/
abbrev TurnLog : Type := Option Frame × List Event

/-- The events of a turn. -/
def turnEvents (turn : TurnLog) : List Event := .read turn.1 :: turn.2

theorem repliesIn_append {rest more : List Event} (h : ∀ e ∈ rest, e.isReplyStep = true) :
    repliesIn (rest ++ more) = rest ++ repliesIn more := List.takeWhile_append_of_pos h

/-- Behind a list of turns comes the next message or the end. -/
theorem repliesIn_turns (turns : List TurnLog) {tail : List Event}
    (htail : repliesIn tail = []) : repliesIn (turns.flatMap turnEvents ++ tail) = [] := by
  cases turns with
  | nil => exact htail
  | cons turn turns => rfl

/-- **Turns make up the trace.** A property of every turn holds along the trace they make up. -/
theorem eachRequest_of_turns {A : Frame → List Event → Prop}
    {turns : List TurnLog} {tail : List Event}
    (h : ∀ turn ∈ turns, TurnEvents A turn.1 turn.2) (htail : repliesIn tail = [])
    (hread : ∀ e ∈ tail, e.isReceived = false) :
    EachRequest A (turns.flatMap turnEvents ++ tail) := by
  induction turns with
  | nil =>
    intro pre f post heq _
    have hmem : Event.read (some f) ∈ tail := by
      rw [show tail = pre ++ .read (some f) :: post from heq]
      simp
    exact absurd (hread _ hmem) (by simp [Event.isReceived])
  | cons turn turns ih =>
    obtain ⟨answer, rest⟩ := turn
    have hturn := h _ List.mem_cons_self
    have hnext := repliesIn_turns turns htail
    intro pre f post heq hf
    rw [List.flatMap_cons, turnEvents, List.append_assoc] at heq
    rcases pre with _ | ⟨e, pre⟩
    · -- the message of this turn
      have hread' : answer = some f := Event.read.inj (List.cons.inj heq).1
      have hpost : rest ++ (turns.flatMap turnEvents ++ tail) = post := (List.cons.inj heq).2
      have hrest : repliesIn post = rest := by
        rw [← hpost, repliesIn_append hturn.replies, hnext, List.append_nil]
      rw [hrest]
      exact hturn.request f hread' hf
    · -- a message of a later turn
      have hpost : rest ++ (turns.flatMap turnEvents ++ tail) = pre ++ .read (some f) :: post :=
        (List.cons.inj heq).2
      rcases List.append_eq_append_iff.mp hpost with ⟨pre', rfl, hpost'⟩ | ⟨mid, rfl, hmid⟩
      · exact ih (fun t ht => h t (List.mem_cons_of_mem _ ht)) pre' f post hpost' hf
      · rcases mid with _ | ⟨e', mid⟩
        · refine ih (fun t ht => h t (List.mem_cons_of_mem _ ht)) [] f post ?_ hf
          simpa using hmid.symm
        · obtain ⟨rfl, -⟩ := List.cons.inj hmid
          have := hturn.replies (.read (some f)) (by simp)
          simp [Event.isReplyStep] at this

/-! ## Whole data phases -/

/-- The events a run adds to the trace. -/
def newEvents {α : Type} (m : Prog Pldm α) (s : Pldm) : List Event :=
  (m s).2.trace.drop s.trace.length

theorem newEvents_of_trace {α : Type} {m : Prog Pldm α} {s : Pldm} {evs : List Event}
    (h : (m s).2.trace = s.trace ++ evs) : newEvents m s = evs := by
  rw [newEvents, h, List.drop_left]

/-- The object installs the component `comp` of the package file `file`. -/
structure Installing (file : Bytes) (comp : CompImageInfo) (s : Pldm) : Prop where
  comp : curComp s = (.ret comp, s)
  file : s.fw.compFile = file

theorem Installing.of_samePackage {file : Bytes} {comp : CompImageInfo} {s t : Pldm}
    (h : Installing file comp s) (hst : SamePackage s t) : Installing file comp t :=
  ⟨curComp_of_samePackage hst h.comp, hst.compFile.trans h.file⟩

/-- A run adds the events of some turns, and an end that neither takes nor answers a message. -/
def AddsTurns (A : Frame → List Event → Prop) (s t : Pldm) : Prop :=
  ∃ (turns : List TurnLog) (tail : List Event),
    t.trace = s.trace ++ (turns.flatMap turnEvents ++ tail) ∧
    (∀ turn ∈ turns, TurnEvents A turn.1 turn.2) ∧ repliesIn tail = [] ∧
    ∀ e ∈ tail, e.isReceived = false

/-- A step adds exactly the events of one turn. -/
def AddsTurn (A : Frame → List Event → Prop) (s t : Pldm) : Prop :=
  ∃ answer rest, t.trace = s.trace ++ turnEvents (answer, rest) ∧ TurnEvents A answer rest

/-- **Run lemma of the data phase.** What relates a message to its answer in every turn relates
them all along the trace. -/
theorem eachRequest_readFromFD {file : Bytes} {comp : CompImageInfo}
    {A : Frame → List Event → Prop}
    (hturn : ∀ u, Installing file comp u → AddsTurn A u (readFromFDTurn () u).2) (fuel : Nat)
    {s : Pldm} (hs : Installing file comp s) : EachRequest A (newEvents (readFromFD fuel) s) := by
  let Done (u : Pldm) : Prop := Installing file comp u ∧ ∃ turns : List TurnLog,
    u.trace = s.trace ++ turns.flatMap turnEvents ∧ ∀ turn ∈ turns, TurnEvents A turn.1 turn.2
  have hstep (u : Pldm) (hu : Done u) : Done (readFromFDTurn () u).2 := by
    obtain ⟨hinst, turns, htrace, hturns⟩ := hu
    obtain ⟨answer, rest, htrace', hnew⟩ := hturn u hinst
    refine ⟨hinst.of_samePackage (answers_readFromFDTurn () u).toSamePackage,
      turns ++ [(answer, rest)], ?_, ?_⟩
    · rw [htrace', htrace, List.append_assoc, List.flatMap_append, List.flatMap_singleton]
    · intro turn hmem
      rcases List.mem_append.mp hmem with hmem | hmem
      · exact hturns turn hmem
      · obtain rfl := List.mem_singleton.mp hmem
        exact hnew
  have hloop : wp (Prog.loop readFromFDTurn fuel ()) (fun _ u => Done u) s := by
    have hbody {b : Unit} {u v : Pldm} {o : Outcome (Unit ⊕ UInt8)} (hu : Done u)
        (hb : readFromFDTurn b u = (o, v)) : Done v := by
      have := hstep u hu
      rwa [show readFromFDTurn () u = (o, v) from hb] at this
    refine loop_induct (I := fun _ u => Done u) (fun _ _ h => h) ?_ ?_ ?_ ?_
      ⟨hs, [], (List.append_nil _).symm, by simp⟩
    · exact fun _ _ _ _ hu hb => hbody hu hb
    · exact fun _ _ _ _ hu hb => hbody hu hb
    · exact fun _ _ _ hu hb => hbody hu hb
    · exact fun _ _ _ hu hb => hbody hu hb
  have hend (t : Pldm) (h : Done t) : AddsTurns A s t := by
    obtain ⟨-, turns, htrace, hturns⟩ := h
    exact ⟨turns, [], by rw [htrace, List.append_nil], hturns, rfl, by simp⟩
  have hrun : wp (readFromFD fuel) (fun _ t => AddsTurns A s t) s := by
    refine wp_bind_of hloop (fun r u hu => ?_) (fun t h => hend t h) fun t h => hend t h
    obtain ⟨-, turns, htrace, hturns⟩ := hu
    refine ⟨turns, [.transfer u.fw.mCurComp u.mI2cPldmRead r], ?_, hturns, rfl,
      by simp [Event.isReceived]⟩
    rw [← List.append_assoc, ← htrace]
    rfl
  obtain ⟨turns, tail, htrace, hturns, htail, hread⟩ := hrun
  rw [newEvents_of_trace htrace]
  exact eachRequest_of_turns hturns htail hread

/-! ## The answer to a request -/

/-- The completion code of the answer to a request. -/
def rfdCode (comp : CompImageInfo) (offset len : UInt32) : UInt8 :=
  if offset ≥ comp.compSize then dataOutOfRange
  else if len > pldmMctpMaxTransferSize then invalidTransferLength
  else pldmResponseCompletion

/-- The request is answered with data. -/
def Granted (comp : CompImageInfo) (offset len : UInt32) : Prop :=
  offset < comp.compSize ∧ len ≤ pldmMctpMaxTransferSize

instance (comp : CompImageInfo) (offset len : UInt32) : Decidable (Granted comp offset len) :=
  inferInstanceAs (Decidable (_ ∧ _))

/-- The request is granted exactly where the code says success. -/
theorem rfdCode_eq_success_iff {comp : CompImageInfo} {offset len : UInt32} :
    rfdCode comp offset len = pldmResponseCompletion ↔ Granted comp offset len := by
  unfold rfdCode Granted
  split
  case isTrue h => exact iff_of_false (by decide) fun hg => UInt32.not_lt.mpr h hg.1
  split
  case isTrue h => exact iff_of_false (by decide) fun hg => UInt32.not_le.mpr h hg.2
  case isFalse h h' => exact iff_of_true rfl ⟨UInt32.not_le.mp h, UInt32.not_lt.mp h'⟩

/-- What an answered request does: for data, the read from the file; then one response. -/
def RequestAnswer (file : Bytes) (comp : CompImageInfo) (f : Frame) (rest : List Event) : Prop :=
  ∃ (g : Frame) (n : Nat) (ok : Bool) (pec : UInt8), 13 ≤ n ∧
    MessageHeader pldmFirmwareUpdate f.cmdCode f.instanceID pldmResponse g ∧
    rest = (if Granted comp f.rfdOffset f.rfdLength then
        [xferRead file comp f.rfdOffset f.rfdLength] else []) ++ [.write (g.slice 1 n) ok] ∧
    wirePayload (g.slice 1 n) = rfdCode comp f.rfdOffset f.rfdLength ::
      (if Granted comp f.rfdOffset f.rfdLength then xferData file comp f.rfdOffset f.rfdLength
        else []) ++ [pec]

/-- What a request leads to. For an empty component the progress divides by zero. -/
def RequestReplies (file : Bytes) (comp : CompImageInfo) (f : Frame) (rest : List Event) : Prop :=
  if comp.compSize = 0 then rest = [] else RequestAnswer file comp f rest

/-- **The answer to a request.** -/
theorem answerRequestFirmwareData_replies {file : Bytes} {comp : CompImageInfo} {u : Pldm}
    {f : Frame} (hu : Installing file comp u) (hf : u.mI2cPldmRead = f) :
    ∃ rest, (answerRequestFirmwareData f.rfdOffset f.rfdLength u).2.trace = u.trace ++ rest ∧
      RequestReplies file comp f rest := by
  rw [answerRequestFirmwareData, bind_of_ret hu.comp]
  by_cases hsize : comp.compSize = 0
  · refine ⟨[], ?_, by rw [RequestReplies, if_pos hsize]⟩
    rw [if_pos hsize, List.append_nil]
    rfl
  rw [if_neg hsize, modify_bind_apply]
  let v : Pldm := { u with fw := { u.fw with
    mProgPercent := (f.rfdOffset * 100 / comp.compSize).toInt32 } }
  have hv : Installing file comp v := hu.of_samePackage ⟨rfl, rfl, rfl⟩
  change ∃ rest, ((if f.rfdOffset ≥ comp.compSize then respondtoamc dataOutOfRange
    else if f.rfdLength > pldmMctpMaxTransferSize then respondtoamc invalidTransferLength
    else writeToAMCCompXfer f.rfdOffset f.rfdLength pldmResponseCompletion : Prog Pldm UInt8)
      v).2.trace = v.trace ++ rest ∧ _
  have hrefuse (code : UInt8) (hcode : rfdCode comp f.rfdOffset f.rfdLength = code)
      (hno : ¬Granted comp f.rfdOffset f.rfdLength) :
      ∃ rest, (respondtoamc code v).2.trace = v.trace ++ rest ∧
        RequestReplies file comp f rest := by
    obtain ⟨g, crc, hspec, hdr, hpay⟩ := respondtoamc_spec code v
    rw [hspec]
    refine ⟨[.write (g.slice 1 13) v.writes.head], rfl, ?_⟩
    rw [RequestReplies, if_neg hsize]
    refine ⟨g, 13, v.writes.head, crc, Nat.le_refl _, hf ▸ hdr, ?_, ?_⟩
    · rw [if_neg hno, List.nil_append]
    · rw [if_neg hno, hcode, hpay]
      rfl
  split
  case isTrue hoff =>
    exact hrefuse _ (if_pos hoff) fun hg => UInt32.not_lt.mpr hoff hg.1
  split
  case isTrue hoff hlen =>
    exact hrefuse _ ((if_neg hoff).trans (if_pos hlen)) fun hg => UInt32.not_le.mpr hlen hg.2
  case isFalse hoff hlen =>
    have hg : Granted comp f.rfdOffset f.rfdLength := ⟨UInt32.not_le.mp hoff, UInt32.not_lt.mp hlen⟩
    obtain ⟨g, pec, hspec, hdr, hpay⟩ :=
      writeToAMCCompXfer_spec pldmResponseCompletion hv.comp hg.1 hg.2
    rw [hspec]
    refine ⟨[xferRead v.fw.compFile comp f.rfdOffset f.rfdLength,
      .write (g.slice 1 (13 + f.rfdLength.toNat)) v.writes.head], rfl, ?_⟩
    rw [RequestReplies, if_neg hsize]
    refine ⟨g, 13 + f.rfdLength.toNat, v.writes.head, pec, Nat.le_add_right _ _, hf ▸ hdr, ?_, ?_⟩
    · rw [if_pos hg, hv.file]
      rfl
    · rw [if_pos hg, rfdCode_eq_success_iff.mpr hg, hpay, hv.file]

/-- A reply is a step of an answer. -/
theorem Event.isReplyStep_of_isReply {e : Event} (h : e.IsReply) : e.isReplyStep = true := by
  cases e with
  | write | fread => rfl
  | read | message | exchange | transfer => exact h.elim

/-- **Turn lemma of the data phase.** A turn takes one message; a request is answered. -/
theorem readFromFDTurn_adds {file : Bytes} {comp : CompImageInfo} {u : Pldm}
    (hu : Installing file comp u) :
    AddsTurn (RequestReplies file comp) u (readFromFDTurn () u).2 := by
  rcases hread : u.reads.head with _ | bs
  · refine ⟨none, [], ?_, by simp, by simp⟩
    rw [readFromFDTurn, bind_of_ret (readAmc_of_none hread)]
    rfl
  · let v := u.afterRead bs
    have hv : Installing file comp v := hu.of_samePackage ⟨rfl, rfl, rfl⟩
    have hgo : readFromFDTurn () u =
        (if (u.received bs).smbusCmdCode ≠ mctpCmdCode then pure (.inl ())
          else if (u.received bs).cmdType ≠ pldmFirmwareUpdate then pure (.inr pldmError)
          else answerFD (u.received bs) : Prog Pldm (Unit ⊕ UInt8)) v := by
      rw [readFromFDTurn, bind_of_ret (readAmc_of_some hread)]
      rfl
    have hadd {rest : List Event} {t : Pldm} (h : t.trace = v.trace ++ rest) :
        t.trace = u.trace ++ turnEvents (some (u.received bs), rest) := by
      rw [h]
      exact List.append_assoc _ _ _
    rw [hgo, Prog.ite_apply]
    split
    case isTrue hmctp =>
      refine ⟨_, [], hadd (List.append_nil _).symm, by simp, fun f hf hrfd => ?_⟩
      obtain rfl := Option.some.inj hf
      exact absurd hrfd.smbusCmdCode hmctp
    rw [Prog.ite_apply]
    split
    case isTrue htype =>
      refine ⟨_, [], hadd (List.append_nil _).symm, by simp, fun f hf hrfd => ?_⟩
      obtain rfl := Option.some.inj hf
      exact absurd hrfd.cmdType htype
    case isFalse =>
      by_cases hcmd : (u.received bs).cmdCode = requestFirmwareData
      · obtain ⟨rest, htrace, hrest⟩ := answerRequestFirmwareData_replies (f := u.received bs) hv rfl
        have hsame : (answerFD (u.received bs) v).2 = (answerRequestFirmwareData
            (u.received bs).rfdOffset (u.received bs).rfdLength v).2 := by
          rw [answerFD, if_pos hcmd, elseLeave]
          rcases h : answerRequestFirmwareData (u.received bs).rfdOffset
            (u.received bs).rfdLength v with ⟨r | _ | _, t⟩
          · rw [bind_of_ret h]
            rfl
          · rw [bind_of_fault h]
          · rw [bind_of_cut h]
        obtain ⟨rest', htrace', hrest'⟩ := (replies_answerFD (u.received bs) v).events
        rw [hsame, htrace] at htrace'
        obtain rfl := List.append_cancel_left htrace'
        refine ⟨_, rest, hadd (hsame ▸ htrace), fun e he => ?_, fun f hf _ => ?_⟩
        · exact Event.isReplyStep_of_isReply (hrest' e he)
        · obtain rfl := Option.some.inj hf
          exact hrest
      · obtain ⟨rest, htrace, hrest⟩ := (replies_answerFD (u.received bs) v).events
        refine ⟨_, rest, hadd htrace, fun e he => ?_, fun f hf hrfd => ?_⟩
        · exact Event.isReplyStep_of_isReply (hrest e he)
        · obtain rfl := Option.some.inj hf
          exact absurd hrfd.cmdCode hcmd

/-- **The data phase.** Along every data phase, each request leads to its answer. -/
theorem readFromFD_requests {file : Bytes} {comp : CompImageInfo} (fuel : Nat) {s : Pldm}
    (hs : Installing file comp s) :
    EachRequest (RequestReplies file comp) (newEvents (readFromFD fuel) s) :=
  eachRequest_readFromFD (fun _ hu => readFromFDTurn_adds hu) fuel hs

/-! ## Devices that send a given request -/

/-- A RequestFirmwareData as the bus delivers it. -/
def requestBytes (offset len : UInt32) : Bytes :=
  [mctpCmdCode, 0, 0, 0, 0, 0, 0, 0, 0, pldmFirmwareUpdate, requestFirmwareData]
    ++ leBytes 4 offset.toNat ++ leBytes 4 len.toNat

/-- A delivered byte. -/
theorem byte_received {s : Pldm} {bs : Bytes} {i : Nat} (hbs : bs.length ≤ pldmMaxResponseSize)
    (hi : i < bs.length) : (s.received bs).byte (1 + i) = bs.getD i 0 := by
  have h128 : bs.length ≤ 128 := hbs
  have hlen : (bs.take pldmMaxResponseSize).length = bs.length := by
    rw [List.take_of_length_le hbs]
  rw [Pldm.received, Buf.byte_overlay_of_mem (show 1 + i < 140 by omega) (Nat.le_add_right _ _)
    (by rw [hlen]; omega), Nat.add_sub_cancel_left, List.take_of_length_le hbs]

/-- The object that receives it sees the request. -/
theorem received_requestBytes (s : Pldm) (offset len : UInt32) :
    (s.received (requestBytes offset len)).IsRfd ∧
      (s.received (requestBytes offset len)).rfdOffset = offset ∧
      (s.received (requestBytes offset len)).rfdLength = len := by
  have hlen : (requestBytes offset len).length = 19 := by simp [requestBytes]
  have hbyte (i : Nat) (hi : i < 19) : (s.received (requestBytes offset len)).byte (1 + i) =
      (requestBytes offset len).getD i 0 :=
    byte_received (by rw [hlen]; decide) (by rwa [hlen])
  have hfield (x : UInt32) : ofLeBytes (leBytes 4 x.toNat) = x.toNat := by
    rw [ofLeBytes_leBytes]
    exact Nat.mod_eq_of_lt x.toNat_lt
  refine ⟨⟨hbyte 0 (by decide), ?_, hbyte 10 (by decide)⟩, ?_, ?_⟩
  · rw [Frame.cmdType, show (10 : Nat) = 1 + 9 from rfl, hbyte 9 (by decide)]
    rfl
  · apply UInt32.toNat_inj.mp
    rw [Frame.rfdOffset, toNat_bytesToInt, ← hfield offset]
    change ofLeBytes [Buf.byte _ (1 + 11), Buf.byte _ (1 + 12), Buf.byte _ (1 + 13),
      Buf.byte _ (1 + 14)] = _
    rw [hbyte 11 (by decide), hbyte 12 (by decide), hbyte 13 (by decide), hbyte 14 (by decide)]
    rfl
  · apply UInt32.toNat_inj.mp
    rw [Frame.rfdLength, toNat_bytesToInt, ← hfield len]
    change ofLeBytes [Buf.byte _ (1 + 15), Buf.byte _ (1 + 16), Buf.byte _ (1 + 17),
      Buf.byte _ (1 + 18)] = _
    rw [hbyte 15 (by decide), hbyte 16 (by decide), hbyte 17 (by decide), hbyte 18 (by decide)]
    rfl

/-- The message delivered first is the first event of the data phase. -/
theorem newEvents_readFromFD {s : Pldm} {bs : Bytes} (hread : s.reads.head = some bs) :
    ∃ post, newEvents (readFromFD 1) s = .read (some (s.received bs)) :: post := by
  let Grows (u t : Pldm) : Prop := ∃ evs, t.trace = u.trace ++ evs
  have hgrow {u t : Pldm} (h : Replies u t) : Grows u t := by
    obtain ⟨evs, htrace, -⟩ := h.events
    exact ⟨evs, htrace⟩
  have hrest := (replies_answerFD (s.received bs)).mono (fun _ _ => hgrow) (s.afterRead bs)
  obtain ⟨evs, hturn⟩ : ∃ evs, (readFromFDTurn () s).2.trace = (s.afterRead bs).trace ++ evs := by
    rw [readFromFDTurn, bind_of_ret (readAmc_of_some hread), get_bind_apply, Prog.ite_apply]
    split
    case isTrue => exact ⟨[], (List.append_nil _).symm⟩
    rw [Prog.ite_apply]
    split
    case isTrue => exact ⟨[], (List.append_nil _).symm⟩
    rw [Prog.ite_apply]
    split
    case isTrue => exact ⟨[], (List.append_nil _).symm⟩
    exact hrest
  obtain ⟨evs', hrun⟩ : ∃ evs', (readFromFD 1 s).2.trace = (readFromFDTurn () s).2.trace ++ evs' := by
    rcases h : readFromFDTurn () s with ⟨(b | r) | _ | _, t⟩
    · have hl : Prog.loop readFromFDTurn 1 () s = (.cut, t) := loop_succ_of_turn h
      rw [readFromFD, bind_of_cut hl]
      exact ⟨[], (List.append_nil _).symm⟩
    · have hl : Prog.loop readFromFDTurn 1 () s = (.ret r, t) := loop_succ_of_leave h
      rw [readFromFD, bind_of_ret hl]
      exact ⟨_, rfl⟩
    · have hl : Prog.loop readFromFDTurn 1 () s = (.fault, t) := loop_succ_of_fault h
      rw [readFromFD, bind_of_fault hl]
      exact ⟨[], (List.append_nil _).symm⟩
    · have hl : Prog.loop readFromFDTurn 1 () s = (.cut, t) := loop_succ_of_cut h
      rw [readFromFD, bind_of_cut hl]
      exact ⟨[], (List.append_nil _).symm⟩
  refine ⟨evs ++ evs', newEvents_of_trace ?_⟩
  rw [hrun, hturn, Pldm.afterRead]
  simp

/-- **A request is answered as the trace says.** -/
theorem EachRequest.first {file : Bytes} {comp : CompImageInfo} {A : Frame → List Event → Prop}
    {s : Pldm} {offset len : UInt32} (hs : Installing file comp s)
    (hread : s.reads.head = some (requestBytes offset len))
    (h : EachRequest A (newEvents (readFromFD 1) s)) :
    ∃ f rest, f.rfdOffset = offset ∧ f.rfdLength = len ∧ RequestReplies file comp f rest ∧
      A f rest := by
  obtain ⟨hrfd, hoff, hlen⟩ := received_requestBytes s offset len
  obtain ⟨post, hpost⟩ := newEvents_readFromFD hread
  exact ⟨_, repliesIn post, hoff, hlen, readFromFD_requests 1 hs [] _ post hpost hrfd,
    h [] _ post hpost hrfd⟩

/-- A package with this one component. -/
def packageOf (comp : CompImageInfo) : FwPkg where
  hdr := { uuid := [], revision := 0, size := 0, rlsDateTime := [], compBitmapLen := 0,
           pkgVerStrType := 0, pkgVerStrLen := 0, pkgVersion := [] }
  records := []
  compImages := [comp]
  checksum := 0
  pkgInfoSize := 0
  recordCount_le := by decide
  compImageCount_le := show 1 ≤ 4 by decide

/-- An object installing `comp` from `file`, and a device that keeps sending one request. -/
def installer (file : Bytes) (comp : CompImageInfo) (offset len : UInt32) : Pldm :=
  let s := Pldm.init (Stream'.const (some (requestBytes offset len))) (Stream'.const true)
  { s with fw := { s.fw with compFile := file, pkg := some (packageOf comp) } }

theorem installing_installer (file : Bytes) (comp : CompImageInfo) (offset len : UInt32) :
    Installing file comp (installer file comp offset len) := ⟨rfl, rfl⟩

/-! ## Answers with the component's bytes -/

/-- The region of the component lies in the file, whose positions fit 32 bits. -/
structure RegionInFile (file : Bytes) (comp : CompImageInfo) : Prop where
  short : file.length < 2 ^ 32 - 32
  inside : comp.compLocOffset.toNat + comp.compSize.toNat ≤ file.length

/-- The bytes a request asks for: the component's, and zeros behind its end. -/
def requestedData (file : Bytes) (comp : CompImageInfo) (offset len : UInt32) : Bytes :=
  (List.range len.toNat).map fun i =>
    if offset.toNat + i < comp.compSize.toNat then
      file.getD (comp.compLocOffset.toNat + offset.toNat + i) 0
    else 0

/-- The bytes are a response to the message `f`. -/
structure RespondsTo (f : Frame) (bs : Bytes) : Prop where
  request : wireRequest bs = pldmResponse
  cmdType : wireCmdType bs = pldmFirmwareUpdate
  cmdCode : wireCmdCode bs = f.cmdCode
  instanceID : wireInstanceID bs = f.instanceID

/-- The request `f` is answered by exactly one response: the completion code, the data it asks for,
and one more byte. -/
def AnsweredOnce (file : Bytes) (comp : CompImageInfo) (f : Frame) (evs : List Event) : Prop :=
  ∃ bs ok pec, evs.filter Event.isWrite = [.write bs ok] ∧ RespondsTo f bs ∧
    wirePayload bs = rfdCode comp f.rfdOffset f.rfdLength ::
      (if Granted comp f.rfdOffset f.rfdLength then
        requestedData file comp f.rfdOffset f.rfdLength else []) ++ [pec]

theorem respondsTo_of_messageHeader {f g : Frame} {n : Nat} (hn : 13 ≤ n)
    (h : MessageHeader pldmFirmwareUpdate f.cmdCode f.instanceID pldmResponse g) :
    RespondsTo f (g.slice 1 n) := by
  have hid : f.instanceID.toNat < 32 := by
    rw [Frame.instanceID, UInt8.toNat_mod]
    exact Nat.mod_lt _ (by decide)
  refine ⟨h.wireRequest_response, ?_, ?_, ?_⟩
  · rw [wireCmdType, Buf.getD_slice, if_pos (by omega), h.cmdType]
    decide
  · rw [wireCmdCode, Buf.getD_slice, if_pos (by omega)]
    exact h.cmdCode
  · rw [wireInstanceID, Buf.getD_slice, if_pos (by omega), h.request]
    apply UInt8.toNat_inj.mp
    simp only [UInt8.toNat_mod, UInt8.toNat_add, UInt8.toNat_mul, UInt8.reduceToNat]
    omega

/-- Without wrapping, a granted request reads the bytes of the component it asks for. -/
theorem xfer_of_noWrap {comp : CompImageInfo} {offset len : UInt32} (hg : Granted comp offset len)
    (hloc : comp.compLocOffset.toNat + comp.compSize.toNat ≤ 2 ^ 32)
    (hsize : comp.compSize.toNat + 31 < 2 ^ 32) :
    xferPos comp offset = comp.compLocOffset.toNat + offset.toNat ∧
      xferCount comp offset len = min len.toNat (comp.compSize.toNat - offset.toNat) := by
  have hoff : offset.toNat < comp.compSize.toNat := UInt32.lt_iff_toNat_lt.mp hg.1
  have hlen : len.toNat ≤ 32 := UInt32.le_iff_toNat_le.mp hg.2
  have hsum : (offset + len).toNat = offset.toNat + len.toNat := by
    rw [UInt32.toNat_add]
    omega
  refine ⟨?_, ?_⟩
  · rw [xferPos, UInt32.toNat_add]
    omega
  · unfold xferCount
    split
    case isTrue h =>
      have h' : (offset + len).toNat ≤ comp.compSize.toNat := UInt32.le_iff_toNat_le.mp h
      omega
    case isFalse h =>
      have h' : comp.compSize.toNat < (offset + len).toNat :=
        UInt32.lt_iff_toNat_lt.mp (UInt32.not_le.mp h)
      rw [UInt32.toNat_sub_of_le _ _ (UInt32.le_iff_toNat_le.mpr (Nat.le_of_lt hoff))]
      omega

/-- **The bytes sent are the component's.** -/
theorem xferData_eq_requestedData {file : Bytes} {comp : CompImageInfo} {offset len : UInt32}
    (h : RegionInFile file comp) (hg : Granted comp offset len) :
    xferData file comp offset len = requestedData file comp offset len := by
  have hshort := h.short
  have hinside := h.inside
  have hoff : offset.toNat < comp.compSize.toNat := UInt32.lt_iff_toNat_lt.mp hg.1
  obtain ⟨hpos, hcount⟩ := xfer_of_noWrap hg (by omega) (by omega)
  refine List.ext_getElem (by simp [length_xferData hg.1 hg.2, requestedData]) fun i hi _ => ?_
  rw [length_xferData hg.1 hg.2] at hi
  rw [← List.getD_eq_getElem _ 0, xferData, getD_padded, xferGot, hpos, hcount]
  simp only [requestedData, List.getElem_map, List.getElem_range]
  by_cases hin : offset.toNat + i < comp.compSize.toNat
  · have htake : i < min len.toNat (comp.compSize.toNat - offset.toNat) := by omega
    rw [if_pos hin, List.getD_eq_getElem?_getD, List.getElem?_take, if_pos htake,
      List.getElem?_drop, ← List.getD_eq_getElem?_getD]
  · rw [if_neg hin]
    refine List.getD_eq_default _ _ (Nat.le_trans (List.length_take_le _ _) ?_)
    omega

/-- One reply, and no more. -/
theorem answeredOnce_of_requestReplies {file : Bytes} {comp : CompImageInfo} {f : Frame}
    {rest : List Event} (hfile : RegionInFile file comp) (hsize : comp.compSize ≠ 0)
    (h : RequestReplies file comp f rest) : AnsweredOnce file comp f rest := by
  rw [RequestReplies, if_neg hsize] at h
  obtain ⟨g, n, ok, pec, hn, hdr, rfl, hpay⟩ := h
  refine ⟨g.slice 1 n, ok, pec, ?_, respondsTo_of_messageHeader hn hdr, ?_⟩
  · rw [List.filter_append]
    split
    · rfl
    · rfl
  · rw [hpay]
    congr 2
    by_cases hg : Granted comp f.rfdOffset f.rfdLength
    · rw [if_pos hg, if_pos hg, xferData_eq_requestedData hfile hg]
    · rw [if_neg hg, if_neg hg]

/-- **When every request is answered with the bytes it asks for.** For a component inside its file,
whatever requests the device sends, each is answered by exactly one response with the right
completion code and bytes, exactly if the component is not empty: the progress is computed before
the offset is checked, and divides by the size. -/
theorem readFromFD_answers_iff {file : Bytes} {comp : CompImageInfo}
    (hfile : RegionInFile file comp) :
    (∀ fuel s, Installing file comp s →
        EachRequest (AnsweredOnce file comp) (newEvents (readFromFD fuel) s)) ↔
      comp.compSize ≠ 0 := by
  constructor
  · intro h hsize
    obtain ⟨f, rest, -, -, hreplies, hans⟩ := EachRequest.first
      (installing_installer file comp 0 0) rfl (h 1 _ (installing_installer file comp 0 0))
    rw [RequestReplies, if_pos hsize] at hreplies
    obtain ⟨bs, ok, pec, hone, -⟩ := hans
    simp [hreplies] at hone
  · intro hsize fuel s hs pre f post heq hrfd
    exact answeredOnce_of_requestReplies hfile hsize
      (readFromFD_requests fuel hs pre f post heq hrfd)

theorem fwpkgParse_region (loc size : Nat) (loc' size' : UInt32)
    (h : acceptedRegions (fwpkgParse (samplePackage [sampleImage loc size])) =
      some [(loc', size')]) :
    ∃ pkg comp, fwpkgParse (samplePackage [sampleImage loc size]) = .ret (some pkg) ∧
      comp ∈ pkg.compImages ∧ comp.compLocOffset = loc' ∧ comp.compSize = size' := by
  obtain ⟨pkg, hpkg, hregions⟩ := exists_of_acceptedRegions h
  obtain ⟨comp, himages, hloc, hsize⟩ := exists_comp_of_region hregions
  exact ⟨pkg, comp, hpkg, by simp [himages], hloc, hsize⟩

/-- A component of 32 bytes, whose requests are all answered. -/
theorem readFromFD_answers_iff_sample : ∃ pkg comp,
    fwpkgParse (samplePackage [sampleImage 100 32]) = .ret (some pkg) ∧ comp ∈ pkg.compImages ∧
      ∀ fuel s, Installing (samplePackage [sampleImage 100 32]) comp s →
        EachRequest (AnsweredOnce (samplePackage [sampleImage 100 32]) comp)
          (newEvents (readFromFD fuel) s) := by
  obtain ⟨pkg, comp, hpkg, hmem, hloc, hsize⟩ := fwpkgParse_region 100 32 100 32 (by decide +kernel)
  refine ⟨pkg, comp, hpkg, hmem, (readFromFD_answers_iff ⟨by decide +kernel, ?_⟩).mpr ?_⟩
  · rw [hloc, hsize]
    decide +kernel
  · rw [hsize]
    decide

/-- An accepted package with an empty component: the first request is never answered. -/
theorem emptyComponent_not_answered :
    ¬∀ file pkg, fwpkgParse file = .ret (some pkg) → ∀ comp ∈ pkg.compImages,
      RegionInFile file comp → ∀ fuel s, Installing file comp s →
        EachRequest (AnsweredOnce file comp) (newEvents (readFromFD fuel) s) := by
  intro h
  obtain ⟨pkg, comp, hpkg, hmem, hloc, hsize⟩ := fwpkgParse_region 100 0 100 0 (by decide +kernel)
  have hfile : RegionInFile (samplePackage [sampleImage 100 0]) comp := by
    refine ⟨by decide +kernel, ?_⟩
    rw [hloc, hsize]
    decide +kernel
  have hs := installing_installer (samplePackage [sampleImage 100 0]) comp 0 0
  obtain ⟨f, rest, -, -, hreplies, bs, ok, pec, hone, -⟩ :=
    EachRequest.first hs rfl (h _ pkg hpkg comp hmem hfile 1 _ hs)
  rw [RequestReplies, if_pos hsize] at hreplies
  simp [hreplies] at hone

/-! ## Data from the component's region -/

/-- A success answer carries what one complete read inside the component's region delivered, and
zeros up to the length asked for. -/
def FromRegion (comp : CompImageInfo) (f : Frame) (evs : List Event) : Prop :=
  ∀ bs ok, .write bs ok ∈ evs → (wirePayload bs).head? = some pldmSuccess →
    ∃ pos n got pec, .fread pos n got ∈ evs ∧ comp.compLocOffset.toNat ≤ pos ∧
      pos + n ≤ comp.compLocOffset.toNat + comp.compSize.toNat ∧ got.length = n ∧
      wirePayload bs = pldmSuccess :: (got ++ List.replicate (f.rfdLength.toNat - n) 0) ++ [pec]

/-- The 32-bit sums of the data phase do not wrap for this component. -/
def NoWrap (comp : CompImageInfo) : Prop :=
  comp.compLocOffset.toNat + comp.compSize.toNat ≤ 2 ^ 32 ∧ comp.compSize.toNat + 31 < 2 ^ 32

/-- Where no sum wraps, one request is answered from the region. -/
theorem fromRegion_of_requestReplies {file : Bytes} {comp : CompImageInfo} {f : Frame}
    {rest : List Event}
    (hin : comp.compLocOffset.toNat + comp.compSize.toNat ≤ file.length)
    (hwrap : comp.compSize = 0 ∨ NoWrap comp) (h : RequestReplies file comp f rest) :
    FromRegion comp f rest := by
  intro bs ok hmem hcode
  by_cases hsize : comp.compSize = 0
  · rw [RequestReplies, if_pos hsize] at h
    simp [h] at hmem
  · obtain ⟨hloc, hsum⟩ := hwrap.resolve_left hsize
    rw [RequestReplies, if_neg hsize] at h
    obtain ⟨g, n, ok', pec, -, -, rfl, hpay⟩ := h
    by_cases hg : Granted comp f.rfdOffset f.rfdLength
    · rw [if_pos hg] at hmem hpay
      have hoff : f.rfdOffset.toNat < comp.compSize.toNat := UInt32.lt_iff_toNat_lt.mp hg.1
      obtain ⟨hpos, hcount⟩ := xfer_of_noWrap hg hloc hsum
      have hgot : (xferGot file comp f.rfdOffset f.rfdLength).length =
          xferCount comp f.rfdOffset f.rfdLength := by
        rw [xferGot, List.length_take, List.length_drop, hpos, hcount]
        omega
      obtain ⟨rfl, -⟩ : bs = g.slice 1 n ∧ ok = ok' := by simpa [xferRead] using hmem
      refine ⟨xferPos comp f.rfdOffset, xferCount comp f.rfdOffset f.rfdLength,
        xferGot file comp f.rfdOffset f.rfdLength, pec, List.mem_append_left _ ?_, ?_, ?_, hgot, ?_⟩
      · rw [if_pos hg]
        exact List.mem_cons_self
      · rw [hpos]
        omega
      · rw [hpos, hcount]
        omega
      · rw [hpay, rfdCode_eq_success_iff.mpr hg, xferData, hgot]
    · rw [if_neg hg] at hmem hpay
      obtain ⟨rfl, -⟩ : bs = g.slice 1 n ∧ ok = ok' := by simpa using hmem
      rw [hpay] at hcode
      exact absurd (rfdCode_eq_success_iff.mp (Option.some.inj hcode)) hg

/-- A granted request whose read leaves the region, or comes up short, is not answered from the
region. -/
theorem not_fromRegion {file : Bytes} {comp : CompImageInfo} {f : Frame} {rest : List Event}
    (hg : Granted comp f.rfdOffset f.rfdLength) (hsize : comp.compSize ≠ 0)
    (h : RequestReplies file comp f rest)
    (hout : xferPos comp f.rfdOffset < comp.compLocOffset.toNat ∨
      comp.compLocOffset.toNat + comp.compSize.toNat <
        xferPos comp f.rfdOffset + xferCount comp f.rfdOffset f.rfdLength ∨
      (xferGot file comp f.rfdOffset f.rfdLength).length <
        xferCount comp f.rfdOffset f.rfdLength) :
    ¬FromRegion comp f rest := by
  intro hreg
  rw [RequestReplies, if_neg hsize] at h
  obtain ⟨g, n, ok, pec, -, -, rfl, hpay⟩ := h
  rw [if_pos hg] at hpay hreg
  rw [rfdCode_eq_success_iff.mpr hg] at hpay
  obtain ⟨pos, m, got, _, hmem, hlow, hhigh, hgot, -⟩ := hreg (g.slice 1 n) ok (by simp)
    (by rw [hpay]; rfl)
  have hread : .fread pos m got = xferRead file comp f.rfdOffset f.rfdLength := by
    simpa using hmem
  obtain ⟨rfl, rfl, rfl⟩ := Event.fread.inj hread
  omega

/-- Every request of every transfer; where a sum wraps, one request tells. -/
theorem eachRequest_fromRegion_iff {file : Bytes} {comp : CompImageInfo}
    (hin : comp.compLocOffset.toNat + comp.compSize.toNat ≤ file.length) :
    (∀ fuel s, Installing file comp s →
        EachRequest (FromRegion comp) (newEvents (readFromFD fuel) s)) ↔
      comp.compSize = 0 ∨ NoWrap comp := by
  constructor
  · intro h
    by_contra hno
    obtain ⟨hsize, hwrap⟩ := not_or.mp hno
    have hpos : 0 < comp.compSize.toNat :=
      Nat.pos_of_ne_zero fun h0 => hsize (UInt32.toNat_inj.mp h0)
    have hsize32 := comp.compSize.toNat_lt
    have hloc32 := comp.compLocOffset.toNat_lt
    -- a request whose sums wrap
    have hreq (offset len : UInt32) (hg : Granted comp offset len)
        (hout : xferPos comp offset < comp.compLocOffset.toNat ∨
          comp.compLocOffset.toNat + comp.compSize.toNat <
            xferPos comp offset + xferCount comp offset len) : False := by
      obtain ⟨f, rest, rfl, rfl, hreplies, hreg⟩ := EachRequest.first
        (installing_installer file comp offset len) rfl
        (h 1 _ (installing_installer file comp offset len))
      exact not_fromRegion hg hsize hreplies (hout.imp_right .inl) hreg
    by_cases hloc : comp.compLocOffset.toNat + comp.compSize.toNat ≤ 2 ^ 32
    · -- the last byte, with the largest length
      have hlast : comp.compSize.toNat + 31 ≥ 2 ^ 32 := by
        by_contra hlt
        exact hwrap ⟨hloc, by omega⟩
      have hone : (comp.compSize - 1).toNat = comp.compSize.toNat - 1 := by
        rw [UInt32.toNat_sub_of_le]
        · rfl
        · exact UInt32.le_iff_toNat_le.mpr hpos
      have hsum : comp.compSize - 1 + 32 ≤ comp.compSize := by
        rw [UInt32.le_iff_toNat_le, UInt32.toNat_add, hone]
        exact show (comp.compSize.toNat - 1 + 32) % 2 ^ 32 ≤ _ by omega
      refine hreq (comp.compSize - 1) 32 ⟨?_, by decide⟩ (.inr ?_)
      · rw [UInt32.lt_iff_toNat_lt, hone]
        omega
      · rw [xferPos, UInt32.toNat_add, hone, xferCount, if_pos hsum]
        exact show _ < (comp.compLocOffset.toNat + (comp.compSize.toNat - 1)) % 2 ^ 32 + 32 by omega
    · -- the first byte whose position wraps
      have hoff : (UInt32.ofNat (2 ^ 32 - comp.compLocOffset.toNat)).toNat =
          2 ^ 32 - comp.compLocOffset.toNat := by
        rw [UInt32.toNat_ofNat']
        omega
      refine hreq (UInt32.ofNat (2 ^ 32 - comp.compLocOffset.toNat)) 1 ⟨?_, by decide⟩ (.inl ?_)
      · rw [UInt32.lt_iff_toNat_lt, hoff]
        omega
      · rw [xferPos, UInt32.toNat_add, hoff]
        omega
  · intro hwrap fuel s hs pre f post heq hrfd
    exact fromRegion_of_requestReplies hin hwrap (readFromFD_requests fuel hs pre f post heq hrfd)

/-- The regions of a package lie in its file, and what a device is sent with success was read from
them. -/
def RegionsServed (file : Bytes) (pkg : FwPkg) : Prop :=
  ∀ comp ∈ pkg.compImages, comp.compLocOffset.toNat + comp.compSize.toNat ≤ file.length ∧
    ∀ fuel s, Installing file comp s →
      EachRequest (FromRegion comp) (newEvents (readFromFD fuel) s)

/-- **When data sent with success was read from the component's region.** The parser compares
neither the regions with the file nor their ends with 32 bits, so this holds for the packages it
accepts exactly if their header fields say so. -/
theorem fwPackage_regions_iff (file : Bytes) :
    (∀ pkg, fwpkgParse file = .ret (some pkg) → RegionsServed file pkg) ↔
      ∀ pkg, fwpkgParse file = .ret (some pkg) → ∀ comp ∈ pkg.compImages,
        comp.compLocOffset.toNat + comp.compSize.toNat ≤ file.length ∧
          (comp.compSize = 0 ∨ NoWrap comp) := by
  refine forall_congr' fun pkg => imp_congr_right fun _ => forall_congr' fun comp =>
    imp_congr_right fun _ => and_congr_right fun hin => eachRequest_fromRegion_iff hin

/-- An accepted package whose component starts behind the end of the file: its bytes are answered
with success and zeros. -/
theorem truncatedPackage_not_served : ∃ file pkg, fwpkgParse file = .ret (some pkg) ∧
    ¬RegionsServed file pkg ∧ ¬∀ comp ∈ pkg.compImages, ∀ fuel s, Installing file comp s →
      EachRequest (FromRegion comp) (newEvents (readFromFD fuel) s) := by
  obtain ⟨pkg, comp, hpkg, hmem, hloc, hsize⟩ :=
    fwpkgParse_region 100000 32 100000 32 (by decide +kernel)
  have hfile : (samplePackage [sampleImage 100000 32]).length ≤ 10000 := by decide +kernel
  have hnot : ¬∀ fuel s, Installing (samplePackage [sampleImage 100000 32]) comp s →
      EachRequest (FromRegion comp) (newEvents (readFromFD fuel) s) := by
    intro h
    have hs := installing_installer (samplePackage [sampleImage 100000 32]) comp 0 32
    obtain ⟨f, rest, hoff, hlen, hreplies, hreg⟩ := EachRequest.first hs rfl (h 1 _ hs)
    have hg : Granted comp f.rfdOffset f.rfdLength := by
      rw [hoff, hlen, Granted, hsize]
      decide
    refine not_fromRegion hg (by rw [hsize]; decide) hreplies (.inr (.inr ?_)) hreg
    have hcount : xferCount comp f.rfdOffset f.rfdLength = 32 := by
      rw [hoff, hlen, xferCount, hsize]
      decide
    have hpos : xferPos comp f.rfdOffset = 100000 := by
      rw [hoff, xferPos, hloc]
      decide
    rw [hcount, xferGot, hpos, List.drop_eq_nil_of_le (Nat.le_trans hfile (by decide))]
    exact Nat.lt_of_le_of_lt (List.length_take_le' _ _) (by decide)
  exact ⟨_, pkg, hpkg, fun h => hnot (h comp hmem).2, fun h => hnot (h comp hmem)⟩

end XpuManager
