import XpuManager.Amc.PdrExchange

/-! # Fetching the PDR repository

`pfGetTotalPdrs` against a device that serves its repository. After every part the request takes up
the handle of the next record, also between two parts of one record. -/

namespace XpuManager

open Prog

/-! ## One turn -/

/-- The platform state once another part of the record has been asked for. -/
def PlatformState.nextPart (pf : PlatformState) : PlatformState :=
  { pf with pfPdrReq := { pf.pfPdrReq with
      recordHandle := pf.pfPdrResp.nextRecordHandle
      dataTransferHandle := pf.pfPdrResp.nextDataTransferHandle
      transferOpFlag := pldmGetNextPart } }

/-- The platform state once the record is finished. -/
def PlatformState.nextRecord (pf : PlatformState) : PlatformState :=
  { pf with
    pfPdrReq := { pf.pfPdrReq with
      recordHandle := pf.pfPdrResp.nextRecordHandle
      dataTransferHandle := 0
      transferOpFlag := pldmGetFirstPart }
    mPdrs := if pdrPayloadHeaderSize ≤ pf.mCurrentPdr.length then pf.mPdrs ++ [pf.mCurrentPdr]
      else pf.mPdrs
    mCurrentPdr := [] }

/-- The transfer flag ends its record. -/
def EndsRecord (transferFlag : UInt8) : Prop :=
  transferFlag = pldmEnd ∨ transferFlag = pldmStartAndEnd

instance : DecidablePred EndsRecord := fun _ => inferInstanceAs (Decidable (_ ∨ _))

theorem not_endsRecord_start : ¬EndsRecord pldmStart := by decide

theorem not_endsRecord_middle : ¬EndsRecord pldmMiddle := by decide

/-- **The turn behind an accepted response.** -/
theorem pdrTurn_of_accepts {s : Pldm} (hid : s.instanceID ≤ pldmInstanceIdMax) {delivered : Bytes}
    (h : Accepts s delivered) : ∃ w bs, pdrRequest bs = s.pf.pfPdrReq ∧
      (EndsRecord (pdrRespPayload (s.received delivered)).transferFlag →
        pfMonCtrlTurn pldmGetPdr getPdrSize () s = (.ret (.inr pldmSuccess),
          { s.afterPart w bs delivered with pf := (s.afterPart w bs delivered).pf.nextRecord })) ∧
      (¬EndsRecord (pdrRespPayload (s.received delivered)).transferFlag →
        pfMonCtrlTurn pldmGetPdr getPdrSize () s = (.ret (.inl ()),
          { s.afterPart w bs delivered with pf := (s.afterPart w bs delivered).pf.nextPart })) := by
  obtain ⟨w, bs, hrequest, hexchange⟩ := pfExchange_of_accepts hid h
  refine ⟨w, bs, hrequest, fun hend => ?_, fun hend => ?_⟩
  · rw [pfMonCtrlTurn, bind_of_ret hexchange, if_neg (by simp), if_neg (by simp), get_bind_apply,
      modifyPf, modify_bind_apply, Prog.ite_apply]
    have hlast : EndsRecord (s.afterPart w bs delivered).pf.pfPdrResp.transferFlag := hend
    exact (if_pos hlast).trans rfl
  · rw [pfMonCtrlTurn, bind_of_ret hexchange, if_neg (by simp), if_neg (by simp), get_bind_apply,
      modifyPf, modify_bind_apply, Prog.ite_apply]
    have hmore : ¬EndsRecord (s.afterPart w bs delivered).pf.pfPdrResp.transferFlag := hend
    exact (if_neg hmore).trans rfl

/-- **The turn behind a refused exchange** ends the command without success. -/
theorem pdrTurn_of_not_accepts {s : Pldm} (hid : s.instanceID ≤ pldmInstanceIdMax)
    (h : ∀ delivered, ¬Accepts s delivered) :
    wp (pfMonCtrlTurn pldmGetPdr getPdrSize ()) (fun o t => o ≠ .ret (.inr pldmSuccess) ∧
      o ≠ .ret (.inl ()) ∧ ∃ bs ok rest, pdrRequest bs = s.pf.pfPdrReq ∧
        t.trace = s.trace ++ .write bs ok :: rest ∧ ∀ e ∈ rest, e.isWrite = false) s := by
  refine wp_bind_of (pfExchange_of_not_accepts hid h) ?_ ?_ ?_
  · rintro r t ⟨hr, hsent⟩
    rw [if_pos (fun heq => hr (by rw [heq]))]
    exact ⟨fun heq => hr (by simpa using heq), by simp, hsent⟩
  · rintro t ⟨-, hsent⟩
    exact ⟨by simp, by simp, hsent⟩
  · rintro t ⟨-, hsent⟩
    exact ⟨by simp, by simp, hsent⟩

/-! ## Where a run is -/

section Repository

variable {repo : PdrRepository} {past after : List RepositoryRecord} {r : RepositoryRecord}

/-- A run between two parts of a record: the next request names a part of it, and what has been
received is what comes before that part. -/
structure Position (repo : PdrRepository) (past : List RepositoryRecord) (r : RepositoryRecord)
    (after : List RepositoryRecord) (s : Pldm) : Prop where
  records_eq : repo.records = past ++ r :: after
  handle_eq : repo.fromHandle s.pf.pfPdrReq.recordHandle = r :: after
  mPdrs_eq : s.pf.mPdrs = past.map RepositoryRecord.data
  place : (s.pf.pfPdrReq.transferOpFlag = pldmGetFirstPart ∧ s.pf.mCurrentPdr = []) ∨
    (s.pf.pfPdrReq.transferOpFlag = pldmGetNextPart ∧ ∃ done part todo,
      r.rest = done ++ part :: todo ∧ s.pf.pfPdrReq.dataTransferHandle = part.1 ∧
        s.pf.mCurrentPdr = r.first ++ done.flatMap Prod.snd)

/-- A run between two records. -/
structure AtRecord (repo : PdrRepository) (past todo : List RepositoryRecord) (s : Pldm) :
    Prop where
  records_eq : repo.records = past ++ todo
  handle_eq : todo ≠ [] → repo.fromHandle s.pf.pfPdrReq.recordHandle = todo
  mPdrs_eq : s.pf.mPdrs = past.map RepositoryRecord.data
  mCurrentPdr_eq : s.pf.mCurrentPdr = []
  transferOpFlag_eq : s.pf.pfPdrReq.transferOpFlag = pldmGetFirstPart

theorem AtRecord.position {s : Pldm} (h : AtRecord repo past (r :: after) s) :
    Position repo past r after s :=
  ⟨h.records_eq, h.handle_eq (List.cons_ne_nil _ _), h.mPdrs_eq,
    .inl ⟨h.transferOpFlag_eq, h.mCurrentPdr_eq⟩⟩

/-- **The answer at a position** continues the record: it ends it, or names the part to go on
with. -/
theorem Position.answer {s : Pldm} (h : Position repo past r after s) :
    ∃ part, repo.answer s.pf.pfPdrReq = some part ∧
      part.nextRecordHandle = nextRecordHandle after ∧ part.data.length ≤ pdrPartMax ∧
      ((EndsRecord part.transferFlag ∧ s.pf.mCurrentPdr ++ part.data = r.data) ∨
        (¬EndsRecord part.transferFlag ∧ ∃ done next todo, r.rest = done ++ next :: todo ∧
          part.nextDataTransferHandle = next.1 ∧
          s.pf.mCurrentPdr ++ part.data = r.first ++ done.flatMap Prod.snd)) := by
  rw [PdrRepository.answer, h.handle_eq]
  dsimp only
  rcases h.place with ⟨hflag, hcur⟩ | ⟨hflag, done, part, todo, hrest, hhandle, hcur⟩
  · rw [RepositoryRecord.part, if_pos hflag, hcur]
    refine ⟨_, rfl, rfl, r.first_fits, ?_⟩
    cases hr : r.rest with
    | nil => exact .inl ⟨.inr rfl, by simp [RepositoryRecord.data, hr]⟩
    | cons next todo =>
      refine .inr ⟨?_, [], next, todo, rfl, rfl, by simp⟩
      rw [if_neg (List.cons_ne_nil _ _)]
      exact not_endsRecord_start
  · rw [RepositoryRecord.part, if_neg (by rw [hflag]; decide), hhandle,
      RepositoryRecord.dropWhile_handle hrest, hcur]
    refine ⟨_, rfl, rfl, r.rest_fits part (by rw [hrest]; simp), ?_⟩
    cases todo with
    | nil => exact .inl ⟨.inl rfl, by simp [RepositoryRecord.data, hrest]⟩
    | cons next todo =>
      refine .inr ⟨?_, done ++ [part], next, todo, by simp [hrest], rfl, by simp⟩
      rw [if_neg (List.cons_ne_nil _ _)]
      exact not_endsRecord_middle

/-- What the code reads out of the answer that carries a part. -/
theorem PlatformState.afterPart_of_held {pf : PlatformState} {part : PdrPart} {f : Frame}
    (h : part.HeldBy f) (hlen : part.data.length ≤ pdrPartMax) : pf.afterPart f = { pf with
      pfPdrResp := ⟨pldmSuccess, part.nextRecordHandle, part.nextDataTransferHandle,
        part.transferFlag, UInt16.ofNat part.data.length⟩
      mCurrentPdr := pf.mCurrentPdr ++ part.data } := by
  obtain ⟨hresp, hdata⟩ := pdrRespPayload_of_holds h
  rw [PlatformState.afterPart, hresp]
  dsimp only
  rw [part.toNat_count hlen, hdata]

/-- The last part of a record leads to the next record. -/
theorem Position.nextRecord {s t : Pldm} {part : PdrPart} {f : Frame}
    (h : Position repo past r after s) (hheld : part.HeldBy f)
    (hlen : part.data.length ≤ pdrPartMax)
    (hnext : part.nextRecordHandle = nextRecordHandle after)
    (hdata : s.pf.mCurrentPdr ++ part.data = r.data)
    (ht : t.pf = (s.pf.afterPart f).nextRecord) : AtRecord repo (past ++ [r]) after t := by
  have hrecords : repo.records = (past ++ [r]) ++ after := by simp [h.records_eq]
  rw [PlatformState.afterPart_of_held hheld hlen, PlatformState.nextRecord] at ht
  refine ⟨hrecords, fun hafter => ?_, ?_, ?_, ?_⟩
  · obtain ⟨r', after', rfl⟩ := List.exists_cons_of_ne_nil hafter
    rw [ht]
    dsimp only
    rw [hnext]
    exact repo.fromHandle_recordHandle hrecords
  · have hsize : pdrPayloadHeaderSize ≤ (s.pf.mCurrentPdr ++ part.data).length := by
      rw [hdata]
      exact r.size_le
    rw [ht]
    dsimp only
    rw [if_pos hsize, h.mPdrs_eq, hdata, List.map_append]
    rfl
  · rw [ht]
  · rw [ht]

/-- Another part of a record leads on in it, if the next record's handle leads to it. -/
theorem Position.nextPart {s t : Pldm} {part : PdrPart} {f : Frame} {done : List (UInt32 × Bytes)}
    {next : UInt32 × Bytes} {todo : List (UInt32 × Bytes)} (h : Position repo past r after s)
    (hheld : part.HeldBy f) (hlen : part.data.length ≤ pdrPartMax)
    (hhandle : repo.fromHandle part.nextRecordHandle = r :: after)
    (hrest : r.rest = done ++ next :: todo) (htransfer : part.nextDataTransferHandle = next.1)
    (hdata : s.pf.mCurrentPdr ++ part.data = r.first ++ done.flatMap Prod.snd)
    (ht : t.pf = (s.pf.afterPart f).nextPart) : Position repo past r after t := by
  rw [PlatformState.afterPart_of_held hheld hlen, PlatformState.nextPart] at ht
  refine ⟨h.records_eq, ?_, ?_, .inr ⟨?_, done, next, todo, hrest, ?_, ?_⟩⟩
  · rw [ht]
    exact hhandle
  · rw [ht]
    exact h.mPdrs_eq
  · rw [ht]
  · rw [ht]
    exact htransfer
  · rw [ht]
    exact hdata

/-- What an answer leads to. -/
theorem Position.answered {s : Pldm} {bs : Bytes} {f : Frame} (h : Position repo past r after s)
    (hlead : r.rest = [] ∨ repo.fromHandle (nextRecordHandle after) = r :: after)
    (hbs : pdrRequest bs = s.pf.pfPdrReq) (hanswers : repo.Answers bs f) :
    (EndsRecord (pdrRespPayload f).transferFlag → ∀ t : Pldm,
        t.pf = (s.pf.afterPart f).nextRecord → AtRecord repo (past ++ [r]) after t) ∧
      (¬EndsRecord (pdrRespPayload f).transferFlag → ∀ t : Pldm,
        t.pf = (s.pf.afterPart f).nextPart → Position repo past r after t) := by
  obtain ⟨part, hpart, hnext, hlen, hcont⟩ := h.answer
  have hheld : part.HeldBy f := by
    rw [PdrRepository.Answers, hbs, hpart] at hanswers
    exact hanswers
  rw [(pdrRespPayload_of_holds hheld).1]
  rcases hcont with ⟨hend, hdata⟩ | ⟨hmore, done, next, todo, hrest, htransfer, hdata⟩
  · exact ⟨fun _ _ ht => h.nextRecord hheld hlen hnext hdata ht, fun hmore => absurd hend hmore⟩
  · refine ⟨fun hend => absurd hend hmore, fun _ _ ht => ?_⟩
    have hhandle : repo.fromHandle part.nextRecordHandle = r :: after := by
      rw [hnext]
      exact hlead.resolve_left (by rw [hrest]; simp)
    exact h.nextPart hheld hlen hhandle hrest htransfer hdata ht

/-! ## What a run has done -/

/-- As long as the device served its repository, a run since `s₀` asked for parts of the record it
was reading, and `P` holds of its events. -/
def Fetched (repo : PdrRepository) (s₀ t : Pldm) (P : List Event → Prop) : Prop :=
  ∃ evs, t.trace = s₀.trace ++ evs ∧ (repo.Served evs → repo.AsksOwnRecord evs ∧ P evs)

theorem Fetched.mono {s₀ t : Pldm} {P Q : List Event → Prop} (h : Fetched repo s₀ t P)
    (hPQ : ∀ evs, P evs → Q evs) : Fetched repo s₀ t Q := by
  obtain ⟨evs, htrace, hserved⟩ := h
  exact ⟨evs, htrace, fun hs => ⟨(hserved hs).1, hPQ _ (hserved hs).2⟩⟩

/-- A run in a record: between two parts it is the record that is being read. -/
def InRecord (repo : PdrRepository) (past : List RepositoryRecord) (r : RepositoryRecord)
    (after : List RepositoryRecord) (s : Pldm) (evs : List Event) : Prop :=
  Position repo past r after s ∧
    (s.pf.pfPdrReq.transferOpFlag = pldmGetNextPart → repo.current evs = r :: after)

theorem AtRecord.inRecord {s : Pldm} (h : AtRecord repo past (r :: after) s) (evs : List Event) :
    InRecord repo past r after s evs := by
  refine ⟨h.position, fun hnext => ?_⟩
  rw [h.transferOpFlag_eq] at hnext
  cases hnext

/-- The request of a run in a record asks for a part of it. -/
theorem InRecord.request {s : Pldm} {evs rest : List Event} {bs : Bytes} {ok : Bool}
    (h : InRecord repo past r after s evs) (hasks : repo.AsksOwnRecord evs)
    (hbs : pdrRequest bs = s.pf.pfPdrReq) (hrest : ∀ e ∈ rest, e.isWrite = false) :
    repo.AsksOwnRecord (evs ++ .write bs ok :: rest) ∧
      repo.current (evs ++ .write bs ok :: rest) = r :: after := by
  obtain ⟨hpos, hcurrent⟩ := h
  constructor
  · refine hasks.request (fun hnext => ?_) hrest
    rw [hbs] at hnext ⊢
    rw [hpos.handle_eq, hcurrent hnext]
  · rw [PdrRepository.current_request hrest, hbs]
    rcases hpos.place with ⟨hflag, -⟩ | ⟨hflag, -⟩
    · rw [if_pos hflag, hpos.handle_eq]
    · rw [if_neg (by rw [hflag]; decide), hcurrent hflag]

/-- **One turn.** It goes on in the record, or is done with it. -/
theorem pdrTurn_fetched {s₀ s : Pldm} (hid : s.instanceID ≤ pldmInstanceIdMax)
    (hlead : r.rest = [] ∨ repo.fromHandle (nextRecordHandle after) = r :: after)
    (h : Fetched repo s₀ s (InRecord repo past r after s)) :
    wp (pfMonCtrlTurn pldmGetPdr getPdrSize ()) (fun o t =>
      (o = .ret (.inl ()) ∨ o = .ret (.inr pldmSuccess) → t.instanceID ≤ pldmInstanceIdMax) ∧
        Fetched repo s₀ t fun evs => (o = .ret (.inl ()) → InRecord repo past r after t evs) ∧
          (o = .ret (.inr pldmSuccess) → AtRecord repo (past ++ [r]) after t)) s := by
  obtain ⟨evs, htrace, hfetched⟩ := h
  by_cases hacc : ∃ delivered, Accepts s delivered
  case neg =>
    refine wp_mono (pdrTurn_of_not_accepts hid fun delivered hd => hacc ⟨delivered, hd⟩) ?_
    rintro o t ⟨hsuccess, hmore, bs, ok, rest, hbs, htrace', hrest⟩
    refine ⟨fun ho => absurd ho (not_or.mpr ⟨hmore, hsuccess⟩), evs ++ .write bs ok :: rest, ?_, ?_⟩
    · rw [htrace', htrace, List.append_assoc]
    · intro hserved
      obtain ⟨hasks, hin⟩ := hfetched hserved.left
      exact ⟨(hin.request hasks hbs hrest).1, fun ho => absurd ho hmore, fun ho => absurd ho hsuccess⟩
  case pos =>
    obtain ⟨delivered, hacc⟩ := hacc
    obtain ⟨w, bs, hbs, hend, hmore⟩ := pdrTurn_of_accepts hid hacc
    have hid' : wrapId s.instanceID + 1 ≤ pldmInstanceIdMax := endId_le (.ret pldmSuccess) hid
    let rest : List Event := [.read (some (s.received delivered)), .exchange
      pldmPlatformMonitoring pldmGetPdr pldmSuccess s.instanceID (wrapId s.instanceID + 1)]
    have hquiet : ∀ e ∈ rest, e.isWrite = false := by simp [rest, Event.isWrite]
    have htrace' : (s.afterPart w bs delivered).trace =
        s₀.trace ++ (evs ++ .write bs true :: rest) := by
      rw [Pldm.afterPart, htrace, List.append_assoc]
      rfl
    have hstep (hserved : repo.Served (evs ++ .write bs true :: rest)) :
        repo.AsksOwnRecord (evs ++ .write bs true :: rest) ∧
          repo.current (evs ++ .write bs true :: rest) = r :: after ∧
          Position repo past r after s ∧ repo.Answers bs (s.received delivered) := by
      obtain ⟨hasks, hin⟩ := hfetched hserved.left
      obtain ⟨hasks', hcurrent⟩ := hin.request hasks hbs hquiet
      exact ⟨hasks', hcurrent, hin.1, hserved evs bs true _ _ rfl⟩
    by_cases hflag : EndsRecord (pdrRespPayload (s.received delivered)).transferFlag
    · rw [wp_of_eq (hend hflag)]
      refine ⟨fun _ => hid', _, htrace', fun hserved => ?_⟩
      obtain ⟨hasks, -, hpos, hanswers⟩ := hstep hserved
      exact ⟨hasks, by simp, fun _ => (hpos.answered hlead hbs hanswers).1 hflag _ rfl⟩
    · rw [wp_of_eq (hmore hflag)]
      refine ⟨fun _ => hid', _, htrace', fun hserved => ?_⟩
      obtain ⟨hasks, hcurrent, hpos, hanswers⟩ := hstep hserved
      exact ⟨hasks, fun _ => ⟨(hpos.answered hlead hbs hanswers).2 hflag _ rfl, fun _ => hcurrent⟩,
        by simp⟩

/-- **A record.** A run over its parts that succeeds has received it whole. -/
theorem pfMonCtrlCmd_fetched {s₀ s : Pldm} (fuel : Nat) (hid : s.instanceID ≤ pldmInstanceIdMax)
    (hlead : r.rest = [] ∨ repo.fromHandle (nextRecordHandle after) = r :: after)
    (h : Fetched repo s₀ s fun _ => AtRecord repo past (r :: after) s) :
    wp (pfMonCtrlCmd fuel pldmGetPdr getPdrSize) (fun o t =>
      (o = .ret pldmSuccess → t.instanceID ≤ pldmInstanceIdMax) ∧
        Fetched repo s₀ t fun _ => o = .ret pldmSuccess → AtRecord repo (past ++ [r]) after t) s := by
  have hturn (u : Pldm) (hu : u.instanceID ≤ pldmInstanceIdMax ∧
      Fetched repo s₀ u (InRecord repo past r after u)) := pdrTurn_fetched hu.1 hlead hu.2
  refine @loop_induct _ _ _ _ _ _ _ (fun _ u => u.instanceID ≤ pldmInstanceIdMax ∧
    Fetched repo s₀ u (InRecord repo past r after u)) _ ?_ ?_ ?_ ?_ ?_
    ⟨hid, h.mono fun evs hat => hat.inRecord evs⟩
  · intro _ u hu
    exact ⟨by simp, hu.2.mono fun _ _ => by simp⟩
  · intro _ u _ t hu hrun
    obtain ⟨hid', hfetched⟩ := (wp_of_eq hrun).mp (hturn u hu)
    exact ⟨hid' (.inl rfl), hfetched.mono fun _ hin => hin.1 rfl⟩
  · intro _ u ret t hu hrun
    obtain ⟨hid', hfetched⟩ := (wp_of_eq hrun).mp (hturn u hu)
    refine ⟨fun ho => hid' (.inr ?_), hfetched.mono fun _ hin ho => hin.2 ?_⟩
    all_goals rw [Outcome.ret.inj ho]
  · intro _ u t hu hrun
    obtain ⟨-, hfetched⟩ := (wp_of_eq hrun).mp (hturn u hu)
    exact ⟨by simp, hfetched.mono fun _ _ => by simp⟩
  · intro _ u t hu hrun
    obtain ⟨-, hfetched⟩ := (wp_of_eq hrun).mp (hturn u hu)
    exact ⟨by simp, hfetched.mono fun _ _ => by simp⟩

/-- Wherever a run comes to a record, the handle of the next record still leads to it between two of
its parts. -/
def PdrRepository.KeepsRecord (repo : PdrRepository) : Prop :=
  ∀ past r after, repo.records = past ++ r :: after →
    r.rest = [] ∨ repo.fromHandle (nextRecordHandle after) = r :: after

/-- The body of the loop of `pfGetTotalPdrs`. -/
def pfGetTotalPdrsTurn (fuel _ : Nat) (_ : Unit) : Prog Pldm (UInt8 ⊕ Unit) := do
  let ret ← pfMonCtrlCmd fuel pldmGetPdr getPdrSize
  pure (if ret = pldmSuccess then .inr () else .inl pldmError)

/-- The state at which the loop of `pfGetTotalPdrs` starts. -/
def PlatformState.fetchStart (pf : PlatformState) : PlatformState :=
  { pf with
    mPdrs := []
    mCurrentPdr := []
    pfPdrReq := ⟨0, 0, pldmGetFirstPart, pf.pfPdrRepoInfo.largestRecordSize.toUInt16, 0⟩ }

/-- The status behind the loop of `pfGetTotalPdrs`. -/
def fetchResult : UInt8 ⊕ Unit → Prog Pldm UInt8
  | .inl ret => pure ret
  | .inr () => pure pldmSuccess

theorem pfGetTotalPdrs_apply (fuel : Nat) (s : Pldm) : pfGetTotalPdrs fuel s =
    (forEach (pfGetTotalPdrsTurn fuel) (List.range s.pf.pfPdrRepoInfo.recordCount.toNat) () >>=
      fetchResult) { s with pf := s.pf.fetchStart } := rfl

/-- Before its first request a run is at the first record. -/
theorem atRecord_fetchStart (repo : PdrRepository) (s : Pldm) :
    AtRecord repo [] repo.records { s with pf := s.pf.fetchStart } :=
  ⟨rfl, fun _ => rfl, rfl, rfl, rfl⟩

/-- A turn of the loop over records. -/
theorem pfGetTotalPdrsTurn_fetched {s₀ s : Pldm} (fuel i : Nat)
    (hid : s.instanceID ≤ pldmInstanceIdMax)
    (hlead : r.rest = [] ∨ repo.fromHandle (nextRecordHandle after) = r :: after)
    (h : Fetched repo s₀ s fun _ => AtRecord repo past (r :: after) s) :
    wp (pfGetTotalPdrsTurn fuel i ()) (fun o t => o ≠ .ret (.inl pldmSuccess) ∧
      (o = .ret (.inr ()) → t.instanceID ≤ pldmInstanceIdMax) ∧
        Fetched repo s₀ t fun _ => o = .ret (.inr ()) → AtRecord repo (past ++ [r]) after t) s := by
  refine wp_bind_of (pfMonCtrlCmd_fetched fuel hid hlead h) ?_ ?_ ?_
  · rintro ret t ⟨hid', hfetched⟩
    by_cases hret : ret = pldmSuccess
    · rw [if_pos hret]
      refine ⟨by simp, fun _ => hid' (by rw [hret]), hfetched.mono fun _ hat _ => hat (by rw [hret])⟩
    · rw [if_neg hret]
      exact ⟨by simp, by simp, hfetched.mono fun _ _ => by simp⟩
  · rintro t ⟨-, hfetched⟩
    exact ⟨by simp, by simp, hfetched.mono fun _ _ => by simp⟩
  · rintro t ⟨-, hfetched⟩
    exact ⟨by simp, by simp, hfetched.mono fun _ _ => by simp⟩

/-- **The loop over records.** It fetches as many as it makes turns. -/
theorem forEach_fetched {s₀ s : Pldm} {todo : List RepositoryRecord} (fuel : Nat) (is : List Nat)
    (hid : s.instanceID ≤ pldmInstanceIdMax) (hkeeps : repo.KeepsRecord)
    (hrecords : repo.records = past ++ todo) (hcount : is.length = todo.length)
    (h : Fetched repo s₀ s fun _ => AtRecord repo past todo s) :
    wp (forEach (pfGetTotalPdrsTurn fuel) is ()) (fun o t => o ≠ .ret (.inl pldmSuccess) ∧
      Fetched repo s₀ t fun _ => o = .ret (.inr ()) →
        t.pf.mPdrs = repo.records.map RepositoryRecord.data) s := by
  induction is generalizing s past todo with
  | nil =>
    obtain rfl : todo = [] := List.eq_nil_of_length_eq_zero hcount.symm
    refine ⟨by simp, h.mono fun _ hat _ => ?_⟩
    rw [hrecords, List.append_nil]
    exact hat.mPdrs_eq
  | cons i is ih =>
    obtain ⟨r, after, rfl⟩ := List.exists_cons_of_length_eq_add_one hcount.symm
    refine wp_bind_of (pfGetTotalPdrsTurn_fetched fuel i hid (hkeeps past r after hrecords) h)
      ?_ ?_ ?_
    · rintro (ret | ⟨⟩) t ⟨hret, hid', hfetched⟩
      · exact ⟨hret, hfetched.mono fun _ _ => by simp⟩
      · refine @ih (past ++ [r]) t after (hid' rfl) ?_ (by simpa using hcount) ?_
        · rw [hrecords, List.append_assoc]
          rfl
        · exact hfetched.mono fun _ hat => hat rfl
    · rintro t ⟨hret, -, hfetched⟩
      exact ⟨by simp, hfetched.mono fun _ _ => by simp⟩
    · rintro t ⟨hret, -, hfetched⟩
      exact ⟨by simp, hfetched.mono fun _ _ => by simp⟩

/-- **A repository.** A run that succeeds has fetched it. -/
theorem pfGetTotalPdrs_fetched {s : Pldm} (fuel : Nat) (hid : s.instanceID ≤ pldmInstanceIdMax)
    (hcount : s.pf.pfPdrRepoInfo.recordCount.toNat = repo.records.length)
    (hkeeps : repo.KeepsRecord) :
    wp (pfGetTotalPdrs fuel) (fun o t => Fetched repo s t fun _ => o = .ret pldmSuccess →
      t.pf.mPdrs = repo.records.map RepositoryRecord.data) s := by
  let u : Pldm := { s with pf := s.pf.fetchStart }
  have hidu : u.instanceID ≤ pldmInstanceIdMax := hid
  have hstart : Fetched repo s u fun _ => AtRecord repo [] repo.records u :=
    ⟨[], (List.append_nil _).symm, fun _ => ⟨fun pre _ _ _ heq => by simp at heq,
      atRecord_fetchStart repo s⟩⟩
  have hlength : (List.range s.pf.pfPdrRepoInfo.recordCount.toNat).length = repo.records.length := by
    rw [List.length_range, hcount]
  have hrun : wp (forEach (pfGetTotalPdrsTurn fuel)
      (List.range s.pf.pfPdrRepoInfo.recordCount.toNat) () >>= fetchResult)
      (fun o t => Fetched repo s t fun _ => o = .ret pldmSuccess →
        t.pf.mPdrs = repo.records.map RepositoryRecord.data) u := by
    refine wp_bind_of (forEach_fetched fuel _ hidu hkeeps rfl hlength hstart) ?_ ?_ ?_
    · rintro (ret | ⟨⟩) t ⟨hret, hfetched⟩
      · refine hfetched.mono fun _ _ ho => absurd ?_ hret
        rw [Outcome.ret.inj ho]
      · exact hfetched.mono fun _ hat _ => hat rfl
    · rintro t ⟨-, hfetched⟩
      exact hfetched.mono fun _ _ => by simp
    · rintro t ⟨-, hfetched⟩
      exact hfetched.mono fun _ _ => by simp
  rw [wp, pfGetTotalPdrs_apply]
  exact hrun

end Repository

end XpuManager
