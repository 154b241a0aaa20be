import XpuManager.Amc.PdrFetch

/-! # When the record handle survives

A device that serves its repository part by part, and what becomes of the record handle between two
parts of one record. -/

namespace XpuManager

open Prog

/-! ## A device -/

/-- The part with which a record starts. -/
def RepositoryRecord.firstPart (r : RepositoryRecord) (after : List RepositoryRecord) : PdrPart :=
  ⟨nextRecordHandle after, nextTransferHandle r.rest,
    if r.rest = [] then pldmStartAndEnd else pldmStart, r.first⟩

/-- The first parts of some records, `after` being the records behind them. -/
def firstParts (after : List RepositoryRecord) : List RepositoryRecord → List PdrPart
  | [] => []
  | r :: rest => r.firstPart (rest ++ after) :: firstParts after rest

/-- The bytes in which a part arrives, behind the headers. -/
def PdrPart.frameBytes (part : PdrPart) : Bytes := List.replicate 11 0 ++ part.bytes

/-- The bus takes every request and answers with `parts` in order, then no more. -/
structure AnswersWith (s : Pldm) (parts : List PdrPart) : Prop where
  writes_eq : s.writes = Stream'.const true
  reads_eq : s.reads = parts.map (fun part => some part.frameBytes) ++ₛ Stream'.const none

/-- A part that arrives lies in the read buffer. -/
theorem PdrPart.held_received (part : PdrPart) (s : Pldm) (h : part.data.length ≤ pdrPartMax) :
    part.HeldBy (s.received part.frameBytes) := by
  have hlen : part.frameBytes.length = 11 + part.bytes.length := by
    rw [PdrPart.frameBytes, List.length_append, List.length_replicate]
  have hmax : part.frameBytes.length ≤ 128 := by
    rw [hlen, part.length_bytes]
    exact Nat.add_le_add_left (Nat.add_le_add_left h 12) 11
  have hroom : 1 + part.frameBytes.length ≤ frameSize := Nat.le_trans (Nat.add_le_add_left hmax 1) (by decide)
  have hslice : (s.received part.frameBytes).slice 1 part.frameBytes.length = part.frameBytes := by
    rw [Pldm.received, List.take_of_length_le hmax]
    exact Buf.slice_overlay hroom
  rw [PdrPart.HeldBy, show payloadStart = 1 + 11 from rfl,
    ← @Buf.take_drop_slice _ _ _ part.frameBytes.length _ _ (by omega), hslice, PdrPart.frameBytes,
    List.drop_left' (by simp), List.take_length]

section Device

variable {s t : Pldm} {part : PdrPart} {parts : List PdrPart}

/-- A part that the device sends is accepted. -/
theorem AnswersWith.accepts (h : AnswersWith s (part :: parts))
    (hlen : part.data.length ≤ pdrPartMax) : Accepts s part.frameBytes := by
  have hheld := part.held_received s hlen
  have hresp := (pdrRespPayload_of_holds hheld).1
  refine ⟨by rw [h.writes_eq]; rfl, by rw [h.reads_eq]; rfl, ?_, ?_⟩
  · exact congrArg PdrRespPayload.completionCode hresp
  · rw [hresp]
    dsimp only
    rw [part.toNat_count hlen]
    exact Nat.le_trans (Nat.add_le_add_left hlen 12) (by decide)

/-- The answers behind the first. -/
theorem AnswersWith.rest (h : AnswersWith s (part :: parts)) (hreads : t.reads = s.reads.tail)
    (hwrites : t.writes = s.writes.tail) : AnswersWith t parts := by
  refine ⟨?_, ?_⟩
  · rw [hwrites, h.writes_eq]
    rfl
  · rw [hreads, h.reads_eq]
    rfl

end Device

/-! ## Runs that stay with the repository -/

/-- Events in which the device stays with its repository, whatever went before. -/
def ServedOn (repo : PdrRepository) (evs : List Event) : Prop :=
  ∀ before, repo.Served before → repo.Served (before ++ evs)

section Served

variable {repo : PdrRepository}

theorem ServedOn.append {evs evs' : List Event} (h : ServedOn repo evs) (h' : ServedOn repo evs') :
    ServedOn repo (evs ++ evs') := by
  intro before hbefore
  rw [← List.append_assoc]
  exact h' _ (h _ hbefore)

/-- An exchange whose response, if there is one, is the answer to its request. -/
theorem servedOn_exchangeEvents {bs : Bytes} {ok : Bool} {answer : Option Frame}
    {ret idBefore idAfter : UInt8} (h : ∀ f, answer = some f → repo.Answers bs f) :
    ServedOn repo (exchangeEvents bs ok [.read answer] ret idBefore idAfter) := by
  intro before hbefore pre bs' ok' f post heq
  rw [exchangeEvents, List.append_eq_append_iff] at heq
  rcases heq with ⟨mid, -, hmid⟩ | ⟨mid, rfl, hmid⟩
  · rcases mid with _ | ⟨a, _ | ⟨b, _ | ⟨c, mid⟩⟩⟩
    · obtain ⟨hw, hr, -⟩ : _ ∧ _ ∧ _ := by simpa using hmid
      rw [← hw.1]
      exact h f hr
    · simp at hmid
    · simp at hmid
    · simp at hmid
  · rcases mid with _ | ⟨a, _ | ⟨b, mid⟩⟩
    · obtain ⟨hw, hr, -⟩ : _ ∧ _ ∧ _ := by simpa using hmid
      rw [hw.1]
      exact h f hr.symm
    · simp at hmid
    · obtain ⟨rfl, rfl, -⟩ : Event.write bs' ok' = a ∧ Event.read (some f) = b ∧ _ := by
        simpa using hmid
      exact hbefore pre bs' ok' f mid rfl

/-! ## The parts of a record -/

variable {past after : List RepositoryRecord} {r : RepositoryRecord} {parts : List PdrPart}
  {s : Pldm}

/-- A run between two records, with the parts that the device is going to send. -/
structure Serving (repo : PdrRepository) (past todo : List RepositoryRecord)
    (parts : List PdrPart) (s : Pldm) : Prop extends AtRecord repo past todo s where
  instanceID_le : s.instanceID ≤ pldmInstanceIdMax
  bus : AnswersWith s parts

/-- A record is asked for with its first part. -/
theorem AtRecord.answer (h : AtRecord repo past (r :: after) s) :
    repo.answer s.pf.pfPdrReq = some (r.firstPart after) := by
  rw [PdrRepository.answer, h.handle_eq (List.cons_ne_nil _ _)]
  dsimp only
  rw [RepositoryRecord.part, if_pos h.transferOpFlag_eq]
  rfl

/-- The first part of a record arrives. -/
theorem Serving.first (h : Serving repo past (r :: after) (r.firstPart after :: parts) s) :
    Accepts s (r.firstPart after).frameBytes ∧
      (pdrRespPayload (s.received (r.firstPart after).frameBytes)).transferFlag =
        (if r.rest = [] then pldmStartAndEnd else pldmStart) ∧
      (pdrRespPayload (s.received (r.firstPart after).frameBytes)).nextRecordHandle =
        nextRecordHandle after ∧
      ∀ bs, pdrRequest bs = s.pf.pfPdrReq →
        repo.Answers bs (s.received (r.firstPart after).frameBytes) := by
  have hheld := (r.firstPart after).held_received s r.first_fits
  have hresp := (pdrRespPayload_of_holds hheld).1
  refine ⟨h.bus.accepts r.first_fits, ?_, ?_, fun bs hbs => ?_⟩
  · rw [hresp]
    rfl
  · rw [hresp]
    rfl
  · rw [PdrRepository.Answers, hbs, h.answer]
    exact hheld

/-- A record in one part is read in one turn. -/
theorem Serving.single (h : Serving repo past (r :: after) (r.firstPart after :: parts) s)
    (hsingle : r.rest = []) (fuel i : Nat) : ∃ t evs,
      pfGetTotalPdrsTurn (fuel + 1) i () s = (.ret (.inr ()), t) ∧ t.trace = s.trace ++ evs ∧
        ServedOn repo evs ∧ Serving repo (past ++ [r]) after parts t := by
  obtain ⟨hacc, hflag, -, hanswers⟩ := h.first
  obtain ⟨w, bs, hbs, hend, -⟩ := pdrTurn_of_accepts h.instanceID_le hacc
  rw [if_pos hsingle] at hflag
  have hlast : EndsRecord (pdrRespPayload (s.received (r.firstPart after).frameBytes)).transferFlag :=
    .inr hflag
  have hturn := hend hlast
  have hat := (h.position.answered (.inl hsingle) hbs (hanswers bs hbs)).1 hlast
  refine ⟨_, _, (bind_of_ret (loop_succ_of_leave hturn)).trans rfl, rfl,
    servedOn_exchangeEvents fun f hf => ?_, hat _ rfl, endId_le (.ret pldmSuccess) h.instanceID_le,
    h.bus.rest rfl rfl⟩
  rw [← Option.some.inj hf]
  exact hanswers bs hbs

/-- A refused exchange ends its turn. -/
theorem pdrTurn_of_error {t : Pldm} (h : pfExchange pldmGetPdr getPdrSize s = (.ret pldmError, t)) :
    pfMonCtrlTurn pldmGetPdr getPdrSize () s = (.ret (.inr pldmError), t) := by
  rw [pfMonCtrlTurn, bind_of_ret h, if_pos (by decide)]
  rfl

/-- **A record in several parts.** The request for the second part names what the handle of the next
record leads to. -/
theorem Serving.multi (h : Serving repo past (r :: after) [r.firstPart after] s)
    (hmulti : r.rest ≠ []) (hlead : repo.fromHandle (nextRecordHandle after) ≠ r :: after)
    (fuel i : Nat) : ∃ t evs, pfGetTotalPdrsTurn (fuel + 2) i () s = (.ret (.inl pldmError), t) ∧
      t.trace = s.trace ++ evs ∧ ServedOn repo evs ∧
        ∀ before, ¬repo.AsksOwnRecord (before ++ evs) := by
  obtain ⟨hacc, hflag, hnext, hanswers⟩ := h.first
  obtain ⟨w, bs, hbs, -, hmore⟩ := pdrTurn_of_accepts h.instanceID_le hacc
  rw [if_neg hmulti] at hflag
  have hturn := hmore (by rw [hflag]; exact not_endsRecord_start)
  generalize hu : ({ s.afterPart w bs (r.firstPart after).frameBytes with
    pf := (s.afterPart w bs (r.firstPart after).frameBytes).pf.nextPart } : Pldm) = u at hturn
  have hbus : AnswersWith u [] := by
    rw [← hu]
    exact h.bus.rest rfl rfl
  have hidu : u.instanceID ≤ pldmInstanceIdMax := by
    rw [← hu]
    exact endId_le (.ret pldmSuccess) h.instanceID_le
  obtain ⟨bs', t, hbs', hexchange, htrace⟩ := pfExchange_unanswered hidu (by rw [hbus.writes_eq]; rfl)
    (by rw [hbus.reads_eq]; rfl)
  have hloop : pfMonCtrlCmd (fuel + 2) pldmGetPdr getPdrSize s = (.ret pldmError, t) :=
    (loop_succ_of_turn hturn).trans (loop_succ_of_leave (pdrTurn_of_error hexchange))
  have htrace' : u.trace = s.trace ++ exchangeEvents bs true
      [.read (some (s.received (r.firstPart after).frameBytes))] pldmSuccess s.instanceID
        (wrapId s.instanceID + 1) := by
    rw [← hu]
    rfl
  refine ⟨t, _, (bind_of_ret hloop).trans rfl, by rw [htrace, htrace', List.append_assoc], ?_, ?_⟩
  · refine ServedOn.append (servedOn_exchangeEvents fun f hf => ?_)
      (servedOn_exchangeEvents fun f hf => ?_)
    · rw [← Option.some.inj hf]
      exact hanswers bs hbs
    · cases hf
  · intro before hasks
    rw [← List.append_assoc] at hasks
    have hfirst : (pdrRequest bs).transferOpFlag = pldmGetFirstPart := by
      rw [hbs]
      exact h.transferOpFlag_eq
    have hsecond : pdrRequest bs' = u.pf.pfPdrReq := hbs'
    rw [← hu] at hsecond
    have hown := hasks _ bs' true _ rfl (by rw [hsecond]; rfl)
    rw [exchangeEvents, PdrRepository.current_request (by simp [Event.isWrite]), if_pos hfirst, hbs,
      h.handle_eq (List.cons_ne_nil _ _), hsecond] at hown
    refine hlead (Eq.trans ?_ hown)
    exact congrArg repo.fromHandle hnext.symm

/-! ## The repository -/

/-- Records in one part are read one after the other. -/
theorem Serving.singles {before : List RepositoryRecord} (fuel : Nat) (is : List Nat)
    (h : Serving repo before (past ++ r :: after) (firstParts (r :: after) past ++ parts) s)
    (hsingle : ∀ p ∈ past, p.rest = []) (his : is.length = past.length) : ∃ t evs,
      forEach (pfGetTotalPdrsTurn (fuel + 1)) is () s = (.ret (.inr ()), t) ∧
        t.trace = s.trace ++ evs ∧ ServedOn repo evs ∧
        Serving repo (before ++ past) (r :: after) parts t := by
  induction past generalizing before is s with
  | nil =>
    obtain rfl : is = [] := List.eq_nil_of_length_eq_zero his
    refine ⟨s, [], rfl, (List.append_nil _).symm, fun before hbefore => ?_, ?_⟩
    · rwa [List.append_nil]
    · rw [List.append_nil]
      exact h
  | cons p past ih =>
    obtain ⟨i, is, rfl⟩ := List.exists_cons_of_length_eq_add_one his
    obtain ⟨u, evs, hturn, htrace, hserved, hu⟩ := Serving.single h (hsingle p (by simp)) fuel i
    obtain ⟨t, evs', hrun, htrace', hserved', ht⟩ := ih is hu
      (fun q hq => hsingle q (by simp [hq])) (by simpa using his)
    refine ⟨t, evs ++ evs', (forEach_cons_of_next hturn).trans hrun, ?_, hserved.append hserved', ?_⟩
    · rw [htrace', htrace, List.append_assoc]
    · rwa [List.append_assoc] at ht

/-- A `pldm` object that knows of `count` records, on a bus whose device answers with `parts`. -/
def askingDevice (count : Nat) (parts : List PdrPart) : Pldm :=
  let start := Pldm.init (parts.map (fun part => some part.frameBytes) ++ₛ Stream'.const none)
    (Stream'.const true)
  { start with pf := { start.pf with pfPdrRepoInfo :=
    { start.pf.pfPdrRepoInfo with recordCount := UInt32.ofNat count } } }

theorem instanceID_askingDevice (count : Nat) (parts : List PdrPart) :
    (askingDevice count parts).instanceID ≤ pldmInstanceIdMax :=
  show (1 : UInt8) ≤ pldmInstanceIdMax by decide

theorem recordCount_askingDevice {count : Nat} (h : count < 2 ^ 32) (parts : List PdrPart) :
    (askingDevice count parts).pf.pfPdrRepoInfo.recordCount.toNat = count := by
  change (UInt32.ofNat count).toNat = count
  rw [UInt32.toNat_ofNat']
  exact Nat.mod_eq_of_lt h

/-- **A repository with a record in several parts** behind some in one part: a run whose device
answers as the repository says asks for a part of another record. -/
theorem pfGetTotalPdrs_strays (hrecords : repo.records = past ++ r :: after)
    (hsingle : ∀ p ∈ past, p.rest = []) (hmulti : r.rest ≠ [])
    (hlead : repo.fromHandle (nextRecordHandle after) ≠ r :: after) : ∃ s t evs,
      s.instanceID ≤ pldmInstanceIdMax ∧
        s.pf.pfPdrRepoInfo.recordCount.toNat = repo.records.length ∧
        pfGetTotalPdrs 2 s = (.ret pldmError, t) ∧ t.trace = s.trace ++ evs ∧ repo.Served evs ∧
        ¬repo.AsksOwnRecord evs := by
  let parts := firstParts (r :: after) past ++ [r.firstPart after]
  let s := askingDevice repo.records.length parts
  let u : Pldm := { s with pf := s.pf.fetchStart }
  have hid := instanceID_askingDevice repo.records.length parts
  have hcount := recordCount_askingDevice repo.count_lt parts
  have hstart : Serving repo [] (past ++ r :: after) parts u := by
    rw [← hrecords]
    exact ⟨atRecord_fetchStart repo s, hid, rfl, rfl⟩
  have hrange : List.range repo.records.length = List.range past.length ++
      past.length :: (List.range after.length).map fun i => past.length + (i + 1) := by
    rw [hrecords, List.length_append, List.length_cons, List.range_add, List.range_succ_eq_map]
    simp
  obtain ⟨v, evs, hrun, htrace, hserved, hv⟩ := Serving.singles 1 (List.range past.length) hstart
    hsingle (by simp)
  obtain ⟨t, evs', hturn, htrace', hserved', hstray⟩ := Serving.multi hv hmulti hlead 0 past.length
  refine ⟨s, t, evs ++ evs', hid, hcount, ?_, ?_, ?_, hstray evs⟩
  · rw [pfGetTotalPdrs_apply, hcount, hrange]
    exact (bind_of_ret ((forEach_append_of_done hrun).trans (forEach_cons_of_leave hturn))).trans rfl
  · rw [htrace', htrace, List.append_assoc]
  · have hnone : repo.Served [] := fun pre _ _ _ _ heq => by simp at heq
    exact (hserved.append hserved') [] hnone

/-! ## When every record is fetched -/

/-- With more than one record the handle behind a record leads elsewhere. -/
theorem fromHandle_next_ne (hrecords : repo.records = past ++ r :: after)
    (hlength : repo.records.length ≠ 1) :
    repo.fromHandle (nextRecordHandle after) ≠ r :: after := by
  intro hlead
  cases after with
  | nil =>
    have hall : repo.records = [r] := hlead
    rw [hall] at hlength
    exact hlength rfl
  | cons r' after =>
    have hown : repo.fromHandle r'.recordHandle = r' :: after := by
      refine @PdrRepository.fromHandle_recordHandle repo (past ++ [r]) _ _ ?_
      rw [hrecords, List.append_assoc]
      rfl
    have heq : r' :: after = r :: r' :: after := hown.symm.trans hlead
    exact absurd (congrArg List.length heq) (by simp)

/-- A single record, and records in one part, are read throughout. -/
theorem keepsRecord_of (h : repo.records.length = 1 ∨ ∀ r ∈ repo.records, r.rest = []) :
    repo.KeepsRecord := by
  intro past r after hrecords
  rcases h with hone | hsingle
  · right
    have hlength := congrArg List.length hrecords
    rw [hone, List.length_append, List.length_cons] at hlength
    obtain rfl : past = [] := List.eq_nil_of_length_eq_zero (by omega)
    obtain rfl : after = [] := List.eq_nil_of_length_eq_zero (by omega)
    exact hrecords
  · left
    exact hsingle r (by simp [hrecords])

/-- The first record in several parts. -/
theorem exists_first_multi (h : ¬∀ r ∈ repo.records, r.rest = []) : ∃ past r after,
    repo.records = past ++ r :: after ∧ (∀ p ∈ past, p.rest = []) ∧ r.rest ≠ [] := by
  obtain ⟨r, hr⟩ : ∃ r, repo.records.find? (fun r => !r.rest.isEmpty) = some r := by
    rw [← Option.isSome_iff_exists, List.find?_isSome]
    simpa using h
  obtain ⟨hmulti, past, after, hrecords, hpast⟩ := List.find?_eq_some_iff_append.mp hr
  exact ⟨past, r, after, hrecords, by simpa using hpast, by simpa using hmulti⟩

/-- A run that succeeds against the repository leaves its records, and no request for a next part
names another record than the one being read. -/
def FetchesRepository (repo : PdrRepository) : Prop :=
  ∀ s fuel o t evs, s.instanceID ≤ pldmInstanceIdMax →
    s.pf.pfPdrRepoInfo.recordCount.toNat = repo.records.length →
    pfGetTotalPdrs fuel s = (o, t) → t.trace = s.trace ++ evs → repo.Served evs →
      (o = .ret pldmSuccess → t.pf.mPdrs = repo.records.map RepositoryRecord.data) ∧
        repo.AsksOwnRecord evs

/-- **When the repository is fetched.** It has one record, whose handle 0 still names it, or all its
records come in one part. -/
theorem pfGetTotalPdrs_fetches_iff (repo : PdrRepository) : FetchesRepository repo ↔
    repo.records.length = 1 ∨ ∀ r ∈ repo.records, r.rest = [] := by
  constructor
  · intro h
    by_contra hcond
    obtain ⟨hlength, hmany⟩ := not_or.mp hcond
    obtain ⟨past, r, after, hrecords, hsingle, hmulti⟩ := exists_first_multi hmany
    obtain ⟨s, t, evs, hid, hcount, hrun, htrace, hserved, hstray⟩ :=
      pfGetTotalPdrs_strays hrecords hsingle hmulti (fromHandle_next_ne hrecords hlength)
    exact hstray (h s 2 _ t evs hid hcount hrun htrace hserved).2
  · intro hcond s fuel o t evs hid hcount hrun htrace hserved
    have hfetched := pfGetTotalPdrs_fetched fuel hid hcount (keepsRecord_of hcond)
    rw [wp_of_eq hrun] at hfetched
    obtain ⟨evs', htrace', hgood⟩ := hfetched
    obtain rfl : evs = evs' := List.append_cancel_left (htrace.symm.trans htrace')
    obtain ⟨hasks, hdata⟩ := hgood hserved
    exact ⟨hdata, hasks⟩

end Served

/-- Two records, the first in two parts. -/
def twoRecords : PdrRepository where
  records := [
    { recordHandle := 1, first := List.replicate 10 0, rest := [(1, [7])], handles_nodup := by decide
      first_fits := by decide, rest_fits := by decide, size_le := by decide },
    { recordHandle := 2, first := List.replicate 10 0, rest := [], handles_nodup := by decide
      first_fits := by decide, rest_fits := by decide, size_le := by decide }]
  handle_ne := by decide
  handles_nodup := by decide
  count_lt := by decide

theorem twoRecords_not_fetched : ¬FetchesRepository twoRecords := by
  intro h
  obtain ⟨s, t, evs, hid, hcount, hrun, htrace, hserved, hstray⟩ :=
    @pfGetTotalPdrs_strays twoRecords [] _ _ rfl (by simp) (by simp)
      (@fromHandle_next_ne _ [] _ _ rfl (by decide))
  exact hstray (h s 2 _ t evs hid hcount hrun htrace hserved).2

end XpuManager
