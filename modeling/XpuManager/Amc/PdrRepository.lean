import Mathlib.Data.List.Induction
import XpuManager.Amc.Platform

/-! # The device's PDR repository

The repository as the device serves it, in its own terms: records under handles, each in one part or
in several, and the answer to a GetPDR request. What a run has asked for and received is read off
its trace. -/

namespace XpuManager

/-! ## Looking up by key -/

/-- In a list without repeated keys a key leads to its element. -/
theorem dropWhile_key {α β : Type} [DecidableEq β] {key : α → β} {past rest : List α} {a : α}
    (h : ((past ++ a :: rest).map key).Nodup) :
    (past ++ a :: rest).dropWhile (fun b => key b ≠ key a) = a :: rest := by
  rw [List.map_append, List.nodup_append] at h
  rw [List.dropWhile_append_of_pos, List.dropWhile_cons_of_neg (by simp)]
  intro b hb
  have hne := h.2.2 (key b) (List.mem_map_of_mem hb) (key a) (List.mem_map_of_mem List.mem_cons_self)
  simpa using hne

/-! ## Records and parts -/

/-- The record data that fits into one response. -/
abbrev pdrPartMax : Nat := 105

/-- A record of the repository: its first part, and the other parts with the handles under which
they are asked for. -/
structure RepositoryRecord where
  recordHandle : UInt32
  first : Bytes
  rest : List (UInt32 × Bytes)
  handles_nodup : (rest.map Prod.fst).Nodup
  first_fits : first.length ≤ pdrPartMax
  rest_fits : ∀ part ∈ rest, part.2.length ≤ pdrPartMax
  size_le : pdrPayloadHeaderSize ≤ (first ++ rest.flatMap Prod.snd).length

/-- The whole record. -/
def RepositoryRecord.data (r : RepositoryRecord) : Bytes := r.first ++ r.rest.flatMap Prod.snd

/-- A repository; the handle 0 stands for its first record. -/
structure PdrRepository where
  records : List RepositoryRecord
  handle_ne : ∀ r ∈ records, r.recordHandle ≠ 0
  handles_nodup : (records.map RepositoryRecord.recordHandle).Nodup
  count_lt : records.length < 2 ^ 32

/-- The part of a record in a response. -/
structure PdrPart where
  nextRecordHandle : UInt32
  nextDataTransferHandle : UInt32
  transferFlag : UInt8
  data : Bytes

/-- The handle of the first of some records, 0 if there is none. -/
def nextRecordHandle : List RepositoryRecord → UInt32
  | [] => 0
  | r :: _ => r.recordHandle

/-- The handle of the first of some parts, 0 if there is none. -/
def nextTransferHandle : List (UInt32 × Bytes) → UInt32
  | [] => 0
  | part :: _ => part.1

/-- The part of a record that is asked for, `after` being the records behind it. -/
def RepositoryRecord.part (r : RepositoryRecord) (after : List RepositoryRecord)
    (req : PdrReqPayload) : Option PdrPart :=
  if req.transferOpFlag = pldmGetFirstPart then
    some ⟨nextRecordHandle after, nextTransferHandle r.rest,
      if r.rest = [] then pldmStartAndEnd else pldmStart, r.first⟩
  else
    match r.rest.dropWhile fun part => part.1 ≠ req.dataTransferHandle with
    | [] => none
    | part :: todo => some ⟨nextRecordHandle after, nextTransferHandle todo,
        if todo = [] then pldmEnd else pldmMiddle, part.2⟩

namespace PdrRepository

variable (repo : PdrRepository)

/-- The records from a handle on. -/
def fromHandle (handle : UInt32) : List RepositoryRecord :=
  if handle = 0 then repo.records
  else repo.records.dropWhile fun r => r.recordHandle ≠ handle

/-- The answer to a GetPDR request; none if it names no part. -/
def answer (req : PdrReqPayload) : Option PdrPart :=
  match repo.fromHandle req.recordHandle with
  | [] => none
  | r :: after => r.part after req

/-- The handle of a record leads to it. -/
theorem fromHandle_recordHandle {past after : List RepositoryRecord} {r : RepositoryRecord}
    (h : repo.records = past ++ r :: after) : repo.fromHandle r.recordHandle = r :: after := by
  have hne : r.recordHandle ≠ 0 := repo.handle_ne r (by rw [h]; simp)
  have hnodup := repo.handles_nodup
  rw [h] at hnodup
  rw [fromHandle, if_neg hne, h]
  exact dropWhile_key hnodup

end PdrRepository

/-- The handle of a part leads to it. -/
theorem RepositoryRecord.dropWhile_handle {r : RepositoryRecord} {past todo : List (UInt32 × Bytes)}
    {part : UInt32 × Bytes} (h : r.rest = past ++ part :: todo) :
    (r.rest.dropWhile fun p => p.1 ≠ part.1) = part :: todo := by
  have hnodup := r.handles_nodup
  rw [h] at hnodup ⊢
  exact dropWhile_key hnodup

/-! ## On the wire -/

/-- The GetPDR request in the bytes handed to the bus. -/
def pdrRequest (bs : Bytes) : PdrReqPayload where
  recordHandle := UInt32.ofNat (ofLeBytes ((wirePayload bs).take 4))
  dataTransferHandle := UInt32.ofNat (ofLeBytes (((wirePayload bs).drop 4).take 4))
  transferOpFlag := (wirePayload bs).getD 8 0
  requestCount := UInt16.ofNat (ofLeBytes (((wirePayload bs).drop 9).take 2))
  recordChangeNumber := UInt16.ofNat (ofLeBytes (((wirePayload bs).drop 11).take 2))

/-- The payload of the response that carries a part. -/
def PdrPart.bytes (part : PdrPart) : Bytes :=
  pldmSuccess :: leBytes 4 part.nextRecordHandle.toNat ++ leBytes 4 part.nextDataTransferHandle.toNat
    ++ part.transferFlag :: leBytes 2 part.data.length ++ part.data

/-- The frame holds the part as its payload. -/
def PdrPart.HeldBy (part : PdrPart) (f : Frame) : Prop :=
  f.slice payloadStart part.bytes.length = part.bytes

/-- The frame is the repository's response to a request; a request for no part is refused. -/
def PdrRepository.Answers (repo : PdrRepository) (bs : Bytes) (f : Frame) : Prop :=
  match repo.answer (pdrRequest bs) with
  | some part => part.HeldBy f
  | none => f.respPayload 0 ≠ pldmSuccess

/-- Every response among the events is the repository's. -/
def PdrRepository.Served (repo : PdrRepository) (evs : List Event) : Prop :=
  ∀ pre bs ok f post, evs = pre ++ .write bs ok :: .read (some f) :: post → repo.Answers bs f

/-- The record being read after some events, and those behind it: what the last request for a first
part names. -/
def PdrRepository.current (repo : PdrRepository) (evs : List Event) : List RepositoryRecord :=
  evs.foldl (fun cur e => match e with
    | .write bs _ => if (pdrRequest bs).transferOpFlag = pldmGetFirstPart then
        repo.fromHandle (pdrRequest bs).recordHandle else cur
    | _ => cur) []

/-- Every request for a next part names the record being read. -/
def PdrRepository.AsksOwnRecord (repo : PdrRepository) (evs : List Event) : Prop :=
  ∀ pre bs ok post, evs = pre ++ .write bs ok :: post →
    (pdrRequest bs).transferOpFlag = pldmGetNextPart →
      repo.fromHandle (pdrRequest bs).recordHandle = repo.current pre

section History

variable {repo : PdrRepository} {evs rest : List Event} {bs : Bytes} {ok : Bool}

/-- What a repository served in full it served at first. -/
theorem PdrRepository.Served.left {evs' : List Event} (h : repo.Served (evs ++ evs')) :
    repo.Served evs :=
  fun pre bs ok f post heq => h pre bs ok f (post ++ evs') (by rw [heq]; simp)

/-- Only requests move on to another record. -/
theorem PdrRepository.current_append_quiet (hrest : ∀ e ∈ rest, e.isWrite = false) :
    repo.current (evs ++ rest) = repo.current evs := by
  induction rest using List.reverseRecOn with
  | nil => rw [List.append_nil]
  | append_singleton rest e ih =>
    rw [← ih fun e he => hrest e (by simp [he]), ← List.append_assoc, current, List.foldl_append]
    have he : e.isWrite = false := hrest e (by simp)
    cases e with
    | write => cases he
    | _ => rfl

/-- A request for a first part chooses the record that is read. -/
theorem PdrRepository.current_request (hrest : ∀ e ∈ rest, e.isWrite = false) :
    repo.current (evs ++ .write bs ok :: rest) =
      if (pdrRequest bs).transferOpFlag = pldmGetFirstPart then
        repo.fromHandle (pdrRequest bs).recordHandle else repo.current evs := by
  rw [List.append_cons, current_append_quiet hrest, current, List.foldl_append]
  rfl

/-- Another event keeps the requests in order, if it is no request for a part of another record. -/
theorem PdrRepository.AsksOwnRecord.snoc {e : Event} (h : repo.AsksOwnRecord evs)
    (he : ∀ bs ok, e = .write bs ok → (pdrRequest bs).transferOpFlag = pldmGetNextPart →
      repo.fromHandle (pdrRequest bs).recordHandle = repo.current evs) :
    repo.AsksOwnRecord (evs ++ [e]) := by
  intro pre bs ok post heq hnext
  rcases List.eq_nil_or_concat post with rfl | ⟨post, last, rfl⟩
  · obtain ⟨rfl, hlast⟩ := List.append_inj' heq rfl
    exact he bs ok (by simpa using hlast) hnext
  · have hinit : evs = pre ++ .write bs ok :: post := by
      have hconcat : evs ++ [e] = (pre ++ .write bs ok :: post) ++ [last] := by rw [heq]; simp
      exact (List.append_inj' hconcat rfl).1
    exact h pre bs ok post hinit hnext

/-- A request for a part of the record being read, and what follows on it. -/
theorem PdrRepository.AsksOwnRecord.request (h : repo.AsksOwnRecord evs)
    (hown : (pdrRequest bs).transferOpFlag = pldmGetNextPart →
      repo.fromHandle (pdrRequest bs).recordHandle = repo.current evs)
    (hrest : ∀ e ∈ rest, e.isWrite = false) :
    repo.AsksOwnRecord (evs ++ .write bs ok :: rest) := by
  induction rest using List.reverseRecOn with
  | nil =>
    refine h.snoc fun bs' ok' heq hnext => ?_
    obtain ⟨rfl, -⟩ := Event.write.inj heq
    exact hown hnext
  | append_singleton rest e ih =>
    have hinit := ih fun e he => hrest e (by simp [he])
    have hquiet : e.isWrite = false := hrest e (by simp)
    rw [← List.cons_append, ← List.append_assoc]
    refine hinit.snoc fun bs' ok' heq => ?_
    rw [heq] at hquiet
    cases hquiet

end History

/-- A part of a list between two others. -/
theorem take_drop_middle {α : Type} {l x y z : List α} {i k : Nat} (h : l = x ++ (y ++ z))
    (hi : x.length = i) (hk : y.length = k) : (l.drop i).take k = y := by
  rw [h, List.drop_left' hi, List.take_left' hk]

/-- A request is read back from its bytes. -/
theorem pdrRequest_of_bytes {bs : Bytes} {req : PdrReqPayload}
    (h : (wirePayload bs).take 13 = req.bytes) : pdrRequest bs = req := by
  obtain ⟨record, transfer, flag, count, change⟩ := req
  have hp : wirePayload bs = leBytes 4 record.toNat ++ (leBytes 4 transfer.toNat ++
      (flag :: (leBytes 2 count.toNat ++ (leBytes 2 change.toNat ++ (wirePayload bs).drop 13)))) := by
    conv_lhs => rw [← List.take_append_drop 13 (wirePayload bs), h]
    simp [PdrReqPayload.bytes]
  rw [pdrRequest, PdrReqPayload.mk.injEq]
  refine ⟨?_, ?_, ?_, ?_, ?_⟩
  · rw [hp, List.take_left' (length_leBytes _ _), uint32_ofLeBytes]
  · rw [take_drop_middle hp (length_leBytes _ _) (length_leBytes _ _), uint32_ofLeBytes]
  · rw [hp]
    simp [leBytes]
  · rw [take_drop_middle (x := leBytes 4 record.toNat ++ leBytes 4 transfer.toNat ++ [flag])
      (by simpa using hp) (by simp) (length_leBytes _ _), uint16_ofLeBytes]
  · rw [take_drop_middle (x := leBytes 4 record.toNat ++ leBytes 4 transfer.toNat ++ flag ::
      leBytes 2 count.toNat) (by simpa using hp) (by simp) (length_leBytes _ _), uint16_ofLeBytes]

theorem PdrPart.length_bytes (part : PdrPart) : part.bytes.length = 12 + part.data.length := by
  simp only [PdrPart.bytes, List.length_append, List.length_cons, length_leBytes]

theorem PdrPart.toNat_count (part : PdrPart) (h : part.data.length ≤ pdrPartMax) :
    (UInt16.ofNat part.data.length).toNat = part.data.length := by
  rw [UInt16.toNat_ofNat']
  exact Nat.mod_eq_of_lt (Nat.lt_of_le_of_lt h (by decide))

/-- **What the code reads out of a part.** -/
theorem pdrRespPayload_of_holds {part : PdrPart} {f : Frame} (h : part.HeldBy f) :
    pdrRespPayload f = ⟨pldmSuccess, part.nextRecordHandle, part.nextDataTransferHandle,
      part.transferFlag, UInt16.ofNat part.data.length⟩ ∧
      f.slice (payloadStart + 12) part.data.length = part.data := by
  have hlen := part.length_bytes
  have hslice (i k : Nat) (hik : i + k ≤ 12 + part.data.length) :
      f.slice (payloadStart + i) k = (part.bytes.drop i).take k := by
    rw [← h]
    exact (Buf.take_drop_slice (by omega)).symm
  have hbyte (i : Nat) (hi : i < 12) : f.respPayload i = part.bytes.getD i 0 := by
    rw [← h, Buf.getD_slice, if_pos (by omega), Frame.respPayload]
  have hbytes : part.bytes = [pldmSuccess] ++ (leBytes 4 part.nextRecordHandle.toNat ++
      (leBytes 4 part.nextDataTransferHandle.toNat ++
        (part.transferFlag :: (leBytes 2 part.data.length ++ (part.data ++ []))))) := by
    simp [PdrPart.bytes]
  constructor
  · rw [pdrRespPayload, PdrRespPayload.mk.injEq]
    refine ⟨?_, ?_, ?_, ?_, ?_⟩
    · rw [hbyte 0 (by decide), hbytes]
      rfl
    · rw [Frame.field, hslice 1 4 (by omega),
        take_drop_middle (x := [pldmSuccess]) hbytes (by simp) (length_leBytes _ _), uint32_ofLeBytes]
    · rw [Frame.field, hslice 5 4 (by omega), take_drop_middle
        (x := [pldmSuccess] ++ leBytes 4 part.nextRecordHandle.toNat) (by simpa using hbytes)
        (by simp) (length_leBytes _ _), uint32_ofLeBytes]
    · rw [hbyte 9 (by decide), hbytes]
      simp [leBytes]
    · rw [Frame.field, hslice 10 2 (by omega), take_drop_middle
        (x := [pldmSuccess] ++ leBytes 4 part.nextRecordHandle.toNat ++
          leBytes 4 part.nextDataTransferHandle.toNat ++ [part.transferFlag])
        (by simpa using hbytes) (by simp) (length_leBytes _ _), ofLeBytes_leBytes]
      exact UInt16.toNat_inj.mp (by simp)
  · rw [hslice 12 _ (by omega)]
    exact take_drop_middle (z := []) (x := [pldmSuccess] ++ leBytes 4 part.nextRecordHandle.toNat ++
      leBytes 4 part.nextDataTransferHandle.toNat ++ part.transferFlag ::
        leBytes 2 part.data.length) (by simpa using hbytes) (by simp) rfl

end XpuManager
