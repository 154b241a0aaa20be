import XpuManager.Amc.Device

/-! # One request and its response

Every command of a `pldm` object, whatever its family, runs the same exchange: wrap the instance
ID, build the request, hand it to the bus, take the response, and count the ID up when all of that
succeeded. -/

namespace XpuManager

open Prog

/-! ## The exchange -/

/-- `m() != PLDM_SUCCESS` answered with `PLDM_ERROR`. -/
def orError (m : Prog Pldm UInt8) : Prog Pldm UInt8 := do
  let ret ← m
  pure (if ret = pldmSuccess then pldmSuccess else pldmError)

/-- Run `m`, and `k` after it only when `m` succeeded. -/
abbrev andThen (m k : Prog Pldm UInt8) : Prog Pldm UInt8 := chain pldmSuccess m k

theorem within_orError {R : Pldm → Pldm → Prop} [Std.Refl R] [IsTrans Pldm R]
    {m : Prog Pldm UInt8} (h : Within R m) : Within R (orError m) :=
  Within.bind h fun _ => Within.pure _

/-- A step that cannot fail, as a status. -/
def succeeding (m : Prog Pldm Unit) : Prog Pldm UInt8 := do
  m
  pure pldmSuccess

/-- `instanceID` starts over at 1 when it has reached `PLDM_INSTANCE_ID_MAX`. -/
def wrapId (id : UInt8) : UInt8 := if id = pldmInstanceIdMax then 1 else id

theorem wrapId_le {id : UInt8} (h : id ≤ pldmInstanceIdMax) : wrapId id ≤ pldmInstanceIdMax := by
  unfold wrapId
  split
  · decide
  · exact h

/-- The instance ID starts again after its maximum. -/
def wrapInstanceID : Prog Pldm Unit := Prog.modify fun s => { s with instanceID := wrapId s.instanceID }

/-- `instanceID++`. -/
def nextInstanceID : Prog Pldm Unit := Prog.modify fun s => { s with instanceID := s.instanceID + 1 }

/-- Hand the request to the bus. -/
def sendRequest (len : Pldm → UInt8) : Prog Pldm UInt8 := do
  let s ← Prog.get
  let ok ← writeAmc (len s).toNat
  pure (if ok then pldmSuccess else pldmError)

/-- Read one frame into the read buffer. -/
def receive : Prog Pldm UInt8 := do
  let ok ← readAmc
  pure (if ok then pldmSuccess else pldmError)

/-- The body of an exchange: build the request, send it, take the response, count the ID up. -/
def exchangeBody (prep : UInt8 → Prog Pldm UInt8) (len : Pldm → UInt8)
    (recv : UInt8 → Prog Pldm UInt8) : Prog Pldm UInt8 := do
  wrapInstanceID
  let s ← Prog.get
  andThen (prep s.instanceID) <| andThen (sendRequest len) <|
    andThen (recv s.instanceID) <| succeeding nextInstanceID

/-- One request and its response. `prep` builds the request for an instance ID, `len` is the number
of bytes sent, `recv` takes the response to that instance ID; all report a status. -/
def exchange (cmdType cmd : UInt8) (prep : UInt8 → Prog Pldm UInt8) (len : Pldm → UInt8)
    (recv : UInt8 → Prog Pldm UInt8) : Prog Pldm UInt8 := do
  let before ← Prog.get
  let ret ← exchangeBody prep len recv
  let after ← Prog.get
  emit (.exchange cmdType cmd ret before.instanceID after.instanceID)
  pure ret

/-- The state in which the request of an exchange is built. -/
def Pldm.wrapped (s : Pldm) : Pldm := { s with instanceID := wrapId s.instanceID }

/-- The write of a request, with the check of its length. -/
theorem sendRequest_apply (len : Pldm → UInt8) (s : Pldm) :
    sendRequest len s =
      if (len s).toNat < frameSize then
        (.ret (if s.writes.head then pldmSuccess else pldmError), s.afterWrite (len s).toNat)
      else (.fault, s) := by
  simp only [sendRequest, writeAmc, emit, Prog.bind_assoc, get_bind_apply, Prog.ite_bind,
    Prog.ite_apply, modify_bind_apply, Prog.pure_bind, fault_bind]
  rfl

/-- A status that comes from a result. -/
theorem receive_apply (s : Pldm) :
    receive s = match s.reads.head with
      | none => (.ret pldmError, s.afterFailedRead)
      | some bs => (.ret pldmSuccess, s.afterRead bs) := by
  rcases h : s.reads.head with _ | bs
  · rw [receive, bind_of_ret (readAmc_of_none h)]
    rfl
  · rw [receive, bind_of_ret (readAmc_of_some h)]
    rfl

section Exchange

variable {cmdType cmd ret : UInt8} {prep recv : UInt8 → Prog Pldm UInt8} {len : Pldm → UInt8}
  {s t t₁ : Pldm}

/-- The outcome of an exchange is that of its body. -/
theorem exchange_fst :
    (exchange cmdType cmd prep len recv s).1 = (exchangeBody prep len recv s).1 := by
  rw [exchange, get_bind_apply]
  rcases h : exchangeBody prep len recv s with ⟨r | _ | _, t'⟩
  · rw [bind_of_ret h]
    rfl
  · rw [bind_of_fault h]
  · rw [bind_of_cut h]

/-- The event that closes an exchange takes no write answers. -/
theorem exchange_writes :
    (exchange cmdType cmd prep len recv s).2.writes = (exchangeBody prep len recv s).2.writes := by
  rw [exchange, get_bind_apply]
  rcases h : exchangeBody prep len recv s with ⟨r | _ | _, t'⟩
  · rw [bind_of_ret h]
    rfl
  · rw [bind_of_fault h]
  · rw [bind_of_cut h]

/-- The body of an exchange: prepare, send, receive, and count a success. -/
theorem exchangeBody_apply : exchangeBody prep len recv s =
    andThen (prep s.wrapped.instanceID) (andThen (sendRequest len)
      (andThen (recv s.wrapped.instanceID) (succeeding nextInstanceID))) s.wrapped := rfl

/-- **What an exchange is, once its request is built.** -/
theorem exchangeBody_of_prep (h : prep s.wrapped.instanceID s.wrapped = (.ret pldmSuccess, t₁)) :
    exchangeBody prep len recv s =
      if (len t₁).toNat < frameSize then
        if t₁.writes.head then
          andThen (recv s.wrapped.instanceID) (succeeding nextInstanceID)
            (t₁.afterWrite (len t₁).toNat)
        else (.ret pldmError, t₁.afterWrite (len t₁).toNat)
      else (.fault, t₁) := by
  have hbody : exchangeBody prep len recv s =
      andThen (sendRequest len) (andThen (recv s.wrapped.instanceID) (succeeding nextInstanceID))
        t₁ := bind_of_ret h
  rw [hbody]
  by_cases hlen : (len t₁).toNat < frameSize
  · rw [if_pos hlen]
    have hsend : sendRequest len t₁ = (.ret (if t₁.writes.head then pldmSuccess else pldmError),
        t₁.afterWrite (len t₁).toNat) := by rw [sendRequest_apply, if_pos hlen]
    rw [andThen, chain, bind_of_ret hsend]
    cases t₁.writes.head <;> rfl
  · rw [if_neg hlen]
    have hsend : sendRequest len t₁ = (.fault, t₁) := by rw [sendRequest_apply, if_neg hlen]
    exact bind_of_fault hsend

/-- An exchange reports the status of its body. -/
theorem exchange_eq_ret_iff :
    exchange cmdType cmd prep len recv s = (.ret ret, t) ↔
      ∃ t', exchangeBody prep len recv s = (.ret ret, t') ∧
        t = { t' with trace := t'.trace ++
                [.exchange cmdType cmd ret s.instanceID t'.instanceID] } := by
  rw [exchange, get_bind_apply, bind_eq_ret_iff]
  constructor
  · rintro ⟨a, t', hb, h⟩
    obtain ⟨rfl, rfl⟩ : a = ret ∧ _ = t := by simpa [emit] using h
    exact ⟨t', hb, rfl⟩
  · rintro ⟨t', hb, rfl⟩
    exact ⟨ret, t', hb, by simp [emit]⟩

/-- **Inversion of a successful exchange.** The request was built and sent, its response accepted,
and the instance ID counted up. -/
theorem exchangeBody_success (h : exchangeBody prep len recv s = (.ret pldmSuccess, t)) :
    ∃ t₁ t₂, prep s.wrapped.instanceID s.wrapped = (.ret pldmSuccess, t₁) ∧
      (len t₁).toNat < frameSize ∧ t₁.writes.head = true ∧
      recv s.wrapped.instanceID (t₁.afterWrite (len t₁).toNat) = (.ret pldmSuccess, t₂) ∧
      t = { t₂ with instanceID := t₂.instanceID + 1 } := by
  have hbody := h
  rw [exchangeBody_apply] at hbody
  obtain ⟨t₁, hprep, -⟩ | ⟨hne, -⟩ := chain_eq_ret_iff.mp hbody
  case inr => exact absurd rfl hne
  rw [exchangeBody_of_prep hprep] at h
  split at h
  case isFalse => simp at h
  case isTrue hlen =>
    split at h
    case isFalse => simp at h
    case isTrue hw =>
      obtain ⟨t₂, hrecv, hnext⟩ | ⟨hne, -⟩ := chain_eq_ret_iff.mp h
      case inr => exact absurd rfl hne
      refine ⟨t₁, t₂, hprep, hlen, hw, hrecv, ?_⟩
      simpa [succeeding, nextInstanceID, eq_comm] using hnext

end Exchange

/-! ## Relations an exchange keeps -/

section WithinExchange

variable {R : Pldm → Pldm → Prop}

/-- Handing a request to the bus changes the write answers and the trace. -/
theorem within_sendRequest [Std.Refl R] (hbus : ∀ s writes tr, R s { s with writes, trace := tr })
    (len : Pldm → UInt8) : Within R (sendRequest len) := by
  intro s
  rw [sendRequest_apply]
  split
  · exact hbus s _ _
  · exact Std.Refl.refl s

/-- Reading a frame changes the read answers, the read frame and the trace. -/
theorem within_receive (hbus : ∀ s reads tr f, R s { s with reads, trace := tr, mI2cPldmRead := f }) :
    Within R receive := by
  intro s
  rw [receive_apply]
  split
  · exact hbus s _ _ _
  · exact hbus s _ _ _

/-- A relation that building the request, taking the response and the bus itself keep is kept by
the exchange. -/
theorem within_exchange [Std.Refl R] [IsTrans Pldm R] {cmdType cmd : UInt8}
    {prep recv : UInt8 → Prog Pldm UInt8} {len : Pldm → UInt8}
    (hbus : ∀ s writes tr id, R s { s with writes, trace := tr, instanceID := id })
    (hprep : ∀ id, Within R (prep id)) (hrecv : ∀ id, Within R (recv id)) :
    Within R (exchange cmdType cmd prep len recv) := by
  have hsend := within_sendRequest (R := R) (fun s writes tr => hbus s writes tr s.instanceID) len
  have hnext : Within R (succeeding nextInstanceID) :=
    Within.bind (fun s => hbus s s.writes s.trace _) fun _ => Within.pure _
  refine Within.bind Within.get fun before => Within.bind ?_ fun ret => Within.bind Within.get
    fun after => Within.bind (fun s => hbus s s.writes _ s.instanceID) fun _ => Within.pure _
  refine Within.bind (fun s => hbus s s.writes s.trace _) fun _ => Within.bind Within.get fun s => ?_
  refine Within.bind (hprep _) fun _ => Within.ite (Within.bind hsend fun _ => ?_) (Within.pure _)
  exact Within.ite (Within.bind (hrecv _) fun _ => Within.ite hnext (Within.pure _)) (Within.pure _)

end WithinExchange

/-! ## What any run of an exchange leaves behind -/

/-- The event is something that came in: a read, or a message assembled from reads. -/
def Event.isReceived : Event → Bool
  | .read _ => true
  | .message _ => true
  | _ => false

/-- The event is a write. -/
def Event.isWrite : Event → Bool
  | .write _ _ => true
  | _ => false

/-- A step that at most takes answers from the bus. -/
structure Receives (s t : Pldm) : Prop where
  instanceID : t.instanceID = s.instanceID
  writes : t.writes = s.writes
  reads : ∃ reads, t.trace = s.trace ++ reads ∧ ∀ e ∈ reads, e.isReceived = true

/-- A step that changes neither trace, instance ID nor write answers. -/
theorem Receives.of_eq {s t : Pldm} (htrace : t.trace = s.trace)
    (hid : t.instanceID = s.instanceID) (hwrites : t.writes = s.writes) : Receives s t :=
  ⟨hid, hwrites, [], by rw [htrace, List.append_nil], by simp⟩

instance : Std.Refl Receives := ⟨fun _ => .of_eq rfl rfl rfl⟩

instance : IsTrans Pldm Receives where
  trans s t u h h' := by
    obtain ⟨evs, ht, hevs⟩ := h.reads
    obtain ⟨evs', hu, hevs'⟩ := h'.reads
    refine ⟨h'.instanceID.trans h.instanceID, h'.writes.trans h.writes, evs ++ evs', ?_, ?_⟩
    · rw [hu, ht, List.append_assoc]
    · intro e he
      rcases List.mem_append.mp he with he | he
      · exact hevs e he
      · exact hevs' e he

theorem receives_readInto (buf : Frame) : Within Receives (readInto buf) :=
  fun s => ⟨rfl, rfl, [.read _], rfl, by simp [Event.isReceived]⟩

theorem receives_readAmc : Within Receives readAmc := by
  refine Within.bind Within.get fun s => Within.bind (receives_readInto _) fun answer => ?_
  cases answer with
  | none => exact Within.pure _
  | some frame =>
    exact Within.bind (fun _ => .of_eq rfl rfl rfl) fun _ => Within.pure _

theorem receives_receive : Within Receives receive :=
  Within.bind receives_readAmc fun _ => Within.pure _

/-- The instance ID an exchange that started with `id` leaves when it ends with `o`. -/
def endId (o : Outcome UInt8) (id : UInt8) : UInt8 :=
  match o with
  | .ret r => if r = pldmSuccess then wrapId id + 1 else wrapId id
  | _ => wrapId id

/-- An exchange keeps the instance ID within its limit. -/
theorem endId_le (o : Outcome UInt8) {id : UInt8} (h : id ≤ pldmInstanceIdMax) :
    endId o id ≤ pldmInstanceIdMax := by
  have hwrap := wrapId_le h
  rcases o with r | _ | _
  · rw [endId]
    split
    case isTrue =>
      have hne : wrapId id ≠ pldmInstanceIdMax := by
        unfold wrapId
        split
        · decide
        · assumption
      have hle : (wrapId id).toNat ≤ 32 := UInt8.le_iff_toNat_le.mp hwrap
      have hne' : (wrapId id).toNat ≠ 32 := fun hc => hne (UInt8.toNat_inj.mp hc)
      rw [UInt8.le_iff_toNat_le, UInt8.toNat_add]
      exact show ((wrapId id).toNat + 1) % 256 ≤ 32 by omega
    case isFalse => exact hwrap
  · exact hwrap
  · exact hwrap

/-- The event that closes an exchange that returned. -/
def closing (cmdType cmd : UInt8) (o : Outcome UInt8) (id : UInt8) : List Event :=
  match o with
  | .ret r => [.exchange cmdType cmd r id (endId o id)]
  | _ => []

/-- What an exchange puts on the bus: nothing when the request could not be built, which `Built`
excludes, otherwise one request with the property `P`, whose write ends with `ok`, which is `true`
if the exchange succeeds, and reads. -/
inductive BusEvents (Built : Prop) (P : Bytes → Prop) (ok : Bool) (o : Outcome UInt8) :
    List Event → Prop where
  | unbuilt : o ≠ .ret pldmSuccess → ¬Built → BusEvents Built P ok o []
  | sent {bs : Bytes} {reads : List Event} : P bs → (o = .ret pldmSuccess → ok = true) →
      (∀ e ∈ reads, e.isReceived = true) → BusEvents Built P ok o (.write bs ok :: reads)

/-- What any run of an exchange from `s` leaves behind, ending with `o` in `t`, when every request
it may send has the property `P`. -/
structure ExchangeRun (cmdType cmd : UInt8) (Built : Prop) (P : Bytes → Prop) (s : Pldm)
    (o : Outcome UInt8) (t : Pldm) : Prop where
  instanceID : t.instanceID = endId o s.instanceID
  trace : ∃ bus, BusEvents Built P s.writes.head o bus ∧
    t.trace = s.trace ++ bus ++ closing cmdType cmd o s.instanceID

section ExchangeRun

variable {cmdType cmd : UInt8} {prep recv : UInt8 → Prog Pldm UInt8} {len : Pldm → UInt8}
  {Built : Prop} {P : Bytes → Prop} {s : Pldm}

/-- The body of an exchange, up to the event that closes it. -/
theorem exchangeBody_run (hprep : ∀ id, Within Fills (prep id))
    (hsent : ∀ t, prep s.wrapped.instanceID s.wrapped = (.ret pldmSuccess, t) →
      P (t.mI2cPldmWrite.slice 1 (len t).toNat))
    (hbuilt : Built → ∃ t, prep s.wrapped.instanceID s.wrapped = (.ret pldmSuccess, t) ∧
      (len t).toNat < frameSize)
    (hrecv : ∀ id, Within Receives (recv id)) :
    wp (exchangeBody prep len recv) (fun o t => t.instanceID = endId o s.instanceID ∧
      ∃ bus, BusEvents Built P s.writes.head o bus ∧ t.trace = s.trace ++ bus) s := by
  have hfills := hprep s.wrapped.instanceID s.wrapped
  have hnot (h : ∀ t, prep s.wrapped.instanceID s.wrapped ≠ (.ret pldmSuccess, t)) : ¬Built := by
    intro hb
    obtain ⟨t, ht, -⟩ := hbuilt hb
    exact h t ht
  rcases hp : prep s.wrapped.instanceID s.wrapped with ⟨r | _ | _, t₁⟩
  · rw [hp] at hfills
    have htr₁ : t₁.trace = s.trace := hfills.trace
    have hid₁ : t₁.instanceID = wrapId s.instanceID := hfills.instanceID
    have hw₁ : t₁.writes = s.writes := hfills.writes
    by_cases hr : r = pldmSuccess
    · subst hr
      have hbytes := hsent t₁ hp
      rw [wp, exchangeBody_of_prep hp]
      split
      case isFalse hlen =>
        have hnot : ¬Built := fun h => by
          obtain ⟨t, ht, hlt⟩ := hbuilt h
          obtain rfl : t₁ = t := by simpa [hp] using ht
          exact hlen hlt
        exact ⟨hid₁, [], .unbuilt (by simp) hnot, by simp [htr₁]⟩
      split
      case isFalse =>
        refine ⟨hid₁, [.write _ s.writes.head], .sent hbytes ?_ (by simp), ?_⟩
        · simp
        · simp [Pldm.afterWrite, htr₁, hw₁]
      case isTrue hok =>
        have hr := hrecv s.wrapped.instanceID (t₁.afterWrite (len t₁).toNat)
        rcases hq : recv s.wrapped.instanceID (t₁.afterWrite (len t₁).toNat) with ⟨q | _ | _, t₂⟩
        all_goals
          rw [hq] at hr
          obtain ⟨reads, htr, hreads⟩ := hr.reads
          have hid : t₂.instanceID = wrapId s.instanceID := hr.instanceID.trans hid₁
          have htrace : t₂.trace = s.trace ++
              (.write (t₁.mI2cPldmWrite.slice 1 (len t₁).toNat) s.writes.head :: reads) := by
            rw [htr, Pldm.afterWrite, htr₁, hw₁]
            simp
          have hbus (o : Outcome UInt8) :
              BusEvents Built P s.writes.head o (.write _ s.writes.head :: reads) :=
            .sent hbytes (fun _ => by rw [← hw₁, hok]) hreads
        · rw [andThen, chain, bind_of_ret hq, Prog.ite_apply]
          split
          case isTrue hq0 =>
            exact ⟨by simp [succeeding, nextInstanceID, endId, hid], _, hbus _, htrace⟩
          case isFalse hq0 =>
            exact ⟨by simp [endId, hq0, hid], _, hbus _, htrace⟩
        · rw [andThen, chain, bind_of_fault hq]
          exact ⟨hid, _, hbus _, htrace⟩
        · rw [andThen, chain, bind_of_cut hq]
          exact ⟨hid, _, hbus _, htrace⟩
    · have hbody : exchangeBody prep len recv s = (.ret r, t₁) := by
        rw [exchangeBody_apply, andThen, chain, bind_of_ret hp, if_neg hr, pure_apply]
      rw [wp_of_eq hbody]
      exact ⟨by simp [endId, hr, hid₁], [], .unbuilt (by simp [hr]) (hnot (by simp [hp, hr])),
        by simp [htr₁]⟩
  · rw [hp] at hfills
    have hbody : exchangeBody prep len recv s = (.fault, t₁) := by
      rw [exchangeBody_apply, andThen, chain, bind_of_fault hp]
    have htr₁ : t₁.trace = s.trace := hfills.trace
    rw [wp_of_eq hbody]
    exact ⟨hfills.instanceID, [], .unbuilt (by simp) (hnot (by simp [hp])), by simp [htr₁]⟩
  · rw [hp] at hfills
    have hbody : exchangeBody prep len recv s = (.cut, t₁) := by
      rw [exchangeBody_apply, andThen, chain, bind_of_cut hp]
    have htr₁ : t₁.trace = s.trace := hfills.trace
    rw [wp_of_eq hbody]
    exact ⟨hfills.instanceID, [], .unbuilt (by simp) (hnot (by simp [hp])), by simp [htr₁]⟩

/-- **The run lemma of the exchange.** Whatever the family and however the run ends, the exchange
sends at most one request, built for the wrapped instance ID, and counts up exactly on success. -/
theorem exchange_run (hprep : ∀ id, Within Fills (prep id))
    (hsent : ∀ t, prep s.wrapped.instanceID s.wrapped = (.ret pldmSuccess, t) →
      P (t.mI2cPldmWrite.slice 1 (len t).toNat))
    (hbuilt : Built → ∃ t, prep s.wrapped.instanceID s.wrapped = (.ret pldmSuccess, t) ∧
      (len t).toNat < frameSize)
    (hrecv : ∀ id, Within Receives (recv id)) :
    wp (exchange cmdType cmd prep len recv) (ExchangeRun cmdType cmd Built P s) s := by
  rw [exchange, wp_get_bind]
  refine wp_bind_of (exchangeBody_run hprep hsent hbuilt hrecv) ?_ ?_ ?_
  · rintro r t ⟨hid, bus, hbus, ht⟩
    refine ⟨hid, bus, hbus, ?_⟩
    simp [emit, closing, ht, hid]
  · rintro t ⟨hid, bus, hbus, ht⟩
    exact ⟨hid, bus, hbus, by simp [closing, ht]⟩
  · rintro t ⟨hid, bus, hbus, ht⟩
    exact ⟨hid, bus, hbus, by simp [closing, ht]⟩

end ExchangeRun

/-! ## Requests of a given length -/

/-- The request a command of `size` bytes puts on the bus for the instance ID `id`. -/
def RequestOf (cmdType cmd id size : UInt8) (bs : Bytes) : Prop :=
  ∃ f : Frame, bs = f.slice 1 size.toNat ∧ RequestHeader cmdType cmd id f

/-- Build the headers, whatever their status, and then the payload. -/
def headersThen (cmdType cmd size id : UInt8) (fill : Prog Pldm UInt8) : Prog Pldm UInt8 := do
  let _ ← requestHeaders cmdType cmd size id
  fill

/-- Receive one frame and take the response out of it; any failure is `PLDM_ERROR`. -/
def receiveThen (resp : Prog Pldm UInt8) : Prog Pldm UInt8 := andThen receive (orError resp)

/-- A step that leaves the bus, the trace and the instance ID alone. -/
structure Quiet (s t : Pldm) : Prop where
  trace : t.trace = s.trace
  instanceID : t.instanceID = s.instanceID
  writes : t.writes = s.writes

instance : Std.Refl Quiet := ⟨fun _ => ⟨rfl, rfl, rfl⟩⟩

instance : IsTrans Pldm Quiet where
  trans _ _ _ h h' := ⟨h'.trace.trans h.trace, h'.instanceID.trans h.instanceID,
    h'.writes.trans h.writes⟩

theorem Quiet.receives {s t : Pldm} (h : Quiet s t) : Receives s t :=
  .of_eq h.trace h.instanceID h.writes

/-- A status that was turned into `PLDM_ERROR` unless it was success. -/
theorem orError_eq_success_iff {m : Prog Pldm UInt8} {s t : Pldm} :
    orError m s = (.ret pldmSuccess, t) ↔ m s = (.ret pldmSuccess, t) := by
  rw [orError, bind_eq_ret_iff]
  constructor
  · rintro ⟨r, u, hm, hr⟩
    split at hr
    case isTrue hr0 =>
      obtain rfl : u = t := (Prod.mk.inj hr).2
      exact hr0 ▸ hm
    case isFalse => simp at hr
  · exact fun hm => ⟨pldmSuccess, t, hm, rfl⟩

theorem receives_receiveThen {resp : Prog Pldm UInt8} (h : Within Quiet resp) :
    Within Receives (receiveThen resp) :=
  Within.bind receives_receive fun _ => Within.ite
    (within_orError (h.mono fun _ _ => Quiet.receives)) (Within.pure _)

/-- **A response that was accepted.** A frame was delivered, and the response taken out of it. -/
theorem receiveThen_success {resp : Prog Pldm UInt8} {s t : Pldm}
    (h : receiveThen resp s = (.ret pldmSuccess, t)) :
    ∃ bs, s.reads.head = some bs ∧ resp (s.afterRead bs) = (.ret pldmSuccess, t) := by
  obtain ⟨u, hread, hresp⟩ | ⟨hne, -⟩ := chain_eq_ret_iff.mp h
  case inr => exact absurd rfl hne
  rw [receive_apply] at hread
  split at hread
  case h_1 => simp at hread
  case h_2 bs hbs =>
    obtain ⟨-, rfl⟩ := Prod.mk.inj hread
    exact ⟨bs, hbs, orError_eq_success_iff.mp hresp⟩

theorem fills_headersThen {cmdType cmd size id : UInt8} {fill : Prog Pldm UInt8}
    (h : Within OnlyPayload fill) : Within Fills (headersThen cmdType cmd size id fill) :=
  Within.bind (fills_of_onlyFrame (onlyFrame_messageHeaders _ _ _ _ _)) fun _ =>
    fills_of_onlyFrame (h.mono fun _ _ => And.left)

/-- **The header of a request.** Filling the payload keeps it. -/
theorem header_of_headersThen {cmdType cmd size id : UInt8} {fill : Prog Pldm UInt8} {s : Pldm}
    (hid : id ≤ pldmInstanceIdMax) (htype : cmdType < pldmTypesMax) (h : Within OnlyPayload fill) :
    RequestHeader cmdType cmd id (headersThen cmdType cmd size id fill s).2.mI2cPldmWrite := by
  obtain ⟨t, ht, hdr⟩ := messageHeaders_returns cmdType cmd size id pldmRequest s hid htype
  rw [headersThen, bind_of_ret ht]
  exact hdr.of_keeps (h t).2

/-- **The run lemma of the commands that build their headers first.** -/
theorem headersThen_run {cmdType cmd size : UInt8} {fill : Prog Pldm UInt8}
    {recv : UInt8 → Prog Pldm UInt8} {s : Pldm} (hid : s.instanceID ≤ pldmInstanceIdMax)
    (htype : cmdType < pldmTypesMax) (hfill : Within OnlyPayload fill)
    (hrecv : ∀ id, Within Receives (recv id)) :
    wp (exchange cmdType cmd (fun id => headersThen cmdType cmd size id fill) (fun _ => size) recv)
      (ExchangeRun cmdType cmd False (RequestOf cmdType cmd (wrapId s.instanceID) size) s) s := by
  refine exchange_run (fun id => fills_headersThen hfill) ?_ False.elim hrecv
  intro t ht
  have hdr := @header_of_headersThen cmdType cmd size _ fill s.wrapped (wrapId_le hid) htype hfill
  rw [show headersThen cmdType cmd size (wrapId s.instanceID) fill s.wrapped = (.ret pldmSuccess, t)
    from ht] at hdr
  exact ⟨t.mI2cPldmWrite, rfl, hdr⟩

/-! ## The check most responses go through -/

/-- The address fields are set and the completion code is checked; command code, request bit and
instance ID of the response are not. -/
def responsePayload : Prog Pldm UInt8 := do
  setDestSlaveAddr
  let s ← Prog.get
  pure (if s.mI2cPldmRead.respPayload 0 ≠ pldmSuccess then pldmError else pldmSuccess)

theorem quiet_responsePayload : Within Quiet responsePayload :=
  Within.bind (fun _ => ⟨rfl, rfl, rfl⟩) fun _ => Within.bind Within.get fun _ => Within.pure _

/-- Setting the address fields changes no byte of the payload. -/
theorem respPayload_setByte_zero (f : Frame) (v : UInt8) (i : Nat) :
    Frame.respPayload (f.setByte 0 v) i = f.respPayload i :=
  Buf.byte_setByte_of_ne (show 0 ≠ 12 + i by omega)

theorem responsePayload_apply (s : Pldm) : responsePayload s =
    (.ret (if s.mI2cPldmRead.respPayload 0 ≠ pldmSuccess then pldmError else pldmSuccess),
      { s with mI2cPldmRead := s.mI2cPldmRead.withDestSlaveAddr }) := by
  rw [← respPayload_setByte_zero s.mI2cPldmRead (mctpSrcSlaveAddr * 2 + mctpSrcSlaveAddrB0) 0]
  rfl

/-- A response that passes the check has the completion code zero. -/
theorem responsePayload_success {s t : Pldm} (h : responsePayload s = (.ret pldmSuccess, t)) :
    s.mI2cPldmRead.respPayload 0 = pldmSuccess := by
  rw [responsePayload_apply] at h
  by_contra hc
  rw [if_pos hc] at h
  exact absurd (Outcome.ret.inj (Prod.mk.inj h).1) (by decide)

/-- Nor does what comes behind the check succeed without it. -/
theorem andThen_responsePayload_success {k : Prog Pldm UInt8} {s t : Pldm}
    (h : andThen responsePayload k s = (.ret pldmSuccess, t)) :
    s.mI2cPldmRead.respPayload 0 = pldmSuccess := by
  obtain ⟨u, hpay, -⟩ | ⟨hne, -⟩ := chain_eq_ret_iff.mp h
  · exact responsePayload_success hpay
  · exact absurd rfl hne

end XpuManager
