import XpuManager.Amc.Fragmentation

/-! # Streams of packets that do not end

`rxMultiPartData` has no limit on the number of packets. A device that answers every read can keep it
busy for ever. -/

namespace XpuManager

open Prog Reassembly

/-- The answers of a device that delivers packets, from some packet on. -/
def readsFrom (packets : Nat → Bytes) (n : Nat) : Stream' (Option Bytes) :=
  fun k => some (packets (n + k))

/-- The frame that a packet is read into. -/
def frameAt (packets : Nat → Bytes) (n : Nat) : Frame := freshFrame (packets n)

/-- The packets as fragments. -/
def fragmentAt (packets : Nat → Bytes) (n : Nat) : Fragment UInt8 := (frameAt packets n).fragment

/-- A packet that is taken behind those before it: it has the command code, and is a first packet or
the one to come, with room for it in the message. -/
structure Accepted (packets : Nat → Bytes) (n : Nat) : Prop where
  packet : (frameAt packets n).IsPacket
  due : Due 4 maxAssembledFrameBytes (fragmentAt packets) n

/-- A packet with which the receiver comes to an end: those before it are taken, none of them ends the
message, and it does, or it is not taken. None that is taken counts bytes past the local frame. -/
structure EndsAt (packets : Nat → Bytes) (n : Nat) : Prop where
  before : ∀ k < n, Accepted packets k ∧ (frameAt packets k).eom ≠ pldmEomBitOn ∧
    (frameAt packets k).StaysInside
  last : Accepted packets n → (frameAt packets n).eom = pldmEomBitOn ∧ (frameAt packets n).StaysInside

/-- The loop in front of a packet. -/
structure AtPacket (packets : Nat → Bytes) (n : Nat) (b : RxLocals) (s : Pldm) : Prop where
  reads : s.reads = readsFrom packets n
  held : Held 4 (fragmentAt packets) n (assembly b s)

section Turns

variable {packets : Nat → Bytes} {n : Nat} {b : RxLocals} {s : Pldm}

/-- A device that answers every read delivers its packets one by one. -/
theorem deliver_readsFrom (packets : Nat → Bytes) (n : Nat) :
    deliver maxNumRetries (readsFrom packets n) =
      (some (frameAt packets n), readsFrom packets (n + 1)) := by
  refine Prod.ext rfl ?_
  funext k
  change some (packets (n + (k + 1))) = some (packets (n + 1 + k))
  rw [Nat.add_comm k 1, Nat.add_assoc]

theorem AtPacket.takes_iff (h : AtPacket packets n b s) :
    (∃ a, Takes (assembly b s) (frameAt packets n) a) ↔ Accepted packets n := by
  constructor
  · rintro ⟨a, hpacket, haccept⟩
    exact ⟨hpacket, (accept_iff_due h.held).mp ⟨a, haccept⟩⟩
  · rintro ⟨hpacket, hdue⟩
    obtain ⟨a, haccept⟩ := (accept_iff_due h.held).mpr hdue
    exact ⟨a, hpacket, haccept⟩

/-- **Turn lemma.** One turn leaves the loop, goes on to the next packet, or reads past the frame. -/
theorem rxTurn_at (h : AtPacket packets n b s) :
    (∃ code t, rxTurn b s = (.ret (.inr code), t) ∧ (Accepted packets n →
      (frameAt packets n).eom = pldmEomBitOn ∧ (frameAt packets n).StaysInside)) ∨
    (∃ b' t, rxTurn b s = (.ret (.inl b'), t) ∧ AtPacket packets (n + 1) b' t ∧
      Accepted packets n ∧ (frameAt packets n).eom ≠ pldmEomBitOn ∧
        (frameAt packets n).StaysInside) ∨
    (∃ t, rxTurn b s = (.fault, t) ∧ Accepted packets n ∧ ¬(frameAt packets n).StaysInside) := by
  have hdeliver : deliver maxNumRetries s.reads =
      (some (frameAt packets n), readsFrom packets (n + 1)) := by
    rw [h.reads, deliver_readsFrom]
  have hframe {f : Frame} (hf : (deliver maxNumRetries s.reads).1 = some f) :
      frameAt packets n = f := by
    rw [hdeliver] at hf
    exact Option.some.inj hf
  rcases hturn : rxTurn b s with ⟨o, t⟩
  have hstep := rxTurn_step b s
  rw [hturn] at hstep
  cases hstep with
  | silent hf =>
    rw [hdeliver] at hf
    cases hf
  | refused hf hno =>
    obtain rfl := hframe hf
    refine .inl ⟨_, t, rfl, fun hacc => ?_⟩
    obtain ⟨a, ha⟩ := h.takes_iff.mpr hacc
    exact absurd ha (hno a)
  | overrun hf htakes hover =>
    obtain rfl := hframe hf
    exact .inr (.inr ⟨t, rfl, h.takes_iff.mp ⟨_, htakes⟩, hover⟩)
  | last hf htakes hin heom hbuf =>
    obtain rfl := hframe hf
    exact .inl ⟨_, t, rfl, fun _ => ⟨heom, hin⟩⟩
  | more hf htakes hin heom hasm hreads =>
    obtain rfl := hframe hf
    refine .inr (.inl ⟨_, t, rfl, ⟨?_, ?_⟩, h.takes_iff.mp ⟨_, htakes⟩, heom, hin⟩)
    · rw [hreads, hdeliver]
    · rw [hasm]
      exact h.held.succ htakes.2

/-- The loop comes to the packet with which it ends. -/
theorem loop_rxTurn_of_endsAt {last : Nat} (hends : EndsAt packets last) (hle : n ≤ last)
    (h : AtPacket packets n b s) : ∃ code t,
      Prog.loop rxTurn (last - n + 1) b s = (.ret code, t) := by
  obtain ⟨k, rfl⟩ := Nat.exists_eq_add_of_le hle
  rw [Nat.add_sub_cancel_left]
  induction k generalizing n b s with
  | zero =>
    rcases rxTurn_at h with ⟨code, t, hturn, -⟩ | ⟨b', t, -, -, hacc, heom, -⟩ | ⟨t, -, hacc, hover⟩
    · exact ⟨code, t, loop_succ_of_leave hturn⟩
    · exact absurd (hends.last hacc).1 heom
    · exact absurd (hends.last hacc).2 hover
  | succ k ih =>
    obtain ⟨hacc, heom, hin⟩ := hends.before n (by omega)
    rcases rxTurn_at h with ⟨code, t, hturn, hlast⟩ | ⟨b', t, hturn, hat, -⟩ | ⟨t, -, -, hover⟩
    · exact absurd (hlast hacc).1 heom
    · have hnext : n + (k + 1) = n + 1 + k := by omega
      rw [hnext] at hends hle
      rw [loop_succ_of_turn hturn]
      exact ih hat hends (by omega)
    · exact absurd hin hover

/-- A loop that ends does so at a packet behind those it has gone on from. -/
theorem endsAt_of_loop {fuel : Nat} {code : UInt8} {t : Pldm} (h : AtPacket packets n b s)
    (hbefore : ∀ k < n, Accepted packets k ∧ (frameAt packets k).eom ≠ pldmEomBitOn ∧
      (frameAt packets k).StaysInside)
    (hloop : Prog.loop rxTurn fuel b s = (.ret code, t)) : ∃ last, EndsAt packets last := by
  induction fuel generalizing n b s with
  | zero => cases hloop
  | succ fuel ih =>
    rcases rxTurn_at h with ⟨_, u, hturn, hlast⟩ | ⟨b', u, hturn, hat, hgood⟩ | ⟨u, hturn, -⟩
    · exact ⟨n, hbefore, hlast⟩
    · rw [loop_succ_of_turn hturn] at hloop
      refine ih hat (fun k hk => ?_) hloop
      rcases Nat.lt_succ_iff_lt_or_eq.mp hk with hk | rfl
      · exact hbefore k hk
      · exact hgood
    · rw [loop_succ_of_fault hturn] at hloop
      cases hloop

end Turns

/-! ## The receiver -/

/-- Behind the loop the receiver returns. -/
theorem rxMultiPartData_returns_of_loop {fuel : Nat} {s u : Pldm} {code : UInt8}
    (h : Prog.loop rxTurn fuel ⟨0, false⟩ s.cleared = (.ret code, u)) :
    ∃ code t, rxMultiPartData fuel s = (.ret code, t) := by
  rw [rxMultiPartData_apply, andThen, chain, bind_of_ret h, Prog.ite_apply]
  split
  · rw [rxFinish_apply]
    split
    · exact ⟨_, _, rfl⟩
    · exact ⟨_, _, rfl⟩
  · exact ⟨_, _, rfl⟩

theorem atPacket_cleared (packets : Nat → Bytes) (s : Pldm) :
    AtPacket packets 0 ⟨0, false⟩ { s with reads := readsFrom packets 0 }.cleared :=
  ⟨rfl, held_empty⟩

theorem endsAt_of_returns {fuel : Nat} {s t : Pldm} {packets : Nat → Bytes} {code : UInt8}
    (h : rxMultiPartData fuel { s with reads := readsFrom packets 0 } = (.ret code, t)) :
    ∃ n, EndsAt packets n := by
  rw [rxMultiPartData_apply, andThen, chain] at h
  obtain ⟨code', u, hloop, -⟩ := bind_eq_ret_iff.mp h
  exact endsAt_of_loop (atPacket_cleared packets s) (fun k hk => absurd hk (Nat.not_lt_zero k)) hloop

/-- **When the receiver returns.** From every object and for every stream of packets that are read
successfully: it returns exactly if there is a packet with which it comes to an end. -/
theorem rxMultiPartData_returns_iff (s : Pldm) (packets : Nat → Bytes) :
    (∃ fuel code t, rxMultiPartData fuel { s with reads := readsFrom packets 0 } = (.ret code, t)) ↔
      ∃ n, EndsAt packets n := by
  constructor
  · rintro ⟨fuel, code, t, h⟩
    exact endsAt_of_returns h
  · rintro ⟨n, hends⟩
    obtain ⟨code, u, hloop⟩ :=
      loop_rxTurn_of_endsAt hends (Nat.zero_le n) (atPacket_cleared packets s)
    obtain ⟨code', t, h⟩ := rxMultiPartData_returns_of_loop hloop
    exact ⟨_, code', t, h⟩

/-- **Streams without an end.** If every packet is taken and none ends the message, first packets come
again and again, or from some packet on all are continuations without contents. -/
theorem endless_packets {packets : Nat → Bytes} (h : ∀ n, Accepted packets n) :
    (∀ n, ∃ k, n ≤ k ∧ (frameAt packets k).som = pldmSomBitOn) ∨
      ∃ n, ∀ k, n ≤ k → (frameAt packets k).som ≠ pldmSomBitOn ∧
        (frameAt packets k).byteCount.toNat = mctpContinuationTailAdjust := by
  rcases endless_kinds fun n => (h n).due with hsom | ⟨n, hlater⟩
  · left
    intro n
    obtain ⟨k, hk, hsom⟩ := hsom n
    exact ⟨k, hk, beq_iff_eq.mp hsom⟩
  · right
    refine ⟨n, fun k hk => ?_⟩
    obtain ⟨hsom, hbody⟩ := hlater k hk
    have hne : (frameAt packets k).som ≠ pldmSomBitOn := beq_eq_false_iff_ne.mp hsom
    refine ⟨hne, ?_⟩
    have hle := (h k).packet.2 hne
    have hlength := congrArg List.length hbody
    rw [fragmentAt, Frame.fragment, if_neg hne, Buf.length_slice, List.length_nil] at hlength
    omega

/-! ## Devices that do not end -/

/-- A first packet, again and again. -/
def restarts : Nat → Bytes := fun _ => samplePacket.bytes true false 0

theorem restarts_accepted (n : Nat) : Accepted restarts n := by
  have hframe : fragmentAt restarts n = _ := samplePacket.fragment_frame_first false 0
  refine ⟨samplePacket.isPacket_frame true false 0, ?_, fun hsom => ?_⟩
  · rw [size_of_som (by rw [hframe]), hframe]
    decide
  · rw [hframe] at hsom
    cases hsom

/-- A device that sends a first packet again and again keeps the receiver of a new object busy for
ever. -/
theorem rxMultiPartData_endless :
    ¬∀ (s : Pldm) (packets : Nat → Bytes), ∃ fuel code t,
      rxMultiPartData fuel { s with reads := readsFrom packets 0 } = (.ret code, t) := by
  intro hall
  obtain ⟨fuel, code, t, h⟩ := hall (Pldm.init (Stream'.const none) (Stream'.const true)) restarts
  obtain ⟨n, hends⟩ := endsAt_of_returns h
  have heom := (hends.last (restarts_accepted n)).1
  rw [show (frameAt restarts n).eom = _ from samplePacket.eom_frame true false 0] at heom
  exact absurd heom (by decide)

end XpuManager
