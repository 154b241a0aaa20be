import XpuManager.Amc.RxMultiPart

/-! # The packets of a device

What `rxMultiPartData` makes of the packets a device sends. -/

namespace XpuManager

open Prog Reassembly

/-! ## Whole loops -/

/-- **Run lemma.** Packets that make up a message, each inside its frame, leave that message. -/
theorem loop_rxTurn_assembles {frames : List Frame} {b : RxLocals} {s : Pldm} {buf : Bytes}
    {fuel : Nat} (hdeliver : Delivers s.reads frames)
    (hpacket : ∀ f ∈ frames, f.IsPacket ∧ f.StaysInside)
    (hbuf : assemble 4 maxAssembledFrameBytes (assembly b s) (frames.map Frame.fragment) = some buf)
    (hfuel : frames.length ≤ fuel) :
    ∃ t, Prog.loop rxTurn fuel b s = (.ret pldmSuccess, t) ∧ t.ft.mRxAssembledFrame = buf := by
  induction frames generalizing b s fuel with
  | nil => cases hbuf
  | cons f frames ih =>
    obtain ⟨hf, hrest⟩ := hdeliver
    obtain ⟨a, haccept, hend⟩ := assemble_cons_eq_some_iff.mp hbuf
    obtain ⟨hp, hin⟩ := hpacket f List.mem_cons_self
    have htakes : Takes (assembly b s) f a := ⟨hp, haccept⟩
    obtain ⟨fuel, rfl⟩ : ∃ n, fuel = n + 1 := ⟨fuel - 1, by simp at hfuel; omega⟩
    rcases hturn : rxTurn b s with ⟨o, t⟩
    have hstep := rxTurn_step b s
    rw [hturn] at hstep
    -- the step is that of the packet delivered
    cases hstep with
    | silent hf' => simp [hf] at hf'
    | refused hf' hno =>
      obtain rfl : f = _ := Option.some.inj (hf.symm.trans hf')
      exact absurd htakes (hno a)
    | overrun hf' _ hover =>
      obtain rfl : f = _ := Option.some.inj (hf.symm.trans hf')
      exact absurd hin hover
    | last hf' htakes' _ heom hframe =>
      obtain rfl : f = _ := Option.some.inj (hf.symm.trans hf')
      obtain rfl : a = _ := Option.some.inj (htakes.2.symm.trans htakes'.2)
      rw [if_pos (f.fragment_eom.mpr heom)] at hend
      exact ⟨t, loop_succ_of_leave hturn, hframe.trans hend⟩
    | more hf' htakes' _ heom hasm hreads =>
      obtain rfl : f = _ := Option.some.inj (hf.symm.trans hf')
      obtain rfl : a = _ := Option.some.inj (htakes.2.symm.trans htakes'.2)
      rw [if_neg (mt f.fragment_eom.mp heom)] at hend
      have hfuel' : frames.length ≤ fuel := by simpa using hfuel
      rw [loop_succ_of_turn hturn]
      exact ih (hreads ▸ hrest) (fun g hg => hpacket g (List.mem_cons_of_mem _ hg))
        (hasm ▸ hend) hfuel'

/-! ## Packets past the frame -/

/-- A packet the receiver takes leads it to what the reassembly says, or past the frame. -/
theorem rxTurn_of_takes {b : RxLocals} {s : Pldm} {f : Frame} {a : Assembly UInt8}
    (hf : (deliver maxNumRetries s.reads).1 = some f) (htakes : Takes (assembly b s) f a)
    (hsafe : (rxTurn b s).1 ≠ .fault) : f.StaysInside ∧
      (f.fragment.eom = false → ∃ b' t, rxTurn b s = (.ret (.inl b'), t) ∧ assembly b' t = a ∧
        t.reads = (deliver maxNumRetries s.reads).2) := by
  rcases hturn : rxTurn b s with ⟨o, t⟩
  have hstep := rxTurn_step b s
  rw [hturn] at hstep hsafe
  cases hstep with
  | silent hf' => simp [hf] at hf'
  | refused hf' hno =>
    obtain rfl : f = _ := Option.some.inj (hf.symm.trans hf')
    exact absurd htakes (hno a)
  | overrun => exact absurd rfl hsafe
  | last hf' _ hin heom =>
    obtain rfl : f = _ := Option.some.inj (hf.symm.trans hf')
    exact ⟨hin, fun h => absurd heom (f.fragment_not_eom.mp h)⟩
  | more hf' htakes' hin _ hasm hreads =>
    obtain rfl : f = _ := Option.some.inj (hf.symm.trans hf')
    obtain rfl : a = _ := Option.some.inj (htakes.2.symm.trans htakes'.2)
    exact ⟨hin, fun _ => ⟨_, t, rfl, hasm, hreads⟩⟩

/-- Every packet that the receiver takes, after packets it took without coming to an end, counts
no bytes past the local frame. -/
def PacketsStayInside (a : Assembly UInt8) (reads : Stream' (Option Bytes)) : Prop :=
  ∀ packets f held after, Delivers reads (packets ++ [f]) → (∀ p ∈ packets, p.IsPacket) →
    gather 4 maxAssembledFrameBytes a (packets.map Frame.fragment) = some held →
    Takes held f after → f.StaysInside

/-- What holds of the packets still to come holds after a turn. -/
theorem PacketsStayInside.of_turn {b b' : RxLocals} {s t : Pldm}
    (h : PacketsStayInside (assembly b s) s.reads) (hturn : Turn rxTurn (b, s) (b', t)) :
    PacketsStayInside (assembly b' t) t.reads := by
  have hstep := rxTurn_step b s
  rw [show rxTurn b s = (.ret (.inl b'), t) from hturn] at hstep
  cases hstep with
  | @more p _ _ _ hf htakes _ heom hasm hreads =>
    intro packets f held after hdeliver hpackets hgather
    -- put the packet of this turn in front
    refine h (p :: packets) f held after ⟨hf, hreads ▸ hdeliver⟩ ?_ ?_
    · intro q hq
      rcases List.mem_cons.mp hq with rfl | hq
      · exact htakes.1
      · exact hpackets q hq
    · exact gather_cons_eq_some_iff.mpr
        ⟨p.fragment_not_eom.mpr heom, _, htakes.2, hasm ▸ hgather⟩

/-- The packets stay inside the frame when no turn of the loop reads past it. -/
theorem packetsStayInside_of_turns {b : RxLocals} {s : Pldm}
    (h : ∀ y, Turns rxTurn (b, s) y → (rxTurn y.1 y.2).1 ≠ .fault) :
    PacketsStayInside (assembly b s) s.reads := by
  intro packets f held after hdeliver hpackets hgather htakes
  induction packets generalizing b s with
  | nil =>
    obtain rfl : assembly b s = held := Option.some.inj hgather
    exact (rxTurn_of_takes hdeliver.1 htakes (h (b, s) .refl)).1
  | cons p packets ih =>
    obtain ⟨heom, mid, haccept, hgather⟩ := gather_cons_eq_some_iff.mp hgather
    have htakes' : Takes (assembly b s) p mid := ⟨hpackets p List.mem_cons_self, haccept⟩
    obtain ⟨-, hmore⟩ := rxTurn_of_takes hdeliver.1 htakes' (h (b, s) .refl)
    obtain ⟨b', t, hturn, hasm, hreads⟩ := hmore heom
    refine @ih b' t ?_ (hreads ▸ hdeliver.2) (fun q hq => hpackets q (List.mem_cons_of_mem _ hq))
      (hasm ▸ hgather)
    have hturn' : Turn rxTurn (b, s) (b', t) := hturn
    exact fun y hy => h y (.head hturn' hy)

/-- No turn of the loop reads past the frame when the packets stay inside it. -/
theorem turns_of_packetsStayInside {b : RxLocals} {s : Pldm} {y : RxLocals × Pldm}
    (h : PacketsStayInside (assembly b s) s.reads) (hy : Turns rxTurn (b, s) y) :
    (rxTurn y.1 y.2).1 ≠ .fault := by
  have hy' : PacketsStayInside (assembly y.1 y.2) y.2.reads := by
    induction hy with
    | refl => exact h
    | tail _ hturn ih => exact PacketsStayInside.of_turn ih hturn
  intro hfault
  have hstep := rxTurn_step y.1 y.2
  rw [show rxTurn y.1 y.2 = (.fault, (rxTurn y.1 y.2).2) from Prod.ext hfault rfl] at hstep
  cases hstep with
  | @overrun f a _ hf htakes hover =>
    exact hover (hy' [] f _ a ⟨hf, trivial⟩ (by simp) rfl htakes)

/-- **When the receiver stays in its frame.** No run of `rxMultiPartData` reads past the end of the
local `i2cdataPldmInfo` exactly when no packet it takes counts more than 137 bytes. -/
theorem rxMultiPartData_staysInFrame_iff (s : Pldm) :
    (∀ fuel, (rxMultiPartData fuel s).1 ≠ .fault) ↔ PacketsStayInside .empty s.reads := by
  have hloop : (∀ fuel, (rxMultiPartData fuel s).1 ≠ .fault) ↔
      ∀ fuel, (Prog.loop rxTurn fuel ⟨0, false⟩ s.cleared).1 ≠ .fault := by
    refine forall_congr' fun fuel => ?_
    rw [rxMultiPartData_apply, andThen, chain]
    rcases hl : Prog.loop rxTurn fuel ⟨0, false⟩ s.cleared with ⟨r | _ | _, t⟩
    · rw [bind_of_ret hl, Prog.ite_apply]
      split
      · rw [rxFinish_apply]
        split <;> simp
      · exact iff_of_true (by simp) (by simp)
    · rw [bind_of_fault hl]
    · rw [bind_of_cut hl]
  rw [hloop, loop_never_faults_iff]
  constructor
  · intro h
    exact @packetsStayInside_of_turns ⟨0, false⟩ s.cleared h
  · intro h y hy
    exact @turns_of_packetsStayInside ⟨0, false⟩ s.cleared y h hy

/-- A packet that starts and ends a message and counts 200 bytes. -/
def longPacket : Bytes := [0x0F, 200, 0x61, 0x01, 0x00, 0x07, 0xC8]

/-- **A packet past the frame.** The first packet of a device makes the receiver read 203 bytes out
of its frame of 140. -/
theorem rxMultiPartData_leavesFrame :
    (rxMultiPartData 1 (Pldm.init (Stream'.const (some longPacket)) (Stream'.const true))).1 =
      .fault := by
  decide

end XpuManager
