import XpuManager.Amc.FwUpdateInitialize
import XpuManager.Amc.PackageFile

/-! # Who closes the package file

The parser closes the file on its error exits and `fwUpdInitialize` on its own, but so does
`writeToAMCCompXfer` when its `fseek` fails, and `fwUpdInitialize` does not know: it closes the file
once more. -/

namespace XpuManager

open Prog

namespace PackageFile

/-! ## Calls on a file -/

/-- What the `fseek`s of `writeToAMCCompXfer` have returned. -/
def chunkSeeks (ops : List FileOp) : List Bool :=
  ops.filterMap fun
    | .fseekChunk ok => some ok
    | _ => none

theorem chunkSeeks_append (ops ops' : List FileOp) :
    chunkSeeks (ops ++ ops') = chunkSeeks ops ++ chunkSeeks ops' :=
  List.filterMap_append ..

/-- The file is open, and every chunk was found. -/
structure Reading (ops : List FileOp) : Prop where
  unclosed : .fclose ∉ ops
  found : ∀ ok ∈ chunkSeeks ops, ok = true

/-- The file was closed at the end. -/
def ClosedOnce (ops : List FileOp) : Prop := ∃ uses, Reading uses ∧ ops = uses ++ [.fclose]

/-- A chunk was not found, and the file was closed. -/
def ClosedByChunk (ops : List FileOp) : Prop :=
  ∃ uses, Reading uses ∧ ops = uses ++ [.fseekChunk false] ++ [.fclose]

/-- A chunk was not found, and the file was closed twice. -/
def ClosedTwice (ops : List FileOp) : Prop :=
  ∃ uses, Reading uses ∧ ops = uses ++ [.fseekChunk false] ++ [.fclose] ++ [.fclose]

/-- A call after which the file can still be read. -/
theorem Reading.append {ops : List FileOp} {op : FileOp} (h : Reading ops) (hclose : op ≠ .fclose)
    (hfound : ∀ ok, op = .fseekChunk ok → ok = true) : Reading (ops ++ [op]) where
  unclosed := by
    intro hmem
    rcases List.mem_append.mp hmem with hmem | hmem
    · exact h.unclosed hmem
    · exact hclose (List.mem_singleton.mp hmem).symm
  found := by
    intro ok hok
    rw [chunkSeeks_append] at hok
    rcases List.mem_append.mp hok with hok | hok
    · exact h.found ok hok
    · cases op with
      | fseekChunk ok' =>
        obtain rfl := List.mem_singleton.mp hok
        exact hfound _ rfl
      | _ => cases hok

/-- A close can only be the last call. -/
def UnusedAfterClose (ops : List FileOp) : Prop := .fclose ∉ ops.dropLast

theorem Reading.unused {ops : List FileOp} (h : Reading ops) : UnusedAfterClose ops :=
  fun hmem => h.unclosed ((List.dropLast_sublist ops).subset hmem)

theorem ClosedByChunk.unused {ops : List FileOp} (h : ClosedByChunk ops) : UnusedAfterClose ops := by
  obtain ⟨uses, huses, rfl⟩ := h
  rw [UnusedAfterClose, List.dropLast_concat]
  intro hmem
  rcases List.mem_append.mp hmem with hmem | hmem
  · exact huses.unclosed hmem
  · exact absurd (List.mem_singleton.mp hmem) (by decide)

/-! ## What a run leaves -/

/-- A run that returns leaves what `R` says; any other has not used the file after a close. -/
def Leaves {α : Type} (R : α → List FileOp → Prop) : Outcome α → PackageObject → Prop
  | .ret a, t => R a t.ops
  | _, t => UnusedAfterClose t.ops

section Leaves

variable {α β ρ ι : Type} {m : Prog PackageObject α} {R R' : α → List FileOp → Prop}
  {Q : β → List FileOp → Prop} {s : PackageObject}

theorem leaves_mono (h : wp m (Leaves R) s) (hR : ∀ a ops, R a ops → R' a ops) :
    wp m (Leaves R') s :=
  wp_mono h fun o t hR' => by
    cases o with
    | ret a => exact hR a t.ops hR'
    | fault => exact hR'
    | cut => exact hR'

theorem leaves_bind {f : α → Prog PackageObject β} (h : wp m (Leaves R) s)
    (hf : ∀ a t, R a t.ops → wp (f a) (Leaves Q) t) : wp (m >>= f) (Leaves Q) s :=
  wp_bind_of h hf (fun _ h => h) fun _ h => h

theorem leaves_ite {c : Prop} [Decidable c] {n : Prog PackageObject α}
    (hm : c → wp m (Leaves R) s) (hn : ¬c → wp n (Leaves R) s) :
    wp (if c then m else n) (Leaves R) s := by
  split
  case isTrue h => exact hm h
  case isFalse h => exact hn h

/-- What the object does leaves the calls as they are. -/
theorem leaves_onPldm (m : Prog Pldm α) (h : UnusedAfterClose s.ops) :
    wp (onPldm m) (Leaves fun _ ops => ops = s.ops) s := by
  rcases hm : m s.pldm with ⟨a | _ | _, p⟩
  · exact (wp_of_eq (zoom_of_eq hm)).mpr rfl
  · exact (wp_of_eq (zoom_of_eq hm)).mpr h
  · exact (wp_of_eq (zoom_of_eq hm)).mpr h

theorem leaves_reading_onPldm (m : Prog Pldm α) (h : Reading s.ops) :
    wp (onPldm m) (Leaves fun _ => Reading) s :=
  leaves_mono (leaves_onPldm m h.unused) fun _ _ heq => heq ▸ h

/-- The loop of `readFromFD`, with what holds before each turn. -/
theorem leaves_loop {P : List FileOp → Prop} {body : β → Prog PackageObject (β ⊕ α)}
    (hP : ∀ ops, P ops → UnusedAfterClose ops)
    (hbody : ∀ b s, P s.ops → wp (body b) (Leaves (Sum.elim (fun _ => P) R)) s) (n : Nat) (b : β)
    (h : P s.ops) :
    wp (Prog.loop body n b) (Leaves R) s := by
  refine loop_induct (I := fun _ s => P s.ops) (fun _ s h => hP _ h) ?_ ?_ ?_ ?_ h
  · intro b s b' s' hs hturn
    exact (wp_of_eq hturn).mp (hbody b s hs)
  · intro b s a s' hs hturn
    exact (wp_of_eq hturn).mp (hbody b s hs)
  · intro b s s' hs hturn
    exact (wp_of_eq hturn).mp (hbody b s hs)
  · intro b s s' hs hturn
    exact (wp_of_eq hturn).mp (hbody b s hs)

/-- The component loop. -/
theorem leaves_forEach {P : List FileOp → Prop} {E : ρ → List FileOp → Prop}
    {body : ι → β → Prog PackageObject (ρ ⊕ β)}
    (hbody : ∀ i b s, P s.ops → wp (body i b) (Leaves (Sum.elim E fun _ => P)) s) (is : List ι)
    (b : β) (h : P s.ops) :
    wp (Prog.forEach body is b) (Leaves (Sum.elim E fun _ => P)) s := by
  induction is generalizing b s with
  | nil => exact h
  | cons i is ih =>
    refine leaves_bind (hbody i b s h) fun r t hr => ?_
    rcases r with r | b'
    · exact hr
    · exact ih b' hr

end Leaves

/-! ## The owners of the file -/

section Owners

variable {s : PackageObject}

theorem leaves_call {op : FileOp} (h : Reading s.ops) (hclose : op ≠ .fclose)
    (hfound : ∀ ok, op = .fseekChunk ok → ok = true) :
    wp (call op) (Leaves fun _ => Reading) s :=
  h.append hclose hfound

/-- A call that is neither. -/
theorem leaves_fread (pos n : Nat) (h : Reading s.ops) :
    wp (fread pos n) (Leaves fun _ => Reading) s :=
  h.append (by decide) fun _ hop => by cases hop

theorem leaves_closeThen {α : Type} (a : α) (h : Reading s.ops) :
    wp (closeThen a) (Leaves fun b ops => b = a ∧ ClosedOnce ops) s :=
  ⟨rfl, s.ops, h, rfl⟩

/-- **The parser** closes the file when it fails. -/
theorem leaves_fwpkgParseInfo (h : Reading s.ops) : wp fwpkgParseInfo (Leaves fun ret ops =>
    ret = pldmSuccess ∧ Reading ops ∨ ret ≠ pldmSuccess ∧ ClosedOnce ops) s := by
  have hfail {t : PackageObject} (ht : Reading t.ops) : wp (closeThen pldmError) (Leaves fun ret ops =>
      ret = pldmSuccess ∧ Reading ops ∨ ret ≠ pldmSuccess ∧ ClosedOnce ops) t :=
    leaves_mono (leaves_closeThen pldmError ht) fun ret ops hret =>
      .inr ⟨by rw [hret.1]; decide, hret.2⟩
  have hseek {t : PackageObject} (ht : Reading t.ops) :
      wp (call .fseek) (Leaves fun _ => Reading) t :=
    leaves_call ht (by decide) fun _ hop => by cases hop
  have htell {t : PackageObject} (ht : Reading t.ops) : wp ftell (Leaves fun _ => Reading) t :=
    ht.append (by decide) fun _ hop => by cases hop
  have halloc {t : PackageObject} (ht : Reading t.ops) : wp alloc (Leaves fun _ => Reading) t := ht
  refine leaves_bind (hseek h) fun _ t₁ h₁ => ?_
  refine leaves_bind (htell h₁) fun fileSize t₂ h₂ => ?_
  refine leaves_bind (hseek h₂) fun _ t₃ h₃ => ?_
  refine leaves_ite (fun _ => hfail h₃) fun _ => ?_
  refine leaves_bind (halloc h₃) fun _ t₄ h₄ => ?_
  refine leaves_ite (fun _ => h₄.unused) fun _ => ?_
  refine leaves_bind (leaves_fread 0 fileSize h₄) fun pkgbuf t₅ h₅ => ?_
  refine leaves_ite (fun _ => hfail h₅) fun _ => ?_
  refine leaves_bind (halloc h₅) fun _ t₆ h₆ => ?_
  refine leaves_ite (fun _ => hfail h₆) fun _ => ?_
  rcases fwpkgParse pkgbuf with (_ | pkg) | _ | _
  · exact hfail h₆
  · exact leaves_bind (leaves_reading_onPldm _ h₆) fun _ t₇ h₇ => .inl ⟨rfl, h₇⟩
  · exact h₆.unused
  · exact h₆.unused

theorem leaves_freadComp (pos n : Nat) (h : Reading s.ops) :
    wp (freadComp pos n) (Leaves fun _ => Reading) s := by
  refine leaves_ite (fun _ => ?_) fun _ => h.unused
  refine leaves_bind (leaves_fread pos n h) fun got t₁ h₁ => ?_
  exact leaves_bind (leaves_reading_onPldm _ h₁) fun _ t₂ h₂ => h₂

theorem leaves_copyCompData (comp : CompImageInfo) (offset lenToSend : UInt32)
    (h : Reading s.ops) :
    wp (copyCompData comp offset lenToSend) (Leaves fun _ => Reading) s := by
  rw [copyCompData]
  -- which bytes are cleared does not matter
  generalize payloadZero payloadSize = clear
  split
  · exact leaves_bind (leaves_freadComp _ _ h) fun _ t₁ h₁ => leaves_reading_onPldm _ h₁
  · refine leaves_bind (leaves_reading_onPldm clear h) fun _ t₁ h₁ => ?_
    exact leaves_bind (leaves_freadComp _ _ h₁) fun _ t₂ h₂ => leaves_reading_onPldm _ h₂

theorem leaves_fseekChunk (h : Reading s.ops) : wp fseekChunk (Leaves fun ok ops =>
    ok = true ∧ Reading ops ∨
      ok = false ∧ ∃ uses, Reading uses ∧ ops = uses ++ [.fseekChunk false]) s := by
  have hrun : fseekChunk s = (.ret s.fseeks.head, { s with
      ops := s.ops ++ [.fseekChunk s.fseeks.head], fseeks := s.fseeks.tail }) := rfl
  rw [wp_of_eq hrun]
  cases s.fseeks.head with
  | true =>
    refine .inl ⟨rfl, h.append (by decide) fun ok hok => ?_⟩
    exact (FileOp.fseekChunk.inj hok).symm
  | false => exact .inr ⟨rfl, s.ops, h, rfl⟩

/-- In the data phase the file stays open, or a chunk was not found: then it is closed, and the phase
ends with an error. -/
def DataPhase (ret : UInt8) (ops : List FileOp) : Prop :=
  Reading ops ∨ ret = pldmError ∧ ClosedByChunk ops

theorem DataPhase.unused {ret : UInt8} {ops : List FileOp} (h : DataPhase ret ops) :
    UnusedAfterClose ops := by
  obtain hreading | ⟨-, hclosed⟩ := h
  · exact hreading.unused
  · exact hclosed.unused

/-- **The function that sends a chunk** closes the file when it does not find the chunk. -/
theorem leaves_writeToAMCCompXfer (offset lenToSend : UInt32) (completioncode : UInt8)
    (h : Reading s.ops) :
    wp (writeToAMCCompXfer offset lenToSend completioncode) (Leaves DataPhase) s := by
  refine leaves_bind (leaves_reading_onPldm curComp h) fun comp t₁ h₁ => ?_
  refine leaves_bind (leaves_reading_onPldm _ h₁) fun _ t₂ h₂ => ?_
  refine leaves_bind (leaves_fseekChunk h₂) fun ok t₃ hseek => leaves_ite (fun hok => ?_) fun hok => ?_
  · obtain ⟨htrue, -⟩ | ⟨-, uses, huses, hops⟩ := hseek
    · exact absurd (htrue.symm.trans hok) (by decide)
    · exact .inr ⟨rfl, uses, huses, congrArg (fun ops => ops ++ [FileOp.fclose]) hops⟩
  · obtain ⟨-, h₃⟩ | ⟨hfalse, -⟩ := hseek
    · refine leaves_bind (leaves_copyCompData comp offset lenToSend h₃) fun _ t₄ h₄ => ?_
      refine leaves_bind (leaves_reading_onPldm _ h₄) fun _ t₅ h₅ => ?_
      refine leaves_bind (leaves_reading_onPldm _ h₅) fun _ t₆ h₆ => ?_
      exact leaves_mono (leaves_reading_onPldm _ h₆) fun _ _ => .inl
    · exact absurd hfalse hok

theorem leaves_answerRequestFirmwareData (offset lenToSend : UInt32) (h : Reading s.ops) :
    wp (answerRequestFirmwareData offset lenToSend) (Leaves DataPhase) s := by
  refine leaves_bind (leaves_reading_onPldm curComp h) fun comp t₁ h₁ => ?_
  refine leaves_ite (fun _ => h₁.unused) fun _ => ?_
  refine leaves_bind (leaves_reading_onPldm _ h₁) fun _ t₂ h₂ => ?_
  have hrespond (code : UInt8) : wp (onPldm (respondtoamc code)) (Leaves DataPhase) t₂ :=
    leaves_mono (leaves_reading_onPldm _ h₂) fun _ _ => .inl
  refine leaves_ite (fun _ => hrespond _) fun _ => leaves_ite (fun _ => hrespond _) fun _ => ?_
  exact leaves_writeToAMCCompXfer _ _ _ h₂

/-- A turn that goes on has left the file open. -/
theorem leaves_readFromFDTurn (b : Unit) (h : Reading s.ops) :
    wp (readFromFDTurn b) (Leaves (Sum.elim (fun _ => Reading) DataPhase)) s := by
  have hstay (r : Unit ⊕ UInt8) (ops : List FileOp) (hops : Reading ops) :
      Sum.elim (fun _ => Reading) DataPhase r ops := by
    cases r with
    | inl => exact hops
    | inr => exact .inl hops
  refine leaves_bind (leaves_reading_onPldm readAmc h) fun ok t₁ h₁ => ?_
  rw [wp_get_bind]
  refine leaves_ite (fun _ => .inl h₁) fun _ => leaves_ite (fun _ => h₁) fun _ => ?_
  refine leaves_ite (fun _ => .inl h₁) fun _ => leaves_ite (fun _ => ?_) fun _ => ?_
  · refine leaves_bind (leaves_answerRequestFirmwareData _ _ h₁) fun ret t₂ hret => ?_
    obtain h₂ | ⟨rfl, hclosed⟩ := hret
    · exact hstay _ _ h₂
    · exact .inr ⟨rfl, hclosed⟩
  · exact leaves_mono (leaves_reading_onPldm _ h₁) hstay

/-- **The data phase.** -/
theorem leaves_readFromFD (fuel : Nat) (h : Reading s.ops) :
    wp (readFromFD fuel) (Leaves DataPhase) s := by
  refine leaves_bind (leaves_loop (P := Reading) (fun _ => Reading.unused)
    (fun b _ h => leaves_readFromFDTurn b h) fuel () h) fun ret t₁ hret => ?_
  rw [wp_get_bind]
  refine leaves_bind (leaves_onPldm _ hret.unused) fun _ t₂ hops => ?_
  rw [← hops] at hret
  exact hret

/-- The update has ended: the file was closed once, or twice. -/
def Ended (ops : List FileOp) : Prop := ClosedOnce ops ∨ ClosedTwice ops

/-- **The update of a component.** Its exits close the file, whether it is still open or not. -/
theorem leaves_runComponent (fuel n : Nat) (ret : UInt8) (h : Reading s.ops) :
    wp (runComponent fuel n ret) (Leaves (Sum.elim (fun _ => Ended) fun _ => Reading)) s := by
  refine leaves_bind (leaves_reading_onPldm _ h) fun _ t₁ h₁ => ?_
  refine leaves_bind (leaves_reading_onPldm _ h₁) fun left t₂ h₂ => ?_
  rcases left with ret | ret
  · exact .inl ⟨t₂.ops, h₂, rfl⟩
  · refine leaves_bind (leaves_readFromFD fuel h₂) fun fd t₃ hfd => leaves_ite (fun hok => ?_) fun hok => ?_
    · obtain h₃ | ⟨hret, -⟩ := hfd
      · exact h₃
      · exact absurd (hok.symm.trans hret) (by decide)
    · refine leaves_bind (leaves_onPldm _ hfd.unused) fun _ t₄ hops => ?_
      have hclose := congrArg (fun ops => ops ++ [FileOp.fclose]) hops
      obtain h₃ | ⟨-, uses, huses, hclosed⟩ := hfd
      · exact .inl ⟨t₃.ops, h₃, hclose⟩
      · rw [hclosed] at hclose
        exact .inr ⟨uses, huses, hclose⟩

/-- The object when the file has been opened. -/
def opened (file : Bytes) (s : PackageObject) : PackageObject :=
  { s with
    pldm := { s.pldm with fw := { s.pldm.fw with mReqUpdate := default, mPassCompTable := default,
                                                 mUpdComp := default, compFile := file } }
    ops := [] }

/-- The update behind the opening of the file. -/
def runUpdate (fuel : Nat) : Prog PackageObject UInt8 :=
  Prog.chain pldmSuccess
    (do
      let result ← fwpkgParseInfo
      pure (if result = pldmSuccess then pldmSuccess else pldmError))
    (do
      let pkg ← onPldm getPkg
      match ← runComponents fuel pkg.compImageCount with
      | .inl ret => pure ret
      | .inr ret => do
          let ret ← onPldm (runActivation fuel ret)
          closeThen ret)

theorem fwUpdInitialize_some (fuel : Nat) (file : Bytes) (s : PackageObject) :
    fwUpdInitialize fuel (some file) s = runUpdate fuel (opened file s) := rfl

/-- **The update.** Once opened, the file has been closed when the update returns. -/
theorem leaves_runUpdate (fuel : Nat) (h : Reading s.ops) :
    wp (runUpdate fuel) (Leaves fun _ => Ended) s := by
  refine leaves_bind (R := fun ret ops => ret = pldmSuccess ∧ Reading ops ∨
    ret ≠ pldmSuccess ∧ ClosedOnce ops) ?_ fun ret t₁ hret => leaves_ite (fun hok => ?_) fun hok => ?_
  · refine leaves_bind (leaves_fwpkgParseInfo h) fun result t hresult => ?_
    obtain ⟨hok, hreading⟩ | ⟨hok, hclosed⟩ := hresult
    · exact .inl ⟨if_pos hok, hreading⟩
    · exact .inr ⟨by rw [if_neg hok]; decide, hclosed⟩
  · obtain ⟨-, h₁⟩ | ⟨hne, -⟩ := hret
    · refine leaves_bind (leaves_reading_onPldm getPkg h₁) fun pkg t₂ h₂ => ?_
      refine leaves_bind (leaves_forEach (fun n b _ h => leaves_runComponent fuel n b h)
        (List.range pkg.compImageCount) pldmError h₂) fun left t₃ hleft => ?_
      rcases left with ret | ret
      · exact hleft
      · refine leaves_bind (leaves_reading_onPldm (runActivation fuel ret) hleft) fun ret t₄ h₄ => ?_
        exact .inl ⟨t₄.ops, h₄, rfl⟩
    · exact absurd hok hne
  · obtain ⟨hsuccess, -⟩ | ⟨-, hclosed⟩ := hret
    · exact absurd hsuccess hok
    · exact .inl hclosed

end Owners

/-! ## The answers that were taken -/

/-- The `fseek`s of `writeToAMCCompXfer` have returned the next answers. -/
def Takes (s t : PackageObject) : Prop :=
  ∃ oks : List Bool, s.fseeks = oks ++ₛ t.fseeks ∧ chunkSeeks t.ops = chunkSeeks s.ops ++ oks

theorem Takes.of_eq {s t : PackageObject} (hfseeks : t.fseeks = s.fseeks)
    (hops : chunkSeeks t.ops = chunkSeeks s.ops) : Takes s t :=
  ⟨[], hfseeks.symm, hops.trans (List.append_nil _).symm⟩

instance : Std.Refl Takes := ⟨fun _ => .of_eq rfl rfl⟩

instance : IsTrans PackageObject Takes where
  trans s t u h h' := by
    obtain ⟨oks, hseeks, hops⟩ := h
    obtain ⟨oks', hseeks', hops'⟩ := h'
    refine ⟨oks ++ oks', ?_, ?_⟩
    · rw [hseeks, hseeks', Stream'.append_append_stream]
    · rw [hops', hops, List.append_assoc]

section Takes

theorem takes_onPldm {α : Type} (m : Prog Pldm α) : Within Takes (onPldm m) :=
  fun _ => .of_eq rfl rfl

theorem takes_call {op : FileOp} (h : ∀ ok, op ≠ .fseekChunk ok) : Within Takes (call op) := by
  refine fun s => .of_eq rfl ?_
  refine (chunkSeeks_append s.ops [op]).trans ?_
  cases op with
  | fseekChunk ok => exact absurd rfl (h ok)
  | _ => exact List.append_nil _

theorem takes_ftell : Within Takes ftell :=
  Within.bind (takes_call fun _ h => by cases h) fun _ => Within.bind Within.get fun _ =>
    Within.bind (fun _ => .of_eq rfl rfl) fun _ => Within.pure _

theorem takes_fread (pos n : Nat) : Within Takes (fread pos n) :=
  Within.bind (takes_call fun _ h => by cases h) fun _ => Within.bind Within.get fun _ =>
    Within.bind (fun _ => .of_eq rfl rfl) fun _ => Within.pure _

theorem takes_alloc : Within Takes alloc :=
  Within.bind Within.get fun _ => Within.bind (fun _ => .of_eq rfl rfl) fun _ => Within.pure _

theorem takes_fseekChunk : Within Takes fseekChunk :=
  fun s => ⟨[s.fseeks.head], (Stream'.eta _).symm, chunkSeeks_append _ _⟩

theorem takes_closeThen {α : Type} (a : α) : Within Takes (closeThen a) :=
  Within.bind (takes_call fun _ h => by cases h) fun _ => Within.pure _

theorem takes_fwpkgParseInfo : Within Takes fwpkgParseInfo := by
  have hseek : Within Takes (call .fseek) := takes_call fun _ h => by cases h
  refine Within.bind hseek fun _ => Within.bind takes_ftell fun fileSize => Within.bind hseek fun _ => ?_
  refine Within.ite (takes_closeThen _) (Within.bind takes_alloc fun _ => Within.ite Within.fault ?_)
  refine Within.bind (takes_fread _ _) fun pkgbuf => Within.ite (takes_closeThen _) ?_
  refine Within.bind takes_alloc fun _ => Within.ite (takes_closeThen _) ?_
  rcases fwpkgParse pkgbuf with (_ | pkg) | _ | _
  · exact takes_closeThen _
  · exact Within.bind (takes_onPldm _) fun _ => Within.pure _
  · exact Within.fault
  · exact Within.cut

theorem takes_copyCompData (comp : CompImageInfo) (offset lenToSend : UInt32) :
    Within Takes (copyCompData comp offset lenToSend) := by
  have hread (pos n : Nat) : Within Takes (freadComp pos n) :=
    Within.ite (Within.bind (takes_fread pos n) fun _ => Within.bind (takes_onPldm _) fun _ =>
      Within.pure _) Within.fault
  refine Within.ite ?_ ?_
  · exact Within.bind (hread _ _) fun _ => takes_onPldm _
  · exact Within.bind (takes_onPldm _) fun _ => Within.bind (hread _ _) fun _ => takes_onPldm _

theorem takes_writeToAMCCompXfer (offset lenToSend : UInt32) (completioncode : UInt8) :
    Within Takes (writeToAMCCompXfer offset lenToSend completioncode) := by
  refine Within.bind (takes_onPldm _) fun comp => Within.bind (takes_onPldm _) fun _ => ?_
  refine Within.bind takes_fseekChunk fun _ => Within.ite (takes_closeThen _) ?_
  refine Within.bind (takes_copyCompData comp _ _) fun _ => Within.bind (takes_onPldm _) fun _ => ?_
  exact Within.bind (takes_onPldm _) fun _ => takes_onPldm _

/-- In the whole transfer. -/
theorem takes_readFromFD (fuel : Nat) : Within Takes (readFromFD fuel) := by
  have hanswer (offset lenToSend : UInt32) :
      Within Takes (answerRequestFirmwareData offset lenToSend) := by
    refine Within.bind (takes_onPldm _) fun comp => Within.ite Within.fault ?_
    refine Within.bind (takes_onPldm _) fun _ => Within.ite (takes_onPldm _) ?_
    exact Within.ite (takes_onPldm _) (takes_writeToAMCCompXfer _ _ _)
  have hturn (b : Unit) : Within Takes (readFromFDTurn b) := by
    refine Within.bind (takes_onPldm _) fun ok => Within.bind Within.get fun s => ?_
    refine Within.ite (Within.pure _) (Within.ite (Within.pure _) (Within.ite (Within.pure _) ?_))
    exact Within.ite (Within.bind (hanswer _ _) fun _ => Within.pure _) (takes_onPldm _)
  refine Within.bind (Within.loop hturn fuel ()) fun ret => Within.bind Within.get fun s => ?_
  exact Within.bind (takes_onPldm _) fun _ => Within.pure _

theorem takes_runComponent (fuel n : Nat) (ret : UInt8) :
    Within Takes (runComponent fuel n ret) := by
  refine Within.bind (takes_onPldm _) fun _ => Within.bind (takes_onPldm _) fun left => ?_
  rcases left with ret | ret
  · exact takes_closeThen _
  · refine Within.bind (takes_readFromFD fuel) fun fd => Within.ite (Within.pure _) ?_
    exact Within.bind (takes_onPldm _) fun _ => takes_closeThen _

/-- **The answers of a run.** -/
theorem takes_runUpdate (fuel : Nat) : Within Takes (runUpdate fuel) := by
  refine Within.bind (Within.bind takes_fwpkgParseInfo fun _ => Within.pure _) fun ret =>
    Within.ite ?_ (Within.pure _)
  refine Within.bind (takes_onPldm _) fun pkg => ?_
  refine Within.bind (Within.forEach (takes_runComponent fuel) _ _) fun left => ?_
  rcases left with ret | ret
  · exact Within.pure _
  · exact Within.bind (takes_onPldm _) fun _ => takes_closeThen _

end Takes

/-! ## When the file is closed once -/

/-- The file is closed when the update returns, and nothing is called on it after a close. -/
structure ReleasesFile (o : Outcome UInt8) (ops : List FileOp) : Prop where
  unused : UnusedAfterClose ops
  closed : (∃ ret, o = .ret ret) → .fclose ∈ ops

/-- A file that was closed twice. -/
theorem ClosedTwice.not_unused {ops : List FileOp} (h : ClosedTwice ops) :
    ¬UnusedAfterClose ops ∧ false ∈ chunkSeeks ops := by
  obtain ⟨uses, huses, rfl⟩ := h
  refine ⟨fun hunused => ?_, ?_⟩
  · rw [UnusedAfterClose, List.dropLast_concat] at hunused
    exact hunused (List.mem_append_right _ List.mem_cons_self)
  · rw [chunkSeeks_append, chunkSeeks_append, chunkSeeks_append]
    simp [chunkSeeks]

theorem ClosedOnce.releases {ops : List FileOp} (h : ClosedOnce ops) (o : Outcome UInt8) :
    ReleasesFile o ops ∧ ∀ ok ∈ chunkSeeks ops, ok = true := by
  obtain ⟨uses, huses, rfl⟩ := h
  refine ⟨⟨?_, fun _ => List.mem_append_right _ List.mem_cons_self⟩, fun ok hok => ?_⟩
  · rw [UnusedAfterClose, List.dropLast_concat]
    exact huses.unclosed
  · rw [chunkSeeks_append] at hok
    exact huses.found ok (by simpa [chunkSeeks] using hok)

/-- What is left of the calls decides. -/
theorem releasesFile_iff_of_leaves {o : Outcome UInt8} {t : PackageObject}
    (h : Leaves (fun _ => Ended) o t) : ReleasesFile o t.ops ↔
      ((∃ ret, o = .ret ret) → ∀ ok ∈ chunkSeeks t.ops, ok = true) := by
  cases o with
  | ret ret =>
    obtain honce | htwice := h
    · obtain ⟨hreleases, hfound⟩ := honce.releases (.ret ret)
      exact iff_of_true hreleases fun _ => hfound
    · obtain ⟨hused, hlost⟩ := htwice.not_unused
      refine iff_of_false (fun hreleases => hused hreleases.unused) fun hfound => ?_
      exact absurd (hfound ⟨ret, rfl⟩ false hlost) (by decide)
  | fault =>
    refine iff_of_true ⟨h, fun hret => ?_⟩ fun hret => ?_
    · obtain ⟨_, hret⟩ := hret
      cases hret
    · obtain ⟨_, hret⟩ := hret
      cases hret
  | cut =>
    refine iff_of_true ⟨h, fun hret => ?_⟩ fun hret => ?_
    · obtain ⟨_, hret⟩ := hret
      cases hret
    · obtain ⟨_, hret⟩ := hret
      cases hret

/-- **When the package file is closed once and not used afterwards.** In every run over an opened file,
whatever its calls return and the device answers: exactly if the run does not return after a failing
`fseek` of `writeToAMCCompXfer`. What these `fseek`s returned are the first answers of the file. -/
theorem fwUpdInitialize_releasesFile_iff (fuel : Nat) (file : Bytes) (s : PackageObject) :
    (ReleasesFile (fwUpdInitialize fuel (some file) s).1 (fwUpdInitialize fuel (some file) s).2.ops ↔
      ((∃ ret, (fwUpdInitialize fuel (some file) s).1 = .ret ret) →
        ∀ ok ∈ chunkSeeks (fwUpdInitialize fuel (some file) s).2.ops, ok = true)) ∧
    s.fseeks = chunkSeeks (fwUpdInitialize fuel (some file) s).2.ops ++ₛ
      (fwUpdInitialize fuel (some file) s).2.fseeks := by
  rw [fwUpdInitialize_some]
  have hopened : Reading (opened file s).ops :=
    ⟨List.not_mem_nil, fun _ h => absurd h List.not_mem_nil⟩
  refine ⟨releasesFile_iff_of_leaves (leaves_runUpdate fuel hopened), ?_⟩
  obtain ⟨oks, hseeks, hops⟩ := takes_runUpdate fuel (opened file s)
  have hoks : chunkSeeks (runUpdate fuel (opened file s)).2.ops = oks := hops
  rw [hoks]
  exact hseeks

/-- A package with one component, a device that asks for a chunk of it, and a file in which no chunk is
found. -/
def lostChunk : PackageObject where
  pldm := sampleDevice ((sampleAnswers 1).take 5 ++ [sampleResponse 6 requestFirmwareData 0])
  ftells := Stream'.const none
  fseeks := Stream'.const false
  freads := Stream'.const none
  allocs := Stream'.const true
  ops := []

/-- The file is closed when the chunk is not found, and again when the update ends. -/
theorem fwUpdInitialize_closes_twice : ¬∀ (fuel : Nat) (file : Bytes) (s : PackageObject),
    ReleasesFile (fwUpdInitialize fuel (some file) s).1
      (fwUpdInitialize fuel (some file) s).2.ops := by
  intro h
  have hops : (fwUpdInitialize 2 (some (samplePackage [sampleImage 100 32])) lostChunk).2.ops =
      [.fseek, .ftell, .fseek, .fread, .fseekChunk false, .fclose, .fclose] := by
    decide +kernel
  have hunused := (h 2 (samplePackage [sampleImage 100 32]) lostChunk).unused
  rw [hops] at hunused
  exact hunused (by decide)

end PackageFile

end XpuManager
