import XpuManager.Lib.Bytes

/-! # Messages closed by a checksum

A message is a header, a body and a checksum of the body. Code that fills a buffer computes the
checksum over some prefix of the body's place, puts it at some index, and hands on some number of
bytes; the three numbers need not agree. -/

variable {n off head i k size : Nat} {sum : List UInt8 → UInt8}

/-- `bs` is a header of `head` bytes, a body of `i` bytes and the checksum of the body. -/
def ClosedBy (sum : List UInt8 → UInt8) (head i : Nat) (bs : List UInt8) : Prop :=
  ∃ header body, bs = header ++ body ++ [sum body] ∧ header.length = head ∧ body.length = i

theorem ClosedBy.length {bs : List UInt8} (h : ClosedBy sum head i bs) :
    bs.length = head + i + 1 := by
  obtain ⟨header, body, rfl, hheader, hbody⟩ := h
  rw [List.length_append, List.length_append, hheader, hbody, List.length_singleton]

/-- Bytes that are too few or too many for the place of the checksum are not closed. -/
theorem not_closedBy_of_length {bs : List UInt8} (h : bs.length ≠ head + i + 1) :
    ¬ClosedBy sum head i bs := fun hclosed => h hclosed.length

/-- **The bytes of a buffer are closed** when they end at the place of the checksum, and it is the
checksum of the body. -/
theorem closedBy_slice_iff {b : Buf n} : ClosedBy sum head i (b.slice off size) ↔
    size = head + i + 1 ∧ b.byte (off + head + i) = sum (b.slice (off + head) i) := by
  have hsplit : b.slice off (head + i + 1) =
      b.slice off head ++ b.slice (off + head) i ++ [b.byte (off + head + i)] := by
    rw [Buf.slice_add, Buf.slice_add, Nat.add_assoc]
    rfl
  constructor
  · intro h
    have hsize : size = head + i + 1 := by simpa using h.length
    obtain ⟨header, body, heq, hheader, hbody⟩ := h
    rw [hsize, hsplit] at heq
    obtain ⟨hinit, hlast⟩ := List.append_inj' heq rfl
    obtain ⟨-, rfl⟩ := List.append_inj hinit (by rw [Buf.length_slice, hheader])
    exact ⟨hsize, (List.singleton_inj.mp hlast)⟩
  · rintro ⟨rfl, hsum⟩
    rw [hsplit, hsum]
    exact ⟨_, _, rfl, Buf.length_slice _ _ _, Buf.length_slice _ _ _⟩

/-- From `off` on `f` is `g` with the checksum of its first `k` bytes at index `i`. -/
def StoredAt (sum : List UInt8 → UInt8) (off i k : Nat) (g f : Buf n) : Prop :=
  ∀ j, f.byte (off + j) = (g.setByte (off + i) (sum (g.slice off k))).byte (off + j)

section StoredAt

variable {g f f' : Buf n}

/-- Only the bytes from `off` on count. -/
theorem StoredAt.congr (h : StoredAt sum off i k g f)
    (hbytes : ∀ j, f'.byte (off + j) = f.byte (off + j)) : StoredAt sum off i k g f' :=
  fun j => (hbytes j).trans (h j)

/-- **When a stored checksum closes the message.** -/
theorem StoredAt.closedBy_iff (h : StoredAt sum (off + head) i k g f) (hi : off + head + i < n) :
    ClosedBy sum head i (f.slice off size) ↔ size = head + i + 1 ∧
      sum (g.slice (off + head) k) = sum (g.slice (off + head) i) := by
  have hbody : f.slice (off + head) i = g.slice (off + head) i := by
    refine Buf.slice_congr fun j hj => ?_
    rw [h j, Buf.byte_setByte_of_ne (by omega)]
  have hlast : f.byte (off + head + i) = sum (g.slice (off + head) k) := by
    rw [h i, Buf.byte_setByte_self hi]
  rw [closedBy_slice_iff, hbody, hlast]

/-- The same where it is known what was summed up. -/
theorem StoredAt.closedBy_iff_content {content : List UInt8} (h : StoredAt sum (off + head) i k g f)
    (hcontent : g.slice (off + head) content.length = content) (hi : i ≤ content.length)
    (hk : k ≤ content.length) (hroom : off + head + i < n) :
    ClosedBy sum head i (f.slice off size) ↔
      size = head + i + 1 ∧ sum (content.take k) = sum (content.take i) := by
  have htake (j : Nat) (hj : j ≤ content.length) : g.slice (off + head) j = content.take j := by
    conv_rhs => rw [← hcontent]
    exact (Buf.take_drop_slice (i := 0) (by omega)).symm
  rw [h.closedBy_iff hroom, htake k hk, htake i hi]

end StoredAt
