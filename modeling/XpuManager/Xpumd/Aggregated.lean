import Mathlib.Algebra.Order.Field.Rat
import Mathlib.Data.List.MinMax
import XpuManager.Lib.RingBuffer

/-! # Aggregated metrics

The sample buffer of the receiver (`sysman/aggregated.go`): one ring of samples, written at a head
that all readers share, with a tail and a loss counter for each reader. `add` and `collect` hold
the metric's lock from beginning to end, so an interleaving of callers is a sequence of calls.
Samples are of any ordered type; the `float64` that sums and averages are computed in is exact
here, and `toFloat` is the conversion to it. -/

namespace XpuManager

variable {T : Type} {bufferSize numReaders : Nat}

/-- The aggregated statistics. -/
structure AggregatedStats (T : Type) where
  minValue : T
  maxValue : T
  avgValue : ℚ
  samples : Nat
  lostSamples : Nat
  deriving DecidableEq

/-- The samples in a ring buffer, with the readers' tails and loss counters. -/
structure AggregatedMetric (T : Type) where
  buffer : List T
  head : Nat
  tails : List Nat
  lostSamples : List Nat
  deriving DecidableEq

/-! ## The code -/

/-- A metric with room for `bufferSize` samples. One extra cell is allocated, as the one under the
head is not available. -/
def newAggregatedMetric [Zero T] (bufferSize numReaders : Nat) : AggregatedMetric T :=
  ⟨List.replicate (bufferSize + 1) 0, 0, List.replicate numReaders 0, List.replicate numReaders 0⟩

namespace AggregatedMetric

def size (am : AggregatedMetric T) : Nat := am.buffer.length

/-- The turn of `add`'s loop for reader `i`: a tail under the new head moves on by one cell. -/
def evict (am : AggregatedMetric T) (i : Nat) : AggregatedMetric T :=
  if am.tails[i]? = some am.head then
    { am with
      tails := am.tails.set i ((am.head + 1) % am.size)
      lostSamples := am.lostSamples.modify i (· + 1) }
  else am

/-- Add a sample to the buffer. -/
def add (am : AggregatedMetric T) (value : T) : AggregatedMetric T :=
  let am' := { am with
    buffer := am.buffer.set am.head value
    head := (am.head + 1) % am.size }
  (List.range am'.tails.length).foldl evict am'

/-- The turn of `computeStats`' loop for one sample: smallest, largest and sum so far. -/
def accumulate [LinearOrder T] (toFloat : T → ℚ) (acc : T × T × ℚ) (val : T) : T × T × ℚ :=
  let (minV, maxV, sum) := acc
  (if val < minV then val else minV, if maxV < val then val else maxV, sum + toFloat val)

/-- Minimum, maximum and average of the samples from `start` up to `stop`. -/
def computeStats [LinearOrder T] [Zero T] (toFloat : T → ℚ) (am : AggregatedMetric T)
    (start stop : Nat) : AggregatedStats T :=
  if start = stop then ⟨0, 0, 0, 0, 0⟩
  else
    let first := am.buffer.getD start 0
    let samples := ringDistance am.size start stop
    let vals := (List.range samples).map fun i => am.buffer.getD ((start + i) % am.size) 0
    let (minV, maxV, sum) := vals.foldl (accumulate toFloat) (first, first, 0)
    ⟨minV, maxV, sum / samples, samples, 0⟩

/-- Reset a reader's collection window. -/
def reset (am : AggregatedMetric T) (readerIdx : Nat) : AggregatedMetric T :=
  { am with
    tails := am.tails.set readerIdx am.head
    lostSamples := am.lostSamples.set readerIdx 0 }

/-- The statistics of a reader's samples, and the metric with the reader reset; a reader index out
of bounds panics. -/
def collect [LinearOrder T] [Zero T] (toFloat : T → ℚ) (am : AggregatedMetric T)
    (readerIdx : Nat) : Option (AggregatedStats T × AggregatedMetric T) := do
  let tail ← am.tails[readerIdx]?
  let lost ← am.lostSamples[readerIdx]?
  let stats := am.computeStats toFloat tail am.head
  some ({ stats with lostSamples := lost }, am.reset readerIdx)

end AggregatedMetric

/-- A call on a metric with `numReaders` readers. -/
inductive Call (T : Type) (numReaders : Nat) where
  | add (value : T)
  | collect (readerIdx : Fin numReaders)

/-- A sequence of calls on a metric. -/
def runCalls [LinearOrder T] [Zero T] (toFloat : T → ℚ) :
    List (Call T numReaders) → AggregatedMetric T → Option (AggregatedMetric T)
  | [], am => some am
  | .add value :: calls, am => runCalls toFloat calls (am.add value)
  | .collect i :: calls, am => (am.collect toFloat i).bind fun r => runCalls toFloat calls r.2

/-! ## What a reader is to be told -/

/-- The values reader `i` has not collected after one more call. -/
def Call.since (i : Fin numReaders) (vs : List T) : Call T numReaders → List T
  | .add value => vs ++ [value]
  | .collect j => if j = i then [] else vs

/-- The values added since the previous collect of reader `i`, or since creation. -/
def addedSince (i : Fin numReaders) (calls : List (Call T numReaders)) : List T :=
  calls.foldl (Call.since i) []

/-- The report about `vs`: smallest, largest and average of the last `bufferSize` of them, their
number, and how many came before these. -/
def report [LinearOrder T] [Zero T] (toFloat : T → ℚ) (bufferSize : Nat) (vs : List T) :
    AggregatedStats T :=
  let window := vs.rtake bufferSize
  ⟨window.min?.getD 0, window.max?.getD 0, (window.map toFloat).sum / window.length,
    window.length, vs.length - bufferSize⟩

/-- Whether a call matters to reader `i`. -/
def Call.concerns (i : Fin numReaders) : Call T numReaders → Bool
  | .add _ => true
  | .collect j => j = i

/-- What reader `i` collects after a sequence of calls on a new metric. -/
def collectAfter [LinearOrder T] [Zero T] (toFloat : T → ℚ) (bufferSize : Nat)
    (calls : List (Call T numReaders)) (i : Fin numReaders) : Option (AggregatedStats T) := do
  let am ← runCalls toFloat calls (newAggregatedMetric bufferSize numReaders)
  let (stats, _) ← am.collect toFloat i
  some stats

/-! ## The invariant -/

namespace AggregatedMetric

/-- The turns of `add`'s loop touch each reader once: a tail under the head moves on, and its loss
is counted. -/
theorem foldl_evict (n : Nat) (am : AggregatedMetric T) :
    let am' := (List.range n).foldl evict am
    am'.buffer = am.buffer ∧ am'.head = am.head ∧ am'.tails.length = am.tails.length ∧
      ∀ i, am'.tails[i]? = (if i < n ∧ am.tails[i]? = some am.head
          then some ((am.head + 1) % am.size) else am.tails[i]?) ∧
        am'.lostSamples[i]? = (if i < n ∧ am.tails[i]? = some am.head
          then am.lostSamples[i]?.map (· + 1) else am.lostSamples[i]?) := by
  induction n with
  | zero => simp
  | succ n ih =>
    obtain ⟨hbuffer, hhead, hlen, hreader⟩ := ih
    rw [List.range_succ, List.foldl_append, List.foldl_cons, List.foldl_nil]
    generalize (List.range n).foldl evict am = u at *
    have hu : u.tails[n]? = am.tails[n]? := by
      rw [(hreader n).1, if_neg fun h => Nat.lt_irrefl n h.1]
    rw [evict]
    split
    case isFalse hne =>
      refine ⟨hbuffer, hhead, hlen, fun i => ?_⟩
      rw [hu, hhead] at hne
      have hi : (i < n + 1 ∧ am.tails[i]? = some am.head) ↔
          (i < n ∧ am.tails[i]? = some am.head) := by
        constructor
        · rintro ⟨hlt, heq⟩
          exact ⟨lt_of_le_of_ne (Nat.lt_succ_iff.mp hlt) fun h => hne (h ▸ heq), heq⟩
        · exact fun h => ⟨Nat.lt_succ_of_lt h.1, h.2⟩
      simpa only [hi] using hreader i
    case isTrue heq =>
      refine ⟨hbuffer, hhead, by rw [List.length_set, hlen], fun i => ?_⟩
      rw [hu, hhead] at heq
      obtain ⟨hn, -⟩ := List.getElem?_eq_some_iff.mp heq
      by_cases hin : i = n
      · subst hin
        have hlost : u.lostSamples[i]? = am.lostSamples[i]? := by
          rw [(hreader i).2, if_neg fun h => Nat.lt_irrefl i h.1]
        have hcond : i < i + 1 ∧ am.tails[i]? = some am.head := ⟨Nat.lt_succ_self i, heq⟩
        rw [if_pos hcond, if_pos hcond]
        refine ⟨?_, ?_⟩
        · rw [List.getElem?_set_self (by rw [hlen]; exact hn), hhead, size, size, hbuffer]
        · rw [List.getElem?_modify_eq, hlost, Option.map_eq_map]
      · have hi : (i < n + 1 ∧ am.tails[i]? = some am.head) ↔
            (i < n ∧ am.tails[i]? = some am.head) := by
          refine and_congr_left fun _ => ?_
          omega
        simp only [hi]
        rw [List.getElem?_set_ne (Ne.symm hin), List.getElem?_modify_ne _ _ (Ne.symm hin)]
        exact hreader i

/-- The invariant of a metric that was given the values `hist` in all, the last `fresh i` of which
reader `i` has not collected: the ring holds the end of `hist`, the head is its next cell, each
tail lies as many cells behind it as samples are kept for the reader, and the loss counter counts
the others. -/
structure Tracks (am : AggregatedMetric T) (bufferSize : Nat) (hist : List T)
    (fresh : Fin numReaders → Nat) : Prop where
  length_buffer : am.buffer.length = bufferSize + 1
  holds : RingHolds hist am.buffer
  head_eq : am.head = hist.length % (bufferSize + 1)
  length_tails : am.tails.length = numReaders
  fresh_le : ∀ i, fresh i ≤ hist.length
  tail_eq : ∀ i : Fin numReaders, am.tails[i.val]? =
    some ((hist.length - min (fresh i) bufferSize) % (bufferSize + 1))
  lost_eq : ∀ i : Fin numReaders, am.lostSamples[i.val]? = some (fresh i - bufferSize)

/-- A new metric tracks the empty history. -/
theorem tracks_new [Zero T] :
    (newAggregatedMetric bufferSize numReaders : AggregatedMetric T).Tracks bufferSize []
      fun _ : Fin numReaders => 0 where
  length_buffer := List.length_replicate
  holds := ringHolds_nil _
  head_eq := rfl
  length_tails := List.length_replicate
  fresh_le _ := Nat.le_refl 0
  tail_eq i := by simp [newAggregatedMetric]
  lost_eq i := by simp [newAggregatedMetric]

variable {am : AggregatedMetric T} {hist : List T} {fresh : Fin numReaders → Nat}

/-- **Adding a value keeps the invariant.** The history and what each reader has not collected
grow by one. -/
theorem Tracks.add (h : am.Tracks bufferSize hist fresh) (value : T) :
    (am.add value).Tracks bufferSize (hist ++ [value]) fun i => fresh i + 1 := by
  let u : AggregatedMetric T := ⟨am.buffer.set am.head value, (am.head + 1) % am.size,
    am.tails, am.lostSamples⟩
  have hadd : am.add value = (List.range u.tails.length).foldl evict u := rfl
  obtain ⟨hbuffer, hhead, hlen, hreader⟩ := foldl_evict u.tails.length u
  rw [← hadd] at hbuffer hhead hlen hreader
  have hsize : am.size = bufferSize + 1 := h.length_buffer
  have hu : u.head = (hist.length + 1) % (bufferSize + 1) := by
    change (am.head + 1) % am.size = _
    rw [hsize, h.head_eq, Nat.mod_add_mod]
  have husize : u.size = bufferSize + 1 := by
    change (am.buffer.set am.head value).length = _
    rw [List.length_set, h.length_buffer]
  -- a reader's tail is under the new head exactly when its part of the ring is full
  have hunder : ∀ i : Fin numReaders,
      (i.val < u.tails.length ∧ u.tails[i.val]? = some u.head) ↔ bufferSize ≤ fresh i := by
    intro i
    have hi : i.val < u.tails.length := by
      change i.val < am.tails.length
      rw [h.length_tails]
      exact i.isLt
    have hle := h.fresh_le i
    rw [and_iff_right hi, hu]
    change am.tails[i.val]? = _ ↔ _
    rw [h.tail_eq i, Option.some_inj]
    rcases Nat.lt_or_ge (fresh i) bufferSize with hlt | hge
    · have hsum : hist.length + 1 = hist.length - fresh i + (fresh i + 1) := by omega
      rw [Nat.min_eq_left hlt.le, hsum, mod_eq_add_mod_iff (by omega)]
      omega
    · have hsum : hist.length + 1 = hist.length - bufferSize + (bufferSize + 1) := by omega
      rw [Nat.min_eq_right hge, hsum, Nat.add_mod_right]
      simp [hge]
  refine ⟨?_, ?_, ?_, ?_, ?_, ?_, ?_⟩
  · rw [hbuffer]
    exact husize
  · rw [hbuffer]
    change RingHolds _ (am.buffer.set am.head value)
    rw [h.head_eq, ← h.length_buffer]
    exact ringHolds_push h.holds (by rw [h.length_buffer]; omega) value
  · rw [hhead, hu, List.length_append, List.length_singleton]
  · rw [hlen]
    exact h.length_tails
  · intro i
    have := h.fresh_le i
    rw [List.length_append, List.length_singleton]
    omega
  · intro i
    have hle := h.fresh_le i
    rw [(hreader i).1, List.length_append, List.length_singleton]
    simp only [hunder i]
    split
    case isTrue hge =>
      have hsum : hist.length + 1 - bufferSize + (bufferSize + 1) = hist.length + 1 + 1 := by omega
      rw [husize, hu, Nat.mod_add_mod, Nat.min_eq_right (by omega), ← hsum, Nat.add_mod_right]
    case isFalse hlt =>
      change am.tails[i.val]? = _
      rw [h.tail_eq i, Nat.min_eq_left (by omega), Nat.min_eq_left (by omega),
        Nat.add_sub_add_right]
  · intro i
    rw [(hreader i).2]
    simp only [hunder i]
    change (if _ then Option.map _ am.lostSamples[i.val]? else am.lostSamples[i.val]?) = _
    rw [h.lost_eq i]
    split
    case isTrue hge =>
      rw [Option.map_some, Option.some_inj]
      omega
    case isFalse hlt =>
      rw [Option.some_inj]
      omega

/-- **Resetting a reader keeps the invariant.** That reader has collected everything; nothing
changes for the others. -/
theorem Tracks.reset (h : am.Tracks bufferSize hist fresh) (j : Fin numReaders) :
    (am.reset j).Tracks bufferSize hist (Function.update fresh j 0) where
  length_buffer := h.length_buffer
  holds := h.holds
  head_eq := h.head_eq
  length_tails := (List.length_set ..).trans h.length_tails
  fresh_le i := by
    rw [Function.update_apply]
    split
    · exact Nat.zero_le _
    · exact h.fresh_le i
  tail_eq i := by
    have hj : j.val < am.tails.length := by
      rw [h.length_tails]
      exact j.isLt
    change (am.tails.set j am.head)[i.val]? = _
    by_cases hij : i = j
    · subst hij
      rw [List.getElem?_set_self hj, Function.update_self, Nat.zero_min, Nat.sub_zero, h.head_eq]
    · rw [List.getElem?_set_ne (by rw [ne_eq, ← Fin.ext_iff]; exact Ne.symm hij),
        Function.update_of_ne hij, h.tail_eq i]
  lost_eq i := by
    have hj : j.val < am.lostSamples.length :=
      (List.getElem?_eq_some_iff.mp (h.lost_eq j)).1
    change (am.lostSamples.set j 0)[i.val]? = _
    by_cases hij : i = j
    · subst hij
      rw [List.getElem?_set_self hj, Function.update_self, Nat.zero_sub]
    · rw [List.getElem?_set_ne (by rw [ne_eq, ← Fin.ext_iff]; exact Ne.symm hij),
        Function.update_of_ne hij, h.lost_eq i]

/-! ## The statistics -/

/-- The end of the end of a list. -/
theorem rtake_rtake (l : List T) (k n : Nat) : (l.rtake k).rtake n = l.rtake (min k n) := by
  simp only [List.rtake, List.drop_drop, List.length_drop]
  congr 1
  omega

theorem length_rtake (l : List T) (n : Nat) : (l.rtake n).length = min n l.length := by
  rw [List.rtake, List.length_drop]
  omega

variable [LinearOrder T] (toFloat : T → ℚ)

/-- The loop of `computeStats` computes minimum, maximum and sum. -/
theorem foldl_accumulate (vals : List T) (x y : T) (s : ℚ) :
    vals.foldl (accumulate toFloat) (x, y, s) =
      (vals.foldl min x, vals.foldl max y, s + (vals.map toFloat).sum) := by
  induction vals generalizing x y s with
  | nil => simp
  | cons v vals ih =>
    have hmin : (if v < x then v else x) = min x v := by
      rw [min_comm, min_def_lt]
    have hmax : (if y < v then v else y) = max y v := by
      rw [max_def_lt]
    rw [List.foldl_cons, accumulate, hmin, hmax, ih]
    simp only [List.foldl_cons, List.map_cons, List.sum_cons, add_assoc]

variable [Zero T] {toFloat}

/-- **What `computeStats` finds.** Between a reader's tail and the head stand the last values the
reader has not collected, as many as are kept. -/
theorem Tracks.computeStats (h : am.Tracks bufferSize hist fresh) (i : Fin numReaders) :
    am.computeStats toFloat ((hist.length - min (fresh i) bufferSize) % (bufferSize + 1)) am.head =
      { report toFloat bufferSize (hist.rtake (fresh i)) with lostSamples := 0 } := by
  have hle := h.fresh_le i
  generalize hm : min (fresh i) bufferSize = m
  have hms : m < bufferSize + 1 := by omega
  have hml : m ≤ hist.length := by omega
  have hhead : am.head = (hist.length - m + m) % (bufferSize + 1) := by
    rw [Nat.sub_add_cancel hml, h.head_eq]
  have hwindow : (hist.rtake (fresh i)).rtake bufferSize = hist.rtake m := by
    rw [rtake_rtake, hm]
  have hread : ∀ k < m, am.buffer.getD
      (((hist.length - m) % (bufferSize + 1) + k) % am.size) 0 = (hist.rtake m).getD k 0 := by
    intro k hk
    have := h.holds.read hml (by rw [h.length_buffer]; omega) hk
    rw [List.getD_eq_getElem?_getD, List.getD_eq_getElem?_getD, size, ← this, h.length_buffer]
  have hlen : (hist.rtake m).length = m := by
    rw [length_rtake]
    omega
  rw [AggregatedMetric.computeStats, report, hwindow, hlen, hhead]
  by_cases hzero : m = 0
  · rw [if_pos ((mod_eq_add_mod_iff hms).mpr hzero)]
    subst hzero
    simp
  · rw [if_neg (mt (mod_eq_add_mod_iff hms).mp hzero), size, h.length_buffer, ringDistance_mod hms]
    have hvals : ((List.range m).map fun k => am.buffer.getD
        (((hist.length - m) % (bufferSize + 1) + k) % (bufferSize + 1)) 0) = hist.rtake m := by
      refine List.ext_getElem (by rw [List.length_map, List.length_range, hlen]) fun k hk hk' => ?_
      have hkm : k < m := by rwa [hlen] at hk'
      have := hread k hkm
      rw [size, h.length_buffer] at this
      rw [List.getElem_map, List.getElem_range, this, List.getD_eq_getElem?_getD,
        List.getElem?_eq_getElem hk', Option.getD_some]
    obtain ⟨v, vs, hcons⟩ : ∃ v vs, hist.rtake m = v :: vs :=
      List.exists_cons_of_ne_nil fun hnil => hzero (by rw [← hlen, hnil, List.length_nil])
    have hfirst : am.buffer.getD ((hist.length - m) % (bufferSize + 1)) 0 = v := by
      have := hread 0 (by omega)
      rwa [Nat.add_zero, size, h.length_buffer, Nat.mod_mod, hcons] at this
    have hfold := foldl_accumulate toFloat (v :: vs) v v 0
    have hmin : (v :: vs).foldl min v = vs.foldl min v := by rw [List.foldl_cons, min_self]
    have hmax : (v :: vs).foldl max v = vs.foldl max v := by rw [List.foldl_cons, max_self]
    rw [hmin, hmax, zero_add] at hfold
    simp only [hvals, hfirst, hcons, hfold, List.min?_cons', List.max?_cons', Option.getD_some]

/-- **What a reader collects.** The report about the values it has not collected yet. -/
theorem Tracks.collect (h : am.Tracks bufferSize hist fresh) (i : Fin numReaders) :
    am.collect toFloat i =
      some (report toFloat bufferSize (hist.rtake (fresh i)), am.reset i) := by
  have hlost : (hist.rtake (fresh i)).length - bufferSize = fresh i - bufferSize := by
    rw [length_rtake, Nat.min_eq_left (h.fresh_le i)]
  rw [AggregatedMetric.collect, h.tail_eq i, h.lost_eq i]
  simp only [Option.bind_eq_bind, Option.bind_some, h.computeStats i, Option.some_inj]
  rw [report, hlost]

end AggregatedMetric

/-! ## Runs -/

/-- The values added by a sequence of calls. -/
def addedIn (calls : List (Call T numReaders)) : List T :=
  calls.filterMap fun
    | .add value => some value
    | .collect _ => none

/-- How many values reader `i` has not collected after some more calls, having `k` before. -/
def freshAfter (i : Fin numReaders) (k : Nat) (calls : List (Call T numReaders)) : Nat :=
  calls.foldl (fun k call =>
    match call with
    | .add _ => k + 1
    | .collect j => if j = i then 0 else k) k

/-- The values a reader has not collected are the last ones added, as many as it has not
collected. -/
theorem foldl_addedSince (i : Fin numReaders) (calls : List (Call T numReaders))
    {hist vs : List T} {k : Nat} (hk : k ≤ hist.length) (hvs : vs = hist.rtake k) :
    calls.foldl (Call.since i) vs = (hist ++ addedIn calls).rtake (freshAfter i k calls) := by
  induction calls generalizing hist vs k with
  | nil => simpa [addedIn, freshAfter] using hvs
  | cons call calls ih =>
    cases call with
    | add value =>
      have hvs' : vs ++ [value] = (hist ++ [value]).rtake (k + 1) := by
        rw [hvs, List.rtake_concat_succ]
      have hk' : k + 1 ≤ (hist ++ [value]).length := by
        rw [List.length_append, List.length_singleton]
        omega
      simpa [addedIn, freshAfter, Call.since] using ih hk' hvs'
    | collect j =>
      by_cases hj : j = i
      · have := ih (Nat.zero_le hist.length) (List.rtake_zero hist).symm
        simpa [addedIn, freshAfter, Call.since, hj] using this
      · simpa [addedIn, freshAfter, Call.since, hj] using ih hk hvs

/-- The calls that do not concern a reader leave the values it has not collected alone. -/
theorem addedSince_filter (i : Fin numReaders) (calls : List (Call T numReaders)) :
    addedSince i (calls.filter (Call.concerns i)) = addedSince i calls := by
  rw [addedSince, List.foldl_filter, addedSince]
  congr 1
  funext vs call
  cases call with
  | add value => rfl
  | collect j =>
    by_cases hj : j = i
    · simp [Call.concerns, Call.since, hj]
    · simp [Call.concerns, Call.since, hj]

section Runs

variable [LinearOrder T] [Zero T] (toFloat : T → ℚ)

/-- **Every sequence of calls runs and keeps the invariant.** -/
theorem runCalls_tracks (calls : List (Call T numReaders)) {am : AggregatedMetric T}
    {hist : List T} {fresh : Fin numReaders → Nat} (h : am.Tracks bufferSize hist fresh) :
    ∃ am', runCalls toFloat calls am = some am' ∧
      am'.Tracks bufferSize (hist ++ addedIn calls) fun i => freshAfter i (fresh i) calls := by
  induction calls generalizing am hist fresh with
  | nil => exact ⟨am, rfl, by simpa [addedIn, freshAfter] using h⟩
  | cons call calls ih =>
    cases call with
    | add value =>
      obtain ⟨am', hrun, htracks⟩ := ih (h.add value)
      refine ⟨am', hrun, ?_⟩
      simpa [addedIn, freshAfter] using htracks
    | collect j =>
      obtain ⟨am', hrun, htracks⟩ := ih (h.reset j)
      refine ⟨am', ?_, ?_⟩
      · rw [runCalls, @AggregatedMetric.Tracks.collect _ _ _ _ _ _ _ toFloat _ h j]
        exact hrun
      · simp only [Function.update_apply] at htracks
        simpa [addedIn, freshAfter, eq_comm] using htracks

/-- **The report of the next collect.** On a new metric, after any calls, reader `i` collects the
report about the values added since its previous collect. -/
theorem collectAfter_eq (calls : List (Call T numReaders)) (i : Fin numReaders) :
    collectAfter toFloat bufferSize calls i =
      some (report toFloat bufferSize (addedSince i calls)) := by
  obtain ⟨am, hrun, htracks⟩ := runCalls_tracks toFloat calls
    (@AggregatedMetric.tracks_new T bufferSize numReaders _)
  have hsince : addedSince i calls = ([] ++ addedIn calls).rtake (freshAfter i 0 calls) :=
    foldl_addedSince i calls (Nat.le_refl 0) rfl
  rw [collectAfter, hrun, hsince]
  simp only [Option.bind_eq_bind, Option.bind_some, htracks.collect i]

/-- **Readers of one ring buffer.** For every buffer size, number of readers and sequence of calls
on a new metric, the next collect of a reader reports the minimum, maximum, average and number of
the last `bufferSize` of the values added since its previous collect, and how many values came
before these; leaving out the collects of the other readers does not change its report. -/
theorem collectAfter_reports (calls : List (Call T numReaders)) (i : Fin numReaders) :
    collectAfter toFloat bufferSize calls i =
        some (report toFloat bufferSize (addedSince i calls)) ∧
      collectAfter toFloat bufferSize (calls.filter (Call.concerns i)) i =
        collectAfter toFloat bufferSize calls i := by
  refine ⟨collectAfter_eq toFloat calls i, ?_⟩
  rw [collectAfter_eq, collectAfter_eq, addedSince_filter]

end Runs

/-- The repository's test of two readers of a buffer of three. -/
example : collectAfter (fun v : ℤ => (v : ℚ)) 3
    [.add 10, .add 20, .collect 0, .add 30, .add 40, .add 50, .collect 0] (1 : Fin 2) =
      some ⟨30, 50, 40, 3, 2⟩ := by
  decide +kernel

end XpuManager
