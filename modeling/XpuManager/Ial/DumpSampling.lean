import XpuManager.Ial.DefaultParser

/-! # When the samples of a dump are taken

The dump command takes a number of samples, or samples for some time; the query repeats itself a number of
times (`ial/cmn/cmd_dump.cpp`). Collections and sleeps take as long as they take. -/

namespace XpuManager

namespace DumpSampling

open DefaultParser

/-! ## Options -/

/-- A number that is the whole text, within a signed type with so many values of each sign. -/
def parseInteger (size : Nat) (str : Text) : Option Int :=
  let cs := if str.head? = some '-' then str.tail else str
  let ds := Numerals.leadingDigits 10 cs
  let value : Int := if str.head? = some '-' then -(Numerals.ofDigits 10 0 ds) else Numerals.ofDigits 10 0 ds
  if ds ≠ [] ∧ ds.length = cs.length ∧ -(size : Int) ≤ value ∧ value < size then some value else none

/-- The options for the timing, as they are given. -/
structure DumpOpts where
  number : Option Text
  interval : Option Text
  time : Option Text

/-- The interval is in milliseconds. Minus one is no limit. -/
structure SamplingTiming where
  interval : Int := 1000
  totalTimeSeconds : Int := -1
  iterations : Int := -1

def maxDumpTimeSeconds : Int := 100000000

/-- The number of rounds; -1 is for any number. -/
def parseIterations (opts : DumpOpts) : Option Int :=
  match opts.number with
  | none => some (-1)
  | some number => (parseInteger 0x80000000 number).filter (0 < ·)

/-- The time between two samples in milliseconds. -/
def parseInterval (opts : DumpOpts) (loopMs : Option Text) : Option Int := do
  let interval ← match opts.interval with
    | none => some 1000
    | some interval =>
      ((parseInteger 0x80000000 interval).filter fun sec => 0 < sec ∧ sec ≤ 20).map (· * 1000)
  match loopMs with
  | none => return interval
  | some loopMs => (parseInteger 0x80000000 loopMs).filter (0 < ·)

/-- The time of all samples; -1 is for no end. -/
def parseTotalTime (opts : DumpOpts) : Option Int :=
  match opts.time with
  | none => some (-1)
  | some time =>
    if opts.number.isSome then none
    else (parseInteger 0x8000000000000000 time).filter fun sec => 1 ≤ sec ∧ sec ≤ maxDumpTimeSeconds

/-- The options are checked one after the other, the number first and the time last. -/
def parseSamplingTiming (opts : DumpOpts) (loopMs : Option Text) : Option SamplingTiming := do
  let iterations ← parseIterations opts
  let interval ← parseInterval opts loopMs
  let totalTimeSeconds ← parseTotalTime opts
  return { iterations, interval, totalTimeSeconds }

/-! ## Loops

Times are in nanoseconds from the start. Nobody presses a key. -/

/-- How long the halves of the first sample take, and how late the sleeps behind them end. -/
structure FirstTimes where
  begin : Nat
  beginLate : Nat
  finish : Nat
  gapLate : Nat

/-- How long a sample takes, and how late the sleep of a round ends. -/
structure CycleTimes where
  collection : Nat
  late : Nat

/-- The samples are known by their starts. -/
structure Loop where
  now : Nat
  iter : Int
  samples : List Nat
  running : Bool

def nanoseconds (ms : Int) : Nat := ms.toNat * 1000000

/-- The first sample is over at its deadline or later. -/
def firstEnd (interval : Int) (times : FirstTimes) : Nat :=
  max times.begin (nanoseconds interval) + times.beginLate + times.finish

/-- `runOutputLoop` before the loop. -/
def firstSample (timing : SamplingTiming) (times : FirstTimes) : Loop :=
  let iter := if 0 < timing.iterations then timing.iterations - 1 else timing.iterations
  let running := decide ¬(0 < timing.iterations ∧ iter = 0)
  let now := firstEnd timing.interval times
  { iter, running, samples := [0]
    now := if running ∧ iter ≠ 0 then now + nanoseconds timing.interval + times.gapLate else now }

/-- A round of the loop. -/
def Loop.cycle (timing : SamplingTiming) (times : CycleTimes) (s : Loop) : Loop :=
  if s.running then
    let remainingSleep := timing.interval - times.collection / 1000000
    let now := s.now + times.collection +
      if 0 < remainingSleep then nanoseconds remainingSleep + times.late else 0
    let iter := if 0 < s.iter then s.iter - 1 else s.iter
    { now, iter, samples := s.samples ++ [s.now]
      running := !(0 < s.iter ∧ iter = 0 ∨
        0 < timing.totalTimeSeconds ∧ timing.totalTimeSeconds * 1000 ≤ now / 1000000) }
  else s

/-- The loop of `dump`, after some rounds. -/
def runOutputLoop (timing : SamplingTiming) (first : FirstTimes) (cycles : Nat → CycleTimes) : Nat → Loop
  | 0 => firstSample timing first
  | k + 1 => (runOutputLoop timing first cycles k).cycle timing (cycles k)

/-- `runQuery`, and `runQueryLoopMode` before the loop. The first sample is over after 200 ms or later. -/
def queryStart (count : Int) (times : FirstTimes) : Loop where
  now := firstEnd 200 times
  iter := if 1 < count then count - 1 else count
  samples := [0]
  running := count ≠ 1

/-- A round of the loop, where a counter that is not positive is left alone. -/
def Loop.queryCycle (loopMs : Int) (times : CycleTimes) (s : Loop) : Loop :=
  if s.running then
    let start := s.now + nanoseconds loopMs + times.late
    { now := start + times.collection
      iter := if 0 < s.iter then s.iter - 1 else s.iter
      samples := s.samples ++ [start]
      running := !(0 < s.iter ∧ s.iter - 1 = 0) }
  else s

/-- The loop of a query, after some rounds. -/
def runQueryLoopMode (fmt : QueryFormat) (first : FirstTimes) (cycles : Nat → CycleTimes) : Nat → Loop
  | 0 => queryStart fmt.count first
  | k + 1 => (runQueryLoopMode fmt first cycles k).queryCycle fmt.loopMs (cycles k)

/-- Each sample has a row for each device. -/
def rows (numDevices : Nat) (samples : List Nat) : List (Nat × Nat) :=
  samples.flatMap fun start => (List.range numDevices).map fun i => (i, start)

/-! ## What the loops should do -/

/-- The loop ends, with so many rows for each device. -/
def Emits (numDevices : Nat) (run : Nat → Loop) (n : Int) : Prop :=
  ∃ k, (run k).running = false ∧ ∀ i < numDevices,
    (((rows numDevices (run k).samples).filter fun row => row.1 = i).length : Int) = n

/-- A dump of a number of samples, or for some time. -/
structure DumpRight (timing : SamplingTiming) (numDevices : Nat) (run : Nat → Loop) : Prop where
  counted : 0 < timing.iterations → Emits numDevices run timing.iterations
  timed : 0 < timing.totalTimeSeconds → ∀ k, ∀ start ∈ (run k).samples.tail,
    (start : Int) < timing.totalTimeSeconds * 1000000000

/-- Dumps with the options, and queries with the arguments, that are accepted. -/
structure SamplesRight (opts : DumpOpts) (loopMs : Option Text) (pre : PreArgs) (formatStr : Text)
    (numDevices : Nat) (first : FirstTimes) (cycles : Nat → CycleTimes) : Prop where
  dump : ∀ timing, parseSamplingTiming opts loopMs = some timing →
    DumpRight timing numDevices (runOutputLoop timing first cycles)
  query : ∀ fmt, buildQueryFormat pre formatStr = some fmt → 0 < fmt.loopMs →
    ∀ count, Numerals.fromChars (pre.text .countStr) = some count → count ≠ 0 →
      Emits numDevices (runQueryLoopMode fmt first cycles) (max 1 count)

/-- The first sample and the sleep behind it end before the time is over. -/
def FirstInTime (timing : SamplingTiming) (first : FirstTimes) : Prop :=
  0 < timing.totalTimeSeconds →
    ((firstEnd timing.interval first + nanoseconds timing.interval + first.gapLate : Nat) : Int) <
      timing.totalTimeSeconds * 1000000000

/-! ## Rows -/

theorem length_filter_rows {numDevices i : Nat} (samples : List Nat) (h : i < numDevices) :
    ((rows numDevices samples).filter fun row => row.1 = i).length = samples.length := by
  have hone (start : Nat) :
      (((List.range numDevices).map fun i => (i, start)).filter fun row => row.1 = i).length = 1 := by
    rw [← List.countP_eq_length_filter, List.countP_map]
    exact (List.count_eq_countP ..).symm.trans (List.count_range.trans (if_pos h))
  rw [rows, List.filter_flatMap, List.length_flatMap]
  simp [hone]

/-! ## Loops that count down -/

section

variable {timing : SamplingTiming} {numDevices : Nat} {first : FirstTimes} {cycles : Nat → CycleTimes}
  {fmt : QueryFormat} {run : Nat → Loop}

/-- While the counter is positive, a round takes a sample, and the last one ends the loop. -/
theorem countdown {n m : Nat} (hround : ∀ k, (run k).running = true → 0 < (run k).iter →
      (run (k + 1)).iter = (run k).iter - 1 ∧
        (run (k + 1)).samples.length = (run k).samples.length + 1 ∧
        (run (k + 1)).running = decide ((run k).iter ≠ 1))
    (hrunning : (run n).running = true) (hiter : (run n).iter = m + 1) :
    (run (n + m + 1)).running = false ∧
      (run (n + m + 1)).samples.length = (run n).samples.length + m + 1 := by
  induction m generalizing n with
  | zero =>
    obtain ⟨-, hsamples, hrun⟩ := hround n hrunning (by omega)
    rw [hiter] at hrun
    exact ⟨hrun, hsamples⟩
  | succ m ih =>
    obtain ⟨hnext, hsamples, hrun⟩ := hround n hrunning (by omega)
    rw [hiter] at hrun hnext
    obtain ⟨hstop, hlength⟩ := ih (n := n + 1) (by rw [hrun]; exact decide_eq_true (by omega))
      (by rw [hnext]; omega)
    rw [show n + (m + 1) + 1 = n + 1 + m + 1 by omega]
    exact ⟨hstop, by omega⟩

theorem emits_of_length {k : Nat} {n : Int} (hstop : (run k).running = false)
    (hlength : ((run k).samples.length : Int) = n) : Emits numDevices run n := by
  refine ⟨k, hstop, fun i hi => ?_⟩
  rw [length_filter_rows _ hi, hlength]

/-! ## Dumps -/

/-- One round of the dump loop. -/
theorem dump_round (htime : ¬0 < timing.totalTimeSeconds) (k : Nat)
    (hrunning : (runOutputLoop timing first cycles k).running = true)
    (hiter : 0 < (runOutputLoop timing first cycles k).iter) :
    (runOutputLoop timing first cycles (k + 1)).iter = (runOutputLoop timing first cycles k).iter - 1 ∧
      (runOutputLoop timing first cycles (k + 1)).samples.length =
        (runOutputLoop timing first cycles k).samples.length + 1 ∧
      (runOutputLoop timing first cycles (k + 1)).running =
        decide ((runOutputLoop timing first cycles k).iter ≠ 1) := by
  rw [runOutputLoop, Loop.cycle, if_pos hrunning]
  refine ⟨if_pos hiter, List.length_append, ?_⟩
  dsimp only
  rw [if_pos hiter, ← decide_not, decide_eq_decide]
  simp only [htime, false_and, or_false, hiter, true_and]
  omega

/-- A number of samples is taken, and then the loop ends. -/
theorem dump_counted (hcount : 0 < timing.iterations) (htime : ¬0 < timing.totalTimeSeconds) :
    Emits numDevices (runOutputLoop timing first cycles) timing.iterations := by
  by_cases hone : timing.iterations = 1
  · have hstop : (runOutputLoop timing first cycles 0).running = false := by
      rw [runOutputLoop, firstSample, hone]
      rfl
    exact emits_of_length hstop hone.symm
  · obtain ⟨m, hm⟩ : ∃ m : Nat, timing.iterations = m + 2 := ⟨(timing.iterations - 2).toNat, by omega⟩
    have hrunning : (runOutputLoop timing first cycles 0).running = true := by
      rw [runOutputLoop, firstSample, if_pos hcount]
      exact decide_eq_true (by omega)
    have hiter : (runOutputLoop timing first cycles 0).iter = m + 1 := by
      rw [runOutputLoop, firstSample, if_pos hcount, hm]
      show (m : Int) + 2 - 1 = m + 1
      omega
    obtain ⟨hstop, hlength⟩ := countdown (dump_round htime) hrunning hiter
    refine emits_of_length hstop ?_
    rw [hlength, hm]
    have hfirst : (runOutputLoop timing first cycles 0).samples.length = 1 := rfl
    omega

theorem dump_samples_ne_nil (k : Nat) : (runOutputLoop timing first cycles k).samples ≠ [] := by
  induction k with
  | zero => exact List.cons_ne_nil 0 []
  | succ k ih =>
    rw [runOutputLoop, Loop.cycle]
    split
    case isTrue => exact List.append_ne_nil_of_left_ne_nil ih _
    case isFalse => exact ih

/-- Behind the first sample, each starts where the time was not over when it was looked at. -/
theorem dump_timed (htime : 0 < timing.totalTimeSeconds) (hcount : timing.iterations = -1)
    (hfirst : FirstInTime timing first) (k : Nat) :
    (∀ start ∈ (runOutputLoop timing first cycles k).samples.tail,
        (start : Int) < timing.totalTimeSeconds * 1000000000) ∧
      ((runOutputLoop timing first cycles k).running = true →
        ((runOutputLoop timing first cycles k).now : Int) < timing.totalTimeSeconds * 1000000000) := by
  induction k with
  | zero =>
    refine ⟨fun start hstart => absurd hstart List.not_mem_nil, fun _ => ?_⟩
    have hnow : (runOutputLoop timing first cycles 0).now =
        firstEnd timing.interval first + nanoseconds timing.interval + first.gapLate := by
      rw [runOutputLoop, firstSample, hcount]
      rfl
    rw [hnow]
    exact hfirst htime
  | succ k ih =>
    obtain ⟨hbefore, hnow⟩ := ih
    rw [runOutputLoop, Loop.cycle]
    by_cases hrunning : (runOutputLoop timing first cycles k).running = true
    · rw [if_pos hrunning]
      refine ⟨fun start hstart => ?_, fun hagain => ?_⟩
      · rw [List.tail_append_of_ne_nil (dump_samples_ne_nil k)] at hstart
        rcases List.mem_append.mp hstart with h | h
        · exact hbefore start h
        · rw [List.mem_singleton.mp h]
          exact hnow hrunning
      · dsimp only at hagain ⊢
        rw [Bool.not_eq_true', decide_eq_false_iff_not, not_or] at hagain
        have hearly := not_and.mp hagain.2 htime
        omega
    · rw [if_neg hrunning]
      exact ⟨hbefore, hnow⟩

/-! ## Queries -/

/-- One round of the query loop. -/
theorem query_round (k : Nat) (hrunning : (runQueryLoopMode fmt first cycles k).running = true)
    (hiter : 0 < (runQueryLoopMode fmt first cycles k).iter) :
    (runQueryLoopMode fmt first cycles (k + 1)).iter = (runQueryLoopMode fmt first cycles k).iter - 1 ∧
      (runQueryLoopMode fmt first cycles (k + 1)).samples.length =
        (runQueryLoopMode fmt first cycles k).samples.length + 1 ∧
      (runQueryLoopMode fmt first cycles (k + 1)).running =
        decide ((runQueryLoopMode fmt first cycles k).iter ≠ 1) := by
  rw [runQueryLoopMode, Loop.queryCycle, if_pos hrunning]
  refine ⟨if_pos hiter, List.length_append, ?_⟩
  dsimp only
  rw [← decide_not, decide_eq_decide]
  omega

/-- A bounded loop prints its count of cycles. -/
theorem query_counted (hcount : 0 < fmt.count) :
    Emits numDevices (runQueryLoopMode fmt first cycles) fmt.count := by
  by_cases hone : fmt.count = 1
  · have hstop : (runQueryLoopMode fmt first cycles 0).running = false := by
      rw [runQueryLoopMode, queryStart, hone]
      rfl
    exact emits_of_length hstop hone.symm
  · obtain ⟨m, hm⟩ : ∃ m : Nat, fmt.count = m + 2 := ⟨(fmt.count - 2).toNat, by omega⟩
    have hrunning : (runQueryLoopMode fmt first cycles 0).running = true := decide_eq_true hone
    have hiter : (runQueryLoopMode fmt first cycles 0).iter = m + 1 := by
      rw [runQueryLoopMode, queryStart]
      dsimp only
      rw [if_pos (by omega), hm]
      omega
    obtain ⟨hstop, hlength⟩ := countdown query_round hrunning hiter
    refine emits_of_length hstop ?_
    rw [hlength, hm]
    have hfirst : (runQueryLoopMode fmt first cycles 0).samples.length = 1 := rfl
    omega

/-- A negative counter is never zero. -/
theorem query_endless (hcount : fmt.count < 0) (k : Nat) :
    (runQueryLoopMode fmt first cycles k).running = true ∧ (runQueryLoopMode fmt first cycles k).iter < 0 := by
  induction k with
  | zero =>
    refine ⟨decide_eq_true (by omega), ?_⟩
    rw [runQueryLoopMode, queryStart]
    dsimp only
    rw [if_neg (by omega)]
    exact hcount
  | succ k ih =>
    rw [runQueryLoopMode, Loop.queryCycle, if_pos ih.1]
    dsimp only
    rw [if_neg (by omega)]
    refine ⟨?_, ih.2⟩
    rw [Bool.not_eq_true', decide_eq_false_iff_not]
    omega

/-! ## Both -/

theorem parseSamplingTiming_spec {opts : DumpOpts} {loopMs : Option Text}
    (h : parseSamplingTiming opts loopMs = some timing) :
    0 < timing.totalTimeSeconds → timing.iterations = -1 := by
  obtain ⟨iterations, hiterations, h⟩ := Option.bind_eq_some_iff.mp h
  obtain ⟨interval, -, h⟩ := Option.bind_eq_some_iff.mp h
  obtain ⟨totalTimeSeconds, htime, h⟩ := Option.bind_eq_some_iff.mp h
  obtain rfl := Option.some.inj h
  intro hpos
  rw [parseTotalTime] at htime
  rw [parseIterations] at hiterations
  cases hopt : opts.time with
  | none =>
    rw [hopt] at htime
    obtain rfl := Option.some.inj htime
    exact absurd (show (0 : Int) < -1 from hpos) (by decide)
  | some time =>
    rw [hopt] at htime
    cases hnumber : opts.number with
    | none =>
      rw [hnumber] at hiterations
      exact (Option.some.inj hiterations).symm
    | some number =>
      rw [hnumber] at htime
      exact nomatch htime

/-- A dump is right exactly if its first sample and the sleep behind it end in time. -/
theorem dumpRight_iff {opts : DumpOpts} {loopMs : Option Text}
    (h : parseSamplingTiming opts loopMs = some timing) :
    DumpRight timing numDevices (runOutputLoop timing first cycles) ↔ FirstInTime timing first := by
  constructor
  · intro hright htime
    have hcount := parseSamplingTiming_spec h htime
    have hsecond := hright.timed htime 1
    rw [runOutputLoop, runOutputLoop, firstSample, hcount] at hsecond
    exact hsecond _ (List.mem_singleton_self _)
  · intro hfirst
    constructor
    · intro hcount
      refine dump_counted hcount fun htime => ?_
      rw [parseSamplingTiming_spec h htime] at hcount
      exact absurd hcount (by decide)
    · intro htime k
      exact (dump_timed htime (parseSamplingTiming_spec h htime) hfirst k).1

end

/-- **The samples are right** exactly if every dump for some time gets over its first sample in time, and no
query has a negative count. -/
theorem samplesRight_iff (opts : DumpOpts) (loopMs : Option Text) (pre : PreArgs) (formatStr : Text)
    (numDevices : Nat) (first : FirstTimes) (cycles : Nat → CycleTimes) :
    SamplesRight opts loopMs pre formatStr numDevices first cycles ↔
      (∀ timing, parseSamplingTiming opts loopMs = some timing → FirstInTime timing first) ∧
        ∀ fmt, buildQueryFormat pre formatStr = some fmt → 0 < fmt.loopMs →
          ∀ count, Numerals.fromChars (pre.text .countStr) = some count → 0 ≤ count := by
  have hcount {fmt : QueryFormat} {n : Int} (hfmt : buildQueryFormat pre formatStr = some fmt)
      (hn : Numerals.fromChars (pre.text .countStr) = some n) : fmt.count = n := by
    obtain ⟨ms, -, rfl⟩ := Option.map_eq_some_iff.mp hfmt
    exact congrArg (Option.getD · 0) hn
  constructor
  · intro hright
    refine ⟨fun timing htiming => (dumpRight_iff htiming).mp (hright.dump timing htiming), ?_⟩
    intro fmt hfmt hloop n hn
    by_contra hneg
    obtain ⟨k, hstop, -⟩ := hright.query fmt hfmt hloop n hn (by omega)
    have hneg' : fmt.count < 0 := by
      rw [hcount hfmt hn]
      omega
    exact nomatch hstop.symm.trans (query_endless hneg' k).1
  · rintro ⟨htime, hnonneg⟩
    refine ⟨fun timing htiming => (dumpRight_iff htiming).mpr (htime timing htiming), ?_⟩
    intro fmt hfmt hloop n hn hne
    have hpos : 0 < n := by
      have := hnonneg fmt hfmt hloop n hn
      omega
    rw [max_eq_right (by omega), ← hcount hfmt hn]
    exact query_counted (by rw [hcount hfmt hn]; exact hpos)

/-- A query that is repeated minus one times. -/
def endlessArgs : PreArgs where
  text
    | .loopStr => ['1']
    | .countStr => ['-', '1']
    | _ => []

/-- A dump for one second with the usual interval takes a second sample after two, and a query with a
negative count does not end. -/
theorem samples_not_right :
    (¬∀ pre formatStr, SamplesRight ⟨none, none, some ['1']⟩ none pre formatStr 1 ⟨0, 0, 0, 0⟩
        fun _ => ⟨0, 0⟩) ∧
      ¬SamplesRight ⟨none, none, none⟩ none endlessArgs [] 1 ⟨0, 0, 0, 0⟩ fun _ => ⟨0, 0⟩ := by
  constructor
  · intro h
    have hdump := (h {} []).dump { totalTimeSeconds := 1 } rfl
    exact absurd (hdump.timed (by decide) 1 2000000000 (by decide)) (by decide)
  · intro hright
    obtain ⟨k, hstop, -⟩ := hright.query _ rfl (by decide) (-1) rfl (by decide)
    exact nomatch hstop.symm.trans (query_endless (by decide) k).1

end DumpSampling

end XpuManager
