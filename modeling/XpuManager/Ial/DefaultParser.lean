import XpuManager.Ial.ConfigSetters
import XpuManager.Lib.Scans

/-! # The options of queries

Some options are taken out of the arguments before the others are parsed
(`ial/cli/parser/default_parser.cpp`). -/

namespace XpuManager

namespace DefaultParser

open Scans ConfigSetters

/-! ## Options -/

/-- The texts of `PreArgs`, less that of the query. -/
inductive PreField where
  | deviceSpec
  | displayType
  | loopStr
  | countStr
  | logFilePath
  deriving DecidableEq

structure PreArgs where
  queryGpuFlag : Bool := false
  queryGpu : Text := []
  text : PreField → Text := fun _ => []
  loopInMs : Bool := false

/-- `flagSpec`: a flag, its short form, and the field for its value. -/
structure FlagSpec where
  longName : Text
  shortFlag : Text := []
  value : PreField
  /-- `matchedFlag` is `loopInMs`. -/
  setsLoopInMs : Bool := false
  /-- Empty if there has to be a value. -/
  defaultIfBare : Text := []
  deriving DecidableEq

/-- The flags that the parser knows, but for `--query-gpu`. -/
def flagSpecs : List FlagSpec :=
  [{ longName := "--id".toList, value := .deviceSpec },
    { longName := "--device".toList, value := .deviceSpec },
    { longName := "--display".toList, value := .displayType },
    { longName := "--metrics".toList, value := .displayType },
    { longName := "--loop-ms".toList, value := .loopStr, setsLoopInMs := true },
    { longName := "--loop".toList, value := .loopStr, defaultIfBare := "1".toList },
    { longName := "--count".toList, value := .countStr },
    { longName := "--file".toList, shortFlag := "-f".toList, value := .logFilePath }]

def queryGpuEqPrefix : Text := "--query-gpu=".toList

def queryGpuName : Text := "--query-gpu".toList

/-- What one round of the loop finds. -/
inductive Item where
  | queryGpu (value : Option Text)
  | flag (spec : FlagSpec) (value : Text)
  | arg (a : Text)
  deriving DecidableEq

/-- What follows a name and its equals sign. -/
def inlineValue (longName a : Text) : Option Text :=
  if longName.length < a.length ∧ longName <+: a ∧ a[longName.length]? = some '=' then
    some (a.drop (longName.length + 1))
  else none

/-- What follows a short name, less an equals sign. -/
def shortValue (shortFlag a : Text) : Option Text :=
  if shortFlag ≠ [] ∧ shortFlag <+: a ∧ shortFlag.length < a.length then
    let val := a.drop shortFlag.length
    some (if val.head? = some '=' then val.tail else val)
  else none

/-- The value, and whether it is the next argument. -/
def tryExtractFlag (spec : FlagSpec) (a : Text) (next : Option Text) : Option (Text × Bool) :=
  match inlineValue spec.longName a with
  | some value => some (value, false)
  | none =>
    match shortValue spec.shortFlag a with
    | some value => some (value, false)
    | none =>
      if a = spec.longName ∨ spec.shortFlag ≠ [] ∧ a = spec.shortFlag then
        match next with
        | some value => some (value, true)
        | none => if spec.defaultIfBare ≠ [] then some (spec.defaultIfBare, false) else none
      else none

/-- The text begins with a dash. -/
def Dashed (a : Text) : Prop := a.head? = some '-'

instance (a : Text) : Decidable (Dashed a) := inferInstanceAs (Decidable (_ = _))

/-- One round of the loop, and whether it takes the next argument too. -/
def nextItem (a : Text) (next : Option Text) : Item × Bool :=
  if queryGpuEqPrefix <+: a then (.queryGpu (some (a.drop queryGpuEqPrefix.length)), false)
  else if a = queryGpuName then
    match next with
    | some value => if ¬Dashed value then (.queryGpu (some value), true) else (.queryGpu none, false)
    | none => (.queryGpu none, false)
  else
    match flagSpecs.findSome? fun spec => (tryExtractFlag spec a next).map fun found => (spec, found) with
    | some (spec, value, advances) => (.flag spec value, advances)
    | none => (.arg a, false)

def PreArgs.add (pre : PreArgs) : Item → PreArgs
  | .queryGpu none => { pre with queryGpuFlag := true }
  | .queryGpu (some value) => { pre with queryGpuFlag := true, queryGpu := value }
  | .flag spec value =>
    { pre with text := Function.update pre.text spec.value value
               loopInMs := pre.loopInMs || spec.setsLoopInMs }
  | .arg _ => pre

/-- The argument that is left to be parsed. -/
def Item.arg? : Item → Option Text
  | .arg a => some a
  | _ => none

/-- What a loop finds in the arguments. -/
def itemsOf (round : Text → Option Text → Item × Bool) (args : List Text) : List Item :=
  (met (fun a next => (round a next).2) args).map fun p => (round p.1 p.2).1

/-- The first argument is the name of the program. -/
def extractPreArgs (argv : List Text) : PreArgs × List Text :=
  let items := itemsOf nextItem argv.tail
  (items.foldl PreArgs.add {}, items.filterMap Item.arg?)

/-! ## Loops of queries -/

/-- How the answer to a query is written. -/
structure QueryFormat where
  noheader : Bool := false
  nounits : Bool := false
  json : Bool := false
  loopMs : Int := 0
  count : Int := 0
  deriving DecidableEq

/-- What is not read, or is not positive, becomes one. -/
def intervalSec (loopStr : Text) : Int :=
  match Numerals.fromChars loopStr with
  | some interval => if interval ≤ 0 then 1 else interval
  | none => 1

/-- The product may overflow. -/
def loopMs (loopStr : Text) (loopInMs : Bool) : Option Int :=
  if loopStr = [] then some 0
  else if loopInMs then some (intervalSec loopStr)
  else if intervalSec loopStr * 1000 < 0x80000000 then some (intervalSec loopStr * 1000) else none

/-- The number of rounds, 0 where there is none. -/
def count (pre : PreArgs) : Int := (Numerals.fromChars (pre.text .countStr)).getD 0

/-- `none` if the behaviour is undefined. -/
def buildQueryFormat (pre : PreArgs) (formatStr : Text) : Option QueryFormat :=
  let words := formatStr.splitOn ','
  (loopMs (pre.text .loopStr) pre.loopInMs).map fun loopMs =>
    { noheader := "noheader".toList ∈ words
      nounits := "nounits".toList ∈ words ∨ "nounit".toList ∈ words
      loopMs, count := count pre }

/-! ## What the options say -/

/-- How a flag stands in an argument. -/
inductive FlagForm where
  | withValue (value : Text)
  | bare
  deriving DecidableEq

/-- The form in which an argument gives the flag, if it does. -/
def FlagSpec.form (spec : FlagSpec) (a : Text) : Option FlagForm :=
  match inlineValue spec.longName a with
  | some value => some (.withValue value)
  | none =>
    match shortValue spec.shortFlag a with
    | some value => some (.withValue value)
    | none =>
      if a = spec.longName ∨ spec.shortFlag ≠ [] ∧ a = spec.shortFlag then some .bare else none

/-- The next argument, if it does not begin with a dash. -/
def undashed (next : Option Text) : Option Text := next.filter fun value => ¬Dashed value

/-- An argument of its own, and whether the next one is its value. A value that may be left out does not
begin with a dash. Without the value that it needs, a flag is no flag. -/
def readItem (a : Text) (next : Option Text) : Item × Bool :=
  if queryGpuEqPrefix <+: a then (.queryGpu (some (a.drop queryGpuEqPrefix.length)), false)
  else if a = queryGpuName then
    match undashed next with
    | some value => (.queryGpu (some value), true)
    | none => (.queryGpu none, false)
  else
    match flagSpecs.findSome? fun spec => (spec.form a).map fun form => (spec, form) with
    | none => (.arg a, false)
    | some (spec, FlagForm.withValue value) => (.flag spec value, false)
    | some (spec, FlagForm.bare) =>
      if spec.defaultIfBare = [] then
        match next with
        | some value => (.flag spec value, true)
        | none => (.arg a, false)
      else
        match undashed next with
        | some value => (.flag spec value, true)
        | none => (.flag spec spec.defaultIfBare, false)

def loopName : Text := "--loop".toList

/-- No flag whose value is optional takes an argument with a dash, and what is left are the arguments
that are neither flags nor their values. -/
def Extracts (argv : List Text) : Prop :=
  (∀ p ∈ met (fun a next => (nextItem a next).2) argv.tail, p.1 = loopName ∨ p.1 = queryGpuName →
    ∀ value ∈ p.2, Dashed value → (nextItem p.1 p.2).2 = false) ∧
  (extractPreArgs argv).2 = (itemsOf readItem argv.tail).filterMap Item.arg?

/-- The value of a flag for the interval, and whether it is in milliseconds. -/
def Item.loop? : Item → Option (Bool × Text)
  | .flag spec value => if spec.value = .loopStr then some (spec.setsLoopInMs, value) else none
  | _ => none

/-- A number that an interval may have. -/
def Interval (value : Text) (n : Nat) : Prop := Decimal value n ∧ 0 < n ∧ n < 0x80000000

/-- The interval is that of the last flag in its own unit. An invalid one is one second, or any time for
milliseconds. -/
def IntervalRight (last : Option (Bool × Text)) (run : Option QueryFormat) : Prop :=
  ∀ inMs value, last = some (inMs, value) →
    ∃ fmt, run = some fmt ∧ 0 < fmt.loopMs ∧ fmt.loopMs < 0x80000000 ∧
      (∀ n, Interval value n → fmt.loopMs = if inMs then (n : Int) else n * 1000) ∧
      ((∀ n, ¬Interval value n) → inMs = false → fmt.loopMs = 1000)

/-- No `--loop` without a value is followed by an argument with a dash. -/
def NoneSwallowed (argv : List Text) : Prop :=
  ∀ p ∈ met (fun a next => (readItem a next).2) argv.tail, p.1 = loopName → ∀ value ∈ p.2, ¬Dashed value

/-- A value in seconds is short enough and there is none in milliseconds; one that is invalid has no
number in front other than one. -/
def SecondsFit (value : Text) (anyMs : Bool) : Prop :=
  (∀ n, Interval value n → anyMs = false ∧ n * 1000 < 0x80000000) ∧
    ((∀ n, ¬Interval value n) →
      if anyMs then Numerals.fromChars value = some 1000
      else ∀ k, Numerals.fromChars value = some k → 0 < k → k = 1)

/-- The last value is not empty, and fits if it is in seconds. -/
def IntervalFits (loops : List (Bool × Text)) : Prop :=
  ∀ inMs value, loops.getLast? = some (inMs, value) →
    value ≠ [] ∧ (inMs = false → SecondsFit value (loops.any Prod.fst))

/-- The flags for the interval. -/
def loopsOf (argv : List Text) : List (Bool × Text) := (itemsOf readItem argv.tail).filterMap Item.loop?

/-! ## Flags -/

section

variable {spec spec' : FlagSpec} {a value : Text} {next : Option Text} {argv : List Text}

theorem tryExtractFlag_eq (spec : FlagSpec) (a : Text) (next : Option Text) :
    tryExtractFlag spec a next = (spec.form a).bind fun form =>
      match form with
      | .withValue value => some (value, false)
      | .bare =>
        match next with
        | some value => some (value, true)
        | none => if spec.defaultIfBare ≠ [] then some (spec.defaultIfBare, false) else none := by
  rw [tryExtractFlag.eq_def, FlagSpec.form]
  cases inlineValue spec.longName a with
  | some value => rfl
  | none =>
    cases shortValue spec.shortFlag a with
    | some value => rfl
    | none =>
      dsimp only
      split
      case isTrue => rfl
      case isFalse => rfl

/-- Only one flag has a bare form. -/
theorem form_bare (h : spec.form a = some .bare) :
    a = spec.longName ∨ spec.shortFlag ≠ [] ∧ a = spec.shortFlag := by
  rw [FlagSpec.form] at h
  split at h
  case h_1 => cases h
  case h_2 =>
    split at h
    case h_1 => cases h
    case h_2 =>
      split at h
      case isTrue hbare => exact hbare
      case isFalse => cases h

theorem form_eq_none_of_bare (hspec : spec ∈ flagSpecs) (hspec' : spec' ∈ flagSpecs) (hne : spec' ≠ spec)
    (h : spec.form a = some .bare) : spec'.form a = none := by
  have hall : ∀ spec ∈ flagSpecs, ∀ spec' ∈ flagSpecs, spec' ≠ spec →
      spec'.form spec.longName = none ∧ (spec.shortFlag ≠ [] → spec'.form spec.shortFlag = none) := by
    decide +kernel
  rcases form_bare h with rfl | ⟨hshort, rfl⟩
  · exact (hall spec hspec spec' hspec' hne).1
  · exact (hall spec hspec spec' hspec' hne).2 hshort

/-- Only `--loop` needs no value. -/
theorem eq_loopName_of_bare (hspec : spec ∈ flagSpecs) (hdefault : spec.defaultIfBare ≠ [])
    (h : spec.form a = some .bare) : a = loopName := by
  have hall : ∀ spec ∈ flagSpecs, spec.defaultIfBare ≠ [] →
      spec.longName = loopName ∧ spec.shortFlag = [] := by decide
  obtain ⟨hlong, hshort⟩ := hall spec hspec hdefault
  rcases form_bare h with ha | ⟨hne, -⟩
  · rw [ha, hlong]
  · exact absurd hshort hne

/-- The value of `--loop` is the next argument, whatever that is. -/
theorem nextItem_loopName (value : Text) : (nextItem loopName (some value)).2 = true := rfl

theorem undashed_of_dashed (h : Dashed value) : undashed (some value) = none := by simp [undashed, h]

theorem undashed_of_not (h : ¬Dashed value) : undashed (some value) = some value := by
  simp [undashed, h]

theorem readItem_loopName (h : Dashed value) : (readItem loopName (some value)).2 = false := by
  have hread : readItem loopName (some value) =
      match undashed (some value) with
      | some value => (.flag { longName := loopName, value := .loopStr, defaultIfBare := ['1'] } value, true)
      | none => (.flag { longName := loopName, value := .loopStr, defaultIfBare := ['1'] } ['1'], false) :=
    rfl
  rw [hread, undashed_of_dashed h]

/-- Otherwise, a round of the loop finds what the arguments say. -/
theorem nextItem_eq_readItem (h : a = loopName → ∀ value ∈ next, ¬Dashed value) :
    nextItem a next = readItem a next := by
  rw [nextItem.eq_def, readItem.eq_def]
  split
  case isTrue => rfl
  case isFalse =>
    split
    case isTrue =>
      cases next with
      | none => rfl
      | some value =>
        by_cases hdashed : Dashed value
        · rw [undashed_of_dashed hdashed]
          exact if_neg (not_not.mpr hdashed)
        · rw [undashed_of_not hdashed]
          exact if_pos hdashed
    case isFalse =>
      cases hform : flagSpecs.findSome? fun spec => (spec.form a).map fun form => (spec, form) with
      | none =>
        rw [List.findSome?_eq_none_iff] at hform
        have hnone : (flagSpecs.findSome? fun spec =>
            (tryExtractFlag spec a next).map fun found => (spec, found)) = none := by
          refine List.findSome?_eq_none_iff.mpr fun spec hspec => ?_
          rw [tryExtractFlag_eq, Option.map_eq_none_iff.mp (hform spec hspec)]
          rfl
        rw [hnone]
      | some found =>
        obtain ⟨spec, form⟩ := found
        obtain ⟨before, spec', after, hsplit, hfirst, hbefore⟩ := List.findSome?_eq_some_iff.mp hform
        obtain ⟨form', hspec, hpair⟩ := Option.map_eq_some_iff.mp hfirst
        obtain ⟨rfl, rfl⟩ := Prod.mk.inj hpair
        have hmem : spec' ∈ flagSpecs := hsplit ▸ List.mem_append_right _ List.mem_cons_self
        -- What the first flag with a form gives is what the loop finds.
        have hfound : ∀ found, tryExtractFlag spec' a next = some found →
            (flagSpecs.findSome? fun spec =>
              (tryExtractFlag spec a next).map fun found => (spec, found)) = some (spec', found) := by
          intro found hfound
          refine List.findSome?_eq_some_iff.mpr ⟨before, spec', after, hsplit, by rw [hfound]; rfl, ?_⟩
          intro spec hspec'
          rw [tryExtractFlag_eq, Option.map_eq_none_iff.mp (hbefore spec hspec')]
          rfl
        rw [tryExtractFlag_eq, hspec, Option.bind_some] at hfound
        cases form' with
        | withValue value => rw [hfound (value, false) rfl]
        | bare =>
          dsimp only at hfound ⊢
          by_cases hdefault : spec'.defaultIfBare = []
          · rw [if_pos hdefault]
            cases next with
            | none =>
              have hnone : (flagSpecs.findSome? fun spec =>
                  (tryExtractFlag spec a none).map fun found => (spec, found)) = none := by
                refine List.findSome?_eq_none_iff.mpr fun spec hspec' => ?_
                rw [tryExtractFlag_eq]
                by_cases hne : spec = spec'
                · rw [hne, hspec]
                  exact Option.map_eq_none_iff.mpr (if_neg (not_not.mpr hdefault))
                · rw [form_eq_none_of_bare hmem hspec' hne hspec]
                  rfl
              rw [hnone]
            | some value => rw [hfound (value, true) rfl]
          · rw [if_neg hdefault]
            cases next with
            | none => rw [hfound (spec'.defaultIfBare, false) (if_pos hdefault)]; rfl
            | some value =>
              have hdashed := h (eq_loopName_of_bare hmem hdefault hspec) value rfl
              rw [hfound (value, true) rfl, undashed_of_not hdashed]

/-- The loop finds what the arguments say as long as it takes no argument with a dash for `--loop`. -/
theorem itemsOf_nextItem (h : NoneSwallowed argv) :
    met (fun a next => (nextItem a next).2) argv.tail = met (fun a next => (readItem a next).2) argv.tail ∧
      itemsOf nextItem argv.tail = itemsOf readItem argv.tail := by
  have hround : ∀ p ∈ met (fun a next => (readItem a next).2) argv.tail,
      nextItem p.1 p.2 = readItem p.1 p.2 := fun p hp => nextItem_eq_readItem (h p hp)
  have hmet : met (fun a next => (nextItem a next).2) argv.tail =
      met (fun a next => (readItem a next).2) argv.tail :=
    (met_congr fun p hp => congrArg Prod.snd (hround p hp).symm).symm
  refine ⟨hmet, ?_⟩
  rw [itemsOf, itemsOf, hmet]
  exact List.map_congr_left fun p hp => congrArg Prod.fst (hround p hp)

/-- A flag that may stand alone leaves an argument with a dash. -/
theorem readItem_of_dashed (hname : a = loopName ∨ a = queryGpuName) (h : Dashed value) :
    (readItem a (some value)).2 = false := by
  rcases hname with rfl | rfl
  · exact readItem_loopName h
  · have hread : readItem queryGpuName (some value) =
        match undashed (some value) with
        | some value => (.queryGpu (some value), true)
        | none => (.queryGpu none, false) := rfl
    rw [hread, undashed_of_dashed h]

/-- **The arguments are extracted as they say** exactly if no `--loop` swallows one. -/
theorem extracts_iff : Extracts argv ↔ NoneSwallowed argv := by
  constructor
  · rintro ⟨hkeeps, -⟩ p hp hname value hvalue hdashed
    have hround : ∀ p ∈ met (fun a next => (nextItem a next).2) argv.tail,
        nextItem p.1 p.2 = readItem p.1 p.2 := by
      intro p hp
      refine nextItem_eq_readItem fun hname value hvalue hdashed => ?_
      have hkeep := hkeeps p hp (.inl hname) value hvalue hdashed
      rw [hname, Option.mem_def.mp hvalue, nextItem_loopName] at hkeep
      cases hkeep
    have hmet : met (fun a next => (nextItem a next).2) argv.tail =
        met (fun a next => (readItem a next).2) argv.tail :=
      met_congr fun p hp => congrArg Prod.snd (hround p hp)
    rw [← hmet] at hp
    have hkeep := hkeeps p hp (.inl hname) value hvalue hdashed
    rw [hname, Option.mem_def.mp hvalue, nextItem_loopName] at hkeep
    cases hkeep
  · intro h
    obtain ⟨hmet, hitems⟩ := itemsOf_nextItem h
    refine ⟨fun p hp hname value hvalue hdashed => ?_, ?_⟩
    · rw [hmet] at hp
      rw [nextItem_eq_readItem (h p hp), Option.mem_def.mp hvalue]
      exact readItem_of_dashed hname hdashed
    · rw [extractPreArgs, hitems]

end

/-! ## Intervals -/

section

variable {items : List Item} {value : Text} {n : Nat} {k : Int}

/-- The flags of an item are those of the list. -/
def Item.Known (item : Item) : Prop := ∀ spec value, item = .flag spec value → spec ∈ flagSpecs

/-- What is read off the line is one of the known options. -/
theorem readItem_known (a : Text) (next : Option Text) : (readItem a next).1.Known := by
  intro spec value hitem
  rw [readItem.eq_def] at hitem
  split at hitem
  case isTrue => cases hitem
  case isFalse =>
    split at hitem
    case isTrue => split at hitem <;> cases hitem
    case isFalse =>
      have hmem : ∀ {spec' form}, (flagSpecs.findSome? fun spec =>
          (spec.form a).map fun form => (spec, form)) = some (spec', form) → spec' ∈ flagSpecs := by
        intro spec' form hform
        obtain ⟨before, spec'', after, hsplit, hfirst, -⟩ := List.findSome?_eq_some_iff.mp hform
        obtain ⟨form', -, hpair⟩ := Option.map_eq_some_iff.mp hfirst
        obtain ⟨rfl, -⟩ := Prod.mk.inj hpair
        exact hsplit ▸ List.mem_append_right _ List.mem_cons_self
      split at hitem
      case h_1 => cases hitem
      case h_2 spec' value' hform =>
        obtain ⟨rfl, -⟩ := Item.flag.inj hitem
        exact hmem hform
      case h_3 spec' hform =>
        split at hitem
        case isTrue =>
          split at hitem
          case h_1 =>
            obtain ⟨rfl, -⟩ := Item.flag.inj hitem
            exact hmem hform
          case h_2 => cases hitem
        case isFalse =>
          split at hitem
          case h_1 =>
            obtain ⟨rfl, -⟩ := Item.flag.inj hitem
            exact hmem hform
          case h_2 =>
            obtain ⟨rfl, -⟩ := Item.flag.inj hitem
            exact hmem hform

theorem add_text (pre : PreArgs) (item : Item) : (pre.add item).text .loopStr =
    (item.loop?.map Prod.snd).getD (pre.text .loopStr) := by
  cases item with
  | queryGpu value => cases value <;> rfl
  | arg a => rfl
  | flag spec value =>
    rw [PreArgs.add, Item.loop?]
    by_cases hvalue : spec.value = .loopStr
    · rw [if_pos hvalue, hvalue]
      dsimp only
      rw [Function.update_self]
      rfl
    · rw [if_neg hvalue]
      dsimp only
      rw [Function.update_of_ne (Ne.symm hvalue)]
      rfl

theorem add_loopInMs (pre : PreArgs) {item : Item} (h : item.Known) :
    (pre.add item).loopInMs = (pre.loopInMs || item.loop?.any Prod.fst) := by
  cases item with
  | queryGpu value => cases value <;> simp [PreArgs.add, Item.loop?]
  | arg a => simp [PreArgs.add, Item.loop?]
  | flag spec value =>
    have hall : ∀ spec ∈ flagSpecs, spec.setsLoopInMs = true → spec.value = .loopStr := by decide
    rw [PreArgs.add, Item.loop?]
    by_cases hvalue : spec.value = .loopStr
    · rw [if_pos hvalue]
      rfl
    · have hsets : spec.setsLoopInMs = false :=
        Bool.eq_false_iff.mpr fun hsets => hvalue (hall spec (h spec value rfl) hsets)
      rw [if_neg hvalue, hsets]
      rfl

/-- The last value of a flag for the interval is kept. -/
theorem foldl_add_text (pre : PreArgs) : (items.foldl PreArgs.add pre).text .loopStr =
    ((items.filterMap Item.loop?).getLast?.map Prod.snd).getD (pre.text .loopStr) := by
  induction items using List.reverseRecOn with
  | nil => rfl
  | append_singleton items item ih =>
    rw [List.foldl_concat, add_text, ih, List.filterMap_append]
    cases hloop : item.loop? with
    | none => simp [hloop]
    | some loop => simp [hloop]

/-- Milliseconds stay, also for later values. -/
theorem foldl_add_loopInMs (pre : PreArgs) (h : ∀ item ∈ items, item.Known) :
    (items.foldl PreArgs.add pre).loopInMs =
      (pre.loopInMs || (items.filterMap Item.loop?).any Prod.fst) := by
  induction items using List.reverseRecOn with
  | nil => exact (Bool.or_false _).symm
  | append_singleton items item ih =>
    rw [List.forall_mem_append, List.forall_mem_singleton] at h
    rw [List.foldl_concat, add_loopInMs _ h.2, ih h.1, List.filterMap_append, List.any_append,
      Bool.or_assoc]
    cases hloop : item.loop? <;> simp [hloop]

theorem fromChars_of_decimal (h : Decimal value n) (hn : n < 0x80000000) :
    Numerals.fromChars value = some (n : Int) := by
  obtain ⟨⟨hne, hdigits⟩, rfl⟩ := h
  obtain ⟨c, cs, rfl⟩ := List.exists_cons_of_ne_nil hne
  have hc : ¬(c :: cs).head? = some '-' := by
    intro hdash
    obtain rfl := Option.some.inj hdash
    exact absurd (hdigits _ List.mem_cons_self) (by decide)
  have hleading : Numerals.leadingDigits 10 (c :: cs) ≠ [] := by
    rw [Numerals.leadingDigits, Numerals.digit_of_isDigit (hdigits c List.mem_cons_self)]
    exact List.cons_ne_nil _ _
  rw [Numerals.fromChars, if_neg hc]
  exact Option.ite_none_right_eq_some.mpr ⟨⟨hleading, by rw [if_neg hc]; omega⟩, by rw [if_neg hc]⟩

theorem fromChars_lt (h : Numerals.fromChars value = some k) : k < 0x80000000 := by
  obtain ⟨hrange, hk⟩ := Option.ite_none_right_eq_some.mp h
  exact Option.some.inj hk ▸ hrange.2.2

/-- A number that is positive is taken, and nothing else is. -/
theorem intervalSec_cases (value : Text) :
    (∃ k, Numerals.fromChars value = some k ∧ 0 < k ∧ intervalSec value = k) ∨
      ((∀ k, Numerals.fromChars value = some k → k ≤ 0) ∧ intervalSec value = 1) := by
  rw [intervalSec]
  cases hread : Numerals.fromChars value with
  | none => exact .inr ⟨nofun, rfl⟩
  | some k =>
    by_cases hk : k ≤ 0
    · exact .inr ⟨fun k' hk' => Option.some.inj hk' ▸ hk, if_pos hk⟩
    · exact .inl ⟨k, rfl, Int.not_le.mp hk, if_neg hk⟩

theorem intervalSec_of_interval (h : Interval value n) : intervalSec value = n := by
  have hread := fromChars_of_decimal h.1 h.2.2
  rw [intervalSec, hread]
  exact if_neg (by have := h.2.1; omega)

theorem intervalSec_pos (value : Text) : 0 < intervalSec value ∧ intervalSec value < 0x80000000 := by
  rcases intervalSec_cases value with ⟨k, hread, hk, hvalue⟩ | ⟨-, hvalue⟩
  · rw [hvalue]
    exact ⟨hk, fromChars_lt hread⟩
  · rw [hvalue]
    decide

theorem intervalSec_eq_one_iff : intervalSec value = 1 ↔
    ∀ k, Numerals.fromChars value = some k → 0 < k → k = 1 := by
  rcases intervalSec_cases value with ⟨k, hread, hk, hvalue⟩ | ⟨hnone, hvalue⟩
  · rw [hvalue, hread]
    constructor
    · intro hone k' hk' _
      rw [← Option.some.inj hk', hone]
    · intro h
      exact h k rfl hk
  · exact iff_of_true hvalue fun k hread hk => absurd (hnone k hread) (Int.not_le.mpr hk)

theorem intervalSec_eq_thousand_iff : intervalSec value = 1000 ↔ Numerals.fromChars value = some 1000 := by
  rcases intervalSec_cases value with ⟨k, hread, hk, hvalue⟩ | ⟨hnone, hvalue⟩
  · rw [hvalue, hread, Option.some_inj]
  · rw [hvalue]
    exact iff_of_false (by decide) fun hread => absurd (hnone 1000 hread) (by decide)

/-- What is asked of a time, once it is known. -/
theorem exists_loopMs_iff {ms : Int} {P : Int → Prop} : (∃ ms', some ms = some ms' ∧ P ms') ↔ P ms := by
  simp

/-- The time of one value. -/
theorem loopMs_right_iff {inMs anyMs : Bool} (h : inMs = true → anyMs = true) :
    (∃ ms, loopMs value anyMs = some ms ∧ 0 < ms ∧ ms < 0x80000000 ∧
      (∀ n, Interval value n → ms = if inMs then (n : Int) else n * 1000) ∧
      ((∀ n, ¬Interval value n) → inMs = false → ms = 1000)) ↔
      value ≠ [] ∧ (inMs = false → SecondsFit value anyMs) := by
  rw [loopMs]
  by_cases hempty : value = []
  · rw [if_pos hempty]
    refine iff_of_false ?_ fun hfits => hfits.1 hempty
    rintro ⟨ms, hms, hpos, -⟩
    obtain rfl := Option.some.inj hms
    exact absurd hpos (by decide)
  rw [if_neg hempty, and_iff_right hempty]
  obtain ⟨hpos, hlt⟩ := intervalSec_pos value
  by_cases hvalid : ∃ n, Interval value n
  · obtain ⟨n, hn⟩ := hvalid
    have hall : ∀ {P : Nat → Prop}, (∀ n', Interval value n' → P n') ↔ P n := by
      intro P
      exact ⟨fun hP => hP n hn, fun hP n' hn' => hn.1.2.symm.trans hn'.1.2 ▸ hP⟩
    have hn' := hn.2
    rw [intervalSec_of_interval hn]
    simp only [SecondsFit, hall, false_implies, and_true]
    cases anyMs with
    | true =>
      rw [if_pos rfl, exists_loopMs_iff]
      cases inMs with
      | true => exact iff_of_true ⟨by omega, by omega, rfl⟩ nofun
      | false =>
        refine iff_of_false (fun hright => ?_) fun hfits => nomatch (hfits rfl).1
        have hthousand : (n : Int) = n * 1000 := hright.2.2
        omega
    | false =>
      obtain rfl : inMs = false := Bool.eq_false_iff.mpr fun hms => nomatch h hms
      rw [if_neg Bool.false_ne_true]
      by_cases hfits : (n : Int) * 1000 < 0x80000000
      · rw [if_pos hfits, exists_loopMs_iff]
        exact iff_of_true ⟨by omega, hfits, rfl⟩ fun _ => ⟨rfl, by omega⟩
      · rw [if_neg hfits]
        refine iff_of_false (fun ⟨_, hnone, _⟩ => nomatch hnone) fun hright => hfits ?_
        have := (hright rfl).2
        omega
  · have hnone : ∀ n, ¬Interval value n := fun n hn => hvalid ⟨n, hn⟩
    have hnever : ∀ {P : Nat → Prop}, ∀ n, Interval value n → P n := fun n hn => absurd hn (hnone n)
    cases anyMs with
    | true =>
      rw [if_pos rfl, exists_loopMs_iff]
      cases inMs with
      | true => exact iff_of_true ⟨hpos, hlt, hnever, nofun⟩ nofun
      | false =>
        constructor
        · rintro ⟨-, -, -, hms⟩ -
          exact ⟨hnever, fun _ => intervalSec_eq_thousand_iff.mp (hms hnone rfl)⟩
        · intro hfits
          exact ⟨hpos, hlt, hnever, fun _ _ => intervalSec_eq_thousand_iff.mpr ((hfits rfl).2 hnone)⟩
    | false =>
      obtain rfl : inMs = false := Bool.eq_false_iff.mpr fun hms => nomatch h hms
      rw [if_neg Bool.false_ne_true]
      constructor
      · rintro ⟨ms, hms, -, -, -, hthousand⟩ -
        obtain ⟨-, hms⟩ := Option.ite_none_right_eq_some.mp hms
        have hone : intervalSec value * 1000 = 1000 := (Option.some.inj hms).trans (hthousand hnone rfl)
        exact ⟨hnever, fun _ => intervalSec_eq_one_iff.mp (by omega)⟩
      · intro hfits
        have hone : intervalSec value = 1 := intervalSec_eq_one_iff.mpr ((hfits rfl).2 hnone)
        rw [hone, if_pos (by decide), exists_loopMs_iff]
        exact ⟨by decide, by decide, hnever, fun _ _ => rfl⟩

/-- The interval of the flags that are found. -/
theorem intervalRight_iff (h : ∀ item ∈ items, item.Known) (formatStr : Text) :
    IntervalRight (items.filterMap Item.loop?).getLast?
        (buildQueryFormat (items.foldl PreArgs.add {}) formatStr) ↔
      IntervalFits (items.filterMap Item.loop?) := by
  refine forall_congr' fun inMs => forall_congr' fun value => forall_congr' fun hlast => ?_
  have htext : (items.foldl PreArgs.add {}).text .loopStr = value := by
    rw [foldl_add_text, hlast]
    rfl
  have hms : (items.foldl PreArgs.add {}).loopInMs = (items.filterMap Item.loop?).any Prod.fst := by
    rw [foldl_add_loopInMs _ h]
    exact Bool.false_or _
  have hany : inMs = true → (items.filterMap Item.loop?).any Prod.fst = true := fun hms =>
    List.any_eq_true.mpr ⟨(inMs, value), List.mem_of_getLast? hlast, hms⟩
  rw [← loopMs_right_iff hany, buildQueryFormat, htext, hms]
  constructor
  · rintro ⟨fmt, hfmt, hright⟩
    obtain ⟨ms, hms, rfl⟩ := Option.map_eq_some_iff.mp hfmt
    exact ⟨ms, hms, hright⟩
  · rintro ⟨ms, hms, hright⟩
    rw [hms]
    exact ⟨_, rfl, hright⟩

end

/-- **The options are read as they say**, with the arguments that are left and the interval, exactly if no
`--loop` swallows an argument and the last interval fits. -/
theorem extractPreArgs_iff (argv : List Text) (formatStr : Text) :
    Extracts argv ∧
        IntervalRight (loopsOf argv).getLast? (buildQueryFormat (extractPreArgs argv).1 formatStr) ↔
      NoneSwallowed argv ∧ IntervalFits (loopsOf argv) := by
  rw [extracts_iff]
  refine and_congr_right fun hnone => ?_
  have hknown : ∀ item ∈ itemsOf readItem argv.tail, item.Known := by
    intro item hitem
    obtain ⟨p, -, rfl⟩ := List.mem_map.mp hitem
    exact readItem_known p.1 p.2
  rw [extractPreArgs, (itemsOf_nextItem hnone).2]
  exact intervalRight_iff hknown formatStr

/-- An option for the device is lost behind `--loop`, and five seconds become milliseconds. -/
theorem extractPreArgs_not_right :
    ¬Extracts ["xpu-smi".toList, "--query-gpu=power".toList, "--loop".toList, "--id=0".toList] ∧
      ¬IntervalRight
        (loopsOf ["xpu-smi".toList, "--loop-ms".toList, "500".toList, "--loop=5".toList]).getLast?
        (buildQueryFormat (extractPreArgs
          ["xpu-smi".toList, "--loop-ms".toList, "500".toList, "--loop=5".toList]).1 []) := by
  constructor
  · rintro ⟨hkeeps, -⟩
    have hkeep := hkeeps (loopName, some "--id=0".toList) (by decide +kernel) (.inl rfl) _ rfl rfl
    exact absurd hkeep (by decide +kernel)
  · intro hright
    obtain ⟨fmt, hfmt, -, -, hinterval, -⟩ := hright false "5".toList (by decide +kernel)
    have hdigits : "5".toList ≠ [] ∧ ∀ c ∈ ['5'], c.isDigit :=
      ⟨List.cons_ne_nil _ _, List.forall_mem_singleton.mpr rfl⟩
    have hfive : Interval "5".toList 5 := ⟨⟨hdigits, rfl⟩, Nat.succ_pos 4, by norm_num⟩
    have hms : (buildQueryFormat (extractPreArgs
        ["xpu-smi".toList, "--loop-ms".toList, "500".toList, "--loop=5".toList]).1 []).map (·.loopMs) =
          some 5 := by
      decide +kernel
    rw [hfmt, Option.map_some, hinterval 5 hfive] at hms
    exact absurd hms (by decide)

end DefaultParser

end XpuManager
