import XpuManager.Lib.Text

/-! # A flag that is taken out of the arguments

`filterArgvAndExtract` of `ial/cmn/cmd_dump.cpp` removes a flag and its value from an argument list. A
form of the flag that is empty is to be ignored. -/

namespace XpuManager

/-- The value of an argument `flag=value`. -/
def assignedValue (flag arg : Text) : Option Text :=
  if flag ≠ [] ∧ flag <+: arg ∧ flag.length < arg.length ∧ arg[flag.length]? = some '=' then
    some (arg.drop (flag.length + 1))
  else none

/-- The loop over the arguments, with `result` and `extracted` so far. -/
def filterArgvFrom (flagShort flagLong : Text) :
    List Text → List Text → Option Text → List Text × Option Text
  | [], result, extracted => (result, extracted)
  | arg :: rest, result, extracted =>
    match [flagLong, flagShort].findSome? fun flag => assignedValue flag arg with
    | some value => filterArgvFrom flagShort flagLong rest result (some value)
    | none =>
      if arg = flagLong ∨ arg = flagShort then
        match rest with
        | value :: rest => filterArgvFrom flagShort flagLong rest result (some value)
        | [] => filterArgvFrom flagShort flagLong [] result extracted
      else filterArgvFrom flagShort flagLong rest (result ++ [arg]) extracted

/-- The loop over the arguments, which takes out the flag and its values. -/
def filterArgvAndExtract (argv : List Text) (flagShort flagLong : Text) :
    List Text × Option Text :=
  filterArgvFrom flagShort flagLong argv [] none

/-! ## What is asked for -/

/-- What an argument is. -/
inductive ArgReading where
  /-- The flag and its value in one argument. -/
  | assigned (value : Text)
  /-- The flag; its value is the next argument. -/
  | flag
  | other

/-- A form that is empty is ignored. The long form is tried first. -/
def readArg (flagShort flagLong arg : Text) : ArgReading :=
  match [flagLong, flagShort].findSome? fun flag => assignedValue flag arg with
  | some value => .assigned value
  | none =>
    if flagLong ≠ [] ∧ arg = flagLong ∨ flagShort ≠ [] ∧ arg = flagShort then .flag else .other

/-- The arguments that stay. -/
def keptArgs (flagShort flagLong : Text) : List Text → List Text
  | [] => []
  | arg :: rest =>
    match readArg flagShort flagLong arg with
    | .assigned _ => keptArgs flagShort flagLong rest
    | .flag =>
      match rest with
      | _ :: rest => keptArgs flagShort flagLong rest
      | [] => []
    | .other => arg :: keptArgs flagShort flagLong rest

/-- The values of the flag. -/
def flagValues (flagShort flagLong : Text) : List Text → List Text
  | [] => []
  | arg :: rest =>
    match readArg flagShort flagLong arg with
    | .assigned value => value :: flagValues flagShort flagLong rest
    | .flag =>
      match rest with
      | value :: rest => value :: flagValues flagShort flagLong rest
      | [] => []
    | .other => flagValues flagShort flagLong rest

/-- The arguments that are not the value of a flag. -/
def metArgs (flagShort flagLong : Text) : List Text → List Text
  | [] => []
  | arg :: rest =>
    match readArg flagShort flagLong arg with
    | .assigned _ => arg :: metArgs flagShort flagLong rest
    | .flag =>
      match rest with
      | _ :: rest => arg :: metArgs flagShort flagLong rest
      | [] => [arg]
    | .other => arg :: metArgs flagShort flagLong rest

example : filterArgvAndExtract ["-d".toList, "0".toList, "-lms=5".toList, "x".toList]
    "-lms".toList "--loop-ms".toList =
      (["-d".toList, "0".toList, "x".toList], some "5".toList) := by
  decide

/-! ## When the loop does it -/

section

variable {flagShort flagLong arg value : Text} {argv rest result : List Text}
  {extracted : Option Text}

theorem readArg_nil : readArg flagShort flagLong [] = .other := by
  have hnone (flag : Text) : assignedValue flag [] = none := if_neg (by simp)
  simp [readArg, hnone, eq_comm]

/-- Where no form is empty, or the argument is not, the loop compares with what is asked for. -/
theorem isFlag_iff (h : flagShort ≠ [] ∧ flagLong ≠ [] ∨ arg ≠ []) :
    arg = flagLong ∨ arg = flagShort ↔
      flagLong ≠ [] ∧ arg = flagLong ∨ flagShort ≠ [] ∧ arg = flagShort := by
  constructor
  · rintro (rfl | rfl)
    · exact .inl ⟨h.elim And.right id, rfl⟩
    · exact .inr ⟨h.elim And.left id, rfl⟩
  · exact Or.imp And.right And.right

theorem getLast?_cons_or {α : Type} (x : α) (xs : List α) (o : Option α) :
    (x :: xs).getLast?.or o = xs.getLast?.or (some x) := by
  rw [List.getLast?_cons]
  cases xs.getLast? <;> rfl

theorem readArg_assigned (hread : readArg flagShort flagLong arg = .assigned value) :
    [flagLong, flagShort].findSome? (fun flag => assignedValue flag arg) = some value := by
  rw [readArg] at hread
  split at hread
  case h_1 value' hsome =>
    obtain rfl := ArgReading.assigned.inj hread
    exact hsome
  case h_2 => split at hread <;> cases hread

theorem readArg_flag (hread : readArg flagShort flagLong arg = .flag) :
    [flagLong, flagShort].findSome? (fun flag => assignedValue flag arg) = none ∧
      (flagLong ≠ [] ∧ arg = flagLong ∨ flagShort ≠ [] ∧ arg = flagShort) := by
  rw [readArg] at hread
  split at hread
  case h_1 => cases hread
  case h_2 hnone =>
    split at hread
    case isTrue hflag => exact ⟨hnone, hflag⟩
    case isFalse => cases hread

theorem readArg_other (hread : readArg flagShort flagLong arg = .other) :
    [flagLong, flagShort].findSome? (fun flag => assignedValue flag arg) = none ∧
      ¬ (flagLong ≠ [] ∧ arg = flagLong ∨ flagShort ≠ [] ∧ arg = flagShort) := by
  rw [readArg] at hread
  split at hread
  case h_1 => cases hread
  case h_2 hnone =>
    split at hread
    case isTrue => cases hread
    case isFalse hflag => exact ⟨hnone, hflag⟩

/-! ## The loop, one argument at a time -/

theorem filterArgvFrom_assigned
    (hsome : [flagLong, flagShort].findSome? (fun flag => assignedValue flag arg) = some value) :
    filterArgvFrom flagShort flagLong (arg :: rest) result extracted =
      filterArgvFrom flagShort flagLong rest result (some value) := by
  cases rest <;> simp only [filterArgvFrom, hsome]

theorem filterArgvFrom_other
    (hnone : [flagLong, flagShort].findSome? (fun flag => assignedValue flag arg) = none)
    (hother : ¬ (arg = flagLong ∨ arg = flagShort)) :
    filterArgvFrom flagShort flagLong (arg :: rest) result extracted =
      filterArgvFrom flagShort flagLong rest (result ++ [arg]) extracted := by
  cases rest <;> simp only [filterArgvFrom, hnone, if_neg hother]

theorem keptArgs_assigned (hread : readArg flagShort flagLong arg = .assigned value) :
    keptArgs flagShort flagLong (arg :: rest) = keptArgs flagShort flagLong rest := by
  cases rest <;> simp only [keptArgs, hread]

theorem keptArgs_other (hread : readArg flagShort flagLong arg = .other) :
    keptArgs flagShort flagLong (arg :: rest) = arg :: keptArgs flagShort flagLong rest := by
  cases rest <;> simp only [keptArgs, hread]

theorem flagValues_assigned (hread : readArg flagShort flagLong arg = .assigned value) :
    flagValues flagShort flagLong (arg :: rest) = value :: flagValues flagShort flagLong rest := by
  cases rest <;> simp only [flagValues, hread]

theorem flagValues_other (hread : readArg flagShort flagLong arg = .other) :
    flagValues flagShort flagLong (arg :: rest) = flagValues flagShort flagLong rest := by
  cases rest <;> simp only [flagValues, hread]

theorem metArgs_of_ne_flag (hread : readArg flagShort flagLong arg ≠ .flag) :
    metArgs flagShort flagLong (arg :: rest) = arg :: metArgs flagShort flagLong rest := by
  cases hread' : readArg flagShort flagLong arg with
  | assigned value => cases rest <;> simp only [metArgs, hread']
  | flag => exact absurd hread' hread
  | other => cases rest <;> simp only [metArgs, hread']

/-- The loop does what is asked for where it meets no empty argument, or no form is empty. -/
theorem filterArgvFrom_eq
    (h : flagShort ≠ [] ∧ flagLong ≠ [] ∨ [] ∉ metArgs flagShort flagLong argv) :
    filterArgvFrom flagShort flagLong argv result extracted =
      (result ++ keptArgs flagShort flagLong argv,
        (flagValues flagShort flagLong argv).getLast?.or extracted) := by
  induction argv using metArgs.induct flagShort flagLong generalizing result extracted with
  | case1 => simp [filterArgvFrom, keptArgs, flagValues]
  | case2 arg rest value hread ih =>
    rw [metArgs_of_ne_flag (by simp [hread])] at h
    rw [filterArgvFrom_assigned (readArg_assigned hread), keptArgs_assigned hread,
      flagValues_assigned hread, getLast?_cons_or]
    exact ih (h.imp_right List.not_mem_of_not_mem_cons)
  | case3 arg hread value rest ih =>
    simp only [metArgs, hread] at h
    obtain ⟨hnone, hflag⟩ := readArg_flag hread
    have hcode : arg = flagLong ∨ arg = flagShort := hflag.imp And.right And.right
    simp only [filterArgvFrom, hnone, if_pos hcode, keptArgs, flagValues, hread, getLast?_cons_or]
    exact ih (h.imp_right List.not_mem_of_not_mem_cons)
  | case4 arg hread =>
    obtain ⟨hnone, hflag⟩ := readArg_flag hread
    have hcode : arg = flagLong ∨ arg = flagShort := hflag.imp And.right And.right
    simp only [filterArgvFrom, hnone, if_pos hcode, keptArgs, flagValues, hread, List.append_nil,
      List.getLast?_nil, Option.none_or]
  | case5 arg rest hread ih =>
    rw [metArgs_of_ne_flag (by simp [hread])] at h
    obtain ⟨hnone, hother⟩ := readArg_other hread
    have harg : flagShort ≠ [] ∧ flagLong ≠ [] ∨ arg ≠ [] :=
      h.imp_right fun hmet heq => hmet (heq ▸ List.mem_cons_self)
    rw [filterArgvFrom_other hnone (fun hcode => hother ((isFlag_iff harg).mp hcode)),
      keptArgs_other hread, flagValues_other hread,
      List.append_cons result arg (keptArgs flagShort flagLong rest)]
    exact ih (h.imp_right List.not_mem_of_not_mem_cons)

/-- Where a form is empty, the loop lets no empty argument through. -/
theorem not_mem_filterArgvFrom (hempty : flagShort = [] ∨ flagLong = []) (hresult : [] ∉ result) :
    [] ∉ (filterArgvFrom flagShort flagLong argv result extracted).1 := by
  induction argv, result, extracted using filterArgvFrom.induct flagShort flagLong with
  | case1 => simpa [filterArgvFrom] using hresult
  | case2 arg rest result extracted value hsome ih =>
    rw [filterArgvFrom_assigned hsome]
    exact ih hresult
  | case3 arg result extracted hnone hflag value rest ih =>
    simpa only [filterArgvFrom, hnone, if_pos hflag] using ih hresult
  | case4 arg result extracted hnone hflag ih =>
    simpa only [filterArgvFrom, hnone, if_pos hflag] using ih hresult
  | case5 arg rest result extracted hnone hflag ih =>
    have harg : [] ≠ arg := by
      rintro rfl
      exact hflag (hempty.symm.imp Eq.symm Eq.symm)
    rw [filterArgvFrom_other hnone hflag]
    exact ih (by simp [hresult, harg])

/-- An empty argument that is met is asked to stay. -/
theorem mem_keptArgs_of_mem_metArgs (hmet : [] ∈ metArgs flagShort flagLong argv) :
    [] ∈ keptArgs flagShort flagLong argv := by
  have hne {arg : Text} {reading : ArgReading} (hread : readArg flagShort flagLong arg = reading)
      (hreading : reading ≠ .other) : [] ≠ arg := by
    rintro rfl
    exact hreading (hread.symm.trans readArg_nil)
  induction argv using metArgs.induct flagShort flagLong with
  | case1 => exact absurd hmet List.not_mem_nil
  | case2 arg rest value hread ih =>
    rw [metArgs_of_ne_flag (by simp [hread])] at hmet
    rw [keptArgs_assigned hread]
    exact ih ((List.mem_cons.mp hmet).resolve_left (hne hread (by simp)))
  | case3 arg hread value rest ih =>
    simp only [metArgs, hread] at hmet
    simp only [keptArgs, hread]
    exact ih ((List.mem_cons.mp hmet).resolve_left (hne hread (by simp)))
  | case4 arg hread =>
    simp only [metArgs, hread, List.mem_singleton] at hmet
    exact absurd hmet (hne hread (by simp))
  | case5 arg rest hread ih =>
    rw [metArgs_of_ne_flag (by simp [hread])] at hmet
    rw [keptArgs_other hread]
    rcases List.mem_cons.mp hmet with rfl | hmet
    · exact List.mem_cons_self
    · exact List.mem_cons_of_mem _ (ih hmet)

/-- The loop returns the arguments that stay and the last value exactly when no form is empty or no
empty argument is met. -/
theorem filterArgvAndExtract_eq_iff (argv : List Text) (flagShort flagLong : Text) :
    filterArgvAndExtract argv flagShort flagLong =
        (keptArgs flagShort flagLong argv, (flagValues flagShort flagLong argv).getLast?) ↔
      flagShort ≠ [] ∧ flagLong ≠ [] ∨ [] ∉ metArgs flagShort flagLong argv := by
  constructor
  · intro heq
    by_contra h
    rw [not_or, not_and_or, not_not, not_not, not_not] at h
    obtain ⟨hempty, hmet⟩ := h
    have hnot : [] ∉ (filterArgvAndExtract argv flagShort flagLong).1 :=
      not_mem_filterArgvFrom hempty List.not_mem_nil
    rw [heq] at hnot
    exact hnot (mem_keptArgs_of_mem_metArgs hmet)
  · intro h
    rw [filterArgvAndExtract, filterArgvFrom_eq h, Option.or_none]
    rfl

/-- The empty short form is taken for an empty argument, and the next argument for its value. -/
theorem filterArgvAndExtract_empty_short :
    let argv := ["-d".toList, "".toList, "-n".toList, "5".toList]
    filterArgvAndExtract argv "".toList "--loop-ms".toList =
        (["-d".toList, "5".toList], some "-n".toList) ∧
      filterArgvAndExtract argv "".toList "--loop-ms".toList ≠
        (keptArgs "".toList "--loop-ms".toList argv,
          (flagValues "".toList "--loop-ms".toList argv).getLast?) := by
  decide

end

end XpuManager
