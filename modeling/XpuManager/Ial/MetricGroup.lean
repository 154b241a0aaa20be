import Mathlib.Data.List.Basic
import Mathlib.Data.UInt
import XpuManager.Lib.Text

/-! # Groups of metrics

`parseGroupMask` of `ial/cmn/metrics_registry.h` reads a list of group names into a mask. -/

namespace XpuManager

/-- `enum class MetricGroup : uint32_t`. -/
abbrev MetricGroup := UInt32

namespace MetricGroup

def NONE : MetricGroup := 0
def IDENTITY : MetricGroup := (1 : UInt32) <<< (0 : UInt32)
def MEMORY : MetricGroup := (1 : UInt32) <<< (1 : UInt32)
def UTILIZATION : MetricGroup := (1 : UInt32) <<< (2 : UInt32)
def TEMPERATURE : MetricGroup := (1 : UInt32) <<< (3 : UInt32)
def POWER : MetricGroup := (1 : UInt32) <<< (4 : UInt32)
def CLOCK : MetricGroup := (1 : UInt32) <<< (5 : UInt32)
def PCI : MetricGroup := (1 : UInt32) <<< (6 : UInt32)
def ECC : MetricGroup := (1 : UInt32) <<< (7 : UInt32)
def EU_ARRAY : MetricGroup := (1 : UInt32) <<< (8 : UInt32)
def FAN : MetricGroup := (1 : UInt32) <<< (9 : UInt32)
def ALL : MetricGroup := ~~~0

end MetricGroup

open MetricGroup

/-- The mask has a group of the field. -/
def hasGroup (field mask : MetricGroup) : Bool := field &&& mask ≠ NONE

/-- A row of the table of groups. -/
structure MetricGroupEntry where
  name : Text
  shortcut : Text
  group : MetricGroup

/-- The letter `p` stands for two groups. -/
def GROUP_TABLE : List MetricGroupEntry :=
  [ ⟨"IDENTITY".toList, "".toList, IDENTITY⟩,
    ⟨"MEMORY".toList, "m".toList, MEMORY⟩,
    ⟨"UTILIZATION".toList, "u".toList, UTILIZATION⟩,
    ⟨"TEMPERATURE".toList, "p".toList, TEMPERATURE⟩,
    ⟨"POWER".toList, "p".toList, POWER⟩,
    ⟨"CLOCK".toList, "c".toList, CLOCK⟩,
    ⟨"PCI".toList, "t".toList, PCI⟩,
    ⟨"ECC".toList, "e".toList, ECC⟩,
    ⟨"EU_ARRAY".toList, "x".toList, EU_ARRAY⟩,
    ⟨"FAN".toList, "f".toList, FAN⟩,
    ⟨"ALL".toList, "".toList, ALL⟩ ]

/-- Two characters are one, but for the case. -/
def icharEq (a b : Char) : Bool := a.toUpper = b.toUpper

/-- `std::equal` with `icharEq` on texts of one size. -/
def itextEq (a b : Text) : Bool := a.length = b.length && (a.zip b).all fun (x, y) => icharEq x y

/-- The token is the short name of the group. -/
def MetricGroupEntry.shortcutMatch (entry : MetricGroupEntry) (token : Text) : Bool :=
  !entry.shortcut.isEmpty && itextEq entry.shortcut token

/-- The token is the name of the group. -/
def MetricGroupEntry.nameMatch (entry : MetricGroupEntry) (token : Text) : Bool :=
  itextEq entry.name token

/-- The first letter of the shortcut is `ch`. -/
def MetricGroupEntry.hasLetter (entry : MetricGroupEntry) (ch : Char) : Bool :=
  entry.shortcut.head?.any fun letter => icharEq letter ch.toLower

/-- The loop over the table; the second component is `matched`. -/
def addNamed (result : MetricGroup) (token : Text) : MetricGroup × Bool :=
  GROUP_TABLE.foldl
    (fun (result, matched) entry =>
      if entry.shortcutMatch token || entry.nameMatch token then (result ||| entry.group, true)
      else (result, matched))
    (result, false)

/-- Every character of the token is a shortcut. -/
def allKnown (token : Text) : Bool := token.all fun ch => GROUP_TABLE.any (·.hasLetter ch)

/-- The groups that have the letter are added. -/
def addLetter (result : MetricGroup) (ch : Char) : MetricGroup :=
  GROUP_TABLE.foldl
    (fun result entry => if entry.hasLetter ch then result ||| entry.group else result) result

/-- What a token adds to the mask. -/
def addToken (result : MetricGroup) (token : Text) : MetricGroup :=
  let (result, matched) := addNamed result token
  if !matched && !token.isEmpty && !token.contains '.' && allKnown token then
    token.foldl addLetter result
  else result

/-- The loop over `sv`, with the mask so far. -/
def parseGroupMaskFrom (result : MetricGroup) (sv : Text) : MetricGroup :=
  if sv.isEmpty then result
  else
    let result := addToken result (Text.trim (sv.takeWhile (· ≠ ',')))
    match _hrest : sv.dropWhile (· ≠ ',') with
    | [] => result
    | _ :: rest => parseGroupMaskFrom result rest
termination_by sv.length
decreasing_by
  have hsuffix := (List.dropWhile_suffix (fun c => decide (c ≠ ',')) (l := sv)).length_le
  rw [_hrest, List.length_cons] at hsuffix
  exact hsuffix

/-- The mask of a list of tokens. -/
def parseGroupMask (sv : Text) : MetricGroup := parseGroupMaskFrom NONE sv

/-! ## Unions of groups -/

/-- The union of some masks. -/
def orAll (groups : List MetricGroup) : MetricGroup := groups.foldr (· ||| ·) NONE

/-- The groups of the table other than `ALL` are bits of this mask. -/
def sections : MetricGroup := 0x3FF

/-- The mask of all metrics, or a mask of listed groups. -/
def IsMask (mask : MetricGroup) : Prop := mask = ALL ∨ mask &&& sections = mask

section

variable {field mask mask' result : MetricGroup} {masks groups : List MetricGroup} {token sv : Text}
  {c d : Char}

theorem and_or_distrib (field mask mask' : MetricGroup) :
    field &&& (mask ||| mask') = field &&& mask ||| field &&& mask' := by
  apply UInt32.toBitVec_inj.mp
  simp only [UInt32.toBitVec_and, UInt32.toBitVec_or]
  exact BitVec.and_or_distrib_left

theorem hasGroup_or :
    hasGroup field (mask ||| mask') = (hasGroup field mask || hasGroup field mask') := by
  rw [Bool.eq_iff_iff]
  simp only [hasGroup, decide_eq_true_eq, Bool.or_eq_true]
  simp only [and_or_distrib, NONE, ne_eq, UInt32.or_eq_zero_iff, not_and_or]

theorem hasGroup_NONE : hasGroup field NONE = false := by
  simp [hasGroup, NONE]

theorem ALL_or : ALL ||| mask = ALL := by
  have hALL : ALL = -1 := by decide
  rw [hALL, UInt32.neg_one_or]

theorem IsMask.or (h : IsMask mask) (h' : IsMask mask') : IsMask (mask ||| mask') := by
  rcases h with rfl | h
  · exact .inl ALL_or
  · rcases h' with rfl | h'
    · exact .inl (by rw [UInt32.or_comm, ALL_or])
    · refine .inr ?_
      rw [UInt32.and_comm, and_or_distrib, UInt32.and_comm, h, UInt32.and_comm, h']

/-- Listed groups alone are never the mask of all metrics. -/
theorem or_eq_ALL_iff (h : IsMask mask) (h' : IsMask mask') :
    mask ||| mask' = ALL ↔ mask = ALL ∨ mask' = ALL := by
  constructor
  · intro hall
    rcases h with h | h
    · exact .inl h
    · rcases h' with h' | h'
      · exact .inr h'
      · have hand : ALL &&& sections = ALL := by
          rw [← hall, UInt32.and_comm, and_or_distrib, UInt32.and_comm, h, UInt32.and_comm, h']
        exact absurd hand (by decide)
  · rintro (rfl | rfl)
    · exact ALL_or
    · rw [UInt32.or_comm, ALL_or]

theorem orAll_isMask (h : ∀ mask ∈ masks, IsMask mask) : IsMask (orAll masks) := by
  induction masks with
  | nil => exact .inr (by decide)
  | cons mask masks ih =>
    exact (h mask List.mem_cons_self).or (ih fun m hm => h m (List.mem_cons_of_mem _ hm))

/-- A union is the mask of all metrics only where one of its parts is. -/
theorem orAll_eq_ALL_iff (h : ∀ mask ∈ masks, IsMask mask) : orAll masks = ALL ↔ ALL ∈ masks := by
  induction masks with
  | nil => simp [orAll, NONE, ALL]
  | cons mask masks ih =>
    have hmasks : ∀ m ∈ masks, IsMask m := fun m hm => h m (List.mem_cons_of_mem _ hm)
    have hcons : orAll (mask :: masks) = mask ||| orAll masks := rfl
    rw [hcons, or_eq_ALL_iff (h mask List.mem_cons_self) (orAll_isMask hmasks), ih hmasks,
      List.mem_cons, eq_comm]

/-- A field is in a union exactly when it is in one of its parts. -/
theorem hasGroup_orAll : hasGroup field (orAll masks) = masks.any (hasGroup field) := by
  induction masks with
  | nil => exact hasGroup_NONE
  | cons mask masks ih =>
    rw [List.any_cons, ← ih, ← hasGroup_or]
    rfl

theorem orAll_eq_NONE_iff : orAll masks = NONE ↔ ∀ mask ∈ masks, mask = NONE := by
  induction masks with
  | nil => simp [orAll]
  | cons mask masks ih =>
    have hcons : orAll (mask :: masks) = mask ||| orAll masks := rfl
    have hor : mask ||| orAll masks = NONE ↔ mask = NONE ∧ orAll masks = NONE :=
      UInt32.or_eq_zero_iff
    rw [hcons, hor, ih, List.forall_mem_cons]

theorem orAll_append : orAll (masks ++ groups) = orAll masks ||| orAll groups := by
  induction masks with
  | nil => exact UInt32.zero_or.symm
  | cons mask masks ih =>
    have hcons (ms : List MetricGroup) : orAll (mask :: ms) = mask ||| orAll ms := rfl
    rw [List.cons_append, hcons, hcons, ih, UInt32.or_assoc]

/-! ## What a token stands for -/

/-- The groups that a token stands for: the ones of its name, or else the ones of its letters. -/
def tokenGroups (token : Text) : List MetricGroup :=
  let named := GROUP_TABLE.filter fun entry => entry.shortcutMatch token || entry.nameMatch token
  if named.isEmpty && !token.isEmpty && !token.contains '.' && allKnown token then
    token.flatMap fun ch => (GROUP_TABLE.filter (·.hasLetter ch)).map (·.group)
  else named.map (·.group)

/-- The mask of one token. -/
def tokenMask (token : Text) : MetricGroup := orAll (tokenGroups token)

/-- A loop that joins the masks of the entries that fit. -/
theorem foldl_or_if {ε : Type} (fits : ε → Bool) (group : ε → MetricGroup) (entries : List ε) :
    entries.foldl (fun result e => if fits e then result ||| group e else result) result =
      result ||| orAll ((entries.filter fits).map group) := by
  induction entries generalizing result with
  | nil => exact UInt32.or_zero.symm
  | cons e entries ih =>
    rw [List.foldl_cons, ih]
    by_cases he : fits e = true
    · rw [if_pos he, List.filter_cons_of_pos he, UInt32.or_assoc]
      rfl
    · rw [if_neg he, List.filter_cons_of_neg he]

/-- The same loop with a flag that says whether an entry fitted. -/
theorem foldl_or_matched {ε : Type} (fits : ε → Bool) (group : ε → MetricGroup)
    (entries : List ε) (matched : Bool) :
    entries.foldl
        (fun (result, matched) e => if fits e then (result ||| group e, true) else (result, matched))
        (result, matched) =
      (result ||| orAll ((entries.filter fits).map group),
        matched || !(entries.filter fits).isEmpty) := by
  induction entries generalizing result matched with
  | nil => simp [orAll, NONE]
  | cons e entries ih =>
    rw [List.foldl_cons]
    by_cases he : fits e = true
    · simp only [if_pos he, ih, List.filter_cons_of_pos he, UInt32.or_assoc]
      simp [orAll]
    · simp only [if_neg he, ih, List.filter_cons_of_neg he]

theorem foldl_addLetter :
    token.foldl addLetter result =
      result ||| orAll (token.flatMap fun ch =>
        (GROUP_TABLE.filter (·.hasLetter ch)).map (·.group)) := by
  induction token generalizing result with
  | nil => exact UInt32.or_zero.symm
  | cons ch token ih =>
    rw [List.foldl_cons, ih, addLetter, foldl_or_if, List.flatMap_cons, orAll_append,
      UInt32.or_assoc]

/-- A token adds the groups that it stands for. -/
theorem addToken_eq (result : MetricGroup) (token : Text) :
    addToken result token = result ||| tokenMask token := by
  simp only [addToken, addNamed, foldl_or_matched, tokenMask, tokenGroups, Bool.false_or,
    Bool.not_not]
  split
  case isTrue h =>
    have hnamed := h
    simp only [Bool.and_eq_true, List.isEmpty_iff] at hnamed
    rw [hnamed.1.1.1, List.map_nil, foldl_addLetter]
    exact congrArg (· ||| _) UInt32.or_zero
  case isFalse => rfl

theorem tokenMask_nil : tokenMask [] = NONE := by
  decide

/-- The mask is the union of the masks of the tokens. -/
theorem parseGroupMaskFrom_eq (result : MetricGroup) (sv : Text) :
    parseGroupMaskFrom result sv =
      result ||| orAll ((sv.splitOn ',').map fun piece => tokenMask (Text.trim piece)) := by
  induction result, sv using parseGroupMaskFrom.induct with
  | case1 result sv hempty =>
    obtain rfl := List.isEmpty_iff.mp hempty
    rw [parseGroupMaskFrom, if_pos hempty]
    exact UInt32.or_zero.symm
  | case2 result sv hempty hrest =>
    rw [parseGroupMaskFrom, if_neg hempty, Text.splitOn_eq_takeWhile]
    split
    case h_1 =>
      rw [addToken_eq, hrest]
      exact congrArg (result ||| ·) UInt32.or_zero.symm
    case h_2 comma rest h => exact absurd (hrest.symm.trans h) (by simp)
  | case3 result sv hempty result' comma rest hrest ih =>
    rw [parseGroupMaskFrom, if_neg hempty, Text.splitOn_eq_takeWhile]
    split
    case h_1 h => exact absurd (hrest.symm.trans h) (by simp)
    case h_2 comma' rest' h =>
      obtain ⟨rfl, rfl⟩ := List.cons.inj (hrest.symm.trans h)
      rw [ih, hrest, show result' = result ||| _ from addToken_eq result _, UInt32.or_assoc]
      rfl

/-- The mask is the union of the masks of the tokens. -/
theorem parseGroupMask_eq (sv : Text) :
    parseGroupMask sv =
      orAll ((sv.splitOn ',').map fun piece => tokenMask (Text.trim piece)) := by
  rw [parseGroupMask, parseGroupMaskFrom_eq]
  exact UInt32.zero_or

/-- A list of one token has the mask of its token. -/
theorem parseGroupMask_token (htoken : ',' ∉ token) :
    parseGroupMask token = tokenMask (Text.trim token) := by
  rw [parseGroupMask_eq, List.splitOn_eq_singleton htoken]
  exact UInt32.or_zero

/-- The mask of a list is the union of the masks of its tokens. -/
theorem parseGroupMask_splitOn (sv : Text) :
    parseGroupMask sv = orAll ((sv.splitOn ',').map parseGroupMask) := by
  rw [parseGroupMask_eq]
  congr 1
  refine List.map_congr_left fun piece hpiece => ?_
  exact (parseGroupMask_token (Text.not_mem_of_mem_splitOn hpiece)).symm

theorem tokenMask_isMask (token : Text) : IsMask (tokenMask token) := by
  have htable : ∀ entry ∈ GROUP_TABLE, IsMask entry.group := by
    have hall : (GROUP_TABLE.all fun entry =>
        entry.group = ALL || entry.group &&& sections = entry.group) = true := by
      decide
    intro entry hentry
    simpa [IsMask] using List.all_eq_true.mp hall entry hentry
  refine orAll_isMask fun mask hmask => ?_
  have hmem : mask ∈ GROUP_TABLE.map (·.group) := by
    rw [tokenGroups] at hmask
    split at hmask
    · obtain ⟨ch, -, hch⟩ := List.mem_flatMap.mp hmask
      obtain ⟨entry, hentry, rfl⟩ := List.mem_map.mp hch
      exact List.mem_map_of_mem (List.mem_of_mem_filter hentry)
    · obtain ⟨entry, hentry, rfl⟩ := List.mem_map.mp hmask
      exact List.mem_map_of_mem (List.mem_of_mem_filter hentry)
  obtain ⟨entry, hentry, rfl⟩ := List.mem_map.mp hmem
  exact htable entry hentry

/-! ## Letter case -/

theorem icharEq_iff : icharEq c d = true ↔ c.toLower = d.toLower := by
  rw [icharEq, decide_eq_true_iff, Text.toUpper_eq_toUpper_iff]

theorem itextEq_iff {a b : Text} : itextEq a b = true ↔ Text.lower a = Text.lower b := by
  induction a generalizing b with
  | nil => cases b <;> simp [itextEq, Text.lower]
  | cons c a ih =>
    cases b with
    | nil => simp [itextEq, Text.lower]
    | cons d b =>
      have hcons : itextEq (c :: a) (d :: b) = true ↔ icharEq c d = true ∧ itextEq a b = true := by
        simp only [itextEq, List.length_cons, Nat.add_right_cancel_iff, List.zip_cons_cons,
          List.all_cons, Bool.and_eq_true]
        tauto
      rw [hcons, ih, icharEq_iff]
      simp [Text.lower]

theorem itextEq_lower (a b : Text) : itextEq a (Text.lower b) = itextEq a b := by
  rw [Bool.eq_iff_iff, itextEq_iff, itextEq_iff, Text.lower_lower]

theorem hasLetter_toLower (entry : MetricGroupEntry) (ch : Char) :
    entry.hasLetter ch.toLower = entry.hasLetter ch := by
  rw [MetricGroupEntry.hasLetter, Text.toLower_toLower]
  rfl

theorem contains_lower (hd : d.toNat < 65 ∨ 122 < d.toNat) (text : Text) :
    (Text.lower text).contains d = text.contains d := by
  rw [Bool.eq_iff_iff, List.contains_iff_mem, List.contains_iff_mem, Text.mem_lower_iff hd]

/-- A token stands for the same groups in either case. -/
theorem tokenMask_lower (token : Text) : tokenMask (Text.lower token) = tokenMask token := by
  have hflat : ((Text.lower token).flatMap fun ch =>
      (GROUP_TABLE.filter (·.hasLetter ch)).map (·.group)) =
      token.flatMap fun ch => (GROUP_TABLE.filter (·.hasLetter ch)).map (·.group) := by
    simp only [Text.lower, List.flatMap_map, hasLetter_toLower]
  have hknown : allKnown (Text.lower token) = allKnown token := by
    simp only [allKnown, Text.lower, List.all_map, Function.comp_def, hasLetter_toLower]
  have hempty : (Text.lower token).isEmpty = token.isEmpty := by
    cases token <;> rfl
  have hdot : (Text.lower token).contains '.' = token.contains '.' := contains_lower (by decide) token
  rw [tokenMask, tokenMask, tokenGroups, tokenGroups]
  simp only [MetricGroupEntry.shortcutMatch, MetricGroupEntry.nameMatch, itextEq_lower, hflat,
    hknown, hempty, hdot]
  rfl

end

end XpuManager
