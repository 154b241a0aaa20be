import XpuManager.Lib.Glob
import XpuManager.Lib.Text

/-! # Metric names with wildcards

`globMatch` of `ial/cmn/metrics_registry.cpp`. The loop walks pattern and text together, remembers
its last star, and comes back to it where it is stuck. -/

namespace XpuManager

/-- The positions of the loop; `none` is `std::string_view::npos`. -/
structure GlobPositions where
  patternPos : Nat := 0
  textPos : Nat := 0
  lastStarPatternPos : Option Nat := none
  lastStarTextPos : Nat := 0

/-- The last star takes one character more, if there is a star. -/
def GlobPositions.rewind (s : GlobPositions) : Option GlobPositions :=
  match s.lastStarPatternPos with
  | some star =>
    some
      { s with
        patternPos := star + 1
        textPos := s.lastStarTextPos + 1
        lastStarTextPos := s.lastStarTextPos + 1 }
  | none => none

/-- A turn of the loop at the character `t`; `none` is `return false`. -/
def globStep (pattern : Text) (t : Char) (s : GlobPositions) : Option GlobPositions :=
  match pattern[s.patternPos]? with
  | some p =>
    if p = '?' ∨ p.toLower = t.toLower then
      some { s with patternPos := s.patternPos + 1, textPos := s.textPos + 1 }
    else if p = '*' then
      some
        { s with
          patternPos := s.patternPos + 1
          lastStarPatternPos := some s.patternPos
          lastStarTextPos := s.textPos }
    else s.rewind
  | none => s.rewind

/-- The loop for at most so many turns; `none` is a loop that would go on. -/
def globLoop (pattern text : Text) : Nat → GlobPositions → Option Bool
  | 0, _ => none
  | turns + 1, s =>
    match text[s.textPos]? with
    | some t =>
      match globStep pattern t s with
      | some s => globLoop pattern text turns s
      | none => some false
    -- the second loop skips the stars that are left
    | none => some ((pattern.drop s.patternPos).dropWhile (· = '*')).isEmpty

/-- The turns that the loop may take. -/
def globTurns (pattern text : Text) : Nat :=
  text.length * (pattern.length + 1) + pattern.length + 1

/-- The whole function; the loop ends within its turns. -/
def globMatch (pattern text : Text) : Bool :=
  (globLoop pattern text (globTurns pattern text) {}).getD false

/-! ## What a pattern means -/

/-- Any run of characters. -/
def isStar (p : Char) : Bool := p = '*'

/-- One character, or the same letter in either case. -/
def acceptsChar (p t : Char) : Bool := p = '?' ∨ p.toLower = t.toLower

/-- The texts that a pattern stands for. -/
abbrev GlobMatches (pattern text : Text) : Prop := Glob.Matches isStar acceptsChar pattern text

section

variable {pattern text : Text} {s s' : GlobPositions} {t : Char} {turns : Nat}

/-! ## One turn -/

/-- A turn takes a character, meets a star, or is stuck and rewinds. -/
theorem globStep_cases (pattern : Text) (t : Char) (s : GlobPositions) :
    (∃ p, pattern[s.patternPos]? = some p ∧ acceptsChar p t = true ∧
      globStep pattern t s =
        some { s with patternPos := s.patternPos + 1, textPos := s.textPos + 1 }) ∨
    (pattern[s.patternPos]? = some '*' ∧
      globStep pattern t s =
        some
          { s with
            patternPos := s.patternPos + 1
            lastStarPatternPos := some s.patternPos
            lastStarTextPos := s.textPos }) ∨
    (Glob.Stuck isStar acceptsChar (pattern.drop s.patternPos) t ∧
      globStep pattern t s = s.rewind) := by
  rw [globStep]
  cases hp : pattern[s.patternPos]? with
  | none =>
    refine .inr (.inr ⟨fun item hitem => ?_, rfl⟩)
    rw [List.head?_drop, hp] at hitem
    exact absurd hitem (by simp)
  | some p =>
    by_cases haccepts : p = '?' ∨ p.toLower = t.toLower
    · exact .inl ⟨p, rfl, decide_eq_true haccepts, if_pos haccepts⟩
    · by_cases hstar : p = '*'
      · subst hstar
        exact .inr (.inl ⟨rfl, (if_neg haccepts).trans (if_pos rfl)⟩)
      · refine .inr (.inr ⟨fun item hitem => ?_, (if_neg haccepts).trans (if_neg hstar)⟩)
        rw [List.head?_drop, hp] at hitem
        obtain rfl := Option.some.inj hitem
        exact ⟨decide_eq_false hstar, decide_eq_false haccepts⟩

theorem GlobPositions.rewind_some (h : s.rewind = some s') :
    ∃ star, s.lastStarPatternPos = some star ∧
      s' =
        { s with
          patternPos := star + 1
          textPos := s.lastStarTextPos + 1
          lastStarTextPos := s.lastStarTextPos + 1 } := by
  rw [rewind] at h
  split at h
  case h_1 star hstar => exact ⟨star, hstar, (Option.some.inj h).symm⟩
  case h_2 => exact absurd h (by simp)

theorem GlobPositions.rewind_none (h : s.rewind = none) : s.lastStarPatternPos = none := by
  rw [rewind] at h
  split at h
  case h_1 => exact absurd h (by simp)
  case h_2 hstar => exact hstar

/-! ## The loop ends -/

/-- The positions stay in their texts, and the walk is behind the last star. -/
structure GlobPositions.Within (pattern text : Text) (s : GlobPositions) : Prop where
  patternPos_le : s.patternPos ≤ pattern.length
  star_lt : ∀ star ∈ s.lastStarPatternPos, star < pattern.length
  star_le_textPos : s.lastStarTextPos ≤ s.textPos

/-- The turns that may still come. -/
def GlobPositions.turnsLeft (pattern text : Text) (s : GlobPositions) : Nat :=
  (text.length - s.lastStarTextPos) * (pattern.length + 1) + (pattern.length - s.patternPos)

/-- Fewer turns are left after every turn: a star gives up a character, or the pattern gets on. -/
theorem globStep_within (hs : s.Within pattern text) (ht : text[s.textPos]? = some t)
    (h : globStep pattern t s = some s') :
    s'.Within pattern text ∧ s'.turnsLeft pattern text < s.turnsLeft pattern text := by
  have htext : s.textPos < text.length := (List.getElem?_eq_some_iff.mp ht).1
  have hle := hs.star_le_textPos
  simp only [GlobPositions.turnsLeft]
  rcases globStep_cases pattern t s with ⟨p, hp, -, hstep⟩ | ⟨hp, hstep⟩ | ⟨-, hstep⟩
  · obtain rfl := Option.some.inj (h.symm.trans hstep)
    have hpattern : s.patternPos < pattern.length := (List.getElem?_eq_some_iff.mp hp).1
    exact ⟨⟨hpattern, hs.star_lt, Nat.le_succ_of_le hle⟩, by dsimp only; omega⟩
  · obtain rfl := Option.some.inj (h.symm.trans hstep)
    have hpattern : s.patternPos < pattern.length := (List.getElem?_eq_some_iff.mp hp).1
    refine ⟨⟨hpattern, fun star hstar => Option.some.inj hstar ▸ hpattern, le_rfl⟩, ?_⟩
    have hmul : (text.length - s.textPos) * (pattern.length + 1) ≤
        (text.length - s.lastStarTextPos) * (pattern.length + 1) :=
      Nat.mul_le_mul_right _ (by omega)
    dsimp only
    omega
  · obtain ⟨star, hstar, rfl⟩ := GlobPositions.rewind_some (hstep.symm.trans h)
    have hpattern := hs.star_lt star hstar
    refine ⟨⟨hpattern, hs.star_lt, le_rfl⟩, ?_⟩
    obtain ⟨k, hk⟩ : ∃ k, text.length - s.lastStarTextPos = k + 1 :=
      ⟨text.length - s.lastStarTextPos - 1, by omega⟩
    have hk' : text.length - (s.lastStarTextPos + 1) = k := by omega
    dsimp only
    rw [hk, hk', Nat.succ_mul]
    omega

/-- The loop ends. -/
theorem globLoop_isSome (hs : s.Within pattern text) (hturns : s.turnsLeft pattern text < turns) :
    (globLoop pattern text turns s).isSome = true := by
  induction turns generalizing s with
  | zero => exact absurd hturns (Nat.not_lt_zero _)
  | succ turns ih =>
    rw [globLoop]
    split
    case h_1 t ht =>
      split
      case h_1 s' hstep =>
        obtain ⟨hs', hlt⟩ := globStep_within hs ht hstep
        exact ih hs' (by omega)
      case h_2 => rfl
    case h_2 => rfl

theorem GlobPositions.within_init : ({} : GlobPositions).Within pattern text where
  patternPos_le := Nat.zero_le _
  star_lt := nofun
  star_le_textPos := le_rfl

theorem GlobPositions.turnsLeft_init (hturns : globTurns pattern text ≤ turns) :
    ({} : GlobPositions).turnsLeft pattern text < turns := by
  rw [globTurns] at hturns
  simp only [turnsLeft, Nat.sub_zero]
  omega

/-! ## What it says -/

/-- What is left behind the last star at the character that it would take next. -/
def GlobPositions.back (pattern text : Text) (s : GlobPositions) : Option (Text × Text) :=
  s.lastStarPatternPos.map fun star => (pattern.drop (star + 1), text.drop s.lastStarTextPos)

/-- The positions of the loop stand for a walk that decides the match. -/
def GlobTracks (pattern text : Text) (s : GlobPositions) : Prop :=
  Glob.Tracks isStar acceptsChar pattern text (pattern.drop s.patternPos) (text.drop s.textPos)
    (s.back pattern text)

theorem drop_of_getElem? {α : Type} {xs : List α} {x : α} {i : Nat} (h : xs[i]? = some x) :
    xs.drop i = x :: xs.drop (i + 1) := by
  obtain ⟨hlt, rfl⟩ := List.getElem?_eq_some_iff.mp h
  exact List.drop_eq_getElem_cons hlt

/-- Only a star has the letters of a star. -/
theorem isStar_of_acceptsChar {p : Char} (hstar : t ≠ '*') (h : acceptsChar p t = true) :
    isStar p = false := by
  refine decide_eq_false fun hp => ?_
  subst hp
  rcases of_decide_eq_true h with hquestion | hlower
  · exact absurd hquestion (by decide)
  · exact hstar ((Text.toLower_eq_iff (by decide)).mp hlower.symm)

/-- Every turn is a move of the walk. -/
theorem globStep_tracks (hs : GlobTracks pattern text s) (ht : text[s.textPos]? = some t)
    (hstar : t ≠ '*') (h : globStep pattern t s = some s') : GlobTracks pattern text s' := by
  rw [GlobTracks, drop_of_getElem? ht] at hs
  rcases globStep_cases pattern t s with ⟨p, hp, haccepts, hstep⟩ | ⟨hp, hstep⟩ | ⟨hstuck, hstep⟩
  · obtain rfl := Option.some.inj (h.symm.trans hstep)
    rw [drop_of_getElem? hp] at hs
    exact hs.take (isStar_of_acceptsChar hstar haccepts) haccepts
  · obtain rfl := Option.some.inj (h.symm.trans hstep)
    rw [drop_of_getElem? hp, ← drop_of_getElem? ht] at hs
    exact hs.meet rfl
  · obtain ⟨star, hlast, rfl⟩ := GlobPositions.rewind_some (hstep.symm.trans h)
    rw [GlobPositions.back, hlast] at hs
    have hmove := hs.rewind hstuck
    rw [List.tail_drop] at hmove
    simpa only [GlobTracks, GlobPositions.back, hlast, Option.map_some] using hmove

/-- Only stars are left exactly when skipping them leaves nothing. -/
theorem isEmpty_dropWhile_iff (P : Text) :
    (P.dropWhile (· = '*')).isEmpty = true ↔ ∀ p ∈ P, isStar p = true := by
  rw [List.isEmpty_iff, List.dropWhile_eq_nil_iff]
  rfl

/-- Where the loop ends, it says whether the text matches. -/
theorem globLoop_eq_some {matched : Bool} (htext : '*' ∉ text) (hs : GlobTracks pattern text s)
    (h : globLoop pattern text turns s = some matched) :
    matched = true ↔ GlobMatches pattern text := by
  induction turns generalizing s with
  | zero => exact absurd h (by simp [globLoop])
  | succ turns ih =>
    rw [globLoop] at h
    split at h
    case h_1 t ht =>
      have hstar : t ≠ '*' := fun heq => htext (heq ▸ List.mem_of_getElem? ht)
      split at h
      case h_1 s' hstep => exact ih (globStep_tracks hs ht hstar hstep) h
      case h_2 hstep =>
        obtain rfl := Option.some.inj h
        rcases globStep_cases pattern t s with ⟨p, -, -, hcase⟩ | ⟨-, hcase⟩ | ⟨hstuck, hcase⟩
        · exact absurd (hstep.symm.trans hcase) (by simp)
        · exact absurd (hstep.symm.trans hcase) (by simp)
        · rw [GlobTracks, drop_of_getElem? ht, GlobPositions.back,
            GlobPositions.rewind_none (hcase.symm.trans hstep)] at hs
          simpa using hs.fail hstuck
    case h_2 hend =>
      obtain rfl := Option.some.inj h
      rw [GlobTracks, List.drop_eq_nil_of_le (List.getElem?_eq_none_iff.mp hend)] at hs
      rw [isEmpty_dropWhile_iff]
      exact hs.finish.symm

/-! ## Letter case -/

theorem globStep_lower (pattern : Text) (t : Char) (s : GlobPositions) :
    globStep (Text.lower pattern) t s = globStep pattern t s := by
  have hquestion (p : Char) : p.toLower = '?' ↔ p = '?' := Text.toLower_eq_iff (by decide)
  have hstar (p : Char) : p.toLower = '*' ↔ p = '*' := Text.toLower_eq_iff (by decide)
  rw [globStep, globStep, Text.lower, List.getElem?_map]
  cases pattern[s.patternPos]? with
  | none => rfl
  | some p => simp only [Option.map_some, hquestion, hstar, Text.toLower_toLower]

/-- A pattern means the same in either case. -/
theorem globMatch_lower (pattern text : Text) :
    globMatch (Text.lower pattern) text = globMatch pattern text := by
  have hloop (turns : Nat) (s : GlobPositions) :
      globLoop (Text.lower pattern) text turns s = globLoop pattern text turns s := by
    induction turns generalizing s with
    | zero => rfl
    | succ turns ih =>
      have hend : (((Text.lower pattern).drop s.patternPos).dropWhile (· = '*')).isEmpty =
          ((pattern.drop s.patternPos).dropWhile (· = '*')).isEmpty := by
        have hstar (p : Char) : p.toLower = '*' ↔ p = '*' := Text.toLower_eq_iff (by decide)
        rw [Bool.eq_iff_iff, isEmpty_dropWhile_iff, isEmpty_dropWhile_iff, Text.lower,
          ← List.map_drop, List.forall_mem_map]
        simp only [isStar, decide_eq_true_eq, hstar]
      simp only [globLoop, globStep_lower, ih, hend]
  rw [globMatch, globMatch, hloop, globTurns, globTurns, Text.length_lower]

/-- Where the text has no star, the loop ends within its turns, and the answer is what the pattern
means. -/
theorem globMatch_spec (pattern text : Text) (htext : '*' ∉ text) :
    (∀ turns, globTurns pattern text ≤ turns →
      globLoop pattern text turns {} = some (globMatch pattern text)) ∧
    (globMatch pattern text = true ↔ GlobMatches pattern text) := by
  have hinit : GlobTracks pattern text {} := Glob.Tracks.init
  have hends (turns : Nat) (hturns : globTurns pattern text ≤ turns) :
      ∃ matched, globLoop pattern text turns {} = some matched ∧
        (matched = true ↔ GlobMatches pattern text) := by
    obtain ⟨matched, hmatched⟩ := Option.isSome_iff_exists.mp
      (globLoop_isSome GlobPositions.within_init (GlobPositions.turnsLeft_init hturns))
    exact ⟨matched, hmatched, globLoop_eq_some htext hinit hmatched⟩
  obtain ⟨answer, hanswer, hmeaning⟩ := hends (globTurns pattern text) le_rfl
  have hmatch : globMatch pattern text = answer := by rw [globMatch, hanswer, Option.getD_some]
  rw [hmatch]
  refine ⟨fun turns hturns => ?_, hmeaning⟩
  obtain ⟨matched, hmatched, hmeaning'⟩ := hends turns hturns
  rw [hmatched, Bool.eq_iff_iff.mpr (hmeaning'.trans hmeaning.symm)]

/-- A pattern with two stars and a question mark. -/
theorem globMatch_spec_stars :
    (∀ turns, globTurns "?O*.*U".toList "power.draw.gpu".toList ≤ turns →
      globLoop "?O*.*U".toList "power.draw.gpu".toList turns {} =
        some (globMatch "?O*.*U".toList "power.draw.gpu".toList)) ∧
    (globMatch "?O*.*U".toList "power.draw.gpu".toList = true ↔
      GlobMatches "?O*.*U".toList "power.draw.gpu".toList) :=
  globMatch_spec _ _ (by decide)

end

end XpuManager
