import Topiary.Selector.Equation

/-!
Coefficients. An argument writes two numbers of any size. The reader gives exactly these numbers, or
nothing if one of them does not fit into 63 bits. A repeat directive is the reading of an argument
`-n+k`, but for an offset without digits, which is a directive and no position test.
-/

namespace Topiary.Selector

variable {e : Equation} {sign : Option Sign} {digits : String} {a b k n : Int}

/-! ## Numbers with a sign -/

/-- The number that digits write behind a sign, however large; no digits stand for 1. -/
def writtenValue (sign : Option Sign) (digits : String) : Int :=
  let magnitude : Nat := if digits = "" then 1 else digitsValue digits.toList
  if sign = some .minus then -magnitude else magnitude

theorem signedValue_eq_some_iff : signedValue sign digits = some n ↔
    n = writtenValue sign digits ∧ n.natAbs ≤ maxCoefficient := by
  simp only [signedValue, writtenValue, String.isEmpty_iff]
  generalize (if digits = "" then 1 else digitsValue digits.toList) = magnitude
  by_cases hlarge : maxCoefficient < magnitude
  · rw [if_pos hlarge]
    constructor
    · intro hnone
      cases hnone
    · rintro ⟨hvalue, hle⟩
      split at hvalue <;> omega
  · rw [if_neg hlarge]
    rcases sign with _ | _ | _ <;> simp <;> omega

/-! ## Position tests -/

/-- The argument writes a position test `a * n + b`, whatever the size of its numbers. -/
inductive Equation.Writes (e : Equation) : Int → Int → Prop where
  /-- A number alone. -/
  | number (hsymbol : e.symbol = none) (hscalar : e.scalar ≠ "") (hoffset : e.offsetSign = none) :
      e.Writes 0 (writtenValue e.scalarSign e.scalar)
  /-- `an` -/
  | multiples (hsymbol : e.symbol = some "n") (hoffset : e.offsetSign = none) :
      e.Writes (writtenValue e.scalarSign e.scalar) 0
  /-- `an+b` -/
  | shifted {sign : Sign} (hsymbol : e.symbol = some "n") (hsign : e.offsetSign = some sign)
      (hoffset : e.offset ≠ "") :
      e.Writes (writtenValue e.scalarSign e.scalar) (writtenValue (some sign) e.offset)
  | odd (hsymbol : e.symbol = some "odd") (hsign : e.scalarSign = none) (hscalar : e.scalar = "")
      (hoffset : e.offsetSign = none) : e.Writes 2 1
  | even (hsymbol : e.symbol = some "even") (hsign : e.scalarSign = none) (hscalar : e.scalar = "")
      (hoffset : e.offsetSign = none) : e.Writes 2 0

namespace Equation

/-- Both coefficients fit into 63 bits. -/
def Fits (a b : Int) : Prop :=
  a.natAbs ≤ maxCoefficient ∧ b.natAbs ≤ maxCoefficient

theorem writes_of_affine (h : e.affine = some (a, b)) : e.Writes a b ∧ Fits a b := by
  have hzero : (0 : Int).natAbs ≤ maxCoefficient := by decide
  unfold affine at h
  simp only at h
  split at h
  case h_1 hsymbol =>
    by_cases hbare : (e.scalar.isEmpty || e.offsetSign.isSome) = true
    · rw [if_pos hbare] at h
      cases h
    · rw [if_neg hbare] at h
      obtain ⟨_, hscalar, hpair⟩ := Option.map_eq_some_iff.mp h
      cases hpair
      obtain ⟨rfl, hfits⟩ := signedValue_eq_some_iff.mp hscalar
      simp only [Bool.or_eq_true, not_or, String.isEmpty_iff, Option.not_isSome_iff_eq_none]
        at hbare
      exact ⟨.number hsymbol hbare.1 hbare.2, hzero, hfits⟩
  case h_2 hsymbol =>
    split at h
    case h_1 hoffset =>
      obtain ⟨_, hscalar, hpair⟩ := Option.map_eq_some_iff.mp h
      cases hpair
      obtain ⟨rfl, hfits⟩ := signedValue_eq_some_iff.mp hscalar
      exact ⟨.multiples hsymbol hoffset, hfits, hzero⟩
    case h_2 sign hsign =>
      split at h
      · cases h
      · rename_i hoffset
        split at h
        · rename_i hscalar hshift
          cases h
          obtain ⟨rfl, hfits⟩ := signedValue_eq_some_iff.mp hscalar
          simp only [signedOffset, hsign] at hshift
          obtain ⟨rfl, hfits'⟩ := signedValue_eq_some_iff.mp hshift
          exact ⟨.shifted hsymbol hsign (by simpa using hoffset), hfits, hfits'⟩
        · cases h
  case h_3 hsymbol =>
    obtain ⟨hbare, hpair⟩ := Option.ite_none_right_eq_some.mp h
    cases hpair
    simp only [Bool.and_eq_true, Option.isNone_iff_eq_none, String.isEmpty_iff] at hbare
    exact ⟨.odd hsymbol hbare.1.1 hbare.1.2 hbare.2, by decide, by decide⟩
  case h_4 hsymbol =>
    obtain ⟨hbare, hpair⟩ := Option.ite_none_right_eq_some.mp h
    cases hpair
    simp only [Bool.and_eq_true, Option.isNone_iff_eq_none, String.isEmpty_iff] at hbare
    exact ⟨.even hsymbol hbare.1.1 hbare.1.2 hbare.2, by decide, by decide⟩
  case h_5 => cases h

theorem affine_of_writes (h : e.Writes a b) (hfits : Fits a b) : e.affine = some (a, b) := by
  cases h with
  | number hsymbol hscalar hoffset =>
    have hvalue : e.signedScalar = some (writtenValue e.scalarSign e.scalar) :=
      signedValue_eq_some_iff.mpr ⟨rfl, hfits.2⟩
    simp [affine, hsymbol, hscalar, hoffset, hvalue]
  | multiples hsymbol hoffset =>
    have hvalue : e.signedScalar = some (writtenValue e.scalarSign e.scalar) :=
      signedValue_eq_some_iff.mpr ⟨rfl, hfits.1⟩
    simp [affine, hsymbol, hoffset, hvalue]
  | @shifted sign hsymbol hsign hoffset =>
    have hvalue : e.signedScalar = some (writtenValue e.scalarSign e.scalar) :=
      signedValue_eq_some_iff.mpr ⟨rfl, hfits.1⟩
    have hshift : e.signedOffset = some (writtenValue (some sign) e.offset) := by
      simp only [signedOffset, hsign]
      exact signedValue_eq_some_iff.mpr ⟨rfl, hfits.2⟩
    simp [affine, hsymbol, hsign, hoffset, hvalue, hshift]
  | odd hsymbol hsign hscalar hoffset => simp [affine, hsymbol, hsign, hscalar, hoffset]
  | even hsymbol hsign hscalar hoffset => simp [affine, hsymbol, hsign, hscalar, hoffset]

/-- An argument is read exactly as it is written, if it is written as a position test and both
numbers fit. -/
theorem affine_eq_some_iff : e.affine = some (a, b) ↔ e.Writes a b ∧ Fits a b :=
  ⟨writes_of_affine, fun h => affine_of_writes h.1 h.2⟩

/-! ## Repeat directives -/

/-- A repeat directive is a position test as well, or its offset is a mere sign, which tests no
position. -/
theorem affine_of_multiplier (h : e.multiplier = some k) :
    (e.offset = "" ∧ e.affine = none) ∨ e.affine = some (-1, k) := by
  obtain ⟨⟨-, hsymbol, hscalar⟩, hoffset⟩ := Option.ite_none_right_eq_some.mp h
  cases hsign : e.offsetSign with
  | none => simp [signedOffset, hsign] at hoffset
  | some sign =>
    by_cases hempty : e.offset = ""
    · left
      simp [affine, hsymbol, hsign, hempty]
    · right
      simp [affine, hsymbol, hsign, hempty, hscalar, hoffset]

end Equation

end Topiary.Selector
