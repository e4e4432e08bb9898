import Mathlib.Data.List.TakeWhile
import Topiary.Proofs.Selector.Lexeme
import Topiary.Selector.Equation

/-!
Writing equations. The parts of an equation, written one behind another, are read back as the same
parts, and a number that is written in decimal digits as the same number.
-/

namespace Topiary.Selector

variable {p : Char → Bool} {l rest : List Char} {c : Char} {sign : Option Sign} {e : Equation}
  {n : Nat}

/-! ## Parts behind one another -/

theorem stops_append (hl : ∀ c ∈ l, p c = false) (hr : Stops p rest) : Stops p (l ++ rest) := by
  cases l with
  | nil => exact hr
  | cons c l => exact stops_cons.mpr (hl c List.mem_cons_self)

theorem stops_append_of_ne_nil (hl : ∀ c ∈ l, p c = false) (hne : l ≠ []) :
    Stops p (l ++ rest) := by
  obtain ⟨c, tail, rfl⟩ := List.exists_cons_of_ne_nil hne
  exact stops_cons.mpr (hl c List.mem_cons_self)

def isSign (c : Char) : Bool :=
  (Sign.ofChar? c).isSome

theorem isSign_eq_false (hplus : c ≠ '+') (hminus : c ≠ '-') : isSign c = false := by
  unfold isSign Sign.ofChar?
  split
  · exact absurd rfl hplus
  · exact absurd rfl hminus
  · rfl

theorem isSign_eq_false_of_isDigit (h : isDigit c = true) : isSign c = false := by
  apply isSign_eq_false <;> rintro rfl <;> simp [isDigit] at h

theorem isSign_eq_false_of_isSmallLetter (h : isSmallLetter c = true) : isSign c = false := by
  apply isSign_eq_false <;> rintro rfl <;> simp [isSmallLetter] at h

theorem isDigit_eq_false_of_isSmallLetter (h : isSmallLetter c = true) : isDigit c = false := by
  simp only [isSmallLetter, Bool.and_eq_true, decide_eq_true_eq] at h
  have hlt : ¬ c ≤ '9' := fun hle => absurd (Char.le_trans h.1 hle) (by decide)
  simp [isDigit, hlt]

theorem splitSign_signText (h : sign = none → Stops isSign rest) :
    splitSign (signText sign ++ rest) = (sign, rest) := by
  cases sign with
  | some sign => cases sign <;> rfl
  | none =>
    cases rest with
    | nil => rfl
    | cons c rest =>
      have hc : Sign.ofChar? c = none := by simpa [isSign] using stops_cons.mp (h rfl)
      simp [signText, splitSign, hc]

/-- Each part is of its kind, and none would be read as another one. -/
structure Equation.Legal (e : Equation) : Prop where
  scalar : ∀ c ∈ e.scalar.toList, isDigit c = true
  symbol : ∀ word, e.symbol = some word → word ≠ "" ∧ ∀ c ∈ word.toList, isSmallLetter c = true
  offset : ∀ c ∈ e.offset.toList, isDigit c = true
  unsigned : e.offsetSign = none → e.offset = ""
  /-- A sign in front of all else is the sign of the scalar. -/
  leading : e.offsetSign ≠ none → e.scalarSign ≠ none ∨ e.scalar ≠ "" ∨ e.symbol ≠ none

namespace Equation.Legal

variable (h : e.Legal)

include h

theorem letters : ∀ c ∈ (e.symbol.getD "").toList, isSmallLetter c = true := by
  cases hsymbol : e.symbol with
  | none => simp
  | some word => exact (h.symbol word hsymbol).2

theorem symbol_eq : (if (e.symbol.getD "").toList.isEmpty then none
    else some (e.symbol.getD "")) = e.symbol := by
  cases hsymbol : e.symbol with
  | none => simp
  | some word =>
    have hne := (h.symbol word hsymbol).1
    simp [hne]

/-- The second sign ends runs of letters and of digits. -/
theorem stops_offset (hp : ∀ sign : Sign, p sign.char = false) :
    Stops p (signText e.offsetSign ++ e.offset.toList) := by
  cases hsign : e.offsetSign with
  | none =>
    rw [h.unsigned hsign]
    exact stops_nil
  | some sign => exact stops_cons.mpr (hp sign)

theorem splitOffset : splitSign (signText e.offsetSign ++ e.offset.toList) =
    (e.offsetSign, e.offset.toList) := by
  apply splitSign_signText
  intro hsign
  rw [h.unsigned hsign]
  exact stops_nil

/-- Without a sign of its own the scalar, or what stands in its place, begins with no sign. -/
theorem stops_isSign (hsign : e.scalarSign = none) : Stops isSign
    (e.scalar.toList ++ ((e.symbol.getD "").toList ++
      (signText e.offsetSign ++ e.offset.toList))) := by
  have hscalar : ∀ c ∈ e.scalar.toList, isSign c = false :=
    fun c hc => isSign_eq_false_of_isDigit (h.scalar c hc)
  have hletters : ∀ c ∈ (e.symbol.getD "").toList, isSign c = false :=
    fun c hc => isSign_eq_false_of_isSmallLetter (h.letters c hc)
  -- all parts in front of the second sign may be missing only if that sign is missing too
  by_cases hoffset : e.offsetSign = none
  · apply stops_append hscalar
    apply stops_append hletters
    rw [hoffset, h.unsigned hoffset]
    exact stops_nil
  · rcases h.leading hoffset with hcontra | hne | hne
    · exact absurd hsign hcontra
    · exact stops_append_of_ne_nil hscalar (String.toList_eq_nil_iff.not.mpr hne)
    · obtain ⟨word, hword⟩ := Option.ne_none_iff_exists'.mp hne
      have hne := (h.symbol word hword).1
      apply stops_append hscalar
      apply stops_append_of_ne_nil hletters
      rw [hword, Option.getD_some]
      exact String.toList_eq_nil_iff.not.mpr hne

theorem splitScalar : splitSign e.argument = (e.scalarSign,
    e.scalar.toList ++ ((e.symbol.getD "").toList ++
      (signText e.offsetSign ++ e.offset.toList))) := by
  rw [Equation.argument]
  simp only [List.append_assoc]
  exact splitSign_signText h.stops_isSign

theorem stops_isDigit : Stops isDigit
    ((e.symbol.getD "").toList ++ (signText e.offsetSign ++ e.offset.toList)) := by
  apply stops_append fun c hc => isDigit_eq_false_of_isSmallLetter (h.letters c hc)
  exact h.stops_offset fun sign => by cases sign <;> rfl

theorem stops_isSmallLetter :
    Stops isSmallLetter (signText e.offsetSign ++ e.offset.toList) :=
  h.stops_offset fun sign => by cases sign <;> rfl

theorem takeWhile_offset : (if e.offsetSign.isSome then e.offset.toList.takeWhile isDigit else []) =
    e.offset.toList := by
  split
  · exact List.takeWhile_eq_self_iff.mpr h.offset
  · rename_i hsign
    rw [h.unsigned (by simpa using hsign)]
    rfl

/-- The parts of an equation are read back from its written form. -/
theorem equationOf_argument : equationOf e.function.toList e.argument = e := by
  simp only [equationOf, h.splitScalar, takeWhile_append_of_stops h.scalar h.stops_isDigit,
    dropWhile_append_of_stops h.scalar h.stops_isDigit,
    takeWhile_append_of_stops h.letters h.stops_isSmallLetter,
    dropWhile_append_of_stops h.letters h.stops_isSmallLetter, h.splitOffset, h.takeWhile_offset,
    h.symbol_eq, String.ofList_toList]

/-- Nothing of the written form is left over. -/
theorem equationRest_argument : equationRest e.argument = [] := by
  have hparts := argument_append_equationRest e.function.toList e.argument
  rw [h.equationOf_argument] at hparts
  exact List.append_right_eq_self.mp hparts

end Equation.Legal

/-! ## What is read is legal -/

theorem splitSign_of_none {cs : List Char} (h : (splitSign cs).1 = none) :
    (splitSign cs).2 = cs := by
  have happ := append_of_splitSign cs
  rwa [h] at happ

theorem dropWhile_of_takeWhile_eq_nil (h : l.takeWhile p = []) : l.dropWhile p = l := by
  have happ := List.takeWhile_append_dropWhile (p := p) (l := l)
  rwa [h] at happ

theorem legal_equationOf (function cs : List Char) : (equationOf function cs).Legal where
  scalar c hc := by
    rw [equationOf, String.toList_ofList] at hc
    exact mem_takeWhile hc
  symbol word hword := by
    simp only [equationOf] at hword
    split at hword
    · cases hword
    · rename_i hne
      obtain rfl := Option.some.inj hword
      refine ⟨by simpa using hne, fun c hc => ?_⟩
      rw [String.toList_ofList] at hc
      exact mem_takeWhile hc
  offset c hc := by
    simp only [equationOf, String.toList_ofList] at hc
    split at hc
    · exact mem_takeWhile hc
    · cases hc
  unsigned hsign := by
    simp only [equationOf] at hsign ⊢
    rw [hsign]
    rfl
  leading hsign := by
    -- with nothing in front of it the second sign would have been read as the first
    by_contra hnone
    simp only [not_or, not_not] at hnone
    obtain ⟨hscalarSign, hscalar, hsymbol⟩ := hnone
    simp only [equationOf] at hsign hscalarSign hscalar hsymbol
    have hdigits : (splitSign cs).2.takeWhile isDigit = [] := by
      simpa [← String.toList_inj] using hscalar
    rw [splitSign_of_none hscalarSign] at hdigits
    rw [splitSign_of_none hscalarSign, dropWhile_of_takeWhile_eq_nil hdigits] at hsign hsymbol
    have hletters : cs.takeWhile isSmallLetter = [] := by simpa using hsymbol
    rw [dropWhile_of_takeWhile_eq_nil hletters] at hsign
    exact hsign hscalarSign

/-! ## Calls -/

/-- The written form of an equation with the function around it. -/
def Equation.text (e : Equation) : String :=
  ":" ++ e.function ++ "(" ++ String.ofList e.argument ++ ")"

theorem Equation.toList_text (e : Equation) :
    e.text.toList = ':' :: e.function.toList ++ '(' :: e.argument ++ [')'] := by
  simp [Equation.text]

/-- An equation is written in one way only, and only if its parts are legal. -/
theorem lexeme_equationCall_iff {source : List Char} : Lexeme (.equationCall e) source ↔
    IsFunction e.function.toList ∧ e.Legal ∧ source = e.text.toList := by
  rw [Equation.toList_text]
  constructor
  · intro h
    generalize hkind : Kind.equationCall e = kind at h
    cases h with
    | @equationCall function argument hfunction hargument =>
      obtain rfl := Kind.equationCall.inj hkind
      refine ⟨?_, legal_equationOf function argument, ?_⟩
      · rw [equationOf, String.toList_ofList]
        exact hfunction
      · rw [argument_equationOf hargument, equationOf, String.toList_ofList]
    | _ => cases hkind
  · rintro ⟨hfunction, hlegal, rfl⟩
    have hlexeme := Lexeme.equationCall hfunction hlegal.equationRest_argument
    rwa [hlegal.equationOf_argument] at hlexeme

/-! ## Decimal numbers -/

theorem digitsValue_eq (digits : List Char) :
    digitsValue digits = Nat.ofDigitChars 10 digits 0 := by
  rw [digitsValue, Nat.ofDigitChars]
  simp only [Nat.mul_comm]

theorem toList_toString (n : Nat) : (toString n).toList = Nat.toDigits 10 n :=
  Nat.toList_repr

theorem digitsValue_toString (n : Nat) : digitsValue (toString n).toList = n := by
  rw [toList_toString, digitsValue_eq]
  exact Nat.ofDigitChars_toDigits (by decide) (by decide)

theorem isDigit_of_mem_toString (h : c ∈ (toString n).toList) : isDigit c = true := by
  rw [toList_toString] at h
  have hdigit := Nat.isDigit_of_mem_toDigits (by decide) (by decide) h
  simpa [isDigit, Char.isDigit, Char.le_def] using hdigit

/-- A number that is not too large is read back with its sign. -/
theorem signedValue_toString (sign : Option Sign) (h : n ≤ maxCoefficient) :
    signedValue sign (toString n) = some (if sign = some .minus then -(n : Int) else n) := by
  have hempty : (toString n).isEmpty = false := by simp
  have hlarge : ¬ maxCoefficient < n := Nat.not_lt.mpr h
  simp only [signedValue, hempty, digitsValue_toString, Bool.false_eq_true, if_false, if_neg hlarge]
  rcases sign with _ | _ | _ <;> rfl

end Topiary.Selector
