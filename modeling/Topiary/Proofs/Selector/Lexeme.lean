import Mathlib.Tactic.SplitIfs
import Topiary.Proofs.Selector.Names

/-!
Written forms of tokens. `Lexeme` says which texts write a token of a kind, and `Boundary` what must
not follow such a text. What the catalogue cuts off a text is such a written form, and it is cut off
again in front of every other text that respects the boundary.
-/

namespace Topiary.Selector

open Topiary.Text

variable {rest name cs : List Char} {c : Char}

/-! ## Equations -/

/-- What is left of an argument behind the parts of an equation. -/
def equationRest (cs : List Char) : List Char :=
  let rest := ((splitSign cs).2.dropWhile isDigit).dropWhile isSmallLetter
  if (splitSign rest).1.isSome then (splitSign rest).2.dropWhile isDigit else (splitSign rest).2

/-- The equation whose parts stand at the front of an argument. -/
def equationOf (function cs : List Char) : Equation :=
  let behindSign := (splitSign cs).2
  let behindScalar := behindSign.dropWhile isDigit
  let letters := behindScalar.takeWhile isSmallLetter
  let offset := splitSign (behindScalar.dropWhile isSmallLetter)
  { function := String.ofList function
    scalarSign := (splitSign cs).1
    scalar := String.ofList (behindSign.takeWhile isDigit)
    symbol := if letters.isEmpty then none else some (String.ofList letters)
    offsetSign := offset.1
    offset := String.ofList (if offset.1.isSome then offset.2.takeWhile isDigit else []) }

theorem acceptEquation_eq (cs : List Char) : acceptEquation cs =
    match splitCall cs with
    | none => none
    | some (function, body) =>
      match equationRest body with
      | ')' :: rest =>
        some ⟨.equationCall (equationOf function body),
          ':' :: function ++ '(' :: (equationOf function body).argument ++ [')'], rest⟩
      | _ => none := rfl

theorem splitSign_append_cons (hc : Sign.ofChar? c = none) :
    splitSign (cs ++ c :: rest) = ((splitSign cs).1, (splitSign cs).2 ++ c :: rest) := by
  cases cs with
  | nil => simp [splitSign, hc]
  | cons a cs =>
    simp only [List.cons_append, splitSign]
    cases Sign.ofChar? a <;> rfl

/-- A closing parenthesis ends the reading of an equation. -/
theorem equationRest_append (a : List Char) :
    equationRest (a ++ ')' :: rest) = equationRest a ++ ')' :: rest := by
  have hsign : Sign.ofChar? ')' = none := rfl
  have hdigit : isDigit ')' = false := by decide
  have hletter : isSmallLetter ')' = false := by decide
  simp only [equationRest, splitSign_append_cons hsign, dropWhile_append_cons hdigit,
    dropWhile_append_cons hletter]
  split <;> rfl

theorem equationOf_append (function a : List Char) :
    equationOf function (a ++ ')' :: rest) = equationOf function a := by
  have hsign : Sign.ofChar? ')' = none := rfl
  have hdigit : isDigit ')' = false := by decide
  have hletter : isSmallLetter ')' = false := by decide
  simp only [equationOf, splitSign_append_cons hsign, dropWhile_append_cons hdigit,
    dropWhile_append_cons hletter, takeWhile_append_cons hdigit, takeWhile_append_cons hletter]

/-! ## Forms of tokens -/

/-- A run of ASCII blanks. -/
def IsBlanks (blanks : List Char) : Prop :=
  ∀ c ∈ blanks, isAsciiBlank c = true

/-- The text writes a token of the kind. -/
inductive Lexeme : Kind → List Char → Prop where
  | tag {name : List Char} (h : IsName name) : Lexeme (.tag (String.ofList name)) name
  | id {name : List Char} (h : IsName name) : Lexeme (.id (String.ofList name)) ('#' :: name)
  | className {name : List Char} (h : IsName name) :
      Lexeme (.className (String.ofList name)) ('.' :: name)
  | child {u v : List Char} (hu : IsBlanks u) (hv : IsBlanks v) : Lexeme .child (u ++ '>' :: v)
  | nextAdjacent {u v : List Char} (hu : IsBlanks u) (hv : IsBlanks v) :
      Lexeme .nextAdjacent (u ++ '+' :: v)
  | nextSibling {u v : List Char} (hu : IsBlanks u) (hv : IsBlanks v) :
      Lexeme .nextSibling (u ++ '~' :: v)
  | descendant {u : List Char} (hu : IsBlanks u) (hne : u ≠ []) : Lexeme .descendant u
  | universal : Lexeme .universal ['*']
  | separator : Lexeme .separator [',']
  | attrPresence {name : List Char} (h : IsName name) :
      Lexeme (.attrPresence (String.ofList name)) ('[' :: name ++ [']'])
  | attrValue {name value : List Char} (h : IsName name) (relation : Relation) (hv : '"' ∉ value) :
      Lexeme (.attrValue (String.ofList name) relation (String.ofList value))
        ('[' :: name ++ relation.symbol ++ '"' :: value ++ ['"', ']'])
  | quotedCall {name argument : List Char} (h : IsFunction name) (ha : '"' ∉ argument) :
      Lexeme (.quotedCall (String.ofList name) (String.ofList argument))
        (':' :: name ++ '(' :: '"' :: argument ++ ['"', ')'])
  | equationCall {name argument : List Char} (h : IsFunction name)
      (ha : equationRest argument = []) :
      Lexeme (.equationCall (equationOf name argument)) (':' :: name ++ '(' :: argument ++ [')'])
  | call {name argument : List Char} (h : IsFunction name) (ha : ')' ∉ argument)
      (hr : equationRest argument ≠ []) :
      Lexeme (.call (String.ofList name) (String.ofList argument))
        (':' :: name ++ '(' :: argument ++ [')'])
  | pseudoClass {name : List Char} (h : IsFunction name) :
      Lexeme (.pseudoClass (String.ofList name)) (':' :: name)
  | pseudoElement {name : List Char} (h : IsFunction name) :
      Lexeme (.pseudoElement (String.ofList name)) (':' :: ':' :: name)

/-- The characters that write a combinator. -/
def isMark (c : Char) : Bool :=
  c == '>' || c == '+' || c == '~'

/-- What follows does not change where the written form of a kind ends, nor which kind it is. -/
def Boundary : Kind → List Char → Prop
  | .tag _, rest | .id _, rest | .className _, rest => Stops isAlphanumeric rest
  | .child, rest | .nextAdjacent, rest | .nextSibling, rest => Stops isAsciiBlank rest
  | .descendant, rest => Stops isAsciiBlank rest ∧ Stops isMark rest
  | .pseudoClass _, rest => Stops isFunctionChar rest ∧ Stops (· == '(') rest
  | .pseudoElement _, rest => Stops isFunctionChar rest
  | .call _ argument, rest =>
    ∀ inner, argument.toList = '"' :: inner → ¬ QuoteBefore ')' (inner ++ ')' :: rest)
  | _, _ => True

/-! ## The first character decides the family -/

theorem acceptTag_eq_none (hc : isLetter c = false) : acceptTag (c :: rest) = none := by
  simp [acceptTag, splitName, hc]

theorem acceptBetweenBlanks_eq_none {mark : Char} {kind : Kind} (hb : isAsciiBlank c = false)
    (hc : c ≠ mark) : acceptBetweenBlanks mark kind (c :: rest) = none := by
  simp [acceptBetweenBlanks, hb, hc]

theorem acceptBlanks_eq_none {kind : Kind} (hb : isAsciiBlank c = false) :
    acceptBlanks kind (c :: rest) = none := by
  simp [acceptBlanks, hb]

theorem splitCall_eq_none (hc : c ≠ ':') : splitCall (c :: rest) = none := by
  unfold splitCall
  split
  · rename_i h
    exact absurd (List.cons.inj h).1 hc
  · rfl

theorem acceptPresence_eq_none (hc : c ≠ '[') : acceptPresence (c :: rest) = none := by
  unfold acceptPresence
  split
  · rename_i h
    exact absurd (List.cons.inj h).1 hc
  · rfl

theorem acceptValue_eq_none {relation : Relation} (hc : c ≠ '[') :
    acceptValue relation (c :: rest) = none := by
  unfold acceptValue
  split
  · rename_i h
    exact absurd (List.cons.inj h).1 hc
  · rfl

theorem acceptPseudoClass_eq_none (hc : c ≠ ':') : acceptPseudoClass (c :: rest) = none := by
  unfold acceptPseudoClass
  split
  · rename_i h
    exact absurd (List.cons.inj h).1 hc
  · rfl

theorem acceptPseudoElement_eq_none (hc : c ≠ ':') : acceptPseudoElement (c :: rest) = none := by
  unfold acceptPseudoElement
  split
  · rename_i h
    exact absurd (List.cons.inj h).1 hc
  · rfl

theorem acceptQuotedCall_eq_none (hc : c ≠ ':') : acceptQuotedCall (c :: rest) = none := by
  rw [acceptQuotedCall, splitCall_eq_none hc]

theorem acceptEquation_eq_none (hc : c ≠ ':') : acceptEquation (c :: rest) = none := by
  rw [acceptEquation, splitCall_eq_none hc]

theorem acceptCall_eq_none (hc : c ≠ ':') : acceptCall (c :: rest) = none := by
  rw [acceptCall, splitCall_eq_none hc]

theorem acceptEmptyCall_eq_none (hc : c ≠ ':') : acceptEmptyCall (c :: rest) = none := by
  rw [acceptEmptyCall, splitCall_eq_none hc]

theorem acceptMarked_eq_none {mark : Char} {kind : String → Kind} (hc : c ≠ mark) :
    acceptMarked mark kind (c :: rest) = none := by
  rw [acceptMarked, if_neg hc]

theorem acceptChar_eq_none {mark : Char} {kind : Kind} (hc : c ≠ mark) :
    acceptChar mark kind (c :: rest) = none := by
  rw [acceptChar, if_neg hc]

theorem acceptChar_self {mark : Char} {kind : Kind} :
    acceptChar mark kind (mark :: rest) = some ⟨kind, [mark], rest⟩ := by
  rw [acceptChar, if_pos rfl]

/-- The forms of combinators. -/
def combinatorCut (cs : List Char) : Option Cut :=
  [acceptBetweenBlanks '>' .child, acceptBetweenBlanks '+' .nextAdjacent,
    acceptBetweenBlanks '~' .nextSibling, acceptBlanks .descendant].findSome? fun accept =>
      accept cs

/-- The forms in brackets. -/
def bracketCut (cs : List Char) : Option Cut :=
  [acceptPresence, acceptValue .equals, acceptValue .differs, acceptValue .dashed,
    acceptValue .contains, acceptValue .word, acceptValue .ends, acceptValue .starts].findSome?
      fun accept => accept cs

/-- The forms behind a colon. -/
def colonCut (cs : List Char) : Option Cut :=
  [acceptQuotedCall, acceptEquation, acceptCall, acceptEmptyCall, acceptPseudoClass,
    acceptPseudoElement].findSome? fun accept => accept cs

theorem firstCut_of_letter (hc : isLetter c = true) :
    firstCut (c :: rest) = acceptTag (c :: rest) := by
  simp [firstCut, catalogue, acceptTag, splitName, hc]

theorem firstCut_cons (hl : isLetter c = false) : firstCut (c :: rest) =
    if c = '*' then some ⟨.universal, ['*'], rest⟩
    else if c = ',' then some ⟨.separator, [','], rest⟩
    else if c = '#' then acceptMarked '#' .id (c :: rest)
    else if c = '.' then acceptMarked '.' .className (c :: rest)
    else if c = '[' then bracketCut (c :: rest)
    else if c = ':' then colonCut (c :: rest)
    else combinatorCut (c :: rest) := by
  -- in every case all forms of the other families refuse the text
  split_ifs <;> subst_vars <;>
    simp (disch := first | assumption | decide) only [firstCut, catalogue, bracketCut, colonCut,
      combinatorCut, List.findSome?_cons, List.findSome?_nil, acceptTag_eq_none,
      acceptBetweenBlanks_eq_none, acceptChar_self, acceptChar_eq_none, acceptBlanks_eq_none,
      acceptMarked_eq_none, acceptPresence_eq_none, acceptValue_eq_none, acceptQuotedCall_eq_none,
      acceptEquation_eq_none, acceptCall_eq_none, acceptEmptyCall_eq_none,
      acceptPseudoClass_eq_none, acceptPseudoElement_eq_none]
  · cases acceptMarked '#' Kind.id ('#' :: rest) <;> rfl
  · cases acceptMarked '.' Kind.className ('.' :: rest) <;> rfl

theorem firstCut_hash : firstCut ('#' :: cs) = acceptMarked '#' .id ('#' :: cs) :=
  firstCut_cons (by decide)

theorem firstCut_dot : firstCut ('.' :: cs) = acceptMarked '.' .className ('.' :: cs) :=
  firstCut_cons (by decide)

theorem firstCut_bracket : firstCut ('[' :: cs) = bracketCut ('[' :: cs) :=
  firstCut_cons (by decide)

theorem firstCut_colon : firstCut (':' :: cs) = colonCut (':' :: cs) :=
  firstCut_cons (by decide)

theorem firstCut_eq_combinatorCut (hc : isAsciiBlank c = true ∨ isMark c = true) :
    firstCut (c :: rest) = combinatorCut (c :: rest) := by
  have hmem : c ∈ [' ', '\t', '\n', '\r', '\x0c', '>', '+', '~'] := by
    simpa [isAsciiBlank, isMark, or_assoc] using hc
  simp only [List.mem_cons, List.not_mem_nil, or_false] at hmem
  rcases hmem with rfl | rfl | rfl | rfl | rfl | rfl | rfl | rfl <;>
    rw [firstCut_cons (by decide)] <;> rfl

/-! ## Combinators -/

theorem acceptBetweenBlanks_append {mark : Char} {kind : Kind} {u : List Char} (hu : IsBlanks u)
    (hc : isAsciiBlank c = false) : acceptBetweenBlanks mark kind (u ++ c :: rest) =
      if c = mark then
        some ⟨kind, u ++ c :: rest.takeWhile isAsciiBlank, rest.dropWhile isAsciiBlank⟩
      else none := by
  have hstop : Stops isAsciiBlank (c :: rest) := stops_cons.mpr hc
  rw [acceptBetweenBlanks, dropWhile_append_of_stops hu hstop, takeWhile_append_of_stops hu hstop]

theorem acceptBetweenBlanks_blanks {mark : Char} {kind : Kind} {u : List Char} (hu : IsBlanks u) :
    acceptBetweenBlanks mark kind u = none := by
  have hdrop := dropWhile_append_of_stops hu (stops_nil (p := isAsciiBlank))
  rw [List.append_nil] at hdrop
  rw [acceptBetweenBlanks, hdrop]

theorem acceptBlanks_append {kind : Kind} {u : List Char} (hu : IsBlanks u) (hne : u ≠ [])
    (hr : Stops isAsciiBlank rest) : acceptBlanks kind (u ++ rest) = some ⟨kind, u, rest⟩ := by
  rw [acceptBlanks, takeWhile_append_of_stops hu hr, dropWhile_append_of_stops hu hr]
  cases u with
  | nil => exact absurd rfl hne
  | cons a u => rfl

/-- A combinator is cut off as the mark behind the blanks says. -/
theorem combinatorCut_append {u : List Char} (hu : IsBlanks u) (hc : isAsciiBlank c = false) :
    combinatorCut (u ++ c :: rest) =
      let cut (kind : Kind) : Option Cut :=
        some ⟨kind, u ++ c :: rest.takeWhile isAsciiBlank, rest.dropWhile isAsciiBlank⟩
      if c = '>' then cut .child
      else if c = '+' then cut .nextAdjacent
      else if c = '~' then cut .nextSibling
      else if u = [] then none
      else some ⟨.descendant, u, c :: rest⟩ := by
  have hblanks : acceptBlanks .descendant (u ++ c :: rest) =
      if u = [] then none else some ⟨.descendant, u, c :: rest⟩ := by
    by_cases hne : u = []
    · simp [hne, acceptBlanks_eq_none hc]
    · rw [if_neg hne, acceptBlanks_append hu hne (stops_cons.mpr hc)]
  simp only [combinatorCut, List.findSome?_cons, List.findSome?_nil, hblanks,
    acceptBetweenBlanks_append hu hc]
  split_ifs <;> rfl

theorem combinatorCut_blanks {u : List Char} (hu : IsBlanks u) (hne : u ≠ []) :
    combinatorCut u = some ⟨.descendant, u, []⟩ := by
  have hblanks : acceptBlanks .descendant (u ++ []) = some ⟨.descendant, u, []⟩ :=
    acceptBlanks_append hu hne stops_nil
  rw [List.append_nil] at hblanks
  simp only [combinatorCut, List.findSome?_cons, acceptBetweenBlanks_blanks hu, hblanks]

theorem firstCut_append_mark {u : List Char} (hu : IsBlanks u) (hc : isMark c = true) :
    firstCut (u ++ c :: rest) = combinatorCut (u ++ c :: rest) := by
  cases u with
  | nil => exact firstCut_eq_combinatorCut (Or.inr hc)
  | cons a u => exact firstCut_eq_combinatorCut (Or.inl (hu a (by simp)))

/-- A mark between blanks is cut off in front of everything but further blanks. -/
theorem firstCut_between {u v : List Char} {kind : Kind} (hu : IsBlanks u) (hv : IsBlanks v)
    (hr : Stops isAsciiBlank rest)
    (hc : (c, kind) ∈ [('>', Kind.child), ('+', .nextAdjacent), ('~', .nextSibling)]) :
    firstCut (u ++ c :: v ++ rest) = some ⟨kind, u ++ c :: v, rest⟩ := by
  have hmark : isMark c = true ∧ isAsciiBlank c = false := by
    simp only [List.mem_cons, Prod.mk.injEq, List.not_mem_nil, or_false] at hc
    rcases hc with ⟨rfl, -⟩ | ⟨rfl, -⟩ | ⟨rfl, -⟩ <;> decide
  rw [List.append_assoc, List.cons_append, firstCut_append_mark hu hmark.1,
    combinatorCut_append hu hmark.2, takeWhile_append_of_stops hv hr,
    dropWhile_append_of_stops hv hr]
  simp only [List.mem_cons, Prod.mk.injEq, List.not_mem_nil, or_false] at hc
  rcases hc with ⟨rfl, rfl⟩ | ⟨rfl, rfl⟩ | ⟨rfl, rfl⟩ <;> rfl

theorem firstCut_blanks {u : List Char} (hu : IsBlanks u) (hne : u ≠ [])
    (hr : Stops isAsciiBlank rest) (hm : Stops isMark rest) :
    firstCut (u ++ rest) = some ⟨.descendant, u, rest⟩ := by
  obtain ⟨a, v, rfl⟩ := List.exists_cons_of_ne_nil hne
  rw [List.cons_append, firstCut_eq_combinatorCut (Or.inl (hu a (by simp))), ← List.cons_append]
  cases rest with
  | nil => rw [List.append_nil, combinatorCut_blanks hu hne]
  | cons c rest =>
    have hc := stops_cons.mp hm
    simp only [isMark, Bool.or_eq_false_iff, beq_eq_false_iff_ne] at hc
    rw [combinatorCut_append hu (stops_cons.mp hr)]
    simp [hc]

/-! ## Names behind a mark and single characters -/

theorem firstCut_name (h : IsName name) (hr : Stops isAlphanumeric rest) :
    firstCut (name ++ rest) = some ⟨.tag (String.ofList name), name, rest⟩ := by
  obtain ⟨c, tail, rfl⟩ := List.exists_cons_of_ne_nil h.ne_nil
  have hc : isLetter c = true := h.letter c (by simp)
  have hsplit := splitName_append h hr
  rw [List.cons_append] at hsplit ⊢
  rw [firstCut_of_letter hc, acceptTag, hsplit]
  rfl

theorem acceptMarked_append {mark : Char} {kind : String → Kind} (h : IsName name)
    (hr : Stops isAlphanumeric rest) : acceptMarked mark kind (mark :: (name ++ rest)) =
      some ⟨kind (String.ofList name), mark :: name, rest⟩ := by
  rw [acceptMarked, if_pos rfl, splitName_append h hr]
  rfl

/-! ## Brackets -/

theorem dropText_append (text cs : List Char) : dropText text (text ++ cs) = some cs := by
  induction text with
  | nil => rfl
  | cons t text ih => rw [List.cons_append, dropText, if_pos rfl, ih]

/-- Behind the name the operator tells the relation. -/
theorem dropText_symbol {relation other : Relation} (hne : other ≠ relation) (cs : List Char) :
    (dropText other.symbol (relation.symbol ++ '"' :: cs)).bind splitQuoted = none := by
  cases relation <;> cases other <;> first | exact absurd rfl hne | rfl

theorem stops_symbol (relation : Relation) :
    Stops isAlphanumeric (relation.symbol ++ cs) := by
  cases relation <;> exact stops_cons.mpr (by decide)

theorem acceptPresence_append (h : IsName name) :
    acceptPresence ('[' :: (name ++ ']' :: rest)) =
      some ⟨.attrPresence (String.ofList name), '[' :: name ++ [']'], rest⟩ := by
  have hstop : Stops isAlphanumeric (']' :: rest) := stops_cons.mpr (by decide)
  rw [acceptPresence, splitName_append h hstop]
  rfl

theorem acceptPresence_symbol (h : IsName name) (relation : Relation) :
    acceptPresence ('[' :: (name ++ (relation.symbol ++ cs))) = none := by
  rw [acceptPresence, splitName_append h (stops_symbol relation)]
  cases relation <;> rfl

theorem acceptValue_append {value : List Char} (h : IsName name) (hv : '"' ∉ value)
    (relation other : Relation) :
    acceptValue other ('[' :: (name ++ (relation.symbol ++ ('"' :: value ++ '"' :: ']' :: rest)))) =
      if other = relation then
        some ⟨.attrValue (String.ofList name) relation (String.ofList value),
          '[' :: name ++ relation.symbol ++ '"' :: value ++ ['"', ']'], rest⟩
      else none := by
  rw [acceptValue, splitName_append h (stops_symbol relation)]
  by_cases hother : other = relation
  · subst hother
    simp only [dropText_append, Option.bind_some, splitQuoted_append hv, if_true]
  · have hnone := dropText_symbol hother (value ++ '"' :: ']' :: rest)
    rw [← List.cons_append] at hnone
    simp only [hnone, if_neg hother]

theorem bracketCut_value {value : List Char} (h : IsName name) (hv : '"' ∉ value)
    (relation : Relation) :
    bracketCut ('[' :: (name ++ (relation.symbol ++ ('"' :: value ++ '"' :: ']' :: rest)))) =
      some ⟨.attrValue (String.ofList name) relation (String.ofList value),
        '[' :: name ++ relation.symbol ++ '"' :: value ++ ['"', ']'], rest⟩ := by
  simp only [bracketCut, List.findSome?_cons, List.findSome?_nil, acceptPresence_symbol h,
    acceptValue_append h hv]
  cases relation <;> rfl

/-! ## Behind a colon -/

/-- The parts of an equation and what is left behind them make up the argument. -/
theorem argument_append_equationRest (function a : List Char) :
    (equationOf function a).argument ++ equationRest a = a := by
  have hfirst := append_of_splitSign a
  have hdigits := List.takeWhile_append_dropWhile (p := isDigit) (l := (splitSign a).2)
  have hletters := List.takeWhile_append_dropWhile (p := isSmallLetter)
    (l := (splitSign a).2.dropWhile isDigit)
  have hsecond := append_of_splitSign (((splitSign a).2.dropWhile isDigit).dropWhile isSmallLetter)
  have hsymbol (letters : List Char) :
      ((if letters.isEmpty = true then none else some (String.ofList letters)).getD "").toList =
        letters := by
    cases letters <;> simp
  simp only [equationOf, equationRest, Equation.argument, hsymbol, String.toList_ofList]
  conv_rhs => rw [← hfirst, ← hdigits, ← hletters, ← hsecond]
  split
  · simp only [List.append_assoc, List.takeWhile_append_dropWhile]
  · simp only [List.append_assoc, List.nil_append]

theorem argument_equationOf {function argument : List Char} (ha : equationRest argument = []) :
    (equationOf function argument).argument = argument := by
  have := argument_append_equationRest function argument
  rwa [ha, List.append_nil] at this

theorem acceptQuotedCall_append {argument : List Char} (h : IsFunction name)
    (ha : '"' ∉ argument) :
    acceptQuotedCall (':' :: name ++ '(' :: ('"' :: argument ++ '"' :: ')' :: rest)) =
      some ⟨.quotedCall (String.ofList name) (String.ofList argument),
        ':' :: name ++ '(' :: '"' :: argument ++ ['"', ')'], rest⟩ := by
  rw [acceptQuotedCall, splitCall_append h]
  simp only [splitQuoted_append ha]

theorem acceptQuotedCall_refuses {body : List Char} (h : IsFunction name)
    (hq : ∀ inner, body = '"' :: inner → ¬ QuoteBefore ')' inner) :
    acceptQuotedCall (':' :: name ++ '(' :: body) = none := by
  rw [acceptQuotedCall, splitCall_append h]
  simp only
  split
  · rename_i argument rest hsplit
    obtain ⟨hnot, heq⟩ := not_mem_of_splitQuoted hsplit
    exact absurd ⟨argument, rest, rfl, hnot⟩ (hq _ heq)
  · rfl

theorem acceptEquation_append {argument : List Char} (h : IsFunction name)
    (ha : equationRest argument = []) :
    acceptEquation (':' :: name ++ '(' :: (argument ++ ')' :: rest)) =
      some ⟨.equationCall (equationOf name argument), ':' :: name ++ '(' :: argument ++ [')'],
        rest⟩ := by
  rw [acceptEquation_eq, splitCall_append h]
  simp only [equationRest_append, ha, List.nil_append, equationOf_append, argument_equationOf ha]

theorem acceptEquation_refuses {argument : List Char} (h : IsFunction name) (ha : ')' ∉ argument)
    (hr : equationRest argument ≠ []) :
    acceptEquation (':' :: name ++ '(' :: (argument ++ ')' :: rest)) = none := by
  obtain ⟨c, more, hrest⟩ := List.exists_cons_of_ne_nil hr
  have hc : c ≠ ')' := by
    rintro rfl
    apply ha
    rw [← argument_append_equationRest [] argument, hrest]
    simp
  rw [acceptEquation_eq, splitCall_append h]
  simp only [equationRest_append, hrest, List.cons_append]
  split
  · rename_i heq
    exact absurd (List.cons.inj heq).1 hc
  · rfl

theorem acceptCall_append {argument : List Char} (h : IsFunction name) (ha : ')' ∉ argument)
    (hne : argument ≠ []) :
    acceptCall (':' :: name ++ '(' :: (argument ++ ')' :: rest)) =
      some ⟨.call (String.ofList name) (String.ofList argument),
        ':' :: name ++ '(' :: argument ++ [')'], rest⟩ := by
  have hall : ∀ c ∈ argument, (c != ')') = true := by
    intro c hc
    rw [bne_iff_ne]
    rintro rfl
    exact ha hc
  have hstop : Stops (· != ')') (')' :: rest) := stops_cons.mpr (by decide)
  have hempty : argument.isEmpty = false := by simpa using hne
  rw [acceptCall, splitCall_append h]
  simp only [dropWhile_append_of_stops hall hstop, takeWhile_append_of_stops hall hstop, hempty,
    Bool.false_eq_true, if_false]

theorem equationRest_nil : equationRest [] = [] := rfl

theorem equationRest_quote (cs : List Char) : equationRest ('"' :: cs) = '"' :: cs := rfl

theorem colonCut_quotedCall {argument : List Char} (h : IsFunction name) (ha : '"' ∉ argument) :
    colonCut (':' :: name ++ '(' :: ('"' :: argument ++ '"' :: ')' :: rest)) =
      some ⟨.quotedCall (String.ofList name) (String.ofList argument),
        ':' :: name ++ '(' :: '"' :: argument ++ ['"', ')'], rest⟩ := by
  rw [colonCut, List.findSome?_cons, acceptQuotedCall_append h ha]

theorem colonCut_equationCall {argument : List Char} (h : IsFunction name)
    (ha : equationRest argument = []) :
    colonCut (':' :: name ++ '(' :: (argument ++ ')' :: rest)) =
      some ⟨.equationCall (equationOf name argument), ':' :: name ++ '(' :: argument ++ [')'],
        rest⟩ := by
  have hq : ∀ inner, argument ++ ')' :: rest = '"' :: inner → ¬ QuoteBefore ')' inner := by
    intro inner heq
    cases argument with
    | nil => simp at heq
    | cons c more =>
      obtain rfl : c = '"' := (List.cons.inj heq).1
      simp [equationRest_quote] at ha
  rw [colonCut, List.findSome?_cons, acceptQuotedCall_refuses h hq, List.findSome?_cons,
    acceptEquation_append h ha]

theorem colonCut_call {argument : List Char} (h : IsFunction name) (ha : ')' ∉ argument)
    (hr : equationRest argument ≠ [])
    (hq : ∀ inner, argument = '"' :: inner → ¬ QuoteBefore ')' (inner ++ ')' :: rest)) :
    colonCut (':' :: name ++ '(' :: (argument ++ ')' :: rest)) =
      some ⟨.call (String.ofList name) (String.ofList argument),
        ':' :: name ++ '(' :: argument ++ [')'], rest⟩ := by
  have hne : argument ≠ [] := by
    rintro rfl
    exact hr equationRest_nil
  have hbody : ∀ inner, argument ++ ')' :: rest = '"' :: inner → ¬ QuoteBefore ')' inner := by
    intro inner heq
    obtain ⟨c, more, rfl⟩ := List.exists_cons_of_ne_nil hne
    obtain ⟨rfl, rfl⟩ := List.cons.inj heq
    exact hq more rfl
  rw [colonCut, List.findSome?_cons, acceptQuotedCall_refuses h hbody, List.findSome?_cons,
    acceptEquation_refuses h ha hr, List.findSome?_cons, acceptCall_append h ha hne]

theorem splitCall_name (h : IsFunction name) (hr : Stops isFunctionChar rest)
    (hp : Stops (· == '(') rest) : splitCall (':' :: (name ++ rest)) = none := by
  rw [splitCall, splitFunction_append h hr]
  cases rest with
  | nil => rfl
  | cons c rest =>
    have hc : c ≠ '(' := by simpa using stops_cons.mp hp
    split
    · rename_i heq
      exact absurd (by simpa using congrArg (fun o => o.map Prod.snd) heq) (by simp [hc])
    · rfl

theorem colonCut_name (h : IsFunction name) (hr : Stops isFunctionChar rest)
    (hp : Stops (· == '(') rest) : colonCut (':' :: (name ++ rest)) =
      some ⟨.pseudoClass (String.ofList name), ':' :: name, rest⟩ := by
  simp only [colonCut, List.findSome?_cons, acceptQuotedCall, acceptEquation, acceptCall,
    acceptEmptyCall, splitCall_name h hr hp, acceptPseudoClass, splitFunction_append h hr,
    Option.map_some]

theorem colonCut_colon (h : IsFunction name) (hr : Stops isFunctionChar rest) :
    colonCut (':' :: ':' :: (name ++ rest)) =
      some ⟨.pseudoElement (String.ofList name), ':' :: ':' :: name, rest⟩ := by
  have hcolon : splitFunction (':' :: (name ++ rest)) = none := splitFunction_eq_none (by decide)
  simp only [colonCut, List.findSome?_cons, acceptQuotedCall, acceptEquation, acceptCall,
    acceptEmptyCall, splitCall, hcolon, acceptPseudoClass, Option.map_none, acceptPseudoElement,
    splitFunction_append h hr, Option.map_some]

/-! ## All forms -/

/-- A written form is cut off in front of everything that respects its boundary. -/
theorem firstCut_of_lexeme {kind : Kind} {source : List Char} (h : Lexeme kind source)
    (hb : Boundary kind rest) : firstCut (source ++ rest) = some ⟨kind, source, rest⟩ := by
  cases h with
  | tag h => exact firstCut_name h hb
  | id h =>
    rw [List.cons_append, firstCut_hash]
    exact acceptMarked_append h hb
  | className h =>
    rw [List.cons_append, firstCut_dot]
    exact acceptMarked_append h hb
  | child hu hv => exact firstCut_between hu hv hb (by simp)
  | nextAdjacent hu hv => exact firstCut_between hu hv hb (by simp)
  | nextSibling hu hv => exact firstCut_between hu hv hb (by simp)
  | descendant hu hne => exact firstCut_blanks hu hne hb.1 hb.2
  | universal => exact firstCut_cons (by decide)
  | separator => exact firstCut_cons (by decide)
  | @attrPresence name h =>
    have happ : '[' :: name ++ [']'] ++ rest = '[' :: (name ++ ']' :: rest) := by simp
    rw [happ, firstCut_bracket]
    simp only [bracketCut, List.findSome?_cons, acceptPresence_append h]
  | @attrValue name value h relation hv =>
    have happ : '[' :: name ++ relation.symbol ++ '"' :: value ++ ['"', ']'] ++ rest =
        '[' :: (name ++ (relation.symbol ++ ('"' :: value ++ '"' :: ']' :: rest))) := by simp
    rw [happ, firstCut_bracket]
    exact bracketCut_value h hv relation
  | @quotedCall name argument h ha =>
    have happ : ':' :: name ++ '(' :: '"' :: argument ++ ['"', ')'] ++ rest =
        ':' :: name ++ '(' :: ('"' :: argument ++ '"' :: ')' :: rest) := by simp
    rw [happ, List.cons_append, firstCut_colon]
    exact colonCut_quotedCall h ha
  | @equationCall name argument h ha =>
    have happ : ':' :: name ++ '(' :: argument ++ [')'] ++ rest =
        ':' :: name ++ '(' :: (argument ++ ')' :: rest) := by simp
    rw [happ, List.cons_append, firstCut_colon]
    exact colonCut_equationCall h ha
  | @call name argument h ha hr =>
    have happ : ':' :: name ++ '(' :: argument ++ [')'] ++ rest =
        ':' :: name ++ '(' :: (argument ++ ')' :: rest) := by simp
    rw [happ, List.cons_append, firstCut_colon]
    exact colonCut_call h ha hr (by simpa [Boundary] using hb)
  | pseudoClass h =>
    rw [List.cons_append, firstCut_colon]
    exact colonCut_name h hb.1 hb.2
  | pseudoElement h =>
    rw [List.cons_append, List.cons_append, firstCut_colon]
    exact colonCut_colon h hb

end Topiary.Selector
