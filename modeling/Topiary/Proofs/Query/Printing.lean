import Topiary.Proofs.Query.Filters
import Topiary.Proofs.Selector.Equations

/-!
Printing selectors. A selector list has a text, with one blank beside each combinator and behind
each comma. Printed tests and compounds are cut into tokens again, whatever stands behind them, and
these tokens write the same tests and compounds.
-/

namespace Topiary.Query

open Topiary.Selector Topiary.Text

/-! ## Texts -/

/-- The names for the tests that have several. -/
structure Naming where
  link : String
  never : String
  link_eq : keywordTest? link = some .link
  never_eq : keywordTest? never = some .never

/-- The name of a test that is written with nothing but a name. -/
def Test.keyword? (naming : Naming) : Test → Option String
  | .root => some "root"
  | .empty => some "empty"
  | .firstChild => some "first-child"
  | .lastChild => some "last-child"
  | .onlyChild => some "only-child"
  | .firstOfType => some "first-of-type"
  | .lastOfType => some "last-of-type"
  | .onlyOfType => some "only-of-type"
  | .link => some naming.link
  | .checked => some "checked"
  | .disabled => some "disabled"
  | .enabled => some "enabled"
  | .required => some "required"
  | .optional => some "optional"
  | .never => some naming.never
  | _ => none

def Position.function (p : Position) : String :=
  if p.ofType then if p.fromEnd then "nth-last-of-type" else "nth-of-type"
  else if p.fromEnd then "nth-last-child" else "nth-child"

/-- Both coefficients in full, such as `-2n+0`. -/
def Position.formula (p : Position) : String :=
  toString p.a ++ "n" ++ (if p.b < 0 then "" else "+") ++ toString p.b

def Test.text (naming : Naming) : Test → String
  | .id name => "#" ++ name
  | .className name => "." ++ name
  | .attrPresence name => "[" ++ name ++ "]"
  | .attrValue name relation value =>
    "[" ++ name ++ String.ofList relation.symbol ++ "\"" ++ value ++ "\"]"
  | .position p => ":" ++ p.function ++ "(" ++ p.formula ++ ")"
  | .contains text => ":contains(\"" ++ text ++ "\")"
  | .lang range => ":lang(\"" ++ range ++ "\")"
  | test => ":" ++ (test.keyword? naming).getD ""

/-- A tag name or an asterisk if the compound has one, then the tests in order. -/
def Compound.text {τ : Type} (textOf : τ → String) (c : Compound τ) : String :=
  c.tag.getD (if c.universal then "*" else "") ++ String.join (c.tests.map textOf)

def Filter.text (naming : Naming) : Filter → String
  | .test single => single.text naming
  | .negation inner => ":not(" ++ inner.text (Test.text naming) ++ ")"

def Combinator.text : Combinator → String
  | .descendant => " "
  | .child => " > "
  | .nextAdjacent => " + "
  | .nextSibling => " ~ "

/-- The compounds of a selector behind the first, each with the combinator in front of it. -/
def Complex.links (s : Complex) : List (Combinator × Compound Filter) :=
  s.combinators.zip s.compounds.tail

def Complex.text (naming : Naming) (s : Complex) : String :=
  String.join (s.compounds.head?.toList.map (Compound.text (Filter.text naming))) ++
    String.join (s.links.map fun link => link.1.text ++ link.2.text (Filter.text naming))

def SelectorList.text (naming : Naming) (l : SelectorList) : String :=
  ", ".intercalate (l.selectors.map (Complex.text naming))

/-! ## What can be printed -/

/-- A test whose names are names and whose texts can stand between double quotes. -/
def Test.Printable : Test → Prop
  | .id name | .className name | .attrPresence name => IsName name.toList
  | .attrValue name _ value => IsName name.toList ∧ '"' ∉ value.toList
  | .position p => p.a.natAbs ≤ maxCoefficient ∧ p.b.natAbs ≤ maxCoefficient
  | .contains text => '"' ∉ text.toList
  | .lang range => range ≠ "" ∧ lower range = range ∧ '"' ∉ range.toList
  | _ => True

/-- A compound that asks something, with a tag name in lower case or an asterisk or neither. -/
structure Compound.Printable {τ : Type} (printable : τ → Prop) (c : Compound τ) : Prop where
  asks : c.isBlank = false
  tag : ∀ tag, c.tag = some tag → IsName tag.toList ∧ lower tag = tag ∧ c.universal = false
  tests : ∀ test ∈ c.tests, printable test

/-- The first closing parenthesis ends a negation, so there is none in what is negated. -/
def Filter.Printable (naming : Naming) : Filter → Prop
  | .test single => single.Printable
  | .negation inner =>
    inner.Printable Test.Printable ∧ ')' ∉ (inner.text (Test.text naming)).toList

structure Complex.Printable (naming : Naming) (s : Complex) : Prop where
  balanced : s.Balanced
  compounds : ∀ c ∈ s.compounds, c.Printable (Filter.Printable naming)

/-- Nothing is written for a list without selectors, and nothing is no selector. -/
structure SelectorList.Printable (naming : Naming) (l : SelectorList) : Prop where
  ne_nil : l.selectors ≠ []
  selectors : ∀ s ∈ l.selectors, s.Printable naming

/-! ## What stands behind a token -/

variable {rest : List Char} {more : List Token} {naming : Naming}
  {τ : Type} {read : Token → Except Unsupported τ} {tokenOf : τ → Token} {c : Compound τ}

/-- What may stand behind a name or a call: nothing that would go on with it. -/
structure Apart (rest : List Char) : Prop where
  name : Stops isFunctionChar rest
  call : Stops (· == '(') rest

theorem apart_nil : Apart [] :=
  ⟨stops_nil, stops_nil⟩

theorem Apart.stops (h : Apart rest) : Stops isAlphanumeric rest :=
  fun c hc => (Bool.or_eq_false_iff.mp (h.name c hc)).1

/-- What may stand behind a combinator: no further blank and no further mark. -/
structure Opens (rest : List Char) : Prop where
  blank : Stops isAsciiBlank rest
  mark : Stops Selector.isMark rest

/-- A character that a test begins with. -/
def isOpener (c : Char) : Bool :=
  c == '#' || c == '.' || c == '[' || c == ':'

/-- A character that a compound begins with. -/
def beginsCompound (c : Char) : Bool :=
  isLetter c || c == '*' || isOpener c

theorem apart_cons {c : Char} (h : isOpener c = true) : Apart (c :: rest) := by
  simp only [isOpener, Bool.or_eq_true, beq_iff_eq] at h
  constructor <;> rw [stops_cons] <;> rcases h with ((rfl | rfl) | rfl) | rfl <;> decide

theorem opens_cons {c : Char} (h : beginsCompound c = true) : Opens (c :: rest) := by
  constructor <;> rw [stops_cons]
  · cases hblank : isAsciiBlank c with
    | false => rfl
    | true =>
      simp only [isAsciiBlank, Bool.or_eq_true, beq_iff_eq] at hblank
      rcases hblank with (((rfl | rfl) | rfl) | rfl) | rfl <;> exact absurd h (by decide)
  · cases hmark : Selector.isMark c with
    | false => rfl
    | true =>
      simp only [Selector.isMark, Bool.or_eq_true, beq_iff_eq] at hmark
      rcases hmark with (rfl | rfl) | rfl <;> exact absurd h (by decide)

/-- The token stands for the test and is cut off in front of everything that is apart from it. -/
structure Reads (read : Token → Except Unsupported τ) (test : τ) (token : Token) : Prop where
  lexeme : Lexeme token.kind token.source.toList
  boundary : ∀ rest, Apart rest → Boundary token.kind rest
  node : token.isStructural = false
  ne_tag : ∀ name, token.kind ≠ .tag name
  eq_ok : read token = .ok test

theorem Reads.opener {test : τ} {token : Token} (h : Reads read test token) :
    ∃ c tail, token.source.toList = c :: tail ∧ isOpener c = true := by
  obtain ⟨kind, source⟩ := token
  have hnode : kind.isStructural = false := h.node
  have hlexeme : Lexeme kind source.toList := h.lexeme
  have htag : ∀ name, kind ≠ .tag name := h.ne_tag
  generalize source.toList = cs at hlexeme ⊢
  cases hlexeme with
  | tag hname => exact absurd rfl (htag _)
  | child | nextAdjacent | nextSibling | descendant | universal | separator =>
    exact absurd hnode (by decide)
  | _ => exact ⟨_, _, rfl, rfl⟩

theorem Reads.addToken {test : τ} {token : Token} (h : Reads read test token) (c : Compound τ) :
    addToken read c token = .ok (c.addTest test) := by
  rw [addToken_of_node read c h.node h.ne_tag, h.eq_ok]
  rfl

/-! ## Tests -/

/-- All names that stand for a test without an argument. -/
def keywords : List String :=
  ["root", "empty", "first-child", "last-child", "only-child", "first-of-type", "last-of-type",
    "only-of-type", "link", "any-link", "checked", "disabled", "enabled", "required", "optional",
    "hover", "active", "focus", "focus-visible", "focus-within", "visited", "target"]

theorem mem_keywords {name : String} {test : Test} (h : keywordTest? name = some test) :
    name ∈ keywords := by
  by_contra hnot
  simp only [keywords, List.mem_cons, List.not_mem_nil, or_false, not_or] at hnot
  simp [keywordTest?, hnot] at h

theorem isFunction_of_keywordTest? {name : String} {test : Test}
    (h : keywordTest? name = some test) : IsFunction name.toList := by
  have hall : ∀ name ∈ keywords, splitFunction name.toList = some (name.toList, []) := by decide
  exact isFunction_of_self (hall name (mem_keywords h))

theorem keywordTest?_of_keyword? {name : String} {test : Test}
    (h : test.keyword? naming = some name) : keywordTest? name = some test := by
  cases test <;> simp only [Test.keyword?, Option.some.injEq, reduceCtorEq] at h
  case link => exact h ▸ naming.link_eq
  case never => exact h ▸ naming.never_eq
  all_goals
    subst h
    rfl

/-- The parts of the formula of a position. -/
def Position.equation (p : Position) : Equation where
  function := p.function
  scalarSign := if p.a < 0 then some .minus else none
  scalar := toString p.a.natAbs
  symbol := some "n"
  offsetSign := some (if p.b < 0 then .minus else .plus)
  offset := toString p.b.natAbs

theorem legal_equation (p : Position) : p.equation.Legal where
  scalar := fun c hc => isDigit_of_mem_toString hc
  symbol := by
    intro word hword
    obtain rfl : "n" = word := Option.some.inj hword
    simp [isSmallLetter]
  offset := fun c hc => isDigit_of_mem_toString hc
  unsigned := by simp [Position.equation]
  leading := by simp [Position.equation]

theorem toList_toString_int (n : Int) : (toString n).toList =
    signText (if n < 0 then some .minus else none) ++ (toString n.natAbs).toList := by
  cases n with
  | ofNat n =>
    have hneg : ¬ Int.ofNat n < 0 := Int.not_lt.mpr (Int.natCast_nonneg n)
    rw [if_neg hneg]
    rfl
  | negSucc n =>
    have hminus : toString (Int.negSucc n) = "-" ++ toString (n + 1) := rfl
    rw [if_pos (Int.negSucc_lt_zero n), hminus, String.toList_append]
    rfl

theorem toList_formula (p : Position) : p.formula.toList = p.equation.argument := by
  simp only [Position.formula, String.toList_append, toList_toString_int, Equation.argument,
    Position.equation]
  by_cases hb : p.b < 0 <;> simp [hb, signText, Sign.char]

theorem affine_equation (p : Position) (ha : p.a.natAbs ≤ maxCoefficient)
    (hb : p.b.natAbs ≤ maxCoefficient) : p.equation.affine = some (p.a, p.b) := by
  have hscalar : p.equation.signedScalar = some p.a := by
    rw [Equation.signedScalar, Position.equation, signedValue_toString _ ha, Option.some_inj]
    by_cases hneg : p.a < 0
    · rw [if_pos hneg, if_pos rfl]
      omega
    · rw [if_neg hneg, if_neg (by simp)]
      omega
  have hoffset : p.equation.signedOffset = some p.b := by
    rw [Equation.signedOffset, Position.equation]
    simp only [signedValue_toString _ hb, Option.some_inj]
    by_cases hneg : p.b < 0
    · rw [if_pos hneg, if_pos rfl]
      omega
    · rw [if_neg hneg, if_neg (by simp)]
      omega
  rw [Equation.affine]
  simp only [hscalar, hoffset]
  simp [Position.equation]

theorem isFunction_function (p : Position) : IsFunction p.function.toList := by
  rw [Position.function]
  split <;> split <;> exact isFunction_of_self (by decide)

theorem positionFunction?_function (p : Position) :
    positionFunction? p.function = some (p.ofType, p.fromEnd) := by
  obtain ⟨a, b, ofType, fromEnd⟩ := p
  cases ofType <;> cases fromEnd <;> rfl

/-- The kind of token that a printed test is read as. -/
def Test.kind (naming : Naming) : Test → Kind
  | .id name => .id name
  | .className name => .className name
  | .attrPresence name => .attrPresence name
  | .attrValue name relation value => .attrValue name relation value
  | .position p => .equationCall p.equation
  | .contains text => .quotedCall "contains" text
  | .lang range => .quotedCall "lang" range
  | test => .pseudoClass ((test.keyword? naming).getD "")

def Test.token (naming : Naming) (test : Test) : Token :=
  ⟨test.kind naming, test.text naming⟩

theorem lexeme_keyword {name : String} {test : Test} (h : test.keyword? naming = some name) :
    Lexeme (.pseudoClass name) (":" ++ name).toList := by
  have hlexeme := Lexeme.pseudoClass (isFunction_of_keywordTest? (keywordTest?_of_keyword? h))
  simpa using hlexeme

theorem lexeme_position (p : Position) :
    Lexeme (.equationCall p.equation) (":" ++ p.function ++ "(" ++ p.formula ++ ")").toList := by
  rw [lexeme_equationCall_iff]
  refine ⟨isFunction_function p, legal_equation p, ?_⟩
  rw [Equation.toList_text, ← toList_formula]
  simp [Position.equation]

theorem lexeme_quoted {function argument : String} (h : IsFunction function.toList)
    (ha : '"' ∉ argument.toList) : Lexeme (.quotedCall function argument)
      (":" ++ function ++ "(\"" ++ argument ++ "\")").toList := by
  have hlexeme := Lexeme.quotedCall h ha
  simpa using hlexeme

theorem reads_keyword (naming : Naming) {name : String} {test : Test}
    (h : test.keyword? naming = some name) :
    Reads testOf test ⟨.pseudoClass name, ":" ++ name⟩ where
  lexeme := lexeme_keyword h
  boundary := fun rest hrest => ⟨hrest.name, hrest.call⟩
  node := rfl
  ne_tag := by simp
  eq_ok := by simp [testOf, keywordTest?_of_keyword? h]

theorem reads_position (p : Position) (ha : p.a.natAbs ≤ maxCoefficient)
    (hb : p.b.natAbs ≤ maxCoefficient) : Reads testOf (.position p)
      ⟨.equationCall p.equation, ":" ++ p.function ++ "(" ++ p.formula ++ ")"⟩ where
  lexeme := lexeme_position p
  boundary := fun rest hrest => trivial
  node := rfl
  ne_tag := by simp
  eq_ok := by
    have hfunction : positionFunction? p.equation.function = some (p.ofType, p.fromEnd) :=
      positionFunction?_function p
    simp [testOf, hfunction, affine_equation p ha hb]

theorem reads_quoted {function argument : String} {test : Test} (h : IsFunction function.toList)
    (ha : '"' ∉ argument.toList)
    (htest : ∀ source, testOf ⟨.quotedCall function argument, source⟩ = .ok test) :
    Reads testOf test
      ⟨.quotedCall function argument, ":" ++ function ++ "(\"" ++ argument ++ "\")"⟩ where
  lexeme := lexeme_quoted h ha
  boundary := fun rest hrest => trivial
  node := rfl
  ne_tag := by simp
  eq_ok := htest _

/-- A printed test is read as the test. -/
theorem reads_test (naming : Naming) (test : Test) (h : test.Printable) :
    Reads testOf test (test.token naming) := by
  cases test with
  | id name =>
    have hlexeme := Lexeme.id h
    exact ⟨by simpa [Test.token, Test.kind, Test.text] using hlexeme,
      fun rest hrest => hrest.stops, rfl, by simp [Test.token, Test.kind], rfl⟩
  | className name =>
    have hlexeme := Lexeme.className h
    exact ⟨by simpa [Test.token, Test.kind, Test.text] using hlexeme,
      fun rest hrest => hrest.stops, rfl, by simp [Test.token, Test.kind], rfl⟩
  | attrPresence name =>
    have hlexeme := Lexeme.attrPresence h
    exact ⟨by simpa [Test.token, Test.kind, Test.text] using hlexeme,
      fun rest hrest => trivial, rfl, by simp [Test.token, Test.kind], rfl⟩
  | attrValue name relation value =>
    have hlexeme := Lexeme.attrValue h.1 relation h.2
    exact ⟨by simpa [Test.token, Test.kind, Test.text] using hlexeme,
      fun rest hrest => trivial, rfl, by simp [Test.token, Test.kind], rfl⟩
  | position p => exact reads_position p h.1 h.2
  | contains text => exact reads_quoted (isFunction_of_self (by decide)) h fun source => rfl
  | lang range =>
    obtain ⟨hne, hlower, hquote⟩ := h
    apply reads_quoted (isFunction_of_self (by decide)) hquote
    intro source
    simp [testOf, hne, hlower]
  | _ => exact reads_keyword naming rfl

/-! ## Compounds -/

namespace Compound

/-- The token of the tag name or of the asterisk. -/
def headTokens (c : Compound τ) : List Token :=
  match c.tag with
  | some tag => [⟨.tag tag, tag⟩]
  | none => if c.universal then [⟨.universal, "*"⟩] else []

def tokens (tokenOf : τ → Token) (c : Compound τ) : List Token :=
  c.headTokens ++ c.tests.map tokenOf

theorem spell_tokens {textOf : τ → String} (h : ∀ test, (tokenOf test).source = textOf test)
    (c : Compound τ) : spell (c.tokens tokenOf) = (c.text textOf).toList := by
  have htests : spell (c.tests.map tokenOf) = (String.join (c.tests.map textOf)).toList := by
    simp [spell, List.flatMap_map, h]
  rw [tokens, text, spell_append, htests, String.toList_append, headTokens]
  cases c.tag with
  | some tag => simp [spell]
  | none => cases c.universal <;> simp [spell]

variable {printable : τ → Prop} (hc : c.Printable printable)
  (hreads : ∀ test, printable test → Reads read test (tokenOf test))

include hc hreads

/-- No token of a compound is a combinator or a separator. -/
theorem Printable.adds : ∀ token ∈ c.tokens tokenOf,
    combinatorOf? token.kind = none ∧ token.kind ≠ .separator := by
  intro token htoken
  rcases List.mem_append.mp htoken with hhead | htest
  · rw [headTokens] at hhead
    split at hhead
    · simp [List.mem_singleton.mp hhead, combinatorOf?]
    · split at hhead
      · simp [List.mem_singleton.mp hhead, combinatorOf?]
      · simp at hhead
  · obtain ⟨test, hmem, rfl⟩ := List.mem_map.mp htest
    exact combinatorOf?_of_node (hreads test (hc.tests test hmem)).node

theorem Printable.begins :
    ∃ d tail, spell (c.tokens tokenOf) = d :: tail ∧ beginsCompound d = true := by
  rw [tokens, headTokens]
  cases htag : c.tag with
  | some tag =>
    have hname := (hc.tag tag htag).1
    obtain ⟨d, tail, hsource⟩ := List.exists_cons_of_ne_nil hname.ne_nil
    have hletter : isLetter d = true := hname.letter d (by rw [hsource]; rfl)
    exact ⟨d, tail ++ spell (c.tests.map tokenOf), by simp [spell, hsource],
      by simp [beginsCompound, hletter]⟩
  | none =>
    cases huniversal : c.universal with
    | true => exact ⟨'*', spell (c.tests.map tokenOf), by simp [spell], rfl⟩
    | false =>
      have hasks := hc.asks
      rw [isBlank, htag, huniversal] at hasks
      cases htests : c.tests with
      | nil => simp [htests] at hasks
      | cons test tests =>
        have hread := hreads test (hc.tests test (by simp [htests]))
        obtain ⟨d, tail, hsource, hopener⟩ := hread.opener
        exact ⟨d, tail ++ spell (tests.map tokenOf), by simp [spell, hsource],
          by simp [beginsCompound, hopener]⟩

omit hc in
theorem wellCut_tests {tests : List τ} (htests : ∀ test ∈ tests, printable test)
    (hmore : WellCut more) (hapart : Apart (spell more)) :
    WellCut (tests.map tokenOf ++ more) ∧ Apart (spell (tests.map tokenOf ++ more)) := by
  induction tests with
  | nil => exact ⟨hmore, hapart⟩
  | cons test tests ih =>
    obtain ⟨hwell, hbehind⟩ := ih fun other hother => htests other (by simp [hother])
    have hread := hreads test (htests test (by simp))
    obtain ⟨d, tail, hsource, hopener⟩ := hread.opener
    refine ⟨⟨hread.lexeme, hread.boundary _ hbehind, hwell⟩, ?_⟩
    rw [List.map_cons, List.cons_append, spell_cons, hsource]
    exact apart_cons hopener

/-- A compound is cut into its tokens in front of everything that is apart from it. -/
theorem Printable.wellCut (hmore : WellCut more) (hapart : Apart (spell more)) :
    WellCut (c.tokens tokenOf ++ more) := by
  obtain ⟨hwell, hbehind⟩ := wellCut_tests hreads hc.tests hmore hapart
  rw [tokens, List.append_assoc, headTokens]
  cases htag : c.tag with
  | some tag =>
    have hlexeme := Lexeme.tag (hc.tag tag htag).1
    rw [String.ofList_toList] at hlexeme
    exact ⟨hlexeme, hbehind.stops, hwell⟩
  | none =>
    cases c.universal with
    | true => exact ⟨Lexeme.universal, trivial, hwell⟩
    | false => exact hwell

omit hc in
theorem foldlM_tests {tests : List τ} (htests : ∀ test ∈ tests, printable test)
    (c : Compound τ) : (tests.map tokenOf).foldlM (addToken read) c =
      .ok { c with tests := c.tests ++ tests } := by
  induction tests generalizing c with
  | nil => simp; rfl
  | cons test tests ih =>
    rw [List.map_cons, List.foldlM_cons, (hreads test (htests test (by simp))).addToken]
    have hrest := ih (fun other hother => htests other (by simp [hother])) (c.addTest test)
    simp only [addTest, List.append_assoc, List.singleton_append] at hrest
    exact hrest

omit hreads in
theorem Printable.foldlM_headTokens :
    c.headTokens.foldlM (addToken read) Compound.blank = .ok { c with tests := [] } := by
  obtain ⟨tag, universal, tests⟩ := c
  cases tag with
  | some tag =>
    obtain ⟨-, hlower, huniversal⟩ := hc.tag tag rfl
    obtain rfl : universal = false := huniversal
    have hadd : addToken read blank ⟨.tag tag, tag⟩ = .ok ⟨some (lower tag), false, []⟩ := rfl
    rw [headTokens, List.foldlM_cons, hadd, hlower]
    rfl
  | none => cases universal <;> rfl

/-- The tokens of a compound write the compound. -/
theorem Printable.foldlM_tokens :
    (c.tokens tokenOf).foldlM (addToken read) Compound.blank = .ok c := by
  rw [tokens, List.foldlM_append, hc.foldlM_headTokens]
  exact foldlM_tests hreads hc.tests { c with tests := [] }

end Compound

/-! ## Filters -/

theorem addTokens_eq_foldlM (tokens : List Token) (c : Compound Filter) :
    addTokens c tokens = tokens.foldlM (addToken filterOf) c := by
  induction tokens generalizing c with
  | nil => rfl
  | cons token tokens ih =>
    rw [addTokens, List.foldlM_cons]
    cases addToken filterOf c token with
    | error cause => rfl
    | ok next => exact ih next

theorem addNegated_eq_foldlM {tokens : List Token} (argument : String)
    (h : ∀ token ∈ tokens, combinatorOf? token.kind = none ∧ token.kind ≠ .separator)
    (c : Compound Test) : addNegated argument c tokens = tokens.foldlM (addToken testOf) c := by
  induction tokens generalizing c with
  | nil => rfl
  | cons token tokens ih =>
    have hkind : (token.isStructural && token.kind != .universal) = false := by
      obtain ⟨hnone, hsep⟩ := h token (by simp)
      rw [Token.isStructural]
      cases hkind : token.kind <;> simp_all [combinatorOf?, Kind.isStructural]
    rw [addNegated, List.foldlM_cons, hkind]
    simp only [Bool.false_eq_true, if_false]
    cases addToken testOf c token with
    | error cause => rfl
    | ok next => exact ih (fun other hother => h other (by simp [hother])) next

theorem spell_testTokens (inner : Compound Test) :
    spell (inner.tokens (Test.token naming)) = (inner.text (Test.text naming)).toList :=
  Compound.spell_tokens (fun _ => rfl) inner

/-- A printed compound is read as the tokens of the compound. -/
theorem tokenize_text {inner : Compound Test} (h : inner.Printable Test.Printable) :
    tokenize (inner.text (Test.text naming)) = .ok (inner.tokens (Test.token naming)) := by
  have hwell : WellCut (inner.tokens (Test.token naming) ++ []) :=
    h.wellCut (reads_test naming) trivial apart_nil
  rw [List.append_nil] at hwell
  have hadds := h.adds (reads_test naming)
  have hcut := cutAll_spell hwell
  rw [spell_testTokens] at hcut
  rw [tokenize_of_cutAll hcut, keep_of_forall]
  · intro token htoken
    exact ne_descendant_of_combinatorOf? (hadds token (List.mem_of_mem_head? htoken)).1
  · exact fun token htoken => (hadds token htoken).2

/-- The text of a compound of tests is read as this compound where it is negated. -/
theorem negated_text {inner : Compound Test} (h : inner.Printable Test.Printable) :
    negated (inner.text (Test.text naming)) = .ok inner := by
  rw [negated, tokenize_text h]
  simp only [addNegated_eq_foldlM _ (h.adds (reads_test naming)),
    h.foldlM_tokens (reads_test naming), h.asks, Bool.false_eq_true, if_false]

/-- The kind of token that a negation is read as: an equation if its argument happens to be one. -/
def negationKind (argument : String) : Kind :=
  if equationRest argument.toList = [] then
    .equationCall (equationOf "not".toList argument.toList)
  else .call "not" argument

theorem lexeme_negation {argument : String} (h : ')' ∉ argument.toList) :
    Lexeme (negationKind argument) (":not(" ++ argument ++ ")").toList := by
  have hnot : IsFunction "not".toList := isFunction_of_self (by decide)
  have hsource : (":not(" ++ argument ++ ")").toList =
      ':' :: "not".toList ++ '(' :: argument.toList ++ [')'] := by simp
  rw [hsource, negationKind]
  split
  · rename_i hrest
    exact Lexeme.equationCall hnot hrest
  · rename_i hrest
    have hlexeme := Lexeme.call hnot h hrest
    rwa [String.ofList_toList, String.ofList_toList] at hlexeme

theorem argumentOf_negation (kind : Kind) (argument : String) :
    argumentOf ⟨kind, ":not(" ++ argument ++ ")"⟩ "not" = argument.toList := by
  have hsource : (":not(" ++ argument ++ ")").toList =
      [':', 'n', 'o', 't', '('] ++ (argument.toList ++ [')']) := by simp
  have hlength : "not".length + 2 = [':', 'n', 'o', 't', '('].length := rfl
  rw [argumentOf, hsource, hlength, List.drop_left, List.dropLast_concat]

theorem filterOf_negation (argument : String) :
    filterOf ⟨negationKind argument, ":not(" ++ argument ++ ")"⟩ =
      (negated argument).map .negation := by
  have hwritten : Kind.writtenFunction? (negationKind argument) = some "not" := by
    rw [negationKind]
    split <;> simp [Kind.writtenFunction?, equationOf]
  rw [filterOf, if_pos hwritten, argumentOf_negation, String.ofList_toList]

theorem text_ne_quote {inner : Compound Test} (h : inner.Printable Test.Printable)
    (cs : List Char) : (inner.text (Test.text naming)).toList ≠ '"' :: cs := by
  obtain ⟨d, tail, hbegin, hd⟩ := h.begins (reads_test naming)
  rw [← spell_testTokens, hbegin]
  intro heq
  obtain rfl : d = '"' := (List.cons.inj heq).1
  exact absurd hd (by decide)

/-- A negation may be written in front of everything, since its argument is not quoted. -/
theorem boundary_negationKind {argument : String} (h : ∀ cs, argument.toList ≠ '"' :: cs) :
    Boundary (negationKind argument) rest := by
  rw [negationKind]
  split
  · trivial
  · intro inner hinner
    exact absurd hinner (h inner)

theorem negationKind_isStructural (argument : String) :
    (negationKind argument).isStructural = false := by
  rw [negationKind]
  split <;> rfl

theorem negationKind_ne_tag (argument name : String) : negationKind argument ≠ .tag name := by
  rw [negationKind]
  split <;> simp

def Filter.kind (naming : Naming) : Filter → Kind
  | .test single => single.kind naming
  | .negation inner => negationKind (inner.text (Test.text naming))

def Filter.token (naming : Naming) (filter : Filter) : Token :=
  ⟨filter.kind naming, filter.text naming⟩

theorem writtenFunction?_test (test : Test) :
    Kind.writtenFunction? (test.kind naming) ≠ some "not" := by
  cases test with
  | position p =>
    obtain ⟨a, b, ofType, fromEnd⟩ := p
    cases ofType <;> cases fromEnd <;>
      simp [Test.kind, Kind.writtenFunction?, Position.equation, Position.function]
  | _ => simp [Test.kind, Kind.writtenFunction?]

/-- A printed filter is read as the filter. -/
theorem reads_filter (naming : Naming) (filter : Filter) (h : filter.Printable naming) :
    Reads filterOf filter (filter.token naming) := by
  cases filter with
  | test test =>
    have hread : Reads testOf test (test.token naming) := reads_test naming test h
    refine ⟨hread.lexeme, hread.boundary, hread.node, hread.ne_tag, ?_⟩
    have hfilter : filterOf (test.token naming) = (testOf (test.token naming)).map .test := by
      have hnot : Kind.writtenFunction? (test.token naming).kind ≠ some "not" :=
        writtenFunction?_test test
      rw [filterOf, if_neg hnot]
    exact hfilter.trans (by rw [hread.eq_ok]; rfl)
  | negation inner =>
    obtain ⟨hinner, hclose⟩ := h
    exact {
      lexeme := lexeme_negation hclose
      boundary := fun rest hrest => boundary_negationKind (text_ne_quote hinner)
      node := negationKind_isStructural _
      ne_tag := negationKind_ne_tag _
      eq_ok := (filterOf_negation _).trans (by rw [negated_text hinner]; rfl) }

end Topiary.Query
