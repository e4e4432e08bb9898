import Topiary.Query.Selector
import Topiary.Selector.Equation
import Topiary.Selector.Tokenized

/-!
Compiling selector text. Every text that is not compiled is refused with its cause.
-/

namespace Topiary.Query

open Topiary.Selector Topiary.Text

/-- Why a selector text is not evaluated. -/
inductive Unsupported where
  | unparseable (error : SelectorError)
  | leadingCombinator (source : String)
  | doubledCombinator (source : String)
  | danglingCombinator (combinator : Combinator)
  | emptySelector
  | secondType (name : String)
  | pseudoClass (name : String)
  | emptyLang
  | complexNegation (argument : String)
  | emptyNegation
  | token (source : String)
deriving Repr, DecidableEq

/-- The name of a combinator in messages. -/
def Combinator.name : Combinator → String
  | .descendant => "Descendant"
  | .child => "Child"
  | .nextAdjacent => "NextAdjacent"
  | .nextSibling => "NextSibling"

/-- The text that tells what is not supported. -/
def Unsupported.reason : Unsupported → String
  | .unparseable error => error.message
  | .leadingCombinator source => "leading combinator " ++ quoted source
  | .doubledCombinator source => "doubled combinator " ++ quoted source
  | .danglingCombinator combinator => "dangling " ++ combinator.name ++ " combinator"
  | .emptySelector => "empty selector"
  | .secondType name => "second type selector " ++ quoted name
  | .pseudoClass name => ":" ++ name
  | .emptyLang => ":lang()"
  | .complexNegation argument => "complex :not argument " ++ quoted argument
  | .emptyNegation => ":not()"
  | .token source => source

def Unsupported.message (u : Unsupported) : String :=
  "Unsupported selector: " ++ u.reason

/-! ## Simple selectors -/

/-- The test that a pseudo-class without argument stands for. -/
def keywordTest? (name : String) : Option Test :=
  if name = "root" then some .root
  else if name = "empty" then some .empty
  else if name = "first-child" then some .firstChild
  else if name = "last-child" then some .lastChild
  else if name = "only-child" then some .onlyChild
  else if name = "first-of-type" then some .firstOfType
  else if name = "last-of-type" then some .lastOfType
  else if name = "only-of-type" then some .onlyOfType
  else if name = "link" ∨ name = "any-link" then some .link
  else if name = "checked" then some .checked
  else if name = "disabled" then some .disabled
  else if name = "enabled" then some .enabled
  else if name = "required" then some .required
  else if name = "optional" then some .optional
  else if name ∈ ["hover", "active", "focus", "focus-visible", "focus-within", "visited", "target"]
  then some .never
  else none

/-- Whether positions are counted by type and from the end, for the functions that count them. -/
def positionFunction? (function : String) : Option (Bool × Bool) :=
  if function = "nth-child" then some (false, false)
  else if function = "nth-last-child" then some (false, true)
  else if function = "nth-of-type" then some (true, false)
  else if function = "nth-last-of-type" then some (true, true)
  else none

/-- The text between the parentheses of a function token. -/
def argumentOf (t : Token) (function : String) : List Char :=
  (t.source.toList.drop (function.length + 2)).dropLast

/-- The test of a function whose argument is taken as it is written. -/
def functionTest (t : Token) (function : String) : Except Unsupported Test :=
  let argument := argumentOf t function
  if function = "contains" then .ok (.contains (String.ofList argument))
  else if function = "lang" then
    let range := trimBy isBlank argument
    if range.isEmpty then .error .emptyLang
    else .ok (.lang (lower (String.ofList range)))
  else .error (.token t.source)

/-- The test that a per-node token other than a tag stands for. -/
def testOf (t : Token) : Except Unsupported Test :=
  match t.kind with
  | .id name => .ok (.id name)
  | .className name => .ok (.className name)
  | .attrPresence name => .ok (.attrPresence name)
  | .attrValue name relation value => .ok (.attrValue name relation value)
  | .pseudoClass name =>
    match keywordTest? name with
    | some test => .ok test
    | none => .error (.pseudoClass name)
  | .equationCall e =>
    match positionFunction? e.function with
    | some (ofType, fromEnd) =>
      match e.affine with
      | some (a, b) => .ok (.position ⟨a, b, ofType, fromEnd⟩)
      | none => .error (.token t.source)
    | none => functionTest t e.function
  | .call function _ => functionTest t function
  | .quotedCall function argument =>
    if function = "contains" then .ok (.contains argument)
    else if function = "lang" ∧ ¬ argument.isEmpty then .ok (.lang (lower argument))
    else .error (.token t.source)
  | _ => .error (.token t.source)

/-- Add a token to a compound, reading all but tags and the universal selector as `test` does. -/
def addToken {τ : Type} (test : Token → Except Unsupported τ) (c : Compound τ) (t : Token) :
    Except Unsupported (Compound τ) :=
  match t.kind with
  | .tag name =>
    if c.tag.isSome || c.universal then .error (.secondType name)
    else .ok { c with tag := some (lower name) }
  | .universal => .ok { c with universal := true }
  | _ => (test t).map c.addTest

/-- Add the tokens of a negated compound one by one. -/
def addNegated (argument : String) (c : Compound Test) : List Token →
    Except Unsupported (Compound Test)
  | [] => .ok c
  | t :: tokens =>
    if t.isStructural && t.kind != .universal then .error (.complexNegation argument)
    else match addToken testOf c t with
      | .error cause => .error cause
      | .ok c => addNegated argument c tokens

/-- The compound that a negation's argument writes. -/
def negated (argument : String) : Except Unsupported (Compound Test) :=
  match tokenize argument with
  | .error error => .error (.unparseable error)
  | .ok tokens =>
    match addNegated argument .blank tokens with
    | .error cause => .error cause
    | .ok c => if c.isBlank then .error .emptyNegation else .ok c

/-- The function whose argument a token carries as it is written. -/
def Kind.writtenFunction? : Kind → Option String
  | .equationCall e => some e.function
  | .call function _ => some function
  | _ => none

/-- The filter that a per-node token other than a tag stands for. -/
def filterOf (t : Token) : Except Unsupported Filter :=
  if Kind.writtenFunction? t.kind = some "not" then
    (negated (String.ofList (argumentOf t "not"))).map .negation
  else (testOf t).map .test

/-! ## Selector lists -/

/-- The combinator that a token writes. -/
def combinatorOf? : Kind → Option Combinator
  | .descendant => some .descendant
  | .child => some .child
  | .nextAdjacent => some .nextAdjacent
  | .nextSibling => some .nextSibling
  | _ => none

/-- A selector list in the making: finished selectors, the selector and the compound at hand, and
the combinator that waits for the next compound. -/
structure Draft where
  selectors : List Complex
  current : Complex
  compound : Compound Filter
  pending : Option Combinator
deriving Repr, DecidableEq

namespace Draft

def start : Draft := ⟨[], ⟨[], []⟩, .blank, none⟩

/-- Two combinators in a row are one if the first or the second is mere blanks. -/
def addCombinator (d : Draft) (combinator : Combinator) (source : String) :
    Except Unsupported Draft :=
  if d.compound.isBlank && d.current.compounds.isEmpty then .error (.leadingCombinator source)
  else match d.pending with
    | none => .ok { d with pending := some combinator }
    | some .descendant => .ok { d with pending := some combinator }
    | some earlier =>
      if combinator = .descendant then .ok { d with pending := some earlier }
      else .error (.doubledCombinator source)

/-- Close the selector at hand. Trailing blanks are no combinator. -/
def finish (d : Draft) : Except Unsupported Draft :=
  match d.pending with
  | some .child => .error (.danglingCombinator .child)
  | some .nextAdjacent => .error (.danglingCombinator .nextAdjacent)
  | some .nextSibling => .error (.danglingCombinator .nextSibling)
  | _ =>
    if d.compound.isBlank then .error .emptySelector
    else
      let done : Complex := { d.current with compounds := d.current.compounds ++ [d.compound] }
      .ok ⟨d.selectors ++ [done], ⟨[], []⟩, .blank, none⟩

/-- Close the compound at hand if a combinator waits. -/
def step (d : Draft) : Draft :=
  match d.pending with
  | none => d
  | some combinator =>
    let compounds :=
      if d.compound.isBlank then d.current.compounds else d.current.compounds ++ [d.compound]
    { d with
      current := ⟨compounds, d.current.combinators ++ [combinator]⟩
      compound := .blank
      pending := none }

/-- Add the next token. -/
def add (d : Draft) (t : Token) : Except Unsupported Draft :=
  match combinatorOf? t.kind with
  | some combinator => d.addCombinator combinator t.source
  | none =>
    if t.kind = .separator then d.finish
    else
      let d := d.step
      (addToken filterOf d.compound t).map fun c => { d with compound := c }

/-- Add tokens one by one. -/
def addAll (d : Draft) : List Token → Except Unsupported Draft
  | [] => .ok d
  | t :: tokens =>
    match d.add t with
    | .error cause => .error cause
    | .ok d => d.addAll tokens

end Draft

/-- Compile a token list. -/
def SelectorList.ofTokens (tokens : List Token) : Except Unsupported SelectorList :=
  match Draft.start.addAll tokens with
  | .error cause => .error cause
  | .ok d => d.finish.map fun d => ⟨d.selectors⟩

/-- Compile a text. -/
def SelectorList.parse (text : String) : Except Unsupported SelectorList :=
  match tokenize text with
  | .error error => .error (.unparseable error)
  | .ok tokens => SelectorList.ofTokens tokens

end Topiary.Query
