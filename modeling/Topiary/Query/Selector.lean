import Topiary.Selector.Token

/-!
Compiled selectors: what a query asks of an element and of the elements around it.
-/

namespace Topiary.Query

open Topiary.Selector

/-- How two neighbouring compounds of a selector are related. -/
inductive Combinator where
  | descendant
  | child
  | nextAdjacent
  | nextSibling
deriving Repr, DecidableEq

/-- A position test `a * n + b`, counted among all siblings or those of the same tag, and from
either end. -/
structure Position where
  a : Int
  b : Int
  ofType : Bool
  fromEnd : Bool
deriving Repr, DecidableEq

/-- A test of one element. -/
inductive Test where
  | id (name : String)
  | className (name : String)
  | attrPresence (name : String)
  | attrValue (name : String) (relation : Relation) (value : String)
  | root
  | empty
  | firstChild
  | lastChild
  | onlyChild
  | firstOfType
  | lastOfType
  | onlyOfType
  | position (position : Position)
  | contains (text : String)
  /-- The nearest `lang` attribute is this range or starts with it and a dash. -/
  | lang (range : String)
  | link
  | checked
  | disabled
  | enabled
  | required
  | optional
  /-- States that only a user's doings bring about. -/
  | never
deriving Repr, DecidableEq

/-- What a compound selector asks of one element, over some kind of tests. -/
structure Compound (τ : Type) where
  /-- In lower case. -/
  tag : Option String
  universal : Bool
  tests : List τ
deriving Repr, DecidableEq

namespace Compound

/-- A compound that asks nothing. -/
def blank {τ : Type} : Compound τ := ⟨none, false, []⟩

def isBlank {τ : Type} (c : Compound τ) : Bool :=
  c.tag.isNone && !c.universal && c.tests.isEmpty

/-- The compound with one more test. -/
def addTest {τ : Type} (c : Compound τ) (test : τ) : Compound τ :=
  { c with tests := c.tests ++ [test] }

end Compound

/-- A test, or the negation of a compound. Function arguments end at the first closing parenthesis,
so a negated compound holds no further negation. -/
inductive Filter where
  | test (test : Test)
  | negation (inner : Compound Test)
deriving Repr, DecidableEq

/-- Compounds from left to right; the combinator at place `i` stands between the compounds at `i`
and `i + 1`. -/
structure Complex where
  compounds : List (Compound Filter)
  combinators : List Combinator
deriving Repr, DecidableEq

/-- Alternatives, of which an element has to match one. -/
structure SelectorList where
  selectors : List Complex
deriving Repr, DecidableEq

end Topiary.Query
