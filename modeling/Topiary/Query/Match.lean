import Topiary.Query.Compile
import Topiary.Tree.Basic

/-!
Matching selectors against a tree, from the last compound to the first, trying every ancestor or
sibling that a combinator allows. Results stand in document order.
-/

namespace Topiary.Query

open Topiary.Selector Topiary.Text

/-- Whether a text starts with `start` followed by a dash, or is `start`. -/
def dashMatches (text start : String) : Bool :=
  text == start || (start.toList ++ ['-']).isPrefixOf text.toList

/-- Whether `part` occurs in a text. -/
def occursIn (part : List Char) : List Char → Bool
  | [] => part.isEmpty
  | c :: rest => part.isPrefixOf (c :: rest) || occursIn part rest

/-- Whether an attribute's value stands in the given relation to the wanted one; an attribute that
is missing differs from every value. -/
def relationHolds (relation : Relation) (actual : Option String) (want : String) : Bool :=
  match actual with
  | none => relation == .differs
  | some actual =>
    match relation with
    | .equals => actual == want
    | .differs => actual != want
    | .dashed => dashMatches actual want
    | .contains => !want.isEmpty && occursIn want.toList actual.toList
    | .word => !want.isEmpty && !want.toList.any isBlank && (words actual).contains want
    | .ends => !want.isEmpty && want.toList.isSuffixOf actual.toList
    | .starts => !want.isEmpty && want.toList.isPrefixOf actual.toList

/-- The 1-based place of a node among its element siblings and their number; without a parent a node
is the only one. -/
def placeOf (t : Tree) (id : NodeId) (ofType fromEnd : Bool) : Int × Int :=
  match t.parent? id with
  | none => (1, 1)
  | some parent =>
    let siblings := (t.elementChildren parent).filter fun s => !ofType || t.tag? s == t.tag? id
    let count : Int := siblings.length
    let index : Int := match siblings.findIdx? (· == id) with
      | some place => place + 1
      | none => 0
    (if fromEnd then count - index + 1 else index, count)

/-- Whether `n` is `a * k + b` for some natural `k`, given up when `n - b` exceeds 63 bits. -/
def Position.selects (p : Position) (n : Int) : Bool :=
  if p.a = 0 then n == p.b
  else
    let difference := n - p.b
    difference ≤ maxCoefficient &&
      (if 0 < p.a then 0 ≤ difference else difference ≤ 0) && difference.tmod p.a == 0

/-- The value of the nearest `lang` attribute, the node's own included. -/
def language? (t : Tree) (id : NodeId) : Option String :=
  (id :: t.ancestors id).findSome? fun n => t.attribute? n "lang"

def hasTagIn (t : Tree) (id : NodeId) (tags : List String) : Bool :=
  (t.tag? id).any tags.contains

def hasAttribute (t : Tree) (id : NodeId) (name : String) : Bool :=
  (t.element? id).any fun e => e.attributes.contains name

/-- Elements that can be disabled. -/
def controls : List String :=
  ["button", "input", "select", "textarea", "optgroup", "option", "fieldset"]

/-- Elements that can be required. -/
def fields : List String :=
  ["input", "select", "textarea"]

/-- Whether a child leaves its parent empty: comments do, and texts without characters. -/
def isVoidChild (t : Tree) (id : NodeId) : Bool :=
  match (t.get? id).map Node.data with
  | some (.text content) => content.isEmpty
  | some (.comment _) => true
  | _ => false

/-- Whether a node passes a test. -/
def Test.holds (t : Tree) (id : NodeId) : Test → Bool
  | .id name => t.attribute? id "id" == some name
  | .className name => (t.element? id).any fun e => e.hasClass name
  | .attrPresence name => (t.attribute? id name).isSome
  | .attrValue name relation value => relationHolds relation (t.attribute? id name) value
  | .root => t.parent? id == some Tree.root
  | .empty => (t.children id).all (isVoidChild t)
  | .firstChild => (placeOf t id false false).1 == 1
  | .lastChild => (placeOf t id false true).1 == 1
  | .onlyChild => (placeOf t id false false).2 == 1
  | .firstOfType => (placeOf t id true false).1 == 1
  | .lastOfType => (placeOf t id true true).1 == 1
  | .onlyOfType => (placeOf t id true false).2 == 1
  | .position p => p.selects (placeOf t id p.ofType p.fromEnd).1
  | .contains text => occursIn text.toList (t.textContent id).toList
  | .lang range => (language? t id).any fun lang => dashMatches (lower lang) range
  | .link => hasTagIn t id ["a", "area"] && hasAttribute t id "href"
  | .checked =>
    (hasTagIn t id ["input"] && hasAttribute t id "checked") ||
      (hasTagIn t id ["option"] && hasAttribute t id "selected")
  | .disabled => hasTagIn t id controls && hasAttribute t id "disabled"
  | .enabled => hasTagIn t id controls && !hasAttribute t id "disabled"
  | .required => hasTagIn t id fields && hasAttribute t id "required"
  | .optional => hasTagIn t id fields && !hasAttribute t id "required"
  | .never => false

/-- Whether a node is an element of the wanted tag that passes all tests. -/
def Compound.holds {τ : Type} (test : Tree → NodeId → τ → Bool) (t : Tree) (c : Compound τ)
    (id : NodeId) : Bool :=
  match t.element? id with
  | none => false
  | some e =>
    (match c.tag with
      | none => true
      | some tag => lower e.tag == lower tag) &&
    c.tests.all (test t id)

/-- Whether a node passes a filter. -/
def Filter.holds (t : Tree) (id : NodeId) : Filter → Bool
  | .test single => single.holds t id
  | .negation inner => !inner.holds Test.holds t id

/-- Whether a node is an element that satisfies a compound. -/
def compoundHolds (t : Tree) (c : Compound Filter) (id : NodeId) : Bool :=
  c.holds Filter.holds t id

/-- The parent, if it is an element. -/
def parentElement? (t : Tree) (id : NodeId) : Option NodeId :=
  (t.parent? id).filter t.isElement

/-- The elements that may stand on the left of a combinator whose right side is `id`, nearest
first. -/
def related (t : Tree) (combinator : Combinator) (id : NodeId) : List NodeId :=
  match combinator with
  | .child => (parentElement? t id).toList
  | .descendant => (t.ancestors id).takeWhile t.isElement
  | .nextAdjacent => (t.prevElement? id).toList
  | .nextSibling => (t.prevSiblings id).filter t.isElement

/-- Whether a node satisfies the compound at place `index` with all compounds before it satisfied
around the node. -/
def matchesFrom (t : Tree) (s : Complex) : (index : Nat) → NodeId → Bool
  | 0, id =>
    match s.compounds[0]? with
    | none => false
    | some c => compoundHolds t c id
  | index + 1, id =>
    match s.compounds[index + 1]?, s.combinators[index]? with
    | some c, some combinator =>
      compoundHolds t c id && (related t combinator id).any (matchesFrom t s index)
    | _, _ => false

/-- Whether an element matches one of the alternatives. -/
def SelectorList.matches (l : SelectorList) (t : Tree) (id : NodeId) : Bool :=
  t.isElement id && l.selectors.any fun s => matchesFrom t s (s.compounds.length - 1) id

/-- The connected elements that match, in document order. -/
def SelectorList.select (l : SelectorList) (t : Tree) : List NodeId :=
  (t.descendants Tree.root).filter (l.matches t)

end Topiary.Query

namespace Topiary.Tree

open Topiary.Query

/-- The connected elements that a selector text matches, in document order. -/
def query (t : Tree) (selector : String) : Except Unsupported (List NodeId) :=
  (SelectorList.parse selector).map fun l => l.select t

end Topiary.Tree
