import Topiary.Tree.Attributes
import Topiary.Tree.ClassList

/-!
Nodes of a document tree. Relatives are named by their place in the tree's store of nodes.
-/

namespace Topiary

/-- A node's place in its tree. -/
abbrev NodeId := Nat

/-- A mark that links elements to content which is still awaited. -/
structure Correlation where
  number : Nat
deriving Repr, DecidableEq

/-- The text form of a mark. -/
def Correlation.label (c : Correlation) : String :=
  "#" ++ toString c.number

structure Element where
  /-- In lower case. -/
  tag : String
  attributes : Attributes
  /-- The place among the copies that were made together with this element. -/
  repeatIndex : Option Nat
  correlation : Option Correlation
deriving Repr, DecidableEq

namespace Element

/-- A bare element; its tag is put into lower case. -/
def ofTag (tag : String) : Element :=
  ⟨Text.lower tag, .empty, none, none⟩

def attribute? (e : Element) (name : String) : Option String :=
  e.attributes.get? name

def id? (e : Element) : Option String :=
  e.attribute? "id"

def setAttribute (e : Element) (name value : String) : Element :=
  { e with attributes := e.attributes.set name value }

/-- The classes that the element's class attribute lists. -/
def classList (e : Element) : ClassList :=
  .ofString ((e.attribute? "class").getD "")

def hasClass (e : Element) (name : String) : Bool :=
  e.classList.contains name

/-- Add a class; the whole attribute is set in its plain form. -/
def addClass (e : Element) (name : String) : Element :=
  e.setAttribute "class" (e.classList.add name).value

end Element

/-- What a node is, apart from its relatives. -/
inductive NodeData where
  | document
  | doctype (name : String)
  | element (element : Element)
  | text (content : String)
  | comment (content : String)
deriving Repr, DecidableEq

structure Node where
  parent : Option NodeId
  firstChild : Option NodeId
  lastChild : Option NodeId
  prevSibling : Option NodeId
  nextSibling : Option NodeId
  data : NodeData
deriving Repr, DecidableEq

namespace Node

/-- A node without relatives. -/
def ofData (data : NodeData) : Node :=
  ⟨none, none, none, none, none, data⟩

def element? (n : Node) : Option Element :=
  match n.data with
  | .element e => some e
  | _ => none

def isElement (n : Node) : Bool :=
  n.element?.isSome

end Node

end Topiary
