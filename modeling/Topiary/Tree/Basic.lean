import Topiary.Tree.Node

/-!
Document trees. Every node that was ever made keeps its place; taking a node out of the tree only
unlinks it. Place 0 is the document itself. A place that does not exist reads as nothing, and
writing to it changes nothing.
-/

namespace Topiary

structure Tree where
  nodes : Array Node
deriving Repr, DecidableEq

namespace Tree

/-- The place of the document node. -/
def root : NodeId := 0

/-- A tree with nothing but its document node. -/
def empty : Tree := ⟨#[.ofData .document]⟩

/-- How many nodes were ever made. -/
def size (t : Tree) : Nat := t.nodes.size

def get? (t : Tree) (id : NodeId) : Option Node := t.nodes[id]?

/-- Change one node. -/
def modify (t : Tree) (id : NodeId) (f : Node → Node) : Tree :=
  ⟨t.nodes.modify id f⟩

/-- Add a node without relatives; its place is the old size. -/
def push (t : Tree) (data : NodeData) : Tree × NodeId :=
  (⟨t.nodes.push (.ofData data)⟩, t.size)

def createElement (t : Tree) (tag : String) : Tree × NodeId :=
  t.push (.element (.ofTag tag))

def createText (t : Tree) (content : String) : Tree × NodeId :=
  t.push (.text content)

def createComment (t : Tree) (content : String) : Tree × NodeId :=
  t.push (.comment content)

def createDoctype (t : Tree) (name : String) : Tree × NodeId :=
  t.push (.doctype name)

/-! ## Single steps -/

def parent? (t : Tree) (id : NodeId) : Option NodeId :=
  (t.get? id).bind Node.parent

def firstChild? (t : Tree) (id : NodeId) : Option NodeId :=
  (t.get? id).bind Node.firstChild

def lastChild? (t : Tree) (id : NodeId) : Option NodeId :=
  (t.get? id).bind Node.lastChild

def prevSibling? (t : Tree) (id : NodeId) : Option NodeId :=
  (t.get? id).bind Node.prevSibling

def nextSibling? (t : Tree) (id : NodeId) : Option NodeId :=
  (t.get? id).bind Node.nextSibling

def element? (t : Tree) (id : NodeId) : Option Element :=
  (t.get? id).bind Node.element?

def isElement (t : Tree) (id : NodeId) : Bool :=
  (t.element? id).isSome

def tag? (t : Tree) (id : NodeId) : Option String :=
  (t.element? id).map Element.tag

def attribute? (t : Tree) (id : NodeId) (name : String) : Option String :=
  (t.element? id).bind fun e => e.attribute? name

/-- Change the element at a place, if there is one. -/
def modifyElement (t : Tree) (id : NodeId) (f : Element → Element) : Tree :=
  t.modify id fun n =>
    match n.data with
    | .element e => { n with data := .element (f e) }
    | _ => n

/-! ## Links -/

/-- Unlink a node from its parent and siblings; what is below it stays with it. -/
def detach (t : Tree) (id : NodeId) : Tree :=
  match t.get? id with
  | none => t
  | some node =>
    match node.parent with
    | none => t
    | some parent =>
      let t := match node.prevSibling with
        | some prev => t.modify prev fun n => { n with nextSibling := node.nextSibling }
        | none => t.modify parent fun n => { n with firstChild := node.nextSibling }
      let t := match node.nextSibling with
        | some next => t.modify next fun n => { n with prevSibling := node.prevSibling }
        | none => t.modify parent fun n => { n with lastChild := node.prevSibling }
      t.modify id fun n => { n with parent := none, prevSibling := none, nextSibling := none }

/-- Make a node the last child of `parent`, taking it from where it was. -/
def append (t : Tree) (parent child : NodeId) : Tree :=
  if t.size ≤ parent ∨ t.size ≤ child then t
  else
    let t := t.detach child
    let last := t.lastChild? parent
    let t := t.modify child fun n => { n with parent := some parent, prevSibling := last }
    let t := match last with
      | some last => t.modify last fun n => { n with nextSibling := some child }
      | none => t.modify parent fun n => { n with firstChild := some child }
    t.modify parent fun n => { n with lastChild := some child }

/-- Append several nodes in order. -/
def appendAll (t : Tree) (parent : NodeId) (children : List NodeId) : Tree :=
  children.foldl (fun t child => t.append parent child) t

/-- Detach the first child at most `count` times. -/
def detachFirst (t : Tree) (id : NodeId) : (count : Nat) → Tree
  | 0 => t
  | count + 1 =>
    match t.firstChild? id with
    | none => t
    | some child => (t.detach child).detachFirst id count

/-- Detach every child; a node has fewer children than the tree has nodes. -/
def removeChildren (t : Tree) (id : NodeId) : Tree :=
  t.detachFirst id t.size

/-! ## Walks -/

/-- The places that following `next` visits from `start` on, at most `count` of them. -/
def follow (t : Tree) (next : Node → Option NodeId) : (count : Nat) → (start : Option NodeId) →
    List NodeId
  | 0, _ => []
  | _ + 1, none => []
  | count + 1, some id =>
    match t.get? id with
    | none => []
    | some node => id :: t.follow next count (next node)

/-- The children of a node in order. -/
def children (t : Tree) (id : NodeId) : List NodeId :=
  t.follow Node.nextSibling t.size (t.firstChild? id)

/-- The children that are elements. -/
def elementChildren (t : Tree) (id : NodeId) : List NodeId :=
  (t.children id).filter t.isElement

/-- The siblings before a node, the nearest first. -/
def prevSiblings (t : Tree) (id : NodeId) : List NodeId :=
  t.follow Node.prevSibling t.size (t.prevSibling? id)

/-- The siblings after a node, the nearest first. -/
def nextSiblings (t : Tree) (id : NodeId) : List NodeId :=
  t.follow Node.nextSibling t.size (t.nextSibling? id)

/-- The nearest element before a node among its siblings. -/
def prevElement? (t : Tree) (id : NodeId) : Option NodeId :=
  (t.prevSiblings id).find? t.isElement

/-- The nearest element after a node among its siblings. -/
def nextElement? (t : Tree) (id : NodeId) : Option NodeId :=
  (t.nextSiblings id).find? t.isElement

/-- The parents above a node, the nearest first. -/
def ancestors (t : Tree) (id : NodeId) : List NodeId :=
  t.follow Node.parent t.size (t.parent? id)

/-- Whether a node hangs off the document node. -/
def isConnected (t : Tree) (id : NodeId) : Bool :=
  id == root || (t.ancestors id).contains root

/-- The next sibling of a node or, failing that, of the nearest ancestor below `top` that has
one. -/
def climb (t : Tree) (top : NodeId) : (count : Nat) → NodeId → Option NodeId
  | 0, _ => none
  | count + 1, id =>
    if id = top then none
    else match t.get? id with
      | none => none
      | some node =>
        match node.nextSibling with
        | some next => some next
        | none =>
          match node.parent with
          | none => none
          | some parent => t.climb top count parent

/-- The node that follows `id` in document order among those below `top`. -/
def following? (t : Tree) (top id : NodeId) : Option NodeId :=
  match t.firstChild? id with
  | some child => some child
  | none => t.climb top (t.size + 1) id

/-- The nodes from `start` on in document order below `top`, at most `count` of them. -/
def walk (t : Tree) (top : NodeId) : (count : Nat) → (start : Option NodeId) → List NodeId
  | 0, _ => []
  | _ + 1, none => []
  | count + 1, some id =>
    match t.get? id with
    | none => []
    | some _ => id :: t.walk top count (t.following? top id)

/-- The nodes below `id` in document order, without `id` itself. -/
def descendants (t : Tree) (id : NodeId) : List NodeId :=
  t.walk id t.size (t.firstChild? id)

/-! ## Whole subtrees -/

/-- Copy a node and what is below it, to a depth of at most `depth`; the copy is detached. -/
def cloneWithin (depth : Nat) (t : Tree) (id : NodeId) : Tree × Option NodeId :=
  match t.get? id with
  | none => (t, none)
  | some node =>
    let (t, copy) := t.push node.data
    match depth with
    | 0 => (t, some copy)
    | depth + 1 =>
      let t := (t.children id).foldl (fun t child =>
        match cloneWithin depth t child with
        | (t, some childCopy) => t.append copy childCopy
        | (t, none) => t) t
      (t, some copy)

/-- Copy a node and all that is below it; the copy is detached. -/
def cloneDeep (t : Tree) (id : NodeId) : Tree × Option NodeId :=
  cloneWithin t.size t id

/-- The own text of a text node. -/
def ownText (t : Tree) (id : NodeId) : String :=
  match (t.get? id).map Node.data with
  | some (.text content) => content
  | _ => ""

/-- The text of a text or comment node; of any other node the texts below it, concatenated. -/
def textContent (t : Tree) (id : NodeId) : String :=
  match (t.get? id).map Node.data with
  | some (.text content) => content
  | some (.comment content) => content
  | _ => String.join ((t.descendants id).map t.ownText)

/-- Replace the content of a text node, or else all children by one text node; no node is made for
the empty text. -/
def setTextContent (t : Tree) (id : NodeId) (content : String) : Tree :=
  match (t.get? id).map Node.data with
  | some (.text _) => t.modify id fun n => { n with data := .text content }
  | _ =>
    let t := t.removeChildren id
    if content.isEmpty then t
    else
      let (t, text) := t.createText content
      t.append id text

/-! ## Elements -/

def setId (t : Tree) (id : NodeId) (value : String) : Tree :=
  t.modifyElement id fun e => e.setAttribute "id" value

def addClass (t : Tree) (id : NodeId) (name : String) : Tree :=
  t.modifyElement id fun e => e.addClass name

def setAttribute (t : Tree) (id : NodeId) (name value : String) : Tree :=
  t.modifyElement id fun e => e.setAttribute name value

/-- Mark an element with its place among the copies made together with it. -/
def setRepeatIndex (t : Tree) (id : NodeId) (index : Nat) : Tree :=
  t.modifyElement id fun e => { e with repeatIndex := some index }

/-- Mark an element as waiting for content. -/
def setCorrelation (t : Tree) (id : NodeId) (mark : Correlation) : Tree :=
  t.modifyElement id fun e => { e with correlation := some mark }

/-- The connected elements with the given mark, in document order. -/
def findByCorrelation (t : Tree) (mark : Correlation) : List NodeId :=
  (t.descendants root).filter fun id => (t.element? id).bind Element.correlation == some mark

/-- The first connected element with the given id, in document order. -/
def elementById? (t : Tree) (value : String) : Option NodeId :=
  (t.descendants root).find? fun id => (t.element? id).bind Element.id? == some value

end Tree

end Topiary
