import Topiary.Markup.Content

/-!
Sketches: documents under construction. While HTML is read, elements are moved about until the tree
has its final shape; a sketch stores nodes with their parents and children for that purpose.
-/

namespace Topiary.Markup

/-- The vocabulary that an element belongs to. -/
inductive Vocabulary where
  | html
  | svg
  | math
deriving Repr, DecidableEq, Inhabited

/-- An element's name and attributes. -/
structure Shape where
  vocabulary : Vocabulary
  name : String
  attributes : List Attribute
deriving Repr, DecidableEq, Inhabited

inductive SketchData where
  | document
  | doctype (name : String)
  | text (content : String)
  | comment (content : String)
  | element (shape : Shape)
deriving Repr, DecidableEq, Inhabited

structure SketchNode where
  data : SketchData
  parent : Option Nat
  children : List Nat
deriving Repr, Inhabited

structure Sketch where
  nodes : Array SketchNode
deriving Inhabited

/-- Where a node is put. -/
inductive Spot where
  | lastIn (parent : Nat)
  | before (sibling : Nat)
deriving Repr, DecidableEq

namespace Sketch

/-- The place of the document node. -/
def root : Nat := 0

def empty : Sketch := ⟨#[⟨.document, none, []⟩]⟩

def shape? (s : Sketch) (id : Nat) : Option Shape :=
  match (s.nodes[id]?).map SketchNode.data with
  | some (.element shape) => some shape
  | _ => none

def parent? (s : Sketch) (id : Nat) : Option Nat :=
  (s.nodes[id]?).bind SketchNode.parent

def children (s : Sketch) (id : Nat) : List Nat :=
  ((s.nodes[id]?).map SketchNode.children).getD []

def modify (s : Sketch) (id : Nat) (f : SketchNode → SketchNode) : Sketch :=
  ⟨s.nodes.modify id f⟩

def push (s : Sketch) (data : SketchData) : Sketch × Nat :=
  (⟨s.nodes.push ⟨data, none, []⟩⟩, s.nodes.size)

/-- Take a node out of its parent. -/
def detach (s : Sketch) (id : Nat) : Sketch :=
  match s.parent? id with
  | none => s
  | some parent =>
    (s.modify parent fun n => { n with children := n.children.filter (· != id) }).modify id
      fun n => { n with parent := none }

/-- Put a node somewhere, taking it from where it was. -/
def put (s : Sketch) (spot : Spot) (id : Nat) : Sketch :=
  let s := s.detach id
  match spot with
  | .lastIn parent =>
    (s.modify parent fun n => { n with children := n.children ++ [id] }).modify id
      fun n => { n with parent := some parent }
  | .before sibling =>
    match s.parent? sibling with
    | none => s
    | some parent =>
      (s.modify parent fun n =>
        { n with
          children := n.children.takeWhile (· != sibling) ++
            id :: n.children.dropWhile (· != sibling) }).modify id
        fun n => { n with parent := some parent }

/-- The node that a node put at a spot would follow. -/
def neighbour? (s : Sketch) : Spot → Option Nat
  | .lastIn parent => (s.children parent).getLast?
  | .before sibling =>
    (s.parent? sibling).bind fun parent =>
      ((s.children parent).takeWhile (· != sibling)).getLast?

/-- Put text somewhere; a text that stands right before it is made longer. -/
def putText (s : Sketch) (spot : Spot) (content : String) : Sketch :=
  let fresh := fun (_ : Unit) =>
    let (s, id) := s.push (.text content)
    s.put spot id
  match s.neighbour? spot with
  | none => fresh ()
  | some neighbour =>
    match (s.nodes[neighbour]?).map SketchNode.data with
    | some (.text _) => s.modify neighbour fun n =>
        match n.data with
        | .text before => { n with data := .text (before ++ content) }
        | _ => n
    | _ => fresh ()

/-- Move all children of one node into another. -/
def moveChildren (s : Sketch) (source target : Nat) : Sketch :=
  (s.children source).foldl (fun s child => s.put (.lastIn target) child) s

/-- Add the attributes whose names an element does not have yet. -/
def mergeAttributes (s : Sketch) (id : Nat) (attributes : List Attribute) : Sketch :=
  s.modify id fun n =>
    match n.data with
    | .element shape =>
      let missing := attributes.filter fun a => !shape.attributes.any fun b => b.name == a.name
      { n with data := .element { shape with attributes := shape.attributes ++ missing } }
    | _ => n

/-- The content of a node to a depth of at most `depth`. What a template holds is no content. -/
def contentWithin (s : Sketch) : (depth : Nat) → Nat → List Content
  | 0, _ => []
  | depth + 1, id =>
    match s.nodes[id]? with
    | none => []
    | some node =>
      match node.data with
      | .document => node.children.flatMap (s.contentWithin depth)
      | .doctype name => [.doctype name]
      | .text content => [.text content]
      | .comment content => [.comment content]
      | .element shape =>
        let inside :=
          if shape.vocabulary == .html && shape.name == "template" then []
          else node.children.flatMap (s.contentWithin depth)
        [.element shape.name shape.attributes inside]

/-- The content of the whole sketch. -/
def content (s : Sketch) : List Content :=
  s.contentWithin (s.nodes.size + 1) root

end Sketch

end Topiary.Markup
