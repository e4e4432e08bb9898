import Topiary.Tree.Basic

/-!
Documents: a tree with the places of its `html`, `head` and `body` elements.
-/

namespace Topiary

structure Document where
  tree : Tree
  html : Option NodeId
  head : Option NodeId
  body : Option NodeId
deriving Repr, DecidableEq

namespace Document

/-- Nothing but the document node. -/
def empty : Document := ⟨.empty, none, none, none⟩

/-- The first child element of `parent` with the given tag. -/
def childWithTag? (t : Tree) (parent : NodeId) (tag : String) : Option NodeId :=
  (t.elementChildren parent).find? fun id => t.tag? id == some tag

/-- Look the three elements up again. -/
def relocate (d : Document) : Document :=
  let html := childWithTag? d.tree Tree.root "html"
  { d with
    html := html
    head := html.bind fun id => childWithTag? d.tree id "head"
    body := html.bind fun id => childWithTag? d.tree id "body" }

/-- The document of a tree that was built elsewhere. -/
def ofTree (t : Tree) : Document :=
  relocate ⟨t, none, none, none⟩

/-- An `html` element with an empty `head` and an empty `body`. -/
def skeleton : Document :=
  let (t, html) := Tree.empty.createElement "html"
  let (t, head) := t.createElement "head"
  let (t, body) := t.createElement "body"
  let t := ((t.append Tree.root html).append html head).append html body
  ⟨t, some html, some head, some body⟩

end Document

end Topiary
