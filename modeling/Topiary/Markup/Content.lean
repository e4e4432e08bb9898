import Topiary.Text.Blank
import Topiary.Tree.Document

/-!
The content of a parsed HTML document as a plain tree, and its copy into a document tree. White
space between elements and processing instructions are left out of the copy.
-/

namespace Topiary.Markup

/-- A part of a parsed document. -/
inductive Content where
  | doctype (name : String)
  | text (content : String)
  | comment (content : String)
  | instruction (target content : String)
  /-- Attributes may name a local name more than once. -/
  | element (name : String) (attributes : List Attribute) (children : List Content)
deriving Repr, Inhabited

/-- Whether a text shows nothing. -/
def isBlankText (s : String) : Bool :=
  s.toList.all Text.isBlank

mutual

/-- Copy a part into a tree as the last child of `parent`. -/
def addContent (t : Tree) (parent : NodeId) : Content → Tree
  | .doctype name =>
    let (t, id) := t.createDoctype name
    t.append parent id
  | .text content =>
    if isBlankText content then t
    else
      let (t, id) := t.createText content
      t.append parent id
  | .comment content =>
    let (t, id) := t.createComment content
    t.append parent id
  | .instruction _ _ => t
  | .element name attributes children =>
    let (t, id) := t.createElement name
    let t := attributes.foldl (fun t a => t.setAttribute id a.name a.value) t
    addContents (t.append parent id) id children

/-- Copy parts one after another. -/
def addContents (t : Tree) (parent : NodeId) : List Content → Tree
  | [] => t
  | part :: parts => addContents (addContent t parent part) parent parts

end

/-- The document with the given content. -/
def documentOfContent (parts : List Content) : Document :=
  .ofTree (addContents .empty Tree.root parts)

end Topiary.Markup
