import Topiary.Tree.Document

/-!
Writing documents as HTML text. A subtree is first laid out as pieces of text with the places where
a line may break; the compact form ignores these places, the indented form fills them.
-/

namespace Topiary.Markup

/-- A part of the written form. -/
inductive Piece where
  | text (content : String)
  /-- A line may break here and go on `depth` levels deep. -/
  | breakLine (depth : Nat)
deriving Repr, DecidableEq

/-- Elements without an end tag. -/
def voidElements : List String :=
  ["area", "base", "br", "col", "embed", "hr", "img", "input", "link", "meta", "param", "source",
    "track", "wbr"]

/-- Elements whose text is written as it is. -/
def rawTextElements : List String :=
  ["script", "style"]

/-- A character inside a text. -/
def textChar (c : Char) : List Char :=
  if c = '&' then ['&', 'a', 'm', 'p', ';']
  else if c = '<' then ['&', 'l', 't', ';']
  else if c = '>' then ['&', 'g', 't', ';']
  else if c = '\u00a0' then ['&', 'n', 'b', 's', 'p', ';']
  else [c]

/-- A character inside an attribute value. -/
def valueChar (c : Char) : List Char :=
  if c = '&' then ['&', 'a', 'm', 'p', ';']
  else if c = '"' then ['&', 'q', 'u', 'o', 't', ';']
  else if c = '\u00a0' then ['&', 'n', 'b', 's', 'p', ';']
  else [c]

def escapeText (s : String) : String :=
  String.ofList (s.toList.flatMap textChar)

def escapeValue (s : String) : String :=
  String.ofList (s.toList.flatMap valueChar)

/-- A space, the name and the value between double quotes. -/
def attributeText (a : Attribute) : String :=
  " " ++ a.name ++ "=\"" ++ escapeValue a.value ++ "\""

def startTag (e : Element) : String :=
  "<" ++ e.tag ++ String.join (e.attributes.entries.map attributeText) ++ ">"

def endTag (e : Element) : String :=
  "</" ++ e.tag ++ ">"

/-- The pieces of a node at the given depth, going down at most `levels` levels. -/
def pieces (t : Tree) (levels depth : Nat) (id : NodeId) : List Piece :=
  match levels, t.get? id with
  | 0, _ => []
  | _ + 1, none => []
  | levels + 1, some node =>
    match node.data with
    | .document => (t.children id).flatMap (pieces t levels depth)
    | .text content => [.text (escapeText content)]
    | .comment content => [.breakLine depth, .text ("<!--" ++ content ++ "-->")]
    | .doctype name => [.text ("<!DOCTYPE " ++ name ++ ">")]
    | .element e =>
      [.breakLine depth, .text (startTag e)] ++
        if voidElements.contains e.tag then []
        else
          (if rawTextElements.contains e.tag then
              (t.children id).map fun child => .text (t.ownText child)
            else
              (t.children id).flatMap (pieces t levels (depth + 1)) ++
                if (t.elementChildren id).isEmpty then [] else [.breakLine depth]) ++
            [.text (endTag e)]

/-- The pieces of a node and all that is below it. -/
def outerPieces (t : Tree) (id : NodeId) : List Piece :=
  pieces t (t.size + 1) 0 id

/-- The pieces of what is below a node. -/
def innerPieces (t : Tree) (id : NodeId) : List Piece :=
  (t.children id).flatMap (pieces t (t.size + 1) 0)

/-- How pieces are put together. -/
inductive Style where
  | compact
  /-- Every element and comment on a line of its own, but for the first. -/
  | indented (indent : String)
deriving Repr, DecidableEq

/-- Two spaces. -/
def Style.pretty : Style := .indented "  "

/-- Add a piece to the text before it; a text never starts with a line break. -/
def Style.add (style : Style) (output : String) (piece : Piece) : String :=
  match piece, style with
  | .text content, _ => output ++ content
  | .breakLine _, .compact => output
  | .breakLine depth, .indented indent =>
    if output.isEmpty then output
    else output ++ "\n" ++ String.join (List.replicate depth indent)

def Style.write (style : Style) (pieces : List Piece) : String :=
  pieces.foldl style.add ""

/-- The text of a node and all that is below it. -/
def outer (style : Style) (t : Tree) (id : NodeId) : String :=
  style.write (outerPieces t id)

/-- The text of what is below a node. -/
def inner (style : Style) (t : Tree) (id : NodeId) : String :=
  style.write (innerPieces t id)

/-- The text of a whole document; the indented form ends with a line break. -/
def document (style : Style) (d : Document) : String :=
  let text := inner style d.tree Tree.root
  match style with
  | .compact => text
  | .indented _ => text ++ "\n"

end Topiary.Markup
