import Topiary.Markup.Sketch
import Topiary.Markup.Token

/-!
The state of HTML tree construction and the operations that its rules are made of: the stack of open
elements, the list of formatting elements, and the places where new nodes go.
-/

namespace Topiary.Markup

/-- Which rules apply to the next token. -/
inductive Phase where
  | initial
  | beforeHtml
  | beforeHead
  | inHead
  | afterHead
  | inBody
  | inText
  | inTable
  | inTableText
  | inCaption
  | inColumnGroup
  | inTableBody
  | inRow
  | inCell
  | inSelect
  | inSelectInTable
  | inTemplate
  | afterBody
  | inFrameset
  | afterFrameset
  | afterAfterBody
  | afterAfterFrameset
deriving Repr, DecidableEq, Inhabited

/-- An entry of the list of formatting elements. -/
inductive Formatting where
  | marker
  | element (id : Nat)
deriving Repr, DecidableEq

structure Builder where
  sketch : Sketch
  phase : Phase
  /-- The phase to return to after a stretch of text. -/
  returnPhase : Phase
  templatePhases : List Phase
  /-- How the text is to be cut into tokens. -/
  mode : Mode
  /-- The open elements, the current one first. -/
  stack : List Nat
  /-- The formatting elements, the latest first. -/
  formatting : List Formatting
  head : Option Nat
  form : Option Nat
  framesetOk : Bool
  /-- Whether nodes that do not belong into a table go before it. -/
  fostering : Bool
  /-- Whether the document's type asks for old rules. -/
  oldRules : Bool
  /-- Whether a line feed that comes next is dropped. -/
  skipLineFeed : Bool
  /-- Text inside a table that waits for its class to be known. -/
  tableText : List Token
  finished : Bool
deriving Inhabited

abbrev Build := StateM Builder

namespace Builder

def start : Builder where
  sketch := .empty
  phase := .initial
  returnPhase := .initial
  templatePhases := []
  mode := .data
  stack := []
  formatting := []
  head := none
  form := none
  framesetOk := true
  fostering := false
  oldRules := false
  skipLineFeed := false
  tableText := []
  finished := false

/-! ## Looking at open elements -/

def shape? (b : Builder) (id : Nat) : Option Shape := b.sketch.shape? id

/-- Whether a node is an HTML element with one of the names. -/
def isHtml (b : Builder) (names : List String) (id : Nat) : Bool :=
  match b.shape? id with
  | some shape => shape.vocabulary == .html && names.contains shape.name
  | none => false

/-- Whether the current node is an HTML element with one of the names. -/
def currentIs (b : Builder) (names : List String) : Bool :=
  b.stack.head?.any (b.isHtml names)

/-- Whether an open HTML element has one of the names. -/
def hasOpen (b : Builder) (names : List String) : Bool :=
  b.stack.any (b.isHtml names)

/-- Elements that no search for an open element goes beyond. -/
def scopeEnds : List String :=
  ["applet", "caption", "html", "table", "td", "th", "marquee", "object", "template"]

/-- Whether text in an element of mathematics is ordinary text. -/
def isMathText (shape : Shape) : Bool :=
  shape.vocabulary == .math && ["mi", "mo", "mn", "ms", "mtext"].contains shape.name

/-- Whether the content of an element of a drawing is HTML. -/
def isSvgHtml (shape : Shape) : Bool :=
  shape.vocabulary == .svg && ["foreignObject", "desc", "title"].contains shape.name

/-- Whether a search in the given scope stops at a node. -/
def endsScope (b : Builder) (more : List String) (id : Nat) : Bool :=
  match b.shape? id with
  | some shape =>
    isMathText shape || isSvgHtml shape ||
      (shape.vocabulary == .html && (scopeEnds.contains shape.name || more.contains shape.name))
  | none => true

/-- Whether a wanted node is open with no end of scope above it. -/
def findInScope (ends wanted : Nat → Bool) : List Nat → Bool
  | [] => false
  | id :: rest => wanted id || (!ends id && findInScope ends wanted rest)

def inScope (b : Builder) (names : List String) : Bool :=
  findInScope (b.endsScope []) (b.isHtml names) b.stack

def inButtonScope (b : Builder) (names : List String) : Bool :=
  findInScope (b.endsScope ["button"]) (b.isHtml names) b.stack

def inListScope (b : Builder) (names : List String) : Bool :=
  findInScope (b.endsScope ["ol", "ul"]) (b.isHtml names) b.stack

def inTableScope (b : Builder) (names : List String) : Bool :=
  findInScope (b.isHtml ["html", "table", "template"]) (b.isHtml names) b.stack

def inSelectScope (b : Builder) (names : List String) : Bool :=
  findInScope (fun id => !b.isHtml ["optgroup", "option"] id) (b.isHtml names) b.stack

/-- HTML elements with rules of their own. -/
def specialNames : List String :=
  ["address", "applet", "area", "article", "aside", "base", "basefont", "bgsound", "blockquote",
    "body", "br", "button", "caption", "center", "col", "colgroup", "dd", "details", "dir", "div",
    "dl", "dt", "embed", "fieldset", "figcaption", "figure", "footer", "form", "frame",
    "frameset", "h1", "h2", "h3", "h4", "h5", "h6", "head", "header", "hgroup", "hr", "html",
    "iframe", "img", "input", "isindex", "li", "link", "listing", "main", "marquee", "menu",
    "meta", "nav", "noembed", "noframes", "noscript", "object", "ol", "p", "param", "plaintext",
    "pre", "script", "section", "select", "source", "style", "summary", "table", "tbody", "td",
    "template", "textarea", "tfoot", "th", "thead", "title", "tr", "track", "ul", "wbr", "xmp"]

def isSpecial (b : Builder) (id : Nat) : Bool :=
  b.isHtml specialNames id

end Builder

open Builder

/-! ## Changing the state -/

def setPhase (phase : Phase) : Build Unit := modify fun b => { b with phase := phase }

def setFramesetOff : Build Unit := modify fun b => { b with framesetOk := false }

def pop : Build Unit := modify fun b => { b with stack := b.stack.drop 1 }

/-- Close open elements up to and including the latest one with one of the names. -/
def popUntil (names : List String) : Build Unit := modify fun b =>
  { b with stack := (b.stack.dropWhile fun id => !b.isHtml names id).drop 1 }

/-- Close open elements until the current one has one of the names. -/
def popTo (names : List String) : Build Unit := modify fun b =>
  { b with stack := b.stack.dropWhile fun id => !b.isHtml names id }

def removeFromStack (id : Nat) : Build Unit := modify fun b =>
  { b with stack := b.stack.filter (· != id) }

/-- Elements whose end tags may be left out. -/
def impliedNames : List String :=
  ["dd", "dt", "li", "optgroup", "option", "p", "rb", "rp", "rt", "rtc"]

/-- Close open elements whose end tags may be left out, but for the ones named. -/
def closeImplied (except : List String) : Build Unit := modify fun b =>
  { b with
    stack := b.stack.dropWhile fun id => b.isHtml impliedNames id && !b.isHtml except id }

/-- Close open elements whose end tags may be left out, parts of tables included. -/
def closeAllImplied : Build Unit := modify fun b =>
  let names :=
    impliedNames ++ ["caption", "colgroup", "tbody", "td", "tfoot", "th", "thead", "tr"]
  { b with stack := b.stack.dropWhile (b.isHtml names) }

/-- Close the paragraph in scope. -/
def closeParagraph : Build Unit := do
  closeImplied ["p"]
  popUntil ["p"]

def closeParagraphInScope : Build Unit := do
  if (← get).inButtonScope ["p"] then closeParagraph

/-! ## New nodes -/

/-- Where a new node goes whose parent would be `target`. -/
def spotFor (b : Builder) (target : Nat) : Spot :=
  if b.fostering && b.isHtml ["table", "tbody", "tfoot", "thead", "tr"] target then
    let aboveTable := b.stack.dropWhile fun id => !b.isHtml ["table", "template"] id
    match aboveTable with
    | [] => .lastIn (b.stack.getLast?.getD Sketch.root)
    | id :: above =>
      if b.isHtml ["template"] id then .lastIn id
      else if (b.sketch.parent? id).isSome then .before id
      else .lastIn (above.head?.getD Sketch.root)
  else .lastIn target

/-- Where a new node goes. -/
def spot (b : Builder) : Spot :=
  spotFor b (b.stack.head?.getD Sketch.root)

def insertText (content : String) : Build Unit := modify fun b =>
  { b with sketch := b.sketch.putText (spot b) content }

def insertCommentAt (place : Spot) (content : String) : Build Unit := modify fun b =>
  let (sketch, id) := b.sketch.push (.comment content)
  { b with sketch := sketch.put place id }

def insertComment (content : String) : Build Unit := do
  insertCommentAt (spot (← get)) content

/-- Make an element and put it where it goes, without opening it. -/
def placeElement (shape : Shape) : Build Nat := do
  let b ← get
  let (sketch, id) := b.sketch.push (.element shape)
  set { b with sketch := sketch.put (spot b) id }
  pure id

/-- Make an element, put it where it goes and open it. -/
def openElement (shape : Shape) : Build Nat := do
  let id ← placeElement shape
  modify fun b => { b with stack := id :: b.stack }
  pure id

def htmlShape (tag : StartTag) : Shape := ⟨.html, tag.name, tag.attributes⟩

def openTag (tag : StartTag) : Build Unit := do
  let _ ← openElement (htmlShape tag)

/-- Open an element that the text does not write. -/
def openNamed (name : String) : Build Nat := openElement ⟨.html, name, []⟩

/-- Make an element that has no content. -/
def placeTag (tag : StartTag) : Build Unit := do
  let _ ← placeElement (htmlShape tag)

/-- Open an element and read its text in the given mode. -/
def openText (tag : StartTag) (mode : Mode) : Build Unit := do
  openTag tag
  modify fun b => { b with mode := mode, returnPhase := b.phase, phase := .inText }

/-! ## Formatting elements -/

def pushMarker : Build Unit := modify fun b => { b with formatting := .marker :: b.formatting }

/-- Forget formatting elements up to and including the latest marker. -/
def clearToMarker : Build Unit := modify fun b =>
  { b with formatting := (b.formatting.dropWhile (· != .marker)).drop 1 }

def forgetFormatting (id : Nat) : Build Unit := modify fun b =>
  { b with formatting := b.formatting.filter (· != Formatting.element id) }

/-- The formatting elements behind the latest marker, the latest first. -/
def recentFormatting : List Formatting → List Nat
  | .element id :: rest => id :: recentFormatting rest
  | _ => []

/-- Whether two shapes have the same name and the same attributes in any order. -/
def sameShape (a b : Shape) : Bool :=
  a.vocabulary == b.vocabulary && a.name == b.name &&
    a.attributes.length == b.attributes.length && a.attributes.all b.attributes.contains

/-- Remember an element as a formatting element; of its kind only the latest three are kept. -/
def rememberFormatting (id : Nat) : Build Unit := modify fun b =>
  match b.shape? id with
  | none => b
  | some shape =>
    let equals := (recentFormatting b.formatting).filter fun other =>
      (b.shape? other).any (sameShape shape)
    let kept := match equals.drop 2 with
      | [] => b.formatting
      | oldest :: _ => b.formatting.filter (· != Formatting.element oldest)
    { b with formatting := .element id :: kept }

/-- Open a formatting element. -/
def openFormatting (tag : StartTag) : Build Unit := do
  let id ← openElement (htmlShape tag)
  rememberFormatting id

/-- Open formatting elements again, from the earliest to the latest; the copies take the places of
the closed ones in the list. -/
def reopen : List Nat → Build Unit
  | [] => pure ()
  | id :: rest => do
    match (← get).shape? id with
    | none => reopen rest
    | some shape =>
      let fresh ← openElement shape
      modify fun b =>
        { b with
          formatting := b.formatting.map fun entry =>
            if entry = Formatting.element id then Formatting.element fresh else entry }
      reopen rest

/-- Open the formatting elements again that were closed by the end of other elements. -/
def reconstruct : Build Unit := do
  let b ← get
  let closed := (recentFormatting b.formatting).takeWhile fun id => !b.stack.contains id
  reopen closed.reverse

/-! ## Misnested formatting -/

/-- Insert an element into a list right before another one. -/
def insertBefore (entry : Formatting) (fresh : Formatting) : List Formatting → List Formatting
  | [] => [fresh]
  | other :: rest =>
    if other = entry then fresh :: other :: rest else other :: insertBefore entry fresh rest

/-- Where a formatting element's copy goes in the list. -/
inductive Bookmark where
  /-- In the place of the element itself. -/
  | replace
  /-- Behind an entry that is already in the list. -/
  | behind (id : Nat)

/-- Close an element by an end tag without rules of its own. -/
def closeOther (name : String) : Build Unit := do
  let b ← get
  let rec search : List Nat → Option Nat
    | [] => none
    | id :: rest =>
      if b.isHtml [name] id then some id
      else if b.isSpecial id then none
      else search rest
  match search b.stack with
  | none => pure ()
  | some id =>
    closeImplied [name]
    modify fun b => { b with stack := (b.stack.dropWhile (· != id)).drop 1 }

/-- Rebuild the chain of elements between a formatting element and the block inside it: each that is
still remembered is copied around what is inside it. -/
def rebuildChain (formattingId block : Nat) (turn : Nat) (last : Nat) (bookmark : Bookmark) :
    (between : List Nat) → Build (Nat × Bookmark)
  | [] => pure (last, bookmark)
  | node :: rest => do
    if turn > 3 then forgetFormatting node
    let b ← get
    if !b.formatting.contains (Formatting.element node) then
      removeFromStack node
      rebuildChain formattingId block (turn + 1) last bookmark rest
    else
      let (sketch, fresh) := b.sketch.push (.element ((b.shape? node).getD default))
      set { b with
        sketch := sketch.put (.lastIn fresh) last
        stack := b.stack.map fun id => if id = node then fresh else id
        formatting := b.formatting.map fun (entry : Formatting) =>
          if entry = Formatting.element node then Formatting.element fresh else entry }
      let bookmark := if last = block then .behind fresh else bookmark
      rebuildChain formattingId block (turn + 1) fresh bookmark rest

/-- One round of undoing a misnested formatting element. The answer tells whether another round may
follow. -/
def adoptOnce (subject : String) : Build Bool := do
  let b ← get
  match (recentFormatting b.formatting).find? (b.isHtml [subject]) with
  | none =>
    closeOther subject
    pure false
  | some formattingId =>
    if !b.stack.contains formattingId then
      forgetFormatting formattingId
      pure false
    else if !findInScope (b.endsScope []) (· == formattingId) b.stack then pure false
    else
      let inside := b.stack.takeWhile (· != formattingId)
      let above := (b.stack.dropWhile (· != formattingId)).drop 1
      match inside.reverse.find? b.isSpecial with
      | none =>
        modify fun b => { b with stack := above }
        forgetFormatting formattingId
        pure false
      | some block =>
        let ancestor := above.head?.getD Sketch.root
        let between := (inside.dropWhile (· != block)).drop 1
        let (last, bookmark) ← rebuildChain formattingId block 1 block .replace between
        modify fun b => { b with sketch := (b.sketch.detach last).put (spotFor b ancestor) last }
        let b ← get
        let (sketch, fresh) := b.sketch.push (.element ((b.shape? formattingId).getD default))
        let sketch := (sketch.moveChildren block fresh).put (.lastIn block) fresh
        let entry := Formatting.element formattingId
        let renewed := Formatting.element fresh
        let formatting := match bookmark with
          | .replace => b.formatting.map fun e => if e = entry then renewed else e
          | .behind id =>
            (insertBefore (Formatting.element id) renewed b.formatting).filter (· != entry)
        let stack := (b.stack.filter (· != formattingId)).flatMap fun id =>
          if id = block then [fresh, id] else [id]
        set { b with sketch := sketch, formatting := formatting, stack := stack }
        pure true

/-- Undo a misnested formatting element, in at most the given number of rounds. -/
def adoptRounds (subject : String) : Nat → Build Unit
  | 0 => pure ()
  | rounds + 1 => do
    if ← adoptOnce subject then adoptRounds subject rounds

/-- Close a formatting element that may be misnested. -/
def adopt (subject : String) : Build Unit := do
  let b ← get
  let plain := match b.stack.head? with
    | some id => b.isHtml [subject] id && !b.formatting.contains (Formatting.element id)
    | none => false
  if plain then pop else adoptRounds subject 8

end Topiary.Markup
