import Topiary.Markup.Builder

/-!
The rules of HTML tree construction for documents of ordinary elements: what each phase does with
the next token.
-/

namespace Topiary.Markup

open Builder

/-- How a token goes on after a rule. -/
inductive Next where
  /-- The token is used up. -/
  | done
  /-- The token is looked at again in the phase that is now set. -/
  | again
  /-- The token is dealt with by the rules of another phase. -/
  | via (phase : Phase)
  /-- As in a document's body, but nodes go before the table that is open. -/
  | foster
deriving Repr, DecidableEq

/-- The token is used up after some work. -/
def doing (work : Build Unit) : Build Next := do
  work
  pure .done

/-- The token is looked at again in another phase. -/
def retryIn (phase : Phase) : Build Next := do
  setPhase phase
  pure .again

def ignore : Build Next := pure .done

/-! ## Before the body -/

/-- The starts of public identifiers that ask for old rules. -/
def oldPublicIds : List String :=
  ["+//silmaril//dtd html pro v0r11 19970101//", "-//as//dtd html 3.0 aswedit + extensions//",
    "-//advasoft ltd//dtd html 3.0 aswedit + extensions//",
    "-//ietf//dtd html 2.0 level 1//", "-//ietf//dtd html 2.0 level 2//",
    "-//ietf//dtd html 2.0 strict level 1//", "-//ietf//dtd html 2.0 strict level 2//",
    "-//ietf//dtd html 2.0 strict//", "-//ietf//dtd html 2.0//", "-//ietf//dtd html 2.1e//",
    "-//ietf//dtd html 3.0//", "-//ietf//dtd html 3.2 final//", "-//ietf//dtd html 3.2//",
    "-//ietf//dtd html 3//", "-//ietf//dtd html level 0//", "-//ietf//dtd html level 1//",
    "-//ietf//dtd html level 2//", "-//ietf//dtd html level 3//",
    "-//ietf//dtd html strict level 0//", "-//ietf//dtd html strict level 1//",
    "-//ietf//dtd html strict level 2//", "-//ietf//dtd html strict level 3//",
    "-//ietf//dtd html strict//", "-//ietf//dtd html//",
    "-//metrius//dtd metrius presentational//",
    "-//microsoft//dtd internet explorer 2.0 html strict//",
    "-//microsoft//dtd internet explorer 2.0 html//",
    "-//microsoft//dtd internet explorer 2.0 tables//",
    "-//microsoft//dtd internet explorer 3.0 html strict//",
    "-//microsoft//dtd internet explorer 3.0 html//",
    "-//microsoft//dtd internet explorer 3.0 tables//", "-//netscape comm. corp.//dtd html//",
    "-//netscape comm. corp.//dtd strict html//", "-//o'reilly and associates//dtd html 2.0//",
    "-//o'reilly and associates//dtd html extended 1.0//",
    "-//o'reilly and associates//dtd html extended relaxed 1.0//",
    "-//sq//dtd html 2.0 hotmetal + extensions//",
    "-//softquad software//dtd hotmetal pro 6.0::19990601::extensions to html 4.0//",
    "-//softquad//dtd hotmetal pro 4.0::19971010::extensions to html 4.0//",
    "-//spyglass//dtd html 2.0 extended//", "-//sun microsystems corp.//dtd hotjava html//",
    "-//sun microsystems corp.//dtd hotjava strict html//", "-//w3c//dtd html 3 1995-03-24//",
    "-//w3c//dtd html 3.2 draft//", "-//w3c//dtd html 3.2 final//", "-//w3c//dtd html 3.2//",
    "-//w3c//dtd html 3.2s draft//", "-//w3c//dtd html 4.0 frameset//",
    "-//w3c//dtd html 4.0 transitional//", "-//w3c//dtd html experimental 19960712//",
    "-//w3c//dtd html experimental 970421//", "-//w3c//dtd w3 html//",
    "-//w3o//dtd w3 html 3.0//", "-//webtechs//dtd mozilla html 2.0//",
    "-//webtechs//dtd mozilla html//"]

/-- Whether a document type asks for old rules. -/
def Doctype.isOld (d : Doctype) : Bool :=
  let starts := fun (text : String) (start : String) => start.toList.isPrefixOf text.toList
  let publicId := d.publicId.map Text.lower
  let systemId := d.systemId.map Text.lower
  d.broken || d.name != some "html" ||
    (publicId.any fun text =>
      text == "-//w3o//dtd w3 html strict 3.0//en//" ||
        text == "-/w3c/dtd html 4.0 transitional/en" || text == "html" ||
        oldPublicIds.any (starts text) ||
        (systemId.isNone && (starts text "-//w3c//dtd html 4.01 frameset//" ||
          starts text "-//w3c//dtd html 4.01 transitional//"))) ||
    systemId == some "http://www.ibm.com/data/dtd/v11/ibmxhtml1-transitional.dtd"

def initialRule : Token → Build Next
  | .blank _ => ignore
  | .comment content => doing (insertCommentAt (.lastIn Sketch.root) content)
  | .doctype d => doing do
    modify fun b =>
      let (sketch, id) := b.sketch.push (.doctype (d.name.getD ""))
      { b with
        sketch := sketch.put (.lastIn Sketch.root) id, oldRules := d.isOld, phase := .beforeHtml }
  | _ => do
    modify fun b => { b with oldRules := true }
    retryIn .beforeHtml

/-- Make the outermost element. -/
def openRoot (shape : Shape) : Build Unit := modify fun b =>
  let (sketch, id) := b.sketch.push (.element shape)
  { b with sketch := sketch.put (.lastIn Sketch.root) id, stack := [id], phase := .beforeHead }

def beforeHtmlRule (t : Token) : Build Next :=
  let otherwise : Build Next := do
    openRoot ⟨.html, "html", []⟩
    pure .again
  match t with
  | .doctype _ => ignore
  | .comment content => doing (insertCommentAt (.lastIn Sketch.root) content)
  | .blank _ => ignore
  | .startTag tag => if tag.name == "html" then doing (openRoot (htmlShape tag)) else otherwise
  | .endTag name =>
    if ["head", "body", "html", "br"].contains name then otherwise else ignore
  | _ => otherwise

/-- Open the head element. -/
def openHead (tag : StartTag) : Build Unit := do
  let id ← openElement (htmlShape tag)
  modify fun b => { b with head := some id, phase := .inHead }

def bareTag (name : String) : StartTag := ⟨name, [], false⟩

def beforeHeadRule (t : Token) : Build Next :=
  let otherwise : Build Next := do
    openHead (bareTag "head")
    pure .again
  match t with
  | .blank _ => ignore
  | .comment content => doing (insertComment content)
  | .doctype _ => ignore
  | .startTag tag =>
    if tag.name == "html" then pure (.via .inBody)
    else if tag.name == "head" then doing (openHead tag)
    else otherwise
  | .endTag name =>
    if ["head", "body", "html", "br"].contains name then otherwise else ignore
  | _ => otherwise

/-- The phase that the open elements ask for. -/
def phaseForStack (b : Builder) : Phase :=
  let rec search : List Nat → Phase
    | [] => .inBody
    | id :: rest =>
      let is := fun names => b.isHtml names id
      if is ["select"] then
        if rest.any (b.isHtml ["table"]) && !(rest.takeWhile fun r => !b.isHtml ["table"] r).any
          (b.isHtml ["template"]) then .inSelectInTable else .inSelect
      else if is ["td", "th"] && !rest.isEmpty then .inCell
      else if is ["tr"] then .inRow
      else if is ["tbody", "thead", "tfoot"] then .inTableBody
      else if is ["caption"] then .inCaption
      else if is ["colgroup"] then .inColumnGroup
      else if is ["table"] then .inTable
      else if is ["template"] then (b.templatePhases.head?).getD .inBody
      else if is ["head"] && !rest.isEmpty then .inHead
      else if is ["body"] then .inBody
      else if is ["frameset"] then .inFrameset
      else if is ["html"] then (if b.head.isNone then .beforeHead else .afterHead)
      else search rest
  search b.stack

def resetPhase : Build Unit := modify fun b => { b with phase := phaseForStack b }

/-- The end of a template. -/
def closeTemplate : Build Unit := do
  if (← get).hasOpen ["template"] then
    closeAllImplied
    popUntil ["template"]
    clearToMarker
    modify fun b => { b with templatePhases := b.templatePhases.drop 1 }
    resetPhase

def openTemplate (tag : StartTag) : Build Unit := do
  openTag tag
  pushMarker
  modify fun b =>
    { b with
      framesetOk := false, phase := .inTemplate, templatePhases := .inTemplate :: b.templatePhases }

def inHeadRule (t : Token) : Build Next :=
  let otherwise : Build Next := do
    pop
    retryIn .afterHead
  match t with
  | .blank content => doing (insertText content)
  | .comment content => doing (insertComment content)
  | .doctype _ => ignore
  | .startTag tag =>
    let name := tag.name
    if name == "html" then pure (.via .inBody)
    else if ["base", "basefont", "bgsound", "link", "meta"].contains name then doing (placeTag tag)
    else if name == "title" then doing (openText tag (.escapable "title"))
    else if ["noframes", "style", "noscript"].contains name then doing (openText tag (.raw name))
    else if name == "script" then doing (openText tag .script)
    else if name == "template" then doing (openTemplate tag)
    else if name == "head" then ignore
    else otherwise
  | .endTag name =>
    if name == "head" then doing do
      pop
      setPhase .afterHead
    else if name == "template" then doing closeTemplate
    else if ["body", "html", "br"].contains name then otherwise
    else ignore
  | _ => otherwise

/-- Head content behind the head goes into the head. -/
def intoHead (t : Token) (rule : Token → Build Next) : Build Next := do
  match (← get).head with
  | none => ignore
  | some head =>
    modify fun b => { b with stack := head :: b.stack }
    let next ← rule t
    removeFromStack head
    pure next

def afterHeadRule (t : Token) : Build Next :=
  let otherwise : Build Next := do
    let _ ← openNamed "body"
    retryIn .inBody
  match t with
  | .blank content => doing (insertText content)
  | .comment content => doing (insertComment content)
  | .doctype _ => ignore
  | .startTag tag =>
    if tag.name == "html" then pure (.via .inBody)
    else if tag.name == "body" then doing do
      openTag tag
      setFramesetOff
      setPhase .inBody
    else if tag.name == "frameset" then doing do
      openTag tag
      setPhase .inFrameset
    else if ["base", "basefont", "bgsound", "link", "meta", "noframes", "script", "style",
        "template", "title"].contains tag.name then intoHead t inHeadRule
    else if tag.name == "head" then ignore
    else otherwise
  | .endTag name =>
    if name == "template" then pure (.via .inHead)
    else if ["body", "html", "br"].contains name then otherwise
    else ignore
  | _ => otherwise

/-! ## In the body -/

/-- Elements that close a paragraph and start a block of their own. -/
def blockNames : List String :=
  ["address", "article", "aside", "blockquote", "center", "details", "dialog", "dir", "div", "dl",
    "fieldset", "figcaption", "figure", "footer", "header", "hgroup", "main", "menu", "nav", "ol",
    "p", "section", "summary", "ul"]

/-- Elements whose end tags close them as blocks. -/
def closingNames : List String :=
  ["address", "article", "aside", "blockquote", "button", "center", "details", "dialog", "dir",
    "div", "dl", "fieldset", "figcaption", "figure", "footer", "header", "hgroup", "listing",
    "main", "menu", "nav", "ol", "pre", "section", "summary", "ul"]

def headingNames : List String := ["h1", "h2", "h3", "h4", "h5", "h6"]

def formattingNames : List String :=
  ["b", "big", "code", "em", "font", "i", "s", "small", "strike", "strong", "tt", "u"]

/-- Elements that the rules of the head deal with wherever they stand. -/
def headNames : List String :=
  ["base", "basefont", "bgsound", "link", "meta", "noframes", "script", "style", "template",
    "title"]

/-- Close the list items that a new one ends. -/
def closeItems (names : String → List String) : List Nat → Build Unit
  | [] => pure ()
  | id :: rest => do
    let b ← get
    match b.shape? id with
    | none => pure ()
    | some shape =>
      let own := names shape.name
      if shape.vocabulary == .html && !own.isEmpty then
        closeImplied own
        popUntil own
      else if b.isSpecial id && !b.isHtml ["address", "div", "p"] id then pure ()
      else closeItems names rest

/-- Attributes of SVG elements whose names are not all in lower case. -/
def svgAttributes : List String :=
  ["attributeName", "attributeType", "baseFrequency", "baseProfile", "calcMode", "clipPathUnits",
    "diffuseConstant", "edgeMode", "filterUnits", "glyphRef", "gradientTransform", "gradientUnits",
    "kernelMatrix", "kernelUnitLength", "keyPoints", "keySplines", "keyTimes", "lengthAdjust",
    "limitingConeAngle", "markerHeight", "markerUnits", "markerWidth", "maskContentUnits",
    "maskUnits", "numOctaves", "pathLength", "patternContentUnits", "patternTransform",
    "patternUnits", "pointsAtX", "pointsAtY", "pointsAtZ", "preserveAlpha", "preserveAspectRatio",
    "primitiveUnits", "refX", "refY", "repeatCount", "repeatDur", "requiredExtensions",
    "requiredFeatures", "specularConstant", "specularExponent", "spreadMethod", "startOffset",
    "stdDeviation", "stitchTiles", "surfaceScale", "systemLanguage", "tableValues", "targetX",
    "targetY", "textLength", "viewBox", "viewTarget", "xChannelSelector", "yChannelSelector",
    "zoomAndPan"]

/-- SVG elements whose names are not all in lower case. -/
def svgNames : List String :=
  ["altGlyph", "altGlyphDef", "altGlyphItem", "animateColor", "animateMotion", "animateTransform",
    "clipPath", "feBlend", "feColorMatrix", "feComponentTransfer", "feComposite",
    "feConvolveMatrix", "feDiffuseLighting", "feDisplacementMap", "feDistantLight", "feDropShadow",
    "feFlood", "feFuncA", "feFuncB", "feFuncG", "feFuncR", "feGaussianBlur", "feImage", "feMerge",
    "feMergeNode", "feMorphology", "feOffset", "fePointLight", "feSpecularLighting", "feSpotLight",
    "feTile", "feTurbulence", "foreignObject", "glyphRef", "linearGradient", "radialGradient",
    "textPath"]

/-- The member of a list that a name in lower case stands for. -/
def respell (names : List String) (name : String) : String :=
  (names.find? fun proper => Text.lower proper == name).getD name

/-- Attributes of other vocabularies by their local names. -/
def localNames : List (String × String) :=
  [("xlink:actuate", "actuate"), ("xlink:arcrole", "arcrole"), ("xlink:href", "href"),
    ("xlink:role", "role"), ("xlink:show", "show"), ("xlink:title", "title"),
    ("xlink:type", "type"), ("xml:base", "base"), ("xml:lang", "lang"), ("xml:space", "space"),
    ("xmlns:xlink", "xlink")]

/-- The attributes of an element of another vocabulary. -/
def foreignAttributes (vocabulary : Vocabulary) (attributes : List Attribute) : List Attribute :=
  attributes.map fun a =>
    let name := match vocabulary with
      | .svg => respell svgAttributes a.name
      | .math => if a.name == "definitionurl" then "definitionURL" else a.name
      | .html => a.name
    { a with name := (localNames.lookup name).getD name }

def foreignShape (vocabulary : Vocabulary) (tag : StartTag) : Shape :=
  let name := if vocabulary == .svg then respell svgNames tag.name else tag.name
  ⟨vocabulary, name, foreignAttributes vocabulary tag.attributes⟩

/-- Make an element of another vocabulary; it is opened unless its tag closes itself. -/
def insertForeign (vocabulary : Vocabulary) (tag : StartTag) : Build Unit := do
  if tag.selfClosing then
    let _ ← placeElement (foreignShape vocabulary tag)
  else
    let _ ← openElement (foreignShape vocabulary tag)

/-- The second outermost open element, if it is the body. -/
def body? (b : Builder) : Option Nat :=
  match b.stack.reverse with
  | _ :: second :: _ => if b.isHtml ["body"] second then some second else none
  | _ => none

def isHidden (tag : StartTag) : Bool :=
  tag.attributes.any fun a => a.name == "type" && Text.lower a.value == "hidden"

/-- A start tag in the body, whose name has rules of its own. -/
def bodyStart (tag : StartTag) : Build Next := do
  let name := tag.name
  let b ← get
  if name == "html" then
    if b.hasOpen ["template"] then ignore
    else
      match b.stack.getLast? with
      | none => ignore
      | some root =>
        doing (modify fun b => { b with sketch := b.sketch.mergeAttributes root tag.attributes })
  else if headNames.contains name then pure (.via .inHead)
  else if name == "body" then
    match body? b with
    | none => ignore
    | some body =>
      if b.hasOpen ["template"] then ignore
      else doing do
        setFramesetOff
        modify fun b => { b with sketch := b.sketch.mergeAttributes body tag.attributes }
  else if name == "frameset" then
    match body? b with
    | none => ignore
    | some body =>
      if !b.framesetOk then ignore
      else doing do
        modify fun b =>
          { b with sketch := b.sketch.detach body, stack := b.stack.getLast?.toList }
        openTag tag
        setPhase .inFrameset
  else if blockNames.contains name then doing do
    closeParagraphInScope
    openTag tag
  else if headingNames.contains name then doing do
    closeParagraphInScope
    if (← get).currentIs headingNames then pop
    openTag tag
  else if name == "pre" || name == "listing" then doing do
    closeParagraphInScope
    openTag tag
    modify fun b => { b with skipLineFeed := true, framesetOk := false }
  else if name == "form" then
    let inTemplate := b.hasOpen ["template"]
    if b.form.isSome && !inTemplate then ignore
    else doing do
      closeParagraphInScope
      let id ← openElement (htmlShape tag)
      if !inTemplate then modify fun b => { b with form := some id }
  else if name == "li" then doing do
    setFramesetOff
    closeItems (fun open_ => if open_ == "li" then ["li"] else []) b.stack
    closeParagraphInScope
    openTag tag
  else if name == "dd" || name == "dt" then doing do
    setFramesetOff
    closeItems (fun open_ => if open_ == "dd" || open_ == "dt" then [open_] else []) b.stack
    closeParagraphInScope
    openTag tag
  else if name == "plaintext" then doing do
    closeParagraphInScope
    openTag tag
    modify fun b => { b with mode := .plain }
  else if name == "button" then doing do
    if b.inScope ["button"] then
      closeImplied []
      popUntil ["button"]
    reconstruct
    openTag tag
    setFramesetOff
  else if name == "a" then doing do
    match (recentFormatting b.formatting).find? (b.isHtml ["a"]) with
    | none => pure ()
    | some id =>
      adopt "a"
      forgetFormatting id
      removeFromStack id
    reconstruct
    openFormatting tag
  else if formattingNames.contains name then doing do
    reconstruct
    openFormatting tag
  else if name == "nobr" then doing do
    reconstruct
    if (← get).inScope ["nobr"] then
      adopt "nobr"
      reconstruct
    openFormatting tag
  else if ["applet", "marquee", "object"].contains name then doing do
    reconstruct
    openTag tag
    pushMarker
    setFramesetOff
  else if name == "table" then doing do
    if !b.oldRules then closeParagraphInScope
    openTag tag
    setFramesetOff
    setPhase .inTable
  else if ["area", "br", "embed", "img", "keygen", "wbr"].contains name then doing do
    reconstruct
    placeTag tag
    setFramesetOff
  else if name == "image" then doing do
    reconstruct
    placeTag { tag with name := "img" }
    setFramesetOff
  else if name == "input" then doing do
    reconstruct
    placeTag tag
    if !isHidden tag then setFramesetOff
  else if ["param", "source", "track"].contains name then doing (placeTag tag)
  else if name == "hr" then doing do
    closeParagraphInScope
    placeTag tag
    setFramesetOff
  else if name == "textarea" then doing do
    openText tag (.escapable "textarea")
    modify fun b => { b with skipLineFeed := true, framesetOk := false }
  else if name == "xmp" then doing do
    closeParagraphInScope
    reconstruct
    setFramesetOff
    openText tag (.raw name)
  else if name == "iframe" then doing do
    setFramesetOff
    openText tag (.raw name)
  else if name == "noembed" || name == "noscript" then doing (openText tag (.raw name))
  else if name == "select" then doing do
    reconstruct
    openTag tag
    setFramesetOff
    modify fun b =>
      let inTable := [Phase.inTable, .inCaption, .inTableBody, .inRow, .inCell].contains b.phase
      { b with phase := if inTable then .inSelectInTable else .inSelect }
  else if name == "optgroup" || name == "option" then doing do
    if b.currentIs ["option"] then pop
    reconstruct
    openTag tag
  else if name == "rb" || name == "rtc" then doing do
    if b.inScope ["ruby"] then closeImplied []
    openTag tag
  else if name == "rp" || name == "rt" then doing do
    if b.inScope ["ruby"] then closeImplied ["rtc"]
    openTag tag
  else if name == "math" then doing do
    reconstruct
    insertForeign .math tag
  else if name == "svg" then doing do
    reconstruct
    insertForeign .svg tag
  else if ["caption", "col", "colgroup", "frame", "head", "tbody", "td", "tfoot", "th", "thead",
      "tr"].contains name then ignore
  else doing do
    reconstruct
    openTag tag

/-- The end of a form. -/
def closeForm : Build Unit := do
  let b ← get
  if b.hasOpen ["template"] then
    if b.inScope ["form"] then
      closeImplied []
      popUntil ["form"]
  else
    set { b with form := none }
    match b.form with
    | none => pure ()
    | some form =>
      if findInScope (b.endsScope []) (· == form) b.stack then
        closeImplied []
        removeFromStack form

/-- An end tag in the body. -/
def bodyEnd (name : String) : Build Next := do
  let b ← get
  if name == "template" then pure (.via .inHead)
  else if name == "body" then
    if b.inScope ["body"] then doing (setPhase .afterBody) else ignore
  else if name == "html" then
    if b.inScope ["body"] then retryIn .afterBody else ignore
  else if closingNames.contains name then
    if b.inScope [name] then doing do
      closeImplied []
      popUntil [name]
    else ignore
  else if name == "form" then doing closeForm
  else if name == "p" then doing do
    if !b.inButtonScope ["p"] then
      let _ ← openNamed "p"
    closeParagraph
  else if name == "li" then
    if b.inListScope ["li"] then doing do
      closeImplied ["li"]
      popUntil ["li"]
    else ignore
  else if name == "dd" || name == "dt" then
    if b.inScope [name] then doing do
      closeImplied [name]
      popUntil [name]
    else ignore
  else if headingNames.contains name then
    if b.inScope headingNames then doing do
      closeImplied []
      popUntil headingNames
    else ignore
  else if name == "a" || name == "nobr" || formattingNames.contains name then doing (adopt name)
  else if ["applet", "marquee", "object"].contains name then
    if b.inScope [name] then doing do
      closeImplied []
      popUntil [name]
      clearToMarker
    else ignore
  else if name == "br" then doing do
    reconstruct
    placeTag (bareTag "br")
    setFramesetOff
  else doing (closeOther name)

def inBodyRule (t : Token) : Build Next := do
  match t with
  | .null => ignore
  | .blank content => doing do
    reconstruct
    insertText content
  | .text content => doing do
    reconstruct
    insertText content
    setFramesetOff
  | .comment content => doing (insertComment content)
  | .doctype _ => ignore
  | .finish =>
    if (← get).templatePhases.isEmpty then doing (modify fun b => { b with finished := true })
    else pure (.via .inTemplate)
  | .startTag tag => bodyStart tag
  | .endTag name => bodyEnd name

/-- Text, title, style, script and the like. -/
def inTextRule : Token → Build Next
  | .blank content => doing (insertText content)
  | .text content => doing (insertText content)
  | .finish => do
    pop
    modify fun b => { b with mode := .data, phase := b.returnPhase }
    pure .again
  | _ => doing do
    pop
    modify fun b => { b with mode := .data, phase := b.returnPhase }

/-! ## Tables -/

/-- Wait for more text before it is put into a table. -/
def startTableText : Build Next := do
  let b ← get
  if b.currentIs ["table", "tbody", "tfoot", "thead", "tr"] then
    set { b with tableText := [], returnPhase := b.phase, phase := .inTableText }
    pure .again
  else pure .foster

def clearToTable : Build Unit := popTo ["table", "template", "html"]
def clearToTableBody : Build Unit := popTo ["tbody", "tfoot", "thead", "template", "html"]
def clearToRow : Build Unit := popTo ["tr", "template", "html"]

def tableStart (tag : StartTag) : Build Next := do
  let name := tag.name
  let b ← get
  if name == "caption" then doing do
    clearToTable
    pushMarker
    openTag tag
    setPhase .inCaption
  else if name == "colgroup" then doing do
    clearToTable
    openTag tag
    setPhase .inColumnGroup
  else if name == "col" then do
    clearToTable
    let _ ← openNamed "colgroup"
    retryIn .inColumnGroup
  else if ["tbody", "tfoot", "thead"].contains name then doing do
    clearToTable
    openTag tag
    setPhase .inTableBody
  else if ["td", "th", "tr"].contains name then do
    clearToTable
    let _ ← openNamed "tbody"
    retryIn .inTableBody
  else if name == "table" then
    if b.inTableScope ["table"] then do
      popUntil ["table"]
      resetPhase
      pure .again
    else ignore
  else if ["style", "script", "template"].contains name then pure (.via .inHead)
  else if name == "input" && isHidden tag then doing (placeTag tag)
  else if name == "form" then
    if b.hasOpen ["template"] || b.form.isSome then ignore
    else doing do
      let id ← placeElement (htmlShape tag)
      modify fun b => { b with form := some id }
  else pure .foster

def inTableRule (t : Token) : Build Next := do
  match t with
  | .null => startTableText
  | .blank _ => startTableText
  | .text _ => startTableText
  | .comment content => doing (insertComment content)
  | .doctype _ => ignore
  | .startTag tag => tableStart tag
  | .endTag name =>
    if name == "table" then
      if (← get).inTableScope ["table"] then doing do
        popUntil ["table"]
        resetPhase
      else ignore
    else if ["body", "caption", "col", "colgroup", "html", "tbody", "td", "tfoot", "th", "thead",
        "tr"].contains name then ignore
    else if name == "template" then pure (.via .inHead)
    else pure .foster
  | .finish => pure (.via .inBody)

def inCaptionRule (t : Token) : Build Next := do
  let close : Build Bool := do
    if (← get).inTableScope ["caption"] then
      closeImplied []
      popUntil ["caption"]
      clearToMarker
      setPhase .inTable
      pure true
    else pure false
  match t with
  | .startTag tag =>
    if ["caption", "col", "colgroup", "tbody", "td", "tfoot", "th", "thead", "tr"].contains tag.name
    then pure (if ← close then .again else .done)
    else pure (.via .inBody)
  | .endTag name =>
    if name == "caption" then
      let _ ← close
      ignore
    else if name == "table" then pure (if ← close then .again else .done)
    else if ["body", "col", "colgroup", "html", "tbody", "td", "tfoot", "th", "thead",
        "tr"].contains name then ignore
    else pure (.via .inBody)
  | _ => pure (.via .inBody)

def inColumnGroupRule (t : Token) : Build Next := do
  let otherwise : Build Next := do
    if (← get).currentIs ["colgroup"] then
      pop
      retryIn .inTable
    else ignore
  match t with
  | .blank content => doing (insertText content)
  | .comment content => doing (insertComment content)
  | .doctype _ => ignore
  | .startTag tag =>
    if tag.name == "html" then pure (.via .inBody)
    else if tag.name == "col" then doing (placeTag tag)
    else if tag.name == "template" then pure (.via .inHead)
    else otherwise
  | .endTag name =>
    if name == "colgroup" then
      if (← get).currentIs ["colgroup"] then doing do
        pop
        setPhase .inTable
      else ignore
    else if name == "col" then ignore
    else if name == "template" then pure (.via .inHead)
    else otherwise
  | .finish => pure (.via .inBody)
  | _ => otherwise

def inTableBodyRule (t : Token) : Build Next := do
  let leave : Build Next := do
    if (← get).inTableScope ["tbody", "thead", "tfoot"] then
      clearToTableBody
      pop
      retryIn .inTable
    else ignore
  match t with
  | .startTag tag =>
    if tag.name == "tr" then doing do
      clearToTableBody
      openTag tag
      setPhase .inRow
    else if tag.name == "th" || tag.name == "td" then do
      clearToTableBody
      let _ ← openNamed "tr"
      retryIn .inRow
    else if ["caption", "col", "colgroup", "tbody", "tfoot", "thead"].contains tag.name then leave
    else pure (.via .inTable)
  | .endTag name =>
    if ["tbody", "tfoot", "thead"].contains name then
      if (← get).inTableScope [name] then doing do
        clearToTableBody
        pop
        setPhase .inTable
      else ignore
    else if name == "table" then leave
    else if ["body", "caption", "col", "colgroup", "html", "td", "th", "tr"].contains name then
      ignore
    else pure (.via .inTable)
  | _ => pure (.via .inTable)

def inRowRule (t : Token) : Build Next := do
  let leave : Build Next := do
    if (← get).inTableScope ["tr"] then
      clearToRow
      pop
      retryIn .inTableBody
    else ignore
  match t with
  | .startTag tag =>
    if tag.name == "th" || tag.name == "td" then doing do
      clearToRow
      openTag tag
      setPhase .inCell
      pushMarker
    else if ["caption", "col", "colgroup", "tbody", "tfoot", "thead", "tr"].contains tag.name then
      leave
    else pure (.via .inTable)
  | .endTag name =>
    if name == "tr" then
      if (← get).inTableScope ["tr"] then doing do
        clearToRow
        pop
        setPhase .inTableBody
      else ignore
    else if name == "table" then leave
    else if ["tbody", "tfoot", "thead"].contains name then
      if (← get).inTableScope [name] then leave else ignore
    else if ["body", "caption", "col", "colgroup", "html", "td", "th"].contains name then ignore
    else pure (.via .inTable)
  | _ => pure (.via .inTable)

/-- Close the cell that is open. -/
def closeCell : Build Unit := do
  closeImplied []
  popUntil ["td", "th"]
  clearToMarker
  setPhase .inRow

def inCellRule (t : Token) : Build Next := do
  let b ← get
  match t with
  | .startTag tag =>
    if ["caption", "col", "colgroup", "tbody", "td", "tfoot", "th", "thead", "tr"].contains tag.name
    then
      if b.inTableScope ["td", "th"] then do
        closeCell
        pure .again
      else ignore
    else pure (.via .inBody)
  | .endTag name =>
    if name == "td" || name == "th" then
      if b.inTableScope [name] then doing do
        closeImplied []
        popUntil [name]
        clearToMarker
        setPhase .inRow
      else ignore
    else if ["body", "caption", "col", "colgroup", "html"].contains name then ignore
    else if ["table", "tbody", "tfoot", "thead", "tr"].contains name then
      if b.inTableScope [name] then do
        closeCell
        pure .again
      else ignore
    else pure (.via .inBody)
  | _ => pure (.via .inBody)

/-! ## Selections, templates and framesets -/

def closeSelect : Build Unit := do
  popUntil ["select"]
  resetPhase

def inSelectRule (t : Token) : Build Next := do
  let b ← get
  match t with
  | .null => ignore
  | .blank content => doing (insertText content)
  | .text content => doing (insertText content)
  | .comment content => doing (insertComment content)
  | .doctype _ => ignore
  | .startTag tag =>
    let name := tag.name
    if name == "html" then pure (.via .inBody)
    else if name == "option" then doing do
      if b.currentIs ["option"] then pop
      openTag tag
    else if name == "optgroup" then doing do
      if b.currentIs ["option"] then pop
      if (← get).currentIs ["optgroup"] then pop
      openTag tag
    else if name == "hr" then doing do
      if b.currentIs ["option"] then pop
      if (← get).currentIs ["optgroup"] then pop
      placeTag tag
    else if name == "select" then doing do
      if b.inSelectScope ["select"] then closeSelect
    else if ["input", "keygen", "textarea"].contains name then
      if b.inSelectScope ["select"] then do
        closeSelect
        pure .again
      else ignore
    else if name == "script" || name == "template" then pure (.via .inHead)
    else ignore
  | .endTag name =>
    if name == "optgroup" then doing do
      match b.stack with
      | _ :: second :: _ =>
        if b.currentIs ["option"] && b.isHtml ["optgroup"] second then pop
      | _ => pure ()
      if (← get).currentIs ["optgroup"] then pop
    else if name == "option" then doing do
      if b.currentIs ["option"] then pop
    else if name == "select" then doing do
      if b.inSelectScope ["select"] then closeSelect
    else if name == "template" then pure (.via .inHead)
    else ignore
  | .finish => pure (.via .inBody)

def inSelectInTableRule (t : Token) : Build Next := do
  let tableNames := ["caption", "table", "tbody", "tfoot", "thead", "tr", "td", "th"]
  match t with
  | .startTag tag =>
    if tableNames.contains tag.name then do
      closeSelect
      pure .again
    else pure (.via .inSelect)
  | .endTag name =>
    if tableNames.contains name then
      if (← get).inTableScope [name] then do
        closeSelect
        pure .again
      else ignore
    else pure (.via .inSelect)
  | _ => pure (.via .inSelect)

def inTemplateRule (t : Token) : Build Next := do
  let change := fun (phase : Phase) => (do
    modify fun b => { b with phase := phase, templatePhases := phase :: b.templatePhases.drop 1 }
    pure .again : Build Next)
  match t with
  | .startTag tag =>
    if headNames.contains tag.name then pure (.via .inHead)
    else if ["caption", "colgroup", "tbody", "tfoot", "thead"].contains tag.name then
      change .inTable
    else if tag.name == "col" then change .inColumnGroup
    else if tag.name == "tr" then change .inTableBody
    else if tag.name == "td" || tag.name == "th" then change .inRow
    else change .inBody
  | .endTag name => if name == "template" then pure (.via .inHead) else ignore
  | .finish => do
    if (← get).hasOpen ["template"] then
      popUntil ["template"]
      clearToMarker
      modify fun b => { b with templatePhases := b.templatePhases.drop 1 }
      resetPhase
      pure .again
    else doing (modify fun b => { b with finished := true })
  | _ => pure (.via .inBody)

def afterBodyRule (t : Token) : Build Next := do
  match t with
  | .blank _ => pure (.via .inBody)
  | .comment content => doing do
    insertCommentAt (.lastIn ((← get).stack.getLast?.getD Sketch.root)) content
  | .doctype _ => ignore
  | .startTag tag => if tag.name == "html" then pure (.via .inBody) else retryIn .inBody
  | .endTag name => if name == "html" then doing (setPhase .afterAfterBody) else retryIn .inBody
  | .finish => doing (modify fun b => { b with finished := true })
  | _ => retryIn .inBody

def inFramesetRule (t : Token) : Build Next := do
  match t with
  | .blank content => doing (insertText content)
  | .comment content => doing (insertComment content)
  | .startTag tag =>
    if tag.name == "html" then pure (.via .inBody)
    else if tag.name == "frameset" then doing (openTag tag)
    else if tag.name == "frame" then doing (placeTag tag)
    else if tag.name == "noframes" then pure (.via .inHead)
    else ignore
  | .endTag name =>
    if name == "frameset" && 1 < (← get).stack.length then doing do
      pop
      if !(← get).currentIs ["frameset"] then setPhase .afterFrameset
    else ignore
  | .finish => doing (modify fun b => { b with finished := true })
  | _ => ignore

def afterFramesetRule (t : Token) : Build Next := do
  match t with
  | .blank content => doing (insertText content)
  | .comment content => doing (insertComment content)
  | .startTag tag =>
    if tag.name == "html" then pure (.via .inBody)
    else if tag.name == "noframes" then pure (.via .inHead)
    else ignore
  | .endTag name => if name == "html" then doing (setPhase .afterAfterFrameset) else ignore
  | .finish => doing (modify fun b => { b with finished := true })
  | _ => ignore

def afterAfterBodyRule (t : Token) : Build Next := do
  match t with
  | .comment content => doing (insertCommentAt (.lastIn Sketch.root) content)
  | .doctype _ => pure (.via .inBody)
  | .blank _ => pure (.via .inBody)
  | .startTag tag => if tag.name == "html" then pure (.via .inBody) else retryIn .inBody
  | .finish => doing (modify fun b => { b with finished := true })
  | _ => retryIn .inBody

def afterAfterFramesetRule (t : Token) : Build Next := do
  match t with
  | .comment content => doing (insertCommentAt (.lastIn Sketch.root) content)
  | .doctype _ => pure (.via .inBody)
  | .blank _ => pure (.via .inBody)
  | .startTag tag =>
    if tag.name == "html" then pure (.via .inBody)
    else if tag.name == "noframes" then pure (.via .inHead)
    else ignore
  | .finish => doing (modify fun b => { b with finished := true })
  | _ => ignore

/-! ## Other vocabularies -/

/-- HTML elements whose start tags end content of another vocabulary. -/
def breakoutNames : List String :=
  ["b", "big", "blockquote", "body", "br", "center", "code", "dd", "div", "dl", "dt", "em", "embed",
    "h1", "h2", "h3", "h4", "h5", "h6", "head", "hr", "i", "img", "li", "listing", "menu", "meta",
    "nobr", "ol", "p", "pre", "ruby", "s", "small", "span", "strong", "strike", "sub", "sup",
    "table", "tt", "u", "ul", "var"]

/-- Whether the content of an element of another vocabulary is HTML. -/
def holdsHtml (shape : Shape) : Bool :=
  isSvgHtml shape ||
    (shape.vocabulary == .math && shape.name == "annotation-xml" &&
      shape.attributes.any fun a => a.name == "encoding" &&
        ["text/html", "application/xhtml+xml"].contains (Text.lower a.value))

/-- Whether a token is content of another vocabulary. -/
def isForeign (b : Builder) (t : Token) : Bool :=
  match b.stack.head?.bind b.shape? with
  | none => false
  | some shape =>
    if shape.vocabulary == .html then false
    else
      match t with
      | .finish => false
      | .startTag tag =>
        !(isMathText shape && tag.name != "mglyph" && tag.name != "malignmark") &&
          !(shape.vocabulary == .math && shape.name == "annotation-xml" && tag.name == "svg") &&
          !holdsHtml shape
      | .blank _ => !isMathText shape && !holdsHtml shape
      | .text _ => !isMathText shape && !holdsHtml shape
      | .null => !isMathText shape && !holdsHtml shape
      | _ => true

/-- Close elements of other vocabularies; the token goes on as one of HTML. -/
def leaveForeign : Build Next := do
  modify fun b => { b with
    stack := b.stack.dropWhile fun id =>
      match b.shape? id with
      | some shape => shape.vocabulary != .html && !isMathText shape && !isSvgHtml shape
      | none => false }
  pure (.via (← get).phase)

/-- Close the latest open element with a name, compared without regard to case, unless an HTML
element stands above it; the answer tells whether HTML rules apply instead. -/
def closeForeign (name : String) : Build Bool := do
  let b ← get
  let rec search (first : Bool) : List Nat → Option (Option Nat)
    | [] => some none
    | id :: rest =>
      match b.shape? id with
      | none => some none
      | some shape =>
        if !first && shape.vocabulary == .html then none
        else if Text.lower shape.name == name then some (some id)
        else search false rest
  match search true b.stack with
  | none => pure true
  | some none => pure false
  | some (some id) =>
    set { b with stack := (b.stack.dropWhile (· != id)).drop 1 }
    pure false

/-- Rules for the content of other vocabularies. -/
def foreignRule (t : Token) : Build Next := do
  match t with
  | .null => doing (insertText "\ufffd")
  | .blank content => doing (insertText content)
  | .text content => doing do
    insertText content
    setFramesetOff
  | .comment content => doing (insertComment content)
  | .doctype _ => ignore
  | .startTag tag =>
    let breaksOut := breakoutNames.contains tag.name ||
      (tag.name == "font" &&
        tag.attributes.any fun a => ["color", "face", "size"].contains a.name)
    if breaksOut then leaveForeign
    else doing do
      let b ← get
      let vocabulary := ((b.stack.head?.bind b.shape?).map Shape.vocabulary).getD .svg
      insertForeign vocabulary tag
  | .endTag name =>
    if name == "br" || name == "p" then leaveForeign
    else do
      let b ← get
      if ← closeForeign name then pure (.via b.phase) else ignore
  | .finish => ignore

end Topiary.Markup
