import Topiary.Sheet.Condition
import Topiary.Sheet.Selectors.Read

/-!
At-rules up to their block or semicolon. What a prelude says matters in two ways: a broken one
leaves no trace, and a sound one tells what the rule may hold and where it may stand.
-/

namespace Topiary.Sheet

/-- How far a sheet has come: imports stand before namespaces, and both before all but layers. -/
inductive Stage where
  | start
  | layers
  | imports
  | namespaces
  | body
deriving Repr, DecidableEq

def Stage.rank : Stage → Nat
  | .start => 0
  | .layers => 1
  | .imports => 2
  | .namespaces => 3
  | .body => 4

/-- What an at-rule is, as far as its prelude tells. -/
inductive Prelude where
  | load (url : String)
  | namespaced
  | charset
  | layers (count : Nat)
  /-- A rule that holds style rules. -/
  | holder
  /-- A rule of its own, which no style rule may hold. -/
  | standalone
  /-- A rule with an unknown name. -/
  | unknown
deriving Repr, DecidableEq

/-! ## Parts of preludes -/

/-- Whether pieces, comments aside, are names joined by dots. -/
def isDotted : List Piece → Bool
  | .token (.ident _) :: rest =>
    match rest with
    | .token (.delim '.') :: rest => isDotted rest
    | rest => rest.all Piece.isBlank
  | _ => false

def isLayerName (ps : List Piece) : Bool :=
  isDotted ((ps.filter fun p => !p.isComment).dropWhile Piece.isBlank)

/-- The number of layers named; a comma at the end undoes the names. -/
def layerCount? (ps : List Piece) : Option Nat :=
  let parts := splitAt (Piece.isToken .comma) ps
  if parts.all isLayerName then some parts.length
  else if parts.dropLast.all isLayerName && parts.getLast?.any (·.all Piece.isGap) then some 0
  else none

def isUrlOrString : Piece → Bool
  | .token (.string _) => true
  | p => p.url?.isSome

/-- What follows a layer in an import, unless it is broken. -/
def takeImportLayer : List Piece → Option (List Piece)
  | p :: rest =>
    match p with
    | .call name inside =>
      if Text.lower name == "layer" then if isLayerName inside then some rest else none
      else some (p :: rest)
    | p => if p.isWord "layer" then some rest else some (p :: rest)
  | [] => some []

/-- What follows a condition on what is supported in an import, unless it is broken. -/
def takeImportSupports : List Piece → Option (List Piece)
  | .call name inside :: rest =>
    if Text.lower name == "supports" then
      if isSupportsOrDeclaration inside then some rest else none
    else some (.call name inside :: rest)
  | ps => some ps

/-- The address of an import, if what follows it is well formed. -/
def importUrl? (ps : List Piece) : Option String :=
  match withoutGaps ps with
  | [] => none
  | p :: rest => do
    let url ← match p with
      | .token (.string url) => some url
      | p => p.url?
    let conditions ← (takeImportLayer rest).bind takeImportSupports
    if areMediumQueries conditions then some url else none

/-- Whether pieces, comments and blanks at the front aside, are a name of pages with its classes. -/
def isPageTail : List Piece → Bool
  | .token .colon :: .token (.ident name) :: rest =>
    ["left", "right", "first", "last", "blank"].contains (Text.lower name) && isPageTail rest
  | rest => rest.all Piece.isBlank

def isPage (ps : List Piece) : Bool :=
  match (ps.filter fun p => !p.isComment).dropWhile Piece.isBlank with
  | .token (.ident _) :: rest => isPageTail rest
  | .token .colon :: rest => isPageTail (.token .colon :: rest)
  | _ => false

/-- Whether pieces are the name of a family of fonts. -/
def isFamily (ps : List Piece) : Bool :=
  let words := withoutGaps ps
  (onlyString? ps).isSome ||
    (!words.isEmpty && words.all fun | .token (.ident _) => true | _ => false)

/-- Whether pieces limit a scope. -/
def isScopeLimit (ps : List Piece) : Bool :=
  let limit : List Piece → Bool
    | [] => true
    | [word, .block .round _] => word.isWord "to"
    | _ => false
  match withoutGaps ps with
  | .block .round _ :: rest => limit rest
  | ps => limit ps

/-- Whether pieces ask for documents at any address. -/
def isAnyDocument (ps : List Piece) : Bool :=
  match withoutGaps ps with
  | [.call name inside] =>
    Text.lower name == "url-prefix" &&
      ((withoutGaps inside).isEmpty || onlyString? inside == some "")
  | _ => false

/-- Whether pieces are the name of a course of frames. -/
def isKeyframesName (ps : List Piece) : Bool :=
  (onlyString? ps).isSome ||
    (onlyWord? ps).any fun name => isCustomName name && Text.lower name != "none"

/-- Whether pieces are selectors that all speak of the rule around them. -/
def areNesting (ps : List Piece) : Bool :=
  (selectors? false ps).any fun list => list.all partsMentionNesting

/-! ## Preludes -/

def onlyIf (condition : Bool) (prelude : Prelude) : Option Prelude :=
  if condition then some prelude else none

/-- The prelude of an at-rule that may stand in any place, in lower case. -/
def plainPrelude? (name : String) (ps : List Piece) : Option Prelude :=
  let empty := ps.all Piece.isGap
  match name with
  | "media" => onlyIf (areMediumQueries ps) .holder
  | "supports" => onlyIf (isSupports ps) .holder
  | "container" => onlyIf (isContainerQuery ps) .holder
  | "scope" => onlyIf (isScopeLimit ps) .holder
  | "starting-style" => onlyIf empty .holder
  | "-moz-document" => onlyIf (isAnyDocument ps) .holder
  | "layer" => (layerCount? ps).map .layers
  | "font-face" => onlyIf empty .standalone
  | "viewport" => onlyIf empty .standalone
  | "-ms-viewport" => onlyIf empty .standalone
  | "view-transition" => onlyIf empty .standalone
  | "font-feature-values" =>
    onlyIf ((splitAt (Piece.isToken .comma) ps).all isFamily) .standalone
  | "font-palette-values" => onlyIf ((onlyWord? ps).any isDashed) .standalone
  | "property" => onlyIf ((onlyWord? ps).any isDashed) .standalone
  | "counter-style" => onlyIf ((onlyWord? ps).any isCustomName) .standalone
  | "keyframes" => onlyIf (isKeyframesName ps) .standalone
  | "-webkit-keyframes" => onlyIf (isKeyframesName ps) .standalone
  | "-moz-keyframes" => onlyIf (isKeyframesName ps) .standalone
  | "-o-keyframes" => onlyIf (isKeyframesName ps) .standalone
  | "-ms-keyframes" => onlyIf (isKeyframesName ps) .standalone
  | "page" =>
    onlyIf (empty || (splitAt (Piece.isToken .comma) ps).all isPage) .standalone
  | _ => onlyIf (isValue ps) .unknown

/-- The prelude of an at-rule of a sheet that has come as far as `stage`. -/
def sheetPrelude? (stage : Stage) (name : String) (ps : List Piece) : Option Prelude :=
  match Text.lower name with
  | "import" =>
    if stage.rank ≤ Stage.imports.rank then (importUrl? ps).map .load else none
  | "namespace" =>
    let named := match withoutGaps ps with
      | [p] => isUrlOrString p
      | [.token (.ident _), p] => isUrlOrString p
      | _ => false
    onlyIf (named && stage.rank ≤ Stage.namespaces.rank) .namespaced
  | "charset" => onlyIf (onlyString? ps).isSome .charset
  | name => plainPrelude? name ps

/-- Whether an at-rule may stand in a style rule: with a block it holds rules, and without one
nothing is known about it. -/
def isRuleWithin (name : String) (ps : List Piece) (block : Option (List Piece)) : Bool :=
  let prelude :=
    if Text.lower name == "nest" then onlyIf (areNesting ps) .holder
    else plainPrelude? (Text.lower name) ps
  match prelude, block with
  | some .holder, some _ => true
  | some (.layers count), some _ => count ≤ 1
  | some .unknown, some inside => isValue inside
  | some .unknown, none => true
  | _, _ => false

/-- What a sound at-rule adds to a sheet, and how far the sheet has come with it. -/
def Prelude.result (prelude : Prelude) (stage : Stage) (hasBlock : Bool) : Option String × Stage :=
  if hasBlock then (none, .body)
  else
    match prelude with
    | .load url => (some url, .imports)
    | .namespaced => (none, .namespaces)
    | .layers _ => (none, if stage.rank ≤ Stage.layers.rank then .layers else .body)
    | _ => (none, stage)

end Topiary.Sheet
