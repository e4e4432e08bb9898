import Topiary.Sheet.Written

/-!
Selectors of stylesheets as data, and their text in one spelling: `a, b > c` for `a,b>c`, attribute
values between double quotes, `:first-child` for `:nth-child(1)`.
-/

namespace Topiary.Sheet

/-- What joins compounds. The last three are not written: they stand before what a pseudo-element
adds to an element. -/
inductive Combinator where
  | descendant
  | child
  | next
  | later
  | pseudoElement
  | slotted
  | exposed
deriving Repr, DecidableEq

/-- A namespace as it is written before a name. -/
inductive Namespace where
  | any
  | nowhere
  | named (name : String)
deriving Repr, DecidableEq

/-- What a counting pseudo-class counts. -/
inductive Place where
  | child
  | lastChild
  | ofType
  | lastOfType
  | column
  | lastColumn
deriving Repr, DecidableEq

/-- The members `a * n + b` of what is counted. -/
structure Count where
  a : Int
  b : Int
deriving Repr, DecidableEq

/-- What an attribute is compared with. -/
structure AttributeTest where
  /-- The mark before the equals sign. -/
  mark : Option Char
  value : String
  flag : Option Char
deriving Repr, DecidableEq

/-- Pseudo-classes that take selectors. -/
inductive Group where
  | matchesAny
  | matchesAnyUnweighted
  | matchesAnyOld (name : String)
  | matchesNone
  | has
deriving Repr, DecidableEq

/-- A part of a selector: selectors are lists of parts. -/
inductive Part where
  | combinator (combinator : Combinator)
  | namespaced (space : Namespace)
  | element (name : String)
  | anyElement
  | nesting
  | scope
  | id (name : String)
  | className (name : String)
  | attribute (space : Option Namespace) (name : String) (test : Option AttributeTest)
  | counted (place : Place) (count : Count)
  /-- A count among those that a list selects. -/
  | countedAmong (place : Place) (count : Count) (among : List (List Part))
  | group (group : Group) (members : List (List Part))
  /-- A pseudo-class with the text between its brackets. -/
  | pseudoClass (name : String) (argument : Option String)
  /-- A pseudo-element with the text between its brackets. -/
  | pseudoElement (name : String) (argument : Option String)
deriving Repr, Inhabited

abbrev Selector := List Part

/-! ## Text -/

def Combinator.text : Combinator → String
  | .descendant => " "
  | .child => " > "
  | .next => " + "
  | .later => " ~ "
  | _ => ""

def Namespace.text : Namespace → String
  | .any => "*|"
  | .nowhere => "|"
  | .named name => identText name ++ "|"

/-- The text of a whole number with its sign, even if it is positive. -/
def signedText (n : Int) : String :=
  if 0 ≤ n then "+" ++ toString n else toString n

def Count.text (c : Count) : String :=
  if c.a = 0 then toString c.b
  else if c.a = 2 && c.b = 1 then "odd"
  else
    let times := if c.a = 1 then "n" else if c.a = -1 then "-n" else toString c.a ++ "n"
    if c.b = 0 then times else times ++ signedText c.b

def Place.name : Place → String
  | .child => "nth-child"
  | .lastChild => "nth-last-child"
  | .ofType => "nth-of-type"
  | .lastOfType => "nth-last-of-type"
  | .column => "nth-col"
  | .lastColumn => "nth-last-col"

/-- The text for the first of what is counted. Columns have no name of their own for it, and the
text breaks off. -/
def Place.firstText : Place → String
  | .child => ":first-child"
  | .lastChild => ":last-child"
  | .ofType => ":first-of-type"
  | .lastOfType => ":last-of-type"
  | .column => ":nth-col("
  | .lastColumn => ":nth-last-col("

def attributeText (space : Option Namespace) (name : String) (test : Option AttributeTest) :
    String :=
  let rest := match test with
    | none => ""
    | some t =>
      let mark := match t.mark with
        | some c => String.ofList [c]
        | none => ""
      let flag := match t.flag with
        | some c => String.ofList [' ', c]
        | none => ""
      mark ++ "=" ++ stringText t.value ++ flag
  "[" ++ ((space.map Namespace.text).getD "") ++ identText name ++ rest ++ "]"

/-- A text between brackets, if there is one. -/
def argumentText : Option String → String
  | some argument => "(" ++ argument ++ ")"
  | none => ""

/-- Pseudo-elements that may be written with one colon, and are. -/
def oldPseudoElements : List String := ["before", "after", "first-line", "first-letter"]

def Group.name : Group → String
  | .matchesAny => "is"
  | .matchesAnyUnweighted => "where"
  | .matchesAnyOld name => name
  | .matchesNone => "not"
  | .has => "has"

/-- Parts, each with its text. -/
abbrev PartTexts := List (Part × String)

def Part.combinator? : Part → Option Combinator
  | .combinator c => some c
  | _ => none

def Part.isAnyElement : Part → Bool
  | .anyElement => true
  | _ => false

def Part.isScope : Part → Bool
  | .scope => true
  | _ => false

/-- The compounds between combinators. -/
def compounds : PartTexts → List PartTexts
  | [] => [[]]
  | p :: rest =>
    match compounds rest with
    | [] => [[p]]
    | compound :: more =>
      if p.1.combinator?.isSome then [] :: compound :: more else (p :: compound) :: more

def Part.isNesting : Part → Bool
  | .nesting => true
  | _ => false

def Part.isNamespaced : Part → Bool
  | .namespaced _ => true
  | _ => false

/-- The text of a compound with the combinator behind it. An element of any name is left out unless
it has a namespace or stands alone; in the first compound the rule around may stand before it. -/
def compoundText (first : Bool) (compound : PartTexts) (behind : Option Combinator) : String :=
  let named := if first && compound.head?.any (·.1.isNesting) then compound.tail else compound
  let spaced := named.head?.any (·.1.isNamespaced)
  let alone := (if spaced then named.tail else named).length == 1 &&
    behind != some .pseudoElement && behind != some .slotted
  let kept := if alone || spaced then compound else compound.filter fun p => !p.1.isAnyElement
  String.join (kept.map Prod.snd)

/-- The text of compounds with the combinators between them; `first` tells whether nothing stands
before them. Where a selector is `relative`, a compound that starts with the scope stands for the
element it is relative to, and only the combinator behind it is written. -/
def chainText (relative first : Bool) : List PartTexts → List Combinator → String
  | [], _ => ""
  | compound :: rest, cs =>
    let anchored := relative && compound.head?.any (·.1.isScope)
    let front := if anchored then ((cs.head?.map Combinator.text).getD "") else ""
    let compound := if anchored then compound.tail else compound
    let cs := if anchored then cs.tail else cs
    let relative := relative && !anchored
    if compound.isEmpty then front ++ chainText relative first rest cs
    else
      front ++ compoundText first compound cs.head? ++ ((cs.head?.map Combinator.text).getD "") ++
        chainText relative false rest cs.tail

/-- The text of one selector from the texts of its parts. -/
def partsText (relative : Bool) (ps : PartTexts) : String :=
  chainText relative true (compounds ps) (ps.filterMap fun p => p.1.combinator?)

/-- Whether a selector says nothing about the name of an element and has no combinator, so that it
can stand behind other parts. -/
def Selector.isSimple (parts : Selector) : Bool :=
  let named := match parts.dropWhile fun | .namespaced _ => true | _ => false with
    | .element _ :: _ => true
    | .anyElement :: _ => true
    | _ => false
  !named && parts.all fun p => p.combinator?.isNone

mutual

/-- The text of a part. A single simple alternative is written without the group around it. -/
def Part.text : Part → String
  | .combinator c => c.text
  | .namespaced space => space.text
  | .element name => identText name
  | .anyElement => "*"
  | .nesting => "&"
  | .scope => ":scope"
  | .id name => "#" ++ identText name
  | .className name => "." ++ identText name
  | .attribute space name test => attributeText space name test
  | .counted place count =>
    if count.a = 0 && count.b = 1 then place.firstText
    else ":" ++ place.name ++ "(" ++ count.text ++ ")"
  | .countedAmong place count among =>
    ":" ++ place.name ++ "(" ++ count.text ++ " of " ++ ", ".intercalate (texts true among) ++ ")"
  | .group .matchesAny [member] =>
    let text := partsText false (textEach member)
    if Selector.isSimple member then text else ":is(" ++ text ++ ")"
  | .group group members =>
    ":" ++ group.name ++ "(" ++ ", ".intercalate (texts (group = .has) members) ++ ")"
  | .pseudoClass name argument => ":" ++ name ++ argumentText argument
  | .pseudoElement name argument =>
    (if oldPseudoElements.contains name && argument.isNone then ":" else "::") ++ name ++
      argumentText argument

def textEach : List Part → PartTexts
  | [] => []
  | p :: rest => (p, p.text) :: textEach rest

def texts (relative : Bool) : List (List Part) → List String
  | [] => []
  | selector :: rest => partsText relative (textEach selector) :: texts relative rest

end

/-- The text of a list of selectors. -/
def selectorsText (selectors : List Selector) : String :=
  ", ".intercalate (texts false selectors)

end Topiary.Sheet
