import Topiary.Sheet.Selectors.Count
import Topiary.Sheet.Selectors.Names
import Topiary.Sheet.Value

/-!
Selectors from pieces. What may follow in a compound depends on the pseudo-elements before it, and
what may stand between brackets on the pseudo-class in front of them. Lists of alternatives drop the
members that are broken; every other list is broken with its member.
-/

namespace Topiary.Sheet

/-- What a part stands behind or within. -/
structure Standing where
  /-- Behind a known pseudo-element. -/
  afterElement : Bool := false
  afterSlotted : Bool := false
  /-- Behind a part that a host exposes. -/
  afterExposed : Bool := false
  afterScrollbar : Bool := false
  afterTransition : Bool := false
  /-- Where pseudo-elements are refused. -/
  bare : Bool := false
  /-- Where combinators are refused. -/
  single : Bool := false

/-- Whether nothing but pseudo-classes and pseudo-elements may follow. -/
def Standing.isBehind (s : Standing) : Bool := s.afterElement || s.afterSlotted || s.afterExposed

/-- How what stands between brackets is read. -/
structure Readers where
  selector : Standing → List Piece → Option Selector
  list : (relative forgiving : Bool) → Standing → List Piece → Option (List Selector)

/-! ## Names and attributes -/

/-- The name of an element behind its namespace. -/
def readSpaced (space : Namespace) : List Piece → Option (List Part × List Piece)
  | .token (.ident name) :: rest => some ([.namespaced space, .element name], rest)
  | .token (.delim '*') :: rest => some ([.namespaced space, .anyElement], rest)
  | _ => none

/-- The name of an element at the front, if there is one. -/
def readElement : List Piece → Option (List Part × List Piece)
  | .token (.ident space) :: .token (.delim '|') :: rest => readSpaced (.named space) rest
  | .token (.delim '*') :: .token (.delim '|') :: rest => readSpaced .any rest
  | .token (.delim '|') :: rest => readSpaced .nowhere rest
  | .token (.ident name) :: rest => some ([.element name], rest)
  | .token (.delim '*') :: rest => some ([.anyElement], rest)
  | ps => some ([], ps)

/-- The rule around, if it is spoken of at the front. -/
def readNesting : List Piece → List Part × List Piece
  | .token (.delim '&') :: rest => ([.nesting], rest)
  | ps => ([], ps)

/-- The name of an attribute with its namespace. -/
def readAttributeName : List Piece → Option (Option Namespace × String × List Piece)
  | .token (.ident space) :: .token (.delim '|') :: rest =>
    match rest with
    | .token (.ident name) :: rest => some (some (.named space), name, rest)
    | _ => none
  | .token (.delim '*') :: .token (.delim '|') :: .token (.ident name) :: rest =>
    some (some .any, name, rest)
  | .token (.delim '|') :: .token (.ident name) :: rest => some (none, name, rest)
  | .token (.ident name) :: rest => some (none, name, rest)
  | _ => none

/-- What an attribute is compared with, behind its name. -/
def readAttributeTest : List Piece → Option (Option AttributeTest)
  | [] => some none
  | mark :: value :: flag => do
    let mark ← match mark with
      | .token (.delim '=') => some none
      | .token (.matcher mark) => some (some mark)
      | _ => none
    let value ← match value with
      | .token (.ident value) => some value
      | .token (.string value) => some value
      | _ => none
    let flag ← match flag with
      | [] => some none
      | [.token (.ident flag)] =>
        match Text.lower flag with
        | "i" => some (some 'i')
        | "s" => some (some 's')
        | _ => none
      | _ => none
    some (some ⟨mark, value, flag⟩)
  | _ => none

/-- An attribute between its brackets. -/
def readAttribute (ps : List Piece) : Option Part := do
  let ps := (ps.filter fun p => !p.isComment).dropWhile Piece.isBlank
  let (space, name, rest) ← readAttributeName ps
  let test ← readAttributeTest (rest.filter fun p => !p.isBlank)
  some (.attribute space name test)

/-- The only word among pieces. -/
def onlyWord? (ps : List Piece) : Option String :=
  match trimGaps ps with
  | [.token (.ident word)] => some word
  | _ => none

/-- Names that an author chooses, separated by commas. -/
def customNames? (ps : List Piece) : Option (List String) :=
  (splitAt (Piece.isToken .comma) ps).mapM fun part =>
    (onlyWord? part).filter isCustomName

def namesText (names : List String) : String := ", ".intercalate (names.map identText)

/-! ## Pseudo-classes -/

/-- A pseudo-class without brackets. -/
def readPseudoClass (s : Standing) (name : String) : Option Part :=
  let lowered := Text.lower name
  let plain : Option Part := some (.pseudoClass lowered none)
  if s.afterSlotted then none
  else if !s.isBehind && structuralNames.contains lowered then
    match lowered with
    | "first-child" => some (.counted .child ⟨0, 1⟩)
    | "last-child" => some (.counted .lastChild ⟨0, 1⟩)
    | "first-of-type" => some (.counted .ofType ⟨0, 1⟩)
    | "last-of-type" => some (.counted .lastOfType ⟨0, 1⟩)
    | "scope" => some .scope
    | _ => plain
  else if s.afterTransition && lowered == "only-child" then plain
  else if s.afterScrollbar then
    if (scrollbarClassNames ++ scrollbarStateNames).contains lowered then plain else none
  else if s.afterElement then if actionNames.contains lowered then plain else none
  else if scrollbarClassNames.contains lowered then none
  else
    some (.pseudoClass ((renamedStates.lookup lowered).getD (settleName stateNames name)) none)

/-- A pseudo-class that counts. -/
def readCounted (readers : Readers) (s : Standing) (place : Place) (ps : List Piece) :
    Option Part := do
  let (count, rest) ← Count.read? ps
  match trimGaps rest with
  | [] => some (.counted place count)
  | .token (.ident word) :: rest =>
    if Text.lower word == "of" && (place == .child || place == .lastChild) then
      (readers.list false true { s with bare := true } rest).map (.countedAmong place count)
    else none
  | _ => none

def readLanguages (ps : List Piece) : Option Part := do
  let names ← (splitAt (Piece.isToken .comma) ps).mapM fun part =>
    (onlyWord? part).or (onlyString? part)
  some (.pseudoClass "lang" (some (namesText names)))

/-- A pseudo-class whose brackets hold no selectors. -/
def readPlainFunction (name : String) (ps : List Piece) : Option Part :=
  match Text.lower name with
  | "lang" => readLanguages ps
  | "dir" =>
    match (onlyWord? ps).map Text.lower with
    | some "ltr" => some (.pseudoClass "dir" (some "ltr"))
    | some "rtl" => some (.pseudoClass "dir" (some "rtl"))
    | _ => none
  | "state" =>
    ((onlyWord? ps).filter isCustomName).map fun word =>
      .pseudoClass "state" (some (identText word))
  | "active-view-transition-type" =>
    (customNames? ps).map fun names =>
      .pseudoClass "active-view-transition-type" (some (namesText names))
  | _ => if mayBeKept ps then some (.pseudoClass name (some (Piece.textOf ps))) else none

/-- A pseudo-class with brackets. -/
def readFunction (readers : Readers) (s : Standing) (name : String) (ps : List Piece) :
    Option Part :=
  let lowered := Text.lower name
  let inside := { s with bare := true }
  match placeNames.lookup lowered with
  | some place => if s.isBehind then none else readCounted readers s place ps
  | none =>
    match lowered with
    | "is" => (readers.list false true inside ps).map (.group .matchesAny)
    | "where" => (readers.list false true inside ps).map (.group .matchesAnyUnweighted)
    | "-webkit-any" => (readers.list false true inside ps).map (.group (.matchesAnyOld lowered))
    | "-moz-any" => (readers.list false true inside ps).map (.group (.matchesAnyOld lowered))
    | "not" => (readers.list false false inside ps).map (.group .matchesNone)
    | "has" => (readers.list true true s ps).map (.group .has)
    | "host" =>
      if s.isBehind then none
      else
        (readers.selector { inside with single := true } ps).map fun selector =>
          .pseudoClass "host" (some (selectorsText [selector]))
    | _ => if s.isBehind then none else readPlainFunction name ps

/-! ## Pseudo-elements -/

/-- The classes of a part of a change between views. -/
def readTransitionClasses : List Piece → Option String
  | [] => some ""
  | .token (.delim '.') :: .token (.ident name) :: rest =>
    (readTransitionClasses rest).map fun text => "." ++ identText name ++ text
  | _ => none

/-- A part of a change between views: a name, or any with an asterisk, and classes. -/
def readTransitionPart (ps : List Piece) : Option String :=
  let ps := ps.filter fun p => !p.isComment
  match ps.dropWhile Piece.isBlank with
  | .token (.delim '*') :: rest => (readTransitionClasses rest).map ("*" ++ ·)
  | .token (.ident name) :: rest =>
    if isCustomName name then (readTransitionClasses rest).map (identText name ++ ·) else none
  | _ => readTransitionClasses ps

/-- A pseudo-element, whether it is known, and what comes to stand behind it. -/
abbrev FoundElement := Part × Bool × Standing

/-- A pseudo-element without brackets. -/
def readPlainElement (s : Standing) (name : String) : FoundElement :=
  let lowered := Text.lower name
  if pseudoElementNames.contains lowered then
    (.pseudoElement lowered none, true,
      { s with
        afterElement := true
        afterScrollbar := s.afterScrollbar || scrollbarElementNames.contains lowered })
  else (.pseudoElement name none, false, s)

/-- A pseudo-element with brackets. -/
def readElementFunction (readers : Readers) (s : Standing) (name : String) (ps : List Piece) :
    Option FoundElement :=
  let lowered := Text.lower name
  let known := fun (argument : String) (s : Standing) =>
    (Part.pseudoElement lowered (some argument), true, { s with afterElement := true })
  if ["cue", "cue-region"].contains lowered then
    (readers.selector {} ps).map fun selector => known (selectorsText [selector]) s
  else if lowered == "picker" then (onlyWord? ps).map fun word => known (identText word) s
  else if transitionNames.contains lowered then
    (readTransitionPart ps).map fun text => known text { s with afterTransition := true }
  else if mayBeKept ps then
    some (.pseudoElement name (some (Piece.textOf ps)), false, s)
  else none

/-- The names of parts that a host exposes. -/
def exposedNames? (ps : List Piece) : Option String :=
  let names := (ps.filter fun p => !p.isGap).mapM fun
    | Piece.token (.ident word) => some (identText word)
    | _ => none
  (names.filter fun words => !words.isEmpty).map (" ".intercalate ·)

/-- A pseudo-element with the combinator that stands before it. -/
def readPseudoElement (readers : Readers) (s : Standing) (name : String)
    (argument : Option (List Piece)) : Option (List Part × Standing) :=
  if s.afterElement || s.bare then none
  else
    match Text.lower name, argument with
    | "part", some ps =>
      if s.isBehind then none
      else
        (exposedNames? ps).map fun names =>
          ([.combinator .exposed, .pseudoElement "part" (some names)],
            { s with afterExposed := true })
    | "slotted", some ps =>
      if s.isBehind then none
      else
        (readers.selector { s with bare := true, single := true } ps).map fun selector =>
          ([.combinator .slotted, .pseudoElement "slotted" (some (selectorsText [selector]))],
            { s with afterSlotted := true })
    | lowered, _ => do
      let (part, known, next) ← match argument with
        | none => some (readPlainElement s name)
        | some ps => readElementFunction readers s name ps
      if s.afterSlotted && !(argument.isNone && slottedElementNames.contains lowered) then none
      else if known then some ([.combinator .pseudoElement, part], next)
      else some ([part], next)

/-! ## Compounds -/

/-- The parts of a compound behind its element, what comes to stand behind them, and what
follows. -/
def readSimples (readers : Readers) :
    Standing → List Piece → Option (List Part × Standing × List Piece)
  | s, .token (.delim '&') :: rest => do
    let (more, s, rest) ← readSimples readers s rest
    some (.nesting :: more, s, rest)
  | s, .token (.hash name true) :: rest => do
    let (more, next, rest) ← readSimples readers s rest
    if s.isBehind then none else some (.id name :: more, next, rest)
  | s, .token (.delim '.') :: .token (.ident name) :: rest => do
    let (more, next, rest) ← readSimples readers s rest
    if s.isBehind then none else some (.className name :: more, next, rest)
  | s, .block .square inside :: rest => do
    let part ← readAttribute inside
    let (more, next, rest) ← readSimples readers s rest
    if s.isBehind then none else some (part :: more, next, rest)
  | s, .token .colon :: .token .colon :: .token (.ident name) :: rest => do
    let (parts, s) ← readPseudoElement readers s name none
    let (more, s, rest) ← readSimples readers s rest
    some (parts ++ more, s, rest)
  | s, .token .colon :: .token .colon :: .call name argument :: rest => do
    let (parts, s) ← readPseudoElement readers s name (some argument)
    let (more, s, rest) ← readSimples readers s rest
    some (parts ++ more, s, rest)
  | s, .token .colon :: .token (.ident name) :: rest => do
    let (parts, s) ←
      if oldPseudoElements.contains (Text.lower name) then readPseudoElement readers s name none
      else (readPseudoClass s name).map fun part => ([part], s)
    let (more, s, rest) ← readSimples readers s rest
    some (parts ++ more, s, rest)
  | s, .token .colon :: .call name argument :: rest => do
    let (parts, s) ←
      if oldPseudoElements.contains (Text.lower name) then
        readPseudoElement readers s name (some argument)
      else (readFunction readers s name argument).map fun part => ([part], s)
    let (more, s, rest) ← readSimples readers s rest
    some (parts ++ more, s, rest)
  | _, .token (.delim '.') :: _ => none
  | _, .token .colon :: _ => none
  | s, ps => some ([], s, ps)

/-! ## Selectors -/

def combinatorOf? : Piece → Option Combinator
  | .token (.delim '>') => some .child
  | .token (.delim '+') => some .next
  | .token (.delim '~') => some .later
  | _ => none

/-- The combinator behind a compound and what follows it; blanks alone are one. -/
def readCombinator (blanks : Bool) : List Piece → Option (Combinator × List Piece)
  | [] => none
  | p :: rest =>
    match combinatorOf? p with
    | some c => some (c, rest)
    | none => if blanks then some (.descendant, p :: rest) else none

/-- Compounds with combinators between them, from a compound on; `count` bounds their number. -/
def readChain (readers : Readers) : (count : Nat) → Standing → List Piece → Option Selector
  | 0, _, _ => none
  | count + 1, s, ps => do
    let (nesting, rest) := readNesting (ps.dropWhile Piece.isBlank)
    let (element, rest) ← readElement rest
    let (simples, next, rest) ← readSimples readers s rest
    let parts := nesting ++ element ++ simples
    let (blanks, rest) := rest.span Piece.isBlank
    if parts.isEmpty || (s.isBehind && !element.isEmpty) then none
    else if rest.isEmpty then some parts
    else if next.isBehind || next.single then none
    else
      let (combinator, rest) ← readCombinator (!blanks.isEmpty) rest
      let more ← readChain readers count next rest
      some (parts ++ .combinator combinator :: more)

/-- One selector. -/
def readSelector (readers : Readers) (s : Standing) (ps : List Piece) : Option Selector :=
  readChain readers (ps.length + 1) s (ps.filter fun p => !p.isComment)

/-- One selector that may start with a combinator, and is then relative to the scope. -/
def readRelative (readers : Readers) (s : Standing) (ps : List Piece) : Option Selector :=
  match ps.dropWhile Piece.isGap with
  | [] => none
  | p :: rest =>
    match combinatorOf? p with
    | some c => (readSelector readers s rest).map fun parts => .scope :: .combinator c :: parts
    | none => readSelector readers s (p :: rest)

/-- A list of selectors. A forgiving one drops the members that are broken. -/
def readList (readers : Readers) (relative forgiving : Bool) (s : Standing) (ps : List Piece) :
    Option (List Selector) :=
  let members := splitAt (Piece.isToken .comma) ps
  let read := if relative then readRelative readers s else readSelector readers s
  if forgiving then some (members.filterMap read) else members.mapM read

/-- How pieces are read whose brackets nest less deep than `depth`. -/
def readersWithin : (depth : Nat) → Readers
  | 0 => ⟨fun _ _ => none, fun _ _ _ _ => none⟩
  | depth + 1 => ⟨readSelector (readersWithin depth), readList (readersWithin depth)⟩

/-- The selectors that pieces spell; inside another rule they may start with a combinator. -/
def selectors? (insideRule : Bool) (ps : List Piece) : Option (List Selector) :=
  (readersWithin (Piece.depthOf ps + 1)).list insideRule false {} ps

mutual

/-- Whether a part speaks of the rule around it. -/
def Part.mentionsNesting : Part → Bool
  | .nesting => true
  | .group _ members => anyMentionsNesting members
  | _ => false

def partsMentionNesting : List Part → Bool
  | [] => false
  | p :: rest => p.mentionsNesting || partsMentionNesting rest

def anyMentionsNesting : List (List Part) → Bool
  | [] => false
  | parts :: rest => partsMentionNesting parts || anyMentionsNesting rest

end

end Topiary.Sheet
