import Topiary.Sheet.AtRule

/-!
The declarations of a style rule. Anything broken takes back the declarations before it, and what
stands behind a rule inside the rule does not count.
-/

namespace Topiary.Sheet

structure Declaration where
  name : String
  value : List Piece
  important : Bool
deriving Repr

/-- Whether pieces behind a value say that a declaration is important, or nothing. -/
def readImportance (ps : List Piece) : Option Bool :=
  match withoutGaps ps with
  | [] => some false
  | [.token (.delim '!'), .token (.ident word)] =>
    if Text.lower word == "important" then some true else none
  | _ => none

/-- Whether pieces may be the value of a property. -/
def isValueOf (name : String) (value : List Piece) : Bool :=
  if Text.lower name == "all" then
    (onlyWord? value).any fun word => wideKeywords.contains (Text.lower word)
  else isValue value

/-- The declaration of a name with the pieces behind it, up to the end of the declaration. A block
between curly brackets belongs only to names of one's own, which start with two dashes. -/
def readDeclaration (name : String) (ps : List Piece) : Option Declaration :=
  match ps.dropWhile Piece.isGap with
  | .token .colon :: rest =>
    let (value, mark) := rest.span fun p =>
      !p.isToken (.delim '!') && (isDashed name || !p.isCurly)
    (readImportance mark).bind fun important =>
      if isValueOf name value then some ⟨name, value, important⟩ else none
  | _ => none

def isSemicolon (p : Piece) : Bool := p.isToken .semicolon

/-- What stands at the front of the block of a style rule. -/
inductive Item where
  | declaration (d : Declaration)
  /-- A rule inside the rule. -/
  | rule
  | broken

/-- A piece that ends a prelude. -/
def endsPrelude (p : Piece) : Bool := isSemicolon p || p.isCurly

/-- Whether a name of one's own with a colon behind it stands at the front. -/
def startsOwnName (ps : List Piece) : Bool :=
  match ps.dropWhile Piece.isGap with
  | .token (.ident name) :: rest =>
    isDashed name && (rest.dropWhile Piece.isGap).head?.any (Piece.isToken .colon)
  | _ => false

/-- A rule inside the rule, and what follows it. -/
def takeRule (ps : List Piece) : Item × List Piece :=
  if startsOwnName ps then (.broken, (ps.dropWhile fun p => !isSemicolon p).drop 1)
  else
    let (selector, rest) := ps.span fun p => !endsPrelude p
    let sound := rest.head?.any Piece.isCurly && (selectors? true selector).isSome
    (if sound then .rule else .broken, rest.drop 1)

/-- The item that starts with a piece, and what follows it. -/
def takeItem (p : Piece) (rest : List Piece) : Item × List Piece :=
  match p with
  | .token (.atWord name) =>
    let (prelude, after) := rest.span fun q => !endsPrelude q
    let block := after.head?.bind fun
      | .block .curly inside => some inside
      | _ => none
    (if isRuleWithin name prelude block then .rule else .broken, after.drop 1)
  | .token (.ident name) =>
    let (own, after) := rest.span fun q => !isSemicolon q
    match readDeclaration name own with
    | some d => (.declaration d, after.drop 1)
    | none => takeRule (p :: rest)
  | _ => takeRule (p :: rest)

/-- The declarations that count in a block, given those that count so far, the latest first, and
whether a rule stood inside; `count` bounds the number of steps. -/
def countedWithin (found : List Declaration) (behindRule : Bool) :
    (count : Nat) → List Piece → List Declaration
  | 0, _ => found
  | _ + 1, [] => found
  | count + 1, p :: rest =>
    if p.isGap || isSemicolon p then countedWithin found behindRule count rest
    else
      match takeItem p rest with
      | (.declaration d, after) =>
        countedWithin (if behindRule then found else d :: found) behindRule count after
      | (.rule, after) => countedWithin found true count after
      | (.broken, after) => countedWithin [] behindRule count after

/-- The text of the `content` declaration that wins: the last important one, or else the last
one. -/
def contentOf (inside : List Piece) : Option String :=
  let found := (countedWithin [] false inside.length inside).filter fun d => d.name == "content"
  ((found.find? Declaration.important).or found.head?).bind fun d => valueText? d.value

end Topiary.Sheet
