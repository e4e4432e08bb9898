import Topiary.Sheet.Token

/-!
Pieces of stylesheet text: tokens with the brackets matched. A closing bracket that matches nothing
is a token like others, and the end of the text closes what is open.
-/

namespace Topiary.Sheet

inductive Piece where
  | token (token : Token)
  | block (bracket : Bracket) (inside : List Piece)
  | call (name : String) (inside : List Piece)
deriving Repr, Inhabited

/-- Brackets that are open, and the pieces before them, the latest first. -/
structure Frame where
  name : Option String
  bracket : Bracket
  before : List Piece

/-- The piece that closing a bracket makes. -/
def Frame.close (f : Frame) (inside : List Piece) : Piece :=
  match f.name with
  | some name => .call name inside.reverse
  | none => .block f.bracket inside.reverse

/-- Match brackets; `inside` holds the pieces of the innermost open bracket, the latest first. -/
def nest (open_ : List Frame) (inside : List Piece) : List Token → List Piece
  | [] =>
    (open_.foldl (fun inside frame => frame.close inside :: frame.before) inside).reverse
  | .opening bracket :: rest => nest (⟨none, bracket, inside⟩ :: open_) [] rest
  | .function name :: rest => nest (⟨some name, .round, inside⟩ :: open_) [] rest
  | .closing bracket :: rest =>
    match open_ with
    | frame :: outer =>
      if frame.bracket = bracket then nest outer (frame.close inside :: frame.before) rest
      else nest open_ (.token (.closing bracket) :: inside) rest
    | [] => nest [] (.token (.closing bracket) :: inside) rest
  | token :: rest => nest open_ (.token token :: inside) rest

/-- The pieces of a text. -/
def pieces (text : String) : List Piece :=
  nest [] [] (tokens text)

namespace Piece

def isBlank : Piece → Bool
  | .token (.blank _) => true
  | _ => false

def isComment : Piece → Bool
  | .token (.comment _) => true
  | _ => false

/-- White space and comments. -/
def isGap (p : Piece) : Bool := p.isBlank || p.isComment

def isToken (t : Token) : Piece → Bool
  | .token u => u == t
  | _ => false

def isCurly : Piece → Bool
  | .block .curly _ => true
  | _ => false

mutual

/-- How deep brackets nest in a piece. -/
def depth : Piece → Nat
  | .token _ => 0
  | .block _ inside => depthOf inside + 1
  | .call _ inside => depthOf inside + 1

def depthOf : List Piece → Nat
  | [] => 0
  | p :: rest => max p.depth (depthOf rest)

end

end Piece

/-- Pieces without the gaps at both ends. -/
def trimGaps (ps : List Piece) : List Piece :=
  ((ps.dropWhile Piece.isGap).reverse.dropWhile Piece.isGap).reverse

/-- The parts between the pieces that separate. -/
def splitAt (separates : Piece → Bool) : List Piece → List (List Piece)
  | [] => [[]]
  | p :: rest =>
    match splitAt separates rest with
    | [] => [[p]]
    | part :: parts => if separates p then [] :: part :: parts else (p :: part) :: parts

end Topiary.Sheet
