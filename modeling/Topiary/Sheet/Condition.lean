import Topiary.Sheet.Value

/-!
The conditions of at-rules: which queries about the medium, a container or what is supported are
well formed. A query about the medium or a container that is no condition may be anything that is a
value, but nothing may follow one that is.
-/

namespace Topiary.Sheet

/-- Pieces without gaps. -/
def withoutGaps (ps : List Piece) : List Piece :=
  ps.filter fun p => !p.isGap

/-- Whether a piece is a word, in any case. -/
def Piece.isWord (word : String) : Piece → Bool
  | .token (.ident name) => Text.lower name == word
  | _ => false

/-! ## What is supported -/

/-- What follows a test between brackets. -/
def takeSupportTest : List Piece → Option (List Piece)
  | .block .round inside :: rest => if Piece.areSound inside then some rest else none
  | .call _ inside :: rest => if Piece.areSound inside then some rest else none
  | _ => none

/-- What follows further tests, each behind the same word. -/
def skipSupportTests (word : String) : (count : Nat) → List Piece → List Piece
  | 0, ps => ps
  | count + 1, ps =>
    match ps with
    | p :: rest =>
      if p.isWord word then
        match takeSupportTest rest with
        | some rest => skipSupportTests word count rest
        | none => ps
      else ps
    | [] => []

/-- What follows a condition on what is supported; there are no gaps in it. -/
def takeSupports (ps : List Piece) : Option (List Piece) :=
  match ps with
  | [] => none
  | p :: rest =>
    if p.isWord "not" then takeSupportTest rest
    else
      (takeSupportTest ps).map fun after =>
        match after with
        | q :: _ =>
          skipSupportTests (if q.isWord "or" then "or" else "and") after.length after
        | [] => []

/-- Whether what was looked for was found and nothing is left. -/
def isAll (rest : Option (List Piece)) : Bool :=
  rest.any List.isEmpty

def isSupports (ps : List Piece) : Bool :=
  isAll (takeSupports (withoutGaps ps))

/-- Whether pieces are a declaration or a condition on what is supported. -/
def isSupportsOrDeclaration (ps : List Piece) : Bool :=
  match takeSupports (withoutGaps ps), withoutGaps ps with
  | some rest, _ => rest.isEmpty
  | none, .token (.ident _) :: .token .colon :: value => Piece.areSound value
  | none, _ => false

/-! ## Features -/

/-- What follows a comparison. -/
def takeComparison : List Piece → Option (List Piece)
  | .token (.delim '<') :: .token (.delim '=') :: rest => some rest
  | .token (.delim '>') :: .token (.delim '=') :: rest => some rest
  | .token (.delim '<') :: rest => some rest
  | .token (.delim '>') :: rest => some rest
  | .token (.delim '=') :: rest => some rest
  | _ => none

/-- What follows the value of a feature. -/
def takeFeatureValue : List Piece → Option (List Piece)
  | .token (.number _) :: .token (.delim '/') :: .token (.number _) :: rest => some rest
  | .token (.number _) :: rest => some rest
  | .token (.dimension _ _) :: rest => some rest
  | .token (.ident _) :: rest => some rest
  | .call _ inside :: rest => if isValue inside then some rest else none
  | _ => none

/-- Whether pieces name a feature, or compare it with one value or two. -/
def isFeature (ps : List Piece) : Bool :=
  let nameFirst := match ps with
    | [.token (.ident _)] => true
    | .token (.ident _) :: .token .colon :: rest => isAll (takeFeatureValue rest)
    | .token (.ident _) :: rest => isAll ((takeComparison rest).bind takeFeatureValue)
    | _ => false
  nameFirst ||
    match (takeFeatureValue ps).bind takeComparison with
    | some (.token (.ident _) :: rest) =>
      rest.isEmpty || isAll ((takeComparison rest).bind takeFeatureValue)
    | _ => false

/-! ## Queries -/

/-- How conditions are combined. -/
structure QueryForm where
  allowsOr : Bool
  allowsStyle : Bool

/-- What follows a test between brackets, given the test of what they hold. -/
def takeQueryTest (holds : List Piece → Bool) (form : QueryForm) :
    List Piece → Option (List Piece)
  | .block .round inside :: rest => if holds (withoutGaps inside) then some rest else none
  | .call name inside :: rest =>
    if form.allowsStyle && Text.lower name == "style" && isValue inside then some rest else none
  | _ => none

/-- What follows further tests, each behind the same word; one that is broken spoils them all. -/
def takeQueryTests (holds : List Piece → Bool) (form : QueryForm) (word : String) :
    (count : Nat) → List Piece → Option (List Piece)
  | 0, ps => some ps
  | count + 1, ps =>
    match ps with
    | p :: rest =>
      if p.isWord word then
        (takeQueryTest holds form rest).bind (takeQueryTests holds form word count)
      else some ps
    | [] => some []

/-- What follows a condition whose brackets nest less deep than `depth`. -/
def takeQuery : (depth : Nat) → QueryForm → List Piece → Option (List Piece)
  | 0, _, _ => none
  | depth + 1, form, ps =>
    let holds := fun inside =>
      match takeQuery depth { form with allowsOr := true } inside with
      | some rest => rest.isEmpty
      | none => isFeature inside
    match ps with
    | [] => none
    | p :: rest =>
      if p.isWord "not" then takeQueryTest holds form rest
      else
        (takeQueryTest holds form ps).bind fun after =>
          match after with
          | q :: _ =>
            if q.isWord "and" then takeQueryTests holds form "and" after.length after
            else if q.isWord "or" then
              if form.allowsOr then takeQueryTests holds form "or" after.length after else none
            else some after
          | [] => some []

/-- Whether pieces are a condition, or none but a value. -/
def isQuery (form : QueryForm) (ps : List Piece) : Bool :=
  match takeQuery (Piece.depthOf ps + 1) form ps with
  | some rest => rest.isEmpty
  | none => isValue ps

/-- What follows the name of a medium, which may have a word before it. -/
def takeMedium : List Piece → Option (List Piece)
  | .token (.ident word) :: rest =>
    if ["only", "not"].contains (Text.lower word) then
      match rest with
      | .token (.ident _) :: rest => some rest
      | _ => none
    else some rest
  | _ => none

/-- Whether pieces are one query about the medium. -/
def isMediumQuery (ps : List Piece) : Bool :=
  let ps := withoutGaps ps
  match takeMedium ps with
  | none => isQuery ⟨true, false⟩ ps
  | some [] => true
  | some (p :: rest) => p.isWord "and" && isQuery ⟨false, false⟩ rest

/-- Whether pieces are queries about the medium. -/
def areMediumQueries (ps : List Piece) : Bool :=
  (splitAt (Piece.isToken .comma) ps).all isMediumQuery

/-- Whether pieces are a query about a container, which may be named. -/
def isContainerQuery (ps : List Piece) : Bool :=
  let ps := withoutGaps ps
  let rest := match ps with
    | .token (.ident name) :: rest =>
      let reserved := ["none", "and", "not", "or"].contains (Text.lower name)
      if isCustomName name && !reserved then rest else ps
    | _ => ps
  isQuery ⟨true, true⟩ rest

end Topiary.Sheet
