import Topiary.Sheet.Color.Read

/-!
The values of declarations. A value is kept as it is written, white space and comments included;
what is settled in it are numbers, colours, addresses, variables and settings of the surroundings. A
value that holds something broken is none.
-/

namespace Topiary.Sheet

/-- Pieces, each with its text if it has one. -/
abbrev Texts := List (Piece × Option String)

/-- A list of two or more without the white space at its ends. -/
def trimEnds {α : Type} (isBlank : α → Bool) (xs : List α) : List α :=
  match xs with
  | [_] => xs
  | _ =>
    let xs := match xs with
      | x :: rest => if isBlank x then rest else x :: rest
      | [] => []
    if xs.getLast?.any isBlank then xs.dropLast else xs

namespace Texts

/-- The texts of all pieces one after another. -/
def join (ts : Texts) : Option String :=
  (ts.mapM Prod.snd).map String.join

/-- The text of pieces without the white space at their ends. -/
def trimmed (ts : Texts) : Option String :=
  join (trimEnds (fun t => t.1.isBlank) ts)

def skipGaps (ts : Texts) : Texts :=
  ts.dropWhile fun t => t.1.isGap

/-- What stands behind a comma, if there is one, and whether all is well without one. -/
def fallback? (ts : Texts) : Option String :=
  match Texts.skipGaps ts with
  | [] => some ""
  | (.token .comma, _) :: rest => (trimmed rest).map (", " ++ ·)
  | _ => none

end Texts

/-- Words that stand for values of any property. -/
def wideKeywords : List String := ["initial", "inherit", "unset", "revert", "revert-layer"]

/-- Whether a word may be a name that an author chooses. -/
def isCustomName (name : String) : Bool :=
  !(("default" :: wideKeywords).contains (Text.lower name))

def isDashed (name : String) : Bool := ['-', '-'].isPrefixOf name.toList

/-- Settings of the surroundings that are known. -/
def environmentNames : List String :=
  ["top", "right", "bottom", "left"].map ("safe-area-inset-" ++ ·) ++
    ["width", "height", "top", "right", "bottom", "left"].map ("viewport-segment-" ++ ·)

/-- A variable, which has a name with two dashes and maybe a value in its place. -/
def variableText? (ts : Texts) : Option String :=
  match Texts.skipGaps ts with
  | (.token (.ident name), _) :: rest =>
    if isDashed name then
      (Texts.fallback? rest).map fun fallback => "var(" ++ identText name ++ fallback ++ ")"
    else none
  | _ => none

/-- The whole numbers at the front, and what follows them. -/
def takeIndices : Texts → List String × Texts
  | [] => ([], [])
  | (p, text) :: rest =>
    match p with
    | .token (.number q) =>
      match q.whole? with
      | some index =>
        let (indices, after) := takeIndices rest
        (toString index :: indices, after)
      | none => ([], (p, text) :: rest)
    | _ =>
      if p.isGap then takeIndices rest else ([], (p, text) :: rest)

/-- A setting of the surroundings, maybe with indices and with a value in its place. -/
def environmentText? (ts : Texts) : Option String :=
  match Texts.skipGaps ts with
  | (.token (.ident name), _) :: rest =>
    if isCustomName name then
      let name := if environmentNames.contains (Text.lower name) then Text.lower name else name
      let (indices, rest) := takeIndices rest
      (Texts.fallback? rest).map fun fallback =>
        "env(" ++ String.join (identText name :: indices.map (" " ++ ·)) ++ fallback ++ ")"
    else none
  | _ => none

/-- A colour by its amounts with an opacity that is not settled yet. -/
def openColorText? (name : String) (ts : Texts) : Option String :=
  let (front, back) := ts.span fun t => !t.1.isToken (.delim '/')
  let color := Color.ofAmounts? name (front.map Prod.fst)
  let amounts := (front.filter fun t => !t.1.isGap).map fun t => t.1.amount?
  match back, color, Text.lower name, amounts with
  | _ :: alpha, some (.screen r g b _), "rgb", [_, _, _] =>
    (Texts.trimmed alpha).map fun alpha =>
      "rgb(" ++ " ".intercalate ([r, g, b].map toString) ++ " / " ++ alpha ++ ")"
  | _ :: alpha, some _, "hsl", [_, some s, some l] =>
    let hue := (front.findSome? fun t => t.1.hue?).join.getD 0
    let percent := fun (a : Amount) => Number.numberText ((a.value? 100).getD 0) ++ "%"
    (Texts.trimmed alpha).map fun alpha =>
      "hsl(" ++ " ".intercalate [Number.numberText hue, percent s, percent l] ++ " / " ++
        alpha ++ ")"
  | _, _, _, _ => none

/-- Two values, one for light and one for dark surroundings. -/
def lightDarkText? (name : String) (ts : Texts) : Option String :=
  if Text.lower name == "light-dark" then
    let (light, back) := ts.span fun t => !t.1.isToken .comma
    match back with
    | _ :: dark => do
      some ("light-dark(" ++ (← Texts.trimmed light) ++ ", " ++ (← Texts.trimmed dark) ++ ")")
    | [] => none
  else none

/-- The text of a function, given the texts of its arguments. -/
def callText? (name : String) (ts : Texts) : Option String :=
  let inside := ts.map Prod.fst
  match Color.ofCall? name (eachColor inside) with
  | some color => some color.text
  | none =>
    match (openColorText? name ts).or (lightDarkText? name ts), name with
    | some text, _ => some text
    | none, "url" => (onlyString? inside).map urlText
    | none, "var" => variableText? ts
    | none, "env" => environmentText? ts
    | none, _ => (Texts.trimmed ts).map fun arguments => identText name ++ "(" ++ arguments ++ ")"

/-- The text of a token in a value. -/
def Token.valueText? : Token → Option String
  | .broken => none
  | .closing _ => none
  | .number value => some (Number.numberText value.single)
  | .dimension value unit => some (measureUnitText value unit)
  | .hash name _ => some (((Color.ofDigits? name).map Color.text).getD ("#" ++ nameText name))
  | .url content => some (urlText content)
  | token => some token.text

mutual

/-- The text of a piece in a value. -/
def Piece.valueText? : Piece → Option String
  | .token t => t.valueText?
  | .block bracket inside =>
    (Texts.join (eachText inside)).map fun text => bracket.ends.1 ++ text ++ bracket.ends.2
  | .call name inside => callText? name (eachText inside)

def eachText : List Piece → Texts
  | [] => []
  | p :: rest => (p, p.valueText?) :: eachText rest

end

/-- The text of a value, unless something in it is broken or its brackets nest too deep. -/
def valueText? (ps : List Piece) : Option String :=
  if Piece.depthOf ps ≤ deepest then Texts.trimmed (eachText ps) else none

/-- Whether pieces are a value. -/
def isValue (ps : List Piece) : Bool := (valueText? ps).isSome

end Topiary.Sheet
