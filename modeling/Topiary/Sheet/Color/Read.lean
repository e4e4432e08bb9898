import Topiary.Sheet.Color.Mix

/-!
Colours from pieces: words, digits, and functions that give amounts, mix colours or choose one by
the surroundings.
-/

namespace Topiary.Sheet

/-! ## Amounts -/

/-- What stands between the brackets of a colour: a number, a share of a whole, or nothing. -/
inductive Amount where
  | number (x : Float32)
  | share (x : Float32)
  | missing

/-- A percentage as a share of one. -/
def Piece.share? : Piece → Option Float32
  | .token (.percentage q) => some (Number.single q.negative ⟨q.digits, q.exponent - 2⟩)
  | _ => none

def Piece.amount? : Piece → Option Amount
  | .token (.number q) => some (.number q.single)
  | .token (.ident word) => if Text.lower word == "none" then some .missing else none
  | p => p.share?.map .share

/-- The number that an amount stands for, given the number that is the whole. -/
def Amount.value? (whole : Float32) : Amount → Option Float32
  | .number x => some x
  | .share x => some (x * whole)
  | .missing => none

/-- An angle in degrees, or nothing in its place. -/
def Piece.hue? : Piece → Option (Option Float32)
  | .token (.number q) => some (some q.single)
  | .token (.dimension q unit) =>
    match Text.lower unit with
    | "deg" => some (some q.single)
    | "grad" => some (some (q.single * 180 / 200))
    | "turn" => some (some (q.single * 360))
    | "rad" => some (some (degreesOfRadians q.single))
    | _ => none
  | p => p.amount?.bind fun
    | .missing => some none
    | _ => none

/-- The parts of a colour in the older form, which has commas. -/
def legacyParts? : List Piece → Option (List Piece × Option Piece)
  | [a, .token .comma, b, .token .comma, c] => some ([a, b, c], none)
  | [a, .token .comma, b, .token .comma, c, .token .comma, alpha] => some ([a, b, c], some alpha)
  | _ => none

/-- The parts of a colour in the newer form, which has a slash before its opacity. -/
def modernParts? : List Piece → Option (List Piece × Option Piece)
  | [a, b, c] => some ([a, b, c], none)
  | [a, b, c, .token (.delim '/'), alpha] => some ([a, b, c], some alpha)
  | _ => none

/-- The opacity, which is full where none is written. -/
def alpha? : Option Piece → Option (Option Float32)
  | none => some (some 1)
  | some p => p.amount?.map fun amount => (amount.value? 1).map (clamp 0 1)

/-! ## Colours by their amounts -/

def Amount.channel : Amount → Nat
  | .number x => Sheet.channel x
  | .share x => unitChannel (clamp 0 1 x)
  | .missing => 0

/-- Red, green and blue. In the older form all are numbers or all are shares. -/
def rgb? (ps : List Piece) : Option Color := do
  let (legacy, parts, alpha) ← match legacyParts? ps with
    | some (parts, alpha) => some (true, parts, alpha)
    | none => (modernParts? ps).map fun (parts, alpha) => (false, parts, alpha)
  let amounts ← parts.mapM Piece.amount?
  let alpha := unitChannel ((← alpha? alpha).getD 0)
  let numbers := amounts.all fun | .number _ => true | _ => false
  let shares := amounts.all fun | .share _ => true | _ => false
  if legacy && !numbers && !shares then none
  else
    match amounts.map Amount.channel with
    | [r, g, b] => some (.screen r g b alpha)
    | _ => none

/-- A hue with two amounts of a hundred each. -/
def hueParts? (mayBeLegacy : Bool) (ps : List Piece) :
    Option (Float32 × Float32 × Float32 × Option Float32) := do
  let (legacy, parts, alpha) ← match (if mayBeLegacy then legacyParts? ps else none) with
    | some (parts, alpha) => some (true, parts, alpha)
    | none => (modernParts? ps).map fun (parts, alpha) => (false, parts, alpha)
  match parts with
  | [hue, a, b] =>
    let values := [← hue.hue?, (← a.amount?).value? 100, (← b.amount?).value? 100]
    if legacy && values.any Option.isNone then none
    else
      match values.map fun x => x.getD 0 with
      | [hue, a, b] => some (hue, clamp 0 100 a / 100, clamp 0 100 b / 100, ← alpha? alpha)
      | _ => none
  | _ => none

/-- A colour of the screen by a hue with two amounts, given how these make a colour. -/
def byHue? (mayBeLegacy : Bool) (screen : Float32 → Float32 → Float32 → Triple)
    (ps : List Piece) : Option Color :=
  (hueParts? mayBeLegacy ps).map fun (hue, a, b, alpha) =>
    let rgb := screen hue a b
    Color.ofScreen ⟨some rgb.x, some rgb.y, some rgb.z, alpha⟩

/-- A number that is not below zero. -/
def atLeastZero (x : Float32) : Float32 := if x < 0 then 0 else x

/-- A lightness with two coordinates. -/
def lab? (space : Space) (whole reach : Float32) (ps : List Piece) : Option Color := do
  let (parts, alpha) ← modernParts? ps
  match ← parts.mapM Piece.amount? with
  | [l, a, b] =>
    some (.wide space ⟨(l.value? whole).map atLeastZero, a.value? reach, b.value? reach,
      ← alpha? alpha⟩)
  | _ => none

/-- A lightness with a strength and a hue. -/
def lch? (space : Space) (whole reach : Float32) (ps : List Piece) : Option Color := do
  match ← modernParts? ps with
  | ([l, c, hue], alpha) =>
    some (.wide space ⟨((← l.amount?).value? whole).map atLeastZero,
      ((← c.amount?).value? reach).map atLeastZero, ← hue.hue?, ← alpha? alpha⟩)
  | _ => none

/-- Spaces that have a name. -/
def spaceNames : List (String × Space) :=
  [("srgb", .srgb), ("srgb-linear", .srgbLinear), ("display-p3", .displayP3), ("a98-rgb", .a98),
    ("prophoto-rgb", .prophoto), ("rec2020", .rec2020), ("xyz-d50", .xyzD50), ("xyz", .xyzD65),
    ("xyz-d65", .xyzD65)]

/-- Three coordinates in a space that is named. -/
def inSpace? : List Piece → Option Color
  | .token (.ident space) :: ps => do
    let space ← spaceNames.lookup (Text.lower space)
    let (parts, alpha) ← modernParts? ps
    match (← parts.mapM Piece.amount?).map (Amount.value? 1) with
    | [x, y, z] => some (.wide space ⟨x, y, z, ← alpha? alpha⟩)
    | _ => none
  | _ => none

/-- The colour that a function gives by amounts. -/
def Color.ofAmounts? (name : String) (inside : List Piece) : Option Color :=
  let ps := inside.filter fun p => !p.isGap
  match Text.lower name with
  | "rgb" => rgb? ps
  | "rgba" => rgb? ps
  | "hsl" => byHue? true screenOfHsl ps
  | "hsla" => byHue? true screenOfHsl ps
  | "hwb" => byHue? false screenOfHwb ps
  | "lab" => lab? .lab 100 125 ps
  | "oklab" => lab? .oklab 1 0.4 ps
  | "lch" => lch? .lch 100 150 ps
  | "oklch" => lch? .oklch 1 0.4 ps
  | "color" => inSpace? ps
  | _ => none

/-! ## Colours made of colours -/

/-- Pieces, each with its colour if it has one. -/
abbrev Colors := List (Piece × Option Color)

/-- A colour with a share of it before or behind. -/
def sharedColor? : Colors → Option (Option Float32 × Color)
  | [(_, some color)] => some (none, color)
  | [(p, _), (_, some color)] => p.share?.map fun share => (some (clamp 0 1 share), color)
  | [(_, some color), (p, none)] => p.share?.map fun share => (some (clamp 0 1 share), color)
  | _ => none

/-- The way between hues, which is the shorter one where none is written. -/
def huePath? (space : MixSpace) : List Piece → Option HuePath
  | [] => some .shorter
  | [.token (.ident word), .token (.ident hue)] =>
    if space.hueAxis = .none || Text.lower hue != "hue" then none
    else huePaths.lookup (Text.lower word)
  | _ => none

/-- The parts between commas. -/
def commaParts (cs : Colors) : List Colors :=
  cs.splitBy fun a b => !a.1.isToken .comma && !b.1.isToken .comma

/-- A mixture: the space, and two colours with their shares. -/
def mixture? (cs : Colors) : Option Color :=
  match commaParts cs with
  | [(.token (.ident within), _) :: (.token (.ident space), _) :: path, [_], first, [_],
      second] => do
    let space ← mixSpaces.lookup (Text.lower space)
    let path ← huePath? space (path.map Prod.fst)
    let (p, a) ← sharedColor? first
    let (q, b) ← sharedColor? second
    if Text.lower within == "in" then space.mixed? path p a q b else none
  | _ => none

/-- The colour for light or for dark surroundings. -/
def Color.half (dark : Bool) : Color → Color
  | .lightDark a b => if dark then b else a
  | color => color

/-- The colour that a function with its arguments gives. -/
def Color.ofCall? (name : String) (inside : Colors) : Option Color :=
  let cs := inside.filter fun c => !c.1.isGap
  match Text.lower name, cs with
  | "color-mix", cs => mixture? cs
  | "light-dark", [(_, some light), (.token .comma, _), (_, some dark)] =>
    some (.lightDark (light.half false) (dark.half true))
  | _, _ => Color.ofAmounts? name (inside.map Prod.fst)

mutual

/-- The colour that a piece spells. -/
def Piece.color? : Piece → Option Color
  | .token (.hash name _) => Color.ofDigits? name
  | .token (.ident word) => Color.ofWord? word
  | .call name inside => Color.ofCall? name (eachColor inside)
  | _ => none

def eachColor : List Piece → Colors
  | [] => []
  | p :: rest => (p, p.color?) :: eachColor rest

end

end Topiary.Sheet
