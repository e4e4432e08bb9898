import Topiary.Sheet.Color.Spaces

/-!
Mixtures of two colours. Each colour is taken into the space of the mixture, a number that one of
them lacks is taken from the other, the numbers are weighed by opacity and by share, and hues go the
way around the circle that is asked for.
-/

namespace Topiary.Sheet

/-- The spaces in which colours are mixed: two that go by the hues of the screen, and others. -/
inductive MixSpace where
  | hsl
  | hwb
  | plain (space : Space)
deriving Repr, DecidableEq

/-- The way between two hues. -/
inductive HuePath where
  | shorter
  | longer
  | increasing
  | decreasing
  | specified
deriving Repr, DecidableEq

def mixSpaces : List (String × MixSpace) :=
  [("srgb", .plain .srgb), ("srgb-linear", .plain .srgbLinear), ("lab", .plain .lab),
    ("oklab", .plain .oklab), ("xyz", .plain .xyzD65), ("xyz-d65", .plain .xyzD65),
    ("xyz-d50", .plain .xyzD50), ("hsl", .hsl), ("hwb", .hwb), ("lch", .plain .lch),
    ("oklch", .plain .oklch)]

def huePaths : List (String × HuePath) :=
  [("shorter", .shorter), ("longer", .longer), ("increasing", .increasing),
    ("decreasing", .decreasing), ("specified", .specified)]

/-- The coordinate that is a hue. -/
inductive HueAxis where
  | none
  | first
  | last
deriving Repr, DecidableEq

def MixSpace.hueAxis : MixSpace → HueAxis
  | .hsl => .first
  | .hwb => .first
  | .plain .lch => .last
  | .plain .oklch => .last
  | .plain _ => .none

/-! ## Colours in the space of a mixture -/

/-- Whether a number is as good as zero. -/
def isNothing (x : Float32) : Bool := x.abs < Float32.ofBits 0x34000000

/-- A lightness with two coordinates, which black does not have. -/
def boxPlace (t : Triple) (alpha : Float32) : Coordinates :=
  if isNothing t.x then ⟨some t.x, none, none, some alpha⟩
  else ⟨some t.x, some t.y, some t.z, some alpha⟩

/-- A lightness with a strength, which black does not have, and a hue, which greys do not have. -/
def circlePlace (t : Triple) (alpha : Float32) : Coordinates :=
  if isNothing t.x then ⟨some t.x, none, none, some alpha⟩
  else ⟨some t.x, some t.y, if isNothing t.y then none else some t.z, some alpha⟩

/-- Hue, saturation and lightness; black and white have no saturation, and greys no hue. -/
def hslPlace (rgb : Triple) (alpha : Float32) : Coordinates :=
  let (saturation, lightness) := saturationOfScreen rgb
  let s := saturation * 100
  let l := lightness * 100
  if isNothing l || isNothing (l - 100) then ⟨none, none, some l, some alpha⟩
  else ⟨if isNothing s then none else hueOfScreen rgb, some s, some l, some alpha⟩

/-- Hue, white and black; greys have no hue. -/
def hwbPlace (rgb : Triple) (alpha : Float32) : Coordinates :=
  let white := rgb.least * 100
  let black := (1 - rgb.most) * 100
  ⟨if isNothing (white + black - 100) then none else hueOfScreen rgb, some white, some black,
    some alpha⟩

/-- A colour of the screen in the space of a mixture, if it has a way there. -/
def MixSpace.ofScreen? (rgb : Triple) (alpha : Float32) : MixSpace → Option Coordinates
  | .hsl => some (hslPlace rgb alpha)
  | .hwb => some (hwbPlace rgb alpha)
  | .plain space =>
    let linear := rgb.map linearChannel
    let stimuli := stimuliOfLinear linear
    let whole := fun (t : Triple) => some ⟨some t.x, some t.y, some t.z, some alpha⟩
    match space with
    | .srgb => whole rgb
    | .srgbLinear => whole linear
    | .xyzD65 => whole stimuli
    | .xyzD50 => whole (warmOfStimuli stimuli)
    | .lab => some (boxPlace (labOfWarm (warmOfStimuli stimuli)) alpha)
    | .lch => some (circlePlace (circleOfBox (labOfWarm (warmOfStimuli stimuli))) alpha)
    | .oklab => some (boxPlace (oklabOfStimuli stimuli) alpha)
    | .oklch => some (circlePlace (circleOfBox (oklabOfStimuli stimuli)) alpha)
    | _ => none

/-- A colour in the space of a mixture, if it is one of the screen or of that space. -/
def MixSpace.place? (space : MixSpace) : Color → Option Coordinates
  | .screen r g b a =>
    let share := fun (n : Nat) => n.toFloat32 / 255
    space.ofScreen? ⟨share r, share g, share b⟩ (share a)
  | .wide own place => if space = .plain own then some place else none
  | _ => none

/-- The colour at a place in the space of a mixture. -/
def MixSpace.color (space : MixSpace) (place : Coordinates) : Color :=
  let screen := fun (rgb : Triple) =>
    Color.ofScreen ⟨some rgb.x, some rgb.y, some rgb.z, place.alpha⟩
  let x := place.x.getD 0
  let y := place.y.getD 0
  let z := place.z.getD 0
  match space with
  | .hsl => screen (screenOfHsl x (y / 100) (z / 100))
  | .hwb => screen (screenOfHwb x (y / 100) (z / 100))
  | .plain .srgb => Color.ofScreen place
  | .plain space => .wide space place

/-! ## Mixing -/

/-- A hue between 0 and 360 degrees. -/
def wholeTurn (hue : Float32) : Float32 :=
  let turned := hue + 360
  turned - (turned / 360).floor * 360

/-- Two hues, one of them a turn further where the way between them asks for it. -/
def HuePath.meet (path : HuePath) (a b : Float32) : Float32 × Float32 :=
  let a := if path = .specified then a else wholeTurn a
  let b := if path = .specified then b else wholeTurn b
  let way := b - a
  let far := (a + 360, b)
  let near := (a, b + 360)
  match path with
  | .shorter => if 180 < way then far else if way < -180 then near else (a, b)
  | .longer =>
    if 0 < way && way < 180 then far else if -180 < way && way < 0 then near else (a, b)
  | .increasing => if b < a then near else (a, b)
  | .decreasing => if a < b then far else (a, b)
  | .specified => (a, b)

/-- Two numbers by their shares. -/
def weigh (p q : Float32) : Option Float32 → Option Float32 → Option Float32
  | some a, some b => some (a * p + b * q)
  | _, _ => none

/-- A number of a mixture of two colours: a missing one is that of the other colour, and the
opacities weigh. -/
def mixNumber (p q alpha beta : Float32) (a b : Option Float32) : Option Float32 :=
  weigh p q ((a.or b).map (· * alpha)) ((b.or a).map (· * beta))

/-- A hue of a mixture, on which opacities have no weight. -/
def mixHue (path : HuePath) (p q : Float32) (a b : Option Float32) : Option Float32 :=
  match a.or b, b.or a with
  | some a, some b =>
    let (a, b) := path.meet a b
    some (a * p + b * q)
  | _, _ => none

/-- The mixture of two places by their shares, which need not make a whole: what lacks is taken
from the opacity. -/
def MixSpace.mix (space : MixSpace) (path : HuePath) (p : Float32) (a : Coordinates)
    (q : Float32) (b : Coordinates) : Coordinates :=
  let total := p + q
  let p := if total == 1 then p else p / total
  let q := if total == 1 then q else q / total
  let alpha := (a.alpha.or b.alpha).getD 1
  let beta := (b.alpha.or a.alpha).getD 1
  let opacity := alpha * p + beta * q
  let number := fun (x y : Option Float32) =>
    (mixNumber p q alpha beta x y).map fun z => if opacity == 0 then z else z / opacity
  let hue := mixHue path p q
  ⟨if space.hueAxis = .first then hue a.x b.x else number a.x b.x, number a.y b.y,
    if space.hueAxis = .last then hue a.z b.z else number a.z b.z,
    some (opacity * min total 1)⟩

/-- The shares of two colours of which one or both may be given; what is not given is the rest. -/
def sharesOf? (p q : Option Float32) : Option (Float32 × Float32) :=
  let shares := match p, q with
    | none, none => (0.5, 0.5)
    | some p, none => (p, 1 - p)
    | none, some q => (1 - q, q)
    | some p, some q => (p, q)
  if shares.1 + shares.2 == 0 then none else some shares

/-- The mixture of two colours, if both have a way into the space. -/
def MixSpace.mixed? (space : MixSpace) (path : HuePath) (p : Option Float32) (a : Color)
    (q : Option Float32) (b : Color) : Option Color := do
  let (p, q) ← sharesOf? p q
  some (space.color (space.mix path p (← space.place? a) q (← space.place? b)))

end Topiary.Sheet
