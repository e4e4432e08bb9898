import Topiary.Sheet.Color.Basic

/-!
How coordinates of colours turn into those of other spaces: hues of the screen, linear light, and
the two spaces that follow the eye, each as a box and as a circle around its axis of greys.
-/

namespace Topiary.Sheet

/-- Three coordinates. -/
structure Triple where
  x : Float32
  y : Float32
  z : Float32

/-- A linear map, row by row. -/
structure Grid where
  first : Triple
  second : Triple
  third : Triple

def Triple.map (f : Float32 → Float32) (t : Triple) : Triple := ⟨f t.x, f t.y, f t.z⟩

def Triple.dot (s t : Triple) : Float32 := s.x * t.x + s.y * t.y + s.z * t.z

def Grid.apply (m : Grid) (t : Triple) : Triple := ⟨t.dot m.first, t.dot m.second, t.dot m.third⟩

/-! ## Hues -/

/-- The strength of one channel of a hue, given a third of the circle as one. -/
def hueChannel (low high third : Float32) : Float32 :=
  let h := if third < 0 then third + 3 else if 3 < third then third - 3 else third
  if h * 2 < 1 then low + (high - low) * h * 2
  else if h * 2 < 3 then high
  else if h < 2 then low + (high - low) * (2 - h) * 2
  else low

/-- Red, green and blue of a hue in degrees with shares of saturation and lightness. -/
def screenOfHsl (hue saturation lightness : Float32) : Triple :=
  let turns := hue / 360
  let third := (turns - turns.floor) * 3
  let high :=
    if lightness ≤ 0.5 then lightness * (saturation + 1)
    else lightness + saturation - lightness * saturation
  let low := lightness * 2 - high
  ⟨hueChannel low high (third + 1), hueChannel low high third, hueChannel low high (third - 1)⟩

/-- Red, green and blue of a hue in degrees, mixed with shares of white and black. -/
def screenOfHwb (hue white black : Float32) : Triple :=
  if 1 ≤ white + black then
    let gray := white / (white + black)
    ⟨gray, gray, gray⟩
  else
    let rest := 1 - white - black
    (screenOfHsl hue 1 0.5).map fun x => x * rest + white

def Triple.most (t : Triple) : Float32 := max t.x (max t.y t.z)

def Triple.least (t : Triple) : Float32 := min t.x (min t.y t.z)

/-- The hue of red, green and blue in degrees; greys have none. -/
def hueOfScreen (rgb : Triple) : Option Float32 :=
  let spread := rgb.most - rgb.least
  if spread == 0 then none
  else
    some (60 *
      if rgb.most == rgb.x then (rgb.y - rgb.z) / spread + (if rgb.y < rgb.z then 6 else 0)
      else if rgb.most == rgb.y then (rgb.z - rgb.x) / spread + 2
      else (rgb.x - rgb.y) / spread + 4)

/-- The share of saturation and that of lightness of red, green and blue. -/
def saturationOfScreen (rgb : Triple) : Float32 × Float32 :=
  let lightness := (rgb.least + rgb.most) / 2
  let reach := min lightness (1 - lightness)
  (if reach == 0 || rgb.most == rgb.least then 0 else (rgb.most - lightness) / reach, lightness)

/-! ## Linear light -/

/-- A channel of a screen as a share of light. -/
def linearChannel (x : Float32) : Float32 :=
  if x.abs ≤ 0.04045 then x / 12.92
  else
    let light := ((x.abs + 0.055) / 1.055).pow 2.4
    if x < 0 then -light else light

/-- The three stimuli of light under a white of 6500 kelvin. -/
def stimuliOfLinear : Triple → Triple :=
  Grid.apply
    ⟨⟨0.41239079926595934, 0.357584339383878, 0.1804807884018343⟩,
      ⟨0.21263900587151027, 0.715168678767756, 0.07219231536073371⟩,
      ⟨0.01933081871559182, 0.11919477979462598, 0.9505321522496607⟩⟩

/-- The same stimuli under a white of 5000 kelvin. -/
def warmOfStimuli : Triple → Triple :=
  Grid.apply
    ⟨⟨1.0479298208405488, 0.022946793341019088, -0.05019222954313557⟩,
      ⟨0.029627815688159344, 0.990434484573249, -0.01707382502938514⟩,
      ⟨-0.009243058152591178, 0.015055144896577895, 0.7518742899580008⟩⟩

/-! ## Spaces that follow the eye -/

/-- What the eye makes of a share of a stimulus. -/
def labCurve (x : Float32) : Float32 :=
  if 216 / 24389 < x then x.cbrt else (24389 / 27 * x + 16) / 116

/-- Lightness and two coordinates from the stimuli under a white of 5000 kelvin. -/
def labOfWarm (t : Triple) : Triple :=
  let f := Triple.map labCurve
    ⟨t.x / (0.3457 / 0.3585), t.y, t.z / ((1 - 0.3457 - 0.3585) / 0.3585)⟩
  ⟨116 * f.y - 16, 500 * (f.x - f.y), 200 * (f.y - f.z)⟩

/-- Lightness and two coordinates from the answers of the three kinds of cones. -/
def oklabOfStimuli (t : Triple) : Triple :=
  let cones := Grid.apply
    ⟨⟨0.8190224432164319, 0.3619062562801221, -0.12887378261216414⟩,
      ⟨0.0329836671980271, 0.9292868468965546, 0.03614466816999844⟩,
      ⟨0.048177199566046255, 0.26423952494422764, 0.6335478258136937⟩⟩ t
  Grid.apply
    ⟨⟨0.2104542553, 0.7936177850, -0.0040720468⟩,
      ⟨1.9779984951, -2.4285922050, 0.4505937099⟩,
      ⟨0.0259040371, 0.7827717662, -0.8086757660⟩⟩ (cones.map Float32.cbrt)

/-- Lightness, strength and hue in degrees from lightness and two coordinates. -/
def circleOfBox (t : Triple) : Triple :=
  let hue := t.z.atan2 t.y * 180 / Float32.ofBits 0x40490fdb
  ⟨t.x, (t.y * t.y + t.z * t.z).sqrt, if hue < 0 then hue + 360 else hue⟩

end Topiary.Sheet
