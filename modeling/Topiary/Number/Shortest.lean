/-!
The shortest decimal that reads back as a given binary fraction. A finite double is `m * 2 ^ q`; the
reals that round to it form an interval around it, whose ends belong to it when `m` is even. Of the
decimal grids with 1, 2, 3, … digits the first that has a point in the interval gives the digits,
and of two such points the nearer one.
-/

namespace Topiary.Number

/-- A positive real as a quotient of two natural numbers. -/
structure Ratio where
  num : Nat
  den : Nat
deriving Repr, DecidableEq

namespace Ratio

/-- `a / b` times `10 ^ e`. -/
def scale (r : Ratio) (e : Int) : Ratio :=
  if 0 ≤ e then ⟨r.num * Nat.pow 10 e.toNat, r.den⟩ else ⟨r.num, r.den * Nat.pow 10 (-e).toNat⟩

/-- `m * 2 ^ q`. -/
def ofBinary (m : Nat) (q : Int) : Ratio :=
  if 0 ≤ q then ⟨m * Nat.pow 2 q.toNat, 1⟩ else ⟨m, Nat.pow 2 (-q).toNat⟩

def lt (a b : Ratio) : Bool := a.num * b.den < b.num * a.den

def le (a b : Ratio) : Bool := a.num * b.den ≤ b.num * a.den

end Ratio

/-- A positive double as `m * 2 ^ q`, with whether the gap below it is half the gap above. -/
structure Binary where
  m : Nat
  q : Int
  narrowBelow : Bool
deriving Repr, DecidableEq

/-- The parts of a finite double other than its sign; `m = 0` is zero. -/
def Binary.ofBits (bits : UInt64) : Binary :=
  let fraction : Nat := bits.toNat % Nat.pow 2 52
  let exponent : Nat := bits.toNat / Nat.pow 2 52 % Nat.pow 2 11
  if exponent = 0 then ⟨fraction, -1074, false⟩
  else ⟨Nat.pow 2 52 + fraction, (exponent : Int) - 1075, fraction == 0 && exponent != 1⟩

/-- The reals that round to a positive double. -/
structure Interval where
  low : Ratio
  high : Ratio
  closed : Bool

/-- Half a step below and above, the step below a power of two being half as wide. -/
def Binary.interval (b : Binary) : Interval where
  low :=
    if b.narrowBelow then .ofBinary (4 * b.m - 1) (b.q - 2) else .ofBinary (2 * b.m - 1) (b.q - 1)
  high := .ofBinary (2 * b.m + 1) (b.q - 1)
  closed := b.m % 2 == 0

def Interval.contains (i : Interval) (r : Ratio) : Bool :=
  if i.closed then i.low.le r && r.le i.high else i.low.lt r && r.lt i.high

/-- A decimal `digits * 10 ^ exponent`. -/
structure Decimal where
  digits : Nat
  exponent : Int
deriving Repr, DecidableEq

def Decimal.toRatio (d : Decimal) : Ratio :=
  Ratio.scale ⟨d.digits, 1⟩ d.exponent

/-- The exponent `e` with `10 ^ e ≤ r < 10 ^ (e + 1)`, for a positive `r`. -/
def Ratio.magnitude (r : Ratio) : Int :=
  let whole := r.num / r.den
  if 0 < whole then ((Nat.toDigits 10 whole).length : Int) - 1
  else
    let down := (List.range 400).find? fun k => r.den ≤ r.num * Nat.pow 10 (k + 1)
    Int.negOfNat (down.getD 400 + 1)

/-- The distance of two ratios, as a ratio. -/
def Ratio.distance (a b : Ratio) : Ratio :=
  ⟨if a.num * b.den ≤ b.num * a.den then b.num * a.den - a.num * b.den
    else a.num * b.den - b.num * a.den, a.den * b.den⟩

/-- The point of the grid with step `10 ^ exponent` that lies in the interval next to `value`. -/
def gridPoint (value : Ratio) (interval : Interval) (exponent : Int) : Option Decimal :=
  let steps := value.scale (-exponent)
  let below : Decimal := ⟨steps.num / steps.den, exponent⟩
  let above : Decimal := ⟨steps.num / steps.den + 1, exponent⟩
  match interval.contains below.toRatio, interval.contains above.toRatio with
  | true, true =>
    let down := value.distance below.toRatio
    let up := value.distance above.toRatio
    if down.lt up || (down.le up && below.digits % 2 == 0) then some below else some above
  | true, false => some below
  | false, true => some above
  | false, false => none

/-- The shortest decimal in a positive double's interval; seventeen digits always suffice. -/
def shortest (b : Binary) : Decimal :=
  let value := Ratio.ofBinary b.m b.q
  let top := value.magnitude
  ((List.range 17).findSome? fun (n : Nat) => gridPoint value b.interval (top - n)).getD ⟨b.m, b.q⟩

/-- The written digits of a decimal, without trailing zeros, and the exponent of the first one. -/
def Decimal.scientific (d : Decimal) : List Char × Int :=
  let all := Nat.toDigits 10 d.digits
  let kept := (all.reverse.dropWhile (· == '0')).reverse
  (kept, d.exponent + (all.length - 1 : Nat))

/-- How a format writes a finite double: from which exponents on it stops writing all places. -/
structure Layout where
  leastPlain : Int
  mostPlain : Int
deriving Repr, DecidableEq

/-- The decimal with a point in it and at least one digit on both sides of the point. -/
def plainText (digits : List Char) (exponent : Int) : String :=
  if exponent < 0 then
    "0." ++ String.ofList (List.replicate ((-exponent).toNat - 1) '0' ++ digits)
  else
    let whole := exponent.toNat + 1
    let fraction := digits.drop whole
    String.ofList (digits.take whole ++ List.replicate (whole - digits.length) '0') ++ "." ++
      (if fraction.isEmpty then "0" else String.ofList fraction)

/-- One digit, the others after a point, and a signed exponent. -/
def scientificText (digits : List Char) (exponent : Int) : String :=
  let point := if 1 < digits.length then "." ++ String.ofList digits.tail else ""
  let sign := if exponent < 0 then "-" else "+"
  String.ofList (digits.take 1) ++ point ++ "e" ++ sign ++ toString exponent.natAbs

/-- A finite double as text that reads back as the same double. -/
def Layout.write (layout : Layout) (x : Float) : String :=
  let sign := if x.toBits.toNat / Nat.pow 2 63 = 1 then "-" else ""
  let binary := Binary.ofBits x.toBits
  if binary.m = 0 then sign ++ "0.0"
  else
    let (digits, exponent) := (shortest binary).scientific
    sign ++
      (if layout.leastPlain ≤ exponent && exponent ≤ layout.mostPlain then plainText digits exponent
        else scientificText digits exponent)

end Topiary.Number
