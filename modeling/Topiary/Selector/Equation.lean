import Topiary.Selector.Token

/-!
Reading an equation. As a position test an equation is `a * n + b`; as a repeat directive
`:nth-last-child(-n+k)` asks for `k` copies. Both give up on numbers beyond 63 bits.
-/

namespace Topiary.Selector

/-- The largest magnitude a coefficient may have. -/
def maxCoefficient : Nat := 0x7fffffffffffffff

/-- The number that a run of ASCII digits writes. -/
def digitsValue (digits : List Char) : Nat :=
  digits.foldl (fun n c => n * 10 + (c.toNat - '0'.toNat)) 0

/-- A digit run with its sign; no digits stand for 1, and too large a number for nothing. -/
def signedValue (sign : Option Sign) (digits : String) : Option Int :=
  let magnitude := if digits.isEmpty then 1 else digitsValue digits.toList
  if maxCoefficient < magnitude then none
  else match sign with
    | some .minus => some (-(magnitude : Int))
    | _ => some magnitude

namespace Equation

/-- The scalar with its sign: a sign alone is one, and so is nothing at all. -/
def signedScalar (e : Equation) : Option Int :=
  signedValue e.scalarSign e.scalar

/-- The offset with its sign, if an offset was written. -/
def signedOffset (e : Equation) : Option Int :=
  match e.offsetSign with
  | none => none
  | some sign => signedValue (some sign) e.offset

/-- The `k` of `:nth-last-child(-n+k)`; no other shape is a repeat directive. -/
def multiplier (e : Equation) : Option Int :=
  if e.function = "nth-last-child" ∧ e.symbol = some "n" ∧ e.signedScalar = some (-1) then
    e.signedOffset
  else none

/-- The coefficients `(a, b)` of a position test, the words `odd` and `even` included. -/
def affine (e : Equation) : Option (Int × Int) :=
  let bare := e.scalarSign.isNone && e.scalar.isEmpty && e.offsetSign.isNone
  match e.symbol with
  | none =>
    if e.scalar.isEmpty || e.offsetSign.isSome then none
    else e.signedScalar.map fun b => (0, b)
  | some "n" =>
    match e.offsetSign with
    | none => e.signedScalar.map fun a => (a, 0)
    | some _ =>
      if e.offset.isEmpty then none
      else match e.signedScalar, e.signedOffset with
        | some a, some b => some (a, b)
        | _, _ => none
  | some "odd" => if bare then some (2, 1) else none
  | some "even" => if bare then some (2, 0) else none
  | some _ => none

end Equation

/-- The repeat directive that a token carries. -/
def Token.multiplier (t : Token) : Option Int :=
  match t.kind with
  | .equationCall e => e.multiplier
  | _ => none

end Topiary.Selector
