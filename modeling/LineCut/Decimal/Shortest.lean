/-
The shortest decimal that reads back as a given binary fraction.

A double is `mantissa * 2 ^ exponent`.  Every real close enough to it rounds to it, and those
reals form an interval around it.  The decimals with a fixed number of digits form a grid, and if
the grid has a point in the interval then one of the two grid points around the value is in it.
So the search goes through the grids from coarse to fine, looks at those two points only, and
stops at the first that rounds back.  Seventeen digits always suffice.

All of it is arithmetic on natural numbers: a value is a fraction, and comparing it with a grid
point is one multiplication on each side.
-/

namespace LineCut.Decimal

/-- A positive double: `mantissa * 2 ^ exponent`.  `coarse` says that the next double below is
only half as far away as the next one above. -/
structure Binary where
  mantissa : Nat
  exponent : Int
  coarse : Bool
  deriving Repr

/-- A decimal: `digits * 10 ^ exponent`. -/
structure Digits where
  digits : Nat
  exponent : Int
  deriving DecidableEq, Repr

/-- The parts of a finite double that is not zero, its sign aside.  The lowest fifty-two of its
bits are the fraction and the eleven above them the scale. -/
def Binary.ofFloat (x : Float) : Binary :=
  let bits : Nat := x.toBits.toNat
  let fraction : Nat := bits % 0x10000000000000
  let scale : Nat := bits / 0x10000000000000 % 0x800
  if scale == 0 then ⟨fraction, -1074, false⟩
  else ⟨fraction + 0x10000000000000, (scale : Int) - 1075, fraction == 0 && 1 < scale⟩

/-- A power as a fraction of two natural numbers. -/
def power (base : Nat) (exponent : Int) : Nat × Nat :=
  if 0 ≤ exponent then (Nat.pow base exponent.toNat, 1) else (1, Nat.pow base (-exponent).toNat)

/-- Four times the value over four times the denominator that its exponent needs; with the
numerators, on the same denominator, of the two ends of the interval that rounds to it. -/
def Binary.fractions (x : Binary) : Nat × Nat × Nat × Nat :=
  let (up, down) := power 2 x.exponent
  let low := if x.coarse then 4 * x.mantissa - 1 else 4 * x.mantissa - 2
  (4 * x.mantissa * up, 4 * down, low * up, (4 * x.mantissa + 2) * up)

/-- Whether a decimal lies in the interval that rounds to the value; the ends belong to it when
the mantissa is even. -/
def roundsTo (x : Binary) (d : Digits) : Bool :=
  let (_, den, low, high) := x.fractions
  let (up, down) := power 10 d.exponent
  let point := d.digits * up * den
  if x.mantissa % 2 == 0 then low * down ≤ point && point ≤ high * down
  else low * down < point && point < high * down

/-- The greatest exponent of ten that is at most the value. -/
def leading (x : Binary) : Int :=
  let (num, den, _, _) := x.fractions
  if den ≤ num then ((Nat.toDigits 10 (num / den)).length : Int) - 1
  else
    let digits := (Nat.toDigits 10 (den / num)).length
    if num * Nat.pow 10 (digits - 1) == den then 1 - (digits : Int) else -(digits : Int)

/-- The grid points with `count` digits on both sides of the value, the nearer one first. -/
def neighbours (x : Binary) (count : Nat) : List Digits :=
  let exponent := leading x - count + 1
  let (num, den, _, _) := x.fractions
  let (up, down) := power 10 exponent
  let below := num * down / (den * up)
  let rest := num * down - below * (den * up)
  let nearBelow := 2 * rest < den * up || (2 * rest == den * up && below % 2 == 0)
  if nearBelow then [⟨below, exponent⟩, ⟨below + 1, exponent⟩]
  else [⟨below + 1, exponent⟩, ⟨below, exponent⟩]

/-- A decimal without the zeros at its end. -/
def Digits.strip : Nat → Digits → Digits
  | 0, d => d
  | fuel + 1, d =>
    if d.digits % 10 == 0 && d.digits != 0 then strip fuel ⟨d.digits / 10, d.exponent + 1⟩ else d

/-- The shortest decimal that rounds to the value, and the nearest among those. -/
def shortest (x : Binary) : Digits :=
  let found := (List.range 17).findSome? fun i => (neighbours x (i + 1)).find? (roundsTo x)
  Digits.strip 20 (found.getD ⟨0, 0⟩)

/-- How a positive decimal is written.  It is positional from `1e-5` up to below `1e16`, with at
least one digit on either side of the point, and otherwise a number from one to ten with a signed
exponent, where a single digit stands without a point. -/
def Digits.text (d : Digits) : String :=
  let ds := Nat.toDigits 10 d.digits
  let top := (ds.length : Int) + d.exponent
  let zeros := fun (n : Int) => List.replicate n.toNat '0'
  if 0 ≤ d.exponent && top ≤ 16 then String.ofList (ds ++ zeros d.exponent ++ ['.', '0'])
  else if 0 < top && top ≤ 16 then
    String.ofList (ds.take top.toNat ++ '.' :: ds.drop top.toNat)
  else if -5 < top && top ≤ 0 then String.ofList ('0' :: '.' :: (zeros (-top) ++ ds))
  else
    let exponent := (if 1 ≤ top then "e+" else "e-") ++ toString (top - 1).natAbs
    match ds with
    | [digit] => String.ofList [digit] ++ exponent
    | digit :: rest => String.ofList (digit :: '.' :: rest) ++ exponent
    | [] => exponent

/-- How a finite double is written. -/
def text (x : Float) : String :=
  let minus := if x.toBits.toNat / 0x8000000000000000 == 1 then "-" else ""
  if x == 0 then minus ++ "0.0" else minus ++ (shortest (Binary.ofFloat x)).text

end LineCut.Decimal
