import SceneSelector.Decimal

/-!
# Binary numbers of 64 bits

The numbers that 64 bits can hold in the usual binary format: 53 digits times
a power of two, infinities, and what is not a number. A decimal becomes the
nearest of them, the even one of two that are equally near.
-/

namespace SceneSelector

inductive Binary where
  /-- The number `mantissa * 2 ^ exponent`, or its negative. The mantissa has
  53 digits, or fewer at the least exponent. -/
  | finite (negative : Bool) (mantissa : Nat) (exponent : Int)
  | infinite (negative : Bool)
  | notANumber
deriving DecidableEq, Repr

namespace Binary

/-- The whole number nearest to a quotient, the even one on a tie. -/
def nearest (num den : Nat) : Nat :=
  let q := num / den
  let r := num % den
  if 2 * r < den then q
  else if den < 2 * r then q + 1
  else if q % 2 = 0 then q
  else q + 1

/-- `num / (den * 2 ^ e)` as a quotient of whole numbers. -/
def scaled (num den : Nat) : Int → Nat × Nat
  | .ofNat e => (num, den * twoTo e)
  | .negSucc e => (num * twoTo (e + 1), den)

/-- The exponent that leaves 53 digits before the point of `num / den`, or
the least one that there is. -/
def exponentOf (num den : Nat) : Int :=
  -- lengths in binary digits give this exponent or the one above it
  let e : Int := (num.log2 : Int) - den.log2 - 52
  let (n, d) := scaled num den e
  max (if twoTo 52 * d ≤ n then e else e - 1) (-1074)

/-- The number nearest to a quotient that is not zero. -/
def ofQuotient (negative : Bool) (num den : Nat) : Binary :=
  let e := exponentOf num den
  let (n, d) := scaled num den e
  let m := nearest n d
  -- rounding up may have carried into one more digit
  let (m, e) := if m = twoTo 53 then (twoTo 52, e + 1) else (m, e)
  if 971 < e then infinite negative else finite negative m e

/-- The number nearest to a decimal. Far beyond both ends of the format, its
order of magnitude decides. -/
def ofDecimal (negative : Bool) (d : Decimal) : Binary :=
  let order := (Decimal.digitCount d.digits : Int) + d.exponent
  if d.digits = 0 || order < -330 then finite negative 0 (-1074)
  else if 310 < order then infinite negative
  else
    match d.exponent with
    | .ofNat e => ofQuotient negative (d.digits * tenTo e) 1
    | .negSucc e => ofQuotient negative d.digits (tenTo (e + 1))

/-- The number is zero, of either sign. -/
def isZero : Binary → Bool
  | finite _ m _ => m = 0
  | infinite _ | notANumber => false

/-- The nearest whole number from zero to `limit`, a half away from zero. -/
def toNatUpTo (limit : Nat) : Binary → Nat
  | finite true _ _ => 0
  | finite false m (.ofNat e) => min limit (m * twoTo e)
  | finite false m (.negSucc e) =>
    min limit ((2 * m + twoTo (e + 1)) / twoTo (e + 2))
  | infinite true => 0
  | infinite false => limit
  | notANumber => 0

end Binary

end SceneSelector
