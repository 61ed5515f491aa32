import SceneSelector.Decimal.Binary

/-!
# Shortest decimals

The decimal text of a binary number is the one with the fewest digits that
reads back as the same number, and of several the nearest to it; of two that
are equally near it is the greater. It is written without an exponent.

The reals that read back as `m * 2 ^ e` reach half way to its neighbours, and
include the two ends if `m` is even. With 1, 2, … 17 digits, the two decimals
next to the number are tried; 17 digits are always enough. All comparisons
are between whole numbers.
-/

namespace SceneSelector.Shortest

/-- A positive number and the ends of what reads back as it, in units of
`1 / den`. -/
structure Interval where
  low : Nat
  value : Nat
  high : Nat
  den : Nat
  withEnds : Bool

/-- The interval of `m * 2 ^ e`, counted in quarters of `2 ^ e`. Below the
least mantissa of 53 digits the neighbours are half as far apart. -/
def interval (m : Nat) (e : Int) : Interval :=
  let below := if m = twoTo 52 && -1074 < e then 1 else 2
  let (up, den) :=
    match e - 2 with
    | .ofNat q => (twoTo q, 1)
    | .negSucc q => (1, twoTo (q + 1))
  ⟨(4 * m - below) * up, 4 * m * up, (4 * m + 2) * up, den, m % 2 = 0⟩

/-- How many digits stand before the point, negative for zeros after it. -/
def order (num den : Nat) : Int :=
  -- the quotient has this many digits before the point, or one more
  let o := (Decimal.digitCount num : Int) - Decimal.digitCount den
  let reaches : Bool :=
    match o with
    | .ofNat o => den * tenTo o ≤ num
    | .negSucc o => den ≤ num * tenTo (o + 1)
  if reaches then o + 1 else o

/-- The decimal `c * 10 ^ k` and the interval in a common unit. -/
def common (i : Interval) (k : Int) (c : Nat) : Nat × Interval :=
  match k with
  | .ofNat k => (c * tenTo k * i.den, i)
  | .negSucc k =>
    let s := tenTo (k + 1)
    (c * i.den, { i with low := i.low * s, value := i.value * s, high := i.high * s })

/-- The decimal reads back as the number. -/
def readsBack (i : Interval) (k : Int) (c : Nat) : Bool :=
  let (n, i) := common i k c
  if i.withEnds then i.low ≤ n && n ≤ i.high else i.low < n && n < i.high

/-- How far the decimal is from the number. -/
def distance (i : Interval) (k : Int) (c : Nat) : Nat :=
  let (n, i) := common i k c
  (n - i.value) + (i.value - n)

/-- The multiple of `10 ^ k` at the number or next below it. -/
def below (i : Interval) : Int → Nat
  | .ofNat k => i.value / (i.den * tenTo k)
  | .negSucc k => i.value * tenTo (k + 1) / i.den

/-- The nearest decimal with steps of `10 ^ k` that reads back. -/
def onGrid? (i : Interval) (k : Int) : Option Decimal :=
  let c := below i k
  let candidates := [c, c + 1].filter (readsBack i k)
  match candidates with
  | [a, b] =>
    let a' := distance i k a
    let b' := distance i k b
    some ⟨if a' < b' then a else b, k⟩
  | [a] => some ⟨a, k⟩
  | _ => none

/-- The same decimal without a zero at the end. One can stand there only if
the next power of ten was nearest. -/
def withoutZero (d : Decimal) : Decimal :=
  if d.digits % 10 = 0 then ⟨d.digits / 10, d.exponent + 1⟩ else d

/-- The shortest decimal of `m * 2 ^ e`. -/
def decimal (m : Nat) (e : Int) : Decimal :=
  if m = 0 then ⟨0, 0⟩
  else
    let i := interval m e
    let o := order i.value i.den
    let shortest? := (List.range 17).findSome? fun (n : Nat) =>
      onGrid? i (o - (n + 1))
    withoutZero (shortest?.getD ⟨0, 0⟩)

/-- A decimal without an exponent. -/
def positional (d : Decimal) : String :=
  match d.exponent with
  | .ofNat e =>
    toString d.digits ++ String.ofList (List.replicate (if d.digits = 0 then 0 else e) '0')
  | .negSucc e =>
    let places := e + 1
    let digits := (toString d.digits).toList
    let digits := List.replicate (places + 1 - digits.length) '0' ++ digits
    let whole := digits.take (digits.length - places)
    String.ofList (whole ++ '.' :: digits.drop whole.length)

end SceneSelector.Shortest

namespace SceneSelector

/-- A number as a decimal text that has a point if the number is finite. -/
def Binary.display : Binary → String
  | finite negative m e =>
    let text := Shortest.positional (Shortest.decimal m e)
    (if negative then "-" else "") ++
      if text.toList.contains '.' then text else text ++ ".0"
  | infinite negative => if negative then "-inf" else "inf"
  | notANumber => "NaN"

end SceneSelector
