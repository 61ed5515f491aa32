import SceneSelector.Decimal.Binary

/-!
# TOML: numbers

Whole numbers of 64 bits with a sign, and binary fractions of 64 bits. Digits
may be grouped by single underscores. A whole number may also be written in
base sixteen, eight or two, without a sign; a decimal one has no needless
zeros in front.
-/

namespace SceneSelector.Toml

/-- Digits without the underscores between them. An underscore has a digit on
either side. -/
def ungroup? (isDigit : Char → Bool) : List Char → Option (List Char)
  | [] => none
  | [c] => if isDigit c then some [c] else none
  | c :: '_' :: rest =>
    if isDigit c then (ungroup? isDigit rest).map (c :: ·) else none
  | c :: rest =>
    if isDigit c then (ungroup? isDigit rest).map (c :: ·) else none

def isHexDigit (c : Char) : Bool :=
  c.isDigit || ('a' ≤ c && c ≤ 'f') || ('A' ≤ c && c ≤ 'F')

/-- The value of a digit of any base. -/
def digitValue (c : Char) : Nat :=
  if c.isDigit then c.toNat - '0'.toNat
  else if 'a' ≤ c then c.toNat - 'a'.toNat + 10
  else c.toNat - 'A'.toNat + 10

/-- The value of grouped digits in a base. -/
def inBase? (base : Nat) (digits : List Char) : Option Int := do
  let isDigit (c : Char) := isHexDigit c && digitValue c < base
  let digits ← ungroup? isDigit digits
  return (digits.foldl (fun n c => base * n + digitValue c) 0 : Nat)

/-- Digits that a decimal number may begin with: no zero before another. -/
def hasNoPadding : List Char → Bool
  | '0' :: _ :: _ => false
  | _ => true

/-- The decimal whole number with a sign that a word is. -/
def decimalWhole? (word : List Char) : Option Int := do
  let (sign, digits) := Decimal.splitSign word
  let digits ← ungroup? Char.isDigit digits
  if hasNoPadding digits then some (sign * Decimal.ofDigits digits) else none

/-- The whole number that a word is. -/
def whole? (word : List Char) : Option Int := do
  let n ← match word with
    | '0' :: 'x' :: digits => inBase? 16 digits
    | '0' :: 'o' :: digits => inBase? 8 digits
    | '0' :: 'b' :: digits => inBase? 2 digits
    | _ => decimalWhole? word
  if -twoTo 63 ≤ n && n < twoTo 63 then some n else none

/-- The exponent after `e`. -/
def exponent? (word : List Char) : Option Int := do
  let (sign, digits) := Decimal.splitSign word
  let digits ← ungroup? Char.isDigit digits
  return sign * Decimal.ofDigits digits

/-- The decimal that digits with a point or an exponent are. -/
def decimal? (word : List Char) : Option Decimal := do
  let isMark (c : Char) := c = 'e' || c = 'E'
  let (mantissa, e) ← match word.dropWhile (!isMark ·) with
    | _ :: exponent => do
      pure (word.takeWhile (!isMark ·), ← exponent? exponent)
    | [] => if word.contains '.' then some (word, 0) else none
  let whole ← ungroup? Char.isDigit (mantissa.takeWhile (· != '.'))
  let fraction ← match mantissa.dropWhile (· != '.') with
    | _ :: digits => ungroup? Char.isDigit digits
    | [] => some []
  if hasNoPadding whole then
    some ⟨Decimal.ofDigits (whole ++ fraction), e - fraction.length⟩
  else none

/-- The binary fraction that a word is. One that is too great is refused. -/
def real? (word : List Char) : Option Binary :=
  let negative := word.head? = some '-'
  match (Decimal.splitSign word).2 with
  | ['i', 'n', 'f'] => some (.infinite negative)
  | ['n', 'a', 'n'] => some .notANumber
  | digits => do
    let x := Binary.ofDecimal negative (← decimal? digits)
    if x = .infinite false then none else some x

end SceneSelector.Toml
