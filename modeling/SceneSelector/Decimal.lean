/-!
# Decimal numbers

A decimal is a whole number times a power of ten, which is what a number
written with digits, a point and an exponent stands for. This module reads
such numbers and says which of them a binary number of 64 bits can hold.
-/

namespace SceneSelector

def tenTo (e : Nat) : Nat :=
  Nat.pow 10 e

def twoTo (e : Nat) : Nat :=
  Nat.pow 2 e

/-- The number `digits * 10 ^ exponent`. -/
structure Decimal where
  digits : Nat
  exponent : Int
deriving DecidableEq, Repr

namespace Decimal

/-- The value of one decimal digit. -/
def digitValue (c : Char) : Nat :=
  c.toNat - '0'.toNat

/-- The value of digits, the first counting most. -/
def ofDigits (digits : List Char) : Nat :=
  digits.foldl (fun n c => 10 * n + digitValue c) 0

/-- A text that starts with a sign: the sign's factor and the rest. -/
def splitSign : List Char → Int × List Char
  | '+' :: rest => (1, rest)
  | '-' :: rest => (-1, rest)
  | text => (1, text)

/-- Digits alone, at least one. -/
def readDigits? (text : List Char) : Option Nat :=
  if !text.isEmpty && text.all Char.isDigit then some (ofDigits text) else none

/-- What may follow the digits: nothing, or `e` and a whole number. -/
def readExponent? : List Char → Option Int
  | [] => some 0
  | c :: rest =>
    if c = 'e' || c = 'E' then
      let (sign, digits) := splitSign rest
      (readDigits? digits).map (sign * ·)
    else none

/-- A number without a sign: digits, which a point may stand before, between
or after, and an exponent. -/
def read? (text : List Char) : Option Decimal :=
  let whole := text.takeWhile Char.isDigit
  let (fraction, rest) :=
    match text.dropWhile Char.isDigit with
    | '.' :: rest => (rest.takeWhile Char.isDigit, rest.dropWhile Char.isDigit)
    | rest => ([], rest)
  if whole.isEmpty && fraction.isEmpty then none
  else
    (readExponent? rest).map fun e =>
      ⟨ofDigits (whole ++ fraction), e - fraction.length⟩

/-- How many digits a number has; zero has none. -/
def digitCount (n : Nat) : Nat :=
  if n = 0 then 0 else (Nat.toDigits 10 n).length

/-- The least number that rounds to infinity among binary numbers of 64 bits:
halfway between the greatest finite one and the next power of two. -/
def overflow : Nat :=
  twoTo 1024 - twoTo 970

/-- The number lies below `overflow`. Its decimal order of magnitude decides
unless that is close to the limit's own, which has 309 digits. -/
def isFinite (d : Decimal) : Bool :=
  if d.digits = 0 then true
  else
    let order := (digitCount d.digits : Int) + d.exponent
    if order < 309 then true
    else if 309 < order then false
    else
      match d.exponent with
      | .ofNat e => d.digits * tenTo e < overflow
      | .negSucc e => d.digits < overflow * tenTo (e + 1)

end Decimal

end SceneSelector
