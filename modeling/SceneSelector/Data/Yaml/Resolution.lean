import SceneSelector.Decimal

/-!
# What a plain YAML scalar is read as

A text without quotes may be read as something other than a text: as nothing,
a truth value or a number. `isText` tells the texts that are safe from that.
Whole numbers are read if 128 bits can hold them, with a sign or without;
beyond that, decimal ones are read as binary fractions as long as those are
finite. Digits after a leading zero are no number, but are kept from looking
like one.
-/

namespace SceneSelector.Yaml

def isNull (s : String) : Bool :=
  ["", "~", "null", "Null", "NULL"].contains s

def isTruth (s : String) : Bool :=
  ["true", "True", "TRUE", "false", "False", "FALSE"].contains s

/-- The value of a digit in bases up to sixteen. -/
def digitValue? (base : Nat) (c : Char) : Option Nat :=
  let v :=
    if c.isDigit then c.toNat - '0'.toNat
    else if 'a' ≤ c && c ≤ 'f' then c.toNat - 'a'.toNat + 10
    else if 'A' ≤ c && c ≤ 'F' then c.toNat - 'A'.toNat + 10
    else base
  if v < base then some v else none

/-- The value of digits in a base, at least one. -/
def readBase? (base : Nat) (digits : List Char) : Option Nat :=
  if digits.isEmpty then none
  else
    digits.foldl (fun n? c => do return base * (← n?) + (← digitValue? base c))
      (some 0)

/-- The value of a number whose base is written in front of it. -/
def readMarked? : List Char → Option Nat
  | '0' :: 'x' :: digits => readBase? 16 digits
  | '0' :: 'o' :: digits => readBase? 8 digits
  | '0' :: 'b' :: digits => readBase? 2 digits
  | _ => none

/-- Digits after a leading zero, behind a sign or not. -/
def isZeroPadded (text : List Char) : Bool :=
  match (Decimal.splitSign text).2 with
  | '0' :: c :: rest => (c :: rest).all Char.isDigit
  | _ => false

/-- A whole number that 128 bits can hold. -/
def isWhole (text : List Char) : Bool :=
  let (sign, rest) := Decimal.splitSign text
  match (readMarked? rest).or (Decimal.readDigits? rest) with
  | some n => if sign < 0 then n ≤ twoTo 127 else n < twoTo 128
  | none => false

/-- A finite decimal fraction. -/
def isFraction (text : List Char) : Bool :=
  (Decimal.read? (Decimal.splitSign text).2).any Decimal.isFinite

/-- Infinity, with a sign or without, or not a number. -/
def isUnbounded (s : String) : Bool :=
  [".inf", ".Inf", ".INF", "+.inf", "+.Inf", "+.INF", "-.inf", "-.Inf", "-.INF",
   ".nan", ".NaN", ".NAN"].contains s

/-- Nothing but a text is read from `s`. -/
def isText (s : String) : Bool :=
  !(isNull s || isTruth s || isZeroPadded s.toList || isWhole s.toList ||
    isFraction s.toList || isUnbounded s)

end SceneSelector.Yaml
