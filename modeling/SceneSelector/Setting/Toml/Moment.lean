import SceneSelector.Decimal

/-!
# TOML: dates and times

A date, a time, or both with an offset or without. They are kept as texts in
one spelling: a capital `T` between date and time, a capital `Z`, fractions of
a second to at most nine places without zeros at the end, and offsets with
less than sixty minutes beside the hours. How far hours and offsets may go
depends on where a date and time is written.
-/

namespace SceneSelector.Toml

/-- How far the parts of a time may go. -/
structure TimeBounds where
  hour : Nat
  /-- The minutes beside the hours of an offset. -/
  offsetMinute : Nat
  /-- A whole offset in minutes. -/
  offset : Nat
deriving DecidableEq, Repr

namespace TimeBounds

/-- For times that are values by themselves. -/
def bare : TimeBounds :=
  ⟨23, 59, 24 * 60 - 1⟩

/-- For times in a string. -/
def inString : TimeBounds :=
  ⟨24, 99, 24 * 60⟩

end TimeBounds

/-- A number of exactly two digits, within bounds. -/
def twoDigits? (least greatest : Nat) (text : List Char) :
    Option (List Char × List Char) :=
  match text with
  | a :: b :: rest => do
    let n ← Decimal.readDigits? [a, b]
    if least ≤ n && n ≤ greatest then some ([a, b], rest) else none
  | _ => none

def isLeapYear (year : Nat) : Bool :=
  year % 4 = 0 && (year % 100 != 0 || year % 400 = 0)

def daysIn (year month : Nat) : Nat :=
  if month = 2 then if isLeapYear year then 29 else 28
  else if [4, 6, 9, 11].contains month then 30
  else 31

/-- A date at the front of a text. -/
def date? : List Char → Option (List Char × List Char)
  | a :: b :: c :: d :: '-' :: rest => do
    let year ← Decimal.readDigits? [a, b, c, d]
    let (month, rest) ← twoDigits? 1 12 rest
    match rest with
    | '-' :: rest =>
      let (day, rest) ← twoDigits? 1 31 rest
      if Decimal.ofDigits day ≤ daysIn year (Decimal.ofDigits month) then
        some ([a, b, c, d, '-'] ++ month ++ ['-'] ++ day, rest)
      else none
    | _ => none
  | _ => none

/-- Digits without the zeros at their end. -/
def withoutZeros (digits : List Char) : List Char :=
  (digits.reverse.dropWhile (· = '0')).reverse

/-- The fraction of a second, if there is one. -/
def fraction? : List Char → Option (List Char × List Char)
  | '.' :: rest =>
    match rest.takeWhile Char.isDigit with
    | [] => none
    | digits =>
      let kept := withoutZeros (digits.take 9)
      some (if kept.isEmpty then [] else '.' :: kept, rest.dropWhile Char.isDigit)
  | rest => some ([], rest)

/-- A time at the front of a text. -/
def time? (bounds : TimeBounds) (text : List Char) :
    Option (List Char × List Char) := do
  let (hour, rest) ← twoDigits? 0 bounds.hour text
  match rest with
  | ':' :: rest =>
    let (minute, rest) ← twoDigits? 0 59 rest
    match rest with
    | ':' :: rest =>
      let (second, rest) ← twoDigits? 0 60 rest
      let (fraction, rest) ← fraction? rest
      return (hour ++ [':'] ++ minute ++ [':'] ++ second ++ fraction, rest)
    | _ => none
  | _ => none

/-- The last two digits of a number. -/
def lastTwoDigits (n : Nat) : List Char :=
  [Nat.digitChar (n / 10 % 10), Nat.digitChar (n % 10)]

/-- An offset of some minutes. None goes backwards by nothing. -/
def offsetText (sign : Char) (minutes : Nat) : List Char :=
  (if minutes = 0 then '+' else sign) ::
    lastTwoDigits (minutes / 60) ++ ':' :: lastTwoDigits (minutes % 60)

/-- The offset at the end of a text, if there is one. -/
def offset? (bounds : TimeBounds) : List Char → Option (List Char)
  | [] => some []
  | ['Z'] | ['z'] => some ['Z']
  | sign :: rest => do
    if sign != '+' && sign != '-' then none
    let (hour, rest) ← twoDigits? 0 99 rest
    match rest with
    | ':' :: rest =>
      let (minute, rest) ← twoDigits? 0 bounds.offsetMinute rest
      let minutes := 60 * Decimal.ofDigits hour + Decimal.ofDigits minute
      if rest.isEmpty && minutes ≤ bounds.offset then
        some (offsetText sign minutes)
      else none
    | _ => none

/-- The date, the time or both that a text is, in their one spelling. -/
def moment? (bounds : TimeBounds) (text : List Char) : Option (List Char) :=
  match date? text with
  | some (date, []) => some date
  | some (date, c :: rest) => do
    if c != 'T' && c != 't' && c != ' ' then none
    let (time, rest) ← time? bounds rest
    let offset ← offset? bounds rest
    return date ++ ['T'] ++ time ++ offset
  | none => do
    let (time, rest) ← time? bounds text
    if rest.isEmpty then some time else none

end SceneSelector.Toml
