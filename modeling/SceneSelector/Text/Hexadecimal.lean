/-!
# Hexadecimal numbers of fixed width

A number as that many hexadecimal digits, filled up with zeros on the left.
Digits that do not fit are left out.
-/

namespace SceneSelector.Hexadecimal

/-- The last `width` digits of `n`, with small letters. -/
def small : (width : Nat) → (n : Nat) → List Char
  | 0, _ => []
  | width + 1, n => small width (n / 16) ++ [Nat.digitChar (n % 16)]

/-- The last `width` digits of `n`, with capital letters. -/
def capital (width n : Nat) : List Char :=
  (small width n).map Char.toUpper

end SceneSelector.Hexadecimal
