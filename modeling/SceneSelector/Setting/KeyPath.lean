import SceneSelector.Decimal
import SceneSelector.Setting

/-!
# Key paths

A key path such as `engine.max_depth` or `more.list[2]` leads into a tree of
settings. It begins with a key, and goes on with keys after points and with
places in lists between brackets; a negative place counts from the end. Keys
are ASCII letters, digits, blanks, underscores and dashes.
-/

namespace SceneSelector

/-- One step of a key path. -/
inductive Step where
  | key (name : String)
  | place (n : Int)
deriving DecidableEq, Repr

/-- The steps of a key path, of which the first is a key. -/
structure KeyPath where
  steps : List Step
deriving DecidableEq, Repr

namespace KeyPath

def isKeyChar (c : Char) : Bool :=
  c.isAlphanum || c = ' ' || c = '_' || c = '-'

/-- A key at the front of a text. -/
def readKey? (text : List Char) : Option (String × List Char) :=
  match text.takeWhile isKeyChar with
  | [] => none
  | name => some (String.ofList name, text.dropWhile isKeyChar)

/-- The greatest place that there may be, counted from either end. -/
def greatestPlace : Nat :=
  twoTo 63 - 1

/-- What may stand between a place and its brackets. -/
def isBlank (c : Char) : Bool :=
  c = ' ' || c = '\t'

/-- A place up to its closing bracket. -/
def readPlace? (text : List Char) : Option (Int × List Char) :=
  let text := text.dropWhile isBlank
  let (sign, text) : Int × List Char :=
    match text with
    | '-' :: rest => (-1, rest)
    | _ => (1, text)
  match Decimal.readDigits? (text.takeWhile Char.isDigit),
      (text.dropWhile Char.isDigit).dropWhile isBlank with
  | some n, ']' :: rest =>
    if n ≤ greatestPlace then some (sign * n, rest) else none
  | _, _ => none

/-- The steps after the first, of a text shorter than `fuel`. -/
def readSteps? : (fuel : Nat) → List Char → Option (List Step)
  | _, [] => some []
  | 0, _ => none
  | fuel + 1, '.' :: rest => do
    let (name, rest) ← readKey? rest
    return .key name :: (← readSteps? fuel rest)
  | fuel + 1, '[' :: rest => do
    let (n, rest) ← readPlace? rest
    return .place n :: (← readSteps? fuel rest)
  | _, _ => none

/-- The key path that a text is, if it is one. -/
def ofText? (text : String) : Option KeyPath := do
  let (name, rest) ← readKey? text.toList
  return ⟨.key name :: (← readSteps? (rest.length + 1) rest)⟩

/-- A key path of one key, which may be any text. -/
def ofKey (name : String) : KeyPath :=
  ⟨[.key name]⟩

end KeyPath

namespace Setting

/-- The place in a list of `length` items that a number means. -/
def placeIn (length : Nat) : Int → Nat
  | .ofNat n => n
  | .negSucc n => length - (n + 1)

/-- A list in which the item at a place is changed by `f`. It is filled up
with nothing as far as needed; what is not a list is given up. -/
def changeItem (s : Setting) (n : Int) (f : Setting → Setting) : Setting :=
  let n := placeIn s.items.length n
  let items := s.items ++ List.replicate (n + 1 - s.items.length) nothing
  let origin :=
    match s with
    | list origin _ => origin
    | _ => .direct
  list origin (items.modify n f)

/-- A tree with `value` where the steps lead. Tables and lists on the way are
made where there are none. -/
def setAt (value : Setting) : List Step → Setting → Setting
  | [], _ => value
  | [.key name], s => s.put name value
  | .key name :: steps, s =>
    -- what is on the way and is no table is given up by `insert`
    let key := Case.small name
    s.insert key (setAt value steps ((s.get? key).getD nothing))
  | .place n :: steps, s => s.changeItem n (setAt value steps)

/-- A tree with `value` where a key path leads. -/
def set (s : Setting) (path : KeyPath) (value : Setting) : Setting :=
  setAt value path.steps s

end Setting

end SceneSelector
