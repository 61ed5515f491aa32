/-!
# TOML: blanks, lines and strings

The smallest pieces of a TOML document. A reader takes what it reads from the
front of a text and returns it with the rest, or nothing if the text does not
begin with it.
-/

namespace SceneSelector.Toml

def isBlank (c : Char) : Bool :=
  c = ' ' || c = '\t'

/-- What may stand in strings and comments: no controls but the tab. -/
def isTextChar (c : Char) : Bool :=
  c = '\t' || (0x20 ≤ c.toNat && c.toNat != 0x7F)

def skipBlanks (text : List Char) : List Char :=
  text.dropWhile isBlank

/-- The text after the end of a line. The end of the text ends a line too. -/
def endLine? : List Char → Option (List Char)
  | [] => some []
  | '\n' :: rest => some rest
  | '\r' :: '\n' :: rest => some rest
  | _ => none

/-- The text after a line of which nothing is left but a comment. -/
def finishLine? (text : List Char) : Option (List Char) :=
  match skipBlanks text with
  | '#' :: rest => endLine? (rest.dropWhile isTextChar)
  | rest => endLine? rest

/-- Skip blanks, line ends and comments. -/
def skipGaps (inComment : Bool) : List Char → List Char
  | [] => []
  | '\n' :: rest => skipGaps false rest
  | '\r' :: '\n' :: rest => skipGaps false rest
  | c :: rest =>
    if inComment then
      if isTextChar c then skipGaps true rest else c :: rest
    else if isBlank c then skipGaps false rest
    else if c = '#' then skipGaps true rest
    else c :: rest

/-! ## Escapes -/

/-- The value of hexadecimal digits. -/
def hexValue? (digits : List Char) : Option Nat :=
  digits.foldl (fun n? c => do
      let n ← n?
      if c.isDigit then return 16 * n + (c.toNat - '0'.toNat)
      else if 'a' ≤ c && c ≤ 'f' then return 16 * n + (c.toNat - 'a'.toNat + 10)
      else if 'A' ≤ c && c ≤ 'F' then return 16 * n + (c.toNat - 'A'.toNat + 10)
      else none)
    (some 0)

/-- The character of a code point, unless the number is none. -/
def charOfHex? (digits : List Char) : Option Char := do
  let n ← hexValue? digits
  if n.isValidChar then some (Char.ofNat n) else none

/-- The character that a backslash and one letter stand for. -/
def shortEscape? (c : Char) : Option Char :=
  match c with
  | 'b' => some '\x08'
  | 't' => some '\t'
  | 'n' => some '\n'
  | 'f' => some '\x0c'
  | 'r' => some '\r'
  | '"' => some '"'
  | '\\' => some '\\'
  | _ => none

/-! ## Strings

Each reader starts after the opening quotes and ends after the closing ones. -/

/-- What has been read, with one more character in front. -/
def andBefore (c : Char) (result : Option (List Char × List Char)) :
    Option (List Char × List Char) :=
  result.map fun (body, rest) => (c :: body, rest)

/-- A string in double quotes. -/
def basic? : List Char → Option (List Char × List Char)
  | '"' :: rest => some ([], rest)
  | '\\' :: 'u' :: a :: b :: c :: d :: rest =>
    match charOfHex? [a, b, c, d] with
    | some x => andBefore x (basic? rest)
    | none => none
  | '\\' :: 'U' :: a :: b :: c :: d :: e :: f :: g :: h :: rest =>
    match charOfHex? [a, b, c, d, e, f, g, h] with
    | some x => andBefore x (basic? rest)
    | none => none
  | '\\' :: c :: rest =>
    match shortEscape? c with
    | some x => andBefore x (basic? rest)
    | none => none
  | c :: rest => if isTextChar c then andBefore c (basic? rest) else none
  | [] => none

/-- A string in single quotes, without escapes. -/
def literal? : List Char → Option (List Char × List Char)
  | '\'' :: rest => some ([], rest)
  | c :: rest => if isTextChar c then andBefore c (literal? rest) else none
  | [] => none

/-- Nothing but blanks is left of the line. -/
def isBlankLine (text : List Char) : Bool :=
  match skipBlanks text with
  | '\n' :: _ | '\r' :: '\n' :: _ => true
  | _ => false

/-- A string in three double quotes. Up to two quotes may stand before the
closing ones. A backslash at the end of a line joins it with the next text;
`joining` says that blanks and line ends are still being passed over. -/
def multiBasic? (joining : Bool) : List Char → Option (List Char × List Char)
  | '"' :: '"' :: '"' :: '"' :: '"' :: rest => some (['"', '"'], rest)
  | '"' :: '"' :: '"' :: '"' :: rest => some (['"'], rest)
  | '"' :: '"' :: '"' :: rest => some ([], rest)
  | '\\' :: 'u' :: a :: b :: c :: d :: rest =>
    match charOfHex? [a, b, c, d] with
    | some x => andBefore x (multiBasic? false rest)
    | none => none
  | '\\' :: 'U' :: a :: b :: c :: d :: e :: f :: g :: h :: rest =>
    match charOfHex? [a, b, c, d, e, f, g, h] with
    | some x => andBefore x (multiBasic? false rest)
    | none => none
  | '\\' :: c :: rest =>
    if isBlankLine (c :: rest) then multiBasic? true (c :: rest)
    else
      match shortEscape? c with
      | some x => andBefore x (multiBasic? false rest)
      | none => none
  | '\r' :: '\n' :: rest =>
    if joining then multiBasic? true rest
    else andBefore '\n' (multiBasic? false rest)
  | '\n' :: rest =>
    if joining then multiBasic? true rest
    else andBefore '\n' (multiBasic? false rest)
  | c :: rest =>
    if joining && isBlank c then multiBasic? true rest
    else if isTextChar c then andBefore c (multiBasic? false rest)
    else none
  | [] => none

/-- A string in three single quotes. -/
def multiLiteral? : List Char → Option (List Char × List Char)
  | '\'' :: '\'' :: '\'' :: '\'' :: '\'' :: rest => some (['\'', '\''], rest)
  | '\'' :: '\'' :: '\'' :: '\'' :: rest => some (['\''], rest)
  | '\'' :: '\'' :: '\'' :: rest => some ([], rest)
  | '\r' :: '\n' :: rest => andBefore '\n' (multiLiteral? rest)
  | '\n' :: rest => andBefore '\n' (multiLiteral? rest)
  | c :: rest => if isTextChar c then andBefore c (multiLiteral? rest) else none
  | [] => none

/-- A line end right after three opening quotes does not count. -/
def skipFirstLineEnd : List Char → List Char
  | '\n' :: rest => rest
  | '\r' :: '\n' :: rest => rest
  | text => text

/-- A string in one line, of either sort. -/
def string? : List Char → Option (List Char × List Char)
  | '"' :: rest => basic? rest
  | '\'' :: rest => literal? rest
  | _ => none

/-- A string of any sort. -/
def anyString? : List Char → Option (List Char × List Char)
  | '"' :: '"' :: '"' :: rest => multiBasic? false (skipFirstLineEnd rest)
  | '\'' :: '\'' :: '\'' :: rest => multiLiteral? (skipFirstLineEnd rest)
  | text => string? text

/-! ## Keys -/

def isBareKeyChar (c : Char) : Bool :=
  c.isAlphanum || c = '_' || c = '-'

/-- One part of a key: bare or in quotes. -/
def keyPart? (text : List Char) : Option (String × List Char) :=
  match text.takeWhile isBareKeyChar with
  | [] => (string? text).map fun (body, rest) => (String.ofList body, rest)
  | name => some (String.ofList name, text.dropWhile isBareKeyChar)

/-- A key of at most `limit` parts with points between them. -/
def key? : (limit : Nat) → List Char → Option (List String × List Char)
  | 0, _ => none
  | limit + 1, text => do
    let (part, rest) ← keyPart? (skipBlanks text)
    match skipBlanks rest with
    | '.' :: rest =>
      let (parts, rest) ← key? limit rest
      return (part :: parts, rest)
    | rest => return ([part], rest)

/-- How many parts a key may have, and how deep values may be nested. -/
def depthLimit : Nat := 79

end SceneSelector.Toml
