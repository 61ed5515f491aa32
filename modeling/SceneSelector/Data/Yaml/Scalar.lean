import SceneSelector.Data.Yaml.Resolution
import SceneSelector.Text.Hexadecimal

/-!
# YAML scalars

A text is written in the simplest style that it can be read back from.

- Plain, as it is, if it has no line break, cannot be taken for markup, and
  is read as a text.
- In single quotes otherwise, where only a single quote needs doubling.
- As a literal block, line by line, if it has a line feed.
- In double quotes with escapes if some character is not printable, or if a
  space stands where other styles would lose it.

Lines of a text that is spread over several are indented by two columns more
than the record that holds it.
-/

namespace SceneSelector.Yaml

/-- What ends a line: line feed, line separator and paragraph separator. -/
def isBreak (c : Char) : Bool :=
  c = '\n' || c = '\u2028' || c = '\u2029'

/-- What can be written without an escape. -/
def isPrintable (c : Char) : Bool :=
  c = '\n' || (0x20 ≤ c.toNat && c.toNat ≤ 0x7E) ||
    (0xA0 ≤ c.toNat && c.toNat != 0xFEFF && c.toNat != 0xFFFE &&
      c.toNat != 0xFFFF)

/-- Two neighbours of which the first fits `p` and the second fits `q`. -/
def hasPair (p q : Char → Bool) : List Char → Bool
  | c :: d :: rest => (p c && q d) || hasPair p q (d :: rest)
  | _ => false

def isSpace (c : Char) : Bool :=
  c = ' '

/-- Only double quotes keep the text: a character is not printable, or a
space stands directly before a line break. -/
def isSpecial (text : List Char) : Bool :=
  !text.all isPrintable || hasPair isSpace isBreak text

/-- What no plain scalar may begin with. -/
def isIndicator (c : Char) : Bool :=
  ['#', ',', '[', ']', '\x7b', '\x7d', '&', '*', '!', '|', '>', '\'', '"', '%',
   '@', '\x60'].contains c

/-- What no plain scalar may begin with if a blank follows or nothing. -/
def isWeakIndicator (c : Char) : Bool :=
  c = '-' || c = '?' || c = ':'

/-- The text would be taken for markup where it begins. -/
def beginsAsMarkup : List Char → Bool
  | '-' :: '-' :: '-' :: _ => true
  | '.' :: '.' :: '.' :: _ => true
  | [c] => isIndicator c || isWeakIndicator c
  | c :: d :: _ => isIndicator c || (isWeakIndicator c && isSpace d)
  | [] => false

/-- The text would be taken for markup further on: `: ` ends a key and ` #`
begins a comment. -/
def containsMarkup (text : List Char) : Bool :=
  hasPair (· = ':') isSpace text || hasPair isSpace (· = '#') text ||
    text.getLast? = some ':'

/-- The text may stand without quotes. -/
def isPlain (s : String) : Bool :=
  let text := s.toList
  isText s && !text.any isBreak && text.head? != some ' ' &&
    text.getLast? != some ' ' && !beginsAsMarkup text && !containsMarkup text

inductive Style where
  | plain
  | single
  | double
  | literal
deriving DecidableEq, Repr

/-- The style that a text is written in. -/
def Style.of (s : String) : Style :=
  let text := s.toList
  if isSpecial text then .double
  else if text.contains '\n' then
    if text.getLast? = some ' ' then .double else .literal
  else if hasPair isBreak isSpace text then .double
  else if isPlain s then .plain
  else .single

/-! ## Double quotes -/

/-- The written form of one character between double quotes. -/
def escape (c : Char) : List Char :=
  match c.toNat with
  | 0x00 => ['\\', '0']
  | 0x07 => ['\\', 'a']
  | 0x08 => ['\\', 'b']
  | 0x09 => ['\\', 't']
  | 0x0A => ['\\', 'n']
  | 0x0B => ['\\', 'v']
  | 0x0C => ['\\', 'f']
  | 0x0D => ['\\', 'r']
  | 0x1B => ['\\', 'e']
  | 0x22 => ['\\', '"']
  | 0x5C => ['\\', '\\']
  | 0x85 => ['\\', 'N']
  | 0x2028 => ['\\', 'L']
  | 0x2029 => ['\\', 'P']
  | n =>
    if isPrintable c then [c]
    else if n ≤ 0xFF then '\\' :: 'x' :: Hexadecimal.capital 2 n
    else if n ≤ 0xFFFF then '\\' :: 'u' :: Hexadecimal.capital 4 n
    else '\\' :: 'U' :: Hexadecimal.capital 8 n

def double (text : List Char) : List Char :=
  '"' :: text.flatMap escape ++ ['"']

/-! ## Lines -/

/-- The indentation of lines that continue a text. -/
def indentation (column : Nat) : List Char :=
  List.replicate column ' '

/-- `text` with `indent` before every character that begins a line, be it the
first; a line of nothing but its break is left as it is. `write` is how a
character is written, and `fresh` says that a line begins here. -/
def indentLines (indent : List Char) (write : Char → List Char) (fresh : Bool) :
    List Char → List Char
  | [] => []
  | c :: rest =>
    if isBreak c then c :: indentLines indent write true rest
    else
      (if fresh then indent else []) ++ write c ++
        indentLines indent write false rest

/-! ## Single quotes -/

/-- The written form of one character between single quotes. -/
def doubled (c : Char) : List Char :=
  if c = '\'' then ['\'', '\''] else [c]

/-- A text in single quotes, whose later lines are indented to `column`. -/
def single (column : Nat) (text : List Char) : List Char :=
  '\'' :: indentLines (indentation column) doubled false text ++
    (if text.getLast?.any isBreak then indentation column else []) ++ ['\'']

/-! ## Literal blocks -/

/-- Whether the indentation has to be stated, because the first line does not
show it. -/
def indentHint (text : List Char) : List Char :=
  if text.head?.any (fun c => isSpace c || isBreak c) then ['2'] else []

/-- How the end of the text is to be read: without the last line feed, with
all of them, or with one. -/
def endHint (text : List Char) : List Char :=
  match text.reverse with
  | [] => ['-']
  | [c] => if isBreak c then ['+'] else ['-']
  | c :: d :: _ =>
    if !isBreak c then ['-'] else if isBreak d then ['+'] else []

/-- A text as a literal block with lines at `column`. -/
def literal (column : Nat) (text : List Char) : List Char :=
  '|' :: indentHint text ++ endHint text ++
    '\n' :: indentLines (indentation column) (fun c => [c]) true text

/-- A text as a scalar in a record at `column`, up to the end of its line. -/
def scalar (column : Nat) (s : String) : List Char :=
  let text := s.toList
  match Style.of s with
  | .plain => text ++ ['\n']
  | .single => single (column + 2) text ++ ['\n']
  | .double => double text ++ ['\n']
  | .literal =>
    literal (column + 2) text ++
      if text.getLast?.any isBreak then [] else ['\n']

end SceneSelector.Yaml
