import SceneSelector.Data
import SceneSelector.Text.Hexadecimal

/-!
# JSON

Data as JSON text on several lines: every item and every field stands on a
line of its own, two spaces further in than the brackets around it. An empty
list is `[]`, and there is no line feed at the end. In strings, quotes,
backslashes and characters below space are escaped; all else is as it is.
-/

namespace SceneSelector.Json

/-- The written form of one character of a string. -/
def escape (c : Char) : List Char :=
  if c = '"' then ['\\', '"']
  else if c = '\\' then ['\\', '\\']
  else if c = '\x08' then ['\\', 'b']
  else if c = '\t' then ['\\', 't']
  else if c = '\n' then ['\\', 'n']
  else if c = '\x0c' then ['\\', 'f']
  else if c = '\r' then ['\\', 'r']
  else if c.toNat < 0x20 then '\\' :: 'u' :: Hexadecimal.small 4 c.toNat
  else [c]

/-- A string with the quotes around it. -/
def string (s : String) : String :=
  String.ofList ('"' :: s.toList.flatMap escape ++ ['"'])

/-- The beginning of a line at a level of nesting. -/
def newLine (level : Nat) : String :=
  String.ofList ('\n' :: List.replicate (2 * level) ' ')

mutual

/-- Data as JSON, where brackets around it would stand at `level`. -/
def render (level : Nat) : Data → String
  | .null => "null"
  | .text s => string s
  | .list items =>
    if items.isEmpty then "[]"
    else "[" ++ renderItems (level + 1) items ++ newLine level ++ "]"
  | .record fields =>
    if fields.isEmpty then "\x7b\x7d"
    else "\x7b" ++ renderFields (level + 1) fields ++ newLine level ++ "\x7d"
termination_by structural d => d

def renderItems (level : Nat) : List Data → String
  | [] => ""
  | [d] => newLine level ++ render level d
  | d :: d' :: ds =>
    newLine level ++ render level d ++ "," ++ renderItems level (d' :: ds)
termination_by structural ds => ds

def renderFields (level : Nat) : List (String × Data) → String
  | [] => ""
  | [f] => newLine level ++ renderField level f
  | f :: f' :: fs =>
    newLine level ++ renderField level f ++ "," ++ renderFields level (f' :: fs)
termination_by structural fs => fs

def renderField (level : Nat) : String × Data → String
  | (key, d) => string key ++ ": " ++ render level d
termination_by structural f => f

end

end SceneSelector.Json

namespace SceneSelector

/-- Data as a JSON text. -/
def Data.toJson (d : Data) : String :=
  Json.render 0 d

/-- A query as a JSON text. -/
def Query.toJson (q : Query) : String :=
  q.toData.toJson

end SceneSelector
