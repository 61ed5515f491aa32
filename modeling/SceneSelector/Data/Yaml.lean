import SceneSelector.Data
import SceneSelector.Data.Yaml.Scalar

/-!
# YAML

Data as a YAML document in block style. The fields of a record stand one
below the other; a record inside a record is indented by two columns, and a
list is not: its items begin with `- ` in the column of the field that holds
it. Empty lists are `[]`, and the document ends with a line feed.
-/

namespace SceneSelector.Yaml

/-- Spaces up to a column. -/
def spaces (column : Nat) : String :=
  String.ofList (indentation column)

/-- A text as a scalar in a record at `column`. -/
def scalarText (column : Nat) (s : String) : String :=
  String.ofList (scalar column s)

mutual

/-- Data that begins after `lead`, which fills the line up to `column`. -/
def block (lead : String) (column : Nat) : Data → String
  | .null => lead ++ "null\n"
  | .text s => lead ++ scalarText column s
  | .list items =>
    if items.isEmpty then lead ++ "[]\n" else blockItems lead column items
  | .record fields =>
    if fields.isEmpty then lead ++ "\x7b\x7d\n"
    else blockFields lead column fields
termination_by structural d => d

/-- The items of a list, the first after `lead`. -/
def blockItems (lead : String) (column : Nat) : List Data → String
  | [] => ""
  | d :: ds =>
    block (lead ++ "- ") (column + 2) d ++ blockItems (spaces column) column ds
termination_by structural ds => ds

/-- The fields of a record, the first after `lead`. -/
def blockFields (lead : String) (column : Nat) : List (String × Data) → String
  | [] => ""
  | f :: fs =>
    blockField lead column f ++ blockFields (spaces column) column fs
termination_by structural fs => fs

/-- One field: its name, and its value in the same line or below it. -/
def blockField (lead : String) (column : Nat) : String × Data → String
  | (key, d) => lead ++ key ++ ":" ++ blockValue column d
termination_by structural f => f

/-- The value of a field of a record at `column`. -/
def blockValue (column : Nat) : Data → String
  | .null => " null\n"
  | .text s => " " ++ scalarText column s
  | .list items =>
    if items.isEmpty then " []\n"
    else "\n" ++ blockItems (spaces column) column items
  | .record fields =>
    if fields.isEmpty then " \x7b\x7d\n"
    else "\n" ++ blockFields (spaces (column + 2)) (column + 2) fields
termination_by structural d => d

end

end SceneSelector.Yaml

namespace SceneSelector

/-- Data as a YAML document. -/
def Data.toYaml (d : Data) : String :=
  Yaml.block "" 0 d

/-- A query as a YAML document. -/
def Query.toYaml (q : Query) : String :=
  q.toData.toYaml

end SceneSelector
