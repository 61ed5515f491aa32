import SceneSelector.Text.Case

/-!
# Output formats

How the result of parsing a query is shown: as a drawing of the match
records, or as the query itself in one of two data formats.
-/

namespace SceneSelector

inductive OutputFormat where
  | treeviz
  | json
  | yaml
deriving DecidableEq, Repr

namespace OutputFormat

def title : OutputFormat → String
  | treeviz => "treeviz"
  | json => "json"
  | yaml => "yaml"

def all : List OutputFormat :=
  [treeviz, json, yaml]

/-- The format with exactly this title. -/
def ofTitle? (name : String) : Option OutputFormat :=
  all.find? fun f => f.title = name

/-- The format with this title, in capitals or small letters. -/
def ofAnyCase? (name : String) : Option OutputFormat :=
  all.find? fun f => Case.same f.title name

theorem ofTitle?_title (f : OutputFormat) : ofTitle? f.title = some f := by
  cases f <;> rfl

end OutputFormat

end SceneSelector
