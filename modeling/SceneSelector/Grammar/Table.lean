import SceneSelector.Grammar
import SceneSelector.Rule.Display
import SceneSelector.Text.Column

/-!
# Grammar tables

One line for every rule of a grammar, in the order of the table: its name,
`:=` and its written form. The names stand in one column, as wide as the
longest of them is in bytes.
-/

namespace SceneSelector.Grammar

/-- The width of the column of names. -/
def nameWidth (g : Grammar) : Nat :=
  (g.rules.filterMap Rule.name).foldl (fun width n => max width n.utf8ByteSize) 0

/-- The line of one rule. -/
def tableLine (width : Nat) (r : Rule) : String :=
  Column.left width (r.name.getD "") ++ " := " ++ r.display ++ "\n"

/-- The table of a grammar. -/
def table (g : Grammar) : String :=
  String.join (g.rules.map (tableLine g.nameWidth))

end SceneSelector.Grammar
