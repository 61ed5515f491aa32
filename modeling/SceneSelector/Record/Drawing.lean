import SceneSelector.Record
import SceneSelector.Rule.Display

/-!
# Drawings of match records

A drawing has one row for every record, parents first. A row begins with a
cell of two columns for each of its ancestors, blank where that ancestor is
the last of its siblings and a bar otherwise, and a connector, which is a
corner for the last of its siblings and a tee otherwise. Then come a mark for
match or failure, the name of the rule, the token positions if they are asked
for, and the token of a literal that matched.

```text
└─ ✓ id [0..2]
  ├─ ✓ literal '#' [0..1] = #
  └─ ✓ literal <identifier> [1..2] = a
```
-/

namespace SceneSelector.Record

/-- A record in its place in the tree: for each of its ancestors, outermost
first, and for itself, whether it is the last of its siblings. -/
structure Row where
  ancestors : List Bool
  isLast : Bool
  record : Record
deriving Repr

mutual

/-- The rows of a record and of what is below it. -/
def rows (ancestors : List Bool) (isLast : Bool) : Record → List Row
  | ⟨rule, start, stop, matched, token, children, depthExceeded⟩ =>
    ⟨ancestors, isLast,
      ⟨rule, start, stop, matched, token, children, depthExceeded⟩⟩ ::
      rowsAll (ancestors ++ [isLast]) children

/-- The rows of siblings. -/
def rowsAll (ancestors : List Bool) : List Record → List Row
  | [] => []
  | [r] => rows ancestors true r
  | r :: r' :: rs => rows ancestors false r ++ rowsAll ancestors (r' :: rs)

end

/-- What the row calls the rule: its name, or what sort of rule it is. A
literal without a name shows its pattern as well. -/
def caption (r : Record) : String :=
  match r.rule.name, r.rule with
  | some name, _ => name
  | none, .literal _ p => "literal " ++ p.display
  | none, rule => rule.label

namespace Row

/-- The cell that stands for one ancestor. -/
def cell (isLast : Bool) : String :=
  if isLast then "  " else "│ "

def connector (isLast : Bool) : String :=
  if isLast then "└─" else "├─"

def mark (matched : Bool) : String :=
  if matched then "✓" else "✗"

/-- The positions that a record spans. -/
def positions (r : Record) : String :=
  " [" ++ toString r.start ++ ".." ++ toString r.stop ++ "]"

/-- What stands left of the mark. -/
def indent (row : Row) : String :=
  String.join (row.ancestors.map cell) ++ connector row.isLast

/-- What stands right of the connector. -/
def content (showPositions : Bool) (row : Row) : String :=
  " " ++ mark row.record.matched ++ " " ++ row.record.caption ++
    (if showPositions then positions row.record else "") ++
    (match row.record.token with
      | some t => " = " ++ t.literal
      | none => "")

/-- The row as a line of text. -/
def line (showPositions : Bool) (row : Row) : String :=
  row.indent ++ row.content showPositions ++ "\n"

end Row

/-- The drawing of a record, which counts as the last of its siblings. -/
def drawing (showPositions : Bool) (r : Record) : String :=
  String.join ((r.rows [] true).map (Row.line showPositions))

end SceneSelector.Record
