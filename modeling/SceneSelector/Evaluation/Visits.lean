import SceneSelector.Evaluation

/-!
# The visits of an evaluation

Evaluation visits rules in an order of its own: a rule before those below it,
every rule of an alternation, those of a sequence and of an exclusive
alternation as far as they are tried. `visits` lists what happens on the way.
Where a sequence goes on, and whether an exclusive alternation does, is read
off `evaluate`, so the list is of the very evaluation that it belongs to.
-/

namespace SceneSelector.Evaluation

/-- One thing that happens during an evaluation. -/
inductive Visit where
  /-- A rule is tried, `depth` levels below the one that was asked for. -/
  | entered (depth : Nat) (rule : Rule) (start : Nat)
  /-- A rule lies beyond the depth limit and is not tried. -/
  | cut (start : Nat)
  /-- A reference names no rule of the grammar. -/
  | dangling (target : String)
deriving Repr

/-- The visits of a sequence, given those of each of its rules. -/
def visitsInOrder (attempt : Rule → Nat → Record)
    (visit : Rule → Nat → List Visit) : List Rule → Nat → List Visit
  | [], _ => []
  | rule :: rules, start =>
    let r := attempt rule start
    visit rule start ++
      if r.matched then visitsInOrder attempt visit rules r.stop else []

/-- The visits of an exclusive alternation, given those of each rule. -/
def visitsUntilMatch (attempt : Rule → Nat → Record)
    (visit : Rule → Nat → List Visit) (start : Nat) : List Rule → List Visit
  | [] => []
  | rule :: rules =>
    visit rule start ++
      if (attempt rule start).matched then []
      else visitsUntilMatch attempt visit start rules

/-- What happens while a rule is evaluated `depth` levels down, with `budget`
levels left to nest. -/
def visits (g : Grammar) (tokens : List Token) :
    (budget depth : Nat) → Rule → Nat → List Visit
  | 0, _, _, start => [.cut start]
  | budget + 1, depth, rule, start =>
    .entered depth rule start ::
      match rule with
      | .literal _ _ | .empty _ => []
      | .sequence _ rules =>
        visitsInOrder (evaluate g tokens budget)
          (visits g tokens budget (depth + 1)) rules start
      | .alternation _ rules =>
        rules.flatMap (visits g tokens budget (depth + 1) · start)
      | .exclusive _ rules =>
        visitsUntilMatch (evaluate g tokens budget)
          (visits g tokens budget (depth + 1)) start rules
      | .reference _ target _ =>
        match g.get? target with
        | some rule => visits g tokens budget (depth + 1) rule start
        | none => [.dangling target]

end SceneSelector.Evaluation
