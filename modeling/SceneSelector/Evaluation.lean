import SceneSelector.Cursor
import SceneSelector.Grammar
import SceneSelector.Record

/-!
# Matching rules against tokens

`evaluate` tries a rule at a position of a list of tokens.

- A literal reads one token and moves on, whether or not the token fits.
- A sequence tries its rules in order, each where the one before stopped, up
  to the first that does not match.
- An alternation tries all its rules at the same position and chooses the one
  that reaches furthest, the earliest on a tie.
- An exclusive alternation chooses the first of its rules that matches and
  tries no more.
- The empty rule matches and stays.
- A reference is the rule that it names.

The number of rules that may be nested is the `budget`: each level of nesting
takes one, a reference is a level like any other, and a rule that nothing is
left for is cut off, which counts as a failure. Evaluation recurses on the
budget and so always comes to an end, with rules that refer to themselves as
well.
-/

namespace SceneSelector.Evaluation

/-- Try rules one after the other, each where the one before stopped. The
first that does not match is the last that is tried. -/
def inOrder (attempt : Rule → Nat → Record) : List Rule → Nat → List Record
  | [], _ => []
  | rule :: rules, start =>
    let r := attempt rule start
    if r.matched then r :: inOrder attempt rules r.stop else [r]

/-- Try rules at the same position, up to the first that matches. -/
def untilMatch (attempt : Rule → Nat → Record) (start : Nat) :
    List Rule → List Record
  | [] => []
  | rule :: rules =>
    let r := attempt rule start
    if r.matched then [r] else r :: untilMatch attempt start rules

/-- The match that stops furthest on, the earliest of several. -/
def furthest : List Record → Option Record
  | [] => none
  | r :: rs =>
    if r.matched then
      match furthest rs with
      | some best => if r.stop < best.stop then some best else some r
      | none => some r
    else furthest rs

/-- The record of a rule at a position, with `budget` levels to nest. -/
def evaluate (g : Grammar) (tokens : List Token) :
    (budget : Nat) → Rule → Nat → Record
  | 0, rule, start => .cut rule start
  | budget + 1, rule, start =>
    match rule with
    | .literal _ pattern =>
      let token := Buffer.read tokens start
      .ofLiteral rule start (Buffer.next tokens start)
        (if pattern.accepts token then some token else none)
    | .sequence _ rules =>
      .ofSequence rule start (inOrder (evaluate g tokens budget) rules start)
    | .alternation _ rules =>
      -- every attempt counts for the depth limit, also those not chosen
      let attempts := rules.map (evaluate g tokens budget · start)
      .ofChoice rule start attempts (furthest attempts)
    | .exclusive _ rules =>
      let attempts := untilMatch (evaluate g tokens budget) start rules
      .ofChoice rule start attempts (attempts.find? Record.matched)
    | .empty _ => .ofEmpty rule start
    | .reference _ target _ =>
      match g.get? target with
      -- the record of the target is the record of the reference
      | some rule => evaluate g tokens budget rule start
      | none => .dangling rule start

end SceneSelector.Evaluation
