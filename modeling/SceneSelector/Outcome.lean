import SceneSelector.Record

/-!
# Outcomes

The outcome of matching a grammar's root against a list of tokens: the tokens
and the record of the root. Matching recognises as long a beginning of the
tokens as the rules reach; whether that is all of them is a question of its
own, which `isComplete` answers.
-/

namespace SceneSelector

structure Outcome where
  tokens : List Token
  record : Record
deriving Repr

namespace Outcome

/-- The root recognised a beginning of the tokens. -/
def matched (o : Outcome) : Bool :=
  o.record.matched

/-- The depth limit cut off some branch, be it a discarded one. -/
def depthExceeded (o : Outcome) : Bool :=
  o.record.depthExceeded

/-- The position at which matching stopped. -/
def consumed (o : Outcome) : Nat :=
  o.record.stop

def tokenCount (o : Outcome) : Nat :=
  o.tokens.length

/-- The root matched and no token is left. -/
def isComplete (o : Outcome) : Bool :=
  o.matched && o.consumed = o.tokenCount

/-- The first token that was left. -/
def next? (o : Outcome) : Option Token :=
  o.tokens[o.consumed]?

end Outcome

end SceneSelector
