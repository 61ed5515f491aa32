import SceneSelector.Evaluation
import SceneSelector.Grammar.Selector
import SceneSelector.Outcome
import SceneSelector.Token.Lexer

/-!
# Matchers

A matcher is a grammar together with a limit on how deep rules may nest. The
rule that is asked for is at depth zero, and rules deeper than `maxDepth` are
cut off.
-/

namespace SceneSelector

structure Matcher where
  grammar : Grammar
  maxDepth : Nat
deriving DecidableEq, Repr

namespace Matcher

/-- The limit that holds where no other is set. -/
def defaultMaxDepth : Nat := 512

/-- The matcher of selector queries. -/
def selector (maxDepth : Nat) : Matcher :=
  ⟨.selector, maxDepth⟩

/-- How many levels of rules the limit leaves room for. -/
def budget (m : Matcher) : Nat :=
  m.maxDepth + 1

/-- The record of a rule, which need not be one of the grammar's, at the
position of a cursor. -/
def evaluate (m : Matcher) (rule : Rule) (c : Cursor) : Record :=
  Evaluation.evaluate m.grammar c.tokens m.budget rule c.position

/-- Match the root against tokens. -/
def parseTokens (m : Matcher) (tokens : List Token) : Outcome :=
  ⟨tokens, m.evaluate m.grammar.root (.ofTokens tokens)⟩

/-- Match the root against the tokens of a text. -/
def parse (m : Matcher) (text : String) : Outcome :=
  m.parseTokens (lex text)

end Matcher

end SceneSelector
