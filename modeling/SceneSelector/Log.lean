import SceneSelector.Evaluation.Visits
import SceneSelector.Matcher
import SceneSelector.Rule.Display

/-!
# Log records

What assembling a grammar and matching with it report on the way: every rule
that is tried (trace), every branch that the depth limit cuts off and every
reference to an unknown rule (warnings), and a summary of a grammar or of an
outcome (debug).
-/

namespace SceneSelector.Log

/-- How much a record matters, the most important first. -/
inductive Level where
  | error
  | warn
  | info
  | debug
  | trace
deriving DecidableEq, Repr

namespace Level

def title : Level → String
  | error => "ERROR"
  | warn => "WARN"
  | info => "INFO"
  | debug => "DEBUG"
  | trace => "TRACE"

/-- The place of a level among the levels, counted from one. -/
def rank : Level → Nat
  | error => 1
  | warn => 2
  | info => 3
  | debug => 4
  | trace => 5

def all : List Level :=
  [error, warn, info, debug, trace]

end Level

/-- Which part of the program a record comes from. -/
inductive Origin where
  | grammar
  | engine
deriving DecidableEq, Repr

/-- The origin as log records name it. -/
def Origin.path : Origin → String
  | grammar => "scenequery::query::grammar"
  | engine => "scenequery::query::engine"

structure Entry where
  level : Level
  origin : Origin
  message : String
deriving DecidableEq, Repr

/-- What is reported of a grammar once it is assembled. -/
def ofGrammar (g : Grammar) : Entry :=
  ⟨.debug, .grammar,
    "assembled grammar with " ++ toString g.rules.length ++ " rules, root `" ++
      g.rootName ++ "`"⟩

/-- What is reported of one visit. A rule that is tried is indented by its
depth. -/
def ofVisit (maxDepth : Nat) : Evaluation.Visit → Entry
  | .entered depth rule start =>
    ⟨.trace, .engine,
      String.ofList (List.replicate depth ' ') ++ rule.nameOrLabel ++ " " ++
        rule.display ++ " at " ++ toString start⟩
  | .cut start =>
    ⟨.warn, .engine,
      "depth limit " ++ toString maxDepth ++ " reached at token " ++
        toString start ++ ", giving up on this branch"⟩
  | .dangling target =>
    ⟨.warn, .engine,
      "reference to unregistered rule `" ++ target ++ "` does not match"⟩

/-- What is reported of an outcome. -/
def ofOutcome (o : Outcome) : Entry :=
  ⟨.debug, .engine,
    "parsed " ++ toString o.tokenCount ++ " tokens: matched=" ++
      toString o.matched ++ " consumed=" ++ toString o.consumed⟩

end Log

namespace Matcher

/-- The visits of evaluating a rule at the position of a cursor. -/
def visits (m : Matcher) (rule : Rule) (c : Cursor) : List Evaluation.Visit :=
  Evaluation.visits m.grammar c.tokens m.budget 0 rule c.position

/-- What is reported while a rule is evaluated. -/
def evaluationLog (m : Matcher) (rule : Rule) (c : Cursor) : List Log.Entry :=
  (m.visits rule c).map (Log.ofVisit m.maxDepth)

/-- What is reported while tokens are parsed. -/
def parseLog (m : Matcher) (tokens : List Token) : List Log.Entry :=
  m.evaluationLog m.grammar.root (.ofTokens tokens) ++
    [Log.ofOutcome (m.parseTokens tokens)]

end Matcher

end SceneSelector
