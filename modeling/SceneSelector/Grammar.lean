import SceneSelector.Rule

/-!
# Grammars

A grammar is a table of named rules and the one of them that matching starts
from. References are looked up by name while matching, so that rules may
refer to each other in a circle. `Grammar.assemble` makes a grammar from a
list of rules and a root's name. It checks names first, in order; then every
node of every rule, in the order of the walk; then the root. The first defect
found is the error.
-/

namespace SceneSelector

/-- Why a list of rules is no grammar. -/
inductive GrammarError where
  | unknownRule (name referencedFrom : String)
  | emptyComposite (rule : String)
  | duplicateRule (name : String)
  | missingRoot (name : String)
  | unknownSymbol (symbol : String)
  | unnamed
deriving DecidableEq, Repr

def GrammarError.message : GrammarError → String
  | unknownRule name referencedFrom =>
    "rule `" ++ referencedFrom ++ "` references unknown rule `" ++ name ++ "`"
  | emptyComposite rule => "composite rule in `" ++ rule ++ "` has no children"
  | duplicateRule name => "rule `" ++ name ++ "` is registered twice"
  | missingRoot name => "root rule `" ++ name ++ "` is not registered"
  | unknownSymbol symbol => "`" ++ symbol ++ "` is not a reserved symbol"
  | unnamed => "registered rule has no name"

/-- A reserved symbol as a rule. -/
def Rule.ofSymbol (symbol : String) : Except GrammarError Rule :=
  match Rule.ofSymbol? symbol with
  | some r => .ok r
  | none => .error (.unknownSymbol symbol)

structure Grammar where
  rules : List Rule
  root : Rule
deriving DecidableEq, Repr

namespace Grammar

/-- The rule of a name in a list of rules. -/
def lookup (rules : List Rule) (name : String) : Option Rule :=
  rules.find? (·.name = some name)

/-- The rule that a grammar knows by a name. -/
def get? (g : Grammar) (name : String) : Option Rule :=
  lookup g.rules name

def contains (g : Grammar) (name : String) : Bool :=
  (g.get? name).isSome

/-- The name of the root. -/
def rootName (g : Grammar) : String :=
  g.root.name.getD ""

/-! ## Assembly -/

/-- The first rule that has no name or one that an earlier rule has. The
names in `seen` are taken already. -/
def nameDefect? (seen : List String) : List Rule → Option GrammarError
  | [] => none
  | r :: rs =>
    match r.name with
    | none => some .unnamed
    | some name =>
      if name ∈ seen then some (.duplicateRule name)
      else nameDefect? (name :: seen) rs

/-- What is wrong with one node of the rule `owner`, where `names` are the
names that may be referred to. -/
def nodeDefect? (names : List String) (owner : String) (node : Rule) :
    Option GrammarError :=
  if node.isComposite && node.children.isEmpty then
    some (.emptyComposite owner)
  else
    match node.target? with
    | some target =>
      if target ∈ names then none else some (.unknownRule target owner)
    | none => none

/-- The first node of a rule that has a defect. -/
def ruleDefect? (names : List String) (r : Rule) : Option GrammarError :=
  r.walk.findSome? (nodeDefect? names (r.name.getD ""))

/-- The first defect of a list of rules, the root left aside. -/
def defect? (rules : List Rule) : Option GrammarError :=
  match nameDefect? [] rules with
  | some e => some e
  | none => rules.findSome? (ruleDefect? (rules.filterMap Rule.name))

/-- The grammar of a list of rules, rooted at the rule named `root`. -/
def assemble (rules : List Rule) (root : String) : Except GrammarError Grammar :=
  match defect? rules with
  | some e => .error e
  | none =>
    match lookup rules root with
    | some r => .ok ⟨rules, r⟩
    | none => .error (.missingRoot root)

end Grammar

end SceneSelector
