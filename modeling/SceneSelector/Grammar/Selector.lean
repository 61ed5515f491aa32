import SceneSelector.Grammar

/-!
# The grammar of selector queries

```text
value        := identifier | digits | string           (the first that fits)
attr         := '[' identifier '=' value ']' [attr]?
args         := value [',' args]?
pseudoClass  := ':' identifier ['(' args ')']?
selectors    := ('#' | '.') (identifier | string) [selectors]?
typeIdQuery  := (identifier | '*') [selectors]? [pseudoClass]? [attr]?
attrQuery    := selectors [pseudoClass]? [attr]?
subQuery     := ['>']? query
query        := (typeIdQuery | attrQuery) [subQuery]?          (the root)
```

The names of the rules are also what a match is read back by, so each of
them is written down once, here. `assemble_selectorRules` says that the nine
rules are a grammar.
-/

namespace SceneSelector

namespace RuleName

def value : String := "value"

def attr : String := "attr"

def args : String := "args"

def pseudoClass : String := "pseudoClass"

def selectors : String := "selectors"

def typeIdQuery : String := "typeIdQuery"

def attrQuery : String := "attrQuery"

def subQuery : String := "subQuery"

def query : String := "query"

end RuleName

namespace Grammar

open Rule

/-- The rule of one symbol of the language. -/
def symbol (kind : Kind) (spelling : String) : Rule :=
  ofPattern (.exact kind spelling)

/-- The rule of a name, or nothing. -/
def maybe (name : String) : Rule :=
  optional (referTo name)

/-- The tag of a rule that has a name only. -/
def nameTag (name : String) : Tag :=
  ⟨some name, 0⟩

def valueRule : Rule :=
  .exclusive (nameTag RuleName.value) [.identifier, .digits, .string]

def attrRule : Rule :=
  .sequence (nameTag RuleName.attr)
    [symbol .openBracket "[", .identifier, symbol .equals "=",
     referTo RuleName.value, symbol .closeBracket "]", maybe RuleName.attr]

def argsRule : Rule :=
  .sequence (nameTag RuleName.args)
    [referTo RuleName.value,
     optional (.sequence .blank [symbol .comma ",", referTo RuleName.args])]

def pseudoClassRule : Rule :=
  .sequence (nameTag RuleName.pseudoClass)
    [symbol .colon ":", .identifier,
     optional (.sequence .blank
       [symbol .openParen "(", referTo RuleName.args, symbol .closeParen ")"])]

def selectorsRule : Rule :=
  .sequence (nameTag RuleName.selectors)
    [.alternation .blank [symbol .hash "#", symbol .dot "."],
     .alternation .blank [.identifier, .string],
     maybe RuleName.selectors]

/-- What both forms of a query end in. -/
def qualifiers : List Rule :=
  [maybe RuleName.pseudoClass, maybe RuleName.attr]

def typeIdQueryRule : Rule :=
  .sequence (nameTag RuleName.typeIdQuery)
    (.alternation .blank [.identifier, symbol .star "*"] ::
     maybe RuleName.selectors :: qualifiers)

def attrQueryRule : Rule :=
  .sequence (nameTag RuleName.attrQuery)
    (referTo RuleName.selectors :: qualifiers)

def subQueryRule : Rule :=
  .sequence (nameTag RuleName.subQuery)
    [optional (symbol .greater ">"), referBackTo RuleName.query]

def queryRule : Rule :=
  .sequence (nameTag RuleName.query)
    [.alternation .blank
       [referTo RuleName.typeIdQuery, referTo RuleName.attrQuery],
     maybe RuleName.subQuery]

/-- The nine rules, each after those it is made of. -/
def selectorRules : List Rule :=
  [valueRule, attrRule, argsRule, pseudoClassRule, selectorsRule,
   typeIdQueryRule, attrQueryRule, subQueryRule, queryRule]

/-- The grammar of selector queries. -/
def selector : Grammar :=
  ⟨selectorRules, queryRule⟩

/-- The nine rules have distinct names, no branch of theirs is without rules,
and each name they refer to is one of the nine. -/
theorem assemble_selectorRules :
    assemble selectorRules RuleName.query = .ok selector := rfl

/-- Every symbol that the rules use is the reserved one of its spelling. -/
theorem ofSymbol?_symbols :
    [("[", Kind.openBracket), ("]", .closeBracket), ("=", .equals),
     (":", .colon), ("(", .openParen), (")", .closeParen), (",", .comma),
     ("#", .hash), (".", .dot), (">", .greater), ("*", .star)].all
      (fun e => Rule.ofSymbol? e.1 = some (symbol e.2 e.1)) = true := by
  decide

end Grammar

end SceneSelector
