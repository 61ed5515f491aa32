import SceneSelector.Rule

/-!
# The written form of a rule

```text
'['            one token, exactly
<identifier>   any token of a kind
a b c          a sequence
(a | b)        an alternation: the furthest match
(a / b)        an exclusive alternation: the first match
[a | b]?       an alternation that ends in the empty rule
-> name        a reference
<empty>        the empty rule
```

A sequence of several rules stands in parentheses inside another sequence
and nowhere else. Names and priorities are not written.
-/

namespace SceneSelector.Rule

/-- A rule that is written as several words side by side. -/
def isLongSequence : Rule → Bool
  | sequence _ rs => 1 < rs.length
  | _ => false

mutual

/-- The written form of a rule. -/
def display : Rule → String
  | literal _ p => p.display
  | sequence _ rs => " ".intercalate (displayParts rs)
  | alternation t rs =>
    if (alternation t rs).isOptional then
      "[" ++ " | ".intercalate (displayAll rs).dropLast ++ "]?"
    else "(" ++ " | ".intercalate (displayAll rs) ++ ")"
  | exclusive _ rs => "(" ++ " / ".intercalate (displayAll rs) ++ ")"
  | empty _ => "<empty>"
  | reference _ target _ => "-> " ++ target

/-- The written forms of several rules. -/
def displayAll : List Rule → List String
  | [] => []
  | r :: rs => display r :: displayAll rs

/-- The written forms of the parts of a sequence. -/
def displayParts : List Rule → List String
  | [] => []
  | r :: rs =>
    (if r.isLongSequence then "(" ++ display r ++ ")" else display r) ::
      displayParts rs

end

end SceneSelector.Rule
