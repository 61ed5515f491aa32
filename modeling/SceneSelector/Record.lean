import SceneSelector.Rule

/-!
# Match records

A record says what became of one rule at one place: whether it matched, the
token positions it started and stopped at, and the records of the rules below
it that count.

- A literal has the token it accepted, and no children.
- A sequence has its rules' records up to the first that did not match,
  which is included.
- An alternation of either sort has the record of the chosen rule, or none.
- A reference to a known rule has no record of its own: the record of the
  rule it names stands in its place.

A record also remembers whether the depth limit cut something off below it,
be it in a branch that was then discarded.
-/

namespace SceneSelector

structure Record where
  rule : Rule
  start : Nat
  stop : Nat
  matched : Bool
  token : Option Token
  children : List Record
  depthExceeded : Bool
deriving Repr

namespace Record

def name (r : Record) : Option String :=
  r.rule.name

/-- How many tokens the record spans. -/
def consumed (r : Record) : Nat :=
  r.stop - r.start

/-- The record of the rule that an alternation of either sort chose. -/
def chosen? (r : Record) : Option Record :=
  match r.rule with
  | .alternation _ _ | .exclusive _ _ => r.children.head?
  | _ => none

/-! ## Making records -/

/-- A rule that the depth limit kept from being tried. -/
def cut (rule : Rule) (start : Nat) : Record :=
  ⟨rule, start, start, false, none, [], true⟩

/-- A literal that read up to `stop`; `accepted` is the token if it fits. -/
def ofLiteral (rule : Rule) (start stop : Nat) (accepted : Option Token) :
    Record :=
  ⟨rule, start, stop, accepted.isSome, accepted, [], false⟩

/-- The empty rule. -/
def ofEmpty (rule : Rule) (start : Nat) : Record :=
  ⟨rule, start, start, true, none, [], false⟩

/-- A reference to a rule that the grammar does not know. -/
def dangling (rule : Rule) (start : Nat) : Record :=
  ⟨rule, start, start, false, none, [], false⟩

/-- A sequence whose rules were tried one after the other. It stops where
the last of them stopped. -/
def ofSequence (rule : Rule) (start : Nat) (parts : List Record) : Record :=
  ⟨rule, start, (parts.getLast?.map Record.stop).getD start,
    parts.all Record.matched, none, parts, parts.any Record.depthExceeded⟩

/-- An alternation that tried `attempts` and settled for `choice`. -/
def ofChoice (rule : Rule) (start : Nat) (attempts : List Record)
    (choice : Option Record) : Record :=
  match choice with
  | some c =>
    ⟨rule, start, c.stop, true, none, [c], attempts.any Record.depthExceeded⟩
  | none =>
    ⟨rule, start, start, false, none, [], attempts.any Record.depthExceeded⟩

/-! ## Going over a record -/

mutual

/-- The record and all records below it, parents first. -/
def preorder : Record → List Record
  | ⟨rule, start, stop, matched, token, children, depthExceeded⟩ =>
    ⟨rule, start, stop, matched, token, children, depthExceeded⟩ ::
      preorderAll children

def preorderAll : List Record → List Record
  | [] => []
  | r :: rs => preorder r ++ preorderAll rs

end

mutual

/-- The records of `preorder`, each with its level; this one's is `level`. -/
def levels (level : Nat) : Record → List (Nat × Record)
  | ⟨rule, start, stop, matched, token, children, depthExceeded⟩ =>
    (level, ⟨rule, start, stop, matched, token, children, depthExceeded⟩) ::
      levelsAll (level + 1) children

def levelsAll (level : Nat) : List Record → List (Nat × Record)
  | [] => []
  | r :: rs => levels level r ++ levelsAll level rs

end

/-- The outermost record of the rule named `name`, the first of several. -/
def find? (name : String) (r : Record) : Option Record :=
  r.preorder.find? (·.name = some name)

/-- All records of the rule named `name`, outer ones first. -/
def findAll (name : String) (r : Record) : List Record :=
  r.preorder.filter (·.name = some name)

mutual

/-- The tokens that literals accepted, in order. What stands below a record
that did not match does not count. -/
def matchedTokens : Record → List Token
  | ⟨_, _, _, matched, token, children, _⟩ =>
    if matched then token.toList ++ matchedTokensAll children else []

def matchedTokensAll : List Record → List Token
  | [] => []
  | r :: rs => matchedTokens r ++ matchedTokensAll rs

end

mutual

/-- Follow last children for as long as they did not match. -/
def deepestFailure : Record → Record
  | ⟨rule, start, stop, matched, token, children, depthExceeded⟩ =>
    deepestFailureLast
      ⟨rule, start, stop, matched, token, children, depthExceeded⟩ children

/-- The deepest failure below the last of some records, and `otherwise` if
there is no last one or if it matched. -/
def deepestFailureLast (otherwise : Record) : List Record → Record
  | [] => otherwise
  -- only the last record can have failed
  | [r] => if r.matched then otherwise else deepestFailure r
  | _ :: r :: rs => deepestFailureLast otherwise (r :: rs)

end

/-- Where matching stopped, if it did: the deepest record without a match on
the path that was evaluated last. -/
def failure? (r : Record) : Option Record :=
  if r.matched then none else some r.deepestFailure

end Record

end SceneSelector
