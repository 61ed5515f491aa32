import SceneSelector.Grammar.Selector
import SceneSelector.Matcher
import SceneSelector.Query
import SceneSelector.Query.Outline

/-!
# Reading queries

`Query.ofRecord` reads the query that a match record stands for, rule by rule
by their names. Any grammar may use those names, so at every rule an outline
may turn up that is not what the rule of the selector grammar would leave;
the error then names the rule whose outline it is.

`Matcher.parseSelector` reads the query that a text stands for, and accepts
the text only if all of it was matched. Where the depth limit may be to blame
for an incomplete match, that is the error.
-/

namespace SceneSelector

/-- Why there is no query. -/
inductive QueryError where
  | noMatch
  | trailingInput (consumed total : Nat) (next : String)
  | depthLimit (maxDepth : Nat)
  | malformed (rule : String)
deriving DecidableEq, Repr

def QueryError.message : QueryError → String
  | noMatch => "query does not match the selector grammar"
  | trailingInput consumed total next =>
    "unexpected `" ++ next ++ "` after " ++ toString consumed ++ " of " ++
      toString total ++ " tokens"
  | depthLimit maxDepth =>
    "query nests deeper than the engine's depth limit of " ++ toString maxDepth
  | malformed rule => "match tree for `" ++ rule ++ "` has an unexpected shape"

namespace Outline

/-- The value of a `value` part: one token of a kind that values have. -/
def value (name : String) (inside : Outline) : Except QueryError Value :=
  if name = RuleName.value then
    match inside with
    | word .identifier text done => .ok (.identifier text)
    | word .digits text done => .ok (.digits text)
    | word .string text done => .ok (.string text)
    | _ => .error (.malformed name)
  else .error (.malformed name)

/-- The arguments of an `args` part: a value, and after a comma the rest. -/
def args : Outline → Except QueryError (List Value)
  | part name inside done => do
    let v ← value name inside
    return [v]
  | part name inside (word _ _ (part more rest done)) =>
    if more = RuleName.args then do
      let v ← value name inside
      let vs ← rest.args
      return v :: vs
    else .error (.malformed RuleName.args)
  | _ => .error (.malformed RuleName.args)

/-- The pseudo-class of a `pseudoClass` part. -/
def pseudoClass : Outline → Except QueryError PseudoClass
  | word _ _ (word _ name done) => .ok ⟨name, []⟩
  | word _ _ (word _ name (word _ _ (part list inside (word _ _ done)))) =>
    if list = RuleName.args then do
      let vs ← inside.args
      return ⟨name, vs⟩
    else .error (.malformed RuleName.pseudoClass)
  | _ => .error (.malformed RuleName.pseudoClass)

/-- The selector that a sigil and a name make. -/
def sigil? (kind : Kind) (name : String) : Option Selector :=
  match kind with
  | .hash => some (.byId name)
  | .dot => some (.byClass name)
  | _ => none

/-- The selectors of a `selectors` part: one, and those of the part of the
same name that follows it. What comes after that is not looked at. -/
def selectors : Outline → Except QueryError (List Selector)
  | word kind _ (word _ name more) =>
    match sigil? kind name with
    | none => .error (.malformed RuleName.selectors)
    | some s =>
      match more with
      | done => .ok [s]
      | part again rest _ =>
        if again = RuleName.selectors then do
          let ss ← rest.selectors
          return s :: ss
        else .error (.malformed RuleName.selectors)
      | word _ _ _ => .error (.malformed RuleName.selectors)
  | _ => .error (.malformed RuleName.selectors)

/-- The attributes of an `attr` part: one, and those of the part of the same
name that may be all that follows it. -/
def attributes : Outline → Except QueryError (List Attribute)
  | word _ _ (word _ key (word _ _ (part name inside (word _ _ more)))) => do
    let v ← value name inside
    match more with
    | done => return [⟨key, v⟩]
    | part again rest done =>
      if again = RuleName.attr then do
        let as ← rest.attributes
        return ⟨key, v⟩ :: as
      else .error (.malformed RuleName.attr)
    | _ => .error (.malformed RuleName.attr)
  | _ => .error (.malformed RuleName.attr)

/-- A compound with what a list of parts adds to it: selectors and attributes
are added to those it has, a pseudo-class replaces the one it has. `owner` is
the rule that the parts belong to. -/
def qualify (owner : String) : Outline → Compound → Except QueryError Compound
  | done, c => .ok c
  | part name inside rest, c =>
    if name = RuleName.selectors then do
      let ss ← inside.selectors
      rest.qualify owner { c with selectors := c.selectors ++ ss }
    else if name = RuleName.pseudoClass then do
      let p ← inside.pseudoClass
      rest.qualify owner { c with pseudoClass := some p }
    else if name = RuleName.attr then do
      let as ← inside.attributes
      rest.qualify owner { c with attributes := c.attributes ++ as }
    else .error (.malformed owner)
  | word _ _ _, _ => .error (.malformed owner)

/-- The compound of a `typeIdQuery` part: it begins with its target. -/
def typed : Outline → Except QueryError Compound
  | word .identifier name rest =>
    rest.qualify RuleName.typeIdQuery (.ofTarget (.type name))
  | word .star _ rest => rest.qualify RuleName.typeIdQuery (.ofTarget .any)
  | _ => .error (.malformed RuleName.typeIdQuery)

/-- The compound of an `attrQuery` part, which does not name its target. -/
def untyped (inside : Outline) : Except QueryError Compound :=
  inside.qualify RuleName.attrQuery (.ofTarget .unspecified)

/-- A compound and what follows it, if anything does. -/
def chain (c : Compound) : Option (Combinator × Query) → Query
  | none => .single c
  | some (k, rest) => .link c k rest

mutual

/-- The query of a `query` part. Each of its own parts replaces the compound
or the continuation that an earlier part of it may have given. -/
def query (compound : Option Compound)
    (continuation : Option (Combinator × Query)) :
    Outline → Except QueryError Query
  | done =>
    match compound with
    | some c => .ok (chain c continuation)
    | none => .error (.malformed RuleName.query)
  | part name inside rest =>
    if name = RuleName.typeIdQuery then do
      let c ← inside.typed
      query (some c) continuation rest
    else if name = RuleName.attrQuery then do
      let c ← inside.untyped
      query (some c) continuation rest
    else if name = RuleName.subQuery then do
      let s ← subQuery inside
      query compound (some s) rest
    else .error (.malformed RuleName.query)
  | word _ _ _ => .error (.malformed RuleName.query)

/-- The combinator and the query of a `subQuery` part. -/
def subQuery : Outline → Except QueryError (Combinator × Query)
  | word .greater _ (part name inside done) =>
    if name = RuleName.query then do
      let q ← query none none inside
      return (.child, q)
    else .error (.malformed name)
  | part name inside done =>
    if name = RuleName.query then do
      let q ← query none none inside
      return (.descendant, q)
    else .error (.malformed name)
  | _ => .error (.malformed RuleName.subQuery)

end

end Outline

/-- The query that a record of the rule `query` stands for. -/
def Query.ofRecord (r : Record) : Except QueryError Query :=
  if r.matched then
    if r.name = some RuleName.query then r.outline.query none none
    else .error (.malformed r.rule.nameOrLabel)
  else .error .noMatch

namespace Matcher

/-- The query that a text stands for. -/
def parseSelector (m : Matcher) (text : String) : Except QueryError Query :=
  let o := m.parse text
  -- a complete match stands even if the limit cut off some branch
  if !o.isComplete && o.depthExceeded then .error (.depthLimit m.maxDepth)
  else if !o.matched then .error .noMatch
  else
    match o.next? with
    | some next =>
      .error (.trailingInput o.consumed o.tokenCount next.literal)
    | none => Query.ofRecord o.record

end Matcher

end SceneSelector
