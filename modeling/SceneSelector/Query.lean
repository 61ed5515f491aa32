import SceneSelector.Text.Identifier
import SceneSelector.Text.Quoted

/-!
# Selector queries

A query is a chain of compounds. A compound says what kind of node is meant
and by which ids, classes, pseudo-class and attributes it is told; a
combinator between two compounds says whether the nodes of the second are
children of those of the first or lie anywhere below them.

`Query.display` writes a query in its canonical form: no blanks but around
combinators, names as identifiers where they are identifiers, and all other
names and strings in double quotes.
-/

namespace SceneSelector

/-- What kind of node a compound is about. -/
inductive Target where
  /-- Nodes of a type. -/
  | type (name : String)
  /-- Nodes of any type, written `*`. -/
  | any
  /-- Nodes of any type, not written at all. -/
  | unspecified
deriving DecidableEq, Repr

inductive Selector where
  | byId (name : String)
  | byClass (name : String)
deriving DecidableEq, Repr

/-- The value of an attribute or the argument of a pseudo-class. -/
inductive Value where
  | identifier (text : String)
  | digits (text : String)
  | string (text : String)
deriving DecidableEq, Repr

structure PseudoClass where
  name : String
  args : List Value
deriving DecidableEq, Repr

structure Attribute where
  key : String
  value : Value
deriving DecidableEq, Repr

structure Compound where
  target : Target
  selectors : List Selector
  pseudoClass : Option PseudoClass
  attributes : List Attribute
deriving DecidableEq, Repr

inductive Combinator where
  | child
  | descendant
deriving DecidableEq, Repr

inductive Query where
  | single (compound : Compound)
  | link (compound : Compound) (combinator : Combinator) (rest : Query)
deriving DecidableEq, Repr

/-- A compound of which nothing but the target is known. -/
def Compound.ofTarget (t : Target) : Compound :=
  ⟨t, [], none, []⟩

/-- The text of a value, without quotes and escapes. -/
def Value.text : Value → String
  | identifier text | digits text | string text => text

namespace Query

/-- The first compound. -/
def head : Query → Compound
  | single c | link c _ _ => c

/-- The number of compounds. -/
def depth : Query → Nat
  | single _ => 1
  | link _ _ rest => rest.depth + 1

/-- The query of the last compound alone, whose nodes are selected. -/
def leaf : Query → Query
  | single c => single c
  | link _ _ rest => rest.leaf

/-- The values of the first compound: those of its attributes, then the
arguments of its pseudo-class. -/
def values (q : Query) : List Value :=
  q.head.attributes.map Attribute.value ++
    (q.head.pseudoClass.map PseudoClass.args).getD []

end Query

/-! ## The canonical form -/

/-- A name as it stands after `#` and `.`: bare if it is an identifier. -/
def displayName (name : String) : String :=
  if Identifier.isIdentifier name then name else Quoted.quote name

def Value.display : Value → String
  | identifier text | digits text => text
  | string text => Quoted.quote text

def Target.display : Target → String
  | type name => name
  | any => "*"
  | unspecified => ""

def Selector.display : Selector → String
  | byId name => "#" ++ displayName name
  | byClass name => "." ++ displayName name

/-- The parentheses are written only if there is something between them. -/
def PseudoClass.display (p : PseudoClass) : String :=
  ":" ++ p.name ++
    if p.args.isEmpty then ""
    else "(" ++ ",".intercalate (p.args.map Value.display) ++ ")"

def Attribute.display (a : Attribute) : String :=
  "[" ++ a.key ++ "=" ++ a.value.display ++ "]"

def Compound.display (c : Compound) : String :=
  c.target.display ++ String.join (c.selectors.map Selector.display) ++
    (c.pseudoClass.map PseudoClass.display).getD "" ++
    String.join (c.attributes.map Attribute.display)

def Combinator.display : Combinator → String
  | child => " > "
  | descendant => " "

def Query.display : Query → String
  | single c => c.display
  | link c k rest => c.display ++ k.display ++ rest.display

end SceneSelector
