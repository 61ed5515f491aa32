import SceneSelector.Token

/-!
# Rules of a grammar

A rule is a tree. Its leaves accept one token, accept nothing at all, or
refer to another rule by name; its branches ask for all of their rules in
turn, for the one that reaches furthest, or for the first that fits. There is
no rule of its own for "`r` or nothing": that is the alternation of `r` and
the empty rule, which `isOptional` recognises.
-/

namespace SceneSelector

/-- What a rule carries beside its meaning. Neither part has an effect on
matching; the name is how records and grammars refer to the rule. -/
structure Tag where
  name : Option String
  priority : Int
deriving DecidableEq, Repr

/-- The tag of a rule that was given neither a name nor a priority. -/
def Tag.blank : Tag :=
  ⟨none, 0⟩

inductive Rule where
  /-- One token that the pattern accepts. -/
  | literal (tag : Tag) (pattern : Pattern)
  /-- All rules, in order. -/
  | sequence (tag : Tag) (rules : List Rule)
  /-- The rule that matches furthest, the earliest of several. -/
  | alternation (tag : Tag) (rules : List Rule)
  /-- The first rule that matches. -/
  | exclusive (tag : Tag) (rules : List Rule)
  /-- Nothing, which always matches. -/
  | empty (tag : Tag)
  /-- The rule that the grammar knows as `target`. A reference marked `lazy`
  means the same; the mark says that a rule refers back to itself. -/
  | reference (tag : Tag) (target : String) (lazy : Bool)
deriving Repr

namespace Rule

def tag : Rule → Tag
  | literal t _ | sequence t _ | alternation t _ | exclusive t _ | empty t
  | reference t _ _ => t

def name (r : Rule) : Option String :=
  r.tag.name

def priority (r : Rule) : Int :=
  r.tag.priority

/-- The same rule with another tag. -/
def withTag (t : Tag) : Rule → Rule
  | literal _ p => literal t p
  | sequence _ rs => sequence t rs
  | alternation _ rs => alternation t rs
  | exclusive _ rs => exclusive t rs
  | empty _ => empty t
  | reference _ target lazy => reference t target lazy

def named (name : String) (r : Rule) : Rule :=
  r.withTag { r.tag with name := some name }

def withPriority (priority : Int) (r : Rule) : Rule :=
  r.withTag { r.tag with priority := priority }

/-- What sort of rule it is, in one word. -/
def label : Rule → String
  | literal _ _ => "literal"
  | sequence _ _ => "sequence"
  | alternation _ _ => "alternation"
  | exclusive _ _ => "exclusive"
  | empty _ => "empty"
  | reference _ _ _ => "reference"

/-- The name of a rule, or what sort it is if it has none. -/
def nameOrLabel (r : Rule) : String :=
  r.name.getD r.label

/-- The rules of a branch; a leaf has none. -/
def children : Rule → List Rule
  | sequence _ rs | alternation _ rs | exclusive _ rs => rs
  | literal _ _ | empty _ | reference _ _ _ => []

def isComposite : Rule → Bool
  | sequence _ _ | alternation _ _ | exclusive _ _ => true
  | literal _ _ | empty _ | reference _ _ _ => false

def isEmpty : Rule → Bool
  | empty _ => true
  | _ => false

/-- The name that a reference refers to. -/
def target? : Rule → Option String
  | reference _ target _ => some target
  | _ => none

/-- A reference that is marked as referring back. -/
def isLazy : Rule → Bool
  | reference _ _ lazy => lazy
  | _ => false

/-- An alternation of several rules whose last one is the empty rule. -/
def isOptional : Rule → Bool
  | alternation _ rs => 1 < rs.length && rs.getLast?.any isEmpty
  | _ => false

/-! ## Making rules -/

def ofPattern (p : Pattern) : Rule :=
  literal .blank p

def ofKind (k : Kind) : Rule :=
  ofPattern (.ofKind k)

/-- A reserved symbol, if it is one. -/
def ofSymbol? (symbol : String) : Option Rule :=
  (Pattern.reserved? symbol).map ofPattern

def identifier : Rule := ofKind .identifier

def digits : Rule := ofKind .digits

def string : Rule := ofKind .string

/-- `r` or nothing. -/
def optional (r : Rule) : Rule :=
  alternation .blank [r, empty .blank]

def referTo (target : String) : Rule :=
  reference .blank target false

def referBackTo (target : String) : Rule :=
  reference .blank target true

/-! ## Going over a rule -/

mutual

/-- The rule and all rules below it, parents first. -/
def walk : Rule → List Rule
  | literal t p => [literal t p]
  | sequence t rs => sequence t rs :: walkAll rs
  | alternation t rs => alternation t rs :: walkAll rs
  | exclusive t rs => exclusive t rs :: walkAll rs
  | empty t => [empty t]
  | reference t target lazy => [reference t target lazy]

/-- The walks of several rules, one after the other. -/
def walkAll : List Rule → List Rule
  | [] => []
  | r :: rs => walk r ++ walkAll rs

end

/-- The names that a rule refers to, in the order of the walk. -/
def references (r : Rule) : List String :=
  r.walk.filterMap target?

/-! ## Copies -/

mutual

/-- The rule built anew, node by node: each copy has the tag of its model and
what else the model holds. -/
def duplicate : Rule → Rule
  | literal t p => literal t p
  | sequence t rs => sequence t (duplicateAll rs)
  | alternation t rs => alternation t (duplicateAll rs)
  | exclusive t rs => exclusive t (duplicateAll rs)
  | empty t => empty t
  | reference t target lazy => reference t target lazy

/-- A copy of each rule. -/
def duplicateAll : List Rule → List Rule
  | [] => []
  | r :: rs => duplicate r :: duplicateAll rs

end

mutual

/-- A copy cannot be told from its model. -/
@[simp] theorem duplicate_eq : ∀ r : Rule, r.duplicate = r
  | literal _ _ | empty _ | reference _ _ _ => rfl
  | sequence _ rs | alternation _ rs | exclusive _ rs => by
    rw [duplicate, duplicateAll_eq rs]

@[simp] theorem duplicateAll_eq : ∀ rs : List Rule, duplicateAll rs = rs
  | [] => rfl
  | r :: rs => by rw [duplicateAll, duplicate_eq r, duplicateAll_eq rs]

end

/-! ## Equality -/

mutual

/-- Equality of rules can be decided. -/
def decideEq : (a b : Rule) → Decidable (a = b)
  | literal t p, literal t' p' =>
    decidable_of_iff (t = t' ∧ p = p') (by simp)
  | sequence t rs, sequence t' rs' =>
    have := decideEqAll rs rs'
    decidable_of_iff (t = t' ∧ rs = rs') (by simp)
  | alternation t rs, alternation t' rs' =>
    have := decideEqAll rs rs'
    decidable_of_iff (t = t' ∧ rs = rs') (by simp)
  | exclusive t rs, exclusive t' rs' =>
    have := decideEqAll rs rs'
    decidable_of_iff (t = t' ∧ rs = rs') (by simp)
  | empty t, empty t' => decidable_of_iff (t = t') (by simp)
  | reference t n l, reference t' n' l' =>
    decidable_of_iff (t = t' ∧ n = n' ∧ l = l') (by simp)
  | literal .., sequence .. | literal .., alternation ..
  | literal .., exclusive .. | literal .., empty .. | literal .., reference ..
  | sequence .., literal .. | sequence .., alternation ..
  | sequence .., exclusive .. | sequence .., empty ..
  | sequence .., reference ..
  | alternation .., literal .. | alternation .., sequence ..
  | alternation .., exclusive .. | alternation .., empty ..
  | alternation .., reference ..
  | exclusive .., literal .. | exclusive .., sequence ..
  | exclusive .., alternation .. | exclusive .., empty ..
  | exclusive .., reference ..
  | empty .., literal .. | empty .., sequence .. | empty .., alternation ..
  | empty .., exclusive .. | empty .., reference ..
  | reference .., literal .. | reference .., sequence ..
  | reference .., alternation .. | reference .., exclusive ..
  | reference .., empty .. => isFalse (by simp)

/-- Equality of lists of rules can be decided. -/
def decideEqAll : (as bs : List Rule) → Decidable (as = bs)
  | [], [] => isTrue rfl
  | [], _ :: _ => isFalse (by simp)
  | _ :: _, [] => isFalse (by simp)
  | a :: as, b :: bs =>
    have := decideEq a b
    have := decideEqAll as bs
    decidable_of_iff (a = b ∧ as = bs) (by simp)

end

instance : DecidableEq Rule := decideEq

end Rule

end SceneSelector
