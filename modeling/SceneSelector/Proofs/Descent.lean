import SceneSelector.Query
import SceneSelector.Token

/-!
# Reading queries by recursive descent

The selector grammar as functions on the tokens ahead, one for each rule that
has something to read: what they return is the typed part itself and the
tokens that are left. The budget counts the levels of rules that are left to
nest, so each function says how many levels its rule takes and how many it
hands on:

- a selector takes three levels and hands on the rest to the next one, so
  that `b` levels are worth `b / 3` selectors;
- an attribute needs four and the next one has three fewer;
- an argument takes four;
- a compound takes three, the next compound of a chain has five fewer.

Where the levels do not suffice for one more selector, attribute or argument,
reading simply ends before it, as if it were not there.
-/

namespace SceneSelector

theorem Pattern.accepts_iff (p : Pattern) (t : Token) :
    p.accepts t = true ↔ t.kind = p.kind ∧ ∀ l ∈ p.literal, l = t.literal := by
  simp [accepts, Option.all_eq_true]

theorem Pattern.accepts_exact (kind : Kind) (spelling : String) (t : Token) :
    (exact kind spelling).accepts t = true ↔
      t.kind = kind ∧ t.literal = spelling := by
  rw [accepts_iff]
  simp [exact, eq_comm]

theorem Pattern.accepts_ofKind (kind : Kind) (t : Token) :
    (ofKind kind).accepts t = true ↔ t.kind = kind := by
  rw [accepts_iff]
  simp [ofKind]

namespace Descent

/-- Read one token, if there is one and `f` has a meaning for it. -/
def first {α : Type} (f : Token → Option α) : List Token → Option (α × List Token)
  | [] => none
  | t :: ts => (f t).map (·, ts)

/-! ## What single tokens mean -/

/-- A symbol of the language, which must be spelled right as well. -/
def symbol? (kind : Kind) (spelling : String) (t : Token) : Option Unit :=
  if (Pattern.exact kind spelling).accepts t then some () else none

def identifier? (t : Token) : Option String :=
  if t.kind = .identifier then some t.literal else none

/-- The name of an id or a class. -/
def name? (t : Token) : Option String :=
  match t.kind with
  | .identifier | .string => some t.literal
  | _ => none

/-- What a name makes after this token. -/
def sigil? (t : Token) : Option (String → Selector) :=
  if (Pattern.exact .hash "#").accepts t then some .byId
  else if (Pattern.exact .dot ".").accepts t then some .byClass
  else none

def value? (t : Token) : Option Value :=
  match t.kind with
  | .identifier => some (.identifier t.literal)
  | .digits => some (.digits t.literal)
  | .string => some (.string t.literal)
  | _ => none

def target? (t : Token) : Option Target :=
  if t.kind = .identifier then some (.type t.literal)
  else if (Pattern.exact .star "*").accepts t then some .any
  else none

/-! ## The parts of a compound -/

def oneSelector (ts : List Token) : Option (Selector × List Token) := do
  let (make, ts) ← first sigil? ts
  let (name, ahead) ← first name? ts
  return (make name, ahead)

def selectors : Nat → List Token → Option (List Selector × List Token)
  | b + 3, ts => do
    let (s, ts) ← oneSelector ts
    let (more, ahead) := (selectors b ts).getD ([], ts)
    return (s :: more, ahead)
  | _, _ => none

def args : Nat → List Token → Option (List Value × List Token)
  | b + 4, ts => do
    let (v, ts) ← first value? ts
    let next := do
      let (_, ts) ← first (symbol? .comma ",") ts
      args b ts
    let (more, ahead) := next.getD ([], ts)
    return (v :: more, ahead)
  | _, _ => none

/-- Arguments in their parentheses. -/
def argumentList (b : Nat) (ts : List Token) :
    Option (List Value × List Token) := do
  let (_, ts) ← first (symbol? .openParen "(") ts
  let (vs, ts) ← args b ts
  let (_, ahead) ← first (symbol? .closeParen ")") ts
  return (vs, ahead)

def pseudoClass : Nat → List Token → Option (PseudoClass × List Token)
  | b + 3, ts => do
    let (_, ts) ← first (symbol? .colon ":") ts
    let (name, ts) ← first identifier? ts
    let (vs, ahead) := (argumentList (b - 1) ts).getD ([], ts)
    return (⟨name, vs⟩, ahead)
  | _, _ => none

def oneAttribute (ts : List Token) : Option (Attribute × List Token) := do
  let (_, ts) ← first (symbol? .openBracket "[") ts
  let (key, ts) ← first identifier? ts
  let (_, ts) ← first (symbol? .equals "=") ts
  let (v, ts) ← first value? ts
  let (_, ahead) ← first (symbol? .closeBracket "]") ts
  return (⟨key, v⟩, ahead)

def attributes : Nat → List Token → Option (List Attribute × List Token)
  | b + 4, ts => do
    let (a, ts) ← oneAttribute ts
    let (more, ahead) := (attributes (b + 1) ts).getD ([], ts)
    return (a :: more, ahead)
  | _, _ => none

/-! ## Compounds and chains -/

/-- The rest of a compound whose target and selectors have been read. -/
def qualified (b : Nat) (target : Target) (ss : List Selector)
    (ts : List Token) : Compound × List Token :=
  let (p, ts) := ((pseudoClass b ts).map fun (p, ts) => (some p, ts)).getD
    (none, ts)
  let (as, ahead) := (attributes b ts).getD ([], ts)
  (⟨target, ss, p, as⟩, ahead)

/-- A compound that names its target. -/
def typed : Nat → List Token → Option (Compound × List Token)
  | b + 3, ts => do
    let (target, ts) ← first target? ts
    let (ss, ts) := (selectors b ts).getD ([], ts)
    return qualified b target ss ts
  | _, _ => none

/-- A compound that begins with a selector. -/
def untyped : Nat → List Token → Option (Compound × List Token)
  | b + 3, ts => do
    let (ss, ts) ← selectors (b + 1) ts
    return qualified b .unspecified ss ts
  | _, _ => none

def compound (b : Nat) (ts : List Token) : Option (Compound × List Token) :=
  (typed b ts).or (untyped b ts)

/-- A combinator and what `next` reads after it. Once a `>` is read there is
no way back to a reading without it. -/
def link (next : List Token → Option (Query × List Token))
    (ts : List Token) : Option ((Combinator × Query) × List Token) :=
  match first (symbol? .greater ">") ts with
  | some (_, ts) => (next ts).map fun (q, ahead) => ((.child, q), ahead)
  | none => (next ts).map fun (q, ahead) => ((.descendant, q), ahead)

def query : Nat → List Token → Option (Query × List Token)
  | b + 5, ts => do
    let (c, ts) ← compound (b + 2) ts
    match link (query b) ts with
    | some ((k, q), ahead) => return (.link c k q, ahead)
    | none => return (.single c, ts)
  | _, _ => none

end Descent

end SceneSelector
