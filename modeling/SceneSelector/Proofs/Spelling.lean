import SceneSelector.Query
import SceneSelector.Token

/-!
# How queries are spelled

The words of a query are what its tokens must be, spans and the quotes around
names left aside. `Spells` says that a list of tokens begins with given words.

Words do not determine a query: `.a.b` is one compound with two classes, and
it is also a compound with one class and, anywhere below it, another one.
`Query.joined` undoes all steps of that kind. It keeps the words
(`words_joined`), and two queries that it takes to the same one differ in
nothing but where chains of selectors are broken.
-/

namespace SceneSelector

/-! ## Words -/

/-- What one token of a query must be. -/
inductive Word where
  /-- A token of one kind and spelling. -/
  | exact (kind : Kind) (literal : String)
  /-- A name that may stand in quotes. -/
  | name (literal : String)
deriving DecidableEq, Repr

def Word.Admits : Word → Token → Prop
  | exact kind literal, t => t.kind = kind ∧ t.literal = literal
  | name literal, t =>
    (t.kind = .identifier ∨ t.kind = .string) ∧ t.literal = literal

def Value.word : Value → Word
  | identifier text => .exact .identifier text
  | digits text => .exact .digits text
  | string text => .exact .string text

def argsWords (vs : List Value) : List Word :=
  (vs.map Value.word).intersperse (.exact .comma ",")

/-- Arguments in their parentheses, which are left out if there is nothing
between them. -/
def argumentWords (vs : List Value) : List Word :=
  if vs = [] then []
  else .exact .openParen "(" :: (argsWords vs ++ [.exact .closeParen ")"])

def PseudoClass.words (p : PseudoClass) : List Word :=
  .exact .colon ":" :: .exact .identifier p.name :: argumentWords p.args

def Attribute.words (a : Attribute) : List Word :=
  [.exact .openBracket "[", .exact .identifier a.key, .exact .equals "=",
   a.value.word, .exact .closeBracket "]"]

def Selector.words : Selector → List Word
  | byId name => [.exact .hash "#", .name name]
  | byClass name => [.exact .dot ".", .name name]

def Target.words : Target → List Word
  | type name => [.exact .identifier name]
  | any => [.exact .star "*"]
  | unspecified => []

namespace Compound

def selectorWords (ss : List Selector) : List Word :=
  ss.flatMap Selector.words

def attributeWords (as : List Attribute) : List Word :=
  as.flatMap Attribute.words

/-- The words of what follows the selectors. -/
def qualifierWords (p : Option PseudoClass) (as : List Attribute) :
    List Word :=
  (p.map PseudoClass.words).getD [] ++ attributeWords as

def words (c : Compound) : List Word :=
  c.target.words ++
    (selectorWords c.selectors ++ qualifierWords c.pseudoClass c.attributes)

/-- There is something to see of the compound. -/
def Anchored (c : Compound) : Prop :=
  c.target = .unspecified → c.selectors ≠ []

/-- A compound that ends in its selectors. -/
def Bare (c : Compound) : Prop :=
  c.pseudoClass = none ∧ c.attributes = []

instance (c : Compound) : Decidable c.Bare := by
  unfold Bare
  infer_instance

end Compound

/-- The kinds of token that an anchored compound with this target may begin
with. -/
def Target.openers : Target → List Kind
  | type _ => [.identifier]
  | any => [.star]
  | unspecified => [.hash, .dot]

theorem Compound.words_eq_cons {c : Compound} (h : c.Anchored) :
    ∃ kind ∈ c.target.openers, ∃ literal ws,
      c.words = .exact kind literal :: ws := by
  obtain ⟨target, ss, p, as⟩ := c
  cases target with
  | type name => exact ⟨_, List.mem_singleton_self _, _, _, rfl⟩
  | any => exact ⟨_, List.mem_singleton_self _, _, _, rfl⟩
  | unspecified =>
    obtain ⟨s, ss, rfl⟩ := List.exists_cons_of_ne_nil (h rfl)
    cases s with
    | byId name => exact ⟨.hash, by simp [Target.openers], _, _, rfl⟩
    | byClass name => exact ⟨.dot, by simp [Target.openers], _, _, rfl⟩

def Combinator.words : Combinator → List Word
  | child => [.exact .greater ">"]
  | descendant => []

namespace Query

def words : Query → List Word
  | single c => c.words
  | link c k rest => c.words ++ (k.words ++ rest.words)

/-- There is something to see of every compound. -/
def Anchored : Query → Prop
  | single c => c.Anchored
  | link c _ rest => c.Anchored ∧ rest.Anchored

/-- An anchored query begins with one of its openers. -/
theorem words_eq_cons {q : Query} (h : q.Anchored) :
    ∃ kind ∈ q.head.target.openers, ∃ literal ws,
      q.words = .exact kind literal :: ws := by
  cases q with
  | single c => exact Compound.words_eq_cons h
  | link c k rest =>
    obtain ⟨kind, hkind, literal, ws, hws⟩ := Compound.words_eq_cons h.1
    refine ⟨kind, hkind, literal, ws ++ (k.words ++ rest.words), ?_⟩
    rw [words, hws, List.cons_append]

end Query

/-- `Spells ws ts ahead`: the tokens `ts` begin with the words `ws`, and
`ahead` is what follows them. -/
inductive Spells : List Word → List Token → List Token → Prop where
  | nil {ts : List Token} : Spells [] ts ts
  | cons {w : Word} {ws : List Word} {t : Token} {ts ahead : List Token}
      (admits : w.Admits t) (rest : Spells ws ts ahead) :
      Spells (w :: ws) (t :: ts) ahead

namespace Spells

variable {ws ws' : List Word} {w : Word} {ts mid ahead : List Token}

theorem append (h : Spells ws ts mid) (h' : Spells ws' mid ahead) :
    Spells (ws ++ ws') ts ahead := by
  induction h with
  | nil => exact h'
  | cons admits _ ih => exact .cons admits (ih h')

theorem of_append (h : Spells (ws ++ ws') ts ahead) :
    ∃ mid, Spells ws ts mid ∧ Spells ws' mid ahead := by
  induction ws generalizing ts with
  | nil => exact ⟨ts, .nil, h⟩
  | cons w ws ih =>
    cases h with
    | cons admits rest =>
      obtain ⟨mid, hmid, hrest⟩ := ih rest
      exact ⟨mid, .cons admits hmid, hrest⟩

@[simp] theorem nil_iff : Spells [] ts ahead ↔ ts = ahead := by
  constructor
  · intro h
    cases h
    rfl
  · rintro rfl
    exact .nil

theorem append_iff : Spells (ws ++ ws') ts ahead ↔
    ∃ mid, Spells ws ts mid ∧ Spells ws' mid ahead :=
  ⟨of_append, fun ⟨_, h, h'⟩ => h.append h'⟩

theorem cons_iff : Spells (w :: ws) ts ahead ↔
    ∃ mid, Spells [w] ts mid ∧ Spells ws mid ahead := by
  rw [← append_iff, List.singleton_append]

theorem singleton_iff : Spells [w] ts ahead ↔
    ∃ t, ts = t :: ahead ∧ w.Admits t := by
  constructor
  · intro h
    cases h with
    | cons admits rest =>
      cases rest
      exact ⟨_, rfl, admits⟩
  · intro h
    obtain ⟨t, rfl, h⟩ := h
    exact .cons h .nil

theorem length_eq (h : Spells ws ts ahead) :
    ts.length = ws.length + ahead.length := by
  induction h with
  | nil => simp
  | cons _ _ ih =>
    simp only [List.length_cons]
    omega

/-- Words that are followed by `ahead` are followed by it wherever they
stand. -/
theorem exists_prefix (h : Spells ws ts ahead) :
    ∃ pre, ts = pre ++ ahead ∧ Spells ws pre [] := by
  induction h with
  | nil => exact ⟨[], rfl, .nil⟩
  | @cons w ws t ts ahead admits _ ih =>
    obtain ⟨pre, rfl, hpre⟩ := ih
    exact ⟨t :: pre, rfl, .cons admits hpre⟩

theorem append_right (h : Spells ws ts mid) (more : List Token) :
    Spells ws (ts ++ more) (mid ++ more) := by
  induction h with
  | nil => exact .nil
  | cons admits _ ih => exact .cons admits ih

end Spells

/-! ## Broken chains of selectors -/

/-- A compound that goes on where a bare one ends. -/
def Compound.followedBy (c next : Compound) : Compound :=
  { next with target := c.target, selectors := c.selectors ++ next.selectors }

namespace Query

/-- The same query with the target and the selectors of `c` in front. -/
def prepend (c : Compound) : Query → Query
  | single next => single (c.followedBy next)
  | link next k rest => link (c.followedBy next) k rest

/-- Nothing tells the end of `c` from the beginning of the query below. -/
def Seamless (c : Compound) (k : Combinator) (rest : Query) : Prop :=
  k = .descendant ∧ c.Bare ∧ rest.head.target = .unspecified

instance (c : Compound) (k : Combinator) (rest : Query) :
    Decidable (Seamless c k rest) := by
  unfold Seamless
  infer_instance

/-- No chain of selectors is broken. -/
def Unbroken : Query → Prop
  | single _ => True
  | link c k rest => ¬ Seamless c k rest ∧ rest.Unbroken

/-- A compound in front of a query, as one with its first compound if nothing
tells them apart. -/
def join (c : Compound) (k : Combinator) (rest : Query) : Query :=
  if Seamless c k rest then rest.prepend c else link c k rest

/-- The query with no chain of selectors broken. -/
def joined : Query → Query
  | single c => single c
  | link c k rest => join c k rest.joined

/-! Where nothing tells two compounds apart, they are spelled like one. -/

theorem words_followedBy {c next : Compound} (hc : c.Bare)
    (hnext : next.target = .unspecified) :
    (c.followedBy next).words = c.words ++ next.words := by
  obtain ⟨hp, ha⟩ := hc
  simp [Compound.words, Compound.followedBy, Compound.selectorWords,
    Compound.qualifierWords, Compound.attributeWords, hp, ha, hnext,
    Target.words]

theorem words_prepend {c : Compound} {q : Query} (hc : c.Bare)
    (hq : q.head.target = .unspecified) :
    (q.prepend c).words = c.words ++ q.words := by
  cases q with
  | single next => exact words_followedBy hc hq
  | link next k rest =>
    have hnext : next.target = .unspecified := hq
    rw [prepend, words, words_followedBy hc hnext, words, List.append_assoc]

theorem words_join (c : Compound) (k : Combinator) (rest : Query) :
    (join c k rest).words = (link c k rest).words := by
  unfold join
  split
  · next h =>
    obtain ⟨rfl, hc, hrest⟩ := h
    rw [words_prepend hc hrest]
    rfl
  · rfl

/-- Joining is not seen in the words. -/
theorem words_joined (q : Query) : q.joined.words = q.words := by
  induction q with
  | single c => rfl
  | link c k rest ih => rw [joined, words_join, words, words, ih]

/-- `.a .b` is `.a.b` once joined. -/
example : joined (.link ⟨.unspecified, [.byClass "a"], none, []⟩ .descendant
    (.single ⟨.unspecified, [.byClass "b"], none, []⟩)) =
    .single ⟨.unspecified, [.byClass "a", .byClass "b"], none, []⟩ := rfl

theorem anchored_prepend {c : Compound} {q : Query} (hc : c.Anchored)
    (hq : q.Anchored) : (q.prepend c).Anchored := by
  have hfollowed (next : Compound) : (c.followedBy next).Anchored := by
    intro htarget hnil
    exact hc htarget (List.append_eq_nil_iff.mp hnil).1
  cases q with
  | single next => exact hfollowed next
  | link next k rest => exact ⟨hfollowed next, hq.2⟩

theorem anchored_joined {q : Query} (h : q.Anchored) : q.joined.Anchored := by
  induction q with
  | single c => exact h
  | link c k rest ih =>
    rw [joined, join]
    split
    · exact anchored_prepend h.1 (ih h.2)
    · exact ⟨h.1, ih h.2⟩

theorem unbroken_prepend {c : Compound} {q : Query} (h : q.Unbroken) :
    (q.prepend c).Unbroken := by
  cases q with
  | single next => trivial
  | link next k rest => exact h

/-- Nothing is left to be joined. -/
theorem unbroken_joined (q : Query) : q.joined.Unbroken := by
  induction q with
  | single c => trivial
  | link c k rest ih =>
    rw [joined, join]
    split
    · exact unbroken_prepend ih
    · next h => exact ⟨h, ih⟩

end Query

end SceneSelector
