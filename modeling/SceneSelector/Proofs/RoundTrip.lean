import SceneSelector.Proofs.DepthLimit
import SceneSelector.Proofs.Descent.Exactness
import SceneSelector.Proofs.Lexing

/-!
# Printing and parsing

Which queries are read back from their canonical form? Those that are
`Query.WellFormed` (`parseSelector_of_wellFormed`): names and values are what
their tokens can hold, every compound can be seen, and no chain of selectors is
broken. These are also the only queries that a text can stand for, unless the
depth limit interferes (`wellFormed_of_parseSelector`).

Where it does interfere, the query may have a broken chain, and then its
canonical form stands for something else under most other limits. Under the
same limit it still stands for the query: printing changes how the words of a
query are written, and it is the words that decide what is read
(`parseSelector_display_iff`).
-/

namespace SceneSelector

/-! ## Well-formed queries -/

def Value.WellFormed : Value → Prop
  | identifier text => Identifier.isIdentifier text = true
  | digits text => IsDigits text
  | string _ => True

def Target.WellFormed : Target → Prop
  | type name => Identifier.isIdentifier name = true
  | any | unspecified => True

structure PseudoClass.WellFormed (p : PseudoClass) : Prop where
  name : Identifier.isIdentifier p.name = true
  args : ∀ v ∈ p.args, v.WellFormed

structure Attribute.WellFormed (a : Attribute) : Prop where
  key : Identifier.isIdentifier a.key = true
  value : a.value.WellFormed

/-- The names of ids and classes may be any text, since they can be quoted. -/
structure Compound.WellFormed (c : Compound) : Prop where
  target : c.target.WellFormed
  pseudoClass : ∀ p ∈ c.pseudoClass, p.WellFormed
  attributes : ∀ a ∈ c.attributes, a.WellFormed
  anchored : c.Anchored

/-- A query below a compound begins with a target, unless a `>` or a
pseudo-class or an attribute of the compound stands before it. -/
def Query.WellFormed : Query → Prop
  | single c => c.WellFormed
  | link c k rest => c.WellFormed ∧ ¬ Seamless c k rest ∧ rest.WellFormed

/-- Every compound is well formed, wherever chains of selectors are broken. -/
def Query.Legible : Query → Prop
  | single c => c.WellFormed
  | link c _ rest => c.WellFormed ∧ rest.Legible

namespace Query

theorem wellFormed_iff {q : Query} :
    q.WellFormed ↔ q.Legible ∧ q.Unbroken := by
  induction q with
  | single c => exact (and_iff_left trivial).symm
  | link c k rest ih =>
    simp only [WellFormed, Legible, Unbroken, ih]
    constructor
    · rintro ⟨hc, hseamless, hlegible, hunbroken⟩
      exact ⟨⟨hc, hlegible⟩, hseamless, hunbroken⟩
    · rintro ⟨⟨hc, hlegible⟩, hseamless, hunbroken⟩
      exact ⟨hc, hseamless, hlegible, hunbroken⟩

theorem Legible.anchored {q : Query} (h : q.Legible) : q.Anchored := by
  induction q with
  | single c => exact Compound.WellFormed.anchored h
  | link c k rest ih => exact ⟨h.1.anchored, ih h.2⟩

end Query

/-! ## What is printed is spelled by its tokens -/

namespace Lexer

theorem prints_value {v : Value} (h : v.WellFormed) :
    Prints [v.word] v.display := by
  cases v with
  | identifier text => exact prints_identifier h
  | digits text => exact prints_digits h
  | string text => exact (delimits_quote text).prints

theorem argsWords_eq_intercalate (vs : List Value) :
    argsWords vs =
      [.exact .comma ","].intercalate (vs.map fun v => [v.word]) := by
  induction vs with
  | nil => rfl
  | cons v vs ih =>
    cases vs with
    | nil => rfl
    | cons v' vs =>
      rw [List.map_cons] at ih
      rw [List.map_cons, List.map_cons, List.intercalate_cons_cons, ← ih]
      rfl

theorem prints_args {vs : List Value} (h : ∀ v ∈ vs, v.WellFormed) :
    Prints (argsWords vs) (",".intercalate (vs.map Value.display)) := by
  rw [argsWords_eq_intercalate]
  exact .intercalate (delimits_symbol rfl rfl rfl)
    (ends_symbol rfl (by decide)) fun v hv => prints_value (h v hv)

theorem prints_arguments {vs : List Value} (h : ∀ v ∈ vs, v.WellFormed) :
    Prints (argumentWords vs)
        (if vs.isEmpty then ""
         else "(" ++ ",".intercalate (vs.map Value.display) ++ ")") ∧
      Ends (if vs.isEmpty then ""
         else "(" ++ ",".intercalate (vs.map Value.display) ++ ")").toList := by
  cases vs with
  | nil => exact ⟨.empty, .nil⟩
  | cons v vs =>
    rw [argumentWords, if_neg (List.cons_ne_nil _ _)]
    simp only [List.isEmpty_cons, Bool.false_eq_true, if_false,
      String.append_assoc]
    refine ⟨?_, ends_symbol rfl (by decide) _⟩
    exact (delimits_symbol rfl rfl rfl).append
      ((prints_args h).append (delimits_symbol rfl rfl rfl).prints
        (.cons (by decide : Identifier.isRest ')' = false) []))

theorem prints_pseudoClass {p : PseudoClass} (h : p.WellFormed) :
    Prints p.words p.display := by
  obtain ⟨hargs, hends⟩ := prints_arguments h.args
  rw [PseudoClass.display, String.append_assoc]
  exact (delimits_symbol rfl rfl rfl).append
    ((prints_identifier h.name).append hargs hends)

theorem prints_attribute {a : Attribute} (h : a.WellFormed) :
    Prints a.words a.display := by
  simp only [Attribute.display, String.append_assoc]
  exact (delimits_symbol rfl rfl rfl).append
    ((prints_identifier h.key).append
      ((delimits_symbol rfl rfl rfl).append
        ((prints_value h.value).append (delimits_symbol rfl rfl rfl).prints
          (.cons (by decide : Identifier.isRest ']' = false) [])))
      (ends_symbol rfl (by decide) _))

theorem prints_selector (s : Selector) : Prints s.words s.display := by
  cases s with
  | byId name => exact (delimits_symbol rfl rfl rfl).append (prints_name name)
  | byClass name =>
    exact (delimits_symbol rfl rfl rfl).append (prints_name name)

theorem prints_target {t : Target} (h : t.WellFormed) :
    Prints t.words t.display := by
  cases t with
  | type name => exact prints_identifier h
  | any => exact (delimits_symbol rfl rfl rfl).prints
  | unspecified => exact .empty

theorem ends_selector (s : Selector) : Ends s.display.toList := by
  cases s with
  | byId name => exact ends_symbol rfl (by decide) _
  | byClass name => exact ends_symbol rfl (by decide) _

theorem ends_attribute (a : Attribute) : Ends a.display.toList := by
  simp only [Attribute.display, String.append_assoc]
  exact ends_symbol rfl (by decide) _

theorem prints_compound {c : Compound} (h : c.WellFormed) :
    Prints c.words c.display := by
  obtain ⟨target, ss, p, as⟩ := c
  obtain ⟨hss, hssEnds⟩ := Prints.join (l := ss)
    (fun s _ => prints_selector s) ends_selector
  obtain ⟨has, hasEnds⟩ := Prints.join (l := as)
    (fun a ha => prints_attribute (h.attributes a ha)) ends_attribute
  have hp : Prints ((p.map PseudoClass.words).getD [])
      ((p.map PseudoClass.display).getD "") ∧
      Ends ((p.map PseudoClass.display).getD "").toList := by
    cases p with
    | none => exact ⟨.empty, .nil⟩
    | some p =>
      refine ⟨prints_pseudoClass (h.pseudoClass p rfl), ?_⟩
      simp only [Option.map_some, Option.getD_some, PseudoClass.display,
        String.append_assoc]
      exact ends_symbol rfl (by decide) _
  obtain ⟨hp, hpEnds⟩ := hp
  simp only [Compound.display, String.append_assoc]
  refine (prints_target h.target).append
    (hss.append (hp.append has hasEnds) ?_) ?_
  · rw [String.toList_append]
    exact hpEnds.append hasEnds
  · simp only [String.toList_append]
    exact hssEnds.append (hpEnds.append hasEnds)

theorem delimits_combinator (k : Combinator) : Delimits k.words k.display := by
  intro rest
  cases k with
  | child =>
    have hgreater : Lexes [.exact .greater ">"] ('>' :: ' ' :: rest)
        (' ' :: rest) := delimits_symbol rfl rfl rfl _
    exact (lexes_blank rfl _).trans (hgreater.trans (lexes_blank rfl rest))
  | descendant => exact delimits_blank rest

theorem prints_query {q : Query} (h : q.Legible) :
    Prints q.words q.display := by
  induction q with
  | single c => exact prints_compound h
  | link c k rest ih =>
    rw [Query.display, String.append_assoc]
    refine (prints_compound h.1).append
      ((delimits_combinator k).append (ih h.2)) ?_
    rw [String.toList_append]
    cases k <;> exact .cons (by decide : Identifier.isRest ' ' = false) _

end Lexer

/-! ## What is spelled by tokens of a text is well formed -/

/-- A word that some token of a text can be. -/
def Word.Lexical : Word → Prop
  | exact kind literal => kind.Allows literal
  | name _ => True

theorem Spells.lexical {ws : List Word} {ts ahead : List Token}
    (h : Spells ws ts ahead) (hts : ∀ t ∈ ts, t.kind.Allows t.literal) :
    ∀ w ∈ ws, w.Lexical := by
  induction h with
  | nil =>
    intro w hw
    cases hw
  | @cons w ws t ts ahead admits _ ih =>
    obtain ⟨ht, hts⟩ := List.forall_mem_cons.mp hts
    refine List.forall_mem_cons.mpr ⟨?_, ih hts⟩
    cases w with
    | exact kind literal =>
      obtain ⟨rfl, rfl⟩ := admits
      exact ht
    | name literal => trivial

theorem Value.wellFormed_of_lexical {v : Value} (h : v.word.Lexical) :
    v.WellFormed := by
  cases v with
  | identifier text => exact h
  | digits text => exact h
  | string text => trivial

theorem mem_argsWords {v : Value} {vs : List Value} (h : v ∈ vs) :
    v.word ∈ argsWords vs := by
  induction vs with
  | nil => cases h
  | cons v' vs ih =>
    cases vs with
    | nil =>
      rw [List.mem_singleton.mp h]
      exact List.mem_singleton_self _
    | cons v'' vs =>
      rcases List.mem_cons.mp h with rfl | h
      · exact List.mem_cons_self
      · exact List.mem_cons_of_mem _ (List.mem_cons_of_mem _ (ih h))

theorem PseudoClass.wellFormed_of_lexical {p : PseudoClass}
    (h : ∀ w ∈ p.words, w.Lexical) : p.WellFormed := by
  refine ⟨h (.exact .identifier p.name) (by simp [PseudoClass.words]), ?_⟩
  intro v hv
  apply Value.wellFormed_of_lexical
  apply h
  rw [PseudoClass.words, argumentWords, if_neg (List.ne_nil_of_mem hv)]
  simp [mem_argsWords hv]

theorem Attribute.wellFormed_of_lexical {a : Attribute}
    (h : ∀ w ∈ a.words, w.Lexical) : a.WellFormed :=
  ⟨h (.exact .identifier a.key) (by simp [Attribute.words]),
    Value.wellFormed_of_lexical (h a.value.word (by simp [Attribute.words]))⟩

theorem Compound.wellFormed_of_lexical {c : Compound} (hanchored : c.Anchored)
    (h : ∀ w ∈ c.words, w.Lexical) : c.WellFormed := by
  obtain ⟨target, ss, p, as⟩ := c
  simp only [Compound.words, qualifierWords, attributeWords,
    List.forall_mem_append] at h
  obtain ⟨htarget, -, hp, has⟩ := h
  refine ⟨?_, ?_, ?_, hanchored⟩
  · cases target with
    | type name => exact htarget _ (List.mem_singleton_self _)
    | any => trivial
    | unspecified => trivial
  · rintro p rfl
    exact PseudoClass.wellFormed_of_lexical hp
  · intro a ha
    apply Attribute.wellFormed_of_lexical
    intro w hw
    exact has w (List.mem_flatMap.mpr ⟨a, ha, hw⟩)

theorem Query.legible_of_lexical {q : Query} (hanchored : q.Anchored)
    (h : ∀ w ∈ q.words, w.Lexical) : q.Legible := by
  induction q with
  | single c => exact Compound.wellFormed_of_lexical hanchored h
  | link c k rest ih =>
    simp only [words, List.forall_mem_append] at h
    exact ⟨Compound.wellFormed_of_lexical hanchored.1 h.1,
      ih hanchored.2 h.2.2⟩

/-! ## The round trip -/

namespace Matcher

open Descent

/-- The tokens of the canonical form spell the query. -/
theorem spells_lex_display {q : Query} (h : q.Legible) :
    Spells q.words (lex q.display) [] :=
  Lexer.spells_lex (Lexer.prints_query h)

/-- Whatever a text stands for can be printed, and it is what its words are
read as within the levels that the limit leaves. -/
theorem legible_of_parseSelector {text : String} {d : Nat} {q : Query}
    (h : (selector d).parseSelector text = .ok q) :
    q.Legible ∧ q.levels ≤ d + 1 ∧ q.Greedy (d + 1) := by
  obtain ⟨hanchored, hlevels, hgreedy, hspells⟩ :=
    query_eq_some_iff.mp (parseSelector_eq_ok_iff.mp h)
  exact ⟨Query.legible_of_lexical hanchored
    (hspells.lexical fun t => Lexer.allows_of_mem_lex), hlevels, hgreedy⟩

/-- **Which queries are read back under a limit.** -/
theorem parseSelector_display_iff {q : Query} {d : Nat} :
    (selector d).parseSelector q.display = .ok q ↔
      q.Legible ∧ q.levels ≤ d + 1 ∧ q.Greedy (d + 1) := by
  refine ⟨legible_of_parseSelector, ?_⟩
  rintro ⟨hlegible, hlevels, hgreedy⟩
  exact parseSelector_of_query (query_of_greedy hlegible.anchored hlevels
    hgreedy (spells_lex_display hlegible))

theorem parseSelector_of_wellFormed {q : Query} (h : q.WellFormed) {d : Nat}
    (hd : 5 * (lex q.display).length + 7 ≤ d) :
    (selector d).parseSelector q.display = .ok q := by
  obtain ⟨hlegible, hunbroken⟩ := Query.wellFormed_iff.mp h
  have hlength := (spells_lex_display hlegible).length_eq
  have hlevels := levels_le hlegible.anchored
  simp only [List.length_nil] at hlength
  exact parseSelector_display_iff.mpr
    ⟨hlegible, by omega, hunbroken.greedy _⟩

theorem wellFormed_of_parseSelector {text : String} {d : Nat} {q : Query}
    (hflag : ((selector d).parse text).depthExceeded = false)
    (h : (selector d).parseSelector text = .ok q) : q.WellFormed := by
  refine Query.wellFormed_iff.mpr ⟨(legible_of_parseSelector h).1, ?_⟩
  -- a limit with room for everything makes no difference
  obtain ⟨N, hd, hN⟩ : ∃ N, d ≤ N ∧ 5 * (lex text).length + 7 ≤ N :=
    ⟨max d (5 * (lex text).length + 7), Nat.le_max_left _ _,
      Nat.le_max_right _ _⟩
  rw [parseSelector_of_not_depthExceeded hd hflag,
    parseSelector_eq_ok_iff] at h
  exact unbroken_of_query h (by omega)

/-- **Printing and parsing are inverse on exactly the well-formed queries.** A
well-formed query is read back from its canonical form under every limit that
leaves room for it, and a query that is read from any text, without running
into the limit, is well formed. -/
theorem parseSelector_display :
    (∀ (q : Query) (d : Nat), q.WellFormed →
      5 * (lex q.display).length + 7 ≤ d →
      (selector d).parseSelector q.display = .ok q) ∧
    (∀ (text : String) (d : Nat) (q : Query),
      ((selector d).parse text).depthExceeded = false →
      (selector d).parseSelector text = .ok q → q.WellFormed) :=
  ⟨fun _ _ h hd => parseSelector_of_wellFormed h hd,
    fun _ _ _ => wellFormed_of_parseSelector⟩

/-- `door#"a b" > *:open(1)`, with a name that must be quoted. -/
def doorQuery : Query :=
  .link ⟨.type "door", [.byId "a b"], none, []⟩ .child
    (.single ⟨.any, [], some ⟨"open", [.digits "1"]⟩, []⟩)

theorem wellFormed_doorQuery : doorQuery.WellFormed := by
  refine ⟨⟨rfl, ?_, ?_, ?_⟩, ?_, ⟨trivial, ?_, ?_, ?_⟩⟩
  · rintro p ⟨⟩
  · rintro a ⟨⟩
  · rintro ⟨⟩
  · rintro ⟨⟨⟩, -⟩
  · rintro p ⟨⟩
    refine ⟨rfl, ?_⟩
    intro v hv
    rw [List.mem_singleton.mp hv]
    exact ⟨by decide, List.forall_mem_singleton.mpr rfl⟩
  · rintro a ⟨⟩
  · rintro ⟨⟩

theorem parseSelector_display_doorQuery :
    5 * (lex doorQuery.display).length + 7 ≤ 57 ∧
    (selector 57).parseSelector doorQuery.display = .ok doorQuery ∧
    ((selector 30).parse "door #'a b'").depthExceeded = false ∧
    Query.WellFormed (.single ⟨.type "door", [.byId "a b"], none, []⟩) :=
  have hlimit : 5 * (lex doorQuery.display).length + 7 ≤ 57 := by decide
  have hflag : ((selector 30).parse "door #'a b'").depthExceeded = false := by
    decide
  ⟨hlimit, parseSelector_display.1 doorQuery 57 wellFormed_doorQuery hlimit,
    hflag, parseSelector_display.2 "door #'a b'" 30 _ hflag rfl⟩

/-- **The canonical form is a fixed point under every limit**: the query that
a text stands for is read back from its canonical form, also where the limit
cut off some branch of either. -/
theorem parseSelector_display_of_eq_ok {text : String} {d : Nat} {q : Query}
    (h : (selector d).parseSelector text = .ok q) :
    (selector d).parseSelector q.display = .ok q := by
  obtain ⟨hlegible, hlevels, hgreedy⟩ := legible_of_parseSelector h
  exact parseSelector_display_iff.mpr ⟨hlegible, hlevels, hgreedy⟩

/-- `.a.b .'c d'`, which is three classes in a row under most limits. -/
def brokenQuery : Query :=
  .link ⟨.unspecified, [.byClass "a", .byClass "b"], none, []⟩ .descendant
    (.single ⟨.unspecified, [.byClass "c d"], none, []⟩)

/-- Under a limit of 12 the chain is broken before its last class. The
canonical form has other blanks and other quotes than the text, and the chain
is broken at the same place. -/
theorem parseSelector_display_brokenQuery :
    ((selector 12).parse ".a .'b'.'c d'").depthExceeded = true ∧
    (selector 12).parseSelector ".a .'b'.'c d'" = .ok brokenQuery ∧
    brokenQuery.display = ".a.b .\"c d\"" ∧
    (selector 12).parseSelector brokenQuery.display = .ok brokenQuery :=
  have hread : (selector 12).parseSelector ".a .'b'.'c d'" = .ok brokenQuery :=
    rfl
  ⟨by decide, hread, by decide, parseSelector_display_of_eq_ok hread⟩

end Matcher

end SceneSelector
