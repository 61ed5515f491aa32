import SceneSelector.Grammar.Selector
import SceneSelector.Proofs.Descent
import SceneSelector.Proofs.Spelling

/-!
# Grammars as context-free grammars

`Derives` reads a grammar without any strategy: an alternation, exclusive or
not, derives what any of its rules derives, and no limit is put on how deep
derivations go. For the selector grammar the lists of tokens that are derived
are those that spell something: `derives_query_iff` says that of queries, and
the lemmas before it of their parts.
-/

namespace SceneSelector

/-- A rule derives a list of tokens, all of it. -/
inductive Derives (g : Grammar) : Rule → List Token → Prop where
  | literal {tag : Tag} {pattern : Pattern} {t : Token}
      (accepts : pattern.accepts t = true) :
      Derives g (.literal tag pattern) [t]
  | nil {tag : Tag} : Derives g (.sequence tag []) []
  | cons {tag : Tag} {rule : Rule} {rules : List Rule} {ts ts' : List Token}
      (head : Derives g rule ts) (tail : Derives g (.sequence tag rules) ts') :
      Derives g (.sequence tag (rule :: rules)) (ts ++ ts')
  | alternation {tag : Tag} {rule : Rule} {rules : List Rule}
      {ts : List Token} (mem : rule ∈ rules) (some : Derives g rule ts) :
      Derives g (.alternation tag rules) ts
  | exclusive {tag : Tag} {rule : Rule} {rules : List Rule}
      {ts : List Token} (mem : rule ∈ rules) (some : Derives g rule ts) :
      Derives g (.exclusive tag rules) ts
  | empty {tag : Tag} : Derives g (.empty tag) []
  | reference {tag : Tag} {target : String} {lazy : Bool} {rule : Rule}
      {ts : List Token} (get : g.get? target = some rule)
      (rest : Derives g rule ts) : Derives g (.reference tag target lazy) ts

namespace Derives

variable {g : Grammar} {tag : Tag} {ts : List Token}

theorem literal_iff {pattern : Pattern} :
    Derives g (.literal tag pattern) ts ↔
      ∃ t, ts = [t] ∧ pattern.accepts t = true := by
  constructor
  · intro h
    cases h with
    | literal accepts => exact ⟨_, rfl, accepts⟩
  · intro h
    obtain ⟨t, rfl, accepts⟩ := h
    exact .literal accepts

theorem nil_iff : Derives g (.sequence tag []) ts ↔ ts = [] := by
  constructor
  · intro h
    cases h
    rfl
  · rintro rfl
    exact .nil

theorem cons_iff {rule : Rule} {rules : List Rule} :
    Derives g (.sequence tag (rule :: rules)) ts ↔
      ∃ ts₁ ts₂, ts = ts₁ ++ ts₂ ∧ Derives g rule ts₁ ∧
        Derives g (.sequence tag rules) ts₂ := by
  constructor
  · intro h
    cases h with
    | cons head tail => exact ⟨_, _, rfl, head, tail⟩
  · intro h
    obtain ⟨ts₁, ts₂, rfl, head, tail⟩ := h
    exact .cons head tail

theorem alternation_iff {rules : List Rule} :
    Derives g (.alternation tag rules) ts ↔
      ∃ rule ∈ rules, Derives g rule ts := by
  constructor
  · intro h
    cases h with
    | alternation mem h => exact ⟨_, mem, h⟩
  · intro h
    obtain ⟨rule, mem, h⟩ := h
    exact .alternation mem h

theorem exclusive_iff {rules : List Rule} :
    Derives g (.exclusive tag rules) ts ↔
      ∃ rule ∈ rules, Derives g rule ts := by
  constructor
  · intro h
    cases h with
    | exclusive mem h => exact ⟨_, mem, h⟩
  · intro h
    obtain ⟨rule, mem, h⟩ := h
    exact .exclusive mem h

theorem empty_iff : Derives g (.empty tag) ts ↔ ts = [] := by
  constructor
  · intro h
    cases h
    rfl
  · rintro rfl
    exact .empty

theorem reference_iff {target : String} {lazy : Bool} {rule : Rule}
    (hget : g.get? target = some rule) :
    Derives g (.reference tag target lazy) ts ↔ Derives g rule ts := by
  constructor
  · intro h
    cases h with
    | reference get h =>
      rw [hget] at get
      cases get
      exact h
  · exact .reference hget

theorem optional_iff {rule : Rule} :
    Derives g (.optional rule) ts ↔ Derives g rule ts ∨ ts = [] := by
  simp [Rule.optional, alternation_iff, empty_iff]

end Derives

/-- Words one after the other are spelled by tokens one after the other. -/
theorem Spells.append_all_iff {ws ws' : List Word} {ts : List Token} :
    Spells (ws ++ ws') ts [] ↔
      ∃ ts₁ ts₂, ts = ts₁ ++ ts₂ ∧ Spells ws ts₁ [] ∧ Spells ws' ts₂ [] := by
  constructor
  · intro h
    obtain ⟨mid, h, h'⟩ := h.of_append
    obtain ⟨pre, rfl, hpre⟩ := h.exists_prefix
    exact ⟨pre, mid, rfl, hpre, h'⟩
  · intro h
    obtain ⟨ts₁, ts₂, rfl, h, h'⟩ := h
    exact (h.append_right ts₂).append h'

theorem Spells.cons_all_iff {w : Word} {ws : List Word} {ts : List Token} :
    Spells (w :: ws) ts [] ↔
      ∃ ts₁ ts₂, ts = ts₁ ++ ts₂ ∧ Spells [w] ts₁ [] ∧ Spells ws ts₂ [] := by
  rw [← append_all_iff, List.singleton_append]

namespace Derives

open Grammar Compound

variable {ts : List Token}

/-! ## Tokens -/

theorem symbol_iff {g : Grammar} {kind : Kind} {spelling : String} :
    Derives g (symbol kind spelling) ts ↔
      Spells [.exact kind spelling] ts [] := by
  simp only [symbol, Rule.ofPattern, literal_iff, Spells.singleton_iff,
    Pattern.accepts_exact, Word.Admits]

/-- A rule for tokens of a kind derives any token of that kind. -/
theorem ofKind_iff {g : Grammar} {kind : Kind} :
    Derives g (.ofKind kind) ts ↔
      ∃ literal, Spells [.exact kind literal] ts [] := by
  simp only [Rule.ofKind, Rule.ofPattern, literal_iff, Spells.singleton_iff,
    Pattern.accepts_ofKind, Word.Admits]
  constructor
  · intro h
    obtain ⟨t, rfl, hk⟩ := h
    exact ⟨t.literal, t, rfl, hk, rfl⟩
  · intro h
    obtain ⟨literal, t, rfl, hk, -⟩ := h
    exact ⟨t, rfl, hk⟩

theorem value_iff : Derives selector valueRule ts ↔
    ∃ v : Value, Spells [v.word] ts [] := by
  simp only [valueRule, exclusive_iff, List.mem_cons, List.not_mem_nil,
    or_false, exists_eq_or_imp, exists_eq_left, Rule.identifier, Rule.digits,
    Rule.string, ofKind_iff]
  constructor
  · intro h
    rcases h with ⟨text, h⟩ | ⟨text, h⟩ | ⟨text, h⟩
    · exact ⟨.identifier text, h⟩
    · exact ⟨.digits text, h⟩
    · exact ⟨.string text, h⟩
  · intro h
    obtain ⟨v, h⟩ := h
    cases v with
    | identifier text => exact .inl ⟨text, h⟩
    | digits text => exact .inr (.inl ⟨text, h⟩)
    | string text => exact .inr (.inr ⟨text, h⟩)

theorem name_iff {g : Grammar} :
    Derives g (.alternation .blank [.identifier, .string]) ts ↔
      ∃ name, Spells [.name name] ts [] := by
  simp only [alternation_iff, List.mem_cons, List.not_mem_nil,
    or_false, exists_eq_or_imp, exists_eq_left, Rule.identifier,
    Rule.string, ofKind_iff, Spells.singleton_iff, Word.Admits]
  constructor
  · intro h
    rcases h with ⟨name, t, rfl, hk, hl⟩ | ⟨name, t, rfl, hk, hl⟩
    · exact ⟨name, t, rfl, .inl hk, hl⟩
    · exact ⟨name, t, rfl, .inr hk, hl⟩
  · intro h
    rcases h with ⟨name, t, rfl, hk | hk, hl⟩
    · exact .inl ⟨name, t, rfl, hk, hl⟩
    · exact .inr ⟨name, t, rfl, hk, hl⟩

theorem sigil_iff {g : Grammar} :
    Derives g (.alternation .blank [symbol .hash "#", symbol .dot "."]) ts ↔
      Spells [.exact .hash "#"] ts [] ∨ Spells [.exact .dot "."] ts [] := by
  simp only [alternation_iff, List.mem_cons, List.not_mem_nil,
    or_false, exists_eq_or_imp, exists_eq_left, symbol_iff]

theorem target_iff {g : Grammar} :
    Derives g (.alternation .blank [.identifier, symbol .star "*"]) ts ↔
      ∃ target, target ≠ Target.unspecified ∧ Spells target.words ts [] := by
  simp only [alternation_iff, List.mem_cons, List.not_mem_nil,
    or_false, exists_eq_or_imp, exists_eq_left, symbol_iff, Rule.identifier,
    ofKind_iff]
  constructor
  · intro h
    rcases h with ⟨name, h⟩ | h
    · exact ⟨.type name, by simp, h⟩
    · exact ⟨.any, by simp, h⟩
  · intro h
    obtain ⟨target, hne, h⟩ := h
    cases target with
    | type name => exact .inl ⟨name, h⟩
    | any => exact .inr h
    | unspecified => exact absurd rfl hne

/-- An optional reference. -/
theorem maybe_iff {name : String} {rule : Rule}
    (hget : selector.get? name = some rule) :
    Derives selector (maybe name) ts ↔ Derives selector rule ts ∨ ts = [] := by
  rw [maybe, optional_iff, Rule.referTo, reference_iff hget]

/-! ## The parts of a compound -/

/-- A rule that is one part and possibly itself again derives one or more of
those parts. -/
theorem many_iff {g : Grammar} {rule : Rule} {α : Type}
    {words : α → List Word} (hne : ∀ a, words a ≠ [])
    (hrule : ∀ ts, Derives g rule ts ↔
      ∃ a ts₁ ts₂, ts = ts₁ ++ ts₂ ∧ Spells (words a) ts₁ [] ∧
        (Derives g rule ts₂ ∨ ts₂ = [])) :
    Derives g rule ts ↔ ∃ as, as ≠ [] ∧ Spells (as.flatMap words) ts [] := by
  constructor
  · intro h
    -- the part is not empty, so the rule derives fewer tokens after it
    induction hn : ts.length using Nat.strongRecOn generalizing ts with
    | ind n ih =>
    obtain ⟨a, ts₁, ts₂, rfl, ha, hmore⟩ := (hrule ts).mp h
    have hlength := ha.length_eq
    have hpos := List.length_pos_iff.mpr (hne a)
    have has : ∃ as : List α, Spells (as.flatMap words) ts₂ [] := by
      rcases hmore with hmore | rfl
      · obtain ⟨as, -, has⟩ :=
          ih ts₂.length (by rw [← hn, List.length_append]; omega) hmore rfl
        exact ⟨as, has⟩
      · exact ⟨[], .nil⟩
    obtain ⟨as, has⟩ := has
    refine ⟨a :: as, List.cons_ne_nil _ _, ?_⟩
    rw [List.flatMap_cons]
    exact Spells.append_all_iff.mpr ⟨_, _, rfl, ha, has⟩
  · intro h
    obtain ⟨as, has, h⟩ := h
    induction as generalizing ts with
    | nil => exact absurd rfl has
    | cons a as ih =>
      rw [List.flatMap_cons] at h
      obtain ⟨ts₁, ts₂, rfl, ha, hmore⟩ := Spells.append_all_iff.mp h
      refine (hrule _).mpr ⟨a, ts₁, ts₂, rfl, ha, ?_⟩
      by_cases hnil : as = []
      · subst hnil
        exact .inr (Spells.nil_iff.mp hmore)
      · exact .inl (ih hnil hmore)

theorem selectors_iff : Derives selector selectorsRule ts ↔
    ∃ ss, ss ≠ [] ∧ Spells (selectorWords ss) ts [] := by
  apply many_iff fun s : Selector => by cases s <;> simp [Selector.words]
  intro ts
  constructor
  · intro h
    obtain ⟨ts₁, ts', rfl, hsigil, h⟩ := cons_iff.mp h
    obtain ⟨ts₂, ts', rfl, hname, h⟩ := cons_iff.mp h
    obtain ⟨ts₃, ts', rfl, hmore, h⟩ := cons_iff.mp h
    obtain rfl := nil_iff.mp h
    obtain ⟨name, hname⟩ := name_iff.mp hname
    rw [List.append_nil, ← List.append_assoc]
    rcases sigil_iff.mp hsigil with hhash | hdot
    · exact ⟨.byId name, _, _, rfl,
        Spells.append_all_iff.mpr ⟨_, _, rfl, hhash, hname⟩,
        (maybe_iff rfl).mp hmore⟩
    · exact ⟨.byClass name, _, _, rfl,
        Spells.append_all_iff.mpr ⟨_, _, rfl, hdot, hname⟩,
        (maybe_iff rfl).mp hmore⟩
  · intro h
    obtain ⟨s, ts', ts₃, rfl, hs, hmore⟩ := h
    have hparts : ∃ ts₁ ts₂, ts' = ts₁ ++ ts₂ ∧
        (Spells [.exact .hash "#"] ts₁ [] ∨ Spells [.exact .dot "."] ts₁ []) ∧
        ∃ name, Spells [.name name] ts₂ [] := by
      cases s with
      | byId name =>
        obtain ⟨ts₁, ts₂, rfl, hhash, hname⟩ := Spells.cons_all_iff.mp hs
        exact ⟨ts₁, ts₂, rfl, .inl hhash, name, hname⟩
      | byClass name =>
        obtain ⟨ts₁, ts₂, rfl, hdot, hname⟩ := Spells.cons_all_iff.mp hs
        exact ⟨ts₁, ts₂, rfl, .inr hdot, name, hname⟩
    obtain ⟨ts₁, ts₂, rfl, hsigil, hname⟩ := hparts
    rw [← List.append_nil ts₃, List.append_assoc]
    exact .cons (sigil_iff.mpr hsigil) (.cons (name_iff.mpr hname)
      (.cons ((maybe_iff rfl).mpr hmore) .nil))

theorem attributes_iff : Derives selector attrRule ts ↔
    ∃ as, as ≠ [] ∧ Spells (attributeWords as) ts [] := by
  apply many_iff fun a : Attribute => by simp [Attribute.words]
  intro ts
  constructor
  · intro h
    obtain ⟨ts₁, ts', rfl, hopen, h⟩ := cons_iff.mp h
    obtain ⟨ts₂, ts', rfl, hkey, h⟩ := cons_iff.mp h
    obtain ⟨ts₃, ts', rfl, heq, h⟩ := cons_iff.mp h
    obtain ⟨ts₄, ts', rfl, hvalue, h⟩ := cons_iff.mp h
    obtain ⟨ts₅, ts', rfl, hclose, h⟩ := cons_iff.mp h
    obtain ⟨ts₆, ts', rfl, hmore, h⟩ := cons_iff.mp h
    obtain rfl := nil_iff.mp h
    obtain ⟨key, hkey⟩ := ofKind_iff.mp hkey
    obtain ⟨v, hv⟩ := value_iff.mp ((reference_iff rfl).mp hvalue)
    have ha : Spells (Attribute.words ⟨key, v⟩)
        (ts₁ ++ (ts₂ ++ (ts₃ ++ (ts₄ ++ ts₅)))) [] :=
      Spells.cons_all_iff.mpr ⟨_, _, rfl, symbol_iff.mp hopen,
      Spells.cons_all_iff.mpr ⟨_, _, rfl, hkey,
      Spells.cons_all_iff.mpr ⟨_, _, rfl, symbol_iff.mp heq,
      Spells.cons_all_iff.mpr ⟨_, _, rfl, hv, symbol_iff.mp hclose⟩⟩⟩⟩
    exact ⟨_, _, _, by simp only [List.append_assoc, List.append_nil], ha,
      (maybe_iff rfl).mp hmore⟩
  · intro h
    obtain ⟨a, ts', ts₆, rfl, ha, hmore⟩ := h
    obtain ⟨ts₁, ts', rfl, hopen, ha⟩ := Spells.cons_all_iff.mp ha
    obtain ⟨ts₂, ts', rfl, hkey, ha⟩ := Spells.cons_all_iff.mp ha
    obtain ⟨ts₃, ts', rfl, heq, ha⟩ := Spells.cons_all_iff.mp ha
    obtain ⟨ts₄, ts₅, rfl, hvalue, hclose⟩ := Spells.cons_all_iff.mp ha
    rw [← List.append_nil ts₆]
    simp only [List.append_assoc]
    exact .cons (symbol_iff.mpr hopen) (.cons (ofKind_iff.mpr ⟨_, hkey⟩)
      (.cons (symbol_iff.mpr heq)
      (.cons (.reference rfl (value_iff.mpr ⟨_, hvalue⟩))
      (.cons (symbol_iff.mpr hclose)
      (.cons ((maybe_iff rfl).mpr hmore) .nil)))))

theorem args_iff : Derives selector argsRule ts ↔
    ∃ vs, vs ≠ [] ∧ Spells (argsWords vs) ts [] := by
  constructor
  · intro h
    induction hn : ts.length using Nat.strongRecOn generalizing ts with
    | ind n ih =>
    obtain ⟨ts₁, ts', rfl, hvalue, h⟩ := cons_iff.mp h
    obtain ⟨ts₂, ts', rfl, hmore, h⟩ := cons_iff.mp h
    obtain rfl := nil_iff.mp h
    obtain ⟨v, hv⟩ := value_iff.mp ((reference_iff rfl).mp hvalue)
    have hlength := hv.length_eq
    rcases optional_iff.mp hmore with hmore | rfl
    · obtain ⟨ts₃, ts', rfl, hcomma, h⟩ := cons_iff.mp hmore
      obtain ⟨ts₄, ts', rfl, hargs, h⟩ := cons_iff.mp h
      obtain rfl := nil_iff.mp h
      obtain ⟨vs, hvs, hargs⟩ := ih ts₄.length
        (by simp only [← hn, List.length_append, hlength,
              List.length_singleton]; omega)
        ((reference_iff rfl).mp hargs) rfl
      obtain ⟨v', vs, rfl⟩ := List.exists_cons_of_ne_nil hvs
      refine ⟨v :: v' :: vs, List.cons_ne_nil _ _, ?_⟩
      simp only [List.append_nil]
      exact Spells.cons_all_iff.mpr ⟨_, _, rfl, hv,
        Spells.cons_all_iff.mpr ⟨_, _, rfl, symbol_iff.mp hcomma, hargs⟩⟩
    · simp only [List.append_nil]
      exact ⟨[v], List.cons_ne_nil _ _, hv⟩
  · intro h
    obtain ⟨vs, hne, h⟩ := h
    induction vs generalizing ts with
    | nil => exact absurd rfl hne
    | cons v vs ih =>
      cases vs with
      | nil =>
        rw [← List.append_nil ts]
        exact .cons (.reference rfl (value_iff.mpr ⟨v, h⟩))
          (.cons (optional_iff.mpr (.inr rfl)) .nil)
      | cons v' vs =>
        obtain ⟨ts₁, ts', rfl, hv, h⟩ := Spells.cons_all_iff.mp h
        obtain ⟨ts₂, ts₃, rfl, hcomma, h⟩ := Spells.cons_all_iff.mp h
        have hargs := ih (List.cons_ne_nil _ _) h
        have hmore : Derives selector
            (.sequence .blank [symbol .comma ",", .referTo RuleName.args])
            (ts₂ ++ (ts₃ ++ [])) :=
          .cons (symbol_iff.mpr hcomma) (.cons (.reference rfl hargs) .nil)
        rw [List.append_nil] at hmore
        rw [← List.append_nil (ts₂ ++ ts₃)]
        exact .cons (.reference rfl (value_iff.mpr ⟨v, hv⟩))
          (.cons (optional_iff.mpr (.inl hmore)) .nil)

theorem argumentList_iff :
    Derives selector (.optional (.sequence .blank
      [symbol .openParen "(", .referTo RuleName.args,
       symbol .closeParen ")"])) ts ↔
      ∃ vs, Spells (argumentWords vs) ts [] := by
  rw [optional_iff]
  constructor
  · intro h
    rcases h with h | rfl
    · obtain ⟨ts₁, ts', rfl, hopen, h⟩ := cons_iff.mp h
      obtain ⟨ts₂, ts', rfl, hargs, h⟩ := cons_iff.mp h
      obtain ⟨ts₃, ts', rfl, hclose, h⟩ := cons_iff.mp h
      obtain rfl := nil_iff.mp h
      obtain ⟨vs, hne, hargs⟩ := args_iff.mp ((reference_iff rfl).mp hargs)
      refine ⟨vs, ?_⟩
      rw [argumentWords, if_neg hne, List.append_nil]
      exact Spells.cons_all_iff.mpr ⟨_, _, rfl, symbol_iff.mp hopen,
        Spells.append_all_iff.mpr ⟨_, _, rfl, hargs, symbol_iff.mp hclose⟩⟩
    · exact ⟨[], .nil⟩
  · intro h
    obtain ⟨vs, h⟩ := h
    by_cases hne : vs = []
    · subst hne
      exact .inr (Spells.nil_iff.mp h)
    · rw [argumentWords, if_neg hne] at h
      obtain ⟨ts₁, ts', rfl, hopen, h⟩ := Spells.cons_all_iff.mp h
      obtain ⟨ts₂, ts₃, rfl, hargs, hclose⟩ := Spells.append_all_iff.mp h
      rw [← List.append_nil ts₃]
      exact .inl (.cons (symbol_iff.mpr hopen)
        (.cons (.reference rfl (args_iff.mpr ⟨vs, hne, hargs⟩))
        (.cons (symbol_iff.mpr hclose) .nil)))

theorem pseudoClass_iff : Derives selector pseudoClassRule ts ↔
    ∃ p : PseudoClass, Spells p.words ts [] := by
  constructor
  · intro h
    obtain ⟨ts₁, ts', rfl, hcolon, h⟩ := cons_iff.mp h
    obtain ⟨ts₂, ts', rfl, hname, h⟩ := cons_iff.mp h
    obtain ⟨ts₃, ts', rfl, hargs, h⟩ := cons_iff.mp h
    obtain rfl := nil_iff.mp h
    obtain ⟨name, hname⟩ := ofKind_iff.mp hname
    obtain ⟨vs, hargs⟩ := argumentList_iff.mp hargs
    refine ⟨⟨name, vs⟩, ?_⟩
    rw [List.append_nil]
    exact Spells.cons_all_iff.mpr ⟨_, _, rfl, symbol_iff.mp hcolon,
      Spells.cons_all_iff.mpr ⟨_, _, rfl, hname, hargs⟩⟩
  · intro h
    obtain ⟨⟨name, vs⟩, h⟩ := h
    obtain ⟨ts₁, ts', rfl, hcolon, h⟩ := Spells.cons_all_iff.mp h
    obtain ⟨ts₂, ts₃, rfl, hname, hargs⟩ := Spells.cons_all_iff.mp h
    rw [← List.append_nil ts₃]
    exact .cons (symbol_iff.mpr hcolon) (.cons (ofKind_iff.mpr ⟨_, hname⟩)
      (.cons (argumentList_iff.mpr ⟨vs, hargs⟩) .nil))

/-! ## Compounds and chains -/

/-- One or more parts or nothing are any number of them. -/
theorem many_or_nil_iff {α : Type} {words : α → List Word} :
    ((∃ as : List α, as ≠ [] ∧ Spells (as.flatMap words) ts []) ∨ ts = []) ↔
      ∃ as : List α, Spells (as.flatMap words) ts [] := by
  constructor
  · intro h
    rcases h with ⟨as, -, h⟩ | rfl
    · exact ⟨as, h⟩
    · exact ⟨[], .nil⟩
  · intro h
    obtain ⟨as, h⟩ := h
    by_cases hne : as = []
    · subst hne
      exact .inr (Spells.nil_iff.mp h)
    · exact .inl ⟨as, hne, h⟩

theorem maybe_selectors_iff : Derives selector (maybe RuleName.selectors) ts ↔
    ∃ ss, Spells (selectorWords ss) ts [] := by
  rw [maybe_iff rfl, selectors_iff]
  exact many_or_nil_iff

theorem maybe_attributes_iff : Derives selector (maybe RuleName.attr) ts ↔
    ∃ as, Spells (attributeWords as) ts [] := by
  rw [maybe_iff rfl, attributes_iff]
  exact many_or_nil_iff

theorem maybe_pseudoClass_iff :
    Derives selector (maybe RuleName.pseudoClass) ts ↔
      ∃ p : Option PseudoClass,
        Spells ((p.map PseudoClass.words).getD []) ts [] := by
  rw [maybe_iff rfl, pseudoClass_iff]
  constructor
  · intro h
    rcases h with ⟨p, h⟩ | rfl
    · exact ⟨some p, h⟩
    · exact ⟨none, .nil⟩
  · intro h
    obtain ⟨p, h⟩ := h
    cases p with
    | none => exact .inr (Spells.nil_iff.mp h)
    | some p => exact .inl ⟨p, h⟩

theorem qualifiers_iff {tag : Tag} :
    Derives selector (.sequence tag qualifiers) ts ↔
      ∃ p as, Spells (qualifierWords p as) ts [] := by
  constructor
  · intro h
    obtain ⟨ts₁, ts', rfl, hp, h⟩ := cons_iff.mp h
    obtain ⟨ts₂, ts', rfl, has, h⟩ := cons_iff.mp h
    obtain rfl := nil_iff.mp h
    obtain ⟨p, hp⟩ := maybe_pseudoClass_iff.mp hp
    obtain ⟨as, has⟩ := maybe_attributes_iff.mp has
    rw [List.append_nil]
    exact ⟨p, as, Spells.append_all_iff.mpr ⟨_, _, rfl, hp, has⟩⟩
  · intro h
    obtain ⟨p, as, h⟩ := h
    obtain ⟨ts₁, ts₂, rfl, hp, has⟩ := Spells.append_all_iff.mp h
    rw [← List.append_nil ts₂]
    exact .cons (maybe_pseudoClass_iff.mpr ⟨p, hp⟩)
      (.cons (maybe_attributes_iff.mpr ⟨as, has⟩) .nil)

theorem typeIdQuery_iff : Derives selector typeIdQueryRule ts ↔
    ∃ c : Compound, c.target ≠ .unspecified ∧ Spells c.words ts [] := by
  constructor
  · intro h
    obtain ⟨ts₁, ts', rfl, htarget, h⟩ := cons_iff.mp h
    obtain ⟨ts₂, ts₃, rfl, hss, hqualifiers⟩ := cons_iff.mp h
    obtain ⟨target, hne, htarget⟩ := target_iff.mp htarget
    obtain ⟨ss, hss⟩ := maybe_selectors_iff.mp hss
    obtain ⟨p, as, hqualifiers⟩ := qualifiers_iff.mp hqualifiers
    exact ⟨⟨target, ss, p, as⟩, hne,
      Spells.append_all_iff.mpr ⟨_, _, rfl, htarget,
        Spells.append_all_iff.mpr ⟨_, _, rfl, hss, hqualifiers⟩⟩⟩
  · intro h
    obtain ⟨⟨target, ss, p, as⟩, hne, h⟩ := h
    obtain ⟨ts₁, ts', rfl, htarget, h⟩ := Spells.append_all_iff.mp h
    obtain ⟨ts₂, ts₃, rfl, hss, hqualifiers⟩ := Spells.append_all_iff.mp h
    exact .cons (target_iff.mpr ⟨target, hne, htarget⟩)
      (.cons (maybe_selectors_iff.mpr ⟨ss, hss⟩)
      (qualifiers_iff.mpr ⟨p, as, hqualifiers⟩))

theorem attrQuery_iff : Derives selector attrQueryRule ts ↔
    ∃ c : Compound, c.target = .unspecified ∧ c.selectors ≠ [] ∧
      Spells c.words ts [] := by
  constructor
  · intro h
    obtain ⟨ts₁, ts₂, rfl, hss, hqualifiers⟩ := cons_iff.mp h
    obtain ⟨ss, hne, hss⟩ := selectors_iff.mp ((reference_iff rfl).mp hss)
    obtain ⟨p, as, hqualifiers⟩ := qualifiers_iff.mp hqualifiers
    have hwords : Spells (selectorWords ss ++ qualifierWords p as)
        (ts₁ ++ ts₂) [] :=
      Spells.append_all_iff.mpr ⟨_, _, rfl, hss, hqualifiers⟩
    exact ⟨⟨.unspecified, ss, p, as⟩, rfl, hne, hwords⟩
  · intro h
    obtain ⟨⟨target, ss, p, as⟩, rfl, hne, h⟩ := h
    change Spells (selectorWords ss ++ qualifierWords p as) ts [] at h
    obtain ⟨ts₁, ts₂, rfl, hss, hqualifiers⟩ := Spells.append_all_iff.mp h
    exact .cons (.reference rfl (selectors_iff.mpr ⟨ss, hne, hss⟩))
      (qualifiers_iff.mpr ⟨p, as, hqualifiers⟩)

theorem compound_iff :
    Derives selector (.alternation .blank
      [.referTo RuleName.typeIdQuery, .referTo RuleName.attrQuery]) ts ↔
      ∃ c : Compound, c.Anchored ∧ Spells c.words ts [] := by
  simp only [alternation_iff, List.mem_cons, List.not_mem_nil, or_false,
    exists_eq_or_imp, exists_eq_left, Rule.referTo]
  rw [reference_iff rfl,
    reference_iff rfl, typeIdQuery_iff, attrQuery_iff]
  constructor
  · intro h
    rcases h with ⟨c, hne, h⟩ | ⟨c, -, hne, h⟩
    · exact ⟨c, fun ht => absurd ht hne, h⟩
    · exact ⟨c, fun _ => hne, h⟩
  · intro h
    obtain ⟨c, hanchored, h⟩ := h
    by_cases ht : c.target = .unspecified
    · exact .inr ⟨c, ht, hanchored ht, h⟩
    · exact .inl ⟨c, ht, h⟩

theorem combinator_iff {g : Grammar} :
    Derives g (.optional (symbol .greater ">")) ts ↔
      ∃ k : Combinator, Spells k.words ts [] := by
  rw [optional_iff, symbol_iff]
  constructor
  · intro h
    rcases h with h | rfl
    · exact ⟨.child, h⟩
    · exact ⟨.descendant, .nil⟩
  · intro h
    obtain ⟨k, h⟩ := h
    cases k with
    | child => exact .inl h
    | descendant => exact .inr (Spells.nil_iff.mp h)

/-- **The selector grammar derives exactly the spellings of queries** of whose
compounds there is something to see. -/
theorem query_iff : Derives selector queryRule ts ↔
    ∃ q : Query, q.Anchored ∧ Spells q.words ts [] := by
  constructor
  · intro h
    induction hn : ts.length using Nat.strongRecOn generalizing ts with
    | ind n ih =>
    obtain ⟨ts₁, ts', rfl, hc, h⟩ := cons_iff.mp h
    obtain ⟨ts₂, ts', rfl, hsub, h⟩ := cons_iff.mp h
    obtain rfl := nil_iff.mp h
    obtain ⟨c, hanchored, hc⟩ := compound_iff.mp hc
    rcases (maybe_iff rfl).mp hsub with hsub | rfl
    · obtain ⟨ts₃, ts', rfl, hk, h⟩ := cons_iff.mp hsub
      obtain ⟨ts₄, ts', rfl, hrest, h⟩ := cons_iff.mp h
      obtain rfl := nil_iff.mp h
      obtain ⟨k, hk⟩ := combinator_iff.mp hk
      obtain ⟨_, _, _, ws, hws⟩ := Compound.words_eq_cons hanchored
      have hlength := hc.length_eq
      rw [hws, List.length_cons] at hlength
      obtain ⟨rest, hanchored', hrest⟩ := ih ts₄.length
        (by simp only [← hn, List.length_append]; omega)
        ((reference_iff rfl).mp hrest) rfl
      refine ⟨.link c k rest, ⟨hanchored, hanchored'⟩, ?_⟩
      simp only [List.append_nil]
      exact Spells.append_all_iff.mpr ⟨_, _, rfl, hc,
        Spells.append_all_iff.mpr ⟨_, _, rfl, hk, hrest⟩⟩
    · refine ⟨.single c, hanchored, ?_⟩
      simp only [List.append_nil]
      exact hc
  · intro h
    obtain ⟨q, hanchored, h⟩ := h
    induction q generalizing ts with
    | single c =>
      rw [← List.append_nil ts]
      exact .cons (compound_iff.mpr ⟨c, hanchored, h⟩)
        (.cons ((maybe_iff rfl).mpr (.inr rfl)) .nil)
    | link c k rest ih =>
      obtain ⟨ts₁, ts', rfl, hc, h⟩ := Spells.append_all_iff.mp h
      obtain ⟨ts₂, ts₃, rfl, hk, hrest⟩ := Spells.append_all_iff.mp h
      have hsub : Derives selector subQueryRule (ts₂ ++ (ts₃ ++ [])) :=
        .cons (combinator_iff.mpr ⟨k, hk⟩)
          (.cons (.reference rfl (ih hanchored.2 hrest)) .nil)
      rw [List.append_nil] at hsub
      rw [← List.append_nil (ts₂ ++ ts₃)]
      exact .cons (compound_iff.mpr ⟨c, hanchored.1, hc⟩)
        (.cons ((maybe_iff rfl).mpr (.inl hsub)) .nil)

end Derives

end SceneSelector
