import SceneSelector.Proofs.Descent
import SceneSelector.Proofs.Recognition
import SceneSelector.Query.Reading

/-!
# The descent is the selector grammar

Recognising a rule of the selector grammar leaves an outline; reading the
outline back gives a typed part. Each function of the descent does both in
one go: `Reads` says that it fails exactly if recognition does, leaves the
same tokens ahead, and that its result is what the outline is read back as.
There is one such lemma for each rule. Together they say that the outlines of
this grammar are never malformed.
-/

namespace SceneSelector.Descent

open Evaluation Grammar

/-- What a rule named `name` recognises is read back by `read` as what the
descent has read. -/
inductive Reads {α : Type} (name : String)
    (read : Outline → Except QueryError α) :
    Recognised → Option (α × List Token) → Prop where
  | failed : Reads name read none none
  | ok {inside : Outline} {a : α} {ahead : List Token}
      (h : read inside = .ok a) :
      Reads name read (some (.part name inside .done, ahead))
        (some (a, ahead))

theorem reads_none {α : Type} {name : String}
    {read : Outline → Except QueryError α} {r : Recognised}
    (h : Reads name read r none) : r = none := by
  cases h
  rfl

theorem reads_some {α : Type} {name : String}
    {read : Outline → Except QueryError α} {inside : Outline} {a : α}
    {ahead ahead' : List Token}
    (h : Reads name read (some (.part name inside .done, ahead))
      (some (a, ahead'))) : ahead = ahead' ∧ read inside = .ok a := by
  cases h with
  | ok h => exact ⟨rfl, h⟩

/-- A test and a meaning for the same tokens either both fail or agree on the
token. -/
theorem oneToken_first {α : Type} {accepts : Token → Bool}
    {f : Token → Option α} (h : ∀ t, accepts t = (f t).isSome)
    (ts : List Token) :
    (oneToken accepts ts = none ∧ first f ts = none) ∨
    ∃ t a ahead, ts = t :: ahead ∧ f t = some a ∧
      oneToken accepts ts = some (.word t.kind t.literal .done, ahead) ∧
      first f ts = some (a, ahead) := by
  cases ts with
  | nil => exact .inl ⟨rfl, rfl⟩
  | cons t ts =>
    cases hf : f t with
    | none => exact .inl (by simp [oneToken, first, h, hf])
    | some a => exact .inr ⟨t, a, ts, rfl, hf, by simp [oneToken, first, h, hf]⟩

/-! ## The tokens that the grammar's literals accept -/

theorem accepts_symbol (kind : Kind) (spelling : String) (t : Token) :
    (Pattern.exact kind spelling).accepts t =
      (symbol? kind spelling t).isSome := by
  unfold symbol?
  split <;> simp_all

theorem accepts_identifier (t : Token) :
    (Pattern.ofKind .identifier).accepts t = (identifier? t).isSome := by
  unfold identifier?
  split <;> simp_all [Pattern.ofKind, Pattern.accepts]

theorem accepts_name (t : Token) :
    [Pattern.ofKind .identifier, .ofKind .string].any (·.accepts t) =
      (name? t).isSome := by
  unfold name?
  split <;> simp_all [Pattern.ofKind, Pattern.accepts]

theorem accepts_sigil (t : Token) :
    [Pattern.exact .hash "#", .exact .dot "."].any (·.accepts t) =
      (sigil? t).isSome := by
  unfold sigil?
  split
  · simp_all
  · split <;> simp_all

theorem accepts_value (t : Token) :
    [Pattern.ofKind .identifier, .ofKind .digits, .ofKind .string].any
      (·.accepts t) = (value? t).isSome := by
  unfold value?
  split <;> simp_all [Pattern.ofKind, Pattern.accepts]

theorem accepts_target (t : Token) :
    [Pattern.ofKind .identifier, .exact .star "*"].any (·.accepts t) =
      (target? t).isSome := by
  unfold target?
  split
  · simp_all [Pattern.ofKind, Pattern.accepts]
  · split <;> simp_all [Pattern.ofKind, Pattern.accepts]

theorem recognise_symbol (g : Grammar) (b : Nat) {kind : Kind}
    (hk : kind ≠ .endOfInput) (spelling : String) (ts : List Token) :
    recognise g (b + 1) (symbol kind spelling) ts =
      oneToken (Pattern.exact kind spelling).accepts ts :=
  recognise_ofPattern g b hk ts

theorem recognise_identifier (g : Grammar) (b : Nat) (ts : List Token) :
    recognise g (b + 1) .identifier ts =
      oneToken (Pattern.ofKind .identifier).accepts ts :=
  recognise_ofPattern g b (by decide) ts

theorem get?_value : selector.get? RuleName.value = some valueRule := rfl

theorem get?_attr : selector.get? RuleName.attr = some attrRule := rfl

theorem get?_args : selector.get? RuleName.args = some argsRule := rfl

theorem get?_pseudoClass :
    selector.get? RuleName.pseudoClass = some pseudoClassRule := rfl

theorem get?_selectors :
    selector.get? RuleName.selectors = some selectorsRule := rfl

theorem get?_typeIdQuery :
    selector.get? RuleName.typeIdQuery = some typeIdQueryRule := rfl

theorem get?_attrQuery :
    selector.get? RuleName.attrQuery = some attrQueryRule := rfl

theorem get?_subQuery :
    selector.get? RuleName.subQuery = some subQueryRule := rfl

theorem get?_query : selector.get? RuleName.query = some queryRule := rfl

/-- An optional reference, one level for the alternation and one for the
reference. -/
theorem recognise_maybe {name : String} {rule : Rule}
    (hg : selector.get? name = some rule) (b : Nat) (ts : List Token) :
    recognise selector (b + 2) (maybe name) ts =
      some ((recognise selector b rule ts).getD (.done, ts)) := by
  rw [maybe, recognise_optional, recognise_referTo hg]

/-! ## Values, arguments, pseudo-classes and attributes -/

theorem recognise_value (b : Nat) (ts : List Token) :
    recognise selector (b + 2) valueRule ts =
      (oneToken (fun t => [Pattern.ofKind .identifier, .ofKind .digits,
        .ofKind .string].any (·.accepts t)) ts).map fun (o, ahead) =>
          (.part RuleName.value o .done, ahead) :=
  recognise_exclusive_ofPattern selector b (nameTag RuleName.value)
    [.ofKind .identifier, .ofKind .digits, .ofKind .string] (by decide) ts

/-- The kind of its token decides what a value is. -/
theorem outline_value {t : Token} {v : Value} (h : value? t = some v) :
    Outline.value RuleName.value (.word t.kind t.literal .done) = .ok v := by
  unfold value? at h
  split at h <;> cases h <;> simp_all [Outline.value]

theorem recognise_sigil (b : Nat) (ts : List Token) :
    recognise selector (b + 2)
        (.alternation .blank [symbol .hash "#", symbol .dot "."]) ts =
      oneToken (fun t => [Pattern.exact .hash "#", .exact .dot "."].any
        (·.accepts t)) ts :=
  recognise_alternation_ofPattern selector b
    [.exact .hash "#", .exact .dot "."] (by decide) ts

theorem recognise_name (b : Nat) (ts : List Token) :
    recognise selector (b + 2) (.alternation .blank [.identifier, .string]) ts =
      oneToken (fun t => [Pattern.ofKind .identifier, .ofKind .string].any
        (·.accepts t)) ts :=
  recognise_alternation_ofPattern selector b
    [.ofKind .identifier, .ofKind .string] (by decide) ts

/-- What a name makes is decided by the kind of the sigil alone. -/
theorem outline_sigil {t : Token} {make : String → Selector}
    (h : sigil? t = some make) (name : String) :
    Outline.sigil? t.kind name = some (make name) := by
  unfold sigil? at h
  split at h
  · next hp =>
    cases h
    rw [((Pattern.accepts_exact _ _ t).mp hp).1]
    rfl
  · split at h
    · next hp =>
      cases h
      rw [((Pattern.accepts_exact _ _ t).mp hp).1]
      rfl
    · cases h

theorem name_literal {t : Token} {n : String} (h : name? t = some n) :
    t.literal = n := by
  unfold name? at h
  split at h <;> simp_all

theorem identifier_literal {t : Token} {n : String}
    (h : identifier? t = some n) : t.literal = n := by
  unfold identifier? at h
  split at h <;> simp_all

theorem reads_selectors : ∀ (b : Nat) (ts : List Token),
    Reads RuleName.selectors Outline.selectors
      (recognise selector b selectorsRule ts) (selectors b ts)
  | 0, _ | 1, _ | 2, _ => .failed
  | b + 3, ts => by
    have hseq : recognise selector (b + 3) selectorsRule ts = _ :=
      recognise_sequence selector (b + 2) _ _ ts
    simp only [hseq, recogniseAll_cons, recogniseAll_nil, recognise_sigil,
      recognise_name, recognise_maybe get?_selectors, selectors, oneSelector,
      Option.bind_eq_bind, Option.bind_assoc, Option.pure_def,
      Option.bind_some]
    rcases oneToken_first accepts_sigil ts with
      ⟨h1, h2⟩ | ⟨s, make, ts1, -, hs, h1, h2⟩
    · rw [h1, h2]
      exact .failed
    rcases oneToken_first accepts_name ts1 with
      ⟨h3, h4⟩ | ⟨n, name, ts2, -, hn, h3, h4⟩
    · simp only [h1, h2, h3, h4, Option.bind_some, Option.bind_none]
      exact .failed
    simp only [h1, h2, h3, h4, Option.bind_some]
    have hmore := reads_selectors b ts2
    generalize recognise selector b selectorsRule ts2 = r at hmore ⊢
    generalize selectors b ts2 = d at hmore ⊢
    cases hmore with
    | failed =>
      apply Reads.ok
      simp only [Option.getD_none, Outline.append, Outline.selectors,
        outline_sigil hs, name_literal hn]
    | ok hread =>
      apply Reads.ok
      simp only [Option.getD_some, Outline.append, Outline.selectors,
        outline_sigil hs, name_literal hn, hread, if_true]
      rfl

theorem reads_args : ∀ (b : Nat) (ts : List Token),
    Reads RuleName.args Outline.args
      (recognise selector b argsRule ts) (args b ts)
  | 0, _ | 1, _ | 2, _ | 3, _ => .failed
  | b + 4, ts => by
    have hseq : recognise selector (b + 4) argsRule ts = _ :=
      recognise_sequence selector (b + 3) _ _ ts
    simp only [hseq, recogniseAll_cons, recogniseAll_nil,
      recognise_optional, recognise_sequence, recognise_referTo get?_value,
      recognise_value, recognise_symbol selector _ (by decide : Kind.comma ≠ _),
      recognise_referTo get?_args, args, Option.bind_eq_bind]
    rcases oneToken_first accepts_value ts with
      ⟨h1, h2⟩ | ⟨t, v, ts1, -, hv, h1, h2⟩
    · rw [h1, h2]
      exact .failed
    simp only [h1, h2, Option.bind_some, Option.map_some]
    rcases oneToken_first (accepts_symbol .comma ",") ts1 with
      ⟨h3, h4⟩ | ⟨c, u, ts2, -, -, h3, h4⟩
    · simp only [h3, h4, Option.bind_none]
      apply Reads.ok
      simp only [Option.map_none, Option.getD_none, Outline.append,
        Outline.args, outline_value hv]
      rfl
    simp only [h3, h4, Option.bind_some]
    have hmore := reads_args b ts2
    generalize recognise selector b argsRule ts2 = r at hmore ⊢
    generalize args b ts2 = d at hmore ⊢
    cases hmore with
    | failed =>
      apply Reads.ok
      simp only [Option.bind_none, Option.map_none, Option.getD_none,
        Outline.append, Outline.args, outline_value hv]
      rfl
    | ok hread =>
      apply Reads.ok
      simp only [Option.bind_some, Option.map_some, Option.getD_some,
        tagged_blank, Outline.append, Outline.args, outline_value hv, hread,
        if_true]
      rfl

/-- The rule that `pseudoClass` may end in. -/
def argumentListRule : Rule :=
  .sequence .blank
    [symbol .openParen "(", .referTo RuleName.args, symbol .closeParen ")"]

theorem reads_argumentList (b : Nat) (ts : List Token) :
    (recognise selector (b + 1) argumentListRule ts = none ∧
      argumentList (b - 1) ts = none) ∨
    ∃ k l k' l' inside vs ahead,
      recognise selector (b + 1) argumentListRule ts =
        some (.word k l (.part RuleName.args inside (.word k' l' .done)),
          ahead) ∧
      argumentList (b - 1) ts = some (vs, ahead) ∧
      inside.args = .ok vs := by
  cases b with
  | zero =>
    refine .inl ⟨rfl, ?_⟩
    unfold argumentList
    cases first (symbol? .openParen "(") ts <;> rfl
  | succ b =>
    have hseq : recognise selector (b + 2) argumentListRule ts = _ :=
      recognise_sequence selector (b + 1) _ _ ts
    simp only [hseq, recogniseAll_cons, recogniseAll_nil,
      recognise_symbol selector _ (by decide : Kind.openParen ≠ _),
      recognise_symbol selector _ (by decide : Kind.closeParen ≠ _),
      recognise_referTo get?_args, Nat.add_sub_cancel, argumentList,
      Option.bind_eq_bind]
    rcases oneToken_first (accepts_symbol .openParen "(") ts with
      ⟨h1, h2⟩ | ⟨o, u, ts1, -, -, h1, h2⟩
    · rw [h1, h2]
      exact .inl ⟨rfl, rfl⟩
    simp only [h1, h2, Option.bind_some]
    have hlist := reads_args b ts1
    generalize recognise selector b argsRule ts1 = r at hlist ⊢
    generalize args b ts1 = d at hlist ⊢
    cases hlist with
    | failed => exact .inl ⟨rfl, rfl⟩
    | @ok inside vs ts2 hread =>
      simp only [Option.bind_some]
      rcases oneToken_first (accepts_symbol .closeParen ")") ts2 with
        ⟨h3, h4⟩ | ⟨c, u', ahead, -, -, h3, h4⟩
      · rw [h3, h4]
        exact .inl ⟨rfl, rfl⟩
      · simp only [h3, h4, Option.bind_some]
        exact .inr ⟨_, _, _, _, inside, vs, ahead, rfl, rfl, hread⟩

theorem reads_pseudoClass : ∀ (b : Nat) (ts : List Token),
    Reads RuleName.pseudoClass Outline.pseudoClass
      (recognise selector b pseudoClassRule ts) (pseudoClass b ts)
  | 0, _ | 1, _ => .failed
  | 2, ts => by
    -- two levels reach the colon and the name, but not what may follow them
    have hnone : recognise selector 2 pseudoClassRule ts = none := by
      have hseq : recognise selector 2 pseudoClassRule ts = _ :=
        recognise_sequence selector 1 _ _ ts
      rw [hseq, recogniseAll_eq_none ⟨.optional argumentListRule, by decide,
        fun _ => rfl⟩]
      rfl
    rw [hnone]
    exact .failed
  | b + 3, ts => by
    have hseq : recognise selector (b + 3) pseudoClassRule ts = _ :=
      recognise_sequence selector (b + 2) _
        [symbol .colon ":", .identifier, .optional argumentListRule] ts
    simp only [hseq, recogniseAll_cons, recogniseAll_nil, recognise_optional,
      recognise_symbol selector _ (by decide : Kind.colon ≠ _),
      recognise_identifier, pseudoClass, Option.bind_eq_bind]
    rcases oneToken_first (accepts_symbol .colon ":") ts with
      ⟨h1, h2⟩ | ⟨c, u, ts1, -, -, h1, h2⟩
    · rw [h1, h2]
      exact .failed
    simp only [h1, h2, Option.bind_some]
    rcases oneToken_first accepts_identifier ts1 with
      ⟨h3, h4⟩ | ⟨n, name, ts2, -, hn, h3, h4⟩
    · simp only [h3, h4, Option.bind_none]
      exact .failed
    simp only [h3, h4, Option.bind_some]
    have hlit : n.literal = name := identifier_literal hn
    rcases reads_argumentList b ts2 with
      ⟨h5, h6⟩ | ⟨k, l, k', l', inside, vs, ahead, h5, h6, hread⟩
    · simp only [h5, h6]
      apply Reads.ok
      simp only [Option.getD_none, Outline.append, Outline.pseudoClass, hlit]
    · simp only [h5, h6]
      apply Reads.ok
      simp only [Option.getD_some, Outline.append, Outline.pseudoClass, hlit,
        hread, if_true]
      rfl

/-- With too few levels for its value an attribute is not recognised. -/
theorem recognise_attr_eq_none {b : Nat} (hb : b < 3) (ts : List Token) :
    recognise selector (b + 1) attrRule ts = none := by
  have hvalue : ∀ ts,
      recognise selector b (.referTo RuleName.value) ts = none := by
    intro ts
    match b, hb with
    | 0, _ | 1, _ | 2, _ => rfl
  have hseq : recognise selector (b + 1) attrRule ts = _ :=
    recognise_sequence selector b _ _ ts
  rw [hseq, recogniseAll_eq_none ⟨.referTo RuleName.value, by decide, hvalue⟩]
  rfl

theorem reads_attributes : ∀ (b : Nat) (ts : List Token),
    Reads RuleName.attr Outline.attributes
      (recognise selector b attrRule ts) (attributes b ts)
  | 0, _ => .failed
  | 1, ts | 2, ts | 3, ts => by
    rw [recognise_attr_eq_none (by decide)]
    exact .failed
  | b + 4, ts => by
    have hseq : recognise selector (b + 4) attrRule ts = _ :=
      recognise_sequence selector (b + 3) _ _ ts
    simp only [hseq, recogniseAll_cons, recogniseAll_nil,
      recognise_symbol selector _ (by decide : Kind.openBracket ≠ _),
      recognise_symbol selector _ (by decide : Kind.equals ≠ _),
      recognise_symbol selector _ (by decide : Kind.closeBracket ≠ _),
      recognise_identifier, recognise_referTo get?_value, recognise_value,
      recognise_maybe get?_attr, attributes, oneAttribute,
      Option.bind_eq_bind, Option.bind_assoc, Option.pure_def,
      Option.bind_some]
    rcases oneToken_first (accepts_symbol .openBracket "[") ts with
      ⟨h1, h2⟩ | ⟨o, u, ts1, -, -, h1, h2⟩
    · rw [h1, h2]
      exact .failed
    simp only [h1, h2, Option.bind_some]
    rcases oneToken_first accepts_identifier ts1 with
      ⟨h1, h2⟩ | ⟨n, key, ts2, -, hn, h1, h2⟩
    · rw [h1, h2]
      exact .failed
    simp only [h1, h2, Option.bind_some]
    rcases oneToken_first (accepts_symbol .equals "=") ts2 with
      ⟨h1, h2⟩ | ⟨e, u, ts3, -, -, h1, h2⟩
    · rw [h1, h2]
      exact .failed
    simp only [h1, h2, Option.bind_some]
    rcases oneToken_first accepts_value ts3 with
      ⟨h1, h2⟩ | ⟨t, v, ts4, -, hv, h1, h2⟩
    · rw [h1, h2]
      exact .failed
    simp only [h1, h2, Option.bind_some, Option.map_some]
    rcases oneToken_first (accepts_symbol .closeBracket "]") ts4 with
      ⟨h1, h2⟩ | ⟨c, u, ts5, -, -, h1, h2⟩
    · rw [h1, h2]
      exact .failed
    simp only [h1, h2, Option.bind_some]
    have hkey : n.literal = key := identifier_literal hn
    have hmore := reads_attributes (b + 1) ts5
    generalize recognise selector (b + 1) attrRule ts5 = r at hmore ⊢
    generalize attributes (b + 1) ts5 = d at hmore ⊢
    cases hmore with
    | failed =>
      apply Reads.ok
      simp only [Option.getD_none, Outline.append, Outline.attributes, hkey,
        outline_value hv]
      rfl
    | ok hread =>
      apply Reads.ok
      simp only [Option.getD_some, Outline.append, Outline.attributes, hkey,
        outline_value hv, hread, if_true]
      rfl

/-! ## Compounds -/

theorem recognise_target (b : Nat) (ts : List Token) :
    recognise selector (b + 2)
        (.alternation .blank [.identifier, symbol .star "*"]) ts =
      oneToken (fun t => [Pattern.ofKind .identifier, .exact .star "*"].any
        (·.accepts t)) ts :=
  recognise_alternation_ofPattern selector b
    [.ofKind .identifier, .exact .star "*"] (by decide) ts

theorem qualify_selectors {inside : Outline} {ss : List Selector}
    (h : inside.selectors = .ok ss) (owner : String) (rest : Outline)
    (c : Compound) :
    (Outline.part RuleName.selectors inside rest).qualify owner c =
      rest.qualify owner { c with selectors := c.selectors ++ ss } := by
  simp only [Outline.qualify, if_true, h]
  rfl

theorem qualify_pseudoClass {inside : Outline} {p : PseudoClass}
    (h : inside.pseudoClass = .ok p) (owner : String) (rest : Outline)
    (c : Compound) :
    (Outline.part RuleName.pseudoClass inside rest).qualify owner c =
      rest.qualify owner { c with pseudoClass := some p } := by
  have hne : RuleName.pseudoClass ≠ RuleName.selectors := by decide
  simp only [Outline.qualify, if_neg hne, if_true, h]
  rfl

theorem qualify_attributes {inside : Outline} {as : List Attribute}
    (h : inside.attributes = .ok as) (owner : String) (rest : Outline)
    (c : Compound) :
    (Outline.part RuleName.attr inside rest).qualify owner c =
      rest.qualify owner { c with attributes := c.attributes ++ as } := by
  have hne : RuleName.attr ≠ RuleName.selectors := by decide
  have hne' : RuleName.attr ≠ RuleName.pseudoClass := by decide
  simp only [Outline.qualify, if_neg hne, if_neg hne', if_true, h]
  rfl

/-- What both forms of a compound end in leaves two parts, each of them
possibly missing, which are read back as the descent reads them. -/
theorem reads_qualifiers (b : Nat) (owner : String) (target : Target)
    (ss : List Selector) (ts : List Token) :
    ∃ o, recogniseAll (recognise selector (b + 2)) qualifiers ts =
        some (o, (qualified b target ss ts).2) ∧
      o.qualify owner ⟨target, ss, none, []⟩ =
        .ok (qualified b target ss ts).1 := by
  simp only [qualifiers, recogniseAll_cons, recogniseAll_nil,
    recognise_maybe get?_pseudoClass, recognise_maybe get?_attr,
    Option.bind_some, Outline.append_done, qualified]
  have hp := reads_pseudoClass b ts
  generalize recognise selector b pseudoClassRule ts = r at hp ⊢
  generalize pseudoClass b ts = d at hp ⊢
  cases hp with
  | failed =>
    simp only [Option.map_none, Option.getD_none]
    have ha := reads_attributes b ts
    generalize recognise selector b attrRule ts = r at ha ⊢
    generalize attributes b ts = d at ha ⊢
    cases ha with
    | failed => exact ⟨_, rfl, rfl⟩
    | ok hread =>
      refine ⟨_, rfl, ?_⟩
      simp only [Option.getD_some, Outline.append]
      rw [qualify_attributes hread]
      rfl
  | @ok inside p ts hread =>
    simp only [Option.map_some, Option.getD_some]
    have ha := reads_attributes b ts
    generalize recognise selector b attrRule ts = r at ha ⊢
    generalize attributes b ts = d at ha ⊢
    cases ha with
    | failed =>
      refine ⟨_, rfl, ?_⟩
      simp only [Option.getD_none, Outline.append]
      rw [qualify_pseudoClass hread]
      rfl
    | ok hread' =>
      refine ⟨_, rfl, ?_⟩
      simp only [Option.getD_some, Outline.append]
      rw [qualify_pseudoClass hread, qualify_attributes hread']
      rfl

/-- A target is told by the kind of its token. -/
theorem outline_target {t : Token} {target : Target}
    (h : target? t = some target) (rest : Outline) :
    (Outline.word t.kind t.literal rest).typed =
      rest.qualify RuleName.typeIdQuery (.ofTarget target) := by
  unfold target? at h
  split at h
  · next hk =>
    cases h
    rw [hk]
    rfl
  · split at h
    · next hp =>
      cases h
      rw [((Pattern.accepts_exact _ _ t).mp hp).1]
      rfl
    · cases h

theorem reads_typed : ∀ (b : Nat) (ts : List Token),
    Reads RuleName.typeIdQuery Outline.typed
      (recognise selector b typeIdQueryRule ts) (typed b ts)
  | 0, _ | 1, _ | 2, _ => .failed
  | b + 3, ts => by
    have hseq : recognise selector (b + 3) typeIdQueryRule ts = _ :=
      recognise_sequence selector (b + 2) _ _ ts
    rw [hseq, recogniseAll_cons, recognise_target]
    simp only [recogniseAll_cons _ (maybe RuleName.selectors),
      recognise_maybe get?_selectors, typed, Option.bind_eq_bind]
    rcases oneToken_first accepts_target ts with
      ⟨h1, h2⟩ | ⟨t, target, ts1, -, ht, h1, h2⟩
    · rw [h1, h2]
      exact .failed
    simp only [h1, h2, Option.bind_some]
    have hss := reads_selectors b ts1
    generalize recognise selector b selectorsRule ts1 = r at hss ⊢
    generalize selectors b ts1 = d at hss ⊢
    cases hss with
    | failed =>
      obtain ⟨o, ho, hq⟩ :=
        reads_qualifiers b RuleName.typeIdQuery target [] ts1
      simp only [Option.getD_none, ho, Option.bind_some]
      apply Reads.ok
      simp only [Outline.append]
      rw [outline_target ht]
      exact hq
    | @ok inside ss ts2 hread =>
      obtain ⟨o, ho, hq⟩ :=
        reads_qualifiers b RuleName.typeIdQuery target ss ts2
      simp only [Option.getD_some, ho, Option.bind_some]
      apply Reads.ok
      simp only [Outline.append]
      rw [outline_target ht, qualify_selectors hread]
      exact hq

theorem reads_untyped : ∀ (b : Nat) (ts : List Token),
    Reads RuleName.attrQuery Outline.untyped
      (recognise selector b attrQueryRule ts) (untyped b ts)
  | 0, _ | 1, _ | 2, _ => .failed
  | b + 3, ts => by
    have hseq : recognise selector (b + 3) attrQueryRule ts = _ :=
      recognise_sequence selector (b + 2) _ _ ts
    rw [hseq, recogniseAll_cons, recognise_referTo get?_selectors]
    simp only [untyped, Option.bind_eq_bind]
    have hss := reads_selectors (b + 1) ts
    generalize recognise selector (b + 1) selectorsRule ts = r at hss ⊢
    generalize selectors (b + 1) ts = d at hss ⊢
    cases hss with
    | failed => exact .failed
    | @ok inside ss ts1 hread =>
      obtain ⟨o, ho, hq⟩ :=
        reads_qualifiers b RuleName.attrQuery .unspecified ss ts1
      simp only [Option.bind_some, ho]
      apply Reads.ok
      simp only [Outline.append, Outline.untyped]
      rw [qualify_selectors hread]
      exact hq

/-! ## Chains of compounds -/

theorem sigil?_eq_none_of_target? {t : Token} {target : Target}
    (h : target? t = some target) : sigil? t = none := by
  have hhash : t.kind ≠ .hash := by
    intro hk
    simp [target?, Pattern.accepts_exact, hk] at h
  have hdot : t.kind ≠ .dot := by
    intro hk
    simp [target?, Pattern.accepts_exact, hk] at h
  simp [sigil?, Pattern.accepts_exact, hhash, hdot]

/-- No token begins compounds of both forms. -/
theorem untyped_eq_none_of_typed {b b' : Nat} {ts : List Token}
    {r : Compound × List Token} (h : typed b ts = some r) :
    untyped b' ts = none := by
  match b, ts, h with
  | b + 3, t :: ts, h =>
    simp only [typed, first, Option.bind_eq_bind, Option.bind_eq_some_iff,
      Option.map_eq_some_iff] at h
    obtain ⟨_, ⟨target, ht, -⟩, -⟩ := h
    match b' with
    | 0 | 1 | 2 => rfl
    | 3 | 4 => rfl
    | b' + 5 =>
      simp [untyped, selectors, oneSelector, first, sigil?_eq_none_of_target? ht]
  | b + 3, [], h => simp [typed, first] at h

/-- Recognising a compound leaves a part of the form that it has. -/
theorem reads_compound (b : Nat) (ts : List Token) :
    (recognise selector (b + 2)
        (.alternation .blank
          [.referTo RuleName.typeIdQuery, .referTo RuleName.attrQuery]) ts =
      none ∧ compound b ts = none) ∨
    ∃ o c ahead,
      recognise selector (b + 2)
          (.alternation .blank
            [.referTo RuleName.typeIdQuery, .referTo RuleName.attrQuery]) ts =
        some (o, ahead) ∧
      compound b ts = some (c, ahead) ∧
      ∀ rest, (o.append rest).query none none = rest.query (some c) none := by
  have hdisjoint := @untyped_eq_none_of_typed b b ts
  have hty := reads_typed b ts
  have hun := reads_untyped b ts
  simp only [recognise_alternation, List.map_cons, List.map_nil,
    recognise_referTo get?_typeIdQuery, recognise_referTo get?_attrQuery,
    compound]
  generalize recognise selector b typeIdQueryRule ts = r1 at hty ⊢
  generalize recognise selector b attrQueryRule ts = r2 at hun ⊢
  generalize typed b ts = d1 at hty hdisjoint ⊢
  generalize untyped b ts = d2 at hun hdisjoint ⊢
  cases hty with
  | failed =>
    cases hun with
    | failed => exact .inl ⟨rfl, rfl⟩
    | @ok inside c ahead hread =>
      refine .inr ⟨_, c, ahead, rfl, rfl, fun rest => ?_⟩
      have hne : RuleName.attrQuery ≠ RuleName.typeIdQuery := by decide
      simp only [tagged_blank, Outline.append, Outline.query, if_neg hne,
        if_true, hread]
      rfl
  | @ok inside c ahead hread =>
    cases hun with
    | failed =>
      refine .inr ⟨_, c, ahead, rfl, rfl, fun rest => ?_⟩
      simp only [tagged_blank, Outline.append, Outline.query, if_true, hread]
      rfl
    | ok _ => cases hdisjoint rfl

theorem reads_link {b : Nat}
    (hquery : ∀ ts, Reads RuleName.query (Outline.query none none)
      (recognise selector b queryRule ts) (query b ts)) (ts : List Token) :
    Reads RuleName.subQuery Outline.subQuery
      (recognise selector (b + 2) subQueryRule ts) (link (query b) ts) := by
  cases b with
  | zero =>
    have hlink : link (query 0) ts = none := by
      unfold link
      split <;> rfl
    rw [hlink]
    exact .failed
  | succ b =>
    have hseq : recognise selector (b + 3) subQueryRule ts = _ :=
      recognise_sequence selector (b + 2) _ _ ts
    simp only [hseq, recogniseAll_cons, recogniseAll_nil, recognise_optional,
      recognise_symbol selector _ (by decide : Kind.greater ≠ _),
      recognise_referBackTo get?_query, Option.bind_some, link]
    rcases oneToken_first (accepts_symbol .greater ">") ts with
      ⟨h1, h2⟩ | ⟨t, u, ts1, rfl, ht, h1, h2⟩
    · simp only [h1, h2, Option.getD_none]
      have hq := hquery ts
      generalize recognise selector (b + 1) queryRule ts = r at hq ⊢
      generalize query (b + 1) ts = d at hq ⊢
      cases hq with
      | failed => exact .failed
      | ok hread =>
        apply Reads.ok
        simp only [Outline.append, Outline.subQuery, if_true, hread]
        rfl
    · simp only [h1, h2, Option.getD_some]
      have hk : t.kind = .greater := by
        unfold symbol? at ht
        split at ht
        · next hp => exact ((Pattern.accepts_exact _ _ t).mp hp).1
        · cases ht
      have hq := hquery ts1
      generalize recognise selector (b + 1) queryRule ts1 = r at hq ⊢
      generalize query (b + 1) ts1 = d at hq ⊢
      cases hq with
      | failed => exact .failed
      | ok hread =>
        apply Reads.ok
        simp only [Outline.append, Outline.subQuery, hk, if_true, hread]
        rfl

theorem reads_query : ∀ (b : Nat) (ts : List Token),
    Reads RuleName.query (Outline.query none none)
      (recognise selector b queryRule ts) (query b ts)
  | 0, _ | 1, _ | 2, _ | 3, _ | 4, _ => .failed
  | b + 5, ts => by
    have hseq : recognise selector (b + 5) queryRule ts = _ :=
      recognise_sequence selector (b + 4) _ _ ts
    simp only [hseq, recogniseAll_cons, recogniseAll_nil,
      recognise_maybe get?_subQuery, query, Option.bind_eq_bind]
    rcases reads_compound (b + 2) ts with
      ⟨h1, h2⟩ | ⟨o, c, ts1, h1, h2, hread⟩
    · rw [h1, h2]
      exact .failed
    simp only [h1, h2, Option.bind_some, Outline.append_done]
    have hlink := reads_link (reads_query b) ts1
    generalize recognise selector (b + 2) subQueryRule ts1 = r at hlink ⊢
    generalize link (query b) ts1 = d at hlink ⊢
    cases hlink with
    | failed =>
      apply Reads.ok
      simp only [Option.getD_none]
      rw [hread]
      rfl
    | @ok inside s ahead hsub =>
      apply Reads.ok
      have hne : RuleName.subQuery ≠ RuleName.typeIdQuery := by decide
      have hne' : RuleName.subQuery ≠ RuleName.attrQuery := by decide
      simp only [Option.getD_some]
      rw [hread]
      simp only [Outline.query, if_neg hne, if_neg hne', if_true, hsub]
      rfl

end SceneSelector.Descent
