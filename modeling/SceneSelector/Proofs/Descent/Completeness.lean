import SceneSelector.Proofs.Descent.Soundness

/-!
# What is spelled is read

If tokens begin with the words of a query whose levels lie within the budget,
the descent reads at least as far as those words (`query_reaches`). It need
not return that query: where a chain of selectors is broken, the descent reads
on, as long as there are levels for one more selector, and breaks the chain
at that point instead. If no chain is broken and no token is left, it is that
very query that it returns.

Two consequences are about queries alone. The tokens of a query determine it
up to broken chains (`joined_eq_of_spells`), and with levels enough the
descent breaks no chain (`unbroken_of_query`).
-/

namespace SceneSelector.Descent

open Compound

variable {ts mid ahead : List Token} {w : Word} {ws : List Word}

/-! ## Tokens that stop a reading -/

/-- The tokens do not begin with one of these kinds. -/
def Avoids (kinds : List Kind) (ts : List Token) : Prop :=
  ∀ t ∈ ts.head?, t.kind ∉ kinds

theorem Avoids.nil (kinds : List Kind) : Avoids kinds [] := by
  intro t h
  cases h

theorem Avoids.mono {kinds kinds' : List Kind} (h : Avoids kinds ts)
    (hsub : kinds' ⊆ kinds) : Avoids kinds' ts :=
  fun t ht hmem => h t ht (hsub hmem)

theorem avoids_of_spells {kinds : List Kind} {kind : Kind} {literal : String}
    (h : Spells (.exact kind literal :: ws) ts ahead) (hk : kind ∉ kinds) :
    Avoids kinds ts := by
  cases h with
  | cons admits rest =>
    intro t ht
    cases ht
    exact admits.1 ▸ hk

theorem first_eq_none {α : Type} {f : Token → Option α}
    (h : ∀ t ∈ ts.head?, f t = none) : first f ts = none := by
  cases ts with
  | nil => rfl
  | cons t ts => simp [first, h t rfl]

theorem first_symbol_eq_none {kind : Kind} {spelling : String}
    (h : Avoids [kind] ts) : first (symbol? kind spelling) ts = none := by
  apply first_eq_none
  intro t ht
  have hk := h t ht
  simp only [List.mem_singleton] at hk
  simp [symbol?, Pattern.accepts_exact, hk]

theorem oneSelector_eq_none (h : Avoids [.hash, .dot] ts) :
    oneSelector ts = none := by
  have hsigil : first sigil? ts = none := by
    apply first_eq_none
    intro t ht
    have hk := h t ht
    simp only [List.mem_cons, List.not_mem_nil, or_false, not_or] at hk
    simp [sigil?, Pattern.accepts_exact, hk]
  rw [oneSelector, hsigil]
  rfl

theorem first_target_eq_none (h : Avoids [.identifier, .star] ts) :
    first target? ts = none := by
  apply first_eq_none
  intro t ht
  have hk := h t ht
  simp only [List.mem_cons, List.not_mem_nil, or_false, not_or] at hk
  simp [target?, Pattern.accepts_exact, hk]

/-- A selector begins with its sigil. -/
theorem avoids_of_selector {kinds : List Kind} {s : Selector}
    (h : Spells (s.words ++ ws) ts ahead) (hhash : .hash ∉ kinds)
    (hdot : .dot ∉ kinds) : Avoids kinds ts := by
  cases s with
  | byId name => exact avoids_of_spells h hhash
  | byClass name => exact avoids_of_spells h hdot

theorem selectors_eq_none (b : Nat) (h : Avoids [.hash, .dot] ts) :
    selectors b ts = none := by
  match b with
  | 0 | 1 | 2 => rfl
  | b + 3 =>
    rw [selectors, oneSelector_eq_none h]
    rfl

theorem selectors_of_lt {b : Nat} (hb : b < 3) (ts : List Token) :
    selectors b ts = none := by
  match b with
  | 0 | 1 | 2 => rfl

theorem attributes_eq_none (b : Nat) (h : Avoids [.openBracket] ts) :
    attributes b ts = none := by
  match b with
  | 0 | 1 | 2 | 3 => rfl
  | b + 4 =>
    rw [attributes, oneAttribute, first_symbol_eq_none h]
    rfl

theorem argumentList_eq_none (b : Nat) (h : Avoids [.openParen] ts) :
    argumentList b ts = none := by
  rw [argumentList, first_symbol_eq_none h]
  rfl

theorem pseudoClass_eq_none (b : Nat) (h : Avoids [.colon] ts) :
    pseudoClass b ts = none := by
  match b with
  | 0 | 1 | 2 => rfl
  | b + 3 =>
    rw [pseudoClass, first_symbol_eq_none h]
    rfl

/-! ## Chains of selectors and of attributes -/

/-- Selectors are read up to the last one that is spelled, and what follows
is read with the levels that are left. -/
theorem selectors_of_spells {ss more : List Selector} {b : Nat}
    (h : Spells (selectorWords ss) ts mid) (hb : 3 * ss.length ≤ b)
    (hmore : (selectors (b - 3 * ss.length) mid).getD ([], mid) =
      (more, ahead)) :
    (selectors b ts).getD ([], ts) = (ss ++ more, ahead) := by
  induction ss generalizing b ts with
  | nil =>
    cases h
    exact hmore
  | cons s ss ih =>
    obtain ⟨mid', hs, hss⟩ := h.of_append
    simp only [List.length_cons] at hb hmore
    obtain ⟨b, rfl⟩ : ∃ n, b = n + 3 := ⟨b - 3, by omega⟩
    rw [show b + 3 - 3 * (ss.length + 1) = b - 3 * ss.length by omega] at hmore
    have hrest := ih hss (by omega) hmore
    simp only [selectors, oneSelector_iff.mpr hs, Option.bind_eq_bind,
      Option.bind_some, hrest]
    rfl

theorem attributes_of_spells {as more : List Attribute} {b : Nat}
    (h : Spells (attributeWords as) ts mid) (hb : attributeLevels as ≤ b)
    (hmore : (attributes (b - 3 * as.length) mid).getD ([], mid) =
      (more, ahead)) :
    (attributes b ts).getD ([], ts) = (as ++ more, ahead) := by
  induction as generalizing b ts with
  | nil =>
    cases h
    exact hmore
  | cons a as ih =>
    obtain ⟨mid', ha, has⟩ := h.of_append
    simp only [attributeLevels, List.cons_ne_nil, if_false,
      List.length_cons] at hb hmore
    obtain ⟨b, rfl⟩ : ∃ n, b = n + 4 := ⟨b - 4, by omega⟩
    rw [show b + 4 - 3 * (as.length + 1) = b + 1 - 3 * as.length by omega]
      at hmore
    have hlevels : attributeLevels as ≤ b + 1 := by
      unfold attributeLevels
      split <;> omega
    have hrest := ih has hlevels hmore
    simp only [attributes, oneAttribute_iff.mpr ha, Option.bind_eq_bind,
      Option.bind_some, hrest]
    rfl

/-- With nothing to go on with, a chain of selectors is read as it is
spelled. -/
theorem selectors_eq_some {s : Selector} {ss : List Selector} {b : Nat}
    (h : (selectors b ts).getD ([], ts) = (s :: ss, ahead)) :
    selectors b ts = some (s :: ss, ahead) := by
  cases hd : selectors b ts with
  | none =>
    rw [hd] at h
    cases h
  | some r =>
    rw [hd] at h
    rw [← h]
    rfl

/-! ## Arguments and pseudo-classes -/

theorem args_of_spells {vs : List Value} {b : Nat} (hne : vs ≠ [])
    (h : Spells (argsWords vs) ts ahead) (hb : 4 * vs.length ≤ b)
    (hstop : Avoids [.comma] ahead) : args b ts = some (vs, ahead) := by
  induction vs generalizing b ts with
  | nil => exact absurd rfl hne
  | cons v vs ih =>
    simp only [List.length_cons] at hb
    obtain ⟨b, rfl⟩ : ∃ n, b = n + 4 := ⟨b - 4, by omega⟩
    cases vs with
    | nil =>
      simp [args, first_value_iff.mpr h, first_symbol_eq_none hstop]
    | cons v' vs =>
      obtain ⟨_, hv, h⟩ := Spells.cons_iff.mp h
      obtain ⟨_, hcomma, h⟩ := Spells.cons_iff.mp h
      have hrest : args b _ = _ := ih (List.cons_ne_nil _ _) h (by omega)
      simp only [args, first_value_iff.mpr hv, Option.bind_eq_bind,
        Option.bind_some, first_symbol_of_spells hcomma, hrest]
      rfl

theorem argumentList_of_spells {vs : List Value} {b : Nat} (hne : vs ≠ [])
    (h : Spells (argumentWords vs) ts ahead) (hb : 4 * vs.length ≤ b) :
    argumentList b ts = some (vs, ahead) := by
  rw [argumentWords, if_neg hne] at h
  obtain ⟨_, hopen, h⟩ := Spells.cons_iff.mp h
  obtain ⟨_, hargs, hclose⟩ := h.of_append
  have hstop := avoids_of_spells hclose (by decide : _ ∉ [Kind.comma])
  simp only [argumentList, Option.bind_eq_bind, Option.bind_some,
    first_symbol_of_spells hopen,
    args_of_spells hne hargs hb hstop,
    first_symbol_of_spells hclose]
  rfl

/-- A pseudo-class without arguments is read together with arguments that
happen to follow it. -/
theorem pseudoClass_of_spells {p : PseudoClass} {b : Nat}
    (h : Spells p.words ts ahead) (hb : p.levels ≤ b) :
    ∃ p' ahead', pseudoClass b ts = some (p', ahead') ∧
      ahead'.length ≤ ahead.length ∧
      (Avoids [.openParen] ahead → p' = p ∧ ahead' = ahead) := by
  obtain ⟨name, vs⟩ := p
  obtain ⟨_, hcolon, h⟩ := Spells.cons_iff.mp h
  obtain ⟨mid, hname, hargs⟩ := Spells.cons_iff.mp h
  simp only [PseudoClass.levels] at hb
  obtain ⟨b, rfl⟩ : ∃ n, b = n + 3 := ⟨b - 3, by split at hb <;> omega⟩
  simp only [pseudoClass, first_symbol_of_spells hcolon,
    first_identifier_iff.mpr hname, Option.bind_eq_bind, Option.bind_some]
  by_cases hvs : vs = []
  · subst hvs
    obtain rfl : mid = ahead := Spells.nil_iff.mp hargs
    cases hd : argumentList (b - 1) mid with
    | none => exact ⟨_, _, rfl, Nat.le_refl _, fun _ => ⟨rfl, rfl⟩⟩
    | some r =>
      obtain ⟨vs, ahead'⟩ := r
      refine ⟨_, _, rfl, ?_, ?_⟩
      · have := (argumentList_sound hd).2.2.length_eq
        simp only [Option.getD_some]
        omega
      · intro hstop
        rw [argumentList_eq_none _ hstop] at hd
        cases hd
  · rw [if_neg hvs] at hb
    rw [argumentList_of_spells hvs hargs (by omega)]
    exact ⟨_, _, rfl, Nat.le_refl _, fun _ => ⟨rfl, rfl⟩⟩

/-! ## Compounds -/

theorem pseudoClass_getD_of_spells {p : Option PseudoClass} {b : Nat}
    (h : Spells ((p.map PseudoClass.words).getD []) ts ahead)
    (hb : (p.map PseudoClass.levels).getD 0 ≤ b) :
    ∃ p' ahead', ((pseudoClass b ts).map fun (p, ts) => (some p, ts)).getD
        (none, ts) = (p', ahead') ∧
      ahead'.length ≤ ahead.length ∧
      (Avoids [.colon, .openParen] ahead → p' = p ∧ ahead' = ahead) := by
  cases p with
  | none =>
    obtain rfl : ts = ahead := Spells.nil_iff.mp h
    rcases hread : ((pseudoClass b ts).map fun (p, ts) => (some p, ts)).getD
      (none, ts) with ⟨p', ahead'⟩
    have hlength := (pseudoClass_getD_sound hread).2.length_eq
    refine ⟨p', ahead', hread, by omega, fun havoids => ?_⟩
    rw [pseudoClass_eq_none b (havoids.mono (by simp))] at hread
    cases hread
    exact ⟨rfl, rfl⟩
  | some p =>
    obtain ⟨p', ahead', hread, hlength, hstop⟩ := pseudoClass_of_spells h hb
    refine ⟨some p', ahead', by rw [hread]; rfl, hlength, fun havoids => ?_⟩
    obtain ⟨rfl, rfl⟩ := hstop (havoids.mono (by simp))
    exact ⟨rfl, rfl⟩

/-- What stands after the selectors is read, and possibly more of the same. -/
theorem qualified_of_spells {p : Option PseudoClass} {as : List Attribute}
    {b : Nat} (target : Target) (ss : List Selector)
    (h : Spells (qualifierWords p as) ts ahead)
    (hb : qualifierLevels p as ≤ b) :
    ∃ c' ahead', qualified b target ss ts = (c', ahead') ∧
      ahead'.length ≤ ahead.length ∧
      (Avoids [.colon, .openParen, .openBracket] ahead →
        c' = ⟨target, ss, p, as⟩ ∧ ahead' = ahead) := by
  obtain ⟨mid, hp, has⟩ := h.of_append
  obtain ⟨hplevels, halevels⟩ := Nat.max_le.mp hb
  obtain ⟨p', mid', hreadp, hlength, hstop⟩ :=
    pseudoClass_getD_of_spells hp hplevels
  simp only [qualified, hreadp]
  cases as with
  | nil =>
    obtain rfl : mid = ahead := Spells.nil_iff.mp has
    rcases hreada : (attributes b mid').getD ([], mid') with ⟨as', ahead'⟩
    have hlengtha := (attributes_getD_sound hreada).2.length_eq
    refine ⟨_, ahead', rfl, by omega, fun havoids => ?_⟩
    obtain ⟨rfl, rfl⟩ := hstop (havoids.mono (by simp))
    rw [attributes_eq_none b (havoids.mono (by simp))] at hreada
    cases hreada
    exact ⟨rfl, rfl⟩
  | cons a as =>
    have hbracket : Avoids [.colon, .openParen] mid :=
      avoids_of_spells has (by decide)
    obtain ⟨rfl, rfl⟩ := hstop hbracket
    rcases hmore : (attributes (b - 3 * (a :: as).length) ahead).getD
      ([], ahead) with ⟨more, ahead'⟩
    have hlengtha := (attributes_getD_sound hmore).2.length_eq
    rw [attributes_of_spells has halevels hmore]
    refine ⟨_, ahead', rfl, by omega, fun havoids => ?_⟩
    rw [attributes_eq_none _ (havoids.mono (by simp))] at hmore
    cases hmore
    simp

/-- A compound is read as far as its selectors go, and further selectors with
the levels that are left. -/
theorem compound_of_selectors {c : Compound} {more : List Selector} {b : Nat}
    (hanchored : c.Anchored) (hb : selectorLevels c.target c.selectors ≤ b)
    (h : Spells (c.target.words ++ selectorWords c.selectors) ts mid)
    (hmore : (selectors (b - selectorLevels c.target c.selectors) mid).getD
      ([], mid) = (more, ahead)) :
    compound b ts =
      some (qualified (b - 3) c.target (c.selectors ++ more) ahead) := by
  have hb3 : 3 ≤ b := by
    unfold selectorLevels at hb
    split at hb
    · next ht =>
      have := List.length_pos_iff.mpr (hanchored ht)
      omega
    · omega
  obtain ⟨b, rfl⟩ : ∃ n, b = n + 3 := ⟨b - 3, by omega⟩
  rw [Nat.add_sub_cancel]
  by_cases ht : c.target = .unspecified
  · simp only [selectorLevels, if_pos ht] at hb hmore
    rw [show b + 3 - (3 * c.selectors.length + 2) =
      b + 1 - 3 * c.selectors.length by omega] at hmore
    rw [ht] at h
    have hread := selectors_of_spells h (by omega) hmore
    obtain ⟨s, ss, hcons⟩ := List.exists_cons_of_ne_nil (hanchored ht)
    have htyped : typed (b + 3) ts = none := by
      rw [hcons] at h
      simp [typed, first_target_eq_none (avoids_of_selector h (by decide) (by decide))]
    rw [hcons, List.cons_append] at hread ⊢
    rw [compound, htyped, Option.none_or, untyped,
      selectors_eq_some hread, ht]
    rfl
  · simp only [selectorLevels, if_neg ht] at hb hmore
    rw [show b + 3 - (3 * c.selectors.length + 3) =
      b - 3 * c.selectors.length by omega] at hmore
    obtain ⟨mid', htarget, hss⟩ := h.of_append
    have hfirst : first target? ts = some (c.target, mid') :=
      first_target_iff.mpr ⟨ht, htarget⟩
    have hread := selectors_of_spells hss (by omega) hmore
    have htyped : typed (b + 3) ts =
        some (qualified b c.target (c.selectors ++ more) ahead) := by
      simp only [typed, hfirst, Option.bind_eq_bind, Option.bind_some, hread]
      rfl
    rw [compound, htyped, Option.some_or]

theorem avoids_of_qualifiers {kinds : List Kind} {p : Option PseudoClass}
    {as : List Attribute} (h : Spells (qualifierWords p as) ts ahead)
    (hne : ¬ (p = none ∧ as = [])) (hcolon : .colon ∉ kinds)
    (hbracket : .openBracket ∉ kinds) : Avoids kinds ts := by
  cases p with
  | some p => exact avoids_of_spells h hcolon
  | none =>
    cases as with
    | cons a as => exact avoids_of_spells h hbracket
    | nil => exact absurd ⟨rfl, rfl⟩ hne

/-- Nothing of what follows can be read as a part of the compound. -/
structure Stops (b : Nat) (c : Compound) (ahead : List Token) : Prop where
  qualifiers : Avoids [.colon, .openParen, .openBracket] ahead
  selectors : c.Bare →
    Descent.selectors (b - selectorLevels c.target c.selectors) ahead = none

/-- A compound is read at least as far as it is spelled. -/
theorem compound_of_spells {c : Compound} {b : Nat} (hanchored : c.Anchored)
    (hb : c.levels ≤ b) (h : Spells c.words ts ahead) :
    ∃ c' ahead', compound b ts = some (c', ahead') ∧
      ahead'.length ≤ ahead.length ∧
      (Stops b c ahead → c' = c ∧ ahead' = ahead) := by
  obtain ⟨hslevels, hqlevels⟩ := Nat.max_le.mp hb
  rw [Compound.words, ← List.append_assoc] at h
  obtain ⟨mid, hss, hq⟩ := h.of_append
  rcases hmore : (selectors (b - selectorLevels c.target c.selectors) mid).getD
    ([], mid) with ⟨more, mid'⟩
  rw [compound_of_selectors hanchored hslevels hss hmore]
  by_cases hbare : c.Bare
  · obtain ⟨target, ss, p, as⟩ := c
    obtain ⟨rfl, rfl⟩ := hbare
    obtain rfl : mid = ahead := Spells.nil_iff.mp hq
    have hlength := (selectors_getD_sound hmore).2.length_eq
    obtain ⟨c', ahead', hread, hlength', hstop⟩ :=
      qualified_of_spells target (ss ++ more)
        (show Spells (qualifierWords none []) mid' mid' from .nil) (b := b - 3)
        (Nat.zero_le _)
    refine ⟨c', ahead', by rw [hread], by omega, fun hstops => ?_⟩
    rw [hstops.selectors ⟨rfl, rfl⟩] at hmore
    cases hmore
    rw [List.append_nil] at hstop
    exact hstop hstops.qualifiers
  · rw [selectors_eq_none _ (avoids_of_qualifiers hq hbare (by decide)
      (by decide))] at hmore
    cases hmore
    obtain ⟨c', ahead', hread, hlength, hstop⟩ :=
      qualified_of_spells c.target (c.selectors ++ []) hq (b := b - 3)
        (by omega)
    refine ⟨c', ahead', by rw [hread], hlength, fun hstops => ?_⟩
    rw [List.append_nil] at hstop
    exact hstop hstops.qualifiers

/-! ## Chains of compounds -/

theorem avoids_of_query {kinds : List Kind} {q : Query}
    (hanchored : q.Anchored) (h : Spells q.words ts ahead)
    (hk : ∀ k ∈ q.head.target.openers, k ∉ kinds) : Avoids kinds ts := by
  obtain ⟨kind, hkind, literal, ws, hws⟩ := Query.words_eq_cons hanchored
  rw [hws] at h
  exact avoids_of_spells h (hk kind hkind)

theorem openers_avoid (target : Target) : ∀ k ∈ target.openers,
    k ∉ [Kind.greater, .colon, .openParen, .openBracket] := by
  cases target <;> simp [Target.openers]

theorem openers_avoid_sigils {target : Target} (h : target ≠ .unspecified) :
    ∀ k ∈ target.openers, k ∉ [Kind.hash, .dot] := by
  cases target with
  | unspecified => exact absurd rfl h
  | _ => simp [Target.openers]

theorem link_of_spells {next : List Token → Option (Query × List Token)}
    {k : Combinator} {q : Query} (hk : Spells k.words ts mid)
    (hgreater : Avoids [.greater] mid) (hq : next mid = some (q, ahead)) :
    link next ts = some ((k, q), ahead) := by
  cases k with
  | child =>
    simp only [link, first_symbol_of_spells hk, hq,
      Option.map_some]
  | descendant =>
    obtain rfl : ts = mid := Spells.nil_iff.mp hk
    simp only [link, first_symbol_eq_none hgreater, hq, Option.map_some]

theorem compound_nil (b : Nat) : compound b [] = none := by
  cases hc : compound b [] with
  | none => rfl
  | some r =>
    obtain ⟨hanchored, -, hspells⟩ := compound_sound hc
    obtain ⟨kind, -, literal, ws, hws⟩ := Compound.words_eq_cons hanchored
    rw [hws] at hspells
    cases hspells

theorem query_nil (b : Nat) : query b [] = none := by
  match b with
  | 0 | 1 | 2 | 3 | 4 => rfl
  | b + 5 =>
    rw [query, compound_nil]
    rfl

theorem link_nil (b : Nat) : link (query b) [] = none := by
  rw [link, first_symbol_eq_none (.nil _), query_nil]
  rfl

theorem query_of_compound {b : Nat} {c : Compound}
    (hc : compound (b + 2) ts = some (c, mid)) :
    query (b + 5) ts =
      match link (query b) mid with
      | some ((k, q), ahead) => some (.link c k q, ahead)
      | none => some (.single c, mid) := by
  simp only [query, hc, Option.bind_eq_bind, Option.bind_some]
  rfl

theorem stops_nil (b : Nat) (c : Compound) : Stops b c [] :=
  ⟨.nil _, fun _ => selectors_eq_none _ (.nil _)⟩

/-- Where two compounds can be told apart, the first of them stops at the
second one. -/
theorem stops_of_not_seamless {c : Compound} {k : Combinator} {rest : Query}
    {b : Nat} (hseamless : ¬ Query.Seamless c k rest)
    (hanchored : rest.Anchored)
    (h : Spells (k.words ++ rest.words) mid ahead) : Stops b c mid := by
  cases k with
  | child =>
    refine ⟨avoids_of_spells h (by decide), fun _ => ?_⟩
    exact selectors_eq_none _ (avoids_of_spells h (by decide))
  | descendant =>
    refine ⟨(avoids_of_query hanchored h (openers_avoid _)).mono (by simp),
      fun hbare => ?_⟩
    have ht : rest.head.target ≠ .unspecified :=
      fun ht => hseamless ⟨rfl, hbare, ht⟩
    exact selectors_eq_none _
      (avoids_of_query hanchored h (openers_avoid_sigils ht))

/-- The first selectors of a query, taken off its front. -/
theorem exists_eq_prepend {q : Query} {ss ss' : List Selector}
    (hanchored : q.Anchored) (ht : q.head.target = .unspecified)
    (hss : q.head.selectors = ss ++ ss') (hne : ss' ≠ []) :
    ∃ q' : Query, q = q'.prepend ⟨.unspecified, ss, none, []⟩ ∧
      q'.head.target = .unspecified ∧ q'.Anchored ∧ q'.depth = q.depth ∧
      q'.levels ≤ q.levels := by
  have hlevels (p : Option PseudoClass) (as : List Attribute) :
      Compound.levels ⟨.unspecified, ss', p, as⟩ ≤
        Compound.levels ⟨.unspecified, ss ++ ss', p, as⟩ := by
    simp only [Compound.levels, selectorLevels, List.length_append]
    omega
  cases q with
  | single c =>
    obtain ⟨target, sel, p, as⟩ := c
    obtain rfl : target = .unspecified := ht
    obtain rfl : sel = ss ++ ss' := hss
    refine ⟨.single ⟨.unspecified, ss', p, as⟩, rfl, rfl, fun _ => hne, rfl, ?_⟩
    have := hlevels p as
    simp only [Query.levels]
    omega
  | link c k rest =>
    obtain ⟨target, sel, p, as⟩ := c
    obtain rfl : target = .unspecified := ht
    obtain rfl : sel = ss ++ ss' := hss
    refine ⟨.link ⟨.unspecified, ss', p, as⟩ k rest, rfl, rfl,
      ⟨fun _ => hne, hanchored.2⟩, rfl, ?_⟩
    have := hlevels p as
    simp only [Query.levels]
    omega

theorem depth_prepend (c : Compound) (q : Query) :
    (q.prepend c).depth = q.depth := by
  cases q <;> rfl

theorem levels_prepend_le {c : Compound} {q : Query} {b : Nat}
    (hss : selectorLevels c.target (c.selectors ++ q.head.selectors) + 3 ≤ b)
    (hq : q.levels ≤ b) : (q.prepend c).levels ≤ b := by
  cases q with
  | single next =>
    simp only [Query.prepend, Query.levels, Compound.levels,
      Compound.followedBy, Query.head] at hss hq ⊢
    omega
  | link next k rest =>
    simp only [Query.prepend, Query.levels, Compound.levels,
      Compound.followedBy, Query.head] at hss hq ⊢
    omega

theorem selectorLevels_append (target : Target) (ss ss' : List Selector) :
    selectorLevels target (ss ++ ss') =
      selectorLevels target ss + 3 * ss'.length := by
  simp only [selectorLevels, List.length_append]
  omega

/-- A compound that leaves no levels for one more selector is read as it is
spelled, even if selectors follow. -/
theorem compound_of_full {c : Compound} {b : Nat} (hanchored : c.Anchored)
    (hb : c.levels ≤ b)
    (hfull : b < selectorLevels c.target c.selectors + 3)
    (h : Spells c.words ts ahead)
    (havoids : Avoids [.colon, .openParen, .openBracket] ahead) :
    compound b ts = some (c, ahead) := by
  obtain ⟨c', ahead', hread, -, hexact⟩ := compound_of_spells hanchored hb h
  obtain ⟨rfl, rfl⟩ :=
    hexact ⟨havoids, fun _ => selectors_of_lt (by omega) ahead⟩
  exact hread

/-- A chain of selectors that the levels do not suffice for is broken, and
the rest of it begins a query of its own. -/
theorem compound_breaks {c : Compound} {rest : Query} {b : Nat}
    (hc : c.Anchored) (hb : c.levels ≤ b) (hbare : c.Bare)
    (hspells : Spells c.words ts mid) (hrest : rest.Anchored)
    (ht : rest.head.target = .unspecified)
    (hspells' : Spells rest.words mid ahead)
    (htoo : b < selectorLevels c.target (c.selectors ++ rest.head.selectors)) :
    ∃ c' rest' mid', compound b ts = some (c', mid') ∧
      Query.Anchored rest' ∧ rest'.depth = rest.depth ∧
      rest'.levels ≤ rest.levels ∧ Spells rest'.words mid' ahead := by
  have hlevels : selectorLevels c.target c.selectors ≤ b :=
    (Nat.max_le.mp hb).1
  have hb3 : 3 ≤ b := by
    have : 3 ≤ c.levels := by
      simp only [Compound.levels]
      omega
    omega
  -- as many selectors as the levels suffice for
  obtain ⟨n, hn⟩ : ∃ n, n = (b - selectorLevels c.target c.selectors) / 3 :=
    ⟨_, rfl⟩
  have hroom : 3 * n ≤ b - selectorLevels c.target c.selectors ∧
      b - selectorLevels c.target c.selectors < 3 * n + 3 := by omega
  rw [selectorLevels_append] at htoo
  have hlength : n < rest.head.selectors.length := by omega
  obtain ⟨rest', hrest', ht', hanchored', hdepth, hlevels'⟩ :=
    exists_eq_prepend hrest ht (List.take_append_drop n _).symm
      (by simpa using hlength)
  let front : Compound := ⟨.unspecified, rest.head.selectors.take n, none, []⟩
  rw [hrest', Query.words_prepend ⟨rfl, rfl⟩ ht'] at hspells'
  obtain ⟨mid', hfront, hspells'⟩ := hspells'.of_append
  have hc' : Spells (c.followedBy front).words ts mid' := by
    rw [Query.words_followedBy hbare rfl]
    exact hspells.append hfront
  have hfrontLevels : selectorLevels c.target (c.selectors ++ front.selectors) =
      selectorLevels c.target c.selectors + 3 * n := by
    rw [selectorLevels_append, List.length_take,
      Nat.min_eq_left (Nat.le_of_lt hlength)]
  have hclevels : (c.followedBy front).levels ≤ b := by
    simp only [Compound.levels, Compound.followedBy, hfrontLevels]
    exact Nat.max_le.mpr ⟨by omega, hb3⟩
  have hcanchored : (c.followedBy front).Anchored :=
    fun ht hnil => hc ht (List.append_eq_nil_iff.mp hnil).1
  have hfull :
      b < selectorLevels c.target (c.selectors ++ front.selectors) + 3 := by
    rw [hfrontLevels]
    omega
  have hread := compound_of_full hcanchored hclevels hfull hc'
    ((avoids_of_query hanchored' hspells' (openers_avoid _)).mono (by simp))
  exact ⟨_, rest', _, hread, hanchored', hdepth, hlevels', hspells'⟩

/-- The descent reads at least as far as `q` is spelled, up to `ahead`. With no
token left it reads `q` itself, unless a chain of selectors is broken in it. -/
def Reaches (b : Nat) (q : Query) (ts ahead : List Token) : Prop :=
  ∃ q' ahead', query b ts = some (q', ahead') ∧
    ahead'.length ≤ ahead.length ∧ (q.Unbroken → ahead = [] → q' = q)

/-- A query with a broken chain need not be what is read. -/
theorem Reaches.of_broken {b : Nat} {q q' : Query}
    (h : Reaches b q' ts ahead) (hq : ¬ q.Unbroken) :
    Reaches b q ts ahead := by
  obtain ⟨q'', ahead', hread, hlength, -⟩ := h
  exact ⟨q'', ahead', hread, hlength, fun hunbroken => absurd hunbroken hq⟩

theorem reaches_single {c : Compound} {b : Nat} (hanchored : c.Anchored)
    (hb : c.levels ≤ b + 2) (h : Spells c.words ts ahead) :
    Reaches (b + 5) (.single c) ts ahead := by
  obtain ⟨c', mid, hread, hlength, hstop⟩ := compound_of_spells hanchored hb h
  rw [Reaches, query_of_compound hread]
  rcases hlink : link (query b) mid with _ | ⟨⟨k, rest⟩, ahead'⟩
  · refine ⟨_, mid, rfl, hlength, fun _ hnil => ?_⟩
    rw [(hstop (hnil ▸ stops_nil _ _)).1]
  · obtain ⟨mid', hk, hrest⟩ := link_eq_some hlink
    have hk := hk.length_eq
    have hrest := (query_sound hrest).2.2.length_eq
    refine ⟨_, ahead', rfl, by omega, fun _ hnil => ?_⟩
    subst hnil
    rw [(hstop (stops_nil _ _)).2, link_nil] at hlink
    cases hlink

/-- A compound that is read as it is spelled is followed by what the rest of
the chain reaches. -/
theorem reaches_link {c : Compound} {k : Combinator} {rest : Query} {b : Nat}
    {mid' : List Token} (hread : compound (b + 2) ts = some (c, mid))
    (hk : Spells k.words mid mid') (hanchored : rest.Anchored)
    (hspells : Spells rest.words mid' ahead)
    (hrest : Reaches b rest mid' ahead) :
    Reaches (b + 5) (.link c k rest) ts ahead := by
  obtain ⟨q', ahead', hq, hlength, hexact⟩ := hrest
  have hgreater : Avoids [.greater] mid' :=
    (avoids_of_query hanchored hspells (openers_avoid _)).mono (by simp)
  refine ⟨.link c k q', ahead', ?_, hlength, fun hunbroken hnil => ?_⟩
  · rw [query_of_compound hread, link_of_spells hk hgreater hq]
  · rw [hexact hunbroken.2 hnil]

/-- **The descent reads at least as far as a query is spelled** whose levels
lie within the budget. -/
theorem query_reaches {q : Query} {b : Nat} {ts ahead : List Token}
    (hanchored : q.Anchored) (hb : q.levels ≤ b)
    (h : Spells q.words ts ahead) : Reaches b q ts ahead := by
  -- on the number of compounds, which both ways to go on in a chain decrease
  induction hn : q.depth using Nat.strongRecOn generalizing q b ts ahead with
  | ind n ih =>
  subst hn
  have hb5 : 5 ≤ b := by
    cases q <;> simp only [Query.levels, Compound.levels] at hb <;> omega
  obtain ⟨b, rfl⟩ : ∃ n, b = n + 5 := ⟨b - 5, by omega⟩
  cases q with
  | single c =>
    simp only [Query.levels] at hb
    exact reaches_single hanchored (by omega) h
  | link c k rest =>
    simp only [Query.levels] at hb
    obtain ⟨mid, hc, hrest⟩ := h.of_append
    by_cases hseamless : Query.Seamless c k rest
    · have hbroken : ¬ (Query.link c k rest).Unbroken :=
        fun hunbroken => hunbroken.1 hseamless
      obtain ⟨rfl, hbare, ht⟩ := hseamless
      by_cases hfits : selectorLevels c.target
          (c.selectors ++ rest.head.selectors) ≤ b + 2
      · have hprepend : Spells (rest.prepend c).words ts ahead := by
          rw [Query.words_prepend hbare ht]
          exact hc.append hrest
        have hlevels : (rest.prepend c).levels ≤ b + 5 :=
          levels_prepend_le (by omega) (by omega)
        exact (ih _ (Nat.lt_succ_self _)
          (Query.anchored_prepend hanchored.1 hanchored.2) hlevels hprepend
          (depth_prepend c rest)).of_broken hbroken
      · obtain ⟨c', rest', mid', hread, hrest', hdepth, hlevels, hspells⟩ :=
          compound_breaks hanchored.1 (by omega) hbare hc hanchored.2 ht hrest
            (Nat.lt_of_not_le hfits)
        have hreaches : Reaches b rest' mid' ahead :=
          ih _ (Nat.lt_succ_self _) hrest' (by omega) hspells hdepth
        exact (reaches_link (k := .descendant) hread .nil hrest' hspells
          hreaches).of_broken hbroken
    · obtain ⟨c', mid', hread, -, hstop⟩ :=
        compound_of_spells hanchored.1 (by omega) hc (b := b + 2)
      obtain ⟨rfl, rfl⟩ :=
        hstop (stops_of_not_seamless hseamless hanchored.2 hrest)
      obtain ⟨mid, hk, hspells⟩ := hrest.of_append
      exact reaches_link hread hk hanchored.2 hspells
        (ih _ (Nat.lt_succ_self _) hanchored.2 (by omega) hspells rfl)

/-! ## Levels that always suffice -/

theorem length_selectorWords (ss : List Selector) :
    (selectorWords ss).length = 2 * ss.length := by
  induction ss with
  | nil => rfl
  | cons s ss ih =>
    have hs : s.words.length = 2 := by cases s <;> rfl
    rw [selectorWords] at ih
    simp only [selectorWords, List.flatMap_cons, List.length_append, hs, ih,
      List.length_cons]
    omega

theorem length_attributeWords (as : List Attribute) :
    (attributeWords as).length = 5 * as.length := by
  induction as with
  | nil => rfl
  | cons a as ih =>
    have ha : a.words.length = 5 := rfl
    rw [attributeWords] at ih
    simp only [attributeWords, List.flatMap_cons, List.length_append, ha, ih,
      List.length_cons]
    omega

theorem length_argsWords {vs : List Value} (h : vs ≠ []) :
    (argsWords vs).length + 1 = 2 * vs.length := by
  induction vs with
  | nil => exact absurd rfl h
  | cons v vs ih =>
    cases vs with
    | nil => rfl
    | cons v' vs =>
      have := ih (List.cons_ne_nil _ _)
      simp only [argsWords, List.map_cons, List.intersperse_cons_cons,
        List.length_cons] at this ⊢
      omega

theorem pseudoClass_levels_le (p : PseudoClass) :
    p.levels + 3 ≤ 5 * p.words.length := by
  unfold PseudoClass.levels
  split
  · simp only [PseudoClass.words, List.length_cons]
    omega
  · next h =>
    have := length_argsWords h
    simp only [PseudoClass.words, argumentWords, if_neg h, List.length_cons,
      List.length_append, List.length_nil]
    omega

theorem compound_levels_le {c : Compound} (h : c.Anchored) :
    c.levels ≤ 5 * c.words.length := by
  obtain ⟨target, ss, p, as⟩ := c
  have hselectors : max 3 (selectorLevels target ss) ≤
      5 * (target.words.length + 2 * ss.length) := by
    cases target with
    | unspecified =>
      have : 0 < ss.length := List.length_pos_iff.mpr (h rfl)
      simp only [selectorLevels, if_true, Target.words, List.length_nil]
      omega
    | _ =>
      simp only [selectorLevels, Target.words, List.length_singleton,
        reduceCtorEq, if_false]
      omega
  have hp : (p.map PseudoClass.levels).getD 0 ≤
      5 * ((p.map PseudoClass.words).getD []).length - 3 := by
    cases p with
    | none => simp
    | some p =>
      have := pseudoClass_levels_le p
      simp only [Option.map_some, Option.getD_some]
      omega
  have has : attributeLevels as ≤ 5 * (5 * as.length) - 3 := by
    unfold attributeLevels
    split
    · exact Nat.zero_le _
    · next hne =>
      have := List.length_pos_iff.mpr hne
      omega
  simp only [Compound.levels, Compound.words, qualifierLevels, qualifierWords,
    List.length_append, length_selectorWords, length_attributeWords]
  omega

theorem levels_le {q : Query} (h : q.Anchored) :
    q.levels ≤ 5 * q.words.length + 3 := by
  induction q with
  | single c =>
    have := compound_levels_le h
    simp only [Query.levels, Query.words]
    omega
  | link c k rest ih =>
    have hc := compound_levels_le h.1
    have hrest := ih h.2
    have hpos : 3 ≤ c.levels := by
      simp only [Compound.levels]
      omega
    simp only [Query.levels, Query.words, List.length_append]
    omega

/-! ## What the tokens determine -/

/-- A query with no broken chain is read back from its tokens. -/
theorem query_of_spells {q : Query} {b : Nat} (hanchored : q.Anchored)
    (hunbroken : q.Unbroken) (hb : q.levels ≤ b)
    (h : Spells q.words ts []) : query b ts = some (q, []) := by
  obtain ⟨q', ahead', hq, hlength, hexact⟩ := query_reaches hanchored hb h
  obtain rfl : ahead' = [] :=
    List.eq_nil_of_length_eq_zero (Nat.le_zero.mp hlength)
  rw [hq, hexact hunbroken rfl]

theorem query_joined_of_spells {q : Query} {b : Nat} (hanchored : q.Anchored)
    (h : Spells q.words ts []) (hb : 5 * ts.length + 3 ≤ b) :
    query b ts = some (q.joined, []) := by
  have hlength := h.length_eq
  have hlevels := levels_le (Query.anchored_joined hanchored)
  rw [← Query.words_joined] at h hlength
  simp only [List.length_nil] at hlength
  exact query_of_spells (Query.anchored_joined hanchored)
    (Query.unbroken_joined q) (by omega) h

/-- **The tokens determine a query up to broken chains.** -/
theorem joined_eq_of_spells {q q' : Query} (hanchored : q.Anchored)
    (hanchored' : q'.Anchored) (h : Spells q.words ts [])
    (h' : Spells q'.words ts []) : q.joined = q'.joined := by
  have hq := query_joined_of_spells hanchored h (Nat.le_refl _)
  rw [query_joined_of_spells hanchored' h' (Nat.le_refl _)] at hq
  exact (Prod.mk.inj (Option.some.inj hq)).1.symm

/-- With levels enough the descent breaks no chain. -/
theorem unbroken_of_query {q : Query} {b : Nat}
    (h : query b ts = some (q, [])) (hb : 5 * ts.length + 3 ≤ b) :
    q.Unbroken := by
  obtain ⟨hanchored, -, hspells⟩ := query_sound h
  rw [query_joined_of_spells hanchored hspells hb] at h
  rw [← (Prod.mk.inj (Option.some.inj h)).1]
  exact Query.unbroken_joined q

end SceneSelector.Descent
