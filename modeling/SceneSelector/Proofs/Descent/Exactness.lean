import SceneSelector.Proofs.Descent.Completeness

/-!
# Which queries are read

Words leave open where a chain of selectors is broken. The descent breaks one
only where its levels run out: `Query.Greedy` says so of a query and a budget.
Nothing else is left open, so a query is read exactly if it is greedy, its
levels lie within the budget and the tokens spell it (`query_eq_some_iff`).
Two lists of tokens that spell the same words are therefore read as the same
query under every budget, however differently they were written.
-/

namespace SceneSelector

/-- With `b` levels a chain of selectors is broken only where they do not
suffice for one more selector. -/
def Query.Greedy : Nat → Query → Prop
  | _, single _ => True
  | b, link c k rest =>
    (Seamless c k rest →
      b < Compound.selectorLevels c.target c.selectors + 6) ∧
    rest.Greedy (b - 5)

/-- A query in which no chain is broken is greedy under every budget. -/
theorem Query.Unbroken.greedy {q : Query} (h : q.Unbroken) (b : Nat) :
    q.Greedy b := by
  induction q generalizing b with
  | single c => trivial
  | link c k rest ih => exact ⟨fun hseamless => absurd hseamless h.1, ih h.2 _⟩

namespace Descent

open Compound

variable {ts mid ahead : List Token}

/-! ## Where a chain of selectors ends -/

theorem compound_words_eq_append {c : Compound} (hanchored : c.Anchored)
    (ht : c.target = .unspecified) :
    ∃ (s : Selector) (ws : List Word), c.words = s.words ++ ws := by
  obtain ⟨target, ss, p, as⟩ := c
  obtain rfl : target = .unspecified := ht
  obtain ⟨s, ss, rfl⟩ := List.exists_cons_of_ne_nil (hanchored rfl)
  refine ⟨s, selectorWords ss ++ qualifierWords p as, ?_⟩
  simp [Compound.words, Target.words, selectorWords]

/-- A query without a target begins with a selector. -/
theorem query_words_eq_append {q : Query} (hanchored : q.Anchored)
    (ht : q.head.target = .unspecified) :
    ∃ (s : Selector) (ws : List Word), q.words = s.words ++ ws := by
  cases q with
  | single c => exact compound_words_eq_append hanchored ht
  | link c k rest =>
    obtain ⟨s, ws, hws⟩ := compound_words_eq_append hanchored.1 ht
    refine ⟨s, ws ++ (k.words ++ rest.words), ?_⟩
    rw [Query.words, hws, List.append_assoc]

/-- Only a lack of levels keeps a selector that is spelled from being read. -/
theorem lt_of_selectors_eq_none {q : Query} {b : Nat}
    (hanchored : q.Anchored) (ht : q.head.target = .unspecified)
    (h : Spells q.words ts ahead) (hnone : selectors b ts = none) : b < 3 := by
  rcases Nat.lt_or_ge b 3 with hb | hb
  · exact hb
  · obtain ⟨b, rfl⟩ : ∃ n, b = n + 3 := ⟨b - 3, by omega⟩
    obtain ⟨s, ws, hws⟩ := query_words_eq_append hanchored ht
    rw [hws] at h
    obtain ⟨mid, hs, -⟩ := h.of_append
    simp [selectors, oneSelector_iff.mpr hs] at hnone

/-- A compound that ends in its selectors has all that could be read. -/
theorem selectors_eq_none_of_compound {c : Compound} {b : Nat}
    (h : compound b ts = some (c, ahead)) (hbare : c.Bare) :
    selectors (b - selectorLevels c.target c.selectors) ahead = none := by
  obtain ⟨hanchored, hlevels, hspells⟩ := compound_sound h
  have hss : Spells (c.target.words ++ selectorWords c.selectors) ts ahead := by
    simpa [Compound.words, qualifierWords, attributeWords, hbare.1, hbare.2]
      using hspells
  cases hmore : selectors (b - selectorLevels c.target c.selectors) ahead with
  | none => rfl
  | some r =>
    obtain ⟨more, ahead'⟩ := r
    -- the selectors that follow would be selectors of the compound as well
    rw [compound_of_selectors hanchored (Nat.max_le.mp hlevels).1 hss
      (by rw [hmore])] at h
    obtain ⟨p, as, hc, -⟩ := qualified_sound (Option.some.inj h)
    have hselectors : c.selectors = c.selectors ++ more :=
      congrArg Compound.selectors hc
    exact absurd (List.self_eq_append_right.mp hselectors)
      (selectors_sound hmore).1

/-! ## Reading exactly -/

/-- What the descent reads is greedy under the budget it was read with. -/
theorem greedy_of_query : ∀ {b : Nat} {ts ahead : List Token} {q : Query},
    query b ts = some (q, ahead) → q.Greedy b
  | b + 5, ts, ahead, q, h => by
    simp only [query, Option.bind_eq_bind, Option.bind_eq_some_iff,
      Prod.exists] at h
    obtain ⟨c, mid, hc, h⟩ := h
    split at h
    · next k rest ahead' hlink =>
      cases h
      obtain ⟨mid', hk, hrest⟩ := link_eq_some hlink
      obtain ⟨hanchored, -, hspells⟩ := query_sound hrest
      refine ⟨fun hseamless => ?_, greedy_of_query hrest⟩
      obtain ⟨rfl, hbare, ht⟩ := hseamless
      obtain rfl : mid = mid' := Spells.nil_iff.mp hk
      have := lt_of_selectors_eq_none hanchored ht hspells
        (selectors_eq_none_of_compound hc hbare)
      omega
    · cases h
      trivial

/-- A compound of a greedy query is read as it is spelled. -/
theorem compound_of_greedy {c : Compound} {k : Combinator} {rest : Query}
    {b : Nat} (hc : c.Anchored) (hb : c.levels ≤ b) (hrest : rest.Anchored)
    (hfull : Query.Seamless c k rest →
      b < selectorLevels c.target c.selectors + 3)
    (h : Spells c.words ts mid) (h' : Spells (k.words ++ rest.words) mid ahead) :
    compound b ts = some (c, mid) := by
  by_cases hseamless : Query.Seamless c k rest
  · have hlevels := hfull hseamless
    obtain ⟨rfl, -, -⟩ := hseamless
    exact compound_of_full hc hb hlevels h
      ((avoids_of_query hrest h' (openers_avoid _)).mono (by simp))
  · obtain ⟨c', mid', hread, -, hstop⟩ := compound_of_spells hc hb h
    obtain ⟨rfl, rfl⟩ := hstop (stops_of_not_seamless hseamless hrest h')
    exact hread

/-- A greedy query is read back from every list of tokens that spells it. -/
theorem query_of_greedy {q : Query} {b : Nat} (hanchored : q.Anchored)
    (hb : q.levels ≤ b) (hgreedy : q.Greedy b) (h : Spells q.words ts []) :
    query b ts = some (q, []) := by
  induction q generalizing b ts with
  | single c =>
    simp only [Query.levels] at hb
    obtain ⟨b, rfl⟩ : ∃ n, b = n + 5 :=
      ⟨b - 5, by simp only [Compound.levels] at hb; omega⟩
    obtain ⟨c', mid, hc, -, hstop⟩ :=
      compound_of_spells hanchored (b := b + 2) (by omega) h
    obtain ⟨rfl, rfl⟩ := hstop (stops_nil _ _)
    rw [query_of_compound hc, link_nil]
  | link c k rest ih =>
    simp only [Query.levels] at hb
    obtain ⟨b, rfl⟩ : ∃ n, b = n + 5 := ⟨b - 5, by omega⟩
    obtain ⟨mid, hspells, hrest⟩ := h.of_append
    have hc : compound (b + 2) ts = some (c, mid) :=
      compound_of_greedy hanchored.1 (by omega) hanchored.2
        (fun hseamless => by have := hgreedy.1 hseamless; omega) hspells hrest
    obtain ⟨mid', hk, hrest⟩ := hrest.of_append
    have hq : query b mid' = some (rest, []) :=
      ih hanchored.2 (by omega) hgreedy.2 hrest
    have hgreater : Avoids [.greater] mid' :=
      (avoids_of_query hanchored.2 hrest (openers_avoid _)).mono (by simp)
    rw [query_of_compound hc, link_of_spells hk hgreater hq]

/-- **Which query the descent reads** of tokens that it reads to the end: it
depends on the words that they spell and on the budget alone. -/
theorem query_eq_some_iff {q : Query} {b : Nat} :
    query b ts = some (q, []) ↔
      q.Anchored ∧ q.levels ≤ b ∧ q.Greedy b ∧ Spells q.words ts [] := by
  constructor
  · intro h
    obtain ⟨hanchored, hlevels, hspells⟩ := query_sound h
    exact ⟨hanchored, hlevels, greedy_of_query h, hspells⟩
  · rintro ⟨hanchored, hlevels, hgreedy, hspells⟩
    exact query_of_greedy hanchored hlevels hgreedy hspells

end Descent

end SceneSelector
