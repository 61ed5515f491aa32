import SceneSelector.Proofs.Budget
import SceneSelector.Proofs.Descent.Completeness
import SceneSelector.Proofs.Descent.Outcome

/-!
# What the depth limit does to queries

A larger limit turns `depthLimit` errors into answers. It does more than that:
where the limit cuts a chain of selectors short, what is left of the chain may
still be read, as a query of its own, and the match is complete. So a text may
stand for different queries under different limits. They never differ in more
than that: with no chain broken they are the same query
(`parseSelector_of_isComplete`).
-/

namespace SceneSelector.Matcher

open Descent

/-- The outcome does not depend on the limit if it was come to without running
into it. -/
theorem parseTokens_of_le {d d' : Nat} (hle : d ≤ d') {tokens : List Token}
    (hflag : ((selector d).parseTokens tokens).depthExceeded = false) :
    (selector d').parseTokens tokens = (selector d).parseTokens tokens := by
  have hrecord := Evaluation.extends_evaluate_of_le Grammar.selector tokens
    (Nat.succ_le_succ hle) Grammar.queryRule 0 hflag
  exact congrArg (Outcome.mk tokens) hrecord

theorem parseSelector_of_not_depthExceeded {d d' : Nat} (hle : d ≤ d')
    {text : String} (hflag : ((selector d).parse text).depthExceeded = false) :
    (selector d).parseSelector text = (selector d').parseSelector text := by
  have hparse : (selector d').parse text = (selector d).parse text :=
    parseTokens_of_le hle hflag
  simp only [parseSelector, hparse, hflag, Bool.and_false, Bool.false_eq_true,
    if_false]

/-- A complete match stays one under every larger limit, and stands for the
same query up to broken chains. -/
theorem parseSelector_of_isComplete {d d' : Nat} (hle : d ≤ d')
    {text : String} (h : ((selector d).parse text).isComplete = true) :
    ∃ q q', (selector d).parseSelector text = .ok q ∧
      (selector d').parseSelector text = .ok q' ∧ q.joined = q'.joined := by
  obtain ⟨q, hq⟩ := isComplete_iff.mp h
  obtain ⟨hanchored, hlevels, hspells⟩ := query_sound hq
  obtain ⟨q', ahead, hq', hlength, -⟩ :=
    query_reaches (b := d' + 1) hanchored (by omega) hspells
  obtain rfl : ahead = [] :=
    List.eq_nil_of_length_eq_zero (Nat.le_zero.mp hlength)
  obtain ⟨hanchored', -, hspells'⟩ := query_sound hq'
  exact ⟨q, q', parseSelector_of_query hq, parseSelector_of_query hq',
    joined_eq_of_spells hanchored hanchored' hspells hspells'⟩

/-- **What a smaller limit can do to an answer**: nothing, or replace it by the
error that names the limit, or break chains of selectors in the query. The
last is possible only where the match was complete although the limit cut off
some branch of it. -/
theorem parseSelector_of_le {d d' : Nat} (hle : d ≤ d') (text : String) :
    (selector d).parseSelector text = .error (.depthLimit d) ∨
    (selector d).parseSelector text = (selector d').parseSelector text ∨
    ((selector d).parse text).isComplete = true ∧
      ((selector d).parse text).depthExceeded = true ∧
      ∃ q q', (selector d).parseSelector text = .ok q ∧
        (selector d').parseSelector text = .ok q' ∧ q.joined = q'.joined := by
  cases hflag : ((selector d).parse text).depthExceeded with
  | false => exact .inr (.inl (parseSelector_of_not_depthExceeded hle hflag))
  | true =>
    cases hcomplete : ((selector d).parse text).isComplete with
    | false =>
      left
      simp only [parseSelector, hflag, hcomplete]
      rfl
    | true =>
      exact .inr (.inr ⟨rfl, rfl, parseSelector_of_isComplete hle hcomplete⟩)

/-- Under a limit of 12 the levels suffice for two selectors in a row. -/
theorem parseSelector_chain_of_12 :
    (selector 12).parseSelector ".a.b.c" = .ok
      (.link ⟨.unspecified, [.byClass "a", .byClass "b"], none, []⟩ .descendant
        (.single ⟨.unspecified, [.byClass "c"], none, []⟩)) := rfl

theorem parseSelector_chain_of_13 :
    (selector 13).parseSelector ".a.b.c" = .ok
      (.single ⟨.unspecified, [.byClass "a", .byClass "b", .byClass "c"], none,
        []⟩) := rfl

/-- The third selector is read as a query of its own or as one of the chain:
the limit changes the answer, and no error says so. -/
theorem not_forall_parseSelector_eq : ¬ ∀ (d d' : Nat) (text : String), d ≤ d' →
    (selector d).parseSelector text = .error (.depthLimit d) ∨
    (selector d).parseSelector text = (selector d').parseSelector text := by
  intro h
  rcases h 12 13 ".a.b.c" (by decide) with h | h
  · rw [parseSelector_chain_of_12] at h
    cases h
  · rw [parseSelector_chain_of_12, parseSelector_chain_of_13] at h
    cases h

/-- Both queries of that text are three classes in a row once joined. -/
theorem parseSelector_of_le_at_chain :
    12 ≤ 13 ∧
    ((selector 12).parseSelector ".a.b.c" = .error (.depthLimit 12) ∨
    (selector 12).parseSelector ".a.b.c" =
      (selector 13).parseSelector ".a.b.c" ∨
    ((selector 12).parse ".a.b.c").isComplete = true ∧
      ((selector 12).parse ".a.b.c").depthExceeded = true ∧
      ∃ q q', (selector 12).parseSelector ".a.b.c" = .ok q ∧
        (selector 13).parseSelector ".a.b.c" = .ok q' ∧
        q.joined = q'.joined) :=
  ⟨by decide, parseSelector_of_le (by decide) ".a.b.c"⟩

end SceneSelector.Matcher
