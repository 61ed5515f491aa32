import SceneSelector.Proofs.Derivation
import SceneSelector.Proofs.DepthLimit

/-!
# Matching finds the longest derivable prefix

Evaluation commits to what it chooses, and the grammar is ambiguous: where a
chain of selectors ends and a query below it begins is left open. It makes no
difference to which tokens are recognised: a match that the depth limit had no
part in covers the longest prefix that the grammar derives, because the
descent reads at least as far as any query is spelled
(`Descent.query_reaches`).
-/

namespace SceneSelector

open Grammar

/-- What an outcome says of its tokens if it is that of the longest prefix
that the selector grammar derives. -/
structure Outcome.Longest (o : Outcome) : Prop where
  /-- It is a match if there is such a prefix at all. -/
  matched_iff : o.matched = true ↔
    ∃ pre, pre <+: o.tokens ∧ Derives .selector queryRule pre
  consumed_le : o.consumed ≤ o.tokens.length
  derives_take : o.matched = true →
    Derives .selector queryRule (o.tokens.take o.consumed)
  /-- What is consumed is at least as long as every such prefix. -/
  length_le : o.matched = true → ∀ pre, pre <+: o.tokens →
    Derives .selector queryRule pre → pre.length ≤ o.consumed
  isComplete_iff : o.isComplete = true ↔ Derives .selector queryRule o.tokens

namespace Descent

variable {ts pre : List Token}

theorem derives_of_query {b : Nat} {q : Query} {ahead : List Token}
    (h : query b ts = some (q, ahead)) :
    ∃ pre, ts = pre ++ ahead ∧ Derives .selector queryRule pre := by
  obtain ⟨hanchored, -, hspells⟩ := query_sound h
  obtain ⟨pre, rfl, hpre⟩ := hspells.exists_prefix
  exact ⟨pre, rfl, Derives.query_iff.mpr ⟨q, hanchored, hpre⟩⟩

/-- With levels enough no derivable prefix is longer than what is read. -/
theorem query_of_derives {b : Nat} (hb : 5 * ts.length + 3 ≤ b)
    (hpre : pre <+: ts) (h : Derives .selector queryRule pre) :
    ∃ q ahead, query b ts = some (q, ahead) ∧
      pre.length + ahead.length ≤ ts.length := by
  obtain ⟨q, hanchored, hspells⟩ := Derives.query_iff.mp h
  obtain ⟨rest, rfl⟩ := hpre
  have hlength := hspells.length_eq
  have hlevels := levels_le hanchored
  simp only [List.length_append, List.length_nil] at hb hlength ⊢
  obtain ⟨q', ahead, hq, hshort, -⟩ :=
    query_reaches (b := b) hanchored (by omega) (hspells.append_right rest)
  exact ⟨q', ahead, hq, by rw [List.nil_append] at hshort; omega⟩

theorem longest_of_query_eq_none {d : Nat} (hd : 5 * ts.length + 2 ≤ d)
    (h : query (d + 1) ts = none) :
    ((Matcher.selector d).parseTokens ts).Longest := by
  have hmatched := matched_eq_false h
  have hnone : ∀ pre, pre <+: ts → ¬ Derives .selector queryRule pre := by
    intro pre hpre hderives
    obtain ⟨q, ahead, hq, -⟩ :=
      query_of_derives (b := d + 1) (by omega) hpre hderives
    rw [h] at hq
    cases hq
  refine ⟨?_, Descent.consumed_le d ts, ?_, ?_, ?_⟩
  · rw [hmatched]
    refine iff_of_false Bool.false_ne_true ?_
    intro hexists
    obtain ⟨pre, hpre, hderives⟩ := hexists
    exact hnone pre hpre hderives
  · intro hm
    rw [hmatched] at hm
    cases hm
  · intro hm
    rw [hmatched] at hm
    cases hm
  · rw [Outcome.isComplete, hmatched, Bool.false_and]
    exact iff_of_false Bool.false_ne_true (hnone ts (List.prefix_refl _))

theorem longest_of_query_eq_some {d : Nat} {q : Query} {ahead : List Token}
    (hd : 5 * ts.length + 2 ≤ d) (h : query (d + 1) ts = some (q, ahead)) :
    ((Matcher.selector d).parseTokens ts).Longest := by
  obtain ⟨hmatched, hle, hahead, -⟩ := outcome_of_query h
  obtain ⟨pre, rfl, hpre⟩ := derives_of_query h
  have hconsumed :
      ((Matcher.selector d).parseTokens (pre ++ ahead)).consumed =
        pre.length := by
    have hlength := congrArg List.length hahead
    simp only [List.length_drop, List.length_append] at hlength hle
    omega
  have hlongest : ∀ pre', pre' <+: pre ++ ahead →
      Derives .selector queryRule pre' → pre'.length ≤ pre.length := by
    intro pre' hpre' hderives
    obtain ⟨q', ahead', hq', hlength⟩ :=
      query_of_derives (b := d + 1) (by omega) hpre' hderives
    rw [h] at hq'
    cases hq'
    rw [List.length_append] at hlength
    omega
  refine ⟨iff_of_true hmatched ⟨pre, List.prefix_append _ _, hpre⟩, hle,
    fun _ => ?_, fun _ => ?_, ?_⟩
  · rw [hconsumed]
    show Derives .selector queryRule ((pre ++ ahead).take pre.length)
    rw [List.take_left]
    exact hpre
  · rw [hconsumed]
    exact hlongest
  · rw [isComplete_iff, h]
    constructor
    · intro hread
      obtain ⟨q', hq'⟩ := hread
      cases hq'
      show Derives .selector queryRule (pre ++ [])
      rwa [List.append_nil]
    · intro hderives
      have hlength := hlongest _ (List.prefix_refl _) hderives
      rw [List.length_append] at hlength
      obtain rfl : ahead = [] := List.eq_nil_of_length_eq_zero (by omega)
      exact ⟨q, rfl⟩

end Descent

namespace Matcher

open Descent

/-- **A match that the depth limit had no part in is the longest one**: the
root matches if some prefix of the tokens is derivable from it, the longest
such prefix is what is consumed, and the match is complete if all of the
tokens are derivable. -/
theorem parseTokens_longest {d : Nat} {tokens : List Token}
    (hflag : ((Matcher.selector d).parseTokens tokens).depthExceeded = false) :
    ((Matcher.selector d).parseTokens tokens).Longest := by
  -- a limit with room for everything makes no difference
  obtain ⟨N, hd, hN⟩ : ∃ N, d ≤ N ∧ 5 * tokens.length + 2 ≤ N :=
    ⟨max d (5 * tokens.length + 2), Nat.le_max_left _ _, Nat.le_max_right _ _⟩
  rw [← parseTokens_of_le hd hflag]
  cases h : query (N + 1) tokens with
  | none => exact longest_of_query_eq_none hN h
  | some r => exact longest_of_query_eq_some hN h

/-- In `.a,b` the comma ends what is derivable. -/
theorem parseTokens_longest_at_comma :
    ((Matcher.selector 20).parseTokens (lex ".a,b")).depthExceeded = false ∧
    Derives .selector queryRule ((lex ".a,b").take 2) ∧
    ¬ Derives .selector queryRule (lex ".a,b") :=
  have hflag : ((Matcher.selector 20).parseTokens
      (lex ".a,b")).depthExceeded = false := by decide
  have hlongest := parseTokens_longest hflag
  ⟨hflag, hlongest.derives_take (by decide),
    fun h => absurd (hlongest.isComplete_iff.mpr h) (by decide)⟩

end Matcher

end SceneSelector
