import SceneSelector.Proofs.Descent.Agreement

/-!
# Outcomes as the descent gives them

Matching the root of the selector grammar against tokens fails if the descent
does, and otherwise stops where the descent stops. A text is accepted exactly
if the descent reads all of its tokens, and the query is what it has read
(`parseSelector_eq_ok_iff`).
-/

namespace SceneSelector.Descent

open Evaluation Grammar

/-- A record of a named rule that is not a literal contributes its own
outline, as a part of that name. -/
theorem outlineItem_of_named {r : Record} {name : String}
    (hm : r.matched = true) (ht : r.token = none)
    (hn : r.name = some name) :
    r.outlineItem = .part name r.outline .done := by
  obtain ⟨rule, start, stop, matched, token, children, flag⟩ := r
  simp only [Record.name] at hm ht hn
  simp only [Record.outlineItem, Record.outline, hm, ht, hn, if_true]

theorem root_record (d : Nat) (tokens : List Token) :
    ((Matcher.selector d).parseTokens tokens).record.recognised tokens =
      recognise selector (d + 1) queryRule tokens :=
  recognised_evaluate selector tokens (d + 1) queryRule 0 (Nat.zero_le _)

theorem consumed_le (d : Nat) (tokens : List Token) :
    ((Matcher.selector d).parseTokens tokens).consumed ≤ tokens.length :=
  (forward_evaluate selector tokens (d + 1) queryRule 0 (Nat.zero_le _)).2

/-- **The outcome of matching the root, first half**: it fails where the
descent does. -/
theorem matched_eq_false {d : Nat} {tokens : List Token}
    (h : query (d + 1) tokens = none) :
    ((Matcher.selector d).parseTokens tokens).matched = false := by
  have hroot := root_record d tokens
  have hreads := reads_query (d + 1) tokens
  rw [h] at hreads
  rw [← hroot, Record.recognised] at hreads
  by_cases hm :
    ((Matcher.selector d).parseTokens tokens).record.matched = true
  · rw [if_pos hm] at hreads
    exact absurd (reads_none hreads) (Option.some_ne_none _)
  · exact Bool.eq_false_iff.mpr hm

/-- **The outcome of matching the root, second half**: it matches what the
descent reads, and the query that the descent has read is the one that the
record stands for. -/
theorem outcome_of_query {d : Nat} {tokens ahead : List Token} {q : Query}
    (h : query (d + 1) tokens = some (q, ahead)) :
    ((Matcher.selector d).parseTokens tokens).matched = true ∧
    ((Matcher.selector d).parseTokens tokens).consumed ≤ tokens.length ∧
    tokens.drop ((Matcher.selector d).parseTokens tokens).consumed = ahead ∧
    Query.ofRecord ((Matcher.selector d).parseTokens tokens).record = .ok q := by
  have hroot := root_record d tokens
  have hreads := reads_query (d + 1) tokens
  rw [h] at hreads
  rw [← hroot, Record.recognised] at hreads
  by_cases hm :
    ((Matcher.selector d).parseTokens tokens).record.matched = true
  · rw [if_pos hm, outlineItem_of_named hm rfl rfl] at hreads
    obtain ⟨hahead, hread⟩ := reads_some hreads
    have hname : ((Matcher.selector d).parseTokens tokens).record.name =
      some RuleName.query := rfl
    refine ⟨hm, consumed_le d tokens, hahead, ?_⟩
    rw [Query.ofRecord, if_pos hm, if_pos hname]
    exact hread
  · rw [if_neg hm] at hreads
    cases hreads

theorem isComplete_iff {d : Nat} {tokens : List Token} :
    ((Matcher.selector d).parseTokens tokens).isComplete = true ↔
      ∃ q, query (d + 1) tokens = some (q, []) := by
  rw [Outcome.isComplete, Bool.and_eq_true, decide_eq_true_iff]
  cases h : query (d + 1) tokens with
  | none =>
    rw [matched_eq_false h]
    simp
  | some r =>
    obtain ⟨q, ahead⟩ := r
    obtain ⟨hm, hle, hahead, -⟩ := outcome_of_query h
    simp only [hm, true_and, Option.some.injEq, Prod.mk.injEq,
      exists_eq_left', ← hahead, List.drop_eq_nil_iff]
    exact ⟨Nat.le_of_eq ∘ Eq.symm, fun h => Nat.le_antisymm hle h⟩

/-- A complete match stands for the query that the descent has read. -/
theorem parseSelector_of_query {d : Nat} {text : String} {q : Query}
    (h : query (d + 1) (lex text) = some (q, [])) :
    (Matcher.selector d).parseSelector text = .ok q := by
  have hcomplete : ((Matcher.selector d).parse text).isComplete = true :=
    isComplete_iff.mpr ⟨q, h⟩
  obtain ⟨hm, -, hahead, hread⟩ := outcome_of_query h
  have hmatched : ((Matcher.selector d).parse text).matched = true := hm
  have hnext : ((Matcher.selector d).parse text).next? = none :=
    List.getElem?_eq_none (List.drop_eq_nil_iff.mp hahead)
  simp only [Matcher.parseSelector, hcomplete, hmatched, hnext]
  exact hread

/-- **A text stands for a query exactly if the descent reads all of its tokens
as that query.** -/
theorem parseSelector_eq_ok_iff {d : Nat} {text : String} {q : Query} :
    (Matcher.selector d).parseSelector text = .ok q ↔
      query (d + 1) (lex text) = some (q, []) := by
  refine ⟨fun h => ?_, parseSelector_of_query⟩
  have hcomplete : ((Matcher.selector d).parse text).isComplete = true := by
    simp only [Matcher.parseSelector] at h
    split at h
    · cases h
    split at h
    · cases h
    next hm =>
    split at h
    · cases h
    next hnext =>
    have hle : ((Matcher.selector d).parse text).consumed ≤
        ((Matcher.selector d).parse text).tokenCount := consumed_le d (lex text)
    have hge := List.getElem?_eq_none_iff.mp hnext
    simp only [Outcome.isComplete, Bool.and_eq_true, decide_eq_true_iff]
    exact ⟨by simpa using hm, Nat.le_antisymm hle hge⟩
  obtain ⟨q', hq'⟩ := isComplete_iff.mp hcomplete
  rw [parseSelector_of_query hq'] at h
  cases h
  exact hq'

end SceneSelector.Descent
