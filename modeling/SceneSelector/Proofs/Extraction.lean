import SceneSelector.Proofs.Descent.Outcome
import SceneSelector.Proofs.Descent.Soundness

/-!
# Reading matches back

The rules that match a query and the readers that take its record apart are
written down apart from each other. They fit: every match of the root can be
read back, also an incomplete one and one that the limit cut branches off, and
the query that is read is written by the very tokens that were consumed
(`spells_take_consumed`). So no answer ever says that a record is malformed,
and which answer a text gets is told by the outcome of matching alone
(`parseSelector_classified`).
-/

namespace SceneSelector

/-- Words that are followed by the tokens from some position on are spelled
by the tokens before it. -/
theorem Spells.take {ws : List Word} {ts : List Token} {n : Nat}
    (h : Spells ws ts (ts.drop n)) : Spells ws (ts.take n) [] := by
  obtain ⟨pre, hts, hpre⟩ := h.exists_prefix
  have htake : ts.take n = pre :=
    List.append_cancel_right ((List.take_append_drop n ts).trans hts)
  rwa [htake]

/-- What a query is answered, told by the outcome of matching its tokens under
a limit. -/
structure Outcome.Classifies (maxDepth : Nat) (o : Outcome)
    (answer : Except QueryError Query) : Prop where
  ok_iff : (∃ q, answer = .ok q) ↔ o.isComplete = true
  /-- The error names the limit that was set. -/
  depthLimit_iff : ∀ limit, answer = .error (.depthLimit limit) ↔
    limit = maxDepth ∧ o.isComplete = false ∧ o.depthExceeded = true
  noMatch_iff : answer = .error .noMatch ↔
    o.matched = false ∧ o.depthExceeded = false
  trailingInput_iff :
    (∃ consumed total next,
      answer = .error (.trailingInput consumed total next)) ↔
    o.matched = true ∧ o.isComplete = false ∧ o.depthExceeded = false
  /-- The error counts the tokens and quotes the first one that is left. -/
  trailingInput_reports : ∀ consumed total next,
    answer = .error (.trailingInput consumed total next) →
    consumed = o.consumed ∧ total = o.tokenCount ∧
      0 < consumed ∧ consumed < total ∧
      o.tokens[consumed]?.map Token.literal = some next
  not_malformed : ∀ rule, answer ≠ .error (.malformed rule)

namespace Outcome

variable {maxDepth : Nat} {o : Outcome}

/-- An incomplete match leaves a token. -/
theorem consumed_lt_of_incomplete (hle : o.consumed ≤ o.tokenCount)
    (hm : o.matched = true) (hcomplete : o.isComplete = false) :
    o.consumed < o.tokenCount := by
  apply Nat.lt_of_le_of_ne hle
  intro heq
  simp [isComplete, hm, heq] at hcomplete

theorem classifies_ok (hcomplete : o.isComplete = true) (q : Query) :
    o.Classifies maxDepth (.ok q) := by
  have hm : o.matched = true := (Bool.and_eq_true_iff.mp hcomplete).1
  constructor
  all_goals simp [hcomplete, hm]

theorem classifies_depthLimit (hcomplete : o.isComplete = false)
    (hflag : o.depthExceeded = true) :
    o.Classifies maxDepth (.error (.depthLimit maxDepth)) := by
  constructor
  case depthLimit_iff =>
    intro limit
    simp [hcomplete, hflag, eq_comm (a := limit)]
  all_goals simp [hcomplete, hflag]

theorem classifies_noMatch (hm : o.matched = false)
    (hflag : o.depthExceeded = false) :
    o.Classifies maxDepth (.error .noMatch) := by
  have hcomplete : o.isComplete = false := by rw [isComplete, hm, Bool.false_and]
  constructor
  all_goals simp [hcomplete, hm, hflag]

theorem classifies_trailingInput (hm : o.matched = true)
    (hcomplete : o.isComplete = false) (hflag : o.depthExceeded = false)
    (hpos : 0 < o.consumed) (hlt : o.consumed < o.tokenCount) {t : Token}
    (hnext : o.next? = some t) :
    o.Classifies maxDepth
      (.error (.trailingInput o.consumed o.tokenCount t.literal)) := by
  have hliteral : o.tokens[o.consumed]?.map Token.literal = some t.literal :=
    congrArg (Option.map Token.literal) hnext
  constructor
  case trailingInput_reports =>
    rintro consumed total next ⟨⟩
    exact ⟨rfl, rfl, hpos, hlt, hliteral⟩
  all_goals simp [hcomplete, hm, hflag]

end Outcome

namespace Matcher

open Descent

variable {d : Nat} {tokens : List Token}

/-! ## Matches of the root -/

theorem query_of_matched
    (h : ((selector d).parseTokens tokens).matched = true) :
    ∃ q ahead, query (d + 1) tokens = some (q, ahead) := by
  cases hq : query (d + 1) tokens with
  | none =>
    rw [matched_eq_false hq] at h
    cases h
  | some r => exact ⟨r.1, r.2, rfl⟩

/-- **Every token that was consumed is accounted for**: a match of the root is
read back as a query, and the consumed tokens are the words of that query, in
order, none missing and none left over. -/
theorem spells_take_consumed
    (h : ((selector d).parseTokens tokens).matched = true) :
    ∃ q, Query.ofRecord ((selector d).parseTokens tokens).record = .ok q ∧
      Spells q.words
        (tokens.take ((selector d).parseTokens tokens).consumed) [] := by
  obtain ⟨q, ahead, hq⟩ := query_of_matched h
  obtain ⟨-, -, hahead, hread⟩ := outcome_of_query hq
  obtain ⟨-, -, hspells⟩ := query_sound hq
  refine ⟨q, hread, Spells.take ?_⟩
  rwa [hahead]

/-- No lexer would call these literals an identifier and a string, and no query
goes on after the `>`. -/
theorem spells_take_consumed_at_greater :
    let tokens : List Token :=
      [⟨.identifier, "1 2", ⟨0, 0⟩⟩, ⟨.hash, "#", ⟨0, 0⟩⟩,
       ⟨.string, "", ⟨0, 0⟩⟩, ⟨.greater, ">", ⟨0, 0⟩⟩]
    ((selector 20).parseTokens tokens).matched = true ∧
    ∃ q, Query.ofRecord ((selector 20).parseTokens tokens).record = .ok q ∧
      Spells q.words
        (tokens.take ((selector 20).parseTokens tokens).consumed) [] :=
  ⟨by decide, spells_take_consumed (by decide)⟩

theorem ofRecord_eq_ok_iff :
    (∃ q, Query.ofRecord ((selector d).parseTokens tokens).record = .ok q) ↔
      ((selector d).parseTokens tokens).matched = true := by
  constructor
  · rintro ⟨q, hq⟩
    unfold Query.ofRecord at hq
    split at hq
    · next hm => exact hm
    · cases hq
  · intro h
    obtain ⟨q, ahead, hq⟩ := query_of_matched h
    exact ⟨q, (outcome_of_query hq).2.2.2⟩

/-- No match of the root is empty. -/
theorem consumed_pos (h : ((selector d).parseTokens tokens).matched = true) :
    0 < ((selector d).parseTokens tokens).consumed := by
  obtain ⟨q, ahead, hq⟩ := query_of_matched h
  obtain ⟨-, hle, rfl, -⟩ := outcome_of_query hq
  obtain ⟨hanchored, -, hspells⟩ := query_sound hq
  obtain ⟨kind, -, literal, ws, hws⟩ := Query.words_eq_cons hanchored
  have hlength := hspells.length_eq
  rw [hws, List.length_cons, List.length_drop] at hlength
  omega

/-! ## Answers -/

theorem classifies_parseSelector (d : Nat) (text : String) :
    ((selector d).parse text).Classifies d
      ((selector d).parseSelector text) := by
  cases hcomplete : ((selector d).parse text).isComplete with
  | true =>
    obtain ⟨q, hq⟩ := isComplete_iff.mp hcomplete
    rw [parseSelector_of_query hq]
    exact Outcome.classifies_ok hcomplete q
  | false =>
  cases hflag : ((selector d).parse text).depthExceeded with
  | true =>
    have hanswer : (selector d).parseSelector text = .error (.depthLimit d) := by
      simp only [parseSelector, hcomplete, hflag]
      rfl
    rw [hanswer]
    exact Outcome.classifies_depthLimit hcomplete hflag
  | false =>
  cases hm : ((selector d).parse text).matched with
  | false =>
    have hanswer : (selector d).parseSelector text = .error .noMatch := by
      simp [parseSelector, hflag, hm]
    rw [hanswer]
    exact Outcome.classifies_noMatch hm hflag
  | true =>
    have hlt := Outcome.consumed_lt_of_incomplete (consumed_le d (lex text)) hm
      hcomplete
    have hnext : ((selector d).parse text).next? =
        some ((lex text)[((selector d).parse text).consumed]) :=
      List.getElem?_eq_getElem hlt
    have hanswer : (selector d).parseSelector text = .error (.trailingInput
        ((selector d).parse text).consumed ((selector d).parse text).tokenCount
        ((lex text)[((selector d).parse text).consumed]).literal) := by
      simp [parseSelector, hflag, hm, hnext]
    rw [hanswer]
    exact Outcome.classifies_trailingInput hm hcomplete hflag (consumed_pos hm)
      hlt hnext

/-- **Answers are classified by outcomes**, for every limit. A match of the
root can be read back, be it complete or not. A text stands for a query if its
match is complete; if not, the limit is the error where it cut off a branch,
and otherwise the lack of a match or the first token that is left. -/
theorem parseSelector_classified (d : Nat) :
    (∀ tokens,
      (∃ q, Query.ofRecord ((selector d).parseTokens tokens).record = .ok q) ↔
        ((selector d).parseTokens tokens).matched = true) ∧
    ∀ text, ((selector d).parse text).Classifies d
      ((selector d).parseSelector text) :=
  ⟨fun _ => ofRecord_eq_ok_iff, classifies_parseSelector d⟩

/-- Of `.a,b` two tokens are a query, and the comma is the token after them. -/
example : (selector 20).parseSelector ".a,b" =
    .error (.trailingInput 2 4 ",") := rfl

end Matcher

end SceneSelector
