import SceneSelector.Proofs.Descent.Exactness
import SceneSelector.Proofs.Extraction

/-!
# The matched prefix

A match of the root stops somewhere, and attempts that came to nothing have
looked at tokens further on. None of them has a say in what was matched: the
tokens up to that place are read in the same way if nothing follows them
(`parseTokens_take_consumed`). The query of a match, its levels and where its
chains of selectors are broken are facts about the words that it consumed, and
by those alone it is told which query the descent reads.
-/

namespace SceneSelector

namespace Descent

/-- What is read of some tokens is read to the end of those that it is
spelled by. -/
theorem query_of_spells_prefix {q : Query} {b : Nat}
    {ts ahead pre : List Token} (h : query b ts = some (q, ahead))
    (hpre : Spells q.words pre []) : query b pre = some (q, []) := by
  obtain ⟨hanchored, hlevels, -⟩ := query_sound h
  exact query_of_greedy hanchored hlevels (greedy_of_query h) hpre

end Descent

namespace Matcher

open Descent

variable {d : Nat} {tokens : List Token}

/-- A match of the root is the query that the descent reads of the consumed
tokens alone. -/
theorem query_take_consumed
    (h : ((selector d).parseTokens tokens).matched = true) :
    ∃ q, Query.ofRecord ((selector d).parseTokens tokens).record = .ok q ∧
      query (d + 1)
        (tokens.take ((selector d).parseTokens tokens).consumed) =
          some (q, []) := by
  obtain ⟨q, ahead, hq⟩ := query_of_matched h
  obtain ⟨-, -, hahead, hread⟩ := outcome_of_query hq
  obtain ⟨-, -, hspells⟩ := query_sound hq
  rw [← hahead] at hspells
  exact ⟨q, hread, query_of_spells_prefix hq hspells.take⟩

/-- **The matched prefix stands on its own**: matched without the tokens after
it, it is matched completely and stands for the same query. Nor do other tokens
in their place change the query, as long as they do not prolong or shorten the
match. -/
theorem parseTokens_take_consumed
    (h : ((selector d).parseTokens tokens).matched = true) :
    let c := ((selector d).parseTokens tokens).consumed
    ((selector d).parseTokens (tokens.take c)).isComplete = true ∧
    ∃ q, Query.ofRecord ((selector d).parseTokens tokens).record = .ok q ∧
      Query.ofRecord
        ((selector d).parseTokens (tokens.take c)).record = .ok q ∧
      ∀ more, ((selector d).parseTokens (tokens.take c ++ more)).matched = true →
        ((selector d).parseTokens (tokens.take c ++ more)).consumed = c →
        Query.ofRecord
          ((selector d).parseTokens (tokens.take c ++ more)).record = .ok q := by
  intro c
  obtain ⟨q, hread, hq⟩ := query_take_consumed h
  refine ⟨isComplete_iff.mpr ⟨q, hq⟩, q, hread, (outcome_of_query hq).2.2.2, ?_⟩
  intro more hm hconsumed
  obtain ⟨q', hread', hq'⟩ := query_take_consumed hm
  -- both matches are read of the same tokens once what follows is cut off
  have hlength : (tokens.take c).length = c :=
    List.length_take_of_le (consumed_le d tokens)
  rw [hconsumed, List.take_left' hlength, hq] at hq'
  cases hq'
  exact hread'

/-- Under a limit of 12 the chain is broken after `.b`, and the attempt to go on
with a query after the `>` fails. The six tokens before it are a match of their
own. -/
theorem parseTokens_take_consumed_at_chain :
    let tokens := lex ".a.b.c > [k=1]"
    let c := ((selector 12).parseTokens tokens).consumed
    c = 6 ∧ ((selector 12).parseTokens tokens).matched = true ∧
    ((selector 12).parseTokens (tokens.take c)).isComplete = true ∧
    ∃ q, Query.ofRecord ((selector 12).parseTokens tokens).record = .ok q ∧
      Query.ofRecord
        ((selector 12).parseTokens (tokens.take c)).record = .ok q ∧
      ∀ more, ((selector 12).parseTokens (tokens.take c ++ more)).matched = true →
        ((selector 12).parseTokens (tokens.take c ++ more)).consumed = c →
        Query.ofRecord
          ((selector 12).parseTokens (tokens.take c ++ more)).record = .ok q :=
  ⟨by decide, by decide, parseTokens_take_consumed (by decide)⟩

end Matcher

end SceneSelector
