import SceneSelector.Proofs.Descent.Completeness
import SceneSelector.Proofs.Extraction
import SceneSelector.Proofs.Levels

/-!
# How many levels queries need

For the selector grammar a limit of five levels for each token and seven more
is enough, whatever the tokens are, and one level less is too few for a list of
identifiers (`linear_limit_suffices`).

That it is enough is an estimate for the nine rules, each of them linear in the
tokens ahead (`Estimate.selectorTable`). Most levels go to queries below
queries, which are five levels apart and may be one token each. The rest goes to
what is tried after the last token: the longest way down is that from a query
to the first symbol of a selector. A list of identifiers has all of this, so
nothing can be saved.
-/

namespace SceneSelector

open Rule Grammar

namespace Estimate

/-! ## Levels that suffice -/

/-- Levels that suffice for each rule: so many for each token ahead, and so
many besides. -/
def selectorTable : List (String × Nat × Nat) :=
  [(RuleName.value, 0, 2), (RuleName.attr, 2, 2), (RuleName.args, 2, 4),
   (RuleName.pseudoClass, 2, 2), (RuleName.selectors, 2, 3),
   (RuleName.typeIdQuery, 2, 4), (RuleName.attrQuery, 2, 5),
   (RuleName.subQuery, 5, 10), (RuleName.query, 5, 8)]

/-- The estimate for the selector grammar, all of whose rules read a token. -/
def selector : Estimate where
  fewest _ := 1
  levels name ahead :=
    match selectorTable.lookup name with
    | some (slope, base) => slope * ahead + base
    | none => 0

variable (ahead : Nat)

theorem fewest_selector (name : String) : selector.fewest name = 1 := rfl

theorem levels_value : selector.levels RuleName.value ahead = 0 * ahead + 2 :=
  rfl

theorem levels_attr : selector.levels RuleName.attr ahead = 2 * ahead + 2 := rfl

theorem levels_args : selector.levels RuleName.args ahead = 2 * ahead + 4 := rfl

theorem levels_pseudoClass :
    selector.levels RuleName.pseudoClass ahead = 2 * ahead + 2 := rfl

theorem levels_selectors :
    selector.levels RuleName.selectors ahead = 2 * ahead + 3 := rfl

theorem levels_typeIdQuery :
    selector.levels RuleName.typeIdQuery ahead = 2 * ahead + 4 := rfl

theorem levels_attrQuery :
    selector.levels RuleName.attrQuery ahead = 2 * ahead + 5 := rfl

theorem levels_subQuery :
    selector.levels RuleName.subQuery ahead = 5 * ahead + 10 := rfl

theorem levels_query :
    selector.levels RuleName.query ahead = 5 * ahead + 8 := rfl

theorem one_le_fewest : ∀ rule ∈ selectorRules, 1 ≤ rule.fewest selector := by
  decide

theorem levels_le_table : ∀ rule ∈ selectorRules,
    rule.levels selector ahead ≤
      selector.levels (rule.name.getD "") ahead := by
  simp only [selectorRules, List.forall_mem_cons, List.not_mem_nil,
    false_imp_iff, implies_true]
  -- the nine rules in full
  simp only [valueRule, attrRule, argsRule, pseudoClassRule, selectorsRule,
    typeIdQueryRule, attrQueryRule, subQueryRule, queryRule, qualifiers, maybe,
    symbol, identifier, digits, Rule.string, ofKind, ofPattern, Pattern.exact,
    Pattern.ofKind, Rule.optional, referTo, referBackTo, nameTag, Rule.name,
    Rule.tag, Option.getD_some]
  -- what the table says of the rules that they refer to, part by part
  simp only [levels_literal_le_iff, levels_empty_le_iff,
    levels_sequence_le_iff, levelsInOrder_cons_le_iff,
    levelsInOrder_nil, levels_alternation_le_iff,
    levels_exclusive_le_iff, levelsOfAll_cons_le_iff, levelsOfAll_nil,
    levels_reference_le_iff, Rule.fewest, fewestInOrder, fewestOfAny,
    fewest_selector, levels_value, levels_attr, levels_args,
    levels_pseudoClass, levels_selectors, levels_typeIdQuery, levels_attrQuery,
    levels_subQuery, levels_query, reduceCtorEq, if_false, Nat.zero_le,
    implies_true, and_true]
  refine ⟨?value, ?attr, ?args, ?pseudoClass, ?selectors, ?typeIdQuery,
    ?attrQuery, ?subQuery, ?query⟩
  all_goals omega

theorem selector_holds : selector.Holds Grammar.selector where
  fewest_le hget := one_le_fewest _ (mem_of_get? hget)
  levels_le {name rule} hget ahead := by
    have hname : rule.name = some name := by
      simpa using List.find?_some hget
    have hle := levels_le_table ahead rule (mem_of_get? hget)
    rwa [hname] at hle

end Estimate

namespace Descent

open Evaluation

variable {tokens ts : List Token} {start : Nat}

/-! ## Levels that do not -/

theorem avoids_of_forall {kind : Kind} (h : ∀ t ∈ ts, t.kind = kind)
    {kinds : List Kind} (hk : kind ∉ kinds) : Avoids kinds ts := by
  intro t ht
  rw [h t (List.mem_of_mem_head? ht)]
  exact hk

theorem compound_of_identifier {t : Token} (b : Nat)
    (ht : t.kind = .identifier)
    (hts : Avoids [.hash, .dot, .colon, .openBracket] ts) :
    compound (b + 3) (t :: ts) = some (.ofTarget (.type t.literal), ts) := by
  have htarget : first target? (t :: ts) = some (.type t.literal, ts) := by
    simp [first, target?, ht]
  simp only [compound, typed, htarget, Option.bind_eq_bind, Option.bind_some,
    qualified, selectors_eq_none b (hts.mono (by simp)),
    pseudoClass_eq_none b (hts.mono (by simp)),
    attributes_eq_none b (hts.mono (by simp)), Option.getD_none,
    Option.map_none]
  rfl

/-- A `>` may be left out. -/
theorem recognise_no_greater (b : Nat) (hts : Avoids [.greater] ts) :
    recognise selector (b + 2) (.optional (symbol .greater ">")) ts =
      some (.done, ts) := by
  rw [recognise_optional, recognise_symbol selector _ (by decide)]
  rcases oneToken_first (accepts_symbol .greater ">") ts with
    ⟨hnone, -⟩ | ⟨_, _, _, -, -, -, hsome⟩
  · rw [hnone]
    rfl
  · rw [first_symbol_eq_none hts] at hsome
    cases hsome

/-- No query can be tried in seven levels: that is the way down to the symbol
that a selector begins with. -/
theorem depthExceeded_queryRule (tokens : List Token) (start : Nat) :
    (evaluate selector tokens 7 queryRule start).depthExceeded = true := by
  apply depthExceeded_of_head
  apply depthExceeded_of_attempt
    (List.mem_cons_of_mem _ (List.mem_singleton_self _))
  apply depthExceeded_of_target get?_attrQuery
  apply depthExceeded_of_head
  apply depthExceeded_of_target get?_selectors
  apply depthExceeded_of_head
  exact depthExceeded_of_attempt List.mem_cons_self rfl

/-- An identifier takes five levels: what runs out of levels after it does so
as a query below it. -/
theorem depthExceeded_of_identifier {b : Nat} {t : Token}
    (hs : start ≤ tokens.length) (hdrop : tokens.drop start = t :: ts)
    (ht : t.kind = .identifier)
    (hts : Avoids [.hash, .dot, .colon, .openBracket, .greater] ts)
    (h : (evaluate selector tokens (b + 1) queryRule
      (start + 1)).depthExceeded = true) :
    (evaluate selector tokens (b + 6) queryRule start).depthExceeded =
      true := by
  have hlength := congrArg List.length hdrop
  rw [List.length_drop, List.length_cons] at hlength
  have hs' : start + 1 ≤ tokens.length := by omega
  have hdrop' : tokens.drop (start + 1) = ts := by
    rw [← List.tail_drop, hdrop, List.tail_cons]
  have hsub : (evaluate selector tokens (b + 3) subQueryRule
      (start + 1)).depthExceeded = true := by
    -- there is no `>`, so the query is tried where the sub-query is
    obtain ⟨hm, hstop⟩ := stop_of_recognise hs'
      (recognise_no_greater b (hdrop'.symm ▸ hts.mono (by simp)))
    rw [List.length_drop, Nat.sub_sub_self hs'] at hstop
    apply depthExceeded_of_tail hm
    rw [hstop]
    apply depthExceeded_of_head
    exact depthExceeded_of_target get?_query h
  have hcompound := compound_of_identifier b ht (hts.mono (by simp))
  rcases reads_compound (b + 3) (t :: ts) with
    ⟨-, hnone⟩ | ⟨o, c, ahead, hread, hsome, -⟩
  · rw [hcompound] at hnone
    cases hnone
  · -- the compound is the identifier and nothing more
    rw [hcompound] at hsome
    cases hsome
    obtain ⟨hm, hstop⟩ := stop_of_recognise hs (hdrop ▸ hread)
    apply depthExceeded_of_tail hm
    rw [hstop, show tokens.length - ts.length = start + 1 by omega]
    apply depthExceeded_of_head
    apply depthExceeded_of_attempt List.mem_cons_self
    exact depthExceeded_of_target get?_subQuery hsub

theorem depthExceeded_of_identifiers (h : ∀ t ∈ tokens, t.kind = .identifier)
    {m : Nat} (hm : start + m = tokens.length) :
    (evaluate selector tokens (5 * m + 7) queryRule start).depthExceeded =
      true := by
  induction m generalizing start with
  | zero => exact depthExceeded_queryRule tokens start
  | succ m ih =>
    have hlt : start < tokens.length := by omega
    have hnext := ih (show start + 1 + m = tokens.length by omega)
    apply depthExceeded_of_identifier (Nat.le_of_lt hlt)
      (List.drop_eq_getElem_cons hlt) (h _ (List.getElem_mem hlt))
    · exact avoids_of_forall (fun t ht => h t (List.mem_of_mem_drop ht))
        (by decide)
    · exact hnext

end Descent

namespace Matcher

variable {d : Nat}

/-- Five levels for each token and seven more are enough. -/
theorem not_depthExceeded_of_le {tokens : List Token}
    (h : 5 * tokens.length + 7 ≤ d) :
    ((selector d).parseTokens tokens).depthExceeded = false := by
  have hlevels := Estimate.selector_holds.levels_le Descent.get?_query
    tokens.length
  rw [Estimate.levels_query] at hlevels
  exact Evaluation.depthExceeded_eq_false_of_levels_le Estimate.selector_holds
    tokens (d + 1) queryRule 0 tokens.length (Nat.zero_le _) (by omega)
    (by omega)

theorem parseSelector_ne_depthLimit {text : String}
    (hflag : ((selector d).parse text).depthExceeded = false) (limit : Nat) :
    (selector d).parseSelector text ≠ .error (.depthLimit limit) := by
  intro h
  have hcut := ((classifies_parseSelector d text).depthLimit_iff limit).mp h
  rw [hflag] at hcut
  cases hcut.2.2

/-- **A limit linear in the tokens is enough, and no smaller one is**: with
five levels for each token and seven more, nothing is cut off and no text is
answered by the limit, so up to 101 tokens are safe without a limit being set.
With one level less, every list of identifiers runs into the limit. -/
theorem linear_limit_suffices :
    (∀ d tokens, 5 * tokens.length + 7 ≤ d →
      ((selector d).parseTokens tokens).depthExceeded = false) ∧
    (∀ d text, 5 * (lex text).length + 7 ≤ d → ∀ limit,
      (selector d).parseSelector text ≠ .error (.depthLimit limit)) ∧
    (∀ text, (lex text).length ≤ 101 →
      ((selector defaultMaxDepth).parse text).depthExceeded = false ∧
      ∀ limit, (selector defaultMaxDepth).parseSelector text ≠
        .error (.depthLimit limit)) ∧
    ∀ tokens : List Token, (∀ t ∈ tokens, t.kind = .identifier) →
      ((selector (5 * tokens.length + 6)).parseTokens tokens).depthExceeded =
        true := by
  refine ⟨fun d tokens h => not_depthExceeded_of_le h,
    fun d text h => parseSelector_ne_depthLimit (not_depthExceeded_of_le h),
    fun text h => ?_, fun tokens h => ?_⟩
  · have hle : 5 * (lex text).length + 7 ≤ defaultMaxDepth := by
      rw [defaultMaxDepth]
      omega
    have hflag := not_depthExceeded_of_le hle
    exact ⟨hflag, parseSelector_ne_depthLimit hflag⟩
  · exact Descent.depthExceeded_of_identifiers h (Nat.zero_add _)

/-- A limit of 17 is enough for the two tokens of `a b`, and 16 is not. -/
theorem linear_limit_suffices_at_identifiers :
    let tokens := lex "a b"
    (5 * tokens.length + 7 ≤ 17 ∧
      ((selector 17).parseTokens tokens).depthExceeded = false) ∧
    (∀ limit, (selector 17).parseSelector "a b" ≠ .error (.depthLimit limit)) ∧
    (tokens.length ≤ 101 ∧
      ((selector defaultMaxDepth).parse "a b").depthExceeded = false) ∧
    (∀ t ∈ tokens, t.kind = .identifier) ∧
      ((selector 16).parseTokens tokens).depthExceeded = true :=
  ⟨⟨by decide, linear_limit_suffices.1 17 _ (by decide)⟩,
    linear_limit_suffices.2.1 17 "a b" (by decide),
    ⟨by decide, (linear_limit_suffices.2.2.1 "a b" (by decide)).1⟩,
    by decide, linear_limit_suffices.2.2.2 (lex "a b") (by decide)⟩

end Matcher

end SceneSelector
