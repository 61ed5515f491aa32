import SceneSelector.Proofs.MatchedTokens

/-!
# Where matching stopped

A record without a match leads to the place where matching stopped: from each
failure on to its last child, for as long as there is one. `Record.LastPath`
follows last children whether they matched or not and collects what stands in
front of them. In an evaluation this path runs through failures only, all that
stands in front of it matched, and it ends where the record itself stops
(`Record.StoppedAt`). What was matched in front of the path is all that was
matched: these are the tokens from where the record starts up to where the
failure starts (`stoppedAt_failure`).
-/

namespace SceneSelector

namespace Record

/-! ## The path of last children -/

/-- `f` is reached from a record by following last children, and `passed` are the
siblings in front of these, outer ones first. -/
inductive LastPath : Record → List Record → Record → Prop where
  | here {r : Record} : LastPath r [] r
  | step {r last f : Record} {before passed : List Record}
      (children : r.children = before ++ [last])
      (rest : LastPath last passed f) : LastPath r (before ++ passed) f

/-- Following last children from `r` as far as they go leads to `f`, a failure,
past siblings that all matched. -/
structure StoppedAt (r : Record) (passed : List Record) (f : Record) : Prop where
  path : LastPath r passed f
  childless : f.children = []
  not_matched : f.matched = false
  stop_eq : f.stop = r.stop
  passed_matched : ∀ p ∈ passed, p.matched = true

theorem StoppedAt.here {r : Record} (hm : r.matched = false)
    (hchildren : r.children = []) : r.StoppedAt [] r :=
  ⟨.here, hchildren, hm, rfl, nofun⟩

theorem StoppedAt.below {r last f : Record} {before passed : List Record}
    (hchildren : r.children = before ++ [last])
    (hbefore : ∀ c ∈ before, c.matched = true) (hstop : last.stop = r.stop)
    (h : last.StoppedAt passed f) : r.StoppedAt (before ++ passed) f where
  path := .step hchildren h.path
  childless := h.childless
  not_matched := h.not_matched
  stop_eq := h.stop_eq.trans hstop
  passed_matched := List.forall_mem_append.mpr ⟨hbefore, h.passed_matched⟩

theorem deepestFailure_of_childless {r : Record} (h : r.children = []) :
    r.deepestFailure = r := by
  obtain ⟨rule, start, stop, matched, token, children, flag⟩ := r
  obtain rfl : children = [] := h
  rfl

theorem deepestFailureLast_append (otherwise : Record) {last : Record}
    (hm : last.matched = false) (before : List Record) :
    deepestFailureLast otherwise (before ++ [last]) = last.deepestFailure := by
  induction before with
  | nil => simp [deepestFailureLast, hm]
  | cons r before ih =>
    cases before with
    | nil => exact ih
    | cons r' before => exact ih

theorem deepestFailure_of_last {r last : Record} {before : List Record}
    (h : r.children = before ++ [last]) (hm : last.matched = false) :
    r.deepestFailure = last.deepestFailure := by
  obtain ⟨rule, start, stop, matched, token, children, flag⟩ := r
  obtain rfl : children = before ++ [last] := h
  exact deepestFailureLast_append _ hm before

theorem matchedTokensAll_eq_flatMap (rs : List Record) :
    matchedTokensAll rs = rs.flatMap matchedTokens := by
  induction rs with
  | nil => rfl
  | cons r rs ih => rw [matchedTokensAll, List.flatMap_cons, ih]

end Record

namespace Evaluation

open Record

/-! ## Evaluations that fail -/

/-- A sequence fails at one of its rules, and the rules in front of that one are
a sequence that matches. -/
theorem exists_failing_inOrder {f : Rule → Nat → Record} {rules : List Rule}
    {start : Nat} (hm : (inOrder f rules start).all Record.matched = false) :
    ∃ before rule after, rules = before ++ rule :: after ∧
      (inOrder f before start).all Record.matched = true ∧
      (f rule (stopAfter start (inOrder f before start))).matched = false ∧
      inOrder f rules start = inOrder f before start ++
        [f rule (stopAfter start (inOrder f before start))] := by
  induction rules generalizing start with
  | nil => cases hm
  | cons rule rules ih =>
    by_cases hrule : (f rule start).matched = true
    · have hcons (rest : List Rule) : inOrder f (rule :: rest) start =
          f rule start :: inOrder f rest (f rule start).stop := by
        simp only [inOrder, hrule, if_true]
      rw [hcons, List.all_cons, hrule, Bool.true_and] at hm
      obtain ⟨before, failing, after, rfl, hbefore, hfails, hparts⟩ := ih hm
      refine ⟨rule :: before, failing, after, rfl, ?_⟩
      rw [hcons, hcons, stopAfter_cons, List.all_cons, hrule, hbefore, hparts]
      exact ⟨rfl, hfails, rfl⟩
    · refine ⟨[], rule, rules, rfl, rfl, Bool.eq_false_iff.mpr hrule, ?_⟩
      simp only [inOrder, hrule, Bool.false_eq_true, if_false]
      rfl

variable {g : Grammar} {tokens : List Token}

/-- The rule of the record failed at the deepest failure below it, and what was
matched in front of that covers the tokens up to it. -/
def FailsAtDeepest (g : Grammar) (tokens : List Token) (rule : Rule)
    (r : Record) : Prop :=
  ∃ passed, r.StoppedAt passed r.deepestFailure ∧
    (g.SentinelFree → rule.SentinelFree →
      Covers tokens r.start (passed.flatMap matchedTokens)
        r.deepestFailure.start)

/-- A failure that has kept nothing is itself where matching stopped. -/
theorem failsAtDeepest_of_childless {r : Record} (hm : r.matched = false)
    (hchildren : r.children = []) (rule : Rule) :
    FailsAtDeepest g tokens rule r := by
  rw [FailsAtDeepest, deepestFailure_of_childless hchildren]
  exact ⟨[], .here hm hchildren, fun _ _ => .nil tokens r.start⟩

/-- The rules in front of the one at which a sequence fails match up to where
that one starts. -/
theorem failsAtDeepest_sequence {n : Nat} {tag : Tag}
    {before after : List Rule} {failing : Rule} {start mid : Nat}
    {parts : List Record} (hparts : parts.all Record.matched = true)
    (hmatches : Matches g tokens (.sequence tag before) start
      (matchedTokensAll parts) mid)
    (hm : (evaluate g tokens n failing mid).matched = false)
    (hall : inOrder (evaluate g tokens n) (before ++ failing :: after) start =
      parts ++ [evaluate g tokens n failing mid])
    (h : FailsAtDeepest g tokens failing (evaluate g tokens n failing mid)) :
    FailsAtDeepest g tokens (.sequence tag (before ++ failing :: after))
      (evaluate g tokens (n + 1) (.sequence tag (before ++ failing :: after))
        start) := by
  obtain ⟨passed, hstopped, hcovers⟩ := h
  have hstop : (evaluate g tokens n failing mid).stop =
      (evaluate g tokens (n + 1)
        (.sequence tag (before ++ failing :: after)) start).stop := by
    simp [evaluate, Record.ofSequence, hall]
  rw [FailsAtDeepest, deepestFailure_of_last hall hm]
  refine ⟨parts ++ passed,
    .below hall (List.all_eq_true.mp hparts) hstop hstopped,
    fun hg hrule => ?_⟩
  rw [Rule.sentinelFree_sequence, List.forall_mem_append,
    List.forall_mem_cons] at hrule
  rw [placed_evaluate] at hcovers
  have hfront := hmatches.covers hg (Rule.sentinelFree_sequence.mpr hrule.1)
  rw [List.flatMap_append, ← matchedTokensAll_eq_flatMap]
  exact hfront.append (hcovers hg hrule.2.1)

/-- **Every failure of an evaluation is explained by the deepest one.** -/
theorem failsAtDeepest_evaluate {n : Nat} {rule : Rule} {start : Nat}
    (hm : (evaluate g tokens n rule start).matched = false) :
    FailsAtDeepest g tokens rule (evaluate g tokens n rule start) := by
  induction n generalizing rule start with
  | zero => exact failsAtDeepest_of_childless hm rfl rule
  | succ n ih =>
    have hplaced := placed_evaluate g tokens n
    cases rule with
    | literal tag pattern => exact failsAtDeepest_of_childless hm rfl _
    | sequence tag rules =>
      obtain ⟨before, failing, after, rfl, hbefore, hfails, hall⟩ :=
        exists_failing_inOrder hm
      have hmatches : Matches g tokens (.sequence tag before) start _ _ :=
        matches_inOrder tag (fun _ _ => matches_evaluate) hbefore
      exact failsAtDeepest_sequence hbefore hmatches hfails hall (ih hfails)
    -- a choice that fails drops all that it has tried, so the path ends there
    | alternation tag rules =>
      have hshape := (chooses_furthest _ rules start).choiceShape hplaced
        (.alternation tag rules)
      exact failsAtDeepest_of_childless hm (hshape.of_not_matched hm).children_eq _
    | exclusive tag rules =>
      have hshape := (chooses_first _ rules start).choiceShape hplaced
        (.exclusive tag rules)
      exact failsAtDeepest_of_childless hm (hshape.of_not_matched hm).children_eq _
    | empty tag => cases hm
    | reference tag target lazy =>
      cases hget : g.get? target with
      | none =>
        simp only [evaluate, hget] at hm ⊢
        exact failsAtDeepest_of_childless hm rfl _
      | some found =>
        simp only [evaluate, hget] at hm ⊢
        obtain ⟨passed, hstopped, hcovers⟩ := ih hm
        exact ⟨passed, hstopped, fun hg _ => hcovers hg (hg.get hget)⟩

end Evaluation

namespace Matcher

/-- **A failed match points at where matching stopped.** Only a match has no
failure. Otherwise the failure is what following last children from the record
comes to, it stops where the record does, and all that stands in front of this
path matched, from outer levels inwards exactly the tokens up to the failure. -/
theorem stoppedAt_failure (g : Grammar) (d : Nat) (rule : Rule) (c : Cursor) :
    let r := (Matcher.mk g d).evaluate rule c
    (r.failure? = none ↔ r.matched = true) ∧
    ∀ f, r.failure? = some f → ∃ passed, r.StoppedAt passed f ∧
      (g.SentinelFree → rule.SentinelFree →
        passed.flatMap Record.matchedTokens =
          c.tokens.extract r.start f.start) := by
  intro r
  cases hm : r.matched with
  | true => simp [Record.failure?, hm]
  | false =>
    refine ⟨by simp [Record.failure?, hm], ?_⟩
    rintro f hf
    obtain rfl : r.deepestFailure = f := by simpa [Record.failure?, hm] using hf
    obtain ⟨passed, hstopped, hcovers⟩ := Evaluation.failsAtDeepest_evaluate hm
    exact ⟨passed, hstopped, fun hg hrule => (hcovers hg hrule).eq_extract⟩

/-- Three sequences fail one in the other, the innermost because digits stand
where an identifier is asked for. The list in front of it is matched by way of
a reference. -/
theorem stoppedAt_failure_at_list :
    let g : Grammar := ⟨[listRule], listRule⟩
    let rule : Rule := .sequence .blank
      [Grammar.symbol .dot ".",
       .sequence .blank
         [.referTo "list",
          .sequence .blank [Grammar.symbol .hash "#", .identifier]],
       .digits]
    let c := Cursor.ofTokens (lex ".x,y#1")
    let r := (Matcher.mk g 8).evaluate rule c
    g.SentinelFree ∧ rule.SentinelFree ∧
    r.failure? = some r.deepestFailure ∧ r.deepestFailure.start = 5 ∧
    r.deepestFailure.stop = 6 ∧
    ∃ passed, r.StoppedAt passed r.deepestFailure ∧
      passed.flatMap Record.matchedTokens = c.tokens.extract r.start 5 := by
  intro g rule c r
  have hg : g.SentinelFree := by decide
  have hrule : rule.SentinelFree := by decide
  have hm : r.matched = false := by decide
  have hfailure : r.failure? = some r.deepestFailure := by
    simp [Record.failure?, hm]
  have hstart : r.deepestFailure.start = 5 := by decide
  obtain ⟨passed, hstopped, htokens⟩ :=
    (stoppedAt_failure g 8 rule c).2 _ hfailure
  exact ⟨hg, hrule, hfailure, hstart, by decide, passed, hstopped,
    hstart ▸ htokens hg hrule⟩

end Matcher

end SceneSelector
