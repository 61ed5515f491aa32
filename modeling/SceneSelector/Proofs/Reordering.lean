import SceneSelector.Proofs.Congruence
import SceneSelector.Proofs.Policies

/-!
# Alternatives in another order

An alternation tries all its rules and chooses the match that reaches
furthest. The order in which they stand decides on a tie, and so it decides
which record is kept, but not how far the match reaches. Neither does it
matter to any rule around the alternation, for what a rule goes on from is the
`verdict` on the rules below it: whether they matched, where they stopped, and
whether the limit cut something off.

`Rule.Reordered` puts the rules of alternations in another order, here and at
any depth. The rules of a sequence or of an exclusive alternation stay in
their order, which is what these two go by.
-/

namespace SceneSelector

/-- `rule'` is `rule` with the rules of any of its alternations in another
order. -/
inductive Rule.Reordered : Rule → Rule → Prop where
  | literal {tag : Tag} {pattern : Pattern} :
      Reordered (.literal tag pattern) (.literal tag pattern)
  | sequence {tag : Tag} {rules rules' : List Rule}
      (each : List.Forall₂ Reordered rules rules') :
      Reordered (.sequence tag rules) (.sequence tag rules')
  /-- The rules are reordered each for itself, and then among each other. -/
  | alternation {tag : Tag} {rules middle rules' : List Rule}
      (each : List.Forall₂ Reordered rules middle) (perm : middle.Perm rules') :
      Reordered (.alternation tag rules) (.alternation tag rules')
  | exclusive {tag : Tag} {rules rules' : List Rule}
      (each : List.Forall₂ Reordered rules rules') :
      Reordered (.exclusive tag rules) (.exclusive tag rules')
  | empty {tag : Tag} : Reordered (.empty tag) (.empty tag)
  | reference {tag : Tag} {target : String} {lazy : Bool} :
      Reordered (.reference tag target lazy) (.reference tag target lazy)

theorem Rule.Reordered.name {rule rule' : Rule} (h : Reordered rule rule') :
    rule'.name = rule.name := by
  cases h <;> rfl

/-- `g'` has the rules of `g`, each of them reordered. The root is one of
them, and evaluation does not ask which. -/
def Grammar.Reordered (g g' : Grammar) : Prop :=
  List.Forall₂ Rule.Reordered g.rules g'.rules

/-- Two grammars of which one is reordered know the same names, and they know
them for rules of which one is reordered. -/
theorem Grammar.Reordered.get? {g g' : Grammar} (h : g.Reordered g')
    (name : String) :
    Option.Rel Rule.Reordered (g.get? name) (g'.get? name) := by
  unfold Grammar.Reordered at h
  unfold Grammar.get?
  generalize g.rules = rules, g'.rules = rules' at h
  induction h with
  | nil => exact .none
  | cons hrule _ ih =>
    simp only [lookup, List.find?_cons, hrule.name]
    split
    · exact .some hrule
    · exact ih

/-! ## Evaluation -/

namespace Evaluation

open Record

/-- The verdict alone is a view of a record as well. -/
theorem faithful_verdict : Faithful verdict :=
  fun _ _ h => h

/-- More verdicts to choose from, and the choice stops no earlier. -/
theorem furthest_of_subset {rs rs' : List Record} {best : Record}
    (hsubset : rs.map verdict ⊆ rs'.map verdict)
    (hbest : furthest rs = some best) :
    ∃ best', furthest rs' = some best' ∧ best.stop ≤ best'.stop := by
  obtain ⟨hmem, hmatched⟩ := (isFurthest_of_furthest hbest).mem
  -- `best` itself need not be among the others, but one that looks like it is
  obtain ⟨r, hr, hlook⟩ :=
    List.mem_map.mp (hsubset (List.mem_map_of_mem hmem))
  have hrmatched : r.matched = true := by
    rw [faithful_verdict.guiding.matched hlook, hmatched]
  cases hbest' : furthest rs' with
  | none =>
    rw [furthest_eq_none_iff.mp hbest' r hr] at hrmatched
    cases hrmatched
  | some best' =>
    refine ⟨best', rfl, ?_⟩
    rw [← faithful_verdict.guiding.stop hlook]
    exact (isFurthest_of_furthest hbest').le hr hrmatched

/-- Where the furthest match stops does not depend on the order. -/
theorem stop_furthest_of_perm {rs rs' : List Record}
    (hperm : (rs.map verdict).Perm (rs'.map verdict)) :
    (furthest rs').map Record.stop = (furthest rs).map Record.stop := by
  cases hbest : furthest rs with
  | none =>
    cases hbest' : furthest rs' with
    | none => rfl
    | some best' =>
      obtain ⟨best, h, -⟩ := furthest_of_subset hperm.symm.subset hbest'
      rw [hbest] at h
      cases h
  | some best =>
    obtain ⟨best', hbest', hle⟩ := furthest_of_subset hperm.subset hbest
    obtain ⟨best'', h, hge⟩ := furthest_of_subset hperm.symm.subset hbest'
    obtain rfl : best = best'' := Option.some.inj (hbest.symm.trans h)
    rw [hbest', Option.map_some, Option.map_some, Nat.le_antisymm hge hle]

/-- Under every limit, and with the same tokens, reordered rules of reordered
grammars come to the same verdicts. -/
theorem mirrors_reordered {g g' : Grammar} (h : g.Reordered g')
    (tokens : List Token) (n : Nat) :
    Mirrors Rule.Reordered (fun _ => True) verdict (evaluate g tokens n)
      (evaluate g' tokens n) := by
  induction n with
  | zero => exact fun _ _ _ _ _ => rfl
  | succ n ih =>
    intro rule rule' start hrule _
    cases hrule with
    | literal => rfl
    | sequence each =>
      have hparts := ih.inOrder faithful_verdict.guiding each start
        fun _ _ => trivial
      simp only [Alike, evaluate, verdict_ofSequence, map_eq_of_alike hparts]
    | @alternation tag rules middle rules' each perm =>
      have hattempts := ih.map each start fun _ _ => trivial
      -- up to `middle` the verdicts are the same in the same order
      have hperm : ((rules.map (evaluate g tokens n · start)).map verdict).Perm
          ((rules'.map (evaluate g' tokens n · start)).map verdict) := by
        rw [← map_eq_of_alike hattempts]
        exact (perm.map _).map _
      simp only [Alike, evaluate, verdict_ofChoice,
        stop_furthest_of_perm hperm, hperm.any_eq]
    | exclusive each =>
      have hattempts := ih.untilMatch faithful_verdict.guiding each start
        fun _ _ => trivial
      have hchoice := faithful_verdict.guiding.find?_matched hattempts
      simp only [Alike, evaluate, verdict_ofChoice, map_eq_of_alike hattempts,
        faithful_verdict.guiding.map_stop hchoice]
    | empty => rfl
    | @reference tag target lazy =>
      have hget := h.get? target
      simp only [evaluate]
      generalize g.get? target = found, g'.get? target = found' at hget
      cases hget with
      | none => rfl
      | some hfound => exact ih start hfound trivial

end Evaluation

namespace Matcher

/-- **The order of alternatives has no effect on recognition**: put the rules
of any alternations in another order, in the grammar and in the rule that is
asked for, and the rule matches where it did, reaches as far as it did, and
runs into the limit where it did. -/
theorem verdict_of_reordered {g g' : Grammar} (h : g.Reordered g')
    {rule rule' : Rule} (hrule : rule.Reordered rule') (maxDepth : Nat)
    (c : Cursor) :
    let r := (Matcher.mk g maxDepth).evaluate rule c
    let r' := (Matcher.mk g' maxDepth).evaluate rule' c
    r'.matched = r.matched ∧ r'.stop = r.stop ∧
      r'.depthExceeded = r.depthExceeded :=
  Record.verdict_eq_iff.mp
    (Evaluation.mirrors_reordered h c.tokens _ c.position hrule trivial)

/-- An identifier is an `item` in two ways that reach as far. The order decides
between them, so the records are not the same, but the verdicts are. -/
theorem verdict_of_reordered_at_tie :
    let wrapped := Rule.sequence .blank [.identifier]
    let item := Rule.alternation ⟨some "item", 0⟩ [.identifier, wrapped]
    let item' := Rule.alternation ⟨some "item", 0⟩ [wrapped, .identifier]
    let g : Grammar := ⟨[item], item⟩
    let g' : Grammar := ⟨[item'], item'⟩
    let rule := Rule.sequence .blank [.referTo "item", .optional .digits]
    let rule' := Rule.sequence .blank
      [.referTo "item", .alternation .blank [.empty .blank, .digits]]
    let c := Cursor.ofTokens
      [⟨.identifier, "x", ⟨0, 1⟩⟩, ⟨.digits, "1", ⟨1, 2⟩⟩]
    let r := (Matcher.mk g 4).evaluate rule c
    let r' := (Matcher.mk g' 4).evaluate rule' c
    g.Reordered g' ∧ rule.Reordered rule' ∧
      (r'.matched = r.matched ∧ r'.stop = r.stop ∧
        r'.depthExceeded = r.depthExceeded) ∧
      r'.preorder.map (·.rule.label) ≠ r.preorder.map (·.rule.label) := by
  intro wrapped item item' g g' rule rule' c r r'
  have hitem : item.Reordered item' :=
    .alternation (.cons .literal (.cons (.sequence (.cons .literal .nil)) .nil))
      (.swap _ _ _)
  have hg : g.Reordered g' := .cons hitem .nil
  have hrule : rule.Reordered rule' :=
    .sequence (.cons .reference (.cons
      (.alternation (.cons .literal (.cons .empty .nil)) (.swap _ _ _)) .nil))
  exact ⟨hg, hrule, verdict_of_reordered hg hrule 4 c, by decide⟩

end Matcher

end SceneSelector
