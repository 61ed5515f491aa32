import SceneSelector.Proofs.Policies
import SceneSelector.Proofs.Visits

/-!
# What assembly guarantees

`Grammar.assemble` looks at every node of every rule once and follows no
reference, while an evaluation follows references to any depth. What makes the
check sufficient is that rules all of whose nodes are intact
(`Rule.WellFormed`) lead to intact rules only (`Reaches.intact`). So what is
evaluated with an assembled grammar never comes to a name that is unknown or to
a branch without rules, and a record that neither matched nor kept anything has
one of three causes (`evaluate_assembled`).
-/

namespace SceneSelector

/-! ## Intact rules -/

/-- A branch has rules, and the target of a reference is one of `names`. -/
structure Rule.Intact (names : List String) (node : Rule) : Prop where
  children_ne_nil : node.isComposite = true → node.children ≠ []
  target_mem : ∀ target ∈ node.target?, target ∈ names

/-- Every node of the rule is intact. -/
def Rule.WellFormed (names : List String) (rule : Rule) : Prop :=
  ∀ node ∈ rule.walk, node.Intact names

namespace Grammar

/-- The names that the grammar's rules have. -/
def names (g : Grammar) : List String :=
  g.rules.filterMap Rule.name

theorem nodeDefect?_eq_none_iff {names : List String} {owner : String}
    {node : Rule} :
    nodeDefect? names owner node = none ↔ node.Intact names := by
  rw [nodeDefect?]
  split
  · next h =>
    simp only [Bool.and_eq_true, List.isEmpty_iff] at h
    refine ⟨nofun, fun hnode => absurd h.2 (hnode.children_ne_nil h.1)⟩
  · next h =>
    simp only [Bool.and_eq_true, List.isEmpty_iff, not_and] at h
    cases htarget : node.target? with
    | none => exact iff_of_true rfl ⟨h, by simp [htarget]⟩
    | some target =>
      by_cases hmem : target ∈ names
      · simp only [hmem, if_true]
        exact iff_of_true trivial ⟨h, by simp [htarget, hmem]⟩
      · simp only [hmem, if_false]
        exact iff_of_false nofun
          fun hnode => hmem (hnode.target_mem target htarget)

theorem ruleDefect?_eq_none_iff {names : List String} {rule : Rule} :
    ruleDefect? names rule = none ↔ rule.WellFormed names := by
  simp only [ruleDefect?, List.findSome?_eq_none_iff, nodeDefect?_eq_none_iff,
    Rule.WellFormed]

/-- A list of rules that is assembled becomes the rules of the grammar as it
is, and has no defect. -/
theorem defect?_of_assemble {rules : List Rule} {root : String} {g : Grammar}
    (h : assemble rules root = .ok g) :
    g.rules = rules ∧ defect? rules = none := by
  rw [assemble] at h
  split at h
  · cases h
  · next hdefect =>
    split at h
    · cases h
      exact ⟨rfl, hdefect⟩
    · cases h

theorem wellFormed_of_assemble {rules : List Rule} {root : String}
    {g : Grammar} (h : assemble rules root = .ok g) :
    ∀ rule ∈ g.rules, rule.WellFormed g.names := by
  obtain ⟨rfl, hdefect⟩ := defect?_of_assemble h
  rw [defect?] at hdefect
  split at hdefect
  · cases hdefect
  · intro rule hmem
    exact ruleDefect?_eq_none_iff.mp
      (List.findSome?_eq_none_iff.mp hdefect rule hmem)

theorem lookup_ne_none_iff {rules : List Rule} {name : String} :
    lookup rules name ≠ none ↔ name ∈ rules.filterMap Rule.name := by
  rw [← Option.isSome_iff_ne_none, lookup, List.find?_isSome,
    List.mem_filterMap]
  simp only [decide_eq_true_eq]

theorem get?_ne_none_iff {g : Grammar} {name : String} :
    g.get? name ≠ none ↔ name ∈ g.names :=
  lookup_ne_none_iff

theorem Reaches.intact {g : Grammar} {rule node : Rule}
    (hg : ∀ rule ∈ g.rules, rule.WellFormed g.names)
    (h : g.Reaches rule node) (hrule : rule ∈ g.rules) :
    node.Intact g.names :=
  h.forall_mem_walk hg (hg rule hrule) node (Rule.mem_walk.mpr (.inl rfl))

end Grammar

/-! ## Why a rule leaves nothing -/

namespace Record

/-- The record of a literal whose pattern refuses the token that stands where
the record starts. -/
def IsMismatch (tokens : List Token) (r : Record) : Prop :=
  ∃ tag pattern, r.rule = .literal tag pattern ∧
    pattern.accepts (Buffer.read tokens r.start) = false

/-- The record that an alternation of either sort leaves with `n` levels for its
rules, of which it has some. With so many levels none of them matches where the
record starts. -/
structure IsFailedChoice (g : Grammar) (tokens : List Token) (n : Nat) (r : Record) :
    Prop where
  outcome : r = Evaluation.evaluate g tokens (n + 1) r.rule r.start
  unmatched : ∃ tag rules,
    (r.rule = .alternation tag rules ∨ r.rule = .exclusive tag rules) ∧
    rules ≠ [] ∧
    ∀ rule ∈ rules, (Evaluation.evaluate g tokens n rule r.start).matched = false

end Record

namespace Evaluation

open Record

theorem matched_ofChoice_eq_false_iff {rule : Rule} {start : Nat}
    {attempts : List Record} {choice : Option Record} :
    (Record.ofChoice rule start attempts choice).matched = false ↔ choice = none := by
  cases choice with
  | none => exact iff_of_true rfl rfl
  | some r => exact iff_of_false nofun nofun

theorem find?_untilMatch_eq_none_iff {f : Rule → Nat → Record} {start : Nat}
    {rules : List Rule} :
    (untilMatch f start rules).find? Record.matched = none ↔
      ∀ rule ∈ rules, (f rule start).matched = false := by
  induction rules with
  | nil => simp [untilMatch]
  | cons rule rules ih =>
    rw [List.forall_mem_cons, ← ih]
    by_cases hm : (f rule start).matched = true <;> simp [untilMatch, hm]

variable {g : Grammar} {tokens : List Token} {n : Nat} {rule : Rule}
  {start : Nat}

/-- An intact rule that leaves a record of its own, and has a level left, fails
by itself or for want of an alternative. -/
theorem cause_of_not_matched (hrule : rule.Intact g.names)
    (hrecorded : g.Recorded rule)
    (hm : (evaluate g tokens (n + 1) rule start).matched = false)
    (hchildren : (evaluate g tokens (n + 1) rule start).children = []) :
    (evaluate g tokens (n + 1) rule start).IsMismatch tokens ∨
      (evaluate g tokens (n + 1) rule start).IsFailedChoice g tokens n := by
  have houtcome : evaluate g tokens (n + 1) rule start = _ :=
    (made_evaluate (fun _ => hrecorded) start).outcome
  cases rule with
  | literal tag pattern =>
    left
    cases hp : pattern.accepts (Buffer.read tokens start) with
    | true =>
      rw [evaluate_literal_of_accepts hp] at hm
      cases hm
    | false => exact ⟨tag, pattern, rfl, hp⟩
  | sequence tag rules =>
    -- a failure would have been kept, so there was none
    have hshape : (evaluate g tokens (n + 1) (.sequence tag rules)
        start).SequenceShape (evaluate g tokens n) rules :=
      (placed_evaluate g tokens n).sequenceShape _ rules start
    have hnone : ∀ c ∈ (evaluate g tokens (n + 1) (.sequence tag rules)
        start).children, c.matched = true := by
      simp [hchildren]
    have := hshape.matched_iff.mpr ⟨hshape.length_eq hnone, hnone⟩
    rw [hm] at this
    cases this
  | alternation tag rules =>
    right
    rw [evaluate, matched_ofChoice_eq_false_iff] at hm
    refine ⟨houtcome, tag, rules, .inl (rule_ofChoice _ _ _ _),
      hrule.children_ne_nil rfl, ?_⟩
    rw [evaluate, start_ofChoice]
    exact List.forall_mem_map.mp (furthest_eq_none_iff.mp hm)
  | exclusive tag rules =>
    right
    rw [evaluate, matched_ofChoice_eq_false_iff] at hm
    refine ⟨houtcome, tag, rules, .inr (rule_ofChoice _ _ _ _),
      hrule.children_ne_nil rfl, ?_⟩
    rw [evaluate, start_ofChoice]
    exact find?_untilMatch_eq_none_iff.mp hm
  | empty tag => cases hm
  | reference tag target lazy =>
    exact absurd (hrecorded target rfl)
      (Grammar.get?_ne_none_iff.mpr (hrule.target_mem target rfl))

end Evaluation

namespace Matcher

/-- **A grammar that was assembled is closed under evaluation**, from each of
its rules, at every position and under every limit. No reference is found to
lead nowhere, nor does the log warn of one; no branch without rules is tried;
and where a record neither matched nor has children, a literal did not fit,
none of the alternatives did, or the depth limit cut off the rule. -/
theorem evaluate_assembled {rules : List Rule} {root : String} {g : Grammar}
    (hg : Grammar.assemble rules root = .ok g) (d : Nat) {rule : Rule}
    (hrule : rule ∈ g.rules) (c : Cursor) :
    (∀ target, .dangling target ∉ (Matcher.mk g d).visits rule c) ∧
    (∀ e ∈ (Matcher.mk g d).evaluationLog rule c,
      ¬ e.Warns "reference to unregistered rule ") ∧
    (∀ depth node start, .entered depth node start ∈
        (Matcher.mk g d).visits rule c →
      node.isComposite = true → node.children ≠ []) ∧
    ∀ r ∈ ((Matcher.mk g d).evaluate rule c).preorder,
      r.matched = false → r.children = [] →
      r.IsMismatch c.tokens ∨
      (∃ n ≤ d, r.IsFailedChoice g c.tokens n) ∨
      r = .cut r.rule r.start := by
  have hreached {node : Rule} (h : g.Reaches rule node) :
      node.Intact g.names :=
    h.intact (Grammar.wellFormed_of_assemble hg) hrule
  have hdangling : ∀ target,
      .dangling target ∉ (Matcher.mk g d).visits rule c := by
    intro target hv
    obtain ⟨hget, tag, lazy, h⟩ := Evaluation.comesFrom_of_mem_visits hv
    have hmem := (hreached h).target_mem target rfl
    exact Grammar.get?_ne_none_iff.mpr hmem hget
  refine ⟨hdangling, ?_, ?_, ?_⟩
  · intro e he hwarns
    obtain ⟨v, hv, rfl⟩ := List.mem_map.mp he
    obtain ⟨target, rfl⟩ := Log.warns_ofVisit_reference.mp hwarns
    exact hdangling target hv
  · intro depth node start hv
    have h : g.Reaches rule node := Evaluation.comesFrom_of_mem_visits hv
    exact (hreached h).children_ne_nil
  · intro r hr hm hchildren
    obtain ⟨budget, hle, hmade, h, -⟩ :=
      Evaluation.exists_made_of_mem_preorder hr
    cases budget with
    | zero => exact .inr (.inr hmade.outcome)
    | succ n =>
      rw [hmade.outcome] at hm hchildren
      have hcause := Evaluation.cause_of_not_matched (hreached h)
        (hmade.recorded n.succ_pos) hm hchildren
      rw [← hmade.outcome] at hcause
      rcases hcause with hcause | hcause
      · exact .inl hcause
      · exact .inr (.inl ⟨n, Nat.le_of_succ_le_succ hle, hcause⟩)

/-- `a := (identifier / -> a)` goes round in a circle where no identifier
stands, until the limit cuts it off. It still finds itself each time. -/
theorem evaluate_assembled_at_circle :
    let g : Grammar := ⟨[leftRecursiveRule], leftRecursiveRule⟩
    let m := Matcher.mk g 5
    let c := Cursor.ofTokens [⟨.digits, "1", ⟨0, 1⟩⟩]
    Grammar.assemble [leftRecursiveRule] "a" = .ok g ∧
    leftRecursiveRule ∈ g.rules ∧
    (m.evaluate leftRecursiveRule c).matched = false ∧
    (m.evaluate leftRecursiveRule c).depthExceeded = true ∧
    (∀ target, .dangling target ∉ m.visits leftRecursiveRule c) ∧
    (∀ e ∈ m.evaluationLog leftRecursiveRule c,
      ¬ e.Warns "reference to unregistered rule ") ∧
    (∀ depth node start, .entered depth node start ∈
        m.visits leftRecursiveRule c →
      node.isComposite = true → node.children ≠ []) ∧
    ∀ r ∈ (m.evaluate leftRecursiveRule c).preorder,
      r.matched = false → r.children = [] →
      r.IsMismatch c.tokens ∨
      (∃ n ≤ 5, r.IsFailedChoice g c.tokens n) ∨
      r = .cut r.rule r.start := by
  intro g m c
  have hg : Grammar.assemble [leftRecursiveRule] "a" = .ok g := rfl
  have hrule : leftRecursiveRule ∈ g.rules := List.mem_singleton.mpr rfl
  exact ⟨hg, hrule, by decide, by decide, evaluate_assembled hg 5 hrule c⟩

end Matcher

end SceneSelector
