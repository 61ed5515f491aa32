import SceneSelector.Log
import SceneSelector.Proofs.Shape

/-!
# What an evaluation visits

`visits` lists what happens while a rule is evaluated, and most of that leaves
nothing in the record: alternatives that were not chosen, and the rules below
them. Two things that the record cannot show by itself are read off the list.

The depth flag is exact. A record is flagged if and only if its evaluation
came to a rule beyond the limit (`accounts_visits`), which is to say if and
only if the log warns of it (`depthExceeded_iff_warned`): no flag is lost with
an attempt that is discarded, and none is set without cause.

And an evaluation does not go astray. All that it tries can be reached from
the rule that was asked for (`comesFrom_of_mem_visits`).
-/

namespace SceneSelector

namespace Evaluation

/-! ## Visits beyond the limit -/

/-- The visit is one that the depth limit cut off. -/
def Visit.isCut : Visit → Bool
  | .cut _ => true
  | .entered .. | .dangling _ => false

theorem any_isCut_iff {vs : List Visit} :
    vs.any Visit.isCut = true ↔ ∃ start, .cut start ∈ vs := by
  rw [List.any_eq_true]
  constructor
  · rintro ⟨v, hmem, hcut⟩
    cases v with
    | cut start => exact ⟨start, hmem⟩
    | entered | dangling => cases hcut
  · rintro ⟨start, hmem⟩
    exact ⟨_, hmem, rfl⟩

/-- The visits of a rule have a cut among them if and only if its record is
flagged. -/
def Accounts (attempt : Rule → Nat → Record)
    (visit : Rule → Nat → List Visit) : Prop :=
  ∀ rule start,
    (visit rule start).any Visit.isCut = (attempt rule start).depthExceeded

section

variable {attempt : Rule → Nat → Record} {visit : Rule → Nat → List Visit}

theorem Accounts.inOrder (h : Accounts attempt visit) (rules : List Rule)
    (start : Nat) :
    (visitsInOrder attempt visit rules start).any Visit.isCut =
      (inOrder attempt rules start).any Record.depthExceeded := by
  induction rules generalizing start with
  | nil => rfl
  | cons rule rules ih =>
    simp only [visitsInOrder, Evaluation.inOrder, List.any_append, h rule start]
    split
    · rw [ih, List.any_cons]
    · rw [List.any_nil, List.any_cons, List.any_nil]

theorem Accounts.untilMatch (h : Accounts attempt visit) (start : Nat)
    (rules : List Rule) :
    (visitsUntilMatch attempt visit start rules).any Visit.isCut =
      (untilMatch attempt start rules).any Record.depthExceeded := by
  induction rules with
  | nil => rfl
  | cons rule rules ih =>
    simp only [visitsUntilMatch, Evaluation.untilMatch, List.any_append,
      h rule start]
    split
    · rw [List.any_nil, List.any_cons, List.any_nil]
    · rw [ih, List.any_cons]

theorem Accounts.all (h : Accounts attempt visit) (start : Nat)
    (rules : List Rule) :
    (rules.flatMap (visit · start)).any Visit.isCut =
      (rules.map (attempt · start)).any Record.depthExceeded := by
  rw [List.any_flatMap, List.any_map]
  exact congrArg (List.any rules) (funext fun rule => h rule start)

end

variable {g : Grammar} {tokens : List Token}

/-- **The depth flag is exact**: it is set where something was cut off, be it
in an attempt that was discarded, and nowhere else. -/
theorem accounts_visits (g : Grammar) (tokens : List Token) (n depth : Nat) :
    Accounts (evaluate g tokens n) (visits g tokens n depth) := by
  induction n generalizing depth with
  | zero => exact fun _ _ => rfl
  | succ n ih =>
    intro rule start
    -- that the rule itself is tried does not count
    simp only [visits, List.any_cons, Visit.isCut, Bool.false_or]
    cases rule with
    | literal tag pattern => rfl
    | sequence tag rules => exact (ih (depth + 1)).inOrder rules start
    | alternation tag rules =>
      simp only [evaluate, depthExceeded_ofChoice]
      exact (ih (depth + 1)).all start rules
    | exclusive tag rules =>
      simp only [evaluate, depthExceeded_ofChoice]
      exact (ih (depth + 1)).untilMatch start rules
    | empty tag => rfl
    | reference tag target lazy =>
      simp only [evaluate]
      cases g.get? target with
      | none => rfl
      | some found => exact ih (depth + 1) found start

/-! ## Where visits lead -/

/-- A visit that the evaluation of `rule` can come to: one of a rule that can
be reached, or of a reference that can be reached and leads nowhere. -/
def Visit.ComesFrom (g : Grammar) (rule : Rule) : Visit → Prop
  | .entered _ node _ => g.Reaches rule node
  | .cut _ => True
  | .dangling target => g.get? target = none ∧
      ∃ tag lazy, g.Reaches rule (.reference tag target lazy)

theorem Visit.ComesFrom.extend {rule rule' : Rule} {v : Visit}
    (h : v.ComesFrom g rule')
    (hreaches : ∀ {node}, g.Reaches rule' node → g.Reaches rule node) :
    v.ComesFrom g rule := by
  cases v with
  | entered => exact hreaches h
  | cut => trivial
  | dangling =>
    obtain ⟨hget, tag, lazy, h⟩ := h
    exact ⟨hget, tag, lazy, hreaches h⟩

theorem exists_of_mem_visitsInOrder {attempt : Rule → Nat → Record}
    {visit : Rule → Nat → List Visit} {rules : List Rule} {start : Nat}
    {v : Visit} (hv : v ∈ visitsInOrder attempt visit rules start) :
    ∃ rule ∈ rules, ∃ start', v ∈ visit rule start' := by
  induction rules generalizing start with
  | nil => cases hv
  | cons rule rules ih =>
    rcases List.mem_append.mp hv with hv | hv
    · exact ⟨rule, List.mem_cons_self, start, hv⟩
    · split at hv
      · obtain ⟨rule', hmem, hv⟩ := ih hv
        exact ⟨rule', List.mem_cons_of_mem _ hmem, hv⟩
      · cases hv

theorem exists_of_mem_visitsUntilMatch {attempt : Rule → Nat → Record}
    {visit : Rule → Nat → List Visit} {rules : List Rule} {start : Nat}
    {v : Visit} (hv : v ∈ visitsUntilMatch attempt visit start rules) :
    ∃ rule ∈ rules, v ∈ visit rule start := by
  induction rules with
  | nil => cases hv
  | cons rule rules ih =>
    rcases List.mem_append.mp hv with hv | hv
    · exact ⟨rule, List.mem_cons_self, hv⟩
    · split at hv
      · cases hv
      · obtain ⟨rule', hmem, hv⟩ := ih hv
        exact ⟨rule', List.mem_cons_of_mem _ hmem, hv⟩

theorem comesFrom_of_mem_visits {n depth start : Nat} {rule : Rule} {v : Visit}
    (hv : v ∈ visits g tokens n depth rule start) : v.ComesFrom g rule := by
  induction n generalizing depth rule start with
  | zero =>
    obtain rfl := List.mem_singleton.mp hv
    trivial
  | succ n ih =>
    have hchild {child : Rule} {start' : Nat} (hmem : child ∈ rule.children)
        (hv : v ∈ visits g tokens n (depth + 1) child start') :
        v.ComesFrom g rule :=
      (ih hv).extend (.child hmem)
    rcases List.mem_cons.mp hv with rfl | hv
    · exact .refl
    · cases rule with
      | literal tag pattern => cases hv
      | sequence tag rules =>
        obtain ⟨child, hmem, _, hv⟩ := exists_of_mem_visitsInOrder hv
        exact hchild hmem hv
      | alternation tag rules =>
        obtain ⟨child, hmem, hv⟩ := List.mem_flatMap.mp hv
        exact hchild hmem hv
      | exclusive tag rules =>
        obtain ⟨child, hmem, hv⟩ := exists_of_mem_visitsUntilMatch hv
        exact hchild hmem hv
      | empty tag => cases hv
      | reference tag target lazy =>
        cases hget : g.get? target with
        | none =>
          simp only [hget] at hv
          obtain rfl := List.mem_singleton.mp hv
          exact ⟨hget, tag, lazy, .refl⟩
        | some found =>
          simp only [hget] at hv
          exact (ih hv).extend (.target rfl hget)

end Evaluation

/-! ## Visits as the log tells them -/

namespace Log

open Evaluation (Visit)

/-- A warning that opens with these words. -/
def Entry.Warns (words : String) (e : Entry) : Prop :=
  e.level = .warn ∧ words.toList <+: e.message.toList

/-- How the warning of a limit opens. -/
def depthWarning (maxDepth : Nat) : String :=
  "depth limit " ++ toString maxDepth ++ " reached at token "

theorem warns_ofVisit_depth {maxDepth : Nat} {v : Visit} :
    (ofVisit maxDepth v).Warns (depthWarning maxDepth) ↔ v.isCut = true := by
  cases v with
  | entered depth rule start => simp [ofVisit, Entry.Warns, Visit.isCut]
  | cut start => simp [ofVisit, Entry.Warns, Visit.isCut, depthWarning]
  | dangling target => simp [ofVisit, Entry.Warns, Visit.isCut, depthWarning]

theorem warns_ofVisit_reference {maxDepth : Nat} {v : Visit} :
    (ofVisit maxDepth v).Warns "reference to unregistered rule " ↔
      ∃ target, v = .dangling target := by
  cases v with
  | entered depth rule start => simp [ofVisit, Entry.Warns]
  | cut start => simp [ofVisit, Entry.Warns]
  | dangling target => simp [ofVisit, Entry.Warns]

end Log

namespace Matcher

/-- Whether a record is flagged, whether a rule was visited beyond the limit
and whether the log warns of the limit are the same question, for every
grammar, rule, cursor and limit. -/
theorem depthExceeded_iff_warned (m : Matcher) (rule : Rule) (c : Cursor) :
    ((m.evaluate rule c).depthExceeded = true ↔
      ∃ start, .cut start ∈ m.visits rule c) ∧
    ((m.evaluate rule c).depthExceeded = true ↔
      ∃ e ∈ m.evaluationLog rule c, e.Warns (Log.depthWarning m.maxDepth)) := by
  have hflag : (m.visits rule c).any Evaluation.Visit.isCut =
      (m.evaluate rule c).depthExceeded :=
    Evaluation.accounts_visits m.grammar c.tokens m.budget 0 rule c.position
  rw [← hflag]
  refine ⟨Evaluation.any_isCut_iff, ?_⟩
  rw [List.any_eq_true]
  constructor
  · rintro ⟨v, hmem, hcut⟩
    exact ⟨_, List.mem_map_of_mem hmem, Log.warns_ofVisit_depth.mpr hcut⟩
  · rintro ⟨_, hmem, hwarns⟩
    obtain ⟨v, hv, rfl⟩ := List.mem_map.mp hmem
    exact ⟨v, hv, Log.warns_ofVisit_depth.mp hwarns⟩

end Matcher

end SceneSelector
