import SceneSelector.Proofs.MatchedTokens

/-!
# How many levels matching needs

`Rule.levels` computes from a rule and the number of tokens ahead how many
levels suffice to evaluate it without running into the depth limit. It takes
its numbers for the named rules from an `Estimate`, and an estimate holds of a
grammar if it keeps what it says when the rules of those names are computed
with it (`Estimate.Holds`). The levels are only then enough: an estimate that
holds rules out that a rule comes back to itself before a token is read
(`depthExceeded_eq_false_of_levels_le`). The other way round, a rule that runs
out of levels is seen in the flag of every rule that tries it.

What makes the numbers finite is that a match reads tokens: a rule that comes
later in a sequence has fewer of them ahead, by at least `Rule.fewest`.
-/

namespace SceneSelector

/-- Numbers for the named rules of a grammar. -/
structure Estimate where
  /-- The fewest tokens that a match of the rule reads. -/
  fewest : String → Nat
  /-- Levels that suffice for the rule, by the number of tokens ahead. -/
  levels : String → Nat → Nat

namespace Rule

mutual

/-- The fewest tokens that a match of a rule reads. A match of the sentinel
reads none. -/
def fewest (e : Estimate) : Rule → Nat
  | literal _ pattern => if pattern.kind = .endOfInput then 0 else 1
  | sequence _ rules => fewestInOrder e rules
  | alternation _ rules | exclusive _ rules => fewestOfAny e rules
  | empty _ => 0
  | reference _ target _ => e.fewest target

def fewestInOrder (e : Estimate) : List Rule → Nat
  | [] => 0
  | rule :: rules => fewest e rule + fewestInOrder e rules

def fewestOfAny (e : Estimate) : List Rule → Nat
  | [] => 0
  | [rule] => fewest e rule
  | rule :: rule' :: rules =>
    min (fewest e rule) (fewestOfAny e (rule' :: rules))

end

mutual

/-- Levels that suffice for a rule with `ahead` tokens ahead of it. -/
def levels (e : Estimate) : Rule → (ahead : Nat) → Nat
  | literal _ _, _ | empty _, _ => 1
  | sequence _ rules, ahead => levelsInOrder e rules ahead + 1
  | alternation _ rules, ahead | exclusive _ rules, ahead =>
    levelsOfAll e rules ahead + 1
  | reference _ target _, ahead => e.levels target ahead + 1

/-- A rule is tried only if there were tokens enough for those before it. -/
def levelsInOrder (e : Estimate) : List Rule → (ahead : Nat) → Nat
  | [], _ => 0
  | rule :: rules, ahead =>
    max (levels e rule ahead)
      (if fewest e rule ≤ ahead then
        levelsInOrder e rules (ahead - fewest e rule)
      else 0)

def levelsOfAll (e : Estimate) : List Rule → (ahead : Nat) → Nat
  | [], _ => 0
  | rule :: rules, ahead => max (levels e rule ahead) (levelsOfAll e rules ahead)

end

end Rule

/-- The numbers for the named rules bear those out that are computed with
them. -/
structure Estimate.Holds (e : Estimate) (g : Grammar) : Prop where
  fewest_le : ∀ {name : String} {rule : Rule}, g.get? name = some rule →
    e.fewest name ≤ rule.fewest e
  levels_le : ∀ {name : String} {rule : Rule}, g.get? name = some rule →
    ∀ ahead, rule.levels e ahead ≤ e.levels name ahead

namespace Rule

variable {e : Estimate}

theorem fewestOfAny_le {rules : List Rule} {rule : Rule} (h : rule ∈ rules) :
    fewestOfAny e rules ≤ rule.fewest e := by
  induction rules with
  | nil => cases h
  | cons first rules ih =>
    cases rules with
    | nil =>
      obtain rfl := List.mem_singleton.mp h
      exact Nat.le_refl _
    | cons next rules =>
      rcases List.mem_cons.mp h with rfl | h
      · exact Nat.min_le_left _ _
      · exact Nat.le_trans (Nat.min_le_right _ _) (ih h)

theorem levels_le_levelsOfAll {rules : List Rule} {rule : Rule} (ahead : Nat)
    (h : rule ∈ rules) : rule.levels e ahead ≤ levelsOfAll e rules ahead := by
  induction rules with
  | nil => cases h
  | cons first rules ih =>
    rcases List.mem_cons.mp h with rfl | h
    · exact Nat.le_max_left _ _
    · exact Nat.le_trans (ih h) (Nat.le_max_right _ _)

theorem levels_pos (rule : Rule) (ahead : Nat) : 0 < rule.levels e ahead := by
  cases rule <;> simp [levels]

/-! A bound on the levels of a rule is a bound on those of its parts. -/

variable {tag : Tag} {rule : Rule} {rules : List Rule} {ahead b : Nat}

theorem levels_literal_le_iff {pattern : Pattern} :
    (literal tag pattern).levels e ahead ≤ b ↔ 0 < b :=
  Iff.rfl

theorem levels_empty_le_iff : (empty tag).levels e ahead ≤ b ↔ 0 < b :=
  Iff.rfl

theorem levels_sequence_le_iff :
    (sequence tag rules).levels e ahead ≤ b ↔
      0 < b ∧ levelsInOrder e rules ahead ≤ b - 1 := by
  rw [levels]
  omega

theorem levels_alternation_le_iff :
    (alternation tag rules).levels e ahead ≤ b ↔
      0 < b ∧ levelsOfAll e rules ahead ≤ b - 1 := by
  rw [levels]
  omega

theorem levels_exclusive_le_iff :
    (exclusive tag rules).levels e ahead ≤ b ↔
      0 < b ∧ levelsOfAll e rules ahead ≤ b - 1 := by
  rw [levels]
  omega

theorem levels_reference_le_iff {target : String} {lazy : Bool} :
    (reference tag target lazy).levels e ahead ≤ b ↔
      0 < b ∧ e.levels target ahead ≤ b - 1 := by
  rw [levels]
  omega

theorem levelsInOrder_nil : levelsInOrder e [] ahead = 0 := rfl

theorem levelsInOrder_cons_le_iff :
    levelsInOrder e (rule :: rules) ahead ≤ b ↔
      rule.levels e ahead ≤ b ∧
        (rule.fewest e ≤ ahead →
          levelsInOrder e rules (ahead - rule.fewest e) ≤ b) := by
  rw [levelsInOrder, Nat.max_le]
  split
  · next h => simp [h]
  · next h => simp [h]

theorem levelsOfAll_nil : levelsOfAll e [] ahead = 0 := rfl

theorem levelsOfAll_cons_le_iff :
    levelsOfAll e (rule :: rules) ahead ≤ b ↔
      rule.levels e ahead ≤ b ∧ levelsOfAll e rules ahead ≤ b := by
  rw [levelsOfAll, Nat.max_le]

end Rule

namespace Evaluation

variable {g : Grammar} {e : Estimate} {tokens : List Token}

/-- A match reads at least the fewest tokens. -/
theorem Matches.fewest_le (he : e.Holds g) {rule : Rule} {start stop : Nat}
    {ts : List Token} (h : Matches g tokens rule start ts stop) :
    start + rule.fewest e ≤ stop := by
  induction h with
  | @literal _ pattern _ _ _ reads fits =>
    simp only [Rule.fewest]
    cases reads with
    | token get => split <;> omega
    | atEnd get =>
      -- the sentinel is read without moving on, and not counted
      have hkind : Kind.endOfInput = pattern.kind :=
        ((Pattern.accepts_iff _ _).mp fits).1
      rw [if_pos hkind.symm]
      exact Nat.le_refl _
  | nil => exact Nat.le_refl _
  | cons _ _ ihhead ihtail =>
    simp only [Rule.fewest, Rule.fewestInOrder] at ihtail ⊢
    omega
  | alternation mem _ ih =>
    have := Rule.fewestOfAny_le (e := e) mem
    simp only [Rule.fewest]
    omega
  | exclusive mem _ ih =>
    have := Rule.fewestOfAny_le (e := e) mem
    simp only [Rule.fewest]
    omega
  | empty => exact Nat.le_refl _
  | reference get _ ih =>
    have := he.fewest_le get
    simp only [Rule.fewest]
    omega

/-- `n` levels keep every rule that they suffice for from being flagged. -/
def Suffices (g : Grammar) (e : Estimate) (tokens : List Token) (n : Nat) :
    Prop :=
  ∀ (rule : Rule) (start ahead : Nat), start ≤ tokens.length →
    tokens.length ≤ start + ahead → rule.levels e ahead ≤ n →
    (evaluate g tokens n rule start).depthExceeded = false

theorem Suffices.inOrder {n : Nat} (h : Suffices g e tokens n)
    (he : e.Holds g) {rules : List Rule} {start ahead : Nat}
    (hs : start ≤ tokens.length) (hahead : tokens.length ≤ start + ahead)
    (hn : Rule.levelsInOrder e rules ahead ≤ n) :
    (inOrder (evaluate g tokens n) rules start).any Record.depthExceeded =
      false := by
  induction rules generalizing start ahead with
  | nil => rfl
  | cons rule rules ih =>
    obtain ⟨hrule, hrules⟩ := Rule.levelsInOrder_cons_le_iff.mp hn
    have hflag := h rule start ahead hs hahead hrule
    simp only [Evaluation.inOrder]
    split
    · next hm =>
      -- what this rule has read is no longer ahead of the others
      have hread := (matches_evaluate hm).fewest_le he
      have hstop := (forward_evaluate g tokens n rule start hs).2
      rw [List.any_cons, hflag, Bool.false_or]
      exact ih hstop (by omega) (hrules (by omega))
    · rw [List.any_cons, hflag]
      rfl

theorem Suffices.attempts {n : Nat} (h : Suffices g e tokens n)
    {rules : List Rule} {start ahead : Nat} (hs : start ≤ tokens.length)
    (hahead : tokens.length ≤ start + ahead)
    (hn : Rule.levelsOfAll e rules ahead ≤ n) {attempts : List Record}
    (hattempted : ∀ a ∈ attempts, ∃ rule ∈ rules,
      a = evaluate g tokens n rule start) :
    attempts.any Record.depthExceeded = false := by
  rw [List.any_eq_false]
  intro a ha
  obtain ⟨rule, hmem, rfl⟩ := hattempted a ha
  have hlevels := Nat.le_trans (Rule.levels_le_levelsOfAll ahead hmem) hn
  rw [h rule start ahead hs hahead hlevels]
  exact Bool.false_ne_true

/-- **An estimate that holds is enough**: with as many levels as it computes
for a rule and the tokens ahead, nothing is cut off. -/
theorem depthExceeded_eq_false_of_levels_le (he : e.Holds g)
    (tokens : List Token) (n : Nat) : Suffices g e tokens n := by
  induction n with
  | zero =>
    intro rule start ahead _ _ hn
    have := rule.levels_pos (e := e) ahead
    omega
  | succ n ih =>
    intro rule start ahead hs hahead hn
    cases rule with
    | literal tag pattern => rfl
    | sequence tag rules =>
      exact ih.inOrder he hs hahead (Nat.le_of_succ_le_succ hn)
    | alternation tag rules =>
      simp only [evaluate, depthExceeded_ofChoice]
      exact ih.attempts hs hahead (Nat.le_of_succ_le_succ hn)
        (chooses_furthest _ rules start).attempted
    | exclusive tag rules =>
      simp only [evaluate, depthExceeded_ofChoice]
      exact ih.attempts hs hahead (Nat.le_of_succ_le_succ hn)
        (chooses_first _ rules start).attempted
    | empty tag => rfl
    | reference tag target lazy =>
      simp only [evaluate]
      cases hget : g.get? target with
      | none => rfl
      | some found =>
        -- the rule may be any of the grammar's: only here the estimate is used
        have hfound := he.levels_le hget ahead
        exact ih found start ahead hs hahead
          (Nat.le_trans hfound (Nat.le_of_succ_le_succ hn))

/-! ## Running out of levels

A flag is passed on to the rules above, by an attempt also if it is not the
one that is chosen. -/

section Flags

variable {n start : Nat} {tag : Tag} {rule : Rule} {rules : List Rule}

theorem depthExceeded_of_head
    (h : (evaluate g tokens n rule start).depthExceeded = true) :
    (evaluate g tokens (n + 1) (.sequence tag (rule :: rules))
      start).depthExceeded = true := by
  simp only [evaluate, Record.ofSequence, inOrder]
  split <;> simp [h]

/-- What is flagged as a sequence of its own is flagged after a match. -/
theorem depthExceeded_of_tail
    (hm : (evaluate g tokens n rule start).matched = true)
    (h : (evaluate g tokens (n + 1) (.sequence .blank rules)
      (evaluate g tokens n rule start).stop).depthExceeded = true) :
    (evaluate g tokens (n + 1) (.sequence tag (rule :: rules))
      start).depthExceeded = true := by
  simp only [evaluate, Record.ofSequence, inOrder, hm, if_true,
    List.any_cons] at h ⊢
  rw [h, Bool.or_true]

theorem depthExceeded_of_attempt (hmem : rule ∈ rules)
    (h : (evaluate g tokens n rule start).depthExceeded = true) :
    (evaluate g tokens (n + 1) (.alternation tag rules) start).depthExceeded =
      true := by
  simp only [evaluate, depthExceeded_ofChoice, List.any_map, List.any_eq_true]
  exact ⟨rule, hmem, h⟩

theorem depthExceeded_of_target {name : String} {lazy : Bool}
    (hget : g.get? name = some rule)
    (h : (evaluate g tokens n rule start).depthExceeded = true) :
    (evaluate g tokens (n + 1) (.reference tag name lazy) start).depthExceeded =
      true := by
  simp only [evaluate, hget, h]

end Flags

end Evaluation

end SceneSelector
