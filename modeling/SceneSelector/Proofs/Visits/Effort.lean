import SceneSelector.Proofs.Recognition
import SceneSelector.Proofs.Visits

/-!
# How many visits an evaluation takes

Where an evaluation goes on and what it tries is decided by the tokens ahead, so
they decide how many visits there are as well. `effort` counts them on these tokens
alone, and `length_visits` says that it is the length of `visits`, for every grammar
and every budget. What it comes to for the common rules is said below: a rule that
may be left out, for one, takes two visits more than that rule.
-/

namespace SceneSelector.Evaluation

/-! ## Counting visits -/

/-- The visits of rules that are tried one after the other. -/
def effortInOrder (attempt : Rule → List Token → Recognised)
    (effort : Rule → List Token → Nat) : List Rule → List Token → Nat
  | [], _ => 0
  | rule :: rules, ts =>
    effort rule ts +
      (attempt rule ts).elim 0 fun (_, ahead) =>
        effortInOrder attempt effort rules ahead

/-- The visits of rules that are all tried. -/
def effortOfAll (effort : Rule → List Token → Nat) (ts : List Token) :
    List Rule → Nat
  | [] => 0
  | rule :: rules => effort rule ts + effortOfAll effort ts rules

/-- The visits of rules that are tried up to the first that matches. -/
def effortUntilMatch (attempt : Rule → List Token → Recognised)
    (effort : Rule → List Token → Nat) (ts : List Token) : List Rule → Nat
  | [] => 0
  | rule :: rules =>
    effort rule ts +
      if (attempt rule ts).isSome then 0
      else effortUntilMatch attempt effort ts rules

/-- How many visits it takes to evaluate a rule on the tokens ahead, with `budget`
levels to nest. A rule beyond the limit counts as one, and so does a reference that
leads nowhere. -/
def effort (g : Grammar) : (budget : Nat) → Rule → List Token → Nat
  | 0, _, _ => 1
  | budget + 1, rule, ts =>
    match rule with
    | .literal _ _ | .empty _ => 1
    | .sequence _ rules =>
      effortInOrder (recognise g budget) (effort g budget) rules ts + 1
    | .alternation _ rules => effortOfAll (effort g budget) ts rules + 1
    | .exclusive _ rules =>
      effortUntilMatch (recognise g budget) (effort g budget) ts rules + 1
    | .reference _ target _ =>
      match g.get? target with
      | some rule => effort g budget rule ts + 1
      | none => 2

/-! ## Visits by position and by the tokens ahead -/

/-- `E` counts on the tokens ahead what is visited from a position. -/
def Counts (tokens : List Token) (visit : Rule → Nat → List Visit)
    (E : Rule → List Token → Nat) : Prop :=
  ∀ rule start, start ≤ tokens.length →
    (visit rule start).length = E rule (tokens.drop start)

section

variable {tokens : List Token} {attempt : Rule → Nat → Record}
  {F : Rule → List Token → Recognised} {visit : Rule → Nat → List Visit}
  {E : Rule → List Token → Nat}

theorem Counts.inOrder (h : Counts tokens visit E) (hF : Views tokens attempt F)
    (hattempt : Forward tokens.length attempt) (rules : List Rule) (start : Nat)
    (hs : start ≤ tokens.length) :
    (visitsInOrder attempt visit rules start).length =
      effortInOrder F E rules (tokens.drop start) := by
  induction rules generalizing start with
  | nil => rfl
  | cons rule rules ih =>
    rw [visitsInOrder, effortInOrder, List.length_append, h rule start hs,
      ← hF rule start hs, Record.recognised]
    split
    · rw [ih _ (hattempt rule start hs).2]
      rfl
    · rfl

theorem Counts.untilMatch (h : Counts tokens visit E) (hF : Views tokens attempt F)
    (rules : List Rule) (start : Nat) (hs : start ≤ tokens.length) :
    (visitsUntilMatch attempt visit start rules).length =
      effortUntilMatch F E (tokens.drop start) rules := by
  induction rules with
  | nil => rfl
  | cons rule rules ih =>
    rw [visitsUntilMatch, effortUntilMatch, List.length_append, h rule start hs,
      ← hF rule start hs, Record.recognised]
    split
    · rfl
    · rw [ih]
      rfl

theorem Counts.all (h : Counts tokens visit E) (rules : List Rule) (start : Nat)
    (hs : start ≤ tokens.length) :
    (rules.flatMap (visit · start)).length =
      effortOfAll E (tokens.drop start) rules := by
  induction rules with
  | nil => rfl
  | cons rule rules ih =>
    rw [List.flatMap_cons, effortOfAll, List.length_append, h rule start hs, ih]

end

/-- **The tokens ahead tell the number of visits**, however deep the evaluation has
already nested. -/
theorem length_visits (g : Grammar) (tokens : List Token) (budget depth : Nat) :
    Counts tokens (visits g tokens budget depth) (effort g budget) := by
  induction budget generalizing depth with
  | zero => exact fun _ _ _ => rfl
  | succ budget ih =>
    have hviews := recognised_evaluate g tokens budget
    have hforward := forward_evaluate g tokens budget
    intro rule start hs
    cases rule with
    | literal tag pattern => rfl
    | sequence tag rules =>
      exact congrArg (· + 1) ((ih _).inOrder hviews hforward rules start hs)
    | alternation tag rules => exact congrArg (· + 1) ((ih _).all rules start hs)
    | exclusive tag rules =>
      exact congrArg (· + 1) ((ih _).untilMatch hviews rules start hs)
    | empty tag => rfl
    | reference tag target lazy =>
      simp only [visits, effort]
      cases g.get? target with
      | none => rfl
      | some found => exact congrArg (· + 1) (ih _ found start hs)

/-! ## Common rules -/

variable {g : Grammar} {F : Rule → List Token → Recognised}
  {E : Rule → List Token → Nat}

theorem effortInOrder_singleton (rule : Rule) (ts : List Token) :
    effortInOrder F E [rule] ts = E rule ts := by
  rw [effortInOrder]
  cases F rule ts <;> rfl

/-- Rules that are not all tried take no more than all of them would. -/
theorem effortInOrder_cons_le {rule : Rule} {rules : List Rule} {k m : Nat}
    (hrule : ∀ ts, E rule ts ≤ k) (hrules : ∀ ts, effortInOrder F E rules ts ≤ m)
    (ts : List Token) : effortInOrder F E (rule :: rules) ts ≤ k + m := by
  rw [effortInOrder]
  cases F rule ts with
  | none => exact Nat.add_le_add (hrule ts) (Nat.zero_le m)
  | some r => exact Nat.add_le_add (hrule ts) (hrules r.2)

/-- A rule that always fails is the last one that is tried. -/
theorem effortInOrder_cons_of_fails {rule : Rule} (h : ∀ ts, F rule ts = none)
    (rules : List Rule) (ts : List Token) :
    effortInOrder F E (rule :: rules) ts = E rule ts := by
  rw [effortInOrder, h]
  rfl

theorem effort_sequence (budget : Nat) (tag : Tag) (rules : List Rule)
    (ts : List Token) :
    effort g (budget + 1) (.sequence tag rules) ts =
      effortInOrder (recognise g budget) (effort g budget) rules ts + 1 :=
  rfl

theorem effort_ofPattern (budget : Nat) (p : Pattern) (ts : List Token) :
    effort g budget (.ofPattern p) ts = 1 := by
  cases budget <;> rfl

theorem effort_optional (budget : Nat) (rule : Rule) (ts : List Token) :
    effort g (budget + 1) (.optional rule) ts = effort g budget rule ts + 2 := by
  have hempty : effort g budget (.empty .blank) ts = 1 := by cases budget <;> rfl
  rw [Rule.optional, effort, effortOfAll, effortOfAll, effortOfAll, hempty]

theorem effort_referTo {name : String} {rule : Rule} (hg : g.get? name = some rule)
    (budget : Nat) (ts : List Token) :
    effort g (budget + 1) (.referTo name) ts = effort g budget rule ts + 1 := by
  simp only [Rule.referTo, effort, hg]

theorem effort_referBackTo {name : String} {rule : Rule}
    (hg : g.get? name = some rule) (budget : Nat) (ts : List Token) :
    effort g (budget + 1) (.referBackTo name) ts = effort g budget rule ts + 1 := by
  simp only [Rule.referBackTo, effort, hg]

theorem effort_alternation_ofPattern (budget : Nat) (tag : Tag) (ps : List Pattern)
    (ts : List Token) :
    effort g (budget + 1) (.alternation tag (ps.map .ofPattern)) ts =
      ps.length + 1 := by
  rw [effort]
  refine congrArg (· + 1) ?_
  induction ps with
  | nil => rfl
  | cons p ps ih =>
    rw [List.map_cons, effortOfAll, effort_ofPattern, ih, List.length_cons,
      Nat.add_comm]

theorem effort_exclusive_ofPattern_le (budget : Nat) (tag : Tag) (ps : List Pattern)
    (ts : List Token) :
    effort g budget (.exclusive tag (ps.map .ofPattern)) ts ≤ ps.length + 1 := by
  cases budget with
  | zero => exact Nat.le_add_left _ _
  | succ budget =>
    rw [effort]
    refine Nat.succ_le_succ ?_
    induction ps with
    | nil => exact Nat.le_refl _
    | cons p ps ih =>
      rw [List.map_cons, effortUntilMatch, effort_ofPattern, List.length_cons]
      split <;> omega

end SceneSelector.Evaluation
