import SceneSelector.Proofs.Congruence
import SceneSelector.Proofs.Descent.Outcome
import SceneSelector.Proofs.MatchedTokens
import SceneSelector.Proofs.Visits

/-!
# One token of lookahead

An alternation tries all its rules and keeps the match that reaches furthest;
an exclusive alternation tries them in order and keeps the first match. Where
the next token leaves no more than one rule that can match, the two keep the
same one. `Grammar.lookahead` lists the kinds of the tokens that a match of a
rule may begin with, and a grammar is `Predictive` if these lists are apart
wherever there is a choice. The empty rule is no choice, as long as it stands
last: it never reaches further than the match before it.

The selector grammar is predictive (`predictive_selector`), so making all its
alternations exclusive (`Grammar.firstMatch`) has no effect on what it matches
and on the query that is read back. That is shown for every rule and every
budget at once, since an alternative that is no longer tried leaves no trace in
what the rules around it go by (`mirrors_firstMatch`). The depth flag is the
exception: it counts what was tried, and it has no part in the comparison.
-/

namespace SceneSelector

/-! ## First match for all alternations -/

namespace Rule

mutual

/-- The rule with every alternation in it made exclusive. -/
def firstMatch : Rule → Rule
  | literal t p => literal t p
  | sequence t rs => sequence t (firstMatchAll rs)
  | alternation t rs => exclusive t (firstMatchAll rs)
  | exclusive t rs => exclusive t (firstMatchAll rs)
  | empty t => empty t
  | reference t target lazy => reference t target lazy

def firstMatchAll : List Rule → List Rule
  | [] => []
  | r :: rs => firstMatch r :: firstMatchAll rs

end

theorem firstMatchAll_eq_map (rs : List Rule) :
    firstMatchAll rs = rs.map firstMatch := by
  induction rs with
  | nil => rfl
  | cons r rs ih => rw [firstMatchAll, ih, List.map_cons]

theorem name_firstMatch (r : Rule) : r.firstMatch.name = r.name := by
  cases r <;> rfl

/-- The rules that an alternation of either sort has to choose from. -/
def alternatives : Rule → List Rule
  | alternation _ rs | exclusive _ rs => rs
  | literal _ _ | sequence _ _ | empty _ | reference _ _ _ => []

end Rule

namespace Grammar

/-- The grammar with every alternation made exclusive. -/
def firstMatch (g : Grammar) : Grammar :=
  ⟨g.rules.map Rule.firstMatch, g.root.firstMatch⟩

theorem get?_firstMatch (g : Grammar) (name : String) :
    g.firstMatch.get? name = (g.get? name).map Rule.firstMatch := by
  simp only [get?, lookup, firstMatch, List.find?_map, Function.comp_def,
    Rule.name_firstMatch]

end Grammar

/-! ## What a match may begin with -/

/-- All kinds of tokens. -/
def Kind.all : List Kind :=
  [.identifier, .digits, .string, .star, .hash, .dot, .colon, .comma, .equals,
    .greater, .openParen, .closeParen, .openBracket, .closeBracket, .unknown,
    .endOfInput]

theorem Kind.mem_all (k : Kind) : k ∈ all := by
  cases k <;> decide

namespace Grammar

/-- The kinds of the tokens that may stand where a match of the rule begins.
It is all kinds where a match may be empty, and also below `depth` levels of
rules, where nothing more is looked up. -/
def lookahead (g : Grammar) : (depth : Nat) → Rule → List Kind
  | 0, _ => Kind.all
  | depth + 1, rule =>
    match rule with
    | .literal _ pattern => [pattern.kind]
    | .sequence _ [] => Kind.all
    | .sequence _ (first :: _) => g.lookahead depth first
    | .alternation _ rules | .exclusive _ rules =>
      rules.flatMap (g.lookahead depth)
    | .empty _ => Kind.all
    | .reference _ target _ =>
      match g.get? target with
      | some rule => g.lookahead depth rule
      | none => []

/-- No token can begin a match of both rules. -/
def Apart (g : Grammar) (depth : Nat) (rule rule' : Rule) : Prop :=
  ∀ k ∈ g.lookahead depth rule, k ∉ g.lookahead depth rule'

/-- One token is enough to choose at this node: any two of its alternatives
are apart, or the later one is empty. -/
def Decides (g : Grammar) (depth : Nat) (node : Rule) : Prop :=
  node.alternatives.Pairwise fun rule rule' =>
    rule'.isEmpty = true ∨ g.Apart depth rule rule'

/-- One token is enough to choose at every node of the rule. -/
def PredictsIn (g : Grammar) (depth : Nat) (rule : Rule) : Prop :=
  ∀ node ∈ rule.walk, g.Decides depth node

/-- One token is enough to choose everywhere. -/
def Predictive (g : Grammar) (depth : Nat) : Prop :=
  ∀ rule ∈ g.rules, g.PredictsIn depth rule

section

variable (g : Grammar) (depth : Nat)

instance (rule rule' : Rule) : Decidable (g.Apart depth rule rule') := by
  unfold Apart
  infer_instance

instance (node : Rule) : Decidable (g.Decides depth node) := by
  unfold Decides
  infer_instance

instance (rule : Rule) : Decidable (g.PredictsIn depth rule) := by
  unfold PredictsIn
  infer_instance

instance : Decidable (g.Predictive depth) := by
  unfold Predictive
  infer_instance

end

/-- Six levels of rules are enough to tell all alternatives apart. -/
theorem predictive_selector : selector.Predictive 6 := by
  decide

variable {g : Grammar} {depth : Nat} {rule : Rule}

theorem PredictsIn.decides (h : g.PredictsIn depth rule) :
    g.Decides depth rule :=
  h rule (Rule.mem_walk.mpr (.inl rfl))

theorem PredictsIn.child (h : g.PredictsIn depth rule) {child : Rule}
    (hmem : child ∈ rule.children) : g.PredictsIn depth child :=
  fun node hnode => h node (Rule.mem_walk.mpr (.inr ⟨child, hmem, hnode⟩))

theorem Reaches.decides {node : Rule} (h : g.Reaches rule node)
    (hg : g.Predictive depth) (hrule : g.PredictsIn depth rule) :
    g.Decides depth node :=
  PredictsIn.decides (h.forall_mem_walk hg hrule)

end Grammar

namespace Evaluation

variable {g : Grammar} {tokens : List Token}

theorem Matches.le {rule : Rule} {start stop : Nat} {ts : List Token}
    (h : Matches g tokens rule start ts stop) : start ≤ stop := by
  induction h with
  | literal reads _ =>
    cases reads with
    | token _ => exact Nat.le_succ _
    | atEnd _ => exact Nat.le_refl _
  | nil | empty => exact Nat.le_refl _
  | cons _ _ ihhead ihtail => exact Nat.le_trans ihhead ihtail
  | alternation _ _ ih | exclusive _ _ ih | reference _ _ ih => exact ih

/-- **The lookahead misses nothing**: where a rule matches, the next token has
one of the kinds that it lists, to whatever depth it was made. -/
theorem Matches.kind_mem_lookahead {rule : Rule} {start stop : Nat}
    {ts : List Token} (h : Matches g tokens rule start ts stop)
    (depth : Nat) : (Buffer.read tokens start).kind ∈ g.lookahead depth rule := by
  induction depth generalizing rule ts stop with
  | zero => exact Kind.mem_all _
  | succ depth ih =>
    cases h with
    | literal reads fits =>
      obtain ⟨rfl, -⟩ := reads_iff.mp reads
      exact List.mem_singleton.mpr ((Pattern.accepts_iff _ _).mp fits).1
    | nil | empty => exact Kind.mem_all _
    | cons head _ => exact ih head
    | alternation mem some | exclusive mem some =>
      exact List.mem_flatMap.mpr ⟨_, mem, ih some⟩
    | reference get rest =>
      simp only [Grammar.lookahead, get]
      exact ih rest

/-- A query begins with its target or with the sigil of a selector. -/
example : Grammar.selector.lookahead 8 Grammar.queryRule =
    [.identifier, .star, .hash, .dot] := by
  decide

/-! ## Choosing by the next token -/

/-- If no match is followed by one that reaches further, the furthest is the
first. -/
theorem furthest_eq_find? {rs : List Record}
    (h : rs.Pairwise fun r r' =>
      r.matched = true → r'.matched = true → r'.stop ≤ r.stop) :
    furthest rs = rs.find? Record.matched := by
  induction rs with
  | nil => rfl
  | cons r rs ih =>
    obtain ⟨hhead, htail⟩ := List.pairwise_cons.mp h
    rw [furthest, ih htail, List.find?_cons]
    cases hm : r.matched with
    | false => rfl
    | true =>
      cases hbest : rs.find? Record.matched with
      | none => rfl
      | some best =>
        have hle : best.stop ≤ r.stop :=
          hhead best (List.mem_of_find?_eq_some hbest) hm
            (List.find?_some hbest)
        simp only [if_true, if_neg (Nat.not_lt.mpr hle)]

/-- Whether the rules after the first match are tried does not show in what
that match is. -/
theorem find?_matched_untilMatch (f : Rule → Nat → Record) (start : Nat)
    (rules : List Rule) :
    (untilMatch f start rules).find? Record.matched =
      (rules.map (f · start)).find? Record.matched := by
  induction rules with
  | nil => rfl
  | cons rule rules ih =>
    rw [untilMatch, List.map_cons, List.find?_cons]
    cases hm : (f rule start).matched with
    | true => simp only [if_true, List.find?_cons, hm]
    | false => simp only [Bool.false_eq_true, if_false, List.find?_cons, hm, ih]

section

variable {depth n start : Nat}

theorem not_matched_of_apart {rule rule' : Rule}
    (h : g.Apart depth rule rule')
    (hm : (evaluate g tokens n rule start).matched = true) :
    (evaluate g tokens n rule' start).matched = false := by
  refine Bool.eq_false_iff.mpr fun hm' => ?_
  exact h _ ((matches_evaluate hm).kind_mem_lookahead depth)
    ((matches_evaluate hm').kind_mem_lookahead depth)

theorem stop_of_isEmpty {rule : Rule} (h : rule.isEmpty = true) :
    (evaluate g tokens n rule start).stop = start := by
  cases rule with
  | empty tag => cases n <;> rfl
  | _ => cases h

/-- Where one token is enough to choose, an alternation chooses the first
match. -/
theorem furthest_of_decides {node : Rule} (h : g.Decides depth node) :
    furthest (node.alternatives.map (evaluate g tokens n · start)) =
      (node.alternatives.map (evaluate g tokens n · start)).find?
        Record.matched := by
  apply furthest_eq_find?
  rw [List.pairwise_map]
  refine h.imp fun {rule rule'} hpair hm hm' => ?_
  rcases hpair with hempty | hapart
  · rw [stop_of_isEmpty hempty]
    exact (matches_evaluate hm).le
  · rw [not_matched_of_apart hapart hm] at hm'
    cases hm'

/-- The alternatives that match at a position under a budget, without the empty
rule. -/
def contenders (g : Grammar) (tokens : List Token) (n : Nat) (node : Rule)
    (start : Nat) : List Rule :=
  node.alternatives.filter fun rule =>
    !rule.isEmpty && (evaluate g tokens n rule start).matched

/-- Where one token is enough to choose, there is no more than one of them. -/
theorem length_contenders_le_one {node : Rule} (h : g.Decides depth node) :
    (contenders g tokens n node start).length ≤ 1 := by
  have hnone :
      (contenders g tokens n node start).Pairwise fun _ _ => False := by
    rw [contenders, List.pairwise_filter]
    refine h.imp fun {rule rule'} hpair hrule hrule' => ?_
    simp only [Bool.and_eq_true, Bool.not_eq_true'] at hrule hrule'
    rcases hpair with hempty | hapart
    · rw [hempty] at hrule'
      cases hrule'.1
    · rw [not_matched_of_apart hapart hrule.2] at hrule'
      cases hrule'.2
  generalize contenders g tokens n node start = rules at hnone
  match rules, hnone with
  | [], _ => exact Nat.zero_le 1
  | [_], _ => exact Nat.le_refl 1
  | _ :: _ :: _, .cons h _ => exact (h _ List.mem_cons_self).elim

end

end Evaluation

/-! ## The two policies side by side -/

/-- What the rules around a record go by, and what reading back does. -/
structure Gist where
  matched : Bool
  stop : Nat
  item : Outline
deriving DecidableEq, Repr

namespace Record

def gist (r : Record) : Gist :=
  ⟨r.matched, r.stop, r.outlineItem⟩

theorem gist_eq_iff {r r' : Record} :
    r'.gist = r.gist ↔ r'.matched = r.matched ∧ r'.stop = r.stop ∧
      r'.outlineItem = r.outlineItem := by
  simp [gist]

theorem outlineAll_eq_of_map {rs rs' : List Record}
    (h : rs'.map outlineItem = rs.map outlineItem) :
    outlineAll rs' = outlineAll rs := by
  induction rs generalizing rs' with
  | nil =>
    obtain rfl := List.map_eq_nil_iff.mp h
    rfl
  | cons r rs ih =>
    obtain ⟨r', rs', rfl, hhead, htail⟩ := List.map_eq_cons_iff.mp h
    rw [outlineAll, outlineAll, hhead, ih htail]

/-- A record without a token is outlined by the name of its rule and what is
below it. -/
theorem outlineItem_congr {r r' : Record} (hmatched : r'.matched = r.matched)
    (hname : r'.name = r.name) (htoken : r.token = none)
    (htoken' : r'.token = none)
    (hchildren : outlineAll r'.children = outlineAll r.children) :
    r'.outlineItem = r.outlineItem := by
  obtain ⟨rule, start, stop, matched, token, children, flag⟩ := r
  obtain ⟨rule', start', stop', matched', token', children', flag'⟩ := r'
  simp only [name] at hmatched hname htoken htoken' hchildren
  simp only [outlineItem, hmatched, hname, htoken, htoken', hchildren]

end Record

namespace Evaluation

open Record

theorem guiding_gist : Guiding gist :=
  fun _ _ h => ⟨congrArg Gist.matched h, congrArg Gist.stop h⟩

theorem outlineAll_of_alike {rs rs' : List Record}
    (h : List.Forall₂ (Alike gist) rs rs') :
    outlineAll rs' = outlineAll rs :=
  outlineAll_eq_of_map
    (map_eq_of_alike (h.imp fun _ _ hlook => congrArg Gist.item hlook))

section

variable {rule rule' : Rule} (hname : rule'.name = rule.name) {start : Nat}

include hname

theorem alike_gist_ofSequence {parts parts' : List Record}
    (h : List.Forall₂ (Alike gist) parts parts') :
    Alike gist (ofSequence rule start parts)
      (ofSequence rule' start parts') := by
  have hmatched := guiding_gist.all_matched h
  have hstop := congrArg (·.getD start) (guiding_gist.stop_getLast? h)
  refine gist_eq_iff.mpr ⟨hmatched, hstop, ?_⟩
  exact outlineItem_congr hmatched hname rfl rfl (outlineAll_of_alike h)

/-- What was tried beside the choice does not matter. -/
theorem alike_gist_ofChoice {attempts attempts' : List Record}
    {choice choice' : Option Record}
    (h : Option.Rel (Alike gist) choice choice') :
    Alike gist (ofChoice rule start attempts choice)
      (ofChoice rule' start attempts' choice') := by
  cases h with
  | none => rfl
  | some hlook =>
    have hstop := guiding_gist.stop hlook
    refine gist_eq_iff.mpr ⟨rfl, hstop, ?_⟩
    exact outlineItem_congr rfl hname rfl rfl
      (outlineAll_of_alike (.cons hlook .nil))

end

theorem forall₂_firstMatchAll {g : Grammar} {depth : Nat} (rules : List Rule)
    (h : ∀ rule ∈ rules, g.PredictsIn depth rule) :
    List.Forall₂ (fun rule rule' => g.PredictsIn depth rule ∧
      rule' = rule.firstMatch) rules (Rule.firstMatchAll rules) := by
  rw [Rule.firstMatchAll_eq_map, List.forall₂_map_right_iff, List.forall₂_same]
  exact fun rule hmem => ⟨h rule hmem, rfl⟩

/-- **With one token of lookahead the policies agree**, for every rule, at
every position and under every budget: made exclusive, a rule matches where it
did, stops where it did, and is outlined as it was. -/
theorem mirrors_firstMatch {g : Grammar} {depth : Nat}
    (hg : g.Predictive depth) (tokens : List Token) (n : Nat) :
    Mirrors
      (fun rule rule' => g.PredictsIn depth rule ∧ rule' = rule.firstMatch)
      (fun _ => True) gist (evaluate g tokens n)
      (evaluate g.firstMatch tokens n) := by
  induction n with
  | zero => exact fun _ _ _ _ _ => rfl
  | succ n ih =>
    rintro rule _ start ⟨hrule, rfl⟩ -
    cases rule with
    | literal tag pattern => rfl
    | sequence tag rules =>
      have hparts := ih.inOrder guiding_gist
        (forall₂_firstMatchAll rules fun _ => hrule.child) start fun _ _ => trivial
      simp only [Rule.firstMatch, evaluate]
      exact alike_gist_ofSequence rfl hparts
    | alternation tag rules =>
      have hattempts := ih.untilMatch guiding_gist
        (forall₂_firstMatchAll rules fun _ => hrule.child) start fun _ _ => trivial
      have hchoice := guiding_gist.find?_matched hattempts
      have hfurthest : furthest (rules.map (evaluate g tokens n · start)) =
          (rules.map (evaluate g tokens n · start)).find? Record.matched :=
        furthest_of_decides hrule.decides
      -- the alternatives that are no longer tried were not the choice
      rw [find?_matched_untilMatch, ← hfurthest] at hchoice
      simp only [Rule.firstMatch, evaluate]
      refine alike_gist_ofChoice ?_ hchoice
      rfl
    | exclusive tag rules =>
      have hattempts := ih.untilMatch guiding_gist
        (forall₂_firstMatchAll rules fun _ => hrule.child) start fun _ _ => trivial
      have hchoice := guiding_gist.find?_matched hattempts
      simp only [Rule.firstMatch, evaluate]
      refine alike_gist_ofChoice ?_ hchoice
      rfl
    | empty tag => rfl
    | reference tag target lazy =>
      simp only [Rule.firstMatch, evaluate, Grammar.get?_firstMatch]
      cases hget : g.get? target with
      | none => rfl
      | some found =>
        exact ih start ⟨hg found (Grammar.mem_of_get? hget), rfl⟩ trivial

end Evaluation

/-- Records of the rule `query` with one gist are read back alike. -/
theorem Query.ofRecord_of_gist {r r' : Record} (h : r'.gist = r.gist)
    (hname : r.name = some RuleName.query)
    (hname' : r'.name = some RuleName.query) (htoken : r.token = none)
    (htoken' : r'.token = none) : ofRecord r' = ofRecord r := by
  obtain ⟨hmatched, -, hitem⟩ := Record.gist_eq_iff.mp h
  rw [ofRecord, ofRecord, hmatched, if_pos hname, if_pos hname']
  split
  · next hm =>
    rw [Descent.outlineItem_of_named hm htoken hname,
      Descent.outlineItem_of_named (hmatched.trans hm) htoken' hname'] at hitem
    rw [(Outline.part.inj hitem).2.1]
  · rfl

namespace Matcher

/-- **Longest match and first match come to the same for queries.** Make every
alternation of the selector grammar exclusive, and the root matches the same
tokens under the same limit, stops at the same position, and is read back as
the same query or with the same error. For wherever an alternation is come to,
at most one of its alternatives matches but the empty one, however many levels
are left. -/
theorem parseTokens_firstMatch (d : Nat) (tokens : List Token) :
    let m := Matcher.selector d
    let o := m.parseTokens tokens
    let o' := (Matcher.mk m.grammar.firstMatch d).parseTokens tokens
    (o'.matched = o.matched ∧ o'.consumed = o.consumed ∧
      Query.ofRecord o'.record = Query.ofRecord o.record) ∧
    ∀ depth rule start, .entered depth rule start ∈
        m.visits m.grammar.root (.ofTokens tokens) →
      ∀ n, (Evaluation.contenders m.grammar tokens n rule start).length ≤ 1 := by
  intro m o o'
  have hroot : Grammar.selector.PredictsIn 6 Grammar.selector.root :=
    Grammar.predictive_selector _ (by decide)
  constructor
  · have hgist : o'.record.gist = o.record.gist :=
      Evaluation.mirrors_firstMatch Grammar.predictive_selector tokens (d + 1) 0
        ⟨hroot, rfl⟩ trivial
    obtain ⟨hmatched, hstop, -⟩ := Record.gist_eq_iff.mp hgist
    exact ⟨hmatched, hstop, Query.ofRecord_of_gist hgist rfl rfl rfl rfl⟩
  · intro depth rule start hvisit n
    have hreaches : Grammar.selector.Reaches Grammar.selector.root rule :=
      Evaluation.comesFrom_of_mem_visits hvisit
    exact Evaluation.length_contenders_le_one
      (hreaches.decides Grammar.predictive_selector hroot)

/-- In front of `#a > b` the first thing to choose is between a compound that
names its type and one that does not. -/
theorem parseTokens_firstMatch_at_link :
    let m := Matcher.selector 12
    let tokens := lex "#a > b"
    let o := m.parseTokens tokens
    let o' := (Matcher.mk m.grammar.firstMatch 12).parseTokens tokens
    let rule := Rule.alternation .blank
      [.referTo RuleName.typeIdQuery, .referTo RuleName.attrQuery]
    o.consumed = 4 ∧
    (o'.matched = o.matched ∧ o'.consumed = o.consumed ∧
      Query.ofRecord o'.record = Query.ofRecord o.record) ∧
    .entered 1 rule 0 ∈ m.visits m.grammar.root (.ofTokens tokens) ∧
    Evaluation.contenders m.grammar tokens 11 rule 0 =
      [.referTo RuleName.attrQuery] ∧
    (Evaluation.contenders m.grammar tokens 11 rule 0).length ≤ 1 := by
  intro m tokens o o' rule
  have hvisit : .entered 1 rule 0 ∈
      m.visits m.grammar.root (.ofTokens tokens) :=
    List.mem_cons_of_mem _ (List.mem_append_left _ List.mem_cons_self)
  have h := parseTokens_firstMatch 12 tokens
  exact ⟨by decide, h.1, hvisit, by decide, h.2 1 rule 0 hvisit 11⟩

end Matcher

end SceneSelector
