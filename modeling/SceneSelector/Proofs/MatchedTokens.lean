import SceneSelector.Proofs.Derivation
import SceneSelector.Proofs.Policies
import SceneSelector.Proofs.Shape

/-!
# What a match accounts for

A record says twice what it has matched: by the positions it lies between, and
by the tokens that its literals have kept. `Matches` relates a rule to both,
with no strategy and no limit: a rule matches `ts` between `start` and `stop`.
Every match of an evaluation is one in this sense (`matches_evaluate`), be it
flagged or not, and what a rule matches it derives (`Matches.derives`).

The two accounts agree, unless a literal asks for the sentinel after the last
token, which it can match without moving on. Where no literal does, a match
has kept exactly the tokens between its positions (`Matches.covers`), and so
these are derivable from its rule.
-/

namespace SceneSelector

/-! ## Literals that ask for the sentinel -/

namespace Rule

def pattern? : Rule → Option Pattern
  | literal _ pattern => some pattern
  | _ => none

/-- No literal of the rule asks for the sentinel after the last token. -/
def SentinelFree (rule : Rule) : Prop :=
  ∀ node ∈ rule.walk, ∀ p ∈ node.pattern?, p.kind ≠ .endOfInput

instance (rule : Rule) : Decidable rule.SentinelFree := by
  unfold SentinelFree
  infer_instance

theorem sentinelFree_iff {rule : Rule} :
    rule.SentinelFree ↔ (∀ p ∈ rule.pattern?, p.kind ≠ .endOfInput) ∧
      ∀ child ∈ rule.children, child.SentinelFree := by
  simp only [SentinelFree, walk_eq rule, List.forall_mem_cons, mem_walkAll]
  grind

theorem SentinelFree.child {rule child : Rule} (h : rule.SentinelFree)
    (hmem : child ∈ rule.children) : child.SentinelFree :=
  (sentinelFree_iff.mp h).2 child hmem

theorem sentinelFree_sequence {tag : Tag} {rules : List Rule} :
    (sequence tag rules).SentinelFree ↔ ∀ rule ∈ rules, rule.SentinelFree := by
  rw [sentinelFree_iff]
  exact and_iff_right nofun

end Rule

/-- No literal of the grammar asks for the sentinel. -/
def Grammar.SentinelFree (g : Grammar) : Prop :=
  ∀ rule ∈ g.rules, rule.SentinelFree

instance (g : Grammar) : Decidable g.SentinelFree := by
  unfold Grammar.SentinelFree
  infer_instance

theorem Grammar.SentinelFree.get {g : Grammar} (h : g.SentinelFree)
    {name : String} {rule : Rule} (hget : g.get? name = some rule) :
    rule.SentinelFree :=
  h rule (mem_of_get? hget)

theorem Grammar.Reaches.sentinelFree {g : Grammar} (hg : g.SentinelFree)
    {rule rule' : Rule} (h : g.Reaches rule rule') (hrule : rule.SentinelFree) :
    rule'.SentinelFree :=
  h.forall_mem_walk hg hrule

/-! ## Matching without a strategy -/

namespace Evaluation

/-- Between `start` and `stop`, a rule can be read as matching the tokens
`ts`, whatever other ways there are. -/
inductive Matches (g : Grammar) (tokens : List Token) :
    Rule → Nat → List Token → Nat → Prop where
  | literal {tag : Tag} {pattern : Pattern} {start stop : Nat} {t : Token}
      (reads : Reads tokens start t stop) (fits : pattern.accepts t = true) :
      Matches g tokens (.literal tag pattern) start [t] stop
  | nil {tag : Tag} {start : Nat} :
      Matches g tokens (.sequence tag []) start [] start
  | cons {tag : Tag} {rule : Rule} {rules : List Rule} {start mid stop : Nat}
      {ts ts' : List Token} (head : Matches g tokens rule start ts mid)
      (tail : Matches g tokens (.sequence tag rules) mid ts' stop) :
      Matches g tokens (.sequence tag (rule :: rules)) start (ts ++ ts') stop
  | alternation {tag : Tag} {rule : Rule} {rules : List Rule}
      {start stop : Nat} {ts : List Token} (mem : rule ∈ rules)
      (some : Matches g tokens rule start ts stop) :
      Matches g tokens (.alternation tag rules) start ts stop
  | exclusive {tag : Tag} {rule : Rule} {rules : List Rule}
      {start stop : Nat} {ts : List Token} (mem : rule ∈ rules)
      (some : Matches g tokens rule start ts stop) :
      Matches g tokens (.exclusive tag rules) start ts stop
  | empty {tag : Tag} {start : Nat} :
      Matches g tokens (.empty tag) start [] start
  | reference {tag : Tag} {target : String} {lazy : Bool} {rule : Rule}
      {start stop : Nat} {ts : List Token} (get : g.get? target = some rule)
      (rest : Matches g tokens rule start ts stop) :
      Matches g tokens (.reference tag target lazy) start ts stop

end Evaluation

open Evaluation

theorem Record.matchedTokens_eq {r : Record} (h : r.matched = true) :
    r.matchedTokens = r.token.toList ++ matchedTokensAll r.children := by
  obtain ⟨rule, start, stop, matched, token, children, flag⟩ := r
  obtain rfl : matched = true := h
  rfl

namespace Evaluation

variable {g : Grammar} {tokens : List Token}

/-- What an alternation of either sort matches, one of its rules does. -/
theorem Chooses.exists_of_matched {f : Rule → Nat → Record}
    {rules : List Rule} {start : Nat} {attempts : List Record}
    {choice : Option Record} (h : Chooses f rules start attempts choice)
    {rule : Rule}
    (hm : (Record.ofChoice rule start attempts choice).matched = true) :
    ∃ child ∈ rules, (f child start).matched = true ∧
      (Record.ofChoice rule start attempts choice).matchedTokens =
        (f child start).matchedTokens ∧
      (Record.ofChoice rule start attempts choice).stop =
        (f child start).stop := by
  cases choice with
  | none => cases hm
  | some c =>
    obtain ⟨hmem, hc⟩ := h.chosen c rfl
    obtain ⟨child, hchild, rfl⟩ := h.attempted c hmem
    refine ⟨child, hchild, hc, ?_, rfl⟩
    rw [Record.matchedTokens_eq hm]
    simp [Record.ofChoice, Record.matchedTokensAll]

/-- The match of a sequence is made of those of its rules. -/
theorem matches_inOrder {f : Rule → Nat → Record} (tag : Tag)
    (h : ∀ rule start, (f rule start).matched = true →
      Matches g tokens rule start (f rule start).matchedTokens
        (f rule start).stop)
    {rules : List Rule} {start : Nat}
    (hm : (inOrder f rules start).all Record.matched = true) :
    Matches g tokens (.sequence tag rules) start
      (Record.matchedTokensAll (inOrder f rules start))
      (stopAfter start (inOrder f rules start)) := by
  induction rules generalizing start with
  | nil => exact .nil
  | cons rule rules ih =>
    simp only [inOrder] at hm ⊢
    split at hm
    · next hrule =>
      rw [List.all_cons, Bool.and_eq_true] at hm
      rw [if_pos hrule, stopAfter_cons]
      exact .cons (h rule start hrule) (ih hm.2)
    · next hrule => simp [hrule] at hm

/-- **Every match of an evaluation is a match of the rule**, of the tokens that
were kept and up to where the record stops. -/
theorem matches_evaluate {n : Nat} {rule : Rule} {start : Nat}
    (hm : (evaluate g tokens n rule start).matched = true) :
    Matches g tokens rule start (evaluate g tokens n rule start).matchedTokens
      (evaluate g tokens n rule start).stop := by
  induction n generalizing rule start with
  | zero => cases hm
  | succ n ih =>
    cases rule with
    | literal tag pattern =>
      cases hp : pattern.accepts (Buffer.read tokens start) with
      | false =>
        rw [evaluate_literal_of_not_accepts hp] at hm
        cases hm
      | true =>
        rw [evaluate_literal_of_accepts hp]
        exact .literal (reads_iff.mpr ⟨rfl, rfl⟩) hp
    | sequence tag rules =>
      rw [Record.matchedTokens_eq hm]
      exact matches_inOrder tag (fun _ _ => ih) hm
    | alternation tag rules =>
      obtain ⟨child, hmem, hc, htokens, hstop⟩ :=
        (chooses_furthest _ rules start).exists_of_matched hm
      simp only [evaluate, htokens, hstop]
      exact .alternation hmem (ih hc)
    | exclusive tag rules =>
      obtain ⟨child, hmem, hc, htokens, hstop⟩ :=
        (chooses_first _ rules start).exists_of_matched hm
      simp only [evaluate, htokens, hstop]
      exact .exclusive hmem (ih hc)
    | empty tag => exact .empty
    | reference tag target lazy =>
      simp only [evaluate] at hm ⊢
      cases hget : g.get? target with
      | none =>
        rw [hget] at hm
        cases hm
      | some found =>
        rw [hget] at hm
        exact .reference hget (ih hm)

/-- What a rule matches it derives. -/
theorem Matches.derives {rule : Rule} {start stop : Nat} {ts : List Token}
    (h : Matches g tokens rule start ts stop) : Derives g rule ts := by
  induction h with
  | literal _ fits => exact .literal fits
  | nil => exact .nil
  | cons _ _ ihhead ihtail => exact .cons ihhead ihtail
  | alternation mem _ ih => exact .alternation mem ih
  | exclusive mem _ ih => exact .exclusive mem ih
  | empty => exact .empty
  | reference get _ ih => exact .reference get ih

/-! ## The tokens between two positions -/

/-- `ts` are the tokens from `start` up to `stop`, all of them there. -/
structure Covers (tokens : List Token) (start : Nat) (ts : List Token)
    (stop : Nat) : Prop where
  stop_eq : stop = start + ts.length
  isAhead : ts <+: tokens.drop start

namespace Covers

variable {start mid stop : Nat} {ts ts' : List Token}

theorem nil (tokens : List Token) (start : Nat) :
    Covers tokens start [] start :=
  ⟨rfl, List.nil_prefix⟩

theorem singleton {t : Token} (h : tokens[start]? = some t) :
    Covers tokens start [t] (start + 1) := by
  obtain ⟨hlt, rfl⟩ := List.getElem?_eq_some_iff.mp h
  refine ⟨rfl, ?_⟩
  rw [List.drop_eq_getElem_cons hlt]
  exact ⟨_, rfl⟩

theorem append (h : Covers tokens start ts mid)
    (h' : Covers tokens mid ts' stop) :
    Covers tokens start (ts ++ ts') stop := by
  obtain ⟨rfl, rest, hrest⟩ := h
  obtain ⟨rfl, hahead⟩ := h'
  refine ⟨by rw [List.length_append, Nat.add_assoc], ?_⟩
  rw [← List.drop_drop, ← hrest, List.drop_left] at hahead
  rw [← hrest]
  exact (List.prefix_append_right_inj ts).mpr hahead

theorem eq_extract (h : Covers tokens start ts stop) :
    ts = tokens.extract start stop := by
  obtain ⟨rfl, hahead⟩ := h
  rw [List.extract_eq_take_drop, Nat.add_sub_cancel_left]
  exact List.prefix_iff_eq_take.mp hahead

theorem length_eq (h : Covers tokens start ts stop) :
    ts.length = stop - start := by
  rw [h.stop_eq, Nat.add_sub_cancel_left]

end Covers

/-- Only the sentinel is read without moving on. -/
theorem Matches.covers (hg : g.SentinelFree) {rule : Rule} {start stop : Nat}
    {ts : List Token} (h : Matches g tokens rule start ts stop)
    (hrule : rule.SentinelFree) : Covers tokens start ts stop := by
  induction h with
  | @literal _ pattern _ _ _ reads fits =>
    cases reads with
    | token get => exact .singleton get
    | atEnd get =>
      have hkind := ((Pattern.accepts_iff _ _).mp fits).1
      exact absurd hkind.symm ((Rule.sentinelFree_iff.mp hrule).1 pattern rfl)
  | nil => exact .nil tokens _
  | cons _ _ ihhead ihtail =>
    rw [Rule.sentinelFree_sequence, List.forall_mem_cons] at hrule
    exact (ihhead hrule.1).append (ihtail (Rule.sentinelFree_sequence.mpr hrule.2))
  | alternation mem _ ih => exact ih (hrule.child mem)
  | exclusive mem _ ih => exact ih (hrule.child mem)
  | empty => exact .nil tokens _
  | reference get _ ih => exact ih (hg.get get)

end Evaluation

namespace Matcher

variable {g : Grammar} {rule : Rule}

/-- **Matching is sound**, for every grammar that does not ask for the
sentinel and under every limit: the tokens that a match lies around are
derivable from its rule, also if the limit cut off some branch. -/
theorem derives_of_matched (hg : g.SentinelFree) (hrule : rule.SentinelFree)
    (d : Nat) (c : Cursor)
    (hm : ((Matcher.mk g d).evaluate rule c).matched = true) :
    Derives g rule (c.tokens.extract ((Matcher.mk g d).evaluate rule c).start
      ((Matcher.mk g d).evaluate rule c).stop) := by
  have hmatches : Matches g c.tokens rule c.position
      ((Matcher.mk g d).evaluate rule c).matchedTokens
      ((Matcher.mk g d).evaluate rule c).stop := matches_evaluate hm
  have hstart : ((Matcher.mk g d).evaluate rule c).start = c.position :=
    placed_evaluate g c.tokens _ rule c.position
  rw [hstart, ← (hmatches.covers hg hrule).eq_extract]
  exact hmatches.derives

/-- `list := (-> list ',' <identifier> | <identifier>)` -/
def listRule : Rule :=
  .alternation ⟨some "list", 0⟩
    [.sequence .blank
       [.referTo "list", Grammar.symbol .comma ",", .identifier],
     .identifier]

/-- The circle is cut off in its third round, just deep enough for three
identifiers. -/
theorem derives_of_matched_at_list :
    let g : Grammar := ⟨[listRule], listRule⟩
    let c := Cursor.ofTokens (lex "x,y,z")
    let r := (Matcher.mk g 7).evaluate listRule c
    g.SentinelFree ∧ listRule.SentinelFree ∧ r.matched = true ∧
    r.depthExceeded = true ∧ r.start = 0 ∧ r.stop = 5 ∧
    Derives g listRule (c.tokens.extract r.start r.stop) :=
  ⟨by decide, by decide, by decide, by decide, by decide, by decide,
    derives_of_matched (by decide) (by decide) 7 _ (by decide)⟩

/-- **A match accounts for exactly the tokens it spans**, wherever in the tree
it is, be it below a failure: its literals have kept the tokens between its
positions, in order, and as many as it has consumed. -/
theorem matchedTokens_of_mem_preorder (hg : g.SentinelFree)
    (hrule : rule.SentinelFree) (d : Nat) (c : Cursor) {r : Record}
    (hr : r ∈ ((Matcher.mk g d).evaluate rule c).preorder)
    (hm : r.matched = true) :
    r.matchedTokens = c.tokens.extract r.start r.stop ∧
      r.matchedTokens.length = r.consumed := by
  obtain ⟨budget, -, hmade, hreaches, -⟩ := exists_made_of_mem_preorder hr
  have hmatches : Matches g c.tokens r.rule r.start r.matchedTokens r.stop := by
    rw [hmade.outcome] at hm
    have h := matches_evaluate hm
    rwa [← hmade.outcome] at h
  have hcovers := hmatches.covers hg (hreaches.sentinelFree hg hrule)
  exact ⟨hcovers.eq_extract, hcovers.length_eq⟩

/-- No digits follow the list, so the sequence fails; the matches below it are
the list and what it consists of. -/
theorem matchedTokens_of_mem_preorder_at_list :
    let g : Grammar := ⟨[listRule], listRule⟩
    let rule : Rule := .sequence .blank [.referTo "list", .digits]
    let c := Cursor.ofTokens (lex "x,y")
    let root := (Matcher.mk g 6).evaluate rule c
    g.SentinelFree ∧ rule.SentinelFree ∧ root.matched = false ∧
    (root.preorder.filter Record.matched).map Record.consumed =
      [3, 3, 1, 1, 1, 1] ∧
    ∀ r ∈ root.preorder, r.matched = true →
      r.matchedTokens = c.tokens.extract r.start r.stop ∧
        r.matchedTokens.length = r.consumed :=
  ⟨by decide, by decide, by decide, by decide, fun _ hr hm =>
    matchedTokens_of_mem_preorder (by decide) (by decide) 6 _ hr hm⟩

end Matcher

end SceneSelector
