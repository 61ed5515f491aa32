import SceneSelector.Proofs.Budget
import SceneSelector.Proofs.Recognition

/-!
# The shape of records

What evaluation leaves is a tree of records, and all that is later read off
such a tree relies on its shape. `Record.Shaped` says what that shape is: one
clause for each sort of rule, one for records that the depth limit cut off, and
what all of them have in common.

A record does not only stand for a rule, it is what that rule comes to when it
is evaluated where the record starts, with the levels that were left there
(`Made`). This holds of every record of a tree (`exists_made_of_mem_preorder`),
so what is to hold of all records needs to be shown of whole evaluations only.
`Grammar.Reaches` keeps track of which rules the records of a tree can have.
-/

namespace SceneSelector

namespace Record

/-! ## The records of a tree -/

theorem preorder_eq (r : Record) : r.preorder = r :: preorderAll r.children := by
  cases r
  rfl

theorem mem_preorderAll {r : Record} {rs : List Record} :
    r ∈ preorderAll rs ↔ ∃ c ∈ rs, r ∈ c.preorder := by
  induction rs with
  | nil => simp [preorderAll]
  | cons c rs ih => simp [preorderAll, ih]

theorem mem_preorder {r root : Record} :
    r ∈ root.preorder ↔ r = root ∨ ∃ c ∈ root.children, r ∈ c.preorder := by
  rw [preorder_eq, List.mem_cons, mem_preorderAll]

/-! ## Shapes -/

/-- Nothing was read, nothing is kept, and matching stays where it was. -/
structure InPlace (r : Record) : Prop where
  children_eq : r.children = []
  token_eq : r.token = none
  stop_eq : r.stop = r.start

/-- Records in a row, from `start` to `stop`: each starts where the one before
it stopped. -/
def Contiguous : Nat → List Record → Nat → Prop
  | start, [], stop => stop = start
  | start, r :: rs, stop => r.start = start ∧ Contiguous r.stop rs stop

/-- A literal has read the token at its start, and keeps it if it fits. -/
structure LiteralShape (tokens : List Token) (pattern : Pattern) (r : Record) :
    Prop where
  children_eq : r.children = []
  isSome_token : r.token.isSome = r.matched
  token_scanned : ∀ t ∈ r.token,
    t = Buffer.read tokens r.start ∧ pattern.accepts t = true
  stop_eq : r.stop = Buffer.next tokens r.start
  depthExceeded_eq : r.depthExceeded = false

/-- The records of a sequence are those of its first rules, in order and up to
the first that did not match. `attempt` is what a rule comes to at a
position. -/
structure SequenceShape (attempt : Rule → Nat → Record) (rules : List Rule)
    (r : Record) : Prop where
  token_eq : r.token = none
  contiguous : Contiguous r.start r.children r.stop
  outcome : ∀ (i : Nat) (c : Record), r.children[i]? = some c →
    ∃ rule, rules[i]? = some rule ∧ c = attempt rule c.start
  matched_of_mem_dropLast : ∀ c ∈ r.children.dropLast, c.matched = true
  /-- Only a failure ends a sequence early. -/
  length_eq : (∀ c ∈ r.children, c.matched = true) →
    r.children.length = rules.length
  matched_iff : r.matched = true ↔
    r.children.length = rules.length ∧ ∀ c ∈ r.children, c.matched = true

/-- An alternation of either sort has the record of one of its rules, which
matched, or nothing at all. -/
structure ChoiceShape (attempt : Rule → Nat → Record) (rules : List Rule)
    (r : Record) : Prop where
  token_eq : r.token = none
  of_matched : r.matched = true → ∃ c, r.children = [c] ∧ c.matched = true ∧
    c.start = r.start ∧ c.stop = r.stop ∧ ∃ rule ∈ rules, c = attempt rule r.start
  of_not_matched : r.matched = false → r.InPlace

/-- What a record that was made with `budget` levels left looks like. With no
level left it was cut off; otherwise its rule decides. -/
def Fits (g : Grammar) (tokens : List Token) : Nat → Record → Prop
  | 0, r => r.InPlace ∧ r.matched = false ∧ r.depthExceeded = true
  | budget + 1, r =>
    match r.rule with
    | .literal _ pattern => r.LiteralShape tokens pattern
    | .sequence _ rules =>
      r.SequenceShape (Evaluation.evaluate g tokens budget) rules
    | .alternation _ rules | .exclusive _ rules =>
      r.ChoiceShape (Evaluation.evaluate g tokens budget) rules
    | .empty _ => r.InPlace ∧ r.matched = true ∧ r.depthExceeded = false
    | .reference _ target _ =>
      g.get? target = none ∧
        r.InPlace ∧ r.matched = false ∧ r.depthExceeded = false

/-- A record is what its rule comes to where it starts, it lies within the
buffer, and it has the shape that goes with its rule. -/
structure Shaped (g : Grammar) (tokens : List Token) (budget : Nat)
    (r : Record) : Prop where
  outcome : r = Evaluation.evaluate g tokens budget r.rule r.start
  start_le_stop : r.start ≤ r.stop
  stop_le_length : r.stop ≤ tokens.length
  fits : r.Fits g tokens budget
  /-- What the depth limit did to a child shows in the record as well. -/
  depthExceeded_of_mem : ∀ c ∈ r.children, c.depthExceeded = true →
    r.depthExceeded = true

end Record

/-- A rule leaves a record of its own, unless it refers to a rule that is
known. -/
def Grammar.Recorded (g : Grammar) (rule : Rule) : Prop :=
  ∀ target ∈ rule.target?, g.get? target = none

theorem Grammar.recorded_or_refers (g : Grammar) (rule : Rule) :
    g.Recorded rule ∨ ∃ tag target lazy found,
      rule = .reference tag target lazy ∧ g.get? target = some found := by
  cases rule with
  | reference tag target lazy =>
    cases hget : g.get? target with
    | some found => exact .inr ⟨tag, target, lazy, found, rfl, hget⟩
    | none =>
      refine .inl fun target' href => ?_
      cases href
      exact hget
  | _ => exact .inl nofun

/-- The rules that may be tried in the course of trying a rule. -/
inductive Grammar.Reaches (g : Grammar) : Rule → Rule → Prop where
  | refl {rule : Rule} : g.Reaches rule rule
  | child {rule child rule' : Rule} (mem : child ∈ rule.children)
      (rest : g.Reaches child rule') : g.Reaches rule rule'
  | target {rule found rule' : Rule} {target : String}
      (refers : rule.target? = some target) (get : g.get? target = some found)
      (rest : g.Reaches found rule') : g.Reaches rule rule'

theorem Rule.walk_eq (rule : Rule) :
    rule.walk = rule :: walkAll rule.children := by
  cases rule <;> rfl

theorem Rule.mem_walkAll {node : Rule} {rules : List Rule} :
    node ∈ walkAll rules ↔ ∃ rule ∈ rules, node ∈ rule.walk := by
  induction rules with
  | nil => simp [walkAll]
  | cons rule rules ih => simp [walkAll, ih]

theorem Rule.mem_walk {node rule : Rule} :
    node ∈ rule.walk ↔
      node = rule ∨ ∃ child ∈ rule.children, node ∈ child.walk := by
  rw [walk_eq, List.mem_cons, mem_walkAll]

theorem Grammar.mem_of_get? {g : Grammar} {name : String} {rule : Rule}
    (hget : g.get? name = some rule) : rule ∈ g.rules :=
  List.mem_of_find?_eq_some hget

/-- What holds at every node of a rule and of the grammar's rules holds at
every node that can be reached. -/
theorem Grammar.Reaches.forall_mem_walk {g : Grammar} {P : Rule → Prop}
    (hg : ∀ rule ∈ g.rules, ∀ node ∈ rule.walk, P node) {rule rule' : Rule}
    (h : g.Reaches rule rule') (hrule : ∀ node ∈ rule.walk, P node) :
    ∀ node ∈ rule'.walk, P node := by
  induction h with
  | refl => exact hrule
  | child mem _ ih =>
    exact ih fun node hnode =>
      hrule node (Rule.mem_walk.mpr (.inr ⟨_, mem, hnode⟩))
  | target _ get _ ih => exact ih (hg _ (mem_of_get? get))

namespace Evaluation

open Record

/-! ## Sequences -/

/-- A record starts where its rule was tried. -/
def Placed (f : Rule → Nat → Record) : Prop :=
  ∀ rule start, (f rule start).start = start

section

variable {f : Rule → Nat → Record}

theorem Placed.contiguous_inOrder (h : Placed f) (rules : List Rule)
    (start : Nat) :
    Contiguous start (inOrder f rules start)
      (stopAfter start (inOrder f rules start)) := by
  induction rules generalizing start with
  | nil => exact rfl
  | cons rule rules ih =>
    simp only [inOrder]
    split
    · rw [stopAfter_cons]
      exact ⟨h rule start, ih _⟩
    · exact ⟨h rule start, rfl⟩

theorem Placed.outcome_inOrder (h : Placed f) {rules : List Rule}
    {start i : Nat} {c : Record} (hc : (inOrder f rules start)[i]? = some c) :
    ∃ rule, rules[i]? = some rule ∧ c = f rule c.start := by
  induction rules generalizing start i with
  | nil => simp [inOrder] at hc
  | cons rule rules ih =>
    cases i with
    | zero =>
      have hfirst : c = f rule start := by
        simp only [inOrder] at hc
        split at hc <;> exact (Option.some.inj hc).symm
      exact ⟨rule, rfl, by rw [hfirst, h]⟩
    | succ i =>
      simp only [inOrder] at hc
      split at hc
      · exact ih hc
      · cases hc

theorem matched_of_mem_dropLast_inOrder {rules : List Rule} {start : Nat} :
    ∀ c ∈ (inOrder f rules start).dropLast, c.matched = true := by
  induction rules generalizing start with
  | nil => simp [inOrder]
  | cons rule rules ih =>
    intro c hc
    simp only [inOrder] at hc
    split at hc
    · next hm =>
      cases hrest : inOrder f rules (f rule start).stop with
      | nil => simp [hrest] at hc
      | cons next rest =>
        rw [hrest, List.dropLast_cons_cons, ← hrest] at hc
        rcases List.mem_cons.mp hc with rfl | hc
        · exact hm
        · exact ih c hc
    · simp at hc

theorem length_inOrder {rules : List Rule} {start : Nat}
    (hm : ∀ c ∈ inOrder f rules start, c.matched = true) :
    (inOrder f rules start).length = rules.length := by
  induction rules generalizing start with
  | nil => rfl
  | cons rule rules ih =>
    simp only [inOrder] at hm ⊢
    split at hm
    · next hrule =>
      rw [if_pos hrule, List.length_cons, List.length_cons,
        ih fun c hc => hm c (List.mem_cons_of_mem _ hc)]
    · next hrule => exact absurd (hm _ List.mem_cons_self) hrule

/-- A record of a sequence is that of one of the rules, tried at a position
that the sequence has come to. -/
theorem exists_of_mem_inOrder {P : Nat → Prop}
    (hstop : ∀ rule start, P start → P (f rule start).stop)
    {rules : List Rule} {start : Nat} (hs : P start) {c : Record}
    (hc : c ∈ inOrder f rules start) :
    ∃ rule ∈ rules, ∃ start', P start' ∧ c = f rule start' := by
  induction rules generalizing start with
  | nil => simp [inOrder] at hc
  | cons rule rules ih =>
    simp only [inOrder] at hc
    split at hc
    · rcases List.mem_cons.mp hc with rfl | hc
      · exact ⟨rule, List.mem_cons_self, start, hs, rfl⟩
      · obtain ⟨rule', hmem, start', hs', rfl⟩ := ih (hstop rule start hs) hc
        exact ⟨rule', List.mem_cons_of_mem _ hmem, start', hs', rfl⟩
    · obtain rfl := List.mem_singleton.mp hc
      exact ⟨rule, List.mem_cons_self, start, hs, rfl⟩

theorem Placed.sequenceShape (h : Placed f) (rule : Rule)
    (rules : List Rule) (start : Nat) :
    (Record.ofSequence rule start (inOrder f rules start)).SequenceShape f
      rules where
  token_eq := rfl
  contiguous := h.contiguous_inOrder rules start
  outcome _ _ hc := h.outcome_inOrder hc
  matched_of_mem_dropLast := matched_of_mem_dropLast_inOrder
  length_eq := length_inOrder
  matched_iff := by
    have hall : (ofSequence rule start (inOrder f rules start)).matched = true ↔
        ∀ c ∈ inOrder f rules start, c.matched = true := List.all_eq_true
    rw [hall]
    exact ⟨fun hm => ⟨length_inOrder hm, hm⟩, And.right⟩

end

/-! ## Alternations -/

/-- Both sorts of alternation try some of their rules at one position, and
what they choose is one of the attempts, which matched. -/
structure Chooses (f : Rule → Nat → Record) (rules : List Rule) (start : Nat)
    (attempts : List Record) (choice : Option Record) : Prop where
  attempted : ∀ a ∈ attempts, ∃ rule ∈ rules, a = f rule start
  chosen : ∀ c, choice = some c → c ∈ attempts ∧ c.matched = true

theorem chooses_furthest (f : Rule → Nat → Record) (rules : List Rule)
    (start : Nat) :
    Chooses f rules start (rules.map (f · start))
      (furthest (rules.map (f · start))) where
  attempted a ha := by
    obtain ⟨rule, hmem, rfl⟩ := List.mem_map.mp ha
    exact ⟨rule, hmem, rfl⟩
  chosen _ hc := furthest_mem hc

theorem chooses_first (f : Rule → Nat → Record) (rules : List Rule)
    (start : Nat) :
    Chooses f rules start (untilMatch f start rules)
      ((untilMatch f start rules).find? Record.matched) where
  attempted _ ha := mem_untilMatch ha
  chosen _ hc := ⟨List.mem_of_find?_eq_some hc, List.find?_some hc⟩

theorem start_ofChoice (rule : Rule) (start : Nat) (attempts : List Record)
    (choice : Option Record) :
    (Record.ofChoice rule start attempts choice).start = start := by
  cases choice <;> rfl

theorem rule_ofChoice (rule : Rule) (start : Nat) (attempts : List Record)
    (choice : Option Record) :
    (Record.ofChoice rule start attempts choice).rule = rule := by
  cases choice <;> rfl

section

variable {f : Rule → Nat → Record} {rules : List Rule} {start : Nat}
  {attempts : List Record} {choice : Option Record}

theorem Chooses.mem_of_mem_children (h : Chooses f rules start attempts choice)
    {rule : Rule} {c : Record}
    (hc : c ∈ (Record.ofChoice rule start attempts choice).children) :
    c ∈ attempts := by
  cases choice with
  | none => cases hc
  | some c' =>
    obtain rfl := List.mem_singleton.mp hc
    exact (h.chosen c rfl).1

theorem Chooses.exists_of_mem_children
    (h : Chooses f rules start attempts choice) {rule : Rule} {c : Record}
    (hc : c ∈ (Record.ofChoice rule start attempts choice).children) :
    ∃ child ∈ rules, c = f child start :=
  h.attempted c (h.mem_of_mem_children hc)

theorem Chooses.choiceShape (h : Chooses f rules start attempts choice)
    (hf : Placed f) (rule : Rule) :
    (Record.ofChoice rule start attempts choice).ChoiceShape f rules := by
  cases choice with
  | none => exact ⟨rfl, nofun, fun _ => ⟨rfl, rfl, rfl⟩⟩
  | some c =>
    obtain ⟨hmem, hm⟩ := h.chosen c rfl
    obtain ⟨rule', hrule, rfl⟩ := h.attempted c hmem
    exact ⟨rfl, fun _ => ⟨_, rfl, hm, hf rule' start, rfl, rule', hrule, rfl⟩,
      nofun⟩

/-- The record of an alternation is flagged if any of its attempts is. -/
theorem Chooses.depthExceeded_of_mem
    (h : Chooses f rules start attempts choice) {rule : Rule} {c : Record}
    (hc : c ∈ (Record.ofChoice rule start attempts choice).children)
    (hflag : c.depthExceeded = true) :
    (Record.ofChoice rule start attempts choice).depthExceeded = true := by
  rw [depthExceeded_ofChoice]
  exact List.any_eq_true.mpr ⟨c, h.mem_of_mem_children hc, hflag⟩

end

/-! ## Whole evaluations -/

variable {g : Grammar} {tokens : List Token} {n : Nat}

theorem placed_evaluate (g : Grammar) (tokens : List Token) (n : Nat) :
    Placed (evaluate g tokens n) := by
  induction n with
  | zero => exact fun _ _ => rfl
  | succ n ih =>
    intro rule start
    cases rule with
    | literal tag pattern => rfl
    | sequence tag rules => rfl
    | alternation tag rules => exact start_ofChoice _ _ _ _
    | exclusive tag rules => exact start_ofChoice _ _ _ _
    | empty tag => rfl
    | reference tag target lazy =>
      simp only [evaluate]
      cases g.get? target with
      | none => rfl
      | some rule => exact ih rule start

theorem rule_evaluate {rule : Rule} (h : 0 < n → g.Recorded rule)
    (start : Nat) : (evaluate g tokens n rule start).rule = rule := by
  cases n with
  | zero => rfl
  | succ n =>
    cases rule with
    | literal tag pattern => rfl
    | sequence tag rules => rfl
    | alternation tag rules => exact rule_ofChoice _ _ _ _
    | exclusive tag rules => exact rule_ofChoice _ _ _ _
    | empty tag => rfl
    | reference tag target lazy =>
      have hget : g.get? target = none := h (Nat.succ_pos n) target rfl
      simp only [evaluate, hget, Record.dangling]

theorem literalShape_evaluate (tag : Tag) (pattern : Pattern) (start : Nat) :
    (evaluate g tokens (n + 1) (.literal tag pattern) start).LiteralShape
      tokens pattern where
  children_eq := rfl
  isSome_token := rfl
  token_scanned := by
    intro t ht
    simp only [evaluate, ofLiteral, Option.mem_def] at ht
    split at ht
    · next hp =>
      cases ht
      exact ⟨rfl, hp⟩
    · cases ht
  stop_eq := rfl
  depthExceeded_eq := rfl

/-- One step of evaluation makes a record of the shape that its rule asks
for. -/
theorem fits_evaluate {rule : Rule} (h : 0 < n → g.Recorded rule)
    (start : Nat) : (evaluate g tokens n rule start).Fits g tokens n := by
  cases n with
  | zero => exact ⟨⟨rfl, rfl, rfl⟩, rfl, rfl⟩
  | succ n =>
    have hplaced := placed_evaluate g tokens n
    rw [Fits, rule_evaluate h]
    cases rule with
    | literal tag pattern => exact literalShape_evaluate tag pattern start
    | sequence tag rules => exact hplaced.sequenceShape _ rules start
    | alternation tag rules =>
      exact (chooses_furthest _ rules start).choiceShape hplaced _
    | exclusive tag rules =>
      exact (chooses_first _ rules start).choiceShape hplaced _
    | empty tag => exact ⟨⟨rfl, rfl, rfl⟩, rfl, rfl⟩
    | reference tag target lazy =>
      have hget : g.get? target = none := h (Nat.succ_pos n) target rfl
      simp only [evaluate, hget]
      exact ⟨trivial, ⟨rfl, rfl, rfl⟩, rfl, rfl⟩

theorem depthExceeded_of_mem_children {rule : Rule}
    (h : 0 < n → g.Recorded rule) {start : Nat} {c : Record}
    (hc : c ∈ (evaluate g tokens n rule start).children)
    (hflag : c.depthExceeded = true) :
    (evaluate g tokens n rule start).depthExceeded = true := by
  cases n with
  | zero => rfl
  | succ n =>
    cases rule with
    | literal tag pattern => cases hc
    | sequence tag rules => exact List.any_eq_true.mpr ⟨c, hc, hflag⟩
    | alternation tag rules =>
      exact (chooses_furthest _ rules start).depthExceeded_of_mem hc hflag
    | exclusive tag rules =>
      exact (chooses_first _ rules start).depthExceeded_of_mem hc hflag
    | empty tag => cases hc
    | reference tag target lazy =>
      have hget : g.get? target = none := h (Nat.succ_pos n) target rfl
      simp only [evaluate, hget] at hc
      cases hc

/-- What stands directly below a record are evaluations of its rule's
children, at positions within the buffer if the record is within it. -/
theorem exists_of_mem_children {rule : Rule} (h : g.Recorded rule)
    {start : Nat} {c : Record}
    (hc : c ∈ (evaluate g tokens (n + 1) rule start).children) :
    ∃ child ∈ rule.children, ∃ start',
      (start ≤ tokens.length → start' ≤ tokens.length) ∧
      c = evaluate g tokens n child start' := by
  cases rule with
  | literal tag pattern => cases hc
  | sequence tag rules =>
    -- the sequence moves on, but not out of the buffer
    have hstop : ∀ (rule : Rule) (s : Nat),
        (start ≤ tokens.length → s ≤ tokens.length) →
        start ≤ tokens.length →
        (evaluate g tokens n rule s).stop ≤ tokens.length :=
      fun rule s hs hstart =>
        (forward_evaluate g tokens n rule s (hs hstart)).2
    exact exists_of_mem_inOrder hstop id hc
  | alternation tag rules =>
    obtain ⟨child, hmem, rfl⟩ :=
      (chooses_furthest _ rules start).exists_of_mem_children hc
    exact ⟨child, hmem, start, id, rfl⟩
  | exclusive tag rules =>
    obtain ⟨child, hmem, rfl⟩ :=
      (chooses_first _ rules start).exists_of_mem_children hc
    exact ⟨child, hmem, start, id, rfl⟩
  | empty tag => cases hc
  | reference tag target lazy =>
    have hget : g.get? target = none := h target rfl
    simp only [evaluate, hget] at hc
    cases hc

/-! ## All records of a tree -/

/-- A record is what its own rule comes to where the record starts, with
`budget` levels left. -/
structure Made (g : Grammar) (tokens : List Token) (budget : Nat) (r : Record) :
    Prop where
  outcome : r = evaluate g tokens budget r.rule r.start
  recorded : 0 < budget → g.Recorded r.rule

theorem made_evaluate {rule : Rule} (h : 0 < n → g.Recorded rule)
    (start : Nat) : Made g tokens n (evaluate g tokens n rule start) := by
  have hrule : (evaluate g tokens n rule start).rule = rule :=
    rule_evaluate h start
  have hstart := placed_evaluate g tokens n rule start
  refine ⟨by rw [hrule, hstart], fun hn => ?_⟩
  rw [hrule]
  exact h hn

/-- **Every record of a tree is an evaluation of its own**, of a rule that can
be reached from the one at the root, and with no more levels. -/
theorem exists_made_of_mem_preorder {rule : Rule} {start : Nat} {r : Record}
    (hr : r ∈ (evaluate g tokens n rule start).preorder) :
    ∃ budget ≤ n, Made g tokens budget r ∧ g.Reaches rule r.rule ∧
      (start ≤ tokens.length → r.start ≤ tokens.length) := by
  induction n generalizing rule start with
  | zero =>
    obtain rfl : r = .cut rule start := by
      simpa [evaluate, Record.cut, preorder, preorderAll] using hr
    exact ⟨0, Nat.le_refl _, ⟨rfl, fun h => absurd h (Nat.lt_irrefl 0)⟩, .refl, id⟩
  | succ n ih =>
    rcases g.recorded_or_refers rule with
      hrule | ⟨tag, target, lazy, found, rfl, hget⟩
    · rcases mem_preorder.mp hr with rfl | ⟨c, hc, hr⟩
      · refine ⟨n + 1, Nat.le_refl _, made_evaluate (fun _ => hrule) start, ?_, ?_⟩
        · rw [rule_evaluate fun _ => hrule]
          exact .refl
        · rw [placed_evaluate]
          exact id
      · obtain ⟨child, hmem, start', hs, rfl⟩ := exists_of_mem_children hrule hc
        obtain ⟨budget, hle, hmade, hreaches, hwithin⟩ := ih hr
        exact ⟨budget, Nat.le_succ_of_le hle, hmade, .child hmem hreaches,
          hwithin ∘ hs⟩
    · -- the record of the target stands in the place of the reference
      simp only [evaluate, hget] at hr
      obtain ⟨budget, hle, hmade, hreaches, hwithin⟩ := ih hr
      exact ⟨budget, Nat.le_succ_of_le hle, hmade,
        .target rfl hget hreaches, hwithin⟩

theorem Made.shaped {budget : Nat} {r : Record} (h : Made g tokens budget r)
    (hr : r.start ≤ tokens.length) : r.Shaped g tokens budget := by
  have hforward := forward_evaluate g tokens budget r.rule r.start hr
  have hfits : (evaluate g tokens budget r.rule r.start).Fits g tokens budget :=
    fits_evaluate h.recorded r.start
  rw [← h.outcome] at hforward hfits
  refine ⟨h.outcome, hforward.1, hforward.2, hfits, fun c hc hflag => ?_⟩
  rw [h.outcome] at hc ⊢
  exact depthExceeded_of_mem_children h.recorded hc hflag

end Evaluation

namespace Matcher

/-- **All records of a tree have the shape that goes with their rule**, for
every grammar, every rule and every limit: those of matches and of failures,
and those that the limit cut off. -/
theorem shaped_of_mem_preorder (g : Grammar) (d : Nat) (rule : Rule)
    {c : Cursor} (hc : c.position ≤ c.tokens.length) :
    ∀ r ∈ ((Matcher.mk g d).evaluate rule c).preorder,
      ∃ budget ≤ d + 1, r.Shaped g c.tokens budget := by
  intro r hr
  obtain ⟨budget, hle, hmade, -, hwithin⟩ :=
    Evaluation.exists_made_of_mem_preorder hr
  exact ⟨budget, hle, hmade.shaped (hwithin hc)⟩

/-- The identifier is there, and the rule after it is one level too deep. -/
theorem shaped_of_mem_preorder_at_cut :
    let g : Grammar := ⟨[leftRecursiveRule], leftRecursiveRule⟩
    let rule : Rule := .sequence .blank [.identifier, .referTo "a"]
    let c := Cursor.ofTokens [⟨.identifier, "x", ⟨0, 1⟩⟩]
    let root := (Matcher.mk g 1).evaluate rule c
    c.position ≤ c.tokens.length ∧
    root.preorder.map Record.depthExceeded = [true, false, true] ∧
    ∀ r ∈ root.preorder, ∃ budget ≤ 2, r.Shaped g c.tokens budget :=
  ⟨by decide, by decide, shaped_of_mem_preorder _ 1 _ (by decide)⟩

end Matcher

end SceneSelector
