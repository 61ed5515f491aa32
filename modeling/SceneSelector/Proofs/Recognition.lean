import SceneSelector.Evaluation
import SceneSelector.Query.Outline

/-!
# Evaluation as recognition

Records speak of positions in a list of tokens, but a rule sees no more of
that list than what lies ahead. `recognise` is evaluation on the tokens
ahead alone: whether a rule matches them, the outline that is left of the
match, and the tokens that are still ahead afterwards. `recognised_evaluate`
ties the two together, for every grammar and every budget, so that what is
said below of a grammar can be said about lists of tokens instead of
positions in one.

The end-of-input sentinel needs no exception: a pattern asks for kind and
literal only, and those of the sentinel are the same at every position.
-/

namespace SceneSelector

/-- What a match leaves: its outline and the tokens ahead of it. -/
abbrev Recognised := Option (Outline × List Token)

theorem Outline.append_done (o : Outline) : o.append .done = o := by
  induction o with
  | done => rfl
  | word kind literal rest ih => rw [append, ih]
  | part name inside rest _ ih => rw [append, ih]

/-- What a record leaves of the tokens that it was made from. -/
def Record.recognised (tokens : List Token) (r : Record) : Recognised :=
  if r.matched then some (r.outlineItem, tokens.drop r.stop) else none

namespace Evaluation

/-! ## Recognising -/

/-- An outline as that of a rule with this tag: a part of its own if the rule
has a name. -/
def tagged (tag : Tag) (o : Outline) : Outline :=
  match tag.name with
  | some name => .part name o .done
  | none => o

@[simp] theorem tagged_blank (o : Outline) : tagged .blank o = o := rfl

/-- Recognise rules one after the other. -/
def recogniseAll (attempt : Rule → List Token → Recognised) :
    List Rule → List Token → Recognised
  | [], ts => some (.done, ts)
  | rule :: rules, ts => do
    let (o, ahead) ← attempt rule ts
    let (os, ahead) ← recogniseAll attempt rules ahead
    return (o.append os, ahead)

/-- The attempt that leaves the fewest tokens ahead, the earliest of
several. -/
def nearestEnd : List Recognised → Recognised
  | [] => none
  | none :: rs => nearestEnd rs
  | some a :: rs =>
    match nearestEnd rs with
    | some best => if best.2.length < a.2.length then some best else some a
    | none => some a

/-- Recognise a rule in the tokens ahead, with `budget` levels to nest. -/
def recognise (g : Grammar) :
    (budget : Nat) → Rule → List Token → Recognised
  | 0, _, _ => none
  | budget + 1, rule, ts =>
    match rule with
    | .literal _ pattern =>
      match ts with
      | t :: ahead =>
        if pattern.accepts t then some (.word t.kind t.literal .done, ahead)
        else none
      | [] =>
        if pattern.accepts (.endOfInput 0) then
          some (.word .endOfInput "" .done, [])
        else none
    | .sequence tag rules =>
      (recogniseAll (recognise g budget) rules ts).map fun (o, ahead) =>
        (tagged tag o, ahead)
    | .alternation tag rules =>
      (nearestEnd (rules.map (recognise g budget · ts))).map fun (o, ahead) =>
        (tagged tag o, ahead)
    | .exclusive tag rules =>
      (rules.findSome? (recognise g budget · ts)).map fun (o, ahead) =>
        (tagged tag o, ahead)
    | .empty tag => some (tagged tag .done, ts)
    | .reference _ target _ =>
      match g.get? target with
      | some rule => recognise g budget rule ts
      | none => none

/-! ## Where records stop -/

/-- Records stop inside the buffer and not before where they started. -/
def Forward (size : Nat) (f : Rule → Nat → Record) : Prop :=
  ∀ rule start, start ≤ size →
    start ≤ (f rule start).stop ∧ (f rule start).stop ≤ size

/-- The position after some records in a row that began at `start`. -/
def stopAfter (start : Nat) (parts : List Record) : Nat :=
  (parts.getLast?.map Record.stop).getD start

theorem stopAfter_cons (start : Nat) (r : Record) (parts : List Record) :
    stopAfter start (r :: parts) = stopAfter r.stop parts := by
  cases parts with
  | nil => rfl
  | cons p parts =>
    simp only [stopAfter, List.getLast?_cons_cons]
    cases hl : (p :: parts).getLast? with
    | none => simp at hl
    | some last => rfl

theorem Forward.inOrder {size : Nat} {f : Rule → Nat → Record}
    (h : Forward size f) : ∀ (rules : List Rule) (start : Nat), start ≤ size →
    start ≤ stopAfter start (inOrder f rules start) ∧
      stopAfter start (inOrder f rules start) ≤ size := by
  intro rules
  induction rules with
  | nil => intro start hs; exact ⟨Nat.le_refl _, hs⟩
  | cons rule rules ih =>
    intro start hs
    obtain ⟨hle, hsize⟩ := h rule start hs
    simp only [Evaluation.inOrder]
    split
    · rw [stopAfter_cons]
      have := ih _ hsize
      omega
    · rw [stopAfter_cons]
      exact ⟨hle, hsize⟩

theorem furthest_mem {rs : List Record} {r : Record}
    (h : furthest rs = some r) : r ∈ rs ∧ r.matched = true := by
  induction rs with
  | nil => simp [furthest] at h
  | cons a rs ih =>
    simp only [furthest] at h
    split at h
    · next hm =>
      split at h
      · next best hb =>
        split at h <;> cases h
        · exact ⟨List.mem_cons_of_mem _ (ih hb).1, (ih hb).2⟩
        · exact ⟨List.mem_cons_self, hm⟩
      · cases h
        exact ⟨List.mem_cons_self, hm⟩
    · exact ⟨List.mem_cons_of_mem _ (ih h).1, (ih h).2⟩

theorem mem_untilMatch {f : Rule → Nat → Record} {start : Nat}
    {rules : List Rule} {r : Record} (h : r ∈ untilMatch f start rules) :
    ∃ rule ∈ rules, r = f rule start := by
  induction rules with
  | nil => simp [untilMatch] at h
  | cons rule rules ih =>
    simp only [untilMatch] at h
    split at h
    · exact ⟨rule, List.mem_cons_self, by simpa using h⟩
    · rcases List.mem_cons.mp h with rfl | h
      · exact ⟨rule, List.mem_cons_self, rfl⟩
      · obtain ⟨rule', hmem, he⟩ := ih h
        exact ⟨rule', List.mem_cons_of_mem _ hmem, he⟩

theorem ofChoice_forward {size start : Nat} {rule : Rule}
    {attempts : List Record} {choice : Option Record} (hs : start ≤ size)
    (h : ∀ c, choice = some c → start ≤ c.stop ∧ c.stop ≤ size) :
    start ≤ (Record.ofChoice rule start attempts choice).stop ∧
      (Record.ofChoice rule start attempts choice).stop ≤ size := by
  cases choice with
  | none => exact ⟨Nat.le_refl _, hs⟩
  | some c => exact h c rfl

theorem forward_evaluate (g : Grammar) (tokens : List Token) (budget : Nat) :
    Forward tokens.length (evaluate g tokens budget) := by
  induction budget with
  | zero => intro rule start hs; exact ⟨Nat.le_refl _, hs⟩
  | succ budget ih =>
    intro rule start hs
    cases rule with
    | literal tag pattern =>
      show start ≤ Buffer.next tokens start ∧
        Buffer.next tokens start ≤ tokens.length
      simp only [Buffer.next]
      split <;> omega
    | sequence tag rules => exact ih.inOrder rules start hs
    | alternation tag rules =>
      apply ofChoice_forward hs
      intro c hc
      obtain ⟨rule, _, rfl⟩ := List.mem_map.mp (furthest_mem hc).1
      exact ih rule start hs
    | exclusive tag rules =>
      apply ofChoice_forward hs
      intro c hc
      obtain ⟨rule, _, rfl⟩ := mem_untilMatch (List.mem_of_find?_eq_some hc)
      exact ih rule start hs
    | empty tag => exact ⟨Nat.le_refl _, hs⟩
    | reference tag target lazy =>
      simp only [evaluate]
      split
      · exact ih _ start hs
      · exact ⟨Nat.le_refl _, hs⟩

/-! ## The two evaluations agree -/

/-- `F` says of the tokens ahead what `f` says of a position. -/
def Views (tokens : List Token) (f : Rule → Nat → Record)
    (F : Rule → List Token → Recognised) : Prop :=
  ∀ rule start, start ≤ tokens.length →
    (f rule start).recognised tokens = F rule (tokens.drop start)

theorem Views.inOrder {tokens : List Token} {f : Rule → Nat → Record}
    {F : Rule → List Token → Recognised} (h : Views tokens f F)
    (hf : Forward tokens.length f) :
    ∀ (rules : List Rule) (start : Nat), start ≤ tokens.length →
    (if (inOrder f rules start).all Record.matched then
      some (Record.outlineAll (inOrder f rules start),
        tokens.drop (stopAfter start (inOrder f rules start)))
      else none) = recogniseAll F rules (tokens.drop start) := by
  intro rules
  induction rules with
  | nil => intro start _; rfl
  | cons rule rules ih =>
    intro start hs
    have hrule := h rule start hs
    simp only [Evaluation.inOrder, recogniseAll, ← hrule, Record.recognised]
    by_cases hm : (f rule start).matched
    · simp only [hm, if_true, List.all_cons, Bool.true_and, stopAfter_cons,
        Record.outlineAll, ← ih _ (hf rule start hs).2,
        Option.bind_eq_bind, Option.bind_some]
      split <;> rfl
    · simp [hm]

theorem furthest_recognised {tokens : List Token} :
    ∀ rs : List Record, (∀ r ∈ rs, r.stop ≤ tokens.length) →
    (furthest rs).map (fun r => (r.outlineItem, tokens.drop r.stop)) =
      nearestEnd (rs.map (Record.recognised tokens)) := by
  intro rs
  induction rs with
  | nil => intro _; rfl
  | cons r rs ih =>
    intro hstop
    have hrs : ∀ r ∈ rs, r.stop ≤ tokens.length :=
      fun q hq => hstop q (List.mem_cons_of_mem _ hq)
    have htail := ih hrs
    simp only [furthest, List.map_cons, Record.recognised]
    by_cases hm : r.matched
    · simp only [hm, if_true, nearestEnd]
      cases hb : furthest rs with
      | none =>
        rw [hb] at htail
        rw [← htail]
        rfl
      | some best =>
        rw [hb] at htail
        rw [← htail]
        -- stopping later and having fewer tokens ahead is the same thing
        have h1 := hstop r List.mem_cons_self
        have h2 := hrs best (furthest_mem hb).1
        have hiff : (tokens.drop best.stop).length < (tokens.drop r.stop).length
            ↔ r.stop < best.stop := by
          simp only [List.length_drop]
          omega
        simp only [Option.map_some, hiff]
        split <;> rfl
    · simp only [hm, Bool.false_eq_true, if_false, nearestEnd]
      exact htail

theorem find?_untilMatch {tokens : List Token} {f : Rule → Nat → Record}
    {F : Rule → List Token → Recognised} (h : Views tokens f F)
    {start : Nat} (hs : start ≤ tokens.length) : ∀ rules : List Rule,
    ((untilMatch f start rules).find? Record.matched).map
        (fun r => (r.outlineItem, tokens.drop r.stop)) =
      rules.findSome? (F · (tokens.drop start)) := by
  intro rules
  induction rules with
  | nil => rfl
  | cons rule rules ih =>
    rw [List.findSome?_cons, ← h rule start hs]
    simp only [untilMatch, Record.recognised]
    by_cases hm : (f rule start).matched
    · simp [hm]
    · simp [hm, ih]

theorem recognised_ofChoice (tokens : List Token) (rule : Rule) (start : Nat)
    (attempts : List Record) (choice : Option Record) :
    (Record.ofChoice rule start attempts choice).recognised tokens =
      (choice.map fun r => (r.outlineItem, tokens.drop r.stop)).map
        fun (o, ahead) => (tagged rule.tag o, ahead) := by
  cases choice with
  | none => rfl
  | some c =>
    simp only [Record.ofChoice, Record.recognised, if_true, Record.outlineItem,
      Record.outlineAll, Outline.append_done, Option.map_some, Rule.name, tagged]
    split <;> split <;> simp_all

theorem recognised_ofSequence (tokens : List Token) (rule : Rule) (start : Nat)
    (parts : List Record) :
    (Record.ofSequence rule start parts).recognised tokens =
      (if parts.all Record.matched then
        some (Record.outlineAll parts, tokens.drop (stopAfter start parts))
        else none).map fun (o, ahead) => (tagged rule.tag o, ahead) := by
  simp only [Record.ofSequence, Record.recognised, stopAfter]
  split
  · next hm =>
    simp only [Record.outlineItem, hm, if_true, Option.map_some, Rule.name,
      tagged]
    split <;> split <;> simp_all
  · next hm => simp [hm]

theorem recognised_ofLiteral (tokens : List Token) (rule : Rule)
    (start stop : Nat) (accepted : Option Token) :
    (Record.ofLiteral rule start stop accepted).recognised tokens =
      accepted.map fun t =>
        (.word t.kind t.literal .done, tokens.drop stop) := by
  cases accepted <;> rfl

/-- A literal looks at the first token ahead, or at the sentinel. -/
theorem recognised_literal (g : Grammar) (tokens : List Token) (budget : Nat)
    (tag : Tag) (pattern : Pattern) (start : Nat) :
    (evaluate g tokens (budget + 1) (.literal tag pattern) start).recognised
        tokens =
      recognise g (budget + 1) (.literal tag pattern) (tokens.drop start) := by
  simp only [evaluate, recognise, recognised_ofLiteral]
  by_cases hs : start < tokens.length
  · have hread : Buffer.read tokens start = tokens[start] := by
      simp [Buffer.read, hs]
    have hnext : Buffer.next tokens start = start + 1 := if_pos hs
    simp only [List.drop_eq_getElem_cons hs, hread, hnext]
    split <;> rfl
  · have hread : Buffer.read tokens start =
        .endOfInput (Buffer.endOffset tokens) := by
      simp [Buffer.read, hs]
    have hnext : Buffer.next tokens start = start := if_neg hs
    have hdrop : tokens.drop start = [] := by simpa using hs
    simp only [hdrop, hread, hnext]
    -- the pattern does not see where the sentinel stands
    show Option.map _ (if pattern.accepts (.endOfInput 0) then _ else _) = _
    split <;> rfl

/-- **Evaluation looks ahead only**: what it leaves at a position is what
recognition leaves of the tokens from there on. -/
theorem recognised_evaluate (g : Grammar) (tokens : List Token)
    (budget : Nat) :
    Views tokens (evaluate g tokens budget) (recognise g budget) := by
  induction budget with
  | zero => intro rule start _; rfl
  | succ budget ih =>
    have hf := forward_evaluate g tokens budget
    intro rule start hs
    cases rule with
    | literal tag pattern =>
      exact recognised_literal g tokens budget tag pattern start
    | sequence tag rules =>
      simp only [evaluate, recognise]
      rw [recognised_ofSequence, ih.inOrder hf rules start hs]
      rfl
    | alternation tag rules =>
      have hstop : ∀ r ∈ rules.map (evaluate g tokens budget · start),
          r.stop ≤ tokens.length := by
        intro r hr
        obtain ⟨rule, _, rfl⟩ := List.mem_map.mp hr
        exact (hf rule start hs).2
      have hviews : (rules.map (evaluate g tokens budget · start)).map
            (Record.recognised tokens) =
          rules.map (recognise g budget · (tokens.drop start)) := by
        rw [List.map_map]
        exact List.map_congr_left fun rule _ => ih rule start hs
      simp only [evaluate, recognise]
      rw [recognised_ofChoice, furthest_recognised _ hstop, hviews]
      rfl
    | exclusive tag rules =>
      simp only [evaluate, recognise]
      rw [recognised_ofChoice, find?_untilMatch ih hs]
      rfl
    | empty tag =>
      simp only [evaluate, recognise, Record.ofEmpty, Record.recognised,
        if_true, Record.outlineItem, Record.outlineAll, Rule.name, Rule.tag,
        tagged]
      split <;> split <;> simp_all
    | reference tag target lazy =>
      simp only [evaluate, recognise]
      cases g.get? target with
      | none => rfl
      | some rule => exact ih rule start hs

/-- What is recognised in the tokens ahead tells where evaluation stops. -/
theorem stop_of_recognise {g : Grammar} {tokens : List Token}
    {budget start : Nat} {rule : Rule} {o : Outline} {ahead : List Token}
    (hs : start ≤ tokens.length)
    (h : recognise g budget rule (tokens.drop start) = some (o, ahead)) :
    (evaluate g tokens budget rule start).matched = true ∧
    (evaluate g tokens budget rule start).stop =
      tokens.length - ahead.length := by
  have hviews := recognised_evaluate g tokens budget rule start hs
  have hstop := (forward_evaluate g tokens budget rule start hs).2
  rw [h, Record.recognised] at hviews
  split at hviews
  · next hm =>
    simp only [Option.some.injEq, Prod.mk.injEq] at hviews
    refine ⟨hm, ?_⟩
    rw [← hviews.2, List.length_drop]
    omega
  · cases hviews

/-! ## Common rules -/

theorem recogniseAll_length_le {F : Rule → List Token → Recognised}
    (h : ∀ rule ts o ahead, F rule ts = some (o, ahead) →
      ahead.length ≤ ts.length) :
    ∀ (rules : List Rule) (ts : List Token) (o : Outline) (ahead : List Token),
    recogniseAll F rules ts = some (o, ahead) →
    ahead.length ≤ ts.length := by
  intro rules
  induction rules with
  | nil => intro ts o ahead heq; cases heq; exact Nat.le_refl _
  | cons rule rules ih =>
    intro ts o ahead heq
    simp only [recogniseAll, Option.bind_eq_bind, Option.bind_eq_some_iff,
      Prod.exists, Option.pure_def, Option.some.injEq, Prod.mk.injEq] at heq
    obtain ⟨o1, ts1, h1, o2, ts2, h2, -, rfl⟩ := heq
    exact Nat.le_trans (ih _ _ _ h2) (h _ _ _ _ h1)

theorem nearestEnd_mem {rs : List Recognised} {a : Outline × List Token}
    (h : nearestEnd rs = some a) : some a ∈ rs := by
  induction rs generalizing a with
  | nil => simp [nearestEnd] at h
  | cons r rs ih =>
    cases r with
    | none => exact List.mem_cons_of_mem _ (ih h)
    | some b =>
      simp only [nearestEnd] at h
      cases hb : nearestEnd rs with
      | none =>
        rw [hb] at h
        cases h
        exact List.mem_cons_self
      | some best =>
        simp only [hb] at h
        split at h <;> cases h
        · exact List.mem_cons_of_mem _ (ih hb)
        · exact List.mem_cons_self

/-- Recognition never puts a token back. -/
theorem length_le_of_recognise (g : Grammar) (budget : Nat) :
    ∀ (rule : Rule) (ts : List Token) (o : Outline) (ahead : List Token),
    recognise g budget rule ts = some (o, ahead) →
    ahead.length ≤ ts.length := by
  induction budget with
  | zero => intro rule ts o ahead h; cases h
  | succ budget ih =>
    intro rule ts o ahead h
    cases rule with
    | literal tag pattern =>
      cases ts with
      | nil =>
        simp only [recognise] at h
        split at h <;> cases h
        exact Nat.le_refl _
      | cons t ts =>
        simp only [recognise] at h
        split at h <;> cases h
        exact Nat.le_succ _
    | sequence tag rules =>
      obtain ⟨⟨o1, ts1⟩, h1, heq⟩ := Option.map_eq_some_iff.mp h
      cases heq
      exact recogniseAll_length_le ih rules ts o1 ahead h1
    | alternation tag rules =>
      obtain ⟨⟨o1, ts1⟩, h1, heq⟩ := Option.map_eq_some_iff.mp h
      cases heq
      obtain ⟨rule, _, hr⟩ := List.mem_map.mp (nearestEnd_mem h1)
      exact ih rule ts o1 ahead hr
    | exclusive tag rules =>
      obtain ⟨⟨o1, ts1⟩, h1, heq⟩ := Option.map_eq_some_iff.mp h
      cases heq
      obtain ⟨rule, _, hr⟩ := List.exists_of_findSome?_eq_some h1
      exact ih rule ts o1 ahead hr
    | empty tag => cases h; exact Nat.le_refl _
    | reference tag target lazy =>
      simp only [recognise] at h
      split at h
      · exact ih _ ts o ahead h
      · cases h

theorem recogniseAll_nil (F : Rule → List Token → Recognised)
    (ts : List Token) : recogniseAll F [] ts = some (.done, ts) := rfl

theorem recogniseAll_cons (F : Rule → List Token → Recognised) (rule : Rule)
    (rules : List Rule) (ts : List Token) :
    recogniseAll F (rule :: rules) ts =
      (F rule ts).bind fun (o, ahead) =>
        (recogniseAll F rules ahead).bind fun (os, ahead) =>
          some (o.append os, ahead) := rfl

theorem recognise_sequence (g : Grammar) (budget : Nat) (tag : Tag)
    (rules : List Rule) (ts : List Token) :
    recognise g (budget + 1) (.sequence tag rules) ts =
      (recogniseAll (recognise g budget) rules ts).map fun (o, ahead) =>
        (tagged tag o, ahead) := rfl

theorem recognise_alternation (g : Grammar) (budget : Nat) (tag : Tag)
    (rules : List Rule) (ts : List Token) :
    recognise g (budget + 1) (.alternation tag rules) ts =
      (nearestEnd (rules.map (recognise g budget · ts))).map fun (o, ahead) =>
        (tagged tag o, ahead) := rfl

theorem recognise_exclusive (g : Grammar) (budget : Nat) (tag : Tag)
    (rules : List Rule) (ts : List Token) :
    recognise g (budget + 1) (.exclusive tag rules) ts =
      (rules.findSome? (recognise g budget · ts)).map fun (o, ahead) =>
        (tagged tag o, ahead) := rfl

/-- A sequence fails if one of its rules always does. -/
theorem recogniseAll_eq_none {F : Rule → List Token → Recognised}
    {rules : List Rule} (h : ∃ rule ∈ rules, ∀ ts, F rule ts = none) :
    ∀ ts, recogniseAll F rules ts = none := by
  induction rules with
  | nil => simp at h
  | cons rule rules ih =>
    intro ts
    rw [recogniseAll_cons]
    obtain ⟨rule', hmem, hnone⟩ := h
    rcases List.mem_cons.mp hmem with rfl | hmem
    · rw [hnone, Option.bind_none]
    · cases F rule ts with
      | none => rfl
      | some r =>
        simp only [Option.bind_some, ih ⟨rule', hmem, hnone⟩, Option.bind_none]

/-- A rule that may be left out always matches: it is recognised where that
is possible. -/
theorem recognise_optional (g : Grammar) (budget : Nat) (rule : Rule)
    (ts : List Token) :
    recognise g (budget + 2) (.optional rule) ts =
      some ((recognise g (budget + 1) rule ts).getD (.done, ts)) := by
  show (nearestEnd [recognise g (budget + 1) rule ts, some (.done, ts)]).map
    (fun (o, ahead) => (tagged .blank o, ahead)) = _
  cases hr : recognise g (budget + 1) rule ts with
  | none => rfl
  | some r =>
    obtain ⟨o, ahead⟩ := r
    have hle := length_le_of_recognise g _ rule ts o ahead hr
    simp only [nearestEnd, if_neg (Nat.not_lt.mpr hle)]
    rfl

theorem recognise_referTo {g : Grammar} {name : String} {rule : Rule}
    (hg : g.get? name = some rule) (budget : Nat) (ts : List Token) :
    recognise g (budget + 1) (.referTo name) ts =
      recognise g budget rule ts := by
  simp only [Rule.referTo, recognise, hg]

theorem recognise_referBackTo {g : Grammar} {name : String} {rule : Rule}
    (hg : g.get? name = some rule) (budget : Nat) (ts : List Token) :
    recognise g (budget + 1) (.referBackTo name) ts =
      recognise g budget rule ts := by
  simp only [Rule.referBackTo, recognise, hg]

/-- One token that passes a test. -/
def oneToken (accepts : Token → Bool) : List Token → Recognised
  | [] => none
  | t :: ts =>
    if accepts t then some (.word t.kind t.literal .done, ts) else none

theorem recognise_ofPattern (g : Grammar) (budget : Nat) {p : Pattern}
    (hp : p.kind ≠ .endOfInput) (ts : List Token) :
    recognise g (budget + 1) (.ofPattern p) ts = oneToken p.accepts ts := by
  cases ts with
  | cons t ts => rfl
  | nil =>
    have hno : p.accepts (.endOfInput 0) = false := by
      simp [Pattern.accepts, Token.endOfInput, Ne.symm hp]
    simp [Rule.ofPattern, recognise, oneToken, hno]

theorem nearestEnd_oneToken (ts : List Token) : ∀ ps : List Pattern,
    nearestEnd (ps.map fun p => oneToken p.accepts ts) =
      oneToken (fun t => ps.any (·.accepts t)) ts := by
  intro ps
  induction ps with
  | nil => cases ts <;> rfl
  | cons p ps ih =>
    cases ts with
    | nil => exact ih
    | cons t ts =>
      simp only [List.map_cons, List.any_cons, oneToken] at ih ⊢
      by_cases hp : p.accepts t
      · -- all that fit leave the same tokens ahead, so the first is chosen
        simp only [hp, if_true, nearestEnd, ih, Bool.true_or]
        by_cases hany : ps.any (·.accepts t)
        · simp [hany]
        · simp [hany]
      · simp only [hp, Bool.false_eq_true, if_false, nearestEnd, ih,
          Bool.false_or]

theorem findSome?_ofPattern (g : Grammar) (budget : Nat) (ts : List Token) :
    ∀ ps : List Pattern, (∀ p ∈ ps, p.kind ≠ .endOfInput) →
    (ps.map Rule.ofPattern).findSome? (recognise g (budget + 1) · ts) =
      oneToken (fun t => ps.any (·.accepts t)) ts := by
  intro ps
  induction ps with
  | nil => intro _; cases ts <;> rfl
  | cons p ps ih =>
    intro hps
    rw [List.map_cons, List.findSome?_cons,
      recognise_ofPattern g budget (hps p List.mem_cons_self),
      ih fun q hq => hps q (List.mem_cons_of_mem _ hq)]
    cases ts with
    | nil => rfl
    | cons t ts =>
      by_cases hp : p.accepts t
      · simp [oneToken, hp]
      · simp [oneToken, hp]

/-- Several single tokens to choose from are one token of any of them. -/
theorem recognise_alternation_ofPattern (g : Grammar) (budget : Nat)
    (ps : List Pattern) (hps : ∀ p ∈ ps, p.kind ≠ .endOfInput)
    (ts : List Token) :
    recognise g (budget + 2) (.alternation .blank (ps.map .ofPattern)) ts =
      oneToken (fun t => ps.any (·.accepts t)) ts := by
  have hmap : (ps.map Rule.ofPattern).map (recognise g (budget + 1) · ts) =
      ps.map fun p => oneToken p.accepts ts := by
    rw [List.map_map]
    exact List.map_congr_left fun p hp => recognise_ofPattern g budget (hps p hp) ts
  rw [recognise_alternation, hmap, nearestEnd_oneToken]
  cases oneToken (fun t => ps.any (·.accepts t)) ts <;> rfl

theorem recognise_exclusive_ofPattern (g : Grammar) (budget : Nat) (tag : Tag)
    (ps : List Pattern) (hps : ∀ p ∈ ps, p.kind ≠ .endOfInput)
    (ts : List Token) :
    recognise g (budget + 2) (.exclusive tag (ps.map .ofPattern)) ts =
      (oneToken (fun t => ps.any (·.accepts t)) ts).map fun (o, ahead) =>
        (tagged tag o, ahead) := by
  rw [recognise_exclusive, findSome?_ofPattern g budget ts ps hps]

end Evaluation

end SceneSelector
