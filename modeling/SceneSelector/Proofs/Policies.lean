import SceneSelector.Proofs.Budget
import SceneSelector.Proofs.Recognition

/-!
# The policies of matching, without a limit

`Yields` says which record a rule has at a position, policy by policy and with
no budget: how a literal reads, how far a sequence goes, which of several
alternatives is kept. It is the least such relation, so a rule that goes round
in a circle for ever yields nothing.

Evaluation refines it (`evaluate_refines_yields`). What is evaluated without
running into the limit is yielded, and what is yielded is evaluated under
every limit from some limit on. In particular no rule yields two records. A
rule that yields none is one that runs into every limit
(`not_exists_yields_iff`).
-/

namespace SceneSelector.Evaluation

/-! ## The policies -/

/-- Reading at `start` gives a token and the position after it: the token that
stands there, or at the end of the buffer the sentinel, which is not passed. -/
inductive Reads (tokens : List Token) (start : Nat) : Token → Nat → Prop where
  | token {t : Token} (get : tokens[start]? = some t) :
      Reads tokens start t (start + 1)
  | atEnd (get : tokens[start]? = none) :
      Reads tokens start (.endOfInput (Buffer.endOffset tokens)) start

/-- Of all records that match, `best` stops last, and it is the first of those
that stop there. -/
def IsFurthest (records : List Record) (best : Record) : Prop :=
  ∃ before after, records = before ++ best :: after ∧ best.matched = true ∧
    (∀ r ∈ before, r.matched = true → r.stop < best.stop) ∧
    ∀ r ∈ after, r.matched = true → r.stop ≤ best.stop

/-- What a rule yields at a position. Where several rules are tried at the
same position, `outcome` says what each of them yields. -/
inductive Yields (g : Grammar) (tokens : List Token) :
    Rule → Nat → Record → Prop where
  | accepted {tag : Tag} {pattern : Pattern} {start stop : Nat} {t : Token}
      (reads : Reads tokens start t stop) (fits : pattern.accepts t = true) :
      Yields g tokens (.literal tag pattern) start
        ⟨.literal tag pattern, start, stop, true, some t, [], false⟩
  /-- A literal moves on also if the token does not fit. -/
  | rejected {tag : Tag} {pattern : Pattern} {start stop : Nat} {t : Token}
      (reads : Reads tokens start t stop) (fits : pattern.accepts t = false) :
      Yields g tokens (.literal tag pattern) start
        ⟨.literal tag pattern, start, stop, false, none, [], false⟩
  | finished {tag : Tag} {start : Nat} :
      Yields g tokens (.sequence tag []) start
        ⟨.sequence tag [], start, start, true, none, [], false⟩
  /-- A sequence stops at its first failure and keeps it. -/
  | stopped {tag : Tag} {rule : Rule} {rules : List Rule} {start : Nat}
      {r : Record} (head : Yields g tokens rule start r)
      (fails : r.matched = false) :
      Yields g tokens (.sequence tag (rule :: rules)) start
        ⟨.sequence tag (rule :: rules), start, r.stop, false, none, [r], false⟩
  /-- The other rules are a sequence that starts where the first one stopped. -/
  | continued {tag : Tag} {rule : Rule} {rules : List Rule} {start : Nat}
      {r rest : Record} (head : Yields g tokens rule start r)
      (fits : r.matched = true)
      (tail : Yields g tokens (.sequence tag rules) r.stop rest) :
      Yields g tokens (.sequence tag (rule :: rules)) start
        ⟨.sequence tag (rule :: rules), start, rest.stop, rest.matched, none,
          r :: rest.children, false⟩
  /-- Every alternative has to yield something before one can be chosen. -/
  | furthest {tag : Tag} {rules : List Rule} {start : Nat}
      {outcome : Rule → Record} {best : Record}
      (each : ∀ rule ∈ rules, Yields g tokens rule start (outcome rule))
      (chosen : IsFurthest (rules.map outcome) best) :
      Yields g tokens (.alternation tag rules) start
        ⟨.alternation tag rules, start, best.stop, true, none, [best], false⟩
  | noneFurthest {tag : Tag} {rules : List Rule} {start : Nat}
      {outcome : Rule → Record}
      (each : ∀ rule ∈ rules, Yields g tokens rule start (outcome rule))
      (fail : ∀ rule ∈ rules, (outcome rule).matched = false) :
      Yields g tokens (.alternation tag rules) start
        ⟨.alternation tag rules, start, start, false, none, [], false⟩
  /-- The rules after the first that matches need not yield anything. -/
  | first {tag : Tag} {before after : List Rule} {rule : Rule} {start : Nat}
      {outcome : Rule → Record} {r : Record}
      (each : ∀ other ∈ before, Yields g tokens other start (outcome other))
      (fail : ∀ other ∈ before, (outcome other).matched = false)
      (here : Yields g tokens rule start r) (fits : r.matched = true) :
      Yields g tokens (.exclusive tag (before ++ rule :: after)) start
        ⟨.exclusive tag (before ++ rule :: after), start, r.stop, true, none,
          [r], false⟩
  | noneFirst {tag : Tag} {rules : List Rule} {start : Nat}
      {outcome : Rule → Record}
      (each : ∀ rule ∈ rules, Yields g tokens rule start (outcome rule))
      (fail : ∀ rule ∈ rules, (outcome rule).matched = false) :
      Yields g tokens (.exclusive tag rules) start
        ⟨.exclusive tag rules, start, start, false, none, [], false⟩
  | empty {tag : Tag} {start : Nat} :
      Yields g tokens (.empty tag) start
        ⟨.empty tag, start, start, true, none, [], false⟩
  | known {tag : Tag} {target : String} {lazy : Bool} {rule : Rule}
      {start : Nat} {r : Record} (get : g.get? target = some rule)
      (rest : Yields g tokens rule start r) :
      Yields g tokens (.reference tag target lazy) start r
  | unknown {tag : Tag} {target : String} {lazy : Bool} {start : Nat}
      (get : g.get? target = none) :
      Yields g tokens (.reference tag target lazy) start
        ⟨.reference tag target lazy, start, start, false, none, [], false⟩

/-! ## The functions that implement them -/

variable {g : Grammar} {tokens : List Token}

theorem reads_iff {start stop : Nat} {t : Token} :
    Reads tokens start t stop ↔
      t = Buffer.read tokens start ∧ stop = Buffer.next tokens start := by
  cases hget : tokens[start]? with
  | some t' =>
    have hlt : start < tokens.length := (List.getElem?_eq_some_iff.mp hget).1
    simp only [Buffer.read, Buffer.next, hget, if_pos hlt]
    constructor
    · intro h
      cases h with
      | token get =>
        rw [hget] at get
        exact ⟨(Option.some.inj get).symm, rfl⟩
      | atEnd get =>
        rw [hget] at get
        cases get
    · rintro ⟨rfl, rfl⟩
      exact .token hget
  | none =>
    have hle : ¬ start < tokens.length :=
      Nat.not_lt.mpr (List.getElem?_eq_none_iff.mp hget)
    simp only [Buffer.read, Buffer.next, hget, if_neg hle]
    constructor
    · intro h
      cases h with
      | token get =>
        rw [hget] at get
        cases get
      | atEnd get => exact ⟨rfl, rfl⟩
    · rintro ⟨rfl, rfl⟩
      exact .atEnd hget

theorem IsFurthest.le {records : List Record} {best r : Record}
    (h : IsFurthest records best) (hr : r ∈ records)
    (hm : r.matched = true) : r.stop ≤ best.stop := by
  obtain ⟨before, after, rfl, -, hbefore, hafter⟩ := h
  rcases List.mem_append.mp hr with hr | hr
  · exact Nat.le_of_lt (hbefore r hr hm)
  · rcases List.mem_cons.mp hr with rfl | hr
    · exact Nat.le_refl _
    · exact hafter r hr hm

theorem isFurthest_cons {records : List Record} {r best : Record} :
    IsFurthest (r :: records) best ↔
      (r = best ∧ best.matched = true ∧
        ∀ q ∈ records, q.matched = true → q.stop ≤ best.stop) ∨
      (IsFurthest records best ∧ (r.matched = true → r.stop < best.stop)) := by
  constructor
  · rintro ⟨before, after, heq, hm, hbefore, hafter⟩
    cases before with
    | nil =>
      cases heq
      exact .inl ⟨rfl, hm, hafter⟩
    | cons q before =>
      cases heq
      obtain ⟨hq, hbefore⟩ := List.forall_mem_cons.mp hbefore
      exact .inr ⟨⟨before, after, rfl, hm, hbefore, hafter⟩, hq⟩
  · rintro (⟨rfl, hm, hafter⟩ |
      ⟨⟨before, after, rfl, hm, hbefore, hafter⟩, hr⟩)
    · exact ⟨[], records, rfl, hm, by simp, hafter⟩
    · exact ⟨r :: before, after, rfl, hm,
        List.forall_mem_cons.mpr ⟨hr, hbefore⟩, hafter⟩

theorem furthest_eq_none_iff {records : List Record} :
    Evaluation.furthest records = none ↔
      ∀ r ∈ records, r.matched = false := by
  induction records with
  | nil => simp [Evaluation.furthest]
  | cons r records ih =>
    rw [List.forall_mem_cons, ← ih]
    by_cases hm : r.matched = true
    · simp only [Evaluation.furthest, hm, if_true]
      split
      · split <;> simp
      · simp
    · simp [Evaluation.furthest, hm]

theorem isFurthest_of_furthest {records : List Record} {best : Record}
    (h : Evaluation.furthest records = some best) :
    IsFurthest records best := by
  induction records generalizing best with
  | nil => cases h
  | cons r records ih =>
    rw [isFurthest_cons]
    simp only [Evaluation.furthest] at h
    split at h
    · next hm =>
      split at h
      · next b hb =>
        split at h <;> cases h
        · next hlt => exact .inr ⟨ih hb, fun _ => hlt⟩
        · next hge =>
          exact .inl ⟨rfl, hm, fun q hq hqm =>
            Nat.le_trans ((ih hb).le hq hqm) (Nat.not_lt.mp hge)⟩
      · next hnone =>
        cases h
        refine .inl ⟨rfl, hm, fun q hq hqm => ?_⟩
        rw [furthest_eq_none_iff.mp hnone q hq] at hqm
        cases hqm
    · next hm => exact .inr ⟨ih h, fun h => absurd h hm⟩

theorem IsFurthest.mem {records : List Record} {best : Record}
    (h : IsFurthest records best) : best ∈ records ∧ best.matched = true := by
  obtain ⟨before, after, rfl, hm, -, -⟩ := h
  exact ⟨List.mem_append_right _ List.mem_cons_self, hm⟩

/-- No two records are furthest, for the earlier one is chosen on a tie. -/
theorem IsFurthest.unique {records : List Record} {best best' : Record}
    (h : IsFurthest records best) (h' : IsFurthest records best') :
    best = best' := by
  induction records with
  | nil => exact absurd h.mem.1 List.not_mem_nil
  | cons r records ih =>
    rcases isFurthest_cons.mp h with ⟨rfl, hm, hle⟩ | ⟨ht, hlt⟩ <;>
      rcases isFurthest_cons.mp h' with ⟨rfl, hm', hle'⟩ | ⟨ht', hlt'⟩
    · rfl
    · have := hle _ ht'.mem.1 ht'.mem.2
      have := hlt' hm
      omega
    · have := hle' _ ht.mem.1 ht.mem.2
      have := hlt hm'
      omega
    · exact ih ht ht'

theorem furthest_eq_some_iff {records : List Record} {best : Record} :
    Evaluation.furthest records = some best ↔ IsFurthest records best := by
  constructor
  · exact isFurthest_of_furthest
  · intro h
    cases hb : Evaluation.furthest records with
    | none =>
      have hfail := furthest_eq_none_iff.mp hb best h.mem.1
      exact absurd h.mem.2 (by simp [hfail])
    | some b => rw [(isFurthest_of_furthest hb).unique h]

theorem untilMatch_append {f : Rule → Nat → Record} {start : Nat}
    {before : List Rule} (rules : List Rule)
    (hfail : ∀ other ∈ before, (f other start).matched = false) :
    untilMatch f start (before ++ rules) =
      before.map (f · start) ++ untilMatch f start rules := by
  induction before with
  | nil => rfl
  | cons rule before ih =>
    obtain ⟨hrule, hfail⟩ := List.forall_mem_cons.mp hfail
    simp [untilMatch, hrule, ih hfail]

theorem find?_matched_eq_none {rules : List Rule} {outcome : Rule → Record}
    (hfail : ∀ rule ∈ rules, (outcome rule).matched = false) :
    (rules.map outcome).find? Record.matched = none := by
  rw [List.find?_eq_none, List.forall_mem_map]
  intro rule hmem
  simp [hfail rule hmem]

/-! ## One level of evaluation -/

/-- With `n` levels left, the rules have these outcomes at this position, and
nothing is cut off. -/
def Attempts (g : Grammar) (tokens : List Token) (n start : Nat)
    (rules : List Rule) (outcome : Rule → Record) : Prop :=
  ∀ rule ∈ rules, evaluate g tokens n rule start = outcome rule ∧
    (outcome rule).depthExceeded = false

section

variable {n start : Nat} {rules : List Rule} {outcome : Rule → Record}

theorem Attempts.map (h : Attempts g tokens n start rules outcome) :
    rules.map (evaluate g tokens n · start) = rules.map outcome :=
  List.map_congr_left fun rule hmem => (h rule hmem).1

theorem Attempts.depthExceeded (h : Attempts g tokens n start rules outcome) :
    (rules.map outcome).any Record.depthExceeded = false := by
  rw [List.any_map, List.any_eq_false]
  intro rule hmem
  simp [(h rule hmem).2]

theorem Attempts.matched (h : Attempts g tokens n start rules outcome)
    (hfail : ∀ rule ∈ rules, (outcome rule).matched = false) :
    ∀ rule ∈ rules, (evaluate g tokens n rule start).matched = false := by
  intro rule hmem
  rw [(h rule hmem).1, hfail rule hmem]

variable {tag : Tag}

theorem evaluate_literal_of_accepts {pattern : Pattern}
    (h : pattern.accepts (Buffer.read tokens start) = true) :
    evaluate g tokens (n + 1) (.literal tag pattern) start =
      ⟨.literal tag pattern, start, Buffer.next tokens start, true,
        some (Buffer.read tokens start), [], false⟩ := by
  simp [evaluate, Record.ofLiteral, h]

theorem evaluate_literal_of_not_accepts {pattern : Pattern}
    (h : pattern.accepts (Buffer.read tokens start) = false) :
    evaluate g tokens (n + 1) (.literal tag pattern) start =
      ⟨.literal tag pattern, start, Buffer.next tokens start, false, none, [],
        false⟩ := by
  simp [evaluate, Record.ofLiteral, h]

theorem evaluate_sequence_of_not_matched {rule : Rule}
    (h : (evaluate g tokens n rule start).matched = false) :
    evaluate g tokens (n + 1) (.sequence tag (rule :: rules)) start =
      ⟨.sequence tag (rule :: rules), start,
        (evaluate g tokens n rule start).stop, false, none,
        [evaluate g tokens n rule start],
        (evaluate g tokens n rule start).depthExceeded⟩ := by
  simp [evaluate, inOrder, Record.ofSequence, h]

/-- What follows a match is what the other rules give as a sequence. -/
theorem evaluate_sequence_of_matched {rule : Rule} {r rest : Record}
    (hr : evaluate g tokens n rule start = r) (hm : r.matched = true)
    (hrest : evaluate g tokens (n + 1) (.sequence tag rules) r.stop = rest) :
    evaluate g tokens (n + 1) (.sequence tag (rule :: rules)) start =
      ⟨.sequence tag (rule :: rules), start, rest.stop, rest.matched, none,
        r :: rest.children, r.depthExceeded || rest.depthExceeded⟩ := by
  subst hr hrest
  have hstop := stopAfter_cons start (evaluate g tokens n rule start)
    (inOrder (evaluate g tokens n) rules (evaluate g tokens n rule start).stop)
  simp only [stopAfter] at hstop
  simp [evaluate, inOrder, Record.ofSequence, hm, hstop]

theorem evaluate_alternation_of_isFurthest {best : Record}
    (h : Attempts g tokens n start rules outcome)
    (hbest : IsFurthest (rules.map outcome) best) :
    evaluate g tokens (n + 1) (.alternation tag rules) start =
      ⟨.alternation tag rules, start, best.stop, true, none, [best], false⟩ := by
  simp only [evaluate, h.map, furthest_eq_some_iff.mpr hbest, Record.ofChoice,
    h.depthExceeded]

theorem evaluate_alternation_of_fail
    (h : Attempts g tokens n start rules outcome)
    (hfail : ∀ rule ∈ rules, (outcome rule).matched = false) :
    evaluate g tokens (n + 1) (.alternation tag rules) start =
      ⟨.alternation tag rules, start, start, false, none, [], false⟩ := by
  have hnone : Evaluation.furthest (rules.map outcome) = none :=
    furthest_eq_none_iff.mpr (List.forall_mem_map.mpr hfail)
  simp only [evaluate, h.map, hnone, Record.ofChoice, h.depthExceeded]

theorem evaluate_exclusive_of_first {before after : List Rule} {rule : Rule}
    {r : Record} (h : Attempts g tokens n start before outcome)
    (hfail : ∀ other ∈ before, (outcome other).matched = false)
    (hr : evaluate g tokens n rule start = r) (hm : r.matched = true) :
    evaluate g tokens (n + 1) (.exclusive tag (before ++ rule :: after)) start =
      ⟨.exclusive tag (before ++ rule :: after), start, r.stop, true, none,
        [r], r.depthExceeded⟩ := by
  have huntil : untilMatch (evaluate g tokens n) start
      (before ++ rule :: after) = before.map outcome ++ [r] := by
    rw [untilMatch_append _ (h.matched hfail), h.map]
    simp [untilMatch, hr, hm]
  simp [evaluate, huntil, List.find?_append, find?_matched_eq_none hfail, hm,
    Record.ofChoice, h.depthExceeded]

theorem evaluate_exclusive_of_fail
    (h : Attempts g tokens n start rules outcome)
    (hfail : ∀ rule ∈ rules, (outcome rule).matched = false) :
    evaluate g tokens (n + 1) (.exclusive tag rules) start =
      ⟨.exclusive tag rules, start, start, false, none, [], false⟩ := by
  have huntil : untilMatch (evaluate g tokens n) start rules =
      rules.map outcome := by
    have := untilMatch_append [] (h.matched hfail)
    simpa [untilMatch, h.map] using this
  simp only [evaluate, huntil, find?_matched_eq_none hfail, Record.ofChoice,
    h.depthExceeded]

end

/-! ## What is evaluated is yielded -/

section

variable {budget start : Nat}

theorem attempts_evaluate {rules : List Rule}
    (h : (rules.map (evaluate g tokens budget · start)).any
      Record.depthExceeded = false) :
    Attempts g tokens budget start rules (evaluate g tokens budget · start) := by
  rw [List.any_map, List.any_eq_false] at h
  exact fun rule hmem => ⟨rfl, by simpa using h rule hmem⟩

/-- With `budget` levels, what is not cut off is yielded. -/
def Sound (g : Grammar) (tokens : List Token) (budget : Nat) : Prop :=
  ∀ rule start, (evaluate g tokens budget rule start).depthExceeded = false →
    Yields g tokens rule start (evaluate g tokens budget rule start)

theorem Sound.each (ih : Sound g tokens budget) {rules : List Rule}
    (h : Attempts g tokens budget start rules
      (evaluate g tokens budget · start)) :
    ∀ rule ∈ rules,
      Yields g tokens rule start (evaluate g tokens budget rule start) :=
  fun rule hmem => ih rule start (h rule hmem).2

theorem yields_literal (tag : Tag) (pattern : Pattern) :
    Yields g tokens (.literal tag pattern) start
      (evaluate g tokens (budget + 1) (.literal tag pattern) start) := by
  cases hp : pattern.accepts (Buffer.read tokens start) with
  | true =>
    rw [evaluate_literal_of_accepts hp]
    exact .accepted (reads_iff.mpr ⟨rfl, rfl⟩) hp
  | false =>
    rw [evaluate_literal_of_not_accepts hp]
    exact .rejected (reads_iff.mpr ⟨rfl, rfl⟩) hp

theorem Sound.sequence (ih : Sound g tokens budget) (tag : Tag)
    (rules : List Rule)
    (hflag : (evaluate g tokens (budget + 1) (.sequence tag rules)
      start).depthExceeded = false) :
    Yields g tokens (.sequence tag rules) start
      (evaluate g tokens (budget + 1) (.sequence tag rules) start) := by
  induction rules generalizing start with
  | nil => exact .finished
  | cons rule rules ihrules =>
    cases hm : (evaluate g tokens budget rule start).matched with
    | true =>
      rw [evaluate_sequence_of_matched rfl hm rfl] at hflag ⊢
      obtain ⟨hhead, htail⟩ := Bool.or_eq_false_iff.mp hflag
      rw [hhead, htail]
      exact .continued (ih rule start hhead) hm (ihrules htail)
    | false =>
      rw [evaluate_sequence_of_not_matched hm] at hflag ⊢
      rw [hflag]
      exact .stopped (ih rule start hflag) hm

theorem Sound.alternation (ih : Sound g tokens budget) (tag : Tag)
    (rules : List Rule)
    (hflag : (evaluate g tokens (budget + 1) (.alternation tag rules)
      start).depthExceeded = false) :
    Yields g tokens (.alternation tag rules) start
      (evaluate g tokens (budget + 1) (.alternation tag rules) start) := by
  simp only [evaluate, depthExceeded_ofChoice] at hflag
  have hattempts := attempts_evaluate hflag
  cases hb : Evaluation.furthest
      (rules.map (evaluate g tokens budget · start)) with
  | some best =>
    have hbest := furthest_eq_some_iff.mp hb
    rw [evaluate_alternation_of_isFurthest hattempts hbest]
    exact .furthest (ih.each hattempts) hbest
  | none =>
    have hfail := List.forall_mem_map.mp (furthest_eq_none_iff.mp hb)
    rw [evaluate_alternation_of_fail hattempts hfail]
    exact .noneFurthest (ih.each hattempts) hfail

theorem Sound.exclusive (ih : Sound g tokens budget) (tag : Tag)
    (rules : List Rule)
    (hflag : (evaluate g tokens (budget + 1) (.exclusive tag rules)
      start).depthExceeded = false) :
    Yields g tokens (.exclusive tag rules) start
      (evaluate g tokens (budget + 1) (.exclusive tag rules) start) := by
  simp only [evaluate, depthExceeded_ofChoice] at hflag
  cases hfirst : rules.find?
      (fun rule => (evaluate g tokens budget rule start).matched) with
  | some rule =>
    obtain ⟨hm, before, after, rfl, hbefore⟩ :=
      List.find?_eq_some_iff_append.mp hfirst
    have hfail : ∀ other ∈ before,
        (evaluate g tokens budget other start).matched = false :=
      fun other hmem => by simpa using hbefore other hmem
    rw [untilMatch_append _ hfail, List.any_append,
      Bool.or_eq_false_iff] at hflag
    obtain ⟨hflag, hrule⟩ := hflag
    simp only [untilMatch, hm, if_true, List.any_cons, List.any_nil,
      Bool.or_false] at hrule
    have hattempts := attempts_evaluate hflag
    rw [evaluate_exclusive_of_first hattempts hfail rfl hm, hrule]
    exact .first (ih.each hattempts) hfail (ih rule start hrule) hm
  | none =>
    have hfail : ∀ rule ∈ rules,
        (evaluate g tokens budget rule start).matched = false :=
      fun rule hmem => by simpa using List.find?_eq_none.mp hfirst rule hmem
    have huntil := untilMatch_append [] hfail
    simp only [List.append_nil, untilMatch] at huntil
    rw [huntil] at hflag
    have hattempts := attempts_evaluate hflag
    rw [evaluate_exclusive_of_fail hattempts hfail]
    exact .noneFirst (ih.each hattempts) hfail

theorem sound_evaluate (g : Grammar) (tokens : List Token) (budget : Nat) :
    Sound g tokens budget := by
  induction budget with
  | zero =>
    intro rule start hflag
    simp [evaluate, Record.cut] at hflag
  | succ budget ih =>
    intro rule start hflag
    cases rule with
    | literal tag pattern => exact yields_literal tag pattern
    | sequence tag rules => exact ih.sequence tag rules hflag
    | alternation tag rules => exact ih.alternation tag rules hflag
    | exclusive tag rules => exact ih.exclusive tag rules hflag
    | empty tag => exact .empty
    | reference tag target lazy =>
      simp only [evaluate] at hflag ⊢
      cases hg : g.get? target with
      | none => exact .unknown hg
      | some rule =>
        rw [hg] at hflag
        exact .known hg (ih rule start hflag)

end

/-! ## What is yielded is evaluated -/

/-- Every budget that is large enough gives this record. -/
def Settles (g : Grammar) (tokens : List Token) (rule : Rule) (start : Nat)
    (r : Record) : Prop :=
  ∃ n₀, ∀ n, n₀ ≤ n → evaluate g tokens n rule start = r

section

variable {start : Nat}

/-- The level that the rule itself takes does not matter. -/
theorem settles_of_succ {rule : Rule} {r : Record} (n₀ : Nat)
    (h : ∀ n, n₀ ≤ n → evaluate g tokens (n + 1) rule start = r) :
    Settles g tokens rule start r := by
  refine ⟨n₀ + 1, fun n hn => ?_⟩
  obtain ⟨n, rfl⟩ : ∃ m, n = m + 1 := ⟨n - 1, by omega⟩
  exact h n (by omega)

theorem Yields.depthExceeded {rule : Rule} {r : Record}
    (h : Yields g tokens rule start r) : r.depthExceeded = false := by
  induction h with
  | known _ _ ih => exact ih
  | _ => rfl

/-- Rules that settle one by one settle together. -/
theorem exists_attempts {rules : List Rule} {outcome : Rule → Record}
    (each : ∀ rule ∈ rules, Yields g tokens rule start (outcome rule))
    (h : ∀ rule ∈ rules, Settles g tokens rule start (outcome rule)) :
    ∃ n₀, ∀ n, n₀ ≤ n → Attempts g tokens n start rules outcome := by
  induction rules with
  | nil => exact ⟨0, fun n _ rule hmem => absurd hmem List.not_mem_nil⟩
  | cons rule rules ih =>
    obtain ⟨hyields, each⟩ := List.forall_mem_cons.mp each
    obtain ⟨⟨n₁, h₁⟩, h⟩ := List.forall_mem_cons.mp h
    obtain ⟨n₂, h₂⟩ := ih each h
    refine ⟨max n₁ n₂, fun n hn => List.forall_mem_cons.mpr ⟨?_, ?_⟩⟩
    · exact ⟨h₁ n (by omega), hyields.depthExceeded⟩
    · exact h₂ n (by omega)

theorem Yields.settles {rule : Rule} {r : Record}
    (h : Yields g tokens rule start r) : Settles g tokens rule start r := by
  induction h with
  | accepted reads fits =>
    obtain ⟨rfl, rfl⟩ := reads_iff.mp reads
    exact settles_of_succ 0 fun _ _ => evaluate_literal_of_accepts fits
  | rejected reads fits =>
    obtain ⟨rfl, rfl⟩ := reads_iff.mp reads
    exact settles_of_succ 0 fun _ _ => evaluate_literal_of_not_accepts fits
  | finished => exact settles_of_succ 0 fun _ _ => rfl
  | stopped head fails ih =>
    obtain ⟨n₀, h⟩ := ih
    refine settles_of_succ n₀ fun n hn => ?_
    have hr := h n hn
    rw [evaluate_sequence_of_not_matched (by rw [hr, fails]), hr,
      head.depthExceeded]
  | continued head fits tail ihhead ihtail =>
    obtain ⟨n₁, h₁⟩ := ihhead
    obtain ⟨n₂, h₂⟩ := ihtail
    refine settles_of_succ (max n₁ n₂) fun n hn => ?_
    rw [evaluate_sequence_of_matched (h₁ n (by omega)) fits
      (h₂ (n + 1) (by omega)), head.depthExceeded, tail.depthExceeded]
    rfl
  | furthest each chosen ih =>
    obtain ⟨n₀, h⟩ := exists_attempts each ih
    exact settles_of_succ n₀ fun n hn =>
      evaluate_alternation_of_isFurthest (h n hn) chosen
  | noneFurthest each fail ih =>
    obtain ⟨n₀, h⟩ := exists_attempts each ih
    exact settles_of_succ n₀ fun n hn =>
      evaluate_alternation_of_fail (h n hn) fail
  | first each fail here fits iheach ihhere =>
    obtain ⟨n₁, h₁⟩ := exists_attempts each iheach
    obtain ⟨n₂, h₂⟩ := ihhere
    refine settles_of_succ (max n₁ n₂) fun n hn => ?_
    rw [evaluate_exclusive_of_first (h₁ n (by omega)) fail (h₂ n (by omega))
      fits, here.depthExceeded]
  | noneFirst each fail ih =>
    obtain ⟨n₀, h⟩ := exists_attempts each ih
    exact settles_of_succ n₀ fun n hn =>
      evaluate_exclusive_of_fail (h n hn) fail
  | empty => exact settles_of_succ 0 fun _ _ => rfl
  | known get _ ih =>
    obtain ⟨n₀, h⟩ := ih
    refine settles_of_succ n₀ fun n hn => ?_
    simp only [evaluate, get, h n hn]
  | unknown get =>
    refine settles_of_succ 0 fun n _ => ?_
    simp only [evaluate, get, Record.dangling]

/-- The policies leave no choice. -/
theorem Yields.unique {rule : Rule} {r r' : Record}
    (h : Yields g tokens rule start r) (h' : Yields g tokens rule start r') :
    r = r' := by
  obtain ⟨n₁, h₁⟩ := h.settles
  obtain ⟨n₂, h₂⟩ := h'.settles
  calc r = evaluate g tokens (max n₁ n₂) rule start := (h₁ _ (by omega)).symm
    _ = r' := h₂ _ (by omega)

/-- A rule that yields nothing, as one that goes round in a circle, runs into
the limit however far off that is. -/
theorem not_exists_yields_iff {rule : Rule} :
    (¬ ∃ r, Yields g tokens rule start r) ↔
      ∀ budget, (evaluate g tokens budget rule start).depthExceeded = true := by
  constructor
  · intro h budget
    cases hflag : (evaluate g tokens budget rule start).depthExceeded with
    | true => rfl
    | false => exact absurd ⟨_, sound_evaluate g tokens budget rule start hflag⟩ h
  · rintro h ⟨r, hr⟩
    obtain ⟨n₀, heq⟩ := hr.settles
    have := h n₀
    rw [heq n₀ (Nat.le_refl _), hr.depthExceeded] at this
    cases this

end

end SceneSelector.Evaluation

namespace SceneSelector.Matcher

open Evaluation (Yields)

/-- A matcher's evaluation has the policies for its meaning: they allow one
outcome at most; what is evaluated without running into the limit is that
outcome; and an outcome that they allow is found under every limit from some
limit on. -/
theorem evaluate_refines_yields (g : Grammar) (rule : Rule) (c : Cursor) :
    (∀ r r', Yields g c.tokens rule c.position r →
      Yields g c.tokens rule c.position r' → r = r') ∧
    (∀ d, ((Matcher.mk g d).evaluate rule c).depthExceeded = false →
      Yields g c.tokens rule c.position ((Matcher.mk g d).evaluate rule c)) ∧
    ∀ r, Yields g c.tokens rule c.position r →
      ∃ d₀, ∀ d, d₀ ≤ d → (Matcher.mk g d).evaluate rule c = r ∧
        ((Matcher.mk g d).evaluate rule c).depthExceeded = false := by
  refine ⟨fun r r' => Yields.unique, fun d => ?_, fun r hr => ?_⟩
  · exact Evaluation.sound_evaluate g c.tokens _ rule c.position
  · obtain ⟨n₀, h⟩ := hr.settles
    refine ⟨n₀, fun d hd => ?_⟩
    have heq : (Matcher.mk g d).evaluate rule c = r := h (d + 1) (by omega)
    exact ⟨heq, heq ▸ hr.depthExceeded⟩

/-- A rule that refers to itself yields one record where its first alternative
fits, and every limit from some limit on gives that record. -/
theorem evaluate_refines_yields_at_identifier :
    let g : Grammar := ⟨[leftRecursiveRule], leftRecursiveRule⟩
    let c := Cursor.ofTokens [⟨.identifier, "x", ⟨0, 1⟩⟩]
    let r := (Matcher.mk g 2).evaluate (.referTo "a") c
    r.depthExceeded = false ∧ r.matched = true ∧
    (∀ r', Yields g c.tokens (.referTo "a") c.position r' ↔ r' = r) ∧
    ∃ d₀, ∀ d, d₀ ≤ d → (Matcher.mk g d).evaluate (.referTo "a") c = r := by
  intro g c r
  have hflag : r.depthExceeded = false := by decide
  obtain ⟨hunique, hsound, hcomplete⟩ :=
    evaluate_refines_yields g (.referTo "a") c
  have hr : Yields g c.tokens (.referTo "a") c.position r := hsound 2 hflag
  refine ⟨hflag, by decide, fun r' => ⟨fun h => hunique r' r h hr, ?_⟩, ?_⟩
  · rintro rfl
    exact hr
  · obtain ⟨d₀, h⟩ := hcomplete r hr
    exact ⟨d₀, fun d hd => (h d hd).1⟩

end SceneSelector.Matcher
