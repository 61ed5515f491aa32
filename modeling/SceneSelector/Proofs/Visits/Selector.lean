import SceneSelector.Proofs.Descent.Agreement
import SceneSelector.Proofs.Descent.Completeness
import SceneSelector.Proofs.Visits.Effort

/-!
# Selector queries are matched in a linear number of visits

Alternatives are all tried, and what was read for one that is given up is read
again, so it does not go without saying that the visits of a query are few. For the
rules of the selector grammar an attempt is paid for by the tokens that it reads,
six visits for each and a constant for the attempt (`Within`), and one that fails
costs a constant. There is one exception: arguments are lost if the parenthesis is
not closed, and they may be as long as all that is ahead (`wasted`). But then a
parenthesis comes next, where no rule but the list of arguments can go on, so that
this happens once. All in all there are no more than 57 visits for each token and
17 more (`effort_query_le`).
-/

namespace SceneSelector.Evaluation

open Grammar Descent

/-- The visits of an attempt that fails are at most `failing`. Those of a match are
at most six for each token that it reads, of which there is one at least, and
`extra` for what is ahead of it. -/
inductive Within (failing : Nat) (extra : List Token → Nat) (visits : Nat)
    (ts : List Token) : Recognised → Prop where
  | failed (h : visits ≤ failing) : Within failing extra visits ts none
  | matched {o : Outline} {ahead : List Token} (hlt : ahead.length < ts.length)
      (h : visits + 6 * ahead.length ≤ 6 * ts.length + extra ahead) :
      Within failing extra visits ts (some (o, ahead))

/-! ## Attempts that are paid for

What is left of a sequence is matched from `ts'`, after `visits` for the rules of it
that matched on the way there from `ts`. -/

namespace Within

variable {failing failing' visits visits' : Nat} {extra extra' : List Token → Nat}
  {ts ts' : List Token} {r : Recognised}

theorem mono (h : Within failing extra visits ts r) (hle : visits' ≤ visits) :
    Within failing extra visits' ts r := by
  cases h with
  | failed h => exact .failed (Nat.le_trans hle h)
  | matched hlt h => exact .matched hlt (Nat.le_trans (Nat.add_le_add_right hle _) h)

/-- What the outline is does not matter. -/
theorem map (h : Within failing extra visits ts r) (f : Outline → Outline) :
    Within failing extra visits ts (r.map fun m => (f m.1, m.2)) := by
  cases h with
  | failed h => exact .failed h
  | matched hlt h => exact .matched hlt h

/-- What is left out if it fails always goes on. -/
theorem leftOut (h : Within failing extra visits ts r) (bound : List Token → Nat)
    (hfailing : failing ≤ bound ts) (hextra : ∀ ahead, extra ahead ≤ bound ahead) :
    (r.getD (.done, ts)).2.length ≤ ts.length ∧
      visits + 6 * (r.getD (.done, ts)).2.length ≤
        6 * ts.length + bound (r.getD (.done, ts)).2 := by
  cases h with
  | failed h =>
    simp only [Option.getD_none]
    omega
  | @matched o ahead hlt h =>
    have hle := hextra ahead
    simp only [Option.getD_some]
    omega

theorem sequence {b : Nat} {tag : Tag} {rules : List Rule}
    (h : Within failing extra
      (1 + effortInOrder (recognise selector b) (effort selector b) rules ts) ts
      (recogniseAll (recognise selector b) rules ts)) :
    Within failing extra (effort selector (b + 1) (.sequence tag rules) ts) ts
      (recognise selector (b + 1) (.sequence tag rules) ts) := by
  rw [effort_sequence, Nat.add_comm, recognise_sequence]
  exact h.map (tagged tag)

variable {F : Rule → List Token → Recognised} {E : Rule → List Token → Nat}
  {rule : Rule} {rules : List Rule} {k : Nat}

theorem done (hlt : ts'.length < ts.length)
    (h : visits + 6 * ts'.length ≤ 6 * ts.length + extra ts') :
    Within failing extra (visits + effortInOrder F E [] ts') ts
      (recogniseAll F [] ts') :=
  .matched hlt h

theorem step (hfails : F rule ts' = none → visits + E rule ts' ≤ failing)
    (hmatches : ∀ o ahead, F rule ts' = some (o, ahead) →
      Within failing extra (visits + E rule ts' + effortInOrder F E rules ahead) ts
        (recogniseAll F rules ahead)) :
    Within failing extra (visits + effortInOrder F E (rule :: rules) ts') ts
      (recogniseAll F (rule :: rules) ts') := by
  rw [recogniseAll_cons, effortInOrder]
  cases hF : F rule ts' with
  | none => exact .failed (hfails hF)
  | some r =>
    obtain ⟨o, ahead⟩ := r
    have hrest := (hmatches o ahead hF).map (o.append ·)
    rw [Nat.add_assoc, Option.map_eq_bind] at hrest
    simp only [Option.bind_some, Option.elim_some]
    exact hrest

/-- A rule that makes something of a token next, with at most `k` visits. -/
theorem ofToken {accepts : Token → Bool}
    (hF : (F rule ts').map Prod.snd = (oneToken accepts ts').map Prod.snd)
    (hE : E rule ts' ≤ k) (hfails : visits + k ≤ failing)
    (hmatches : ∀ t ahead, ts' = t :: ahead → accepts t = true →
      ts'.length = ahead.length + 1 →
      Within failing extra (visits + k + effortInOrder F E rules ahead) ts
        (recogniseAll F rules ahead)) :
    Within failing extra (visits + effortInOrder F E (rule :: rules) ts') ts
      (recogniseAll F (rule :: rules) ts') := by
  refine step (fun _ => by omega) fun o ahead hsome => ?_
  rw [hsome] at hF
  cases ts' with
  | nil => cases hF
  | cons t rest =>
    rw [oneToken] at hF
    split at hF
    · next haccepts =>
      cases hF
      exact (hmatches t _ rfl haccepts rfl).mono (by omega)
    · cases hF

theorem token {accepts : Token → Bool} (hF : F rule ts' = oneToken accepts ts')
    (hE : E rule ts' = k) (hfails : visits + k ≤ failing)
    (hmatches : ∀ t ahead, ts' = t :: ahead → accepts t = true →
      ts'.length = ahead.length + 1 →
      Within failing extra (visits + k + effortInOrder F E rules ahead) ts
        (recogniseAll F rules ahead)) :
    Within failing extra (visits + effortInOrder F E (rule :: rules) ts') ts
      (recogniseAll F (rule :: rules) ts') :=
  ofToken (congrArg _ hF) (Nat.le_of_eq hE) hfails hmatches

/-- A rule with bounds of its own next, and `k` visits more for the reference to it. -/
theorem part (h : Within failing' extra' visits' ts' r) (hF : F rule ts' = r)
    (hE : E rule ts' = visits' + k) (hfails : visits + (failing' + k) ≤ failing)
    (hmatches : ∀ ahead, ahead.length < ts'.length →
      visits' + 6 * ahead.length ≤ 6 * ts'.length + extra' ahead →
      Within failing extra (visits + (visits' + k) + effortInOrder F E rules ahead) ts
        (recogniseAll F rules ahead)) :
    Within failing extra (visits + effortInOrder F E (rule :: rules) ts') ts
      (recogniseAll F (rule :: rules) ts') := by
  subst hF
  refine step (fun hnone => ?_) fun o ahead hsome => ?_
  · rw [hnone] at h
    cases h with
    | failed h => omega
  · rw [hsome] at h
    rw [hE]
    cases h with
    | matched hlt h => exact hmatches ahead hlt h

/-- A rule that may be left out next, and `k` visits more than it takes itself. -/
theorem optional (h : Within failing' extra' visits' ts' r) (bound : List Token → Nat)
    (hfailing : failing' ≤ bound ts') (hextra : ∀ ahead, extra' ahead ≤ bound ahead)
    (hF : F rule ts' = some (r.getD (.done, ts'))) (hE : E rule ts' = visits' + k)
    (hrest : ∀ ahead, (r.getD (.done, ts')).2 = ahead →
      ahead.length ≤ ts'.length →
      visits' + 6 * ahead.length ≤ 6 * ts'.length + bound ahead →
      Within failing extra (visits + (visits' + k) + effortInOrder F E rules ahead) ts
        (recogniseAll F rules ahead)) :
    Within failing extra (visits + effortInOrder F E (rule :: rules) ts') ts
      (recogniseAll F (rule :: rules) ts') := by
  obtain ⟨hle, hvisits⟩ := h.leftOut bound hfailing hextra
  refine step (fun hnone => ?_) fun o ahead hsome => ?_
  · rw [hF] at hnone
    cases hnone
  · rw [hF, Option.some.injEq] at hsome
    rw [hsome] at hle hvisits
    rw [hE]
    exact hrest ahead (by rw [hsome]) hle hvisits

end Within

/-- A reference that may be left out, with an alternation, the reference and the
empty rule. -/
theorem effort_maybe {name : String} {rule : Rule}
    (hg : selector.get? name = some rule) (b : Nat) (ts : List Token) :
    effort selector (b + 2) (maybe name) ts = effort selector b rule ts + 3 := by
  rw [maybe, effort_optional, effort_referTo hg]

theorem effort_symbol (b : Nat) (kind : Kind) (spelling : String) (ts : List Token) :
    effort selector b (symbol kind spelling) ts = 1 :=
  effort_ofPattern b _ ts

theorem effort_identifier (b : Nat) (ts : List Token) :
    effort selector b .identifier ts = 1 :=
  effort_ofPattern b _ ts

/-! ## Selectors -/

theorem effort_sigil (b : Nat) (ts : List Token) :
    effort selector (b + 1)
      (.alternation .blank [symbol .hash "#", symbol .dot "."]) ts = 3 :=
  effort_alternation_ofPattern b _ [.exact .hash "#", .exact .dot "."] ts

theorem effort_name (b : Nat) (ts : List Token) :
    effort selector (b + 1) (.alternation .blank [.identifier, .string]) ts = 3 :=
  effort_alternation_ofPattern b _ [.ofKind .identifier, .ofKind .string] ts

theorem within_selectors : ∀ (b : Nat) (ts : List Token),
    Within 7 (fun _ => 7) (effort selector b selectorsRule ts) ts
      (recognise selector b selectorsRule ts)
  -- the first of its parts is cut off
  | 0, _ | 1, _ | 2, _ => .failed (Nat.le_of_ble_eq_true rfl)
  | b + 3, ts => by
    refine .sequence (.token (recognise_sigil b ts) (effort_sigil _ ts) (by decide) ?_)
    intro s ts1 _ _ hs
    refine .token (recognise_name b ts1) (effort_name _ ts1) (by decide) ?_
    intro n ts2 _ _ hn
    refine .optional (within_selectors b ts2) (fun _ => 7) (by decide)
      (fun _ => Nat.le_refl _) (recognise_maybe get?_selectors b ts2)
      (effort_maybe get?_selectors b ts2) ?_
    intro ahead _ hle hmore
    exact .done (by omega) (by omega)

/-! ## Values, arguments and pseudo-classes -/

theorem effort_value_le (b : Nat) (ts : List Token) :
    effort selector b valueRule ts ≤ 4 :=
  effort_exclusive_ofPattern_le b _ [.ofKind .identifier, .ofKind .digits,
    .ofKind .string] ts

theorem effort_referTo_value_le (b : Nat) (ts : List Token) :
    effort selector b (.referTo RuleName.value) ts ≤ 5 := by
  cases b with
  | zero => exact Nat.le_of_ble_eq_true rfl
  | succ b =>
    rw [effort_referTo get?_value]
    exact Nat.succ_le_succ (effort_value_le b ts)

theorem ahead_referTo_value (b : Nat) (ts : List Token) :
    (recognise selector (b + 3) (.referTo RuleName.value) ts).map Prod.snd =
      (oneToken (fun t => [Pattern.ofKind .identifier, .ofKind .digits,
        .ofKind .string].any (·.accepts t)) ts).map Prod.snd := by
  rw [recognise_referTo get?_value, recognise_value, Option.map_map]
  rfl

/-- What goes on with a list of arguments. -/
def moreArgsRule : Rule :=
  .sequence .blank [symbol .comma ",", .referTo RuleName.args]

theorem within_args : ∀ (b : Nat) (ts : List Token),
    Within 6 (fun _ => 11) (effort selector b argsRule ts) ts
      (recognise selector b argsRule ts)
  | 0, _ | 1, _ | 2, _ | 3, _ => .failed (Nat.le_of_ble_eq_true rfl)
  | b + 4, ts => by
    have hmore : ∀ ts1, Within 9 (fun _ => 8)
        (effort selector (b + 2) moreArgsRule ts1) ts1
        (recognise selector (b + 2) moreArgsRule ts1) := by
      intro ts1
      refine .sequence (.token (recognise_symbol selector b (by decide) "," ts1)
        (effort_symbol _ _ _ ts1) (by decide) ?_)
      intro c ts2 _ _ hc
      refine .part (within_args b ts2) (recognise_referTo get?_args b ts2)
        (effort_referTo get?_args b ts2) (by decide) ?_
      intro ahead hlt hargs
      exact .done (by omega) (by omega)
    refine .sequence (.ofToken (ahead_referTo_value b ts)
      (effort_referTo_value_le _ ts) (by decide) ?_)
    intro v ts1 _ _ hv
    refine .optional (hmore ts1) (fun _ => 9) (by decide) (fun _ => by decide)
      (recognise_optional selector (b + 1) moreArgsRule ts1)
      (effort_optional (b + 2) moreArgsRule ts1) ?_
    intro ahead _ hle hrest
    exact .done (by omega) (by omega)

/-- What a list of arguments can take that is given up because the parenthesis is
not closed: nothing where no parenthesis opens. -/
def wasted : List Token → Nat
  | [] => 0
  | t :: ts =>
    if (Pattern.exact .openParen "(").accepts t then 6 * (ts.length + 1) else 0

theorem within_argumentList (b : Nat) (ts : List Token) :
    Within (9 + wasted ts) (fun _ => 3)
      (effort selector (b + 1) argumentListRule ts) ts
      (recognise selector (b + 1) argumentListRule ts) := by
  cases b with
  | zero => exact .failed (Nat.le_add_right_of_le (Nat.le_of_ble_eq_true rfl))
  | succ b =>
    refine .sequence (.token (recognise_symbol selector b (by decide) "(" ts)
      (effort_symbol _ _ _ ts) (by omega) ?_)
    intro o ts1 hts hopens ho
    have hwasted : wasted ts = 6 * (ts1.length + 1) := by
      rw [hts]
      exact if_pos hopens
    refine .part (within_args b ts1) (recognise_referTo get?_args b ts1)
      (effort_referTo get?_args b ts1) (by omega) ?_
    intro ts2 hlt hargs
    refine .token (recognise_symbol selector b (by decide) ")" ts2)
      (effort_symbol _ _ _ ts2) (by omega) ?_
    intro c ahead _ _ hc
    exact .done (by omega) (by omega)

theorem within_pseudoClass (b : Nat) (ts : List Token) :
    Within 6 (fun ahead => 2 + wasted ahead)
      (effort selector b pseudoClassRule ts) ts
      (recognise selector b pseudoClassRule ts) := by
  match b with
  | 0 | 1 => exact .failed (Nat.le_of_ble_eq_true rfl)
  | b + 2 =>
    refine .sequence (.token (recognise_symbol selector b (by decide) ":" ts)
      (effort_symbol _ _ _ ts) (by decide) ?_)
    intro c ts1 _ _ hc
    refine .token (recognise_identifier selector b ts1) (effort_identifier _ ts1)
      (by decide) ?_
    intro n ts2 _ _ hn
    cases b with
    | zero =>
      -- the arguments are cut off, also where there are none
      have hoptional := effort_optional (g := selector) 0 argumentListRule ts2
      refine .step (fun _ => Nat.le_of_eq (congrArg (3 + ·) hoptional)) ?_
      intro o ahead hsome
      cases hsome
    | succ b =>
      refine .optional (within_argumentList b ts2) (fun ahead => 9 + wasted ahead)
        (Nat.le_refl _) (fun _ => by omega)
        (recognise_optional selector b argumentListRule ts2)
        (effort_optional (b + 1) argumentListRule ts2) ?_
      intro ahead _ hle hlist
      exact .done (by omega) (by omega)

/-! ## Attributes -/

/-- With too few levels for its value an attribute is given up there. -/
theorem effort_attr_le {b : Nat} (hb : b < 3) (ts : List Token) :
    effort selector (b + 1) attrRule ts ≤ 10 := by
  have hfails : ∀ ts, recognise selector b (.referTo RuleName.value) ts = none := by
    intro ts
    match b, hb with
    | 0, _ | 1, _ | 2, _ => rfl
  have hrules : effortInOrder (recognise selector b) (effort selector b)
      [symbol .openBracket "[", .identifier, symbol .equals "=",
        .referTo RuleName.value, symbol .closeBracket "]", maybe RuleName.attr] ts ≤
        1 + (1 + (1 + 5)) :=
    effortInOrder_cons_le (fun ts => Nat.le_of_eq (effort_symbol b _ _ ts))
      (effortInOrder_cons_le (fun ts => Nat.le_of_eq (effort_identifier b ts))
        (effortInOrder_cons_le (fun ts => Nat.le_of_eq (effort_symbol b _ _ ts))
          fun ts => by
            rw [effortInOrder_cons_of_fails hfails]
            exact effort_referTo_value_le b ts)) ts
  exact Nat.succ_le_succ (Nat.le_succ_of_le hrules)

theorem within_attributes : ∀ (b : Nat) (ts : List Token),
    Within 10 (fun _ => 10) (effort selector b attrRule ts) ts
      (recognise selector b attrRule ts)
  | 0, _ => .failed (Nat.le_of_ble_eq_true rfl)
  | 1, ts | 2, ts | 3, ts => by
    rw [recognise_attr_eq_none (by decide)]
    exact .failed (effort_attr_le (by decide) ts)
  | b + 4, ts => by
    refine .sequence (.token (recognise_symbol selector _ (by decide) "[" ts)
      (effort_symbol _ _ _ ts) (by decide) ?_)
    intro o ts1 _ _ ho
    refine .token (recognise_identifier selector _ ts1) (effort_identifier _ ts1)
      (by decide) ?_
    intro n ts2 _ _ hn
    refine .token (recognise_symbol selector _ (by decide) "=" ts2)
      (effort_symbol _ _ _ ts2) (by decide) ?_
    intro e ts3 _ _ he
    refine .ofToken (ahead_referTo_value b ts3) (effort_referTo_value_le _ ts3)
      (by decide) ?_
    intro v ts4 _ _ hv
    refine .token (recognise_symbol selector _ (by decide) "]" ts4)
      (effort_symbol _ _ _ ts4) (by decide) ?_
    intro c ts5 _ _ hc
    refine .optional (within_attributes (b + 1) ts5) (fun _ => 10) (by decide)
      (fun _ => Nat.le_refl _) (recognise_maybe get?_attr _ ts5)
      (effort_maybe get?_attr _ ts5) ?_
    intro ahead _ hle hmore
    exact .done (by omega) (by omega)

/-! ## Where a parenthesis comes next -/

theorem wasted_le (ts : List Token) : wasted ts ≤ 6 * ts.length := by
  cases ts with
  | nil => exact Nat.le_refl _
  | cons t ts =>
    rw [wasted, List.length_cons]
    split
    · exact Nat.le_refl _
    · exact Nat.zero_le _

theorem avoids_of_wasted {ts : List Token} (h : wasted ts ≠ 0) {kinds : List Kind}
    (hk : .openParen ∉ kinds) : Avoids kinds ts := by
  cases ts with
  | nil => exact .nil _
  | cons t ts =>
    rw [wasted] at h
    split at h
    · next hopens =>
      rintro t ⟨⟩
      rw [((Pattern.accepts_exact _ _ t).mp hopens).1]
      exact hk
    · exact absurd rfl h

/-- An attribute begins with a bracket, so it does not come next where a parenthesis
does. -/
theorem wasted_le_of_attr (b : Nat) (ts : List Token) :
    wasted ts ≤ wasted ((recognise selector b attrRule ts).getD (.done, ts)).2 := by
  by_cases hwasted : wasted ts = 0
  · rw [hwasted]
    exact Nat.zero_le _
  · have hreads := reads_attributes b ts
    rw [attributes_eq_none b (avoids_of_wasted hwasted (by decide))] at hreads
    rw [reads_none hreads]
    exact Nat.le_refl _

theorem typed_eq_none (b : Nat) {ts : List Token} (h : Avoids [.identifier, .star] ts) :
    typed b ts = none := by
  match b with
  | 0 | 1 | 2 => rfl
  | b + 3 =>
    rw [typed, first_target_eq_none h]
    rfl

theorem untyped_eq_none (b : Nat) {ts : List Token} (h : Avoids [.hash, .dot] ts) :
    untyped b ts = none := by
  match b with
  | 0 | 1 | 2 => rfl
  | b + 3 =>
    rw [untyped, selectors_eq_none _ h]
    rfl

theorem compound_of_wasted (b : Nat) {ts : List Token} (h : wasted ts ≠ 0) :
    compound b ts = none := by
  rw [compound, typed_eq_none b (avoids_of_wasted h (by decide)),
    untyped_eq_none b (avoids_of_wasted h (by decide))]
  rfl

/-! ## Compounds -/

/-- What both forms of a compound end in always matches, if with nothing. -/
theorem within_qualifiers (b : Nat) {failing visits k : Nat} {ts ts' : List Token}
    (hlt : ts'.length < ts.length)
    (h : visits + 6 * ts'.length + 22 ≤ 6 * ts.length + k) :
    Within failing (fun ahead => k + wasted ahead)
      (visits + effortInOrder (recognise selector (b + 2)) (effort selector (b + 2))
        qualifiers ts') ts
      (recogniseAll (recognise selector (b + 2)) qualifiers ts') := by
  refine .optional (within_pseudoClass b ts') (fun ahead => 6 + wasted ahead)
    (Nat.le_add_right _ _) (fun _ => by omega) (recognise_maybe get?_pseudoClass b ts')
    (effort_maybe get?_pseudoClass b ts') ?_
  intro ts1 _ hle hpseudoClass
  refine .optional (within_attributes b ts1) (fun _ => 10) (Nat.le_refl _)
    (fun _ => Nat.le_refl _) (recognise_maybe get?_attr b ts1)
    (effort_maybe get?_attr b ts1) ?_
  intro ahead hahead hle' hattributes
  have hwasted := wasted_le_of_attr b ts1
  rw [hahead] at hwasted
  exact .done (by omega) (by omega)

theorem effort_target (b : Nat) (ts : List Token) :
    effort selector (b + 1)
      (.alternation .blank [.identifier, symbol .star "*"]) ts = 3 :=
  effort_alternation_ofPattern b _ [.ofKind .identifier, .exact .star "*"] ts

theorem within_typed (b : Nat) (ts : List Token) :
    Within 4 (fun ahead => 30 + wasted ahead)
      (effort selector b typeIdQueryRule ts) ts
      (recognise selector b typeIdQueryRule ts) := by
  match b with
  | 0 | 1 | 2 => exact .failed (Nat.le_of_ble_eq_true rfl)
  | b + 3 =>
    refine .sequence (.token (recognise_target b ts) (effort_target _ ts)
      (by decide) ?_)
    intro t ts1 _ _ ht
    refine .optional (within_selectors b ts1) (fun _ => 7) (Nat.le_refl _)
      (fun _ => Nat.le_refl _) (recognise_maybe get?_selectors b ts1)
      (effort_maybe get?_selectors b ts1) ?_
    intro ts2 _ hle hselectors
    exact within_qualifiers b (by omega) (by omega)

theorem within_untyped (b : Nat) (ts : List Token) :
    Within 9 (fun ahead => 31 + wasted ahead)
      (effort selector b attrQueryRule ts) ts
      (recognise selector b attrQueryRule ts) := by
  match b with
  | 0 | 1 | 2 => exact .failed (Nat.le_of_ble_eq_true rfl)
  | b + 3 =>
    refine .sequence (.part (within_selectors (b + 1) ts)
      (recognise_referTo get?_selectors (b + 1) ts)
      (effort_referTo get?_selectors (b + 1) ts) (by decide) ?_)
    intro ts1 hlt hselectors
    exact within_qualifiers b hlt (by omega)

/-- The rule of the alternatives that a query begins with. -/
def compoundRule : Rule :=
  .alternation .blank [.referTo RuleName.typeIdQuery, .referTo RuleName.attrQuery]

/-- Both forms are tried, but one of them only can match. -/
theorem within_compound (b : Nat) (ts : List Token) :
    Within 16 (fun ahead => 42 + wasted ahead)
      (effort selector (b + 2) compoundRule ts) ts
      (recognise selector (b + 2) compoundRule ts) := by
  have hdisjoint : recognise selector b typeIdQueryRule ts ≠ none →
      recognise selector b attrQueryRule ts = none := by
    intro hmatched
    cases htyped : typed b ts with
    | none => exact absurd (reads_none (htyped ▸ reads_typed b ts)) hmatched
    | some r =>
      have huntyped : untyped b ts = none := untyped_eq_none_of_typed htyped
      exact reads_none (huntyped ▸ reads_untyped b ts)
  have hrecognise : recognise selector (b + 2) compoundRule ts = _ :=
    recognise_alternation selector (b + 1) _ _ ts
  have heffort : effort selector (b + 2) compoundRule ts =
      effort selector b typeIdQueryRule ts +
        effort selector b attrQueryRule ts + 3 := by
    rw [compoundRule, effort]
    simp only [effortOfAll, effort_referTo get?_typeIdQuery,
      effort_referTo get?_attrQuery]
    omega
  simp only [hrecognise, heffort, List.map_cons, List.map_nil,
    recognise_referTo get?_typeIdQuery, recognise_referTo get?_attrQuery]
  have hty := within_typed b ts
  have hun := within_untyped b ts
  generalize recognise selector b typeIdQueryRule ts = r at hty hdisjoint ⊢
  generalize recognise selector b attrQueryRule ts = r' at hun hdisjoint ⊢
  generalize effort selector b typeIdQueryRule ts = ty at hty ⊢
  generalize effort selector b attrQueryRule ts = un at hun ⊢
  cases hty with
  | failed hty =>
    cases hun with
    | failed hun => exact .failed (by omega)
    | matched hlt hun => exact .matched hlt (by dsimp only; omega)
  | matched hlt hty =>
    cases hun with
    | failed hun => exact .matched hlt (by dsimp only; omega)
    | matched => cases hdisjoint (Option.some_ne_none _)

/-! ## Queries -/

theorem effort_query_of_wasted {ts : List Token} (h : wasted ts ≠ 0) (b : Nat) :
    effort selector b queryRule ts ≤ 17 := by
  match b with
  | 0 | 1 | 2 | 3 | 4 => exact Nat.le_of_ble_eq_true rfl
  | b + 5 =>
    have heffort : effort selector (b + 5) queryRule ts = _ :=
      effort_sequence (b + 4) _ [compoundRule, maybe RuleName.subQuery] ts
    have hnone : recognise selector (b + 4) compoundRule ts = none := by
      rcases reads_compound (b + 2) ts with ⟨hnone, -⟩ | ⟨_, _, _, -, hsome, -⟩
      · exact hnone
      · rw [compound_of_wasted _ h] at hsome
        cases hsome
    have hcompound := within_compound (b + 2) ts
    rw [hnone] at hcompound
    cases hcompound with
    | failed hle =>
      rw [heffort, effortInOrder, hnone]
      exact Nat.succ_le_succ hle

/-- A query in a sub-query is tried where the sub-query begins, or after its `>`. -/
theorem effort_subQuery_le {b n : Nat} {ts : List Token}
    (h : ∀ ts', ts'.length ≤ ts.length → (wasted ts ≠ 0 → ts' = ts) →
      effort selector b queryRule ts' ≤ n) :
    effort selector (b + 2) subQueryRule ts ≤ n + 5 := by
  cases b with
  | zero => exact Nat.le_add_left_of_le (Nat.le_of_ble_eq_true rfl)
  | succ b =>
    have heffort : effort selector (b + 3) subQueryRule ts = _ :=
      effort_sequence (b + 2) _ _ ts
    rw [heffort, effortInOrder]
    simp only [recognise_optional, effort_optional, effort_symbol,
      recognise_symbol selector _ (by decide : Kind.greater ≠ _),
      Option.elim_some, effortInOrder_singleton, effort_referBackTo get?_query]
    rcases oneToken_first (accepts_symbol .greater ">") ts with
      ⟨hfirst, -⟩ | ⟨t, u, ts1, rfl, -, hfirst, hgreater⟩
    · have hquery := h ts (Nat.le_refl _) fun _ => rfl
      simp only [hfirst, Option.getD_none]
      omega
    · have hquery := h ts1 (Nat.le_succ _) fun hwasted => by
        rw [first_symbol_eq_none (avoids_of_wasted hwasted (by decide))] at hgreater
        cases hgreater
      simp only [hfirst, Option.getD_some]
      omega

/-- **Matching does not blow up**: a query takes no more than 57 visits for each
token ahead, and 17 more. -/
theorem effort_query_le : ∀ (b : Nat) (ts : List Token),
    effort selector b queryRule ts ≤ 57 * ts.length + 17
  | 0, _ | 1, _ | 2, _ | 3, _ | 4, _ =>
    Nat.le_add_left_of_le (Nat.le_of_ble_eq_true rfl)
  | b + 5, ts => by
    have heffort : effort selector (b + 5) queryRule ts = _ :=
      effort_sequence (b + 4) _ [compoundRule, maybe RuleName.subQuery] ts
    rw [heffort, effortInOrder]
    simp only [effortInOrder_singleton, effort_maybe get?_subQuery]
    have hcompound := within_compound (b + 2) ts
    generalize recognise selector (b + 4) compoundRule ts = r at hcompound ⊢
    generalize effort selector (b + 4) compoundRule ts = c at hcompound ⊢
    cases hcompound with
    | failed hc =>
      rw [Option.elim_none]
      omega
    | @matched _ ts1 hlt hc =>
      simp only [Option.elim_some]
      by_cases hwasted : wasted ts1 = 0
      · have hsub : effort selector (b + 2) subQueryRule ts1 ≤
            57 * ts1.length + 17 + 5 :=
          effort_subQuery_le fun ts' hle _ =>
            Nat.le_trans (effort_query_le b ts') (by omega)
        omega
      · -- nothing goes on at a parenthesis, so what was lost there is lost once
        have hsub : effort selector (b + 2) subQueryRule ts1 ≤ 17 + 5 :=
          effort_subQuery_le fun ts' _ heq =>
            heq hwasted ▸ effort_query_of_wasted hwasted b
        have hlength := wasted_le ts1
        omega

end SceneSelector.Evaluation

namespace SceneSelector

namespace Log

instance (words : String) (e : Entry) : Decidable (e.Warns words) :=
  inferInstanceAs (Decidable (e.level = .warn ∧ words.toList <+: e.message.toList))

/-- How many visits are reported: those of rules that are tried, and those beyond the
depth limit. -/
def reportedVisits (maxDepth : Nat) (es : List Entry) : Nat :=
  es.countP (·.level = .trace) + es.countP (·.Warns (depthWarning maxDepth))

/-- No record reports two visits. -/
theorem reportedVisits_le_length (maxDepth : Nat) (es : List Entry) :
    reportedVisits maxDepth es ≤ es.length := by
  induction es with
  | nil => exact Nat.le_refl _
  | cons e es ih =>
    simp only [reportedVisits, List.countP_cons, List.length_cons] at ih ⊢
    by_cases htrace : e.level = .trace
    · have hwarns : ¬ e.Warns (depthWarning maxDepth) := by
        rintro ⟨hwarn, -⟩
        rw [htrace] at hwarn
        cases hwarn
      simp only [htrace, hwarns, decide_true, decide_false, if_true,
        Bool.false_eq_true, if_false]
      omega
    · simp only [htrace, decide_false, Bool.false_eq_true, if_false]
      split <;> omega

/-- What is reported of an outcome is no visit. -/
theorem reportedVisits_append_outcome (maxDepth : Nat) (es : List Entry)
    (o : Outcome) :
    reportedVisits maxDepth (es ++ [ofOutcome o]) = reportedVisits maxDepth es := by
  simp [reportedVisits, ofOutcome, Entry.Warns]

end Log

namespace Matcher

/-- Parsing visits no more rules than 64 for each token and 64 more, whatever the
limit is: attempts that are given up do not add up. -/
theorem reportedVisits_parseLog_le (d : Nat) (tokens : List Token) :
    Log.reportedVisits d ((selector d).parseLog tokens) ≤
      64 * (tokens.length + 1) := by
  have hvisits : ((selector d).visits Grammar.queryRule (.ofTokens tokens)).length =
      Evaluation.effort .selector (d + 1) Grammar.queryRule tokens :=
    Evaluation.length_visits .selector tokens (d + 1) 0 Grammar.queryRule 0
      (Nat.zero_le _)
  have heffort := Evaluation.effort_query_le (d + 1) tokens
  calc Log.reportedVisits d ((selector d).parseLog tokens)
      = Log.reportedVisits d
          ((selector d).evaluationLog Grammar.queryRule (.ofTokens tokens)) :=
        Log.reportedVisits_append_outcome d _ _
    _ ≤ ((selector d).evaluationLog Grammar.queryRule (.ofTokens tokens)).length :=
        Log.reportedVisits_le_length d _
    _ = ((selector d).visits Grammar.queryRule (.ofTokens tokens)).length :=
        List.length_map _
    _ ≤ 64 * (tokens.length + 1) := by omega

end Matcher

end SceneSelector
