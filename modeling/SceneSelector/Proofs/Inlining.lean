import SceneSelector.Proofs.Budget
import SceneSelector.Proofs.Congruence

/-!
# References written out

A reference stands for the rule that it names. Write out references in a rule,
any of them and at any depth, by copies of the rules that they name
(`Grammar.Inlines`), and the records stay as they were, but for the rules that
they are of: these now have copies below them where references were. A listing
shows no difference (`listing_of_inlines`).

A rule that is written out needs one level less than the reference to it, so
under the same limit it is evaluated with one level to spare. That is where
the limit comes in: what ran into it with the reference may do without.
-/

namespace SceneSelector

/-- `rule'` is `rule` with some references to rules of the grammar replaced by
copies of these rules. In the copies references may be replaced again, and the
name that a reference may have of its own is lost with it. -/
inductive Grammar.Inlines (g : Grammar) : Rule → Rule → Prop where
  | refl {rule : Rule} : g.Inlines rule rule
  | sequence {tag : Tag} {rules rules' : List Rule}
      (each : List.Forall₂ g.Inlines rules rules') :
      g.Inlines (.sequence tag rules) (.sequence tag rules')
  | alternation {tag : Tag} {rules rules' : List Rule}
      (each : List.Forall₂ g.Inlines rules rules') :
      g.Inlines (.alternation tag rules) (.alternation tag rules')
  | exclusive {tag : Tag} {rules rules' : List Rule}
      (each : List.Forall₂ g.Inlines rules rules') :
      g.Inlines (.exclusive tag rules) (.exclusive tag rules')
  | reference {tag : Tag} {target : String} {lazy : Bool} {found rule' : Rule}
      (get : g.get? target = some found)
      (rest : g.Inlines found.duplicate rule') :
      g.Inlines (.reference tag target lazy) rule'

/-! ## Listings -/

namespace Record

/-- What a full listing shows of a record: its level in the tree, what it is
of and what became of it, and how many records are directly below it. -/
structure Line where
  level : Nat
  label : String
  name : Option String
  matched : Bool
  start : Nat
  stop : Nat
  depthExceeded : Bool
  token : Option Token
  childCount : Nat
deriving DecidableEq, Repr

def line (level : Nat) (r : Record) : Line :=
  ⟨level, r.rule.label, r.name, r.matched, r.start, r.stop, r.depthExceeded,
    r.token, r.children.length⟩

/-- The lines of a record and of all records below it, parents first. The
record's own level is `level`. -/
def linesFrom (r : Record) (level : Nat) : List Line :=
  (r.levels level).map fun (level, r) => line level r

/-- The lines of a tree whose root is the record. -/
def listing (r : Record) : List Line :=
  r.linesFrom 0

theorem levelsAll_eq_flatMap (level : Nat) (rs : List Record) :
    levelsAll level rs = rs.flatMap (levels level) := by
  induction rs with
  | nil => rfl
  | cons r rs ih => rw [levelsAll, ih, List.flatMap_cons]

theorem linesFrom_eq (r : Record) (level : Nat) :
    r.linesFrom level =
      line level r :: r.children.flatMap (linesFrom · (level + 1)) := by
  cases r
  simp only [linesFrom, levels, levelsAll_eq_flatMap, List.map_cons,
    List.map_flatMap]

end Record

/-! ## Evaluation -/

namespace Evaluation

open Record

theorem faithful_linesFrom : Faithful linesFrom := by
  intro r r' h
  have hlines : r'.linesFrom 0 = r.linesFrom 0 := congrFun h 0
  rw [linesFrom_eq, linesFrom_eq] at hlines
  have hline : line 0 r' = line 0 r := (List.cons.inj hlines).1
  exact verdict_eq_iff.mpr ⟨congrArg Line.matched hline,
    congrArg Line.stop hline, congrArg Line.depthExceeded hline⟩

/-- Of the rule, a listing shows the label and the name. -/
theorem alike_of_children {r r' : Record} (hlabel : r'.rule.label = r.rule.label)
    (hname : r'.name = r.name) (hstart : r'.start = r.start)
    (htoken : r'.token = r.token) (hverdict : r'.verdict = r.verdict)
    (hchildren : List.Forall₂ (Alike linesFrom) r.children r'.children) :
    Alike linesFrom r r' := by
  obtain ⟨hmatched, hstop, hflag⟩ := verdict_eq_iff.mp hverdict
  have hbelow (level : Nat) : r'.children.flatMap (linesFrom · level) =
      r.children.flatMap (linesFrom · level) := by
    have hlook := congrArg (List.flatMap (· level)) (map_eq_of_alike hchildren)
    rwa [List.flatMap_map, List.flatMap_map] at hlook
  funext level
  rw [linesFrom_eq, linesFrom_eq, hbelow, line, line, hlabel, hname, hstart,
    htoken, hmatched, hstop, hflag, hchildren.length_eq]

section

variable {rule rule' : Rule} (hlabel : rule'.label = rule.label)
  (hname : rule'.name = rule.name) {start : Nat}

include hlabel hname

theorem alike_ofSequence {parts parts' : List Record}
    (h : List.Forall₂ (Alike linesFrom) parts parts') :
    Alike linesFrom (ofSequence rule start parts)
      (ofSequence rule' start parts') := by
  refine alike_of_children hlabel hname rfl rfl ?_ h
  rw [verdict_ofSequence, verdict_ofSequence, faithful_linesFrom.map_verdict h]

theorem alike_ofChoice {attempts attempts' : List Record}
    {choice choice' : Option Record}
    (h : List.Forall₂ (Alike linesFrom) attempts attempts')
    (hchoice : Option.Rel (Alike linesFrom) choice choice') :
    Alike linesFrom (ofChoice rule start attempts choice)
      (ofChoice rule' start attempts' choice') := by
  have hverdict : (ofChoice rule' start attempts' choice').verdict =
      (ofChoice rule start attempts choice).verdict := by
    rw [verdict_ofChoice, verdict_ofChoice, faithful_linesFrom.map_verdict h,
      faithful_linesFrom.guiding.map_stop hchoice]
  cases hchoice with
  | none => exact alike_of_children hlabel hname rfl rfl hverdict .nil
  | some hlook =>
    exact alike_of_children hlabel hname rfl rfl hverdict (.cons hlook .nil)

end

/-- Where nothing was cut off, writing out references does not show. -/
theorem mirrors_inlines (g : Grammar) (tokens : List Token) (n : Nat) :
    Mirrors g.Inlines (fun r => r.depthExceeded = false) linesFrom
      (evaluate g tokens n) (evaluate g tokens n) := by
  induction n with
  | zero =>
    intro rule rule' start _ hflag
    cases hflag
  | succ n ih =>
    intro rule rule' start h hflag
    cases h with
    | refl => rfl
    | sequence each =>
      exact alike_ofSequence rfl rfl (ih.inOrder faithful_linesFrom.guiding each
        start (by simpa [evaluate, ofSequence] using hflag))
    | alternation each =>
      simp only [evaluate, depthExceeded_ofChoice, List.any_eq_false] at hflag
      have hattempts := ih.map each start (by simpa using hflag)
      simp only [evaluate]
      refine alike_ofChoice ?_ ?_ hattempts
        (faithful_linesFrom.guiding.furthest hattempts) <;> rfl
    | exclusive each =>
      simp only [evaluate, depthExceeded_ofChoice, List.any_eq_false] at hflag
      have hattempts := ih.untilMatch faithful_linesFrom.guiding each start
        (by simpa using hflag)
      simp only [evaluate]
      refine alike_ofChoice ?_ ?_ hattempts
        (faithful_linesFrom.guiding.find?_matched hattempts) <;> rfl
    | @reference tag target lazy found _ get rest =>
      have htarget : evaluate g tokens (n + 1) (.reference tag target lazy)
          start = evaluate g tokens n found start := by
        simp only [evaluate, get]
      rw [htarget] at hflag ⊢
      rw [Rule.duplicate_eq] at rest
      have hlook := ih start rest hflag
      have hflag' : (evaluate g tokens n rule' start).depthExceeded = false := by
        rw [faithful_linesFrom.depthExceeded hlook, hflag]
      -- the level that the reference took is to spare
      rwa [extends_evaluate_of_le g tokens (Nat.le_add_right n 1) rule' start
        hflag']

end Evaluation

namespace Matcher

/-- **References are transparent in every context**: a rule that was evaluated
without running into the limit is evaluated in the same way, and again without
running into it, with any of its references written out. -/
theorem listing_of_inlines (m : Matcher) {rule rule' : Rule}
    (h : m.grammar.Inlines rule rule') (c : Cursor)
    (hflag : (m.evaluate rule c).depthExceeded = false) :
    (m.evaluate rule' c).depthExceeded = false ∧
      (m.evaluate rule' c).listing = (m.evaluate rule c).listing := by
  have hlook :=
    Evaluation.mirrors_inlines m.grammar c.tokens m.budget c.position h hflag
  constructor
  · exact (Evaluation.faithful_linesFrom.depthExceeded hlook).trans hflag
  · exact congrFun hlook 0

/-- One of two references to `value` written out, and the name that it had of
its own gone with it. -/
theorem listing_of_inlines_at_value :
    let rule := Rule.sequence .blank
      [(Rule.referTo RuleName.value).named "first", .referTo RuleName.value]
    let rule' := Rule.sequence .blank
      [Grammar.valueRule, .referTo RuleName.value]
    let m := Matcher.selector 3
    let c := Cursor.ofTokens
      [⟨.identifier, "x", ⟨0, 1⟩⟩, ⟨.digits, "1", ⟨1, 2⟩⟩]
    m.grammar.Inlines rule rule' ∧
      (m.evaluate rule c).depthExceeded = false ∧
      (m.evaluate rule' c).depthExceeded = false ∧
      (m.evaluate rule' c).listing = (m.evaluate rule c).listing := by
  intro rule rule' m c
  have h : m.grammar.Inlines rule rule' :=
    .sequence (.cons (.reference rfl .refl) (.cons .refl .nil))
  have hflag : (m.evaluate rule c).depthExceeded = false := by decide
  exact ⟨h, hflag, listing_of_inlines m h c hflag⟩

end Matcher

end SceneSelector
