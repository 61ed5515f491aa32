import SceneSelector.Matcher
import SceneSelector.Proofs.Congruence

/-!
# Evaluation under a larger budget

The flag `depthExceeded` of a record is the record's word that nothing below
it was cut off. `extends_evaluate_of_le` takes it at that word: a record without
the flag is the same under every larger budget. The three ways of trying several
rules keep every attempt where the flag is read off (`ofSequence`,
`ofChoice`), so each of them is a congruence (`Mirrors`): if no attempt is
flagged, attempts that agree on unflagged records give the same list.
-/

namespace SceneSelector.Evaluation

/-- `f'` gives every record that `f` gives without the depth flag. -/
def Extends (f f' : Rule → Nat → Record) : Prop :=
  ∀ rule start, (f rule start).depthExceeded = false →
    f' rule start = f rule start

/-- A record is a view of itself. -/
theorem faithful_id : Faithful (id : Record → Record) :=
  fun _ _ h => congrArg Record.verdict h

section

variable {f f' : Rule → Nat → Record} (h : Extends f f')

include h

theorem Extends.mirrors :
    Mirrors Eq (fun r => r.depthExceeded = false) id f f' := by
  rintro rule _ start rfl hflag
  exact h rule start hflag

theorem Extends.inOrder (rules : List Rule) (start : Nat)
    (hflag : (inOrder f rules start).any Record.depthExceeded = false) :
    inOrder f' rules start = inOrder f rules start := by
  have halike := h.mirrors.inOrder faithful_id.guiding
    (List.forall₂_refl rules) start (by simpa using hflag)
  simpa using map_eq_of_alike halike

theorem Extends.untilMatch (start : Nat) (rules : List Rule)
    (hflag : (untilMatch f start rules).any Record.depthExceeded = false) :
    untilMatch f' start rules = untilMatch f start rules := by
  have halike := h.mirrors.untilMatch faithful_id.guiding
    (List.forall₂_refl rules) start (by simpa using hflag)
  simpa using map_eq_of_alike halike

theorem Extends.map (start : Nat) (rules : List Rule)
    (hflag : (rules.map (f · start)).any Record.depthExceeded = false) :
    rules.map (f' · start) = rules.map (f · start) := by
  have halike := h.mirrors.map (List.forall₂_refl rules) start
    (by simpa using hflag)
  simpa using map_eq_of_alike halike

end

theorem depthExceeded_ofChoice (rule : Rule) (start : Nat)
    (attempts : List Record) (choice : Option Record) :
    (Record.ofChoice rule start attempts choice).depthExceeded =
      attempts.any Record.depthExceeded := by
  cases choice <;> rfl

/-- **The flag is honest**: what was evaluated without running into the limit
is evaluated in the same way under every larger budget. -/
theorem extends_evaluate_of_le (g : Grammar) (tokens : List Token)
    {budget budget' : Nat} (hle : budget ≤ budget') :
    Extends (evaluate g tokens budget) (evaluate g tokens budget') := by
  induction budget generalizing budget' with
  | zero =>
    intro rule start hflag
    simp [evaluate, Record.cut] at hflag
  | succ budget ih =>
    obtain ⟨budget', rfl⟩ : ∃ n, budget' = n + 1 := ⟨budget' - 1, by omega⟩
    have hext : Extends (evaluate g tokens budget)
        (evaluate g tokens budget') := ih (by omega)
    intro rule start hflag
    cases rule with
    | literal tag pattern => rfl
    | sequence tag rules =>
      simp only [evaluate] at hflag ⊢
      rw [hext.inOrder rules start hflag]
    | alternation tag rules =>
      simp only [evaluate, depthExceeded_ofChoice] at hflag ⊢
      rw [hext.map start rules hflag]
    | exclusive tag rules =>
      simp only [evaluate, depthExceeded_ofChoice] at hflag ⊢
      rw [hext.untilMatch start rules hflag]
    | empty tag => rfl
    | reference tag target lazy =>
      simp only [evaluate] at hflag ⊢
      cases hg : g.get? target with
      | none => rfl
      | some rule =>
        rw [hg] at hflag
        exact hext rule start hflag

end SceneSelector.Evaluation

namespace SceneSelector.Matcher

/-- The record of a rule at a cursor does not depend on the limit if it was
made without running into it. The rule need not be one of the grammar's. -/
theorem evaluate_eq_of_not_depthExceeded (g : Grammar) {d d' : Nat}
    (hle : d ≤ d') (rule : Rule) (c : Cursor)
    (hflag : ((Matcher.mk g d).evaluate rule c).depthExceeded = false) :
    (Matcher.mk g d').evaluate rule c = (Matcher.mk g d).evaluate rule c :=
  Evaluation.extends_evaluate_of_le g c.tokens (Nat.succ_le_succ hle) rule
    c.position hflag

/-- `a := (identifier / -> a)`, which refers to itself before it has read
anything. -/
def leftRecursiveRule : Rule :=
  .exclusive ⟨some "a", 0⟩ [.identifier, .referTo "a"]

/-- The first alternative fits, so the circle is never entered, and three
levels are as good as ten. -/
theorem evaluate_leftRecursiveRule_at_identifier :
    let g : Grammar := ⟨[leftRecursiveRule], leftRecursiveRule⟩
    let c := Cursor.ofTokens [⟨.identifier, "x", ⟨0, 1⟩⟩]
    2 ≤ 9 ∧
    ((Matcher.mk g 2).evaluate (.referTo "a") c).depthExceeded = false ∧
    (Matcher.mk g 9).evaluate (.referTo "a") c =
      (Matcher.mk g 2).evaluate (.referTo "a") c :=
  ⟨by decide, by decide,
    evaluate_eq_of_not_depthExceeded _ (by decide) _ _ (by decide)⟩

end SceneSelector.Matcher
