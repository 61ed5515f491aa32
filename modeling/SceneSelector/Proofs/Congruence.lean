import Mathlib.Data.List.Forall2
import SceneSelector.Evaluation

/-!
# Evaluating related rules

Two evaluations are compared in one way again and again: by how their records
look (`view`), for rules that correspond to each other (`Mirrors`). All that a
rule goes by are the verdicts on the rules below it, and its course depends on
no more than whether they matched and where they stopped. So if a view shows at
least that of a record (`Guiding`), then evaluations that mirror each other rule
by rule do so for lists of rules as well, whichever way the lists are tried: they
go on, they stop and they choose at the same places. The depth flag is passed on
and has no part in this; a view that shows it as well is `Faithful`.

Some comparisons hold only of records of a certain kind, as those without the
depth flag. `admits` says of which, and then a list is compared if it admits
all the records that are made for it.
-/

namespace SceneSelector

/-! ## Verdicts -/

/-- What the rules around a rule go by. -/
structure Verdict where
  matched : Bool
  stop : Nat
  depthExceeded : Bool
deriving DecidableEq, Repr

namespace Record

def verdict (r : Record) : Verdict :=
  ⟨r.matched, r.stop, r.depthExceeded⟩

theorem verdict_eq_iff {r r' : Record} :
    r'.verdict = r.verdict ↔ r'.matched = r.matched ∧ r'.stop = r.stop ∧
      r'.depthExceeded = r.depthExceeded := by
  simp [verdict]

/-- The verdict on a sequence is made up of those on its parts. -/
theorem verdict_ofSequence (rule : Rule) (start : Nat) (parts : List Record) :
    (ofSequence rule start parts).verdict =
      ⟨(parts.map verdict).all Verdict.matched,
        ((parts.map verdict).getLast?.map Verdict.stop).getD start,
        (parts.map verdict).any Verdict.depthExceeded⟩ := by
  simp only [verdict, ofSequence, List.all_map, List.any_map,
    List.getLast?_map, Option.map_map, Function.comp_def]

/-- The verdict on an alternation needs no more of the choice than where it
stops. -/
theorem verdict_ofChoice (rule : Rule) (start : Nat) (attempts : List Record)
    (choice : Option Record) :
    (ofChoice rule start attempts choice).verdict =
      ⟨(choice.map stop).isSome, (choice.map stop).getD start,
        (attempts.map verdict).any Verdict.depthExceeded⟩ := by
  cases choice <;>
    simp only [verdict, ofChoice, List.any_map, Function.comp_def,
      Option.map_none, Option.map_some, Option.isSome_none, Option.isSome_some,
      Option.getD_none, Option.getD_some]

end Record

namespace Evaluation

open Record (verdict)

variable {α : Type} {view : Record → α}

/-! ## Views -/

/-- Two records that look the same. -/
def Alike (view : Record → α) (r r' : Record) : Prop :=
  view r' = view r

theorem map_eq_of_alike {rs rs' : List Record}
    (h : List.Forall₂ (Alike view) rs rs') : rs'.map view = rs.map view := by
  induction h with
  | nil => rfl
  | cons hhead _ ih => rw [List.map_cons, List.map_cons, hhead, ih]

/-- Records that look the same matched alike and stopped at the same place. -/
def Guiding (view : Record → α) : Prop :=
  ∀ ⦃r r' : Record⦄, Alike view r r' →
    r'.matched = r.matched ∧ r'.stop = r.stop

/-- The same verdict is passed on records that look the same. -/
def Faithful (view : Record → α) : Prop :=
  ∀ ⦃r r' : Record⦄, Alike view r r' → r'.verdict = r.verdict

namespace Guiding

variable (hview : Guiding view)

include hview

theorem matched {r r' : Record} (h : Alike view r r') :
    r'.matched = r.matched :=
  (hview h).1

theorem stop {r r' : Record} (h : Alike view r r') : r'.stop = r.stop :=
  (hview h).2

theorem map_stop {o o' : Option Record} (h : Option.Rel (Alike view) o o') :
    o'.map Record.stop = o.map Record.stop := by
  cases h with
  | none => rfl
  | some hlook => rw [Option.map_some, Option.map_some, hview.stop hlook]

theorem all_matched {rs rs' : List Record}
    (h : List.Forall₂ (Alike view) rs rs') :
    rs'.all Record.matched = rs.all Record.matched := by
  induction h with
  | nil => rfl
  | cons hhead _ ih =>
    rw [List.all_cons, List.all_cons, hview.matched hhead, ih]

theorem stop_getLast? {rs rs' : List Record}
    (h : List.Forall₂ (Alike view) rs rs') :
    rs'.getLast?.map Record.stop = rs.getLast?.map Record.stop := by
  have hstops : rs'.map Record.stop = rs.map Record.stop :=
    map_eq_of_alike (h.imp fun _ _ => hview.stop)
  rw [← List.getLast?_map, ← List.getLast?_map, hstops]

theorem furthest {rs rs' : List Record}
    (h : List.Forall₂ (Alike view) rs rs') :
    Option.Rel (Alike view) (furthest rs) (furthest rs') := by
  induction h with
  | nil => exact .none
  | @cons r r' rs rs' hhead _ ih =>
    simp only [Evaluation.furthest, hview.matched hhead]
    split
    · generalize Evaluation.furthest rs = o, Evaluation.furthest rs' = o' at ih
      cases ih with
      | none => exact .some hhead
      | some hbest =>
        simp only [hview.stop hhead, hview.stop hbest]
        split
        · exact .some hbest
        · exact .some hhead
    · exact ih

theorem find?_matched {rs rs' : List Record}
    (h : List.Forall₂ (Alike view) rs rs') :
    Option.Rel (Alike view) (rs.find? Record.matched)
      (rs'.find? Record.matched) := by
  induction h with
  | nil => exact .none
  | cons hhead _ ih =>
    simp only [List.find?_cons, hview.matched hhead]
    split
    · exact .some hhead
    · exact ih

end Guiding

namespace Faithful

variable (hview : Faithful view)

include hview

theorem guiding : Guiding view :=
  fun _ _ h => ⟨congrArg Verdict.matched (hview h),
    congrArg Verdict.stop (hview h)⟩

theorem depthExceeded {r r' : Record} (h : Alike view r r') :
    r'.depthExceeded = r.depthExceeded :=
  congrArg Verdict.depthExceeded (hview h)

theorem map_verdict {rs rs' : List Record}
    (h : List.Forall₂ (Alike view) rs rs') :
    rs'.map verdict = rs.map verdict :=
  map_eq_of_alike (h.imp fun _ _ hlook => hview hlook)

end Faithful

/-! ## Lists of rules -/

/-- Trying a rule with `f'` looks like trying a related rule with `f`, where
the record of the latter is admitted. -/
def Mirrors (related : Rule → Rule → Prop) (admits : Record → Prop)
    (view : Record → α) (f f' : Rule → Nat → Record) : Prop :=
  ∀ ⦃rule rule' : Rule⦄ (start : Nat), related rule rule' →
    admits (f rule start) → Alike view (f rule start) (f' rule' start)

variable {related : Rule → Rule → Prop} {admits : Record → Prop}
  {f f' : Rule → Nat → Record} {rules rules' : List Rule}

theorem Mirrors.inOrder (h : Mirrors related admits view f f')
    (hview : Guiding view) (hrules : List.Forall₂ related rules rules')
    (start : Nat) (hadmits : ∀ r ∈ inOrder f rules start, admits r) :
    List.Forall₂ (Alike view) (inOrder f rules start)
      (inOrder f' rules' start) := by
  induction hrules generalizing start with
  | nil => exact .nil
  | @cons rule rule' rules rules' hrule _ ih =>
    simp only [Evaluation.inOrder] at hadmits ⊢
    have hhead : Alike view (f rule start) (f' rule' start) := by
      apply h start hrule
      split at hadmits <;> exact hadmits _ List.mem_cons_self
    rw [hview.matched hhead, hview.stop hhead]
    split
    · next hm =>
      rw [if_pos hm] at hadmits
      exact .cons hhead (ih _ (List.forall_mem_cons.mp hadmits).2)
    · exact .cons hhead .nil

theorem Mirrors.untilMatch (h : Mirrors related admits view f f')
    (hview : Guiding view) (hrules : List.Forall₂ related rules rules')
    (start : Nat) (hadmits : ∀ r ∈ untilMatch f start rules, admits r) :
    List.Forall₂ (Alike view) (untilMatch f start rules)
      (untilMatch f' start rules') := by
  induction hrules with
  | nil => exact .nil
  | @cons rule rule' rules rules' hrule _ ih =>
    simp only [Evaluation.untilMatch] at hadmits ⊢
    have hhead : Alike view (f rule start) (f' rule' start) := by
      apply h start hrule
      split at hadmits <;> exact hadmits _ List.mem_cons_self
    rw [hview.matched hhead]
    split
    · exact .cons hhead .nil
    · next hm =>
      rw [if_neg hm] at hadmits
      exact .cons hhead (ih (List.forall_mem_cons.mp hadmits).2)

/-- All rules are tried at the same position, whatever comes of each. -/
theorem Mirrors.map (h : Mirrors related admits view f f')
    (hrules : List.Forall₂ related rules rules') (start : Nat)
    (hadmits : ∀ r ∈ rules.map (f · start), admits r) :
    List.Forall₂ (Alike view) (rules.map (f · start))
      (rules'.map (f' · start)) := by
  induction hrules with
  | nil => exact .nil
  | cons hrule _ ih =>
    obtain ⟨hhead, htail⟩ := List.forall_mem_cons.mp hadmits
    exact .cons (h start hrule hhead) (ih htail)

end Evaluation

end SceneSelector
