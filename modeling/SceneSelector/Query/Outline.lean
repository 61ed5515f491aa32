import SceneSelector.Record

/-!
# Outlines of match records

Reading a query back needs little of a record: the tokens that were accepted
and which named rule each of them belongs to. The outline of a record lists,
in order, the tokens and the named records directly below it, where records
without a name are replaced by what is below them, and records that did not
match are left out. Of a token it keeps kind and literal, of a named record
the name and its own outline.
-/

namespace SceneSelector

inductive Outline where
  | done
  /-- A token, and what comes after it. -/
  | word (kind : Kind) (literal : String) (rest : Outline)
  /-- A named record with its outline, and what comes after it. -/
  | part (name : String) (inside rest : Outline)
deriving DecidableEq, Repr

namespace Outline

/-- One outline after the other. -/
def append : Outline → Outline → Outline
  | done, o => o
  | word kind literal rest, o => word kind literal (rest.append o)
  | part name inside rest, o => part name inside (rest.append o)

end Outline

namespace Record

mutual

/-- The outline of what is below a record. -/
def outline : Record → Outline
  | ⟨_, _, _, _, _, children, _⟩ => outlineAll children

/-- What a record contributes to the outline of the one above it. A literal
that has a name still counts as its token. -/
def outlineItem : Record → Outline
  | ⟨rule, _, _, matched, token, children, _⟩ =>
    if matched then
      match token, rule.name with
      | some t, _ => .word t.kind t.literal .done
      | none, some name => .part name (outlineAll children) .done
      | none, none => outlineAll children
    else .done

def outlineAll : List Record → Outline
  | [] => .done
  | r :: rs => (outlineItem r).append (outlineAll rs)

end

end Record

end SceneSelector
