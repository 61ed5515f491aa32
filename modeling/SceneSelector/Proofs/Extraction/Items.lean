import SceneSelector.Proofs.Shape
import SceneSelector.Query.Outline

/-!
# The items of a record

An outline keeps of a record what a query is read from, and it is made before
reading begins. The same can be read from the records themselves: the items of a
record are the tokens and the named records directly below it, as records. They
have the outline that the record has (`outline_eq_ofItems`), and a record among
them is a proper part of the tree (`below_of_mem_items`), however the tree has come
about.
-/

namespace SceneSelector

namespace Record

/-- What stands directly below a record. -/
inductive Item where
  | token (t : Token)
  /-- A record that has a name. -/
  | rule (r : Record)

mutual

/-- What a record contributes to the items of the one above it. -/
def collect : Record → List Item
  | ⟨rule, start, stop, matched, token, children, depthExceeded⟩ =>
    if matched then
      match token, rule.name with
      | some t, _ => [.token t]
      | none, some _ =>
        [.rule ⟨rule, start, stop, matched, token, children, depthExceeded⟩]
      | none, none => collectAll children
    else []

def collectAll : List Record → List Item
  | [] => []
  | r :: rs => collect r ++ collectAll rs

end

/-- Tokens and named records directly below a record, where records without a name
are replaced by what is below them. -/
def items (r : Record) : List Item :=
  collectAll r.children

/-! ## Descent -/

/-- The record is in the tree of one of the children of `r`. -/
def Below (c r : Record) : Prop :=
  ∃ child ∈ r.children, c ∈ child.preorder

/-- How many records there are in the tree of a record. -/
def size (r : Record) : Nat :=
  r.preorder.length

variable {c r : Record}

theorem size_pos (r : Record) : 0 < r.size := by
  rw [size, preorder_eq]
  exact Nat.zero_lt_succ _

theorem below_iff : c.Below r ↔ c ∈ preorderAll r.children :=
  mem_preorderAll.symm

mutual

theorem size_le_of_mem_preorder : ∀ r : Record, c ∈ r.preorder → c.size ≤ r.size
  | ⟨rule, start, stop, matched, token, children, depthExceeded⟩, h => by
    rcases List.mem_cons.mp h with rfl | h
    · exact Nat.le_refl _
    · exact Nat.le_succ_of_le (size_le_of_mem_preorderAll children h)

theorem size_le_of_mem_preorderAll : ∀ rs : List Record, c ∈ preorderAll rs →
    c.size ≤ (preorderAll rs).length
  | r :: rs, h => by
    rw [preorderAll, List.length_append]
    rcases List.mem_append.mp h with h | h
    · exact Nat.le_trans (size_le_of_mem_preorder r h) (Nat.le_add_right _ _)
    · exact Nat.le_trans (size_le_of_mem_preorderAll rs h) (Nat.le_add_left _ _)

end

mutual

theorem mem_preorder_trans {d : Record} (hd : d ∈ c.preorder) : ∀ r : Record,
    c ∈ r.preorder → d ∈ r.preorder
  | ⟨rule, start, stop, matched, token, children, depthExceeded⟩, h => by
    rcases List.mem_cons.mp h with rfl | h
    · exact hd
    · exact List.mem_cons_of_mem _ (mem_preorderAll_trans hd children h)

theorem mem_preorderAll_trans {d : Record} (hd : d ∈ c.preorder) :
    ∀ rs : List Record, c ∈ preorderAll rs → d ∈ preorderAll rs
  | r :: rs, h => by
    rw [preorderAll, List.mem_append] at h ⊢
    exact h.imp (mem_preorder_trans hd r) (mem_preorderAll_trans hd rs)

end

theorem Below.trans {d : Record} (hd : d.Below c) (hc : c.Below r) : d.Below r := by
  rw [below_iff] at hc ⊢
  exact mem_preorderAll_trans (mem_preorder.mpr (.inr hd)) _ hc

/-- What is below a record has fewer records, so that there is no way down without
an end. -/
theorem Below.size_lt (h : c.Below r) : c.size < r.size := by
  have hle := size_le_of_mem_preorderAll r.children (below_iff.mp h)
  have hsize : r.size = (preorderAll r.children).length + 1 :=
    congrArg List.length (preorder_eq r)
  omega

mutual

theorem mem_preorder_of_mem_collect : ∀ r : Record, .rule c ∈ r.collect →
    c ∈ r.preorder ∧ c.matched = true ∧ ∃ name, c.name = some name
  | ⟨rule, start, stop, matched, token, children, depthExceeded⟩, h => by
    unfold collect at h
    split at h
    · next hmatched =>
      split at h
      · cases List.mem_singleton.mp h
      · next name hname =>
        obtain ⟨rfl⟩ := Item.rule.inj (List.mem_singleton.mp h)
        exact ⟨List.mem_cons_self, hmatched, name, hname⟩
      · obtain ⟨hmem, hnamed⟩ := mem_preorder_of_mem_collectAll children h
        exact ⟨List.mem_cons_of_mem _ hmem, hnamed⟩
    · cases h

theorem mem_preorder_of_mem_collectAll : ∀ rs : List Record, .rule c ∈ collectAll rs →
    c ∈ preorderAll rs ∧ c.matched = true ∧ ∃ name, c.name = some name
  | r :: rs, h => by
    rw [preorderAll, List.mem_append]
    rcases List.mem_append.mp h with h | h
    · obtain ⟨hmem, hnamed⟩ := mem_preorder_of_mem_collect r h
      exact ⟨.inl hmem, hnamed⟩
    · obtain ⟨hmem, hnamed⟩ := mem_preorder_of_mem_collectAll rs h
      exact ⟨.inr hmem, hnamed⟩

end

/-- The records among the items are proper parts of the tree, also where records
without a name were passed over on the way to them. -/
theorem below_of_mem_items (h : .rule c ∈ r.items) : c.Below r :=
  below_iff.mpr (mem_preorder_of_mem_collectAll r.children h).1

theorem matched_of_mem_items (h : .rule c ∈ r.items) : c.matched = true :=
  (mem_preorder_of_mem_collectAll r.children h).2.1

theorem exists_name_of_mem_items (h : .rule c ∈ r.items) :
    ∃ name, c.name = some name :=
  (mem_preorder_of_mem_collectAll r.children h).2.2

end Record

/-! ## Outlines -/

/-- What is left of items in an outline. -/
def Outline.ofItems : List Record.Item → Outline
  | [] => .done
  | .token t :: items => .word t.kind t.literal (ofItems items)
  | .rule r :: items => .part r.rule.nameOrLabel r.outline (ofItems items)

theorem Outline.ofItems_append (items items' : List Record.Item) :
    ofItems (items ++ items') = (ofItems items).append (ofItems items') := by
  induction items with
  | nil => rfl
  | cons item items ih =>
    cases item <;> rw [List.cons_append, ofItems, ofItems, append, ih]

namespace Record

mutual

theorem outlineItem_eq_ofItems : ∀ r : Record, r.outlineItem = .ofItems r.collect
  | ⟨_, _, _, false, _, _, _⟩ => rfl
  | ⟨rule, _, _, true, some t, _, _⟩ => rfl
  | ⟨rule, _, _, true, none, children, _⟩ => by
    unfold outlineItem collect
    cases hname : rule.name with
    | some name =>
      have hlabel : rule.nameOrLabel = name := by rw [Rule.nameOrLabel, hname]; rfl
      simp [Outline.ofItems, outline, hlabel]
    | none => exact outlineAll_eq_ofItems children

theorem outlineAll_eq_ofItems : ∀ rs : List Record,
    outlineAll rs = .ofItems (collectAll rs)
  | [] => rfl
  | r :: rs => by
    rw [outlineAll, collectAll, Outline.ofItems_append, outlineItem_eq_ofItems r,
      outlineAll_eq_ofItems rs]

end

theorem outline_eq_ofItems (r : Record) : r.outline = .ofItems r.items := by
  cases r
  exact outlineAll_eq_ofItems _

end Record

end SceneSelector
