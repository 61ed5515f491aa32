import SceneSelector.Proofs.Extraction.Items
import SceneSelector.Query.Reading

/-!
# Reading a query from its records

A query can be read from the records, without their outlines: lists by loops that
go from a record on to one among its items, and a query that follows a combinator by
reading the record it stands for. Nothing says beforehand that this comes to an end,
and so every loop here is given the number of rounds that it may go, and every query
how deep it may go for others (`extract`). Since whatever it goes on with is below
the record that it comes from, the number of records is enough, and what is read is
what the outlines say (`extract_eq_ended`).
-/

namespace SceneSelector

/-! ## Runs -/

/-- A run that ends with an answer or an error, or is stopped before it ends. -/
abbrev Run (α : Type) : Type :=
  ExceptT QueryError Option α

namespace Run

variable {α β : Type}

/-- The run that was stopped. -/
def stopped : Run α :=
  ExceptT.mk none

/-- The run that ends as `x` says. -/
def ended (x : Except QueryError α) : Run α :=
  ExceptT.mk (some x)

theorem ended_bind (x : Except QueryError α) (f : α → Except QueryError β) :
    ended (x >>= f) = ended x >>= fun a => ended (f a) := by
  cases x <;> rfl

theorem ended_ok_bind (a : α) (f : α → Run β) : (ended (.ok a) >>= f) = f a :=
  rfl

end Run

namespace Record

/-- The error of a record that is not as it should be. -/
def malformed (r : Record) : QueryError :=
  .malformed r.rule.nameOrLabel

/-! ## Lists -/

/-- Go on with the next record for as long as there is one, for at most `fuel`
rounds. A round adds to the list. -/
def loop {α : Type} (body : Record → Except QueryError (α × Option Record)) :
    (fuel : Nat) → (out : List α) → (current : Record) → Run (List α)
  | 0, _, _ => .stopped
  | fuel + 1, out, current => do
    let (a, next) ← Run.ended (body current)
    match next with
    | none => return out ++ [a]
    | some next => loop body fuel (out ++ [a]) next

def value (r : Record) : Except QueryError Value :=
  if r.name = some RuleName.value then
    match r.items with
    | [.token t] =>
      match t.kind with
      | .identifier => .ok (.identifier t.literal)
      | .digits => .ok (.digits t.literal)
      | .string => .ok (.string t.literal)
      | _ => .error r.malformed
    | _ => .error r.malformed
  else .error r.malformed

/-- One selector, and the record of those that follow. -/
def selectorsBody (r : Record) : Except QueryError (Selector × Option Record) :=
  match r.items with
  | .token sigil :: .token name :: more =>
    match Outline.sigil? sigil.kind name.literal with
    | none => .error r.malformed
    | some s =>
      match more with
      | [] => .ok (s, none)
      | .rule next :: _ =>
        if next.name = some RuleName.selectors then .ok (s, some next)
        else .error r.malformed
      | .token _ :: _ => .error r.malformed
  | _ => .error r.malformed

/-- One argument, and the record of those that follow. -/
def argsBody (r : Record) : Except QueryError (Value × Option Record) :=
  match r.items with
  | [.rule v] => do
    let v ← v.value
    return (v, none)
  | [.rule v, .token _, .rule next] =>
    if next.name = some RuleName.args then do
      let v ← v.value
      return (v, some next)
    else .error r.malformed
  | _ => .error r.malformed

/-- One attribute, and the record of those that follow. -/
def attributesBody (r : Record) : Except QueryError (Attribute × Option Record) :=
  match r.items with
  | .token _ :: .token key :: .token _ :: .rule v :: .token _ :: more => do
    let v ← v.value
    match more with
    | [] => return (⟨key.literal, v⟩, none)
    | [.rule next] =>
      if next.name = some RuleName.attr then return (⟨key.literal, v⟩, some next)
      else .error r.malformed
    | _ => .error r.malformed
  | _ => .error r.malformed

/-! ## Compounds -/

section

variable (fuel : Nat)

def pseudoClass (r : Record) : Run PseudoClass :=
  match r.items with
  | [.token _, .token name] => return ⟨name.literal, []⟩
  | [.token _, .token name, .token _, .rule list, .token _] =>
    if list.name = some RuleName.args then do
      let vs ← loop argsBody fuel [] list
      return ⟨name.literal, vs⟩
    else .ended (.error r.malformed)
  | _ => .ended (.error r.malformed)

/-- Add what items say to a compound. They belong to `parent`. -/
def qualify (parent : Record) : List Item → Compound → Run Compound
  | [], c => return c
  | .rule r :: rest, c =>
    if r.name = some RuleName.selectors then do
      let ss ← loop selectorsBody fuel [] r
      qualify parent rest { c with selectors := c.selectors ++ ss }
    else if r.name = some RuleName.pseudoClass then do
      let p ← pseudoClass fuel r
      qualify parent rest { c with pseudoClass := some p }
    else if r.name = some RuleName.attr then do
      let as ← loop attributesBody fuel [] r
      qualify parent rest { c with attributes := c.attributes ++ as }
    else .ended (.error parent.malformed)
  | .token _ :: _, _ => .ended (.error parent.malformed)

def typed (r : Record) : Run Compound :=
  match r.items with
  | .token t :: rest =>
    match t.kind with
    | .identifier => qualify fuel r rest (.ofTarget (.type t.literal))
    | .star => qualify fuel r rest (.ofTarget .any)
    | _ => .ended (.error r.malformed)
  | _ => .ended (.error r.malformed)

def untyped (r : Record) : Run Compound :=
  qualify fuel r r.items (.ofTarget .unspecified)

/-! ## Queries -/

/-- The combinator of a sub-query, and the record of its query. -/
def follower (r : Record) : Except QueryError (Combinator × Record) :=
  match r.items with
  | [.token t, .rule q] =>
    if t.kind = .greater then .ok (.child, q) else .error r.malformed
  | [.rule q] => .ok (.descendant, q)
  | _ => .error r.malformed

/-- Read a sub-query, where `again` reads the query in it. -/
def subQuery (again : Record → Run Query) (r : Record) :
    Run (Combinator × Query) := do
  let (k, inner) ← Run.ended r.follower
  let q ← again inner
  return (k, q)

/-- Read a query from the items of `parent`. A later one replaces the compound or
the continuation that an earlier one gave. -/
def assembleQuery (again : Record → Run Query) (parent : Record)
    (compound : Option Compound) (continuation : Option (Combinator × Query)) :
    List Item → Run Query
  | [] =>
    match compound with
    | some c => return Outline.chain c continuation
    | none => .ended (.error parent.malformed)
  | .rule r :: rest =>
    if r.name = some RuleName.typeIdQuery then do
      let c ← typed fuel r
      assembleQuery again parent (some c) continuation rest
    else if r.name = some RuleName.attrQuery then do
      let c ← untyped fuel r
      assembleQuery again parent (some c) continuation rest
    else if r.name = some RuleName.subQuery then do
      let s ← subQuery again r
      assembleQuery again parent compound (some s) rest
    else .ended (.error parent.malformed)
  | .token _ :: _ => .ended (.error parent.malformed)

end

/-- Read the query that a record stands for. `fuel` limits the rounds of each loop,
and how deep the queries lie one in the other. -/
def extract : (fuel : Nat) → Record → Run Query
  | 0, _ => .stopped
  | fuel + 1, r =>
    if r.matched then
      if r.name = some RuleName.query then
        assembleQuery fuel (extract fuel) r none none r.items
      else .ended (.error r.malformed)
    else .ended (.error .noMatch)

/-! ## Descent -/

variable {r c next : Record} {fuel : Nat}

theorem below_of_selectorsBody {s : Selector}
    (h : r.selectorsBody = .ok (s, some next)) :
    next.Below r ∧ next.name = some RuleName.selectors := by
  unfold selectorsBody at h
  split at h
  · next sigil name more hitems =>
    split at h
    · cases h
    · split at h
      · cases h
      · split at h
        · next hname =>
          cases h
          exact ⟨below_of_mem_items (by simp [hitems]), hname⟩
        · cases h
      · cases h
  · cases h

theorem below_of_argsBody {v : Value} (h : r.argsBody = .ok (v, some next)) :
    next.Below r ∧ next.name = some RuleName.args := by
  unfold argsBody at h
  split at h
  · next arg hitems => cases hvalue : arg.value <;> rw [hvalue] at h <;> cases h
  · next arg comma rest hitems =>
    split at h
    · next hname =>
      cases hvalue : arg.value <;> rw [hvalue] at h <;> cases h
      exact ⟨below_of_mem_items (by simp [hitems]), hname⟩
    · cases h
  · cases h

theorem below_of_attributesBody {a : Attribute}
    (h : r.attributesBody = .ok (a, some next)) :
    next.Below r ∧ next.name = some RuleName.attr := by
  unfold attributesBody at h
  split at h
  · next opening key equals v closing more hitems =>
    cases hvalue : v.value with
    | error e =>
      rw [hvalue] at h
      cases h
    | ok value =>
      rw [hvalue] at h
      change (match more with
        | [] => _
        | [.rule next] => _
        | _ => _) = _ at h
      split at h
      · cases h
      · split at h
        · next hname =>
          cases h
          exact ⟨below_of_mem_items (by simp [hitems]), hname⟩
        · cases h
      · cases h
  · cases h

theorem below_of_follower {k : Combinator} (h : r.follower = .ok (k, next)) :
    next.Below r := by
  unfold follower at h
  split at h
  · next t q hitems =>
    split at h
    · cases h
      exact below_of_mem_items (by simp [hitems])
    · cases h
  · next q hitems =>
    cases h
    exact below_of_mem_items (by simp [hitems])
  · cases h

/-! ## Agreement with the outlines -/

theorem nameOrLabel_of_name {name : String} (h : r.name = some name) :
    r.rule.nameOrLabel = name := by
  rw [Rule.nameOrLabel, ← Record.name, h]
  rfl

theorem malformed_of_name {name : String} (h : r.name = some name) :
    r.malformed = .malformed name := by
  rw [malformed, nameOrLabel_of_name h]

theorem value_eq {name : String} (h : r.name = some name) :
    r.value = Outline.value name r.outline := by
  simp only [value, Outline.value, h, Option.some.injEq, malformed_of_name h,
    outline_eq_ofItems]
  rcases r.items with _ | ⟨⟨kind, literal, position⟩ | c, items⟩
  · rfl
  · -- the kind of the first token is looked at before the rest
    cases kind <;> rcases items with _ | ⟨_ | _, _⟩ <;> rfl
  · rfl

/-- What a loop comes to, where `rest` is what it comes to from the next record
on. -/
def unrolled {α : Type} (body : Record → Except QueryError (α × Option Record))
    (rest : Record → Except QueryError (List α)) (r : Record) :
    Except QueryError (List α) := do
  let (a, next) ← body r
  match next with
  | none => return [a]
  | some next => do
    let as ← rest next
    return a :: as

/-- A loop ends if it stays among the records of a name and goes down. -/
theorem loop_eq_ended {α : Type} {name : String}
    {body : Record → Except QueryError (α × Option Record)}
    {result : Record → Except QueryError (List α)}
    (hresult : ∀ r, r.name = some name → result r = unrolled body result r)
    (hnext : ∀ r a next, body r = .ok (a, some next) →
      next.Below r ∧ next.name = some name)
    {fuel : Nat} (hfuel : r.size ≤ fuel) (hname : r.name = some name)
    (out : List α) :
    loop body fuel out r = .ended (do
      let as ← result r
      return out ++ as) := by
  induction fuel generalizing r out with
  | zero =>
    have hpos : 0 < r.size := size_pos r
    omega
  | succ fuel ih =>
    rw [loop, hresult r hname, unrolled]
    cases hbody : body r with
    | error e => rfl
    | ok round =>
      obtain ⟨a, _ | next⟩ := round
      · rfl
      · obtain ⟨hbelow, hname⟩ := hnext r a next hbody
        have hlt := hbelow.size_lt
        refine (ih (by omega) hname (out ++ [a])).trans ?_
        change _ = Run.ended ((result next >>= fun as => pure (a :: as)) >>=
          fun as => pure (out ++ as))
        simp only [bind_assoc, pure_bind, List.append_assoc, List.cons_append,
          List.nil_append]

/-- The name of an item decides as the outline has it. -/
theorem name_eq_iff (h : .rule c ∈ r.items) {name : String} :
    c.name = some name ↔ c.rule.nameOrLabel = name := by
  obtain ⟨name', hname⟩ := exists_name_of_mem_items h
  rw [hname, nameOrLabel_of_name hname, Option.some.injEq]

theorem value_of_mem_items (h : .rule c ∈ r.items) :
    c.value = Outline.value c.rule.nameOrLabel c.outline := by
  obtain ⟨name, hname⟩ := exists_name_of_mem_items h
  rw [nameOrLabel_of_name hname, value_eq hname]

theorem selectors_eq_unrolled (h : r.name = some RuleName.selectors) :
    r.outline.selectors =
      unrolled selectorsBody (fun r => r.outline.selectors) r := by
  simp only [unrolled, selectorsBody, malformed_of_name h]
  rw [outline_eq_ofItems r]
  rcases hitems : r.items with _ | ⟨sigil | _, _ | ⟨name | _, more⟩⟩
  case cons.token.cons.token =>
    simp only [Outline.ofItems, Outline.selectors]
    cases Outline.sigil? sigil.kind name.literal with
    | none => rfl
    | some s =>
      rcases more with _ | ⟨_ | next, more⟩
      · rfl
      · rfl
      · have hname := @name_eq_iff r next (by simp [hitems])
        simp only [Outline.ofItems, hname]
        split <;> rfl
  all_goals rfl

theorem args_eq_unrolled (h : r.name = some RuleName.args) :
    r.outline.args = unrolled argsBody (fun r => r.outline.args) r := by
  simp only [unrolled, argsBody, malformed_of_name h]
  rw [outline_eq_ofItems r]
  rcases hitems : r.items with
    _ | ⟨_ | v, _ | ⟨_ | _, _ | ⟨_ | next, _ | ⟨_ | _, _⟩⟩⟩⟩
  case cons.rule.nil =>
    have hvalue := @value_of_mem_items r v (by simp [hitems])
    simp only [Outline.ofItems, Outline.args, hvalue]
    cases Outline.value v.rule.nameOrLabel v.outline <;> rfl
  case cons.rule.cons.token.cons.rule.nil =>
    have hvalue := @value_of_mem_items r v (by simp [hitems])
    have hname := @name_eq_iff r next (by simp [hitems])
    simp only [Outline.ofItems, Outline.args, hvalue, hname]
    split
    · cases Outline.value v.rule.nameOrLabel v.outline <;> rfl
    · rfl
  all_goals rfl

theorem attributes_eq_unrolled (h : r.name = some RuleName.attr) :
    r.outline.attributes =
      unrolled attributesBody (fun r => r.outline.attributes) r := by
  simp only [unrolled, attributesBody, malformed_of_name h]
  rw [outline_eq_ofItems r]
  rcases hitems : r.items with
    _ | ⟨_ | _, _ | ⟨key | _, _ | ⟨_ | _, _ | ⟨_ | v, _ | ⟨_ | _, more⟩⟩⟩⟩⟩
  case cons.token.cons.token.cons.token.cons.rule.cons.token =>
    have hvalue := @value_of_mem_items r v (by simp [hitems])
    simp only [Outline.ofItems, Outline.attributes, hvalue]
    cases Outline.value v.rule.nameOrLabel v.outline with
    | error e => rfl
    | ok value =>
      rcases more with _ | ⟨_ | next, _ | ⟨_ | _, _⟩⟩
      case cons.rule.nil =>
        have hname := @name_eq_iff r next (by simp [hitems])
        simp only [Outline.ofItems, hname, bind, Except.bind]
        split <;> rfl
      all_goals rfl
  all_goals rfl

/-! ## Reading -/

theorem selectors_loop (hfuel : r.size ≤ fuel)
    (h : r.name = some RuleName.selectors) :
    loop selectorsBody fuel [] r = .ended r.outline.selectors := by
  rw [loop_eq_ended (fun _ => selectors_eq_unrolled)
    (fun _ _ _ => below_of_selectorsBody) hfuel h]
  exact congrArg Run.ended (bind_pure _)

theorem args_loop (hfuel : r.size ≤ fuel) (h : r.name = some RuleName.args) :
    loop argsBody fuel [] r = .ended r.outline.args := by
  rw [loop_eq_ended (fun _ => args_eq_unrolled) (fun _ _ _ => below_of_argsBody)
    hfuel h]
  exact congrArg Run.ended (bind_pure _)

theorem attributes_loop (hfuel : r.size ≤ fuel) (h : r.name = some RuleName.attr) :
    loop attributesBody fuel [] r = .ended r.outline.attributes := by
  rw [loop_eq_ended (fun _ => attributes_eq_unrolled)
    (fun _ _ _ => below_of_attributesBody) hfuel h]
  exact congrArg Run.ended (bind_pure _)

theorem pseudoClass_eq_ended (hfuel : r.size ≤ fuel)
    (h : r.name = some RuleName.pseudoClass) :
    r.pseudoClass fuel = .ended r.outline.pseudoClass := by
  simp only [pseudoClass, malformed_of_name h]
  rw [outline_eq_ofItems r]
  rcases hitems : r.items with
    _ | ⟨_ | _, _ | ⟨_ | _, _ | ⟨_ | _, _ | ⟨_ | list, _ | ⟨_ | _, _ | ⟨_ | _, _⟩⟩⟩⟩⟩⟩
  case cons.token.cons.token.cons.token.cons.rule.cons.token.nil =>
    have hmem : .rule list ∈ r.items := by simp [hitems]
    have hlt := (below_of_mem_items hmem).size_lt
    simp only [Outline.ofItems, Outline.pseudoClass, ← name_eq_iff hmem]
    split
    · next hname =>
      rw [args_loop (by omega) hname, Run.ended_bind]
      rfl
    · rfl
  all_goals rfl

theorem qualify_eq_ended {owner : String} (hfuel : r.size ≤ fuel + 1)
    (h : r.name = some owner) {items : List Item} (hitems : items ⊆ r.items)
    (compound : Compound) :
    qualify fuel r items compound =
      .ended (Outline.qualify owner (.ofItems items) compound) := by
  induction items generalizing compound with
  | nil => rfl
  | cons item rest ih =>
    obtain ⟨hmem, hrest⟩ := List.cons_subset.mp hitems
    cases item with
    | token t => exact congrArg (Run.ended ∘ .error) (malformed_of_name h)
    | rule c =>
      have hlt := (below_of_mem_items hmem).size_lt
      have hsize : c.size ≤ fuel := by omega
      simp only [qualify, Outline.ofItems, Outline.qualify, ← name_eq_iff hmem,
        malformed_of_name h]
      split
      · next hname =>
        simp only [selectors_loop hsize hname, ih hrest, Run.ended_bind]
      split
      · next hname =>
        simp only [pseudoClass_eq_ended hsize hname, ih hrest, Run.ended_bind]
      split
      · next hname =>
        simp only [attributes_loop hsize hname, ih hrest, Run.ended_bind]
      · rfl

theorem typed_eq_ended (hfuel : r.size ≤ fuel + 1)
    (h : r.name = some RuleName.typeIdQuery) :
    r.typed fuel = .ended r.outline.typed := by
  simp only [typed, malformed_of_name h]
  rw [outline_eq_ofItems r]
  rcases hitems : r.items with _ | ⟨⟨kind, literal, position⟩ | _, rest⟩
  · rfl
  · have hrest : rest ⊆ r.items := by simp [hitems]
    cases kind
    case identifier => exact qualify_eq_ended hfuel h hrest _
    case star => exact qualify_eq_ended hfuel h hrest _
    all_goals rfl
  · rfl

theorem untyped_eq_ended (hfuel : r.size ≤ fuel + 1)
    (h : r.name = some RuleName.attrQuery) :
    r.untyped fuel = .ended r.outline.untyped := by
  rw [untyped, qualify_eq_ended hfuel h (List.Subset.refl _), ← outline_eq_ofItems]
  rfl

theorem ofRecord_of_mem_items (h : .rule c ∈ r.items) :
    Query.ofRecord c =
      if c.name = some RuleName.query then c.outline.query none none
      else .error c.malformed := by
  rw [Query.ofRecord, if_pos (matched_of_mem_items h)]
  rfl

/-- A sub-query is read as its outline says if the query in it is. -/
theorem subQuery_eq_ended {again : Record → Run Query}
    (hagain : ∀ q : Record, q.size < r.size → again q = .ended (Query.ofRecord q))
    (h : r.name = some RuleName.subQuery) :
    r.subQuery again = .ended (Outline.subQuery r.outline) := by
  have hinner (q : Record) (hmem : .rule q ∈ r.items) :
      again q = .ended (if q.rule.nameOrLabel = RuleName.query then
        q.outline.query none none else .error (.malformed q.rule.nameOrLabel)) := by
    rw [hagain q (below_of_mem_items hmem).size_lt, ofRecord_of_mem_items hmem]
    simp only [name_eq_iff hmem, malformed]
  simp only [subQuery, follower, malformed_of_name h]
  rw [outline_eq_ofItems r]
  rcases hitems : r.items with _ | ⟨⟨kind, _, _⟩ | q, rest⟩
  case nil => rfl
  case cons.token =>
    rcases rest with _ | ⟨_ | q, _ | ⟨_ | _, _⟩⟩
    case cons.rule.nil =>
      have hq := hinner q (by simp [hitems])
      cases kind
      case greater =>
        simp only [reduceIte, Run.ended_ok_bind, hq, Outline.ofItems,
          Outline.subQuery]
        split
        · rw [Run.ended_bind]
          rfl
        · rfl
      all_goals rfl
    all_goals cases kind <;> rfl
  case cons.rule =>
    rcases rest with _ | ⟨_ | _, _⟩
    case nil =>
      have hq := hinner q (by simp [hitems])
      simp only [Run.ended_ok_bind, hq, Outline.ofItems, Outline.subQuery]
      split
      · rw [Run.ended_bind]
        rfl
      · rfl
    all_goals rfl

theorem assembleQuery_eq_ended {again : Record → Run Query}
    (hagain : ∀ q : Record, q.size < r.size → again q = .ended (Query.ofRecord q))
    (hfuel : r.size ≤ fuel + 2) (h : r.name = some RuleName.query)
    {items : List Item} (hitems : items ⊆ r.items) (compound : Option Compound)
    (continuation : Option (Combinator × Query)) :
    assembleQuery fuel again r compound continuation items =
      .ended (Outline.query compound continuation (.ofItems items)) := by
  induction items generalizing compound continuation with
  | nil =>
    cases compound with
    | none => exact congrArg (Run.ended ∘ .error) (malformed_of_name h)
    | some c => rfl
  | cons item rest ih =>
    obtain ⟨hmem, hrest⟩ := List.cons_subset.mp hitems
    cases item with
    | token t => exact congrArg (Run.ended ∘ .error) (malformed_of_name h)
    | rule c =>
      have hlt := (below_of_mem_items hmem).size_lt
      have hsize : c.size ≤ fuel + 1 := by omega
      simp only [assembleQuery, Outline.ofItems, Outline.query, ← name_eq_iff hmem,
        malformed_of_name h]
      split
      · next hname =>
        simp only [typed_eq_ended hsize hname, ih hrest, Run.ended_bind]
      split
      · next hname =>
        simp only [untyped_eq_ended hsize hname, ih hrest, Run.ended_bind]
      split
      · next hname =>
        have hagain (q : Record) (hq : q.size < c.size) := hagain q (by omega)
        simp only [subQuery_eq_ended hagain hname, ih hrest, Run.ended_bind]
      · rfl

/-- Reading ends, and it ends with the query or the error that the outline of the
record gives. -/
theorem extract_eq_ended (hfuel : r.size ≤ fuel) :
    extract fuel r = .ended (Query.ofRecord r) := by
  induction fuel generalizing r with
  | zero =>
    have hpos : 0 < r.size := size_pos r
    omega
  | succ fuel ih =>
    rw [extract, Query.ofRecord]
    split
    · split
      · next hname =>
        have hagain (q : Record) (hq : q.size < r.size) := @ih q (by omega)
        rw [assembleQuery_eq_ended hagain (by omega) hname (List.Subset.refl _),
          ← outline_eq_ofItems]
      · rfl
    · rfl

/-- The records that reading goes on with lie further down, whatever a tree looks
like: those among the items, those that a loop goes on with, and those of the
queries that follow in sub-queries. So reading ends with a query or an error: it
takes no more rounds of a loop, and no more queries one in the other, than the tree
has records. -/
theorem extract_descends (r : Record) :
    (∀ c : Record, .rule c ∈ r.items → c.Below r) ∧
      (∀ s next, r.selectorsBody = .ok (s, some next) → next.Below r) ∧
      (∀ v next, r.argsBody = .ok (v, some next) → next.Below r) ∧
      (∀ a next, r.attributesBody = .ok (a, some next) → next.Below r) ∧
      (∀ (c : Record) k inner, .rule c ∈ r.items → c.follower = .ok (k, inner) →
        inner.Below r) ∧
      (∀ c : Record, c.Below r → c.size < r.size) ∧
      ∀ fuel, r.size ≤ fuel → extract fuel r = .ended (Query.ofRecord r) := by
  refine ⟨fun _ => below_of_mem_items, fun _ _ h => (below_of_selectorsBody h).1,
    fun _ _ h => (below_of_argsBody h).1, fun _ _ h => (below_of_attributesBody h).1,
    ?_, fun _ => Below.size_lt, fun _ => extract_eq_ended⟩
  intro c k inner hitem hinner
  exact (below_of_follower hinner).trans (below_of_mem_items hitem)

/-- A rule that has the name of queries, but queries of its own as its parts. -/
theorem extract_descends_at_nested :
    let query := Rule.sequence ⟨some RuleName.query, 0⟩
      [Grammar.symbol .hash "#", Grammar.maybe RuleName.query]
    let r := ((Matcher.mk ⟨[query], query⟩ 20).parse "##").record
    (∃ inner : Record, .rule inner ∈ r.items ∧ inner.Below r ∧ inner.size < r.size) ∧
      extract r.size r = .ended (.error (.malformed RuleName.query)) := by
  intro query r
  have hitems : ∃ t inner, r.items = [.token t, .rule inner] := ⟨_, _, rfl⟩
  have hread : Query.ofRecord r = .error (.malformed RuleName.query) := rfl
  obtain ⟨hbelow, -, -, -, -, hsize, hends⟩ := extract_descends r
  obtain ⟨t, inner, hitems⟩ := hitems
  have hmem : .rule inner ∈ r.items := by simp [hitems]
  exact ⟨⟨inner, hmem, hbelow inner hmem, hsize inner (hbelow inner hmem)⟩,
    hread ▸ hends r.size (Nat.le_refl _)⟩

end Record

end SceneSelector
