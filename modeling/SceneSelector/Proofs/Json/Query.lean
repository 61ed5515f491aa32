import SceneSelector.Proofs.Json

/-!
# Queries from data

Reading a query from data asks for every field by its name, so that neither the
order of the fields nor a field too many makes a difference. It undoes `Query.toData`
(`ofData?_toData`), and with `Json.read?` in front of it `Query.toJson`.
-/

namespace SceneSelector

namespace Data

def field? (name : String) : Data → Option Data
  | record fields => fields.lookup name
  | _ => none

def text? : Data → Option String
  | text s => some s
  | _ => none

/-- A list of what `read` reads. -/
def all? {α : Type} (read : Data → Option α) : Data → Option (List α)
  | list items => items.mapM read
  | _ => none

/-- A value of several kinds: what the kind makes of the content. -/
def kinded? {α : Type} (content : String) (makers : List (String × (String → α)))
    (d : Data) : Option α := do
  let kind ← (← d.field? "kind").text?
  let make ← makers.lookup kind
  let s ← (← d.field? content).text?
  return make s

@[simp] theorem field?_head (name : String) (d : Data)
    (fields : List (String × Data)) :
    (record ((name, d) :: fields)).field? name = some d := by
  rw [field?, List.lookup_cons_self]

@[simp] theorem field?_tail {name name' : String} (h : name ≠ name') (d : Data)
    (fields : List (String × Data)) :
    (record ((name', d) :: fields)).field? name = (record fields).field? name := by
  have hkey : (name == name') = false := by simpa using h
  simp only [field?, List.lookup_cons, hkey]

/-- A field is smaller than the record that it is in. -/
theorem sizeOf_field?_lt {name : String} {d d' : Data} (h : d.field? name = some d') :
    sizeOf d' < sizeOf d := by
  cases d with
  | record fields =>
    obtain ⟨before, after, rfl, -⟩ := List.lookup_eq_some_iff.mp h
    have hmem : (name, d') ∈ before ++ (name, d') :: after := by simp
    have hfields := List.sizeOf_lt_of_mem hmem
    simp only [Prod.mk.sizeOf_spec] at hfields
    simp only [record.sizeOf_spec]
    omega
  | null | text | list => cases h

end Data

/-! ## The parts of a query -/

def Target.ofData? (d : Data) : Option Target := do
  let kind ← (← d.field? "kind").text?
  if kind = "any" then return any
  else if kind = "unspecified" then return unspecified
  else d.kinded? "name" [("type", type)]

def Selector.ofData? : Data → Option Selector :=
  Data.kinded? "name" [("id", byId), ("class", byClass)]

def Value.ofData? : Data → Option Value :=
  Data.kinded? "value"
    [("identifier", identifier), ("digits", digits), ("string", string)]

def PseudoClass.ofData? (d : Data) : Option PseudoClass := do
  let name ← (← d.field? "name").text?
  let args ← (← d.field? "args").all? Value.ofData?
  return ⟨name, args⟩

def Attribute.ofData? (d : Data) : Option Attribute := do
  let key ← (← d.field? "key").text?
  let value ← Value.ofData? (← d.field? "value")
  return ⟨key, value⟩

/-- The pseudo-class of a compound, which may have none. -/
def PseudoClass.ofDataOrNull? : Data → Option (Option PseudoClass)
  | .null => some none
  | d => (ofData? d).map some

def Compound.ofData? (d : Data) : Option Compound := do
  let target ← Target.ofData? (← d.field? "target")
  let selectors ← (← d.field? "selectors").all? Selector.ofData?
  let pseudoClass ← PseudoClass.ofDataOrNull? (← d.field? "pseudo_class")
  let attributes ← (← d.field? "attributes").all? Attribute.ofData?
  return ⟨target, selectors, pseudoClass, attributes⟩

def Combinator.ofData? (d : Data) : Option Combinator := do
  let s ← d.text?
  if s = "child" then return child
  else if s = "descendant" then return descendant
  else none

/-- The query that data hold, compound by compound. -/
def Query.ofData? (d : Data) : Option Query :=
  match Compound.ofData? d, h : d.field? "sub_query" with
  | some c, some .null => some (single c)
  | some c, some sub =>
    have := Data.sizeOf_field?_lt h
    match (sub.field? "combinator").bind Combinator.ofData?,
      h' : sub.field? "query" with
    | some k, some rest =>
      have := Data.sizeOf_field?_lt h'
      (ofData? rest).map (link c k)
    | _, _ => none
  | _, _ => none
termination_by sizeOf d
decreasing_by omega

/-- The query that a JSON text stands for. -/
def Query.ofJson? (text : String) : Option Query :=
  (Json.read? text).bind ofData?


/-! ## What was taken apart is put together again -/

namespace Data

theorem all?_map {α : Type} {read : Data → Option α} {write : α → Data}
    (h : ∀ a, read (write a) = some a) (as : List α) :
    (list (as.map write)).all? read = some as := by
  rw [all?]
  induction as with
  | nil => rfl
  | cons a as ih => rw [List.map_cons, List.mapM_cons, h, ih]; rfl

end Data

theorem Target.ofData?_toData (t : Target) : ofData? t.toData = some t := by
  cases t <;> rfl

theorem Selector.ofData?_toData (s : Selector) : ofData? s.toData = some s := by
  cases s <;> rfl

theorem Value.ofData?_toData (v : Value) : ofData? v.toData = some v := by
  cases v <;> rfl

theorem PseudoClass.ofData?_toData (p : PseudoClass) : ofData? p.toData = some p := by
  simp [toData, ofData?, Data.text?, Data.all?_map Value.ofData?_toData]

theorem Attribute.ofData?_toData (a : Attribute) : ofData? a.toData = some a := by
  simp [toData, ofData?, Data.text?, Value.ofData?_toData]

theorem PseudoClass.ofDataOrNull?_toData (p : Option PseudoClass) :
    ofDataOrNull? ((p.map toData).getD .null) = some p := by
  cases p with
  | none => rfl
  | some p => exact congrArg (Option.map some) (ofData?_toData p)

theorem Compound.ofData?_fields (c : Compound) (more : List (String × Data)) :
    ofData? (.record (c.fields ++ more)) = some c := by
  simp [fields, ofData?, Target.ofData?_toData, PseudoClass.ofDataOrNull?_toData,
    Data.all?_map Selector.ofData?_toData, Data.all?_map Attribute.ofData?_toData]

/-- What follows a compound does not get lost between its fields. -/
theorem Compound.field?_sub_query (c : Compound) (d : Data) :
    (Data.record (c.fields ++ [("sub_query", d)])).field? "sub_query" = some d := by
  simp [fields]

theorem Combinator.ofData?_toData (k : Combinator) : ofData? k.toData = some k := by
  cases k <;> rfl

namespace Query

theorem ofData?_of_null {d : Data} {c : Compound} (hc : Compound.ofData? d = some c)
    (hsub : d.field? "sub_query" = some .null) : ofData? d = some (single c) := by
  rw [ofData?]
  split <;> simp_all

theorem ofData?_of_query {d sub rest : Data} {c : Compound} {k : Combinator}
    (hc : Compound.ofData? d = some c) (hsub : d.field? "sub_query" = some sub)
    (hk : (sub.field? "combinator").bind Combinator.ofData? = some k)
    (hrest : sub.field? "query" = some rest) :
    ofData? d = (ofData? rest).map (link c k) := by
  rw [ofData?]
  split
  · next h =>
    -- there is no field in `null`
    cases hsub.symm.trans h
    cases hrest
  · next h =>
    cases hsub.symm.trans h
    split
    · next h' =>
      cases hrest.symm.trans h'
      simp_all
    · simp_all
  · simp_all

theorem ofData?_toData (q : Query) : ofData? q.toData = some q := by
  induction q with
  | single c =>
    exact ofData?_of_null (c.ofData?_fields _) (c.field?_sub_query .null)
  | link c k rest ih =>
    let sub : Data := .record [("combinator", k.toData), ("query", rest.toData)]
    have hk : (sub.field? "combinator").bind Combinator.ofData? = some k := by
      simp [sub, k.ofData?_toData]
    have hrest : sub.field? "query" = some rest.toData := by simp [sub]
    rw [toData, ofData?_of_query (c.ofData?_fields _) (c.field?_sub_query sub) hk
      hrest, ih]
    rfl

/-- **The JSON text of a query is read back as that query**, by a reader that goes by
the rules of JSON and the names of the fields. So two queries of one text are one
query, whatever is in their names and strings and however deep they nest. -/
theorem toJson_lossless :
    (∀ q : Query, ofJson? q.toJson = some q) ∧ Function.Injective toJson := by
  have hread (q : Query) : ofJson? q.toJson = some q := by
    rw [ofJson?, toJson, Json.read?_toJson, Option.bind_some, ofData?_toData]
  refine ⟨hread, fun q q' htext => ?_⟩
  rw [← Option.some.injEq, ← hread q, htext, hread q']

/-- The name has a quote, a backslash, a line feed, a control and a letter that is not
ASCII. -/
theorem toJson_lossless_at_leaf :
    let q : Query :=
      .single ⟨.any, [.byId "a\"\\\n\x01é"], none, [⟨"k", .string "1"⟩]⟩
    let q' : Query := (link ⟨.type "A", [], none, []⟩ .child q).leaf
    ofJson? q.toJson = some q ∧ q.toJson = q'.toJson ∧ q = q' :=
  ⟨toJson_lossless.1 _, rfl, toJson_lossless.2 rfl⟩

end Query

end SceneSelector
