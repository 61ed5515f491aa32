import SceneSelector.Data.Json
import SceneSelector.Setting.Toml.Text

/-!
# Reading JSON back

`Json.read?` reads a JSON text by the rules of JSON, not by the habits of the
writer: blanks may stand wherever JSON has them, every escape is understood, and
nothing is known of levels and line feeds. `read?_toJson` says that it reads back
what was written, for any data. `Query.ofData?` then takes a query from data, each
field by its name.

So nothing of a query is lost in its JSON text, whatever characters there are in its
names and strings, and two queries of one text are one query (`toJson_lossless`).
-/

namespace SceneSelector

namespace Json

/-! ## Reading

A reader takes what it reads from the front of a text and returns it with the
rest. -/

def isBlank (c : Char) : Bool :=
  c = ' ' || c = '\t' || c = '\n' || c = '\r'

def skip (text : List Char) : List Char :=
  text.dropWhile isBlank

/-- The character that a backslash and one letter stand for. -/
def shortEscape? (c : Char) : Option Char :=
  if c = '/' then some '/' else Toml.shortEscape? c

/-- A string after its opening quote. Half of a surrogate pair is no character,
so its escape is not read. -/
def readString : List Char → Option (List Char × List Char)
  | [] => none
  | '"' :: rest => some ([], rest)
  | '\\' :: 'u' :: a :: b :: c :: d :: rest =>
    match Toml.charOfHex? [a, b, c, d] with
    | some x => Toml.andBefore x (readString rest)
    | none => none
  | '\\' :: c :: rest =>
    match shortEscape? c with
    | some x => Toml.andBefore x (readString rest)
    | none => none
  | c :: rest =>
    if c ≠ '\\' ∧ 0x20 ≤ c.toNat then Toml.andBefore c (readString rest) else none

section

variable {α : Type} (read : List Char → Option (α × List Char)) (close : Char)

/-- One or more of what `read` reads, with commas between them and `close` after
the last. -/
def readMany : (fuel : Nat) → List Char → Option (List α × List Char)
  | 0, _ => none
  | fuel + 1, text => do
    let (a, text) ← read text
    match skip text with
    | ',' :: text =>
      (readMany fuel text).map fun (more, rest) => (a :: more, rest)
    | c :: rest => if c = close then some ([a], rest) else none
    | [] => none

/-- What brackets hold: nothing, or one or more of what `read` reads. -/
def readAll (fuel : Nat) (text : List Char) : Option (List α × List Char) :=
  if (skip text).head? = some close then some ([], (skip text).tail)
  else readMany read close fuel text

/-- A field: a string, a colon and what `read` reads. -/
def readField (text : List Char) : Option ((String × α) × List Char) :=
  match skip text with
  | '"' :: text => do
    let (key, text) ← readString text
    match skip text with
    | ':' :: text => (read text).map fun (a, rest) => ((String.ofList key, a), rest)
    | _ => none
  | _ => none

end

/-- Data, of which no more than `fuel` nest or stand in a row. -/
def readData : (fuel : Nat) → List Char → Option (Data × List Char)
  | 0, _ => none
  | fuel + 1, text =>
    match skip text with
    | 'n' :: 'u' :: 'l' :: 'l' :: rest => some (.null, rest)
    | '"' :: text =>
      (readString text).map fun (s, rest) => (.text (String.ofList s), rest)
    | '[' :: text =>
      (readAll (readData fuel) ']' fuel text).map fun (items, rest) =>
        (.list items, rest)
    | '\x7b' :: text =>
      (readAll (readField (readData fuel)) '\x7d' fuel text).map
        fun (fields, rest) => (.record fields, rest)
    | _ => none

/-- The data that a text stands for, if it is all that the text holds. There is no
place in data for numbers and truth values, so they are not read. -/
def read? (text : String) : Option Data :=
  match readData text.length text.toList with
  | some (d, rest) => if skip rest = [] then some d else none
  | none => none

/-! ## Strings -/

theorem readString_short {c x : Char} (h : shortEscape? c = some x)
    (rest : List Char) :
    readString ('\\' :: c :: rest) = Toml.andBefore x (readString rest) := by
  have hu : c ≠ 'u' := by
    rintro rfl
    cases h
  simp [readString, hu, h]

theorem readString_plain {c : Char} (hq : c ≠ '"') (hb : c ≠ '\\')
    (hc : 0x20 ≤ c.toNat) (rest : List Char) :
    readString (c :: rest) = Toml.andBefore c (readString rest) := by
  simp [readString, hb, hc]

/-- What the reader makes of a control in hexadecimal digits. -/
theorem charOfHex?_small : ∀ n < 0x20,
    Toml.charOfHex? (Hexadecimal.small 4 n) = some (Char.ofNat n) := by
  decide

theorem readString_escape (c : Char) (rest : List Char) :
    readString (escape c ++ rest) = Toml.andBefore c (readString rest) := by
  unfold escape
  split
  · next h => subst h; exact readString_short rfl rest
  split
  · next h => subst h; exact readString_short rfl rest
  split
  · next h => subst h; exact readString_short rfl rest
  split
  · next h => subst h; exact readString_short rfl rest
  split
  · next h => subst h; exact readString_short rfl rest
  split
  · next h => subst h; exact readString_short rfl rest
  split
  · next h => subst h; exact readString_short rfl rest
  split
  · next hc =>
    have hx := charOfHex?_small c.toNat hc
    rw [Char.ofNat_toNat] at hx
    simp only [Hexadecimal.small, List.nil_append, List.cons_append] at hx ⊢
    simp only [readString, hx]
  · next hq hb _ _ _ _ _ hc =>
    exact readString_plain hq hb (Nat.le_of_not_lt hc) rest

theorem readString_flatMap_escape (s rest : List Char) :
    readString (s.flatMap escape ++ '"' :: rest) = some (s, rest) := by
  induction s with
  | nil => rfl
  | cons c s ih =>
    rw [List.flatMap_cons, List.append_assoc, readString_escape, ih]
    rfl

/-! ## Rows -/

theorem skip_newLine (level : Nat) (rest : List Char) :
    skip ((newLine level).toList ++ rest) = skip rest := by
  rw [newLine, String.toList_ofList, skip, List.cons_append,
    List.dropWhile_cons_of_pos rfl, List.dropWhile_append_of_pos]
  · rfl
  · intro c hc
    rw [List.eq_of_mem_replicate hc]
    rfl

/-- What is written between brackets at a level: rows with commas between them,
and the beginning of the line that the closing bracket stands on. -/
def inside (level : Nat) (rows : List String) : String :=
  if rows = [] then "" else ",".intercalate rows ++ newLine level

/-- An item on a line of its own. -/
def itemRow (level : Nat) (d : Data) : String :=
  newLine level ++ render level d

/-- A field on a line of its own. -/
def fieldRow (level : Nat) (f : String × Data) : String :=
  newLine level ++ renderField level f

theorem renderItems_eq (level : Nat) (items : List Data) :
    renderItems level items = ",".intercalate (items.map (itemRow level)) := by
  induction items with
  | nil => rfl
  | cons d items ih =>
    cases items with
    | nil =>
      rw [renderItems, List.map_cons, List.map_nil, String.intercalate_singleton,
        itemRow]
    | cons d' items =>
      simp only [renderItems, ih, itemRow, List.map_cons,
        String.intercalate_cons_cons]

theorem renderFields_eq (level : Nat) (fields : List (String × Data)) :
    renderFields level fields = ",".intercalate (fields.map (fieldRow level)) := by
  induction fields with
  | nil => rfl
  | cons f fields ih =>
    cases fields with
    | nil =>
      rw [renderFields, List.map_cons, List.map_nil, String.intercalate_singleton,
        fieldRow]
    | cons f' fields =>
      simp only [renderFields, ih, fieldRow, List.map_cons,
        String.intercalate_cons_cons]

theorem render_list (level : Nat) (items : List Data) :
    render level (.list items) =
      "[" ++ inside level (items.map (itemRow (level + 1))) ++ "]" := by
  cases items with
  | nil => rw [render]; rfl
  | cons d items =>
    rw [render, renderItems_eq, inside]
    simp [String.append_assoc]

theorem render_record (level : Nat) (fields : List (String × Data)) :
    render level (.record fields) =
      "\x7b" ++ inside level (fields.map (fieldRow (level + 1))) ++ "\x7d" := by
  cases fields with
  | nil => rw [render]; rfl
  | cons f fields =>
    rw [render, renderFields_eq, inside]
    simp [String.append_assoc]

/-! A row is as long as what it holds at least, so that the length of a text is
fuel enough. -/

theorem length_le_intercalate {row : String} {rows : List String} (h : row ∈ rows) :
    row.length ≤ (",".intercalate rows).length := by
  induction rows with
  | nil => cases h
  | cons first rows ih =>
    cases rows with
    | nil => simp [List.mem_singleton.mp h]
    | cons next rows =>
      rw [String.intercalate_cons_cons, String.length_append, String.length_append]
      rcases List.mem_cons.mp h with rfl | h
      · omega
      · have hle := ih h
        omega

theorem count_le_intercalate {rows : List String} (h : ∀ row ∈ rows, 1 ≤ row.length) :
    rows.length ≤ (",".intercalate rows).length := by
  induction rows with
  | nil => exact Nat.zero_le _
  | cons first rows ih =>
    obtain ⟨hfirst, hrows⟩ := List.forall_mem_cons.mp h
    cases rows with
    | nil => simpa using hfirst
    | cons next rows =>
      have hle := ih hrows
      rw [String.intercalate_cons_cons, String.length_append, String.length_append,
        List.length_cons]
      omega

theorem length_intercalate_le_inside (level : Nat) (rows : List String) :
    (",".intercalate rows).length ≤ (inside level rows).length := by
  rw [inside]
  split
  · next h => subst h; exact Nat.le_refl _
  · rw [String.length_append]
    exact Nat.le_add_right _ _

section

variable {α : Type} (row : α → String) {as : List α} {a : α}

theorem length_le_inside (level : Nat) (h : a ∈ as) :
    (row a).length ≤ (inside level (as.map row)).length :=
  Nat.le_trans (length_le_intercalate (List.mem_map_of_mem h))
    (length_intercalate_le_inside level _)

theorem count_le_inside {row : α → String} (hrow : ∀ a, 1 ≤ (row a).length)
    (level : Nat) (as : List α) : as.length ≤ (inside level (as.map row)).length := by
  have hrows : ∀ s ∈ as.map row, 1 ≤ s.length :=
    List.forall_mem_map.mpr fun a _ => hrow a
  have hcount := count_le_intercalate hrows
  rw [List.length_map] at hcount
  exact Nat.le_trans hcount (length_intercalate_le_inside level _)

end

theorem one_le_length_itemRow (level : Nat) (d : Data) :
    1 ≤ (itemRow level d).length := by
  rw [itemRow, String.length_append, newLine, String.length_ofList, List.length_cons]
  omega

theorem one_le_length_fieldRow (level : Nat) (f : String × Data) :
    1 ≤ (fieldRow level f).length := by
  rw [fieldRow, String.length_append, newLine, String.length_ofList, List.length_cons]
  omega

section

variable {α : Type} {read : List Char → Option (α × List Char)} {close : Char}
  {text mid rest : List Char} {a : α} {row : α → String}

theorem readMany_last (hread : read text = some (a, mid))
    (hmid : skip mid = close :: rest) (hclose : close ≠ ',') (fuel : Nat) :
    readMany read close (fuel + 1) text = some ([a], rest) := by
  simp [readMany, hread, hmid]

theorem readMany_comma (hread : read text = some (a, ',' :: mid)) (fuel : Nat) :
    readMany read close (fuel + 1) text =
      (readMany read close fuel mid).map fun (more, rest) => (a :: more, rest) := by
  have hskip : skip (',' :: mid) = ',' :: mid := rfl
  simp only [readMany, hread, hskip, Option.bind_eq_bind, Option.bind_some]

theorem readMany_intercalate (hmid : skip mid = close :: rest)
    (hclose : close ≠ ',') {as : List α} (hne : as ≠ [])
    (hread : ∀ a ∈ as, ∀ text, read ((row a).toList ++ text) = some (a, text))
    {fuel : Nat} (hfuel : as.length ≤ fuel) :
    readMany read close fuel ((",".intercalate (as.map row)).toList ++ mid) =
      some (as, rest) := by
  induction as generalizing fuel with
  | nil => cases hne rfl
  | cons a as ih =>
    obtain ⟨hfirst, hrest⟩ := List.forall_mem_cons.mp hread
    cases fuel with
    | zero => cases hfuel
    | succ fuel =>
    cases as with
    | nil =>
      rw [List.map_cons, List.map_nil, String.intercalate_singleton]
      exact readMany_last (hfirst mid) hmid hclose fuel
    | cons a' as =>
      have htail := ih (List.cons_ne_nil a' as) hrest (Nat.le_of_succ_le_succ hfuel)
      have htext : (",".intercalate ((a :: a' :: as).map row)).toList ++ mid =
          (row a).toList ++ ',' ::
            ((",".intercalate ((a' :: as).map row)).toList ++ mid) := by
        simp [String.intercalate_cons_cons]
      rw [htext, readMany_comma (hfirst _), htail]
      rfl

/-- What brackets hold is read back if each of the rows is. None of them begins
with the bracket that closes. -/
theorem readAll_inside (hclose : close ≠ ',') (hblank : isBlank close = false)
    (hnone : ∀ text, (skip text).head? = some close → read text = none)
    (hrow : ∀ a, 1 ≤ (row a).length) {as : List α}
    (hread : ∀ a ∈ as, ∀ text, read ((row a).toList ++ text) = some (a, text))
    {level fuel : Nat} (hfuel : (inside level (as.map row)).length ≤ fuel)
    (rest : List Char) :
    readAll read close fuel
      ((inside level (as.map row)).toList ++ close :: rest) = some (as, rest) := by
  have hskip : skip (close :: rest) = close :: rest :=
    List.dropWhile_cons_of_neg (by simp [hblank])
  by_cases has : as = []
  · subst has
    have htext : (inside level ([].map row)).toList ++ close :: rest =
      close :: rest := rfl
    rw [htext, readAll, hskip, List.head?_cons, if_pos rfl, List.tail_cons]
  · have hcount := count_le_inside hrow level as
    have hmid : skip ((newLine level).toList ++ close :: rest) = close :: rest := by
      rw [skip_newLine, hskip]
    have hmany := readMany_intercalate hmid hclose has hread
      (Nat.le_trans hcount hfuel)
    rw [inside, if_neg (by simpa using has), String.toList_append,
      List.append_assoc, readAll, if_neg, hmany]
    intro hhead
    cases fuel with
    | zero => cases hmany
    | succ fuel =>
      simp only [readMany, hnone _ hhead] at hmany
      cases hmany

end

/-! ## Data -/

/-- Blanks in front of data make no difference. -/
theorem readData_congr (fuel : Nat) {text text' : List Char}
    (h : skip text = skip text') : readData fuel text = readData fuel text' := by
  cases fuel with
  | zero => rfl
  | succ fuel => simp only [readData, h]

/-- Nothing is read where nothing can begin. -/
theorem readData_eq_none (fuel : Nat) {text : List Char}
    (h : (skip text).head? = some ']') : readData fuel text = none := by
  cases fuel with
  | zero => rfl
  | succ fuel =>
    obtain ⟨rest, hrest⟩ := List.head?_eq_some_iff.mp h
    simp only [readData, hrest]
    rfl

theorem readField_eq_none {read : List Char → Option (Data × List Char)}
    {text : List Char} (h : (skip text).head? = some '\x7d') :
    readField read text = none := by
  obtain ⟨rest, hrest⟩ := List.head?_eq_some_iff.mp h
  simp only [readField, hrest]
  rfl

theorem readData_string (fuel : Nat) (s : String) (rest : List Char) :
    readData (fuel + 1) ((string s).toList ++ rest) = some (.text s, rest) := by
  have hskip : skip ((string s).toList ++ rest) =
      '"' :: (s.toList.flatMap escape ++ '"' :: rest) := by
    simp [string, skip, isBlank]
  simp only [readData, hskip, readString_flatMap_escape, Option.map_some,
    String.ofList_toList]

theorem readData_itemRow {fuel level : Nat} {d : Data} {rest : List Char}
    (hread : readData fuel ((render level d).toList ++ rest) = some (d, rest)) :
    readData fuel ((itemRow level d).toList ++ rest) = some (d, rest) := by
  rw [itemRow, String.toList_append, List.append_assoc,
    readData_congr fuel (skip_newLine _ _), hread]

theorem readField_fieldRow {fuel level : Nat} {f : String × Data} {rest : List Char}
    (hread : readData fuel ((render level f.2).toList ++ rest) = some (f.2, rest)) :
    readField (readData fuel) ((fieldRow level f).toList ++ rest) =
      some (f, rest) := by
  obtain ⟨key, d⟩ := f
  have hkey := readString_flatMap_escape key.toList
    (':' :: ' ' :: ((render level d).toList ++ rest))
  have hskip : skip ((fieldRow level (key, d)).toList ++ rest) =
      '"' :: (key.toList.flatMap escape ++
        '"' :: ':' :: ' ' :: ((render level d).toList ++ rest)) := by
    rw [fieldRow, String.toList_append, List.append_assoc, skip_newLine, renderField]
    simp [string, skip, isBlank]
  have hcolon : skip (':' :: ' ' :: ((render level d).toList ++ rest)) =
      ':' :: ' ' :: ((render level d).toList ++ rest) := rfl
  have hblank : readData fuel (' ' :: ((render level d).toList ++ rest)) =
      readData fuel ((render level d).toList ++ rest) := readData_congr fuel rfl
  rw [hread] at hblank
  simp only [readField, hskip, hkey, hcolon, hblank, Option.bind_eq_bind,
    Option.bind_some, Option.map_some, String.ofList_toList]

theorem length_render_list (level : Nat) (items : List Data) :
    (render level (.list items)).length =
      (inside level (items.map (itemRow (level + 1)))).length + 2 := by
  simp [render_list, ← String.length_toList]

theorem length_render_record (level : Nat) (fields : List (String × Data)) :
    (render level (.record fields)).length =
      (inside level (fields.map (fieldRow (level + 1)))).length + 2 := by
  simp [render_record, ← String.length_toList]

theorem one_le_length_render (level : Nat) (d : Data) :
    1 ≤ (render level d).length := by
  cases d with
  | null => rw [render]; decide
  | text s => rw [render, string, String.length_ofList]; simp
  | list items => rw [length_render_list]; omega
  | record fields => rw [length_render_record]; omega

/-- Data are read back at whatever level they were written, and whatever stands
after them. -/
theorem readData_render {fuel level : Nat} {d : Data}
    (hfuel : (render level d).length ≤ fuel) (rest : List Char) :
    readData fuel ((render level d).toList ++ rest) = some (d, rest) := by
  induction fuel generalizing level d rest with
  | zero => exact absurd (one_le_length_render level d) (by omega)
  | succ fuel ih =>
    cases d with
    | null =>
      rw [render]
      rfl
    | text s =>
      rw [render]
      exact readData_string fuel s rest
    | list items =>
      rw [length_render_list] at hfuel
      have hread : ∀ d ∈ items, ∀ text,
          readData fuel ((itemRow (level + 1) d).toList ++ text) =
            some (d, text) := by
        intro d hd text
        have hlength := length_le_inside (itemRow (level + 1)) level hd
        rw [itemRow, String.length_append] at hlength
        exact readData_itemRow (ih (by omega) text)
      have hskip : skip ((render level (.list items)).toList ++ rest) =
          '[' :: ((inside level (items.map (itemRow (level + 1)))).toList ++
            ']' :: rest) := by
        simp [render_list, skip, isBlank]
      simp only [readData, hskip]
      rw [readAll_inside (by decide) rfl (fun _ => readData_eq_none fuel)
        (one_le_length_itemRow (level + 1)) hread (by omega)]
      rfl
    | record fields =>
      rw [length_render_record] at hfuel
      have hread : ∀ f ∈ fields, ∀ text,
          readField (readData fuel) ((fieldRow (level + 1) f).toList ++ text) =
            some (f, text) := by
        intro f hf text
        have hlength := length_le_inside (fieldRow (level + 1)) level hf
        rw [fieldRow, renderField, String.length_append, String.length_append,
          String.length_append] at hlength
        exact readField_fieldRow (ih (by omega) text)
      have hskip : skip ((render level (.record fields)).toList ++ rest) =
          '\x7b' :: ((inside level (fields.map (fieldRow (level + 1)))).toList ++
            '\x7d' :: rest) := by
        simp [render_record, skip, isBlank]
      simp only [readData, hskip]
      rw [readAll_inside (by decide) rfl (fun _ => readField_eq_none)
        (one_le_length_fieldRow (level + 1)) hread (by omega)]
      rfl

/-- **What was written is read back**, for any data. -/
theorem read?_toJson (d : Data) : read? d.toJson = some d := by
  have hread := readData_render (Nat.le_refl (render 0 d).length) []
  rw [List.append_nil] at hread
  rw [read?, Data.toJson, hread]
  rfl

/-- The writer would have put neither the blanks nor the escapes here. -/
example : read? " [ \"\\u0041\\/\" ,null]\r\n" = some (.list [.text "A/", .null]) := rfl

end Json

end SceneSelector
