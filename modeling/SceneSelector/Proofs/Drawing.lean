import SceneSelector.Matcher
import SceneSelector.Proofs.MatchedTokens
import SceneSelector.Record.Drawing

/-!
# The lines of a drawing

A drawing has one row for each record, in the order of `preorder`
(`map_record_rows`), and a row is written with a line feed at its end. What is
between is drawn from the rule and from the token of a literal. Rules of one line
add no line feed, which the rules of selector queries are, but a token of a string
has the text that the string stands for. So a row is one line, unless it shows a
string in which there is a line feed (`lineFeeds_drawing_selector`).
-/

namespace SceneSelector

/-! ## Line feeds -/

/-- How many line feeds there are in a text. -/
def lineFeeds (text : String) : Nat :=
  text.toList.count '\n'

theorem lineFeeds_eq_zero_iff {text : String} :
    lineFeeds text = 0 ↔ '\n' ∉ text.toList :=
  List.count_eq_zero

theorem lineFeeds_append (s s' : String) :
    lineFeeds (s ++ s') = lineFeeds s + lineFeeds s' := by
  rw [lineFeeds, String.toList_append, List.count_append]
  rfl

theorem lineFeeds_empty : lineFeeds "" = 0 :=
  rfl

theorem lineFeeds_join_cons (s : String) (ss : List String) :
    lineFeeds (String.join (s :: ss)) = lineFeeds s + lineFeeds (String.join ss) := by
  rw [String.join_cons, lineFeeds_append]

theorem lineFeeds_join_eq_zero_iff {ss : List String} :
    lineFeeds (String.join ss) = 0 ↔ ∀ s ∈ ss, lineFeeds s = 0 := by
  induction ss with
  | nil => exact iff_of_true rfl nofun
  | cons s ss ih =>
    rw [lineFeeds_join_cons, Nat.add_eq_zero_iff, ih, List.forall_mem_cons]

/-- A number is written in digits. -/
theorem lineFeeds_toString (n : Nat) : lineFeeds (toString n) = 0 := by
  rw [lineFeeds_eq_zero_iff]
  intro h
  have hmem : '\n' ∈ Nat.toDigits 10 n := by simpa using h
  have hdigit := Nat.isDigit_of_mem_toDigits (by decide) (by decide) hmem
  cases hdigit

/-- The name of the rule and the text that it asks for are of one line. -/
structure Rule.OneLine (rule : Rule) : Prop where
  name : ∀ name ∈ rule.name, lineFeeds name = 0
  pattern : ∀ p ∈ rule.pattern?, ∀ literal ∈ p.literal, lineFeeds literal = 0

theorem lineFeeds_label (rule : Rule) : lineFeeds rule.label = 0 := by
  cases rule <;> (rw [Rule.label]; rfl)

namespace Record

/-- The literal of the token that a record shows. -/
def shown (r : Record) : String :=
  (r.token.map Token.literal).getD ""

theorem lineFeeds_shown_eq_zero_iff {r : Record} :
    lineFeeds r.shown = 0 ↔ ∀ t ∈ r.token, '\n' ∉ t.literal.toList := by
  rw [shown]
  cases r.token with
  | none => exact iff_of_true rfl nofun
  | some t => simp [lineFeeds_eq_zero_iff]

theorem lineFeeds_caption {r : Record} (h : r.rule.OneLine) :
    lineFeeds r.caption = 0 := by
  unfold caption
  split
  · next name hname => exact h.name name hname
  · next tag p hname hrule =>
    rw [hrule] at h
    rw [lineFeeds_append, Pattern.display]
    split
    · next literal hliteral =>
      rw [lineFeeds_append, lineFeeds_append, h.pattern p rfl literal hliteral]
      rfl
    · cases p.kind <;> rfl
  · exact lineFeeds_label r.rule

namespace Row

theorem lineFeeds_indent (row : Row) : lineFeeds row.indent = 0 := by
  rw [indent, lineFeeds_append, Nat.add_eq_zero_iff, lineFeeds_join_eq_zero_iff,
    List.forall_mem_map]
  constructor
  · intro isLast _
    cases isLast <;> rfl
  · cases row.isLast <;> rfl

theorem lineFeeds_positions (r : Record) : lineFeeds (positions r) = 0 := by
  rw [positions, lineFeeds_append, lineFeeds_append, lineFeeds_append,
    lineFeeds_append, lineFeeds_toString, lineFeeds_toString]
  rfl

/-- The line feed at the end of a line is not the only one if the caption or the
token has others. -/
theorem lineFeeds_line (showPositions : Bool) (row : Row) :
    lineFeeds (row.line showPositions) =
      lineFeeds row.record.caption + lineFeeds row.record.shown + 1 := by
  have hmark : lineFeeds (mark row.record.matched) = 0 := by
    cases row.record.matched <;> rfl
  have hpositions :
      lineFeeds (if showPositions then positions row.record else "") = 0 := by
    cases showPositions with
    | false => rfl
    | true => exact lineFeeds_positions row.record
  have hblank : lineFeeds " " = 0 := rfl
  have hequals : lineFeeds " = " = 0 := rfl
  have hend : lineFeeds "\n" = 1 := rfl
  rw [line, content, shown]
  cases row.record.token <;>
    simp only [lineFeeds_append, lineFeeds_indent, lineFeeds_empty, hblank,
      hmark, hpositions, hequals, hend, Option.map_none, Option.map_some,
      Option.getD_none, Option.getD_some, Nat.zero_add, Nat.add_zero]

end Row

/-! ## Rows -/

mutual

/-- There is a row for each record, in their order. -/
theorem map_record_rows (ancestors : List Bool) (isLast : Bool) : ∀ r : Record,
    (r.rows ancestors isLast).map Row.record = r.preorder
  | ⟨rule, start, stop, matched, token, children, depthExceeded⟩ => by
    rw [rows, preorder, List.map_cons, map_record_rowsAll]

theorem map_record_rowsAll (ancestors : List Bool) : ∀ rs : List Record,
    (rowsAll ancestors rs).map Row.record = preorderAll rs
  | [] => rfl
  | [r] => by rw [rowsAll, preorderAll, preorderAll, map_record_rows, List.append_nil]
  | r :: r' :: rs => by
    rw [rowsAll, preorderAll, List.map_append, map_record_rows,
      map_record_rowsAll]

end

/-- A drawing has a line feed for each record, and those of what it shows. -/
theorem lineFeeds_drawing (showPositions : Bool) (r : Record) :
    lineFeeds (r.drawing showPositions) =
      r.preorder.length + lineFeeds (String.join (r.preorder.map caption)) +
        lineFeeds (String.join (r.preorder.map shown)) := by
  rw [drawing, ← map_record_rows [] true]
  generalize r.rows [] true = rows
  induction rows with
  | nil => rfl
  | cons row rows ih =>
    simp only [List.map_cons, List.length_cons, lineFeeds_join_cons,
      Row.lineFeeds_line, ih]
    omega

/-- A drawing ends with a line feed. -/
theorem exists_drawing_eq (showPositions : Bool) (r : Record) :
    ∃ front, r.drawing showPositions = front ++ "\n" := by
  have hrecords := map_record_rows [] true r
  rw [drawing]
  rcases List.eq_nil_or_concat (r.rows [] true) with hrows | ⟨rows, last, hrows⟩
  · -- the record itself has a row
    rw [hrows, preorder_eq] at hrecords
    cases hrecords
  · refine ⟨String.join (rows.map (Row.line showPositions)) ++
      (last.indent ++ last.content showPositions), ?_⟩
    rw [hrows, List.concat_eq_append, List.map_append, String.join_append,
      List.map_singleton, String.join_cons, Row.line]
    simp only [String.join_nil, String.append_empty, String.append_assoc]

/-- Where all rules are of one line, there is one line for each record unless a
record shows a line feed. -/
theorem lineFeeds_drawing_of_oneLine {r : Record}
    (h : ∀ node ∈ r.preorder, node.rule.OneLine) (showPositions : Bool) :
    lineFeeds (r.drawing showPositions) =
      r.preorder.length + lineFeeds (String.join (r.preorder.map shown)) := by
  have hcaptions : lineFeeds (String.join (r.preorder.map caption)) = 0 := by
    rw [lineFeeds_join_eq_zero_iff, List.forall_mem_map]
    exact fun node hnode => lineFeeds_caption (h node hnode)
  rw [lineFeeds_drawing, hcaptions, Nat.add_zero]

end Record

/-! ## Drawings of selector queries -/

instance (rule : Rule) : Decidable rule.OneLine :=
  decidable_of_iff
    ((∀ name ∈ rule.name, lineFeeds name = 0) ∧
      ∀ p ∈ rule.pattern?, ∀ literal ∈ p.literal, lineFeeds literal = 0)
    ⟨fun h => ⟨h.1, h.2⟩, fun h => ⟨h.name, h.pattern⟩⟩

theorem Grammar.oneLine_selector :
    ∀ rule ∈ Grammar.selector.rules, ∀ node ∈ rule.walk, node.OneLine := by
  decide

namespace Matcher

theorem oneLine_of_mem_preorder (d : Nat) (text : String) :
    ∀ node ∈ ((selector d).parse text).record.preorder, node.rule.OneLine := by
  intro node hnode
  obtain ⟨-, -, -, hreaches, -⟩ := Evaluation.exists_made_of_mem_preorder hnode
  have hroot : Grammar.selector.root ∈ Grammar.selector.rules := by decide
  exact hreaches.forall_mem_walk Grammar.oneLine_selector
    (Grammar.oneLine_selector _ hroot) node.rule (Rule.mem_walk.mpr (.inl rfl))

/-- A drawing of a query ends with a line feed. Of line feeds it has one for each
record and those of the literals that are shown, so it has a line for each record
exactly if no literal that is shown has a line feed. -/
theorem lineFeeds_drawing_selector (d : Nat) (text : String) (showPositions : Bool) :
    let r := ((selector d).parse text).record
    (∃ front, r.drawing showPositions = front ++ "\n") ∧
      lineFeeds (r.drawing showPositions) =
        r.preorder.length + lineFeeds (String.join (r.preorder.map Record.shown)) ∧
      (lineFeeds (r.drawing showPositions) = r.preorder.length ↔
        ∀ node ∈ r.preorder, ∀ t ∈ node.token, '\n' ∉ t.literal.toList) := by
  intro r
  have hcount := Record.lineFeeds_drawing_of_oneLine (oneLine_of_mem_preorder d text)
    showPositions
  refine ⟨Record.exists_drawing_eq showPositions r, hcount, ?_⟩
  rw [hcount, Nat.add_eq_left, lineFeeds_join_eq_zero_iff, List.forall_mem_map]
  exact forall₂_congr fun node _ => Record.lineFeeds_shown_eq_zero_iff

/-- The string of this query stands for a text with a line feed. -/
theorem not_forall_lineFeeds_drawing :
    ¬ ∀ (d : Nat) (text : String) (showPositions : Bool),
      lineFeeds (((selector d).parse text).record.drawing showPositions) =
        ((selector d).parse text).record.preorder.length := by
  intro h
  -- what the rows show decides it, so that the drawing is not computed
  have hcount := Record.lineFeeds_drawing_of_oneLine
    (oneLine_of_mem_preorder 30 "#\"a\\nb\"") true
  rw [h, Nat.left_eq_add] at hcount
  revert hcount
  decide

end Matcher

end SceneSelector
