import Mathlib.Data.List.Infix
import SceneSelector.Proofs.Drawing

/-!
# A drawing determines the shape of the tree

Where a record stands is said by a path, which has for each level below the root
how many siblings come before. A record stands below those whose paths are the
proper prefixes of its own, and so its row begins with a cell for each of these
(`rows_eq_map_places`). A cell begins with a blank or a bar and a connector with a
corner or a tee, so that the levels can be read back from the lines, whatever else
stands on them (`drawnLevels_drawing`). The levels of all records, in the order of
`preorder`, leave one tree only: what comes next at one level more is the next
child, and anything else ends the children (`read_levels`).
-/

namespace SceneSelector

/-! ## Lines -/

/-- The lines of a text, each of which has a line feed at its end. -/
def lines (text : String) : List String :=
  (text.toList.splitOn '\n').dropLast.map String.ofList

theorem lines_join {ss : List String} (h : ∀ s ∈ ss, '\n' ∉ s.toList) :
    lines (String.join (ss.map (· ++ "\n"))) = ss := by
  induction ss with
  | nil => rfl
  | cons s ss ih =>
    obtain ⟨hs, hss⟩ := List.forall_mem_cons.mp h
    have htext : (String.join ((s :: ss).map (· ++ "\n"))).toList =
        s.toList ++ '\n' :: (String.join (ss.map (· ++ "\n"))).toList := by
      rw [List.map_cons, String.join_cons, String.toList_append, String.toList_append,
        List.append_assoc]
      rfl
    have hplain : ∀ c ∈ s.toList, (c == '\n') = false := by
      intro c hc
      rw [beq_eq_false_iff_ne]
      rintro rfl
      exact hs hc
    have hrest := ih hss
    rw [lines] at hrest ⊢
    rw [htext, List.splitOn, List.splitOnP_append_cons_of_forall_mem hplain '\n' rfl,
      List.dropLast_cons_of_ne_nil (List.splitOnP_ne_nil _ _), List.map_cons,
      String.ofList_toList]
    exact congrArg (s :: ·) hrest

namespace Record

/-! ## Places -/

mutual

/-- The records of `preorder`, each with the path that leads to it. A path has for
each level how many siblings come before. -/
def places : Record → List (List Nat × Record)
  | ⟨rule, start, stop, matched, token, children, depthExceeded⟩ =>
    ([], ⟨rule, start, stop, matched, token, children, depthExceeded⟩) ::
      placesAll 0 children

/-- The places of siblings, the first of which has `i` siblings before it. -/
def placesAll (i : Nat) : List Record → List (List Nat × Record)
  | [] => []
  | r :: rs =>
    (places r).map (fun place => (i :: place.1, place.2)) ++ placesAll (i + 1) rs

end

/-- The record that a path leads to. -/
def at? (r : Record) : List Nat → Option Record
  | [] => some r
  | i :: path => r.children[i]?.bind (at? · path)

/-- Whether the record that a path leads to is the last of its siblings, as the
record itself is. -/
def isLastAt (r : Record) (path : List Nat) : Bool :=
  match path.getLast? with
  | none => true
  | some i => (r.at? path.dropLast).any (i + 1 == ·.children.length)

variable {r c : Record} {i : Nat}

theorem places_eq (r : Record) : r.places = ([], r) :: placesAll 0 r.children := by
  cases r
  rfl

mutual

theorem map_snd_places : ∀ r : Record, r.places.map Prod.snd = r.preorder
  | ⟨rule, start, stop, matched, token, children, depthExceeded⟩ => by
    rw [places, preorder, List.map_cons, map_snd_placesAll]

theorem map_snd_placesAll (i : Nat) : ∀ rs : List Record,
    (placesAll i rs).map Prod.snd = preorderAll rs
  | [] => rfl
  | r :: rs => by
    rw [placesAll, preorderAll, List.map_append, List.map_map, map_snd_placesAll,
      ← map_snd_places r]
    rfl

end

mutual

/-- The level of a record is how long the path to it is. -/
theorem levels_eq_map_places (level : Nat) : ∀ r : Record,
    r.levels level = r.places.map fun place => (level + place.1.length, place.2)
  | ⟨rule, start, stop, matched, token, children, depthExceeded⟩ => by
    rw [levels, places, List.map_cons, levelsAll_eq_map_placesAll level 0]
    rfl

theorem levelsAll_eq_map_placesAll (level i : Nat) : ∀ rs : List Record,
    levelsAll (level + 1) rs =
      (placesAll i rs).map fun place => (level + place.1.length, place.2)
  | [] => rfl
  | r :: rs => by
    have hlevel (path : List Nat) :
        level + 1 + path.length = level + (i :: path).length := by
      rw [List.length_cons]
      omega
    rw [levelsAll, placesAll, List.map_append, List.map_map,
      levels_eq_map_places (level + 1) r, levelsAll_eq_map_placesAll level (i + 1) rs]
    simp only [hlevel]
    rfl

end

theorem at?_cons (h : r.children[i]? = some c) (path : List Nat) :
    r.at? (i :: path) = c.at? path := by
  rw [at?, h]
  rfl

theorem mem_placesAll {place : List Nat × Record} {rs : List Record} :
    place ∈ placesAll i rs ↔
      ∃ k c path, rs[k]? = some c ∧ (path, place.2) ∈ c.places ∧
        place.1 = (i + k) :: path := by
  induction rs generalizing i with
  | nil => simp [placesAll]
  | cons r rs ih =>
    rw [placesAll, List.mem_append, List.mem_map, ih]
    constructor
    · rintro (⟨place, hmem, rfl⟩ | ⟨k, c, path, hc, hmem, heq⟩)
      · exact ⟨0, r, place.1, rfl, hmem, rfl⟩
      · exact ⟨k + 1, c, path, hc, hmem, by rw [heq]; congr 1; omega⟩
    · rintro ⟨_ | k, c, path, hc, hmem, heq⟩
      · cases hc
        exact .inl ⟨_, hmem, Prod.ext heq.symm rfl⟩
      · exact .inr ⟨k, c, path, hc, hmem, by rw [heq]; congr 1; omega⟩

/-- Every path that leads to a record is that of a place. -/
theorem mem_places_iff {path : List Nat} {node : Record} :
    (path, node) ∈ r.places ↔ r.at? path = some node := by
  induction path generalizing r with
  | nil =>
    rw [places_eq, List.mem_cons, mem_placesAll, at?, Option.some.injEq,
      Prod.mk.injEq]
    constructor
    · rintro (⟨-, rfl⟩ | ⟨k, c, path, -, -, heq⟩)
      · rfl
      · cases heq
    · rintro rfl
      exact .inl ⟨rfl, rfl⟩
  | cons i path ih =>
    rw [places_eq, List.mem_cons, mem_placesAll, at?, Option.bind_eq_some_iff]
    constructor
    · rintro (heq | ⟨k, c, path, hc, hmem, heq⟩)
      · cases heq
      · rw [Nat.zero_add] at heq
        cases heq
        exact ⟨c, hc, ih.mp hmem⟩
    · rintro ⟨c, hc, hat⟩
      exact .inr ⟨i, c, path, hc, ih.mpr hat, by rw [Nat.zero_add]⟩

/-! ## Rows -/

theorem isLastAt_singleton (r : Record) (i : Nat) :
    r.isLastAt [i] = (i + 1 == r.children.length) :=
  rfl

theorem isLastAt_cons (h : r.children[i]? = some c) {path : List Nat}
    (hpath : path ≠ []) : r.isLastAt (i :: path) = c.isLastAt path := by
  obtain ⟨front, last, rfl⟩ := List.eq_nil_or_concat path |>.resolve_left hpath
  rw [List.concat_eq_append, isLastAt, isLastAt, ← List.cons_append,
    List.getLast?_concat, List.getLast?_concat, List.dropLast_concat,
    List.dropLast_concat, at?_cons h]

/-- For each record on a path, from the child on, whether it is the last of its
siblings. -/
def lastsBelow (r : Record) (path : List Nat) : List Bool :=
  (path.inits.map r.isLastAt).tail

theorem map_isLastAt_inits (r : Record) (path : List Nat) :
    path.inits.map r.isLastAt = true :: r.lastsBelow path := by
  cases path <;> rfl

theorem lastsBelow_cons (h : r.children[i]? = some c) (path : List Nat) :
    r.lastsBelow (i :: path) = (i + 1 == r.children.length) :: c.lastsBelow path := by
  have hbelow : ∀ below ∈ path.inits.tail,
      r.isLastAt (i :: below) = c.isLastAt below := by
    intro below hbelow
    refine isLastAt_cons h ?_
    rintro rfl
    cases path with
    | nil => cases hbelow
    | cons j path => simp at hbelow
  have hinits : path.inits = [] :: path.inits.tail := by cases path <;> rfl
  rw [lastsBelow, lastsBelow, List.inits_cons, hinits]
  simp only [List.map_cons, List.map_map, List.tail_cons, isLastAt_singleton]
  exact congrArg (_ :: ·) (List.map_congr_left hbelow)

/-- The row of a record below `ancestors`, where `lasts` is for those on the way to
it. -/
def rowBelow (ancestors lasts : List Bool) (node : Record) : Row :=
  ⟨ancestors ++ lasts.dropLast, lasts.getLastD true, node⟩

/-- The rows of a child, seen from its parent. -/
theorem map_rowBelow_child (ancestors : List Bool) (isLast : Bool)
    (h : r.children[i]? = some c) :
    ((c.places.map fun place => (i :: place.1, place.2)).map fun place =>
        rowBelow ancestors (isLast :: r.lastsBelow place.1) place.2) =
      c.places.map fun place => rowBelow (ancestors ++ [isLast])
        ((i + 1 == r.children.length) :: c.lastsBelow place.1) place.2 := by
  rw [List.map_map]
  refine List.map_congr_left fun place _ => ?_
  rw [Function.comp_apply, lastsBelow_cons h, rowBelow, rowBelow, List.append_assoc]
  rfl

mutual

theorem rows_eq_map_places (ancestors : List Bool) (isLast : Bool) : ∀ r : Record,
    r.rows ancestors isLast = r.places.map fun place =>
      rowBelow ancestors (isLast :: r.lastsBelow place.1) place.2
  | ⟨rule, start, stop, matched, token, children, depthExceeded⟩ => by
    rw [rows, places, List.map_cons, rowsAll_eq_map_placesAll ancestors isLast
      ⟨rule, start, stop, matched, token, children, depthExceeded⟩ 0 children rfl,
      lastsBelow, rowBelow]
    simp

/-- The siblings are the children of `parent` from the one with `i` before it
on. -/
theorem rowsAll_eq_map_placesAll (ancestors : List Bool) (isLast : Bool)
    (parent : Record) (i : Nat) : ∀ rs : List Record, parent.children.drop i = rs →
    rowsAll (ancestors ++ [isLast]) rs = (placesAll i rs).map fun place =>
      rowBelow ancestors (isLast :: parent.lastsBelow place.1) place.2
  | [], _ => rfl
  | [r], h => by
    have hchild : parent.children[i]? = some r := by
      rw [← List.head?_drop, h, List.head?_cons]
    have hlength := congrArg List.length h
    rw [List.length_drop, List.length_singleton] at hlength
    have hlast : (i + 1 == parent.children.length) = true := by
      rw [beq_iff_eq]
      omega
    rw [rowsAll, placesAll, placesAll, List.append_nil,
      map_rowBelow_child ancestors isLast hchild, hlast,
      rows_eq_map_places]
  | r :: r' :: rs, h => by
    have hchild : parent.children[i]? = some r := by
      rw [← List.head?_drop, h, List.head?_cons]
    have hlength := congrArg List.length h
    rw [List.length_drop, List.length_cons, List.length_cons] at hlength
    have hlast : (i + 1 == parent.children.length) = false := by
      rw [beq_eq_false_iff_ne]
      omega
    have hrest : parent.children.drop (i + 1) = r' :: rs := by
      rw [← List.tail_drop, h, List.tail_cons]
    rw [rowsAll, placesAll, List.map_append,
      map_rowBelow_child ancestors isLast hchild, hlast,
      rows_eq_map_places (ancestors ++ [isLast]) false r,
      rowsAll_eq_map_placesAll ancestors isLast parent (i + 1) (r' :: rs) hrest]

end

/-- What stands left of the mark of the record at `path`. -/
def indentAt (r : Record) (path : List Nat) : String :=
  String.join (path.inits.dropLast.map fun ancestor =>
      if r.isLastAt ancestor then "  " else "│ ") ++
    if r.isLastAt path then "└─" else "├─"

/-- What stands right of the connector of a record. -/
def contentOf (showPositions : Bool) (r : Record) : String :=
  (Row.mk [] true r).content showPositions

theorem getLast?_inits (path : List Nat) : path.inits.getLast? = some path := by
  have hlength : path.length < path.inits.length := by
    rw [List.length_inits]
    exact Nat.lt_succ_self _
  rw [List.getLast?_eq_getElem?, List.length_inits, Nat.add_sub_cancel,
    List.getElem?_eq_getElem hlength, List.getElem_inits, List.take_length]

theorem rowBelow_root (r : Record) (path : List Nat) (node : Record) :
    rowBelow [] (true :: r.lastsBelow path) node =
      ⟨path.inits.dropLast.map r.isLastAt, r.isLastAt path, node⟩ := by
  rw [← map_isLastAt_inits, rowBelow, List.nil_append, List.map_dropLast,
    List.getLastD_eq_getLast?, List.getLast?_map, getLast?_inits]
  rfl

theorem indent_rowBelow_root (r : Record) (path : List Nat) (node : Record) :
    (rowBelow [] (true :: r.lastsBelow path) node).indent = r.indentAt path := by
  rw [rowBelow_root, Row.indent, List.map_map]
  rfl

/-! ## What can be read from a drawing -/

/-- Nothing that is drawn of a tree has a line feed of its own. -/
def Plain (r : Record) : Prop :=
  ∀ node ∈ r.preorder, node.rule.OneLine ∧ ∀ t ∈ node.token, '\n' ∉ t.literal.toList

instance (r : Record) : Decidable r.Plain :=
  inferInstanceAs (Decidable (∀ node ∈ r.preorder,
    node.rule.OneLine ∧ ∀ t ∈ node.token, '\n' ∉ t.literal.toList))

/-- The line of a place, without the line feed at its end. -/
def lineAt (r : Record) (showPositions : Bool) (place : List Nat × Record) : String :=
  r.indentAt place.1 ++ place.2.contentOf showPositions

theorem line_rowBelow_root (showPositions : Bool) (r : Record)
    (place : List Nat × Record) :
    (rowBelow [] (true :: r.lastsBelow place.1) place.2).line showPositions =
      r.lineAt showPositions place ++ "\n" := by
  rw [Row.line, indent_rowBelow_root]
  rfl

theorem Plain.not_mem_lineAt (h : r.Plain) (showPositions : Bool) :
    ∀ place ∈ r.places, '\n' ∉ (r.lineAt showPositions place).toList := by
  intro place hplace
  have hnode : place.2 ∈ r.preorder := by
    rw [← map_snd_places]
    exact List.mem_map_of_mem hplace
  obtain ⟨hrule, htoken⟩ := h place.2 hnode
  have hline := Row.lineFeeds_line showPositions
    (rowBelow [] (true :: r.lastsBelow place.1) place.2)
  rw [line_rowBelow_root, lineFeeds_append] at hline
  rw [← lineFeeds_eq_zero_iff]
  have hcaption : lineFeeds place.2.caption = 0 := lineFeeds_caption hrule
  have hshown : lineFeeds place.2.shown = 0 := lineFeeds_shown_eq_zero_iff.mpr htoken
  have hend : lineFeeds "\n" = 1 := rfl
  change _ = lineFeeds place.2.caption + lineFeeds place.2.shown + 1 at hline
  omega

/-- There is a line for each place, and no other. -/
theorem Plain.lines_drawing (h : r.Plain) (showPositions : Bool) :
    lines (r.drawing showPositions) = r.places.map (r.lineAt showPositions) := by
  have hlines : (r.rows [] true).map (Row.line showPositions) =
      (r.places.map (r.lineAt showPositions)).map (· ++ "\n") := by
    rw [rows_eq_map_places, List.map_map, List.map_map]
    exact List.map_congr_left fun place _ => line_rowBelow_root showPositions r place
  rw [drawing, hlines, lines_join (List.forall_mem_map.mpr (h.not_mem_lineAt _))]

end Record

/-- How many cells a line begins with. -/
def cells : List Char → Nat
  | ' ' :: ' ' :: rest | '│' :: ' ' :: rest => cells rest + 1
  | _ => 0

/-- The levels of the records that are drawn, line by line. -/
def drawnLevels (text : String) : List Nat :=
  (lines text).map (cells ·.toList)

namespace Record

theorem cells_indent (r : Record) (ancestors : List (List Nat)) (isLast : Bool)
    (rest : List Char) :
    cells ((String.join (ancestors.map fun ancestor =>
        if r.isLastAt ancestor then "  " else "│ ")).toList ++
      ((if isLast then "└─" else "├─").toList ++ rest)) = ancestors.length := by
  induction ancestors with
  | nil => cases isLast <;> rfl
  | cons ancestor ancestors ih =>
    rw [List.map_cons, String.join_cons, String.toList_append, List.append_assoc,
      List.length_cons, ← ih]
    cases r.isLastAt ancestor <;> rfl

theorem cells_lineAt (r : Record) (showPositions : Bool) (place : List Nat × Record) :
    cells (r.lineAt showPositions place).toList = place.1.length := by
  rw [lineAt, indentAt, String.toList_append, String.toList_append, List.append_assoc,
    cells_indent, List.length_dropLast, List.length_inits, Nat.add_sub_cancel]

variable {r : Record}

/-- The levels are read back, whatever the records show. -/
theorem Plain.drawnLevels_drawing (h : r.Plain) (showPositions : Bool) :
    drawnLevels (r.drawing showPositions) = (r.levels 0).map Prod.fst := by
  rw [drawnLevels, h.lines_drawing, levels_eq_map_places, List.map_map, List.map_map]
  refine List.map_congr_left fun place _ => ?_
  rw [Function.comp_apply, cells_lineAt, Function.comp_apply, Nat.zero_add]

end Record

/-! ## Shapes -/

/-- A tree of which nothing is left but how it branches. -/
inductive Shape where
  | node (children : List Shape)
deriving Repr

namespace Shape

/-- The trees that a list of levels stands for, each with its level, where no level
is more than one above the level before it. Those that follow a record at the next
level are its children. -/
def read : List Nat → List (Nat × Shape)
  | [] => []
  | level :: levels =>
    (level, node (((read levels).takeWhile (·.1 = level + 1)).map Prod.snd)) ::
      (read levels).dropWhile (·.1 = level + 1)

end Shape

/-- The shape of the tree that is drawn. -/
def drawnShape? (text : String) : Option Shape :=
  (Shape.read (drawnLevels text)).head?.map Prod.snd

namespace Record

mutual

/-- How the tree of a record branches. -/
def shape : Record → Shape
  | ⟨_, _, _, _, _, children, _⟩ => .node (shapeAll children)

def shapeAll : List Record → List Shape
  | [] => []
  | r :: rs => shape r :: shapeAll rs

end

/-- Below `level` nothing is left over from what comes before. -/
theorem read_cons (level : Nat) {levels rest : List Nat} {children : List Shape}
    (hrest : ∀ tree ∈ (Shape.read rest).head?, tree.1 ≤ level)
    (h : Shape.read levels = children.map (level + 1, ·) ++ Shape.read rest) :
    Shape.read (level :: levels) = (level, .node children) :: Shape.read rest := by
  have hchildren : ∀ tree ∈ children.map (level + 1, ·),
      decide (tree.1 = level + 1) = true :=
    List.forall_mem_map.mpr fun _ _ => decide_eq_true rfl
  have hnot : ∀ tree ∈ (Shape.read rest).head?,
      ¬ decide (tree.1 = level + 1) = true := by
    intro tree htree heq
    have hle := hrest tree htree
    have heq := of_decide_eq_true heq
    omega
  have hends : (Shape.read rest).takeWhile (·.1 = level + 1) = [] ∧
      (Shape.read rest).dropWhile (·.1 = level + 1) = Shape.read rest := by
    cases hread : Shape.read rest with
    | nil => exact ⟨rfl, rfl⟩
    | cons tree trees =>
      rw [hread] at hnot
      exact ⟨List.takeWhile_cons_of_neg (hnot tree rfl),
        List.dropWhile_cons_of_neg (hnot tree rfl)⟩
  rw [Shape.read, h, List.takeWhile_append_of_pos hchildren,
    List.dropWhile_append_of_pos hchildren, hends.1, hends.2, List.append_nil,
    List.map_map]
  simp [Function.comp_def]

mutual

/-- The levels of a tree are read as that tree if no level after them is above its
own. -/
theorem read_levels (level : Nat) {rest : List Nat}
    (hrest : ∀ tree ∈ (Shape.read rest).head?, tree.1 ≤ level) : ∀ r : Record,
    Shape.read ((r.levels level).map Prod.fst ++ rest) =
      (level, r.shape) :: Shape.read rest
  | ⟨rule, start, stop, matched, token, children, depthExceeded⟩ => by
    have hchildren := read_levelsAll (level + 1)
      (fun tree htree => Nat.le_succ_of_le (hrest tree htree)) children
    rw [levels, List.map_cons, List.cons_append, read_cons level hrest hchildren,
      shape]

theorem read_levelsAll (level : Nat) {rest : List Nat}
    (hrest : ∀ tree ∈ (Shape.read rest).head?, tree.1 ≤ level) : ∀ rs : List Record,
    Shape.read ((levelsAll level rs).map Prod.fst ++ rest) =
      (shapeAll rs).map (level, ·) ++ Shape.read rest
  | [] => rfl
  | r :: rs => by
    have hsiblings := read_levelsAll level hrest rs
    -- the next sibling, if there is one, is at this level
    have hnext : ∀ tree ∈
        (Shape.read ((levelsAll level rs).map Prod.fst ++ rest)).head?,
        tree.1 ≤ level := by
      rw [hsiblings]
      cases rs with
      | nil => exact hrest
      | cons r rs =>
        rintro tree ⟨⟩
        exact Nat.le_refl _
    rw [levelsAll, List.map_append, List.append_assoc, read_levels level hnext r,
      hsiblings, shapeAll, List.map_cons, List.cons_append]

end

theorem read_levels_zero (r : Record) :
    Shape.read ((r.levels 0).map Prod.fst) = [(0, r.shape)] := by
  have h := @read_levels 0 [] nofun r
  rwa [List.append_nil] at h

variable {r : Record}

/-- The tree can be read back from its drawing. -/
theorem Plain.drawnShape?_drawing (h : r.Plain) (showPositions : Bool) :
    drawnShape? (r.drawing showPositions) = some r.shape := by
  rw [drawnShape?, h.drawnLevels_drawing, read_levels_zero]
  rfl

/-! What a string stands for can look like a drawing. -/

example : drawnShape?
    ("└─ ✓ id [0..2]\n  ├─ ✓ literal '#' [0..1] = #\n" ++
      "  └─ ✓ literal <string> [1..2] = │ └─ a\n") =
    some (.node [.node [], .node []]) := by
  rfl

/-- A drawing has one line for each record, in the order of `preorder`. A line
begins with a cell for each ancestor, blank if that is the last of its siblings and a
bar otherwise, and a corner if the record is the last of its siblings and a tee
otherwise. So the levels can be read from the drawing, and from these the tree:
drawings of trees that branch differently are different. -/
theorem drawing_determines_shape (h : r.Plain) (showPositions : Bool) :
    (lines (r.drawing showPositions)).length = r.preorder.length ∧
      (∀ (k : Nat) (node : Record), r.preorder[k]? = some node →
        ∃ path, r.places[k]? = some (path, node) ∧ r.at? path = some node ∧
          (lines (r.drawing showPositions))[k]? = some (
            String.join (path.inits.dropLast.map fun ancestor =>
              if r.isLastAt ancestor then "  " else "│ ") ++
            (if r.isLastAt path then "└─" else "├─") ++
            node.contentOf showPositions)) ∧
      drawnLevels (r.drawing showPositions) = (r.levels 0).map Prod.fst ∧
      drawnShape? (r.drawing showPositions) = some r.shape ∧
      ∀ (r' : Record) (showPositions' : Bool), r'.Plain →
        r'.drawing showPositions' = r.drawing showPositions → r'.shape = r.shape := by
  refine ⟨?_, ?_, h.drawnLevels_drawing _, h.drawnShape?_drawing _, ?_⟩
  · rw [h.lines_drawing, ← map_snd_places, List.length_map, List.length_map]
  · intro k node hnode
    rw [← map_snd_places, List.getElem?_map, Option.map_eq_some_iff] at hnode
    obtain ⟨⟨path, node⟩, hplace, rfl⟩ := hnode
    refine ⟨path, hplace, mem_places_iff.mp (List.mem_of_getElem? hplace), ?_⟩
    rw [h.lines_drawing, List.getElem?_map, hplace]
    rfl
  · intro r' showPositions' h' hdrawing
    have hshape := h'.drawnShape?_drawing showPositions'
    rw [hdrawing, h.drawnShape?_drawing, Option.some.injEq] at hshape
    exact hshape.symm

/-- A `#` and an identifier make two records below that of the rule, and an
identifier alone makes one, for the `#` that is missing. -/
theorem drawing_determines_shape_at_id :
    let id := Rule.sequence ⟨some "id", 0⟩ [Grammar.symbol .hash "#", .identifier]
    let m : Matcher := ⟨⟨[id], id⟩, 9⟩
    let r := (m.parse "#a").record
    let r' := (m.parse "a").record
    r.Plain ∧ r'.Plain ∧ (lines (r.drawing true)).length = 3 ∧
      r'.drawing false ≠ r.drawing true := by
  intro id m r r'
  have h : r.Plain := by decide
  have h' : r'.Plain := by decide
  obtain ⟨hlength, -, -, -, hshape⟩ := drawing_determines_shape h true
  refine ⟨h, h', hlength, fun hdrawing => ?_⟩
  -- one child against two
  cases hshape r' false h' hdrawing

end Record

end SceneSelector
