import SceneSelector.Query.Reading

/-!
# Evaluation carried over to other tokens

Evaluation asks two things of a list of tokens: what is read at a position, and
which position is next. Let another list give the same answers, except that its
positions have other numbers in the same order and that its tokens differ in
what no pattern looks at. Then every rule leaves the same record there, with
those numbers and those tokens (`Transport.carries_evaluate`).

One such change takes the spans away. What was parsed shows nothing of it, and
so lists of tokens with the same kinds and literals are parsed alike
(`agrees_of_content_eq`).
-/

namespace SceneSelector

/-! ## Records with other positions and tokens -/

namespace Record

mutual

/-- The record with its positions moved and its tokens changed. -/
def map (move : Nat → Nat) (change : Token → Token) : Record → Record
  | ⟨rule, start, stop, matched, token, children, depthExceeded⟩ =>
    ⟨rule, move start, move stop, matched, token.map change,
      mapAll move change children, depthExceeded⟩

def mapAll (move : Nat → Nat) (change : Token → Token) :
    List Record → List Record
  | [] => []
  | r :: rs => map move change r :: mapAll move change rs

end

variable {move : Nat → Nat} {change : Token → Token}

theorem mapAll_eq_map (rs : List Record) :
    mapAll move change rs = rs.map (map move change) := by
  induction rs with
  | nil => rfl
  | cons r rs ih => rw [mapAll, ih, List.map_cons]

@[simp] theorem matched_map (r : Record) :
    (r.map move change).matched = r.matched := by
  cases r
  rfl

@[simp] theorem stop_map (r : Record) :
    (r.map move change).stop = move r.stop := by
  cases r
  rfl

@[simp] theorem depthExceeded_map (r : Record) :
    (r.map move change).depthExceeded = r.depthExceeded := by
  cases r
  rfl

theorem map_ofLiteral (rule : Rule) (start stop : Nat)
    (accepted : Option Token) :
    (ofLiteral rule start stop accepted).map move change =
      ofLiteral rule (move start) (move stop) (accepted.map change) := by
  simp only [ofLiteral, map, mapAll, Option.isSome_map]

theorem map_ofSequence (rule : Rule) (start : Nat) (parts : List Record) :
    (ofSequence rule start parts).map move change =
      ofSequence rule (move start) (parts.map (map move change)) := by
  have hstop : move ((parts.getLast?.map stop).getD start) =
      ((parts.map (map move change)).getLast?.map stop).getD (move start) := by
    rw [List.getLast?_map]
    cases parts.getLast? with
    | none => rfl
    | some r => exact (stop_map r).symm
  simp only [ofSequence, map, mapAll_eq_map, hstop, List.all_map, List.any_map,
    Function.comp_def, matched_map, depthExceeded_map, Option.map_none]

theorem map_ofChoice (rule : Rule) (start : Nat) (attempts : List Record)
    (choice : Option Record) :
    (ofChoice rule start attempts choice).map move change =
      ofChoice rule (move start) (attempts.map (map move change))
        (choice.map (map move change)) := by
  cases choice <;>
    simp only [ofChoice, map, mapAll, Option.map_none, Option.map_some,
      stop_map, List.any_map, Function.comp_def, depthExceeded_map]

mutual

theorem levels_map (level : Nat) : ∀ r : Record,
    levels level (r.map move change) =
      (levels level r).map fun row => (row.1, row.2.map move change)
  | ⟨_, _, _, _, _, children, _⟩ => by
    simp only [map, levels, levelsAll_map (level + 1) children, List.map_cons]

theorem levelsAll_map (level : Nat) : ∀ rs : List Record,
    levelsAll level (mapAll move change rs) =
      (levelsAll level rs).map fun row => (row.1, row.2.map move change)
  | [] => rfl
  | r :: rs => by
    simp only [mapAll, levelsAll, levels_map level r, levelsAll_map level rs,
      List.map_append]

end

end Record

namespace Evaluation

/-! ## Trying several rules -/

/-- `f'` gives the records that `f` gives, moved and changed. -/
def Carries (move : Nat → Nat) (change : Token → Token)
    (f f' : Rule → Nat → Record) : Prop :=
  ∀ rule start, f' rule (move start) = (f rule start).map move change

section

variable {move : Nat → Nat} {change : Token → Token}
  {f f' : Rule → Nat → Record}

theorem Carries.inOrder (h : Carries move change f f') (rules : List Rule)
    (start : Nat) :
    inOrder f' rules (move start) =
      (inOrder f rules start).map (Record.map move change) := by
  induction rules generalizing start with
  | nil => rfl
  | cons rule rules ih =>
    simp only [Evaluation.inOrder, h rule start, Record.matched_map,
      Record.stop_map, ih]
    split <;> rfl

theorem Carries.untilMatch (h : Carries move change f f') (start : Nat)
    (rules : List Rule) :
    untilMatch f' (move start) rules =
      (untilMatch f start rules).map (Record.map move change) := by
  induction rules with
  | nil => rfl
  | cons rule rules ih =>
    simp only [Evaluation.untilMatch, h rule start, Record.matched_map, ih]
    split <;> rfl

/-- Which match reaches furthest depends on the order of positions alone. -/
theorem furthest_map (hmove : ∀ i j, move i < move j ↔ i < j)
    (rs : List Record) :
    furthest (rs.map (Record.map move change)) =
      (furthest rs).map (Record.map move change) := by
  induction rs with
  | nil => rfl
  | cons r rs ih =>
    simp only [List.map_cons, furthest, Record.matched_map, ih]
    split
    · cases furthest rs with
      | none => rfl
      | some best =>
        simp only [Option.map_some, Record.stop_map, hmove]
        split <;> rfl
    · rfl

end

/-! ## One rule -/

/-- What `tokens'` has at the moved positions is what `tokens` has, but for a
change that no pattern sees. -/
structure Transport (move : Nat → Nat) (change : Token → Token)
    (tokens tokens' : List Token) : Prop where
  lt_iff : ∀ i j, move i < move j ↔ i < j
  read : ∀ i, Buffer.read tokens' (move i) = change (Buffer.read tokens i)
  next : ∀ i, Buffer.next tokens' (move i) = move (Buffer.next tokens i)
  accepts : ∀ (pattern : Pattern) i,
    pattern.accepts (change (Buffer.read tokens i)) =
      pattern.accepts (Buffer.read tokens i)

/-- **Evaluation is carried over**, under every limit and for every rule. -/
theorem Transport.carries_evaluate {move : Nat → Nat} {change : Token → Token}
    {tokens tokens' : List Token} (h : Transport move change tokens tokens')
    (g : Grammar) (n : Nat) :
    Carries move change (evaluate g tokens n) (evaluate g tokens' n) := by
  induction n with
  | zero => exact fun _ _ => rfl
  | succ n ih =>
    intro rule start
    cases rule with
    | literal tag pattern =>
      simp only [evaluate, Record.map_ofLiteral, h.read, h.next, h.accepts]
      split <;> rfl
    | sequence tag rules =>
      simp only [evaluate, Record.map_ofSequence, ih.inOrder]
    | alternation tag rules =>
      have hattempts : rules.map (evaluate g tokens' n · (move start)) =
          (rules.map (evaluate g tokens n · start)).map
            (Record.map move change) := by
        rw [List.map_map]
        exact List.map_congr_left fun rule _ => ih rule start
      simp only [evaluate, Record.map_ofChoice, hattempts,
        furthest_map h.lt_iff]
    | exclusive tag rules =>
      have hmatched : Record.matched ∘ Record.map move change =
          Record.matched := funext Record.matched_map
      simp only [evaluate, Record.map_ofChoice, ih.untilMatch, List.find?_map,
        hmatched]
    | empty tag => rfl
    | reference tag target lazy =>
      simp only [evaluate]
      cases g.get? target with
      | none => rfl
      | some found => exact ih found start

end Evaluation

/-! ## Tokens without their spans -/

namespace Token

/-- What a grammar and a query can know of a token. -/
def content (t : Token) : Kind × String :=
  (t.kind, t.literal)

/-- The token with no word of where it stands. -/
def unplaced (t : Token) : Token :=
  ⟨t.kind, t.literal, ⟨0, 0⟩⟩

theorem map_unplaced_congr {tokens tokens' : List Token}
    (h : tokens.map content = tokens'.map content) :
    tokens.map unplaced = tokens'.map unplaced := by
  have hunplaced (ts : List Token) : ts.map unplaced =
      (ts.map content).map fun c => ⟨c.1, c.2, ⟨0, 0⟩⟩ := by
    rw [List.map_map]
    rfl
  rw [hunplaced, hunplaced, h]

end Token

namespace Buffer

theorem endOffset_unplaced (tokens : List Token) :
    endOffset (tokens.map Token.unplaced) = 0 := by
  rw [endOffset, List.getLast?_map]
  cases tokens.getLast? <;> rfl

theorem read_unplaced (tokens : List Token) (i : Nat) :
    read (tokens.map Token.unplaced) i = (read tokens i).unplaced := by
  rw [read, read, List.getElem?_map, endOffset_unplaced]
  cases tokens[i]? <;> rfl

end Buffer

theorem Evaluation.transport_unplaced (tokens : List Token) :
    Transport id Token.unplaced tokens (tokens.map Token.unplaced) where
  lt_iff _ _ := Iff.rfl
  read := Buffer.read_unplaced tokens
  next i := by simp only [Buffer.next, List.length_map, id]
  accepts _ _ := rfl

namespace Record

/-- The record with its tokens unplaced. -/
def unplaced (r : Record) : Record :=
  r.map id Token.unplaced

mutual

theorem outlineItem_map_unplaced : ∀ r : Record,
    outlineItem (r.map id Token.unplaced) = outlineItem r
  | ⟨_, _, _, _, token, children, _⟩ => by
    simp only [map, outlineItem, outlineAll_map_unplaced children]
    cases token <;> rfl

theorem outlineAll_map_unplaced : ∀ rs : List Record,
    outlineAll (mapAll id Token.unplaced rs) = outlineAll rs
  | [] => rfl
  | r :: rs => by
    simp only [mapAll, outlineAll, outlineItem_map_unplaced r,
      outlineAll_map_unplaced rs]

end

theorem outline_unplaced (r : Record) : r.unplaced.outline = r.outline := by
  cases r
  exact outlineAll_map_unplaced _

theorem ofRecord_unplaced (r : Record) :
    Query.ofRecord r.unplaced = Query.ofRecord r := by
  rw [Query.ofRecord, Query.ofRecord, outline_unplaced]
  cases r
  rfl

/-- What a listing of records shows of one of them. -/
structure TraceRow where
  level : Nat
  label : String
  name : Option String
  matched : Bool
  start : Nat
  stop : Nat
  depthExceeded : Bool
  literal : Option String
deriving DecidableEq, Repr

def traceRow (level : Nat) (r : Record) : TraceRow :=
  ⟨level, r.rule.label, r.name, r.matched, r.start, r.stop, r.depthExceeded,
    r.token.map Token.literal⟩

/-- The rows of a record and of all records below it, parents first. -/
def trace (r : Record) : List TraceRow :=
  (r.levels 0).map fun (level, r) => traceRow level r

theorem traceRow_unplaced (level : Nat) (r : Record) :
    traceRow level r.unplaced = traceRow level r := by
  obtain ⟨rule, start, stop, matched, token, children, depthExceeded⟩ := r
  cases token <;> rfl

theorem trace_unplaced (r : Record) : r.unplaced.trace = r.trace := by
  rw [trace, unplaced, levels_map, List.map_map]
  exact List.map_congr_left fun row _ => traceRow_unplaced row.1 row.2

end Record

/-! ## Outcomes -/

namespace Outcome

/-- The outcome with its tokens unplaced. -/
def unplaced (o : Outcome) : Outcome :=
  ⟨o.tokens.map Token.unplaced, o.record.unplaced⟩

/-- Two outcomes say the same, wherever their tokens stand. -/
structure Agrees (o o' : Outcome) : Prop where
  matched : o.matched = o'.matched
  consumed : o.consumed = o'.consumed
  tokenCount : o.tokenCount = o'.tokenCount
  isComplete : o.isComplete = o'.isComplete
  depthExceeded : o.depthExceeded = o'.depthExceeded
  next : o.next?.map Token.content = o'.next?.map Token.content
  trace : o.record.trace = o'.record.trace
  query : Query.ofRecord o.record = Query.ofRecord o'.record

theorem Agrees.symm {o o' : Outcome} (h : o.Agrees o') : o'.Agrees o :=
  ⟨h.matched.symm, h.consumed.symm, h.tokenCount.symm, h.isComplete.symm,
    h.depthExceeded.symm, h.next.symm, h.trace.symm, h.query.symm⟩

theorem Agrees.trans {o o' o'' : Outcome} (h : o.Agrees o')
    (h' : o'.Agrees o'') : o.Agrees o'' :=
  ⟨h.matched.trans h'.matched, h.consumed.trans h'.consumed,
    h.tokenCount.trans h'.tokenCount, h.isComplete.trans h'.isComplete,
    h.depthExceeded.trans h'.depthExceeded, h.next.trans h'.next,
    h.trace.trans h'.trace, h.query.trans h'.query⟩

theorem agrees_unplaced (o : Outcome) : o.unplaced.Agrees o := by
  have hmatched : o.unplaced.matched = o.matched := Record.matched_map _
  have hconsumed : o.unplaced.consumed = o.consumed := Record.stop_map _
  have hcount : o.unplaced.tokenCount = o.tokenCount := List.length_map _
  refine {
    matched := hmatched
    consumed := hconsumed
    tokenCount := hcount
    isComplete := by rw [isComplete, isComplete, hmatched, hconsumed, hcount]
    depthExceeded := Record.depthExceeded_map _
    next := ?_
    trace := Record.trace_unplaced _
    query := Record.ofRecord_unplaced _ }
  rw [next?, next?, hconsumed, unplaced, List.getElem?_map, Option.map_map]
  rfl

end Outcome

namespace Matcher

theorem parseTokens_unplaced (m : Matcher) (tokens : List Token) :
    m.parseTokens (tokens.map Token.unplaced) =
      (m.parseTokens tokens).unplaced := by
  have hrecord := (Evaluation.transport_unplaced tokens).carries_evaluate
    m.grammar m.budget m.grammar.root 0
  exact congrArg (Outcome.mk _) hrecord

/-- **Spans have no part in matching**: tokens with the same kinds and literals
are parsed alike by every grammar and under every limit. -/
theorem agrees_of_content_eq (m : Matcher) {tokens tokens' : List Token}
    (h : tokens.map Token.content = tokens'.map Token.content) :
    (m.parseTokens tokens).Agrees (m.parseTokens tokens') := by
  have hunplaced : (m.parseTokens tokens).unplaced =
      (m.parseTokens tokens').unplaced := by
    rw [← parseTokens_unplaced, ← parseTokens_unplaced,
      Token.map_unplaced_congr h]
  exact (m.parseTokens tokens).agrees_unplaced.symm.trans
    (hunplaced ▸ (m.parseTokens tokens').agrees_unplaced)

/-- Whether there is a query, and which one, is a matter of the outcome. -/
theorem parseSelector_of_agrees {m : Matcher} {text text' : String}
    (h : (m.parse text).Agrees (m.parse text')) :
    m.parseSelector text = m.parseSelector text' := by
  simp only [parseSelector, h.matched, h.consumed, h.tokenCount, h.isComplete,
    h.depthExceeded, h.query]
  have hnext := h.next
  cases hn : (m.parse text).next? with
  | none =>
    rw [hn] at hnext
    rw [Option.map_eq_none_iff.mp hnext.symm]
  | some t =>
    rw [hn] at hnext
    obtain ⟨t', hn', hcontent⟩ := Option.map_eq_some_iff.mp hnext.symm
    have hliteral : t'.literal = t.literal := congrArg Prod.snd hcontent
    simp only [hn', hliteral]

end Matcher

end SceneSelector
