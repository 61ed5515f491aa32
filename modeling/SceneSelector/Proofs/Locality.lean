import SceneSelector.Proofs.MatchedTokens
import SceneSelector.Proofs.Transport

/-!
# Evaluation does not look back

What a rule comes to at a position depends on the tokens from there on and on
nothing before them: on those tokens alone it leaves the same record, with
positions that count from there (`carries_drop`).

One thing tells the two evaluations apart, and only at the very end of the
buffer. The sentinel that is read there stands where the last token ended, and
if no token is left to evaluate on, it is not known where that was. No rule can
find out, since patterns do not look at spans, but a literal that asks for the
sentinel keeps it in its record. If none does, or if a token is left, the records
are the same altogether (`evaluate_scanned`).
-/

namespace SceneSelector

/-! ## Tokens from a position on -/

namespace Buffer

theorem endOffset_drop {tokens : List Token} {p : Nat} (h : p < tokens.length) :
    endOffset (tokens.drop p) = endOffset tokens := by
  rw [endOffset, endOffset, List.getLast?_drop, if_neg (Nat.not_le.mpr h)]

theorem next_drop (tokens : List Token) (p i : Nat) :
    next tokens (p + i) = p + next (tokens.drop p) i := by
  simp only [next, List.length_drop]
  split <;> split <;> omega

/-- The sentinel of the tokens from `p` on becomes that of all of them. -/
def restoreEnd (tokens : List Token) (p : Nat) (t : Token) : Token :=
  if t = .endOfInput (endOffset (tokens.drop p)) then
    .endOfInput (endOffset tokens)
  else t

theorem restoreEnd_of_lt {tokens : List Token} {p : Nat}
    (h : p < tokens.length) : restoreEnd tokens p = id := by
  funext t
  rw [restoreEnd, endOffset_drop h]
  split
  · next ht => exact ht.symm
  · rfl

theorem restoreEnd_of_kind_ne {t : Token} (h : t.kind ≠ .endOfInput)
    (tokens : List Token) (p : Nat) : restoreEnd tokens p t = t := by
  apply if_neg
  rintro rfl
  exact h rfl

theorem read_drop (tokens : List Token) (p i : Nat) :
    read tokens (p + i) = restoreEnd tokens p (read (tokens.drop p) i) := by
  rw [read, read, List.getElem?_drop]
  cases ht : tokens[p + i]? with
  | none => exact (if_pos rfl).symm
  | some t =>
    have hlt : p < tokens.length :=
      Nat.lt_of_le_of_lt (Nat.le_add_right p i) (List.getElem?_eq_some_iff.mp ht).1
    rw [restoreEnd_of_lt hlt]
    rfl

end Buffer

theorem Pattern.accepts_restoreEnd (pattern : Pattern) (tokens : List Token)
    (p : Nat) (t : Token) :
    pattern.accepts (Buffer.restoreEnd tokens p t) = pattern.accepts t := by
  rw [Buffer.restoreEnd]
  split
  · next ht =>
    rw [ht]
    rfl
  · rfl

/-! ## Evaluation from a position on -/

namespace Evaluation

theorem transport_drop (tokens : List Token) (p : Nat) :
    Transport (p + ·) (Buffer.restoreEnd tokens p) (tokens.drop p) tokens where
  lt_iff _ _ := Nat.add_lt_add_iff_left
  read := Buffer.read_drop tokens p
  next := Buffer.next_drop tokens p
  accepts pattern _ := pattern.accepts_restoreEnd tokens p _

/-- **Evaluation does not look back**, whatever the rule asks for. -/
theorem carries_drop (g : Grammar) (tokens : List Token) (p n : Nat) :
    Carries (p + ·) (Buffer.restoreEnd tokens p)
      (evaluate g (tokens.drop p) n) (evaluate g tokens n) :=
  (transport_drop tokens p).carries_evaluate g n

theorem token_ofChoice (rule : Rule) (start : Nat) (attempts : List Record)
    (choice : Option Record) :
    (Record.ofChoice rule start attempts choice).token = none := by
  cases choice <;> rfl

/-- Only literals keep a token, and only one that fits. -/
theorem accepts_of_mem_token {g : Grammar} {tokens : List Token} {n : Nat}
    {rule : Rule} (h : 0 < n → g.Recorded rule) {start : Nat} {t : Token}
    (ht : t ∈ (evaluate g tokens n rule start).token) :
    ∃ pattern ∈ rule.pattern?, pattern.accepts t = true := by
  cases n with
  | zero => cases ht
  | succ n =>
    cases rule with
    | literal tag pattern =>
      have hshape : (evaluate g tokens (n + 1) (.literal tag pattern)
          start).LiteralShape tokens pattern :=
        literalShape_evaluate tag pattern start
      exact ⟨pattern, rfl, (hshape.token_scanned t ht).2⟩
    | sequence tag rules => cases ht
    | alternation tag rules =>
      rw [evaluate, token_ofChoice] at ht
      cases ht
    | exclusive tag rules =>
      rw [evaluate, token_ofChoice] at ht
      cases ht
    | empty tag => cases ht
    | reference tag target lazy =>
      have hget : g.get? target = none := h (Nat.succ_pos n) target rfl
      simp only [evaluate, hget] at ht
      cases ht

/-- No record keeps the sentinel if no literal asks for it. -/
theorem kind_ne_endOfInput_of_mem_preorder {g : Grammar} {tokens : List Token}
    {n start : Nat} {rule : Rule} (hg : g.SentinelFree)
    (hrule : rule.SentinelFree) {r : Record}
    (hr : r ∈ (evaluate g tokens n rule start).preorder) :
    ∀ t ∈ r.token, t.kind ≠ .endOfInput := by
  intro t ht
  obtain ⟨budget, -, hmade, hreaches, -⟩ := exists_made_of_mem_preorder hr
  rw [hmade.outcome] at ht
  obtain ⟨pattern, hpattern, hfits⟩ := accepts_of_mem_token hmade.recorded ht
  rw [((Pattern.accepts_iff pattern t).mp hfits).1]
  exact (Rule.sentinelFree_iff.mp (hreaches.sentinelFree hg hrule)).1 pattern
    hpattern

end Evaluation

namespace Record

variable {move : Nat → Nat} {change change' : Token → Token}

mutual

/-- A change of tokens matters only for the tokens that are kept. -/
theorem map_congr : ∀ r : Record,
    (∀ r' ∈ r.preorder, ∀ t ∈ r'.token, change t = change' t) →
    r.map move change = r.map move change'
  | ⟨rule, start, stop, matched, token, children, flag⟩, h => by
    rw [preorder, List.forall_mem_cons] at h
    obtain ⟨hroot, hchildren⟩ := h
    have htoken : token.map change = token.map change' :=
      Option.map_congr hroot
    rw [map, map, htoken, mapAll_congr children hchildren]

theorem mapAll_congr : ∀ rs : List Record,
    (∀ r' ∈ preorderAll rs, ∀ t ∈ r'.token, change t = change' t) →
    mapAll move change rs = mapAll move change' rs
  | [], _ => rfl
  | r :: rs, h => by
    rw [preorderAll, List.forall_mem_append] at h
    rw [mapAll, mapAll, map_congr r h.1, mapAll_congr rs h.2]

end

/-- The same record `distance` positions further on. -/
def shift (distance : Nat) (r : Record) : Record :=
  r.map (distance + ·) id

end Record

theorem Cursor.scanned_eq {tokens : List Token} {i p : Nat}
    (h : i + p ≤ tokens.length) :
    (Cursor.mk tokens i).scanned p = ⟨tokens, i + p⟩ := by
  induction p generalizing i with
  | zero => rfl
  | succ p ih =>
    have hnext : Buffer.next tokens i = i + 1 := if_pos (by omega)
    show (Cursor.mk tokens (Buffer.next tokens i)).scanned p = _
    rw [hnext, ih (by omega), Nat.add_right_comm]
    rfl

namespace Matcher

/-- **Evaluation is local**: a cursor that has read some tokens leads to the
record that a new cursor over the remaining tokens leads to, with every position
moved by as many. If no token remains, the grammar and the rule must not ask for
the sentinel, of which only the first cursor knows where it stands. -/
theorem evaluate_scanned (m : Matcher) {rule : Rule} {tokens : List Token}
    {p : Nat} (hp : p ≤ tokens.length)
    (h : m.grammar.SentinelFree ∧ rule.SentinelFree ∨ p < tokens.length) :
    m.evaluate rule ((Cursor.ofTokens tokens).scanned p) =
      (m.evaluate rule (.ofTokens (tokens.drop p))).shift p := by
  have hscanned : (Cursor.ofTokens tokens).scanned p = ⟨tokens, p⟩ := by
    rw [Cursor.ofTokens, Cursor.scanned_eq (by omega), Nat.zero_add]
  rw [hscanned]
  have hcarried : m.evaluate rule ⟨tokens, p⟩ =
      (m.evaluate rule (.ofTokens (tokens.drop p))).map (p + ·)
        (Buffer.restoreEnd tokens p) :=
    Evaluation.carries_drop m.grammar tokens p m.budget rule 0
  rw [hcarried, Record.shift]
  rcases h with ⟨hg, hrule⟩ | hlt
  · apply Record.map_congr
    intro r hr t ht
    exact Buffer.restoreEnd_of_kind_ne
      (Evaluation.kind_ne_endOfInput_of_mem_preorder hg hrule hr t ht) tokens p
  · rw [Buffer.restoreEnd_of_lt hlt]

/-- Digits are read from the middle of the buffer on, and then an identifier is
asked for where no token is left. -/
theorem evaluate_scanned_at_digits :
    let m := Matcher.selector 8
    let rule := Rule.sequence .blank [.optional .digits, .identifier]
    let tokens := lex "a 1"
    let root := m.evaluate rule ((Cursor.ofTokens tokens).scanned 1)
    1 ≤ tokens.length ∧ m.grammar.SentinelFree ∧ rule.SentinelFree ∧
    root.preorder.map (fun r => (r.matched, r.start, r.stop)) =
      [(false, 1, 2), (true, 1, 2), (true, 1, 2), (false, 2, 2)] ∧
    root = (m.evaluate rule (.ofTokens (tokens.drop 1))).shift 1 := by
  intro m rule tokens root
  have hp : 1 ≤ tokens.length := by decide
  have hg : m.grammar.SentinelFree := by decide
  have hrule : rule.SentinelFree := by decide
  exact ⟨hp, hg, hrule, by decide, evaluate_scanned m hp (.inl ⟨hg, hrule⟩)⟩

end Matcher

end SceneSelector
