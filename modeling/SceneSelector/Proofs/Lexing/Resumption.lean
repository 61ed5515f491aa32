import SceneSelector.Proofs.Lexing.Coverage

/-!
# Reading on

The lexer remembers nothing of what it has read. From wherever a token has
ended, what it finds ahead depends on the rest of the text alone, and the place
where that rest stands does no more than move the spans (`tokensFrom_add`).

So whatever follows a quoted text is read as if it stood by itself
(`lex_quote_append`), and reading can be broken off behind any token and taken
up again, there or at any of the blanks that follow (`tokenize_resumed`).
-/

namespace SceneSelector

namespace Lexer

/-! ## Texts at other places -/

theorem Lexeme.toToken_add (l : Lexeme) (offset distance : Nat) :
    l.toToken (offset + distance) = (l.toToken offset).shift distance := by
  simp only [toToken, Token.shift, Nat.add_right_comm offset distance]

/-- Further on, a text has the same tokens, further on. -/
theorem tokensFrom_add (distance : Nat) (text : List Char) (skip offset : Nat) :
    tokensFrom skip (offset + distance) text =
      (tokensFrom skip offset text).map (Token.shift distance) := by
  induction text generalizing skip offset with
  | nil => rfl
  | cons c rest ih =>
    cases skip with
    | succ skip =>
      simp only [tokensFrom, Nat.add_right_comm offset distance, ih]
    | zero =>
      simp only [tokensFrom, Nat.add_right_comm offset distance, ih,
        Lexeme.toToken_add]
      split <;> rfl

end Lexer

/-- **Lexing undoes quoting in every context.** A quoted text is one token whose
literal is that text, and what follows is read as if nothing stood before it. -/
theorem lex_quote_append (text : String) :
    (∀ rest, lex (Quoted.quote text ++ rest) =
      ⟨.string, text, ⟨0, (Quoted.quote text).utf8ByteSize⟩⟩ ::
        (lex rest).map (Token.shift (Quoted.quote text).utf8ByteSize)) ∧
    lex (Quoted.quote text) =
      [⟨.string, text, ⟨0, (Quoted.quote text).utf8ByteSize⟩⟩] := by
  have happend (rest : String) : lex (Quoted.quote text ++ rest) =
      ⟨.string, text, ⟨0, (Quoted.quote text).utf8ByteSize⟩⟩ ::
        (lex rest).map (Token.shift (Quoted.quote text).utf8ByteSize) := by
    have hquote : (Quoted.quote text).toList =
        '"' :: (Quoted.escaped text.toList ++ ['"']) := String.toList_ofList
    rw [Lexer.lex_eq_tokensFrom, Lexer.lex_eq_tokensFrom,
      String.toList_append, utf8ByteSize_eq_byteSize, hquote,
      Lexer.tokensFrom_lexeme rfl (Lexer.lexeme_quoted _ _) rfl,
      Lexer.tokensFrom_add, Lexer.Lexeme.toToken, String.ofList_toList,
      Nat.zero_add]
  refine ⟨happend, ?_⟩
  have hempty := happend ""
  rw [String.append_empty] at hempty
  exact hempty

/-- Both quotes, a backslash at the end and a line feed. -/
example : lex (Quoted.quote "\"'\n\\" ++ "#x") =
    [⟨.string, "\"'\n\\", ⟨0, 9⟩⟩, ⟨.hash, "#", ⟨9, 10⟩⟩,
      ⟨.identifier, "x", ⟨10, 11⟩⟩] := by
  decide

namespace Lexer

/-! ## Reading from a later place -/

/-- Where the first token begins, or the text ends. -/
def firstStart (offset : Nat) (text : List Char) : Nat :=
  ((tokensFrom 0 offset text).head?.map (·.span.start)).getD
    (offset + byteSize text)

/-- The blanks in front of the first token do not matter. -/
theorem exists_rest_of_le_firstStart {offset p : Nat} {text : List Char}
    (hle : offset ≤ p) (hfirst : p ≤ firstStart offset text) :
    ∃ before rest, text = before ++ rest ∧ offset + byteSize before = p ∧
      tokensFrom 0 p rest = tokensFrom 0 offset text := by
  induction text generalizing offset with
  | nil =>
    obtain rfl : p = offset := by
      simp only [firstStart, tokensFrom, List.head?_nil, Option.map_none,
        Option.getD_none, byteSize] at hfirst
      omega
    exact ⟨[], [], rfl, rfl, rfl⟩
  | cons c text ih =>
    rcases Nat.eq_or_lt_of_le hle with rfl | hlt
    · exact ⟨[], c :: text, rfl, rfl, rfl⟩
    by_cases hc : isBlank c = true
    · have hskip := tokensFrom_blank hc text offset
      have hsize := Tiles.utf8Size_of_isBlank hc
      have hfirst' : p ≤ firstStart (offset + c.utf8Size) text := by
        simpa only [firstStart, hskip, byteSize, Nat.add_assoc] using hfirst
      obtain ⟨before, rest, rfl, rfl, hread⟩ := ih (by omega) hfirst'
      exact ⟨c :: before, rest, rfl, by rw [byteSize, Nat.add_assoc],
        by rw [hread, hskip]⟩
    · -- a token begins right here, so there is no place for `p`
      simp only [firstStart, tokensFrom, hc, Bool.false_eq_true, if_false,
        List.head?_cons, Option.map_some, Option.getD_some,
        Lexeme.toToken] at hfirst
      omega

/-- From between a token and the next one, the tokens after it are read. -/
theorem exists_rest_of_getElem? (offset : Nat) (text : List Char) :
    ∀ (i : Nat) (t : Token) (p : Nat),
      (tokensFrom 0 offset text)[i]? = some t → t.span.stop ≤ p →
      p ≤ ((tokensFrom 0 offset text)[i + 1]?.map (·.span.start)).getD
        (offset + byteSize text) →
      ∃ before rest, text = before ++ rest ∧ offset + byteSize before = p ∧
        tokensFrom 0 p rest = (tokensFrom 0 offset text).drop (i + 1) := by
  induction offset, text using reading_induction with
  | nil offset =>
    intro i t p hi
    cases hi
  | blank offset c rest hc ih =>
    intro i t p hi hstop hnext
    rw [tokensFrom_blank hc] at hi hnext ⊢
    obtain ⟨before, rest, rfl, rfl, hread⟩ := ih i t p hi hstop
      (by simpa only [byteSize, Nat.add_assoc] using hnext)
    exact ⟨c :: before, rest, rfl, by rw [byteSize, Nat.add_assoc], hread⟩
  | lexeme offset c cs after hc hspelling _ ih =>
    intro i t p hi hstop hnext
    rw [tokensFrom_lexeme hc rfl hspelling, hspelling] at hi hnext ⊢
    rw [byteSize_append, ← Nat.add_assoc, List.getElem?_cons_succ] at hnext
    rw [List.drop_succ_cons]
    cases i with
    | zero =>
      obtain rfl := Option.some.inj hi
      rw [Lexeme.toToken, hspelling] at hstop
      rw [← List.head?_eq_getElem?] at hnext
      obtain ⟨before, rest, rfl, rfl, hread⟩ :=
        exists_rest_of_le_firstStart hstop hnext
      exact ⟨c :: cs ++ before, rest, by rw [List.append_assoc],
        by rw [byteSize_append, Nat.add_assoc], hread⟩
    | succ i =>
      rw [List.getElem?_cons_succ] at hi
      obtain ⟨before, rest, rfl, rfl, hread⟩ := ih i t p hi hstop hnext
      exact ⟨c :: cs ++ before, rest, by rw [List.append_assoc],
        by rw [byteSize_append, Nat.add_assoc], hread⟩

theorem exists_of_suffixAt? {offset : Nat} {text rest : List Char}
    (h : suffixAt? offset text = some rest) :
    ∃ before, text = before ++ rest ∧ byteSize before = offset := by
  induction text generalizing offset with
  | nil =>
    cases offset with
    | zero =>
      cases h
      exact ⟨[], rfl, rfl⟩
    | succ offset => cases h
  | cons c text ih =>
    cases offset with
    | zero =>
      cases h
      exact ⟨[], rfl, rfl⟩
    | succ offset =>
      rw [suffixAt?] at h
      split at h
      · next hle =>
        obtain ⟨before, rfl, hsize⟩ := ih h
        exact ⟨c :: before, rfl, by rw [byteSize]; omega⟩
      · cases h

end Lexer

theorem IsBoundary.le {text : String} {offset : Nat}
    (h : IsBoundary text offset) : offset ≤ text.utf8ByteSize := by
  obtain ⟨before, after, htext, rfl⟩ := h
  rw [utf8ByteSize_eq_byteSize, htext, byteSize_append]
  exact Nat.le_add_right _ _

/-- **Reading can be resumed at any token boundary**: from the end of a token,
or from a place up to which only blanks follow it, the tokens after it are read,
with the spans that they had. From a place inside a character or past the end of
the text nothing is read. -/
theorem tokenize_resumed (text : String) :
    (∀ (i : Nat) (t : Token) (p : Nat), (lex text)[i]? = some t →
      t.span.stop ≤ p →
      p ≤ ((lex text)[i + 1]?.map (·.span.start)).getD text.utf8ByteSize →
      tokenize text p = (lex text).drop (i + 1)) ∧
    ∀ p, (¬ IsBoundary text p ∨ text.utf8ByteSize < p) →
      tokenize text p = [] := by
  constructor
  · intro i t p hi hstop hnext
    rw [Lexer.lex_eq_tokensFrom] at hi hnext ⊢
    rw [utf8ByteSize_eq_byteSize, ← Nat.zero_add (byteSize _)] at hnext
    obtain ⟨before, rest, htext, rfl, hread⟩ :=
      Lexer.exists_rest_of_getElem? 0 text.toList i t p hi hstop hnext
    rw [Nat.zero_add] at hread ⊢
    rw [tokenize, htext, Lexer.suffixAt?_append, ← htext]
    exact hread
  · intro p hp
    rw [tokenize]
    split
    · next rest hrest =>
      obtain ⟨before, htext, hsize⟩ := Lexer.exists_of_suffixAt? hrest
      have hboundary : IsBoundary text p := ⟨before, rest, htext, hsize⟩
      rcases hp with hp | hp
      · exact absurd hboundary hp
      · exact absurd hboundary.le (Nat.not_le.mpr hp)
    · rfl

/-- A quote that is never closed gives way to a backslash. Behind both of them
two blanks are left, and the reading may begin between these. -/
theorem tokenize_resumed_at_broken_string :
    let text := "'é\\\n  x"
    (lex text)[1]? = some ⟨.unknown, "\\", ⟨3, 4⟩⟩ ∧ 4 ≤ 6 ∧
    6 ≤ ((lex text)[2]?.map (·.span.start)).getD text.utf8ByteSize ∧
    tokenize text 6 = (lex text).drop 2 ∧
    (lex text).drop 2 = [⟨.identifier, "x", ⟨7, 8⟩⟩] ∧
    text.utf8ByteSize < 9 ∧ tokenize text 9 = [] := by
  intro text
  have hi : (lex text)[1]? = some ⟨.unknown, "\\", ⟨3, 4⟩⟩ := by decide
  have hnext :
      6 ≤ ((lex text)[2]?.map (·.span.start)).getD text.utf8ByteSize := by
    decide
  have hpast : text.utf8ByteSize < 9 := by decide
  exact ⟨hi, by decide, hnext,
    (tokenize_resumed text).1 1 _ 6 hi (by decide) hnext, by decide, hpast,
    (tokenize_resumed text).2 9 (.inr hpast)⟩

end SceneSelector
