import SceneSelector.Proofs.Lexing.Display
import SceneSelector.Proofs.Lexing.Resumption

/-!
# Blanks between texts

A lexeme looks no further ahead than the first character that it cannot take.
A blank is such a character for names and digits, symbols take no second
character, and a string that is closed does not look behind its last quote. So
a text is read up to a blank as if nothing followed it (`tokensFrom_append`),
and blanks separate any two texts (`lex_append_blanks`).

The one thing that reaches over blanks is a quote that has not been closed,
because a quote in what follows would close it.
-/

namespace SceneSelector

namespace Lexer

/-! ## What one lexeme looks at -/

/-- What follows a string that is closed does not matter. -/
theorem stringBody_append {quote : Char} (hquote : quote ≠ '\\')
    {text : List Char} (hclosed : (stringBody quote text).2 = true)
    (rest : List Char) :
    stringBody quote (text ++ rest) = stringBody quote text := by
  obtain ⟨after, htext, hinside, hend⟩ := stringBody_spec quote text
  generalize stringBody quote text = found at hclosed htext hinside hend ⊢
  obtain ⟨body, closed⟩ := found
  obtain rfl : closed = true := hclosed
  cases hend with
  | @closed after =>
    rw [htext, List.append_assoc, List.cons_append,
      stringBody_of_inside hquote hinside]

/-- An open quote is a string that is not closed. -/
theorem isOpenQuote_stringLexeme {quote : Char} (hquote : isQuote quote = true)
    (text : List Char) (offset : Nat) :
    ((stringLexeme quote text).toToken offset).isOpenQuote =
      !(stringBody quote text).2 := by
  rw [stringLexeme]
  generalize stringBody quote text = found
  obtain ⟨body, closed⟩ := found
  cases closed with
  | true => simp [Token.isOpenQuote, Lexeme.toToken]
  | false => simp [Token.isOpenQuote, Lexeme.toToken, Lexeme.plain, hquote]

/-- Unless it is an open quote, a lexeme at the front of a text stays what it is
if something follows the text that no name goes on with. -/
theorem lexeme_append {c : Char} {text rest : List Char} {offset : Nat}
    (hrest : Ends rest)
    (hopen : ((lexeme c text).toToken offset).isOpenQuote = false) :
    lexeme c (text ++ rest) = lexeme c text := by
  cases hsymbol : Kind.ofSymbol? c with
  | some kind => rw [lexeme_symbol hsymbol, lexeme_symbol hsymbol]
  | none =>
  by_cases hstart : Identifier.isStart c = true
  · rw [lexeme_identifier hstart, lexeme_identifier hstart,
      takeWhile_append_of_head hrest]
  by_cases hdigit : c.isDigit = true
  · rw [lexeme_digits hdigit, lexeme_digits hdigit,
      takeWhile_append_of_head hrest.not_isDigit]
  by_cases hquote : isQuote c = true
  · have hbackslash : c ≠ '\\' := by
      rintro rfl
      exact absurd hquote (by decide)
    rw [lexeme_quote hquote, isOpenQuote_stringLexeme hquote] at hopen
    have hclosed : (stringBody c text).2 = true := by simpa using hopen
    rw [lexeme_quote hquote, lexeme_quote hquote, stringLexeme, stringLexeme,
      stringBody_append hbackslash hclosed]
  · rw [Bool.not_eq_true] at hstart hdigit hquote
    rw [lexeme_unknown hsymbol hstart hdigit hquote,
      lexeme_unknown hsymbol hstart hdigit hquote]

/-! ## Texts in a row -/

/-- A text without an open quote is read up to its end as it would be read
alone, and the rest as if reading began there. -/
theorem tokensFrom_append (offset : Nat) (text : List Char) {rest : List Char}
    (hrest : Ends rest)
    (hopen : ∀ t ∈ tokensFrom 0 offset text, t.isOpenQuote = false) :
    tokensFrom 0 offset (text ++ rest) =
      tokensFrom 0 offset text ++
        tokensFrom 0 (offset + byteSize text) rest := by
  induction offset, text using reading_induction with
  | nil offset => rfl
  | blank offset c text hc ih =>
    rw [tokensFrom_blank hc] at hopen
    rw [List.cons_append, tokensFrom_blank hc, tokensFrom_blank hc, ih hopen,
      byteSize, Nat.add_assoc]
  | lexeme offset c cs after hc hspelling _ ih =>
    have hread := tokensFrom_lexeme hc rfl hspelling offset
    rw [hread, List.forall_mem_cons, hspelling] at hopen
    have hlexeme : lexeme c (cs ++ (after ++ rest)) = lexeme c (cs ++ after) := by
      rw [← List.append_assoc]
      exact lexeme_append hrest hopen.1
    rw [List.append_assoc, tokensFrom_lexeme hc hlexeme hspelling, hread,
      hspelling, ih hopen.2, byteSize_append, Nat.add_assoc, List.cons_append]

theorem tokensFrom_blanks {blanks : List Char}
    (h : ∀ c ∈ blanks, isBlank c = true) (rest : List Char) (offset : Nat) :
    tokensFrom 0 offset (blanks ++ rest) =
      tokensFrom 0 (offset + byteSize blanks) rest := by
  induction blanks generalizing offset with
  | nil => rfl
  | cons c blanks ih =>
    obtain ⟨hc, hblanks⟩ := List.forall_mem_cons.mp h
    rw [List.cons_append, tokensFrom_blank hc, ih hblanks, byteSize,
      Nat.add_assoc]

theorem ends_of_isBlank {c : Char} (hc : isBlank c = true) (rest : List Char) :
    Ends (c :: rest) := by
  refine .cons ?_ rest
  rw [Bool.eq_false_iff]
  intro hrest
  rw [isBlank_eq_false hrest rfl] at hc
  cases hc

end Lexer

/-- **Blanks separate.** Two texts with blanks between them have the tokens of
the first text and those of the second, which are further on by the bytes in
front of it. The first text must not have left a quote open. -/
theorem lex_append_blanks {a blanks : String} (hne : blanks ≠ "")
    (hblanks : ∀ c ∈ blanks.toList, Lexer.isBlank c = true)
    (hopen : ∀ t ∈ lex a, t.isOpenQuote = false) (b : String) :
    lex (a ++ blanks ++ b) =
      lex a ++
        (lex b).map (Token.shift (a.utf8ByteSize + blanks.utf8ByteSize)) := by
  have hends : Lexer.Ends (blanks.toList ++ b.toList) := by
    obtain ⟨c, cs, hcs⟩ :=
      List.exists_cons_of_ne_nil (mt String.toList_eq_nil_iff.mp hne)
    rw [hcs, List.forall_mem_cons] at hblanks
    rw [hcs, List.cons_append]
    exact Lexer.ends_of_isBlank hblanks.1 _
  rw [Lexer.lex_eq_tokensFrom] at hopen
  rw [Lexer.lex_eq_tokensFrom, Lexer.lex_eq_tokensFrom, Lexer.lex_eq_tokensFrom,
    String.toList_append, String.toList_append, List.append_assoc,
    Lexer.tokensFrom_append 0 a.toList hends hopen,
    Lexer.tokensFrom_blanks hblanks, utf8ByteSize_eq_byteSize,
    utf8ByteSize_eq_byteSize, ← Lexer.tokensFrom_add, Nat.add_assoc]

/-- The first text ends in a string with an escaped quote and in a backslash,
the second begins with what a name could go on with and leaves a quote open. -/
theorem lex_append_blanks_at_backslash :
    let a := "é'it\\'s'\\"
    let blanks := "\t\x0c\n"
    let b := "-x\""
    blanks ≠ "" ∧ (∀ c ∈ blanks.toList, Lexer.isBlank c = true) ∧
    (∀ t ∈ lex a, t.isOpenQuote = false) ∧
    lex (a ++ blanks ++ b) =
      lex a ++
        (lex b).map (Token.shift (a.utf8ByteSize + blanks.utf8ByteSize)) ∧
    (lex (a ++ blanks ++ b)).map Token.literal =
      ["é", "it's", "\\", "-", "x", "\""] := by
  intro a blanks b
  have hne : blanks ≠ "" := by decide
  have hblanks : ∀ c ∈ blanks.toList, Lexer.isBlank c = true := by
    simp [blanks, Lexer.isBlank]
  have hopen : ∀ t ∈ lex a, t.isOpenQuote = false := by decide
  exact ⟨hne, hblanks, hopen, lex_append_blanks hne hblanks hopen b, by decide⟩

/-- A quote that is left open takes the blank and is closed behind it. -/
example : lex "\"" = [⟨.unknown, "\"", ⟨0, 1⟩⟩] ∧
    lex ("\"" ++ " " ++ "\"") = [⟨.string, " ", ⟨0, 3⟩⟩] := by
  decide

end SceneSelector
