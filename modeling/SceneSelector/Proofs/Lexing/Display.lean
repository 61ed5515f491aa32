import SceneSelector.Proofs.Lexing.Coverage
import SceneSelector.Proofs.Transport

/-!
# Tokens printed one after the other

A token is displayed as it could stand in a text. With a blank between each two,
the displayed tokens of a text are read as the same tokens at other places
(`content_lex_displayAll`), and since places do not matter for parsing, the text
that they make stands for whatever the first text stood for.

A quote that no other quote closes is the one exception. It is a token of its
own where reading broke off, but in another text it may well be closed.
-/

namespace SceneSelector

namespace Token

/-- The token as it is to be found in a text. -/
def word (t : Token) : Word :=
  .exact t.kind t.literal

/-- The tokens as a text, with a blank between each two. -/
def displayAll (tokens : List Token) : String :=
  " ".intercalate (tokens.map display)

/-- The token is a quote that was not closed. -/
def isOpenQuote (t : Token) : Bool :=
  t.kind = .unknown && t.literal.toList.head?.any Lexer.isQuote

theorem display_eq_literal {t : Token} (hstring : t.kind ≠ .string)
    (hend : t.kind ≠ .endOfInput) : t.display = t.literal := by
  unfold display
  split
  · next h => exact absurd h hend
  · next h => exact absurd h hstring
  · rfl

end Token

/-- Tokens are spelled by the words of others if their contents are the same. -/
theorem Spells.content_eq {tokens tokens' : List Token}
    (h : Spells (tokens.map Token.word) tokens' []) :
    tokens'.map Token.content = tokens.map Token.content := by
  induction tokens generalizing tokens' with
  | nil =>
    rw [Spells.nil_iff.mp h]
  | cons t tokens ih =>
    cases h with
    | cons admits rest =>
      rw [List.map_cons, List.map_cons, ih rest]
      exact congrArg (· :: _) (Prod.ext admits.1 admits.2)

namespace Lexer

/-- A character that no class has a text for is a token of its own. -/
theorem lexeme_of_not_belongs {c : Char} {after : List Char}
    (hnone : ∀ kind cs, Belongs kind cs → ¬ cs <+: [c] ++ after)
    (hquote : isQuote c = false) (rest : List Char) :
    lexeme c rest = .plain .unknown [c] := by
  have hfront : [c] <+: [c] ++ after := List.prefix_append _ _
  apply lexeme_unknown ?_ ?_ ?_ hquote
  · rw [Option.eq_none_iff_forall_ne_some]
    exact fun kind h => hnone kind [c] (.symbol h) hfront
  · rw [Bool.eq_false_iff]
    exact fun h => hnone _ [c] (.identifier h nofun) hfront
  · rw [Bool.eq_false_iff]
    exact fun h => hnone _ [c] (.digits h nofun) hfront

/-- A text of any class but that of strings is read as itself. -/
theorem Belongs.prints {kind : Kind} {c : Char} {cs : List Char}
    (h : Belongs kind (c :: cs)) (hstring : kind ≠ .string)
    (hc : isBlank c = false) :
    Prints [.exact kind (String.ofList (c :: cs))] (String.ofList (c :: cs)) := by
  cases h with
  | symbol symbol =>
    exact (delimits_symbol String.toList_ofList symbol hc).prints
  | identifier start rest =>
    exact prints_identifier
      (isIdentifier_ofList start (List.all_eq_true.mpr rest))
  | digits start rest =>
    refine prints_digits ⟨?_, ?_⟩ <;> rw [String.toList_ofList]
    · exact List.cons_ne_nil _ _
    · exact List.forall_mem_cons.mpr ⟨start, rest⟩
  | string => exact absurd rfl hstring

/-- What a token is displayed as is read as that token. -/
theorem Lexeme.Fits.prints_display {l : Lexeme} {c : Char}
    {cs after : List Char} (h : l.Fits after) (hspelling : l.spelling = c :: cs)
    (hc : isBlank c = false) {offset : Nat}
    (hopen : (l.toToken offset).isOpenQuote = false) :
    Prints [(l.toToken offset).word] (l.toToken offset).display := by
  by_cases hstring : l.kind = .string
  · -- a string is quoted anew, whatever its own quotes and escapes were
    rw [Token.word, Token.display]
    simp only [toToken, hstring]
    exact (delimits_quote _).prints
  obtain ⟨kind, spelling, literal⟩ := l
  obtain rfl : spelling = c :: cs := hspelling
  obtain rfl : literal = c :: cs := h.literal hstring
  rw [Token.display_eq_literal hstring h.kind_ne_endOfInput]
  show Prints [.exact kind (String.ofList (c :: cs))] (String.ofList (c :: cs))
  by_cases hunknown : kind = .unknown
  · -- no class has a text for the character, so none has one before a blank
    subst hunknown
    obtain ⟨hnone, hbroken⟩ := h.unknown rfl
    cases hbroken with
    | single no_quote =>
      exact (delimits_single String.toList_ofList hc
        (lexeme_of_not_belongs hnone no_quote)).prints
    | unclosed quotes _ _ =>
      simp [Token.isOpenQuote, toToken, quotes] at hopen
  · exact (h.longest hunknown).belongs.prints hstring hc

theorem nil_intercalate {α : Type} (ls : List (List α)) :
    List.intercalate [] ls = ls.flatten := by
  induction ls with
  | nil => rfl
  | cons l ls ih =>
    cases ls with
    | nil => simp
    | cons l' ls =>
      rw [List.intercalate_cons_cons, ih, List.append_nil]
      rfl

theorem prints_displayAll {text : String}
    (h : ∀ t ∈ lex text, t.isOpenQuote = false) :
    Prints ((lex text).map Token.word) (Token.displayAll (lex text)) := by
  have hwords : (lex text).map Token.word =
      [].intercalate ((lex text).map fun t => [t.word]) := by
    rw [nil_intercalate, ← List.flatMap_def, List.map_eq_flatMap]
  rw [hwords]
  refine .intercalate delimits_blank (ends_symbol rfl (by decide)) ?_
  intro t ht
  have htiles := tiles_tokensFrom 0 text.toList
  rw [← lex_eq_tokensFrom] at htiles
  have hopen := h t ht
  obtain ⟨before, l, c, cs, after, -, rfl, hspelling, hc, hfits⟩ :=
    htiles.exists_of_mem t ht
  exact hfits.prints_display hspelling hc hopen

theorem content_lex_displayAll {text : String}
    (h : ∀ t ∈ lex text, t.isOpenQuote = false) :
    (lex (Token.displayAll (lex text))).map Token.content =
      (lex text).map Token.content :=
  (spells_lex (prints_displayAll h)).content_eq

end Lexer

namespace Matcher

/-- **Parsing depends on kinds and literals alone, and displayed tokens are as
good as the text.** Lists of tokens that differ in their spans only have the
same outcome. So have a text and its displayed tokens, whatever the grammar
and the limit, and they stand for the same query or are rejected for the same
reason. -/
theorem parse_displayAll (m : Matcher) :
    (∀ tokens tokens' : List Token,
      tokens.map Token.content = tokens'.map Token.content →
      (m.parseTokens tokens).Agrees (m.parseTokens tokens')) ∧
    ∀ text : String, (∀ t ∈ lex text, t.isOpenQuote = false) →
      (lex (Token.displayAll (lex text))).map Token.content =
        (lex text).map Token.content ∧
      (m.parse (Token.displayAll (lex text))).Agrees (m.parse text) ∧
      m.parseSelector (Token.displayAll (lex text)) = m.parseSelector text := by
  refine ⟨fun _ _ => m.agrees_of_content_eq, fun text h => ?_⟩
  have hcontent := Lexer.content_lex_displayAll h
  have hagrees : (m.parse (Token.displayAll (lex text))).Agrees (m.parse text) :=
    m.agrees_of_content_eq hcontent
  exact ⟨hcontent, hagrees, parseSelector_of_agrees hagrees⟩

/-- The string is displayed with other quotes and no escape, the tab as a blank.
What is left over behind the `*` is left over in both texts. -/
theorem parse_displayAll_at_escaped_quote :
    let m := selector 30
    let tokens : List Token := [⟨.star, "*", ⟨0, 1⟩⟩]
    let tokens' : List Token := [⟨.star, "*", ⟨7, 8⟩⟩]
    let text := "door.'it\\'s'\t>*$"
    tokens.map Token.content = tokens'.map Token.content ∧
    (m.parseTokens tokens).Agrees (m.parseTokens tokens') ∧
    (∀ t ∈ lex text, t.isOpenQuote = false) ∧
    Token.displayAll (lex text) = "door . \"it's\" > * $" ∧
    (lex (Token.displayAll (lex text))).map Token.content =
      (lex text).map Token.content ∧
    (m.parse (Token.displayAll (lex text))).Agrees (m.parse text) ∧
    m.parseSelector (Token.displayAll (lex text)) = m.parseSelector text := by
  intro m tokens tokens' text
  have hclosed : ∀ t ∈ lex text, t.isOpenQuote = false := by decide
  exact ⟨rfl, (parse_displayAll m).1 tokens tokens' rfl, hclosed, by decide,
    (parse_displayAll m).2 text hclosed⟩

end Matcher

end SceneSelector
