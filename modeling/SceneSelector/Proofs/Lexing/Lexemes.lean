import SceneSelector.Proofs.Lexing

/-!
# Classes of lexemes

Which texts are lexemes is said by one class of texts for each kind: `Belongs`.
The lexer does not compare classes. It looks at one character and then takes as
much as the class of that character allows, and this is the longest text of any
class that the rest of the input begins with (`longest_lexeme`). Only where no
class has a text to offer it takes something else: a single character, or a
quote with all that could have stood in a string (`Broken`).
-/

namespace SceneSelector.Lexer

/-! ## The classes -/

/-- The texts that a token of a kind may come from. -/
inductive Belongs : Kind → List Char → Prop where
  | symbol {kind : Kind} {c : Char} (symbol : Kind.ofSymbol? c = some kind) :
      Belongs kind [c]
  | identifier {c : Char} {cs : List Char}
      (start : Identifier.isStart c = true)
      (rest : ∀ c' ∈ cs, Identifier.isRest c' = true) :
      Belongs .identifier (c :: cs)
  | digits {c : Char} {cs : List Char} (start : c.isDigit = true)
      (rest : ∀ c' ∈ cs, c'.isDigit = true) : Belongs .digits (c :: cs)
  | string {quote : Char} {body : List Char} (quotes : isQuote quote = true)
      (inside : Inside quote body) :
      Belongs .string (quote :: body ++ [quote])

/-- No text is unknown or the end of input by its class. -/
theorem Belongs.isLexed {kind : Kind} {cs : List Char} (h : Belongs kind cs) :
    kind ≠ .unknown ∧ kind ≠ .endOfInput := by
  cases h with
  | symbol symbol =>
    have hkind := Kind.isPunctuation_of_ofSymbol? symbol
    constructor <;> rintro rfl <;> cases hkind
  | _ => decide

theorem isQuote_iff {c : Char} : isQuote c = true ↔ c = '"' ∨ c = '\'' := by
  simp [isQuote]

/-! ## Strings -/

/-- Where the inside of a string cannot go on, although no quote has closed
it. -/
inductive Stuck : List Char → Prop where
  | nil : Stuck []
  | backslash : Stuck ['\\']
  | lineFeed {cs : List Char} : Stuck ('\\' :: '\n' :: cs)

/-- What follows the inside of a string that is closed or not. -/
inductive StringEnd (quote : Char) : Bool → List Char → Prop where
  | closed {cs : List Char} : StringEnd quote true (quote :: cs)
  | stuck {cs : List Char} (stuck : Stuck cs) : StringEnd quote false cs

/-- The inside of a string is read up to its closing quote, or to where it is
stuck. -/
theorem stringBody_spec (quote : Char) (text : List Char) :
    ∃ after, text = (stringBody quote text).1 ++ after ∧
      Inside quote (stringBody quote text).1 ∧
      StringEnd quote (stringBody quote text).2 after := by
  induction text using stringBody.induct quote with
  | case1 => exact ⟨[], rfl, .nil, .stuck .nil⟩
  | case2 => exact ⟨['\\'], rfl, .nil, .stuck .backslash⟩
  | case3 cs =>
    refine ⟨'\\' :: '\n' :: cs, ?_⟩
    simp only [stringBody, if_true, List.nil_append, true_and]
    exact ⟨.nil, .stuck .lineFeed⟩
  | case4 c cs hc body closed hbody ih =>
    obtain ⟨after, htext, hinside, hend⟩ := ih
    rw [stringBody_backslash hc]
    exact ⟨after, by rw [List.cons_append, List.cons_append, ← htext],
      .escaped hc hinside, hend⟩
  | case5 cs hlast hmore =>
    have hbackslash : quote ≠ '\\' := by
      intro h
      cases cs with
      | nil => exact hlast h rfl
      | cons c cs => exact hmore c cs h rfl
    rw [stringBody_quote hbackslash]
    exact ⟨quote :: cs, rfl, .nil, .closed⟩
  | case6 c cs hlast hmore hquote body closed hbody ih =>
    have hbackslash : c ≠ '\\' := by
      intro h
      cases cs with
      | nil => exact hlast h rfl
      | cons c cs => exact hmore c cs h rfl
    obtain ⟨after, htext, hinside, hend⟩ := ih
    rw [stringBody_plain hquote hbackslash]
    exact ⟨after, by rw [List.cons_append, ← htext],
      .plain hquote hbackslash hinside, hend⟩

/-! ## One lexeme -/

theorem lexeme_quote {c : Char} (h : isQuote c = true) (rest : List Char) :
    lexeme c rest = stringLexeme c rest := by
  rcases isQuote_iff.mp h with rfl | rfl <;> rfl

/-- **No class has more to offer**: a text of a class at the front of the input
is of the class that the lexer decides for, and no longer than what it takes. -/
theorem lexeme_of_belongs {kind : Kind} {c : Char} {cs rest after : List Char}
    (h : Belongs kind cs) (htext : c :: rest = cs ++ after) :
    (lexeme c rest).kind = kind ∧ cs <+: (lexeme c rest).spelling := by
  cases h with
  | symbol symbol =>
    simp only [List.cons_append, List.cons.injEq] at htext
    obtain ⟨rfl, rfl⟩ := htext
    rw [lexeme_symbol symbol]
    exact ⟨rfl, _, rfl⟩
  | identifier start all =>
    simp only [List.cons_append, List.cons.injEq] at htext
    obtain ⟨rfl, rfl⟩ := htext
    rw [lexeme_identifier start, List.takeWhile_append_of_pos all]
    exact ⟨rfl, _, rfl⟩
  | digits start all =>
    simp only [List.cons_append, List.cons.injEq] at htext
    obtain ⟨rfl, rfl⟩ := htext
    rw [lexeme_digits start, List.takeWhile_append_of_pos all]
    exact ⟨rfl, _, rfl⟩
  | string quotes inside =>
    simp only [List.cons_append, List.cons.injEq] at htext
    obtain ⟨rfl, rfl⟩ := htext
    have hbackslash : c ≠ '\\' := by
      rintro rfl
      exact absurd quotes (by decide)
    rw [lexeme_quote quotes, stringLexeme, List.append_assoc,
      List.singleton_append, stringBody_of_inside hbackslash inside]
    exact ⟨rfl, _, List.append_nil _⟩

/-- A text of a class that an input begins with, when there is no other text of
any class there that is as long. -/
structure Longest (input : List Char) (kind : Kind) (cs : List Char) : Prop where
  belongs : Belongs kind cs
  at_front : cs <+: input
  others_shorter : ∀ (kind' : Kind) (cs' : List Char), Belongs kind' cs' →
    cs' <+: input → cs'.length < cs.length ∨ kind' = kind ∧ cs' = cs

/-- What is taken of an input that begins with no text of any class, and what is
left of it. -/
inductive Broken : List Char → List Char → Prop where
  | single {c : Char} {after : List Char} (no_quote : isQuote c = false) :
      Broken [c] after
  | unclosed {quote : Char} {body after : List Char}
      (quotes : isQuote quote = true) (inside : Inside quote body)
      (stuck : Stuck after) : Broken (quote :: body) after

/-- The lexeme is the one that the classes call for where `after` follows it. -/
structure Lexeme.Fits (l : Lexeme) (after : List Char) : Prop where
  kind_ne_endOfInput : l.kind ≠ .endOfInput
  longest : l.kind ≠ .unknown → Longest (l.spelling ++ after) l.kind l.spelling
  unknown : l.kind = .unknown →
    (∀ kind cs, Belongs kind cs → ¬ cs <+: l.spelling ++ after) ∧
      Broken l.spelling after
  literal : l.kind ≠ .string → l.literal = l.spelling
  string : l.kind = .string → ∃ quote body,
    isQuote quote = true ∧ Inside quote body ∧
      l.spelling = quote :: body ++ [quote] ∧ l.literal = Quoted.unescape body

/-- The three ways of taking a lexeme. -/
inductive Lexeme.Taken : Lexeme → List Char → Prop where
  | plain {kind : Kind} {cs after : List Char} (belongs : Belongs kind cs)
      (ne_string : kind ≠ .string) : Taken (.plain kind cs) after
  | string {quote : Char} {body after : List Char}
      (quotes : isQuote quote = true) (inside : Inside quote body) :
      Taken ⟨.string, quote :: body ++ [quote], Quoted.unescape body⟩ after
  | broken {cs after : List Char} (broken : Broken cs after) :
      Taken (.plain .unknown cs) after

theorem lexeme_taken (c : Char) (rest : List Char) :
    ∃ cs after, (lexeme c rest).spelling = c :: cs ∧ rest = cs ++ after ∧
      (lexeme c rest).Taken after := by
  cases hsymbol : Kind.ofSymbol? c with
  | some kind =>
    rw [lexeme_symbol hsymbol]
    refine ⟨[], rest, rfl, rfl, .plain (.symbol hsymbol) ?_⟩
    rintro rfl
    cases Kind.isPunctuation_of_ofSymbol? hsymbol
  | none =>
  by_cases hstart : Identifier.isStart c = true
  · rw [lexeme_identifier hstart]
    exact ⟨_, _, rfl, List.takeWhile_append_dropWhile.symm,
      .plain (.identifier hstart (List.all_eq_true.mp List.all_takeWhile))
        (by decide)⟩
  by_cases hdigit : c.isDigit = true
  · rw [lexeme_digits hdigit]
    exact ⟨_, _, rfl, List.takeWhile_append_dropWhile.symm,
      .plain (.digits hdigit (List.all_eq_true.mp List.all_takeWhile))
        (by decide)⟩
  by_cases hquote : isQuote c = true
  · obtain ⟨after, hrest, hinside, hend⟩ := stringBody_spec c rest
    rw [lexeme_quote hquote, stringLexeme]
    generalize stringBody c rest = b at hrest hinside hend ⊢
    obtain ⟨body, closed⟩ := b
    cases hend with
    | @closed after =>
      refine ⟨body ++ [c], after, rfl, ?_, .string hquote hinside⟩
      rw [hrest, List.append_assoc, List.singleton_append]
    | stuck stuck =>
      exact ⟨body, after, rfl, hrest, .broken (.unclosed hquote hinside stuck)⟩
  · rw [Bool.not_eq_true] at hstart hdigit hquote
    rw [lexeme_unknown hsymbol hstart hdigit hquote]
    exact ⟨[], rest, rfl, rfl, .broken (.single hquote)⟩

theorem longest_lexeme {c : Char} {rest : List Char}
    (h : Belongs (lexeme c rest).kind (lexeme c rest).spelling)
    (hfront : (lexeme c rest).spelling <+: c :: rest) :
    Longest (c :: rest) (lexeme c rest).kind (lexeme c rest).spelling := by
  refine ⟨h, hfront, ?_⟩
  rintro kind cs hcs ⟨more, hmore⟩
  obtain ⟨hkind, hfront⟩ := lexeme_of_belongs hcs hmore.symm
  rcases Nat.lt_or_eq_of_le hfront.length_le with hlt | heq
  · exact .inl hlt
  · exact .inr ⟨hkind.symm, hfront.eq_of_length heq⟩

/-- **The lexer takes the lexeme that the classes call for.** -/
theorem lexeme_fits (c : Char) (rest : List Char) :
    ∃ cs after, (lexeme c rest).spelling = c :: cs ∧ rest = cs ++ after ∧
      (lexeme c rest).Fits after := by
  obtain ⟨cs, after, hspelling, hrest, htaken⟩ := lexeme_taken c rest
  refine ⟨cs, after, hspelling, hrest, ?_⟩
  have htext : c :: rest = (lexeme c rest).spelling ++ after := by
    rw [hspelling, hrest, List.cons_append]
  have hlongest := fun h => longest_lexeme (c := c) h ⟨after, htext.symm⟩
  have hothers (kind : Kind) (cs : List Char) (h : Belongs kind cs)
      (hfront : cs <+: c :: rest) : (lexeme c rest).kind = kind := by
    obtain ⟨more, hmore⟩ := hfront
    exact (lexeme_of_belongs h hmore.symm).1
  rw [htext] at hlongest hothers
  generalize lexeme c rest = l at htaken hlongest hothers ⊢
  cases htaken with
  | plain belongs ne_string =>
    exact {
      kind_ne_endOfInput := belongs.isLexed.2
      longest := fun _ => hlongest belongs
      unknown := fun hkind => absurd hkind belongs.isLexed.1
      literal := fun _ => rfl
      string := fun hkind => absurd hkind ne_string }
  | string quotes inside =>
    exact {
      kind_ne_endOfInput := nofun
      longest := fun _ => hlongest (.string quotes inside)
      unknown := nofun
      literal := fun hkind => absurd rfl hkind
      string := fun _ => ⟨_, _, quotes, inside, rfl, rfl⟩ }
  | broken broken =>
    have hnone (kind : Kind) (cs' : List Char) (h : Belongs kind cs') :
        ¬ cs' <+: _ :=
      fun hfront => h.isLexed.1 (hothers kind cs' h hfront).symm
    exact {
      kind_ne_endOfInput := nofun
      longest := fun hkind => absurd rfl hkind
      unknown := fun _ => ⟨hnone, broken⟩
      literal := fun _ => rfl
      string := nofun }

end SceneSelector.Lexer
