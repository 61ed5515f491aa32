import SceneSelector.Proofs.Spelling
import SceneSelector.Token.Lexer

/-!
# Lexing what was printed

`Prints ws s` says that a text is read as given words wherever it stands, as
long as no character follows that a name could go on with; `Delimits ws s`
says so without that condition. Both are proved piece by piece: for a symbol,
an identifier, digits and a quoted text, and for texts that are put together
from such pieces. The other way round, every token of a
text is what its kind says (`allows_of_mem_lex`).
-/

namespace SceneSelector

/-- The whole of a text is decimal digits, and there is one. -/
def IsDigits (text : String) : Prop :=
  text.toList ≠ [] ∧ ∀ c ∈ text.toList, c.isDigit = true

namespace Lexer

/-! ## One lexeme -/

/-- What belongs to a token already taken is passed over. -/
theorem tokensFrom_skip (cs rest : List Char) (offset : Nat) :
    tokensFrom cs.length offset (cs ++ rest) =
      tokensFrom 0 (offset + byteSize cs) rest := by
  induction cs generalizing offset with
  | nil => rfl
  | cons c cs ih =>
    rw [byteSize, ← Nat.add_assoc]
    exact ih (offset + c.utf8Size)

/-- A blank at the front of a text is left out. -/
theorem tokensFrom_blank {c : Char} (hc : isBlank c = true) (rest : List Char)
    (offset : Nat) :
    tokensFrom 0 offset (c :: rest) =
      tokensFrom 0 (offset + c.utf8Size) rest := by
  rw [tokensFrom, if_pos hc]

/-- A lexeme at the front of a text is its first token, and reading goes on
behind it. -/
theorem tokensFrom_lexeme {c : Char} {cs rest : List Char} {l : Lexeme}
    (hc : isBlank c = false) (hl : lexeme c (cs ++ rest) = l)
    (hspelling : l.spelling = c :: cs) (offset : Nat) :
    tokensFrom 0 offset (c :: cs ++ rest) =
      l.toToken offset ::
        tokensFrom 0 (offset + byteSize l.spelling) rest := by
  rw [List.cons_append, tokensFrom, hc, hl]
  simp only [Bool.false_eq_true, if_false, hspelling, List.length_cons,
    Nat.add_sub_cancel, tokensFrom_skip, byteSize, Nat.add_assoc]

/-- Reading from `text` gives tokens that spell the words, and reading then
goes on from `rest`. -/
def Lexes (ws : List Word) (text rest : List Char) : Prop :=
  ∀ offset, ∃ offset',
    Spells ws (tokensFrom 0 offset text) (tokensFrom 0 offset' rest)

theorem Lexes.trans {ws ws' : List Word} {text mid rest : List Char}
    (h : Lexes ws text mid) (h' : Lexes ws' mid rest) :
    Lexes (ws ++ ws') text rest := by
  intro offset
  obtain ⟨offset₁, h⟩ := h offset
  obtain ⟨offset₂, h'⟩ := h' offset₁
  exact ⟨offset₂, h.append h'⟩

theorem lexes_blank {c : Char} (hc : isBlank c = true) (rest : List Char) :
    Lexes [] (c :: rest) rest := by
  intro offset
  refine ⟨offset + c.utf8Size, ?_⟩
  rw [tokensFrom_blank hc]
  exact .nil

theorem lexes_lexeme {c : Char} (cs : List Char) {rest : List Char} {w : Word}
    {l : Lexeme} (hc : isBlank c = false) (hl : lexeme c (cs ++ rest) = l)
    (hspelling : l.spelling = c :: cs)
    (hadmits : ∀ offset, w.Admits (l.toToken offset)) :
    Lexes [w] (c :: cs ++ rest) rest := by
  intro offset
  refine ⟨offset + byteSize l.spelling, ?_⟩
  rw [tokensFrom_lexeme hc hl hspelling]
  exact .cons (hadmits offset) .nil

/-! ## The classes of characters exclude each other -/

theorem ofSymbol?_eq_none {p : Char → Bool} {c : Char} (hc : p c = true)
    (hp : (punctuation.any fun e => p e.1) = false) :
    Kind.ofSymbol? c = none := by
  rw [Kind.ofSymbol?, List.lookup_eq_none_iff]
  intro e he
  have hpe := List.any_eq_false.mp hp e he
  have hne : c ≠ e.1 := fun h => hpe (h ▸ hc)
  simpa using hne

theorem isBlank_eq_false {p : Char → Bool} {c : Char} (hc : p c = true)
    (hp : [' ', '\t', '\r', '\n', '\x0c'].any p = false) :
    isBlank c = false := by
  have hne : ∀ b ∈ [' ', '\t', '\r', '\n', '\x0c'], c ≠ b :=
    fun b hb h => List.any_eq_false.mp hp b hb (h ▸ hc)
  simpa [isBlank, and_assoc] using hne

theorem isStart_of_isDigit {c : Char} (h : c.isDigit = true) :
    Identifier.isStart c = false := by
  have hmax : c.val.toNat ≤ '9'.toNat := (Char.isDigit_iff_toNat.mp h).2
  have hnotUpper : ¬ 'A'.val ≤ c.val := by
    rw [UInt32.le_iff_toNat_le]
    exact Nat.not_le.mpr (Nat.lt_of_le_of_lt hmax (by decide))
  have hnotLower : ¬ 'a'.val ≤ c.val := by
    rw [UInt32.le_iff_toNat_le]
    exact Nat.not_le.mpr (Nat.lt_of_le_of_lt hmax (by decide))
  have hupper : c.isUpper = false := decide_eq_false fun h => hnotUpper h.1
  have hlower : c.isLower = false := by
    show (decide ('a'.val ≤ c.val) && decide (c.val ≤ 'z'.val)) = false
    rw [decide_eq_false hnotLower, Bool.false_and]
  have halpha : c.isAlpha = false := by
    show (c.isUpper || c.isLower) = false
    rw [hupper, hlower, Bool.or_self]
  have hne : c ≠ '_' := by
    rintro rfl
    exact absurd h (by decide)
  rw [Identifier.isStart, halpha, Bool.false_or, decide_eq_false hne]

theorem isRest_of_isDigit {c : Char} (h : c.isDigit = true) :
    Identifier.isRest c = true := by
  simp [Identifier.isRest, Char.isAlphanum, h]

/-! ## What the first character decides -/

theorem lexeme_symbol {kind : Kind} {c : Char}
    (h : Kind.ofSymbol? c = some kind) (rest : List Char) :
    lexeme c rest = .plain kind [c] := by
  rw [lexeme, h]

theorem lexeme_identifier {c : Char} (h : Identifier.isStart c = true)
    (rest : List Char) :
    lexeme c rest =
      .plain .identifier (c :: rest.takeWhile Identifier.isRest) := by
  rw [lexeme, ofSymbol?_eq_none h rfl]
  simp only [h, if_true]

theorem lexeme_digits {c : Char} (h : c.isDigit = true) (rest : List Char) :
    lexeme c rest = .plain .digits (c :: rest.takeWhile Char.isDigit) := by
  rw [lexeme, ofSymbol?_eq_none h rfl]
  simp only [isStart_of_isDigit h, Bool.false_eq_true, if_false, h, if_true]

theorem lexeme_unknown {c : Char} (hsymbol : Kind.ofSymbol? c = none)
    (hstart : Identifier.isStart c = false) (hdigit : c.isDigit = false)
    (hquote : isQuote c = false) (rest : List Char) :
    lexeme c rest = .plain .unknown [c] := by
  simp [lexeme, hsymbol, hstart, hdigit, hquote]

/-! ## Pieces of a text -/

/-- No name goes on with these characters. -/
def Ends (rest : List Char) : Prop :=
  ∀ c ∈ rest.head?, Identifier.isRest c = false

theorem Ends.nil : Ends [] := by
  intro c hc
  cases hc

theorem Ends.cons {c : Char} (hc : Identifier.isRest c = false)
    (rest : List Char) : Ends (c :: rest) := by
  intro c' hc'
  cases hc'
  exact hc

theorem Ends.append {cs rest : List Char} (h : Ends cs) (h' : Ends rest) :
    Ends (cs ++ rest) := by
  cases cs with
  | nil => exact h'
  | cons c cs => exact .cons (h c rfl) _

/-- No number goes on there either. -/
theorem Ends.not_isDigit {rest : List Char} (h : Ends rest) :
    ∀ c ∈ rest.head?, c.isDigit = false := by
  intro c hc
  rw [Bool.eq_false_iff]
  intro hdigit
  have hrest := h c hc
  rw [isRest_of_isDigit hdigit] at hrest
  cases hrest

/-- Characters are taken up to the end of `cs` at most if `rest` begins with one
that is not taken. -/
theorem takeWhile_append_of_head {p : Char → Bool} {rest : List Char}
    (hrest : ∀ c ∈ rest.head?, p c = false) (cs : List Char) :
    (cs ++ rest).takeWhile p = cs.takeWhile p := by
  induction cs with
  | nil =>
    cases rest with
    | nil => rfl
    | cons c rest => simp [hrest c rfl]
  | cons c cs ih =>
    rw [List.cons_append, List.takeWhile_cons, List.takeWhile_cons, ih]

theorem takeWhile_append_of_stop {p : Char → Bool} {cs rest : List Char}
    (hcs : ∀ c ∈ cs, p c = true) (hrest : ∀ c ∈ rest.head?, p c = false) :
    (cs ++ rest).takeWhile p = cs := by
  have hnone := takeWhile_append_of_head hrest []
  rw [List.nil_append, List.takeWhile_nil] at hnone
  rw [List.takeWhile_append_of_pos hcs, hnone, List.append_nil]

/-- A text is read as these words where no name goes on after it. -/
def Prints (ws : List Word) (s : String) : Prop :=
  ∀ rest, Ends rest → Lexes ws (s.toList ++ rest) rest

/-- A text is read as these words whatever follows. -/
def Delimits (ws : List Word) (s : String) : Prop :=
  ∀ rest, Lexes ws (s.toList ++ rest) rest

theorem Delimits.prints {ws : List Word} {s : String} (h : Delimits ws s) :
    Prints ws s :=
  fun rest _ => h rest

theorem Delimits.append {ws ws' : List Word} {s s' : String}
    (h : Delimits ws s) (h' : Prints ws' s') : Prints (ws ++ ws') (s ++ s') := by
  intro rest hrest
  rw [String.toList_append, List.append_assoc]
  exact (h _).trans (h' rest hrest)

theorem delimits_blank : Delimits [] " " :=
  fun rest => lexes_blank rfl rest

theorem Prints.empty : Prints [] "" :=
  fun _ _ offset => ⟨offset, .nil⟩

theorem Prints.append {ws ws' : List Word} {s s' : String}
    (h : Prints ws s) (h' : Prints ws' s') (hends : Ends s'.toList) :
    Prints (ws ++ ws') (s ++ s') := by
  intro rest hrest
  rw [String.toList_append, List.append_assoc]
  exact (h _ (hends.append hrest)).trans (h' rest hrest)

/-- Pieces of which none can be taken for the end of a name. -/
theorem Prints.join {α : Type} {words : α → List Word} {display : α → String}
    {l : List α} (h : ∀ a ∈ l, Prints (words a) (display a))
    (hends : ∀ a, Ends (display a).toList) :
    Prints (l.flatMap words) (String.join (l.map display)) ∧
      Ends (String.join (l.map display)).toList := by
  induction l with
  | nil => exact ⟨.empty, .nil⟩
  | cons a l ih =>
    obtain ⟨hl, hlends⟩ := ih fun a' ha' => h a' (List.mem_cons_of_mem _ ha')
    rw [List.flatMap_cons, List.map_cons, String.join_cons]
    refine ⟨(h a List.mem_cons_self).append hl hlends, ?_⟩
    rw [String.toList_append]
    exact (hends a).append hlends

theorem ends_symbol {symbol : String} {c : Char} (hsymbol : symbol.toList = [c])
    (hc : Identifier.isRest c = false) (s : String) :
    Ends (symbol ++ s).toList := by
  rw [String.toList_append, hsymbol]
  exact .cons hc _

/-- Pieces with a separator between them that no name goes on with. -/
theorem Prints.intercalate {α : Type} {words : α → List Word}
    {display : α → String} {between : List Word} {separator : String}
    (hbetween : Delimits between separator)
    (hends : ∀ s, Ends (separator ++ s).toList) {l : List α}
    (h : ∀ a ∈ l, Prints (words a) (display a)) :
    Prints (between.intercalate (l.map words))
      (separator.intercalate (l.map display)) := by
  induction l with
  | nil => exact .empty
  | cons a l ih =>
    obtain ⟨ha, hl⟩ := List.forall_mem_cons.mp h
    cases l with
    | nil =>
      simp only [List.map_cons, List.map_nil, List.intercalate_singleton,
        String.intercalate_singleton]
      exact ha
    | cons a' l =>
      simp only [List.map_cons, List.intercalate_cons_cons,
        String.intercalate_cons_cons, List.append_assoc, String.append_assoc]
      exact ha.append (hbetween.append (ih hl)) (hends _)

/-! ## The words as texts -/

/-- A character that is a lexeme of its own is read as such whatever follows. -/
theorem delimits_single {text : String} {c : Char} {kind : Kind}
    (htext : text.toList = [c]) (hc : isBlank c = false)
    (hlexeme : ∀ rest, lexeme c rest = .plain kind [c]) :
    Delimits [.exact kind text] text := by
  intro rest
  rw [htext]
  apply lexes_lexeme [] hc (hlexeme rest) rfl
  intro offset
  refine ⟨rfl, ?_⟩
  show String.ofList [c] = text
  rw [← htext, String.ofList_toList]

/-- A symbol is read as itself whatever follows. -/
theorem delimits_symbol {symbol : String} {c : Char} {kind : Kind}
    (hsymbol : symbol.toList = [c]) (hkind : Kind.ofSymbol? c = some kind)
    (hc : isBlank c = false) : Delimits [.exact kind symbol] symbol :=
  delimits_single hsymbol hc (lexeme_symbol hkind)

theorem prints_identifier {name : String}
    (h : Identifier.isIdentifier name = true) :
    Prints [.exact .identifier name] name := by
  intro rest hrest
  unfold Identifier.isIdentifier at h
  split at h
  · cases h
  next c cs hname =>
  obtain ⟨hstart, hall⟩ := Bool.and_eq_true_iff.mp h
  have hlexeme : lexeme c (cs ++ rest) = .plain .identifier (c :: cs) := by
    rw [lexeme_identifier hstart,
      takeWhile_append_of_stop (List.all_eq_true.mp hall) hrest]
  rw [hname]
  apply lexes_lexeme cs (isBlank_eq_false hstart rfl) hlexeme rfl
  intro offset
  refine ⟨rfl, ?_⟩
  show String.ofList (c :: cs) = name
  rw [← hname, String.ofList_toList]

theorem prints_digits {text : String} (h : IsDigits text) :
    Prints [.exact .digits text] text := by
  intro rest hrest
  obtain ⟨c, cs, htext⟩ := List.exists_cons_of_ne_nil h.1
  obtain ⟨hdigit, hall⟩ := List.forall_mem_cons.mp (htext ▸ h.2)
  have hlexeme : lexeme c (cs ++ rest) = .plain .digits (c :: cs) := by
    rw [lexeme_digits hdigit, takeWhile_append_of_stop hall hrest.not_isDigit]
  rw [htext]
  apply lexes_lexeme cs (isBlank_eq_false hdigit rfl) hlexeme rfl
  intro offset
  refine ⟨rfl, ?_⟩
  show String.ofList (c :: cs) = text
  rw [← htext, String.ofList_toList]

theorem stringBody_backslash {quote c : Char} (hc : c ≠ '\n')
    (text : List Char) :
    stringBody quote ('\\' :: c :: text) =
      ('\\' :: c :: (stringBody quote text).1, (stringBody quote text).2) := by
  simp [stringBody, hc]

theorem stringBody_plain {quote c : Char} (hquote : c ≠ quote)
    (hbackslash : c ≠ '\\') (text : List Char) :
    stringBody quote (c :: text) =
      (c :: (stringBody quote text).1, (stringBody quote text).2) := by
  cases text <;> simp [stringBody, hquote, hbackslash]

theorem stringBody_quote {quote : Char} (hquote : quote ≠ '\\')
    (text : List Char) : stringBody quote (quote :: text) = ([], true) := by
  cases text <;> simp [stringBody, hquote]

/-- What may stand between two `quote`s. The character after a backslash may be
the quote, but there must be one, and not a line feed. -/
inductive Inside (quote : Char) : List Char → Prop where
  | nil : Inside quote []
  | plain {c : Char} {cs : List Char} (ne_quote : c ≠ quote)
      (ne_backslash : c ≠ '\\') (more : Inside quote cs) : Inside quote (c :: cs)
  | escaped {c : Char} {cs : List Char} (ne_lineFeed : c ≠ '\n')
      (more : Inside quote cs) : Inside quote ('\\' :: c :: cs)

theorem stringBody_of_inside {quote : Char} {body : List Char}
    (hquote : quote ≠ '\\') (h : Inside quote body) (after : List Char) :
    stringBody quote (body ++ quote :: after) = (body, true) := by
  induction h with
  | nil => exact stringBody_quote hquote after
  | plain ne_quote ne_backslash _ ih =>
    rw [List.cons_append, stringBody_plain ne_quote ne_backslash, ih]
  | escaped ne_lineFeed _ ih =>
    rw [List.cons_append, List.cons_append, stringBody_backslash ne_lineFeed, ih]

theorem inside_escape (c : Char) {cs : List Char} (h : Inside '"' cs) :
    Inside '"' (Quoted.escape c ++ cs) := by
  unfold Quoted.escape
  split
  · exact .escaped (by decide) h
  next hquote =>
  split
  · exact .escaped (by decide) h
  next hbackslash =>
  split
  · exact .escaped (by decide) h
  split
  · exact .escaped (by decide) h
  · exact .plain hquote hbackslash h

/-- Every text can be written between quotes. -/
theorem inside_escaped (text : List Char) : Inside '"' (Quoted.escaped text) := by
  induction text with
  | nil => exact .nil
  | cons c text ih =>
    rw [Quoted.escaped, List.flatMap_cons]
    exact inside_escape c ih

/-- A quoted text is a lexeme of its own, with that text for a literal,
whatever follows. -/
theorem lexeme_quoted (text rest : List Char) :
    lexeme '"' ((Quoted.escaped text ++ ['"']) ++ rest) =
      ⟨.string, '"' :: (Quoted.escaped text ++ ['"']), text⟩ := by
  rw [List.append_assoc, List.singleton_append]
  show stringLexeme '"' (Quoted.escaped text ++ '"' :: rest) = _
  rw [stringLexeme, stringBody_of_inside (by decide) (inside_escaped _)]
  simp only [Quoted.unescape_escaped, List.cons_append]

theorem delimits_quote (text : String) :
    Delimits [.exact .string text] (Quoted.quote text) := by
  intro rest
  rw [Quoted.quote, String.toList_ofList, List.cons_append]
  apply lexes_lexeme (Quoted.escaped text.toList ++ ['"']) rfl
    (lexeme_quoted _ _) rfl
  intro offset
  exact ⟨rfl, String.ofList_toList⟩

/-- A name is bare if it is an identifier and in quotes if not. -/
theorem prints_name (name : String) :
    Prints [.name name] (displayName name) := by
  have hname {kind : Kind} (hkind : kind = .identifier ∨ kind = .string)
      {s : String} (h : Prints [.exact kind name] s) : Prints [.name name] s := by
    intro rest hrest offset
    obtain ⟨offset', h⟩ := h rest hrest offset
    refine ⟨offset', ?_⟩
    obtain ⟨t, hts, hk, hl⟩ := Spells.singleton_iff.mp h
    exact Spells.singleton_iff.mpr ⟨t, hts, hk ▸ hkind, hl⟩
  unfold displayName
  split
  · next h => exact hname (.inl rfl) (prints_identifier h)
  · exact hname (.inr rfl) (delimits_quote name).prints

theorem lex_eq_tokensFrom (s : String) : lex s = tokensFrom 0 0 s.toList := by
  simp [lex, tokenize, suffixAt?]

/-- The tokens of a printed text. -/
theorem spells_lex {ws : List Word} {s : String} (h : Prints ws s) :
    Spells ws (lex s) [] := by
  obtain ⟨offset, h⟩ := h [] .nil 0
  rw [List.append_nil] at h
  rw [lex_eq_tokensFrom]
  exact h

end Lexer

/-! ## What the kind of a token says of its literal -/

/-- The literal is what the kind calls for. -/
def Kind.Allows : Kind → String → Prop
  | identifier, literal => Identifier.isIdentifier literal = true
  | digits, literal => IsDigits literal
  | _, _ => True

theorem Kind.isPunctuation_of_ofSymbol? {c : Char} {kind : Kind}
    (h : Kind.ofSymbol? c = some kind) : kind.isPunctuation = true := by
  have hkinds : ∀ e ∈ punctuation, e.2.isPunctuation = true := by decide
  obtain ⟨before, after, heq, -⟩ := List.lookup_eq_some_iff.mp h
  exact hkinds (c, kind) (heq ▸ List.mem_append_right _ List.mem_cons_self)

theorem allows_of_ofSymbol? {c : Char} {kind : Kind}
    (h : Kind.ofSymbol? c = some kind) (literal : String) :
    kind.Allows literal := by
  have hkind := Kind.isPunctuation_of_ofSymbol? h
  cases kind with
  | identifier => cases hkind
  | digits => cases hkind
  | _ => trivial

namespace Lexer

theorem isIdentifier_ofList {c : Char} {cs : List Char}
    (hc : Identifier.isStart c = true) (hcs : cs.all Identifier.isRest = true) :
    Identifier.isIdentifier (String.ofList (c :: cs)) = true := by
  simp only [Identifier.isIdentifier, String.toList_ofList, hc, hcs,
    Bool.and_self]

theorem allows_lexeme (c : Char) (rest : List Char) :
    (lexeme c rest).kind.Allows (String.ofList (lexeme c rest).literal) := by
  unfold lexeme
  split
  · next kind h => exact allows_of_ofSymbol? h _
  split
  · next hstart =>
    exact isIdentifier_ofList hstart List.all_takeWhile
  split
  · next hdigit =>
    show IsDigits (String.ofList (c :: rest.takeWhile Char.isDigit))
    refine ⟨by simp, ?_⟩
    rw [String.toList_ofList]
    exact List.forall_mem_cons.mpr
      ⟨hdigit, List.all_eq_true.mp List.all_takeWhile⟩
  split
  · unfold stringLexeme
    split <;> trivial
  · trivial

/-- Every token of a text is what its kind says. -/
theorem allows_of_mem_lex {text : String} {t : Token} (h : t ∈ lex text) :
    t.kind.Allows t.literal := by
  have hfrom : ∀ (cs : List Char) (skip offset : Nat),
      ∀ t ∈ tokensFrom skip offset cs, t.kind.Allows t.literal := by
    intro cs
    induction cs with
    | nil =>
      intro skip offset t ht
      simp [tokensFrom] at ht
    | cons c cs ih =>
      intro skip offset t ht
      cases skip with
      | succ skip => exact ih _ _ t ht
      | zero =>
        rw [tokensFrom] at ht
        split at ht
        · exact ih _ _ t ht
        · rcases List.mem_cons.mp ht with rfl | ht
          · exact allows_lexeme c cs
          · exact ih _ _ t ht
  rw [lex_eq_tokensFrom] at h
  exact hfrom _ _ _ t h

end Lexer

end SceneSelector
