import SceneSelector.Proofs.Lexing.Lexemes

/-!
# The lexer covers its input

A text consists of blanks and of the spellings of its tokens, and of nothing
else. `Tiles` says so piece by piece, in the order in which a text is read; what
is to be known of spans, of gaps and of single tokens follows from it by one
induction each. `Covers` puts all of that in terms of bytes of the whole text,
and holds from wherever reading starts (`tokenize_covers`).
-/

namespace SceneSelector

theorem byteSize_append (cs cs' : List Char) :
    byteSize (cs ++ cs') = byteSize cs + byteSize cs' := by
  induction cs with
  | nil => simp [byteSize]
  | cons c cs ih => simp only [List.cons_append, byteSize, ih, Nat.add_assoc]

/-- The size of a text is counted in bytes. -/
theorem utf8ByteSize_eq_byteSize (text : String) :
    text.utf8ByteSize = byteSize text.toList := by
  have hofList (cs : List Char) : (String.ofList cs).utf8ByteSize = byteSize cs := by
    induction cs with
    | nil => rfl
    | cons c cs ih =>
      rw [String.ofList_cons, String.utf8ByteSize_append,
        String.utf8ByteSize_singleton, ih, byteSize]
  rw [← hofList, String.ofList_toList]

/-- A byte at which a character of the text begins, or the text ends. -/
def IsBoundary (text : String) (offset : Nat) : Prop :=
  ∃ before after, text.toList = before ++ after ∧ byteSize before = offset

namespace Lexer

theorem suffixAt?_append (before after : List Char) :
    suffixAt? (byteSize before) (before ++ after) = some after := by
  induction before with
  | nil => simp [byteSize, suffixAt?]
  | cons c before ih =>
    have hpos := c.utf8Size_pos
    obtain ⟨n, hn⟩ : ∃ n, byteSize (c :: before) = n + 1 :=
      ⟨byteSize (c :: before) - 1, by simp only [byteSize]; omega⟩
    have hrest : n + 1 - c.utf8Size = byteSize before := by
      rw [← hn, byteSize, Nat.add_sub_cancel_left]
    have hle : c.utf8Size ≤ n + 1 := by
      rw [← hn, byteSize]
      exact Nat.le_add_right _ _
    rw [hn, List.cons_append, suffixAt?, if_pos hle, hrest, ih]

/-! ## Reading -/

/-- A text is read by blanks and by lexemes that fit, and each time the rest of
it is left to be read. -/
@[elab_as_elim]
theorem reading_induction {motive : Nat → List Char → Prop}
    (nil : ∀ offset, motive offset [])
    (blank : ∀ offset c rest, isBlank c = true →
      motive (offset + c.utf8Size) rest → motive offset (c :: rest))
    (lexeme : ∀ offset c cs after, isBlank c = false →
      (lexeme c (cs ++ after)).spelling = c :: cs →
      (lexeme c (cs ++ after)).Fits after →
      motive (offset + byteSize (c :: cs)) after →
      motive offset (c :: cs ++ after)) :
    ∀ offset text, motive offset text
  | offset, [] => nil offset
  | offset, c :: rest => by
    by_cases hc : isBlank c = true
    · exact blank offset c rest hc
        (reading_induction nil blank lexeme _ rest)
    · obtain ⟨cs, after, hspelling, hrest, hfits⟩ := lexeme_fits c rest
      have hshorter : after.length < rest.length + 1 := by
        rw [hrest, List.length_append]
        omega
      rw [hrest] at hspelling hfits ⊢
      exact lexeme offset c cs after (by simpa using hc) hspelling hfits
        (reading_induction nil blank lexeme _ after)
termination_by _ text => text.length

/-! ## Tilings -/

/-- A text that begins at byte `offset` consists of blanks and of the lexemes of
the tokens, in their order. -/
inductive Tiles : Nat → List Char → List Token → Prop where
  | nil {offset : Nat} : Tiles offset [] []
  | blank {offset : Nat} {c : Char} {rest : List Char} {ts : List Token}
      (is_blank : isBlank c = true) (more : Tiles (offset + c.utf8Size) rest ts) :
      Tiles offset (c :: rest) ts
  | lexeme {offset : Nat} {l : Lexeme} {c : Char} {cs after : List Char}
      {ts : List Token} (spelling : l.spelling = c :: cs)
      (no_blank : isBlank c = false) (fits : l.Fits after)
      (more : Tiles (offset + byteSize l.spelling) after ts) :
      Tiles offset (l.spelling ++ after) (l.toToken offset :: ts)

/-- Reading tiles what is read. -/
theorem tiles_tokensFrom (offset : Nat) (text : List Char) :
    Tiles offset text (tokensFrom 0 offset text) := by
  induction offset, text using reading_induction with
  | nil => exact .nil
  | blank offset c rest hc ih =>
    rw [tokensFrom_blank hc]
    exact .blank hc ih
  | lexeme offset c cs after hc hspelling hfits ih =>
    rw [← hspelling] at ih
    rw [tokensFrom_lexeme hc rfl hspelling, ← hspelling]
    exact .lexeme hspelling hc hfits ih

namespace Tiles

variable {offset : Nat} {text : List Char} {ts : List Token}

/-- The spans lie within the text, and none is empty. -/
theorem span_within (h : Tiles offset text ts) : ∀ t ∈ ts,
    offset ≤ t.span.start ∧ t.span.start < t.span.stop ∧
      t.span.stop ≤ offset + byteSize text := by
  induction h with
  | nil => simp
  | blank _ _ ih =>
    intro t ht
    have := ih t ht
    simp only [byteSize]
    omega
  | @lexeme offset l c cs after ts spelling _ _ _ ih =>
    rw [byteSize_append, List.forall_mem_cons]
    constructor
    · have hpos : 0 < byteSize l.spelling := by
        rw [spelling, byteSize]
        exact Nat.add_pos_left c.utf8Size_pos _
      simp only [Lexeme.toToken]
      omega
    · intro t ht
      have := ih t ht
      omega

/-- A span ends before the spans after it begin. -/
theorem pairwise (h : Tiles offset text ts) :
    ts.Pairwise fun t t' => t.span.stop ≤ t'.span.start := by
  induction h with
  | nil => exact .nil
  | blank _ _ ih => exact ih
  | lexeme _ _ _ more ih =>
    exact .cons (fun t ht => (more.span_within t ht).1) ih

/-- Every token is the lexeme that stands at its place. -/
theorem exists_of_mem (h : Tiles offset text ts) : ∀ t ∈ ts,
    ∃ (before : List Char) (l : Lexeme) (c : Char) (cs after : List Char),
      text = before ++ l.spelling ++ after ∧
      t = l.toToken (offset + byteSize before) ∧
      l.spelling = c :: cs ∧ isBlank c = false ∧ l.Fits after := by
  induction h with
  | nil => simp
  | @blank offset b rest ts _ _ ih =>
    intro t ht
    obtain ⟨before, l, c, cs, after, rfl, rfl, hlexeme⟩ := ih t ht
    exact ⟨b :: before, l, c, cs, after, rfl,
      by rw [byteSize, Nat.add_assoc], hlexeme⟩
  | @lexeme offset l c cs after ts spelling no_blank fits _ ih =>
    rw [List.forall_mem_cons]
    refine ⟨⟨[], l, c, cs, after, rfl, rfl, spelling, no_blank, fits⟩, ?_⟩
    intro t ht
    obtain ⟨before, l', c', cs', after', rfl, rfl, hlexeme⟩ := ih t ht
    exact ⟨l.spelling ++ before, l', c', cs', after',
      by simp only [List.append_assoc],
      by rw [byteSize_append, Nat.add_assoc], hlexeme⟩

theorem utf8Size_of_isBlank {c : Char} (h : isBlank c = true) :
    c.utf8Size = 1 := by
  simp only [isBlank, Bool.or_eq_true, decide_eq_true_eq] at h
  rcases h with (((rfl | rfl) | rfl) | rfl) | rfl <;> rfl

/-- A byte is part of a token, or it is a blank. -/
theorem mem_or_blank (h : Tiles offset text ts) : ∀ i, offset ≤ i →
    i < offset + byteSize text →
    (∃ t ∈ ts, t.span.start ≤ i ∧ i < t.span.stop) ∨
    ∃ before c after, text = before ++ c :: after ∧
      offset + byteSize before = i ∧ isBlank c = true := by
  induction h with
  | nil =>
    intro i hle hlt
    simp only [byteSize] at hlt
    omega
  | @blank offset b rest ts is_blank _ ih =>
    intro i hle hlt
    have hsize := utf8Size_of_isBlank is_blank
    rcases Nat.eq_or_lt_of_le hle with rfl | hbehind
    · exact .inr ⟨[], b, rest, rfl, rfl, is_blank⟩
    rcases ih i (by omega) (by simp only [byteSize] at hlt; omega) with
      htoken | ⟨before, c, after, rfl, hi, hc⟩
    · exact .inl htoken
    · exact .inr ⟨b :: before, c, after, rfl,
        by rw [byteSize, ← Nat.add_assoc, hi], hc⟩
  | @lexeme offset l c cs after ts _ _ _ _ ih =>
    intro i hle hlt
    rw [byteSize_append] at hlt
    by_cases hinside : i < offset + byteSize l.spelling
    · exact .inl ⟨_, List.mem_cons_self, hle, hinside⟩
    rcases ih i (by omega) (by omega) with
      ⟨t, ht, hspan⟩ | ⟨before, c', after', rfl, hi, hc⟩
    · exact .inl ⟨t, List.mem_cons_of_mem _ ht, hspan⟩
    · exact .inr ⟨l.spelling ++ before, c', after', by rw [List.append_assoc],
        by rw [byteSize_append, ← Nat.add_assoc, hi], hc⟩

end Tiles

end Lexer

/-! ## Coverage in bytes of the whole text -/

/-- The tokens are what the text from byte `start` on consists of, apart from
blanks. -/
structure Covers (text : String) (start : Nat) (ts : List Token) : Prop where
  start_le : ∀ t ∈ ts, start ≤ t.span.start
  start_lt_stop : ∀ t ∈ ts, t.span.start < t.span.stop
  stop_le : ∀ t ∈ ts, t.span.stop ≤ text.utf8ByteSize
  apart : ts.Pairwise fun t t' => t.span.stop ≤ t'.span.start
  /-- What no token spans are blanks. -/
  gaps : ∀ i, start ≤ i → i < text.utf8ByteSize →
    (∀ t ∈ ts, ¬ (t.span.start ≤ i ∧ i < t.span.stop)) →
    ∃ before c after, text.toList = before ++ c :: after ∧
      byteSize before = i ∧ Lexer.isBlank c = true
  /-- A span begins and ends where characters do, and its token is the lexeme
  that stands there. -/
  tokens : ∀ t ∈ ts, ∃ (before : List Char) (l : Lexer.Lexeme)
      (after : List Char),
    text.toList = before ++ l.spelling ++ after ∧
    t = l.toToken (byteSize before) ∧ l.Fits after

/-- **The lexer covers its input**, from every place where a character begins.
Nothing but blanks is left out, no byte belongs to two tokens, and each token is
the longest text of any class at its place, or broken if there is none. -/
theorem tokenize_covers {text : String} {start : Nat}
    (h : IsBoundary text start) : Covers text start (tokenize text start) := by
  obtain ⟨skipped, rest, htext, rfl⟩ := h
  have hread : tokenize text (byteSize skipped) =
      Lexer.tokensFrom 0 (byteSize skipped) rest := by
    rw [tokenize, htext, Lexer.suffixAt?_append]
  have hsize : text.utf8ByteSize = byteSize skipped + byteSize rest := by
    rw [utf8ByteSize_eq_byteSize, htext, byteSize_append]
  have htiles := Lexer.tiles_tokensFrom (byteSize skipped) rest
  rw [hread]
  refine {
    start_le := fun t ht => (htiles.span_within t ht).1
    start_lt_stop := fun t ht => (htiles.span_within t ht).2.1
    stop_le := fun t ht => hsize ▸ (htiles.span_within t ht).2.2
    apart := htiles.pairwise
    gaps := fun i hle hlt hnone => ?_
    tokens := fun t ht => ?_ }
  · rcases htiles.mem_or_blank i hle (hsize ▸ hlt) with
      ⟨t, ht, hspan⟩ | ⟨before, c, after, rfl, hi, hc⟩
    · exact absurd hspan (hnone t ht)
    · exact ⟨skipped ++ before, c, after, by rw [htext, List.append_assoc],
        by rw [byteSize_append, hi], hc⟩
  · obtain ⟨before, l, c, cs, after, rfl, rfl, -, -, hfits⟩ :=
      htiles.exists_of_mem t ht
    exact ⟨skipped ++ before, l, after,
      by rw [htext]; simp only [List.append_assoc],
      by rw [byteSize_append], hfits⟩

/-- Behind a character of two bytes there are a symbol, a string that holds an
escaped quote, and a quote that is never closed. -/
theorem tokenize_covers_at_broken_string :
    IsBoundary "é#'it\\'s' \"x\\" 2 ∧
    Covers "é#'it\\'s' \"x\\" 2 (tokenize "é#'it\\'s' \"x\\" 2) :=
  have h : IsBoundary "é#'it\\'s' \"x\\" 2 :=
    ⟨['é'], "#'it\\'s' \"x\\".toList, by decide, by decide⟩
  ⟨h, tokenize_covers h⟩

end SceneSelector
