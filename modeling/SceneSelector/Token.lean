import SceneSelector.Text.Quoted

/-!
# Tokens

A token is a kind, its literal text and the bytes it came from. Grammars do
not hold tokens: they hold a `Pattern`, the kind that a token must have and,
for punctuation, its literal as well. `punctuation` is the table that both
the lexer and the grammar take their symbols from.
-/

namespace SceneSelector

/-- What sort of token it is. `unknown` is text that no rule of the lexer
recognises; `endOfInput` stands after the last token and is never lexed. -/
inductive Kind where
  | identifier
  | digits
  | string
  | star
  | hash
  | dot
  | colon
  | comma
  | equals
  | greater
  | openParen
  | closeParen
  | openBracket
  | closeBracket
  | unknown
  | endOfInput
deriving DecidableEq, Repr

namespace Kind

/-- The kind as listings of tokens show it. -/
def title : Kind → String
  | identifier => "Identifier"
  | digits => "Digits"
  | string => "String"
  | star => "Star"
  | hash => "Hash"
  | dot => "Dot"
  | colon => "Colon"
  | comma => "Comma"
  | equals => "Equals"
  | greater => "Greater"
  | openParen => "OpenParen"
  | closeParen => "CloseParen"
  | openBracket => "OpenBracket"
  | closeBracket => "CloseBracket"
  | unknown => "Unknown"
  | endOfInput => "EndOfInput"

/-- The kind as grammar notation shows it. -/
def label : Kind → String
  | identifier => "identifier"
  | digits => "digits"
  | string => "string"
  | star => "star"
  | hash => "hash"
  | dot => "dot"
  | colon => "colon"
  | comma => "comma"
  | equals => "equals"
  | greater => "greater"
  | openParen => "open-paren"
  | closeParen => "close-paren"
  | openBracket => "open-bracket"
  | closeBracket => "close-bracket"
  | unknown => "unknown"
  | endOfInput => "end-of-input"

/-- One of the reserved symbols of the language. -/
def isPunctuation : Kind → Bool
  | identifier | digits | string | unknown | endOfInput => false
  | _ => true

end Kind

/-- A stretch of bytes of a text, `stop` excluded. -/
structure Span where
  start : Nat
  stop : Nat
deriving DecidableEq, Repr

/-- The literal of a string token is the text it stands for, without quotes
and escapes; every other literal is the text of the span. -/
structure Token where
  kind : Kind
  literal : String
  span : Span
deriving DecidableEq, Repr

namespace Token

/-- What a cursor hands out once no token is left. -/
def endOfInput (offset : Nat) : Token :=
  ⟨.endOfInput, "", ⟨offset, offset⟩⟩

def isEndOfInput (t : Token) : Bool :=
  t.kind = .endOfInput

/-- The token as it could stand in a query: strings are quoted again. -/
def display (t : Token) : String :=
  match t.kind with
  | .endOfInput => "<end-of-input>"
  | .string => Quoted.quote t.literal
  | _ => t.literal

/-- The same token, `offset` bytes further on. -/
def shift (offset : Nat) (t : Token) : Token :=
  { t with span := ⟨t.span.start + offset, t.span.stop + offset⟩ }

end Token

/-- What a literal of a grammar asks of a token: a kind and, unless it is
`none`, the exact literal. -/
structure Pattern where
  kind : Kind
  literal : Option String
deriving DecidableEq, Repr

namespace Pattern

/-- Any token of a kind. -/
def ofKind (kind : Kind) : Pattern :=
  ⟨kind, none⟩

/-- A token of a kind that is spelled in one way only. -/
def exact (kind : Kind) (literal : String) : Pattern :=
  ⟨kind, some literal⟩

def accepts (p : Pattern) (t : Token) : Bool :=
  t.kind = p.kind && p.literal.all (· = t.literal)

def display (p : Pattern) : String :=
  match p.literal with
  | some literal => "'" ++ literal ++ "'"
  | none => "<" ++ p.kind.label ++ ">"

end Pattern

/-- The symbols of the language and the kind each of them has. -/
def punctuation : List (Char × Kind) :=
  [('[', .openBracket), (']', .closeBracket), ('=', .equals), (':', .colon),
   ('(', .openParen), (')', .closeParen), (',', .comma), ('#', .hash),
   ('.', .dot), ('>', .greater), ('*', .star)]

/-- The kind of a symbol, if it is one. -/
def Kind.ofSymbol? (c : Char) : Option Kind :=
  punctuation.lookup c

/-- The pattern of a reserved symbol, which accepts that symbol alone. -/
def Pattern.reserved? (symbol : String) : Option Pattern :=
  match symbol.toList with
  | [c] => (Kind.ofSymbol? c).map (exact · symbol)
  | _ => none

end SceneSelector
