import SceneSelector.Text.Identifier
import SceneSelector.Token

/-!
# The lexer

A text is read from left to right. Blanks separate; at every other character
the longest lexeme is taken. The first character decides which class that
lexeme is of, because no two classes share a first character: a symbol, an
identifier, digits, or a string in double or single quotes. What fits no
class becomes an `unknown` token of one character, and a quote whose string
does not close becomes an `unknown` token up to where reading broke off, so
that no part of a text is lost.

Positions count bytes of UTF-8. `tokensFrom` walks the text one character at
a time and remembers how many characters of the current lexeme are still to
be passed over, so it recurses on the text itself.
-/

namespace SceneSelector

/-- Bytes that a text takes. -/
def byteSize : List Char → Nat
  | [] => 0
  | c :: text => c.utf8Size + byteSize text

namespace Lexer

/-- What separates tokens. -/
def isBlank (c : Char) : Bool :=
  c = ' ' || c = '\t' || c = '\r' || c = '\n' || c = '\x0c'

/-- What a string literal begins and ends with. -/
def isQuote (c : Char) : Bool :=
  c = '"' || c = '\''

/-- The inside of a string that began with `quote`: as much of the text as
can belong to it, and whether the closing quote follows. A backslash takes
the next character with it, unless that is a line feed or there is none:
there the string is broken, before the backslash. -/
def stringBody (quote : Char) : List Char → List Char × Bool
  | [] => ([], false)
  | ['\\'] => ([], false)
  | '\\' :: c :: rest =>
    if c = '\n' then ([], false)
    else
      let (body, closed) := stringBody quote rest
      ('\\' :: c :: body, closed)
  | c :: rest =>
    if c = quote then ([], true)
    else
      let (body, closed) := stringBody quote rest
      (c :: body, closed)

/-- What stands at the front of a text: how it is spelled there, and the
token that it is. -/
structure Lexeme where
  kind : Kind
  spelling : List Char
  literal : List Char
deriving DecidableEq, Repr

/-- A lexeme whose literal is its spelling. -/
def Lexeme.plain (kind : Kind) (spelling : List Char) : Lexeme :=
  ⟨kind, spelling, spelling⟩

/-- The string lexeme that starts with `quote`. -/
def stringLexeme (quote : Char) (rest : List Char) : Lexeme :=
  match stringBody quote rest with
  | (body, true) => ⟨.string, quote :: body ++ [quote], Quoted.unescape body⟩
  | (body, false) => .plain .unknown (quote :: body)

/-- The lexeme at the front of the text `c :: rest`, where `c` is not a
blank. -/
def lexeme (c : Char) (rest : List Char) : Lexeme :=
  match Kind.ofSymbol? c with
  | some kind => .plain kind [c]
  | none =>
    if Identifier.isStart c then
      .plain .identifier (c :: rest.takeWhile Identifier.isRest)
    else if c.isDigit then
      .plain .digits (c :: rest.takeWhile Char.isDigit)
    else if isQuote c then stringLexeme c rest
    else .plain .unknown [c]

/-- A lexeme as the token at byte `offset`. -/
def Lexeme.toToken (l : Lexeme) (offset : Nat) : Token :=
  ⟨l.kind, String.ofList l.literal, ⟨offset, offset + byteSize l.spelling⟩⟩

/-- The tokens of a text that starts at byte `offset` and whose first `skip`
characters belong to a token already taken. -/
def tokensFrom (skip offset : Nat) : List Char → List Token
  | [] => []
  | c :: rest =>
    match skip with
    | skip + 1 => tokensFrom skip (offset + c.utf8Size) rest
    | 0 =>
      if isBlank c then tokensFrom 0 (offset + c.utf8Size) rest
      else
        -- the first character of the lexeme is passed over right here
        let l := lexeme c rest
        l.toToken offset ::
          tokensFrom (l.spelling.length - 1) (offset + c.utf8Size) rest

/-- What follows the first `offset` bytes of a text: nothing if the text is
shorter or if a character lies across that place. -/
def suffixAt? : Nat → List Char → Option (List Char)
  | 0, text => some text
  | _ + 1, [] => none
  | offset + 1, c :: rest =>
    if c.utf8Size ≤ offset + 1 then suffixAt? (offset + 1 - c.utf8Size) rest
    else none

end Lexer

/-- The tokens of a text from byte `start` on, with positions in the whole
text. A `start` past the end or inside a character yields none. -/
def tokenize (text : String) (start : Nat) : List Token :=
  match Lexer.suffixAt? start text.toList with
  | some rest => Lexer.tokensFrom 0 start rest
  | none => []

/-- The byte at which reading a text again would go on: its end. -/
def resumeAt (text : String) : Nat :=
  byteSize text.toList

/-- All tokens of a text. -/
def lex (text : String) : List Token :=
  tokenize text 0

end SceneSelector
